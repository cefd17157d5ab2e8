import Mathlib.Tactic.Common
import Mathlib.Algebra.Order.Group.Nat
import Mathlib.Data.Nat.Find

/-!
Programs with a state and loops without bound.

A program is given `fuel`, and every loop in it makes at most so many rounds; with too
little it ends in the error `stuck`.  What the program itself does is then one of two
things: from some amount of fuel on it always has the same outcome (`EndsIn`), or it is
stuck whatever the fuel (`NeverEnds`).  The rules of this file follow the way a program is
put together: sequences, loops, and rounds over a list.
-/

namespace Mesaflash.Lib

variable {ε σ α β ν : Type}

/-- A program that changes a state and can fail. -/
abbrev Prog (ε σ α : Type) : Type := StateT σ (Except ε) α

/-- `while (1) body`, where the body says whether to go on or to break. -/
def loopM (stuck : ε) (body : ℕ → α → Prog ε σ (α ⊕ β)) : ℕ → α → Prog ε σ β
  | 0, _ => throw stuck
  | fuel + 1, a => do
    match ← body fuel a with
    | .inl a => loopM stuck body fuel a
    | .inr b => pure b

lemma prog_bind (p : Prog ε σ α) (q : α → Prog ε σ β) (s : σ) :
    (p >>= q) s = p s >>= fun x => q x.1 x.2 := rfl

section Outcomes

variable (stuck : ε)

/-- From some amount of fuel on the program has this outcome, and with less it is stuck. -/
def EndsIn (p : ℕ → Prog ε σ α) (s : σ) (r : Except ε (α × σ)) : Prop :=
  ∃ n, (∀ fuel, n ≤ fuel → p fuel s = r) ∧ ∀ fuel, fuel < n → p fuel s = .error stuck

/-- No amount of fuel is enough. -/
def NeverEnds (p : ℕ → Prog ε σ α) (s : σ) : Prop := ∀ fuel, p fuel s = .error stuck

variable {stuck} {p : ℕ → Prog ε σ α} {q : ℕ → α → Prog ε σ β} {s t : σ} {a : α} {e : ε}
  {r : Except ε (β × σ)}

/-- A program that ends never does anything else than end so, or be stuck. -/
lemma EndsIn.eq_or_stuck {r : Except ε (α × σ)} (h : EndsIn stuck p s r) (fuel : ℕ) :
    p fuel s = r ∨ p fuel s = .error stuck := by
  obtain ⟨n, hr, hstuck⟩ := h
  rcases le_or_gt n fuel with hn | hn
  · exact .inl (hr fuel hn)
  · exact .inr (hstuck fuel hn)

lemma EndsIn.exists_eq {r : Except ε (α × σ)} (h : EndsIn stuck p s r) :
    ∃ fuel, p fuel s = r := by
  obtain ⟨n, hr, -⟩ := h
  exact ⟨n, hr n le_rfl⟩

/-- A program has one outcome. -/
lemma EndsIn.unique {r r' : Except ε (α × σ)} (h : EndsIn stuck p s r)
    (h' : EndsIn stuck p s r') : r = r' := by
  obtain ⟨n, hr, -⟩ := h
  obtain ⟨m, hr', -⟩ := h'
  exact (hr (max n m) (le_max_left n m)).symm.trans (hr' (max n m) (le_max_right n m))

/-- A program without loops. -/
lemma endsIn_const (x : Prog ε σ α) (s : σ) : EndsIn stuck (fun _ => x) s (x s) :=
  ⟨0, fun _ _ => rfl, fun _ h => absurd h (Nat.not_lt_zero _)⟩

lemma EndsIn.congr {p' : ℕ → Prog ε σ α} {r : Except ε (α × σ)}
    (h : EndsIn stuck p s r) (hp : ∀ fuel, p' fuel s = p fuel s) : EndsIn stuck p' s r := by
  obtain ⟨n, hr, hstuck⟩ := h
  exact ⟨n, fun fuel hn => (hp fuel).trans (hr fuel hn),
    fun fuel hn => (hp fuel).trans (hstuck fuel hn)⟩

/-! ### Sequences -/

lemma EndsIn.bind (hp : EndsIn stuck p s (.ok (a, t))) (hq : EndsIn stuck (fun f => q f a) t r) :
    EndsIn stuck (fun f => p f >>= q f) s r := by
  obtain ⟨n, hn, hnstuck⟩ := hp
  obtain ⟨m, hm, hmstuck⟩ := hq
  refine ⟨max n m, fun fuel hfuel => ?_, fun fuel hfuel => ?_⟩
  · refine (prog_bind (p fuel) (q fuel) s).trans ?_
    rw [hn fuel (le_of_max_le_left hfuel)]
    exact hm fuel (le_of_max_le_right hfuel)
  · refine (prog_bind (p fuel) (q fuel) s).trans ?_
    rcases lt_or_ge fuel n with hlt | hge
    · rw [hnstuck fuel hlt]
      rfl
    · rw [hn fuel hge]
      exact hmstuck fuel ((lt_max_iff.mp hfuel).resolve_left (not_lt.mpr hge))

/-- A step without loops before a program. -/
lemma EndsIn.step {x : Prog ε σ α} (hx : x s = .ok (a, t))
    (hq : EndsIn stuck (fun f => q f a) t r) : EndsIn stuck (fun f => x >>= q f) s r :=
  EndsIn.bind (hx ▸ endsIn_const x s) hq

lemma EndsIn.bind_error (hp : EndsIn stuck p s (.error e)) :
    EndsIn stuck (fun f => p f >>= q f) s (.error e) := by
  obtain ⟨n, hn, hnstuck⟩ := hp
  refine ⟨n, fun fuel hfuel => ?_, fun fuel hfuel => ?_⟩
  · refine (prog_bind (p fuel) (q fuel) s).trans ?_
    rw [hn fuel hfuel]
    rfl
  · refine (prog_bind (p fuel) (q fuel) s).trans ?_
    rw [hnstuck fuel hfuel]
    rfl

lemma NeverEnds.bind (hp : NeverEnds stuck p s) : NeverEnds stuck (fun f => p f >>= q f) s := by
  intro fuel
  refine (prog_bind (p fuel) (q fuel) s).trans ?_
  rw [hp fuel]
  rfl

lemma EndsIn.bind_neverEnds (hp : EndsIn stuck p s (.ok (a, t)))
    (hq : NeverEnds stuck (fun f => q f a) t) : NeverEnds stuck (fun f => p f >>= q f) s := by
  intro fuel
  refine (prog_bind (p fuel) (q fuel) s).trans ?_
  rcases hp.eq_or_stuck fuel with h | h
  · rw [h]
    exact hq fuel
  · rw [h]
    rfl

/-! ### Loops -/

section Loop

variable {body : ℕ → α → Prog ε σ (α ⊕ β)}

lemma loopM_succ (fuel : ℕ) (a : α) (s : σ) :
    loopM stuck body (fuel + 1) a s = body fuel a s >>= fun x =>
      (Sum.elim (loopM stuck body fuel) (fun b => pure b) x.1) x.2 := by
  rw [loopM, prog_bind]
  cases body fuel a s with
  | error e => rfl
  | ok x =>
      obtain ⟨x, s'⟩ := x
      cases x <;> rfl

/-- One more round of fuel. -/
lemma EndsIn.of_succ {p : ℕ → Prog ε σ α} {r : Except ε (α × σ)}
    (h : EndsIn stuck (fun f => p (f + 1)) s r) (hzero : p 0 s = .error stuck) :
    EndsIn stuck p s r := by
  obtain ⟨n, hn, hstuck⟩ := h
  refine ⟨n + 1, fun fuel hfuel => ?_, fun fuel hfuel => ?_⟩
  · obtain ⟨k, rfl⟩ : ∃ k, fuel = k + 1 := ⟨fuel - 1, by omega⟩
    exact hn k (by omega)
  · cases fuel with
    | zero => exact hzero
    | succ k => exact hstuck k (by omega)

lemma loopM_break {b : β} (h : EndsIn stuck (fun f => body f a) s (.ok (.inr b, t))) :
    EndsIn stuck (fun f => loopM stuck body f a) s (.ok (b, t)) := by
  refine EndsIn.of_succ (p := fun f => loopM stuck body f a) ?_ rfl
  have hrest : EndsIn stuck (fun f => Sum.elim (loopM stuck body f) (fun b => pure b)
      (.inr b : α ⊕ β)) t (.ok (b, t)) := endsIn_const (pure b) t
  exact (h.bind hrest).congr fun fuel => loopM_succ fuel a s

lemma loopM_next {a' : α} (h : EndsIn stuck (fun f => body f a) s (.ok (.inl a', t)))
    (hrest : EndsIn stuck (fun f => loopM stuck body f a') t r) :
    EndsIn stuck (fun f => loopM stuck body f a) s r := by
  refine EndsIn.of_succ (p := fun f => loopM stuck body f a) ?_ rfl
  have hrest' : EndsIn stuck (fun f => Sum.elim (loopM stuck body f) (fun b => pure b)
      (.inl a' : α ⊕ β)) t r := hrest
  exact (h.bind hrest').congr fun fuel => loopM_succ fuel a s

lemma loopM_error (h : EndsIn stuck (fun f => body f a) s (.error e)) :
    EndsIn stuck (fun f => loopM stuck body f a) s (.error e) := by
  refine EndsIn.of_succ (p := fun f => loopM stuck body f a) ?_ rfl
  have hbind := h.bind_error (q := fun f x => Sum.elim (loopM stuck body f) (fun b => pure b) x)
  exact hbind.congr fun fuel => loopM_succ fuel a s

/-! A loop with values `x 0`, `x 1`, … and a property of the state at the start of each
round. -/

variable {x : ℕ → α} {I : ℕ → σ → Prop}

/-- From a round that is reached on, a loop does what it does from the start. -/
lemma loopM_reach {k : ℕ} (hnext : ∀ i < k, ∀ s, I i s → ∃ t, I (i + 1) t ∧
      EndsIn stuck (fun f => body f (x i)) s (.ok (.inl (x (i + 1)), t))) (hs : I 0 s) :
    ∃ t, I k t ∧ ∀ r, EndsIn stuck (fun f => loopM stuck body f (x k)) t r →
      EndsIn stuck (fun f => loopM stuck body f (x 0)) s r := by
  induction k with
  | zero => exact ⟨s, hs, fun r h => h⟩
  | succ k ih =>
      obtain ⟨t, ht, hreach⟩ := ih fun i hi => hnext i (Nat.lt_succ_of_lt hi)
      obtain ⟨t', ht', hround⟩ := hnext k (Nat.lt_succ_self k) t ht
      exact ⟨t', ht', fun r h => hreach r (loopM_next hround h)⟩

/-- A loop whose rounds all go on never ends. -/
lemma loopM_neverEnds (hnext : ∀ i s, I i s → ∃ t, I (i + 1) t ∧
      EndsIn stuck (fun f => body f (x i)) s (.ok (.inl (x (i + 1)), t))) (hs : I 0 s) :
    NeverEnds stuck (fun f => loopM stuck body f (x 0)) s := by
  have hall : ∀ fuel i s, I i s → loopM stuck body fuel (x i) s = .error stuck := by
    intro fuel
    induction fuel with
    | zero => exact fun _ _ _ => rfl
    | succ fuel ih =>
        intro i s hi
        obtain ⟨t, ht, hround⟩ := hnext i s hi
        rw [loopM_succ]
        rcases hround.eq_or_stuck fuel with h | h
        · rw [h]
          exact ih (i + 1) t ht
        · rw [h]
          rfl
  exact fun fuel => hall fuel 0 s hs

end Loop

/-! ### Walks -/

/-- What a program does from the states with `I`.  When its accesses are safe, it ends in a
state with `J` if it ends at all; when they are not, it ends in the error `bad`. -/
structure Walks (stuck bad : ε) (I : σ → Prop) (J : α → σ → Prop) (p : ℕ → Prog ε σ α)
    (safe ends : Prop) : Prop where
  ok : safe → ends → ∀ s, I s → ∃ a t, J a t ∧ EndsIn stuck p s (.ok (a, t))
  never : safe → ¬ ends → ∀ s, I s → NeverEnds stuck p s
  bad : ¬ safe → ∀ s, I s → EndsIn stuck p s (.error bad)

variable {bad : ε} {I : σ → Prop} {J : α → σ → Prop} {K : β → σ → Prop}
  {safe ends safe' ends' : Prop}

/-- **The error never occurs exactly when the program is safe.** -/
lemma Walks.ne_bad_iff (h : Walks stuck bad I J p safe ends) (hne : stuck ≠ bad) (hs : I s) :
    (∀ fuel, p fuel s ≠ .error bad) ↔ safe := by
  constructor
  · intro hall
    by_contra hsafe
    obtain ⟨fuel, hfuel⟩ := (h.bad hsafe s hs).exists_eq
    exact hall fuel hfuel
  · intro hsafe fuel hfuel
    have hstuck : p fuel s ≠ .error stuck := by
      intro hst
      exact hne (Except.error.inj (hst.symm.trans hfuel))
    by_cases hends : ends
    · obtain ⟨a, t, -, hend⟩ := h.ok hsafe hends s hs
      rcases hend.eq_or_stuck fuel with hok | hst
      · exact nomatch hok.symm.trans hfuel
      · exact hstuck hst
    · exact hstuck (h.never hsafe hends s hs fuel)

lemma Walks.iff (h : Walks stuck bad I J p safe ends) (hsafe : safe' ↔ safe)
    (hends : safe → (ends' ↔ ends)) : Walks stuck bad I J p safe' ends' where
  ok hs he := h.ok (hsafe.mp hs) ((hends (hsafe.mp hs)).mp he)
  never hs he := h.never (hsafe.mp hs) fun hends' => he ((hends (hsafe.mp hs)).mpr hends')
  bad hs := h.bad fun hs' => hs (hsafe.mpr hs')

lemma Walks.mono {I' : σ → Prop} {J' : α → σ → Prop} (h : Walks stuck bad I J p safe ends)
    (hI : ∀ s, I' s → I s) (hJ : ∀ a s, J a s → J' a s) : Walks stuck bad I' J' p safe ends where
  ok hs he s hi := by
    obtain ⟨a, t, ht, hend⟩ := h.ok hs he s (hI s hi)
    exact ⟨a, t, hJ a t ht, hend⟩
  never hs he s hi := h.never hs he s (hI s hi)
  bad hs s hi := h.bad hs s (hI s hi)

/-- A program that is the same in the states with `I`. -/
lemma Walks.congr {p' : ℕ → Prog ε σ α} (h : Walks stuck bad I J p safe ends)
    (hp : ∀ s, I s → ∀ fuel, p' fuel s = p fuel s) : Walks stuck bad I J p' safe ends where
  ok hs he s hi := by
    obtain ⟨a, t, ht, hend⟩ := h.ok hs he s hi
    exact ⟨a, t, ht, hend.congr (hp s hi)⟩
  never hs he s hi fuel := (hp s hi fuel).trans (h.never hs he s hi fuel)
  bad hs s hi := (h.bad hs s hi).congr (hp s hi)

/-- There are no states with `I`. -/
lemma Walks.of_false (h : ∀ s, ¬ I s) : Walks stuck bad I J p safe ends where
  ok _ _ s hi := absurd hi (h s)
  never _ _ s hi := absurd hi (h s)
  bad _ s hi := absurd hi (h s)

/-- A program that ends. -/
lemma Walks.of_endsIn (h : ∀ s, I s → ∃ a t, J a t ∧ EndsIn stuck p s (.ok (a, t))) :
    Walks stuck bad I J p True True where
  ok _ _ := h
  never _ hends := absurd trivial hends
  bad hsafe := absurd trivial hsafe

lemma Walks.pure {a : α} (h : ∀ s, I s → J a s) :
    Walks stuck bad I J (fun _ => Pure.pure a) True True :=
  .of_endsIn fun s hs => ⟨a, s, h s hs, endsIn_const (Pure.pure a) s⟩

/-- A program that is never safe. -/
lemma Walks.of_bad (hsafe : ¬ safe) (h : ∀ s, I s → EndsIn stuck p s (.error bad)) :
    Walks stuck bad I J p safe ends where
  ok hs := absurd hs hsafe
  never hs := absurd hs hsafe
  bad _ := h

/-- The rule for sequences.  The second part counts only if the first one ends. -/
lemma Walks.bind (hp : Walks stuck bad I J p safe ends)
    (hq : ∀ a, Walks stuck bad (J a) K (fun f => q f a) safe' ends') :
    Walks stuck bad I K (fun f => p f >>= q f) (safe ∧ (ends → safe')) (ends ∧ ends') where
  ok hs he s hi := by
    obtain ⟨a, t, ht, hend⟩ := hp.ok hs.1 he.1 s hi
    obtain ⟨b, t', ht', hend'⟩ := (hq a).ok (hs.2 he.1) he.2 t ht
    exact ⟨b, t', ht', hend.bind hend'⟩
  never hs he s hi := by
    by_cases hends : ends
    · obtain ⟨a, t, ht, hend⟩ := hp.ok hs.1 hends s hi
      exact hend.bind_neverEnds
        ((hq a).never (hs.2 hends) (fun hends' => he ⟨hends, hends'⟩) t ht)
    · exact (hp.never hs.1 hends s hi).bind
  bad hs s hi := by
    by_cases hsafe : safe
    · have hends : ends := by
        by_contra hends
        exact hs ⟨hsafe, fun h => absurd h hends⟩
      obtain ⟨a, t, ht, hend⟩ := hp.ok hsafe hends s hi
      exact hend.bind ((hq a).bad (fun hsafe' => hs ⟨hsafe, fun _ => hsafe'⟩) t ht)
    · exact (hp.bad hsafe s hi).bind_error

/-- Two parts that always end. -/
lemma Walks.seq (hp : Walks stuck bad I J p True True)
    (hq : ∀ a, Walks stuck bad (J a) K (fun f => q f a) True True) :
    Walks stuck bad I K (fun f => p f >>= q f) True True :=
  (hp.bind hq).iff (by tauto) (by tauto)

/-- A first part that always ends. -/
lemma Walks.after (hp : ∀ s, I s → ∃ a t, J a t ∧ EndsIn stuck p s (.ok (a, t)))
    (hq : ∀ a, Walks stuck bad (J a) K (fun f => q f a) safe ends) :
    Walks stuck bad I K (fun f => p f >>= q f) safe ends :=
  ((Walks.of_endsIn hp).bind hq).iff (by tauto) (by tauto)

/-- A first part that always ends, and with the value `a`. -/
lemma Walks.afterValue {J : σ → Prop} {a : α}
    (hp : ∀ s, I s → ∃ t, J t ∧ EndsIn stuck p s (.ok (a, t)))
    (hq : Walks stuck bad J K (fun f => q f a) safe ends) :
    Walks stuck bad I K (fun f => p f >>= q f) safe ends := by
  have hp' : ∀ s, I s → ∃ b t, (b = a ∧ J t) ∧ EndsIn stuck p s (.ok (b, t)) := by
    intro s hs
    obtain ⟨t, ht, hend⟩ := hp s hs
    exact ⟨a, t, ⟨rfl, ht⟩, hend⟩
  refine Walks.after hp' fun b => ?_
  by_cases hb : b = a
  · subst hb
    exact hq.mono (fun s hs => hs.2) fun _ _ h => h
  · exact .of_false fun s hs => hb hs.1

/-- The rule for loops.  In round `i` the loop breaks if `stop i`; otherwise the accesses of
the round have to be safe. -/
lemma Walks.loopM {body : ℕ → α → Prog ε σ (α ⊕ β)} {x : ℕ → α} {I : ℕ → σ → Prop}
    {stop safe : ℕ → Prop}
    (hstop : ∀ i, stop i → (∀ j < i, ¬ stop j) → ∀ s, I i s →
      ∃ b t, K b t ∧ EndsIn stuck (fun f => body f (x i)) s (.ok (.inr b, t)))
    (hnext : ∀ i, ¬ stop i → Walks stuck bad (I i) (fun y t => y = .inl (x (i + 1)) ∧ I (i + 1) t)
      (fun f => body f (x i)) (safe i) True) :
    Walks stuck bad (I 0) K (fun f => Lib.loopM stuck body f (x 0))
      (∀ i, (∀ j ≤ i, ¬ stop j) → safe i) (∃ i, stop i) := by
  -- a safe round that does not break goes on with the next one
  have hround : ∀ i, ¬ stop i → safe i → ∀ s, I i s → ∃ t, I (i + 1) t ∧
      EndsIn stuck (fun f => body f (x i)) s (.ok (.inl (x (i + 1)), t)) := by
    intro i hi hsafe s hs
    obtain ⟨y, t, ⟨rfl, ht⟩, hend⟩ := (hnext i hi).ok hsafe trivial s hs
    exact ⟨t, ht, hend⟩
  classical
  refine ⟨fun hsafe hends s hs => ?_, fun hsafe hends s hs => ?_, fun hsafe s hs => ?_⟩
  · have hbefore : ∀ i < Nat.find hends, ¬ stop i := fun i hi => Nat.find_min hends hi
    have hsafe' : ∀ i < Nat.find hends, safe i := by
      intro i hi
      exact hsafe i fun j hj => hbefore j (hj.trans_lt hi)
    obtain ⟨t, ht, hreach⟩ :=
      loopM_reach (fun i hi => hround i (hbefore i hi) (hsafe' i hi)) hs
    obtain ⟨b, t', hb, hbreak⟩ := hstop _ (Nat.find_spec hends) hbefore t ht
    exact ⟨b, t', hb, hreach _ (loopM_break hbreak)⟩
  · have hnever : ∀ i, ¬ stop i := fun i hi => hends ⟨i, hi⟩
    exact loopM_neverEnds (fun i => hround i (hnever i) (hsafe i fun j _ => hnever j)) hs
  · have hunsafe : ∃ i, (∀ j ≤ i, ¬ stop j) ∧ ¬ safe i := by
      by_contra hall
      refine hsafe fun i hi => ?_
      by_contra hi'
      exact hall ⟨i, hi, hi'⟩
    obtain ⟨hbefore, hbad⟩ := Nat.find_spec hunsafe
    have hsafe' : ∀ i < Nat.find hunsafe, safe i := by
      intro i hi
      by_contra hi'
      exact Nat.find_min hunsafe hi ⟨fun j hj => hbefore j (hj.trans hi.le), hi'⟩
    obtain ⟨t, ht, hreach⟩ :=
      loopM_reach (fun i hi => hround i (hbefore i hi.le) (hsafe' i hi)) hs
    exact hreach _ (loopM_error ((hnext _ (hbefore _ le_rfl)).bad hbad t ht))

/-- The rule for rounds over a list.  A round counts only if the earlier ones end. -/
lemma Walks.forM {γ : Type} {f : ℕ → γ → Prog ε σ PUnit} {l : List γ} {I : ℕ → σ → Prop}
    {safe ends : ℕ → Prop}
    (h : ∀ i (hi : i < l.length),
      Walks stuck bad (I i) (fun _ => I (i + 1)) (fun n => f n l[i]) (safe i) (ends i)) :
    Walks stuck bad (I 0) (fun _ => I l.length) (fun n => l.forM (f n))
      (∀ i < l.length, (∀ j < i, ends j) → safe i) (∀ i < l.length, ends i) := by
  -- by induction on the list, with the invariants of the rest shifted by one
  induction l generalizing I safe ends with
  | nil =>
      have hnil : Walks stuck bad (I 0) (fun _ => I 0) (fun _ => Pure.pure PUnit.unit) True True :=
        .pure fun s hs => hs
      refine hnil.iff ?_ fun _ => ?_
      · exact iff_true_intro fun i hi => absurd hi (Nat.not_lt_zero i)
      · exact iff_true_intro fun i hi => absurd hi (Nat.not_lt_zero i)
  | cons a l ih =>
      have hhead := h 0 (Nat.zero_lt_succ _)
      have htail : Walks stuck bad (I 1) (fun _ => I (l.length + 1)) (fun n => l.forM (f n))
          (∀ i < l.length, (∀ j < i, ends (j + 1)) → safe (i + 1))
          (∀ i < l.length, ends (i + 1)) :=
        ih (I := fun i => I (i + 1)) fun i hi => h (i + 1) (Nat.succ_lt_succ hi)
      refine (hhead.bind fun _ => htail).iff ?_ fun _ => ?_
      · constructor
        · intro hall
          refine ⟨hall 0 (Nat.zero_lt_succ _) fun j hj => absurd hj (Nat.not_lt_zero j), ?_⟩
          intro hends i hi hbefore
          refine hall (i + 1) (Nat.succ_lt_succ hi) fun j hj => ?_
          cases j with
          | zero => exact hends
          | succ j => exact hbefore j (Nat.lt_of_succ_lt_succ hj)
        · rintro ⟨hsafe, hall⟩ i hi hbefore
          cases i with
          | zero => exact hsafe
          | succ i =>
              exact hall (hbefore 0 (Nat.zero_lt_succ i)) i (Nat.lt_of_succ_lt_succ hi)
                fun j hj => hbefore (j + 1) (Nat.succ_lt_succ hj)
      · constructor
        · exact fun hall => ⟨hall 0 (Nat.zero_lt_succ _),
            fun i hi => hall (i + 1) (Nat.succ_lt_succ hi)⟩
        · rintro ⟨hends, hall⟩ i hi
          cases i with
          | zero => exact hends
          | succ i => exact hall i (Nat.lt_of_succ_lt_succ hi)

/-- The rule for rounds over a list that always end. -/
lemma Walks.forM_all {γ : Type} {f : ℕ → γ → Prog ε σ PUnit} {l : List γ} {I : ℕ → σ → Prop}
    (h : ∀ i (hi : i < l.length),
      Walks stuck bad (I i) (fun _ => I (i + 1)) (fun n => f n l[i]) True True) :
    Walks stuck bad (I 0) (fun _ => I l.length) (fun n => l.forM (f n)) True True :=
  (Walks.forM h).iff (by tauto) (by tauto)

/-- The rule for rounds over a list that always end, where round `n` turns the invariant into
`K`, and the rounds behind it keep `K`. -/
lemma Walks.forM_turn {γ : Type} {f : ℕ → γ → Prog ε σ PUnit} {l : List γ} {I : ℕ → σ → Prop}
    {K : σ → Prop} {n : ℕ} (hn : n < l.length)
    (hbefore : ∀ k (hk : k < l.length), k < n →
      Walks stuck bad (I k) (fun _ => I (k + 1)) (fun m => f m l[k]) True True)
    (hturn : Walks stuck bad (I n) (fun _ => K) (fun m => f m l[n]) True True)
    (hafter : ∀ k (hk : k < l.length), n < k →
      Walks stuck bad K (fun _ => K) (fun m => f m l[k]) True True) :
    Walks stuck bad (I 0) (fun _ => K) (fun m => l.forM (f m)) True True := by
  have hrounds := Walks.forM_all (f := f) (l := l)
    (I := fun k s => if k ≤ n then I k s else K s) fun k hk => by
      rcases lt_trichotomy k n with hlt | rfl | hgt
      · simp only [hlt.le, if_true, Nat.succ_le_of_lt hlt]
        exact hbefore k hk hlt
      · simp only [le_refl, if_true, Nat.not_succ_le_self, if_false]
        exact hturn
      · simp only [Nat.not_le.2 hgt, Nat.not_le.2 (Nat.lt_succ_of_lt hgt), if_false]
        exact hafter k hk hgt
  simpa only [Nat.zero_le, if_true, if_neg (Nat.not_le.2 hn)] using hrounds

/-- The rule for rounds over a list that pass a value on, and all end. -/
lemma Walks.foldlM {γ : Type} {f : ℕ → β → γ → Prog ε σ β} {l : List γ} {I : ℕ → β → σ → Prop}
    {safe : ℕ → Prop}
    (h : ∀ i (hi : i < l.length) b,
      Walks stuck bad (I i b) (I (i + 1)) (fun n => f n b l[i]) (safe i) True) (b : β) :
    Walks stuck bad (I 0 b) (I l.length) (fun n => l.foldlM (f n) b)
      (∀ i < l.length, safe i) True := by
  induction l generalizing I safe b with
  | nil =>
      have hnil : Walks stuck bad (I 0 b) (I 0) (fun _ => Pure.pure b) True True :=
        .pure fun s hs => hs
      exact hnil.iff (iff_true_intro fun i hi => absurd hi (Nat.not_lt_zero i)) fun _ => Iff.rfl
  | cons a l ih =>
      have hhead := h 0 (Nat.zero_lt_succ _) b
      have htail : ∀ b', Walks stuck bad (I 1 b') (I (l.length + 1))
          (fun n => l.foldlM (f n) b') (∀ i < l.length, safe (i + 1)) True := fun b' =>
        ih (I := fun i => I (i + 1)) (fun i hi => h (i + 1) (Nat.succ_lt_succ hi)) b'
      simp only [List.foldlM_cons]
      refine (hhead.bind htail).iff ?_ fun _ => (and_iff_left trivial).symm
      constructor
      · exact fun hall => ⟨hall 0 (Nat.zero_lt_succ _),
          fun _ i hi => hall (i + 1) (Nat.succ_lt_succ hi)⟩
      · rintro ⟨hsafe, hall⟩ i hi
        cases i with
        | zero => exact hsafe
        | succ i => exact hall trivial i (Nat.lt_of_succ_lt_succ hi)

/-! ### Reading

A program that reads leaves a part of the state, the `view`, as it is, and keeps `Q`. -/

variable (stuck) in
/-- The program ends with this value, and has only read. -/
def Reads (Q : σ → Prop) (view : σ → ν) (p : ℕ → Prog ε σ α) (a : α) : Prop :=
  ∀ s, Q s → ∃ t, Q t ∧ view t = view s ∧ EndsIn stuck p s (.ok (a, t))

variable {Q : σ → Prop} {view : σ → ν}

lemma Reads.pure (a : α) : Reads stuck Q view (fun _ => Pure.pure a) a :=
  fun s hs => ⟨s, hs, rfl, endsIn_const (Pure.pure a) s⟩

lemma Reads.bind {b : β} (hp : Reads stuck Q view p a)
    (hq : Reads stuck Q view (fun f => q f a) b) : Reads stuck Q view (fun f => p f >>= q f) b := by
  intro s hs
  obtain ⟨t, ht, hview, hend⟩ := hp s hs
  obtain ⟨t', ht', hview', hend'⟩ := hq t ht
  exact ⟨t', ht', hview'.trans hview, hend.bind hend'⟩

/-- Reading before a program. -/
lemma Reads.walks {P : ν → Prop} (hp : Reads stuck Q view p a)
    (hq : Walks stuck bad (fun s => Q s ∧ P (view s)) K (fun f => q f a) safe ends) :
    Walks stuck bad (fun s => Q s ∧ P (view s)) K (fun f => p f >>= q f) safe ends := by
  refine Walks.afterValue (fun s hs => ?_) hq
  obtain ⟨t, ht, hview, hend⟩ := hp s hs.1
  exact ⟨t, ⟨ht, hview ▸ hs.2⟩, hend⟩

/-- A loop over a list that only reads. -/
lemma Reads.foldlM {γ : Type} {f : ℕ → α → γ → Prog ε σ α} {g : α → γ → α} {l : List γ}
    (h : ∀ a, ∀ c ∈ l, Reads stuck Q view (fun n => f n a c) (g a c)) (a : α) :
    Reads stuck Q view (fun n => l.foldlM (f n) a) (l.foldl g a) := by
  induction l generalizing a with
  | nil => exact Reads.pure a
  | cons c l ih =>
      have hbind := (h a c List.mem_cons_self).bind (q := fun n a => l.foldlM (f n) a)
        (ih (fun a c hc => h a c (List.mem_cons_of_mem _ hc)) (g a c))
      simpa only [List.foldlM_cons, List.foldl_cons] using hbind

/-- A loop that only reads, and breaks in round `k`. -/
lemma Reads.loopM {body : ℕ → α → Prog ε σ (α ⊕ β)} {x : ℕ → α} {k : ℕ} {b : β}
    (hnext : ∀ i < k, Reads stuck Q view (fun f => body f (x i)) (.inl (x (i + 1))))
    (hbreak : Reads stuck Q view (fun f => body f (x k)) (.inr b)) :
    Reads stuck Q view (fun f => Lib.loopM stuck body f (x 0)) b := by
  intro s hs
  obtain ⟨t, ⟨ht, hview⟩, hreach⟩ :=
    loopM_reach (I := fun _ t => Q t ∧ view t = view s) (fun i hi t ht => by
      obtain ⟨t', ht', hview', hend⟩ := hnext i hi t ht.1
      exact ⟨t', ⟨ht', hview'.trans ht.2⟩, hend⟩) ⟨hs, rfl⟩
  obtain ⟨t', ht', hview', hend⟩ := hbreak t ht
  exact ⟨t', ht', hview'.trans hview, hreach _ (loopM_break hend)⟩

/-- A loop that only reads, and fails in round `k`. -/
lemma Reads.loopM_error {body : ℕ → α → Prog ε σ (α ⊕ β)} {x : ℕ → α} {k : ℕ}
    (hnext : ∀ i < k, Reads stuck Q view (fun f => body f (x i)) (.inl (x (i + 1))))
    (herror : ∀ s, Q s → EndsIn stuck (fun f => body f (x k)) s (.error e)) {s : σ} (hs : Q s) :
    EndsIn stuck (fun f => Lib.loopM stuck body f (x 0)) s (.error e) := by
  obtain ⟨t, ht, hreach⟩ := loopM_reach (I := fun _ => Q) (fun i hi t ht => by
      obtain ⟨t', ht', -, hend⟩ := hnext i hi t ht
      exact ⟨t', ht', hend⟩) hs
  exact hreach _ (Lib.loopM_error (herror t ht))

/-- Reading before an error. -/
lemma Reads.bind_error (hp : Reads stuck Q view p a)
    (hq : ∀ s, Q s → EndsIn stuck (fun f => q f a) s (.error e)) (hs : Q s) :
    EndsIn stuck (fun f => p f >>= q f) s (.error e) := by
  obtain ⟨t, ht, -, hend⟩ := hp s hs
  exact hend.bind (hq t ht)

end Outcomes

end Mesaflash.Lib
