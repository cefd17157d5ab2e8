import Mathlib.Logic.Function.Iterate
import Mathlib.Tactic.Common

/-!
Loops of an imperative program in the error monad.

A `while` loop of the modelled program is `whileM`: it runs its body as long as
the condition holds, for at most `fuel` rounds, and stops with the error `stuck`
when the rounds are used up.  A counted loop is `List.foldlM` over its index
list.  This file holds the rules by which both are used: how one round unfolds,
how an invariant is carried through a run, and how a loop whose rounds cannot
fail becomes an ordinary fold.
-/

namespace Mesaflash.Lib

variable {ε α β σ : Type}

/-! ### Sequencing -/

/-- A sequence succeeds exactly when both of its parts do. -/
lemma bind_eq_ok {x : Except ε α} {f : α → Except ε β} {b : β} :
    (x >>= f) = .ok b ↔ ∃ a, x = .ok a ∧ f a = .ok b := by
  cases x with
  | error e => simp [bind, Except.bind]
  | ok a => simp [bind, Except.bind]

@[simp] lemma ok_bind (a : α) (f : α → Except ε β) : (Except.ok a >>= f) = f a := rfl

@[simp] lemma error_bind (e : ε) (f : α → Except ε β) :
    (Except.error e >>= f) = .error e := rfl

@[simp] lemma pure_eq_ok (a : α) : (pure a : Except ε α) = .ok a := rfl

/-! ### Outcomes -/

/-- A computation yields `P` when its result satisfies `P` and its error satisfies `E`. -/
inductive Yields (P : α → Prop) (E : ε → Prop) : Except ε α → Prop
  | ok {a : α} (h : P a) : Yields P E (.ok a)
  | error {e : ε} (h : E e) : Yields P E (.error e)

section Yields

variable {P : α → Prop} {Q : β → Prop} {E : ε → Prop}

lemma Yields.of_eq_ok {x : Except ε α} {a : α} (hx : Yields P E x) (h : x = .ok a) : P a := by
  subst h
  cases hx
  assumption

lemma Yields.of_eq_error {x : Except ε α} {e : ε} (hx : Yields P E x) (h : x = .error e) :
    E e := by
  subst h
  cases hx
  assumption

lemma yields_true (x : Except ε α) : Yields (fun _ => True) (fun _ => True) x := by
  cases x
  · exact .error trivial
  · exact .ok trivial

lemma Yields.mono {P' : α → Prop} {x : Except ε α} (hx : Yields P E x) (h : ∀ a, P a → P' a) :
    Yields P' E x := by
  cases hx with
  | ok hP => exact .ok (h _ hP)
  | error hE => exact .error hE

lemma Yields.mono_error {E' : ε → Prop} {x : Except ε α} (hx : Yields P E x)
    (h : ∀ e, E e → E' e) : Yields P E' x := by
  cases hx with
  | ok hP => exact .ok hP
  | error hE => exact .error (h _ hE)

/-- A result is known to be the result. -/
lemma Yields.with_eq {x : Except ε α} (hx : Yields P E x) :
    Yields (fun a => P a ∧ x = .ok a) E x := by
  cases hx with
  | ok hP => exact .ok ⟨hP, rfl⟩
  | error hE => exact .error hE

/-- The rule for sequences. -/
lemma Yields.bind {x : Except ε α} {f : α → Except ε β} (hx : Yields P E x)
    (hf : ∀ a, P a → Yields Q E (f a)) : Yields Q E (x >>= f) := by
  cases hx with
  | ok hP => exact hf _ hP
  | error hE => exact .error hE

/-- The rule for conditionals. -/
lemma Yields.ite {c : Prop} [Decidable c] {x y : Except ε α} (hx : c → Yields P E x)
    (hy : ¬ c → Yields P E y) : Yields P E (if c then x else y) := by
  split
  · exact hx ‹_›
  · exact hy ‹_›

/-- The rule for counted loops, where a round also establishes `R` for its index. -/
lemma yields_foldlM_forall {I : σ → Prop} {R : α → Prop} {f : σ → α → Except ε σ} {l : List α}
    (hstep : ∀ a ∈ l, ∀ s, I s → Yields (fun t => I t ∧ R a) E (f s a)) {s : σ} (hI : I s) :
    Yields (fun t => I t ∧ ∀ a ∈ l, R a) E (l.foldlM f s) := by
  induction l generalizing s with
  | nil => exact .ok ⟨hI, by simp⟩
  | cons a l ih =>
      rw [List.foldlM_cons]
      refine (hstep a List.mem_cons_self s hI).bind fun t ht => ?_
      refine (ih (fun b hb => hstep b (List.mem_cons_of_mem a hb)) ht.1).mono fun t' ht' => ?_
      exact ⟨ht'.1, List.forall_mem_cons.2 ⟨ht.2, ht'.2⟩⟩

/-- The rule for counted loops. -/
lemma yields_foldlM {I : σ → Prop} {f : σ → α → Except ε σ} {l : List α}
    (hstep : ∀ a ∈ l, ∀ s, I s → Yields I E (f s a)) {s : σ} (hI : I s) :
    Yields I E (l.foldlM f s) :=
  (yields_foldlM_forall (R := fun _ => True)
    (fun a ha s hs => (hstep a ha s hs).mono fun _ ht => ⟨ht, trivial⟩) hI).mono fun _ ht => ht.1

end Yields

/-! ### Success -/

/-- A computation succeeds. -/
def Succeeds (x : Except ε α) : Prop := ∃ a, x = .ok a

lemma succeeds_ok (a : α) : Succeeds (.ok a : Except ε α) := ⟨a, rfl⟩

lemma not_succeeds_error (e : ε) : ¬ Succeeds (.error e : Except ε α) := by
  rintro ⟨a, h⟩
  cases h

/-- A sequence succeeds exactly when both of its parts do. -/
lemma succeeds_bind {x : Except ε α} {f : α → Except ε β} :
    Succeeds (x >>= f) ↔ ∃ a, x = .ok a ∧ Succeeds (f a) := by
  cases x with
  | error e => simp [Succeeds]
  | ok a => simp [Succeeds]

/-- A list of computations succeeds exactly when all of them do. -/
lemma succeeds_mapM {f : α → Except ε β} {l : List α} :
    Succeeds (l.mapM f) ↔ ∀ a ∈ l, Succeeds (f a) := by
  induction l with
  | nil => simp [Succeeds]
  | cons a l ih =>
      rw [List.mapM_cons, succeeds_bind, List.forall_mem_cons, ← ih]
      constructor
      · rintro ⟨b, hb, hrest⟩
        obtain ⟨bs, hbs, -⟩ := succeeds_bind.1 hrest
        exact ⟨⟨b, hb⟩, ⟨bs, hbs⟩⟩
      · rintro ⟨⟨b, hb⟩, ⟨bs, hbs⟩⟩
        exact ⟨b, hb, succeeds_bind.2 ⟨bs, hbs, succeeds_ok _⟩⟩

/-! ### While loops -/

/-- `while (cond) body`, run for at most `fuel` rounds. -/
def whileM (stuck : ε) (cond : σ → Bool) (body : σ → Except ε σ) : ℕ → σ → Except ε σ
  | 0, _ => .error stuck
  | fuel + 1, s => if cond s then body s >>= whileM stuck cond body fuel else .ok s

section While

variable {stuck : ε} {cond : σ → Bool} {body : σ → Except ε σ}

lemma whileM_done {s : σ} (h : cond s = false) (fuel : ℕ) :
    whileM stuck cond body (fuel + 1) s = .ok s := by
  simp [whileM, h]

lemma whileM_round {s : σ} (h : cond s = true) (fuel : ℕ) :
    whileM stuck cond body (fuel + 1) s = body s >>= whileM stuck cond body fuel := by
  simp [whileM, h]

/-- What every round preserves holds at the exit, where the condition fails. -/
lemma whileM_invariant {I : σ → Prop}
    (hstep : ∀ s s', I s → cond s = true → body s = .ok s' → I s') :
    ∀ (fuel : ℕ) (s t : σ), I s → whileM stuck cond body fuel s = .ok t →
      I t ∧ cond t = false := by
  intro fuel
  induction fuel with
  | zero => intro s t _ h; exact absurd h (by simp [whileM])
  | succ fuel ih =>
      intro s t hI h
      cases hc : cond s with
      | false =>
          rw [whileM_done hc] at h
          obtain rfl : s = t := Except.ok.inj h
          exact ⟨hI, hc⟩
      | true =>
          rw [whileM_round hc, bind_eq_ok] at h
          obtain ⟨s', hs', hrest⟩ := h
          exact ih s' t (hstep s s' hI hc hs') hrest

/-- The rule for while loops, whose rounds start where the condition holds. -/
lemma yields_whileM_cond {I : σ → Prop} {E : ε → Prop} (hstuck : E stuck)
    (hbody : ∀ s, I s → cond s = true → Yields I E (body s)) :
    ∀ (fuel : ℕ) (s : σ), I s → Yields I E (whileM stuck cond body fuel s) := by
  intro fuel
  induction fuel with
  | zero => exact fun _ _ => .error hstuck
  | succ fuel ih =>
      intro s hI
      cases hc : cond s with
      | false =>
          rw [whileM_done hc]
          exact .ok hI
      | true =>
          rw [whileM_round hc]
          exact (hbody s hI hc).bind ih

/-- The rule for while loops. -/
lemma yields_whileM {I : σ → Prop} {E : ε → Prop} (hstuck : E stuck)
    (hbody : ∀ s, I s → Yields I E (body s)) (fuel : ℕ) (s : σ) (hI : I s) :
    Yields I E (whileM stuck cond body fuel s) :=
  yields_whileM_cond hstuck (fun s hs _ => hbody s hs) fuel s hI

/-- An error of the loop is the error of a round, or `stuck`. -/
lemma whileM_error {E : ε → Prop} (hstuck : E stuck)
    (hbody : ∀ s e, body s = .error e → E e) :
    ∀ (fuel : ℕ) (s : σ) (e : ε), whileM stuck cond body fuel s = .error e → E e := by
  intro fuel
  induction fuel with
  | zero =>
      intro s e h
      obtain rfl : stuck = e := Except.error.inj h
      exact hstuck
  | succ fuel ih =>
      intro s e h
      cases hc : cond s with
      | false =>
          rw [whileM_done hc] at h
          cases h
      | true =>
          rw [whileM_round hc] at h
          cases hs : body s with
          | error e' =>
              rw [hs, error_bind] at h
              obtain rfl : e' = e := Except.error.inj h
              exact hbody s e' hs
          | ok s' =>
              rw [hs, ok_bind] at h
              exact ih s' e h

/-- A loop whose states are known, at its first exit. -/
inductive ExitsAt (cond : σ → Bool) (body : σ → Except ε σ) (g : ℕ → σ) (n : ℕ) :
    Except ε σ → Prop
  | done (h : cond (g n) = false) : ExitsAt cond body g n (.ok (g n))
  | error {e : ε} (h : cond (g n) = true) (he : body (g n) = .error e) :
      ExitsAt cond body g n (.error e)

/-- The rounds before one all go on. -/
def GoesOn (cond : σ → Bool) (body : σ → Except ε σ) (g : ℕ → σ) (n : ℕ) : Prop :=
  ∀ j < n, cond (g j) = true ∧ body (g j) = .ok (g (j + 1))

variable (stuck) in
lemma whileM_of_goesOn {g : ℕ → σ} {n : ℕ} (h : GoesOn cond body g n) (fuel : ℕ) :
    whileM stuck cond body (n + fuel) (g 0) = whileM stuck cond body fuel (g n) := by
  induction n generalizing fuel with
  | zero => rw [Nat.zero_add]
  | succ n ih =>
      obtain ⟨hcond, hbody⟩ := h n (Nat.lt_succ_self n)
      rw [Nat.add_assoc, Nat.add_comm 1 fuel, ih fun j hj => h j (Nat.lt_succ_of_lt hj),
        whileM_round hcond, hbody, ok_bind]

variable (stuck) in
lemma whileM_of_exitsAt {g : ℕ → σ} {n : ℕ} {r : Except ε σ} (h : GoesOn cond body g n)
    (hr : ExitsAt cond body g n r) (fuel : ℕ) :
    whileM stuck cond body (n + (fuel + 1)) (g 0) = r := by
  rw [whileM_of_goesOn stuck h]
  cases hr with
  | done hcond => exact whileM_done hcond fuel
  | error hcond he => rw [whileM_round hcond, he, error_bind]

variable (stuck) in
/-- A loop whose states are known is stuck, or at its first exit. -/
lemma whileM_exits {g : ℕ → σ}
    (hstep : ∀ i s, cond (g i) = true → body (g i) = .ok s → s = g (i + 1)) (fuel : ℕ) :
    whileM stuck cond body fuel (g 0) = .error stuck ∨
      ∃ n < fuel, GoesOn cond body g n ∧
        ExitsAt cond body g n (whileM stuck cond body fuel (g 0)) := by
  -- after as many rounds as there are, the loop has left, or all of them have gone on
  have hrounds : ∀ m, GoesOn cond body g m ∨
      ∃ n < m, GoesOn cond body g n ∧ ∃ r, ExitsAt cond body g n r := by
    intro m
    induction m with
    | zero => exact .inl fun j hj => absurd hj (Nat.not_lt_zero j)
    | succ m ih =>
        rcases ih with hgoes | ⟨n, hn, hexit⟩
        · rcases hcond : cond (g m) with _ | _
          · exact .inr ⟨m, Nat.lt_succ_self m, hgoes, _, .done hcond⟩
          · rcases hbody : body (g m) with e | s
            · exact .inr ⟨m, Nat.lt_succ_self m, hgoes, _, .error hcond hbody⟩
            · refine .inl fun j hj => ?_
              rcases Nat.lt_succ_iff_lt_or_eq.1 hj with hlt | rfl
              · exact hgoes j hlt
              · exact ⟨hcond, hbody.trans (congrArg _ (hstep j s hcond hbody))⟩
        · exact .inr ⟨n, Nat.lt_succ_of_lt hn, hexit⟩
  rcases hrounds fuel with hgoes | ⟨n, hn, hgoes, r, hr⟩
  · exact .inl (whileM_of_goesOn stuck hgoes 0)
  · obtain ⟨k, rfl⟩ := Nat.exists_eq_add_of_lt hn
    rw [Nat.add_assoc, whileM_of_exitsAt stuck hgoes hr]
    exact .inr ⟨n, by omega, hgoes, hr⟩

end While

/-! ### Two programs -/

/-- Two computations have the same error, or results that `R` relates. -/
inductive SameOutcome {τ : Type} (R : σ → τ → Prop) : Except ε σ → Except ε τ → Prop
  | ok {s : σ} {t : τ} (h : R s t) : SameOutcome R (.ok s) (.ok t)
  | error (e : ε) : SameOutcome R (.error e) (.error e)

section SameOutcome

variable {τ α' : Type} {R : σ → τ → Prop}

lemma SameOutcome.bind {S : α → α' → Prop} {x : Except ε σ} {y : Except ε τ}
    {f : σ → Except ε α} {g : τ → Except ε α'} (hx : SameOutcome R x y)
    (hf : ∀ s t, R s t → SameOutcome S (f s) (g t)) : SameOutcome S (x >>= f) (y >>= g) := by
  cases hx with
  | ok h => exact hf _ _ h
  | error e => exact .error e

lemma SameOutcome.of_ok {s : σ} {y : Except ε τ} (h : SameOutcome R (.ok s) y) :
    ∃ t, y = .ok t ∧ R s t := by
  cases h with
  | ok h => exact ⟨_, rfl, h⟩

/-- Loops whose rounds keep a relation between their states have the same outcome. -/
lemma sameOutcome_whileM (stuck : ε) {cond : σ → Bool} {cond' : τ → Bool}
    {body : σ → Except ε σ} {body' : τ → Except ε τ} (hcond : ∀ s t, R s t → cond s = cond' t)
    (hbody : ∀ s t, R s t → SameOutcome R (body s) (body' t)) :
    ∀ (fuel : ℕ) (s : σ) (t : τ), R s t →
      SameOutcome R (whileM stuck cond body fuel s) (whileM stuck cond' body' fuel t) := by
  intro fuel
  induction fuel with
  | zero => exact fun _ _ _ => .error stuck
  | succ fuel ih =>
      intro s t h
      have hc := hcond s t h
      cases ht : cond' t with
      | false =>
          rw [whileM_done (hc.trans ht), whileM_done ht]
          exact .ok h
      | true =>
          rw [whileM_round (hc.trans ht), whileM_round ht]
          exact (hbody s t h).bind ih

end SameOutcome

/-! ### Counted loops -/

section Fold

variable {f : σ → α → Except ε σ}

/-- A counted loop whose rounds succeed where an invariant holds is the fold of
their results. -/
lemma foldlM_eq_ok {I : σ → Prop} {g : σ → α → σ} {l : List α}
    (hstep : ∀ a ∈ l, ∀ s, I s → f s a = .ok (g s a) ∧ I (g s a)) {s : σ} (hI : I s) :
    l.foldlM f s = .ok (l.foldl g s) := by
  induction l generalizing s with
  | nil => rfl
  | cons a l ih =>
      obtain ⟨hs, hI'⟩ := hstep a List.mem_cons_self s hI
      rw [List.foldlM_cons, hs, ok_bind, List.foldl_cons]
      exact ih (fun b hb => hstep b (List.mem_cons_of_mem a hb)) hI'

lemma foldlM_congr {g : σ → α → Except ε σ} {l : List α} (h : ∀ a ∈ l, ∀ s, f s a = g s a)
    (s : σ) : l.foldlM f s = l.foldlM g s := by
  induction l generalizing s with
  | nil => rfl
  | cons a l ih =>
      rw [List.foldlM_cons, List.foldlM_cons, h a List.mem_cons_self]
      exact congrArg _ (funext fun s' => ih (fun b hb => h b (List.mem_cons_of_mem a hb)) s')

/-- A loop that is known after each round. -/
lemma foldlM_range_eq_ok {f : σ → ℕ → Except ε σ} {g : ℕ → σ} {n : ℕ}
    (hstep : ∀ j < n, f (g j) j = .ok (g (j + 1))) :
    (List.range n).foldlM f (g 0) = .ok (g n) := by
  induction n with
  | zero => rfl
  | succ n ih =>
      rw [List.range_succ, List.foldlM_append, ih fun j hj => hstep j (Nat.lt_succ_of_lt hj),
        ok_bind, List.foldlM_cons, hstep n (Nat.lt_succ_self n), ok_bind, List.foldlM_nil,
        pure_eq_ok]

/-- A counted loop fails in its first round that fails. -/
lemma foldlM_range_error {f : σ → ℕ → Except ε σ} {g : ℕ → σ} {n m : ℕ} {e : ε} (hn : n < m)
    (hstep : ∀ j < n, f (g j) j = .ok (g (j + 1))) (herror : f (g n) n = .error e) :
    (List.range m).foldlM f (g 0) = .error e := by
  obtain ⟨k, rfl⟩ := Nat.exists_eq_add_of_lt hn
  have hsplit : List.range (n + k + 1) = List.range n ++ n :: (List.range k).map (n + 1 + ·) := by
    rw [show n + k + 1 = n + 1 + k by omega, List.range_add, List.range_succ, List.append_assoc,
      List.singleton_append]
  rw [hsplit, List.foldlM_append, foldlM_range_eq_ok hstep, ok_bind, List.foldlM_cons, herror,
    error_bind]

/-- A counted loop that fails has a round that fails. -/
lemma foldlM_eq_error {l : List α} {s : σ} {e : ε} (h : l.foldlM f s = .error e) :
    ∃ pre a post t, l = pre ++ a :: post ∧ pre.foldlM f s = .ok t ∧ f t a = .error e := by
  induction l generalizing s with
  | nil => cases h
  | cons a l ih =>
      rw [List.foldlM_cons] at h
      cases ha : f s a with
      | error e' =>
          rw [ha, error_bind] at h
          obtain rfl := Except.error.inj h
          exact ⟨[], a, l, s, rfl, rfl, ha⟩
      | ok s' =>
          rw [ha, ok_bind] at h
          obtain ⟨pre, b, post, t, rfl, hpre, hb⟩ := ih h
          exact ⟨a :: pre, b, post, t, rfl, by rw [List.foldlM_cons, ha, ok_bind, hpre], hb⟩

/-- A counted loop that only writes a log. -/
lemma foldlM_log {γ : Type} (g : α → γ) (l : List α) (log : List γ) :
    l.foldlM (fun log a => (.ok (log ++ [g a]) : Except ε (List γ))) log =
      .ok (log ++ l.map g) := by
  rw [foldlM_eq_ok (I := fun _ => True) (fun _ _ _ _ => ⟨rfl, trivial⟩) trivial,
    List.foldl_append_eq_append, ← List.flatMap_def, ← List.map_eq_flatMap]

end Fold

/-! ### Loops with a running address -/

section Stride

variable {A : Type} (next : A → A) (step : ℕ → A → σ → Except ε σ)

/-- A round that works at an address and then moves the address on. -/
def stride (s : A × σ) (j : ℕ) : Except ε (A × σ) := do
  let t ← step j s.1 s.2
  return (next s.1, t)

lemma yields_stride {I : σ → Prop} {E : ε → Prop} {s : A × σ} {j : ℕ}
    (h : Yields I E (step j s.1 s.2)) : Yields (fun s => I s.2) E (stride next step s j) :=
  h.bind fun _ ht => .ok ht

/-- A loop with a running address is a counted loop over the addresses. -/
lemma foldlM_stride (n : ℕ) (a : A) (t : σ) :
    (List.range n).foldlM (stride next step) (a, t) =
      (List.range n).foldlM (fun t j => step j (next^[j] a) t) t >>= fun t =>
        .ok (next^[n] a, t) := by
  induction n with
  | zero => rfl
  | succ n ih =>
      rw [List.range_succ, List.foldlM_append, List.foldlM_append, ih, bind_assoc, bind_assoc]
      congr 1
      funext t
      rw [ok_bind, List.foldlM_cons, List.foldlM_cons, stride, bind_assoc, bind_assoc,
        Function.iterate_succ_apply']
      rfl

end Stride

end Mesaflash.Lib
