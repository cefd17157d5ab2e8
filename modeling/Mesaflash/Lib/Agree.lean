import Mesaflash.Lib.Fuel

/-!
Two runs of a program.

A program that is run on two machines does the same on both as long as what it asks is
answered alike: it ends with the same value in states that correspond, or in the same error.
The rules of this file follow the way a program is put together, like those for one run.
-/

namespace Mesaflash.Lib

variable {ε σ₁ σ₂ α β γ : Type}

/-- Two outcomes are the same, but for states that correspond. -/
inductive EndsAlike (R : σ₁ → σ₂ → Prop) :
    Except ε (α × σ₁) → Except ε (α × σ₂) → Prop
  | ok {a : α} {t₁ : σ₁} {t₂ : σ₂} (h : R t₁ t₂) : EndsAlike R (.ok (a, t₁)) (.ok (a, t₂))
  | error (e : ε) : EndsAlike R (.error e) (.error e)

/-- From states that correspond, the second one with `I`, the programs do the same. -/
def Agree (R : σ₁ → σ₂ → Prop) (I : σ₂ → Prop) (p₁ : Prog ε σ₁ α) (p₂ : Prog ε σ₂ α) : Prop :=
  ∀ s₁ s₂, R s₁ s₂ → I s₂ → EndsAlike R (p₁ s₁) (p₂ s₂)

/-- A property of the states in which a program returns. -/
def Leaves {σ : Type} (I : σ → Prop) (J : α → σ → Prop) (p : Prog ε σ α) : Prop :=
  ∀ s a t, I s → p s = .ok (a, t) → J a t

section Rules

variable {R : σ₁ → σ₂ → Prop} {I : σ₂ → Prop} {J : α → σ₂ → Prop}
  {p₁ : Prog ε σ₁ α} {p₂ : Prog ε σ₂ α}

lemma EndsAlike.of_ok {a : α} {t₁ : σ₁} {x : Except ε (α × σ₂)}
    (h : EndsAlike R (.ok (a, t₁)) x) : ∃ t₂, R t₁ t₂ ∧ x = .ok (a, t₂) := by
  cases h with
  | ok h => exact ⟨_, h, rfl⟩

lemma EndsAlike.of_ok' {a : α} {t₂ : σ₂} {x : Except ε (α × σ₁)}
    (h : EndsAlike R x (.ok (a, t₂))) : ∃ t₁, R t₁ t₂ ∧ x = .ok (a, t₁) := by
  cases h with
  | ok h => exact ⟨_, h, rfl⟩

lemma Agree.mono {I' : σ₂ → Prop} (h : Agree R I p₁ p₂) (hI : ∀ s, I' s → I s) :
    Agree R I' p₁ p₂ := fun s₁ s₂ hR hs => h s₁ s₂ hR (hI s₂ hs)

lemma Agree.pure (a : α) :
    Agree R I (Pure.pure a : Prog ε σ₁ α) (Pure.pure a : Prog ε σ₂ α) :=
  fun _ _ hR _ => .ok hR

lemma Agree.throw (e : ε) :
    Agree R I (MonadExcept.throw e : Prog ε σ₁ α) (MonadExcept.throw e : Prog ε σ₂ α) :=
  fun _ _ _ _ => .error e

/-- The rule for sequences, with what holds between the two parts. -/
lemma Agree.bind {q₁ : α → Prog ε σ₁ β} {q₂ : α → Prog ε σ₂ β} (hp : Agree R I p₁ p₂)
    (hpost : Leaves I J p₂) (hq : ∀ a, Agree R (J a) (q₁ a) (q₂ a)) :
    Agree R I (p₁ >>= q₁) (p₂ >>= q₂) := by
  intro s₁ s₂ hR hs
  have hsame := hp s₁ s₂ hR hs
  rw [prog_bind, prog_bind]
  rcases hx : p₂ s₂ with e | ⟨a, t₂⟩
  · rw [hx] at hsame
    generalize p₁ s₁ = x at hsame
    cases hsame
    exact .error e
  · rw [hx] at hsame
    obtain ⟨t₁, ht, hy⟩ := hsame.of_ok'
    rw [hy]
    exact hq a t₁ t₂ ht (hpost s₂ a t₂ hs hx)

/-- The rule for sequences of parts that always do the same. -/
lemma Agree.seq {q₁ : α → Prog ε σ₁ β} {q₂ : α → Prog ε σ₂ β}
    (hp : Agree R (fun _ => True) p₁ p₂) (hq : ∀ a, Agree R (fun _ => True) (q₁ a) (q₂ a)) :
    Agree R (fun _ => True) (p₁ >>= q₁) (p₂ >>= q₂) :=
  hp.bind (J := fun _ _ => True) (fun _ _ _ _ _ => trivial) hq

/-- The rule for sequences, with what is known of the value in between. -/
lemma Agree.seqOf {J : α → Prop} {q₁ : α → Prog ε σ₁ β} {q₂ : α → Prog ε σ₂ β}
    (hp : Agree R (fun _ => True) p₁ p₂) (hpost : Leaves (fun _ => True) (fun a _ => J a) p₂)
    (hq : ∀ a, J a → Agree R (fun _ => True) (q₁ a) (q₂ a)) :
    Agree R (fun _ => True) (p₁ >>= q₁) (p₂ >>= q₂) :=
  hp.bind hpost fun a s₁ s₂ hR ha => hq a ha s₁ s₂ hR trivial

lemma Agree.ite {c : Prop} [Decidable c] {q₁ : Prog ε σ₁ α} {q₂ : Prog ε σ₂ α}
    (hp : c → Agree R I p₁ p₂) (hq : ¬ c → Agree R I q₁ q₂) :
    Agree R I (if c then p₁ else q₁) (if c then p₂ else q₂) := by
  by_cases hc : c
  · rw [if_pos hc, if_pos hc]
    exact hp hc
  · rw [if_neg hc, if_neg hc]
    exact hq hc

/-- The rule for loops without bound. -/
lemma Agree.loopM {stuck : ε} {body₁ : ℕ → α → Prog ε σ₁ (α ⊕ β)}
    {body₂ : ℕ → α → Prog ε σ₂ (α ⊕ β)}
    (h : ∀ fuel a, Agree R (fun _ => True) (body₁ fuel a) (body₂ fuel a)) (fuel : ℕ) (a : α) :
    Agree R (fun _ => True) (Lib.loopM stuck body₁ fuel a) (Lib.loopM stuck body₂ fuel a) := by
  induction fuel generalizing a with
  | zero => exact .throw stuck
  | succ fuel ih =>
    rw [Lib.loopM, Lib.loopM]
    refine (h fuel a).seq fun x => ?_
    cases x with
    | inl a => exact ih a
    | inr b => exact .pure b

/-- The rule for a loop over a list that passes on a value with `J`. -/
lemma Agree.foldlM_of {J : β → Prop} {f₁ : β → γ → Prog ε σ₁ β} {f₂ : β → γ → Prog ε σ₂ β}
    {l : List γ} (h : ∀ b, J b → ∀ c ∈ l, Agree R (fun _ => True) (f₁ b c) (f₂ b c))
    (hkeep : ∀ b, J b → ∀ c ∈ l, Leaves (fun _ => True) (fun b _ => J b) (f₂ b c)) {b : β}
    (hb : J b) : Agree R (fun _ => True) (l.foldlM f₁ b) (l.foldlM f₂ b) := by
  induction l generalizing b with
  | nil => exact .pure b
  | cons c l ih =>
    rw [List.foldlM_cons, List.foldlM_cons]
    refine (h b hb c List.mem_cons_self).seqOf (hkeep b hb c List.mem_cons_self) fun b hb => ?_
    exact ih (fun b hb c hc => h b hb c (List.mem_cons_of_mem _ hc))
      (fun b hb c hc => hkeep b hb c (List.mem_cons_of_mem _ hc)) hb

/-- The rule for a loop over a list that passes a value on. -/
lemma Agree.foldlM {f₁ : β → γ → Prog ε σ₁ β} {f₂ : β → γ → Prog ε σ₂ β} {l : List γ}
    (h : ∀ b, ∀ c ∈ l, Agree R (fun _ => True) (f₁ b c) (f₂ b c)) (b : β) :
    Agree R (fun _ => True) (l.foldlM f₁ b) (l.foldlM f₂ b) :=
  Agree.foldlM_of (J := fun _ => True) (fun b _ => h b) (fun _ _ _ _ _ _ _ _ _ => trivial) trivial

/-- The rule for rounds over a list, with what holds before each of them. -/
lemma Agree.forM {f₁ : γ → Prog ε σ₁ PUnit} {f₂ : γ → Prog ε σ₂ PUnit} {l : List γ}
    {I : ℕ → σ₂ → Prop}
    (h : ∀ i (hi : i < l.length), Agree R (I i) (f₁ l[i]) (f₂ l[i]))
    (hpost : ∀ i (hi : i < l.length), Leaves (I i) (fun _ => I (i + 1)) (f₂ l[i])) :
    Agree R (I 0) (l.forM f₁) (l.forM f₂) := by
  induction l generalizing I with
  | nil => exact .pure _
  | cons c l ih =>
    exact (h 0 (Nat.zero_lt_succ _)).bind (hpost 0 (Nat.zero_lt_succ _)) fun _ =>
      ih (I := fun i => I (i + 1)) (fun i hi => h (i + 1) (Nat.succ_lt_succ hi))
        fun i hi => hpost (i + 1) (Nat.succ_lt_succ hi)

/-- The rule for rounds over a list that always do the same. -/
lemma Agree.forM_all {f₁ : γ → Prog ε σ₁ PUnit} {f₂ : γ → Prog ε σ₂ PUnit} {l : List γ}
    (h : ∀ c ∈ l, Agree R (fun _ => True) (f₁ c) (f₂ c)) :
    Agree R (fun _ => True) (l.forM f₁) (l.forM f₂) :=
  Agree.forM (I := fun _ _ => True) (fun i hi => h l[i] (List.getElem_mem hi))
    fun _ _ _ _ _ _ _ => trivial

/-! ### Runs -/

/-- What is known of the runs of a program carries over to a program that does the same, in the
states that correspond. -/
lemma Agree.walks {stuck bad : ε} {q₁ : ℕ → Prog ε σ₁ α} {q₂ : ℕ → Prog ε σ₂ α} {safe ends : Prop}
    (hR : ∀ s s' t, R s t → R s' t → s = s') (h : ∀ fuel, Agree R I (q₁ fuel) (q₂ fuel))
    (hq : Walks stuck bad I J q₂ safe ends) :
    Walks stuck bad (fun s => ∃ t, R s t ∧ I t) (fun a s => ∃ t, R s t ∧ J a t) q₁ safe ends := by
  have herror : ∀ {s t fuel e}, R s t → I t → q₂ fuel t = .error e → q₁ fuel s = .error e := by
    intro s t fuel e hst ht he
    have halike := h fuel s t hst ht
    rw [he] at halike
    generalize q₁ fuel s = x at halike ⊢
    cases halike
    rfl
  refine ⟨fun hsafe hends s hs => ?_, fun hsafe hends s hs fuel => ?_, fun hsafe s hs => ?_⟩
  · obtain ⟨t, hst, ht⟩ := hs
    obtain ⟨a, t', hJ, n, hok, hstuck⟩ := hq.ok hsafe hends t ht
    have hsame : ∀ fuel, n ≤ fuel → ∃ s', R s' t' ∧ q₁ fuel s = .ok (a, s') := by
      intro fuel hfuel
      have halike := h fuel s t hst ht
      rw [hok fuel hfuel] at halike
      exact halike.of_ok'
    -- the state in which the second program ends has only one that corresponds to it
    obtain ⟨s', hs', -⟩ := hsame n le_rfl
    refine ⟨a, s', ⟨t', hs', hJ⟩, n, fun fuel hfuel => ?_, fun fuel hfuel => ?_⟩
    · obtain ⟨s'', hs'', heq⟩ := hsame fuel hfuel
      rw [heq, hR s'' s' t' hs'' hs']
    · exact herror hst ht (hstuck fuel hfuel)
  · obtain ⟨t, hst, ht⟩ := hs
    exact herror hst ht (hq.never hsafe hends t ht fuel)
  · obtain ⟨t, hst, ht⟩ := hs
    obtain ⟨n, hbad, hstuck⟩ := hq.bad hsafe t ht
    exact ⟨n, fun fuel hfuel => herror hst ht (hbad fuel hfuel),
      fun fuel hfuel => herror hst ht (hstuck fuel hfuel)⟩

/-- A program that does the same as one that ends, ends too. -/
lemma Agree.endsIn {stuck : ε} {q₁ : ℕ → Prog ε σ₁ α} {q₂ : ℕ → Prog ε σ₂ α} {a : α} {s : σ₁}
    {t t' : σ₂} (hR : ∀ s s' t, R s t → R s' t → s = s')
    (h : ∀ fuel, Agree R (fun _ => True) (q₁ fuel) (q₂ fuel)) (hst : R s t)
    (hend : EndsIn stuck q₂ t (.ok (a, t'))) : ∃ s', R s' t' ∧ EndsIn stuck q₁ s (.ok (a, s')) := by
  have hwalks : Walks stuck stuck (fun t₀ => t₀ = t) (fun a₀ t₀ => a₀ = a ∧ t₀ = t') q₂ True True :=
    .of_endsIn fun _ ht => ⟨a, t', ⟨rfl, rfl⟩, ht ▸ hend⟩
  have hsame : ∀ fuel, Agree R (fun t₀ => t₀ = t) (q₁ fuel) (q₂ fuel) :=
    fun fuel => (h fuel).mono fun _ _ => trivial
  obtain ⟨_, s', ⟨_, hs', rfl, rfl⟩, hend'⟩ :=
    (Agree.walks hR hsame hwalks).ok trivial trivial s ⟨t, hst, rfl⟩
  exact ⟨s', hs', hend'⟩

/-- A run that returns was safe and has ended. -/
lemma Leaves.of_walks {σ : Type} {I : σ → Prop} {J : α → σ → Prop} {stuck bad : ε}
    {q : ℕ → Prog ε σ α} {safe ends : Prop} (h : Walks stuck bad I J q safe ends) (fuel : ℕ) :
    Leaves I (fun a t => J a t ∧ safe ∧ ends) (q fuel) := by
  intro s a t hs hrun
  by_cases hsafe : safe
  · by_cases hends : ends
    · obtain ⟨b, t', hJ, hend⟩ := h.ok hsafe hends s hs
      rcases hend.eq_or_stuck fuel with heq | heq
      · obtain ⟨rfl, rfl⟩ := Prod.mk.inj (Except.ok.inj (heq.symm.trans hrun))
        exact ⟨hJ, hsafe, hends⟩
      · cases heq.symm.trans hrun
    · cases (h.never hsafe hends s hs fuel).symm.trans hrun
  · rcases (h.bad hsafe s hs).eq_or_stuck fuel with heq | heq
    · cases heq.symm.trans hrun
    · cases heq.symm.trans hrun

/-! ### What a program returns -/

lemma Leaves.pure {σ : Type} {I : σ → Prop} {J : α → σ → Prop} {a : α} (h : ∀ s, I s → J a s) :
    Leaves I J (Pure.pure a : Prog ε σ α) := by
  intro s b t hs hrun
  obtain ⟨rfl, rfl⟩ := Prod.mk.inj (Except.ok.inj hrun)
  exact h s hs

lemma Leaves.throw {σ : Type} {I : σ → Prop} {J : α → σ → Prop} (e : ε) :
    Leaves I J (MonadExcept.throw e : Prog ε σ α) := by
  intro s a t _ hrun
  cases hrun

/-- A part of what is known before a program does not depend on the state. -/
lemma Leaves.assuming {σ : Type} {q : Prop} {I : σ → Prop} {J : α → σ → Prop} {p : Prog ε σ α}
    (h : q → Leaves I J p) : Leaves (fun s => q ∧ I s) J p :=
  fun s a t hs => h hs.1 s a t hs.2

/-- The rule for sequences. -/
lemma Leaves.bind {σ : Type} {I : σ → Prop} {J : α → σ → Prop} {K : β → σ → Prop}
    {p : Prog ε σ α} {q : α → Prog ε σ β} (hp : Leaves I J p) (hq : ∀ a, Leaves (J a) K (q a)) :
    Leaves I K (p >>= q) := by
  intro s b t hs hrun
  rw [prog_bind] at hrun
  rcases hx : p s with e | ⟨a, s'⟩
  · rw [hx] at hrun
    cases hrun
  · rw [hx] at hrun
    exact hq a s' b t (hp s a s' hs hx) hrun

/-- The rule for rounds over a list that keep something. -/
lemma Leaves.forM {σ : Type} {I : σ → Prop} {f : γ → Prog ε σ PUnit} {l : List γ}
    (h : ∀ c ∈ l, Leaves I (fun _ => I) (f c)) : Leaves I (fun _ => I) (l.forM f) := by
  induction l with
  | nil => exact .pure fun _ hs => hs
  | cons c l ih =>
    exact (h c List.mem_cons_self).bind fun _ => ih fun c hc => h c (List.mem_cons_of_mem _ hc)

/-- What the last part of a program returns. -/
lemma Leaves.last {σ : Type} {J : β → Prop} {p : Prog ε σ α} {q : α → Prog ε σ β}
    (h : ∀ a, Leaves (fun _ => True) (fun b _ => J b) (q a)) :
    Leaves (fun _ => True) (fun b _ => J b) (p >>= q) := by
  intro s b t _ hrun
  rw [prog_bind] at hrun
  rcases hp : p s with e | ⟨a, s'⟩
  · rw [hp] at hrun
    cases hrun
  · rw [hp] at hrun
    exact h a s' b t trivial hrun

lemma Leaves.ite {σ : Type} {I : σ → Prop} {J : α → σ → Prop} {c : Prop} [Decidable c]
    {p q : Prog ε σ α} (hp : Leaves I J p) (hq : Leaves I J q) :
    Leaves I J (if c then p else q) := by
  by_cases hc : c
  · rwa [if_pos hc]
  · rwa [if_neg hc]

end Rules

end Mesaflash.Lib
