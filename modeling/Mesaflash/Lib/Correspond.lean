import Mesaflash.Lib.PagedCopy

/-!
A program on two machines.

A program that is run on two machines does the same on both as long as the machines
answer alike.  Two outcomes correspond when both are results, related by `R`, or both are
errors, related by `E`.  The rules follow the way a program is put together: sequences,
conditionals, counted loops, loops that pass an address on, and loops that read a stream.
-/

namespace Mesaflash.Lib

variable {ε ε' α α' β β' γ A : Type}

/-- Two results that `R` relates, or two errors that `E` relates. -/
inductive Corresponds (R : α → α' → Prop) (E : ε → ε' → Prop) :
    Except ε α → Except ε' α' → Prop
  | ok {a : α} {a' : α'} (h : R a a') : Corresponds R E (.ok a) (.ok a')
  | error {e : ε} {e' : ε'} (h : E e e') : Corresponds R E (.error e) (.error e')

section Rules

variable {R : α → α' → Prop} {S : β → β' → Prop} {E : ε → ε' → Prop} {x : Except ε α}
  {x' : Except ε' α'}

lemma Corresponds.mono {R' : α → α' → Prop} (hx : Corresponds R E x x')
    (h : ∀ a a', R a a' → R' a a') : Corresponds R' E x x' := by
  cases hx with
  | ok hR => exact .ok (h _ _ hR)
  | error hE => exact .error hE

lemma Corresponds.of_ok {a : α} (h : Corresponds R E (.ok a) x') : ∃ a', x' = .ok a' ∧ R a a' := by
  cases h with
  | ok h => exact ⟨_, rfl, h⟩

lemma Corresponds.of_ok' {a' : α'} (h : Corresponds R E x (.ok a')) : ∃ a, x = .ok a ∧ R a a' := by
  cases h with
  | ok h => exact ⟨_, rfl, h⟩

/-- One program that does not depend on the machine. -/
lemma Corresponds.refl (x : Except ε α) : Corresponds Eq Eq x x := by
  cases x with
  | ok a => exact .ok rfl
  | error e => exact .error rfl

/-- Two programs that correspond to the same one correspond to each other. -/
lemma Corresponds.span {α'' : Type} {R' : α → α'' → Prop} {x'' : Except ε' α''} {x : Except ε' α}
    (hx : Corresponds R Eq x x') (hx' : Corresponds R' Eq x x'') :
    Corresponds (fun a' a'' => ∃ a, R a a' ∧ R' a a'') Eq x' x'' := by
  cases hx with
  | ok h =>
      cases hx' with
      | ok h' => exact .ok ⟨_, h, h'⟩
  | error h =>
      cases hx' with
      | error h' => exact .error (h.symm.trans h')

/-- The rule for sequences. -/
lemma Corresponds.bind {f : α → Except ε β} {f' : α' → Except ε' β'} (hx : Corresponds R E x x')
    (hf : ∀ a a', R a a' → Corresponds S E (f a) (f' a')) :
    Corresponds S E (x >>= f) (x' >>= f') := by
  cases hx with
  | ok hR => exact hf _ _ hR
  | error hE => exact .error hE

/-- The rule for conditionals. -/
lemma Corresponds.ite {c c' : Prop} [Decidable c] [Decidable c'] {y : Except ε α}
    {y' : Except ε' α'} (hc : c ↔ c') (hx : c' → Corresponds R E x x')
    (hy : ¬ c' → Corresponds R E y y') :
    Corresponds R E (if c then x else y) (if c' then x' else y') := by
  by_cases h : c'
  · rw [if_pos h, if_pos (hc.2 h)]
    exact hx h
  · rw [if_neg h, if_neg (mt hc.1 h)]
    exact hy h

/-- The rule for counted loops. -/
lemma Corresponds.foldlM {f : α → γ → Except ε α} {f' : α' → γ → Except ε' α'} {l : List γ}
    (hf : ∀ c ∈ l, ∀ a a', R a a' → Corresponds R E (f a c) (f' a' c)) {a : α} {a' : α'}
    (ha : R a a') : Corresponds R E (l.foldlM f a) (l.foldlM f' a') := by
  induction l generalizing a a' with
  | nil => exact .ok ha
  | cons c l ih =>
      rw [List.foldlM_cons, List.foldlM_cons]
      refine (hf c List.mem_cons_self a a' ha).bind fun b b' hb => ?_
      exact ih (fun d hd => hf d (List.mem_cons_of_mem c hd)) hb

/-- The rule for while loops. -/
lemma Corresponds.whileM {stuck : ε} {stuck' : ε'} (hstuck : E stuck stuck') {cond : α → Bool}
    {cond' : α' → Bool} {body : α → Except ε α} {body' : α' → Except ε' α'}
    (hcond : ∀ a a', R a a' → cond a = cond' a')
    (hbody : ∀ a a', R a a' → Corresponds R E (body a) (body' a')) (fuel : ℕ) {a : α} {a' : α'}
    (ha : R a a') :
    Corresponds R E (Lib.whileM stuck cond body fuel a)
      (Lib.whileM stuck' cond' body' fuel a') := by
  induction fuel generalizing a a' with
  | zero => exact .error hstuck
  | succ fuel ih =>
      have hc := hcond a a' ha
      cases ht : cond' a' with
      | false =>
          rw [whileM_done (hc.trans ht), whileM_done ht]
          exact .ok ha
      | true =>
          rw [whileM_round (hc.trans ht), whileM_round ht]
          exact (hbody a a' ha).bind fun _ _ => ih

end Rules

/-! ### Loops with a running address -/

section Address

variable {τ τ' : Type} {R : τ → τ' → Prop} {E : ε → ε' → Prop} {I : A → Prop} {next : A → A}

/-- Two loops are at the same address, which satisfies `I`, in states that correspond. -/
structure AtAddress (I : A → Prop) (R : τ → τ' → Prop) (s : A × τ) (s' : A × τ') : Prop where
  addr : s.1 = s'.1
  inv : I s.1
  state : R s.2 s'.2

/-- The rule for one round with a running address. -/
lemma corresponds_stride (hnext : ∀ a, I a → I (next a)) {step : ℕ → A → τ → Except ε τ}
    {step' : ℕ → A → τ' → Except ε' τ'} {j : ℕ}
    (hstep : ∀ a t t', I a → R t t' → Corresponds R E (step j a t) (step' j a t')) {s : A × τ}
    {s' : A × τ'} (h : AtAddress I R s s') :
    Corresponds (AtAddress I R) E (stride next step s j) (stride next step' s' j) := by
  obtain ⟨a, t⟩ := s
  obtain ⟨a', t'⟩ := s'
  obtain ⟨rfl, hI, hR⟩ := h
  exact (hstep a t t' hI hR).bind fun _ _ hR' => .ok ⟨rfl, hnext a hI, hR'⟩

/-- The rule for the pages of a chunk. -/
lemma corresponds_pageChunk {g : ℕ} (hnext : ∀ a, I a → I (next a))
    {step : (ℕ → UInt8) → A → (Fin g → UInt8) → τ → Except ε τ}
    {step' : (ℕ → UInt8) → A → (Fin g → UInt8) → τ' → Except ε' τ'}
    (hstep : ∀ buf a page t t', I a → R t t' →
      Corresponds R E (step buf a page t) (step' buf a page t')) (buf : ℕ → UInt8) (n : ℕ)
    {s : A × τ} {s' : A × τ'} (h : AtAddress I R s s') :
    Corresponds (AtAddress I R) E (pageChunk next step buf n s)
      (pageChunk next step' buf n s') := by
  refine Corresponds.foldlM (fun j _ t t' ht => ?_) h
  have hround : ∀ a t t', I a → R t t' →
      Corresponds R E (step buf a (pageAt g buf j) t) (step' buf a (pageAt g buf j) t') :=
    fun a t t' hI hR => hstep buf a _ t t' hI hR
  exact corresponds_stride hnext hround ht

end Address

/-! ### Loops that read a stream -/

section Reading

variable {τ τ' : Type} {R : τ → τ' → Prop} {E : ε → ε' → Prop}

/-- Two loops have read the same of a stream, in states that correspond. -/
structure ReadAlike (R : τ → τ' → Prop) (s : ReadState τ) (s' : ReadState τ') : Prop where
  fp : s.fp = s'.fp
  buf : s.buf = s'.buf
  st : R s.st s'.st

/-- The rule for loops that read a stream in chunks. -/
lemma corresponds_readLoop {stuck : ε} {stuck' : ε'} (hstuck : E stuck stuck') {c : ℕ}
    {act : (ℕ → UInt8) → ℕ → τ → Except ε τ} {act' : (ℕ → UInt8) → ℕ → τ' → Except ε' τ'}
    (hact : ∀ buf n t t', R t t' → Corresponds R E (act buf n t) (act' buf n t'))
    {s : ReadState τ} {s' : ReadState τ'} (h : ReadAlike R s s') :
    Corresponds (ReadAlike R) E (readLoop stuck c act s) (readLoop stuck' c act' s') := by
  rw [readLoop, readLoop, h.fp]
  refine Corresponds.whileM hstuck (fun t t' ht => by rw [ht.fp]) (fun t t' ht => ?_) _ h
  rw [readRound_eq, readRound_eq, ht.fp, ht.buf]
  exact (hact _ _ _ _ ht.st).bind fun _ _ hst => .ok ⟨rfl, rfl, hst⟩

end Reading

end Mesaflash.Lib
