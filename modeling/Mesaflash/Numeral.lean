import Mesaflash.CmdLine

/-!
Numbers that are written with digits.

`strtol` takes the digits that a text starts with and saturates where the number does not fit
into a `long`, whose size depends on the host.
-/

namespace Mesaflash

open Lib

/-! ### Digits -/

/-- A digit in a base up to 16. -/
def isDigitIn (base : ℕ) (c : UInt8) : Bool := ((hexDigit c).filter (·.toNat < base)).isSome

/-- The number that digits stand for. -/
def numeralValue (base : ℕ) (p : CStr) : ℕ :=
  p.foldl (fun n c => base * n + ((hexDigit c).getD 0).toNat) 0

/-- A text of digits, one at least. -/
def IsNumeral (base : ℕ) (p : CStr) : Prop := p ≠ [] ∧ ∀ c ∈ p, isDigitIn base c = true

instance (base : ℕ) : DecidablePred (IsNumeral base) := fun p =>
  inferInstanceAs (Decidable (p ≠ [] ∧ ∀ c ∈ p, isDigitIn base c = true))

section Digits

variable {base : ℕ} {c : UInt8} {p q : CStr}

lemma isDigitIn_iff : isDigitIn base c = true ↔ ∃ d, hexDigit c = some d ∧ d.toNat < base := by
  rw [isDigitIn]
  cases hexDigit c with
  | none => simp
  | some d => simp [Option.filter]

/-- What a digit is not. -/
lemma le_of_isDigitIn (h : isDigitIn base c = true) :
    48 ≤ c.toNat ∧ c ≠ 61 ∧ c ≠ 88 ∧ c ≠ 120 := by
  obtain ⟨d, hd, -⟩ := isDigitIn_iff.1 h
  have hne : ∀ x : UInt8, c.toNat ≠ x.toNat → c ≠ x := fun x hx heq => hx (heq ▸ rfl)
  have hcases : (48 ≤ c.toNat ∧ c.toNat ≤ 57) ∨ (97 ≤ c.toNat ∧ c.toNat ≤ 102) ∨
      (65 ≤ c.toNat ∧ c.toNat ≤ 70) := by
    rw [hexDigit] at hd
    split_ifs at hd with h₁ h₂ h₃
    · exact .inl h₁
    · exact .inr (.inl h₂)
    · exact .inr (.inr h₃)
  have h61 : (61 : UInt8).toNat = 61 := rfl
  have h88 : (88 : UInt8).toNat = 88 := rfl
  have h120 : (120 : UInt8).toNat = 120 := rfl
  exact ⟨by omega, hne 61 (by omega), hne 88 (by omega), hne 120 (by omega)⟩

/-- A leading zero does not count. -/
lemma numeralValue_zero_cons (p : CStr) : numeralValue base (48 :: p) = numeralValue base p := by
  have hzero : ((hexDigit 48).getD 0).toNat = 0 := rfl
  rw [numeralValue, List.foldl_cons, hzero, Nat.mul_zero, Nat.add_zero]
  rfl

end Digits

/-! ### strtol -/

/-- The size of a `long`. -/
inductive LongSize where
  | long32
  | long64
deriving DecidableEq, Repr

/-- `LONG_MAX`. -/
def LongSize.max : LongSize → ℤ
  | .long32 => 2 ^ 31 - 1
  | .long64 => 2 ^ 63 - 1

/-- The sign of a number, and what is behind it. -/
def takeSign : CStr → Bool × CStr
  | 43 :: t => (false, t)
  | 45 :: t => (true, t)
  | t => (false, t)

/-- The prefix of a hexadecimal number is skipped, if there is a digit behind it. -/
def skipHex (base : ℕ) : CStr → CStr
  | 48 :: c :: d :: u =>
    if base = 16 ∧ (c = 120 ∨ c = 88) ∧ (hexDigit d).isSome then d :: u else 48 :: c :: d :: u
  | t => t

/-- `strtol` in base 10 or 16. -/
def strtolOn (size : LongSize) (base : ℕ) (s : CStr) : ℤ :=
  let (negative, t) := takeSign (s.dropWhile isSpace)
  let n : ℤ := numeralValue base ((skipHex base t).takeWhile (isDigitIn base))
  max (-size.max - 1) (min size.max (if negative then -n else n))

section Strtol

variable {size : LongSize} {base : ℕ} {p : CStr}

lemma toNat_of_isSpace {c : UInt8} (h : isSpace c = true) : c.toNat ≤ 32 := by
  simp only [isSpace, Bool.or_eq_true, beq_iff_eq, Bool.and_eq_true, decide_eq_true_eq] at h
  rcases h with rfl | ⟨-, hle⟩
  · decide
  · have hle' : c.toNat ≤ 13 := hle
    omega

lemma takeSign_digits (hp : ∀ c ∈ p, isDigitIn base c = true) : takeSign p = (false, p) := by
  cases p with
  | nil => rfl
  | cons c u =>
      obtain ⟨hlow, -⟩ := le_of_isDigitIn (hp c List.mem_cons_self)
      have hplus : c ≠ 43 := fun h => absurd hlow (h ▸ by decide)
      have hminus : c ≠ 45 := fun h => absurd hlow (h ▸ by decide)
      simp [takeSign, hplus, hminus]

lemma skipHex_digits (hp : ∀ c ∈ p, isDigitIn base c = true) : skipHex base p = p := by
  rcases p with _ | ⟨a, _ | ⟨c, _ | ⟨d, u⟩⟩⟩
  · rfl
  · simp [skipHex]
  · simp [skipHex]
  · obtain ⟨-, -, hupper, hlower⟩ :=
      le_of_isDigitIn (hp c (List.mem_cons_of_mem _ List.mem_cons_self))
    by_cases ha : a = 48
    · subst ha
      simp [skipHex, hupper, hlower]
    · simp [skipHex, ha]

/-- A text of digits is taken as a whole. -/
lemma strtolOn_numeral (hp : IsNumeral base p) :
    strtolOn size base p = min size.max (numeralValue base p) := by
  obtain ⟨hne, hdigits⟩ := hp
  have hspace : p.dropWhile isSpace = p := by
    refine List.dropWhile_eq_self_iff.2 fun hpos hhead => ?_
    obtain ⟨hlow, -⟩ := le_of_isDigitIn (hdigits _ (List.getElem_mem hpos))
    exact absurd (toNat_of_isSpace hhead) (by omega)
  have htake : p.takeWhile (isDigitIn base) = p := List.takeWhile_eq_self_iff.2 hdigits
  have hmax : 0 ≤ size.max := by cases size <;> decide
  rw [strtolOn, hspace, takeSign_digits hdigits]
  simp only [skipHex_digits hdigits, htake, Bool.false_eq_true, if_false]
  omega

end Strtol

/-- The number that `strtol` adds up. -/
lemma foldl_eq_numeralValue {base : ℕ} {p : CStr} (hp : ∀ c ∈ p, isDigitIn base c = true) :
    p.foldl (fun (n : ℤ) c => base * n + (((hexDigit c).filter (·.toNat < base)).getD 0).toNat) 0 =
      numeralValue base p := by
  have hfrom : ∀ n : ℕ, p.foldl (fun (n : ℤ) c =>
      base * n + (((hexDigit c).filter (·.toNat < base)).getD 0).toNat) n =
        (p.foldl (fun n c => base * n + ((hexDigit c).getD 0).toNat) n : ℕ) := by
    induction p with
    | nil => exact fun _ => rfl
    | cons c p ih =>
        intro n
        obtain ⟨d, hd, hlt⟩ := isDigitIn_iff.1 (hp c List.mem_cons_self)
        have hstep : (base * n + (((hexDigit c).filter (·.toNat < base)).getD 0).toNat : ℤ) =
            (base * n + ((hexDigit c).getD 0).toNat : ℕ) := by
          simp [hd, Option.filter, hlt]
        rw [List.foldl_cons, List.foldl_cons, hstep]
        exact ih (fun c hc => hp c (List.mem_cons_of_mem _ hc)) _
  exact hfrom 0

/-- With 64 bits it is the function that the options use. -/
lemma strtolOn_long64 : strtolOn .long64 = strtol := by
  funext base s
  rw [strtolOn]
  simp only [← foldl_eq_numeralValue fun c hc => List.mem_takeWhile_imp hc]
  rfl

end Mesaflash
