import Mathlib.Data.Nat.Bitwise
import Mathlib.Logic.Function.Basic
import Mathlib.Tactic.Common

/-!
Named cells in a memory.

A layout gives each cell a place in a memory.  A memory holds the values of some cells when
each has its value at its place, and everything else is as it was before (`HoldsCells`).  This is
kept by the update of a cell that has its place for itself (`HoldsCells.update`), and so by every
sequence of such updates.

The second part is about cells that are the bits of words.
-/

namespace Mesaflash.Lib

/-! ### Layouts -/

section Layout

variable {ι Loc V : Type*} {place : ι → Loc} {S : ι → Prop} {a : ι → V} {m₀ m : Loc → V} {i : ι}

/-- The cells of `S` have the values of `a`, and what is no cell of `S` is as in `m₀`. -/
structure HoldsCells (place : ι → Loc) (S : ι → Prop) (a : ι → V) (m₀ m : Loc → V) : Prop where
  cell : ∀ i, S i → m (place i) = a i
  other : ∀ l, (∀ i, S i → place i ≠ l) → m l = m₀ l

/-- No other cell of `S` is where `i` is. -/
def Alone (place : ι → Loc) (S : ι → Prop) (i : ι) : Prop := ∀ j, S j → j ≠ i → place j ≠ place i

lemma HoldsCells.refl (m : Loc → V) : HoldsCells place S (fun i => m (place i)) m m :=
  ⟨fun _ _ => rfl, fun _ _ => rfl⟩

lemma HoldsCells.update [DecidableEq ι] [DecidableEq Loc] (h : HoldsCells place S a m₀ m) (hi : S i)
    (halone : Alone place S i) (v : V) :
    HoldsCells place S (Function.update a i v) m₀ (Function.update m (place i) v) where
  cell j hj := by
    by_cases hji : j = i
    · rw [hji, Function.update_self, Function.update_self]
    · rw [Function.update_of_ne (halone j hj hji), Function.update_of_ne hji, h.cell j hj]
  other l hl := by
    rw [Function.update_of_ne (hl i hi).symm, h.other l hl]

end Layout

/-! ### Words -/

/-- Bit `l.2` of the word `l.1`. -/
def bitOf (m : ℕ → UInt32) (l : ℕ × ℕ) : Bool := (m l.1).toNat.testBit l.2

/-- The complement of a 32-bit number. -/
def u32Not (n : ℕ) : ℕ := 2 ^ 32 - (n + 1)

/-- A word with one bit set, or cleared. -/
def withBit (w k : ℕ) (b : Bool) : ℕ := if b then w ||| 2 ^ k else w &&& u32Not (2 ^ k)

lemma testBit_withBit {w k : ℕ} (hk : k < 32) (b : Bool) {i : ℕ} (hi : i < 32) :
    (withBit w k b).testBit i = if i = k then b else w.testBit i := by
  have hpow : 2 ^ k < 2 ^ 32 := Nat.pow_lt_pow_right (by decide) hk
  cases b with
  | true =>
      rw [withBit, if_pos rfl, Nat.testBit_or, Nat.testBit_two_pow]
      split_ifs with hik
      · simp [hik]
      · simp [Ne.symm hik]
  | false =>
      rw [withBit, if_neg (by decide), Nat.testBit_and, u32Not,
        Nat.testBit_two_pow_sub_succ hpow, Nat.testBit_two_pow]
      split_ifs with hik
      · simp [hik]
      · simp [Ne.symm hik, hi]

lemma bitOf_of_ge (m : ℕ → UInt32) {l : ℕ × ℕ} (h : 32 ≤ l.2) : bitOf m l = false :=
  Nat.testBit_lt_two_pow ((m l.1).toNat_lt.trans_le (Nat.pow_le_pow_right (by decide) h))

/-- To write a word with one bit changed is to change that bit. -/
lemma bitOf_update_withBit (m : ℕ → UInt32) (addr : ℕ) {k : ℕ} (hk : k < 32) (b : Bool) :
    bitOf (Function.update m addr (withBit (m addr).toNat k b).toUInt32) =
      Function.update (bitOf m) (addr, k) b := by
  funext l
  obtain ⟨addr', i⟩ := l
  rcases Nat.lt_or_ge i 32 with hi | hi
  · by_cases haddr : addr' = addr
    · have hword : ∀ n : ℕ, n.toUInt32.toNat = n % 2 ^ 32 := fun _ => rfl
      rw [bitOf, haddr, Function.update_self, hword, Nat.testBit_mod_two_pow, decide_eq_true hi,
        Bool.true_and, testBit_withBit hk b hi]
      split_ifs with hik
      · rw [hik, Function.update_self]
      · rw [Function.update_of_ne fun h => hik (congrArg Prod.snd h), bitOf]
    · rw [bitOf, Function.update_of_ne haddr, Function.update_of_ne fun h =>
        haddr (congrArg Prod.fst h), bitOf]
  · have hne : (addr', i) ≠ (addr, k) := fun h => by
      have hik : i = k := congrArg Prod.snd h
      omega
    rw [Function.update_of_ne hne, bitOf_of_ge _ hi, bitOf_of_ge _ hi]

/-- The word of 32 bits with a 1 where the predicate holds, among the first `n` bits. -/
def maskOf (p : ℕ → Bool) (n : ℕ) : ℕ :=
  (List.range n).foldl (fun w k => if p k then w ||| 1 <<< k % 2 ^ 32 else w) 0

lemma maskOf_succ (p : ℕ → Bool) (n : ℕ) :
    maskOf p (n + 1) = if p n then maskOf p n ||| 1 <<< n % 2 ^ 32 else maskOf p n := by
  rw [maskOf, List.range_succ, List.foldl_append]
  rfl

lemma testBit_maskOf (p : ℕ → Bool) (n : ℕ) {i : ℕ} (hi : i < 32) :
    (maskOf p n).testBit i = (decide (i < n) && p i) := by
  induction n with
  | zero => simp [maskOf]
  | succ n ih =>
    have hone : (1 <<< n % 2 ^ 32).testBit i = decide (i = n) := by
      rw [Nat.testBit_mod_two_pow, Nat.one_shiftLeft, Nat.testBit_two_pow]
      simp [hi, eq_comm]
    have hlt : i ≠ n → decide (i < n + 1) = decide (i < n) := by
      intro hin
      rw [decide_eq_decide]
      omega
    rw [maskOf_succ]
    split
    · rename_i hp
      rw [Nat.testBit_or, hone, ih]
      by_cases hin : i = n
      · simp [hin, hp]
      · rw [hlt hin, decide_eq_false hin, Bool.or_false]
    · rename_i hp
      rw [ih]
      by_cases hin : i = n
      · simp [hin, hp]
      · rw [hlt hin]

end Mesaflash.Lib
