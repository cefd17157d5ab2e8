import Mathlib.Data.Int.ModEq
import Mathlib.Tactic.Linarith
import Mathlib.Tactic.Ring

/-!
Counters that wrap.

A counter shows a position modulo a number.  The difference of two readings tells the change
of the position when that is small, and an accumulator that adds these differences, and wraps
itself at some greater number, still tells every change that fits.
-/

namespace Mesaflash.Lib

/-- The correction of the difference of two readings of a counter modulo `2 * h`. -/
def unwrapDiff (h d : ℤ) : ℤ :=
  if d > h then d - 2 * h else if d < -h then d + 2 * h else d

lemma unwrapDiff_modEq (h d : ℤ) : unwrapDiff h d ≡ d [ZMOD 2 * h] := by
  unfold unwrapDiff
  rw [Int.modEq_iff_dvd]
  -- each of the corrections is a multiple of the modulus
  split_ifs
  · exact ⟨1, by ring⟩
  · exact ⟨-1, by ring⟩
  · exact ⟨0, by ring⟩

lemma unwrapDiff_bounds {h d : ℤ} (hlo : -(2 * h) < d) (hhi : d < 2 * h) :
    -h ≤ unwrapDiff h d ∧ unwrapDiff h d ≤ h := by
  unfold unwrapDiff
  constructor <;> split_ifs <;> linarith

lemma bmod_modEq (x : ℤ) (m : ℕ) : x.bmod m ≡ x [ZMOD m] := Int.bmod_emod

/-- Two numbers that agree modulo `m` and lie in one window of that length are equal. -/
lemma eq_of_modEq_of_window {m a b l : ℤ} (h : a ≡ b [ZMOD m]) (ha : l ≤ a ∧ a < l + m)
    (hb : l ≤ b ∧ b < l + m) : a = b := by
  obtain ⟨k, hk⟩ := Int.modEq_iff_dvd.1 h
  have hm : 0 < m := by linarith [ha.1, ha.2]
  have h₁ : k < 1 := by
    by_contra hc
    have := Int.mul_le_mul_of_nonneg_left (show (1 : ℤ) ≤ k by linarith) hm.le
    linarith [ha.1, hb.2]
  have h₂ : -1 < k := by
    by_contra hc
    have := Int.mul_le_mul_of_nonneg_left (show k ≤ (-1 : ℤ) by linarith) hm.le
    linarith [ha.2, hb.1]
  obtain rfl : k = 0 := by omega
  linarith

/-- A change of less than half the modulus is recovered from the two readings. -/
lemma unwrapDiff_eq {h a b : ℤ} (hlo : -h < b - a) (hhi : b - a < h) :
    unwrapDiff h (b % (2 * h) - a % (2 * h)) = b - a := by
  have hpos : 0 < 2 * h := by linarith
  have ha := And.intro (Int.emod_nonneg a hpos.ne') (Int.emod_lt_of_pos a hpos)
  have hb := And.intro (Int.emod_nonneg b hpos.ne') (Int.emod_lt_of_pos b hpos)
  have hbound := unwrapDiff_bounds (h := h) (d := b % (2 * h) - a % (2 * h))
    (by linarith [ha.2, hb.1]) (by linarith [ha.1, hb.2])
  have hcongr : unwrapDiff h (b % (2 * h) - a % (2 * h)) ≡ b - a [ZMOD 2 * h] :=
    (unwrapDiff_modEq h _).trans ((Int.mod_modEq b _).sub (Int.mod_modEq a _))
  -- the corrected difference may be `h` itself, which is no change of less than `h`
  rcases hbound.2.lt_or_eq with hlt | heq
  · exact eq_of_modEq_of_window hcongr ⟨hbound.1, by linarith⟩ ⟨hlo.le, by linarith⟩
  · rw [heq] at hcongr ⊢
    exact eq_of_modEq_of_window (l := -h + 1) hcongr ⟨by linarith, by linarith⟩
      ⟨by linarith, by linarith⟩

/-- The accumulator `raw` follows `pos` modulo `m`, step by step. -/
def Follows (m : ℤ) (raw pos : ℕ → ℤ) : Prop :=
  ∀ n, raw (n + 1) ≡ raw n + (pos (n + 1) - pos n) [ZMOD m]

section Follows

variable {m : ℤ} {raw pos : ℕ → ℤ}

lemma Follows.modEq_zero (h : Follows m raw pos) (n : ℕ) :
    raw n ≡ raw 0 + (pos n - pos 0) [ZMOD m] := by
  induction n with
  | zero => simp only [sub_self, add_zero]; exact Int.ModEq.refl _
  | succ n ih =>
    have hstep := (h n).trans (ih.add_right (pos (n + 1) - pos n))
    rwa [show raw 0 + (pos n - pos 0) + (pos (n + 1) - pos n) = raw 0 + (pos (n + 1) - pos 0) by
      ring] at hstep

lemma Follows.modEq (h : Follows m raw pos) (i j : ℕ) :
    raw j ≡ raw i + (pos j - pos i) [ZMOD m] := by
  have hj := h.modEq_zero j
  have hi := (h.modEq_zero i).add_right (pos j - pos i)
  rw [show raw 0 + (pos i - pos 0) + (pos j - pos i) = raw 0 + (pos j - pos 0) by ring] at hi
  exact hj.trans hi.symm

/-- Where the sum fits, the accumulator has changed as the position has.  The sums between
may have wrapped. -/
lemma Follows.eq_of_window (h : Follows m raw pos) {l : ℤ} {i j : ℕ}
    (hraw : l ≤ raw j ∧ raw j < l + m)
    (hfit : l ≤ raw i + (pos j - pos i) ∧ raw i + (pos j - pos i) < l + m) :
    raw j - raw i = pos j - pos i := by
  have := eq_of_modEq_of_window (h.modEq i j) hraw hfit
  linarith

end Follows

end Mesaflash.Lib
