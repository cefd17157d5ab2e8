import Mathlib.Data.Nat.Bitwise
import Mathlib.Tactic.Common

/-!
The order of bytes and bits in a serial transfer.

A controller sends a buffer in units of some bytes.  The host stores the least significant
byte of a unit first, and the controller sends the most significant bit of a unit first.  So
the bytes of each unit are sent in reversed order: a transfer in units is a transfer in bytes of
the buffer whose units were reversed, in both directions (`wireBits_reverseUnits`,
`reverseUnits_wireStore`).
-/

namespace Mesaflash.Lib

/-! ### Bytes -/

/-- What holds of the 256 numbers holds of every byte. -/
lemma forall_byte {P : UInt8 → Prop} (h : ∀ n < 256, P (UInt8.ofNat n)) (b : UInt8) : P b := by
  have hb := h b.toNat b.toNat_lt
  rwa [UInt8.ofNat_toNat] at hb

/-! ### Numbers in a buffer and on the wire -/

/-- The number in some bytes of a buffer, the least significant byte first. -/
def leWord (m : ℕ → UInt8) : ℕ → ℕ → ℕ
  | _, 0 => 0
  | a, k + 1 => (m a).toNat + 256 * leWord m (a + 1) k

/-- The number of some bits on the wire, the most significant bit first. -/
def msbWord (b : ℕ → Bool) : ℕ → ℕ
  | 0 => 0
  | n + 1 => 2 * msbWord b n + (b n).toNat

lemma leWord_congr {m m' : ℕ → UInt8} {a k : ℕ} (h : ∀ i < k, m (a + i) = m' (a + i)) :
    leWord m a k = leWord m' a k := by
  induction k generalizing a with
  | zero => rfl
  | succ k ih =>
      have hrest : ∀ i < k, m (a + 1 + i) = m' (a + 1 + i) := fun i hi => by
        rw [Nat.add_assoc, Nat.add_comm 1 i]
        exact h (i + 1) (Nat.succ_lt_succ hi)
      rw [leWord, leWord, ih hrest, ← Nat.add_zero a, h 0 (Nat.succ_pos k)]

lemma testBit_leWord (m : ℕ → UInt8) {a k n : ℕ} (hn : n < 8 * k) :
    (leWord m a k).testBit n = (m (a + n / 8)).toNat.testBit (n % 8) := by
  induction k generalizing a n with
  | zero => exact absurd hn (Nat.not_lt_zero n)
  | succ k ih =>
      have hbyte : (m a).toNat < 2 ^ 8 := (m a).toNat_lt
      rw [leWord, Nat.add_comm, show 256 = 2 ^ 8 from rfl,
        Nat.testBit_two_pow_mul_add _ hbyte]
      split_ifs with hlt
      · rw [Nat.div_eq_of_lt hlt, Nat.mod_eq_of_lt hlt, Nat.add_zero]
      · rw [ih (by omega), show a + 1 + (n - 8) / 8 = a + n / 8 by omega,
          show (n - 8) % 8 = n % 8 by omega]

lemma testBit_msbWord (b : ℕ → Bool) {n j : ℕ} (hj : j < n) :
    (msbWord b n).testBit j = b (n - 1 - j) := by
  induction n generalizing j with
  | zero => exact absurd hj (Nat.not_lt_zero j)
  | succ n ih =>
      cases j with
      | zero =>
          rw [msbWord, Nat.testBit_zero, Nat.add_sub_cancel, Nat.sub_zero]
          cases b n <;> simp
      | succ j =>
          have hhalf : (2 * msbWord b n + (b n).toNat) / 2 = msbWord b n := by
            have hbit := (b n).toNat_le
            omega
          rw [msbWord, Nat.testBit_succ, hhalf, ih (by omega)]
          congr 1
          omega

/-- Bytes with the same bits are the same. -/
lemma byte_ext {x y : UInt8} (h : ∀ j < 8, x.toNat.testBit j = y.toNat.testBit j) : x = y := by
  refine UInt8.toNat_inj.1 (Nat.eq_of_testBit_eq fun j => ?_)
  rcases Nat.lt_or_ge j 8 with hlt | hge
  · exact h j hlt
  · have hpow : 2 ^ 8 ≤ 2 ^ j := Nat.pow_le_pow_right (by decide) hge
    rw [Nat.testBit_lt_two_pow (lt_of_lt_of_le x.toNat_lt hpow),
      Nat.testBit_lt_two_pow (lt_of_lt_of_le y.toNat_lt hpow)]

/-! ### A transfer in units of `k` bytes -/

section Transfer

variable (k : ℕ)

/-- The bit that is sent at a clock. -/
def wireBit (m : ℕ → UInt8) (i : ℕ) : Bool :=
  (leWord m (k * (i / (8 * k))) k).testBit (8 * k - 1 - i % (8 * k))

/-- The bits of a buffer of `len` bytes. -/
def wireBits (m : ℕ → UInt8) (len : ℕ) : List Bool := (List.range (8 * len)).map (wireBit k m)

/-- The buffer after the bits of a reply have been stored. -/
def wireStore (b : ℕ → Bool) (len : ℕ) (m : ℕ → UInt8) : ℕ → UInt8 := fun a =>
  if a < len then
    (msbWord (fun i => b (8 * k * (a / k) + i)) (8 * k) / 2 ^ (8 * (a % k))).toUInt8
  else m a

/-- The place of a byte in its unit is reversed. -/
def mirror (a : ℕ) : ℕ := k * (a / k) + (k - 1 - a % k)

/-- The bytes of the first `n` units are reversed. -/
def reverseUnits (n : ℕ) (m : ℕ → UInt8) : ℕ → UInt8 := fun a =>
  if a < k * n then m (mirror k a) else m a

variable {k}

lemma wireBit_eq (hk : 0 < k) (m : ℕ → UInt8) (i : ℕ) :
    wireBit k m i = (m (mirror k (i / 8))).toNat.testBit (7 - i % 8) := by
  have hr : i % (8 * k) < 8 * k := Nat.mod_lt i (by omega)
  have hmod : i % (8 * k) % 8 = i % 8 := Nat.mod_mod_of_dvd i (Nat.dvd_mul_right 8 k)
  have hdiv : i / (8 * k) = i / 8 / k := (Nat.div_div_eq_div_mul i 8 k).symm
  have hrest : i % (8 * k) / 8 = i / 8 % k := Nat.mod_mul_right_div_self i 8 k
  rw [wireBit, testBit_leWord m (by omega), mirror, hdiv, ← hrest,
    show (8 * k - 1 - i % (8 * k)) / 8 = k - 1 - i % (8 * k) / 8 by omega,
    show (8 * k - 1 - i % (8 * k)) % 8 = 7 - i % 8 by omega]

lemma testBit_wireStore (hk : 0 < k) (b : ℕ → Bool) {len a j : ℕ} (m : ℕ → UInt8) (ha : a < len)
    (hj : j < 8) :
    (wireStore k b len m a).toNat.testBit j = b (8 * mirror k a + (7 - j)) := by
  have hmod : a % k < k := Nat.mod_lt a hk
  have hbyte : ∀ x : ℕ, x.toUInt8.toNat = x % 2 ^ 8 := fun _ => rfl
  rw [wireStore, if_pos ha, hbyte, Nat.testBit_mod_two_pow, decide_eq_true hj, Bool.true_and,
    Nat.testBit_div_two_pow, testBit_msbWord _ (by omega), mirror, Nat.mul_assoc]
  congr 1
  omega

lemma mirror_one (a : ℕ) : mirror 1 a = a := by
  rw [mirror]
  omega

/-- Whole units are mirrored into themselves. -/
lemma mirror_lt (hk : 0 < k) {a n : ℕ} (ha : a < k * n) : mirror k a < k * n := by
  have hmod : a % k < k := Nat.mod_lt a hk
  have hunit : a / k < n := Nat.div_lt_of_lt_mul ha
  calc mirror k a < k * (a / k) + k := by rw [mirror]; omega
    _ = k * (a / k + 1) := (Nat.mul_succ k (a / k)).symm
    _ ≤ k * n := Nat.mul_le_mul_left k hunit

/-- A transfer in bytes of the buffer with reversed units sends the bits of a transfer in
units. -/
theorem wireBits_reverseUnits (hk : 0 < k) (n : ℕ) (m : ℕ → UInt8) :
    wireBits 1 (reverseUnits k n m) (k * n) = wireBits k m (k * n) := by
  refine List.map_congr_left fun i hi => ?_
  have hlt : i / 8 < k * n := by
    have := List.mem_range.1 hi
    omega
  rw [wireBit_eq Nat.one_pos, wireBit_eq hk, mirror_one, reverseUnits, if_pos hlt]

/-- The bytes of a reply with reversed units are those of a transfer in units. -/
theorem reverseUnits_wireStore (hk : 0 < k) (n : ℕ) (b : ℕ → Bool) (m m' : ℕ → UInt8) {a : ℕ}
    (ha : a < k * n) :
    reverseUnits k n (wireStore 1 b (k * n) m) a = wireStore k b (k * n) m' a := by
  have hmirror := mirror_lt hk ha
  rw [reverseUnits, if_pos ha]
  refine byte_ext fun j hj => ?_
  rw [testBit_wireStore Nat.one_pos b m hmirror hj, testBit_wireStore hk b m' ha hj, mirror_one]

end Transfer

end Mesaflash.Lib
