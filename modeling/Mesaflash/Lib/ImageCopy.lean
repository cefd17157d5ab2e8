import Mathlib.Data.Nat.Basic
import Mathlib.Tactic.Common

/-!
Copying from an image.

When parts of a memory are copied from one image, it does not matter in what order, and
whether the parts overlap: what was copied at all is as in the image, and the rest is as
before (`foldl_copyFrom`).  Windows of equal size at equal distances cover an interval
(`exists_window_iff`).
-/

namespace Mesaflash.Lib

section Copy

variable {ι Loc V : Type*} (f : Loc → V)

/-- The memory `m` after the places of `S` were copied from the image `f`. -/
def copyFrom (S : Loc → Prop) [DecidablePred S] (m : Loc → V) : Loc → V :=
  fun a => if S a then f a else m a

variable {f} {S : Loc → Prop} [DecidablePred S] {m : Loc → V} {a : Loc}

lemma copyFrom_of_mem (h : S a) : copyFrom f S m a = f a := if_pos h

lemma copyFrom_of_not_mem (h : ¬ S a) : copyFrom f S m a = m a := if_neg h

/-- Only what is copied of the image matters. -/
lemma copyFrom_congr {f' : Loc → V} (h : ∀ a, S a → f a = f' a) :
    copyFrom f S m = copyFrom f' S m := by
  funext a
  by_cases ha : S a
  · rw [copyFrom_of_mem ha, copyFrom_of_mem ha, h a ha]
  · rw [copyFrom_of_not_mem ha, copyFrom_of_not_mem ha]

variable (f) in
/-- Copies of parts of one image, one after the other. -/
lemma foldl_copyFrom (S : ι → Loc → Prop) [∀ i, DecidablePred (S i)] (a : Loc) (l : List ι) :
    ∀ m : Loc → V, ((∃ i ∈ l, S i a) → l.foldl (fun m i => copyFrom f (S i) m) m a = f a) ∧
      ((¬ ∃ i ∈ l, S i a) → l.foldl (fun m i => copyFrom f (S i) m) m a = m a) := by
  induction l with
  | nil =>
      intro m
      refine ⟨?_, fun _ => rfl⟩
      rintro ⟨i, hi, -⟩
      cases hi
  | cons i l ih =>
      intro m
      obtain ⟨hcopied, hkept⟩ := ih (copyFrom f (S i) m)
      by_cases hl : ∃ j ∈ l, S j a
      · refine ⟨fun _ => hcopied hl, fun h => absurd ?_ h⟩
        obtain ⟨j, hj, hja⟩ := hl
        exact ⟨j, List.mem_cons_of_mem i hj, hja⟩
      · constructor
        · -- only the first copy has the place
          rintro ⟨j, hj, hja⟩
          obtain rfl : j = i := (List.mem_cons.1 hj).resolve_right fun h => hl ⟨j, h, hja⟩
          exact (hkept hl).trans (copyFrom_of_mem hja)
        · intro h
          exact (hkept hl).trans (copyFrom_of_not_mem fun hi => h ⟨i, List.mem_cons_self, hi⟩)

end Copy

/-! ### Windows -/

/-- The window of `n` places from `d` on. -/
def Window (d n a : ℕ) : Prop := d ≤ a ∧ a < d + n

instance (d n : ℕ) : DecidablePred (Window d n) := fun a =>
  inferInstanceAs (Decidable (d ≤ a ∧ a < d + n))

/-- Windows that leave no gap cover an interval. -/
lemma exists_window_iff {d s z n a : ℕ} (hs : 0 < s) (hz : s ≤ z) :
    (∃ i ∈ List.range (n + 1), Window (d + s * i) z a) ↔ Window d (s * n + z) a := by
  constructor
  · rintro ⟨i, hi, hge, hlt⟩
    have hle : s * i ≤ s * n := Nat.mul_le_mul_left s (Nat.le_of_lt_succ (List.mem_range.1 hi))
    exact ⟨by omega, by omega⟩
  · rintro ⟨hge, hlt⟩
    have hdiv := Nat.div_add_mod (a - d) s
    have hmod : (a - d) % s < s := Nat.mod_lt _ hs
    rcases Nat.lt_or_ge n ((a - d) / s) with hn | hn
    · have hle : s * n ≤ s * ((a - d) / s) := Nat.mul_le_mul_left s (Nat.le_of_lt hn)
      exact ⟨n, List.mem_range.2 (Nat.lt_succ_self n), by omega, by omega⟩
    · exact ⟨(a - d) / s, List.mem_range.2 (Nat.lt_succ_of_le hn), by omega, by omega⟩

end Mesaflash.Lib
