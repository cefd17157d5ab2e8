import Mesaflash.FpgaProgram

/-!
Resetting an FPGA behind a PLX 9030 bridge.

`plx9030_reset` polls the status register until `/INIT` is high.  Its counter is decremented
after it has been compared, so that it is 0 when `/INIT` is seen in the last read and -1 when it
is never seen; the reset fails in the first case and succeeds in the second one.
-/

namespace Mesaflash

open Lib

variable {σ : Type} (io : IoPorts σ) (board : FpgaBoard)

/-! ### The reset -/

/-- The control and status register. -/
def FpgaBoard.ctrlStat : ℕ := board.ctrlBaseAddr + plx9030CtrlStatOffset

/-- The loop that waits for `/INIT`: the counter at its end. -/
def plx9030WaitInit : ℕ → σ → ℤ × σ
  | count, dev =>
    let (status, dev) := io.inl board.ctrlStat dev
    if status &&& plx9030InitMask ≠ 0 then (count, dev)
    else
      match count with
      | 0 => (-1, dev)
      | count + 1 => plx9030WaitInit count dev

def plx9030InitReads : ℕ := 3300

/-- `plx9030_reset`. -/
def plx9030Reset (dev : σ) : ℤ × σ :=
  let (status, dev) := io.inl board.ctrlStat dev
  let control := status &&& ~~~plx9030ProgramMask
  let dev := io.outl (control ||| (plx9030WriteMask ||| plx9030LedMask)) board.ctrlStat dev
  let (status, dev) := io.inl board.ctrlStat dev
  if status &&& (plx9030DoneMask ||| plx9030InitMask) ≠ 0 then (-eIo, dev)
  else
    let dev := io.outl (status ||| plx9030ProgramMask) board.ctrlStat dev
    let (count, dev) := plx9030WaitInit io board plx9030InitReads dev
    if count = 0 then (-eIo, dev) else (0, dev)

/-! ### What is read -/

/-- The state after `k` reads of the status. -/
def afterReads (k : ℕ) (dev : σ) : σ := (fun dev => (io.inl board.ctrlStat dev).2)^[k] dev

/-- Read number `k` shows `/INIT` high. -/
def InitHigh (dev : σ) (k : ℕ) : Prop :=
  (io.inl board.ctrlStat (afterReads io board k dev)).1 &&& plx9030InitMask ≠ 0

/-- The state in which DONE and `/INIT` are checked, with `/PROGRAM` low. -/
def heldInReset (dev : σ) : σ :=
  let (status, dev) := io.inl board.ctrlStat dev
  let control := status &&& ~~~plx9030ProgramMask
  io.outl (control ||| (plx9030WriteMask ||| plx9030LedMask)) board.ctrlStat dev

/-- DONE and `/INIT` are low at the check. -/
def WentLow (dev : σ) : Prop :=
  (io.inl board.ctrlStat (heldInReset io board dev)).1 &&&
    (plx9030DoneMask ||| plx9030InitMask) = 0

/-- The state in which the polling starts, with `/PROGRAM` high. -/
def released (dev : σ) : σ :=
  let (status, dev) := io.inl board.ctrlStat (heldInReset io board dev)
  io.outl (status ||| plx9030ProgramMask) board.ctrlStat dev

/-- The reset succeeds exactly where DONE and `/INIT` went low and a read of the loop, which
reads at most 3301 times, shows `/INIT` high; otherwise it returns `-EIO`. -/
def ReportsTruth (dev : σ) : Prop :=
  ((plx9030Reset io board dev).1 = 0 ↔ WentLow io board dev ∧
      ∃ k ≤ plx9030InitReads, InitHigh io board (released io board dev) k) ∧
    ((plx9030Reset io board dev).1 ≠ 0 → (plx9030Reset io board dev).1 = -eIo)

/-! ### The loop -/

variable {io board} {dev : σ}

/-- The counter says how many reads were left when `/INIT` was seen. -/
lemma plx9030WaitInit_of_high {k n : ℕ} (hkn : k ≤ n) (hhigh : InitHigh io board dev k)
    (hlow : ∀ j < k, ¬ InitHigh io board dev j) :
    (plx9030WaitInit io board n dev).1 = ((n - k : ℕ) : ℤ) := by
  -- each read leaves the device one read further on
  induction k generalizing n dev with
  | zero =>
      have hread : (io.inl board.ctrlStat dev).1 &&& plx9030InitMask ≠ 0 := hhigh
      rw [plx9030WaitInit]
      simp only [if_pos hread, Nat.sub_zero]
  | succ k ih =>
      have hread : ¬ (io.inl board.ctrlStat dev).1 &&& plx9030InitMask ≠ 0 :=
        hlow 0 (Nat.zero_lt_succ k)
      obtain ⟨n, rfl⟩ := Nat.exists_eq_add_of_le' (Nat.one_le_of_lt hkn)
      rw [plx9030WaitInit]
      simp only [if_neg hread]
      rw [ih (Nat.le_of_succ_le_succ hkn) hhigh fun j hj => hlow (j + 1) (Nat.succ_lt_succ hj),
        Nat.add_sub_add_right]

/-- The counter ends below zero where `/INIT` is never seen. -/
lemma plx9030WaitInit_of_low {n : ℕ} (hlow : ∀ k ≤ n, ¬ InitHigh io board dev k) :
    (plx9030WaitInit io board n dev).1 = -1 := by
  induction n generalizing dev with
  | zero =>
      have hread : ¬ (io.inl board.ctrlStat dev).1 &&& plx9030InitMask ≠ 0 := hlow 0 le_rfl
      rw [plx9030WaitInit]
      simp only [if_neg hread]
  | succ n ih =>
      have hread : ¬ (io.inl board.ctrlStat dev).1 &&& plx9030InitMask ≠ 0 :=
        hlow 0 (Nat.zero_le _)
      rw [plx9030WaitInit]
      simp only [if_neg hread]
      exact ih fun k hk => hlow (k + 1) (Nat.succ_le_succ hk)

variable (io board) in
/-- The counter is 0 exactly where `/INIT` is first seen in the last read. -/
lemma plx9030WaitInit_eq_zero_iff (n : ℕ) (dev : σ) : (plx9030WaitInit io board n dev).1 = 0 ↔
    InitHigh io board dev n ∧ ∀ k < n, ¬ InitHigh io board dev k := by
  classical
  by_cases hseen : ∃ k ≤ n, InitHigh io board dev k
  · -- the first read that sees `/INIT` decides
    obtain ⟨hle, hhigh⟩ := Nat.find_spec hseen
    have hlow : ∀ j < Nat.find hseen, ¬ InitHigh io board dev j := fun j hj hj' =>
      Nat.find_min hseen hj ⟨hj.le.trans hle, hj'⟩
    rw [plx9030WaitInit_of_high hle hhigh hlow]
    constructor
    · intro hzero
      have heq : Nat.find hseen = n := by omega
      rw [heq] at hhigh hlow
      exact ⟨hhigh, hlow⟩
    · rintro ⟨-, hbefore⟩
      have heq : Nat.find hseen = n := by
        rcases Nat.lt_or_ge (Nat.find hseen) n with hlt | hge
        · exact absurd hhigh (hbefore _ hlt)
        · exact Nat.le_antisymm hle hge
      rw [heq, Nat.sub_self]
      rfl
  · have hnone : ∀ k ≤ n, ¬ InitHigh io board dev k := fun k hk hhigh => hseen ⟨k, hk, hhigh⟩
    rw [plx9030WaitInit_of_low hnone]
    exact iff_of_false (by decide) fun h => hnone n le_rfl h.1

/-! ### The result -/

lemma plx9030Reset_eq (dev : σ) : plx9030Reset io board dev =
    if (io.inl board.ctrlStat (heldInReset io board dev)).1 &&&
        (plx9030DoneMask ||| plx9030InitMask) ≠ 0 then
      (-eIo, (io.inl board.ctrlStat (heldInReset io board dev)).2)
    else
      let x := plx9030WaitInit io board plx9030InitReads (released io board dev)
      if x.1 = 0 then (-eIo, x.2) else (0, x.2) := by
  unfold plx9030Reset
  generalize plx9030InitReads = n
  rfl

lemma plx9030Reset_of_not_low (h : ¬ WentLow io board dev) :
    (plx9030Reset io board dev).1 = -eIo := by
  rw [WentLow] at h
  rw [plx9030Reset_eq, if_pos h]

lemma plx9030Reset_of_low (h : WentLow io board dev) : (plx9030Reset io board dev).1 =
    if (plx9030WaitInit io board plx9030InitReads (released io board dev)).1 = 0
      then -eIo else 0 := by
  rw [WentLow] at h
  rw [plx9030Reset_eq, if_neg (not_not.2 h)]
  dsimp only
  split_ifs
  · rfl
  · rfl

/-- **The reset reports the truth exactly where it fails at the check, or `/INIT` is seen before
the last read.** -/
theorem reportsTruth_iff (io : IoPorts σ) (board : FpgaBoard) (dev : σ) :
    ReportsTruth io board dev ↔ ¬ WentLow io board dev ∨
      ∃ k < plx9030InitReads, InitHigh io board (released io board dev) k := by
  have hne : -eIo ≠ 0 := by decide
  by_cases hlow : WentLow io board dev
  · have hcount := plx9030WaitInit_eq_zero_iff io board plx9030InitReads
      (released io board dev)
    have hreset := plx9030Reset_of_low hlow
    constructor
    · rintro ⟨hiff, -⟩
      refine .inr (by_contra fun hnone => ?_)
      have hbefore : ∀ k < plx9030InitReads, ¬ InitHigh io board (released io board dev) k :=
        fun k hk hhigh => hnone ⟨k, hk, hhigh⟩
      by_cases hlast : InitHigh io board (released io board dev) plx9030InitReads
      · -- seen in the last read, and reported as an error
        rw [if_pos (hcount.2 ⟨hlast, hbefore⟩)] at hreset
        exact hne (hreset.symm.trans (hiff.2 ⟨hlow, _, le_rfl, hlast⟩))
      · -- never seen, and reported as a success
        rw [if_neg fun hzero => hlast (hcount.1 hzero).1] at hreset
        obtain ⟨-, k, hk, hhigh⟩ := hiff.1 hreset
        rcases hk.lt_or_eq with hlt | rfl
        · exact hbefore k hlt hhigh
        · exact hlast hhigh
    · -- the counter is above zero when `/INIT` is seen before the last read
      rintro (hnot | ⟨k, hk, hhigh⟩)
      · exact absurd hlow hnot
      · rw [if_neg fun hzero => (hcount.1 hzero).2 k hk hhigh] at hreset
        exact ⟨iff_of_true hreset ⟨hlow, k, hk.le, hhigh⟩, fun h => absurd hreset h⟩
  · have hreset := plx9030Reset_of_not_low hlow
    refine iff_of_true ⟨iff_of_false (by rw [hreset]; exact hne) fun h => hlow h.1,
      fun _ => hreset⟩ (.inl hlow)

/-! ### An FPGA that does not come out of reset -/

/-- Ports on which all reads are 0. -/
def zeroPorts : IoPorts Unit where
  inb _ _ := (0, ())
  inl _ _ := (0, ())
  outb _ _ _ := ()
  outl _ _ _ := ()

/-- A board that uses the first ports. -/
def firstPorts : FpgaBoard := ⟨0, 0, 0⟩

/-- **The reset succeeds although `/INIT` is never seen high.** -/
theorem zeroPorts_reset :
    (plx9030Reset zeroPorts firstPorts ()).1 = 0 ∧ ¬ ReportsTruth zeroPorts firstPorts () := by
  have hlow : ∀ k, ¬ InitHigh zeroPorts firstPorts () k := fun k hhigh =>
    hhigh UInt32.zero_and
  have hwent : WentLow zeroPorts firstPorts () := UInt32.zero_and
  have hreset : (plx9030Reset zeroPorts firstPorts ()).1 = 0 := by
    rw [plx9030Reset_of_low hwent, plx9030WaitInit_of_low fun k _ => hlow k]
    rfl
  refine ⟨hreset, fun htruth => ?_⟩
  obtain ⟨-, k, -, hhigh⟩ := htruth.1.1 hreset
  exact hlow k hhigh

end Mesaflash
