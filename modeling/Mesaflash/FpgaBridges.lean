import Mesaflash.FpgaReset
import Mesaflash.Lib.SlaveFpga
import Mesaflash.RegisterPaths

/-!
An FPGA behind a bridge.

Boards on the parallel port, and boards behind a PLX 9030 or a PLX 905x bridge, have an FPGA that
is configured by the host.  Each has its own function for a reset, and each of these clears the
FPGA, whatever its configuration is.
-/

namespace Mesaflash

open Lib

/-! ### The other two resets -/

section Resets

variable {σ : Type} (io : IoPorts σ) (board : FpgaBoard)

def plx905xProgramMask : UInt32 := regMask 16
def plx905xDoneEnable : UInt32 := regMask 18
def plx905xProgEnable : UInt32 := regMask 19

/-- The reads that give the FPGA its time. -/
def plx905xResetReads : ℕ := 3300

/-- `plx905x_reset`. -/
def plx905xReset (dev : σ) : ℤ × σ :=
  let ctrlStat := board.ctrlBaseAddr + plx905xCtrlStatOffset
  let (status, dev) := io.inl ctrlStat dev
  let control := status ||| plx905xDoneEnable ||| plx905xProgEnable
  let dev := io.outl control ctrlStat dev
  let dev := io.outl (control &&& ~~~plx905xProgramMask) ctrlStat dev
  let (status, dev) := io.inl ctrlStat dev
  if status &&& plx905xDoneMask ≠ 0 then (-eIo, dev)
  else
    let dev := io.outl (control ||| plx905xProgramMask) ctrlStat dev
    (0, (fun dev => (io.inl ctrlStat dev).2)^[plx905xResetReads] dev)

/-- `epp_addr8`. -/
def eppAddr8 (addr : UInt8) (dev : σ) : σ := io.outb addr (board.baseLo + eppAddressOffset) dev

/-- `epp_reset`. -/
def eppReset (sleepNs : ℕ → σ → σ) (dev : σ) : ℤ × σ :=
  let dev := eppWrite8 io board 0x5A (eppAddr16 io board 0x7F7F dev)
  let dev := eppWrite8 io board 0x5A (eppAddr16 io board 0x7F7F dev)
  let dev := eppAddr8 io board 1 dev
  let dev := sleepNs 1000 (eppWrite8 io board 0x00 dev)
  let dev := sleepNs (2 * 1000 * 1000) (eppWrite8 io board 0x01 dev)
  let (byte, dev) := eppRead8 io board dev
  (if byte &&& 0x01 ≠ 0 then -eIo else 0, dev)

end Resets

/-! ### Bits of a register -/

/-- A bit of a register. -/
def regBit (w : UInt32) (i : ℕ) : Bool := w.toBitVec.getLsbD i

section Bits

variable (w w' : UInt32) {i j : ℕ}

@[simp] lemma regBit_or : regBit (w ||| w') i = (regBit w i || regBit w' i) := by
  simp [regBit]

@[simp] lemma regBit_and : regBit (w &&& w') i = (regBit w i && regBit w' i) := by
  simp [regBit]

lemma regBit_not (hi : i < 32) : regBit (~~~w) i = !regBit w i := by
  simp [regBit, hi]

lemma regBit_mask (hj : j < 32) : regBit (regMask j) i = decide (j = i) := by
  simp [regBit, regMask, BitVec.getLsbD_twoPow, hj]

lemma and_regMask_ne_zero (hi : i < 32) : w &&& regMask i ≠ 0 ↔ regBit w i = true := by
  have hne : BitVec.twoPow 32 i ≠ 0#32 := by
    intro h
    have hbit := congrArg (fun x => x.getLsbD i) h
    simp [hi] at hbit
  rw [Ne, ← UInt32.toBitVec_inj, UInt32.toBitVec_and, regMask, UInt32.toBitVec_ofBitVec,
    BitVec.and_twoPow, regBit]
  cases w.toBitVec.getLsbD i
  · simp
  · simpa using hne

end Bits

/-! ### An FPGA behind a bridge -/

/-- The three bridges. -/
inductive FpgaBridge where
  | epp
  | plx9030
  | plx905x
deriving DecidableEq, Repr

/-- A bridge with an FPGA behind it: what was last written to its address register or its control
register. -/
structure FpgaHost (γ : Type) where
  addr : ℕ
  latch : UInt32
  fpga : SlaveFpga γ

section Bridges

variable {γ : Type} (L : FpgaLogic γ) (board : FpgaBoard)

/-- A data cycle that writes to a board on the parallel port.  Once the FPGA has started, its
firmware is in charge of the port, and resets the FPGA when it is told to. -/
def eppDataCycle (b : UInt8) (s : FpgaHost γ) : FpgaHost γ :=
  if L.done s.fpga.config then
    if s.addr = 0x7F7F ∧ b = 0x5A then
      { s with fpga := (s.fpga.setProgram L false).setProgram L true }
    else s
  else if s.addr / 0x100 = 0 then { s with fpga := s.fpga.clock L b }
  else if s.addr / 0x100 = 1 then { s with fpga := s.fpga.setProgram L (b &&& 0x01 ≠ 0) }
  else s

/-- The parallel port, where the CPLD has the data at address 0 and the control register at
address 1.  No cycle takes too long. -/
def eppFpgaPorts : IoPorts (FpgaHost γ) where
  inb port s :=
    (if port = board.baseLo + eppDataOffset ∧ L.done s.fpga.config then 0xFF else 0, s)
  inl _ s := (0xFFFFFFFF, s)
  outb b port s :=
    if port = board.baseLo + eppAddressOffset then
      { s with addr := s.addr / 0x100 % 0x100 + 0x100 * b.toNat }
    else if port = board.baseLo + eppDataOffset then eppDataCycle L b s
    else s
  outl _ _ s := s

/-- The status of a PLX 9030 bridge, with the levels at DONE and INIT. -/
def plx9030Status (s : FpgaHost γ) : UInt32 :=
  s.latch &&& ~~~(plx9030DoneMask ||| plx9030InitMask) |||
    ((if s.fpga.done L then plx9030DoneMask else 0) |||
      (if s.fpga.init L then plx9030InitMask else 0))

variable (readTime : ℕ)

/-- The ports of a PLX 9030 bridge.  The FPGA takes data while WRITE is low. -/
def plx9030FpgaPorts : IoPorts (FpgaHost γ) where
  inb _ s := (0xFF, s)
  inl port s :=
    if port = board.ctrlStat then (plx9030Status L s, { s with fpga := s.fpga.wait readTime })
    else (0xFFFFFFFF, s)
  outb b port s :=
    if port = board.dataBaseAddr ∧ regBit s.latch 23 = false then
      { s with fpga := s.fpga.clock L b }
    else s
  outl w port s :=
    if port = board.ctrlStat then
      { s with latch := w, fpga := s.fpga.setProgram L (regBit w 26) }
    else s

/-- The status of a PLX 905x bridge.  The level at DONE is there when the bit is an input. -/
def plx905xStatus (s : FpgaHost γ) : UInt32 :=
  s.latch &&& ~~~plx905xDoneMask |||
    (if regBit s.latch 18 && s.fpga.done L then plx905xDoneMask else 0)

/-- The ports of a PLX 905x bridge.  PROGRAM is low when its bit is an output, and low. -/
def plx905xFpgaPorts : IoPorts (FpgaHost γ) where
  inb _ s := (0xFF, s)
  inl port s :=
    if port = board.ctrlBaseAddr + plx905xCtrlStatOffset then
      (plx905xStatus L s, { s with fpga := s.fpga.wait readTime })
    else (0xFFFFFFFF, s)
  outb b port s :=
    if port = board.dataBaseAddr then { s with fpga := s.fpga.clock L b } else s
  outl w port s :=
    if port = board.ctrlBaseAddr + plx905xCtrlStatOffset then
      { s with latch := w, fpga := s.fpga.setProgram L (!regBit w 19 || regBit w 16) }
    else s

/-- Time passes. -/
def sleepNs (n : ℕ) (s : FpgaHost γ) : FpgaHost γ := { s with fpga := s.fpga.wait n }

namespace FpgaBridge

/-- The ports of a bridge.  A read of a PLX bridge takes its time. -/
def ports : FpgaBridge → IoPorts (FpgaHost γ)
  | epp => eppFpgaPorts L board
  | plx9030 => plx9030FpgaPorts L board readTime
  | plx905x => plx905xFpgaPorts L board readTime

/-- The function for `reset`. -/
def resetFpga : FpgaBridge → FpgaHost γ → ℤ × FpgaHost γ
  | epp => eppReset (epp.ports L board readTime) board sleepNs
  | plx9030 => plx9030Reset (plx9030.ports L board readTime) board
  | plx905x => plx905xReset (plx905x.ports L board readTime) board

/-- The function for `program_fpga`. -/
def programFpga (fs : FileSystem) : FpgaBridge → CStr → FpgaProc (FpgaHost γ) →
    Except Fault (ℤ × FpgaProc (FpgaHost γ))
  | epp => eppProgramFpga fs (epp.ports L board readTime) board
  | plx9030 => plx9030ProgramFpga fs (plx9030.ports L board readTime) board
  | plx905x => plx905xProgramFpga fs (plx905x.ports L board readTime) board

/-- Whether an FPGA is cleared in the time that the reset gives it. -/
def Waits : FpgaBridge → Prop
  | epp => L.clearTime ≤ 2 * 1000 * 1000
  | plx9030 => L.clearTime ≤ (plx9030InitReads - 1) * readTime
  | plx905x => L.clearTime ≤ plx905xResetReads * readTime

/-- What is left of a configuration when its bridge has looked at it.  Behind a PLX 9030 bridge,
an FPGA that has not started is cleared again. -/
def leaves (c : γ) : FpgaBridge → γ
  | plx9030 => if L.Good c then c else L.blank
  | _ => c

end FpgaBridge

end Bridges

/-! ### The resets clear the FPGA -/

/-- Bits that are masked out do not show. -/
lemma and_not_and (w m : UInt32) : w &&& ~~~m &&& m = 0 := by
  rw [UInt32.and_assoc, UInt32.not_and_self, UInt32.and_zero]

section Clearing

variable {γ : Type} {L : FpgaLogic γ} {board : FpgaBoard} {readTime : ℕ} {s : FpgaHost γ}

/-! #### The parallel port -/

lemma eppAddr16_fpgaPorts : eppAddr16 (eppFpgaPorts L board) board 0x7F7F s =
    { s with addr := 0x7F7F } := by
  have haddr : (s.addr / 0x100 % 0x100 + 0x100 * (loByte 0x7F7F).toNat) / 0x100 % 0x100 +
      0x100 * (hiByte 0x7F7F).toNat = 0x7F7F := by
    have hlo : (loByte 0x7F7F).toNat = 0x7F := by decide
    have hhi : (hiByte 0x7F7F).toNat = 0x7F := by decide
    rw [hlo, hhi]
    omega
  simp only [eppAddr16, eppFpgaPorts, if_true, haddr]

lemma eppAddr8_fpgaPorts (addr : UInt8) : eppAddr8 (eppFpgaPorts L board) board addr s =
    { s with addr := s.addr / 0x100 % 0x100 + 0x100 * addr.toNat } := by
  simp only [eppAddr8, eppFpgaPorts, if_true]

lemma eppWrite8_fpgaPorts (b : UInt8) :
    eppWrite8 (eppFpgaPorts L board) board b s = eppDataCycle L b s := by
  have hne : board.baseLo + eppDataOffset ≠ board.baseLo + eppAddressOffset := by
    simp [eppDataOffset, eppAddressOffset]
  simp only [eppWrite8, eppFpgaPorts, if_neg hne, if_true]

/-- The command that resets an FPGA which has started. -/
lemma eppDataCycle_reset (latch : UInt32) (f : SlaveFpga γ) : ∃ f',
    eppDataCycle L 0x5A ⟨0x7F7F, latch, f⟩ = ⟨0x7F7F, latch, f'⟩ ∧ L.done f'.config = false := by
  by_cases hdone : L.done f.config = true
  · refine ⟨(f.setProgram L false).setProgram L true, ?_, L.blank_done⟩
    rw [eppDataCycle, if_pos hdone, if_pos ⟨rfl, rfl⟩]
  · refine ⟨f, ?_, by simpa using hdone⟩
    rw [eppDataCycle, if_neg hdone, if_neg (by simp), if_neg (by simp)]

/-- A write to the control register of the CPLD. -/
lemma eppDataCycle_control {f : SlaveFpga γ} (hdone : L.done f.config = false) (b : UInt8)
    (latch : UInt32) : eppDataCycle L b ⟨0x17F, latch, f⟩ =
      ⟨0x17F, latch, f.setProgram L (b &&& 0x01 ≠ 0)⟩ := by
  simp [eppDataCycle, hdone]

/-- The status of the CPLD. -/
lemma eppRead8_fpgaPorts (hdone : L.done s.fpga.config = false) :
    eppRead8 (eppFpgaPorts L board) board s = (0, s) := by
  simp [eppRead8, eppFpgaPorts, hdone]

lemma eppReset_fpgaPorts (hclear : L.clearTime ≤ 2 * 1000 * 1000) (s : FpgaHost γ) :
    eppReset (eppFpgaPorts L board) board sleepNs s = (0, ⟨0x17F, s.latch, .cleared L⟩) := by
  -- if the FPGA has started, then the first command stops it
  obtain ⟨f, hfirst, -⟩ := eppDataCycle_reset (L := L) s.latch s.fpga
  obtain ⟨f', hsecond, hdone⟩ := eppDataCycle_reset (L := L) s.latch f
  have haddr : 0x7F7F / 0x100 % 0x100 + 0x100 * (1 : UInt8).toNat = 0x17F := by decide
  have hlow : eppDataCycle L 0x00 ⟨0x17F, s.latch, f'⟩ =
      ⟨0x17F, s.latch, ⟨false, L.clearTime, L.blank⟩⟩ :=
    eppDataCycle_control hdone 0x00 s.latch
  have hhigh : eppDataCycle L 0x01 ⟨0x17F, s.latch, ⟨false, L.clearTime, L.blank⟩⟩ =
      ⟨0x17F, s.latch, ⟨true, L.clearTime, L.blank⟩⟩ :=
    eppDataCycle_control L.blank_done 0x01 s.latch
  have hread : eppRead8 (eppFpgaPorts L board) board ⟨0x17F, s.latch, .cleared L⟩ =
      (0, ⟨0x17F, s.latch, .cleared L⟩) :=
    eppRead8_fpgaPorts L.blank_done
  have hzero : L.clearTime - 2 * 1000 * 1000 = 0 := by omega
  simp only [eppReset, eppAddr16_fpgaPorts, eppWrite8_fpgaPorts, eppAddr8_fpgaPorts, hfirst,
    hsecond, haddr, hlow, sleepNs, SlaveFpga.wait_low, hhigh, SlaveFpga.wait_high, hzero]
  rw [← SlaveFpga.cleared, hread]
  simp

/-! #### PLX 9030 -/

section Plx9030

variable {latch : UInt32} {n : ℕ} {c : γ}

/-- A FPGA that is being cleared shows INIT and DONE low. -/
lemma plx9030Status_held :
    plx9030Status L ⟨s.addr, latch, ⟨false, n, L.blank⟩⟩ =
      latch &&& ~~~(plx9030DoneMask ||| plx9030InitMask) := by
  simp [plx9030Status, SlaveFpga.done, SlaveFpga.init, SlaveFpga.ready, L.blank_done]

/-- The status shows the levels at INIT and DONE. -/
lemma plx9030Status_init (s : FpgaHost γ) :
    plx9030Status L s &&& plx9030InitMask ≠ 0 ↔ s.fpga.init L = true := by
  rw [plx9030InitMask, and_regMask_ne_zero _ (by decide), plx9030Status]
  cases s.fpga.init L <;> cases s.fpga.done L <;>
    simp [plx9030DoneMask, plx9030InitMask, regBit_not, regBit_mask]

lemma plx9030Status_done (s : FpgaHost γ) :
    plx9030Status L s &&& plx9030DoneMask ≠ 0 ↔ s.fpga.done L = true := by
  rw [plx9030DoneMask, and_regMask_ne_zero _ (by decide), plx9030Status]
  cases s.fpga.init L <;> cases s.fpga.done L <;>
    simp [plx9030DoneMask, plx9030InitMask, regBit_not, regBit_mask]

/-- The other bits are those that were written. -/
lemma regBit_plx9030Status {i : ℕ} (hi : i < 32) (hinit : i ≠ 14) (hdone : i ≠ 11)
    (s : FpgaHost γ) : regBit (plx9030Status L s) i = regBit s.latch i := by
  rw [plx9030Status]
  cases s.fpga.init L <;> cases s.fpga.done L <;>
    simp [plx9030DoneMask, plx9030InitMask, regBit_not, regBit_mask, hi, hinit.symm,
      hdone.symm]

lemma plx9030Status_program (s : FpgaHost γ) :
    regBit (plx9030Status L s) 26 = regBit s.latch 26 :=
  regBit_plx9030Status (by decide) (by decide) (by decide) s

/-- Both levels are high when the FPGA has started without a fault. -/
lemma plx9030Status_good (addr : ℕ) (latch : UInt32) :
    plx9030Status L ⟨addr, latch, ⟨true, 0, c⟩⟩ &&& plx9030InitMask = 0 ∨
      plx9030Status L ⟨addr, latch, ⟨true, 0, c⟩⟩ &&& plx9030DoneMask = 0 ↔ ¬ L.Good c := by
  have hinit := plx9030Status_init (L := L) ⟨addr, latch, ⟨true, 0, c⟩⟩
  have hdone := plx9030Status_done (L := L) ⟨addr, latch, ⟨true, 0, c⟩⟩
  rw [← not_iff_not, not_or, ← Ne, ← Ne, hinit, hdone, not_not]
  simp [SlaveFpga.init, SlaveFpga.ready, SlaveFpga.done, FpgaLogic.Good, and_comm]

/-- A read of the status takes its time. -/
lemma inl_plx9030FpgaPorts (s : FpgaHost γ) :
    (plx9030FpgaPorts L board readTime).inl board.ctrlStat s =
      (plx9030Status L s, { s with fpga := s.fpga.wait readTime }) :=
  if_pos rfl

lemma outl_plx9030FpgaPorts (w : UInt32) (s : FpgaHost γ) :
    (plx9030FpgaPorts L board readTime).outl w board.ctrlStat s =
      { s with latch := w, fpga := s.fpga.setProgram L (regBit w 26) } :=
  if_pos rfl

variable (board) in
/-- The loop sees INIT before its last read. -/
lemma plx9030WaitInit_fpgaPorts (addr : ℕ) (latch : UInt32) {count : ℕ} (hpos : 0 < count)
    (hn : n ≤ (count - 1) * readTime) :
    ∃ rest : ℤ, 0 < rest ∧ plx9030WaitInit (plx9030FpgaPorts L board readTime) board count
      ⟨addr, latch, ⟨true, n, L.blank⟩⟩ = (rest, ⟨addr, latch, .cleared L⟩) := by
  induction count generalizing n with
  | zero => exact absurd hpos (by decide)
  | succ count ih =>
      rw [plx9030WaitInit, inl_plx9030FpgaPorts]
      simp only [plx9030Status_init, SlaveFpga.wait_high]
      by_cases hzero : n = 0
      · subst hzero
        refine ⟨(count + 1 : ℕ), by omega, ?_⟩
        have hinit : (⟨true, 0, L.blank⟩ : SlaveFpga γ).init L = true := SlaveFpga.init_cleared
        rw [if_pos hinit, Nat.zero_sub, SlaveFpga.cleared]
      · rw [if_neg (by simp [SlaveFpga.init_clearing hzero])]
        rw [Nat.add_sub_cancel] at hn
        have hcount : 0 < count := by
          by_contra hcount
          obtain rfl : count = 0 := by omega
          omega
        obtain ⟨m, rfl⟩ := Nat.exists_eq_add_of_le' hcount
        refine ih (Nat.succ_pos m) ?_
        rw [Nat.add_sub_cancel]
        rw [Nat.succ_mul] at hn
        omega

variable (board) in
lemma plx9030Reset_fpgaPorts (hclear : L.clearTime ≤ (plx9030InitReads - 1) * readTime)
    (s : FpgaHost γ) : ∃ latch, regBit latch 26 = true ∧
      plx9030Reset (plx9030FpgaPorts L board readTime) board s =
        (0, ⟨s.addr, latch, .cleared L⟩) := by
  -- PROGRAM is low
  obtain ⟨control, hcontrol⟩ : ∃ control, plx9030Status L s &&& ~~~plx9030ProgramMask |||
      (plx9030WriteMask ||| plx9030LedMask) = control := ⟨_, rfl⟩
  have hlow : regBit control 26 = false := by
    rw [← hcontrol, plx9030ProgramMask, plx9030WriteMask, plx9030LedMask]
    simp [regBit_not, regBit_mask]
  have hheld : plx9030Status L ⟨s.addr, control, ⟨false, L.clearTime, L.blank⟩⟩ &&&
      (plx9030DoneMask ||| plx9030InitMask) = 0 := by
    rw [plx9030Status_held, and_not_and]
  -- PROGRAM is high again
  obtain ⟨latch, hlatch⟩ : ∃ latch, plx9030Status L ⟨s.addr, control,
      ⟨false, L.clearTime, L.blank⟩⟩ ||| plx9030ProgramMask = latch := ⟨_, rfl⟩
  have hhigh : regBit latch 26 = true := by
    rw [← hlatch, plx9030ProgramMask]
    simp [regBit_mask]
  obtain ⟨rest, hrest, hwait⟩ := plx9030WaitInit_fpgaPorts board (L := L) s.addr latch
    (show 0 < plx9030InitReads by decide) hclear
  refine ⟨latch, hhigh, ?_⟩
  simp only [plx9030Reset, inl_plx9030FpgaPorts, outl_plx9030FpgaPorts, hcontrol, hlow,
    SlaveFpga.setProgram_low, hheld, SlaveFpga.wait_low, hlatch, hhigh, SlaveFpga.setProgram_high,
    hwait]
  simp [hrest.ne']

end Plx9030

/-! #### PLX 905x -/

section Plx905x

variable {c : γ}

lemma inl_plx905xFpgaPorts (s : FpgaHost γ) :
    (plx905xFpgaPorts L board readTime).inl (board.ctrlBaseAddr + plx905xCtrlStatOffset) s =
      (plx905xStatus L s, { s with fpga := s.fpga.wait readTime }) :=
  if_pos rfl

lemma outl_plx905xFpgaPorts (w : UInt32) (s : FpgaHost γ) :
    (plx905xFpgaPorts L board readTime).outl w (board.ctrlBaseAddr + plx905xCtrlStatOffset) s =
      { s with latch := w, fpga := s.fpga.setProgram L (!regBit w 19 || regBit w 16) } :=
  if_pos rfl

/-- The reads give the FPGA its time. -/
lemma iterate_wait (addr : ℕ) (latch : UInt32) (k n : ℕ) :
    (fun s : FpgaHost γ => { s with fpga := s.fpga.wait readTime })^[k]
        ⟨addr, latch, ⟨true, n, c⟩⟩ =
      ⟨addr, latch, ⟨true, n - k * readTime, c⟩⟩ := by
  induction k generalizing n with
  | zero => simp
  | succ k ih =>
      rw [Function.iterate_succ_apply, SlaveFpga.wait_high, ih, Nat.succ_mul, Nat.sub_sub,
        Nat.add_comm readTime]

variable (board) in
lemma plx905xReset_fpgaPorts (hclear : L.clearTime ≤ plx905xResetReads * readTime)
    (s : FpgaHost γ) : ∃ latch, plx905xReset (plx905xFpgaPorts L board readTime) board s =
      (0, ⟨s.addr, latch, .cleared L⟩) := by
  obtain ⟨control, hcontrol⟩ : ∃ control, plx905xStatus L s ||| plx905xDoneEnable |||
      plx905xProgEnable = control := ⟨_, rfl⟩
  have henable : regBit control 19 = true := by
    rw [← hcontrol, plx905xProgEnable]
    simp [regBit_mask]
  -- PROGRAM is low
  obtain ⟨held, hheld⟩ : ∃ held, control &&& ~~~plx905xProgramMask = held := ⟨_, rfl⟩
  have hlow : (!regBit held 19 || regBit held 16) = false := by
    rw [← hheld, plx905xProgramMask]
    simp [regBit_not, regBit_mask, henable]
  have hstatus : plx905xStatus L ⟨s.addr, held, ⟨false, L.clearTime, L.blank⟩⟩ &&&
      plx905xDoneMask = 0 := by
    simp [plx905xStatus, SlaveFpga.done, L.blank_done, and_not_and]
  -- PROGRAM is high again
  have hhigh : (!regBit (control ||| plx905xProgramMask) 19 ||
      regBit (control ||| plx905xProgramMask) 16) = true := by
    rw [plx905xProgramMask]
    simp [regBit_mask]
  have hzero : L.clearTime - plx905xResetReads * readTime = 0 := by omega
  refine ⟨control ||| plx905xProgramMask, ?_⟩
  simp only [plx905xReset, inl_plx905xFpgaPorts, outl_plx905xFpgaPorts, hcontrol, hheld, hlow,
    SlaveFpga.setProgram_low, hstatus, SlaveFpga.wait_low, hhigh, SlaveFpga.setProgram_high]
  rw [if_neg (by simp), iterate_wait, hzero, SlaveFpga.cleared]

end Plx905x

end Clearing

end Mesaflash
