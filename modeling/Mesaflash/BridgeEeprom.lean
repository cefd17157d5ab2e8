import Mesaflash.FpgaProgram
import Mesaflash.Lib.Microwire

/-!
The setup EEPROM of a PCI bridge.

A PLX bridge has a serial EEPROM on four bits of one of its registers.
`plx9030_read_eeprom_word` reads a word by setting these bits one at a time, and leaves the
others as they are.

What is printed are the words of the EEPROM, whatever it was doing before; without an EEPROM
it is zeros (`bridgeEeprom_read`).
-/

namespace Mesaflash

open Lib

variable {σ : Type}

/-! ### The functions -/

def plx9030CtrlInitOffset : ℕ := 0x0052
def plx9030EeclkMask : BitVec 16 := 0x0100
def plx9030EecsMask : BitVec 16 := 0x0200
def plx9030EediMask : BitVec 16 := 0x0400
def plx9030EedoMask : BitVec 16 := 0x0800

def eeprom93C66Size : ℕ := 256
def eeprom93C66CmdLen : ℕ := 3
def eeprom93C66AddrLen : ℕ := 8
def eeprom93C66DataLen : ℕ := 16
def eeprom93C66CmdRead : ℕ := 6
def eeprom93C66CmdMask : ℕ := 0x04
def eeprom93C66AddrMask : ℕ := 0x80
def eeprom93C66DataMask : ℕ := 0x8000

/-- `inw` and `outw`. -/
structure WordPorts (σ : Type) where
  inw : ℕ → σ → BitVec 16 × σ
  outw : BitVec 16 → ℕ → σ → σ

section Functions

variable (io : WordPorts σ) (board : FpgaBoard)

/-- The register with the bits of the EEPROM. -/
def FpgaBoard.ctrlInit : ℕ := board.ctrlBaseAddr + plx9030CtrlInitOffset

/-- What the functions `plx9030_Set*` have in common. -/
def setCtrlInit (change : BitVec 16 → BitVec 16) (dev : σ) : σ :=
  let (data, dev) := io.inw board.ctrlInit dev
  io.outw (change data) board.ctrlInit dev

/-- `plx9030_SetCSHigh`. -/
def plx9030SetCSHigh : σ → σ := setCtrlInit io board fun data => data ||| plx9030EecsMask

/-- `plx9030_SetCSLow`. -/
def plx9030SetCSLow : σ → σ := setCtrlInit io board fun data => data &&& ~~~plx9030EecsMask

/-- `plx9030_SetDinHigh`. -/
def plx9030SetDinHigh : σ → σ := setCtrlInit io board fun data => data ||| plx9030EediMask

/-- `plx9030_SetDinLow`. -/
def plx9030SetDinLow : σ → σ := setCtrlInit io board fun data => data &&& ~~~plx9030EediMask

/-- `plx9030_SetClockHigh`. -/
def plx9030SetClockHigh : σ → σ := setCtrlInit io board fun data => data ||| plx9030EeclkMask

/-- `plx9030_SetClockLow`. -/
def plx9030SetClockLow : σ → σ := setCtrlInit io board fun data => data &&& ~~~plx9030EeclkMask

/-- `plx9030_DataHighQ`. -/
def plx9030DataHighQ (dev : σ) : ℤ × σ :=
  let (data, dev) := io.inw board.ctrlInit dev
  (if data &&& plx9030EedoMask ≠ 0 then 1 else 0, dev)

/-- The loops of `plx9030_read_eeprom_word` that send the command and the address. -/
def plx9030SendBits (value : ℕ) : ℕ → ℕ → σ → σ
  | 0, _, dev => dev
  | n + 1, mask, dev =>
    let dev :=
      if mask &&& value = 0 then plx9030SetDinLow io board dev else plx9030SetDinHigh io board dev
    plx9030SendBits value n (mask >>> 1)
      (plx9030SetClockHigh io board (plx9030SetClockLow io board dev))

/-- The loop that reads the data. -/
def plx9030RecvBits : ℕ → ℕ → ℕ → σ → ℕ × σ
  | 0, _, tdata, dev => (tdata, dev)
  | n + 1, mask, tdata, dev =>
    let dev := plx9030SetClockHigh io board (plx9030SetClockLow io board dev)
    let (high, dev) := plx9030DataHighQ io board dev
    plx9030RecvBits n (mask >>> 1) (if high = 1 then tdata ||| mask else tdata) dev

/-- `plx9030_read_eeprom_word`. -/
def plx9030ReadEepromWord (reg : ℕ) (dev : σ) : ℕ × σ :=
  let dev := plx9030SetCSLow io board dev
  let dev := plx9030SetDinLow io board dev
  let dev := plx9030SetClockLow io board dev
  let dev := plx9030SetCSHigh io board dev
  let dev := plx9030SendBits io board eeprom93C66CmdRead eeprom93C66CmdLen eeprom93C66CmdMask dev
  let dev := plx9030SendBits io board reg eeprom93C66AddrLen eeprom93C66AddrMask dev
  let (high, dev) := plx9030DataHighQ io board dev
  -- no chip has put its dummy bit on the line
  if high = 1 then (0, dev)
  else
    let (tdata, dev) := plx9030RecvBits io board eeprom93C66DataLen eeprom93C66DataMask 0 dev
    let dev := plx9030SetCSLow io board dev
    let dev := plx9030SetDinLow io board dev
    let dev := plx9030SetClockLow io board dev
    (tdata, dev)

/-- The loop of `pci_plx9030_bridge_eeprom_setup_read`: the words that are printed.  The register
number has eight bits. -/
def bridgeEepromLoop : ℕ → ℕ → σ → List ℕ × σ
  | 0, _, dev => ([], dev)
  | n + 1, i, dev =>
    let (word, dev) := plx9030ReadEepromWord io board (i % 0x100) dev
    let (words, dev) := bridgeEepromLoop n (i + 1) dev
    (word :: words, dev)

/-- `pci_plx9030_bridge_eeprom_setup_read`. -/
def pciPlx9030BridgeEepromSetupRead : σ → List ℕ × σ := bridgeEepromLoop io board eeprom93C66Size 0

end Functions

/-! ### The bridge -/

/-- A bridge: its register, and the EEPROM if one is fitted. -/
structure PlxBridge where
  reg : BitVec 16
  fitted : Bool
  chip : MicrowireChip

/-- The lines of the EEPROM. -/
def eepromPins (reg : BitVec 16) : MicrowirePins where
  cs := reg.getLsbD 9
  clk := reg.getLsbD 8
  di := reg.getLsbD 10

/-- What reading the register delivers.  Without an EEPROM the data line is high. -/
def PlxBridge.status (s : PlxBridge) : BitVec 16 :=
  if s.fitted && !s.chip.dout then s.reg &&& ~~~plx9030EedoMask else s.reg ||| plx9030EedoMask

/-- The ports of a bridge. -/
def plxPorts (board : FpgaBoard) : WordPorts PlxBridge where
  inw port s := if port = board.ctrlInit then (s.status, s) else (0xFFFF, s)
  outw w port s :=
    if port = board.ctrlInit then
      { s with
        reg := w
        chip := s.chip.drive eeprom93C66AddrLen eeprom93C66DataLen (eepromPins s.reg)
          (eepromPins w) }
    else s

/-- A bridge with these levels on the lines of an EEPROM, and with the other bits as in `rest`. -/
structure PlxBridge.Holds (rest : BitVec 16) (pins : MicrowirePins) (chip : MicrowireChip)
    (s : PlxBridge) : Prop where
  pins : eepromPins s.reg = pins
  chip : s.chip = chip
  rest : ∀ i, i < 8 ∨ 12 ≤ i → s.reg.getLsbD i = rest.getLsbD i

section Pins

variable {board : FpgaBoard} {rest : BitVec 16} {pins pins' : MicrowirePins} {chip : MicrowireChip}
  {s : PlxBridge}

lemma getLsbD_set {n : ℕ} (hn : n < 16) (data : BitVec 16) (i : ℕ) :
    (data ||| BitVec.twoPow 16 n).getLsbD i = (data.getLsbD i || decide (i = n)) := by
  by_cases h : i = n
  · simp [h, hn]
  · simp [h, Ne.symm h]

lemma getLsbD_clear (data : BitVec 16) (n i : ℕ) :
    (data &&& ~~~BitVec.twoPow 16 n).getLsbD i = (data.getLsbD i && !decide (i = n)) := by
  by_cases hi : i < 16
  · by_cases h : i = n
    · simp [h]
    · simp [h, hi]
  · simp [BitVec.getLsbD_of_ge _ _ (Nat.le_of_not_lt hi)]

lemma eedoMask_eq : plx9030EedoMask = BitVec.twoPow 16 11 := by decide

/-- The status is the register, but for the bit of DO. -/
lemma getLsbD_status {i : ℕ} (hi : i ≠ 11) : s.status.getLsbD i = s.reg.getLsbD i := by
  unfold PlxBridge.status
  rw [eedoMask_eq]
  split
  · rw [getLsbD_clear, decide_eq_false hi, Bool.not_false, Bool.and_true]
  · rw [getLsbD_set (by decide), decide_eq_false hi, Bool.or_false]

/-- The register is changed: the chip sees the new levels. -/
lemma PlxBridge.Holds.change (h : s.Holds rest pins chip) {change : BitVec 16 → BitVec 16}
    (hpins : eepromPins (change s.status) = pins')
    (hrest : ∀ i, i < 8 ∨ 12 ≤ i → (change s.status).getLsbD i = s.status.getLsbD i) :
    (setCtrlInit (plxPorts board) board change s).Holds rest pins'
      (chip.drive eeprom93C66AddrLen eeprom93C66DataLen pins pins') := by
  have hset : setCtrlInit (plxPorts board) board change s =
      { s with
        reg := change s.status
        chip := s.chip.drive eeprom93C66AddrLen eeprom93C66DataLen (eepromPins s.reg)
          (eepromPins (change s.status)) } := by
    simp [setCtrlInit, plxPorts]
  rw [hset]
  refine ⟨hpins, ?_, fun i hi => ?_⟩
  · dsimp only
    rw [h.chip, h.pins, hpins]
  · rw [hrest i hi, getLsbD_status (by omega), h.rest i hi]

section Steps

variable (board) (h : s.Holds rest pins chip)

include h

/-- A bit of a line is set. -/
lemma PlxBridge.Holds.set {mask : BitVec 16} {n : ℕ} (hmask : mask = BitVec.twoPow 16 n)
    (hlow : 8 ≤ n) (hhigh : n < 12)
    (hpins : ⟨pins.cs || decide (9 = n), pins.clk || decide (8 = n), pins.di || decide (10 = n)⟩ =
      pins') :
    (setCtrlInit (plxPorts board) board (fun data => data ||| mask) s).Holds rest pins'
      (chip.drive eeprom93C66AddrLen eeprom93C66DataLen pins pins') := by
  have hn : n < 16 := by omega
  refine h.change ?_ fun i hi => ?_
  · rw [← hpins, ← h.pins, hmask, eepromPins, getLsbD_set hn, getLsbD_set hn, getLsbD_set hn,
      getLsbD_status (by decide), getLsbD_status (by decide), getLsbD_status (by decide),
      eepromPins]
  · rw [hmask, getLsbD_set hn, decide_eq_false (by omega), Bool.or_false]

/-- A bit of a line is cleared. -/
lemma PlxBridge.Holds.clear {mask : BitVec 16} {n : ℕ} (hmask : mask = BitVec.twoPow 16 n)
    (hlow : 8 ≤ n) (hhigh : n < 12)
    (hpins : ⟨pins.cs && !decide (9 = n), pins.clk && !decide (8 = n),
      pins.di && !decide (10 = n)⟩ = pins') :
    (setCtrlInit (plxPorts board) board (fun data => data &&& ~~~mask) s).Holds rest pins'
      (chip.drive eeprom93C66AddrLen eeprom93C66DataLen pins pins') := by
  refine h.change ?_ fun i hi => ?_
  · rw [← hpins, ← h.pins, hmask, eepromPins, getLsbD_clear, getLsbD_clear, getLsbD_clear,
      getLsbD_status (by decide), getLsbD_status (by decide), getLsbD_status (by decide),
      eepromPins]
  · rw [hmask, getLsbD_clear, decide_eq_false (by omega), Bool.not_false, Bool.and_true]

lemma PlxBridge.Holds.setCSHigh :
    (plx9030SetCSHigh (plxPorts board) board s).Holds rest { pins with cs := true }
      (chip.drive eeprom93C66AddrLen eeprom93C66DataLen pins { pins with cs := true }) :=
  h.set board (by decide : plx9030EecsMask = BitVec.twoPow 16 9) (by decide) (by decide) (by simp)

lemma PlxBridge.Holds.setCSLow :
    (plx9030SetCSLow (plxPorts board) board s).Holds rest { pins with cs := false }
      (chip.drive eeprom93C66AddrLen eeprom93C66DataLen pins { pins with cs := false }) :=
  h.clear board (by decide : plx9030EecsMask = BitVec.twoPow 16 9) (by decide) (by decide) (by simp)

lemma PlxBridge.Holds.setDinHigh :
    (plx9030SetDinHigh (plxPorts board) board s).Holds rest { pins with di := true }
      (chip.drive eeprom93C66AddrLen eeprom93C66DataLen pins { pins with di := true }) :=
  h.set board (by decide : plx9030EediMask = BitVec.twoPow 16 10) (by decide) (by decide) (by simp)

lemma PlxBridge.Holds.setDinLow :
    (plx9030SetDinLow (plxPorts board) board s).Holds rest { pins with di := false }
      (chip.drive eeprom93C66AddrLen eeprom93C66DataLen pins { pins with di := false }) :=
  h.clear board (by decide : plx9030EediMask = BitVec.twoPow 16 10) (by decide) (by decide)
    (by simp)

lemma PlxBridge.Holds.setClockHigh :
    (plx9030SetClockHigh (plxPorts board) board s).Holds rest { pins with clk := true }
      (chip.drive eeprom93C66AddrLen eeprom93C66DataLen pins { pins with clk := true }) :=
  h.set board (by decide : plx9030EeclkMask = BitVec.twoPow 16 8) (by decide) (by decide) (by simp)

lemma PlxBridge.Holds.setClockLow :
    (plx9030SetClockLow (plxPorts board) board s).Holds rest { pins with clk := false }
      (chip.drive eeprom93C66AddrLen eeprom93C66DataLen pins { pins with clk := false }) :=
  h.clear board (by decide : plx9030EeclkMask = BitVec.twoPow 16 8) (by decide) (by decide)
    (by simp)

end Steps

/-- The data line. -/
lemma plx9030DataHighQ_ports (s : PlxBridge) :
    plx9030DataHighQ (plxPorts board) board s =
      (if s.fitted && !s.chip.dout then 0 else 1, s) := by
  have hread : plx9030DataHighQ (plxPorts board) board s =
      (if s.status &&& plx9030EedoMask ≠ 0 then 1 else 0, s) := by
    simp [plx9030DataHighQ, plxPorts]
  rw [hread, eedoMask_eq, BitVec.and_twoPow]
  unfold PlxBridge.status
  rw [eedoMask_eq]
  split
  · rw [getLsbD_clear]
    simp
  · have hbit : BitVec.twoPow 16 11 ≠ 0 := by decide
    rw [getLsbD_set (by decide)]
    simpa using hbit

@[simp] lemma fitted_setCtrlInit (change : BitVec 16 → BitVec 16) (s : PlxBridge) :
    (setCtrlInit (plxPorts board) board change s).fitted = s.fitted := by
  simp [setCtrlInit, plxPorts]

end Pins

/-! ### The transfer -/

section Transfer

variable {board : FpgaBoard} {rest : BitVec 16} {chip : MicrowireChip} {s : PlxBridge}
  {clk di : Bool}

/-- A clock cycle of a selected chip. -/
lemma PlxBridge.Holds.cycle (board : FpgaBoard) (h : s.Holds rest ⟨true, clk, di⟩ chip) :
    (plx9030SetClockHigh (plxPorts board) board
      (plx9030SetClockLow (plxPorts board) board s)).Holds rest ⟨true, true, di⟩
        (chip.take eeprom93C66AddrLen eeprom93C66DataLen di) := by
  have hlow := h.setClockLow board
  rw [MicrowireChip.drive_of_low rfl (.inl rfl)] at hlow
  have hhigh := hlow.setClockHigh board
  rwa [MicrowireChip.drive_rising rfl rfl rfl rfl] at hhigh

/-- DIN is set. -/
lemma PlxBridge.Holds.setDin (h : s.Holds rest ⟨true, clk, di⟩ chip) (n value : ℕ) :
    (if 2 ^ n &&& value = 0 then plx9030SetDinLow (plxPorts board) board s
      else plx9030SetDinHigh (plxPorts board) board s).Holds rest
        ⟨true, clk, value.testBit n⟩ chip := by
  have hquiet : ∀ b : Bool, chip.drive eeprom93C66AddrLen eeprom93C66DataLen ⟨true, clk, di⟩
      ⟨true, clk, b⟩ = chip := by
    intro b
    refine MicrowireChip.drive_of_low rfl ?_
    cases clk with
    | false => exact .inl rfl
    | true => exact .inr (.inl rfl)
  have hbit : 2 ^ n &&& value = 0 ↔ value.testBit n = false := by
    rw [Nat.and_comm, Nat.and_two_pow]
    cases value.testBit n <;> simp
  by_cases hzero : value.testBit n = false
  · rw [if_pos (hbit.2 hzero), hzero]
    have hset := h.setDinLow board
    rwa [hquiet] at hset
  · have hone : value.testBit n = true := by simpa using hzero
    rw [if_neg (mt hbit.1 hzero), hone]
    have hset := h.setDinHigh board
    rwa [hquiet] at hset

/-- The chip gets the bits of a number. -/
lemma PlxBridge.Holds.sendBits (board : FpgaBoard) (h : s.Holds rest ⟨true, clk, di⟩ chip)
    (value n : ℕ) :
    ∃ clk' di', (plx9030SendBits (plxPorts board) board value n (2 ^ n / 2) s).Holds rest
      ⟨true, clk', di'⟩
      (chip.takes eeprom93C66AddrLen eeprom93C66DataLen (bitsOf n value)) := by
  induction n generalizing s chip clk di with
  | zero => exact ⟨clk, di, h⟩
  | succ n ih =>
      have hmask : 2 ^ (n + 1) / 2 = 2 ^ n := by
        rw [pow_succ, Nat.mul_div_cancel _ (by decide)]
      rw [bitsOf_succ, MicrowireChip.takes_cons, plx9030SendBits, hmask, Nat.shiftRight_eq_div_pow]
      exact ih ((h.setDin n value).cycle board)

lemma fitted_sendBits (value n mask : ℕ) (s : PlxBridge) :
    (plx9030SendBits (plxPorts board) board value n mask s).fitted = s.fitted := by
  induction n generalizing mask s with
  | zero => rfl
  | succ n ih =>
      rw [plx9030SendBits, ih]
      simp only [plx9030SetClockHigh, plx9030SetClockLow, plx9030SetDinLow, plx9030SetDinHigh,
        fitted_setCtrlInit]
      split
      · exact fitted_setCtrlInit _ _
      · exact fitted_setCtrlInit _ _

/-- The bit that a clock cycle brings. -/
lemma testBit_received (tdata n i : ℕ) (bit : Bool) :
    (if bit = true then tdata ||| 2 ^ n else tdata).testBit i =
      (tdata.testBit i || (decide (i = n) && bit)) := by
  cases bit with
  | false => simp
  | true =>
      rw [if_pos rfl, Nat.testBit_or, Nat.testBit_two_pow, Bool.and_true]
      simp only [eq_comm]

/-- The bits of a word come in. -/
lemma PlxBridge.Holds.recvBits {words : ℕ → ℕ} {addr : ℕ} {dout : Bool} (hfitted : s.fitted = true)
    {n : ℕ} (hn : n ≤ eeprom93C66DataLen)
    (h : s.Holds rest ⟨true, clk, di⟩ ⟨words, .reading addr (eeprom93C66DataLen - n), dout⟩)
    (tdata : ℕ) :
    (∀ i, (plx9030RecvBits (plxPorts board) board n (2 ^ n / 2) tdata s).1.testBit i =
        (tdata.testBit i || (decide (i < n) && (words addr).testBit i))) ∧
      ∃ clk' phase dout', (plx9030RecvBits (plxPorts board) board n (2 ^ n / 2) tdata s).2.Holds
        rest ⟨true, clk', di⟩ ⟨words, phase, dout'⟩ := by
  induction n generalizing s clk dout tdata with
  | zero => exact ⟨fun i => by simp [plx9030RecvBits], clk, _, dout, h⟩
  | succ n ih =>
      have hmask : 2 ^ (n + 1) / 2 = 2 ^ n := by
        rw [pow_succ, Nat.mul_div_cancel _ (by decide)]
      have hlast : eeprom93C66DataLen - (n + 1) < eeprom93C66DataLen := by omega
      have hbit : eeprom93C66DataLen - 1 - (eeprom93C66DataLen - (n + 1)) = n := by omega
      have hnext : eeprom93C66DataLen - (n + 1) + 1 = eeprom93C66DataLen - n := by omega
      have hcycle := h.cycle board
      rw [MicrowireChip.take_reading, MicrowireChip.shownBit_of_lt hlast, hbit, hnext] at hcycle
      set t := plx9030SetClockHigh (plxPorts board) board
        (plx9030SetClockLow (plxPorts board) board s) with ht
      have htFitted : t.fitted = true := by
        rw [ht, plx9030SetClockHigh, plx9030SetClockLow, fitted_setCtrlInit, fitted_setCtrlInit,
          hfitted]
      have hstep : plx9030RecvBits (plxPorts board) board (n + 1) (2 ^ (n + 1) / 2) tdata s =
          plx9030RecvBits (plxPorts board) board n (2 ^ n / 2)
            (if (words addr).testBit n = true then tdata ||| 2 ^ n else tdata) t := by
        rw [plx9030RecvBits, ← ht, plx9030DataHighQ_ports, htFitted, hcycle.chip, hmask,
          Nat.shiftRight_eq_div_pow]
        cases (words addr).testBit n <;> simp
      rw [hstep]
      obtain ⟨hbits, hholds⟩ := ih htFitted (by omega) hcycle
        (if (words addr).testBit n = true then tdata ||| 2 ^ n else tdata)
      refine ⟨fun i => ?_, hholds⟩
      rw [hbits, testBit_received]
      rcases Nat.lt_trichotomy i n with hi | rfl | hi
      · simp [hi, Nat.lt_succ_of_lt hi, hi.ne]
      · simp
      · simp [Nat.not_lt.2 hi.le, hi.ne', Nat.not_lt.2 (Nat.succ_le_of_lt hi)]

lemma fitted_recvBits (n mask tdata : ℕ) (s : PlxBridge) :
    (plx9030RecvBits (plxPorts board) board n mask tdata s).2.fitted = s.fitted := by
  induction n generalizing mask tdata s with
  | zero => rfl
  | succ n ih =>
      rw [plx9030RecvBits, plx9030DataHighQ_ports, ih]
      simp only [plx9030SetClockHigh, plx9030SetClockLow, fitted_setCtrlInit]

/-- The chip is deselected, with its lines low. -/
lemma PlxBridge.Holds.deselect (board : FpgaBoard) {pins : MicrowirePins}
    (h : s.Holds rest pins chip) :
    (plx9030SetClockLow (plxPorts board) board (plx9030SetDinLow (plxPorts board) board
      (plx9030SetCSLow (plxPorts board) board s))).Holds rest ⟨false, false, false⟩
        ⟨chip.words, .waiting, chip.dout⟩ := by
  have hcs := h.setCSLow board
  rw [MicrowireChip.drive_deselect rfl] at hcs
  have hdin := hcs.setDinLow board
  rw [MicrowireChip.drive_deselect rfl] at hdin
  have hclk := hdin.setClockLow board
  rwa [MicrowireChip.drive_deselect rfl] at hclk

/-- The chip has been asked for a word. -/
lemma PlxBridge.Holds.ask (board : FpgaBoard) {pins : MicrowirePins}
    (h : s.Holds rest pins chip) {reg : ℕ} (hreg : reg < 2 ^ eeprom93C66AddrLen) :
    ∃ clk' di', (plx9030SendBits (plxPorts board) board reg eeprom93C66AddrLen eeprom93C66AddrMask
      (plx9030SendBits (plxPorts board) board eeprom93C66CmdRead eeprom93C66CmdLen
        eeprom93C66CmdMask (plx9030SetCSHigh (plxPorts board) board
          (plx9030SetClockLow (plxPorts board) board (plx9030SetDinLow (plxPorts board) board
            (plx9030SetCSLow (plxPorts board) board s)))))).Holds rest ⟨true, clk', di'⟩
              ⟨chip.words, .reading reg 0, false⟩ := by
  have hselect := (h.deselect board).setCSHigh board
  rw [MicrowireChip.drive_of_low rfl (.inl rfl)] at hselect
  obtain ⟨clk₁, di₁, hcommand⟩ := hselect.sendBits board eeprom93C66CmdRead
    eeprom93C66CmdLen
  obtain ⟨clk₂, di₂, haddress⟩ := hcommand.sendBits board reg eeprom93C66AddrLen
  -- the command and the address are one read command
  have hbits : bitsOf eeprom93C66CmdLen eeprom93C66CmdRead ++ bitsOf eeprom93C66AddrLen reg =
      MicrowireChip.readCommand (bitsOf eeprom93C66AddrLen reg) := rfl
  rw [← MicrowireChip.takes_append, hbits, MicrowireChip.takes_readCommand _ _ (by decide)
    (length_bitsOf _ _), ofBits_bitsOf, Nat.mod_eq_of_lt hreg] at haddress
  exact ⟨clk₂, di₂, haddress⟩

end Transfer

/-- A bridge whose EEPROM and whose other bits are as they were. -/
structure PlxBridge.Keeps (s s' : PlxBridge) : Prop where
  fitted : s'.fitted = s.fitted
  words : s'.chip.words = s.chip.words
  bits : ∀ i, i < 8 ∨ 12 ≤ i → s'.reg.getLsbD i = s.reg.getLsbD i

/-- What a word reads as. -/
def PlxBridge.word (s : PlxBridge) (a : ℕ) : ℕ := if s.fitted then s.chip.words a else 0

lemma PlxBridge.Keeps.trans {s s' s'' : PlxBridge} (h : s.Keeps s') (h' : s'.Keeps s'') :
    s.Keeps s'' where
  fitted := h'.fitted.trans h.fitted
  words := h'.words.trans h.words
  bits i hi := (h'.bits i hi).trans (h.bits i hi)

lemma PlxBridge.Keeps.word_eq {s s' : PlxBridge} (h : s.Keeps s') (a : ℕ) :
    s'.word a = s.word a := by
  rw [PlxBridge.word, h.fitted, h.words, PlxBridge.word]

/-- A word is read. -/
lemma plx9030ReadEepromWord_ports (board : FpgaBoard) {s : PlxBridge} {reg : ℕ}
    (hreg : reg < 2 ^ eeprom93C66AddrLen) (hword : s.chip.words reg < 2 ^ eeprom93C66DataLen) :
    (plx9030ReadEepromWord (plxPorts board) board reg s).1 = s.word reg ∧
      s.Keeps (plx9030ReadEepromWord (plxPorts board) board reg s).2 := by
  have hstart : s.Holds s.reg (eepromPins s.reg) s.chip := ⟨rfl, rfl, fun i _ => rfl⟩
  obtain ⟨clk, di, hask⟩ := hstart.ask board hreg
  set t := plx9030SendBits (plxPorts board) board reg eeprom93C66AddrLen eeprom93C66AddrMask
    (plx9030SendBits (plxPorts board) board eeprom93C66CmdRead eeprom93C66CmdLen
      eeprom93C66CmdMask (plx9030SetCSHigh (plxPorts board) board
        (plx9030SetClockLow (plxPorts board) board (plx9030SetDinLow (plxPorts board) board
          (plx9030SetCSLow (plxPorts board) board s))))) with ht
  have htFitted : t.fitted = s.fitted := by
    rw [ht, fitted_sendBits, fitted_sendBits]
    simp only [plx9030SetCSHigh, plx9030SetClockLow, plx9030SetDinLow, plx9030SetCSLow,
      fitted_setCtrlInit]
  unfold plx9030ReadEepromWord
  simp only [← ht, plx9030DataHighQ_ports, htFitted, hask.chip, Bool.not_false, Bool.and_true]
  cases hfitted : s.fitted with
  | false =>
      have hhigh : (if false = true then (0 : ℤ) else 1) = 1 := rfl
      rw [if_pos hhigh]
      refine ⟨by simp [PlxBridge.word, hfitted], htFitted, ?_, hask.rest⟩
      rw [hask.chip]
  | true =>
      have hlow : ¬(if true = true then (0 : ℤ) else 1) = 1 := by decide
      rw [if_neg hlow]
      obtain ⟨hbits, clk', phase, dout', hread⟩ := hask.recvBits (htFitted.trans hfitted)
        (le_refl eeprom93C66DataLen) 0
      have hmask : 2 ^ eeprom93C66DataLen / 2 = eeprom93C66DataMask := rfl
      rw [hmask] at hbits hread
      have hlast := hread.deselect board
      refine ⟨Nat.eq_of_testBit_eq fun i => ?_, ?_, ?_, hlast.rest⟩
      · rw [PlxBridge.word, if_pos hfitted]
        refine (hbits i).trans ?_
        rw [Nat.zero_testBit, Bool.false_or]
        by_cases hi : i < eeprom93C66DataLen
        · simp [hi]
        · have hhigh : (s.chip.words reg).testBit i = false :=
            Nat.testBit_lt_two_pow
              (hword.trans_le (Nat.pow_le_pow_right (by decide) (Nat.le_of_not_lt hi)))
          simp [hi, hhigh]
      · simp only [plx9030SetClockLow, plx9030SetDinLow, plx9030SetCSLow, fitted_setCtrlInit]
        exact (fitted_recvBits _ _ _ _).trans htFitted
      · dsimp only
        rw [hlast.chip]

/-- The words from `i` on are read. -/
lemma bridgeEepromLoop_ports (board : FpgaBoard) (n : ℕ) {i : ℕ} {s : PlxBridge}
    (hn : i + n ≤ eeprom93C66Size) (hwords : ∀ a, s.chip.words a < 2 ^ eeprom93C66DataLen) :
    (bridgeEepromLoop (plxPorts board) board n i s).1 =
        (List.range n).map (fun k => s.word (i + k)) ∧
      s.Keeps (bridgeEepromLoop (plxPorts board) board n i s).2 := by
  induction n generalizing i s with
  | zero => exact ⟨rfl, rfl, rfl, fun _ _ => rfl⟩
  | succ n ih =>
      have hi : i < 2 ^ eeprom93C66AddrLen := by
        simp only [eeprom93C66Size, eeprom93C66AddrLen] at hn ⊢
        omega
      have hreg : i % 0x100 = i := Nat.mod_eq_of_lt hi
      obtain ⟨hword, hkeeps⟩ := plx9030ReadEepromWord_ports board hi (hwords i)
      obtain ⟨hrest, hkeeps'⟩ := ih (i := i + 1) (by omega)
        (fun a => (congrFun hkeeps.words a).trans_lt (hwords a))
      rw [bridgeEepromLoop, hreg]
      refine ⟨?_, hkeeps.trans hkeeps'⟩
      dsimp only
      rw [hword, hrest, List.range_succ_eq_map, List.map_cons, List.map_map, Nat.add_zero]
      refine congrArg _ (List.map_congr_left fun k _ => ?_)
      rw [hkeeps.word_eq, Function.comp_apply, Nat.succ_eq_add_one, Nat.add_right_comm,
        Nat.add_assoc]

/-- **The words of the setup EEPROM are printed**, whatever the EEPROM was doing before, and zeros
where no EEPROM is fitted.  The EEPROM and the other bits of the register stay as they were. -/
theorem bridgeEeprom_read (board : FpgaBoard) (s : PlxBridge)
    (hwords : ∀ a, s.chip.words a < 2 ^ 16) :
    (pciPlx9030BridgeEepromSetupRead (plxPorts board) board s).1 =
        (List.range 256).map (fun a => if s.fitted then s.chip.words a else 0) ∧
      s.Keeps (pciPlx9030BridgeEepromSetupRead (plxPorts board) board s).2 := by
  obtain ⟨hread, hkeeps⟩ := bridgeEepromLoop_ports board eeprom93C66Size (i := 0) (s := s)
    (by decide) hwords
  refine ⟨hread.trans (List.map_congr_left fun a _ => ?_), hkeeps⟩
  rw [Nat.zero_add, PlxBridge.word]

/-- A chip that had been left in the middle of a word. -/
theorem bridgeEeprom_read_interrupted :
    (pciPlx9030BridgeEepromSetupRead (plxPorts ⟨0, 0xE000, 0⟩) ⟨0, 0xE000, 0⟩
      ⟨0x4B24, true, ⟨fun a => (a * 0x9030) % 0x10000, .reading 7 5, true⟩⟩).1 =
        (List.range 256).map fun a => (a * 0x9030) % 0x10000 :=
  (bridgeEeprom_read ⟨0, 0xE000, 0⟩
    ⟨0x4B24, true, ⟨fun a => (a * 0x9030) % 0x10000, .reading 7 5, true⟩⟩
    fun _ => Nat.mod_lt _ (by decide)).1.trans (List.map_congr_left fun _ _ => if_pos rfl)

end Mesaflash
