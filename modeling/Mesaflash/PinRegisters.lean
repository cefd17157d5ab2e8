import Mesaflash.Hostmot2
import Mesaflash.Lib.Cells

/-!
The pins of the I/O ports.

Each port has a register in which every pin has a bit for its source, and one in which
every pin has a bit for its direction.  `hm2_set_pin_source` and `hm2_set_pin_direction`
are one function with parameters, `setPin`: they read a register, change a bit and write the
register.  They differ in the numbers by which a pin is divided to find the register and the
bit, and only those of `hm2_set_pin_direction` are the width of a port.
-/

namespace Mesaflash

open Lib

def hm2PinSourceIsPrimary : UInt8 := 0x00
def hm2PinSourceIsSecondary : UInt8 := 0x01
def hm2PinDirIsInput : UInt8 := 0x02
def hm2PinDirIsOutput : UInt8 := 0x04

def hm2GtagNone : UInt8 := 0x00
def hm2GtagMuxedEncoderSel : UInt8 := 0x0D
def hm2PinOutput : UInt8 := 0x80

section Functions

variable {σ : Type} (bus : RegisterBus σ) (hm2 : Hostmot2)

/-- `llio->read` of one register. -/
def busRead (addr : ℕ) : Prog Fault σ ℕ := fun s => .ok (bus.read addr s)

/-- `llio->write` of one register. -/
def busWrite (addr value : ℕ) : Prog Fault σ Unit := fun s => .ok ((), bus.write addr value s)

/-- `1 << k`.  Compilers shift into the sign bit. -/
def shiftedOne (k : ℕ) : Prog Fault σ ℕ :=
  if k < 32 then pure (2 ^ k) else throw (.undefined .oversizedShift)

/-- Register `n` in a bank of a module. -/
def ModuleDesc.register (md : ModuleDesc) (bank n : ℕ) : ℕ :=
  u32 (md.baseAddress.toNat + bank + n * 4)

/-- A bank of registers with a bit for each pin, and how a function finds the bit. -/
structure PinBank where
  offset : ℕ
  /-- The number of pins that are taken for one register. -/
  width : ℕ
  clearValue : UInt8
  /-- The bit that is cleared is the pin modulo this number. -/
  clearWidth : ℕ
  setValue : UInt8
  /-- The bit that is set is the pin modulo this number. -/
  setWidth : ℕ

/-- The functions `hm2_set_pin_*`. -/
def setPin (bank : PinBank) (pinNumber : ℕ) (value : UInt8) : Prog Fault σ Unit :=
  match hm2FindModule hm2 hm2GtagIoport with
  | none => pure ()
  | some md =>
    if u32 (hm2.idrom.ioPorts * bank.width) ≤ pinNumber then pure ()
    else do
      let data ← busRead bus (md.register bank.offset (pinNumber / bank.width))
      if value = bank.clearValue then do
        let bit ← shiftedOne (pinNumber % bank.clearWidth)
        busWrite bus (md.register bank.offset (pinNumber / bank.width)) (data &&& u32Not bit)
      else if value = bank.setValue then do
        let bit ← shiftedOne (pinNumber % bank.setWidth)
        busWrite bus (md.register bank.offset (pinNumber / bank.width)) (data ||| bit)
      else pure ()

/-- The registers and divisors of `hm2_set_pin_source`. -/
def Hostmot2.sourceBank (hm2 : Hostmot2) : PinBank where
  offset := hm2ModOffsGpioAltSource
  width := hm2.idrom.ioWidth
  clearValue := hm2PinSourceIsPrimary
  clearWidth := 24
  setValue := hm2PinSourceIsSecondary
  setWidth := hm2.idrom.ioWidth

/-- The registers and divisors of `hm2_set_pin_direction`. -/
def Hostmot2.directionBank (hm2 : Hostmot2) : PinBank where
  offset := hm2ModOffsGpioDdr
  width := hm2.idrom.portWidth
  clearValue := hm2PinDirIsInput
  clearWidth := hm2.idrom.portWidth
  setValue := hm2PinDirIsOutput
  setWidth := hm2.idrom.portWidth

lemma Hostmot2.sourceBank_ne : hm2.sourceBank.setValue ≠ hm2.sourceBank.clearValue := by
  change hm2PinSourceIsSecondary ≠ hm2PinSourceIsPrimary
  decide

lemma Hostmot2.directionBank_ne :
    hm2.directionBank.setValue ≠ hm2.directionBank.clearValue := by
  change hm2PinDirIsOutput ≠ hm2PinDirIsInput
  decide

/-- `hm2_set_pin_source`. -/
def hm2SetPinSource (pinNumber : ℕ) (source : UInt8) : Prog Fault σ Unit :=
  setPin bus hm2 hm2.sourceBank pinNumber source

/-- `hm2_set_pin_direction`. -/
def hm2SetPinDirection (pinNumber : ℕ) (direction : UInt8) : Prog Fault σ Unit :=
  setPin bus hm2 hm2.directionBank pinNumber direction

end Functions

/-! ### Calls -/

/-- A call of one of the two functions. -/
inductive PinCall where
  | source (pinNumber : ℕ) (source : UInt8)
  | direction (pinNumber : ℕ) (direction : UInt8)
deriving DecidableEq, Repr

namespace PinCall

def pinNumber : PinCall → ℕ
  | source pin _ => pin
  | direction pin _ => pin

def run {σ : Type} (bus : RegisterBus σ) (hm2 : Hostmot2) : PinCall → Prog Fault σ Unit
  | source pin value => hm2SetPinSource bus hm2 pin value
  | direction pin value => hm2SetPinDirection bus hm2 pin value

end PinCall

/-- A sequence of calls. -/
def runPinCalls {σ : Type} (bus : RegisterBus σ) (hm2 : Hostmot2) (calls : List PinCall) :
    Prog Fault σ Unit := calls.forM (PinCall.run bus hm2)

section Sequences

variable {σ : Type} (bus : RegisterBus σ) (hm2 : Hostmot2)

lemma runPinCalls_cons (c : PinCall) (calls : List PinCall) :
    runPinCalls bus hm2 (c :: calls) = c.run bus hm2 >>= fun _ => runPinCalls bus hm2 calls := rfl

lemma runPinCalls_singleton (c : PinCall) : runPinCalls bus hm2 [c] = c.run bus hm2 :=
  bind_pure_unit

end Sequences

/-! ### What the calls are for -/

/-- The two bits of a pin. -/
inductive PinBit where
  | source (pin : ℕ)
  | direction (pin : ℕ)
deriving DecidableEq, Repr

def PinBit.pin : PinBit → ℕ
  | source pin => pin
  | direction pin => pin

namespace PinCall

/-- The bit that a call gives a value to.  A number that is neither of the two values of a
bit is not taken. -/
def sets : PinCall → Option (PinBit × Bool)
  | source pin value =>
    if value = hm2PinSourceIsPrimary then some (.source pin, false)
    else if value = hm2PinSourceIsSecondary then some (.source pin, true)
    else none
  | direction pin value =>
    if value = hm2PinDirIsInput then some (.direction pin, false)
    else if value = hm2PinDirIsOutput then some (.direction pin, true)
    else none

/-- The bits of all pins after a call. -/
def apply (a : PinBit → Bool) (c : PinCall) : PinBit → Bool :=
  match c.sets with
  | some x => Function.update a x.1 x.2
  | none => a

end PinCall

/-! ### The registers -/

/-- The registers of a board, and which of them were written so far. -/
structure RegisterFile where
  contents : ℕ → UInt32
  written : List ℕ

section Registers

variable (readout : ℕ → RegisterFile → UInt32)

/-- The registers, where reading one delivers whatever `readout` says. -/
def registerBus : RegisterBus RegisterFile where
  read addr r := ((readout addr r).toNat, r)
  write addr value r :=
    ⟨Function.update r.contents addr value.toUInt32, r.written ++ [addr]⟩

/-- Reading the register delivers what it holds. -/
def Readable (addr : ℕ) : Prop := ∀ r : RegisterFile, readout addr r = r.contents addr

variable {readout}

/-- The registers after a bit of one of them was written. -/
def RegisterFile.setBit (r : RegisterFile) (addr k : ℕ) (b : Bool) : RegisterFile :=
  ⟨Function.update r.contents addr (withBit (r.contents addr).toNat k b).toUInt32,
    r.written ++ [addr]⟩

lemma RegisterFile.bitOf_setBit (r : RegisterFile) (addr : ℕ) {k : ℕ} (hk : k < 32) (b : Bool) :
    bitOf (r.setBit addr k b).contents = Function.update (bitOf r.contents) (addr, k) b :=
  bitOf_update_withBit r.contents addr hk b

section Spec

variable {hm2 : Hostmot2} {md : ModuleDesc} (bank : PinBank) {pin : ℕ} {value : UInt8}
  (hmd : hm2FindModule hm2 hm2GtagIoport = some md)
  (hpin : pin < u32 (hm2.idrom.ioPorts * bank.width)) (r : RegisterFile)
include hmd hpin

lemma setPin_clear (hread : Readable readout (md.register bank.offset (pin / bank.width)))
    (hk : pin % bank.clearWidth < 32) :
    setPin (registerBus readout) hm2 bank pin bank.clearValue r =
      .ok ((), r.setBit (md.register bank.offset (pin / bank.width)) (pin % bank.clearWidth)
        false) := by
  simp only [setPin, hmd, if_neg (Nat.not_le.2 hpin), if_pos, shiftedOne, if_pos hk, prog_bind,
    busRead, registerBus, hread r]
  rfl

lemma setPin_set (hread : Readable readout (md.register bank.offset (pin / bank.width)))
    (hk : pin % bank.setWidth < 32) (hne : bank.setValue ≠ bank.clearValue) :
    setPin (registerBus readout) hm2 bank pin bank.setValue r =
      .ok ((), r.setBit (md.register bank.offset (pin / bank.width)) (pin % bank.setWidth)
        true) := by
  simp only [setPin, hmd, if_neg (Nat.not_le.2 hpin), if_neg hne, if_pos, shiftedOne, if_pos hk,
    prog_bind, busRead, registerBus, hread r]
  rfl

omit hpin in
lemma setPin_other (hclear : value ≠ bank.clearValue) (hset : value ≠ bank.setValue) :
    setPin (registerBus readout) hm2 bank pin value r = .ok ((), r) := by
  simp only [setPin, hmd, if_neg hclear, if_neg hset]
  split_ifs with hrefused
  · rfl
  · rfl

end Spec

end Registers

/-! ### Where the pins are -/

/-- The IDROM of a board: the width of a port is that of a register at most, and `io_width`
is the number of pins of all ports. -/
structure Hostmot2.PinLayout (hm2 : Hostmot2) (md : ModuleDesc) : Prop where
  ioport : hm2FindModule hm2 hm2GtagIoport = some md
  portWidth_pos : 0 < hm2.idrom.portWidth
  portWidth_le : hm2.idrom.portWidth ≤ 32
  ioWidth : hm2.idrom.ioWidth = hm2.idrom.ioPorts * hm2.idrom.portWidth
  ioWidth_lt : hm2.idrom.ioWidth < 2 ^ 32

namespace Hostmot2

variable (hm2 : Hostmot2) (md : ModuleDesc)

/-- The pin belongs to one of the ports. -/
def HasPin (i : PinBit) : Prop := i.pin < hm2.idrom.ioPorts * hm2.idrom.portWidth

/-- The register and the bit that belong to a bit of a pin. -/
def pinPlace : PinBit → ℕ × ℕ
  | .source pin => (md.register hm2ModOffsGpioAltSource (pin / hm2.idrom.portWidth),
      pin % hm2.idrom.portWidth)
  | .direction pin => (md.register hm2ModOffsGpioDdr (pin / hm2.idrom.portWidth),
      pin % hm2.idrom.portWidth)

/-- The registers of all ports can be read. -/
def PinsReadable (readout : ℕ → RegisterFile → UInt32) : Prop :=
  ∀ n < hm2.idrom.ioPorts, Readable readout (md.register hm2ModOffsGpioAltSource n) ∧
    Readable readout (md.register hm2ModOffsGpioDdr n)

/-- The divisors of the function lead to the pin: those of `hm2_set_pin_direction` always do,
those of `hm2_set_pin_source` on the first port, where 24 is no smaller divisor. -/
def Leads : PinCall → Prop
  | .source pin source => pin < u32 (hm2.idrom.ioPorts * hm2.idrom.ioWidth) ∧
      pin < hm2.idrom.portWidth ∧ (source = hm2PinSourceIsPrimary → pin < 24)
  | .direction _ _ => True

/-- The call reaches the bit of its pin, and no other bit of a pin is in that place. -/
def Fits (c : PinCall) : Prop :=
  ∀ x, c.sets = some x → hm2.Leads c ∧ Alone (hm2.pinPlace md) hm2.HasPin x.1

/-- After the calls each bit of a pin has the last value that it was given, and nothing else
has changed. -/
def PinsHold (prior : RegisterFile) (calls : List PinCall) (r : RegisterFile) : Prop :=
  HoldsCells (hm2.pinPlace md) hm2.HasPin
    (calls.foldl PinCall.apply fun i => bitOf prior.contents (hm2.pinPlace md i))
    (bitOf prior.contents) (bitOf r.contents)

variable {hm2 md}

/-- The registers of a module are at different addresses. -/
lemma register_inj {bank bank' n n' : ℕ} (hn : bank + n * 4 < 0x10000)
    (hn' : bank' + n' * 4 < 0x10000) (h : md.register bank n = md.register bank' n') :
    bank + n * 4 = bank' + n' * 4 := by
  have hbase : md.baseAddress.toNat < 2 ^ 16 := md.baseAddress.toNat_lt
  simp only [ModuleDesc.register, u32] at h
  omega

/-- With at most 64 ports the two banks are apart, and all bits are in different places. -/
lemma alone_of_le (hlayout : hm2.PinLayout md) (hports : hm2.idrom.ioPorts ≤ 64) {i : PinBit}
    (hi : hm2.HasPin i) : Alone (hm2.pinPlace md) hm2.HasPin i := by
  have hwidth := hlayout.portWidth_pos
  have hport : ∀ i, hm2.HasPin i → i.pin / hm2.idrom.portWidth < 64 := by
    intro i hi
    exact (Nat.div_lt_of_lt_mul (Nat.mul_comm _ _ ▸ hi)).trans_le hports
  have hpin : ∀ p q : ℕ, p / hm2.idrom.portWidth = q / hm2.idrom.portWidth →
      p % hm2.idrom.portWidth = q % hm2.idrom.portWidth → p = q := by
    intro p q hdiv hmod
    rw [← Nat.div_add_mod p hm2.idrom.portWidth, hdiv, hmod, Nat.div_add_mod]
  have hddr : hm2ModOffsGpioDdr = 0x100 := rfl
  have hsource : hm2ModOffsGpioAltSource = 0x200 := rfl
  -- equal places have equal registers, and these are at different addresses
  intro j hj hne heq
  have hi' := hport i hi
  have hj' := hport j hj
  obtain ⟨hreg, hbit⟩ := Prod.mk.inj heq
  cases i with
  | source p =>
      simp only [PinBit.pin] at hi'
      cases j with
      | source q =>
          simp only [PinBit.pin] at hj'
          have hplace := register_inj (by omega) (by omega) hreg
          exact hne (congrArg PinBit.source (hpin q p (by omega) hbit))
      | direction q =>
          simp only [PinBit.pin] at hj'
          have hplace := register_inj (by omega) (by omega) hreg
          omega
  | direction p =>
      simp only [PinBit.pin] at hi'
      cases j with
      | direction q =>
          simp only [PinBit.pin] at hj'
          have hplace := register_inj (by omega) (by omega) hreg
          exact hne (congrArg PinBit.direction (hpin q p (by omega) hbit))
      | source q =>
          simp only [PinBit.pin] at hj'
          have hplace := register_inj (by omega) (by omega) hreg
          omega

end Hostmot2

/-! ### Calls that fit -/

section Runs

variable {hm2 : Hostmot2} {md : ModuleDesc} {readout : ℕ → RegisterFile → UInt32}
  {prior : RegisterFile}

/-- A function that is led to the register and the bit of a pin changes that bit of the pin. -/
lemma setPin_holds (bank : PinBank) (hlayout : hm2.PinLayout md) {i : PinBit} {pin : ℕ}
    (hpin : pin < u32 (hm2.idrom.ioPorts * bank.width)) (hi : hm2.HasPin i)
    (hreg : md.register bank.offset (pin / bank.width) = (hm2.pinPlace md i).1)
    (hread : Readable readout (hm2.pinPlace md i).1) (hk : (hm2.pinPlace md i).2 < 32)
    (halone : Alone (hm2.pinPlace md) hm2.HasPin i) {value : UInt8} {b : Bool}
    (hvalue : value = bank.clearValue ∧ b = false ∧
        pin % bank.clearWidth = (hm2.pinPlace md i).2 ∨
      value = bank.setValue ∧ bank.setValue ≠ bank.clearValue ∧ b = true ∧
        pin % bank.setWidth = (hm2.pinPlace md i).2)
    {a : PinBit → Bool} {r : RegisterFile}
    (h : HoldsCells (hm2.pinPlace md) hm2.HasPin a (bitOf prior.contents) (bitOf r.contents)) :
    ∃ r', setPin (registerBus readout) hm2 bank pin value r = .ok ((), r') ∧
      HoldsCells (hm2.pinPlace md) hm2.HasPin (Function.update a i b) (bitOf prior.contents)
        (bitOf r'.contents) := by
  refine ⟨r.setBit (hm2.pinPlace md i).1 (hm2.pinPlace md i).2 b, ?_, ?_⟩
  · rcases hvalue with ⟨rfl, rfl, hbit⟩ | ⟨rfl, hne, rfl, hbit⟩
    · rw [setPin_clear bank hlayout.ioport hpin r (hreg ▸ hread) (hbit ▸ hk), hreg, hbit]
    · rw [setPin_set bank hlayout.ioport hpin r (hreg ▸ hread) (hbit ▸ hk) hne, hreg, hbit]
  · rw [RegisterFile.bitOf_setBit r _ hk]
    exact h.update hi halone b

lemma PinCall.apply_of_some {c : PinCall} {x : PinBit × Bool} (hx : c.sets = some x)
    (a : PinBit → Bool) : c.apply a = Function.update a x.1 x.2 := by
  rw [PinCall.apply, hx]

lemma PinCall.apply_of_none {c : PinCall} (hx : c.sets = none) (a : PinBit → Bool) :
    c.apply a = a := by
  rw [PinCall.apply, hx]

/-- What `hm2_set_pin_source` makes of the bits. -/
lemma hm2SetPinSource_holds (hlayout : hm2.PinLayout md) (hreadable : hm2.PinsReadable md readout)
    {pin : ℕ} {value : UInt8} (hpin : pin < hm2.idrom.ioPorts * hm2.idrom.portWidth)
    (hfits : hm2.Fits md (.source pin value)) {a : PinBit → Bool} {r : RegisterFile}
    (h : HoldsCells (hm2.pinPlace md) hm2.HasPin a (bitOf prior.contents) (bitOf r.contents)) :
    ∃ r', hm2SetPinSource (registerBus readout) hm2 pin value r = .ok ((), r') ∧
      HoldsCells (hm2.pinPlace md) hm2.HasPin ((PinCall.source pin value).apply a)
        (bitOf prior.contents) (bitOf r'.contents) := by
  have hi : hm2.HasPin (.source pin) := hpin
  have hsource := (hreadable _ (Nat.div_lt_of_lt_mul (Nat.mul_comm _ _ ▸ hpin))).1
  have hk : pin % hm2.idrom.portWidth < 32 :=
    (Nat.mod_lt _ hlayout.portWidth_pos).trans_le hlayout.portWidth_le
  have hall : pin < hm2.idrom.ioWidth := hlayout.ioWidth ▸ hpin
  -- on the first port both divisors lead to the first register
  have hreg : pin < hm2.idrom.portWidth →
      md.register hm2ModOffsGpioAltSource (pin / hm2.idrom.ioWidth) =
        md.register hm2ModOffsGpioAltSource (pin / hm2.idrom.portWidth) := by
    intro hfirst
    rw [Nat.div_eq_of_lt hall, Nat.div_eq_of_lt hfirst]
  by_cases hprimary : value = hm2PinSourceIsPrimary
  · have hsets : (PinCall.source pin value).sets = some (.source pin, false) := if_pos hprimary
    obtain ⟨⟨hlimit, hfirst, h24⟩, halone⟩ := hfits _ hsets
    have hbit : pin % 24 = pin % hm2.idrom.portWidth := by
      rw [Nat.mod_eq_of_lt (h24 hprimary), Nat.mod_eq_of_lt hfirst]
    rw [PinCall.apply_of_some hsets]
    exact setPin_holds hm2.sourceBank hlayout hlimit hi (hreg hfirst) hsource hk
      halone (.inl ⟨hprimary, rfl, hbit⟩) h
  by_cases hsecondary : value = hm2PinSourceIsSecondary
  · have hsets : (PinCall.source pin value).sets = some (.source pin, true) :=
      (if_neg hprimary).trans (if_pos hsecondary)
    obtain ⟨⟨hlimit, hfirst, -⟩, halone⟩ := hfits _ hsets
    have hbit : pin % hm2.idrom.ioWidth = pin % hm2.idrom.portWidth := by
      rw [Nat.mod_eq_of_lt hall, Nat.mod_eq_of_lt hfirst]
    rw [PinCall.apply_of_some hsets]
    exact setPin_holds hm2.sourceBank hlayout hlimit hi (hreg hfirst) hsource hk
      halone (.inr ⟨hsecondary, hm2.sourceBank_ne, rfl, hbit⟩) h
  · -- other values change nothing
    have hsets : (PinCall.source pin value).sets = none :=
      (if_neg hprimary).trans (if_neg hsecondary)
    rw [PinCall.apply_of_none hsets]
    exact ⟨r, setPin_other hm2.sourceBank hlayout.ioport r hprimary hsecondary, h⟩

/-- What `hm2_set_pin_direction` makes of the bits. -/
lemma hm2SetPinDirection_holds (hlayout : hm2.PinLayout md)
    (hreadable : hm2.PinsReadable md readout) {pin : ℕ} {value : UInt8}
    (hpin : pin < hm2.idrom.ioPorts * hm2.idrom.portWidth)
    (hfits : hm2.Fits md (.direction pin value)) {a : PinBit → Bool} {r : RegisterFile}
    (h : HoldsCells (hm2.pinPlace md) hm2.HasPin a (bitOf prior.contents) (bitOf r.contents)) :
    ∃ r', hm2SetPinDirection (registerBus readout) hm2 pin value r = .ok ((), r') ∧
      HoldsCells (hm2.pinPlace md) hm2.HasPin ((PinCall.direction pin value).apply a)
        (bitOf prior.contents) (bitOf r'.contents) := by
  have hi : hm2.HasPin (.direction pin) := hpin
  have hdirection := (hreadable _ (Nat.div_lt_of_lt_mul (Nat.mul_comm _ _ ▸ hpin))).2
  have hk : pin % hm2.idrom.portWidth < 32 :=
    (Nat.mod_lt _ hlayout.portWidth_pos).trans_le hlayout.portWidth_le
  have hlimit : pin < u32 (hm2.idrom.ioPorts * hm2.idrom.portWidth) := by
    rw [u32, ← hlayout.ioWidth, Nat.mod_eq_of_lt hlayout.ioWidth_lt, hlayout.ioWidth]
    exact hpin
  by_cases hinput : value = hm2PinDirIsInput
  · have hsets : (PinCall.direction pin value).sets = some (.direction pin, false) :=
      if_pos hinput
    rw [PinCall.apply_of_some hsets]
    exact setPin_holds hm2.directionBank hlayout hlimit hi rfl hdirection hk
      (hfits _ hsets).2 (.inl ⟨hinput, rfl, rfl⟩) h
  by_cases houtput : value = hm2PinDirIsOutput
  · have hsets : (PinCall.direction pin value).sets = some (.direction pin, true) :=
      (if_neg hinput).trans (if_pos houtput)
    rw [PinCall.apply_of_some hsets]
    exact setPin_holds hm2.directionBank hlayout hlimit hi rfl hdirection hk
      (hfits _ hsets).2 (.inr ⟨houtput, hm2.directionBank_ne, rfl, rfl⟩) h
  · -- other values change nothing
    have hsets : (PinCall.direction pin value).sets = none :=
      (if_neg hinput).trans (if_neg houtput)
    rw [PinCall.apply_of_none hsets]
    exact ⟨r, setPin_other hm2.directionBank hlayout.ioport r hinput houtput, h⟩

/-- What a call that fits makes of the bits. -/
lemma PinCall.run_holds (hlayout : hm2.PinLayout md) (hreadable : hm2.PinsReadable md readout)
    {c : PinCall} (hpin : c.pinNumber < hm2.idrom.ioPorts * hm2.idrom.portWidth)
    (hfits : hm2.Fits md c) {a : PinBit → Bool} {r : RegisterFile}
    (h : HoldsCells (hm2.pinPlace md) hm2.HasPin a (bitOf prior.contents) (bitOf r.contents)) :
    ∃ r', c.run (registerBus readout) hm2 r = .ok ((), r') ∧
      HoldsCells (hm2.pinPlace md) hm2.HasPin (c.apply a) (bitOf prior.contents)
        (bitOf r'.contents) := by
  cases c with
  | source pin value => exact hm2SetPinSource_holds hlayout hreadable hpin hfits h
  | direction pin value => exact hm2SetPinDirection_holds hlayout hreadable hpin hfits h

/-- What a run of calls that fit makes of the bits. -/
lemma runPinCalls_holds (hlayout : hm2.PinLayout md) (hreadable : hm2.PinsReadable md readout)
    (calls : List PinCall) :
    ∀ (a : PinBit → Bool) (r : RegisterFile),
      (∀ c ∈ calls, c.pinNumber < hm2.idrom.ioPorts * hm2.idrom.portWidth ∧ hm2.Fits md c) →
      HoldsCells (hm2.pinPlace md) hm2.HasPin a (bitOf prior.contents) (bitOf r.contents) →
      ∃ r', runPinCalls (registerBus readout) hm2 calls r = .ok ((), r') ∧
        HoldsCells (hm2.pinPlace md) hm2.HasPin (calls.foldl PinCall.apply a) (bitOf prior.contents)
          (bitOf r'.contents) := by
  induction calls with
  | nil =>
      intro a r _ h
      exact ⟨r, rfl, h⟩
  | cons c calls ih =>
      intro a r hcalls h
      obtain ⟨hpin, hfits⟩ := hcalls c List.mem_cons_self
      obtain ⟨r₁, hrun, h₁⟩ := c.run_holds hlayout hreadable hpin hfits h
      obtain ⟨r₂, hrest, h₂⟩ := ih (c.apply a) r₁
        (fun c' hc' => hcalls c' (List.mem_cons_of_mem c hc')) h₁
      refine ⟨r₂, ?_, h₂⟩
      rw [runPinCalls_cons, prog_bind, hrun]
      exact hrest

/-- **In a run of calls that fit each pin has the source and the direction that it was last
given, and no other bit of a register has changed.** -/
theorem pinCalls_hold (hlayout : hm2.PinLayout md) (hreadable : hm2.PinsReadable md readout)
    (prior : RegisterFile) (calls : List PinCall)
    (hpins : ∀ c ∈ calls, c.pinNumber < hm2.idrom.ioPorts * hm2.idrom.portWidth)
    (hfits : ∀ c ∈ calls, hm2.Fits md c) :
    ∃ r, runPinCalls (registerBus readout) hm2 calls prior = .ok ((), r) ∧
      hm2.PinsHold md prior calls r :=
  runPinCalls_holds hlayout hreadable calls _ prior (fun c hc => ⟨hpins c hc, hfits c hc⟩)
    (HoldsCells.refl _)

/-- Registers that are all 0. -/
def clearRegisters : RegisterFile := ⟨fun _ => 0, []⟩

/-- The module of the I/O ports of `twoPorts`. -/
def ioportModule : ModuleDesc := ⟨hm2GtagIoport, 0x1000, 0⟩

/-- A board with two ports of 24 pins. -/
def twoPorts : Hostmot2 where
  idrom := ⟨2, 48, 24, 0, 0⟩
  modules _ := ioportModule
  pins _ := ⟨0, 0, 0, 0⟩

lemma twoPorts_layout : twoPorts.PinLayout ioportModule where
  ioport := rfl
  portWidth_pos := by decide
  portWidth_le := by decide
  ioWidth := by decide
  ioWidth_lt := by decide

/-- All registers can be read. -/
def readAll (addr : ℕ) (r : RegisterFile) : UInt32 := r.contents addr

lemma pinsReadable_readAll (hm2 : Hostmot2) (md : ModuleDesc) : hm2.PinsReadable md readAll :=
  fun _ _ => ⟨fun _ => rfl, fun _ => rfl⟩

/-- A pin of the first port has its secondary source, and one of the second port is an output. -/
theorem pinCalls_hold_twoPorts :
    ∃ r, runPinCalls (registerBus readAll) twoPorts
        [.source 3 hm2PinSourceIsSecondary, .direction 30 hm2PinDirIsOutput] clearRegisters =
        .ok ((), r) ∧
      twoPorts.PinsHold ioportModule clearRegisters
        [.source 3 hm2PinSourceIsSecondary, .direction 30 hm2PinDirIsOutput] r := by
  have halone : ∀ i, twoPorts.HasPin i → Alone (twoPorts.pinPlace ioportModule) twoPorts.HasPin i :=
    fun i hi => Hostmot2.alone_of_le twoPorts_layout (by decide) hi
  refine pinCalls_hold twoPorts_layout (pinsReadable_readAll _ _) clearRegisters _ (by decide) ?_
  intro c hc x hx
  rcases List.mem_cons.1 hc with rfl | hc
  · obtain rfl := Option.some.inj hx
    refine ⟨⟨by decide, by decide, by decide⟩, halone _ ?_⟩
    change 3 < 2 * 24
    decide
  · obtain rfl := List.mem_singleton.1 hc
    obtain rfl := Option.some.inj hx
    refine ⟨trivial, halone _ ?_⟩
    change 30 < 2 * 24
    decide

/-- **On the second port the source is set in a bit of the first register that belongs to no
pin.** -/
theorem twoPorts_missed :
    twoPorts.PinLayout ioportModule ∧ twoPorts.PinsReadable ioportModule readAll ∧
      (24 : ℕ) < twoPorts.idrom.ioPorts * twoPorts.idrom.portWidth ∧
      ¬ ∃ r, runPinCalls (registerBus readAll) twoPorts [.source 24 hm2PinSourceIsSecondary]
          clearRegisters = .ok ((), r) ∧
        twoPorts.PinsHold ioportModule clearRegisters [.source 24 hm2PinSourceIsSecondary] r := by
  refine ⟨twoPorts_layout, pinsReadable_readAll _ _, by decide, ?_⟩
  rintro ⟨r, hrun, hhold⟩
  have hset : setPin (registerBus readAll) twoPorts twoPorts.sourceBank 24 _ clearRegisters =
      .ok ((), clearRegisters.setBit 0x1200 24 true) :=
    setPin_set twoPorts.sourceBank twoPorts_layout.ioport (by decide) clearRegisters
      (fun _ => rfl) (by decide) twoPorts.sourceBank_ne
  rw [runPinCalls_singleton] at hrun
  have hreached : r = clearRegisters.setBit 0x1200 24 true :=
    congrArg Prod.snd (Except.ok.inj (hrun.symm.trans hset))
  have hcell : bitOf r.contents (0x1204, 0) = true :=
    hhold.cell (.source 24) (by change 24 < 2 * 24; decide)
  rw [hreached, RegisterFile.bitOf_setBit _ _ (by decide),
    Function.update_of_ne (by decide)] at hcell
  exact absurd hcell (by decide)

end Runs

end Mesaflash
