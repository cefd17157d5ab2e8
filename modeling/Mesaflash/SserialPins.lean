import Mesaflash.SserialBoard
import Mesaflash.SserialAccess
import Mesaflash.PinRegisters

/-!
The pins of smart serial.

`enable_sserial_pins` goes through the pins of the first two ports and gives each of these
ports a word for the sources and one for the directions.  `disable_sserial_pins` clears the
registers of the same two ports.  Boards have between one port and eight.
-/

namespace Mesaflash

open Lib

/-- The pin belongs to smart serial. -/
def PinDesc.isSserial (desc : PinDesc) : Bool := desc.secTag = hm2GtagSserial

/-- The pin is an output of smart serial. -/
def PinDesc.isSserialOutput (desc : PinDesc) : Bool :=
  desc.secTag = hm2GtagSserial ∧ desc.secPin &&& 0x80 ≠ 0

namespace Hostmot2

variable (hm2 : Hostmot2)

/-- What the descriptor of a pin says. -/
def pinIs (p : PinDesc → Bool) (pin : ℕ) : Bool :=
  if h : pin < hm2MaxPins then p (hm2.pins ⟨pin, h⟩) else false

/-- A word with a bit for each pin of a port. -/
def portMask (p : PinDesc → Bool) (port : ℕ) : ℕ :=
  maskOf (fun k => hm2.pinIs p (port * hm2.idrom.portWidth + k)) hm2.idrom.portWidth

variable {hm2}

lemma pinIs_eq (p : PinDesc → Bool) {pin : ℕ} (h : pin < hm2MaxPins) :
    hm2.pinIs p pin = p (hm2.pins ⟨pin, h⟩) := dif_pos h

end Hostmot2

/-! ### One port -/

section Scan

variable {σ : Type} {hm2 : Hostmot2} {x : PinScan} {pin k : ℕ} (s : SserialState σ)

/-- A pin that can be looked at. -/
lemma scanPin_fits (hx : u32 (x.pin + 1) = pin) (hfits : hm2.PinFits pin) :
    ∃ y, scanPin hm2 x k s = .ok (y, s) ∧ u32 (y.pin + 1) = pin + 1 ∧
      y.ddrReg = (if hm2.pinIs PinDesc.isSserialOutput pin then x.ddrReg ||| u32 (1 <<< k)
        else x.ddrReg) ∧
      y.srcReg = (if hm2.pinIs PinDesc.isSserial pin then x.srcReg ||| u32 (1 <<< k)
        else x.srcReg) := by
  obtain ⟨hpin, hchan⟩ := hfits
  have hnext : u32 (pin + 1) = pin + 1 := by
    have hmax : hm2MaxPins = 144 := rfl
    exact u32_of_lt (by omega)
  rw [scanPin, hx, prog_bind, elementOf_eq hpin, ok_bind, Hostmot2.pinIs_eq _ hpin,
    Hostmot2.pinIs_eq _ hpin, PinDesc.isSserial, PinDesc.isSserialOutput]
  dsimp only
  by_cases htag : (hm2.pins ⟨pin, hpin⟩).secTag = hm2GtagSserial
  · rw [if_pos htag, prog_bind, elementOf_eq (hchan htag), ok_bind]
    refine ⟨_, rfl, hnext, ?_, ?_⟩
    · simp [htag]
    · simp [htag]
  · rw [if_neg htag]
    refine ⟨_, rfl, hnext, ?_, ?_⟩
    · simp [htag]
    · simp [htag]

/-- A pin that cannot be looked at. -/
lemma scanPin_error (hx : u32 (x.pin + 1) = pin) (hfits : ¬ hm2.PinFits pin) :
    scanPin hm2 x k s = .error (.undefined .outOfBounds) := by
  rw [scanPin, hx, prog_bind]
  by_cases hpin : pin < hm2MaxPins
  · rw [elementOf_eq hpin, ok_bind]
    have htag : (hm2.pins ⟨pin, hpin⟩).secTag = hm2GtagSserial ∧
        ¬ (hm2.pins ⟨pin, hpin⟩).secChan.toNat < 8 := by
      by_contra h
      exact hfits ⟨hpin, fun htag => by_contra fun hchan => h ⟨htag, hchan⟩⟩
    rw [if_pos htag.1, prog_bind, elementOf_eq_error htag.2]
    rfl
  · rw [elementOf_eq_error hpin]
    rfl

/-- The pins of a port are looked at, from the pin behind that of `x` on. -/
lemma scanPins_fits {pin : ℕ} (hx : u32 (x.pin + 1) = pin) (hddr : x.ddrReg = 0)
    (hsrc : x.srcReg = 0) (n : ℕ) (hfits : ∀ k < n, hm2.PinFits (pin + k)) :
    ∃ y, (List.range n).foldlM (scanPin hm2) x s = .ok (y, s) ∧ u32 (y.pin + 1) = pin + n ∧
      y.ddrReg = maskOf (fun k => hm2.pinIs PinDesc.isSserialOutput (pin + k)) n ∧
      y.srcReg = maskOf (fun k => hm2.pinIs PinDesc.isSserial (pin + k)) n := by
  induction n with
  | zero => exact ⟨x, rfl, hx, hddr, hsrc⟩
  | succ n ih =>
    obtain ⟨y, hrun, hpin, hd, hs⟩ := ih fun k hk => hfits k (Nat.lt_succ_of_lt hk)
    obtain ⟨z, hstep, hpin', hd', hs'⟩ := scanPin_fits s (k := n) hpin (hfits n n.lt_succ_self)
    refine ⟨z, ?_, hpin', ?_, ?_⟩
    · rw [List.range_succ, List.foldlM_append, prog_bind, hrun, ok_bind]
      exact (congrFun (bind_pure _) s).trans hstep
    · rw [hd', hd, maskOf_succ]
      rfl
    · rw [hs', hs, maskOf_succ]
      rfl

lemma scanPins_error {pin : ℕ} (hx : u32 (x.pin + 1) = pin) (hddr : x.ddrReg = 0)
    (hsrc : x.srcReg = 0) (n : ℕ) (hfits : ¬ ∀ k < n, hm2.PinFits (pin + k)) :
    (List.range n).foldlM (scanPin hm2) x s = .error (.undefined .outOfBounds) := by
  induction n with
  | zero => exact absurd (fun k hk => absurd hk k.not_lt_zero) hfits
  | succ n ih =>
    rw [List.range_succ, List.foldlM_append, prog_bind]
    by_cases hbefore : ∀ k < n, hm2.PinFits (pin + k)
    · -- only the last pin can be the one that does not fit
      obtain ⟨y, hrun, hpin, -, -⟩ := scanPins_fits s hx hddr hsrc n hbefore
      have hlast : ¬ hm2.PinFits (pin + n) := by
        intro hlast
        refine hfits fun k hk => ?_
        rcases Nat.lt_succ_iff_lt_or_eq.1 hk with hlt | rfl
        · exact hbefore k hlt
        · exact hlast
      rw [hrun, ok_bind]
      exact (congrFun (bind_pure _) s).trans (scanPin_error s hpin hlast)
    · rw [ih hbefore]
      rfl

end Scan

/-! ### Both ports -/

section Ports

variable {σ : Type} (bus : RegisterBus σ) {hm2 : Hostmot2} {md : ModuleDesc}

/-- The registers of the first two ports are written. -/
def writePort (md : ModuleDesc) (ddr src port : ℕ) (r : σ) : σ :=
  bus.write (md.baseAddress.toNat + hm2ModOffsGpioAltSource + 4 * port) src
    (bus.write (md.baseAddress.toNat + hm2ModOffsGpioDdr + 4 * port) ddr r)

/-- The registers after `enable_sserial_pins`. -/
def enabledRegs (hm2 : Hostmot2) (md : ModuleDesc) (r : σ) : σ :=
  writePort bus md (hm2.portMask PinDesc.isSserialOutput 1) (hm2.portMask PinDesc.isSserial 1) 1
    (writePort bus md (hm2.portMask PinDesc.isSserialOutput 0) (hm2.portMask PinDesc.isSserial 0) 0
      r)

/-- The registers after `disable_sserial_pins`. -/
def disabledRegs (md : ModuleDesc) (r : σ) : σ :=
  writePort bus md 0 0 1 (writePort bus md 0 0 0 r)

variable (md) in
lemma scanPort_fits {x : PinScan} (port : ℕ) (hx : u32 (x.pin + 1) = port * hm2.idrom.portWidth)
    (hfits : ∀ k < hm2.idrom.portWidth, hm2.PinFits (port * hm2.idrom.portWidth + k))
    (s : SserialState σ) :
    ∃ y, scanPort bus hm2 md.baseAddress.toNat x port s =
        .ok (y, s.onBoard (writePort bus md (hm2.portMask PinDesc.isSserialOutput port)
          (hm2.portMask PinDesc.isSserial port) port s.regs)) ∧
      u32 (y.pin + 1) = (port + 1) * hm2.idrom.portWidth := by
  obtain ⟨y, hrun, hpin, hddr, hsrc⟩ :=
    scanPins_fits (x := { x with ddrReg := 0, srcReg := 0 }) s hx rfl rfl _ hfits
  refine ⟨y, ?_, by rw [hpin, Nat.succ_mul]⟩
  rw [scanPort, prog_bind, hrun, ok_bind, hddr, hsrc]
  rfl

lemma scanPort_error {x : PinScan} {port : ℕ} (hx : u32 (x.pin + 1) = port * hm2.idrom.portWidth)
    (hfits : ¬ ∀ k < hm2.idrom.portWidth, hm2.PinFits (port * hm2.idrom.portWidth + k))
    (addr : ℕ) (s : SserialState σ) :
    scanPort bus hm2 addr x port s = .error (.undefined .outOfBounds) := by
  rw [scanPort, prog_bind,
    scanPins_error (x := { x with ddrReg := 0, srcReg := 0 }) s hx rfl rfl _ hfits]
  rfl

/-- Pins that fit are enabled on the first two ports. -/
lemma enablePins_fits (hmd : hm2FindModule hm2 hm2GtagIoport = some md) (hfits : hm2.PinsFit)
    (s : SserialState σ) :
    enableSserialPins bus hm2 s = .ok ((), s.onBoard (enabledRegs bus hm2 md s.regs)) := by
  have hport := Hostmot2.pinsFit_iff.1 hfits
  obtain ⟨y, hfirst, hpin⟩ := scanPort_fits bus md
    (x := ⟨0xFFFFFFFF, fun _ => 0, 0, 0⟩) 0 (by rw [Nat.zero_mul]; rfl)
    (hport 0 (by decide)) s
  obtain ⟨z, hsecond, -⟩ := scanPort_fits bus md 1 hpin
    (hport 1 (by decide)) (s.onBoard (writePort bus md (hm2.portMask PinDesc.isSserialOutput 0)
      (hm2.portMask PinDesc.isSserial 0) 0 s.regs))
  rw [enableSserialPins, hmd]
  change ((scanPort bus hm2 md.baseAddress.toNat _ 0 >>= fun x =>
    scanPort bus hm2 md.baseAddress.toNat x 1 >>= fun x => pure x) >>= fun _ => pure ()) s = _
  simp only [prog_bind, hfirst, ok_bind, hsecond]
  rfl

/-- Without an IOPORT module, or with pins that do not fit, nothing is enabled. -/
lemma enablePins_error (h : ¬ ((hm2FindModule hm2 hm2GtagIoport).isSome ∧ hm2.PinsFit))
    (s : SserialState σ) : ∃ e, enableSserialPins bus hm2 s = .error e := by
  rw [enableSserialPins]
  cases hmd : hm2FindModule hm2 hm2GtagIoport with
  | none => exact ⟨_, rfl⟩
  | some md =>
    have hfits : ¬ hm2.PinsFit := fun hfits => h ⟨by rw [hmd]; rfl, hfits⟩
    change ∃ e, ((scanPort bus hm2 md.baseAddress.toNat ⟨0xFFFFFFFF, fun _ => 0, 0, 0⟩ 0 >>=
      fun x => scanPort bus hm2 md.baseAddress.toNat x 1 >>= fun x => pure x) >>=
        fun _ => pure ()) s = .error e
    simp only [prog_bind]
    have hstart : u32 ((⟨0xFFFFFFFF, fun _ => 0, 0, 0⟩ : PinScan).pin + 1) =
        0 * hm2.idrom.portWidth := by
      rw [Nat.zero_mul]
      rfl
    by_cases hzero : ∀ k < hm2.idrom.portWidth, hm2.PinFits (0 * hm2.idrom.portWidth + k)
    · obtain ⟨y, hfirst, hpin⟩ := scanPort_fits bus md 0 hstart hzero s
      have hone : ¬ ∀ k < hm2.idrom.portWidth, hm2.PinFits (1 * hm2.idrom.portWidth + k) := by
        intro hone
        refine hfits (Hostmot2.pinsFit_iff.2 fun port hport => ?_)
        rcases (show port = 0 ∨ port = 1 by omega) with rfl | rfl
        · exact hzero
        · exact hone
      rw [hfirst, ok_bind, scanPort_error bus hpin hone]
      exact ⟨_, rfl⟩
    · rw [scanPort_error bus hstart hzero]
      exact ⟨_, rfl⟩

lemma disablePins_eq (hmd : hm2FindModule hm2 hm2GtagIoport = some md) (s : SserialState σ) :
    disableSserialPins bus hm2 s = .ok ((), s.onBoard (disabledRegs bus md s.regs)) := by
  rw [disableSserialPins, hmd]
  rfl

end Ports

/-! ### The registers of all ports -/

namespace Hostmot2

/-- An IDROM with up to eight ports, whose pins all have a descriptor. -/
structure SserialLayout (hm2 : Hostmot2) (md : ModuleDesc) : Prop where
  ioport : hm2FindModule hm2 hm2GtagIoport = some md
  ioPorts_pos : 1 ≤ hm2.idrom.ioPorts
  ioPorts_le : hm2.idrom.ioPorts ≤ 8
  portWidth_pos : 1 ≤ hm2.idrom.portWidth
  portWidth_le : hm2.idrom.portWidth ≤ 32
  pins_le : hm2.idrom.ioPorts * hm2.idrom.portWidth ≤ hm2MaxPins

/-- The pins of smart serial have their alternate source, those that are outputs are driven, and
only registers of ports were written. -/
structure SserialEnabled (hm2 : Hostmot2) (md : ModuleDesc) (prior r : RegisterFile) : Prop where
  source : ∀ pin < hm2.idrom.ioPorts * hm2.idrom.portWidth,
    bitOf r.contents (hm2.pinPlace md (.source pin)) = hm2.pinIs PinDesc.isSserial pin
  direction : ∀ pin < hm2.idrom.ioPorts * hm2.idrom.portWidth,
    bitOf r.contents (hm2.pinPlace md (.direction pin)) = hm2.pinIs PinDesc.isSserialOutput pin
  written : ∃ log, r.written = prior.written ++ log ∧ ∀ addr ∈ log, ∃ n < hm2.idrom.ioPorts,
    addr = md.register hm2ModOffsGpioDdr n ∨ addr = md.register hm2ModOffsGpioAltSource n

/-- The registers of all ports are zero. -/
def SserialDisabled (hm2 : Hostmot2) (md : ModuleDesc) (r : RegisterFile) : Prop :=
  ∀ n < hm2.idrom.ioPorts, r.contents (md.register hm2ModOffsGpioDdr n) = 0 ∧
    r.contents (md.register hm2ModOffsGpioAltSource n) = 0

/-- There are two ports at least, the channels of the pins on the first two have a number, and
on the other ports there is nothing to do: no pin belongs to smart serial, and the registers are
zero already. -/
structure FirstPortsSuffice (hm2 : Hostmot2) (md : ModuleDesc) (prior : RegisterFile) : Prop where
  two_le : 2 ≤ hm2.idrom.ioPorts
  channels : ∀ pin : Fin hm2MaxPins, (pin : ℕ) < 2 * hm2.idrom.portWidth →
    (hm2.pins pin).secTag = hm2GtagSserial → (hm2.pins pin).secChan.toNat < 8
  zero : ∀ n, 2 ≤ n → n < hm2.idrom.ioPorts → prior.contents (md.register hm2ModOffsGpioDdr n) = 0 ∧
    prior.contents (md.register hm2ModOffsGpioAltSource n) = 0
  unused : ∀ pin, 2 * hm2.idrom.portWidth ≤ pin → pin < hm2.idrom.ioPorts * hm2.idrom.portWidth →
    hm2.pinIs PinDesc.isSserial pin = false

end Hostmot2

section Registers

variable {hm2 : Hostmot2} {md : ModuleDesc} {readout : ℕ → RegisterFile → UInt32}

/-- `enable_sserial_pins` enables the pins of smart serial and no others, and
`disable_sserial_pins` clears the registers of all ports after it. -/
def PinsExact (readout : ℕ → RegisterFile → UInt32) (hm2 : Hostmot2) (md : ModuleDesc)
    (s : SserialState RegisterFile) : Prop :=
  ∃ t, enableSserialPins (registerBus readout) hm2 s = .ok ((), t) ∧
    hm2.SserialEnabled md s.regs t.regs ∧
    ∃ u, disableSserialPins (registerBus readout) hm2 t = .ok ((), u) ∧
      hm2.SserialDisabled md u.regs

lemma register_eq (md : ModuleDesc) {bank n : ℕ} (h : bank + 4 * n < 0x10000) :
    md.register bank n = md.baseAddress.toNat + bank + 4 * n := by
  have hbase : md.baseAddress.toNat < 2 ^ 16 := md.baseAddress.toNat_lt
  rw [ModuleDesc.register, u32_of_lt (by omega)]
  omega

/-- Writing a port changes its two registers. -/
lemma contents_writePort (ddr src port n : ℕ) (hport : port < 64) (hn : n < 64)
    (r : RegisterFile) :
    (writePort (registerBus readout) md ddr src port r).contents
        (md.register hm2ModOffsGpioDdr n) =
      (if n = port then ddr.toUInt32 else r.contents (md.register hm2ModOffsGpioDdr n)) ∧
    (writePort (registerBus readout) md ddr src port r).contents
        (md.register hm2ModOffsGpioAltSource n) =
      if n = port then src.toUInt32 else r.contents (md.register hm2ModOffsGpioAltSource n) := by
  have hddr : hm2ModOffsGpioDdr = 0x100 := rfl
  have halt : hm2ModOffsGpioAltSource = 0x200 := rfl
  rw [register_eq md (by omega), register_eq md (by omega)]
  simp only [writePort, registerBus, Function.update_apply]
  constructor
  · rw [if_neg (by omega)]
    exact if_congr (by omega) rfl rfl
  · rw [if_neg (show ¬ md.baseAddress.toNat + hm2ModOffsGpioAltSource + 4 * n =
      md.baseAddress.toNat + hm2ModOffsGpioDdr + 4 * port by omega)]
    exact if_congr (by omega) rfl rfl

variable (md readout) in
/-- After both ports were written their registers hold the words, and those of the others what
they held. -/
lemma contents_bothPorts (ddr src : ℕ → ℕ) {n : ℕ} (hn : n < 64) (r : RegisterFile) :
    (writePort (registerBus readout) md (ddr 1) (src 1) 1
        (writePort (registerBus readout) md (ddr 0) (src 0) 0 r)).contents
          (md.register hm2ModOffsGpioDdr n) =
      (if n < 2 then (ddr n).toUInt32 else r.contents (md.register hm2ModOffsGpioDdr n)) ∧
    (writePort (registerBus readout) md (ddr 1) (src 1) 1
        (writePort (registerBus readout) md (ddr 0) (src 0) 0 r)).contents
          (md.register hm2ModOffsGpioAltSource n) =
      if n < 2 then (src n).toUInt32 else r.contents (md.register hm2ModOffsGpioAltSource n) := by
  rw [(contents_writePort _ _ 1 n (by decide) hn _).1,
    (contents_writePort _ _ 1 n (by decide) hn _).2,
    (contents_writePort _ _ 0 n (by decide) hn _).1,
    (contents_writePort _ _ 0 n (by decide) hn _).2]
  rcases (show n = 0 ∨ n = 1 ∨ 2 ≤ n by omega) with rfl | rfl | h
  · exact ⟨rfl, rfl⟩
  · exact ⟨rfl, rfl⟩
  · have h₀ : n ≠ 0 := by omega
    have h₁ : n ≠ 1 := by omega
    simp only [h₀, h₁, if_false, Nat.not_lt.2 h, and_self]

variable (hm2 md readout) in
lemma contents_enabledRegs {n : ℕ} (hn : n < 64) (r : RegisterFile) :
    (enabledRegs (registerBus readout) hm2 md r).contents (md.register hm2ModOffsGpioDdr n) =
      (if n < 2 then (hm2.portMask PinDesc.isSserialOutput n).toUInt32
        else r.contents (md.register hm2ModOffsGpioDdr n)) ∧
    (enabledRegs (registerBus readout) hm2 md r).contents
        (md.register hm2ModOffsGpioAltSource n) =
      if n < 2 then (hm2.portMask PinDesc.isSserial n).toUInt32
      else r.contents (md.register hm2ModOffsGpioAltSource n) :=
  contents_bothPorts md readout (hm2.portMask PinDesc.isSserialOutput)
    (hm2.portMask PinDesc.isSserial) hn r

variable (md readout) in
lemma contents_disabledRegs {n : ℕ} (hn : n < 64) (r : RegisterFile) :
    (disabledRegs (registerBus readout) md r).contents (md.register hm2ModOffsGpioDdr n) =
      (if n < 2 then 0 else r.contents (md.register hm2ModOffsGpioDdr n)) ∧
    (disabledRegs (registerBus readout) md r).contents (md.register hm2ModOffsGpioAltSource n) =
      if n < 2 then 0 else r.contents (md.register hm2ModOffsGpioAltSource n) :=
  contents_bothPorts md readout (fun _ => 0) (fun _ => 0) hn r

variable (hm2 md readout) in
/-- The registers that are written, two for each of the first two ports. -/
lemma written_enabledRegs (r : RegisterFile) :
    (enabledRegs (registerBus readout) hm2 md r).written = r.written ++
      [md.register hm2ModOffsGpioDdr 0, md.register hm2ModOffsGpioAltSource 0,
        md.register hm2ModOffsGpioDdr 1, md.register hm2ModOffsGpioAltSource 1] := by
  rw [register_eq md (by decide), register_eq md (by decide), register_eq md (by decide),
    register_eq md (by decide)]
  simp [enabledRegs, writePort, registerBus]

/-- A bit of a mask says what the descriptor of its pin says. -/
lemma testBit_portMask (p : PinDesc → Bool) {port k : ℕ} (hk : k < hm2.idrom.portWidth)
    (hwidth : hm2.idrom.portWidth ≤ 32) :
    (hm2.portMask p port).toUInt32.toNat.testBit k =
      hm2.pinIs p (port * hm2.idrom.portWidth + k) := by
  have hword : (hm2.portMask p port).toUInt32.toNat = hm2.portMask p port % 2 ^ 32 := rfl
  rw [hword, Nat.testBit_mod_two_pow, Hostmot2.portMask, testBit_maskOf _ _ (by omega)]
  simp [hk, show k < 32 by omega]

section Exact

variable (hlayout : hm2.SserialLayout md) (s : SserialState RegisterFile)

include hlayout

lemma Hostmot2.SserialLayout.port_lt {pin : ℕ}
    (hpin : pin < hm2.idrom.ioPorts * hm2.idrom.portWidth) :
    pin / hm2.idrom.portWidth < hm2.idrom.ioPorts ∧ pin / hm2.idrom.portWidth < 64 := by
  have hlt : pin / hm2.idrom.portWidth < hm2.idrom.ioPorts :=
    Nat.div_lt_of_lt_mul (Nat.mul_comm _ _ ▸ hpin)
  have hle := hlayout.ioPorts_le
  exact ⟨hlt, by omega⟩

/-- Behind the first two ports the pins are those of the others. -/
lemma Hostmot2.SserialLayout.two_le_port {pin : ℕ} :
    2 ≤ pin / hm2.idrom.portWidth ↔ 2 * hm2.idrom.portWidth ≤ pin :=
  Nat.le_div_iff_mul_le hlayout.portWidth_pos

lemma testBit_portMask_div (p : PinDesc → Bool) (pin : ℕ) :
    (hm2.portMask p (pin / hm2.idrom.portWidth)).toUInt32.toNat.testBit
      (pin % hm2.idrom.portWidth) = hm2.pinIs p pin := by
  rw [testBit_portMask p (Nat.mod_lt pin hlayout.portWidth_pos) hlayout.portWidth_le,
    Nat.mul_comm, Nat.div_add_mod]

variable (readout) in
/-- The alternate source of a pin, after the pins were enabled. -/
lemma bitOf_enabledRegs_source {pin : ℕ} (hpin : pin < hm2.idrom.ioPorts * hm2.idrom.portWidth)
    (r : RegisterFile) :
    bitOf (enabledRegs (registerBus readout) hm2 md r).contents (hm2.pinPlace md (.source pin)) =
      if pin / hm2.idrom.portWidth < 2 then hm2.pinIs PinDesc.isSserial pin
      else bitOf r.contents (hm2.pinPlace md (.source pin)) := by
  change Nat.testBit ((enabledRegs (registerBus readout) hm2 md r).contents
    (md.register hm2ModOffsGpioAltSource _)).toNat _ = _
  rw [(contents_enabledRegs hm2 md readout (hlayout.port_lt hpin).2 r).2]
  split
  · exact testBit_portMask_div hlayout _ pin
  · rfl

variable (readout) in
/-- The direction of a pin, after the pins were enabled. -/
lemma bitOf_enabledRegs_direction {pin : ℕ}
    (hpin : pin < hm2.idrom.ioPorts * hm2.idrom.portWidth) (r : RegisterFile) :
    bitOf (enabledRegs (registerBus readout) hm2 md r).contents
        (hm2.pinPlace md (.direction pin)) =
      if pin / hm2.idrom.portWidth < 2 then hm2.pinIs PinDesc.isSserialOutput pin
      else bitOf r.contents (hm2.pinPlace md (.direction pin)) := by
  change Nat.testBit ((enabledRegs (registerBus readout) hm2 md r).contents
    (md.register hm2ModOffsGpioDdr _)).toNat _ = _
  rw [(contents_enabledRegs hm2 md readout (hlayout.port_lt hpin).2 r).1]
  split
  · exact testBit_portMask_div hlayout _ pin
  · rfl

/-- The pins can be looked at, and then the registers are those that were described. -/
lemma pinsExact_iff_registers : PinsExact readout hm2 md s ↔
    hm2.PinsFit ∧
      hm2.SserialEnabled md s.regs (enabledRegs (registerBus readout) hm2 md s.regs) ∧
      hm2.SserialDisabled md (disabledRegs (registerBus readout) md
        (enabledRegs (registerBus readout) hm2 md s.regs)) := by
  constructor
  · rintro ⟨t, henable, henabled, u, hdisable, hdisabled⟩
    have hfits : hm2.PinsFit := by
      by_contra hfits
      obtain ⟨e, he⟩ := enablePins_error (registerBus readout) (fun h => hfits h.2) s
      rw [he] at henable
      cases henable
    rw [enablePins_fits _ hlayout.ioport hfits] at henable
    obtain rfl : s.onBoard (enabledRegs (registerBus readout) hm2 md s.regs) = t :=
      congrArg Prod.snd (Except.ok.inj henable)
    rw [disablePins_eq _ hlayout.ioport] at hdisable
    obtain rfl := congrArg Prod.snd (Except.ok.inj hdisable)
    exact ⟨hfits, henabled, hdisabled⟩
  · rintro ⟨hfits, henabled, hdisabled⟩
    exact ⟨_, enablePins_fits _ hlayout.ioport hfits s, henabled, _,
      disablePins_eq _ hlayout.ioport _, hdisabled⟩

/-- The registers of all ports are zero after the disabling exactly if those of the ports behind
the first two were zero before. -/
lemma sserialDisabled_iff (r : RegisterFile) :
    hm2.SserialDisabled md
        (disabledRegs (registerBus readout) md (enabledRegs (registerBus readout) hm2 md r)) ↔
      ∀ n, 2 ≤ n → n < hm2.idrom.ioPorts → r.contents (md.register hm2ModOffsGpioDdr n) = 0 ∧
        r.contents (md.register hm2ModOffsGpioAltSource n) = 0 := by
  refine forall_congr' fun n => ?_
  by_cases hlt : n < hm2.idrom.ioPorts
  · have h64 : n < 64 := hlt.trans_le (hlayout.ioPorts_le.trans (by decide))
    rw [(contents_disabledRegs md readout h64 _).1, (contents_disabledRegs md readout h64 _).2,
      (contents_enabledRegs hm2 md readout h64 r).1, (contents_enabledRegs hm2 md readout h64 r).2]
    by_cases hn : n < 2
    · simp [hn, Nat.not_le.2 hn]
    · simp [hn, Nat.not_lt.1 hn, hlt]
  · exact iff_of_true (fun h => absurd h hlt) fun _ h => absurd h hlt

namespace Hostmot2.FirstPortsSuffice

variable {s} (h : hm2.FirstPortsSuffice md s.regs)

include h

omit hlayout in
lemma pinsFit (hlayout : hm2.SserialLayout md) : hm2.PinsFit := by
  refine ⟨?_, h.channels⟩
  have hmul := Nat.mul_le_mul_right hm2.idrom.portWidth h.two_le
  have hle := hlayout.pins_le
  omega

/-- A pin behind the first two ports is no pin of smart serial, in either sense. -/
lemma not_output {pin : ℕ} (hbehind : 2 * hm2.idrom.portWidth ≤ pin)
    (hpin : pin < hm2.idrom.ioPorts * hm2.idrom.portWidth) :
    hm2.pinIs PinDesc.isSserialOutput pin = false := by
  have hnone := h.unused pin hbehind hpin
  rw [pinIs_eq _ (hpin.trans_le hlayout.pins_le)] at hnone ⊢
  simp only [PinDesc.isSserial, decide_eq_false_iff_not] at hnone
  simp [PinDesc.isSserialOutput, hnone]

/-- With the first two ports the pins of all ports are as they should be. -/
lemma enabled :
    hm2.SserialEnabled md s.regs (enabledRegs (registerBus readout) hm2 md s.regs) where
  source := by
    intro pin hpin
    rw [bitOf_enabledRegs_source readout hlayout hpin]
    split
    · rfl
    · rename_i hlast
      have hport := Nat.not_lt.1 hlast
      rw [h.unused pin (hlayout.two_le_port.1 hport) hpin]
      change (s.regs.contents (md.register hm2ModOffsGpioAltSource _)).toNat.testBit _ = _
      rw [(h.zero _ hport (hlayout.port_lt hpin).1).2]
      exact Nat.zero_testBit _
  direction := by
    intro pin hpin
    rw [bitOf_enabledRegs_direction readout hlayout hpin]
    split
    · rfl
    · rename_i hlast
      have hport := Nat.not_lt.1 hlast
      rw [h.not_output hlayout (hlayout.two_le_port.1 hport) hpin]
      change (s.regs.contents (md.register hm2ModOffsGpioDdr _)).toNat.testBit _ = _
      rw [(h.zero _ hport (hlayout.port_lt hpin).1).1]
      exact Nat.zero_testBit _
  written := by
    have hone := h.two_le
    have hzero : 0 < hm2.idrom.ioPorts := by omega
    refine ⟨_, written_enabledRegs hm2 md readout s.regs, ?_⟩
    intro addr haddr
    simp only [List.mem_cons, List.not_mem_nil, or_false] at haddr
    rcases haddr with h | h | h | h
    · exact ⟨0, hzero, .inl h⟩
    · exact ⟨0, hzero, .inr h⟩
    · exact ⟨1, hone, .inl h⟩
    · exact ⟨1, hone, .inr h⟩

end Hostmot2.FirstPortsSuffice

/-- When the first two ports are enough, the pins are enabled and disabled as they should. -/
lemma pinsExact_of_suffice (h : hm2.FirstPortsSuffice md s.regs) : PinsExact readout hm2 md s :=
  (pinsExact_iff_registers hlayout s).2
    ⟨h.pinsFit hlayout, h.enabled hlayout, (sserialDisabled_iff hlayout _).2 h.zero⟩

/-- The registers of the second port are written, so there is one. -/
lemma Hostmot2.SserialEnabled.two_le {r : RegisterFile}
    (h : hm2.SserialEnabled md r (enabledRegs (registerBus readout) hm2 md r)) :
    2 ≤ hm2.idrom.ioPorts := by
  have hle := hlayout.ioPorts_le
  obtain ⟨log, hlog, hports⟩ := h.written
  have hmem : md.register hm2ModOffsGpioDdr 1 ∈ log := by
    have hwritten := (written_enabledRegs hm2 md readout r).symm.trans hlog
    rw [← List.append_cancel_left hwritten]
    simp
  obtain ⟨n, hn, heq⟩ := hports _ hmem
  have hddr : hm2ModOffsGpioDdr = 0x100 := rfl
  have halt : hm2ModOffsGpioAltSource = 0x200 := rfl
  rw [register_eq md (by omega), register_eq md (by omega), register_eq md (by omega)] at heq
  omega

/-- When the pins are enabled and disabled as they should, the first two ports are enough. -/
lemma PinsExact.suffice (h : PinsExact readout hm2 md s) : hm2.FirstPortsSuffice md s.regs := by
  obtain ⟨hfits, henabled, hdisabled⟩ := (pinsExact_iff_registers hlayout s).1 h
  -- the registers of the other ports are as before, and they are zero in the end
  have hzero := (sserialDisabled_iff hlayout s.regs).1 hdisabled
  refine ⟨henabled.two_le hlayout, hfits.2, hzero, fun pin hbehind hpin => ?_⟩
  have hport := hlayout.two_le_port.2 hbehind
  rw [← henabled.source pin hpin, bitOf_enabledRegs_source readout hlayout hpin,
    if_neg (Nat.not_lt.2 hport)]
  change (s.regs.contents (md.register hm2ModOffsGpioAltSource _)).toNat.testBit _ = _
  rw [(hzero _ hport (hlayout.port_lt hpin).1).2]
  exact Nat.zero_testBit _

/-- **Every pin of smart serial is enabled, and only those, exactly if the first two ports are
all that there is to do.** -/
theorem sserialPins_exact_iff :
    PinsExact readout hm2 md s ↔ hm2.FirstPortsSuffice md s.regs :=
  ⟨PinsExact.suffice hlayout s, pinsExact_of_suffice hlayout s⟩

end Exact

end Registers

/-! ### A board with a channel on its third port -/

/-- The IOPORT module at 0x1000 is the only one. -/
def ioportAt1000 : ModuleDesc := ⟨hm2GtagIoport, 0x1000, 0⟩

/-- A board with three ports of 24 pins and smart serial on one pin. -/
def boardWithPin (pin : ℕ) : Hostmot2 where
  idrom := ⟨3, 72, 24, 0, 0⟩
  modules := fun _ => ioportAt1000
  pins := fun i => if i.val = pin then ⟨0x81, hm2GtagSserial, 0, 0⟩ else ⟨0, 0, 0, 0⟩

lemma boardWithPin_layout (pin : ℕ) : (boardWithPin pin).SserialLayout ioportAt1000 where
  ioport := rfl
  ioPorts_pos := show 1 ≤ 3 by decide
  ioPorts_le := show 3 ≤ 8 by decide
  portWidth_pos := show 1 ≤ 24 by decide
  portWidth_le := show 24 ≤ 32 by decide
  pins_le := show 3 * 24 ≤ 144 by decide

/-- All registers are zero. -/
def zeroState : SserialState RegisterFile where
  regs := ⟨fun _ => 0, []⟩
  ssInterface := ⟨0, 0, 0, 0, 0, 0, 0, 0, 0, 0⟩
  ssDevice := fun _ => ⟨0, 0, 0, [], []⟩

/-- A pin on the second port is enabled. -/
theorem secondPort_exact :
    PinsExact (fun addr r => r.contents addr) (boardWithPin 30) ioportAt1000 zeroState :=
  (sserialPins_exact_iff (boardWithPin_layout 30) zeroState).2 {
    two_le := by decide
    channels := by decide
    zero := fun _ _ _ => ⟨rfl, rfl⟩
    unused := by decide }

/-- A pin on the third port is not enabled. -/
theorem thirdPort_not_exact :
    ¬ PinsExact (fun addr r => r.contents addr) (boardWithPin 48) ioportAt1000 zeroState := by
  intro h
  have hunused := (h.suffice (boardWithPin_layout 48)).unused 48 (by decide) (by decide)
  revert hunused
  decide

end Mesaflash
