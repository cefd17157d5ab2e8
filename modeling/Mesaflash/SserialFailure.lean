import Mesaflash.SserialPins
import Mesaflash.SserialConstant

/-!
What `sserial_init` leaves behind when it fails.

The pins are enabled before the interface is asked for anything, and no path of the function
disables them.  Whether a failure leaves them enabled depends on the pins alone, as every
interface can fail.
-/

namespace Mesaflash

open Lib

/-! ### Ports that are storage -/

instance (hm2 : Hostmot2) (addr : ℕ) : Decidable (IsPortRegister hm2 addr) :=
  decidable_of_iff
    (∃ md ∈ hm2FindModule hm2 hm2GtagIoport, ∃ n < max 2 hm2.idrom.ioPorts,
      addr = md.baseAddress.toNat + hm2ModOffsGpioDdr + 4 * n ∨
        addr = md.baseAddress.toNat + hm2ModOffsGpioAltSource + 4 * n)
    ⟨fun ⟨md, hmd, n, hn, h⟩ => ⟨md, n, hmd, lt_max_iff.1 hn, h⟩,
      fun ⟨md, n, hmd, hn, h⟩ => ⟨md, hmd, n, lt_max_iff.2 hn, h⟩⟩

/-- The registers of the ports hold what was written last, and all the others are those of a
device. -/
def portsBus {τ : Type} (hm2 : Hostmot2) (device : RegisterBus τ) : RegisterBus ((ℕ → ℕ) × τ) where
  read addr s := if IsPortRegister hm2 addr then (s.1 addr, s)
    else ((device.read addr s.2).1, (s.1, (device.read addr s.2).2))
  write addr value s := if IsPortRegister hm2 addr then (Function.update s.1 addr value, s.2)
    else (s.1, device.write addr value s.2)

/-- The registers of smart serial are not those of the ports. -/
structure Hostmot2.SserialApart (hm2 : Hostmot2) (md : ModuleDesc) : Prop where
  block : ∀ addr, IsPortRegister hm2 addr →
    addr < md.baseAddress.toNat ∨ md.baseAddress.toNat + 0x600 ≤ addr
  channel : ∀ interface < hm2SserialMaxInterfaces, ∀ channel < hm2SserialMaxChannels,
    ∀ offs ∈ channelOffsets,
      ¬ IsPortRegister hm2 ((SserialInstance.start hm2 md interface channel).register offs)

/-- The accesses to a channel are in the block of the module. -/
lemma Addresses.in_block {base interface channel : ℕ} {a : RegisterAccess}
    (h : Addresses base interface channel a) (hinterface : interface < hm2SserialMaxInterfaces)
    (hchannel : channel < hm2SserialMaxChannels) : base ≤ a.addr ∧ a.addr < base + 0x600 := by
  have hmax : hm2SserialMaxInterfaces = 4 := rfl
  have hmax' : hm2SserialMaxChannels = 8 := rfl
  have hoffs : ∀ offs ∈ channelOffsets, offs ≤ 0x500 := by decide
  cases h with
  | sendCmd h | readCmd | readData =>
    simp only [RegisterAccess.addr, hm2ModOffsSserialCmd, hm2ModOffsSserialData]
    omega
  | readChannel h | writeChannel h =>
    have := hoffs _ h
    simp only [RegisterAccess.addr]
    omega

section Failure

variable {hm2 : Hostmot2}

/-- The registers of the ports hold what they held before or zero. -/
def PortsSafe (hm2 : Hostmot2) (prior ports : ℕ → ℕ) : Prop :=
  ∀ md, hm2FindModule hm2 hm2GtagIoport = some md → ∀ n < hm2.idrom.ioPorts, ∀ addr,
    addr = md.baseAddress.toNat + hm2ModOffsGpioDdr + 4 * n ∨
      addr = md.baseAddress.toNat + hm2ModOffsGpioAltSource + 4 * n →
    ports addr = prior addr ∨ ports addr = 0

/-- Whatever the device answers, a failure leaves the ports safe. -/
def FailureSafe (hm2 : Hostmot2) (interfaceNum channelNum remoteType : ℕ) (prior : ℕ → ℕ) :
    Prop :=
  ∀ (τ : Type) (device : RegisterBus τ) (fuel : ℕ) (ssmod ssmod' : SserialInstance)
    (s t : SserialState ((ℕ → ℕ) × τ)), s.regs.1 = prior →
    sserialInit (portsBus hm2 device) hm2 fuel ssmod interfaceNum channelNum remoteType s =
      .ok ((-1, ssmod'), t) →
    PortsSafe hm2 prior t.regs.1

/-- Enabling the pins of the ports that exist writes zero, or what the registers hold already. -/
def EnablingHarmless (hm2 : Hostmot2) (prior : ℕ → ℕ) : Prop :=
  ∀ md, hm2FindModule hm2 hm2GtagIoport = some md → ∀ n < 2, n < hm2.idrom.ioPorts →
    (hm2.portMask PinDesc.isSserialOutput n =
        prior (md.baseAddress.toNat + hm2ModOffsGpioDdr + 4 * n) ∨
      hm2.portMask PinDesc.isSserialOutput n = 0) ∧
    (hm2.portMask PinDesc.isSserial n =
        prior (md.baseAddress.toNat + hm2ModOffsGpioAltSource + 4 * n) ∨
      hm2.portMask PinDesc.isSserial n = 0)

/-- A register of a port that is written to. -/
lemma ports_writePort {τ : Type} (device : RegisterBus τ) {md : ModuleDesc}
    (hmd : hm2FindModule hm2 hm2GtagIoport = some md) (ddr src : ℕ) {port : ℕ} (hport : port < 2)
    (r : (ℕ → ℕ) × τ) :
    (writePort (portsBus hm2 device) md ddr src port r).1 = Function.update
      (Function.update r.1 (md.baseAddress.toNat + hm2ModOffsGpioDdr + 4 * port) ddr)
      (md.baseAddress.toNat + hm2ModOffsGpioAltSource + 4 * port) src := by
  have hddr : IsPortRegister hm2 (md.baseAddress.toNat + hm2ModOffsGpioDdr + 4 * port) :=
    ⟨md, port, hmd, .inl hport, .inl rfl⟩
  have halt : IsPortRegister hm2 (md.baseAddress.toNat + hm2ModOffsGpioAltSource + 4 * port) :=
    ⟨md, port, hmd, .inl hport, .inr rfl⟩
  simp only [writePort, portsBus, if_pos hddr, if_pos halt]

/-- What the registers of a port of the first two hold after they are enabled. -/
lemma ports_enabledRegs {τ : Type} (device : RegisterBus τ) {md : ModuleDesc}
    (hmd : hm2FindModule hm2 hm2GtagIoport = some md) (r : (ℕ → ℕ) × τ) (addr : ℕ) :
    (enabledRegs (portsBus hm2 device) hm2 md r).1 addr =
      if addr = md.baseAddress.toNat + hm2ModOffsGpioAltSource + 4 * 1 then
        hm2.portMask PinDesc.isSserial 1
      else if addr = md.baseAddress.toNat + hm2ModOffsGpioDdr + 4 * 1 then
        hm2.portMask PinDesc.isSserialOutput 1
      else if addr = md.baseAddress.toNat + hm2ModOffsGpioAltSource + 4 * 0 then
        hm2.portMask PinDesc.isSserial 0
      else if addr = md.baseAddress.toNat + hm2ModOffsGpioDdr + 4 * 0 then
        hm2.portMask PinDesc.isSserialOutput 0
      else r.1 addr := by
  rw [enabledRegs, ports_writePort device hmd _ _ (by decide),
    ports_writePort device hmd _ _ (by decide)]
  simp only [Function.update_apply]

/-- Enabled pins are safe when enabling them is harmless, and only then. -/
lemma portsSafe_enabledRegs_iff {τ : Type} (device : RegisterBus τ) {md : ModuleDesc}
    (hmd : hm2FindModule hm2 hm2GtagIoport = some md) (r : (ℕ → ℕ) × τ) :
    PortsSafe hm2 r.1 (enabledRegs (portsBus hm2 device) hm2 md r).1 ↔
      EnablingHarmless hm2 r.1 := by
  have hddr : hm2ModOffsGpioDdr = 0x100 := rfl
  have halt : hm2ModOffsGpioAltSource = 0x200 := rfl
  constructor
  · intro h md' hmd' n hn hports
    obtain rfl : md' = md := Option.some.inj (hmd'.symm.trans hmd)
    have hd := h md' hmd n hports _ (.inl rfl)
    have ha := h md' hmd n hports _ (.inr rfl)
    rw [ports_enabledRegs device hmd] at hd ha
    rcases (show n = 0 ∨ n = 1 by omega) with rfl | rfl
    · rw [if_neg (by omega), if_neg (by omega), if_neg (by omega), if_pos rfl] at hd
      rw [if_neg (by omega), if_neg (by omega), if_pos rfl] at ha
      exact ⟨hd, ha⟩
    · rw [if_neg (by omega), if_pos rfl] at hd
      rw [if_pos rfl] at ha
      exact ⟨hd, ha⟩
  · intro h md' hmd' n hports addr haddr
    obtain rfl : md' = md := Option.some.inj (hmd'.symm.trans hmd)
    rw [ports_enabledRegs device hmd]
    -- a register with the address of one that was written belongs to a port that exists
    by_cases ha₁ : addr = md'.baseAddress.toNat + hm2ModOffsGpioAltSource + 4 * 1
    · rw [if_pos ha₁, ha₁]
      exact (h md' hmd 1 (by decide) (by omega)).2
    by_cases hd₁ : addr = md'.baseAddress.toNat + hm2ModOffsGpioDdr + 4 * 1
    · rw [if_neg ha₁, if_pos hd₁, hd₁]
      exact (h md' hmd 1 (by decide) (by omega)).1
    by_cases ha₀ : addr = md'.baseAddress.toNat + hm2ModOffsGpioAltSource + 4 * 0
    · rw [if_neg ha₁, if_neg hd₁, if_pos ha₀, ha₀]
      exact (h md' hmd 0 (by decide) (by omega)).2
    by_cases hd₀ : addr = md'.baseAddress.toNat + hm2ModOffsGpioDdr + 4 * 0
    · rw [if_neg ha₁, if_neg hd₁, if_neg ha₀, if_pos hd₀, hd₀]
      exact (h md' hmd 0 (by decide) (by omega)).1
    · rw [if_neg ha₁, if_neg hd₁, if_neg ha₀, if_neg hd₀]
      exact .inl rfl

/-! ### Failures -/

/-- `sserial_init` comes to the pins, and can enable them. -/
structure EnablesPins (hm2 : Hostmot2) (interfaceNum channelNum : ℕ) : Prop where
  sserial : (hm2FindModule hm2 hm2GtagSserial).isSome
  interface_lt : interfaceNum < hm2SserialMaxInterfaces
  channel_lt : channelNum < hm2SserialMaxChannels
  ioport : (hm2FindModule hm2 hm2GtagIoport).isSome
  fits : hm2.PinsFit

section Init

variable {σ : Type} (bus : RegisterBus σ) (fuel : ℕ) (ssmod : SserialInstance)
  {interfaceNum channelNum : ℕ} (remoteType : ℕ)

lemma sserialInit_enables {md io : ModuleDesc} (h : EnablesPins hm2 interfaceNum channelNum)
    (hmd : hm2FindModule hm2 hm2GtagSserial = some md)
    (hio : hm2FindModule hm2 hm2GtagIoport = some io) (s : SserialState σ) :
    sserialInit bus hm2 fuel ssmod interfaceNum channelNum remoteType s =
      startRemote bus fuel (SserialInstance.start hm2 md interfaceNum channelNum) remoteType
        (s.onBoard (enabledRegs bus hm2 io s.regs)) := by
  rw [sserialInit, hmd]
  dsimp only
  rw [if_neg (Nat.not_le.2 h.interface_lt), if_neg (Nat.not_le.2 h.channel_lt), prog_bind,
    enablePins_fits _ hio h.fits]
  rfl

/-- Where the pins are not enabled, nothing else is done either. -/
lemma sserialInit_refuses (h : ¬ EnablesPins hm2 interfaceNum channelNum) (s : SserialState σ) :
    sserialInit bus hm2 fuel ssmod interfaceNum channelNum remoteType s = .ok ((-1, ssmod), s) ∨
      ∃ e, sserialInit bus hm2 fuel ssmod interfaceNum channelNum remoteType s = .error e := by
  rw [sserialInit]
  cases hmd : hm2FindModule hm2 hm2GtagSserial with
  | none => exact .inl rfl
  | some md =>
    dsimp only
    by_cases hinterface : hm2SserialMaxInterfaces ≤ interfaceNum
    · rw [if_pos hinterface]
      exact .inl rfl
    by_cases hchannel : hm2SserialMaxChannels ≤ channelNum
    · rw [if_neg hinterface, if_pos hchannel]
      exact .inl rfl
    · have hpins : ¬ ((hm2FindModule hm2 hm2GtagIoport).isSome ∧ hm2.PinsFit) :=
        fun hpins => h ⟨by rw [hmd]; rfl, Nat.not_le.1 hinterface, Nat.not_le.1 hchannel,
          hpins.1, hpins.2⟩
      obtain ⟨e, he⟩ := enablePins_error bus hpins s
      rw [if_neg hinterface, if_neg hchannel, prog_bind, he]
      exact .inr ⟨e, rfl⟩

end Init

/-- Apart from the ports, the registers are those of the device. -/
lemma portsBus_alike {τ : Type} (device : RegisterBus τ) (ports : ℕ → ℕ) :
    AnswerAlike (fun a => ¬ IsPortRegister hm2 a.addr) (fun s₁ s₂ => s₁ = (ports, s₂))
      (portsBus hm2 device) device where
  value addr h s₁ s₂ hs := by
    subst hs
    exact congrArg Prod.fst (if_neg h)
  read addr h s₁ s₂ hs := by
    subst hs
    exact congrArg Prod.snd (if_neg h)
  write addr value h s₁ s₂ hs := by
    subst hs
    exact if_neg h

section Remote

variable {md : ModuleDesc} {interfaceNum channelNum : ℕ} (hapart : hm2.SserialApart md)
  (hinterface : interfaceNum < hm2SserialMaxInterfaces)
  (hchannel : channelNum < hm2SserialMaxChannels)

include hapart hinterface hchannel

/-- A remote is started without an access to the ports. -/
lemma startRemote_portsBus {τ : Type} (device : RegisterBus τ) (ports : ℕ → ℕ)
    (fuel remoteType : ℕ) :
    Alike (fun s₁ s₂ => s₁ = (ports, s₂))
      (startRemote (portsBus hm2 device) fuel
        (SserialInstance.start hm2 md interfaceNum channelNum) remoteType)
      (startRemote device fuel (SserialInstance.start hm2 md interfaceNum channelNum)
        remoteType) := by
  have hblock : ∀ {i c : ℕ}, i < hm2SserialMaxInterfaces → c < hm2SserialMaxChannels →
      ∀ a, Addresses md.baseAddress.toNat i c a → ¬ IsPortRegister hm2 a.addr := by
    intro i c hi hc a ha hport
    obtain ⟨hlow, hhigh⟩ := ha.in_block hi hc
    rcases hapart.block _ hport with h | h
    · exact absurd hlow (Nat.not_le.2 h)
    · exact absurd hhigh (Nat.not_lt.2 h)
  refine startRemote_alike (portsBus_alike device ports) (fun offs hoffs => ?_)
    (hblock hinterface hchannel) (hblock (by decide) hchannel) fuel remoteType
  have hreg := hapart.channel interfaceNum hinterface channelNum hchannel offs hoffs
  exact ⟨hreg, fun _ => hreg⟩

/-- The registers of an interface that reports an error for every channel. -/
def failingRegister (baseAddress interfaceNum addr : ℕ) : ℕ :=
  if addr = baseAddress + hm2ModOffsSserialData + interfaceNum * 0x40 then 1 else 0

def failingDevice (md : ModuleDesc) (interfaceNum : ℕ) : RegisterBus Unit :=
  constantBus (failingRegister md.baseAddress.toNat interfaceNum)

/-- Some device makes a remote fail after its pins are enabled. -/
lemma startRemote_canFail (ports : ℕ → ℕ) (remoteType : ℕ)
    (s : SserialState ((ℕ → ℕ) × Unit)) (hs : s.regs.1 = ports) :
    ∃ fuel ssmod t, startRemote (portsBus hm2 (failingDevice md interfaceNum)) fuel
        (SserialInstance.start hm2 md interfaceNum channelNum) remoteType s =
          .ok ((-1, ssmod), t) ∧ t.regs.1 = ports := by
  have hcmd : failingRegister md.baseAddress.toNat interfaceNum
      ((SserialInstance.start hm2 md interfaceNum channelNum).baseAddress +
        hm2ModOffsSserialCmd + interfaceNum * 0x40) = 0 :=
    if_neg (by simp [SserialInstance.start, hm2ModOffsSserialCmd, hm2ModOffsSserialData])
  have hdata : constantData (failingRegister md.baseAddress.toNat interfaceNum)
      (SserialInstance.start hm2 md interfaceNum channelNum).toSserialModule interfaceNum ≠ 0 := by
    simp [constantData, failingRegister, SserialInstance.start]
  obtain ⟨ssmod, hfails⟩ := constant_startRemote_fails (constantBus_answers _) hcmd hdata
    remoteType
  obtain ⟨t₂, -, -, hends⟩ := hfails (s.onBoard s.regs.2) trivial
  obtain ⟨fuel, hrun⟩ := hends.exists_eq
  have halike := startRemote_portsBus hapart hinterface hchannel
    (failingDevice md interfaceNum) ports fuel remoteType s (s.onBoard s.regs.2)
    ⟨by rw [← hs], rfl, rfl⟩ trivial
  rw [failingDevice, hrun] at halike
  obtain ⟨t, ht, hok⟩ := halike.of_ok'
  exact ⟨fuel, ssmod, t, hok, by rw [ht.regs]⟩

end Remote

/-- As every interface can fail, the ports are safe only if enabling them is harmless. -/
lemma FailureSafe.harmless {interfaceNum channelNum remoteType : ℕ} {prior : ℕ → ℕ}
    {md : ModuleDesc} (h : FailureSafe hm2 interfaceNum channelNum remoteType prior)
    (henables : EnablesPins hm2 interfaceNum channelNum)
    (hmd : hm2FindModule hm2 hm2GtagSserial = some md) (hapart : hm2.SserialApart md) :
    EnablingHarmless hm2 prior := by
  obtain ⟨io, hio⟩ := Option.isSome_iff_exists.1 henables.ioport
  let ssmod := SserialInstance.start hm2 md interfaceNum channelNum
  let s : SserialState ((ℕ → ℕ) × Unit) := ⟨(prior, ()), ssmod.interface, fun _ => ssmod.device⟩
  -- the device fails once the pins are enabled
  obtain ⟨fuel, ssmod', t, hrun, hports⟩ := startRemote_canFail hapart
    henables.interface_lt henables.channel_lt _ remoteType
    (s.onBoard (enabledRegs (portsBus hm2 (failingDevice md interfaceNum)) hm2 io s.regs)) rfl
  have hsafe := h Unit (failingDevice md interfaceNum) fuel ssmod ssmod' s t rfl
    ((sserialInit_enables _ _ _ _ henables hmd hio s).trans hrun)
  rw [hports] at hsafe
  exact (portsSafe_enabledRegs_iff _ hio s.regs).1 hsafe

/-- Where enabling the pins is harmless, a failure is. -/
lemma failureSafe_of_harmless {interfaceNum channelNum remoteType : ℕ} {prior : ℕ → ℕ}
    (h : EnablesPins hm2 interfaceNum channelNum → EnablingHarmless hm2 prior)
    (hapart : ∀ md, hm2FindModule hm2 hm2GtagSserial = some md → hm2.SserialApart md) :
    FailureSafe hm2 interfaceNum channelNum remoteType prior := by
  intro τ device fuel ssmod ssmod' s t hprior hrun
  by_cases henables : EnablesPins hm2 interfaceNum channelNum
  · obtain ⟨md, hmd⟩ := Option.isSome_iff_exists.1 henables.sserial
    obtain ⟨io, hio⟩ := Option.isSome_iff_exists.1 henables.ioport
    rw [sserialInit_enables _ _ _ _ henables hmd hio] at hrun
    have halike := startRemote_portsBus (hapart md hmd) henables.interface_lt
      henables.channel_lt device (enabledRegs (portsBus hm2 device) hm2 io s.regs).1 fuel
      remoteType (s.onBoard (enabledRegs (portsBus hm2 device) hm2 io s.regs))
      (s.onBoard (enabledRegs (portsBus hm2 device) hm2 io s.regs).2) ⟨rfl, rfl, rfl⟩ trivial
    rw [hrun] at halike
    obtain ⟨t₂, ht, -⟩ := halike.of_ok
    rw [ht.regs, ← hprior]
    exact (portsSafe_enabledRegs_iff device hio s.regs).2 (hprior ▸ h henables)
  · rcases sserialInit_refuses (portsBus hm2 device) fuel ssmod remoteType henables s
      with hok | ⟨e, he⟩
    · rw [hok] at hrun
      obtain ⟨-, rfl⟩ := Prod.mk.inj (Except.ok.inj hrun)
      intro md hmd n hn addr haddr
      exact .inl (congrFun hprior addr)
    · rw [he] at hrun
      cases hrun

/-- **A failed `sserial_init` leaves the ports safe exactly where the pins are not enabled at
all, or enabling them is harmless.** -/
theorem sserialInit_failureSafe_iff (hm2 : Hostmot2) (interfaceNum channelNum remoteType : ℕ)
    (prior : ℕ → ℕ)
    (hapart : ∀ md, hm2FindModule hm2 hm2GtagSserial = some md → hm2.SserialApart md) :
    FailureSafe hm2 interfaceNum channelNum remoteType prior ↔
      (EnablesPins hm2 interfaceNum channelNum → EnablingHarmless hm2 prior) := by
  constructor
  · intro h henables
    obtain ⟨md, hmd⟩ := Option.isSome_iff_exists.1 henables.sserial
    exact h.harmless henables hmd (hapart md hmd)
  · intro h
    exact failureSafe_of_harmless h hapart

end Failure

/-! ### A board with one pin of smart serial -/

/-- The module for smart serial at 0x5B00. -/
def sserialAt5B00 : ModuleDesc := ⟨hm2GtagSserial, 0x5B00, 0⟩

/-- A board with two ports of 24 pins, where one output pin belongs to smart serial. -/
def boardWithRemote (pin : ℕ) : Hostmot2 where
  idrom := ⟨2, 48, 24, 0x40, 4⟩
  modules := fun i => if i.val = 0 then ioportAt1000 else sserialAt5B00
  pins := fun i => if i.val = pin then ⟨0x81, hm2GtagSserial, 0, 0⟩ else ⟨0, 0, 0, 0⟩

lemma boardWithRemote_apart (pin : ℕ) : (boardWithRemote pin).SserialApart sserialAt5B00 := by
  have hports : ∀ addr, IsPortRegister (boardWithRemote pin) addr → addr < 0x5B00 := by
    rintro addr ⟨md, n, hmd, hn, haddr⟩
    obtain rfl : ioportAt1000 = md := Option.some.inj hmd
    have hn' : n < 2 := hn.elim id id
    have hbase : ioportAt1000.baseAddress.toNat = 0x1000 := rfl
    simp only [hbase, hm2ModOffsGpioDdr, hm2ModOffsGpioAltSource] at haddr
    omega
  constructor
  · intro addr haddr
    exact .inl (hports addr haddr)
  · intro interface _ channel _ offs _ hreg
    have hlt := hports _ hreg
    simp only [SserialInstance.register, SserialInstance.start] at hlt
    have hbase : sserialAt5B00.baseAddress.toNat = 0x5B00 := rfl
    omega

/-- With the pin behind the two ports a failure is safe. -/
theorem pinBehind_failureSafe :
    FailureSafe (boardWithRemote 60) 0 1 0x07000000 fun _ => 0xFFFF :=
  (sserialInit_failureSafe_iff (boardWithRemote 60) 0 1 0x07000000 (fun _ => 0xFFFF)
    fun md hmd => by
      obtain rfl : sserialAt5B00 = md := Option.some.inj hmd
      exact boardWithRemote_apart 60).2 fun _ md _ n hn _ => by
        rcases (show n = 0 ∨ n = 1 by omega) with rfl | rfl
        · exact ⟨.inr (by decide), .inr (by decide)⟩
        · exact ⟨.inr (by decide), .inr (by decide)⟩

/-- With the pin on the first port it is not. -/
theorem pinOnPort_not_failureSafe :
    ¬ FailureSafe (boardWithRemote 3) 0 1 0x07000000 fun _ => 0 := by
  intro h
  have henables : EnablesPins (boardWithRemote 3) 0 1 :=
    ⟨rfl, by decide, by decide, rfl, by decide, by decide⟩
  have hharmless := h.harmless henables rfl (boardWithRemote_apart 3) ioportAt1000 rfl 0
    (by decide) (by decide)
  revert hharmless
  decide

end Mesaflash
