import Mesaflash.SserialBounds

/-!
The enumeration of smart serial devices on a board: it stays in its arrays exactly when the
pins and the contents of the interface fit (`enumerate_inBounds_iff`).
-/

namespace Mesaflash

open Lib

/-! ### The pins -/

/-- The pins of the first two ports. -/
def Hostmot2.PinsFit (hm2 : Hostmot2) : Prop :=
  2 * hm2.idrom.portWidth ≤ hm2MaxPins ∧
    ∀ pin : Fin hm2MaxPins, (pin : ℕ) < 2 * hm2.idrom.portWidth →
      (hm2.pins pin).secTag = hm2GtagSserial → (hm2.pins pin).secChan.toNat < 8

/-- A pin can be looked at. -/
def Hostmot2.PinFits (hm2 : Hostmot2) (pin : ℕ) : Prop :=
  ∃ h : pin < hm2MaxPins,
    (hm2.pins ⟨pin, h⟩).secTag = hm2GtagSserial → (hm2.pins ⟨pin, h⟩).secChan.toNat < 8

lemma Hostmot2.pinsFit_iff {hm2 : Hostmot2} :
    hm2.PinsFit ↔ ∀ port < 2, ∀ k < hm2.idrom.portWidth,
      hm2.PinFits (port * hm2.idrom.portWidth + k) := by
  constructor
  · rintro ⟨hwidth, hchan⟩ port hport k hk
    have hpin : port * hm2.idrom.portWidth + k < 2 * hm2.idrom.portWidth := by
      have hle := Nat.mul_le_mul_right hm2.idrom.portWidth (Nat.le_of_lt_succ hport)
      omega
    exact ⟨hpin.trans_le hwidth, hchan _ hpin⟩
  · intro hall
    have hpin : ∀ pin < 2 * hm2.idrom.portWidth, hm2.PinFits pin := by
      intro pin hlt
      by_cases hfirst : pin < hm2.idrom.portWidth
      · have hfits := hall 0 (by decide) pin hfirst
        rwa [Nat.zero_mul, Nat.zero_add] at hfits
      · have hfits := hall 1 (by decide) (pin - hm2.idrom.portWidth) (by omega)
        rwa [Nat.one_mul, Nat.add_sub_cancel' (Nat.not_lt.mp hfirst)] at hfits
    refine ⟨?_, fun pin hlt => (hpin pin hlt).choose_spec⟩
    by_contra hwidth
    obtain ⟨hlt, -⟩ := hpin hm2MaxPins (Nat.not_le.mp hwidth)
    exact absurd hlt (lt_irrefl _)

section Pins

variable (bus : RegisterBus SserialRegs) (hm2 : Hostmot2)

/-- The next pin is this one, and no device has software modes. -/
def NextPin (pin : ℕ) (x : PinScan) (s : SserialRun) : Prop :=
  u32 (x.pin + 1) = pin ∧ NoModes s

/-- An index is used, and nothing changes. -/
lemma elementOf_same {σ : Type} {I : σ → Prop} (n i : ℕ) :
    Walks (Fault.hang) (.undefined .outOfBounds) I (fun (a : Fin n) s => (a : ℕ) = i ∧ I s)
      (fun _ => elementOf n i) (i < n) True := by
  by_cases hi : i < n
  · refine Walks.iff (.of_endsIn fun s hs => ?_) (iff_true_intro hi) fun _ => Iff.rfl
    exact ⟨⟨i, hi⟩, s, ⟨rfl, hs⟩, elementOf_eq hi s ▸ endsIn_const _ s⟩
  · exact .of_bad hi fun s _ => elementOf_error hi s

/-- A pin of the port is looked at. -/
lemma scanPin_walks (pin k : ℕ) (x : PinScan) :
    Enumerates (NextPin pin x) (NextPin (pin + 1)) (fun _ => scanPin hm2 x k)
      (hm2.PinFits pin) True := by
  have hscan : Enumerates (NextPin pin x) (NextPin (pin + 1)) (fun _ => scanPin hm2 x k)
      (u32 (x.pin + 1) < hm2MaxPins ∧ (True → ∀ h : pin < hm2MaxPins,
        (hm2.pins ⟨pin, h⟩).secTag = hm2GtagSserial →
          (hm2.pins ⟨pin, h⟩).secChan.toNat < 8)) (True ∧ True) := by
    refine (elementOf_same hm2MaxPins _).bind fun i => ?_
    by_cases hi : (i : ℕ) = u32 (x.pin + 1) ∧ u32 (x.pin + 1) = pin
    · obtain ⟨hi, hx⟩ := hi
      obtain rfl : (i : ℕ) = pin := hi.trans hx
      have hnext : u32 (u32 (x.pin + 1) + 1) = i + 1 := by
        have hmax : hm2MaxPins = 144 := rfl
        rw [hx]
        exact u32_of_lt (by omega)
      by_cases htag : (hm2.pins i).secTag = hm2GtagSserial
      · -- the pin belongs to smart serial, so its channel is counted
        have hchan := (elementOf_same (I := NextPin i x) 8 (hm2.pins i).secChan.toNat).bind
          fun chan => Walks.pure (a := ({
            pin := u32 (x.pin + 1)
            chanCounts := if x.chanCounts chan < ((hm2.pins i).secPin &&& 0x0F).toNat then
                Function.update x.chanCounts chan ((hm2.pins i).secPin &&& 0x0F).toNat
              else x.chanCounts
            ddrReg := if (hm2.pins i).secPin &&& 0x80 ≠ 0 then x.ddrReg ||| u32 (1 <<< k)
              else x.ddrReg
            srcReg := x.srcReg ||| u32 (1 <<< k) } : PinScan))
            (J := NextPin (i + 1)) fun s hs => ⟨hnext, hs.2.2⟩
        simp only [htag, if_true]
        refine (hchan.mono (fun s hs => hs.2) fun _ _ hs => hs).iff ?_ fun _ => by tauto
        constructor
        · exact fun h => ⟨h i.isLt trivial, fun _ => trivial⟩
        · exact fun h _ _ => h.1
      · simp only [htag, if_false]
        refine Walks.iff (.pure fun s hs => ⟨hnext, hs.2.2⟩) ?_ fun _ => Iff.rfl
        exact iff_true_intro fun _ h => h.elim
    · exact .of_false fun s hs => hi ⟨hs.1, hs.2.1⟩
  by_cases hx : u32 (x.pin + 1) = pin
  · rw [hx] at hscan
    refine hscan.iff ?_ fun _ => (and_self_iff).symm
    constructor
    · rintro ⟨hlt, hfits⟩
      exact ⟨hlt, fun _ _ => hfits⟩
    · rintro ⟨hlt, hfits⟩
      exact ⟨hlt, hfits trivial hlt⟩
  · exact .of_false fun s hs => hx hs.1

/-- A port is looked at, and enabled. -/
lemma scanPort_walks (addr port : ℕ) (x : PinScan) :
    Enumerates (NextPin (port * hm2.idrom.portWidth) x)
      (NextPin ((port + 1) * hm2.idrom.portWidth)) (fun _ => scanPort bus hm2 addr x port)
      (∀ k < hm2.idrom.portWidth, hm2.PinFits (port * hm2.idrom.portWidth + k)) True := by
  have hpin : ∀ k (hk : k < (List.range hm2.idrom.portWidth).length) y,
      Enumerates (NextPin (port * hm2.idrom.portWidth + k) y)
        (NextPin (port * hm2.idrom.portWidth + (k + 1)))
        (fun _ => scanPin hm2 y (List.range hm2.idrom.portWidth)[k])
        (hm2.PinFits (port * hm2.idrom.portWidth + k)) True := by
    intro k hk y
    rw [← Nat.add_assoc]
    exact scanPin_walks hm2 _ _ y
  have hpins := Walks.foldlM (f := fun _ => scanPin hm2)
    (I := fun k => NextPin (port * hm2.idrom.portWidth + k)) hpin
    { x with ddrReg := 0, srcReg := 0 }
  rw [List.length_range, ← Nat.succ_mul] at hpins
  have hwrite : ∀ (y : PinScan) (addr' value : ℕ) (s : SserialRun),
      NextPin ((port + 1) * hm2.idrom.portWidth) y s →
        ∃ u t, NextPin ((port + 1) * hm2.idrom.portWidth) y t ∧
          EndsIn .hang (fun _ => llioWrite bus addr' value) s (.ok (u, t)) :=
    fun y addr' value s hs =>
      ⟨(), s.withRegs (bus.write addr' value s.regs), hs, endsIn_const _ s⟩
  have hwrites : ∀ y : PinScan, Enumerates (NextPin ((port + 1) * hm2.idrom.portWidth) y)
      (NextPin ((port + 1) * hm2.idrom.portWidth)) (fun _ => do
        llioWrite bus (addr + hm2ModOffsGpioDdr + 4 * port) y.ddrReg
        llioWrite bus (addr + hm2ModOffsGpioAltSource + 4 * port) y.srcReg
        return y) True True :=
    fun y => Walks.after (hwrite y _ _) fun _ => Walks.after (hwrite y _ _) fun _ =>
      Walks.pure fun s hs => hs
  refine (hpins.bind hwrites).iff (by tauto) (by tauto)

/-- **The pins are enabled without leaving an array exactly when they fit.** -/
lemma enablePins_walks (hport : (hm2FindModule hm2 hm2GtagIoport).isSome) :
    Enumerates NoModes (fun _ => NoModes) (fun _ => enableSserialPins bus hm2)
      hm2.PinsFit True := by
  obtain ⟨md, hmd⟩ := Option.isSome_iff_exists.mp hport
  have hport : ∀ port (hlt : port < (List.range 2).length) y,
      Enumerates (NextPin (port * hm2.idrom.portWidth) y)
        (NextPin ((port + 1) * hm2.idrom.portWidth))
        (fun _ => scanPort bus hm2 md.baseAddress.toNat y (List.range 2)[port])
        (∀ k < hm2.idrom.portWidth, hm2.PinFits (port * hm2.idrom.portWidth + k)) True := by
    intro port hlt y
    rw [List.getElem_range]
    exact scanPort_walks bus hm2 _ port y
  have hports := Walks.foldlM (f := fun _ => scanPort bus hm2 md.baseAddress.toNat)
    (I := fun port => NextPin (port * hm2.idrom.portWidth)) hport
    ⟨0xFFFFFFFF, fun _ => 0, 0, 0⟩
  rw [List.length_range] at hports
  have hmodule : ∀ s, NoModes s → ∃ t, NoModes t ∧ EndsIn .hang
      (fun _ => moduleAt (hm2FindModule hm2 hm2GtagIoport)) s (.ok (md, t)) := by
    intro s hs
    rw [hmd]
    exact ⟨s, hs, endsIn_const _ s⟩
  have hdone : ∀ x : PinScan, Enumerates (NextPin (2 * hm2.idrom.portWidth) x)
      (fun _ => NoModes) (fun _ => pure ()) True True := fun x => .pure fun s hs => hs.2
  rw [Hostmot2.pinsFit_iff]
  refine Walks.afterValue hmodule ?_
  refine ((hports.bind hdone).mono (fun s hs => ⟨?_, hs⟩) fun _ _ hs => hs).iff ?_ ?_
  · rw [Nat.zero_mul]
    rfl
  · exact (and_iff_left fun _ => trivial).symm
  · exact fun _ => (and_self_iff).symm

/-- The pins are disabled. -/
lemma disablePins_endsIn (hport : (hm2FindModule hm2 hm2GtagIoport).isSome) (s : SserialRun) :
    ∃ t, EndsIn .hang (fun _ => disableSserialPins bus hm2) s (.ok ((), t)) := by
  obtain ⟨md, hmd⟩ := Option.isSome_iff_exists.mp hport
  simp only [disableSserialPins, hmd]
  exact ⟨_, endsIn_const _ s⟩

end Pins

/-! ### The board -/

/-- A board with a smart serial interface.  Its registers are not in front of the descriptors
of the firmware. -/
structure SserialBoard where
  hm2 : Hostmot2
  contents : SserialContents
  base_ge : ∀ md, hm2FindModule hm2 hm2GtagSserial = some md → 0x520 ≤ md.baseAddress.toNat

namespace SserialBoard

variable (b : SserialBoard)

/-- The base address of the interface. -/
def baseAddress : ℕ :=
  match hm2FindModule b.hm2 hm2GtagSserial with
  | some md => md.baseAddress.toNat
  | none => 0

/-- The state at the start: `board_init_struct` has cleared the board. -/
def start (regs : SserialRegs) : SserialRun where
  regs := regs
  ssInterface := ⟨0, 0, 0, 0, 0, 0, 0, 0, 0, 0⟩
  ssDevice := fun _ => ⟨0, 0, 0, [], []⟩

/-- A call of `sserial_module_init`. -/
def enumerate (verbose : Bool) (fuel : ℕ) (regs : SserialRegs) :
    Except Fault (Unit × SserialRun) :=
  sserialModuleInit (b.contents.bus b.baseAddress) b.hm2 verbose fuel (start regs)

/-- Everything that is read of the board fits. -/
def Fits (verbose : Bool) : Prop :=
  (hm2FindModule b.hm2 hm2GtagSserial).isSome → (hm2FindModule b.hm2 hm2GtagIoport).isSome →
    b.hm2.PinsFit ∧ b.contents.InterfaceFits verbose

/-- A board with an interface and I/O ports. -/
lemma init_walks {md : ModuleDesc} (hmd : hm2FindModule b.hm2 hm2GtagSserial = some md)
    (hport : (hm2FindModule b.hm2 hm2GtagIoport).isSome) (verbose : Bool) :
    Enumerates NoModes (fun _ _ => True)
      (fun f => sserialModuleInit (b.contents.bus b.baseAddress) b.hm2 verbose f)
      (b.hm2.PinsFit ∧ b.contents.InterfaceFits verbose) b.contents.InterfaceEnds := by
  have hbase : b.baseAddress = md.baseAddress.toNat := by
    rw [baseAddress, hmd]
  let ssmod : SserialModule := {
    baseAddress := md.baseAddress.toNat
    instanceStride := if md.strides &&& 0xF0 = 0 then b.hm2.idrom.instanceStride0
      else b.hm2.idrom.instanceStride1 }
  have hround := portRound_walks b.contents ssmod (b.base_ge md hmd) verbose
  have hdisable : Enumerates (fun _ => True) (fun _ _ => True)
      (fun _ => disableSserialPins (b.contents.bus md.baseAddress.toNat) b.hm2) True True := by
    refine .of_endsIn fun s _ => ?_
    obtain ⟨t, hend⟩ := disablePins_endsIn (b.contents.bus md.baseAddress.toNat) b.hm2 hport s
    exact ⟨(), t, trivial, hend⟩
  have henable := enablePins_walks (b.contents.bus md.baseAddress.toNat) b.hm2 hport
  have hports : Enumerates NoModes (fun _ _ => True)
      (fun f => [0].forM (portRound (b.contents.bus md.baseAddress.toNat) ssmod verbose f))
      (b.contents.InterfaceFits verbose) b.contents.InterfaceEnds :=
    hround.congr fun s _ fuel => congrFun (bind_pure _) s
  simp only [sserialModuleInit, hmd, hbase]
  refine (henable.bind fun _ => hports.bind fun _ => hdisable).iff (by tauto) (by tauto)

/-- **The enumeration stays in its arrays exactly when everything that it reads fits.** -/
theorem enumerate_inBounds_iff (verbose : Bool) (regs : SserialRegs) :
    (∀ fuel, b.enumerate verbose fuel regs ≠ .error (.undefined .outOfBounds)) ↔
      b.Fits verbose := by
  by_cases hmodule : (hm2FindModule b.hm2 hm2GtagSserial).isSome
  · obtain ⟨md, hmd⟩ := Option.isSome_iff_exists.mp hmodule
    by_cases hport : (hm2FindModule b.hm2 hm2GtagIoport).isSome
    · have hwalk := b.init_walks hmd hport verbose
      have hiff := hwalk.ne_bad_iff (s := start regs) (by decide) fun _ => rfl
      refine hiff.trans ?_
      rw [Fits]
      tauto
    -- without I/O ports a null pointer is used before anything is read
    · have hnone : hm2FindModule b.hm2 hm2GtagIoport = none :=
        Option.not_isSome_iff_eq_none.mp hport
      have hrun : ∀ fuel, b.enumerate verbose fuel regs = .error (.undefined .nullPointer) := by
        intro fuel
        simp only [enumerate, sserialModuleInit, hmd, enableSserialPins, hnone]
        rfl
      refine iff_of_true (fun fuel => ?_) fun _ h => absurd h hport
      rw [hrun fuel]
      exact fun h => nomatch Except.error.inj h
  · have hnone : hm2FindModule b.hm2 hm2GtagSserial = none :=
      Option.not_isSome_iff_eq_none.mp hmodule
    refine iff_of_true (fun fuel => ?_) fun h => absurd h hmodule
    simp only [enumerate, sserialModuleInit, hnone]
    exact nofun

end SserialBoard

/-! ### A remote that does not fit -/

instance {α : Type} (r : Except Fault α) (f : Fault) : Decidable (r = .error f) :=
  match r with
  | .error e => decidable_of_iff (e = f) ⟨congrArg _, Except.error.inj⟩
  | .ok _ => isFalse nofun

/-- `LBP_ENCODER_H`. -/
def lbpEncoderH : UInt8 := 0x18

/-- The memory of a remote with a table at 0x10.  Its only record is that of the parameter
`NVFull`, of 8 bits and the type `LBP_ENCODER_H`. -/
def encoderMemory : List UInt8 :=
  List.replicate 16 0 ++ [0x14, 0, 0, 0] ++ [lbpData, 8, lbpEncoderH] ++ List.replicate 11 0 ++
    (ascii "rev" ++ [0]) ++ (ascii "NVFull" ++ [0])

/-- An interface with this remote at its only channel. -/
def encoderContents : SserialContents where
  localByte addr := if addr = sslbpWidthLoc then 1 else 0
  setup _ _ := 0
  setupNone := 0
  interface0 _ _ := 0
  interface1 _ _ := 0
  interface2 _ _ := 0x100000
  remoteByte _ _ cmd := encoderMemory.getD (cmd % 0x1000000) 0
  otherReg _ := 0

def encoderBoard : SserialBoard where
  hm2 := {
    idrom := ⟨2, 48, 24, 4, 64⟩
    modules := fun i => if i.val = 0 then ⟨hm2GtagSserial, 0x5B00, 0⟩
      else if i.val = 1 then ⟨hm2GtagIoport, 0x1000, 0⟩
      else ⟨0, 0, 0⟩
    pins := fun _ => ⟨0, 0, 0, 0⟩ }
  contents := encoderContents
  base_ge := by decide

def clearRegs : SserialRegs :=
  ⟨0, fun _ => 0, fun _ => 0, fun _ => 0, fun _ => 0, fun _ => false, fun _ => false⟩

/-- The type of the parameter is looked up behind the end of the names of types. -/
theorem encoderBoard_outOfBounds :
    encoderBoard.enumerate true 100 clearRegs = .error (.undefined .outOfBounds) := by
  decide +kernel

end Mesaflash
