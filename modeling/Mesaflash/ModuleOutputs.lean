import Mesaflash.PinRegisters

/-!
Enabling all outputs of the modules, and the state of the pins after start-up.

`hm2_enable_all_module_outputs` writes the source registers of all ports as a whole, and
then changes the direction of one pin after the other.  `hm2_safe_io` writes the registers of
all ports as a whole.  The banks of the two kinds of registers are 64 registers apart, so from
port 64 on the direction register of a port is the source register of another one.
-/

namespace Mesaflash

open Lib

section Functions

variable {σ : Type} (bus : RegisterBus σ) (hm2 : Hostmot2)

/-- The work of `hm2_enable_all_module_outputs` on a pin. -/
def enableModuleOutput (i : ℕ) : Prog Fault σ Unit := do
  let pd ← elementOf hm2MaxPins i
  if (hm2.pins pd).secPin &&& 0x80 ≠ 0 then hm2SetPinDirection bus hm2 i hm2PinDirIsOutput
  else pure ()

/-- `hm2_enable_all_module_outputs`. -/
def hm2EnableAllModuleOutputs : Prog Fault σ Unit := do
  let md ← moduleAt (hm2FindModule hm2 hm2GtagIoport)
  (List.range hm2.idrom.ioPorts).forM fun i =>
    busWrite bus (md.register hm2ModOffsGpioAltSource i) 0xFFFFFFFF
  let numPins := toInt ((hm2.idrom.ioPorts * hm2.idrom.portWidth : ℕ) : ℤ)
  (List.range numPins.toNat).forM (enableModuleOutput bus hm2)

/-- `hm2_safe_io`. -/
def hm2SafeIo : Prog Fault σ Unit := do
  let md ← moduleAt (hm2FindModule hm2 hm2GtagIoport)
  (List.range hm2.idrom.ioPorts).forM fun i => do
    busWrite bus (md.register hm2ModOffsGpioAltSource i) 0x00000000
    busWrite bus (md.register hm2ModOffsGpioDdr i) 0x00000000

end Functions

/-! ### Writing whole registers -/

namespace RegisterFile

/-- The registers after some of them were written with one value. -/
def writeAll (r : RegisterFile) (addrs : List ℕ) (value : UInt32) : RegisterFile :=
  ⟨fun a => if a ∈ addrs then value else r.contents a, r.written ++ addrs⟩

lemma writeAll_append (r : RegisterFile) (addrs addrs' : List ℕ) (value : UInt32) :
    (r.writeAll addrs value).writeAll addrs' value = r.writeAll (addrs ++ addrs') value := by
  have hcontents : ((r.writeAll addrs value).writeAll addrs' value).contents =
      (r.writeAll (addrs ++ addrs') value).contents := by
    funext a
    by_cases h' : a ∈ addrs'
    · simp [writeAll, h']
    · simp [writeAll, h']
  rw [writeAll, mk.injEq]
  exact ⟨hcontents, List.append_assoc _ _ _⟩

/-- The registers after some of their bits were set. -/
def setBits (r : RegisterFile) (places : List (ℕ × ℕ)) : RegisterFile :=
  places.foldl (fun r l => r.setBit l.1 l.2 true) r

lemma written_setBits (places : List (ℕ × ℕ)) : ∀ r : RegisterFile,
    (r.setBits places).written = r.written ++ places.map Prod.fst := by
  induction places with
  | nil =>
      intro r
      exact (List.append_nil _).symm
  | cons l places ih =>
      intro r
      change ((r.setBit l.1 l.2 true).setBits places).written = _
      rw [ih, setBit, List.append_assoc]
      rfl

/-- Where bits are set, they are 1, and elsewhere they are as before. -/
lemma bitOf_setBits (places : List (ℕ × ℕ)) (hplaces : ∀ l ∈ places, l.2 < 32) :
    ∀ (r : RegisterFile) (l : ℕ × ℕ), bitOf (r.setBits places).contents l =
      (decide (l ∈ places) || bitOf r.contents l) := by
  induction places with
  | nil =>
      intro r l
      simp [setBits]
  | cons l₀ places ih =>
      intro r l
      change bitOf ((r.setBit l₀.1 l₀.2 true).setBits places).contents l = _
      rw [ih (fun l hl => hplaces l (List.mem_cons_of_mem l₀ hl)),
        bitOf_setBit r _ (hplaces l₀ List.mem_cons_self)]
      by_cases hl : l = l₀
      · simp [hl]
      · simp [hl]

end RegisterFile

section Loops

variable {readout : ℕ → RegisterFile → UInt32}

lemma busWrite_eq (addr value : ℕ) (r : RegisterFile) :
    busWrite (registerBus readout) addr value r =
      .ok ((), r.writeAll [addr] value.toUInt32) := by
  have hcontents : Function.update r.contents addr value.toUInt32 =
      fun a => if a ∈ [addr] then value.toUInt32 else r.contents a := by
    funext a
    rw [Function.update_apply]
    simp only [List.mem_singleton]
  rw [RegisterFile.writeAll, ← hcontents]
  rfl

/-- A loop that writes the registers of some lists. -/
lemma forM_writeAll {body : ℕ → Prog Fault RegisterFile Unit} {addrs : ℕ → List ℕ}
    {value : UInt32} (hbody : ∀ i r, body i r = .ok ((), r.writeAll (addrs i) value))
    (l : List ℕ) : ∀ r : RegisterFile,
      l.forM body r = .ok ((), r.writeAll (l.flatMap addrs) value) := by
  induction l with
  | nil =>
      intro r
      have hnone : r.writeAll [] value = r := by simp [RegisterFile.writeAll]
      rw [List.flatMap_nil, hnone]
      rfl
  | cons i l ih =>
      intro r
      change (body i r >>= fun x => l.forM body x.2) = _
      rw [hbody, List.flatMap_cons, ← RegisterFile.writeAll_append]
      exact ih _

end Loops

/-- All bits of a word are 1 if it is `0xFFFFFFFF`. -/
lemma contents_eq_allOnes_iff {m : ℕ → UInt32} {addr : ℕ} :
    m addr = 0xFFFFFFFF ↔ ∀ k < 32, bitOf m (addr, k) = true := by
  have hones : ((0xFFFFFFFF : UInt32)).toNat = 2 ^ 32 - 1 := rfl
  constructor
  · intro h k hk
    rw [bitOf, h, hones, Nat.testBit_two_pow_sub_one]
    exact decide_eq_true hk
  · intro h
    refine UInt32.toNat_inj.1 (Nat.eq_of_testBit_eq fun k => ?_)
    rw [hones, Nat.testBit_two_pow_sub_one]
    rcases Nat.lt_or_ge k 32 with hk | hk
    · rw [decide_eq_true hk]
      exact h k hk
    · rw [decide_eq_false (Nat.not_lt.2 hk)]
      exact bitOf_of_ge m (l := (addr, k)) hk

/-! ### What the two functions leave behind -/

namespace Hostmot2

variable (hm2 : Hostmot2) (md : ModuleDesc)

/-- The IDROM of a board whose pins all have a descriptor. -/
structure OutputLayout : Prop where
  ioport : hm2FindModule hm2 hm2GtagIoport = some md
  portWidth_pos : 0 < hm2.idrom.portWidth
  portWidth_le : hm2.idrom.portWidth ≤ 32
  pins_le : hm2.idrom.ioPorts * hm2.idrom.portWidth ≤ hm2MaxPins

/-- Bit 7 of `sec_pin` is set: the pin is an output of its module. -/
def IsOutput (pin : ℕ) : Prop :=
  pin < hm2.idrom.ioPorts * hm2.idrom.portWidth ∧
    ∃ h : pin < hm2MaxPins, (hm2.pins ⟨pin, h⟩).secPin &&& 0x80 ≠ 0

/-- All sources are secondary, the outputs of the modules are outputs, and the directions of
the other pins are as before, as far as the registers of directions are no registers of
sources. -/
structure OutputsEnabled (prior r : RegisterFile) : Prop where
  source : ∀ n < hm2.idrom.ioPorts,
    r.contents (md.register hm2ModOffsGpioAltSource n) = 0xFFFFFFFF
  output : ∀ pin, hm2.IsOutput pin → bitOf r.contents (hm2.pinPlace md (.direction pin)) = true
  kept : ∀ n < hm2.idrom.ioPorts, n < 64 → ∀ k,
    (∀ pin, hm2.IsOutput pin →
      hm2.pinPlace md (.direction pin) ≠ (md.register hm2ModOffsGpioDdr n, k)) →
    bitOf r.contents (md.register hm2ModOffsGpioDdr n, k) =
      bitOf prior.contents (md.register hm2ModOffsGpioDdr n, k)
  written : ∃ log, r.written = prior.written ++ log ∧ ∀ addr ∈ log,
    (∃ n < hm2.idrom.ioPorts, addr = md.register hm2ModOffsGpioAltSource n) ∨
      ∃ pin, hm2.IsOutput pin ∧ addr = (hm2.pinPlace md (.direction pin)).1

/-- All sources are primary, and all pins are inputs. -/
structure IoSafe (prior r : RegisterFile) : Prop where
  source : ∀ n < hm2.idrom.ioPorts, r.contents (md.register hm2ModOffsGpioAltSource n) = 0
  direction : ∀ n < hm2.idrom.ioPorts, r.contents (md.register hm2ModOffsGpioDdr n) = 0
  written : ∃ log, r.written = prior.written ++ log ∧ ∀ addr ∈ log,
    ∃ n < hm2.idrom.ioPorts, addr = md.register hm2ModOffsGpioAltSource n ∨
      addr = md.register hm2ModOffsGpioDdr n

instance (pin : ℕ) : Decidable (hm2.IsOutput pin) := by
  unfold IsOutput
  infer_instance

end Hostmot2

section Effects

variable {hm2 : Hostmot2} {md : ModuleDesc} {readout : ℕ → RegisterFile → UInt32}

/-- The work on one pin sets the direction bit of an output. -/
lemma enableModuleOutput_eq (hlayout : hm2.OutputLayout md)
    (hreadable : ∀ n < hm2.idrom.ioPorts, Readable readout (md.register hm2ModOffsGpioDdr n))
    {i : ℕ} (hi : i < hm2.idrom.ioPorts * hm2.idrom.portWidth) (r : RegisterFile) :
    enableModuleOutput (registerBus readout) hm2 i r =
      .ok ((), r.setBits (if hm2.IsOutput i then [hm2.pinPlace md (.direction i)] else [])) := by
  have hpin : i < hm2MaxPins := hi.trans_le hlayout.pins_le
  have hport : i / hm2.idrom.portWidth < hm2.idrom.ioPorts :=
    Nat.div_lt_of_lt_mul (Nat.mul_comm _ _ ▸ hi)
  have hlimit : i < u32 (hm2.idrom.ioPorts * hm2.idrom.portWidth) := by
    rw [u32, Nat.mod_eq_of_lt (hlayout.pins_le.trans_lt (by decide))]
    exact hi
  rw [enableModuleOutput, prog_bind, elementOf_eq hpin, ok_bind]
  by_cases hout : (hm2.pins ⟨i, hpin⟩).secPin &&& 0x80 ≠ 0
  · have hk : i % hm2.idrom.portWidth < 32 :=
      (Nat.mod_lt i hlayout.portWidth_pos).trans_le hlayout.portWidth_le
    rw [if_pos hout, if_pos ⟨hi, hpin, hout⟩]
    exact setPin_set hm2.directionBank hlayout.ioport hlimit r (hreadable _ hport) hk
      hm2.directionBank_ne
  · rw [if_neg hout, if_neg fun h => hout h.2.2]
    rfl

/-- The loop over the pins sets the direction bits of the outputs. -/
lemma forM_enableModuleOutput (hlayout : hm2.OutputLayout md)
    (hreadable : ∀ n < hm2.idrom.ioPorts, Readable readout (md.register hm2ModOffsGpioDdr n))
    (l : List ℕ) : ∀ r : RegisterFile,
      (∀ i ∈ l, i < hm2.idrom.ioPorts * hm2.idrom.portWidth) →
      l.forM (enableModuleOutput (registerBus readout) hm2) r =
        .ok ((), r.setBits (l.flatMap fun i =>
          if hm2.IsOutput i then [hm2.pinPlace md (.direction i)] else [])) := by
  induction l with
  | nil =>
      intro r _
      rfl
  | cons i l ih =>
      intro r hl
      change (enableModuleOutput (registerBus readout) hm2 i r >>=
        fun x => l.forM (enableModuleOutput (registerBus readout) hm2) x.2) = _
      rw [enableModuleOutput_eq hlayout hreadable (hl i List.mem_cons_self), ok_bind,
        ih _ fun j hj => hl j (List.mem_cons_of_mem i hj), List.flatMap_cons,
        RegisterFile.setBits, RegisterFile.setBits, RegisterFile.setBits, List.foldl_append]

/-- The places of the direction bits that are set. -/
def Hostmot2.outputPlaces (hm2 : Hostmot2) (md : ModuleDesc) : List (ℕ × ℕ) :=
  (List.range (hm2.idrom.ioPorts * hm2.idrom.portWidth)).flatMap fun i =>
    if hm2.IsOutput i then [hm2.pinPlace md (.direction i)] else []

lemma Hostmot2.mem_outputPlaces {l : ℕ × ℕ} :
    l ∈ hm2.outputPlaces md ↔ ∃ pin, hm2.IsOutput pin ∧ l = hm2.pinPlace md (.direction pin) := by
  rw [outputPlaces, List.mem_flatMap]
  constructor
  · rintro ⟨i, -, hl⟩
    by_cases hout : hm2.IsOutput i
    · rw [if_pos hout] at hl
      exact ⟨i, hout, List.mem_singleton.1 hl⟩
    · rw [if_neg hout] at hl
      cases hl
  · rintro ⟨pin, hout, rfl⟩
    exact ⟨pin, List.mem_range.2 hout.1, by rw [if_pos hout]; exact List.mem_singleton_self _⟩

/-- All in all, the source registers are written as a whole and then bits are set. -/
lemma hm2EnableAllModuleOutputs_eq (hlayout : hm2.OutputLayout md)
    (hreadable : ∀ n < hm2.idrom.ioPorts, Readable readout (md.register hm2ModOffsGpioDdr n))
    (r : RegisterFile) :
    hm2EnableAllModuleOutputs (registerBus readout) hm2 r =
      .ok ((), (r.writeAll ((List.range hm2.idrom.ioPorts).flatMap fun i =>
        [md.register hm2ModOffsGpioAltSource i]) 0xFFFFFFFF).setBits (hm2.outputPlaces md)) := by
  have hpins : (toInt ((hm2.idrom.ioPorts * hm2.idrom.portWidth : ℕ) : ℤ)).toNat =
      hm2.idrom.ioPorts * hm2.idrom.portWidth := by
    have hle := hlayout.pins_le
    have hmax : hm2MaxPins = 144 := rfl
    rw [toInt, Int.bmod_eq_of_le (by omega) (by omega), Int.toNat_natCast]
  rw [hm2EnableAllModuleOutputs, hlayout.ioport, moduleAt]
  change ((List.range hm2.idrom.ioPorts).forM (m := Prog Fault RegisterFile) _ r >>=
    fun x => (List.range _).forM (m := Prog Fault RegisterFile) _ x.2) = _
  -- the first loop writes all sources, the second one only sets bits
  rw [forM_writeAll (fun i r => busWrite_eq (md.register hm2ModOffsGpioAltSource i) 0xFFFFFFFF r),
    ok_bind, hpins]
  exact forM_enableModuleOutput hlayout hreadable _ _ fun _ hi => List.mem_range.1 hi

/-- All registers of all ports are written. -/
lemma hm2SafeIo_eq (hlayout : hm2.OutputLayout md) (r : RegisterFile) :
    hm2SafeIo (registerBus readout) hm2 r =
      .ok ((), r.writeAll ((List.range hm2.idrom.ioPorts).flatMap fun i =>
        [md.register hm2ModOffsGpioAltSource i, md.register hm2ModOffsGpioDdr i]) 0) := by
  rw [hm2SafeIo, hlayout.ioport, moduleAt]
  refine forM_writeAll (fun i r => ?_) _ r
  rw [prog_bind, busWrite_eq, ok_bind, busWrite_eq, RegisterFile.writeAll_append]
  rfl

/-- A direction register of the first 64 ports is no source register. -/
lemma Hostmot2.OutputLayout.register_ne (hlayout : hm2.OutputLayout md) {n m : ℕ} (hn : n < 64)
    (hm : m < hm2.idrom.ioPorts) :
    md.register hm2ModOffsGpioDdr n ≠ md.register hm2ModOffsGpioAltSource m := by
  have hports : hm2.idrom.ioPorts ≤ hm2MaxPins :=
    (Nat.le_mul_of_pos_right _ hlayout.portWidth_pos).trans hlayout.pins_le
  have hmax : hm2MaxPins = 144 := rfl
  have hbase : md.baseAddress.toNat < 2 ^ 16 := md.baseAddress.toNat_lt
  simp only [ModuleDesc.register, u32, hm2ModOffsGpioDdr, hm2ModOffsGpioAltSource]
  omega

/-- The registers of sources are written as a whole. -/
lemma bitOf_writeAll_source (r : RegisterFile) {n k : ℕ} (hn : n < hm2.idrom.ioPorts)
    (hk : k < 32) :
    bitOf (r.writeAll ((List.range hm2.idrom.ioPorts).flatMap fun i =>
      [md.register hm2ModOffsGpioAltSource i]) 0xFFFFFFFF).contents
      (md.register hm2ModOffsGpioAltSource n, k) = true := by
  refine contents_eq_allOnes_iff.1 (if_pos (List.mem_flatMap.2 ⟨n, ?_, ?_⟩)) k hk
  · exact List.mem_range.2 hn
  · exact List.mem_singleton_self _

/-- The first 64 registers of directions are no registers of sources. -/
lemma contents_writeAll_ddr (hlayout : hm2.OutputLayout md) (r : RegisterFile) {n : ℕ}
    (hn : n < 64) :
    (r.writeAll ((List.range hm2.idrom.ioPorts).flatMap fun i =>
      [md.register hm2ModOffsGpioAltSource i]) 0xFFFFFFFF).contents
      (md.register hm2ModOffsGpioDdr n) = r.contents (md.register hm2ModOffsGpioDdr n) := by
  refine if_neg fun h => ?_
  obtain ⟨m, hm, heq⟩ := List.mem_flatMap.1 h
  exact hlayout.register_ne hn (List.mem_range.1 hm) (List.mem_singleton.1 heq)

/-- What the first function leaves behind. -/
lemma hm2EnableAllModuleOutputs_spec (hlayout : hm2.OutputLayout md)
    (hreadable : ∀ n < hm2.idrom.ioPorts, Readable readout (md.register hm2ModOffsGpioDdr n))
    (r : RegisterFile) :
    ∃ r', hm2EnableAllModuleOutputs (registerBus readout) hm2 r = .ok ((), r') ∧
      hm2.OutputsEnabled md r r' := by
  refine ⟨_, hm2EnableAllModuleOutputs_eq hlayout hreadable r, ?_⟩
  have hplaces : ∀ l ∈ hm2.outputPlaces md, l.2 < 32 := by
    intro l hl
    obtain ⟨pin, -, rfl⟩ := Hostmot2.mem_outputPlaces.1 hl
    exact (Nat.mod_lt pin hlayout.portWidth_pos).trans_le hlayout.portWidth_le
  have hbit := RegisterFile.bitOf_setBits (hm2.outputPlaces md) hplaces
  exact {
    source := by
      intro n hn
      rw [contents_eq_allOnes_iff]
      intro k hk
      -- bits are only set, so what was written as a whole stays
      rw [hbit, bitOf_writeAll_source r hn hk, Bool.or_true]
    output := by
      intro pin hout
      rw [hbit, decide_eq_true (Hostmot2.mem_outputPlaces.2 ⟨pin, hout, rfl⟩), Bool.true_or]
    kept := by
      intro n hn hlow k hk
      have hplace : (md.register hm2ModOffsGpioDdr n, k) ∉ hm2.outputPlaces md := by
        intro h
        obtain ⟨pin, hout, heq⟩ := Hostmot2.mem_outputPlaces.1 h
        exact hk pin hout heq.symm
      rw [hbit, decide_eq_false hplace, Bool.false_or, bitOf,
        contents_writeAll_ddr hlayout r hlow, bitOf]
    written := by
      refine ⟨_, (RegisterFile.written_setBits _ _).trans (List.append_assoc _ _ _), ?_⟩
      intro addr haddr
      rcases List.mem_append.1 haddr with h | h
      · obtain ⟨n, hn, heq⟩ := List.mem_flatMap.1 h
        exact .inl ⟨n, List.mem_range.1 hn, List.mem_singleton.1 heq⟩
      · obtain ⟨l, hl, rfl⟩ := List.mem_map.1 h
        obtain ⟨pin, hout, rfl⟩ := Hostmot2.mem_outputPlaces.1 hl
        exact .inr ⟨pin, hout, rfl⟩ }

/-- What the second function leaves behind. -/
lemma hm2SafeIo_spec (hlayout : hm2.OutputLayout md) (r : RegisterFile) :
    ∃ r', hm2SafeIo (registerBus readout) hm2 r = .ok ((), r') ∧ hm2.IoSafe md r r' := by
  have hmem : ∀ addr, addr ∈ (List.range hm2.idrom.ioPorts).flatMap (fun i =>
      [md.register hm2ModOffsGpioAltSource i, md.register hm2ModOffsGpioDdr i]) ↔
      ∃ n < hm2.idrom.ioPorts, addr = md.register hm2ModOffsGpioAltSource n ∨
        addr = md.register hm2ModOffsGpioDdr n := fun addr => by
    simp [List.mem_flatMap]
  refine ⟨_, hm2SafeIo_eq hlayout r, ?_, ?_, _, rfl, fun addr haddr => (hmem addr).1 haddr⟩
  · intro n hn
    exact if_pos ((hmem _).2 ⟨n, hn, .inl rfl⟩)
  · intro n hn
    exact if_pos ((hmem _).2 ⟨n, hn, .inr rfl⟩)

end Effects

/-! ### Runs -/

/-- A call of one of the two functions. -/
inductive OutputCall where
  | enableAll
  | safeIo
deriving DecidableEq, Repr

def OutputCall.run {σ : Type} (bus : RegisterBus σ) (hm2 : Hostmot2) :
    OutputCall → Prog Fault σ Unit
  | .enableAll => hm2EnableAllModuleOutputs bus hm2
  | .safeIo => hm2SafeIo bus hm2

section Runs

variable {hm2 : Hostmot2} {md : ModuleDesc} {readout : ℕ → RegisterFile → UInt32}

/-- All calls return. -/
lemma outputCalls_return (hlayout : hm2.OutputLayout md)
    (hreadable : ∀ n < hm2.idrom.ioPorts, Readable readout (md.register hm2ModOffsGpioDdr n))
    (calls : List OutputCall) :
    ∀ r, ∃ r', calls.forM (OutputCall.run (registerBus readout) hm2) r = .ok ((), r') := by
  induction calls with
  | nil => exact fun r => ⟨r, rfl⟩
  | cons c calls ih =>
      intro r
      obtain ⟨r₁, h₁⟩ : ∃ r₁, c.run (registerBus readout) hm2 r = .ok ((), r₁) := by
        cases c with
        | enableAll =>
            obtain ⟨r₁, h₁, -⟩ := hm2EnableAllModuleOutputs_spec hlayout hreadable r
            exact ⟨r₁, h₁⟩
        | safeIo =>
            obtain ⟨r₁, h₁, -⟩ := hm2SafeIo_spec hlayout r
            exact ⟨r₁, h₁⟩
      obtain ⟨r₂, h₂⟩ := ih r₁
      refine ⟨r₂, ?_⟩
      change (c.run (registerBus readout) hm2 r >>=
        fun x => calls.forM (OutputCall.run (registerBus readout) hm2) x.2) = _
      rw [h₁]
      exact h₂

/-- **After any calls the one function enables exactly the outputs, except that from port 64
on the directions are overwritten with the sources, and the other one clears the registers of
all ports; neither writes another register.** -/
theorem outputCalls_exact (hlayout : hm2.OutputLayout md)
    (hreadable : ∀ n < hm2.idrom.ioPorts, Readable readout (md.register hm2ModOffsGpioDdr n))
    (prior : RegisterFile) (calls : List OutputCall) :
    ∃ r, calls.forM (OutputCall.run (registerBus readout) hm2) prior = .ok ((), r) ∧
      (∃ r', hm2EnableAllModuleOutputs (registerBus readout) hm2 r = .ok ((), r') ∧
        hm2.OutputsEnabled md r r') ∧
      ∃ r', hm2SafeIo (registerBus readout) hm2 r = .ok ((), r') ∧ hm2.IoSafe md r r' := by
  obtain ⟨r, hr⟩ := outputCalls_return hlayout hreadable calls prior
  exact ⟨r, hr, hm2EnableAllModuleOutputs_spec hlayout hreadable r, hm2SafeIo_spec hlayout r⟩

/-- A board with as many ports of one pin as a bank has registers, and one more.  The last
pin but one is an output of its module. -/
def manyPorts : Hostmot2 where
  idrom := ⟨65, 65, 1, 0, 0⟩
  modules _ := ioportModule
  pins i := if i.val = 63 then ⟨0x81, 0, 0, 0⟩ else ⟨0, 0, 0, 0⟩

lemma manyPorts_layout : manyPorts.OutputLayout ioportModule where
  ioport := rfl
  portWidth_pos := by decide
  portWidth_le := by decide
  pins_le := by decide

/-- The outputs are enabled in a run, and all pins are safe afterwards. -/
theorem outputCalls_exact_manyPorts :
    ∃ r, [OutputCall.enableAll, .safeIo, .enableAll].forM
        (OutputCall.run (registerBus readAll) manyPorts) clearRegisters = .ok ((), r) ∧
      (∃ r', hm2EnableAllModuleOutputs (registerBus readAll) manyPorts r = .ok ((), r') ∧
        manyPorts.OutputsEnabled ioportModule r r') ∧
      ∃ r', hm2SafeIo (registerBus readAll) manyPorts r = .ok ((), r') ∧
        manyPorts.IoSafe ioportModule r r' := by
  have hreadable : ∀ n < manyPorts.idrom.ioPorts,
      Readable readAll (ioportModule.register hm2ModOffsGpioDdr n) := fun _ _ _ => rfl
  exact outputCalls_exact manyPorts_layout hreadable clearRegisters _

/-- The direction of the pin of port 64 changes, though the pin is no output. -/
theorem manyPorts_overwritten :
    manyPorts.OutputLayout ioportModule ∧
      (∀ n < manyPorts.idrom.ioPorts,
        Readable readAll (ioportModule.register hm2ModOffsGpioDdr n)) ∧
      64 < manyPorts.idrom.ioPorts * manyPorts.idrom.portWidth ∧ ¬ manyPorts.IsOutput 64 ∧
      ∃ r, hm2EnableAllModuleOutputs (registerBus readAll) manyPorts clearRegisters = .ok ((), r) ∧
        bitOf r.contents (manyPorts.pinPlace ioportModule (.direction 64)) ≠
          bitOf clearRegisters.contents (manyPorts.pinPlace ioportModule (.direction 64)) := by
  have hreadable : ∀ n < manyPorts.idrom.ioPorts,
      Readable readAll (ioportModule.register hm2ModOffsGpioDdr n) := fun _ _ _ => rfl
  refine ⟨manyPorts_layout, hreadable, by decide, ?_, ?_⟩
  · rintro ⟨-, h, hout⟩
    have hpin : manyPorts.pins ⟨64, h⟩ = ⟨0, 0, 0, 0⟩ := by simp [manyPorts]
    rw [hpin] at hout
    exact hout (by decide)
  · obtain ⟨r, hrun, henabled⟩ :=
      hm2EnableAllModuleOutputs_spec manyPorts_layout hreadable clearRegisters
    refine ⟨r, hrun, ?_⟩
    -- this direction register is the first source register
    have hones := contents_eq_allOnes_iff.1 (henabled.source 0 (by decide)) 0 (by decide)
    change bitOf r.contents (0x1200, 0) ≠ false
    rw [show bitOf r.contents (0x1200, 0) = true from hones]
    decide

end Runs

end Mesaflash
