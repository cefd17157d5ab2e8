import Mesaflash.PinFile

/-!
Accesses that the tables of a board drive.

The numbers of ports and pins in the IDROM, the tags and the numbers of the pins, and the
module table are whatever the board returns, and none of them is checked where pins are shown
or registers of all ports are written.  All accesses are inside the arrays exactly when the
tables fit (`accessesInside_iff`).
-/

namespace Mesaflash

open Lib

/-! ### Names of functions -/

/-- A pin that is given a name: the decoding by its secondary tag does not come to a null pointer
or to the place before the first one. -/
def PinDesc.Named (pin : PinDesc) : Prop :=
  pin.secTag ∈ pinNames.map (·.tag) → pin.secTag ∉ foremostTags → pin.decoding = none →
    pin.secTag ∉ [hm2GtagInmux, hm2GtagOutm] → pin.secPin &&& 0x0F ≠ 0 ∧ pin.Spelled

section Names

variable {pin : PinDesc} {e : PinName}

lemma pinNameLoop_of_forall_ne {entries : List PinName} (h : ∀ e ∈ entries, e.tag ≠ pin.secTag) :
    pinNameLoop pin entries = .ok (unknownName pin) := by
  induction entries with
  | nil => rfl
  | cons e entries ih =>
      rw [List.forall_mem_cons] at h
      rw [pinNameLoop, if_neg h.1, ih h.2]

/-- A tag that is in no entry is shown as a number. -/
lemma pinGetPinName_unknown (h : pin.secTag ∉ pinNames.map (·.tag)) (xmlFlag : ℤ) :
    pinGetPinName pin xmlFlag = .ok (unknownName pin) := by
  refine pinNameLoop_of_forall_ne fun e he htag => ?_
  rcases List.mem_append.1 he with he | he
  · rw [← tags_pinTable xmlFlag] at h
    exact h (List.mem_map.2 ⟨e, he, htag⟩)
  · -- the empty entries have the tag of the first one
    obtain rfl := List.eq_of_mem_replicate he
    exact h (htag ▸ List.mem_cons_self)

/-- Where the secondary tag decides, a name is there or an input multiplexer or output module
makes one. -/
lemma succeeds_secondaryName (he : e ∈ pinNames ++ pinNamesXml) (htag : e.tag = pin.secTag) :
    Succeeds (pin.secondaryName e) ↔ (pin.secTag ∉ [hm2GtagInmux, hm2GtagOutm] →
      pin.secPin &&& 0x0F ≠ 0 ∧ pin.Spelled) := by
  by_cases hpin : pin.secPin &&& 0x0F = 0
  · rw [PinDesc.secondaryName, hpin]
    split_ifs with hinmux houtm
    · simp [Succeeds, hinmux]
    · simp [Succeeds, houtm]
    · refine iff_of_false (not_succeeds_error _) fun h => (h ?_).1 rfl
      simp [hinmux, houtm]
  · rw [Succeeds, exists_secondaryName_iff he htag hpin, PinDesc.Spelled]
    simp only [List.mem_cons, List.not_mem_nil, or_false, not_or]
    tauto

/-- With either flag a name is given under the same condition. -/
lemma succeeds_pinGetPinName (xmlFlag : ℤ) : Succeeds (pinGetPinName pin xmlFlag) ↔ pin.Named := by
  by_cases htag : pin.secTag ∈ pinNames.map (·.tag)
  · obtain ⟨e, he, hetag, hget⟩ := exists_entry htag xmlFlag
    rw [hget pin rfl]
    by_cases hfore : pin.secTag ∈ foremostTags
    · obtain ⟨name, hname⟩ := exists_entryName (mem_pinTable he) hfore
      rw [hname, ok_bind]
      exact iff_of_true (succeeds_ok _) fun _ h => absurd hfore h
    · rcases hd : pin.decoding with - | d
      · rw [entryName_of_secondary hfore hd, succeeds_secondaryName (mem_pinTable he) hetag,
          PinDesc.Named]
        simp [htag, hfore, hd]
      · rw [entryName_of_decoding (mem_pinTable he) hfore hd]
        refine iff_of_true (succeeds_ok _) fun _ _ h => ?_
        rw [hd] at h
        cases h
  · rw [pinGetPinName_unknown htag]
    exact iff_of_true (succeeds_ok _) fun h => absurd h htag

end Names

/-! ### The conditions -/

namespace Hostmot2

variable (hm2 : Hostmot2)

/-- The pin has a descriptor, and its secondary function has a name. -/
def Shows (pin : ℕ) : Prop :=
  ∃ h : pin < hm2MaxPins,
    (hm2.pins ⟨pin, h⟩).secTag ≠ hm2GtagNone → (hm2.pins ⟨pin, h⟩).Named

/-- The pin is a local one. -/
def IsLocal (pin : ℕ) : Prop := ∃ h : pin < hm2MaxPins, (hm2.pins ⟨pin, h⟩).gtag = hm2GtagLioport

/-- From the pin on there are local pins with `P`, and then a pin that is not local. -/
def LocalRun (P : ℕ → Prop) (pin : ℕ) : Prop :=
  ∃ stop, pin ≤ stop ∧ stop < hm2MaxPins ∧ ¬ hm2.IsLocal stop ∧
    ∀ i, pin ≤ i → i < stop → hm2.IsLocal i ∧ P i

end Hostmot2

/-- A run ends by an access that is outside of an array, or by a null pointer. -/
def Strays {α : Type} (x : Except Fault α) : Prop :=
  ∃ cause ∈ [Undefined.outOfBounds, .indexUnderflow, .nullPointer, .nullString],
    x = .error (.undefined cause)

/-- The number of names that a daughterboard has for its pins. -/
def bobPins (hint : ℕ) : ℕ := (bobPinNames.getD (hint - 1) []).length

namespace ShownBoard

variable (board : ShownBoard)

/-- The number of pins on all ports. -/
def portPins : ℕ := board.hm2.idrom.ioPorts * board.hm2.idrom.portWidth

/-- The tables of a board whose accesses are all inside. -/
structure TablesFit : Prop where
  ioport : (hm2FindModule board.hm2 hm2GtagIoport).isSome
  ports_le : board.hm2.idrom.ioPorts ≤ anyioMaxIoportConnectors
  shown : ∀ pin < board.portPins, board.hm2.Shows pin
  daughterboards : ∀ i : Fin anyioMaxIoportConnectors, i < board.hm2.idrom.ioPorts →
    board.bobHint i ≠ 0 → board.hm2.idrom.portWidth ≤ bobPins (board.bobHint i)
  localio : board.hm2.LocalRun board.hm2.Shows board.portPins

/-- All accesses of the five functions are inside, and all their loops end. -/
structure AccessesInside {σ : Type} (bus : RegisterBus σ) (s : σ) : Prop where
  pinFile : ∀ xmlFlag, Succeeds (hm2PrintPinFile board xmlFlag)
  pinDescriptors : Succeeds (hm2PrintPinDescriptors board)
  localioDescriptors : ∃ shown, EndsIn .hang (hm2PrintLocalioDescriptors board) () (.ok (shown, ()))
  enableOutputs : ¬ Strays (hm2EnableAllModuleOutputs bus board.hm2 s)
  safeIo : ¬ Strays (hm2SafeIo bus board.hm2 s)

end ShownBoard

/-! ### The lines that show pins -/

section Lines

variable {board : ShownBoard} {i j : ℕ}

lemma bobRow_eq {α : Type} {table : List α} (htable : table.length = maxBobNames)
    {hint : Fin (maxBobNames + 1)} (hhint : hint ≠ 0) :
    ∃ row ∈ table[(hint : ℕ) - 1]?, bobRow table hint = .ok row := by
  have hpos : (hint : ℕ) ≠ 0 := fun h => hhint (Fin.ext h)
  have hlt : (hint : ℕ) - 1 < table.length := by
    have hmax := hint.isLt
    omega
  refine ⟨_, List.getElem?_eq_getElem hlt, ?_⟩
  rw [bobRow, List.getElem?_eq_getElem hlt]

/-- The daughterboard of a port, if there is one, has a name for the pin. -/
def ShownBoard.Labels (board : ShownBoard) (i j : ℕ) : Prop :=
  ∀ h : i < anyioMaxIoportConnectors, (board.bobHint ⟨i, h⟩ : ℕ) ≠ 0 →
    j < bobPins (board.bobHint ⟨i, h⟩)

lemma succeeds_label (hi : i < anyioMaxIoportConnectors) :
    Succeeds (board.label i j) ↔ board.Labels i j := by
  have hlabels : board.Labels i j ↔
      (board.bobHint ⟨i, hi⟩ ≠ 0 → j < bobPins (board.bobHint ⟨i, hi⟩)) :=
    ⟨fun h hhint => h hi (Fin.val_ne_of_ne hhint), fun h _ hhint => h (Fin.ne_of_val_ne hhint)⟩
  rw [hlabels]
  rw [ShownBoard.label, element_eq board.bobHint hi, ok_bind]
  by_cases hhint : board.bobHint ⟨i, hi⟩ = 0
  · rw [if_neg (not_not.2 hhint)]
    exact iff_of_true (succeeds_ok _) fun h => absurd hhint h
  · obtain ⟨names, hnames, hrow⟩ := bobRow_eq (show bobPinNames.length = maxBobNames from rfl) hhint
    have hlength := length_bobPinNames names (List.mem_of_getElem? hnames)
    have hpins : bobPins (board.bobHint ⟨i, hi⟩) = names.length := by
      rw [bobPins, List.getD_eq_getElem?_getD, hnames]
      rfl
    rw [if_pos hhint, hrow, ok_bind, hpins, tableName_natCast hlength]
    by_cases hj : j < names.length
    · rw [if_pos hj]
      exact iff_of_true (succeeds_ok _) fun _ => hj
    · rw [if_neg hj]
      refine iff_of_false ?_ fun h => hj (h hhint)
      split_ifs
      · exact not_succeeds_error _
      · exact not_succeeds_error _

lemma succeeds_bind_pure {α β : Type} {x : Except Fault α} {f : α → β} :
    Succeeds (x >>= fun a => pure (f a)) ↔ Succeeds x := by
  cases x with
  | error fault => exact iff_of_false (not_succeeds_error _) (not_succeeds_error _)
  | ok a => exact iff_of_true (succeeds_ok _) (succeeds_ok _)

/-- What the lines of the pin file have in common: the pin, its label and the name of its
secondary function. -/
lemma succeeds_line {γ : Type} {xmlFlag : ℤ} (hi : i < anyioMaxIoportConnectors)
    {none : PinDesc → CStr ⊕ ℕ → γ} {some : PinDesc → CStr ⊕ ℕ → CStr → γ} :
    Succeeds (do
      let pin ← element board.hm2.pins (board.pinNumber i j)
      let label ← board.label i j
      if pin.secTag = hm2GtagNone then pure (none pin label)
      else do
        let function ← pinGetPinName pin xmlFlag
        pure (some pin label function)) ↔
      board.hm2.Shows (board.pinNumber i j) ∧ board.Labels i j := by
  by_cases hpin : board.pinNumber i j < hm2MaxPins
  · have hshows : board.hm2.Shows (board.pinNumber i j) ↔
        ((board.hm2.pins ⟨_, hpin⟩).secTag ≠ hm2GtagNone → (board.hm2.pins ⟨_, hpin⟩).Named) :=
      ⟨fun ⟨_, h⟩ => h, fun h => ⟨hpin, h⟩⟩
    rw [element_eq board.hm2.pins hpin, ok_bind, hshows, and_comm, ← succeeds_label hi,
      succeeds_bind]
    constructor
    · rintro ⟨label, hlabel, hrest⟩
      refine ⟨⟨label, hlabel⟩, fun htag => ?_⟩
      rw [if_neg htag, succeeds_bind_pure] at hrest
      exact (succeeds_pinGetPinName xmlFlag).1 hrest
    · rintro ⟨⟨label, hlabel⟩, hnamed⟩
      refine ⟨label, hlabel, ?_⟩
      by_cases htag : (board.hm2.pins ⟨_, hpin⟩).secTag = hm2GtagNone
      · rw [if_pos htag]
        exact succeeds_ok _
      · rw [if_neg htag, succeeds_bind_pure]
        exact (succeeds_pinGetPinName xmlFlag).2 (hnamed htag)
  · refine iff_of_false (fun h => ?_) fun h => hpin h.1.1
    obtain ⟨pin, hget, -⟩ := succeeds_bind.1 h
    exact hpin (succeeds_element.1 ⟨pin, hget⟩)

/-- A port has a place in the tables of ports, and its lines are shown. -/
def ShownBoard.PortFits (board : ShownBoard) (i : ℕ) : Prop :=
  i < anyioMaxIoportConnectors ∧ ∀ j < board.hm2.idrom.portWidth,
    board.hm2.Shows (board.pinNumber i j) ∧ board.Labels i j

lemma succeeds_portText (xmlFlag : ℤ) :
    Succeeds (board.portText xmlFlag i) ↔ board.PortFits i := by
  by_cases hi : i < anyioMaxIoportConnectors
  · have hname : Succeeds (daughterboard (board.bobHint ⟨i, hi⟩)) := by
      rw [daughterboard]
      by_cases hhint : board.bobHint ⟨i, hi⟩ = 0
      · rw [hhint]
        exact succeeds_ok _
      · obtain ⟨row, -, hrow⟩ := bobRow_eq (show bobNames.length = maxBobNames from rfl) hhint
        have hpos : (board.bobHint ⟨i, hi⟩ : ℕ) ≠ 0 := fun h => hhint (Fin.ext h)
        rw [if_pos hpos, hrow]
        exact succeeds_ok _
    obtain ⟨name, hname⟩ := hname
    rw [ShownBoard.portText, element_eq board.bobHint hi, ok_bind,
      element_eq board.ioportConnectorName hi, ok_bind, hname, ok_bind, succeeds_bind_pure,
      succeeds_mapM, ShownBoard.PortFits, and_iff_right hi]
    refine forall_congr' fun j => ?_
    rw [List.mem_range]
    exact imp_congr_right fun _ => succeeds_line hi
  · refine iff_of_false (fun h => ?_) fun h => hi h.1
    obtain ⟨hint, hget, -⟩ := succeeds_bind.1 h
    exact hi (succeeds_element.1 ⟨hint, hget⟩)

/-- In XML the lines need the same. -/
lemma succeeds_xmlPin (h : board.PortFits i) (hj : j < board.hm2.idrom.portWidth) (xmlFlag : ℤ) :
    Succeeds (board.xmlPin xmlFlag i j) := by
  obtain ⟨hi, hlines⟩ := h
  obtain ⟨pin, hpin⟩ := succeeds_element.2 (hlines j hj).1.1
  have hline : Succeeds (do
      let pin ← element board.hm2.pins (board.pinNumber i j)
      let label ← board.label i j
      if pin.secTag = hm2GtagNone then
        pure (⟨board.ioportConnectorName ⟨i, hi⟩, findModuleName pin.secTag xmlFlag, none, label⟩ :
          XmlPin)
      else do
        let function ← pinGetPinName pin xmlFlag
        pure ⟨board.ioportConnectorName ⟨i, hi⟩, findModuleName pin.secTag xmlFlag,
          some (function, pin.secPin &&& hm2PinOutput != 0), label⟩) :=
    (succeeds_line hi).2 (hlines j hj)
  rw [ShownBoard.xmlPin, hpin, ok_bind, element_eq board.ioportConnectorName hi, ok_bind]
  rwa [hpin, ok_bind] at hline

/-- The pin file is written exactly when all ports fit; in XML it is where they do. -/
lemma succeeds_pinFile_zero :
    Succeeds (hm2PrintPinFile board 0) ↔ ∀ i < board.hm2.idrom.ioPorts, board.PortFits i := by
  rw [hm2PrintPinFile, if_pos rfl, succeeds_bind_pure, succeeds_mapM]
  refine forall_congr' fun i => ?_
  rw [List.mem_range, succeeds_portText]

lemma succeeds_pinFile (h : ∀ i < board.hm2.idrom.ioPorts, board.PortFits i) (xmlFlag : ℤ) :
    Succeeds (hm2PrintPinFile board xmlFlag) := by
  by_cases hxml : xmlFlag = 0
  · rw [hxml]
    exact succeeds_pinFile_zero.2 h
  · rw [hm2PrintPinFile, if_neg hxml, succeeds_bind_pure, succeeds_mapM]
    intro i hi
    rw [succeeds_mapM]
    intro j hj
    exact succeeds_xmlPin (h i (List.mem_range.1 hi)) (List.mem_range.1 hj) xmlFlag

lemma succeeds_descriptorText {pd : PinDesc} :
    Succeeds (descriptorText pd) ↔ (pd.secTag ≠ hm2GtagNone → pd.Named) := by
  rw [descriptorText, show hm2GtagNone = 0 from rfl]
  by_cases htag : pd.secTag = 0
  · rw [if_neg (not_not.2 htag)]
    exact iff_of_true (succeeds_ok _) fun h => absurd htag h
  · rw [if_pos htag, succeeds_bind_pure, succeeds_pinGetPinName]
    exact ⟨fun h _ => h, fun h => h htag⟩

lemma succeeds_pinDescriptors : Succeeds (hm2PrintPinDescriptors board) ↔
    ∀ pin < board.hm2.numPins.toNat, board.hm2.Shows pin := by
  rw [hm2PrintPinDescriptors, succeeds_mapM]
  refine forall_congr' fun pin => ?_
  rw [List.mem_range]
  refine imp_congr_right fun _ => ?_
  by_cases hpin : pin < hm2MaxPins
  · rw [element_eq board.hm2.pins hpin, ok_bind, succeeds_descriptorText]
    exact ⟨fun h => ⟨hpin, h⟩, fun ⟨_, h⟩ => h⟩
  · refine iff_of_false (fun h => ?_) fun h => hpin h.1
    obtain ⟨pd, hget, -⟩ := succeeds_bind.1 h
    exact hpin (succeeds_element.1 ⟨pd, hget⟩)

end Lines

/-! ### The ports -/

section Ports

variable {board : ShownBoard}

/-- Every pin that is shown has a descriptor. -/
lemma portPins_le (h : ∀ pin < board.portPins, board.hm2.Shows pin) :
    board.portPins ≤ hm2MaxPins := by
  by_contra hlt
  exact absurd (h hm2MaxPins (Nat.lt_of_not_le hlt)).1 (Nat.lt_irrefl _)

lemma numPins_toNat (h : board.portPins ≤ hm2MaxPins) :
    board.hm2.numPins = (board.portPins : ℤ) := by
  have hmax : hm2MaxPins = 144 := rfl
  rw [Hostmot2.numPins, ← ShownBoard.portPins, toInt, Int.bmod_eq_of_le (by omega) (by omega)]

/-- A pin of a port is one of all pins, and its number is too small to wrap around. -/
lemma pinNumber_eq (h : board.portPins ≤ hm2MaxPins) {i j : ℕ} (hi : i < board.hm2.idrom.ioPorts)
    (hj : j < board.hm2.idrom.portWidth) :
    board.pinNumber i j = i * board.hm2.idrom.portWidth + j ∧
      i * board.hm2.idrom.portWidth + j < board.portPins := by
  have hmax : hm2MaxPins = 144 := rfl
  have hpin : i * board.hm2.idrom.portWidth + j < board.portPins :=
    calc i * board.hm2.idrom.portWidth + j
        < i * board.hm2.idrom.portWidth + board.hm2.idrom.portWidth := by omega
      _ = (i + 1) * board.hm2.idrom.portWidth := (Nat.succ_mul _ _).symm
      _ ≤ board.portPins := Nat.mul_le_mul_right _ hi
  exact ⟨u32_of_lt (by omega), hpin⟩

section Fits

variable (h : ∀ i < board.hm2.idrom.ioPorts, board.PortFits i)

include h

lemma ports_le_of_portFits : board.hm2.idrom.ioPorts ≤ anyioMaxIoportConnectors := by
  by_contra hlt
  exact absurd (h _ (Nat.lt_of_not_le hlt)).1 (Nat.lt_irrefl _)

/-- There are no more pins than descriptors on a port. -/
lemma portWidth_le_of_portFits (hfirst : 0 < board.hm2.idrom.ioPorts) :
    board.hm2.idrom.portWidth ≤ hm2MaxPins := by
  by_contra hlt
  have hshows := ((h 0 hfirst).2 hm2MaxPins (Nat.lt_of_not_le hlt)).1
  rw [ShownBoard.pinNumber, Nat.zero_mul, Nat.zero_add] at hshows
  exact absurd hshows.1 (by decide)

/-- A pin is one of its port. -/
lemma shows_of_portFits {pin : ℕ} (hpin : pin < board.portPins) : board.hm2.Shows pin := by
  have hpos : 0 < board.portPins := Nat.zero_lt_of_lt hpin
  have hfirst : 0 < board.hm2.idrom.ioPorts := Nat.pos_of_mul_pos_right hpos
  have hwidth : 0 < board.hm2.idrom.portWidth := Nat.pos_of_mul_pos_left hpos
  have hport : pin / board.hm2.idrom.portWidth < board.hm2.idrom.ioPorts :=
    Nat.div_lt_of_lt_mul (Nat.mul_comm _ _ ▸ hpin)
  have hshows := ((h _ hport).2 _ (Nat.mod_lt pin hwidth)).1
  -- eight ports of 144 pins are too few for a number to wrap around
  have hbound : pin < 8 * 144 :=
    hpin.trans_le (Nat.mul_le_mul (ports_le_of_portFits h) (portWidth_le_of_portFits h hfirst))
  rwa [ShownBoard.pinNumber, Nat.mul_comm, Nat.div_add_mod,
    u32_of_lt (hbound.trans (by decide))] at hshows

lemma bobPins_of_portFits {i : Fin anyioMaxIoportConnectors} (hi : i < board.hm2.idrom.ioPorts)
    (hhint : board.bobHint i ≠ 0) : board.hm2.idrom.portWidth ≤ bobPins (board.bobHint i) := by
  by_contra hlt
  have hj : board.hm2.idrom.portWidth - 1 < board.hm2.idrom.portWidth := by omega
  have hlabel := ((h i hi).2 _ hj).2 i.isLt (Fin.val_ne_of_ne hhint)
  rw [Fin.eta] at hlabel
  omega

end Fits

/-- All ports fit exactly when there are places for them, all pins are shown, and the
daughterboards have names for the pins. -/
lemma portFits_iff : (∀ i < board.hm2.idrom.ioPorts, board.PortFits i) ↔
    board.hm2.idrom.ioPorts ≤ anyioMaxIoportConnectors ∧
      (∀ pin < board.portPins, board.hm2.Shows pin) ∧
      ∀ i : Fin anyioMaxIoportConnectors, i < board.hm2.idrom.ioPorts →
        board.bobHint i ≠ 0 → board.hm2.idrom.portWidth ≤ bobPins (board.bobHint i) := by
  constructor
  · intro h
    exact ⟨ports_le_of_portFits h, fun _ => shows_of_portFits h, fun _ => bobPins_of_portFits h⟩
  · rintro ⟨hports, hshown, hbobs⟩ i hi
    refine ⟨hi.trans_le hports, fun j hj => ⟨?_, fun hlt hhint => ?_⟩⟩
    · obtain ⟨hnumber, hpin⟩ := pinNumber_eq (portPins_le hshown) hi hj
      exact hnumber ▸ hshown _ hpin
    · exact hj.trans_le (hbobs ⟨i, hlt⟩ hi (Fin.ne_of_val_ne hhint))

end Ports

/-! ### The loops over local pins -/

section Local

variable {hm2 : Hostmot2} {α : Type} {W : PinDesc → Prop}

/-- The pin has a descriptor with `W`. -/
def Hostmot2.Holds (hm2 : Hostmot2) (W : PinDesc → Prop) (pin : ℕ) : Prop :=
  ∃ h : pin < hm2MaxPins, W (hm2.pins ⟨pin, h⟩)

lemma pinAt_natCast (i : ℕ) : hm2.pinAt i = element hm2.pins i := by
  rw [Hostmot2.pinAt, if_neg (by omega), Int.toNat_natCast]

/-- A run of local pins is its first pin and the run behind it. -/
lemma localRun_succ {P : ℕ → Prop} {i : ℕ} (hi : hm2.IsLocal i) :
    hm2.LocalRun P i ↔ P i ∧ hm2.LocalRun P (i + 1) := by
  constructor
  · rintro ⟨stop, hle, hlt, hstop, hbetween⟩
    have hne : i ≠ stop := fun h => hstop (h ▸ hi)
    exact ⟨(hbetween i le_rfl (by omega)).2, stop, by omega, hlt, hstop,
      fun k hk => hbetween k (by omega)⟩
  · rintro ⟨hP, stop, hle, hlt, hstop, hbetween⟩
    refine ⟨stop, by omega, hlt, hstop, fun k hk hks => ?_⟩
    rcases Nat.eq_or_lt_of_le hk with rfl | hik
    · exact ⟨hi, hP⟩
    · exact hbetween k hik hks

variable (hm2) (work : PinDesc → α → Except Fault α)

lemma localioRound_outside {i : ℕ} (hi : ¬ i < hm2MaxPins) (a : α) :
    localioRound hm2 work ((i : ℤ), a) () = .error (.undefined .outOfBounds) := by
  rw [localioRound, pinAt_natCast, element, dif_neg hi]
  rfl

/-- A round with a pin that has a descriptor. -/
lemma localioRound_eq {i : ℕ} (hi : i < hm2MaxPins) (a : α) :
    localioRound hm2 work ((i : ℤ), a) () =
      if (hm2.pins ⟨i, hi⟩).gtag = hm2GtagLioport then
        work (hm2.pins ⟨i, hi⟩) a >>= fun a' => .ok (.inl (((i + 1 : ℕ) : ℤ), a'), ())
      else .ok (.inr a, ()) := by
  rw [localioRound, pinAt_natCast, element_eq hm2.pins hi]
  change (if _ then _ else _ : Prog Fault Unit ((ℤ × α) ⊕ α)) () = _
  by_cases hlocal : (hm2.pins ⟨i, hi⟩).gtag = hm2GtagLioport
  · rw [if_pos hlocal, if_pos hlocal]
    cases work (hm2.pins ⟨i, hi⟩) a with
    | error fault => rfl
    | ok a' => rfl
  · rw [if_neg hlocal, if_neg hlocal]
    rfl

/-- How the loop ends from a pin on: behind a run of local pins whose work succeeds, and
otherwise by a fault. -/
structure LocalioEnds (W : PinDesc → Prop) (i : ℕ) (a : α) : Prop where
  ok : hm2.LocalRun (hm2.Holds W) i → ∃ b,
    EndsIn .hang (fun fuel => localioLoop hm2 work fuel ((i : ℤ), a)) () (.ok (b, ()))
  fault : ¬ hm2.LocalRun (hm2.Holds W) i → ∃ fault,
    EndsIn .hang (fun fuel => localioLoop hm2 work fuel ((i : ℤ), a)) () (.error fault)

variable {hm2 work}

/-- Behind the last descriptor there is none to look at. -/
lemma LocalioEnds.outside {i : ℕ} (hi : ¬ i < hm2MaxPins) (a : α) :
    LocalioEnds hm2 work W i a where
  ok h := by
    obtain ⟨stop, hle, hlt, -⟩ := h
    exact absurd (hle.trans_lt hlt) hi
  fault _ := by
    have hend : EndsIn .hang (fun _ => localioRound hm2 work ((i : ℤ), a)) ()
        (.error (.undefined .outOfBounds)) :=
      localioRound_outside hm2 work hi a ▸ endsIn_const _ _
    exact ⟨_, loopM_error hend⟩

/-- The first pin that is not local ends the loop. -/
lemma LocalioEnds.stop {i : ℕ} (hi : i < hm2MaxPins)
    (hlocal : (hm2.pins ⟨i, hi⟩).gtag ≠ hm2GtagLioport) (a : α) : LocalioEnds hm2 work W i a := by
  have hround := localioRound_eq hm2 work hi a
  rw [if_neg hlocal] at hround
  have hrun : hm2.LocalRun (hm2.Holds W) i := by
    refine ⟨i, le_rfl, hi, ?_, fun k hk hki => absurd hk (Nat.not_le.2 hki)⟩
    rintro ⟨_, h⟩
    exact hlocal h
  exact ⟨fun _ => ⟨a, loopM_break (hround ▸ endsIn_const _ _)⟩, fun h => absurd hrun h⟩

/-- A local pin: the work fails, or the loop goes on with the next pin. -/
lemma LocalioEnds.next (hwork : ∀ pd a, Succeeds (work pd a) ↔ W pd) {i : ℕ} (hi : i < hm2MaxPins)
    (hlocal : (hm2.pins ⟨i, hi⟩).gtag = hm2GtagLioport) {a : α}
    (hrest : ∀ a', LocalioEnds hm2 work W (i + 1) a') : LocalioEnds hm2 work W i a := by
  have hround := localioRound_eq hm2 work hi a
  rw [if_pos hlocal] at hround
  have hsucc := localRun_succ (P := hm2.Holds W) ⟨hi, hlocal⟩
  rcases hresult : work (hm2.pins ⟨i, hi⟩) a with fault | a'
  · have hW : ¬ W (hm2.pins ⟨i, hi⟩) := by
      rw [← hwork _ a, hresult]
      exact not_succeeds_error fault
    rw [hresult, error_bind] at hround
    exact ⟨fun h => absurd (hsucc.1 h).1.2 hW,
      fun _ => ⟨fault, loopM_error (hround ▸ endsIn_const _ _)⟩⟩
  · have hW : W (hm2.pins ⟨i, hi⟩) := (hwork _ a).1 ⟨a', hresult⟩
    rw [hresult, ok_bind] at hround
    have hnext : EndsIn .hang (fun _ => localioRound hm2 work ((i : ℤ), a)) ()
        (.ok (.inl (((i + 1 : ℕ) : ℤ), a'), ())) := hround ▸ endsIn_const _ _
    refine ⟨fun h => ?_, fun h => ?_⟩
    · obtain ⟨b, hb⟩ := (hrest a').ok (hsucc.1 h).2
      exact ⟨b, loopM_next hnext hb⟩
    · obtain ⟨fault, hfault⟩ := (hrest a').fault fun hrun => h (hsucc.2 ⟨⟨hi, hW⟩, hrun⟩)
      exact ⟨fault, loopM_next hnext hfault⟩

/-- The loop, by induction on the number of descriptors that are left. -/
lemma localioLoop_ends (hwork : ∀ pd a, Succeeds (work pd a) ↔ W pd) (i : ℕ) (a : α) :
    LocalioEnds hm2 work W i a := by
  induction hn : hm2MaxPins - i generalizing i a with
  | zero => exact .outside (by omega) a
  | succ n ih =>
      have hi : i < hm2MaxPins := by omega
      by_cases hlocal : (hm2.pins ⟨i, hi⟩).gtag = hm2GtagLioport
      · exact .next hwork hi hlocal fun a' => ih (i + 1) a' (by omega)
      · exact .stop hi hlocal a

end Local

section LocalDescriptors

variable {board : ShownBoard}

/-- A run of local pins with more that is wanted of them is one with less. -/
lemma Hostmot2.LocalRun.mono {hm2 : Hostmot2} {P P' : ℕ → Prop} {i : ℕ} (h : hm2.LocalRun P i)
    (hP : ∀ k, P k → P' k) : hm2.LocalRun P' i := by
  obtain ⟨stop, hle, hlt, hstop, hbetween⟩ := h
  exact ⟨stop, hle, hlt, hstop, fun k hk hks => (hbetween k hk hks).imp_right (hP k)⟩

lemma succeeds_showLocal (pd : PinDesc) (texts : List DescriptorText) :
    Succeeds (showLocal pd texts) ↔ (pd.secTag ≠ hm2GtagNone → pd.Named) := by
  rw [showLocal, succeeds_bind_pure, succeeds_descriptorText]

/-- The local pins are shown exactly where there is a run of local pins that can be shown. -/
lemma localioDescriptors_iff (h : board.portPins ≤ hm2MaxPins) :
    (∃ shown, EndsIn .hang (hm2PrintLocalioDescriptors board) () (.ok (shown, ()))) ↔
      board.hm2.LocalRun board.hm2.Shows board.portPins := by
  have hcount : LocalioEnds board.hm2 countLocal (fun _ => True) board.portPins 0 :=
    localioLoop_ends (fun _ _ => iff_of_true (succeeds_ok _) trivial) _ _
  have hshow : LocalioEnds board.hm2 showLocal (fun pd => pd.secTag ≠ hm2GtagNone → pd.Named)
      board.portPins [] := localioLoop_ends succeeds_showLocal _ _
  have hpins := numPins_toNat h
  constructor
  · rintro ⟨shown, hshown⟩
    by_contra hrun
    -- the second loop fails, if the first one does not
    obtain ⟨fault, hfault⟩ := hshow.fault hrun
    rw [← hpins] at hfault
    have herror : ∃ fault, EndsIn .hang (hm2PrintLocalioDescriptors board) () (.error fault) := by
      by_cases hcounts : board.hm2.LocalRun (board.hm2.Holds fun _ => True) board.portPins
      · obtain ⟨n, hn⟩ := hcount.ok hcounts
        rw [← hpins] at hn
        exact ⟨fault, hn.bind hfault.bind_error⟩
      · obtain ⟨fault, hfault⟩ := hcount.fault hcounts
        rw [← hpins] at hfault
        exact ⟨fault, hfault.bind_error⟩
    obtain ⟨fault, hfault⟩ := herror
    cases hshown.unique hfault
  · intro hrun
    obtain ⟨n, hn⟩ := hcount.ok (hrun.mono fun k hk => ⟨hk.1, trivial⟩)
    obtain ⟨texts, htexts⟩ := hshow.ok hrun
    rw [← hpins] at hn htexts
    exact ⟨(n, texts), hn.bind (htexts.bind (endsIn_const (pure (n, texts)) ()))⟩

end LocalDescriptors

/-! ### The registers of all ports -/

section Registers

variable {σ : Type} {bus : RegisterBus σ} {hm2 : Hostmot2}

/-- A run that returns, or fails at a shift. -/
abbrev Steady {α : Type} (x : Except Fault α) : Prop :=
  Yields (fun _ => True) (· = .undefined .oversizedShift) x

lemma Strays.not_steady {α : Type} {x : Except Fault α} (h : Strays x) : ¬ Steady x := by
  intro hsteady
  obtain ⟨cause, hcause, hx⟩ := h
  obtain rfl : cause = .oversizedShift := by simpa using hsteady.of_eq_error hx
  simp at hcause

lemma steady_bind {α β : Type} {p : Prog Fault σ α} {q : α → Prog Fault σ β} {s : σ}
    (hp : Steady (p s)) (hq : ∀ a t, Steady (q a t)) : Steady ((p >>= q) s) := by
  rw [prog_bind]
  exact hp.bind fun x _ => hq x.1 x.2

lemma steady_forM {α : Type} {f : α → Prog Fault σ PUnit} {l : List α}
    (h : ∀ a ∈ l, ∀ s, Steady (f a s)) : ∀ s, Steady (l.forM f s) := by
  induction l with
  | nil => exact fun s => .ok trivial
  | cons a l ih =>
      intro s
      rw [List.forall_mem_cons] at h
      exact steady_bind (h.1 s) fun _ => ih h.2

lemma steady_pure {α : Type} (a : α) (s : σ) : Steady ((pure a : Prog Fault σ α) s) := .ok trivial

lemma steady_busRead (addr : ℕ) (s : σ) : Steady (busRead bus addr s) := .ok trivial

lemma steady_busWrite (addr value : ℕ) (s : σ) : Steady (busWrite bus addr value s) := .ok trivial

lemma steady_shiftedOne (k : ℕ) (s : σ) : Steady (shiftedOne k s) := by
  rw [shiftedOne]
  split
  · exact steady_pure _ s
  · exact .error rfl

/-- A pin is set without an access to a table, whatever its number. -/
lemma steady_setPin (bank : PinBank) (pin : ℕ) (value : UInt8) (s : σ) :
    Steady (setPin bus hm2 bank pin value s) := by
  rw [setPin]
  cases hm2FindModule hm2 hm2GtagIoport with
  | none => exact steady_pure _ s
  | some md =>
      dsimp only
      split_ifs
      · exact steady_pure _ s
      · refine steady_bind (steady_busRead _ s) fun data t => ?_
        exact steady_bind (steady_shiftedOne _ t) fun bit t' => steady_busWrite _ _ t'
      · refine steady_bind (steady_busRead _ s) fun data t => ?_
        exact steady_bind (steady_shiftedOne _ t) fun bit t' => steady_busWrite _ _ t'
      · exact steady_bind (steady_busRead _ s) fun data t => steady_pure _ t

lemma steady_enableModuleOutput {pin : ℕ} (h : pin < hm2MaxPins) (s : σ) :
    Steady (enableModuleOutput bus hm2 pin s) := by
  refine steady_bind (by rw [elementOf_eq h]; exact .ok trivial) fun pd t => ?_
  split_ifs
  · exact steady_setPin _ _ _ t
  · exact steady_pure _ t

/-- The outputs are enabled where there is a module for them and the pins are in the table. -/
lemma steady_enableOutputs (hio : (hm2FindModule hm2 hm2GtagIoport).isSome)
    (hpins : hm2.numPins ≤ hm2MaxPins) (s : σ) :
    Steady (hm2EnableAllModuleOutputs bus hm2 s) := by
  obtain ⟨md, hmd⟩ := Option.isSome_iff_exists.1 hio
  rw [hm2EnableAllModuleOutputs, hmd]
  refine steady_bind (steady_pure md s) fun md t => steady_bind ?_ fun _ t' => ?_
  · exact steady_forM (fun i _ s => steady_busWrite _ _ s) t
  · refine steady_forM (fun pin hpin s => steady_enableModuleOutput ?_ s) t'
    rw [List.mem_range, ← Hostmot2.numPins] at hpin
    omega

lemma steady_safeIo (hio : (hm2FindModule hm2 hm2GtagIoport).isSome) (s : σ) :
    Steady (hm2SafeIo bus hm2 s) := by
  obtain ⟨md, hmd⟩ := Option.isSome_iff_exists.1 hio
  rw [hm2SafeIo, hmd]
  refine steady_bind (steady_pure md s) fun md t => steady_forM (fun i _ s => ?_) t
  exact steady_bind (steady_busWrite _ _ s) fun _ t' => steady_busWrite _ _ t'

/-- Without the module a null pointer is used. -/
lemma strays_safeIo (hio : hm2FindModule hm2 hm2GtagIoport = none) (s : σ) :
    Strays (hm2SafeIo bus hm2 s) := by
  rw [hm2SafeIo, hio]
  exact ⟨.nullPointer, by simp, rfl⟩

end Registers

/-! ### All accesses -/

section Accesses

variable {σ : Type} {board : ShownBoard}

lemma tablesFit_of_accessesInside {bus : RegisterBus σ} {s : σ} (h : board.AccessesInside bus s) :
    board.TablesFit := by
  obtain ⟨hports, hshown, hbobs⟩ := portFits_iff.1 (succeeds_pinFile_zero.1 (h.pinFile 0))
  refine ⟨?_, hports, hshown, hbobs, ?_⟩
  · by_contra hio
    exact h.safeIo (strays_safeIo (Option.not_isSome_iff_eq_none.1 hio) s)
  · exact (localioDescriptors_iff (portPins_le hshown)).1 h.localioDescriptors

lemma accessesInside_of_tablesFit (h : board.TablesFit) (bus : RegisterBus σ) (s : σ) :
    board.AccessesInside bus s := by
  have hle := portPins_le h.shown
  have hpins := numPins_toNat hle
  have hfits := portFits_iff.2 ⟨h.ports_le, h.shown, h.daughterboards⟩
  refine ⟨succeeds_pinFile hfits, ?_, (localioDescriptors_iff hle).2 h.localio, ?_, ?_⟩
  · refine succeeds_pinDescriptors.2 fun pin hpin => h.shown pin ?_
    rwa [hpins, Int.toNat_natCast] at hpin
  · exact fun hstrays => hstrays.not_steady (steady_enableOutputs h.ioport (by omega) s)
  · exact fun hstrays => hstrays.not_steady (steady_safeIo h.ioport s)

/-- **Accesses that the tables drive.**  All accesses are inside and all loops end exactly when
the tables fit. -/
theorem accessesInside_iff (bus : RegisterBus σ) (s : σ) :
    board.AccessesInside bus s ↔ board.TablesFit :=
  ⟨tablesFit_of_accessesInside, fun h => accessesInside_of_tablesFit h bus s⟩

/-- A board on whose pins there is nothing but inputs and outputs of the ports. -/
def plainBoard (ioPorts portWidth : ℕ)
    (bobHint : Fin anyioMaxIoportConnectors → Fin (maxBobNames + 1)) : ShownBoard where
  hm2 :=
    { idrom := ⟨ioPorts, portWidth, portWidth, 0x4, 0x40⟩
      modules := fun _ => ⟨hm2GtagIoport, 0x1000, 0⟩
      pins := fun _ => ⟨0, hm2GtagNone, 0, hm2GtagIoport⟩ }
  moduleCounts := fun _ => ⟨0, 1, 2⟩
  ioportConnectorName := fun _ => some (ascii "P1")
  bobHint := bobHint

/-- The tables of a board with three ports of 24 pins fit. -/
example : (plainBoard 3 24 fun _ => 0).TablesFit where
  ioport := rfl
  ports_le := by decide
  shown := fun pin hpin => ⟨hpin.trans (by decide), fun h => absurd rfl h⟩
  daughterboards := fun _ _ h => absurd rfl h
  localio := by
    have hgtag : hm2GtagIoport ≠ hm2GtagLioport := by decide
    refine ⟨72, le_rfl, by decide, ?_, fun k hk hlt => absurd hk (Nat.not_le.2 hlt)⟩
    rintro ⟨hpin, hlocal⟩
    exact hgtag hlocal

/-- The first port of the 7C80. -/
def firstPort : Fin anyioMaxIoportConnectors := ⟨0, by decide⟩

/-- The board 7C80 has 27 pins on its first port, and the table has 26 names for them. -/
theorem board7c80_strays :
    ¬ (plainBoard 2 27 fun i => if i = firstPort then 13 else 14).AccessesInside
      (⟨fun _ s => (0, s), fun _ _ s => s⟩ : RegisterBus Unit) () := by
  intro h
  have hnames := (tablesFit_of_accessesInside h).daughterboards firstPort (by decide) (by decide)
  exact absurd hnames (by decide)

end Accesses

end Mesaflash
