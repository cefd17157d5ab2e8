import Mesaflash.CmdLine
import Mesaflash.ModuleOutputs
import Mesaflash.PinNames

/-!
The tables of a board as they are shown.

`hm2_print_pin_file`, `hm2_print_pin_descriptors` and `hm2_print_localio_descriptors` go
through the pins of the board as the numbers in the IDROM say, and look up the names of their
modules and functions.  What they print is modelled as data, without the layout; the general
part of the pin file, which shows fields of the IDROM as they are, is left out.
-/

namespace Mesaflash

open Lib

def anyioMaxIoportConnectors : ℕ := 8
def maxBobNames : ℕ := 42

/-- The fields of `hm2_module_desc_t` that only the pin file shows. -/
structure ModuleCounts where
  version : UInt8
  clockTag : UInt8
  instances : UInt8

/-- The fields of `llio_t` that are shown.  A `bob_hint` is 0 or the number of a daughterboard:
the program sets it to nothing else. -/
structure ShownBoard where
  hm2 : Hostmot2
  moduleCounts : Fin hm2MaxModules → ModuleCounts
  ioportConnectorName : Fin anyioMaxIoportConnectors → Option CStr
  bobHint : Fin anyioMaxIoportConnectors → Fin (maxBobNames + 1)

/-! ### The shown data -/

/-- The secondary function of a pin in the pin file. -/
structure SecondaryText where
  module : CStr
  /-- Nothing for a global channel. -/
  chan : Option UInt8
  function : CStr
  isOutput : Bool

/-- A pin in the pin file. -/
structure PinRow where
  /-- The name on the daughterboard, or a number. -/
  label : CStr ⊕ ℕ
  number : ℕ
  primary : CStr
  secondary : Option SecondaryText

/-- A port in the pin file. -/
structure PortText where
  connector : Option CStr
  daughterboard : Option CStr
  rows : List PinRow

/-- A pin in the pin file in XML. -/
structure XmlPin where
  connector : Option CStr
  module : CStr
  function : Option (CStr × Bool)
  label : CStr ⊕ ℕ

/-- The pin file, in text or in XML. -/
inductive PinFile where
  | text (modules : List (CStr × UInt8)) (ports : List PortText)
  | xml (modules : List (CStr × UInt8)) (pins : List XmlPin)

/-- The secondary function of a pin descriptor. -/
structure SecondaryDescriptor where
  tag : UInt8
  module : CStr
  unit : UInt8
  pin : UInt8
  function : CStr
  isOutput : Bool

/-- A pin descriptor. -/
structure DescriptorText where
  tag : UInt8
  module : CStr
  secondary : Option SecondaryDescriptor

/-! ### hm2_print_pin_file -/

/-- An element of an array. -/
def element {n : ℕ} {α : Type} (array : Fin n → α) (i : ℕ) : Except Fault α :=
  if h : i < n then .ok (array ⟨i, h⟩) else .error (.undefined .outOfBounds)

lemma element_eq {n : ℕ} {α : Type} (array : Fin n → α) {i : ℕ} (h : i < n) :
    element array i = .ok (array ⟨i, h⟩) := dif_pos h

lemma succeeds_element {n : ℕ} {α : Type} {array : Fin n → α} {i : ℕ} :
    Succeeds (element array i) ↔ i < n := by
  constructor
  · intro h
    by_contra hi
    rw [element, dif_neg hi] at h
    exact not_succeeds_error _ h
  · intro h
    rw [element_eq array h]
    exact succeeds_ok _

def db25Pins : List ℕ := [1, 14, 2, 15, 3, 16, 4, 17, 5, 6, 7, 8, 9, 10, 11, 12, 13]

/-- `pin_nr`. -/
def pinNr (portWidth number : ℕ) : ℕ :=
  if portWidth = 17 then db25Pins.getD (number % 17) 0
  else if portWidth = 24 then number % portWidth * 2 + 1
  else if portWidth = 32 then number
  else 0

/-- A row of a table of daughterboards. -/
def bobRow {α : Type} (table : List α) (hint : ℕ) : Except Fault α :=
  match table[hint - 1]? with
  | some row => .ok row
  | none => .error (.undefined .outOfBounds)

/-- The name of the daughterboard of a port. -/
def daughterboard (hint : ℕ) : Except Fault (Option CStr) :=
  if hint ≠ 0 then do
    let name ← bobRow bobNames hint
    pure (some name)
  else pure none

namespace ShownBoard

variable (board : ShownBoard)

/-- The modules up to the first empty descriptor. -/
def modules (xmlFlag : ℤ) : List (CStr × UInt8) :=
  ((List.finRange hm2MaxModules).takeWhile fun i =>
    ¬ ((board.hm2.modules i).gtag = 0 ∧ (board.moduleCounts i).version = 0 ∧
      (board.moduleCounts i).clockTag = 0 ∧ (board.moduleCounts i).instances = 0)).map fun i =>
    (findModuleName (board.hm2.modules i).gtag xmlFlag, (board.moduleCounts i).instances)

/-- The number of a pin of a port. -/
def pinNumber (i j : ℕ) : ℕ := u32 (i * board.hm2.idrom.portWidth + j)

/-- The name of a pin on the daughterboard of its port, or its number. -/
def label (i j : ℕ) : Except Fault (CStr ⊕ ℕ) := do
  let hint ← element board.bobHint i
  if hint ≠ 0 then do
    let names ← bobRow bobPinNames hint
    let name ← tableName names j
    pure (.inl name)
  else pure (.inr (pinNr board.hm2.idrom.portWidth (board.pinNumber i j)))

/-- A line of the pin file. -/
def pinRow (xmlFlag : ℤ) (i j : ℕ) : Except Fault PinRow := do
  let pin ← element board.hm2.pins (board.pinNumber i j)
  let label ← board.label i j
  if pin.secTag = hm2GtagNone then
    pure ⟨label, board.pinNumber i j, findModuleName pin.gtag xmlFlag, none⟩
  else do
    let function ← pinGetPinName pin xmlFlag
    pure ⟨label, board.pinNumber i j, findModuleName pin.gtag xmlFlag,
      some ⟨findModuleName pin.secTag xmlFlag,
        if pin.secChan &&& 0x80 ≠ 0 then none else some pin.secChan, function,
        pin.secPin &&& hm2PinOutput != 0⟩⟩

/-- A port in the pin file. -/
def portText (xmlFlag : ℤ) (i : ℕ) : Except Fault PortText := do
  let hint ← element board.bobHint i
  let connector ← element board.ioportConnectorName i
  let name ← daughterboard hint
  let rows ← (List.range board.hm2.idrom.portWidth).mapM (board.pinRow xmlFlag i)
  pure ⟨connector, name, rows⟩

/-- A pin in the pin file in XML. -/
def xmlPin (xmlFlag : ℤ) (i j : ℕ) : Except Fault XmlPin := do
  let pin ← element board.hm2.pins (board.pinNumber i j)
  let connector ← element board.ioportConnectorName i
  let label ← board.label i j
  if pin.secTag = hm2GtagNone then
    pure ⟨connector, findModuleName pin.secTag xmlFlag, none, label⟩
  else do
    let function ← pinGetPinName pin xmlFlag
    pure ⟨connector, findModuleName pin.secTag xmlFlag,
      some (function, pin.secPin &&& hm2PinOutput != 0), label⟩

end ShownBoard

/-- `hm2_print_pin_file`. -/
def hm2PrintPinFile (board : ShownBoard) (xmlFlag : ℤ) : Except Fault PinFile :=
  if xmlFlag = 0 then do
    let ports ← (List.range board.hm2.idrom.ioPorts).mapM (board.portText xmlFlag)
    pure (.text (board.modules xmlFlag) ports)
  else do
    let pins ← (List.range board.hm2.idrom.ioPorts).mapM fun i =>
      (List.range board.hm2.idrom.portWidth).mapM (board.xmlPin xmlFlag i)
    pure (.xml (board.modules xmlFlag) pins.flatten)

/-! ### The descriptors of the pins -/

/-- The text of a descriptor. -/
def descriptorText (pd : PinDesc) : Except Fault DescriptorText :=
  if pd.secTag ≠ 0 then do
    let function ← pinGetPinName pd 0
    pure ⟨pd.gtag, findModuleName pd.gtag 0,
      some ⟨pd.secTag, findModuleName pd.secTag 0, pd.secChan, pd.secPin, function,
        pd.secPin &&& 0x80 != 0⟩⟩
  else pure ⟨pd.gtag, findModuleName pd.gtag 0, none⟩

/-- `io_ports * port_width`, as a signed number. -/
def Hostmot2.numPins (hm2 : Hostmot2) : ℤ :=
  toInt ((hm2.idrom.ioPorts * hm2.idrom.portWidth : ℕ) : ℤ)

/-- `hm2_print_pin_descriptors`. -/
def hm2PrintPinDescriptors (board : ShownBoard) : Except Fault (List DescriptorText) :=
  (List.range board.hm2.numPins.toNat).mapM fun i => do
    let pd ← element board.hm2.pins i
    descriptorText pd

/-- A pin with a signed index. -/
def Hostmot2.pinAt (hm2 : Hostmot2) (i : ℤ) : Except Fault PinDesc :=
  if i < 0 then .error (.undefined .indexUnderflow) else element hm2.pins i.toNat

/-- A round of `while (pins[i].gtag == HM2_GTAG_LIOPORT)`. -/
def localioRound {α : Type} (hm2 : Hostmot2) (work : PinDesc → α → Except Fault α) (s : ℤ × α) :
    Prog Fault Unit ((ℤ × α) ⊕ α) := do
  let pd ← hm2.pinAt s.1
  if pd.gtag = hm2GtagLioport then do
    let a ← work pd s.2
    pure (.inl (s.1 + 1, a))
  else pure (.inr s.2)

/-- The loop, from pin `i` on. -/
def localioLoop {α : Type} (hm2 : Hostmot2) (work : PinDesc → α → Except Fault α) :
    ℕ → ℤ × α → Prog Fault Unit α :=
  loopM .hang fun _ => localioRound hm2 work

/-- The number of local pins, `lio_number`, in the first loop. -/
def countLocal (_ : PinDesc) (lioNumber : ℕ) : Except Fault ℕ := pure (lioNumber + 1)

/-- The texts of the local pins in the second loop. -/
def showLocal (pd : PinDesc) (texts : List DescriptorText) :
    Except Fault (List DescriptorText) := do
  let text ← descriptorText pd
  pure (texts ++ [text])

/-- `hm2_print_localio_descriptors`. -/
def hm2PrintLocalioDescriptors (board : ShownBoard) (fuel : ℕ) :
    Prog Fault Unit (ℕ × List DescriptorText) := do
  let lioNumber ← localioLoop board.hm2 countLocal fuel (board.hm2.numPins, 0)
  let texts ← localioLoop board.hm2 showLocal fuel (board.hm2.numPins, [])
  pure (lioNumber, texts)

end Mesaflash
