import Mesaflash.Registry
import Mathlib.Data.Nat.Bitwise

/-!
The board that a command works on.

`anyio_find_dev` looks for the first supported name that the wanted name begins with, and
`anyio_get_dev` for a board with exactly the wanted name.  The names ETHER, SPI and AUTO stand
for every board.  So does a longer name that begins with one of them.
-/

namespace Mesaflash

open Lib

/-- A board that `anyio_get_dev` counts. -/
def Counts (name : CStr) (openIface : ℕ) (b : BoardEntry) : Prop :=
  (name.isPrefixOf b.llio.boardName ∧ name.length = b.llio.boardName.length) ∨
    openIface &&& boardWildcard ≠ 0

instance (name : CStr) (openIface : ℕ) : DecidablePred (Counts name openIface) :=
  fun _ => inferInstanceAs (Decidable (_ ∨ _))

/-- The loop of `anyio_get_dev`. -/
def getDevLoop (name : CStr) (openIface : ℕ) (boardNumber : ℤ) :
    List BoardEntry → ℤ → Option BoardEntry
  | [], _ => none
  | b :: boards, j =>
    if Counts name openIface b then
      if j + 1 = boardNumber then some b
      else getDevLoop name openIface boardNumber boards (j + 1)
    else getDevLoop name openIface boardNumber boards j

/-- `anyio_get_dev`. -/
def anyioGetDev (access : BoardAccess) (r : Registry) (boardNumber : ℤ) : Option BoardEntry :=
  getDevLoop access.deviceName r.openIface boardNumber r.boards 0

/-- The names that stand for every board. -/
def wildcardNames : List CStr := [ascii "ETHER", ascii "SPI", ascii "AUTO"]

/-- A board that the wanted name means. -/
def Meant (name : CStr) (b : BoardEntry) : Prop :=
  b.llio.boardName = name ∨ name ∈ wildcardNames

instance (name : CStr) : DecidablePred (Meant name) :=
  fun _ => inferInstanceAs (Decidable (_ ∨ _))

/-- Whatever is found for the name, the board that is selected is the one of the given number
among the boards that the name means. -/
def SelectsMeant (name : CStr) : Prop :=
  ∀ access devices r ret r' boardNumber b, access.deviceName = name →
    anyioFindDev access devices r = .ok (ret, r') → 0 ≤ ret →
    anyioGetDev access r' boardNumber = some b →
    Meant name b ∧ 1 ≤ boardNumber ∧
      (r'.boards.filter (Meant name))[boardNumber.toNat - 1]? = some b

/-! ### The loop over the boards -/

section Loop

variable {name : CStr} {openIface : ℕ}

lemma counts_iff {b : BoardEntry} :
    Counts name openIface b ↔ b.llio.boardName = name ∨ openIface &&& boardWildcard ≠ 0 := by
  rw [Counts, List.isPrefixOf_iff_prefix]
  refine or_congr_left ⟨fun h => (h.1.eq_of_length h.2).symm, fun h => ?_⟩
  rw [h]
  exact ⟨List.prefix_rfl, rfl⟩

/-- The loop goes through the boards that count, with `j` of them behind it. -/
lemma getDevLoop_eq_some {boards : List BoardEntry} {j boardNumber : ℤ} {b : BoardEntry}
    (h : getDevLoop name openIface boardNumber boards j = some b) :
    j < boardNumber ∧
      (boards.filter (Counts name openIface))[(boardNumber - j - 1).toNat]? = some b := by
  induction boards generalizing j with
  | nil => cases h
  | cons first boards ih =>
    rw [getDevLoop] at h
    by_cases hcount : Counts name openIface first
    · rw [if_pos hcount] at h
      rw [List.filter_cons_of_pos (by simpa using hcount)]
      by_cases hj : j + 1 = boardNumber
      · rw [if_pos hj] at h
        rw [show (boardNumber - j - 1).toNat = 0 by omega]
        exact ⟨by omega, h⟩
      · rw [if_neg hj] at h
        obtain ⟨hlt, hget⟩ := ih h
        rw [show (boardNumber - j - 1).toNat = (boardNumber - (j + 1) - 1).toNat + 1 by omega]
        exact ⟨by omega, hget⟩
    · rw [if_neg hcount] at h
      rw [List.filter_cons_of_neg (by simpa using hcount)]
      exact ih h

end Loop

/-! ### The wildcard -/

/-- A supported name is a wildcard if and only if it is one of the three, and no other
supported name begins with one of them. -/
lemma supportedBoards_wildcard : ∀ row ∈ supportedBoards,
    (row.2 &&& boardWildcard ≠ 0 ↔ ascii row.1 ∈ wildcardNames) ∧
    ∀ w ∈ wildcardNames, (ascii row.1).isPrefixOf w ∨ w.isPrefixOf (ascii row.1) →
      ascii row.1 = w := by
  decide

/-- Every wildcard is a supported name. -/
lemma wildcardNames_supported : ∀ w ∈ wildcardNames, ∃ row ∈ supportedBoards, ascii row.1 = w := by
  decide

/-- The name that is looked up has the wildcard if it begins with one of the three. -/
lemma supportedBoard_wildcard {name : CStr} {row : String × ℕ}
    (h : supportedBoard name = some row) :
    row.2 &&& boardWildcard ≠ 0 ↔ ∃ w ∈ wildcardNames, w <+: name := by
  have hmem : row ∈ supportedBoards := List.mem_of_find?_eq_some h
  have hstarts : ascii row.1 <+: name := by
    rw [supportedBoard] at h
    have := List.find?_some h
    rwa [List.isPrefixOf_iff_prefix] at this
  rw [(supportedBoards_wildcard row hmem).1]
  constructor
  · intro hrow
    exact ⟨_, hrow, hstarts⟩
  · rintro ⟨w, hw, hwname⟩
    -- two names that the wanted name begins with begin with one another
    have hor : (ascii row.1).isPrefixOf w ∨ w.isPrefixOf (ascii row.1) := by
      rw [List.isPrefixOf_iff_prefix, List.isPrefixOf_iff_prefix]
      exact List.prefix_or_prefix_of_prefix hstarts hwname
    rwa [(supportedBoards_wildcard row hmem).2 w hw hor]

/-- The wildcard of a registry, which is 0 when there is none. -/
def Registry.wildcard (r : Registry) : ℕ := r.openIface &&& boardWildcard

lemma or_wildcard {x bit : ℕ} (hbit : bit &&& boardWildcard = 0) :
    (x ||| bit) &&& boardWildcard = x &&& boardWildcard := by
  rw [Nat.and_or_distrib_right, hbit, Nat.or_zero]

/-- A part of `anyio_find_dev` that leaves the wildcard at `w`, and that returns early only
when it fails. -/
abbrev FindsWildcard (w : ℕ) (x : Finds) : Prop :=
  Yields (fun r => r.wildcard = w) (Returns fun s => s.1 < 0) x

section Scans

variable {access : BoardAccess} {devices : Devices} {r : Registry} {w : ℕ} (h : r.wildcard = w)

include h

lemma scanIf_wildcard {type bit : ℕ} (hbit : bit &&& boardWildcard = 0)
    (scan : List BoardEntry → Except Fault (List BoardEntry)) :
    FindsWildcard w (scanIf type bit scan r) :=
  .ite (fun _ => .bind (yields_call (yields_true _)) fun _ _ => .ok ((or_wildcard hbit).trans h))
    fun _ => .ok h

lemma initScanIf_wildcard {ready : Bool} {type bit : ℕ} (hbit : bit &&& boardWildcard = 0)
    (scan : List BoardEntry → Except Fault (List BoardEntry)) :
    FindsWildcard w (initScanIf ready type bit scan r) :=
  .bind (yields_exitIf fun _ => (Int.negSucc_lt_zero 0)) fun _ _ => scanIf_wildcard h hbit scan

lemma ethScanIf_wildcard (type : ℕ) (named : Bool) :
    FindsWildcard w (ethScanIf access devices type named r) := by
  refine .ite (fun _ => .bind (yields_call (yields_true _)) ?_) fun _ => .ok h
  rintro ⟨ret, boards⟩ -
  exact .bind (yields_exitIf fun hret => hret.2) fun _ _ => .ok ((or_wildcard rfl).trans h)

/-- The scans of the interfaces. -/
lemma scanTypes_wildcard (type : ℕ) (named : Bool) :
    FindsWildcard w (scanTypes access devices type named r) :=
  .bind (ethScanIf_wildcard h type named) fun _ h =>
    .bind (initScanIf_wildcard h rfl _) fun _ h =>
    .bind (initScanIf_wildcard h rfl _) fun _ h =>
    .bind (scanIf_wildcard h rfl _) fun _ h =>
    .bind (scanIf_wildcard h rfl _) fun _ h =>
    scanIf_wildcard h rfl _

end Scans

/-- A search that succeeds has looked up a supported name, and the wildcard is that of this
name. -/
lemma anyioFindDev_wildcard {access : BoardAccess} {devices : Devices} {r r' : Registry} {ret : ℤ}
    (hfind : anyioFindDev access devices r = .ok (ret, r')) (hret : 0 ≤ ret) :
    ∃ row, supportedBoard access.deviceName = some row ∧
      r'.wildcard = row.2 &&& boardWildcard := by
  have hfound : Delivers (fun s => s.1 < 0 ∨ ∃ row, supportedBoard access.deviceName = some row ∧
      s.2.wildcard = row.2 &&& boardWildcard) (anyioFindDev access devices r) := by
    refine delivers_body (.bind (yields_orExit (.inl (Int.negSucc_lt_zero 0))) fun row hrow => ?_)
    have hr : Registry.wildcard ⟨r.boards, row.2 &&& boardWildcard⟩ = row.2 &&& boardWildcard := by
      rw [Registry.wildcard, Nat.and_assoc, Nat.and_self]
    have hdone {r'' : Registry} (h : r''.wildcard = row.2 &&& boardWildcard) :
        (0 : ℤ) < 0 ∨ ∃ row, supportedBoard access.deviceName = some row ∧
          r''.wildcard = row.2 &&& boardWildcard := .inr ⟨row, hrow, h⟩
    have hstop {s : Stop (ℤ × Registry)} (h : Returns (fun s => s.1 < 0) s) :
        Returns (fun s => s.1 < 0 ∨ ∃ row, supportedBoard access.deviceName = some row ∧
          s.2.wildcard = row.2 &&& boardWildcard) s := by
      cases s with
      | ret r => exact .inl h
      | fault f => trivial
    refine .ite (fun _ => .bind (yields_exitIf fun _ => .inl (Int.negSucc_lt_zero 0)) fun _ _ => ?_)
      fun _ => ?_
    · exact .bind ((scanTypes_wildcard hr row.2 true).mono_error fun _ => hstop) fun _ h =>
        .ok (hdone h)
    · exact .bind ((scanTypes_wildcard hr access.type false).mono_error fun _ => hstop) fun _ h =>
        .ok (hdone h)
  exact (hfound.of_eq_ok hfind).resolve_left (by simpa using hret)

/-! ### The selected board -/

/-- The name is not one of the three with more behind it. -/
def Unextended (name : CStr) : Prop := ∀ w ∈ wildcardNames, w <+: name → name = w

lemma Unextended.mem_iff {name : CStr} (h : Unextended name) :
    (∃ w ∈ wildcardNames, w <+: name) ↔ name ∈ wildcardNames := by
  constructor
  · rintro ⟨w, hw, hstarts⟩
    rwa [h w hw hstarts]
  · intro hname
    exact ⟨name, hname, List.prefix_rfl⟩

lemma Unextended.selectsMeant {name : CStr} (h : Unextended name) : SelectsMeant name := by
  rintro access devices r ret r' boardNumber b rfl hfind hret hget
  obtain ⟨row, hrow, hwild⟩ := anyioFindDev_wildcard hfind hret
  have hcounts : ∀ b, Counts access.deviceName r'.openIface b ↔ Meant access.deviceName b := by
    intro b
    rw [counts_iff, Meant, ← h.mem_iff, ← supportedBoard_wildcard hrow, ← hwild]
    rfl
  obtain ⟨hpos, hnth⟩ := getDevLoop_eq_some hget
  have hfilter : r'.boards.filter (Counts access.deviceName r'.openIface) =
      r'.boards.filter (Meant access.deviceName) := by
    refine List.filter_congr fun b _ => ?_
    simp only [hcounts]
  rw [hfilter, show (boardNumber - 0 - 1).toNat = boardNumber.toNat - 1 by omega] at hnth
  have hb := List.of_mem_filter (List.mem_of_getElem? hnth)
  exact ⟨by simpa using hb, by omega, hnth⟩

/-- `--device NAME --serial --addr /dev/ttyS0`. -/
def accessSerial (name : CStr) : BoardAccess where
  deviceName := name
  type := boardSer
  address := 1
  verbose := 0
  recover := 0
  devAddr := some (ascii "/dev/ttyS0")

/-- A 7I90HD answers on the serial line, and nothing else does. -/
def serialDevices : Devices where
  pciInit := false
  eppInit := false
  pci := []
  eppRead := fun _ _ => 0
  usb := ⟨0, [], fun _ => 0, 0, 0⟩
  spiRead := fun _ _ => none
  serialInfo := ascii "7I90HD"
  inetPton := fun _ => false
  ethCookie := none
  ethInfo := []
  srcIp := []

/-- The board on the serial line. -/
def serial7i90 (name : CStr) : BoardEntry :=
  lbp16Entry (accessSerial name) .ser (cstr serialDevices.serialInfo) "6slx9tqg144"
    (ascii "/dev/ttyS0")

lemma serial7i90_boardName (name : CStr) : (serial7i90 name).llio.boardName = ascii "7I90HD" := by
  change cstr (ascii "7I90HD") = ascii "7I90HD"
  decide

lemma serialBoardsScan_serial (name : CStr) :
    serialBoardsScan (accessSerial name) serialDevices.serialInfo [] = .ok [serial7i90 name] := by
  have hinfo : (ascii "7I90HD").isPrefixOf serialDevices.serialInfo := by decide
  rw [serialBoardsScan, if_pos hinfo]
  rfl

/-- The search on the serial line finds the board for every supported name. -/
lemma anyioFindDev_serial {name : CStr} {row : String × ℕ} (h : supportedBoard name = some row) :
    anyioFindDev (accessSerial name) serialDevices .empty =
      .ok (0, ⟨[serial7i90 name], (row.2 &&& boardWildcard) ||| boardSer⟩) := by
  rw [anyioFindDev, show (accessSerial name).deviceName = name from rfl, h]
  have hscan (r : Registry) (hr : r.boards = []) :
      scanTypes (accessSerial name) serialDevices boardSer false r =
        .ok ⟨[serial7i90 name], r.openIface ||| boardSer⟩ := by
    have hser : scanIf boardSer boardSer (serialBoardsScan (accessSerial name)
        serialDevices.serialInfo) r = .ok ⟨[serial7i90 name], r.openIface ||| boardSer⟩ := by
      rw [scanIf, if_pos (by decide), hr, serialBoardsScan_serial]
      rfl
    exact hser
  have htype : (accessSerial name).type ≠ boardAny := by
    change boardSer ≠ boardAny
    decide
  rw [orExit_some, ok_bind, if_neg htype, show (accessSerial name).type = boardSer from rfl,
    hscan ⟨Registry.empty.boards, row.2 &&& boardWildcard⟩ rfl]
  rfl

/-- A name that begins with one of the three is supported. -/
lemma supportedBoard_of_isInitial {name w : CStr} (hw : w ∈ wildcardNames) (h : w <+: name) :
    ∃ row, supportedBoard name = some row := by
  obtain ⟨row, hrow, rfl⟩ := wildcardNames_supported w hw
  refine Option.isSome_iff_exists.1 (List.find?_isSome.2 ⟨row, hrow, ?_⟩)
  exact List.isPrefixOf_iff_prefix.2 h

/-- None of the three begins another one, nor the name of the board above. -/
lemma wildcardNames_apart : ∀ w ∈ wildcardNames,
    (∀ w' ∈ wildcardNames, w.isPrefixOf w' → w' = w) ∧ ¬ w.isPrefixOf (ascii "7I90HD") := by
  decide

/-- A longer name selects a board of some other name. -/
lemma not_selectsMeant {name w : CStr} (hw : w ∈ wildcardNames) (hstarts : w <+: name)
    (hne : name ≠ w) : ¬ SelectsMeant name := by
  intro h
  obtain ⟨row, hrow⟩ := supportedBoard_of_isInitial hw hstarts
  have hwild : row.2 &&& boardWildcard ≠ 0 := (supportedBoard_wildcard hrow).2 ⟨w, hw, hstarts⟩
  have hcount : Counts name ((row.2 &&& boardWildcard) ||| boardSer)
      (serial7i90 name) := by
    refine counts_iff.2 (.inr ?_)
    rwa [or_wildcard rfl, Nat.and_assoc, Nat.and_self]
  have hget := h (accessSerial name) serialDevices .empty 0 _ 1 _ rfl (anyioFindDev_serial hrow)
    le_rfl ((if_pos hcount).trans (if_pos rfl))
  have hapart := wildcardNames_apart w hw
  rcases hget.1 with hname | hname
  · rw [serial7i90_boardName] at hname
    exact hapart.2 (List.isPrefixOf_iff_prefix.2 (hname ▸ hstarts))
  · exact hne (hapart.1 name hname (List.isPrefixOf_iff_prefix.2 hstarts))

/-- **The board that is selected is meant by the name, unless the name is longer than one of
the three that it begins with.** -/
theorem selectsMeant_iff (name : CStr) : SelectsMeant name ↔ Unextended name := by
  constructor
  · intro h w hw hstarts
    by_contra hne
    exact not_selectsMeant hw hstarts hne h
  · exact Unextended.selectsMeant

/-- The name `AUTOX` is not one of the three, and it selects the 7I90HD. -/
theorem autox_selects : ¬ SelectsMeant (ascii "AUTOX") :=
  not_selectsMeant (w := ascii "AUTO") (by decide) (by decide) (by decide)

end Mesaflash
