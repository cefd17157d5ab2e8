import Mesaflash.Registry

/-!
The entries that a scan of the PCI bus fills.

The scan clears the next entry of `boards` for each device, whether the device turns out to be
a board or not.  An entry behind the last one is used when the boards found so far leave no
entry for the device that comes next.
-/

namespace Mesaflash

open Lib

section PciScan

variable (access : BoardAccess)

/-- The boards among some devices, in their order. -/
def pciFound (devs : List PciDev) : List BoardEntry := devs.filterMap (pciEntry access)

/-- What a scan in recover mode finds. -/
def recoverFound (devs : List PciDev) : List BoardEntry :=
  ((devs.find? fun dev =>
    dev.vendorId = vendoridXio2001 ∧ dev.deviceId = deviceidXio2001).map
      (recoverEntry access)).toList

/-- The number of boards that are found before the last device that is examined. -/
def foundBeforeLast (devs : List PciDev) : ℕ :=
  if access.recover = 1 then 0 else (pciFound access devs.dropLast).length

/-- There is an entry for every device when it is examined. -/
def EntriesFit (devs : List PciDev) (boards : List BoardEntry) : Prop :=
  devs = [] ∨ boards.length + foundBeforeLast access devs < maxBoards

/-- A scan uses entries of `boards` only, the count stays in its bounds, and no examination of
a device changes the boards that were registered before. -/
def ScanStays (devs : List PciDev) (boards : List BoardEntry) : Prop :=
  (∃ found, pciBoardsScan access devs boards = .ok found ∧ found.length ≤ maxBoards) ∧
  ∀ before dev after, devs = before ++ dev :: after →
    ∃ found found', pciBoardsScan access before boards = .ok found ∧
      pciBoardsScan access (before ++ [dev]) boards = .ok found' ∧ found <+: found'

variable {access} {devs : List PciDev} {boards : List BoardEntry}

lemma initEntry_of_lt (h : boards.length < maxBoards) : initEntry boards = .ok () := if_pos h

lemma initEntry_of_le (h : maxBoards ≤ boards.length) :
    initEntry boards = .error (.undefined .outOfBounds) := if_neg (Nat.not_lt.2 h)

/-! ### The loop over all devices -/

lemma pciRound_eq (dev : PciDev) (h : boards.length < maxBoards) :
    pciRound access dev boards = .ok (boards ++ pciFound access [dev]) := by
  rw [pciRound, initEntry_of_lt h, pciFound, List.filterMap_cons, List.filterMap_nil]
  cases pciEntry access dev <;> rfl

lemma pciFound_cons (dev : PciDev) (devs : List PciDev) :
    pciFound access (dev :: devs) = pciFound access [dev] ++ pciFound access devs := by
  rw [pciFound, ← List.singleton_append, List.filterMap_append]
  rfl

lemma pciFound_length_le_one (dev : PciDev) : (pciFound access [dev]).length ≤ 1 :=
  List.length_filterMap_le _ _

/-- While there is an entry for each device, the boards are appended in their order. -/
lemma pciLoop_ok
    (h : devs = [] ∨ boards.length + (pciFound access devs.dropLast).length < maxBoards) :
    devs.foldlM (fun boards dev => pciRound access dev boards) boards =
      .ok (boards ++ pciFound access devs) := by
  induction devs generalizing boards with
  | nil => simp only [List.foldlM_nil, pciFound, List.filterMap_nil, List.append_nil]; rfl
  | cons dev devs ih =>
    have hlt := h.resolve_left (List.cons_ne_nil _ _)
    rw [List.foldlM_cons, pciRound_eq dev (by omega), pciFound_cons dev devs,
      ← List.append_assoc]
    refine ih ?_
    rcases devs with - | ⟨next, devs⟩
    · exact .inl rfl
    · rw [List.dropLast_cons_cons, pciFound_cons dev, List.length_append] at hlt
      right
      rw [List.length_append]
      omega

/-- Without an entry for the last device the loop leaves the array. -/
lemma pciLoop_error (hdevs : devs ≠ [])
    (h : maxBoards ≤ boards.length + (pciFound access devs.dropLast).length) :
    devs.foldlM (fun boards dev => pciRound access dev boards) boards =
      .error (.undefined .outOfBounds) := by
  induction devs generalizing boards with
  | nil => exact absurd rfl hdevs
  | cons dev devs ih =>
    rw [List.foldlM_cons]
    rcases Nat.lt_or_ge boards.length maxBoards with hlt | hge
    · rw [pciRound_eq dev hlt]
      rcases devs with - | ⟨next, devs⟩
      · simp [pciFound] at h
        omega
      · refine ih (List.cons_ne_nil _ _) ?_
        rw [List.dropLast_cons_cons, pciFound_cons dev, List.length_append] at h
        rw [List.length_append]
        omega
    · rw [pciRound, initEntry_of_le hge]
      rfl

/-! ### Recover mode -/

lemma pciRecover_ok (h : devs = [] ∨ boards.length < maxBoards) :
    pciRecover access boards devs = .ok (boards ++ recoverFound access devs) := by
  induction devs with
  | nil => simp [pciRecover, recoverFound]
  | cons dev devs ih =>
    have hlt := h.resolve_left (List.cons_ne_nil _ _)
    rw [pciRecover, initEntry_of_lt hlt, recoverFound, List.find?_cons]
    by_cases hbridge : dev.vendorId = vendoridXio2001 ∧ dev.deviceId = deviceidXio2001
    · simp [hbridge]
    · rw [if_neg hbridge]
      simp only [hbridge, decide_false]
      exact ih (.inr hlt)

lemma pciRecover_error (hdevs : devs ≠ []) (h : maxBoards ≤ boards.length) :
    pciRecover access boards devs = .error (.undefined .outOfBounds) := by
  cases devs with
  | nil => exact absurd rfl hdevs
  | cons dev devs =>
    rw [pciRecover, initEntry_of_le h]
    rfl

/-! ### The scan -/

variable (access) in
/-- The boards that a scan finds. -/
def scanFound (devs : List PciDev) : List BoardEntry :=
  if access.recover = 1 then recoverFound access devs else pciFound access devs

lemma recoverFound_length_le_one : (recoverFound access devs).length ≤ 1 := by
  rw [recoverFound]
  cases Option.map (recoverEntry access) _ <;> simp

variable (access) in
/-- An examination adds at most one board. -/
lemma scanFound_length_le (hdevs : devs ≠ []) :
    (scanFound access devs).length ≤ foundBeforeLast access devs + 1 := by
  rw [scanFound, foundBeforeLast]
  split
  · simpa using recoverFound_length_le_one
  · rw [pciFound, ← List.dropLast_concat_getLast hdevs, List.filterMap_append,
      List.length_append, List.dropLast_concat]
    exact Nat.add_le_add_left (pciFound_length_le_one _) _

lemma scanFound_initial {before devs : List PciDev} (h : before <+: devs) :
    scanFound access before <+: scanFound access devs := by
  rw [scanFound, scanFound]
  split
  · obtain ⟨after, rfl⟩ := h
    rw [recoverFound, recoverFound, List.find?_append]
    -- the search has found its bridge among the first devices, or nothing yet
    cases before.find? _ with
    | none => exact List.nil_prefix
    | some dev => exact List.prefix_rfl
  · exact h.filterMap _

variable (access) in
lemma foundBeforeLast_le {before devs : List PciDev} (h : before <+: devs) :
    foundBeforeLast access before ≤ foundBeforeLast access devs := by
  have hlast : before.dropLast <+: devs.dropLast :=
    List.prefix_of_prefix_length_le ((List.dropLast_prefix _).trans h) (List.dropLast_prefix _)
      (by rw [List.length_dropLast, List.length_dropLast]; exact Nat.sub_le_sub_right h.length_le 1)
  rw [foundBeforeLast, foundBeforeLast]
  split
  · exact le_rfl
  · exact (hlast.filterMap _).length_le

lemma EntriesFit.initial {before : List PciDev} (h : EntriesFit access devs boards)
    (hbefore : before <+: devs) : EntriesFit access before boards := by
  rcases h with rfl | h
  · exact .inl (List.prefix_nil.1 hbefore)
  · have := foundBeforeLast_le access hbefore
    exact .inr (by omega)

lemma pciBoardsScan_ok (h : EntriesFit access devs boards) :
    pciBoardsScan access devs boards = .ok (boards ++ scanFound access devs) := by
  rw [EntriesFit, foundBeforeLast] at h
  rw [pciBoardsScan, scanFound]
  split at h <;> rename_i hmode
  · rw [if_pos hmode, if_pos hmode]
    exact pciRecover_ok h
  · rw [if_neg hmode, if_neg hmode]
    exact pciLoop_ok h

lemma pciBoardsScan_error (h : ¬ EntriesFit access devs boards) :
    pciBoardsScan access devs boards = .error (.undefined .outOfBounds) := by
  rw [EntriesFit, foundBeforeLast, not_or, not_lt] at h
  rw [pciBoardsScan]
  split at h <;> rename_i hmode
  · rw [if_pos hmode]
    exact pciRecover_error h.1 h.2
  · rw [if_neg hmode]
    exact pciLoop_error h.1 h.2

/-- A scan keeps to the entries of `boards` exactly if there is one for every device that it
examines. -/
theorem pciBoardsScan_stays_iff (hboards : boards.length ≤ maxBoards) :
    ScanStays access devs boards ↔ EntriesFit access devs boards := by
  constructor
  · rintro ⟨⟨found, hfound, -⟩, -⟩
    by_contra h
    rw [pciBoardsScan_error h] at hfound
    cases hfound
  · intro h
    refine ⟨⟨_, pciBoardsScan_ok h, ?_⟩, ?_⟩
    · rw [List.length_append]
      rcases h with rfl | h
      · simpa [scanFound, recoverFound, pciFound] using hboards
      · rcases eq_or_ne devs [] with rfl | hdevs
        · simpa [scanFound, recoverFound, pciFound] using hboards
        · have := scanFound_length_le access hdevs
          omega
    · rintro before dev after rfl
      have hstep : before ++ [dev] <+: before ++ dev :: after :=
        ⟨after, by rw [List.append_assoc, List.singleton_append]⟩
      have hbefore : before <+: before ++ [dev] := List.prefix_append _ _
      exact ⟨_, _, pciBoardsScan_ok (EntriesFit.initial h (hbefore.trans hstep)),
        pciBoardsScan_ok (EntriesFit.initial h hstep),
        (List.prefix_append_right_inj _).2 (scanFound_initial hbefore)⟩

end PciScan

/-- A search for all boards on the bus. -/
def accessPci : BoardAccess where
  deviceName := ascii "5I25"
  type := boardPci
  address := 0
  verbose := 0
  recover := 0
  devAddr := none

/-- A 5I25 in a slot. -/
def dev5i25 (slot : ℕ) : PciDev where
  vendorId := vendoridMesapci
  deviceId := deviceidMesa5i25
  subsystemId := 0
  baseAddr := fun _ => 0
  slot := slot

/-- Some device of another vendor. -/
def devOther : PciDev := { dev5i25 0 with vendorId := 0x8086 }

/-- Seven boards and two devices behind them are well, as the last board finds an entry and so
does each device that is none. -/
theorem sevenBoards_stay :
    ScanStays accessPci ((List.range 7).map dev5i25 ++ [devOther, devOther]) [] :=
  (pciBoardsScan_stays_iff (Nat.zero_le _)).2 (.inr (by decide))

/-- Eight boards leave no entry for the next device, be it a board or not. -/
theorem eightBoards_overrun :
    ¬ ScanStays accessPci ((List.range 8).map dev5i25 ++ [devOther]) [] := by
  rintro ⟨⟨found, hfound, -⟩, -⟩
  rw [pciBoardsScan_error (by rw [EntriesFit]; decide)] at hfound
  cases hfound

end Mesaflash
