import Mesaflash.LocalFlash

/-!
Writes that are cut short.

Someone pulls the plug while a write command is erasing or programming.  The page or the
sector that is being written then holds anything, and nothing is written any more.
`cutFlash` is such a flash memory: it counts what is written, and from the chosen moment
on only the plan of the `PowerCut` says what happens.

The rules of the first part are for any access functions and any property that writes
inside an area keep.  From them follows that a write whose file fits its area leaves the
rest of the memory as it was, whenever it is cut (`writeFlash_powerCut`), and that a board
keeps its boot block and its other image over any number of attempts to write one of its two
images (`otherImage_survives`).
-/

namespace Mesaflash

open Lib

variable {σ : Type} {k : ℕ}

/-! ### Writing inside an area -/

/-- What reads, and writes inside the area, keep. -/
structure SpiEepromDev.KeepsInside (acc : SpiEepromDev σ) (area : FlashArea) (I : σ → Prop) :
    Prop where
  readPage : ∀ a {s : σ}, I s → Delivers (fun r => I r.2) (acc.readPage a s)
  writePage : ∀ {a : ℕ} {page : PageBuf} {s : σ}, (FlashOp.write a page).Inside area → I s →
    Delivers I (acc.writePage a page s)
  eraseSector : ∀ {a : ℕ} {s : σ}, (FlashOp.erase a).Inside area → I s →
    Delivers I (acc.eraseSector a s)

section Inside

variable {acc : SpiEepromDev σ} {area : FlashArea} {I : σ → Prop} {sha : Sha256}
  {fs : FileSystem} {board : Board} {name : CStr} {fix shaFlag : ℤ} {data : List UInt8}
  {p : Proc σ}

/-- The sectors and the pages of a file that fits are inside the area. -/
structure FitsInside (area : FlashArea) (data : List UInt8) : Prop where
  hi_le : area.hi ≤ 2 ^ 22
  fits : neededSectors data.length ≤ area.sectors

lemma FitsInside.erase (h : FitsInside area data) (hpos : 0 < data.length) {i : ℕ}
    (hi : i < (eSectors (toInt data.length) + 1).toNat) :
    (FlashOp.erase (nextSector^[i] area.lo)).Inside area := by
  have hlen : ([] : List UInt8).length ≤ data.length := Nat.zero_le _
  refine imageOps_inside h.hi_le hpos h.fits (fun _ => 0) hlen _ ?_
  refine List.mem_append_left _ (List.mem_map_of_mem ?_)
  exact List.mem_map_of_mem (List.mem_range.2 hi)

lemma FitsInside.write (h : FitsInside area data) (hpos : 0 < data.length) (buf : ℕ → UInt8)
    {bytes : List UInt8} (hlen : bytes.length ≤ data.length) {j : ℕ} (hj : j < filePages bytes) :
    (FlashOp.write (nextPage^[j] area.lo) (filePage buf bytes j)).Inside area := by
  refine imageOps_inside h.hi_le hpos h.fits buf hlen _ ?_
  refine List.mem_append_right _ (List.mem_map.2 ⟨(nextPage^[j] area.lo, filePage buf bytes j), ?_,
    rfl⟩)
  exact List.mem_map_of_mem (List.mem_range.2 hj)

/-- Erasing the sectors of a file. -/
lemma inside_startProgramming (hacc : acc.KeepsInside area I) (hfit : FitsInside area data)
    (hpos : 0 < data.length) (hI : I p.dev) :
    Delivers (fun r => I r.2.dev) (startProgramming acc board area.lo (toInt data.length) p) := by
  rw [startProgramming_eq]
  refine .ite (fun _ => .ok hI) fun _ => .bind (yields_foldlM (I := I) ?_ hI) fun _ h => .ok h
  exact fun i hi _ hs => hacc.eraseSector (hfit.erase hpos (List.mem_range.1 hi)) hs

/-- Programming the pages of a file. -/
lemma inside_programLoop (hacc : acc.KeepsInside area I) (hfit : FitsInside area data)
    (hpos : 0 < data.length) {fp : File} (hfp : fp.Sound) (hlen : fp.rest.length ≤ data.length)
    (hI : I p.dev) : Delivers (fun q => I q.dev) (programLoop acc fp area.lo p) := by
  rw [programLoop_eq acc hfp]
  refine .bind (yields_foldlM (I := I) ?_ hI) fun _ h => .ok h
  exact fun j hj _ hs => hacc.writePage (hfit.write hpos _ hlen (List.mem_range.1 hj)) hs

/-- The boot sector check passes, or it is not repaired. -/
def LeavesBootSector (acc : SpiEepromDev σ) (board : Board) (fix : ℤ) (I : σ → Prop)
    (block : BootBlock) : Prop :=
  HasBootBlock board → fix ≠ 0 → ∀ p : Proc σ, p.bootBlock = block → I p.dev →
    Delivers (fun r => r.1 ≠ -1) (checkBoot acc p)

lemma inside_checkBoot (hacc : acc.KeepsInside area I) (hI : I p.dev) :
    Delivers (fun r => I r.2.dev) (checkBoot acc p) := by
  unfold checkBoot
  refine .bind (hacc.readPage 0 hI) fun r hr => ?_
  dsimp only
  split
  · exact .ok hr
  · exact .ok hr

lemma inside_writeBootCheck (hacc : acc.KeepsInside area I)
    (hboot : LeavesBootSector acc board fix I p.bootBlock) (hI : I p.dev) :
    Yields (fun q => I q.dev) (Returns fun r => I r.2.dev) (writeBootCheck acc board fix p) := by
  unfold writeBootCheck
  refine .ite (fun hboard => ?_) fun _ => .ok hI
  by_cases hfix : fix = 0
  · refine .bind (yields_call (inside_checkBoot hacc hI)) fun r hr => .ite (fun _ => ?_) fun _ =>
      .ok hr
    rw [exitIf_pos hfix]
    exact .error hr
  · -- the check passes, so nothing is repaired
    have hcheck : Delivers (fun r => I r.2.dev ∧ r.1 ≠ -1) (checkBoot acc p) := by
      have h₁ := inside_checkBoot hacc hI
      have h₂ := hboot hboard hfix p rfl hI
      generalize checkBoot acc p = x at h₁ h₂ ⊢
      cases h₁ with
      | ok h => exact .ok ⟨h, h₂.of_eq_ok rfl⟩
      | error h => exact .error h
    exact .bind (yields_call hcheck) fun r hr => .ite (fun h => absurd h hr.2) fun _ => .ok hr.1

/-- **A write of a file that fits its area keeps what writes inside the area keep.** -/
lemma inside_eepromWrite (hacc : acc.KeepsInside area I) (hfit : FitsInside area data)
    (hnode : fs.node name = some (.regular data true false))
    (hboot : LeavesBootSector acc board fix I p.bootBlock) (hI : I p.dev) :
    Delivers (fun r => I r.2.dev) (eepromWrite sha fs acc board name area.lo fix shaFlag p) := by
  refine delivers_body ?_
  have hsha : Yields (fun q => ∃ buf, q = { p with fileBuffer := buf })
      (Returns fun r => I r.2.dev) (writeShaCheck sha fs name shaFlag p) := by
    unfold writeShaCheck
    refine .ite (fun _ => ?_) fun _ => .ok ⟨_, rfl⟩
    have hverify : Delivers (fun r => ∃ buf, r.2 = { p with fileBuffer := buf })
        (sha256Verify sha fs name p) :=
      (yields_true (sha256Verify sha fs name p)).with_eq.mono fun r hr => sha256Verify_frame hr.2
    refine .bind (yields_call hverify) ?_
    rintro ⟨passed, _⟩ ⟨buf, rfl⟩
    exact .bind (yields_exitIf fun _ => hI) fun _ _ => .ok ⟨buf, rfl⟩
  refine .bind hsha ?_
  rintro _ ⟨buf, rfl⟩
  rw [FileSystem.stSize_of_node hnode, FileSystem.fopen_of_node hnode, orExit_some, orExit_some,
    ok_bind, ok_bind]
  refine .bind (yields_call (yields_true _).with_eq) ?_
  rintro ⟨ret, part, fp⟩ ⟨-, hhead⟩
  refine .bind (yields_exitIf fun _ => hI) fun _ hret => ?_
  have hreads := printBitfileHeader_reads hhead
  have hsound : fp.Sound := ⟨hreads.ioError, hreads.consistent (File.consistent_start _ _)⟩
  have hpos : 0 < data.length := Nat.lt_of_lt_of_le (by decide) (length_of_header hhead hret)
  have hlen : fp.rest.length ≤ data.length := by
    have hle := fp.rest_length_le
    rwa [show fp.data = data from hreads.data] at hle
  have hpart : Yields (fun _ => True) (Returns fun r : ℤ × Proc σ => I r.2.dev)
      (writePartCheck board part { p with fileBuffer := buf }) := by
    unfold writePartCheck
    exact .ite (fun _ => .bind (yields_call (yields_true _)) fun _ _ =>
      .mono (yields_exitIf fun _ => hI) fun _ _ => trivial) fun _ => .ok trivial
  refine .bind hpart fun _ _ => .bind (inside_writeBootCheck hacc hboot hI) fun p₂ hp₂ =>
    .bind (yields_call (inside_startProgramming hacc hfit hpos hp₂)) fun r hr => ?_
  exact .bind (yields_exitIf fun _ => hr) fun _ _ =>
    .bind (yields_call (inside_programLoop hacc hfit hpos hsound hlen hr)) fun _ h => .ok h

end Inside

/-! ### Flash memories that lose power -/

/-- The cells that an operation writes to. -/
def FlashOp.Reaches (op : FlashOp) (c : Fin (chip k).size) : Prop :=
  match op with
  | .read _ => False
  | .write a _ => Flash.SamePage (chip k) a c
  | .erase a => Flash.SameSector (chip k) a c

/-- When the power fails, and what is then left in the page or the sector that is being
written. -/
structure PowerCut (k : ℕ) where
  /-- The number of operations that are completed. -/
  after : ℕ
  torn : FlashOp → Flash (chip k) → Flash (chip k)
  torn_frame : ∀ {op : FlashOp} {f : Flash (chip k)} {c : Fin (chip k).size}, ¬ op.Reaches c →
    torn op f c = f c

/-- A flash memory, and the number of operations that were asked for. -/
structure CutState (k : ℕ) where
  asked : ℕ
  flash : Flash (chip k)

/-- An operation is done, torn, or not done any more. -/
def CutState.act (cut : PowerCut k) (op : FlashOp) (s : CutState k) : CutState k where
  asked := s.asked + 1
  flash :=
    if s.asked < cut.after then op.apply s.flash
    else if s.asked = cut.after then cut.torn op s.flash
    else s.flash

/-- Access to a flash memory that loses power.  What is read after that does not matter. -/
def cutFlash (cut : PowerCut k) : SpiEepromDev (CutState k) where
  readPage a s := .ok (Flash.readPage s.flash a, s)
  writePage a page s := .ok (s.act cut (.write a page))
  eraseSector a s := .ok (s.act cut (.erase a))

section Cut

variable {cut : PowerCut k} {op : FlashOp} {s : CutState k} {f : Flash (chip k)}
  {area : FlashArea}

lemma FlashOp.apply_frame {c : Fin (chip k).size} (h : ¬ op.Reaches c) :
    op.apply f c = f c := by
  cases op with
  | read a => rfl
  | write a page => exact if_neg h
  | erase a => exact if_neg h

lemma CutState.act_frame {c : Fin (chip k).size} (h : ¬ op.Reaches c) :
    (s.act cut op).flash c = s.flash c := by
  unfold CutState.act
  dsimp only
  split
  · exact op.apply_frame h
  · split
    · exact cut.torn_frame h
    · rfl

/-- An operation inside an area reaches no cell outside of it. -/
lemma FlashOp.Inside.reaches (h : op.Inside area) (harea : area.hi ≤ (chip k).size)
    {c : Fin (chip k).size} (hc : op.Reaches c) : area.lo ≤ c ∧ (c : ℕ) < area.hi := by
  obtain ⟨hdvd, hlo, hhi⟩ := h
  cases op with
  | read a => exact hc.elim
  | write a page =>
      have hpos : 0 < pageSize := by decide
      have hlt : a < (chip k).size := by
        simp only [FlashOp.addr, FlashOp.extent] at hhi
        omega
      obtain ⟨h₁, h₂⟩ := (Flash.samePage_iff_between hdvd hlt).1 hc
      exact ⟨hlo.trans h₁, h₂.trans_le hhi⟩
  | erase a =>
      have hpos : 0 < sectorSize := by decide
      have hlt : a < (chip k).size := by
        simp only [FlashOp.addr, FlashOp.extent] at hhi
        omega
      obtain ⟨h₁, h₂⟩ := (Flash.sameSector_iff_between hdvd hlt).1 hc
      exact ⟨hlo.trans h₁, h₂.trans_le hhi⟩

/-- Outside the area, the flash memory holds what `f` holds. -/
def SameOutside (area : FlashArea) (f g : Flash (chip k)) : Prop :=
  ∀ c : Fin (chip k).size, ¬ (area.lo ≤ c ∧ (c : ℕ) < area.hi) → g c = f c

lemma SameOutside.refl (area : FlashArea) (f : Flash (chip k)) : SameOutside area f f :=
  fun _ _ => rfl

lemma SameOutside.act (harea : area.hi ≤ (chip k).size) (hop : op.Inside area)
    (h : SameOutside area f s.flash) : SameOutside area f (s.act cut op).flash := fun c hc =>
  (CutState.act_frame fun hreach => hc (hop.reaches harea hreach)).trans (h c hc)

/-- Whenever the power fails, writes inside an area keep to it. -/
lemma keepsInside_cutFlash (cut : PowerCut k) (harea : area.hi ≤ (chip k).size)
    (f : Flash (chip k)) :
    (cutFlash cut).KeepsInside area (fun s => SameOutside area f s.flash) where
  readPage _ _ hs := .ok hs
  writePage hop hs := .ok (hs.act harea hop)
  eraseSector hop hs := .ok (hs.act harea hop)

/-- The boot block is where it was if the boot sector is outside the area. -/
lemma SameOutside.bootOk {g : Flash (chip k)} (hlo : sectorSize ≤ area.lo)
    (h : SameOutside area f g) (block : BootBlock) : BootOk block g ↔ BootOk block f := by
  refine forall_congr' fun i => ?_
  have hlt : (i : ℕ) < sectorSize := i.isLt.trans (by decide)
  have hcell : (Flash.cell (chip k) i : ℕ) = i :=
    Flash.cell_of_lt (hlt.trans_le (sectorSize_le_size k))
  rw [h _ (by omega)]

lemma checkBoot_cutFlash (cut : PowerCut k) {p : Proc (CutState k)}
    (h : BootOk p.bootBlock p.dev.flash) :
    Delivers (fun r => r.1 ≠ -1) (checkBoot (cutFlash cut) p) := by
  have hcheck := checkBoot_norFlash (⟨p.bootBlock, p.pageBuffer, p.fileBuffer, p.dev.flash⟩ :
    Proc (Flash (chip k)))
  rw [if_pos h] at hcheck
  unfold checkBoot at hcheck ⊢
  simp only [norFlash, cutFlash, ok_bind] at hcheck ⊢
  split
  · exact .ok (show (0 : ℤ) ≠ -1 by decide)
  · next hne => simp [hne] at hcheck

end Cut

/-! ### Write commands that are cut short -/

section Commands

variable {sha : Sha256} {fs : FileSystem} {board : Board} {name : CStr} {fallback fix shaFlag : ℤ}
  {data : List UInt8} {p p' : Proc (CutState k)} {r : ℤ}

/-- The target area of a board lies in its flash memory. -/
lemma targetArea_hi_le_size (hopen : board.Opened)
    (hsize : (chip k).size = eepromGetFlashSize board.flashId) (fallback : ℤ) :
    (targetArea board fallback).hi ≤ (chip k).size := by
  obtain ⟨j, -, huser, hflash⟩ := hopen.known.sectors
  have hdouble : 2 * eepromCalcUserSpace board.flashId = eepromGetFlashSize board.flashId := by
    rw [huser, hflash, pow_succ]
    ring
  rw [hsize]
  unfold targetArea
  dsimp only
  split
  · split <;> dsimp only <;> omega
  · split <;> dsimp only <;> omega

/-- The boot sector of a board with a boot block is not in a target area. -/
lemma sectorSize_le_targetArea (hboard : HasBootBlock board) (fallback : ℤ) :
    sectorSize ≤ (targetArea board fallback).lo := by
  have hxilinx : ¬ board.fpgaType = .efinix := by rw [hboard.2]; decide
  unfold targetArea
  dsimp only
  split
  · exact (by decide : sectorSize ≤ xilinxFallbackAddress)
  · rw [if_pos hboard.1]
    exact sectorSize_le_userSpace _

/-- **A write that is cut short stays in its area.**  Wherever the power fails while a file
that fits is written, and whatever is then left in the page or the sector that was being
written, everything outside the target area is as before, unless `--fix-boot-block` meets a
boot sector that needs it. -/
lemma writeFlash_powerCut (hopen : board.Opened)
    (hsize : (chip k).size = eepromGetFlashSize board.flashId)
    (hnode : fs.node name = some (.regular data true false))
    (hfit : neededSectors data.length ≤ (targetArea board fallback).sectors)
    (hboot : fix = 0 ∨ (HasBootBlock board → BootOk p.bootBlock p.dev.flash)) (cut : PowerCut k)
    (h : anyioDevWriteFlash sha fs (cutFlash cut) (some board) name fallback fix shaFlag p =
      .ok (r, p')) :
    SameOutside (targetArea board fallback) p.dev.flash p'.dev.flash := by
  have harea := targetArea_hi_le_size hopen hsize fallback
  rw [anyioDevWriteFlash] at h
  split at h
  · obtain ⟨-, rfl⟩ := Prod.mk.inj (Except.ok.inj h)
    exact .refl _ _
  · rw [flashAddress_eq_lo hopen] at h
    refine (inside_eepromWrite (keepsInside_cutFlash cut harea p.dev.flash)
      ⟨targetArea_hi_le fallback hopen, hfit⟩ hnode ?_ (.refl _ _)).of_eq_ok h
    intro hboard hfix q hblock hq
    refine checkBoot_cutFlash cut ?_
    rw [hblock, hq.bootOk (sectorSize_le_targetArea hboard fallback)]
    exact (hboot.resolve_left hfix) hboard

end Commands

/-! ### Attempts -/

/-- An attempt to write an image: a process with its flags and what is in its buffers, the
files that there are, and when the power fails. -/
structure Attempt (k : ℕ) where
  fs : FileSystem
  name : CStr
  fix : ℤ
  shaFlag : ℤ
  pageBuffer : PageBuf
  fileBuffer : ℕ → UInt8
  cut : PowerCut k

section Attempts

variable (sha : Sha256) (board : Board) (fallback : ℤ) (block : BootBlock)

/-- The flash memory after an attempt. -/
def Attempt.run (t : Attempt k) (f : Flash (chip k)) : Except Fault (Flash (chip k)) := do
  let (_, p) ← anyioDevWriteFlash sha t.fs (cutFlash t.cut) (some board) t.name fallback t.fix
    t.shaFlag ⟨block, t.pageBuffer, t.fileBuffer, 0, f⟩
  return p.dev.flash

/-- The flash memory after some attempts. -/
def attempts (l : List (Attempt k)) (f : Flash (chip k)) : Except Fault (Flash (chip k)) :=
  l.foldlM (fun f t => t.run sha board fallback block f) f

/-- The file of an attempt fits the target area. -/
def Attempt.Fits (t : Attempt k) : Prop :=
  ∃ data, t.fs.node t.name = some (.regular data true false) ∧
    neededSectors data.length ≤ (targetArea board fallback).sectors

variable {sha board fallback block}

/-- An attempt leaves a good boot block and the other image alone. -/
lemma Attempt.keeps (hopen : board.Opened)
    (hsize : (chip k).size = eepromGetFlashSize board.flashId) {t : Attempt k}
    (hfits : t.Fits board fallback) {f : Flash (chip k)}
    (hboot : HasBootBlock board → BootOk block f) :
    Delivers (SameOutside (targetArea board fallback) f) (t.run sha board fallback block f) := by
  obtain ⟨data, hnode, hfit⟩ := hfits
  refine .bind (yields_true _).with_eq ?_
  rintro ⟨r, p⟩ ⟨-, hrun⟩
  exact .ok (writeFlash_powerCut hopen hsize hnode hfit (.inr hboot) t.cut hrun)

/-- **One image survives any number of attempts to write the other one.**  Each attempt may
lose power at any moment, and the next one may be with another file and other flags. -/
lemma otherImage_survives (hopen : board.Opened)
    (hsize : (chip k).size = eepromGetFlashSize board.flashId) {l : List (Attempt k)}
    (hfits : ∀ t ∈ l, t.Fits board fallback) {f : Flash (chip k)}
    (hboot : HasBootBlock board → BootOk block f) :
    Delivers (fun g => SameOutside (targetArea board fallback) f g ∧
        (HasBootBlock board → BootOk block g))
      (attempts sha board fallback block l f) := by
  refine yields_foldlM (fun t ht g hg => ?_) ⟨.refl _ _, hboot⟩
  refine (Attempt.keeps hopen hsize (hfits t ht) hg.2).mono fun g' hg' => ⟨fun c hc => ?_, ?_⟩
  · exact (hg' c hc).trans (hg.1 c hc)
  · intro hboard
    rw [hg'.bootOk (sectorSize_le_targetArea hboard fallback)]
    exact hg.2 hboard

end Attempts

end Mesaflash
