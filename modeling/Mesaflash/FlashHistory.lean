import Mesaflash.MainFlash
import Mesaflash.WriteVerify

/-!
A history of runs of the program on one board.

Every run is a new process, with a command line and files of its own, and finds in the flash
memory what the run before has left there.  An image that a run has written and verified can be
verified again by any later run, whatever runs there were in between: they may only have read, or
have written the other image, with success or not (`history_verifies`).
-/

namespace Mesaflash

open Lib

variable {k : ℕ}

/-! ### Verifying again -/

/-- The flash memories have the same in an area. -/
def SameIn (area : FlashArea) (f g : Flash (chip k)) : Prop :=
  ∀ c : Fin (chip k).size, area.lo ≤ c → (c : ℕ) < area.hi → g c = f c

section Again

variable {board : Board} {fs fs' : FileSystem} {name : CStr} {data bytes : List UInt8}
  {addr : ℕ} {f g : Flash (chip k)} {buf buf' : ℕ → UInt8} {p q : Proc (Flash (chip k))}

/-- Behind a full chunk there is nothing left over from before. -/
lemma image_of_chunk {c : ℕ} (hlong : c ≤ bytes.length) (buf buf' : ℕ → UInt8) (j : ℕ) :
    image c buf bytes j = image c buf' bytes j := by
  unfold image
  by_cases hlt : j < bytes.length
  · rw [if_pos hlt, if_pos hlt]
  · rw [if_neg hlt, if_neg hlt, if_neg (by omega), if_neg (by omega)]

/-- A payload with at least a chunk matches again where the same is in its pages. -/
lemma matches_again (hlong : chunkSize ≤ bytes.length)
    (hsame : ∀ i < pageSize * filePages bytes,
      g (Flash.cell _ (addr + i)) = f (Flash.cell _ (addr + i)))
    (h : Holds f bytes addr ∧ HoldsLeftOver f buf bytes addr) :
    Holds g bytes addr ∧ HoldsLeftOver g buf' bytes addr := by
  refine ⟨fun i hi => ?_, fun i hle hi => ?_⟩
  · rw [hsame i (hi.trans_le (length_le_filePages bytes)), h.1 i hi]
  · rw [hsame i hi, h.2 i hle hi, image_of_chunk hlong]

/-- A file that fits its area verifies again, in another process, where the area is the same. -/
lemma eepromVerify_again (hk : k ≤ 8)
    (hchip : (chip k).size = eepromGetFlashSize board.flashId) {area : FlashArea}
    (harea : area.hi ≤ (chip k).size)
    (hfit : neededSectors data.length ≤ area.sectors)
    (hnode : fs.node name = some (.regular data true false))
    (hnode' : fs'.node name = some (.regular data true false)) {ret : ℤ} {part : Option CStr}
    {fp : File} (hhead : printBitfileHeader (.start data false) = .ok (ret, part, fp))
    (hret : ret ≠ -1) (hlen : fp.rest.length ≤ data.length) (hlong : chunkSize ≤ fp.rest.length)
    (hsame : SameIn area p.dev q.dev)
    (hboot : HasBootBlock board → BootOk q.bootBlock q.dev) {p' : Proc (Flash (chip k))}
    (h : eepromVerify fs (norFlash k) board name area.lo p = .ok (0, p')) :
    ∃ q', eepromVerify fs' (norFlash k) board name area.lo q = .ok (0, q') := by
  have hroom := area.lo_add
  have hsectors := Nat.mul_le_mul_left sectorSize hfit
  by_cases hsize : data.length = eepromGetFlashSize board.flashId
  · -- an image of the whole memory, so that the area is the whole memory
    have hneeded := neededSectors_le_iff.1 (le_refl (neededSectors data.length))
    have hpages : pageSize * filePages data ≤ sectorSize * neededSectors data.length :=
      filePages_le le_rfl
    have hmatch := (eepromVerify_holds_iff hk hnode (.full hsize)).1 ⟨p', h⟩
    refine (eepromVerify_holds_iff hk hnode' (.full hsize)).2
      (matches_again (hlong.trans hlen) (fun i hi => hsame _ (by omega) ?_) hmatch)
    exact (Fin.is_lt _).trans_le (by omega)
  · have hpages := filePages_le hlen
    obtain ⟨hpart, -, hmatch⟩ := (eepromVerify_image_iff hnode hsize hhead hret).1 ⟨p', h⟩
    refine (eepromVerify_image_iff hnode' hsize hhead hret).2 ⟨hpart, hboot, ?_⟩
    rw [pages_match_iff hk] at hmatch ⊢
    refine matches_again hlong (fun i hi => ?_) hmatch
    have hcell : (Flash.cell (chip k) (area.lo + i) : ℕ) = area.lo + i :=
      Flash.cell_of_lt (by omega)
    exact hsame _ (by omega) (by omega)

end Again

/-! ### Writing the other image -/

section Inside

variable {board : Board} {sha : Sha256} {fs : FileSystem} {name : CStr} {data : List UInt8}
  {fallback fix shaFlag ret : ℤ} {area : FlashArea} {p p' : Proc (Flash (chip k))}

lemma keepsInside_norFlash (harea : area.hi ≤ (chip k).size) (f : Flash (chip k)) :
    (norFlash k).KeepsInside area (SameOutside area f) where
  readPage _ _ hs := .ok hs
  writePage {a page _} hop hs := .ok fun c hc =>
    ((FlashOp.write a page).apply_frame fun hreach => hc (hop.reaches harea hreach)).trans (hs c hc)
  eraseSector {a _} hop hs := .ok fun c hc =>
    ((FlashOp.erase a).apply_frame fun hreach => hc (hop.reaches harea hreach)).trans (hs c hc)

/-- A write of a file that fits keeps to the area of its image, whether it succeeds or not. -/
lemma writeFlash_inside (hopen : board.Opened)
    (hsize : (chip k).size = eepromGetFlashSize board.flashId)
    (hnode : fs.node name = some (.regular data true false))
    (hfit : neededSectors data.length ≤ (targetArea board fallback).sectors)
    (hboot : HasBootBlock board → BootOk p.bootBlock p.dev)
    (h : anyioDevWriteFlash sha fs (norFlash k) (some board) name fallback fix shaFlag p =
      .ok (ret, p')) :
    SameOutside (targetArea board fallback) p.dev p'.dev := by
  have harea := targetArea_hi_le_size hopen hsize fallback
  rw [anyioDevWriteFlash] at h
  split at h
  · obtain ⟨-, rfl⟩ := Prod.mk.inj (Except.ok.inj h)
    exact .refl _ _
  · rw [flashAddress_eq_lo hopen] at h
    refine (inside_eepromWrite (keepsInside_norFlash harea p.dev)
      ⟨targetArea_hi_le fallback hopen, hfit⟩ hnode ?_ (.refl _ _)).of_eq_ok h
    intro hboard _ q hblock hq
    rw [checkBoot_norFlash, if_pos]
    · exact .ok (show (0 : ℤ) ≠ -1 by decide)
    · rw [hblock, hq.bootOk (sectorSize_le_targetArea hboard fallback)]
      exact hboot hboard

end Inside

/-! ### Runs -/

/-- A run of the program: its command line, the files that it finds, and what the functions of the
board do that are not those for the flash memory. -/
structure ProgramRun (k : ℕ) where
  fs : FileSystem
  args : List CStr
  others : OtherFunctions (Proc (Flash (chip k)))

/-- The functions of a run on a board. -/
def ProgramRun.functions (e : Scene (Flash (chip k))) (b : BoardEntry) (r : ProgramRun k) :
    DeviceFunctions (Proc (Flash (chip k))) :=
  { e with fs := r.fs }.functions { r.others with search := fun p => (.ok (.board b), p) }

/-- The program is run on a board.  The results are its status and the flash memory. -/
def ProgramRun.exec (e : Scene (Flash (chip k))) (b : BoardEntry) (r : ProgramRun k)
    (f : Flash (chip k)) : Except Fault ℤ × Flash (chip k) :=
  let (ret, t) := ((r.functions e b).main r.args).run ⟨.start f, []⟩
  (ret, t.state.dev)

/-- The flash memory after some runs that have returned. -/
inductive History (e : Scene (Flash (chip k))) (b : BoardEntry) :
    Flash (chip k) → List (ProgramRun k) → Flash (chip k) → Prop
  | nil (f : Flash (chip k)) : History e b f [] f
  | cons {f g f' : Flash (chip k)} {r : ProgramRun k} {l : List (ProgramRun k)} {ret : ℤ}
      (h : r.exec e b f = (.ok ret, g)) (hrest : History e b g l f') :
      History e b f (r :: l) f'

/-- A run that leaves an image alone: it does not restore a backup, and if it writes, then it
writes the other image, and the file fits.  Other functions that it comes to leave the flash memory
alone. -/
def ProgramRun.LeavesImage (board : Board) (fallback : ℤ) (r : ProgramRun k) : Prop :=
  ∀ ret o, Selects r.args ret o → r.others.LeaveFlash id o ∧
    ∀ name, boardAction o ≠ .file .restoreFlash name ∧
      (boardAction o = .file .write name →
        HasBootBlock board ∧ (fallback = 1 ↔ o.int .fallback ≠ 1) ∧
          ∃ data, r.fs.node name = some (.regular data true false) ∧
            neededSectors data.length ≤ (targetArea board (o.int .fallback)).sectors)

section Runs

variable {e : Scene (Flash (chip k))} {b b' : BoardEntry} {ty : BoardType} {block : BootBlock}
  {o : Options} {f g : Flash (chip k)} {r : ProgramRun k}

lemma ProgramRun.exec_eq_ok {ret : ℤ} : r.exec e b f = (.ok ret, g) ↔
    ∃ t', ((r.functions e b).main r.args).run ⟨.start f, []⟩ = (.ok ret, t') ∧
      g = t'.state.dev := by
  simp only [exec, Prod.mk.injEq]
  constructor
  · rintro ⟨hret, rfl⟩
    exact ⟨_, Prod.ext hret rfl, rfl⟩
  · rintro ⟨t', hrun, rfl⟩
    exact ⟨congrArg Prod.fst hrun, congrArg (fun x => x.2.state.dev) hrun⟩

/-- Which board is found does not matter to the other functions. -/
lemma OtherFunctions.LeaveFlash.withSearch {σ γ : Type} {others : OtherFunctions (Proc σ)}
    {content : σ → γ} (h : others.LeaveFlash content o) (search : DeviceFn (Proc σ) Found) :
    { others with search }.LeaveFlash content o :=
  ⟨⟨h.boardClose, h.setRemoteIp, h.setLedMode, h.program, h.reload, h.reset, h.printInfo⟩, h.act⟩

/-- The board is found and opened, and closed behind the action. -/
lemma ProgramRun.exec_eq_ok_of_selects {r₀ ret : ℤ} (hselects : Selects r.args r₀ o)
    (hleave : r.others.LeaveFlash id o) (hty : b.boardOpen = some ty)
    (hopen : callOpen e b ty bootBlock = .ok (b', block)) :
    r.exec e b f = (.ok ret, g) ↔
      ∃ t close, ((r.functions e b).action b' o (boardAction o)).run
            ⟨⟨block, fun _ => 0, fun _ => 0, f⟩, [.search, .boardOpen]⟩ = (.ok ret, t) ∧
        b'.boardClose = some close ∧ g = t.state.dev := by
  have hcall : (r.functions e b).boardOpen ty b (.start f) =
      (.ok b', ⟨block, fun _ => 0, fun _ => 0, f⟩) :=
    functions_boardOpen_eq_ok.2 ⟨block, hopen, rfl⟩
  have hdevice : ((r.functions e b).onDevice o).run ⟨.start f, []⟩ =
      ((r.functions e b).onBoard b o).run ⟨.start f, [.search]⟩ := rfl
  rw [exec_eq_ok, hselects.main_eq_onDevice, hdevice]
  constructor
  · rintro ⟨t', hrun, rfl⟩
    obtain ⟨ty', b'', s, t, close, hty', hopen', haction, hclose, rfl⟩ := run_onBoard_eq_ok.1 hrun
    obtain rfl := Option.some.inj (hty.symm.trans hty')
    obtain ⟨hboard, rfl⟩ := Prod.mk.inj (hcall.symm.trans hopen')
    obtain rfl := Except.ok.inj hboard
    exact ⟨t, close, haction, hclose, hleave.boardClose close b' t.state⟩
  · rintro ⟨t, close, haction, hclose, rfl⟩
    exact ⟨_, run_onBoard_eq_ok.2 ⟨ty, b', _, t, close, hty, hcall, haction, hclose, rfl⟩,
      (hleave.boardClose close b' t.state).symm⟩

/-- A run that verifies. -/
lemma ProgramRun.exec_verify {r₀ : ℤ} {name : CStr} {q : Proc (Flash (chip k))}
    (hselects : Selects r.args r₀ o) (hleave : r.others.LeaveFlash id o)
    (haction : boardAction o = .file .verify name)
    (hty : b.boardOpen = some ty) (hopen : callOpen e b ty bootBlock = .ok (b', block))
    (hclose : b'.boardClose.isSome)
    (h : anyioDevVerifyFlash r.fs (boardAccess { e with fs := r.fs } b') (some b'.toBoard) name
      (o.int .fallback) ⟨block, fun _ => 0, fun _ => 0, f⟩ = .ok (0, q)) :
    r.exec e b f = (.ok 0, q.dev) := by
  obtain ⟨close, hclose⟩ := Option.isSome_iff_exists.1 hclose
  have himpl : Implements ((r.functions e b).anyioDevVerifyFlash b' name (o.int .fallback))
      (anyioDevVerifyFlash r.fs (boardAccess { e with fs := r.fs } b') (some b'.toBoard) name
        (o.int .fallback)) := implements_verifyFlash name _
  obtain ⟨t, hrun, rfl⟩ := himpl.exists_run
    (t := ⟨⟨block, fun _ => 0, fun _ => 0, f⟩, [.search, .boardOpen]⟩) h
  refine (exec_eq_ok_of_selects hselects hleave hty hopen).2 ⟨t, close, ?_, hclose, rfl⟩
  rw [haction]
  exact hrun

/-- A run that writes and verifies. -/
lemma ProgramRun.exec_write {r₀ : ℤ} {name : CStr} {p q : Proc (Flash (chip k))}
    (hselects : Selects r.args r₀ o) (hleave : r.others.LeaveFlash id o)
    (haction : boardAction o = .file .write name)
    (hauto : o.flag .autoVerify ≠ 0) (hreload : o.flag .reload ≠ 1)
    (hty : b.boardOpen = some ty) (hopen : callOpen e b ty bootBlock = .ok (b', block))
    (hclose : b'.boardClose.isSome)
    (hwrite : anyioDevWriteFlash e.sha r.fs (boardAccess { e with fs := r.fs } b')
      (some b'.toBoard) name (o.int .fallback) (o.int .fixBoot) (o.int .sha256Check)
        ⟨block, fun _ => 0, fun _ => 0, f⟩ = .ok (0, p))
    (hverify : anyioDevVerifyFlash r.fs (boardAccess { e with fs := r.fs } b') (some b'.toBoard)
      name (o.int .fallback) p = .ok (0, q)) :
    r.exec e b f = (.ok 0, q.dev) := by
  obtain ⟨close, hclose⟩ := Option.isSome_iff_exists.1 hclose
  have hwrites : Implements ((r.functions e b).anyioDevWriteFlash b' name (o.int .fallback)
        (o.int .fixBoot) (o.int .sha256Check))
      (anyioDevWriteFlash e.sha r.fs (boardAccess { e with fs := r.fs } b') (some b'.toBoard) name
        (o.int .fallback) (o.int .fixBoot) (o.int .sha256Check)) := implements_writeFlash name _ _ _
  have hverifies : Implements ((r.functions e b).anyioDevVerifyFlash b' name (o.int .fallback))
      (anyioDevVerifyFlash r.fs (boardAccess { e with fs := r.fs } b') (some b'.toBoard) name
        (o.int .fallback)) := implements_verifyFlash name _
  obtain ⟨t₁, hrun₁, rfl⟩ := hwrites.exists_run
    (t := ⟨⟨block, fun _ => 0, fun _ => 0, f⟩, [.search, .boardOpen]⟩) hwrite
  obtain ⟨t₂, hrun₂, rfl⟩ := hverifies.exists_run hverify
  refine (exec_eq_ok_of_selects hselects hleave hty hopen).2 ⟨t₂, close, ?_, hclose, rfl⟩
  have hsecond : (onSuccess 0 (o.flag .autoVerify ≠ 0)
      ((r.functions e b).anyioDevVerifyFlash b' name (o.int .fallback))).run t₁ = (.ok 0, t₂) := by
    rw [onSuccess, if_pos ⟨rfl, hauto⟩]
    exact hrun₂
  have hthird : (onSuccess 0 (o.flag .reload = 1)
      ((r.functions e b).anyioDevReload b' (o.int .fallback))).run t₂ = (.ok 0, t₂) := by
    rw [onSuccess, if_neg fun h => hreload h.2]
    rfl
  rw [haction]
  exact (Traced.run_bind_of_ok hrun₁).trans ((Traced.run_bind_of_ok hsecond).trans hthird)

lemma Scene.OnChip.withFs (he : e.OnChip) (fs : FileSystem) : { e with fs := fs }.OnChip :=
  ⟨he.readPage, he.writePage, he.eraseSector, he.known, he.size⟩

/-- A run that leaves an image alone leaves its area and a good boot block as they are. -/
lemma ProgramRun.LeavesImage.exec (he : e.OnChip) (hflash : b.flash ≠ .none)
    (husb : b.boardOpen ≠ some .usb) (hty : b.boardOpen = some ty)
    (hopen : callOpen e b ty bootBlock = .ok (b', block)) {fallback : ℤ}
    (h : r.LeavesImage b'.toBoard fallback) (hboot : HasBootBlock b'.toBoard → BootOk block f)
    {ret : ℤ} (hexec : r.exec e b f = (.ok ret, g)) :
    SameIn (targetArea b'.toBoard fallback) f g ∧ (HasBootBlock b'.toBoard → BootOk block g) := by
  have hon : OpenOn e b' block := callOpen_onChip he hflash (fun h => husb (h ▸ hty)) hopen
  have hsize : (chip k).size = eepromGetFlashSize b'.flashId := by rw [hon.flashId, he.size]
  by_cases hwrite : ∃ r₀ o name, Selects r.args r₀ o ∧ boardAction o = .file .write name
  · -- the other image is written
    obtain ⟨r₀, o, name, hselects, haction⟩ := hwrite
    obtain ⟨hleave, himage⟩ := h r₀ o hselects
    obtain ⟨hboard, hother, data, hnode, hfit⟩ := (himage name).2 haction
    obtain ⟨t, _, hrun, -, rfl⟩ := (exec_eq_ok_of_selects hselects hleave hty hopen).1 hexec
    rw [haction] at hrun
    obtain ⟨ret', p, hcall, hdev, -⟩ :=
      run_write_eq_ok (he.withFs r.fs).readsLeave (hleave.withSearch _) haction hrun
    rw [(he.withFs r.fs).boardAccess_eq hon.access] at hcall
    have hsame := writeFlash_inside hon.opened hsize hnode hfit hboot hcall
    rw [← hdev] at hsame
    refine ⟨fun c hlo hhi => hsame c (targetArea_apart hboard hother ⟨hlo, hhi⟩), fun hboard => ?_⟩
    exact (hsame.bootOk (sectorSize_le_targetArea hboard _) _).2 (hboot hboard)
  · -- the flash memory is only read
    obtain ⟨t', hrun, rfl⟩ := exec_eq_ok.1 hexec
    have hsame : t'.state.dev = f := by
      refine maintains_main (he.withFs r.fs).readsLeave ?_ ?_ ⟨.start f, []⟩ _ t' rfl hrun
      · intro p found p' hp
        obtain ⟨-, rfl⟩ := Prod.mk.inj hp
        rfl
      · intro r₀ o hselects
        obtain ⟨hleave, himage⟩ := h r₀ o hselects
        exact ⟨(hleave.withSearch _).toCallsLeaveFlash, (hleave.withSearch _).actsMaintain,
          fun name => ⟨fun haction => hwrite ⟨r₀, o, name, hselects, haction⟩, (himage name).1⟩⟩
    rw [hsame]
    exact ⟨fun _ _ _ => rfl, hboot⟩

/-- So do any number of such runs. -/
lemma History.leavesImage (he : e.OnChip) (hflash : b.flash ≠ .none)
    (husb : b.boardOpen ≠ some .usb) (hty : b.boardOpen = some ty)
    (hopen : callOpen e b ty bootBlock = .ok (b', block)) {fallback : ℤ} {l : List (ProgramRun k)}
    (hl : ∀ r ∈ l, r.LeavesImage b'.toBoard fallback) (h : History e b f l g)
    (hboot : HasBootBlock b'.toBoard → BootOk block f) :
    SameIn (targetArea b'.toBoard fallback) f g ∧ (HasBootBlock b'.toBoard → BootOk block g) := by
  induction h with
  | nil f => exact ⟨fun _ _ _ => rfl, hboot⟩
  | cons hrun hrest ih =>
      obtain ⟨hleaves, hl⟩ := List.forall_mem_cons.1 hl
      obtain ⟨hsame, hboot'⟩ := hleaves.exec he hflash husb hty hopen hboot hrun
      obtain ⟨hsame', hboot''⟩ := ih hl hboot'
      exact ⟨fun c hlo hhi => (hsame' c hlo hhi).trans (hsame c hlo hhi), hboot''⟩

/-- **A history of runs.**  A run has written and verified an image, of at least a chunk, that fits
its area.  Any number of runs have followed that have read, or written the other image, with success
or not.  Then a run that is asked to verify the image finds it, and returns 0. -/
theorem history_verifies (he : e.OnChip) (hflash : b.flash ≠ .none)
    (husb : b.boardOpen ≠ some .usb) (hty : b.boardOpen = some ty)
    (hopen : callOpen e b ty bootBlock = .ok (b', block)) {w v : ProgramRun k} {r₁ r₂ : ℤ}
    {ow ov : Options} {name : CStr} (hw : Selects w.args r₁ ow)
    (hwleave : w.others.LeaveFlash id ow)
    (hwrite : boardAction ow = .file .write name) (hauto : ow.flag .autoVerify ≠ 0)
    {data : List UInt8} (hnode : w.fs.node name = some (.regular data true false))
    (hlong : chunkSize ≤ (payload data).length)
    (hfit : neededSectors data.length ≤ (targetArea b'.toBoard (ow.int .fallback)).sectors)
    {f₀ : Flash (chip k)} (hexec : w.exec e b f₀ = (.ok 0, f)) {l : List (ProgramRun k)}
    (hl : ∀ r ∈ l, r.LeavesImage b'.toBoard (ow.int .fallback)) (hhistory : History e b f l g)
    (hv : Selects v.args r₂ ov) (hvleave : v.others.LeaveFlash id ov)
    (hverify : boardAction ov = .file .verify name)
    (hfallback : ov.int .fallback = ow.int .fallback)
    (hfile : v.fs.node name = w.fs.node name) :
    v.exec e b g = (.ok 0, g) := by
  have hon : OpenOn e b' block := callOpen_onChip he hflash (fun h => husb (h ▸ hty)) hopen
  have hk : k ≤ 8 := le_of_chip he.size
  have hsize : (chip k).size = eepromGetFlashSize b'.flashId := by rw [hon.flashId, he.size]
  -- the run that has written the image, and verified it
  obtain ⟨t, close, hrun, hclose, rfl⟩ :=
    (ProgramRun.exec_eq_ok_of_selects hw hwleave hty hopen).1 hexec
  rw [hwrite] at hrun
  obtain ⟨ret, p, hcall, hdev, hstatus⟩ :=
    run_write_eq_ok (he.withFs w.fs).readsLeave (hwleave.withSearch _) hwrite hrun
  obtain ⟨rfl, hverified⟩ := hstatus rfl
  obtain ⟨q, hverified⟩ := hverified hauto
  rw [(he.withFs w.fs).boardAccess_eq hon.access] at hcall hverified
  obtain ⟨hboot, -⟩ := written_image hk hon.opened hsize hnode hfit hcall
  obtain ⟨-, hwritten⟩ := anyioDevWriteFlash_eq_zero_iff.1 hcall
  obtain ⟨ret, part, fp, _, hhead, hret, -, -, hdata, -⟩ :=
    eepromWrite_norFlash hnode hwritten
  have hpay : payload data = fp.rest := by rw [payload, hhead]
  have hlen : fp.rest.length ≤ data.length := by
    rw [← hdata]
    exact fp.rest_length_le
  have hsome : b'.llio.verifyFlash.isSome := by
    by_contra hnone
    rw [Option.not_isSome_iff_eq_none] at hnone
    simp [anyioDevVerifyFlash, hnone, einval] at hverified
  rw [anyioDevVerifyFlash_of_isSome hsome, flashAddress_eq_lo hon.opened] at hverified
  -- the runs that have followed
  rw [hdev] at hhistory
  obtain ⟨hsame, hboot'⟩ := hhistory.leavesImage he hflash husb hty hopen hl hboot
  -- the run that verifies
  obtain ⟨q', hagain⟩ : ∃ q', eepromVerify v.fs (norFlash k) b'.toBoard name
      (targetArea b'.toBoard (ow.int .fallback)).lo ⟨block, fun _ => 0, fun _ => 0, g⟩ =
        .ok (0, q') :=
    eepromVerify_again hk hsize (targetArea_hi_le_size hon.opened hsize _) hfit hnode
      (hfile.trans hnode) hhead hret hlen (hpay ▸ hlong) hsame hboot' hverified
  rw [← (he.withFs v.fs).boardAccess_eq hon.access] at hagain
  have hdev' : q'.dev = g := content_eepromVerify (he.withFs v.fs).readsLeave hagain
  rw [← flashAddress_eq_lo hon.opened, ← anyioDevVerifyFlash_of_isSome hsome,
    ← hfallback] at hagain
  have hexec' := ProgramRun.exec_verify hv hvleave hverify hty hopen (by rw [hclose]; rfl) hagain
  rwa [hdev'] at hexec'

end Runs

/-! ### A card with two images -/

/-- A file that fits, for the part of the board, verifies in the process that has written it. -/
lemma eepromVerify_written {sha : Sha256} {board : Board} {fs : FileSystem} {name : CStr}
    {data : List UInt8} {start : ℕ} {fix shaFlag ret : ℤ} {part : Option CStr} {fp : File}
    {p p' : Proc (Flash (chip k))} (hk : k ≤ 8) (hstart : sectorSize ∣ start)
    (hnode : fs.node name = some (.regular data true false)) (hlt : data.length < 2 ^ 31)
    (hsize : data.length ≠ eepromGetFlashSize board.flashId)
    (hhead : printBitfileHeader (.start data false) = .ok (ret, part, fp)) (hret : ret ≠ -1)
    (hpart : partMatches board part = .ok true)
    (hboot : HasBootBlock board → BootOk p.bootBlock p'.dev)
    (hroom : pageSize * filePages fp.rest ≤ (chip k).size)
    (h : eepromWrite sha fs (norFlash k) board name start fix shaFlag p = .ok (0, p')) :
    ∃ q, eepromVerify fs (norFlash k) board name start p' = .ok (0, q) := by
  obtain ⟨ret', part', fp', pb, hhead', -, -, -, hdata, -, -, rfl⟩ := eepromWrite_norFlash hnode h
  obtain ⟨-, -, rfl⟩ : ret = ret' ∧ part = part' ∧ fp = fp' := by
    simpa using hhead.symm.trans hhead'
  have hlen : fp.rest.length ≤ data.length := by
    rw [← hdata]
    exact fp.rest_length_le
  have hpos : 0 < data.length := Nat.lt_of_lt_of_le (by decide) (length_of_header hhead hret)
  have haligned : ∀ x ∈ programmed (programBuffer board fix shaFlag data p) fp.rest start,
      (chip k).page ∣ x.1 := pageSize_dvd_programmed (Nat.dvd_trans (by decide) hstart)
  have hread := (Flash.programmable_iff haligned (repaired board fix p.bootBlock p.dev)).2
    ⟨fun x hx i => .inl (erased_programmed hk hstart hpos hlt hlen x hx i),
      programmed_apart hk hroom⟩
  refine (eepromVerify_image_iff hnode hsize hhead hret).2 ⟨hpart, hboot, ?_⟩
  dsimp only
  rw [programmed_drained]
  exact hread

/-- A file with a payload of a chunk. -/
def chunkFile : List UInt8 := headerTop.encode ++ List.replicate chunkSize 0x55

lemma length_chunkFile : chunkFile.length = headerTop.encode.length + chunkSize := by
  rw [chunkFile, List.length_append, List.length_replicate]

lemma printBitfileHeader_chunkFile : ∃ fp, printBitfileHeader (.start chunkFile false) =
      .ok (headerTop.encode.length, some (ascii "3s1000fg456"), fp) ∧
    fp.rest = List.replicate chunkSize 0x55 := by
  have hmap : (printBitfileHeader (.start chunkFile false)).map
      (fun r => (r.1, r.2.1, r.2.2.pos)) =
        .ok (headerTop.encode.length, some (ascii "3s1000fg456"), headerTop.encode.length) := by
    decide +kernel
  rcases hhead : printBitfileHeader (.start chunkFile false) with x | ⟨ret, part, fp⟩
  · rw [hhead] at hmap
    cases hmap
  · rw [hhead] at hmap
    obtain ⟨rfl, h⟩ := Prod.mk.inj (Except.ok.inj hmap)
    obtain ⟨rfl, hpos⟩ := Prod.mk.inj h
    refine ⟨fp, rfl, ?_⟩
    rw [File.rest, hpos, (printBitfileHeader_reads hhead).data]
    exact List.drop_left

lemma payload_chunkFile : payload chunkFile = List.replicate chunkSize 0x55 := by
  obtain ⟨fp, hhead, hrest⟩ := printBitfileHeader_chunkFile
  rw [payload, hhead, ← hrest]

/-- An Ethernet card with a boot block, and with the part that the file is for. -/
def partCard : BoardEntry :=
  { plainCard.withPart "3s1000fg456" with
    recover := 0
    fallbackSupport := 1 }

/-- The card, open. -/
def openCard : BoardEntry :=
  { partCard with
    flashId := idEeprom2M
    flashStartAddress := eepromCalcUserSpace idEeprom2M }

/-- Its boot block. -/
abbrev cardBlock : BootBlock := eepromPrepareBootBlock idEeprom2M bootBlock

lemma callOpen_partCard : callOpen blankScene partCard .eth bootBlock =
    .ok (openCard, cardBlock) := rfl

/-- The command on the file, for the image or the other one, in another process. -/
def commandRun (option : String) (fallback : Bool) : ProgramRun 2 where
  fs := FileSystem.empty.put (ascii "a.bit") chunkFile
  args := [ascii "--device", ascii "7i98"] ++ (if fallback then [ascii "--fallback"] else []) ++
    [ascii option, ascii "a.bit"]
  others := finding partCard

lemma selects_commandRun {option : String} {fallback : Bool} {op : FileOp}
    (h : getoptLong (commandRun option fallback).args =
      fileOptions op (if fallback then some .fallback else none)) (hop : op ≠ .info) :
    ∃ o, Selects (commandRun option fallback).args 0 o ∧
      boardAction o = .file op (ascii "a.bit") ∧ o.flag .autoVerify = 1 ∧
      o.int .fallback = (if fallback then 1 else 0) ∧ o.int .fixBoot = 0 ∧
      o.int .sha256Check = 0 ∧ o.flag .reload = 0 := by
  obtain ⟨o, hselects, haction, hflag⟩ := selects_fileOptions h hop (by cases fallback <;> simp)
  refine ⟨o, hselects, haction, ?_⟩
  simp only [Options.int, hflag]
  cases fallback <;> exact ⟨rfl, rfl, rfl, rfl, rfl⟩

/-- The command line to write one of the images. -/
lemma getoptLong_write (fallback : Bool) : getoptLong (commandRun "--write" fallback).args =
    fileOptions .write (if fallback then some .fallback else none) := by
  cases fallback <;> decide +kernel

lemma node_commandRun (option : String) (fallback : Bool) :
    (commandRun option fallback).fs.node (ascii "a.bit") = some (.regular chunkFile true false) :=
  FileSystem.node_put_self _ _ _

/-- The file fits into each area. -/
lemma chunkFile_fits (fallback : Bool) : neededSectors chunkFile.length ≤
    (targetArea openCard.toBoard (if fallback then 1 else 0)).sectors := by
  rw [length_chunkFile]
  cases fallback <;> decide +kernel

/-- An image is written and verified, behind a good boot block. -/
lemma exec_write (fallback : Bool) {f : Flash (chip 2)} (hboot : BootOk cardBlock f) :
    ∃ g, (commandRun "--write" fallback).exec blankScene partCard f = (.ok 0, g) ∧
      BootOk cardBlock g := by
  obtain ⟨o, hselects, haction, hauto, hfallback, hfix, hsha, hreload⟩ :=
    selects_commandRun (getoptLong_write fallback) (by decide)
  obtain ⟨fp, hhead, hrest⟩ := printBitfileHeader_chunkFile
  have hlen := length_chunkFile
  have hsmall : headerTop.encode.length + chunkSize < 2 ^ 16 := by decide +kernel
  have hopened : openCard.toBoard.Opened :=
    (callOpen_onChip onChip_blankScene (by decide) (by decide) callOpen_partCard).opened
  set area := targetArea openCard.toBoard (if fallback then 1 else 0) with harea
  have hfits : eSectors (toInt chunkFile.length) ≤ maxSectors openCard.toBoard area.lo := by
    rw [hlen, harea]
    cases fallback <;> decide +kernel
  have hroom : pageSize * filePages fp.rest ≤ (chip 2).size := by
    rw [hrest, filePages, List.length_replicate]
    decide
  set s : Proc (Flash (chip 2)) := ⟨cardBlock, fun _ => 0, fun _ => 0, f⟩ with hs
  obtain ⟨p, hp⟩ : ∃ p, eepromWrite blankScene.sha (commandRun "--write" fallback).fs (norFlash 2)
      openCard.toBoard (ascii "a.bit") area.lo 0 0 s = .ok (0, p) :=
    exists_eepromWrite (node_commandRun _ _) (rfl : writeShaCheck _ _ _ 0 _ = .ok s) hhead
      (by decide +kernel) (fun _ => by decide) (fun _ => .inl hboot) hfits
  have hwrite : anyioDevWriteFlash blankScene.sha (commandRun "--write" fallback).fs (norFlash 2)
      (some openCard.toBoard) (ascii "a.bit") (if fallback then 1 else 0) 0 0 s = .ok (0, p) := by
    rw [anyioDevWriteFlash_of_isSome rfl, flashAddress_eq_lo hopened]
    exact hp
  obtain ⟨hboot', -⟩ := written_image (by decide) hopened (by decide) (node_commandRun _ _)
    (chunkFile_fits fallback) hwrite
  obtain ⟨q, hq⟩ : ∃ q, eepromVerify (commandRun "--write" fallback).fs (norFlash 2)
      openCard.toBoard (ascii "a.bit") area.lo p = .ok (0, q) :=
    eepromVerify_written (by decide) (by rw [harea]; cases fallback <;> decide)
      (node_commandRun _ _) (by omega) (by rw [hlen]; decide +kernel) hhead (by decide +kernel)
      (by decide) hboot' hroom hp
  have hchip : { blankScene with fs := (commandRun "--write" fallback).fs }.OnChip :=
    onChip_blankScene.withFs _
  have haccess : boardAccess { blankScene with fs := (commandRun "--write" fallback).fs } openCard =
      norFlash 2 := hchip.boardAccess_eq rfl
  have hsame : q.dev = p.dev := content_eepromVerify (b := openCard) hchip.readsLeave <| by
    rw [haccess]
    exact hq
  refine ⟨q.dev, ProgramRun.exec_write (p := p) (q := q) hselects (leaveFlash_reporting _ _)
    haction ?_ ?_ rfl callOpen_partCard rfl ?_ ?_, ?_⟩
  · rw [hauto]
    decide
  · rw [hreload]
    decide
  · rw [haccess, hfallback, hfix, hsha]
    exact hwrite
  · rw [haccess, hfallback, anyioDevVerifyFlash_of_isSome rfl, flashAddress_eq_lo hopened]
    exact hq
  · rw [hsame]
    exact hboot' (by decide)

/-- `--device 7i98`. -/
def printArgs : List CStr := [ascii "--device", ascii "7i98"]

lemma selects_printArgs : ∃ o, Selects printArgs 0 o ∧ boardAction o = .printInfo := by
  have hargs : getoptLong printArgs = [.opt .device (ascii "7i98")] := by decide +kernel
  obtain ⟨o, h⟩ := processCmdLine_ret_zero_iff.2 <| by
    rw [hargs]
    exact show AllAcceptable [] _ from ⟨by simp [Acceptable], trivial⟩
  have hnone : NoAction (getoptLong printArgs) := by
    rw [hargs]
    refine ⟨by simp [optionsOf], ?_, rfl⟩
    simp [askedAction]
  have hselects : Selects printArgs 0 o := selects_of_hidden h (.inr hnone)
  obtain ⟨hboard, hfile⟩ := hselects.noAction_iff.1 hnone
  have hreload : ¬ o.flag .reload = 1 := by
    rw [hselects.flag_eq_one_iff (by decide), hargs]
    simp [optionsOf]
  have hreset : ¬ o.flag .reset = 1 := by
    rw [hselects.flag_eq_one_iff (by decide), hargs]
    simp [optionsOf]
  refine ⟨o, hselects, ?_⟩
  rw [boardAction, hboard, hfile]
  dsimp only
  rw [if_neg hreload, if_neg hreset]

/-- A run that prints what the board is. -/
def printRun : ProgramRun 2 := ⟨.empty, printArgs, finding partCard⟩

/-- The board is only printed. -/
lemma exec_print (f : Flash (chip 2)) : printRun.exec blankScene partCard f = (.ok 0, f) := by
  obtain ⟨o, hselects, haction⟩ := selects_printArgs
  refine (ProgramRun.exec_eq_ok_of_selects hselects (leaveFlash_reporting _ _) rfl
    callOpen_partCard).2 ⟨⟨⟨cardBlock, fun _ => 0, fun _ => 0, f⟩,
      [.search, .boardOpen, .printInfo]⟩, .eth, ?_, rfl, rfl⟩
  rw [haction]
  rfl

/-- Behind the boot block the memory is empty. -/
def bootFlash : Flash (chip 2) := withBootBlock cardBlock fun _ => 0xFF

/-- An image is written, the board is printed, the other image is written, and the first one is
verified. -/
theorem history_verifies_twoImages : ∃ f g,
    (commandRun "--write" false).exec blankScene partCard bootFlash = (.ok 0, f) ∧
      History blankScene partCard f [printRun, commandRun "--write" true] g ∧
        (commandRun "--verify" false).exec blankScene partCard g = (.ok 0, g) := by
  obtain ⟨ow, hw, hwrite, hauto, hfallback, -⟩ :=
    selects_commandRun (getoptLong_write false) (by decide)
  obtain ⟨oo, ho, hother, -, hfallback₂, -⟩ :=
    selects_commandRun (getoptLong_write true) (by decide)
  obtain ⟨ov, hv, hverify, -, hfallback₃, -⟩ :=
    selects_commandRun (show getoptLong (commandRun "--verify" false).args =
      fileOptions .verify (if false then some .fallback else none) by decide +kernel) (by decide)
  obtain ⟨f, hexec, hboot⟩ := exec_write false (bootOk_withBootBlock cardBlock fun _ => 0xFF)
  obtain ⟨g, hexec', -⟩ := exec_write true hboot
  have hhistory : History blankScene partCard f [printRun, commandRun "--write" true] g :=
    .cons (exec_print f) (.cons hexec' (.nil g))
  refine ⟨f, g, hexec, hhistory, history_verifies onChip_blankScene (by decide) (by decide) rfl
    callOpen_partCard hw (leaveFlash_reporting _ _) hwrite ?_ (node_commandRun _ _) ?_ ?_ hexec ?_
      hhistory hv (leaveFlash_reporting _ _) hverify ?_ rfl⟩
  · rw [hauto]
    decide
  · rw [payload_chunkFile, List.length_replicate]
  · rw [hfallback]
    exact chunkFile_fits false
  · rw [hfallback]
    refine List.forall_mem_cons.2 ⟨fun ret o hselects => ?_, List.forall_mem_singleton.2
      fun ret o hselects => ?_⟩
    · obtain ⟨o', hselects', haction⟩ := selects_printArgs
      obtain ⟨-, rfl⟩ :=
        Parsed.ret.inj (Except.ok.inj (hselects'.parsed.symm.trans hselects.parsed))
      rw [haction]
      exact ⟨leaveFlash_reporting _ _, fun name => ⟨by simp, by simp⟩⟩
    · obtain ⟨-, rfl⟩ := Parsed.ret.inj (Except.ok.inj (ho.parsed.symm.trans hselects.parsed))
      refine ⟨leaveFlash_reporting _ _, fun name => ?_⟩
      rw [hother, hfallback₂]
      refine ⟨by simp, fun hname => ⟨by decide, by decide, chunkFile, ?_, chunkFile_fits true⟩⟩
      obtain ⟨-, rfl⟩ := Action.file.inj hname
      exact node_commandRun _ _
  · rw [hfallback, hfallback₃]

end Mesaflash
