import Mesaflash.SceneRun
import Mesaflash.ExitStatus
import Mesaflash.BootPath

/-!
What a run of the program does to the flash memory.

A command line, the choice of an action, a board that is opened, a command of `anyio.c` and a
function of `eeprom.c` are one run of `main`.  Of the functions of `eeprom.c` only those behind
`--write` and `--restore-flash` change the flash memory; what the other functions of a board do
to it is up to them (`OtherFunctions.LeaveFlash`), and only those matter that the command line
leads to (`maintains_main`).  When the program was asked to write and says with its exit status
that it did, the file is in the flash memory (`main_writes`).
-/

namespace Mesaflash

open Lib

/-! ### Runs that read -/

section Reads

variable {σ γ : Type} {e : Scene σ} {b : BoardEntry} {o : Options}
  {others : OtherFunctions (Proc σ)} {content : σ → γ} {c : γ}

/-- Access to a flash memory that can be read only. -/
def SpiEepromDev.readOnly (acc : SpiEepromDev σ) : SpiEepromDev σ where
  readPage := acc.readPage
  writePage _ _ s := .ok s
  eraseSector _ s := .ok s

/-- What is in the flash memory is not changed by reading it. -/
def Scene.ReadsLeave (e : Scene σ) (content : σ → γ) : Prop :=
  ∀ a s page s', e.readPage a s = some (page, s') → content s' = content s

lemma preserves_readOnly (he : e.ReadsLeave content) (b : BoardEntry) (c : γ) :
    (boardAccess e b).readOnly.PreservesOr (fun s => content s = c) fun _ => True where
  readPage a s hs := by
    simp only [SpiEepromDev.readOnly, boardAccess]
    refine .bind (yields_true _) fun _ _ => ?_
    cases hread : e.readPage a s with
    | none => exact .error trivial
    | some r =>
        refine .ok ?_
        exact (he a s r.1 r.2 hread).trans hs
  writePage _ _ _ hs := .ok hs
  eraseSector _ _ hs := .ok hs

/-- `eeprom_verify` only reads. -/
lemma content_eepromVerify (he : e.ReadsLeave content) {board : Board} {name : CStr} {start : ℕ}
    {p p' : Proc σ} {ret : ℤ}
    (h : eepromVerify e.fs (boardAccess e b) board name start p = .ok (ret, p')) :
    content p'.dev = content p.dev := by
  have hread : eepromVerify e.fs (boardAccess e b).readOnly board name start p = .ok (ret, p') := h
  have hkeeps : Keeps (fun s => content s = content p.dev) p.bootBlock p := ⟨rfl, rfl⟩
  exact ((keeps_eepromVerify (fun _ _ => trivial) (preserves_readOnly he b (content p.dev))
    (fun _ => trivial) hkeeps start).of_eq_ok hread).dev

/-- `flash_backup` only reads. -/
lemma content_flashBackup (he : e.ReadsLeave content) {io : WriteIo} {autoName : CStr}
    {board : Board} {name : CStr} {p p' : Proc σ} {ret : ℤ} {fs : FileSystem}
    (h : flashBackup e.sha e.fs (boardAccess e b) io autoName board name p = .ok (ret, fs, p')) :
    content p'.dev = content p.dev := by
  have hread : flashBackup e.sha e.fs (boardAccess e b).readOnly io autoName board name p =
      .ok (ret, fs, p') := h
  have hkeeps : Keeps (fun s => content s = content p.dev) p.bootBlock p := ⟨rfl, rfl⟩
  exact ((keeps_flashBackup (fun _ _ => trivial) (preserves_readOnly he b (content p.dev))
    hkeeps io autoName).of_eq_ok hread).dev

/-- The flash memory holds something. -/
abbrev HasContent (content : σ → γ) (c : γ) (p : Proc σ) : Prop := content p.dev = c

/-- A function of a board leaves the flash memory alone. -/
def Stays (content : σ → γ) {α : Type} (f : DeviceFn (Proc σ) α) : Prop :=
  ∀ p a p', f p = (.ok a, p') → content p'.dev = content p.dev

lemma Stays.maintains {α : Type} {f : DeviceFn (Proc σ) α} (h : Stays content f) :
    Maintains (HasContent content c) (.lift f : Session (Proc σ) α) :=
  .lift fun p a p' hp hf => (h p a p' hf).trans hp

/-- The functions that a command line leads to, besides those of `eeprom.c` and the actions that
report nothing, leave the flash memory alone. -/
structure OtherFunctions.CallsLeaveFlash (fns : OtherFunctions (Proc σ)) (content : σ → γ)
    (o : Options) : Prop where
  boardClose : ∀ f b p, content (fns.boardClose f b p).dev = content p.dev
  setRemoteIp : boardAction o = .board .setRemoteIp →
    Stays content (fns.ethSetRemoteIp o.lbp16SetIpAddr)
  setLedMode : boardAction o = .board .setLedMode →
    Stays content (fns.ethSetLedMode o.lbp16SetLedMode)
  program : ∀ name, boardAction o = .file .program name →
    (∀ f b, Stays content (fns.reset f b)) ∧ ∀ f b, Stays content (fns.programFpga f b name)
  -- a reload may also follow a write
  reload : boardAction o = .reload ∨ (∃ name, boardAction o = .file .write name) ∧
      o.flag .reload = 1 → ∀ f b, Stays content (fns.reload f b (o.int .fallback))
  reset : boardAction o = .reset → ∀ f b, Stays content (fns.reset f b)
  printInfo : boardAction o = .printInfo → ∀ f b, Stays content (fns.printInfo f b)

/-- An action that the command line leads to leaves the flash memory as it is. -/
def OtherFunctions.ActsMaintain (fns : OtherFunctions (Proc σ)) (content : σ → γ) (c : γ)
    (o : Options) : Prop :=
  ∀ a b, boardAction o = .board a →
    Maintains (HasContent content c) (.lift (fns.act a o b) : Session (Proc σ) Unit)

/-- So do the actions, whatever the flash memory holds. -/
structure OtherFunctions.LeaveFlash (fns : OtherFunctions (Proc σ)) (content : σ → γ)
    (o : Options) : Prop extends fns.CallsLeaveFlash content o where
  act : ∀ a b, boardAction o = .board a → Stays content (fns.act a o b)

lemma OtherFunctions.LeaveFlash.actsMaintain {fns : OtherFunctions (Proc σ)}
    (h : fns.LeaveFlash content o) : fns.ActsMaintain content c o :=
  fun a b ha => (h.act a b ha).maintains

/-- A function that leaves the process alone. -/
lemma stays_quiet {α : Type} (f : Proc σ → Except Fault (α × Proc σ))
    (h : ∀ p, Delivers (fun r => r.2 = p) (f p)) : Stays content (deviceFn f) := by
  intro p a p' hrun
  rw [show p' = p from (h p).of_eq_ok (deviceFn_eq_ok.1 hrun)]

lemma stays_report {α : Type} (a : α) : Stays content (deviceFn fun p : Proc σ => .ok (a, p)) :=
  stays_quiet _ fun _ => .ok rfl

/-- Functions that only report leave the flash memory alone. -/
lemma leaveFlash_reporting (search : DeviceFn (Proc σ) Found) (programmed : ℤ) :
    (e.reporting search programmed).LeaveFlash content o where
  boardClose _ _ _ := rfl
  act _ _ _ := stays_quiet _ fun _ => .bind (yields_true _) fun _ _ => .ok rfl
  setRemoteIp _ := stays_report e.setRemoteIp
  setLedMode _ := stays_report e.setLedMode
  program _ _ := ⟨fun f _ => stays_report (e.reset f), fun _ _ => stays_report programmed⟩
  reload _ f _ := stays_report (e.reload f (o.int .fallback))
  reset _ f _ := stays_report (e.reset f)
  printInfo _ _ _ := stays_quiet _ fun _ => .bind (yields_true _) fun _ _ => .ok rfl

lemma maintains_callBoard {I : Proc σ → Prop} {op : DeviceOp} {f : DeviceFn (Proc σ) ℤ}
    (h : Maintains I (.lift f : Session (Proc σ) ℤ)) : Maintains I (callBoard op f) :=
  h.bind fun _ => (Maintains.emit _).bind fun _ => .pure _

lemma maintains_callAnyio {I : Proc σ → Prop} {op : DeviceOp} {x : Session (Proc σ) ℤ}
    (h : Maintains I x) : Maintains I (callAnyio op x) :=
  h.bind fun _ => (Maintains.emit _).bind fun _ => .pure _

lemma maintains_viaPointer {I : Proc σ → Prop} {α : Type} {op : DeviceOp} {p : Option α}
    {f : α → DeviceFn (Proc σ) ℤ} (h : ∀ g, Maintains I (.lift (f g) : Session (Proc σ) ℤ)) :
    Maintains I (viaPointer op p f) := by
  refine maintains_callAnyio ?_
  cases p with
  | none => exact .pure _
  | some g => exact maintains_callBoard (h g)

lemma maintains_viaEth {I : Proc σ → Prop} {op : DeviceOp} {f : DeviceFn (Proc σ) ℤ}
    (h : Maintains I (.lift f : Session (Proc σ) ℤ)) : Maintains I (viaEth op b f) := by
  refine maintains_callAnyio ?_
  split
  · exact maintains_callBoard h
  · exact .pure _

lemma maintains_onSuccess {I : Proc σ → Prop} {ret : ℤ} {cond : Prop} [Decidable cond]
    {x : Session (Proc σ) ℤ} (h : Maintains I x) : Maintains I (onSuccess ret cond x) := by
  unfold onSuccess
  split
  · exact h
  · exact .pure _

section Actions

variable (he : e.ReadsLeave content)

lemma maintains_reload {fallback : ℤ}
    (h : ∀ f b, Stays content (others.reload f b fallback)) :
    Maintains (HasContent content c) ((e.functions others).anyioDevReload b fallback) :=
  maintains_viaPointer fun f => (h f b).maintains

include he

lemma maintains_verify (name : CStr) (fallback : ℤ) :
    Maintains (HasContent content c)
      ((e.functions others).anyioDevVerifyFlash b name fallback) :=
  maintains_viaPointer fun _ => (implements_lift _).maintains fun _ _ _ hp h =>
    (content_eepromVerify he h).trans hp

lemma maintains_backup (name : CStr) :
    Maintains (HasContent content c) ((e.functions others).anyioDevBackupFlash b name) := by
  refine maintains_viaPointer fun _ => (implements_lift _).maintains fun p ret p' hp h => ?_
  obtain ⟨⟨ret', fs, p₁⟩, hbackup, h⟩ := bind_eq_ok.1 h
  obtain ⟨-, rfl⟩ := Prod.mk.inj (Except.ok.inj h)
  exact (content_flashBackup he hbackup).trans hp

/-- Every action but `--write` and `--restore-flash` changes the flash memory only if the function
of the board that it leads to does. -/
lemma maintains_action (h : others.CallsLeaveFlash content o)
    (hact : others.ActsMaintain content c o) (hwrite : ∀ name, boardAction o ≠ .file .write name)
    (hrestore : ∀ name, boardAction o ≠ .file .restoreFlash name) :
    Maintains (HasContent content c) ((e.functions others).action b o (boardAction o)) := by
  cases ha : boardAction o with
  | board a =>
      cases a with
      | setRemoteIp => exact maintains_viaEth (h.setRemoteIp ha).maintains
      | setLedMode => exact maintains_viaEth (h.setLedMode ha).maintains
      | _ =>
          exact (Maintains.emit _).bind fun _ => (hact _ b ha).bind fun _ => .pure _
  | file op name =>
      cases op with
      | write => exact absurd ha (hwrite name)
      | restoreFlash => exact absurd ha (hrestore name)
      | verify => exact maintains_verify he name _
      | backupFlash => exact maintains_backup he name
      | program =>
          obtain ⟨hreset, hprogram⟩ := h.program name ha
          refine maintains_callAnyio ?_
          cases b.reset with
          | none => exact .pure _
          | some f =>
              cases b.programFpga with
              | none => exact .pure _
              | some g =>
                  refine (maintains_callBoard (hreset f b).maintains).bind fun ret => ?_
                  split
                  · exact .pure _
                  · exact (maintains_callBoard (hprogram g b).maintains).bind fun _ => .pure _
      | info => exact .pure _
  | reload => exact (maintains_reload (h.reload (.inl ha))).bind fun _ => .pure _
  | reset =>
      exact (maintains_viaPointer fun f => (h.reset ha f b).maintains).bind fun _ => .pure _
  | printInfo =>
      exact (Maintains.ofExcept _).bind fun f => (Maintains.emit _).bind fun _ =>
        (h.printInfo ha f b).maintains.bind fun _ => .pure _

/-- The part of `main` behind the choice of a board. -/
lemma maintains_onDevice (hsearch : Stays content others.search)
    (h : others.CallsLeaveFlash content o) (hact : others.ActsMaintain content c o)
    (hwrite : ∀ name, boardAction o ≠ .file .write name)
    (hrestore : ∀ name, boardAction o ≠ .file .restoreFlash name) :
    Maintains (HasContent content c) ((e.functions others).onDevice o) := by
  refine (Maintains.emit _).bind fun _ => hsearch.maintains.bind fun found => ?_
  cases found with
  | noAccess => exact .pure _
  | notFound => exact .pure _
  | board b =>
      refine (Maintains.ofExcept _).bind fun f => (Maintains.emit _).bind fun _ =>
        Maintains.bind ?_ fun b' => (maintains_action he h hact hwrite hrestore).bind fun ret =>
          (Maintains.ofExcept _).bind fun g => (Maintains.emit _).bind fun _ =>
            Maintains.bind ?_ fun _ => .pure _
      · refine (implements_lift _).maintains fun p b₁ p' hp h => ?_
        obtain ⟨⟨b₂, block⟩, -, h⟩ := bind_eq_ok.1 h
        obtain ⟨-, rfl⟩ := Prod.mk.inj (Except.ok.inj h)
        exact hp
      · refine .lift fun p _ p' hp hclose => ?_
        obtain ⟨-, rfl⟩ := Prod.mk.inj hclose
        exact (h.boardClose g b' p).trans hp

end Actions

/-- **Of all that `main` does only `--write` and `--restore-flash` change the flash memory**, but
for functions of the board that the command line leads to. -/
theorem maintains_main (he : e.ReadsLeave content) (hsearch : Stays content others.search)
    {args : List CStr}
    (hargs : ∀ r o, Selects args r o → others.CallsLeaveFlash content o ∧
      others.ActsMaintain content c o ∧
      ∀ name, boardAction o ≠ .file .write name ∧ boardAction o ≠ .file .restoreFlash name) :
    Maintains (HasContent content c) ((e.functions others).main args) := by
  by_cases hselects : ∃ r o, Selects args r o
  · obtain ⟨r, o, hselects⟩ := hselects
    obtain ⟨hcalls, hact, hothers⟩ := hargs r o hselects
    rw [hselects.main_eq_onDevice]
    exact maintains_onDevice he hsearch hcalls hact (fun name => (hothers name).1)
      fun name => (hothers name).2
  · intro t ret t' hp hrun
    have hsame := run_main_of_not_selects (e.functions others)
      (fun r o h => hselects ⟨r, o, h⟩) t
    rw [hrun] at hsame
    obtain rfl : t' = t := hsame
    exact hp

end Reads

/-! ### Runs that write -/

section Writes

variable {k : ℕ} {e : Scene (Flash (chip k))} {b b' : BoardEntry} {o : Options} {f : BoardType}
  {block block' : BootBlock} {others : OtherFunctions (Proc (Flash (chip k)))}

/-- A board with a flash memory of `k` megabits, which says so. -/
structure Scene.OnChip (e : Scene (Flash (chip k))) : Prop where
  readPage : ∀ a f, e.readPage a f = some (Flash.readPage f a, f)
  writePage : ∀ a page f, e.writePage a page f = some (Flash.programPage a page f)
  eraseSector : ∀ a f, e.eraseSector a f = some (Flash.eraseSector a f)
  known : KnownFlashId e.flashId
  size : (chip k).size = eepromGetFlashSize e.flashId

/-- The bytes come to the flash memory. -/
lemma Scene.OnChip.boardAccess_eq (he : e.OnChip) (huse : useAccess b = .ok ()) :
    boardAccess e b = norFlash k := by
  simp only [boardAccess, huse, he.readPage, he.writePage, he.eraseSector]
  rfl

/-- A board with a flash memory, when it has been opened. -/
structure OpenOn (e : Scene (Flash (chip k))) (b : BoardEntry) (block : BootBlock) : Prop where
  opened : b.toBoard.Opened
  flashId : b.flashId = e.flashId
  access : useAccess b = .ok ()
  block : HasBootBlock b.toBoard → block = eepromPrepareBootBlock e.flashId bootBlock

lemma openFlash_onChip (he : e.OnChip) (hflash : b.flash ≠ .none)
    (h : openFlash e b bootBlock = .ok (b', block)) : OpenOn e b' block := by
  obtain ⟨⟨⟩, huse, h⟩ := bind_eq_ok.1 h
  have hend := Except.ok.inj h
  simp only [idFound] at hend
  have haccess : ∀ id start, useAccess { b with flashId := id, flashStartAddress := start } =
      .ok () := fun id start => (if_neg hflash).trans huse
  split at hend
  · next hfallback =>
    obtain ⟨rfl, rfl⟩ := Prod.mk.inj hend
    exact ⟨⟨he.known, (if_pos hfallback).symm⟩, rfl, haccess _ _, fun _ => rfl⟩
  · next hfallback =>
    obtain ⟨rfl, rfl⟩ := Prod.mk.inj hend
    exact ⟨⟨he.known, (if_neg hfallback).symm⟩, rfl, haccess _ _,
      fun hboard => absurd hboard.1 hfallback⟩

lemma callOpen_onChip (he : e.OnChip) (hflash : b.flash ≠ .none) (husb : f ≠ .usb)
    (h : callOpen e b f bootBlock = .ok (b', block)) : OpenOn e b' block := by
  cases f with
  | usb => exact absurd rfl husb
  | pci =>
      simp only [callOpen, pciBoardOpen] at h
      split at h
      · cases h
      · exact openFlash_onChip he hflash h
  | epp =>
      simp only [callOpen, eppBoardOpen] at h
      split at h
      · -- only the part number is set
        rw [if_pos (show (b.withPart _).flash ≠ .none from hflash)] at h
        exact openFlash_onChip he (show (b.withPart _).flash ≠ .none from hflash) h
      · exact openFlash_onChip he hflash h
  | spi => exact openFlash_onChip he hflash h
  | eth => exact openFlash_onChip he hflash h
  | ser => exact openFlash_onChip he hflash h

lemma Scene.OnChip.readsLeave (he : e.OnChip) : e.ReadsLeave id := by
  intro a s page s' h
  rw [he.readPage] at h
  exact (congrArg Prod.snd (Option.some.inj h)).symm

/-- A board is opened, and the boot block prepared. -/
lemma functions_boardOpen_eq_ok {p p' : Proc (Flash (chip k))} :
    (e.functions others).boardOpen f b p = (.ok b', p') ↔
      ∃ block, callOpen e b f p.bootBlock = .ok (b', block) ∧
        p' = { p with bootBlock := block } := by
  dsimp only [Scene.functions]
  rw [deviceFn_eq_ok, bind_eq_ok]
  constructor
  · rintro ⟨⟨b₁, block⟩, hcall, h⟩
    obtain ⟨rfl, rfl⟩ := Prod.mk.inj (Except.ok.inj h)
    exact ⟨block, hcall, rfl⟩
  · rintro ⟨block, hcall, rfl⟩
    exact ⟨_, hcall, rfl⟩

/-- What a write leaves behind in the flash memory is what `anyio_dev_write_flash` has left there.
The status is 0 only if this function has succeeded, and the verification, if there was one. -/
lemma run_write_eq_ok (he : e.ReadsLeave id) (hleave : others.LeaveFlash id o) {name : CStr}
    (haction : boardAction o = .file .write name) {t t' : Trace DeviceEvent _} {status : ℤ}
    (h : ((e.functions others).action b o (.file .write name)).run t = (.ok status, t')) :
    ∃ ret p, anyioDevWriteFlash e.sha e.fs (boardAccess e b) (some b.toBoard) name
        (o.int .fallback) (o.int .fixBoot) (o.int .sha256Check) t.state = .ok (ret, p) ∧
      t'.state.dev = p.dev ∧
      (status = 0 → ret = 0 ∧ (o.flag .autoVerify ≠ 0 → ∃ q, anyioDevVerifyFlash e.fs
        (boardAccess e b) (some b.toBoard) name (o.int .fallback) p = .ok (0, q))) := by
  obtain ⟨ret, t₁, hwrite, h⟩ := Traced.run_bind_eq_ok.1 h
  obtain ⟨ret', t₂, hverify, hreload⟩ := Traced.run_bind_eq_ok.1 h
  have hdev : t₂.state.dev = t₁.state.dev :=
    maintains_onSuccess (maintains_verify he name _) t₁ ret' t₂ rfl hverify
  have hdev' : t'.state.dev = t₂.state.dev := by
    by_cases hflag : ret' = 0 ∧ o.flag .reload = 1
    · rw [onSuccess, if_pos hflag] at hreload
      exact maintains_reload (hleave.reload (.inr ⟨⟨name, haction⟩, hflag.2⟩)) t₂ status t' rfl
        hreload
    · rw [onSuccess, if_neg hflag] at hreload
      obtain ⟨-, rfl⟩ := Prod.mk.inj hreload
      rfl
  refine ⟨ret, t₁.state, (implements_writeFlash name _ _ _).eq_ok hwrite, hdev'.trans hdev, ?_⟩
  rintro rfl
  -- a status that is not 0 is passed on
  have hret' : ret' = 0 := by
    by_contra hne
    simp only [onSuccess, hne, false_and, if_false] at hreload
    exact hne (Except.ok.inj (Prod.mk.inj hreload).1)
  subst hret'
  have hret : ret = 0 := by
    by_contra hne
    simp only [onSuccess, hne, false_and, if_false] at hverify
    exact hne (Except.ok.inj (Prod.mk.inj hverify).1)
  subst hret
  refine ⟨rfl, fun hauto => ?_⟩
  rw [onSuccess, if_pos ⟨rfl, hauto⟩] at hverify
  exact ⟨t₂.state, (implements_verifyFlash name _).eq_ok hverify⟩

/-- **The exit status of a write tells the truth about the flash memory.**  The program was asked
to write, and has returned 0.  Then there is such a file, and if it fits, its payload is in the
area that was asked for, behind a good boot block where there has to be one; nothing else has
changed, but for a boot sector that had to be repaired.  A reload behind the write leaves the
flash memory alone. -/
theorem main_writes (he : e.OnChip) (hflash : b.flash ≠ .none) (husb : b.boardOpen ≠ some .usb)
    (hsearch : others.search (.start e.flash) = (.ok (.board b), .start e.flash))
    (hleave : others.LeaveFlash id o) {args : List CStr} {r : ℤ} {name : CStr}
    (hargs : Selects args r o) (haction : boardAction o = .file .write name)
    {t' : Trace DeviceEvent (Proc (Flash (chip k)))}
    (hrun : ((e.functions others).main args).run ⟨.start e.flash, []⟩ = (.ok 0, t')) :
    ∃ f b' block data, b.boardOpen = some f ∧ callOpen e b f bootBlock = .ok (b', block) ∧
      e.fs.node name = some (.regular data true false) ∧
      (neededSectors data.length ≤ (targetArea b'.toBoard (o.int .fallback)).sectors →
        (HasBootBlock b'.toBoard → BootOk block t'.state.dev) ∧
        (∀ i < (payload data).length,
          t'.state.dev (Flash.cell _ ((targetArea b'.toBoard (o.int .fallback)).lo + i)) =
            (payload data).getD i 0) ∧
        SameOutside (targetArea b'.toBoard (o.int .fallback))
          (repaired b'.toBoard (o.int .fixBoot) block e.flash) t'.state.dev) := by
  rw [hargs.main_eq_onDevice, run_onDevice_eq_zero] at hrun
  obtain ⟨_, _, hfind, hrun⟩ := hrun
  obtain ⟨hfound, rfl⟩ := Prod.mk.inj (hsearch.symm.trans hfind)
  obtain rfl := Found.board.inj (Except.ok.inj hfound)
  obtain ⟨f, b', s, t₁, g, hf, hopen, hdone, -, rfl⟩ := run_onBoard_eq_ok.1 hrun
  obtain ⟨block, hcall, rfl⟩ := functions_boardOpen_eq_ok.1 hopen
  have hon : OpenOn e b' block :=
    callOpen_onChip he hflash (fun husb' => husb (husb' ▸ hf)) hcall
  rw [haction] at hdone
  obtain ⟨ret, p, hwrite, hdev, hstatus⟩ := run_write_eq_ok he.readsLeave hleave haction hdone
  obtain ⟨rfl, -⟩ := hstatus rfl
  rw [he.boardAccess_eq hon.access] at hwrite
  obtain ⟨data, hnode⟩ := eepromWrite_file (anyioDevWriteFlash_eq_zero_iff.1 hwrite).2
  refine ⟨f, b', block, data, hf, hcall, hnode, fun hfit => ?_⟩
  have hsize : (chip k).size = eepromGetFlashSize b'.flashId := by rw [hon.flashId, he.size]
  obtain ⟨hboot, -, hpayload, hsame⟩ :=
    written_image (le_of_chip he.size) hon.opened hsize hnode hfit hwrite
  have hclose : ((e.functions others).boardClose g b' t₁.state).dev = p.dev :=
    (hleave.boardClose g b' t₁.state).trans hdev
  dsimp only
  rw [hclose]
  exact ⟨hboot, hpayload, hsame⟩

end Writes

/-! ### A card that is written to -/

/-- A scene with a blank flash memory and a short file. -/
def blankScene : Scene (Flash (chip 2)) where
  sha := .constant fun _ => 0
  fs := FileSystem.empty.put (ascii "a.bit") shortFile
  readPage a f := some (Flash.readPage f a, f)
  writePage a page f := some (Flash.programPage a page f)
  eraseSector a f := some (Flash.eraseSector a f)
  flash := fun _ => 0xFF
  flashId := idEeprom2M
  cpldByte := 0
  mapped := true
  uses _ := []
  io := .faultFree
  autoName := []
  reset _ := 0
  reload _ _ := 0
  setRemoteIp := 0
  setLedMode := 0

/-- An Ethernet card without a boot block, whose part is not looked at. -/
def plainCard : BoardEntry :=
  { ((BoardEntry.init .eth (ascii "7I98") 0).withFunctions .eth).withFlash .remoteFlash with
    flash := .remote
    recover := 1 }

/-- The options of a command on the file `a.bit`, with one other option or none. -/
def fileOptions (op : FileOp) (flag : Option Flag) : List OptEvent :=
  .opt .device (ascii "7i98") :: flag.toList.map (fun f => .opt (.flag f) []) ++
    [.opt (.file op) (ascii "a.bit")]

/-- They ask for the command, and for nothing else. -/
lemma selects_fileOptions {args : List CStr} {op : FileOp} {flag : Option Flag}
    (hargs : getoptLong args = fileOptions op flag) (hop : op ≠ .info)
    (hflag : flag = none ∨ flag = some .autoVerify ∨ flag = some .fallback) :
    ∃ o, Selects args 0 o ∧ boardAction o = .file op (ascii "a.bit") ∧
      ∀ f, o.flag f = if flag = some f then f.value else Options.start.flag f := by
  have hshort : (ascii "a.bit").length + 1 ≤ bitfileNameSize := by decide +kernel
  obtain ⟨o, h⟩ := processCmdLine_ret_zero_iff.2 <| by
    rw [hargs]
    cases flag with
    | none => exact show AllAcceptable [] _ from
        ⟨by simp [Acceptable], ⟨by simp [optionsOf], hshort⟩, trivial⟩
    | some f => exact show AllAcceptable [] _ from
        ⟨by simp [Acceptable], trivial, ⟨by simp [optionsOf], hshort⟩, trivial⟩
  obtain ⟨hcounts, hall⟩ := processCmdLine_ret_zero h
  have hreflects := reflects_processed h (by decide)
  rw [hall, hargs] at hreflects
  have hselects : Selects args 0 o := by
    refine ⟨h, by decide, ?_, hreflects.device.2 ⟨_, List.mem_cons_self, rfl⟩⟩
    rw [Ne, hreflects.file_eq_one_iff]
    cases flag <;> simp [fileOptions, fileArgs, hop.symm]
  have hchosen : chosen (processed args) = some op := by
    rw [hall, hargs]
    rcases hflag with rfl | rfl | rfl <;> cases op <;> rfl
  have hname : o.bitfileName = ascii "a.bit" := by
    cases flag <;> exact hreflects.name
  have hmain : main (fun _ => .ok ()) args = .ok (.run (.file op o.bitfileName)) :=
    (main_eq_file_iff h (by decide)).2 ⟨hchosen, rfl, fun _ => rfl⟩
  rw [hselects.main_eq, hname] at hmain
  refine ⟨o, hselects, MainEnd.run.inj (Except.ok.inj hmain), fun f => ?_⟩
  rw [hcounts.flag, hargs]
  rcases hflag with rfl | rfl | rfl <;> cases f <;> rfl

/-- `--device 7i98 --no-auto-verify --write a.bit`. -/
def writeArgs : List CStr :=
  [ascii "--device", ascii "7i98", ascii "--no-auto-verify", ascii "--write", ascii "a.bit"]

lemma getoptLong_writeArgs : getoptLong writeArgs = fileOptions .write (some .autoVerify) := by
  decide +kernel

lemma selects_writeArgs : ∃ o, Selects writeArgs 0 o ∧
    boardAction o = .file .write (ascii "a.bit") ∧
      ∀ f, o.flag f = 0 := by
  obtain ⟨o, hselects, haction, hflag⟩ :=
    selects_fileOptions getoptLong_writeArgs (by decide) (.inr (.inl rfl))
  exact ⟨o, hselects, haction, fun f => (hflag f).trans (by cases f <;> rfl)⟩

lemma onChip_blankScene : blankScene.OnChip :=
  ⟨fun _ _ => rfl, fun _ _ _ => rfl, fun _ _ => rfl, by decide, by decide⟩

/-- A board is found, and its other functions only report. -/
abbrev finding (b : BoardEntry) : OtherFunctions (Proc (Flash (chip 2))) :=
  blankScene.reporting (fun p => (.ok (.board b), p)) 0

/-- The card is written to. -/
lemma run_blankScene : ∃ t', ((blankScene.functions (finding plainCard)).main writeArgs).run
    ⟨.start blankScene.flash, []⟩ = (.ok 0, t') := by
  obtain ⟨o, hargs, haction, hflag⟩ := selects_writeArgs
  have hint : ∀ f, o.int f = 0 := fun f => by rw [Options.int, hflag]; rfl
  set fns := blankScene.functions (finding plainCard) with hfns
  set card := { plainCard with flashId := idEeprom2M, flashStartAddress := 0 } with hcard
  obtain ⟨p, hp⟩ : ∃ p, anyioDevWriteFlash blankScene.sha blankScene.fs
      (boardAccess blankScene card) (some card.toBoard) (ascii "a.bit") 0 0 0
        (.start blankScene.flash) = .ok (0, p) := by
    rw [onChip_blankScene.boardAccess_eq rfl, anyioDevWriteFlash_of_isSome rfl]
    exact exists_eepromWrite (FileSystem.node_put_self _ _ _)
      (rfl : writeShaCheck _ _ _ 0 _ = .ok (.start blankScene.flash)) printBitfileHeader_shortFile
      (by decide) (fun h => absurd h (by decide)) (fun h => absurd h (by decide)) (by decide)
  have himpl : Implements (fns.anyioDevWriteFlash card (ascii "a.bit") 0 0 0)
      (anyioDevWriteFlash blankScene.sha blankScene.fs (boardAccess blankScene card)
        (some card.toBoard) (ascii "a.bit") 0 0 0) := implements_writeFlash _ _ _ _
  obtain ⟨t₁, hwrite⟩ : ∃ t₁, (fns.anyioDevWriteFlash card (ascii "a.bit") 0 0 0).run
      ⟨.start blankScene.flash, [.search, .boardOpen]⟩ = (.ok 0, t₁) := by
    obtain ⟨t₁, hrun, -⟩ := himpl.exists_run
      (t := ⟨.start blankScene.flash, [.search, .boardOpen]⟩) hp
    exact ⟨t₁, hrun⟩
  refine ⟨⟨t₁.state, t₁.events ++ [.boardClose]⟩, ?_⟩
  rw [hargs.main_eq_onDevice, run_onDevice_eq_zero]
  refine ⟨plainCard, _, rfl, run_onBoard_eq_ok.2 ⟨.eth, card, _, t₁, .eth, rfl, rfl, ?_, rfl, rfl⟩⟩
  rw [haction]
  simp only [DeviceFunctions.action, hint]
  refine (Traced.run_bind_of_ok hwrite).trans ?_
  simp only [onSuccess, hflag]
  rfl

theorem main_writes_blankScene : ∃ t', ((blankScene.functions (finding plainCard)).main
      writeArgs).run ⟨.start blankScene.flash, []⟩ = (.ok 0, t') ∧
    t'.state.dev (Flash.cell _ 0) = 0x55 := by
  obtain ⟨t', hrun⟩ := run_blankScene
  obtain ⟨o, hargs, haction, hflag⟩ := selects_writeArgs
  have hfallback : o.int .fallback = 0 := by rw [Options.int, hflag]; rfl
  have hpay : payload shortFile = [0x55] := by
    rw [payload, printBitfileHeader_shortFile]
    rfl
  obtain ⟨f, b', block, data, hf, hcall, hnode, heffect⟩ :=
    main_writes onChip_blankScene (by decide) (by decide) rfl (leaveFlash_reporting _ _) hargs
      haction hrun
  obtain rfl := Option.some.inj hf
  obtain ⟨rfl, rfl⟩ := Prod.mk.inj (Except.ok.inj hcall)
  obtain rfl : data = shortFile := by
    have hfile := (FileSystem.node_put_self .empty (ascii "a.bit") shortFile).symm.trans hnode
    simpa using hfile.symm
  rw [hfallback, hpay] at heffect
  exact ⟨t', hrun, (heffect (by decide)).2.1 0 (by decide)⟩

end Mesaflash
