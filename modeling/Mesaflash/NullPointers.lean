import Mesaflash.Dispatch
import Mesaflash.FoundBoards

/-!
The null pointers that `main` uses.

A command fails by a null pointer on three kinds of boards: on the 7I64 on USB every command
does, on boards without functions for their registers those that access registers do, and on
the 7I43 with the EPPIO firmware those that come to the part number.  On all others a command
has the functions that it uses, or `anyio.c` refuses it.
-/

namespace Mesaflash

open Lib

/-! ### Conditions -/

/-- The actions that access registers through the board. -/
def Action.UsesRegisters : Action → Prop
  | .board a => a ≠ .setRemoteIp ∧ a ≠ .setLedMode
  | _ => False

/-- A bit file whose header is accepted. -/
def HasHeader (fs : FileSystem) (name : CStr) : Prop :=
  ∃ fp ret part fp', fs.fopen name = some fp ∧
    printBitfileHeader fp = .ok (ret, part, fp') ∧ ret ≠ -1

section Conditions

variable {σ : Type} (e : Scene σ) (o : Options) (b : BoardEntry)

/-- The checksum file of a file has its checksum. -/
def ChecksumPasses (name : CStr) : Prop :=
  ∃ p, sha256Verify e.sha e.fs name (.start e.flash) = .ok (true, p)

/-- The actions that come to the part number of a board that has none. -/
def NeedsPart : Action → Prop
  | .file .write name =>
    (o.flag .sha256Check ≠ 0 → ChecksumPasses e name) ∧ HasHeader e.fs name
  | .file .verify name =>
    e.fs.stSize name ≠ some (eepromGetFlashSize e.flashId) ∧ HasHeader e.fs name
  | .printInfo => b.verbose ≠ 0
  | _ => False

/-- The boards and commands that go together. -/
def Serves : Prop :=
  ¬ b.Is7i64 ∧ (b.NoRegisters → ¬ (boardAction o).UsesRegisters) ∧
    (b.IsEppio → ¬ NeedsPart e o b (boardAction o))

/-- A fault that is not the use of a null pointer; the part number counts where the board has
functions for its flash memory. -/
def BoardEntry.Allows (f : Fault) : Prop :=
  f ≠ .undefined .nullPointer ∧
    (b.llio.writeFlash.isSome ∨ b.llio.verifyFlash.isSome → f ≠ .undefined .nullString)

/-- The command on the board does not fail by a null pointer. -/
def NullFree : Prop := ∀ f, mainOnBoard e o b = .error f → b.Allows f

end Conditions

/-! ### Commands without a part number -/

section NoPart

variable {σ : Type} {acc : SpiEepromDev σ} {sha : Sha256} {fs : FileSystem} {board : Board}
  {name : CStr} {p : Proc σ} (hpart : board.llio.fpgaPartNumber = none)

/-- What can be opened has a size. -/
lemma stSize_of_fopen {fp : File} (h : fs.fopen name = some fp) :
    ∃ size, fs.stSize name = some size := by
  unfold FileSystem.fopen at h
  split at h
  · rename_i hnode
    exact ⟨_, FileSystem.stSize_of_node hnode⟩
  · rename_i size hnode
    exact ⟨size, by simp [FileSystem.stSize, hnode]⟩
  · simp at h

include hpart

lemma partMatches_missing (part : Option CStr) :
    partMatches board part = .error (.undefined .nullPointer) := by
  simp [partMatches, hpart]

/-- A write that gets past the header compares the part number. -/
lemma eepromWrite_missing (hrecover : board.recover = 0) {shaFlag : ℤ}
    (hsha : shaFlag ≠ 0 → ∃ p', sha256Verify sha fs name p = .ok (true, p'))
    (hheader : HasHeader fs name) (start : ℕ) (fix : ℤ) :
    eepromWrite sha fs acc board name start fix shaFlag p = .error (.undefined .nullPointer) := by
  obtain ⟨fp, ret, part, fp', hopen, hhead, hret⟩ := hheader
  obtain ⟨size, hsize⟩ := stSize_of_fopen hopen
  have hcheck : ∃ p', writeShaCheck sha fs name shaFlag p = .ok p' := by
    by_cases hflag : shaFlag ≠ 0
    · obtain ⟨p', hp'⟩ := hsha hflag
      exact ⟨p', by simp [writeShaCheck, hflag, hp', exitIf]⟩
    · exact ⟨p, by simp [writeShaCheck, hflag]⟩
  obtain ⟨p', hp'⟩ := hcheck
  simp [eepromWrite, eepromWriteBy, hp', hsize, hopen, hhead, hret, exitIf, writePartCheck,
    hrecover, partMatches_missing hpart]

omit hpart in
/-- A write that does not is refused. -/
lemma yields_eepromWrite_missing {shaFlag : ℤ}
    (h : ¬ ((shaFlag ≠ 0 → ∃ p', sha256Verify sha fs name p = .ok (true, p')) ∧
      HasHeader fs name)) (start : ℕ) (fix : ℤ) :
    Yields (fun r => r.1 = -1) Fault.NotNull
      (eepromWrite sha fs acc board name start fix shaFlag p) := by
  have hsha : Yields (fun _ => shaFlag ≠ 0 → ∃ p', sha256Verify sha fs name p = .ok (true, p'))
      (StopsWith Fault.NotNull fun r : ℤ × Proc σ => r.1 = -1)
      (writeShaCheck sha fs name shaFlag p) := by
    have hp : Keeps (fun _ => True) p.bootBlock p := ⟨trivial, rfl⟩
    refine .ite (fun _ => .bind (stops_call (yields_sha256Verify (fun _ h => h) hp).with_eq) ?_)
      fun h => .ok (absurd · h)
    rintro ⟨passed, p'⟩ ⟨-, hpassed⟩
    refine .bind (stops_exitIf fun _ => rfl) fun _ hne => .ok fun _ => ⟨p', ?_⟩
    rw [hpassed, Bool.eq_true_of_not_eq_false hne]
  refine stops_body (.bind hsha fun p' hpasses => .bind (stops_orExit rfl) fun _ _ =>
    .bind (stops_orExit rfl) fun fp hopen => .bind (stops_call
    (yields_printBitfileHeader (fun _ h => h) fp).with_eq) ?_)
  rintro ⟨ret, part, fp'⟩ ⟨-, hhead⟩
  refine .bind (stops_exitIf fun _ => rfl) fun _ hret => ?_
  exact absurd ⟨hpasses, fp, ret, part, fp', hopen, hhead, hret⟩ h

/-- A verification that gets past the header compares the part number. -/
lemma eepromVerify_missing
    (hsize : fs.stSize name ≠ some (eepromGetFlashSize board.flashId))
    (hheader : HasHeader fs name) (start : ℕ) :
    eepromVerify fs acc board name start p = .error (.undefined .nullPointer) := by
  obtain ⟨fp, ret, part, fp', hopen, hhead, hret⟩ := hheader
  obtain ⟨size, hstat⟩ := stSize_of_fopen hopen
  rw [hstat] at hsize
  have hne : size ≠ eepromGetFlashSize board.flashId := fun h => hsize (congrArg some h)
  simp [eepromVerify, hstat, hopen, hne, verifyChecks, hhead, hret, exitIf,
    partMatches_missing hpart]

omit hpart in
/-- A verification that does not uses no null pointer. -/
lemma yields_eepromVerify_missing (hacc : acc.PreservesOr (fun _ => True) Fault.NotNull)
    (h : ¬ (fs.stSize name ≠ some (eepromGetFlashSize board.flashId) ∧ HasHeader fs name))
    (start : ℕ) :
    Yields (fun _ => True) Fault.NotNull (eepromVerify fs acc board name start p) := by
  have hp : Keeps (fun _ => True) p.bootBlock p := ⟨trivial, rfl⟩
  have hloop : ∀ fp start, Yields (fun _ => True) (StopsWith Fault.NotNull fun _ => True)
      (verifyLoop acc fp start p) := fun fp start =>
    ((keeps_verifyLoop (fun _ h => h) hacc hp fp start).mono fun _ _ => trivial).mono_error
      fun s hs => by
        cases s with
        | ret r => trivial
        | fault f => exact hs
  refine stops_body (.bind (stops_orExit trivial) fun size hsize =>
    .bind (stops_orExit trivial) fun fp hopen => .ite (fun hne => ?_) fun _ => hloop fp 0)
  refine .bind (.bind (stops_call (yields_printBitfileHeader (fun _ h => h) fp).with_eq) ?_)
    fun r (hr : False) => hr.elim
  rintro ⟨ret, part, fp'⟩ ⟨-, hhead⟩
  refine .bind (stops_exitIf fun _ => trivial) fun _ hret => ?_
  refine absurd ⟨?_, fp, ret, part, fp', hopen, hhead, hret⟩ h
  rw [hsize]
  exact fun heq => hne (Option.some.inj heq)

end NoPart

section Boards

variable {σ : Type} {e : Scene σ} {o : Options} {b b' : BoardEntry} {block : BootBlock}

/-! ### Registers -/

/-- A board with functions for its registers. -/
def BoardEntry.HasRegisters (b : BoardEntry) : Prop :=
  b.read = some b.type ∧ b.write = some b.type

lemma useRegister_ok (hb : b.HasRegisters) (use : RegisterUse) : useRegister b use = .ok () := by
  obtain ⟨hread, hwrite⟩ := hb
  cases use
  · simp [useRegister, hread]
  · simp [useRegister, hwrite]

lemma forM_useRegister_ok (hb : b.HasRegisters) (uses : List RegisterUse) :
    uses.forM (useRegister b) = .ok () := by
  induction uses with
  | nil => rfl
  | cons use uses ih =>
      change (useRegister b use >>= fun _ => uses.forM (useRegister b)) = .ok ()
      rw [useRegister_ok hb, ok_bind, ih]

lemma useRegister_missing (hread : b.read = none) (hwrite : b.write = none)
    (use : RegisterUse) : useRegister b use = .error (.undefined .nullPointer) := by
  cases use
  · simp [useRegister, hread]
  · simp [useRegister, hwrite]

/-- A flash memory behind registers is on a board that has functions for them. -/
lemma useBytes_ok (hb : b.Sound) (h7i64 : ¬ b.Is7i64) : useBytes b = .ok () := by
  unfold useBytes
  split
  · rename_i hflash
    have hno : ¬ b.NoRegisters := fun h => (hb.noRegisters_flash h).2 hflash
    have hregisters : b.HasRegisters := hb.registers h7i64 hno
    rw [useRegister_ok hregisters, ok_bind, useRegister_ok hregisters]
  · rfl

/-! ### Opening -/

/-- What `open` leaves of a board. -/
structure Opened (e : Scene σ) (b b' : BoardEntry) (block : BootBlock) : Prop where
  sound : b'.Sound
  type : b'.type = b.type
  name : b'.llio.boardName = b.llio.boardName
  mode : b'.mode = b.mode
  flash : b'.flash = b.flash
  verbose : b'.verbose = b.verbose
  writeFlash : b'.llio.writeFlash = b.llio.writeFlash
  verifyFlash : b'.llio.verifyFlash = b.llio.verifyFlash
  eppio : b.IsEppio → b'.flashId = e.flashId ∧ block = bootBlock

namespace Opened

variable (h : Opened e b b' block)

include h

lemma is7i64 : b'.Is7i64 ↔ b.Is7i64 := by
  rw [BoardEntry.Is7i64, BoardEntry.Is7i64, h.type, h.name]

lemma noRegisters : b'.NoRegisters ↔ b.NoRegisters := by
  rw [BoardEntry.NoRegisters, BoardEntry.NoRegisters, h.name, h.mode]

lemma isEppio : b'.IsEppio ↔ b.IsEppio := by
  rw [BoardEntry.IsEppio, BoardEntry.IsEppio, h.name, h.flash]

lemma needsPart {a : Action} : NeedsPart e o b' a ↔ NeedsPart e o b a := by
  cases a with
  | file op name => cases op <;> exact Iff.rfl
  | printInfo => rw [NeedsPart, NeedsPart, h.verbose]
  | _ => exact Iff.rfl

lemma allows {f : Fault} (hf : b'.Allows f) : b.Allows f := by
  rw [BoardEntry.Allows, h.writeFlash, h.verifyFlash] at hf
  exact hf

end Opened

lemma BoardEntry.Sound.withId (hb : b.Sound) (id : UInt8) (start : ℕ) :
    BoardEntry.Sound { b with flashId := id, flashStartAddress := start } where
  unset := hb.unset
  functions := hb.functions
  registers := hb.registers
  noRegisters := hb.noRegisters
  noRegisters_flash := hb.noRegisters_flash
  registered := hb.registered
  verifyFlash := hb.verifyFlash
  partNumber := hb.partNumber
  eppio := hb.eppio
  eppio_flash := hb.eppio_flash

/-- `epp_board_open` knows the part number of a 7I43 without firmware. -/
lemma BoardEntry.Sound.withPart (hb : b.Sound) (hmode : b.mode = .cpld) (part : String) :
    (b.withPart part).Sound where
  unset := hb.unset
  functions := hb.functions
  registers := hb.registers
  noRegisters := hb.noRegisters
  noRegisters_flash := hb.noRegisters_flash
  registered := hb.registered
  verifyFlash := hb.verifyFlash
  partNumber _ _ := rfl
  eppio := hb.eppio
  eppio_flash h := absurd (hmode.symm.trans (hb.eppio h).2.1) nofun

lemma opened_self (hb : b.Sound) (hflash : b.flash = .none) : Opened e b b bootBlock :=
  ⟨hb, rfl, rfl, rfl, rfl, rfl, rfl, rfl, fun h => absurd (hflash.symm.trans h.2) nofun⟩

lemma idFound_opened (hb : b.Sound) :
    Opened e b (idFound e b bootBlock).1 (idFound e b bootBlock).2 := by
  unfold idFound
  split
  · rename_i hfallback
    refine ⟨hb.withId _ _, rfl, rfl, rfl, rfl, rfl, rfl, rfl, fun h => ?_⟩
    exact absurd (hfallback.symm.trans (hb.eppio h).2.2.1) (by decide)
  · exact ⟨hb.withId _ _, rfl, rfl, rfl, rfl, rfl, rfl, rfl, fun _ => ⟨rfl, rfl⟩⟩

lemma openFlash_opened (hb : b.Sound) (h7i64 : ¬ b.Is7i64) (E : Fault → Prop) :
    Yields (fun r => Opened e b r.1 r.2) E (openFlash e b bootBlock) := by
  rw [openFlash, useBytes_ok hb h7i64, ok_bind]
  exact .ok (idFound_opened hb)

lemma Opened.of_withPart {part : String} (h : Opened e (b.withPart part) b' block) :
    Opened e b b' block :=
  ⟨h.sound, h.type, h.name, h.mode, h.flash, h.verbose, h.writeFlash, h.verifyFlash, h.eppio⟩

lemma eppBoardOpen_opened (hb : b.Sound) (h7i64 : ¬ b.Is7i64) (E : Fault → Prop) :
    Yields (fun r => Opened e b r.1 r.2) E (eppBoardOpen e b bootBlock) := by
  by_cases hmode : b.mode = .cpld
  · rw [eppBoardOpen, if_pos hmode]
    refine .ite (fun _ => ?_) fun hflash => .ok ?_
    · exact (openFlash_opened (hb.withPart hmode _) h7i64 E).mono fun _ h => h.of_withPart
    · exact (opened_self (hb.withPart hmode _) (not_not.mp hflash)).of_withPart
  · rw [eppBoardOpen, if_neg hmode]
    exact .ite (fun _ => openFlash_opened hb h7i64 E) fun hflash =>
      .ok (opened_self hb (not_not.mp hflash))

/-- `open` succeeds, unless the registers of a PCI board cannot be mapped into memory. -/
lemma callOpen_opened (hb : b.Sound) (h7i64 : ¬ b.Is7i64) :
    Yields (fun r => Opened e b r.1 r.2)
      (fun f => f = .abort ∧ b.type = .pci ∧ b.memBase ≠ 0)
      (callOpen e b b.type bootBlock) := by
  unfold callOpen
  split
  · rename_i htype
    refine .ite (fun hmapped => .error ⟨rfl, htype, hmapped.1⟩) fun _ => ?_
    exact .ite (fun _ => openFlash_opened hb h7i64 _) fun hflash =>
      .ok (opened_self hb (not_not.mp hflash))
  · exact eppBoardOpen_opened hb h7i64 _
  · rename_i htype
    have hflash : b.flash = .none := by
      have hregistered := hb.registered
      unfold HostBoard.Registered at hregistered
      rw [htype] at hregistered
      split at hregistered <;> simp_all
    exact .ok (opened_self hb hflash)
  · exact openFlash_opened hb h7i64 _
  · exact openFlash_opened hb h7i64 _
  · exact openFlash_opened hb h7i64 _

/-! ### Actions -/

lemma Fault.NotNull.allows {f : Fault} (h : f.NotNull) : b.Allows f := ⟨h.1, fun _ => h.2⟩

/-- A board without a flash memory has no functions for it. -/
lemma BoardEntry.Sound.noFlash (hb : b.Sound) (hflash : b.flash = .none) :
    b.llio.NoFlash := by
  have hregistered := hb.registered
  unfold HostBoard.Registered at hregistered
  rw [hflash] at hregistered
  split at hregistered <;> simp_all

/-- The access functions of a board with a flash memory use no null pointer. -/
lemma boardAccess_preserves (hb : b.Sound) (h7i64 : ¬ b.Is7i64) (hflash : b.flash ≠ .none) :
    (boardAccess e b).PreservesOr (fun _ => True) Fault.NotNull := by
  have haccess : useAccess b = .ok () := by
    rw [useAccess, if_neg hflash, useBytes_ok hb h7i64]
  have hhang : ∀ {α : Type} (r : Option α),
      Yields (fun _ => True) Fault.NotNull (orHang r) := by
    rintro α (_ | a)
    · exact .error (by decide)
    · exact .ok trivial
  refine ⟨fun a s _ => ?_, fun a page s _ => ?_, fun a s _ => ?_⟩
  · simp only [boardAccess, haccess, ok_bind]
    exact hhang _
  · simp only [boardAccess, haccess, ok_bind]
    exact hhang _
  · simp only [boardAccess, haccess, ok_bind]
    exact hhang _

/-- An action on registers succeeds where there are functions for them. -/
lemma callBoardAction_ok (a : BoardAction)
    (h : (Action.board a).UsesRegisters → b.HasRegisters) :
    Yields (fun _ => True) Fault.NotNull (callBoardAction e b a) := by
  have hhm2 : ∀ a, b.HasRegisters → hm2Command e b a = .ok 0 := fun a hb => by
    rw [hm2Command, useRegister_ok hb, ok_bind, forM_useRegister_ok hb]
    rfl
  cases a with
  | setRemoteIp => exact .ok trivial
  | setLedMode => exact .ok trivial
  | rpo =>
      rw [callBoardAction, useRegister_ok (h ⟨nofun, nofun⟩)]
      exact .ok trivial
  | wpo =>
      rw [callBoardAction, useRegister_ok (h ⟨nofun, nofun⟩)]
      exact .ok trivial
  | _ =>
      rw [callBoardAction, hhm2 _ (h ⟨nofun, nofun⟩)]
      exact .ok trivial

/-- Without them it uses a null pointer. -/
lemma callBoardAction_missing (hread : b.read = none) (hwrite : b.write = none)
    {a : BoardAction} (h : (Action.board a).UsesRegisters) :
    callBoardAction e b a = .error (.undefined .nullPointer) := by
  cases a with
  | setRemoteIp => exact absurd rfl h.1
  | setLedMode => exact absurd rfl h.2
  | rpo => rw [callBoardAction, useRegister_missing hread hwrite, error_bind]
  | wpo => rw [callBoardAction, useRegister_missing hread hwrite, error_bind]
  | _ => rw [callBoardAction, hm2Command, useRegister_missing hread hwrite, error_bind]

section FileOps

variable (hb : b.Sound) (h7i64 : ¬ b.Is7i64) {name : CStr} {p : Proc σ}

include hb h7i64

/-- Verification, where it does not come to a part number that is missing. -/
lemma anyioDevVerifyFlash_yields
    (h : b.IsEppio → ¬ (e.fs.stSize name ≠ some (eepromGetFlashSize b.flashId) ∧
      HasHeader e.fs name)) (fallback : ℤ) :
    Yields (fun _ => True) Fault.NotNull
      (anyioDevVerifyFlash e.fs (boardAccess e b) (some b.toBoard) name fallback p) := by
  by_cases hverify : b.llio.verifyFlash.isSome
  · have hflash : b.flash ≠ .none := fun hflash => by
      simp [(hb.noFlash hflash).2.1] at hverify
    have hacc := boardAccess_preserves (e := e) hb h7i64 hflash
    by_cases heppio : b.IsEppio
    · rw [anyioDevVerifyFlash_of_isSome hverify]
      exact yields_eepromVerify_missing hacc (h heppio) _
    · have hpart : b.llio.fpgaPartNumber.isSome := by
        rw [hb.verifyFlash] at hverify
        exact hb.partNumber hverify heppio
      have hp : Keeps (fun _ => True) p.bootBlock p := ⟨trivial, rfl⟩
      exact (keeps_anyioDevVerifyFlash (fun _ h => h) hacc (fun hnone => by
        simp [hnone] at hpart) hp fallback).mono fun _ _ => trivial
  · have hnone : b.llio.verifyFlash = none := Option.not_isSome_iff_eq_none.mp hverify
    simp only [anyioDevVerifyFlash, hnone]
    exact .ok trivial

/-- A command that is followed by a verification of its own; on a board without a part number
it has to fail. -/
lemma autoVerify_yields {ret : ℤ} (h : b.IsEppio → ret ≠ 0) :
    Yields (fun _ => True) Fault.NotNull (autoVerify e o b name ret p) := by
  refine .ite (fun hret => ?_) fun _ => .ok trivial
  refine .bind (anyioDevVerifyFlash_yields hb h7i64 (fun heppio => ?_) _) fun _ _ => .ok trivial
  exact absurd hret.1 (h heppio)

/-- Writing, where it does not come to a part number that is missing. -/
lemma anyioDevWriteFlash_yields {fallback fix shaFlag : ℤ}
    (h : b.IsEppio → ¬ ((shaFlag ≠ 0 → ∃ p', sha256Verify e.sha e.fs name p = .ok (true, p')) ∧
      HasHeader e.fs name)) :
    Yields (fun r => b.IsEppio → r.1 ≠ 0) Fault.NotNull
      (anyioDevWriteFlash e.sha e.fs (boardAccess e b) (some b.toBoard) name fallback fix shaFlag
        p) := by
  unfold anyioDevWriteFlash
  dsimp only
  split
  · rename_i hwrite
    refine .ok fun heppio => absurd (hb.eppio_flash heppio).1 ?_
    simp [hwrite]
  · rename_i handler hwrite
    by_cases heppio : b.IsEppio
    · refine (yields_eepromWrite_missing (h heppio) _ _).mono fun r hr _ => ?_
      rw [hr]
      decide
    · have hflash : b.flash ≠ .none := fun hflash => by
        simp [(hb.noFlash hflash).1] at hwrite
      have hpart : b.llio.fpgaPartNumber.isSome :=
        hb.partNumber (Option.isSome_iff_exists.mpr ⟨handler, hwrite⟩) heppio
      have hp : Keeps (fun _ => True) p.bootBlock p := ⟨trivial, rfl⟩
      exact (keeps_eepromWrite (fun _ h => h) (boardAccess_preserves hb h7i64 hflash)
        (fun hnone => by simp [hnone] at hpart) hp _ _ _).mono fun _ _ h => absurd h heppio

lemma anyioDevRestoreFlash_yields :
    Yields (fun r => b.IsEppio → r.1 ≠ 0) Fault.NotNull
      (anyioDevRestoreFlash e.sha e.fs (boardAccess e b) (some b.toBoard) name p) := by
  by_cases hrestore : b.llio.restoreFlash = none
  · simp only [anyioDevRestoreFlash, hrestore]
    exact .ok fun _ => show einval ≠ 0 by decide
  · have hflash : b.flash ≠ .none := fun hflash => hrestore (hb.noFlash hflash).2.2.2
    have hp : Keeps (fun _ => True) p.bootBlock p := ⟨trivial, rfl⟩
    exact (keeps_anyioDevRestoreFlash (fun _ h => h) (boardAccess_preserves hb h7i64 hflash)
      hp).mono fun _ _ h => absurd (hb.eppio_flash h).2.1 hrestore

lemma anyioDevBackupFlash_yields :
    Yields (fun _ => True) Fault.NotNull
      (anyioDevBackupFlash e.sha e.fs (boardAccess e b) e.io e.autoName (some b.toBoard) name
        p) := by
  by_cases hbackup : b.llio.backupFlash = none
  · simp only [anyioDevBackupFlash, hbackup]
    exact .ok trivial
  · have hflash : b.flash ≠ .none := fun hflash => hbackup (hb.noFlash hflash).2.2.1
    have hp : Keeps (fun _ => True) p.bootBlock p := ⟨trivial, rfl⟩
    exact (keeps_anyioDevBackupFlash (fun _ h => h) (boardAccess_preserves hb h7i64 hflash) hp
      _ _).mono fun _ _ => trivial

omit hb h7i64 in
lemma anyioDevReload_ok (fallback : ℤ) :
    Yields (fun _ => True) Fault.NotNull (anyioDevReload e b fallback) := by
  unfold anyioDevReload
  split
  · exact .ok trivial
  · exact .ok trivial

/-- The operations on files. -/
lemma callFileOp_yields {op : FileOp} (hid : b.IsEppio → b.flashId = e.flashId)
    (hneeds : b.IsEppio → ¬ NeedsPart e o b (.file op name))
    (hp : b.IsEppio → p = .start e.flash) :
    Yields (fun _ => True) Fault.NotNull (callFileOp e o b op name p) := by
  cases op with
  | write =>
      refine .bind (anyioDevWriteFlash_yields hb h7i64 fun heppio hneed => ?_) ?_
      · refine hneeds heppio ⟨fun hflag => ?_, hneed.2⟩
        rw [ChecksumPasses, ← hp heppio]
        exact hneed.1 (Nat.cast_ne_zero.mpr hflag)
      · rintro ⟨ret, p'⟩ hret
        exact .bind (autoVerify_yields hb h7i64 hret) fun _ _ =>
          .ite (fun _ => anyioDevReload_ok _) fun _ => .ok trivial
  | verify =>
      refine .bind (anyioDevVerifyFlash_yields hb h7i64 (fun heppio hneed => ?_) _) fun _ _ =>
        .ok trivial
      rw [hid heppio] at hneed
      exact hneeds heppio hneed
  | backupFlash =>
      exact .bind (anyioDevBackupFlash_yields hb h7i64) fun _ _ => .ok trivial
  | restoreFlash =>
      refine .bind (anyioDevRestoreFlash_yields hb h7i64) ?_
      rintro ⟨ret, p'⟩ hret
      exact autoVerify_yields hb h7i64 hret
  | program =>
      simp only [callFileOp, anyioDevProgramFpga]
      split
      · exact .ok trivial
      · exact .ok trivial
      · exact .ok trivial
  | info => exact .ok trivial

end FileOps

/-- Information is printed, but for a missing part number. -/
lemma callPrintInfo_yields (hb : b.Sound)
    (hneeds : b.IsEppio → ¬ NeedsPart e o b .printInfo) (f : BoardType) :
    Yields (fun _ => True) b.Allows (callPrintInfo b f) := by
  have hshow : b.verbose ≠ 0 → Yields (fun _ => True) b.Allows (showBoardInfo b) := by
    intro hverbose
    unfold showBoardInfo
    split
    · exact .ok trivial
    · rename_i hpart
      refine .error ⟨by decide, fun hflash => ?_⟩
      rw [hb.verifyFlash, or_self] at hflash
      have heppio : ¬ b.IsEppio := fun h => hneeds h hverbose
      have hsome := hb.partNumber hflash heppio
      simp [hpart] at hsome
  unfold callPrintInfo
  split
  · exact .ok trivial
  · exact .ok trivial
  all_goals exact .ite (fun _ => .ok trivial) hshow

/-- An action that needs nothing that is missing. -/
lemma callAction_yields (hb : b.Sound) (h7i64 : ¬ b.Is7i64) {a : Action} {p : Proc σ}
    (hregisters : b.NoRegisters → ¬ a.UsesRegisters)
    (hid : b.IsEppio → b.flashId = e.flashId) (hp : b.IsEppio → p = .start e.flash)
    (hneeds : b.IsEppio → ¬ NeedsPart e o b a) :
    Yields (fun _ => True) b.Allows (callAction e o b a p) := by
  cases a with
  | board a =>
      refine (callBoardAction_ok a fun huses => ?_).mono_error fun _ h => h.allows
      exact hb.registers h7i64 fun hno => hregisters hno huses
  | file op name =>
      exact (callFileOp_yields hb h7i64 hid hneeds hp).mono_error fun _ h => h.allows
  | reload =>
      exact .bind ((anyioDevReload_ok _).mono_error fun _ h => h.allows) fun _ _ =>
        .ok trivial
  | reset =>
      simp only [callAction, anyioDevReset]
      split
      · exact .ok trivial
      · exact .ok trivial
  | printInfo =>
      rw [callAction, (hb.functions h7i64).2.2, deref_some, ok_bind]
      exact .bind (callPrintInfo_yields hb hneeds _) fun _ _ => .ok trivial

/-- An action that comes to the part number of a board without one. -/
lemma callAction_missing (hb : b.Sound) (heppio : b.IsEppio) (hid : b.flashId = e.flashId)
    {a : Action} (hneeds : NeedsPart e o b a) :
    ∃ f, callAction e o b a (.start e.flash) = .error f ∧ ¬ b.Allows f := by
  obtain ⟨hwrite, -, hpart⟩ := hb.eppio_flash heppio
  obtain ⟨htype, -, -, hrecover⟩ := hb.eppio heppio
  have hnull : ¬ b.Allows (.undefined .nullPointer) := fun h => h.1 rfl
  cases a with
  | board a => exact hneeds.elim
  | reload => exact hneeds.elim
  | reset => exact hneeds.elim
  | file op name =>
      cases op with
      | write =>
          obtain ⟨hsha, hheader⟩ := hneeds
          have hflag : o.int .sha256Check ≠ 0 →
              ∃ p', sha256Verify e.sha e.fs name (.start e.flash) = .ok (true, p') :=
            fun h => hsha (Nat.cast_ne_zero.mp h)
          refine ⟨_, ?_, hnull⟩
          change callWrite e o b name _ = _
          rw [callWrite, anyioDevWriteFlash_of_isSome hwrite,
            eepromWrite_missing hpart hrecover hflag hheader, error_bind]
      | verify =>
          obtain ⟨hsize, hheader⟩ := hneeds
          rw [← hid] at hsize
          have hverify : b.llio.verifyFlash.isSome := by rwa [hb.verifyFlash]
          refine ⟨_, ?_, hnull⟩
          change (anyioDevVerifyFlash e.fs _ _ name _ _ >>= fun r => pure r.1) = _
          rw [anyioDevVerifyFlash_of_isSome hverify, eepromVerify_missing hpart hsize hheader,
            error_bind]
      | _ => exact hneeds.elim
  | printInfo =>
      have h7i64 : ¬ b.Is7i64 := fun h => absurd (htype.symm.trans h.1) nofun
      have hverbose : b.verbose ≠ 0 := hneeds
      refine ⟨.undefined .nullString, ?_, fun h => h.2 (.inl hwrite) rfl⟩
      rw [callAction, (hb.functions h7i64).2.2, deref_some, ok_bind, htype]
      simp [callPrintInfo, hverbose, showBoardInfo, hpart]

/-! ### Whole commands -/

/-- What `main` does after a successful `open`. -/
lemma mainOnBoard_opened (hb : b.Sound) (h7i64 : ¬ b.Is7i64)
    (hopen : callOpen e b b.type bootBlock = .ok (b', block)) :
    mainOnBoard e o b = (do
      let ret ← callAction e o b' (boardAction o) { Proc.start e.flash with bootBlock := block }
      let _ ← deref b'.boardClose
      return ret) := by
  rw [mainOnBoard, (hb.functions h7i64).1, deref_some, ok_bind, hopen, ok_bind]

/-- A board that is not one on the PCI bus with registers is opened. -/
lemma callOpen_ok (hb : b.Sound) (h7i64 : ¬ b.Is7i64) (h : b.type = .pci → b.memBase = 0) :
    ∃ b' block, callOpen e b b.type bootBlock = .ok (b', block) ∧ Opened e b b' block := by
  have hopened := callOpen_opened (e := e) hb h7i64
  cases hopen : callOpen e b b.type bootBlock with
  | ok r =>
      obtain ⟨b', block⟩ := r
      exact ⟨b', block, rfl, hopened.of_eq_ok hopen⟩
  | error f =>
      obtain ⟨-, htype, hbase⟩ := hopened.of_eq_error hopen
      exact absurd (h htype) hbase

/-- A command without what is missing. -/
lemma nullFree_of_serves (hb : b.Sound) (h : Serves e o b) : NullFree e o b := by
  obtain ⟨h7i64, hregisters, hneeds⟩ := h
  suffices hmain : Yields (fun _ => True) b.Allows (mainOnBoard e o b) from
    fun f hf => hmain.of_eq_error hf
  rw [mainOnBoard, (hb.functions h7i64).1, deref_some, ok_bind]
  refine .bind ((callOpen_opened hb h7i64).mono_error fun f hf => ?_) ?_
  · rw [hf.1]
    exact ⟨by decide, fun _ => by decide⟩
  rintro ⟨b', block⟩ (hopen : Opened e b b' block)
  have h7i64' : ¬ b'.Is7i64 := fun h => h7i64 (hopen.is7i64.mp h)
  have haction : Yields (fun _ => True) b'.Allows
      (callAction e o b' (boardAction o) { Proc.start e.flash with bootBlock := block }) := by
    refine callAction_yields hopen.sound h7i64'
      (fun hno => hregisters (hopen.noRegisters.mp hno))
      (fun heppio => (hopen.eppio (hopen.isEppio.mp heppio)).1) (fun heppio => ?_)
      fun heppio hneed => ?_
    · rw [(hopen.eppio (hopen.isEppio.mp heppio)).2]
      rfl
    · exact hneeds (hopen.isEppio.mp heppio) (hopen.needsPart.mp hneed)
  refine .bind (haction.mono_error fun f hf => hopen.allows hf) fun ret _ => ?_
  rw [(hopen.sound.functions h7i64').2.1, deref_some, ok_bind]
  exact .ok trivial

/-- **A command on a board that was found uses no null pointer exactly when neither the board
nor the command is one of those that lack something.** -/
theorem nullFree_iff_serves {r : Registry} (hr : r.Reachable) (hmem : b ∈ r.boards) :
    NullFree e o b ↔ Serves e o b := by
  have hb : b.Sound := hr.sound b hmem
  refine ⟨fun hfree => ?_, nullFree_of_serves hb⟩
  have h7i64 : ¬ b.Is7i64 := by
    intro h
    have hfault : mainOnBoard e o b = .error (.undefined .nullPointer) := by
      rw [mainOnBoard, hb.unset h, deref_none, error_bind]
    exact (hfree _ hfault).1 rfl
  refine ⟨h7i64, fun hno huses => ?_, fun heppio hneeds => ?_⟩
  · obtain ⟨b', block, hopen, hopened⟩ := callOpen_ok (e := e) hb h7i64
      fun _ => (hb.noRegisters_flash hno).1
    obtain ⟨hread, hwrite⟩ := hopened.sound.noRegisters (hopened.noRegisters.mpr hno)
    have hfault : mainOnBoard e o b = .error (.undefined .nullPointer) := by
      rw [mainOnBoard_opened hb h7i64 hopen]
      cases haction : boardAction o with
      | board a =>
          rw [haction] at huses
          rw [callAction, callBoardAction_missing hread hwrite huses, error_bind]
      | _ =>
          rw [haction] at huses
          exact huses.elim
    exact (hfree _ hfault).1 rfl
  · have htype : b.type = .epp := (hb.eppio heppio).1
    obtain ⟨b', block, hopen, hopened⟩ := callOpen_ok (e := e) hb h7i64
      fun h => absurd (htype.symm.trans h) nofun
    obtain ⟨hid, hblock⟩ := hopened.eppio heppio
    obtain ⟨f, haction, hf⟩ := callAction_missing hopened.sound (hopened.isEppio.mpr heppio) hid
      (hopened.needsPart.mpr hneeds)
    have hfault : mainOnBoard e o b = .error f := by
      rw [mainOnBoard_opened hb h7i64 hopen, hblock]
      exact congrArg (· >>= _) haction
    refine hf ?_
    have hallows := hfree f hfault
    rw [BoardEntry.Allows, hopened.writeFlash, hopened.verifyFlash]
    exact hallows

end Boards

/-! ### Two boards -/

/-- A bridge on the PCI bus. -/
def xio2001 : PciDev where
  vendorId := vendoridXio2001
  deviceId := deviceidXio2001
  subsystemId := 0
  baseAddr _ := 0
  slot := 0

/-- Nothing answers but the bridge and a 7I64 on USB. -/
def twoDevices : Devices where
  pciInit := true
  eppInit := true
  pci := [xio2001]
  eppRead _ _ := 0
  usb :=
    { cookie := lbpCookie
      devName := ascii "7I64"
      read := fun _ => 0
      status := 0
      size := 0 }
  spiRead _ _ := none
  serialInfo := []
  inetPton _ := false
  ethCookie := none
  ethInfo := []
  srcIp := []

/-- `--device 7i64 --usb --addr /dev/ttyUSB0`. -/
def access7i64 : BoardAccess := ⟨ascii "7I64", boardUsb, 1, 0, 0, some (ascii "/dev/ttyUSB0")⟩

/-- `--device recover --recover`. -/
def accessRecover : BoardAccess := ⟨ascii "RECOVER", boardAny, 0, 0, 1, none⟩

/-- A scene without files. -/
def emptyScene : Scene Unit where
  sha := .constant fun _ => 0
  fs := .empty
  readPage _ _ := none
  writePage _ _ _ := none
  eraseSector _ _ := none
  flash := ()
  flashId := 0
  cpldByte := 0
  mapped := true
  uses _ := []
  io := .faultFree
  autoName := []
  reset _ := 0
  reload _ _ := 0
  setRemoteIp := 0
  setLedMode := 0

lemma find_7i64 : anyioFindDev access7i64 twoDevices .empty =
    .ok (0, ⟨[usb7i64Entry access7i64 (ascii "/dev/ttyUSB0")], boardUsb⟩) := by
  have hrow : supportedBoard (ascii "7I64") =
      some ("7I64", boardMultiInterface ||| boardUsb ||| boardSpi) := by decide
  rw [anyioFindDev, show access7i64.deviceName = ascii "7I64" from rfl, hrow]
  rfl

lemma find_recover : anyioFindDev accessRecover twoDevices .empty =
    .ok (0, ⟨[recoverEntry accessRecover xio2001], boardPci⟩) := by
  have hrow : supportedBoard (ascii "RECOVER") = some ("RECOVER", boardPci) := by
    decide
  rw [anyioFindDev, show accessRecover.deviceName = ascii "RECOVER" from rfl, hrow]
  rfl

/-- The 7I64 on USB is found, and then no command works on it. -/
theorem usb7i64_nullPointer : ∃ r b, anyioFindDev access7i64 twoDevices .empty = .ok (0, r) ∧
    b ∈ r.boards ∧ ∀ o, ¬ NullFree emptyScene o b :=
  ⟨_, _, find_7i64, List.mem_singleton_self _, fun _ h => (h _ rfl).1 rfl⟩

/-- What is known of a board in recover mode is printed. -/
theorem recover_nullFree : NullFree emptyScene .start (recoverEntry accessRecover xio2001) := by
  refine (nullFree_iff_serves (.find .empty find_recover) (List.mem_singleton_self _)).mpr ?_
  have haction : boardAction .start = .printInfo := by decide
  refine ⟨fun h => (nomatch h.1), fun _ => ?_, fun h => (nomatch h.2)⟩
  rw [haction]
  exact not_false

end Mesaflash
