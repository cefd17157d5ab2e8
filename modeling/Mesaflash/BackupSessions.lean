import Mesaflash.Backup
import Mesaflash.FlashDrivers

/-!
A backup among other commands.

What a backup leaves in its two files decides what a restore writes, and nothing else
does.  So a backup can be restored after whatever commands came in between, as long as
nothing touched its files, and on every board whose flash memory has the same size
(`backup_restorable`).
-/

namespace Mesaflash

open Lib

variable {σ : Type} {k : ℕ} {sha : Sha256} {fs : FileSystem} {board : Board} {L : Layer σ}
  {path : CStr}

/-! ### Files that a step keeps -/

/-- The same file, or none, at the two paths of a backup. -/
structure SameBackup (path : CStr) (fs fs' : FileSystem) : Prop where
  image : fs'.node path = fs.node path
  digest : fs'.node (shaFileName path) = fs.node (shaFileName path)

lemma SameBackup.refl (path : CStr) (fs : FileSystem) : SameBackup path fs fs := ⟨rfl, rfl⟩

lemma HoldsBackup.keep {f : Flash (chip k)} {fs' : FileSystem} (h : HoldsBackup sha fs path f)
    (hsame : SameBackup path fs fs') : HoldsBackup sha fs' path f where
  image := hsame.image.trans h.image
  digest := by
    obtain ⟨line, hnode, htake⟩ := h.digest
    exact ⟨line, hsame.digest.trans hnode, htake⟩

/-- The two files of a backup to `path'` are not those of a backup to `path`. -/
structure Apart (path path' : CStr) : Prop where
  image : path' ≠ path
  imageDigest : path' ≠ shaFileName path
  digestImage : shaFileName path' ≠ path
  digest : shaFileName path' ≠ shaFileName path

/-- A step that leaves the files of a backup alone. -/
def SessionStep.KeepsBackup (board : Board) (path : CStr) : SessionStep → Prop
  | .command (.backup _ autoName name) => ∀ fs path',
    backupPath fs board name autoName = .ok (some path') → Apart path path'
  | .command _ => True
  | .files f => ∀ fs, SameBackup path fs (f fs)

lemma sameBackup_put {path' : CStr} (himage : path' ≠ path) (hdigest : path' ≠ shaFileName path)
    (data : List UInt8) {fs' : FileSystem} (h : SameBackup path fs fs') :
    SameBackup path fs (fs'.put path' data) where
  image := (FileSystem.node_put_of_ne _ himage.symm data).trans h.image
  digest := (FileSystem.node_put_of_ne _ hdigest.symm data).trans h.digest

/-- `flash_backup` writes its own two files. -/
lemma files_flashBackup (acc : SpiEepromDev σ) (io : WriteIo) {autoName name : CStr} (p : Proc σ)
    (h : ∀ path', backupPath fs board name autoName = .ok (some path') → Apart path path') :
    Delivers (fun r => SameBackup path fs r.2.1)
      (flashBackup sha fs acc io autoName board name p) := by
  have hsame := SameBackup.refl path fs
  refine delivers_body ?_
  refine .bind (yields_exitIf fun _ => hsame) fun _ _ =>
    .bind (yields_call (yields_true _).with_eq) fun found hfound => .bind (yields_orExit hsame) ?_
  rintro path' rfl
  obtain ⟨h₁, h₂, h₃, h₄⟩ := h path' hfound.2
  refine .bind (yields_exitIf fun _ => hsame) fun _ _ => .bind (yields_call (yields_true _)) ?_
  intro s _
  have hput := sameBackup_put h₁ h₂ s.data hsame
  exact .bind (yields_exitIf fun _ => hput) fun _ _ => .ok (sameBackup_put h₃ h₄ _ hput)

/-- A command leaves the files of a backup alone, unless it is a backup to them. -/
lemma keepsBackup_command {s : FlashSession σ} {c : Command}
    (hkeep : (SessionStep.command c).KeepsBackup board path) :
    Delivers (fun r => SameBackup path s.fs r.2.fs) (s.command sha L board c) := by
  have hsame := SameBackup.refl path s.fs
  cases c with
  | write name fallback fix shaFlag =>
      unfold FlashSession.command
      dsimp only
      split
      · exact .ok hsame
      · exact .bind (yields_true _) fun _ _ => .ok hsame
  | verify name fallback => exact .bind (yields_true _) fun _ _ => .ok hsame
  | restore name => exact .bind (yields_true _) fun _ _ => .ok hsame
  | backup io autoName name =>
      refine Yields.bind (P := fun r => SameBackup path s.fs r.2.1) ?_ fun r hr => .ok hr
      unfold anyioDevBackupFlash
      dsimp only
      split
      · exact .ok hsame
      · exact files_flashBackup L.acc io s.proc (hkeep s.fs)

/-- What is left of a backup after a session. -/
structure BackupKept (sha : Sha256) (path : CStr) (f : Flash (chip k))
    (x : List ℤ × FlashSession σ) : Prop where
  first : x.1.head? = some 0
  holds : HoldsBackup sha x.2.fs path f

lemma keepsBackup_step {f : Flash (chip k)} {step : SessionStep} {x : List ℤ × FlashSession σ}
    (hkeep : step.KeepsBackup board path) (hx : BackupKept sha path f x) :
    Delivers (BackupKept sha path f) (FlashSession.step sha L board x step) := by
  obtain ⟨results, s⟩ := x
  obtain ⟨hfirst, hholds⟩ := hx
  cases step with
  | command c =>
      refine .bind (keepsBackup_command hkeep) fun r hr => .ok ⟨?_, hholds.keep hr⟩
      simp only [List.head?_append, hfirst, Option.some_or]
  | files f => exact .ok ⟨hfirst, hholds.keep (hkeep s.fs)⟩

/-- A session that leaves the files of a backup alone. -/
lemma keepsBackup_run {f : Flash (chip k)} {steps : List SessionStep}
    (hkeep : ∀ step ∈ steps, step.KeepsBackup board path) {x : List ℤ × FlashSession σ}
    (hx : BackupKept sha path f x) :
    Delivers (BackupKept sha path f) (steps.foldlM (FlashSession.step sha L board) x) :=
  yields_foldlM (fun step hstep _ hy => keepsBackup_step (hkeep step hstep) hy) hx

/-! ### Restoring -/

section Restoring

variable {board' : Board} {name autoName : CStr}

variable (sha board name autoName) in
/-- The first step of a session on the flash memory itself: a backup. -/
lemma step_backup (hk : k ≤ 8) (hsize : (chip k).size = eepromGetFlashSize board.flashId)
    (hhandler : board.llio.backupFlash ≠ none) {s : FlashSession (Flash (chip k))}
    (htarget : BackupTarget s.fs board name autoName path) (hfits : path.length < pathMax - 8)
    (hpath : s.fs.writable path = true) (hsum : s.fs.writable (shaFileName path) = true) :
    ∃ pb, FlashSession.step sha (norLayer k) board ([], s)
      (.command (.backup .faultFree autoName name)) =
        .ok ([0], ⟨backedUp sha s.fs path s.proc.dev, { s.proc with pageBuffer := pb }⟩) := by
  obtain ⟨handler, hhandler⟩ := Option.ne_none_iff_exists'.1 hhandler
  obtain ⟨pb, hbackup⟩ := flashBackup_norFlash sha (p := s.proc) hsize hk htarget hfits hpath hsum
  refine ⟨pb, ?_⟩
  simp only [FlashSession.step, FlashSession.command, anyioDevBackupFlash, hhandler, norLayer,
    hbackup]
  rfl

/-- Restoring on the flash memory itself. -/
lemma restore_of_kept (hsha : sha.SplitInvariant) (hk : k ≤ 8)
    (hsize : (chip k).size = eepromGetFlashSize board.flashId)
    (hhandler : board.llio.restoreFlash ≠ none) {f : Flash (chip k)}
    (hholds : HoldsBackup sha fs path f) (q : Proc (Flash (chip k))) :
    ∃ buf, (⟨fs, q⟩ : FlashSession (Flash (chip k))).run sha (norLayer k) board
      [.command (.restore path)] = .ok ([0], ⟨fs, { q with fileBuffer := buf, dev := f }⟩) := by
  obtain ⟨handler, hhandler⟩ := Option.ne_none_iff_exists'.1 hhandler
  obtain ⟨buf, hrestore⟩ :=
    HoldsBackup.flashRestore (p := { q with dev := f }) hholds hsha hk hsize q
  refine ⟨buf, ?_⟩
  simp only [FlashSession.run, List.foldlM_cons, List.foldlM_nil, FlashSession.step,
    FlashSession.command, anyioDevRestoreFlash, hhandler, norLayer, hrestore]
  rfl

/-- **A backup can be restored whatever happened since.**  A session takes a backup and then
runs any commands that leave its files alone.  After that, a restore returns 0 on every board
with a flash memory of that size, reached in whatever way and whatever it holds, and puts
there what the flash memory held when the backup was taken. -/
theorem backup_restorable (hsha : sha.SplitInvariant) (hk : k ≤ 8)
    (hsize : (chip k).size = eepromGetFlashSize board.flashId)
    (hstart : PageAddress board.flashStartAddress) (hhandler : board.llio.backupFlash ≠ none)
    (D : FlashDriver k) {s : FlashSession D.State} {f : Flash (chip k)} (hs : D.Holds f s.proc.dev)
    (htarget : BackupTarget s.fs board name autoName path) (hfits : path.length < pathMax - 8)
    (hpath : s.fs.writable path = true) (hsum : s.fs.writable (shaFileName path) = true)
    {steps : List SessionStep} (hkeep : ∀ step ∈ steps, step.KeepsBackup board path)
    {results : List ℤ} {s' : FlashSession D.State} (hrun : s.run sha D.layer board
      (.command (.backup .faultFree autoName name) :: steps) = .ok (results, s')) :
    results.head? = some 0 ∧ (∃ g, D.Holds g s'.proc.dev) ∧
      ∀ (D' : FlashDriver k) (board' : Board) (q : Proc D'.State) (g : Flash (chip k)),
        (chip k).size = eepromGetFlashSize board'.flashId →
        PageAddress board'.flashStartAddress → board'.llio.restoreFlash ≠ none →
        D'.Holds g q.dev →
        ∃ q', (⟨s'.fs, q⟩ : FlashSession D'.State).run sha D'.layer board'
            [.command (.restore path)] =
          .ok ([0], ⟨s'.fs, q'⟩) ∧ D'.Holds f q'.dev := by
  -- the session does what it does on the flash memory itself
  obtain ⟨fs, p⟩ := s
  have hsame := D.session sha fs hstart (p.withDev f) hs
    (.command (.backup .faultFree autoName name) :: steps)
  have hdev : (p.withDev f).withDev p.dev = p := rfl
  rw [hdev, hrun] at hsame
  obtain ⟨⟨results', t⟩, hnor, hresults, hfs, hproc⟩ := hsame.of_ok'
  obtain ⟨pb, hbackup⟩ := step_backup sha board name autoName (s := ⟨fs, p.withDev f⟩) hk hsize
    hhandler htarget hfits hpath hsum
  rw [FlashSession.run, List.foldlM_cons, hbackup, ok_bind] at hnor
  have hkept := (keepsBackup_run hkeep
    ⟨rfl, holdsBackup_backedUp sha fs f hfits⟩).of_eq_ok hnor
  obtain rfl : results' = results := hresults
  refine ⟨hkept.first, ⟨_, hproc.dev⟩, ?_⟩
  intro D' board' q g hsize' hstart' hhandler' hq
  obtain ⟨buf, hrestore⟩ := restore_of_kept hsha hk hsize' hhandler' hkept.holds (q.withDev g)
  have hsame' := D'.session sha t.fs hstart' (q.withDev g) hq
    [.command (.restore path)]
  have hdev' : (q.withDev g).withDev q.dev = q := rfl
  rw [hdev', hrestore, hfs] at hsame'
  obtain ⟨⟨_, fs', q'⟩, hrun', rfl, rfl, hproc'⟩ := hsame'.of_ok
  exact ⟨q', hfs ▸ hrun', hproc'.dev⟩

end Restoring

/-- A backup of an erased chip behind registers, restored over Ethernet after the file system
got another file. -/
theorem backup_restorable_erased : ∃ fs' q',
    (⟨fs', .start (EthNet.idle ⟨fun _ => 0, 0⟩ 0)⟩ : FlashSession (EthNet 1)).run
        (.constant erasedDigest) plainWiring.remoteDriver.layer (board7i98 idEeprom1M)
        [.command (.restore (ascii "b.bin"))] = .ok ([0], ⟨fs', q'⟩) ∧
      plainWiring.remoteDriver.Holds (fun _ => 0xFF) q'.dev := by
  have hkeep : ∀ step ∈ [SessionStep.files fun fs => fs.put (ascii "c.bin") []],
      step.KeepsBackup (board7i98 idEeprom1M) (ascii "b.bin") := by
    intro step hstep
    obtain rfl := List.mem_singleton.1 hstep
    exact fun fs => sameBackup_put (by decide) (by decide) _ (.refl _ fs)
  obtain ⟨pb, hbackup⟩ := step_backup (.constant erasedDigest) (board7i98 idEeprom1M)
    (ascii "b.bin") [] (k := 1) (s := ⟨.empty, .start fun _ => 0xFF⟩) (by decide) (by decide)
    (by decide) (.file rfl) (by decide) rfl rfl
  have hstart : PageAddress (board7i98 idEeprom1M).flashStartAddress := ⟨by decide, by decide⟩
  have hsame := plainWiring.hm2Driver.session (.constant erasedDigest) .empty hstart
    (.start fun _ => 0xFF) holds_erasedPort
    [.command (.backup .faultFree [] (ascii "b.bin")), .files fun fs => fs.put (ascii "c.bin") []]
  rw [FlashSession.run, List.foldlM_cons, hbackup, ok_bind] at hsame
  obtain ⟨⟨results, s'⟩, hrun, -⟩ := hsame.of_ok
  obtain ⟨-, -, hrestore⟩ := backup_restorable (Sha256.splitInvariant_constant erasedDigest)
    (by decide) (by decide) ⟨by decide, by decide⟩ (by decide) plainWiring.hm2Driver
    holds_erasedPort (.file rfl) (by decide) rfl rfl hkeep hrun
  obtain ⟨q', hq', hholds⟩ := hrestore plainWiring.remoteDriver (board7i98 idEeprom1M)
    (.start (EthNet.idle ⟨fun _ => 0, 0⟩ 0)) (fun _ => 0) (by decide) ⟨by decide, by decide⟩
    (by decide) ⟨_, _, rfl, rfl⟩
  exact ⟨s'.fs, q', hq', hholds⟩

end Mesaflash
