import Mesaflash.Anyio

/-!
What the flash commands leave alone.

A command reaches the flash memory only through the access functions, and it never
changes the boot block.  So what every access function keeps of the state that it
works on, every command keeps, whether it succeeds or not.  And it ends in the faults of
the access functions, or in faults of its own; of these, only a missing part number is a
null pointer.
-/

namespace Mesaflash

open Lib

/-- A fault that is not the use of a null pointer. -/
def Fault.NotNull (f : Fault) : Prop :=
  f ≠ .undefined .nullPointer ∧ f ≠ .undefined .nullString

instance (f : Fault) : Decidable f.NotNull := inferInstanceAs (Decidable (_ ∧ _))

variable {σ : Type} {acc : SpiEepromDev σ} {I : σ → Prop} {E : Fault → Prop}

/-- Every access function keeps `I`. -/
structure SpiEepromDev.Preserves (acc : SpiEepromDev σ) (I : σ → Prop) : Prop where
  readPage : ∀ a s, I s → Delivers (fun r => I r.2) (acc.readPage a s)
  writePage : ∀ a page s, I s → Delivers I (acc.writePage a page s)
  eraseSector : ∀ a s, I s → Delivers I (acc.eraseSector a s)

/-- Every access function keeps `I`, or ends in a fault with `E`. -/
structure SpiEepromDev.PreservesOr (acc : SpiEepromDev σ) (I : σ → Prop) (E : Fault → Prop) :
    Prop where
  readPage : ∀ a s, I s → Yields (fun r => I r.2) E (acc.readPage a s)
  writePage : ∀ a page s, I s → Yields I E (acc.writePage a page s)
  eraseSector : ∀ a s, I s → Yields I E (acc.eraseSector a s)

lemma SpiEepromDev.Preserves.or_true (h : acc.Preserves I) : acc.PreservesOr I fun _ => True :=
  ⟨h.readPage, h.writePage, h.eraseSector⟩

/-- What is kept of the global variables: the boot block, and `I` of what the access
functions work on. -/
structure Keeps (I : σ → Prop) (block : BootBlock) (p : Proc σ) : Prop where
  dev : I p.dev
  bootBlock : p.bootBlock = block

variable {block : BootBlock} {p : Proc σ} {sha : Sha256} {fs : FileSystem} {board : Board}
  {name : CStr}

/-! ### Files -/

section Files

variable (hE : ∀ f : Fault, f.NotNull → E f)

include hE

lemma yields_readBuff (n : ℕ) (s : HeaderState) :
    Yields (fun _ => True) E (readBuff n s) := by
  unfold readBuff
  exact .ite (fun _ => .error (hE _ (by decide))) fun _ => .ok trivial

lemma yields_readField (hdr : ℕ) (s : HeaderState) :
    Yields (fun _ => True) E (readField hdr s) :=
  .bind (yields_readBuff hE _ _) fun _ _ => yields_readBuff hE _ _

lemma yields_copyPart (buff : List UInt8) : Yields (fun _ => True) E (copyPart buff) := by
  unfold copyPart
  exact .ite (fun _ => .error (hE _ (by decide))) fun _ =>
    .ite (fun _ => .error (hE _ (by decide))) fun _ => .ok trivial

lemma yields_xilinxHeader (s : HeaderState) :
    Yields (fun _ => True) E (xilinxHeader s) := by
  unfold xilinxHeader
  exact .ite (fun _ => .bind (yields_readField hE _ _) fun _ _ =>
    .bind (yields_readField hE _ _) fun _ _ => .bind (yields_copyPart hE _) fun _ _ =>
    .bind (yields_readField hE _ _) fun _ _ => .bind (yields_readField hE _ _) fun _ _ =>
    .bind (yields_readBuff hE _ _) fun _ _ => .ok trivial) fun _ => .ok trivial

lemma yields_readLine (size : ℕ) (s : LineState) :
    Yields (fun _ => True) E (readLine size s) := by
  unfold readLine
  exact .ite (fun _ => .error (hE _ (by decide))) fun _ => .ok trivial

lemma yields_devicePart (str : CStr) : Yields (fun _ => True) E (devicePart str) := by
  unfold devicePart
  split
  · exact .error (hE _ (by decide))
  · split
    · exact .error (hE _ (by decide))
    · exact .ite (fun _ => .error (hE _ (by decide))) fun _ =>
        .ite (fun _ => .error (hE _ (by decide))) fun _ => .ok trivial

lemma yields_efinixHeader (s : LineState) : Yields (fun _ => True) E (efinixHeader s) :=
  .bind (yields_readLine hE _ _) fun _ _ => .bind (yields_readLine hE _ _) fun _ _ =>
  .bind (yields_readLine hE _ _) fun _ _ => .bind (yields_readLine hE _ _) fun _ _ =>
  .bind (yields_readLine hE _ _) fun _ _ => .bind (yields_readLine hE _ _) fun _ _ =>
  .bind (yields_devicePart hE _) fun _ _ => .bind (yields_readLine hE _ _) fun _ _ =>
  .bind (yields_readLine hE _ _) fun _ _ => .bind (yields_readLine hE _ _) fun _ _ => .ok trivial

/-- The header is read without null pointers. -/
lemma yields_printBitfileHeader (fp : File) :
    Yields (fun _ => True) E (printBitfileHeader fp) := by
  unfold printBitfileHeader
  refine .bind (yields_readBuff hE _ _) fun s _ => .ite (fun _ => .ok trivial) fun _ =>
    .ite (fun _ => yields_xilinxHeader hE s) fun _ => .bind (yields_readLine hE _ _) fun t _ => ?_
  exact .ite (fun _ => yields_efinixHeader hE t) fun _ => .ok trivial

lemma yields_scanHexByte (s : List UInt8) : Yields (fun _ => True) E (scanHexByte s) := by
  have hindeterminate : E (.undefined .indeterminate) := hE _ (by decide)
  unfold scanHexByte
  split
  · exact .error hindeterminate
  · refine .ite (fun _ => ?_) fun _ => ?_
    · split
      · exact .error hindeterminate
      · exact .ok trivial
    · split
      · exact .ok trivial
      · split
        · exact .error hindeterminate
        · split
          · exact .ok trivial
          · exact .ok trivial

lemma yields_scanDigest (str : List UInt8) : Yields (fun _ => True) E (scanDigest str) := by
  refine yields_foldlM (I := fun _ => True) (fun j _ digest _ => ?_) trivial
  cases digest with
  | none => exact .ok trivial
  | some bytes =>
      refine .bind (yields_scanHexByte hE _) fun b _ => ?_
      cases b with
      | none => exact .ok trivial
      | some b => exact .ok trivial

lemma yields_sha256Verify (hp : Keeps I block p) :
    Yields (fun r => Keeps I block r.2) E (sha256Verify sha fs name p) := by
  refine stops_body ?_
  refine .bind (stops_orExit hp) fun _ _ => .bind (stops_exitIf fun _ => hp) fun _ _ =>
    .bind (stops_orExit hp) fun _ _ => .bind (stops_call (yields_scanDigest hE _)) fun _ _ =>
    .bind (stops_orExit hp) fun _ _ => .bind (stops_orExit hp) fun _ _ =>
    .bind (stops_orExit hp) fun _ _ => ?_
  have hhang : E .hang := hE _ (by decide)
  exact .bind (yields_readLoop (I := fun _ => True) hhang (fun _ _ _ _ => .ok trivial) trivial)
    fun _ _ => .ok ⟨hp.dev, hp.bootBlock⟩

end Files

/-! ### Parts of the commands -/

section Parts

variable (hE : ∀ f : Fault, f.NotNull → E f) (hacc : acc.PreservesOr I E)
  (hp : Keeps I block p)

include hacc hp

lemma keeps_checkBoot : Yields (fun r => Keeps I block r.2) E (checkBoot acc p) := by
  unfold checkBoot
  exact .bind (hacc.readPage 0 p.dev hp.dev) fun r hr =>
    .ite (fun _ => .ok ⟨hr, hp.bootBlock⟩) fun _ => .ok ⟨hr, hp.bootBlock⟩

lemma keeps_writeBoot : Yields (Keeps I block) E (writeBoot acc p) :=
  .bind (hacc.eraseSector _ _ hp.dev) fun _ hdev => .bind (hacc.writePage _ _ _ hdev)
    fun _ hdev => .ok ⟨hdev, hp.bootBlock⟩

lemma keeps_eraseLoop (n start : ℕ) :
    Yields (fun s => I s.2) E ((List.range n).foldlM (eraseRound acc) (start, p.dev)) :=
  yields_foldlM (I := fun s : ℕ × σ => I s.2)
    (fun _ _ _ hs => yields_stride _ _ (hacc.eraseSector _ _ hs)) hp.dev

lemma keeps_startProgramming (start : ℕ) (fsize : ℤ) :
    Yields (fun r => Keeps I block r.2) E (startProgramming acc board start fsize p) := by
  unfold startProgramming
  split
  · exact .ok hp
  · exact .bind (keeps_eraseLoop hacc hp _ _) fun _ hs => .ok ⟨hs, hp.bootBlock⟩

lemma keeps_flashErase : Yields (fun r => Keeps I block r.2) E (flashErase acc board p) :=
  .bind (keeps_eraseLoop hacc hp _ _) fun _ hs => .ok ⟨hs, hp.bootBlock⟩

include hE in
lemma keeps_programLoop (fp : File) (start : ℕ) :
    Yields (Keeps I block) E (programLoop acc fp start p) := by
  have hhang : E .hang := hE _ (by decide)
  refine .bind (yields_readLoop (I := fun s : ℕ × σ => I s.2) hhang (fun buf n t ht => ?_)
    hp.dev) fun s hs => .ok ⟨hs, hp.bootBlock⟩
  exact yields_pageChunk (fun _ _ _ _ h => hacc.writePage _ _ _ h) buf n ht

lemma keeps_verifyPage (buf : ℕ → UInt8) (addr : ℕ) (page : PageBuf) (s : PageBuf × σ)
    (hs : I s.2) :
    Yields (fun s => I s.2) (StopsWith E fun r => Keeps I block r.2)
      (verifyPage acc p buf addr page s) := by
  unfold verifyPage
  exact .bind (stops_call (hacc.readPage addr s.2 hs)) fun r hr =>
    .ite (fun _ => .ok hr) fun _ => .error ⟨hr, hp.bootBlock⟩

include hE in
lemma keeps_verifyLoop (fp : File) (start : ℕ) :
    Yields (fun r => Keeps I block r.2) (StopsWith E fun r => Keeps I block r.2)
      (verifyLoop acc fp start p) := by
  have hhang : E .hang := hE _ (by decide)
  have hchunk : ∀ buf n (t : ℕ × PageBuf × σ), I t.2.2 →
      Yields (fun s => I s.2.2) (StopsWith E fun r => Keeps I block r.2)
        (pageChunk nextPage (verifyPage acc p) buf n t) := fun buf n t ht =>
    yields_pageChunk (I := fun s : PageBuf × σ => I s.2) (keeps_verifyPage hacc hp) buf n ht
  unfold verifyLoop
  exact .bind (yields_readLoop (I := fun s : ℕ × PageBuf × σ => I s.2.2) hhang hchunk hp.dev)
    fun s hs => .ok ⟨hs, hp.bootBlock⟩

end Parts

/-! ### The commands -/

section Commands

variable (hE : ∀ f : Fault, f.NotNull → E f) (hacc : acc.PreservesOr I E)
  (hpart : board.llio.fpgaPartNumber = none → E (.undefined .nullPointer))
  (hp : Keeps I block p)

include hacc hp in
lemma keeps_writeBootCheck (fix : ℤ) :
    Yields (Keeps I block) (StopsWith E fun r => Keeps I block r.2)
      (writeBootCheck acc board fix p) := by
  unfold writeBootCheck
  refine .ite (fun _ => .bind (stops_call (keeps_checkBoot hacc hp)) fun r hr =>
    .ite (fun _ => .bind (stops_exitIf fun _ => hr) fun _ _ =>
      .bind (stops_call (keeps_writeBoot hacc hr)) fun p' hp' =>
      .bind (stops_call (keeps_checkBoot hacc hp')) fun r' hr' =>
      .bind (stops_exitIf fun _ => hr') fun _ _ => .ok hr') fun _ => .ok hr) fun _ => .ok hp

include hE

include hp in
lemma keeps_writeShaCheck (shaFlag : ℤ) :
    Yields (Keeps I block) (StopsWith E fun r => Keeps I block r.2)
      (writeShaCheck sha fs name shaFlag p) := by
  unfold writeShaCheck
  exact .ite (fun _ => .bind (stops_call (yields_sha256Verify hE hp)) fun r hr =>
    .bind (stops_exitIf fun _ => hr) fun _ _ => .ok hr) fun _ => .ok hp

include hpart in
lemma yields_partMatches (part : Option CStr) :
    Yields (fun _ => True) E (partMatches board part) := by
  unfold partMatches
  split
  · exact .error (hpart ‹_›)
  · refine .ite (fun _ => .ok trivial) fun _ => ?_
    split
    · exact .error (hE _ (by decide))
    · exact .ok trivial

include hpart hp in
lemma keeps_writePartCheck (part : Option CStr) :
    Yields (fun _ => True) (StopsWith E fun r => Keeps I block r.2)
      (writePartCheck board part p) := by
  unfold writePartCheck
  exact .ite (fun _ => .bind (stops_call (yields_partMatches hE hpart part)) fun _ _ =>
    .mono (stops_exitIf fun _ => hp) fun _ _ => trivial) fun _ => .ok trivial

include hacc hp

include hpart in
/-- `eeprom_write`. -/
lemma keeps_eepromWrite (start : ℕ) (fix shaFlag : ℤ) :
    Yields (fun r => Keeps I block r.2) E
      (eepromWrite sha fs acc board name start fix shaFlag p) := by
  refine stops_body ?_
  refine .bind (keeps_writeShaCheck hE hp shaFlag) fun p₁ hp₁ => .bind (stops_orExit hp₁)
    fun size _ => .bind (stops_orExit hp₁) fun fp _ =>
    .bind (stops_call (yields_printBitfileHeader hE fp)) fun head _ =>
    .bind (stops_exitIf fun _ => hp₁) fun _ _ =>
    .bind (keeps_writePartCheck hE hpart hp₁ _) fun _ _ =>
    .bind (keeps_writeBootCheck hacc hp₁ fix) fun p₂ hp₂ => ?_
  have hstart : Yields (fun r => Keeps I block r.2) E
      (startProgramming acc board start (toInt size) p₂) :=
    keeps_startProgramming hacc hp₂ start (toInt size)
  refine .bind (stops_call hstart) ?_
  rintro ⟨r, p₃⟩ hp₃
  exact .bind (stops_exitIf fun _ => hp₃) fun _ _ =>
    .bind (stops_call (keeps_programLoop hE hacc hp₃ _ _)) fun _ h => .ok h

include hpart in
lemma keeps_verifyChecks (fp : File) :
    Yields (fun r => Keeps I block r.2) (StopsWith E fun r => Keeps I block r.2)
      (verifyChecks acc board fp p) := by
  unfold verifyChecks
  exact .bind (stops_call (yields_printBitfileHeader hE fp)) fun head _ =>
    .bind (stops_exitIf fun _ => hp) fun _ _ =>
    .bind (stops_call (yields_partMatches hE hpart _)) fun right _ =>
    .bind (stops_exitIf fun _ => hp) fun _ _ =>
    .ite (fun _ => .bind (stops_call (keeps_checkBoot hacc hp)) fun r hr =>
      .bind (stops_exitIf fun _ => hr) fun _ _ => .ok hr) fun _ => .ok hp

include hpart in
/-- `eeprom_verify`. -/
lemma keeps_eepromVerify (start : ℕ) :
    Yields (fun r => Keeps I block r.2) E (eepromVerify fs acc board name start p) := by
  refine stops_body ?_
  refine .bind (stops_orExit hp) fun size _ => .bind (stops_orExit hp) fun fp _ => ?_
  split
  · refine .bind (keeps_verifyChecks hE hacc hpart hp fp) ?_
    rintro ⟨fp', p₁⟩ hp₁
    exact keeps_verifyLoop hE hacc hp₁ fp' start
  · exact keeps_verifyLoop hE hacc hp fp 0

/-- `flash_backup`. -/
lemma keeps_flashBackup (io : WriteIo) (autoName : CStr) :
    Yields (fun r => Keeps I block r.2.2) E
      (flashBackup sha fs acc io autoName board name p) := by
  refine stops_body ?_
  refine .bind (stops_exitIf fun _ => hp) fun _ _ =>
    .bind (stops_call (P := fun _ => True) ?_) fun path _ => .bind (stops_orExit hp) fun _ _ =>
    .bind (stops_exitIf fun _ => hp) fun _ _ => .bind (stops_call (P := fun s => I s.dev) ?_)
    fun s hs => .bind (stops_exitIf fun _ => ⟨hs, hp.bootBlock⟩) fun _ _ =>
    .ok ⟨hs, hp.bootBlock⟩
  · unfold backupPath
    split
    · split
      · exact .error (hE _ (by decide))
      · exact .ok trivial
    · exact .ok trivial
    · exact .ok trivial
  · refine yields_foldlM (I := fun s : BackupState sha σ => I s.dev) (fun i _ s hs => ?_) hp.dev
    unfold backupRound
    exact .bind (hacc.readPage _ _ hs) fun _ h => .ok h

/-- `flash_restore`. -/
lemma keeps_flashRestore :
    Yields (fun r => Keeps I block r.2) E (flashRestore sha fs acc board name p) := by
  refine stops_body ?_
  exact .bind (stops_exitIf fun _ => hp) fun _ _ =>
    .bind (stops_call (yields_sha256Verify hE hp)) fun r hr =>
    .bind (stops_exitIf fun _ => hr) fun _ _ => .bind (stops_orExit hr) fun _ _ =>
    .bind (stops_exitIf fun _ => hr) fun _ _ => .bind (stops_exitIf fun _ => hr) fun _ _ =>
    .bind (stops_orExit hr) fun _ _ => .bind (stops_call (keeps_flashErase hacc hr))
    fun r' hr' => .bind (stops_exitIf fun _ => hr') fun _ _ =>
    .bind (stops_call (keeps_programLoop hE hacc hr' _ _)) fun _ h => .ok h

include hpart in
lemma keeps_anyioDevWriteFlash (fallback fix shaFlag : ℤ) :
    Yields (fun r => Keeps I block r.2) E
      (anyioDevWriteFlash sha fs acc (some board) name fallback fix shaFlag p) := by
  unfold anyioDevWriteFlash
  dsimp only
  split
  · exact .ok hp
  · exact keeps_eepromWrite hE hacc hpart hp _ _ _

include hpart in
lemma keeps_anyioDevVerifyFlash (fallback : ℤ) :
    Yields (fun r => Keeps I block r.2) E
      (anyioDevVerifyFlash fs acc (some board) name fallback p) := by
  unfold anyioDevVerifyFlash
  dsimp only
  split
  · exact .ok hp
  · exact keeps_eepromVerify hE hacc hpart hp _

lemma keeps_anyioDevBackupFlash (io : WriteIo) (autoName : CStr) :
    Yields (fun r => Keeps I block r.2.2) E
      (anyioDevBackupFlash sha fs acc io autoName (some board) name p) := by
  unfold anyioDevBackupFlash
  dsimp only
  split
  · exact .ok hp
  · exact keeps_flashBackup hE hacc hp io autoName

lemma keeps_anyioDevRestoreFlash :
    Yields (fun r => Keeps I block r.2) E
      (anyioDevRestoreFlash sha fs acc (some board) name p) := by
  unfold anyioDevRestoreFlash
  dsimp only
  split
  · exact .ok hp
  · exact keeps_flashRestore hE hacc hp

end Commands

end Mesaflash
