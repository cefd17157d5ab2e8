import Mesaflash.Host
import Mesaflash.LocalFlash
import Mesaflash.Lib.Correspond

/-!
The flash commands on two access layers.

The functions of `eeprom.c` reach the flash memory only through `eeprom_access`, and only
at the addresses of pages.  So where one set of access functions does in its states what
another one does in the states that correspond (`Layer.Refines`), every command does: it
returns the same result, leaves the same files and the same global variables behind, and
ends in states that correspond again (`corresponds_run`).
-/

namespace Mesaflash

open Lib

variable {σ τ : Type}

/-! ### Bodies -/

section Bodies

variable {α α' ρ ρ' : Type} {R : α → α' → Prop} {Q : ρ → ρ' → Prop}

/-- Two bodies end early in returns that `Q` relates, or in the same fault. -/
inductive StopAlike (Q : ρ → ρ' → Prop) : Stop ρ → Stop ρ' → Prop
  | ret {r : ρ} {r' : ρ'} (h : Q r r') : StopAlike Q (.ret r) (.ret r')
  | fault (f : Fault) : StopAlike Q (.fault f) (.fault f)

lemma corresponds_call {x : Except Fault α} {x' : Except Fault α'} (h : Corresponds R Eq x x') :
    Corresponds R (StopAlike Q) (call x) (call x') := by
  cases h with
  | ok h => exact .ok h
  | error h =>
      subst h
      exact .error (.fault _)

lemma corresponds_exitIf {c c' : Prop} [Decidable c] [Decidable c'] (hc : c ↔ c') {r : ρ} {r' : ρ'}
    (h : Q r r') :
    Corresponds (fun _ _ => ¬ c') (StopAlike Q) (exitIf c r) (exitIf c' r') := by
  unfold exitIf
  by_cases hc' : c'
  · rw [if_pos hc', if_pos (hc.2 hc')]
    exact .error (.ret h)
  · rw [if_neg hc', if_neg (mt hc.1 hc')]
    exact .ok hc'

lemma corresponds_orExit (o : Option α) {r : ρ} {r' : ρ'} (h : Q r r') :
    Corresponds Eq (StopAlike Q) (orExit o r) (orExit o r') := by
  cases o with
  | none => exact .error (.ret h)
  | some a => exact .ok rfl

lemma corresponds_body {x : Except (Stop ρ) ρ} {x' : Except (Stop ρ') ρ'}
    (h : Corresponds Q (StopAlike Q) x x') : Corresponds Q Eq (body x) (body x') := by
  cases h with
  | ok h => exact .ok h
  | error h =>
      cases h with
      | ret h => exact .ok h
      | fault f => exact .error rfl

end Bodies

/-! ### Access layers -/

/-- An address at which a page is read or written. -/
structure PageAddress (a : ℕ) : Prop where
  page : pageSize ∣ a
  lt : a < 2 ^ 32

lemma pageAddress_zero : PageAddress 0 := ⟨Dvd.intro 0 rfl, by decide⟩

lemma pageAddress_u32 {a : ℕ} (h : pageSize ∣ a) : PageAddress (u32 a) :=
  ⟨(Nat.dvd_mod_iff (by decide)).2 h, Nat.mod_lt _ (by decide)⟩

lemma pageAddress_nextPage (a : ℕ) (h : PageAddress a) : PageAddress (nextPage a) :=
  pageAddress_u32 (Nat.dvd_add h.page (Nat.dvd_refl _))

lemma pageAddress_nextSector (a : ℕ) (h : PageAddress a) : PageAddress (nextSector a) :=
  pageAddress_u32 (Nat.dvd_add h.page (by decide))

/-- What `eeprom_access` holds for a board. -/
structure Layer (σ : Type) where
  acc : SpiEepromDev σ
  /-- `set_cs_high`. -/
  csHigh : σ → σ

/-- In states that `R` relates, the layer `L'` does what the layer `L` does. -/
structure Layer.Refines (L : Layer σ) (L' : Layer τ) (R : σ → τ → Prop) : Prop where
  readPage : ∀ {a : ℕ} {s : σ} {t : τ}, PageAddress a → R s t →
    Corresponds (fun x y => x.1 = y.1 ∧ R x.2 y.2) Eq (L.acc.readPage a s) (L'.acc.readPage a t)
  writePage : ∀ {a : ℕ} {s : σ} {t : τ} (page : PageBuf), PageAddress a → R s t →
    Corresponds R Eq (L.acc.writePage a page s) (L'.acc.writePage a page t)
  eraseSector : ∀ {a : ℕ} {s : σ} {t : τ}, PageAddress a → R s t →
    Corresponds R Eq (L.acc.eraseSector a s) (L'.acc.eraseSector a t)
  csHigh : ∀ {s : σ} {t : τ}, R s t → R (L.csHigh s) (L'.csHigh t)

/-- The global variables are the same, but for what the access functions work on. -/
structure ProcAlike (R : σ → τ → Prop) (p : Proc σ) (q : Proc τ) : Prop where
  bootBlock : p.bootBlock = q.bootBlock
  pageBuffer : p.pageBuffer = q.pageBuffer
  fileBuffer : p.fileBuffer = q.fileBuffer
  dev : R p.dev q.dev

/-- The same result, and global variables that correspond. -/
structure ResultAlike {α : Type} (R : σ → τ → Prop) (x : α × Proc σ) (y : α × Proc τ) : Prop where
  result : x.1 = y.1
  proc : ProcAlike R x.2 y.2

variable {sha : Sha256} {fs : FileSystem} {board : Board} {name : CStr} {L : Layer σ}
  {L' : Layer τ} {R : σ → τ → Prop} {p : Proc σ} {q : Proc τ}

/-! ### Parts of the commands -/

section Parts

lemma corresponds_sha256Verify (hp : ProcAlike R p q) :
    Corresponds (ResultAlike R) Eq (sha256Verify sha fs name p) (sha256Verify sha fs name q) := by
  refine corresponds_body ?_
  refine .bind (corresponds_orExit _ ⟨rfl, hp⟩) ?_
  rintro size _ rfl
  refine .bind (corresponds_exitIf Iff.rfl ⟨rfl, hp⟩) fun _ _ _ => ?_
  refine .bind (corresponds_orExit _ ⟨rfl, hp⟩) ?_
  rintro fp _ rfl
  refine .bind (corresponds_call (.refl _)) ?_
  rintro scanned _ rfl
  refine .bind (corresponds_orExit _ ⟨rfl, hp⟩) ?_
  rintro expected _ rfl
  refine .bind (corresponds_orExit _ ⟨rfl, hp⟩) ?_
  rintro _ _ -
  refine .bind (corresponds_orExit _ ⟨rfl, hp⟩) ?_
  rintro file _ rfl
  have hstart : ReadAlike Eq (⟨file, p.fileBuffer, sha.init⟩ : ReadState sha.Ctx)
      ⟨file, q.fileBuffer, sha.init⟩ := ⟨rfl, hp.fileBuffer, rfl⟩
  refine .bind (corresponds_readLoop (.fault .hang) ?_ hstart) ?_
  · rintro buf n t _ rfl
    exact .ok rfl
  · rintro s s' hs
    rw [hs.st, hs.buf]
    exact .ok ⟨rfl, ⟨hp.bootBlock, hp.pageBuffer, rfl, hp.dev⟩⟩

lemma corresponds_writeShaCheck (hp : ProcAlike R p q) (shaFlag : ℤ) :
    Corresponds (ProcAlike R) (StopAlike (ResultAlike R)) (writeShaCheck sha fs name shaFlag p)
      (writeShaCheck sha fs name shaFlag q) := by
  unfold writeShaCheck
  refine .ite Iff.rfl (fun _ => ?_) fun _ => .ok hp
  refine .bind (corresponds_call (corresponds_sha256Verify hp)) ?_
  rintro ⟨passed, p'⟩ ⟨passed', q'⟩ ⟨rfl, hp'⟩
  exact .bind (corresponds_exitIf Iff.rfl ⟨rfl, hp'⟩) fun _ _ _ => .ok hp'

lemma corresponds_writePartCheck (hp : ProcAlike R p q) (part : Option CStr) :
    Corresponds (fun _ _ => True) (StopAlike (ResultAlike R)) (writePartCheck board part p)
      (writePartCheck board part q) := by
  unfold writePartCheck
  refine .ite Iff.rfl (fun _ => ?_) fun _ => .ok trivial
  refine .bind (corresponds_call (.refl _)) ?_
  rintro right _ rfl
  exact (corresponds_exitIf Iff.rfl ⟨rfl, hp⟩).mono fun _ _ _ => trivial

variable (h : L.Refines L' R) (hp : ProcAlike R p q)

include h hp

lemma corresponds_checkBoot :
    Corresponds (ResultAlike R) Eq (checkBoot L.acc p) (checkBoot L'.acc q) := by
  unfold checkBoot
  refine .bind (h.readPage pageAddress_zero hp.dev) ?_
  rintro ⟨page, dev⟩ ⟨page', dev'⟩ ⟨hpage, hdev⟩
  dsimp only at hpage hdev ⊢
  subst hpage
  have hp' : ProcAlike R { p with pageBuffer := page, dev }
      { q with pageBuffer := page, dev := dev' } :=
    ⟨hp.bootBlock, rfl, hp.fileBuffer, hdev⟩
  exact .ite (by rw [hp.bootBlock]) (fun _ => .ok ⟨rfl, hp'⟩) fun _ => .ok ⟨rfl, hp'⟩

lemma corresponds_writeBoot :
    Corresponds (ProcAlike R) Eq (writeBoot L.acc p) (writeBoot L'.acc q) := by
  unfold writeBoot
  refine .bind (h.eraseSector pageAddress_zero hp.dev) fun dev dev' hdev => ?_
  rw [hp.bootBlock, hp.fileBuffer]
  exact .bind (h.writePage _ pageAddress_zero hdev) fun _ _ hdev' =>
    .ok ⟨rfl, hp.pageBuffer, rfl, hdev'⟩

lemma corresponds_eraseLoop {start : ℕ} (hstart : PageAddress start) (n : ℕ) :
    Corresponds (AtAddress PageAddress R) Eq
      ((List.range n).foldlM (eraseRound L.acc) (start, p.dev))
      ((List.range n).foldlM (eraseRound L'.acc) (start, q.dev)) := by
  refine Corresponds.foldlM (fun _ _ s t hs => ?_) ⟨rfl, hstart, hp.dev⟩
  exact corresponds_stride pageAddress_nextSector (fun _ _ _ ha hR => h.eraseSector ha hR) hs

lemma corresponds_startProgramming {start : ℕ} (hstart : PageAddress start) (fsize : ℤ) :
    Corresponds (ResultAlike R) Eq (startProgramming L.acc board start fsize p)
      (startProgramming L'.acc board start fsize q) := by
  unfold startProgramming
  refine .ite Iff.rfl (fun _ => .ok ⟨rfl, hp⟩) fun _ => ?_
  refine .bind (corresponds_eraseLoop h hp hstart _) ?_
  rintro ⟨a, dev⟩ ⟨a', dev'⟩ hs
  exact .ok ⟨rfl, ⟨hp.bootBlock, hp.pageBuffer, hp.fileBuffer, hs.state⟩⟩

lemma corresponds_flashErase :
    Corresponds (ResultAlike R) Eq (flashErase L.acc board p) (flashErase L'.acc board q) := by
  unfold flashErase
  refine .bind (corresponds_eraseLoop h hp pageAddress_zero _) ?_
  rintro ⟨a, dev⟩ ⟨a', dev'⟩ hs
  exact .ok ⟨rfl, ⟨hp.bootBlock, hp.pageBuffer, hp.fileBuffer, hs.state⟩⟩

lemma corresponds_programLoop (fp : File) {start : ℕ} (hstart : PageAddress start) :
    Corresponds (ProcAlike R) Eq (programLoop L.acc fp start p)
      (programLoop L'.acc fp start q) := by
  have hpage : ∀ (buf : ℕ → UInt8) (a : ℕ) (page : PageBuf) (s : σ) (t : τ), PageAddress a →
      R s t → Corresponds R Eq (programPage L.acc buf a page s) (programPage L'.acc buf a page t) :=
    fun _ _ page _ _ ha hR => h.writePage page ha hR
  unfold programLoop
  refine .bind (corresponds_readLoop (R := AtAddress PageAddress R) rfl (fun buf n t t' ht => ?_)
    ⟨rfl, hp.fileBuffer, rfl, hstart, hp.dev⟩) fun s s' hs => ?_
  · exact corresponds_pageChunk pageAddress_nextPage hpage buf n ht
  · exact .ok ⟨hp.bootBlock, hp.pageBuffer, hs.buf, hs.st.state⟩

/-- The page buffer is the same, and the states correspond. -/
abbrev PageAlike (R : σ → τ → Prop) (s : PageBuf × σ) (t : PageBuf × τ) : Prop :=
  s.1 = t.1 ∧ R s.2 t.2

lemma corresponds_verifyPage (buf : ℕ → UInt8) {a : ℕ} (ha : PageAddress a) (page : PageBuf)
    {s : PageBuf × σ} {t : PageBuf × τ} (hs : PageAlike R s t) :
    Corresponds (PageAlike R) (StopAlike (ResultAlike R)) (verifyPage L.acc p buf a page s)
      (verifyPage L'.acc q buf a page t) := by
  unfold verifyPage
  refine .bind (corresponds_call (h.readPage ha hs.2)) ?_
  rintro ⟨page', dev⟩ ⟨page'', dev'⟩ ⟨hpage, hdev⟩
  dsimp only at hpage hdev ⊢
  subst hpage
  exact .ite Iff.rfl (fun _ => .ok ⟨rfl, hdev⟩) fun _ =>
    .error (.ret ⟨rfl, ⟨hp.bootBlock, rfl, rfl, hdev⟩⟩)

lemma corresponds_verifyLoop (fp : File) {start : ℕ} (hstart : PageAddress start) :
    Corresponds (ResultAlike R) (StopAlike (ResultAlike R)) (verifyLoop L.acc fp start p)
      (verifyLoop L'.acc fp start q) := by
  unfold verifyLoop
  refine .bind (corresponds_readLoop (R := AtAddress PageAddress (PageAlike R)) (.fault .hang)
    (fun buf n t t' ht => ?_) ⟨rfl, hp.fileBuffer, rfl, hstart, hp.pageBuffer, hp.dev⟩)
    fun s s' hs => ?_
  · exact corresponds_pageChunk pageAddress_nextPage
      (fun buf _ page _ _ ha hR => corresponds_verifyPage h hp buf ha page hR) buf n ht
  · exact .ok ⟨rfl, ⟨hp.bootBlock, hs.st.state.1, hs.buf, hs.st.state.2⟩⟩

lemma corresponds_writeBootCheck (fix : ℤ) :
    Corresponds (ProcAlike R) (StopAlike (ResultAlike R)) (writeBootCheck L.acc board fix p)
      (writeBootCheck L'.acc board fix q) := by
  unfold writeBootCheck
  refine .ite Iff.rfl (fun _ => ?_) fun _ => .ok hp
  refine .bind (corresponds_call (corresponds_checkBoot h hp)) ?_
  rintro ⟨r, p₁⟩ ⟨_, q₁⟩ ⟨rfl, hp₁⟩
  refine .ite Iff.rfl (fun _ => ?_) fun _ => .ok hp₁
  refine .bind (corresponds_exitIf Iff.rfl ⟨rfl, hp₁⟩) fun _ _ _ => ?_
  refine .bind (corresponds_call (corresponds_writeBoot h hp₁)) fun p₂ q₂ hp₂ => ?_
  refine .bind (corresponds_call (corresponds_checkBoot h hp₂)) ?_
  rintro ⟨r', p₃⟩ ⟨_, q₃⟩ ⟨rfl, hp₃⟩
  exact .bind (corresponds_exitIf Iff.rfl ⟨rfl, hp₃⟩) fun _ _ _ => .ok hp₃

lemma corresponds_verifyChecks (fp : File) :
    Corresponds (fun x y => x.1 = y.1 ∧ ProcAlike R x.2 y.2) (StopAlike (ResultAlike R))
      (verifyChecks L.acc board fp p) (verifyChecks L'.acc board fp q) := by
  unfold verifyChecks
  refine .bind (corresponds_call (.refl _)) ?_
  rintro ⟨ret, part, fp'⟩ _ rfl
  refine .bind (corresponds_exitIf Iff.rfl ⟨rfl, hp⟩) fun _ _ _ => ?_
  refine .bind (corresponds_call (.refl _)) ?_
  rintro right _ rfl
  refine .bind (corresponds_exitIf Iff.rfl ⟨rfl, hp⟩) fun _ _ _ => ?_
  refine .ite Iff.rfl (fun _ => ?_) fun _ => .ok ⟨rfl, hp⟩
  refine .bind (corresponds_call (corresponds_checkBoot h hp)) ?_
  rintro ⟨r, p₁⟩ ⟨_, q₁⟩ ⟨rfl, hp₁⟩
  exact .bind (corresponds_exitIf Iff.rfl ⟨rfl, hp₁⟩) fun _ _ _ => .ok ⟨rfl, hp₁⟩

end Parts

/-! ### The commands -/

section Commands

/-- `eeprom_write`, with functions `start_programming` that correspond. -/
lemma corresponds_eepromWriteBy (h : L.Refines L' R) (hp : ProcAlike R p q) {start : ℕ}
    (hstart : PageAddress start) {program : ℕ → ℤ → Proc σ → Except Fault (ℤ × Proc σ)}
    {program' : ℕ → ℤ → Proc τ → Except Fault (ℤ × Proc τ)}
    (hprogram : ∀ size p q, ProcAlike R p q →
      Corresponds (ResultAlike R) Eq (program start size p) (program' start size q))
    (fix shaFlag : ℤ) :
    Corresponds (ResultAlike R) Eq
      (eepromWriteBy sha fs L.acc program board name start fix shaFlag p)
      (eepromWriteBy sha fs L'.acc program' board name start fix shaFlag q) := by
  refine corresponds_body ?_
  refine .bind (corresponds_writeShaCheck hp shaFlag) fun p₁ q₁ hp₁ => ?_
  refine .bind (corresponds_orExit _ ⟨rfl, hp₁⟩) ?_
  rintro size _ rfl
  refine .bind (corresponds_orExit _ ⟨rfl, hp₁⟩) ?_
  rintro fp _ rfl
  refine .bind (corresponds_call (.refl _)) ?_
  rintro ⟨ret, part, fp'⟩ _ rfl
  refine .bind (corresponds_exitIf Iff.rfl ⟨rfl, hp₁⟩) fun _ _ _ => ?_
  refine .bind (corresponds_writePartCheck hp₁ part) fun _ _ _ => ?_
  refine .bind (corresponds_writeBootCheck h hp₁ fix) fun p₂ q₂ hp₂ => ?_
  refine .bind (corresponds_call (hprogram _ p₂ q₂ hp₂)) ?_
  rintro ⟨r, p₃⟩ ⟨_, q₃⟩ ⟨rfl, hp₃⟩
  refine .bind (corresponds_exitIf Iff.rfl ⟨rfl, hp₃⟩) fun _ _ _ => ?_
  exact .bind (corresponds_call (corresponds_programLoop h hp₃ fp' hstart)) fun _ _ hp₄ =>
    .ok ⟨rfl, hp₄⟩

variable (h : L.Refines L' R) (hp : ProcAlike R p q)

lemma ProcAlike.csHigh (h : L.Refines L' R) (hp : ProcAlike R p q) :
    ProcAlike R { p with dev := L.csHigh p.dev } { q with dev := L'.csHigh q.dev } :=
  ⟨hp.bootBlock, hp.pageBuffer, hp.fileBuffer, h.csHigh hp.dev⟩

include h hp

/-- The write function of either set of flash functions. -/
lemma corresponds_writeFlash (handler : FlashHandler) {start : ℕ} (hstart : PageAddress start)
    (fix shaFlag : ℤ) :
    Corresponds (ResultAlike R) Eq
      (writeFlash sha fs L.acc L.csHigh handler board name start fix shaFlag p)
      (writeFlash sha fs L'.acc L'.csHigh handler board name start fix shaFlag q) := by
  cases handler with
  | remoteFlash =>
      exact corresponds_eepromWriteBy h hp hstart
        (fun size _ _ hp' => corresponds_startProgramming h hp' hstart size) fix shaFlag
  | localFlash =>
      refine .bind (corresponds_eepromWriteBy h hp hstart (fun size p' q' hp' => ?_) fix shaFlag) ?_
      · refine .bind (corresponds_startProgramming h (hp'.csHigh h) hstart size) ?_
        rintro ⟨r, p₁⟩ ⟨_, q₁⟩ ⟨rfl, hp₁⟩
        exact .ok ⟨rfl, hp₁.csHigh h⟩
      · rintro ⟨r, p₁⟩ ⟨_, q₁⟩ ⟨rfl, hp₁⟩
        exact .ok ⟨rfl, hp₁.csHigh h⟩

lemma corresponds_eepromVerify {start : ℕ} (hstart : PageAddress start) :
    Corresponds (ResultAlike R) Eq (eepromVerify fs L.acc board name start p)
      (eepromVerify fs L'.acc board name start q) := by
  refine corresponds_body ?_
  refine .bind (corresponds_orExit _ ⟨rfl, hp⟩) ?_
  rintro size _ rfl
  refine .bind (corresponds_orExit _ ⟨rfl, hp⟩) ?_
  rintro fp _ rfl
  refine .ite Iff.rfl (fun _ => ?_) fun _ => corresponds_verifyLoop h hp fp pageAddress_zero
  refine .bind (corresponds_verifyChecks h hp fp) ?_
  rintro ⟨fp₁, p₁⟩ ⟨_, q₁⟩ ⟨rfl, hp₁⟩
  exact corresponds_verifyLoop h hp₁ fp₁ hstart

/-- The variables of the backup loop are the same. -/
structure BackupAlike (sha : Sha256) (R : σ → τ → Prop) (s : BackupState sha σ)
    (t : BackupState sha τ) : Prop where
  addr : s.addr = t.addr
  page : PageAddress s.addr
  data : s.data = t.data
  ctx : s.ctx = t.ctx
  pageBuffer : s.pageBuffer = t.pageBuffer
  dev : R s.dev t.dev

omit hp in
lemma corresponds_backupRound (io : WriteIo) (i : ℕ) {s : BackupState sha σ}
    {t : BackupState sha τ} (hs : BackupAlike sha R s t) :
    Corresponds (BackupAlike sha R) Eq (backupRound sha L.acc io s i)
      (backupRound sha L'.acc io t i) := by
  unfold backupRound
  rw [← hs.addr, ← hs.data, ← hs.ctx]
  refine .bind (h.readPage hs.page hs.dev) ?_
  rintro ⟨page, dev⟩ ⟨_, dev'⟩ ⟨rfl, hdev⟩
  exact .ok ⟨rfl, pageAddress_nextPage _ hs.page, rfl, rfl, rfl, hdev⟩

/-- The same result, the same files, and global variables that correspond. -/
abbrev FilesAlike (R : σ → τ → Prop) (x : ℤ × FileSystem × Proc σ) (y : ℤ × FileSystem × Proc τ) :
    Prop := x.1 = y.1 ∧ x.2.1 = y.2.1 ∧ ProcAlike R x.2.2 y.2.2

lemma corresponds_flashBackup (io : WriteIo) (autoName : CStr) :
    Corresponds (FilesAlike R) Eq (flashBackup sha fs L.acc io autoName board name p)
      (flashBackup sha fs L'.acc io autoName board name q) := by
  refine corresponds_body ?_
  refine .bind (corresponds_exitIf Iff.rfl ⟨rfl, rfl, hp⟩) fun _ _ _ => ?_
  refine .bind (corresponds_call (.refl _)) ?_
  rintro path _ rfl
  refine .bind (corresponds_orExit _ ⟨rfl, rfl, hp⟩) ?_
  rintro path _ rfl
  refine .bind (corresponds_exitIf Iff.rfl ⟨rfl, rfl, hp⟩) fun _ _ _ => ?_
  have hstart : BackupAlike sha R ⟨0, [], sha.init, p.pageBuffer, p.dev⟩
      ⟨0, [], sha.init, q.pageBuffer, q.dev⟩ :=
    ⟨rfl, pageAddress_zero, rfl, rfl, hp.pageBuffer, hp.dev⟩
  refine .bind (corresponds_call (Corresponds.foldlM
    (fun i _ s t hs => corresponds_backupRound h io i hs) hstart)) fun s t hs => ?_
  rw [hs.data, hs.ctx]
  have hp' : ProcAlike R { p with pageBuffer := s.pageBuffer, dev := s.dev }
      { q with pageBuffer := t.pageBuffer, dev := t.dev } :=
    ⟨hp.bootBlock, hs.pageBuffer, hp.fileBuffer, hs.dev⟩
  exact .bind (corresponds_exitIf Iff.rfl ⟨rfl, rfl, hp'⟩) fun _ _ _ => .ok ⟨rfl, rfl, hp'⟩

lemma corresponds_flashRestore :
    Corresponds (ResultAlike R) Eq (flashRestore sha fs L.acc board name p)
      (flashRestore sha fs L'.acc board name q) := by
  refine corresponds_body ?_
  refine .bind (corresponds_exitIf Iff.rfl ⟨rfl, hp⟩) fun _ _ _ => ?_
  refine .bind (corresponds_call (corresponds_sha256Verify hp)) ?_
  rintro ⟨passed, p₁⟩ ⟨_, q₁⟩ ⟨rfl, hp₁⟩
  refine .bind (corresponds_exitIf Iff.rfl ⟨rfl, hp₁⟩) fun _ _ _ => ?_
  refine .bind (corresponds_orExit _ ⟨rfl, hp₁⟩) ?_
  rintro size _ rfl
  refine .bind (corresponds_exitIf Iff.rfl ⟨rfl, hp₁⟩) fun _ _ _ => ?_
  refine .bind (corresponds_exitIf Iff.rfl ⟨rfl, hp₁⟩) fun _ _ _ => ?_
  refine .bind (corresponds_orExit _ ⟨rfl, hp₁⟩) ?_
  rintro fp _ rfl
  refine .bind (corresponds_call (corresponds_flashErase h hp₁)) ?_
  rintro ⟨r, p₂⟩ ⟨_, q₂⟩ ⟨rfl, hp₂⟩
  refine .bind (corresponds_exitIf Iff.rfl ⟨rfl, hp₂⟩) fun _ _ _ => ?_
  exact .bind (corresponds_call (corresponds_programLoop h hp₂ fp pageAddress_zero))
    fun _ _ hp₃ => .ok ⟨rfl, hp₃⟩

end Commands

/-! ### Sessions -/

/-- The files, and the global variables of a process that opened one board. -/
structure FlashSession (σ : Type) where
  fs : FileSystem
  proc : Proc σ

/-- What happens in a session: a flash command, or another program changes the files. -/
inductive SessionStep where
  | command (c : Command)
  | files (f : FileSystem → FileSystem)

section Sessions

variable (sha : Sha256) (L : Layer σ) (board : Board)

/-- A flash command of `anyio.c`, with the flash functions that the board has. -/
def FlashSession.command (s : FlashSession σ) : Command → Except Fault (ℤ × FlashSession σ)
  | .write name fallback fix shaFlag =>
    match board.llio.writeFlash with
    | none => return (einval, s)
    | some handler => do
      let (r, p) ← writeFlash sha s.fs L.acc L.csHigh handler board name
        (flashAddress board fallback) fix shaFlag s.proc
      return (r, { s with proc := p })
  | .verify name fallback => do
    let (r, p) ← anyioDevVerifyFlash s.fs L.acc (some board) name fallback s.proc
    return (r, { s with proc := p })
  | .backup io autoName name => do
    let (r, fs, p) ← anyioDevBackupFlash sha s.fs L.acc io autoName (some board) name s.proc
    return (r, ⟨fs, p⟩)
  | .restore name => do
    let (r, p) ← anyioDevRestoreFlash sha s.fs L.acc (some board) name s.proc
    return (r, { s with proc := p })

/-- One step of a session, with the results of the commands so far. -/
def FlashSession.step (s : List ℤ × FlashSession σ) :
    SessionStep → Except Fault (List ℤ × FlashSession σ)
  | .command c => do
    let (r, s') ← s.2.command sha L board c
    return (s.1 ++ [r], s')
  | .files f => return (s.1, { s.2 with fs := f s.2.fs })

/-- A session: the results of its commands, and what they leave behind. -/
def FlashSession.run (s : FlashSession σ) (steps : List SessionStep) :
    Except Fault (List ℤ × FlashSession σ) :=
  steps.foldlM (FlashSession.step sha L board) ([], s)

end Sessions

/-- The same files, and global variables that correspond. -/
structure SessionAlike (R : σ → τ → Prop) (s : FlashSession σ) (t : FlashSession τ) : Prop where
  fs : s.fs = t.fs
  proc : ProcAlike R s.proc t.proc

/-- The same results, and sessions that correspond. -/
abbrev SessionsAlike {α : Type} (R : σ → τ → Prop) (x : α × FlashSession σ)
    (y : α × FlashSession τ) : Prop :=
  x.1 = y.1 ∧ SessionAlike R x.2 y.2

section Runs

variable {s : FlashSession σ} {t : FlashSession τ}

/-- The addresses at which the images of a board start are addresses of pages. -/
lemma pageAddress_flashAddress (hstart : PageAddress board.flashStartAddress) (fallback : ℤ) :
    PageAddress (flashAddress board fallback) := by
  unfold flashAddress
  split
  · split
    · exact pageAddress_zero
    · exact ⟨by decide, by decide⟩
  · exact hstart

/-- One command. -/
lemma corresponds_command (h : L.Refines L' R) (hstart : PageAddress board.flashStartAddress)
    (hs : SessionAlike R s t) (c : Command) :
    Corresponds (SessionsAlike R) Eq (s.command sha L board c) (t.command sha L' board c) := by
  obtain ⟨fs, p⟩ := s
  obtain ⟨_, q⟩ := t
  obtain ⟨rfl, hp⟩ := hs
  have hend : ∀ {x : Except Fault (ℤ × Proc σ)} {y : Except Fault (ℤ × Proc τ)},
      Corresponds (ResultAlike R) Eq x y → Corresponds (SessionsAlike R) Eq
        (x >>= fun r => .ok (r.1, (⟨fs, r.2⟩ : FlashSession σ)))
        (y >>= fun r => .ok (r.1, (⟨fs, r.2⟩ : FlashSession τ))) := fun hxy =>
    hxy.bind fun _ _ hr => .ok ⟨hr.result, rfl, hr.proc⟩
  cases c with
  | write name fallback fix shaFlag =>
      unfold FlashSession.command
      dsimp only
      split
      · exact .ok ⟨rfl, rfl, hp⟩
      · next handler _ =>
        exact hend (corresponds_writeFlash h hp handler
          (pageAddress_flashAddress hstart fallback) fix shaFlag)
  | verify name fallback =>
      refine hend ?_
      unfold anyioDevVerifyFlash
      dsimp only
      split
      · exact .ok ⟨rfl, hp⟩
      · exact corresponds_eepromVerify h hp (pageAddress_flashAddress hstart fallback)
  | backup io autoName name =>
      refine Corresponds.bind (R := FilesAlike R) ?_ fun x y hxy => .ok ⟨hxy.1, hxy.2.1, hxy.2.2⟩
      unfold anyioDevBackupFlash
      dsimp only
      split
      · exact .ok ⟨rfl, rfl, hp⟩
      · exact corresponds_flashBackup h hp io autoName
  | restore name =>
      refine hend ?_
      unfold anyioDevRestoreFlash
      dsimp only
      split
      · exact .ok ⟨rfl, hp⟩
      · exact corresponds_flashRestore h hp

/-- A session: the results are the same, and what is left behind corresponds. -/
lemma corresponds_run (h : L.Refines L' R) (hstart : PageAddress board.flashStartAddress)
    (hs : SessionAlike R s t) (steps : List SessionStep) :
    Corresponds (SessionsAlike R) Eq (s.run sha L board steps) (t.run sha L' board steps) := by
  refine Corresponds.foldlM (fun step _ x y hxy => ?_) ⟨rfl, hs⟩
  obtain ⟨results, s⟩ := x
  obtain ⟨_, t⟩ := y
  obtain ⟨rfl, hs⟩ := hxy
  cases step with
  | command c =>
      exact (corresponds_command h hstart hs c).bind fun _ _ hr =>
        .ok ⟨congrArg (results ++ [·]) hr.1, hr.2⟩
  | files f => exact .ok ⟨rfl, congrArg f hs.fs, hs.proc⟩

end Runs

end Mesaflash
