import Mesaflash.Verify

/-!
What the write command does to the flash memory.

`eepromWrite_eq_zero_iff` takes a successful run of the command apart into its
steps, whatever the access functions are.  For the flash memory itself the steps
are known: the boot block may be written, then sectors are erased, then the pages
of the payload are programmed.  `eepromWrite_effect` puts them together.
-/

namespace Mesaflash

open Lib

/-! ### A successful run -/

section Run

variable {σ : Type} {sha : Sha256} {fs : FileSystem} {acc : SpiEepromDev σ} {board : Board}
  {name : CStr} {start : ℕ} {fix shaFlag : ℤ} {p p' : Proc σ}

/-- The checksum function gives up at once, or its loop reads the file. -/
lemma sha256Verify_cases {b : Bool} (h : sha256Verify sha fs name p = .ok (b, p')) :
    b = false ∧ p' = p ∨ ∃ fp s, fs.fopen name = some fp ∧
      readLoop (.fault .hang : Stop (Bool × Proc σ)) chunkSize
        (fun buf n ctx => .ok (sha.update ctx (bytesOf buf n))) ⟨fp, p.fileBuffer, sha.init⟩ =
          .ok s ∧
      p' = { p with fileBuffer := s.buf } := by
  rcases body_eq_ok.1 h with hend | hret
  · right
    simp only [bind_eq_ok, orExit_eq_ok] at hend
    obtain ⟨_, -, _, -, _, -, _, -, _, -, _, -, fp, hopen, s, hloop, hend⟩ := hend
    exact ⟨fp, s, hopen, hloop, (Prod.mk.inj (Except.ok.inj hend)).2.symm⟩
  · left
    refine (?_ : EarlyRet (fun r : Bool × Proc σ => r.1 = false ∧ r.2 = p) _) _ hret
    refine .bind (.orExit ⟨rfl, rfl⟩) fun _ _ => .bind (.exitIf fun _ => ⟨rfl, rfl⟩) fun _ _ =>
      .bind (.orExit ⟨rfl, rfl⟩) fun _ _ => .bind (.call _) fun _ _ =>
      .bind (.orExit ⟨rfl, rfl⟩) fun _ _ => .bind (.orExit ⟨rfl, rfl⟩) fun _ _ =>
      .bind (.orExit ⟨rfl, rfl⟩) fun _ _ => .bind ?_ fun _ _ => .ok _
    -- the loop over the file never returns early
    exact fun r hr => readLoop_error (E := fun e => ∀ r, e = .ret r → _) (by simp) (by simp)
      hr r rfl

/-- The checksum function uses the file buffer and nothing else. -/
lemma sha256Verify_frame {b : Bool} (h : sha256Verify sha fs name p = .ok (b, p')) :
    ∃ buf, p' = { p with fileBuffer := buf } := by
  rcases sha256Verify_cases h with ⟨-, rfl⟩ | ⟨fp, s, -, -, rfl⟩
  · exact ⟨p'.fileBuffer, rfl⟩
  · exact ⟨s.buf, rfl⟩

lemma writeShaCheck_frame (h : writeShaCheck sha fs name shaFlag p = .ok p') :
    ∃ buf, p' = { p with fileBuffer := buf } := by
  unfold writeShaCheck at h
  split at h
  · simp only [bind_eq_ok] at h
    obtain ⟨⟨b, p₁⟩, hsha, _, -, h⟩ := h
    obtain rfl := Except.ok.inj h
    exact sha256Verify_frame (call_eq_ok.1 hsha)
  · obtain rfl := Except.ok.inj h
    exact ⟨p.fileBuffer, rfl⟩

/-- The file buffer after the checksum of a file was checked. -/
def shaBuffer (shaFlag : ℤ) (data : List UInt8) (buf : ℕ → UInt8) : ℕ → UInt8 :=
  if shaFlag = 0 then buf else drained chunkSize buf data

/-- A checksum that was checked was calculated over the whole file. -/
lemma sha256Verify_true {data : List UInt8} (hnode : fs.node name = some (.regular data true false))
    (h : sha256Verify sha fs name p = .ok (true, p')) :
    p' = { p with fileBuffer := drained chunkSize p.fileBuffer data } := by
  obtain ⟨hfalse, -⟩ | ⟨fp, s, hopen, hloop, rfl⟩ := sha256Verify_cases h
  · cases hfalse
  · obtain rfl : File.start data false = fp := by
      simpa [FileSystem.fopen_of_node hnode] using hopen
    obtain ⟨chunks, -, hfeed⟩ := readLoop_feed (.fault .hang : Stop (Bool × Proc σ))
      (show 0 < chunkSize by decide) sha.update _ ⟨.start data false, p.fileBuffer, sha.init⟩ rfl
      rfl rfl
    rw [hfeed] at hloop
    obtain rfl := Except.ok.inj hloop
    rfl

lemma writeShaCheck_eq_ok {data : List UInt8}
    (hnode : fs.node name = some (.regular data true false))
    (h : writeShaCheck sha fs name shaFlag p = .ok p') :
    p' = { p with fileBuffer := shaBuffer shaFlag data p.fileBuffer } := by
  unfold writeShaCheck at h
  split at h
  · next hflag =>
    simp only [bind_eq_ok, exitIf_eq_ok] at h
    obtain ⟨⟨b, p₁⟩, hsha, _, hb, h⟩ := h
    obtain rfl := Except.ok.inj h
    have htrue : b = true := by simpa using hb
    rw [htrue] at hsha
    rw [shaBuffer, if_neg hflag]
    exact sha256Verify_true hnode (call_eq_ok.1 hsha)
  · next hflag =>
    obtain rfl := Except.ok.inj h
    rw [shaBuffer, if_pos (not_not.1 hflag)]

/-- The results of a command that failed. -/
abbrev Failed (r : ℤ × Proc σ) : Prop := r.1 = -1

lemma writeShaCheck_earlyRet {P : ℤ × Proc σ → Prop}
    (h : ∀ buf, P (-1, { p with fileBuffer := buf })) :
    EarlyRet P (writeShaCheck sha fs name shaFlag p) := by
  unfold writeShaCheck
  split
  · refine .bind (.call _) fun x hx => .bind (.exitIf fun _ => ?_) fun _ _ => .ok _
    obtain ⟨b, p₁⟩ := x
    obtain ⟨buf, rfl⟩ := sha256Verify_frame (call_eq_ok.1 hx)
    exact h buf
  · exact .ok _

lemma writePartCheck_earlyRet {P : ℤ × Proc σ → Prop} (h : P (-1, p)) {part : Option CStr} :
    EarlyRet P (writePartCheck board part p) := by
  unfold writePartCheck
  split
  · exact .bind (.call _) fun _ _ => .exitIf fun _ => h
  · exact .ok _

lemma writePartCheck_eq_ok {part : Option CStr} {u : Unit} :
    writePartCheck board part p = .ok u ↔
      (board.recover = 0 → partMatches board part = .ok true) := by
  unfold writePartCheck
  split
  · next h => simp [h, bind_eq_ok, call_eq_ok, exitIf_eq_ok]
  · next h => simp [h]

lemma writeBootCheck_earlyRet : EarlyRet Failed (writeBootCheck acc board fix p) := by
  unfold writeBootCheck
  split
  · refine .bind (.call _) fun x _ => ?_
    obtain ⟨r, p₁⟩ := x
    dsimp only
    split
    · exact .bind (.exitIf fun _ => rfl) fun _ _ => .bind (.call _) fun _ _ =>
        .bind (.call _) fun _ _ => .bind (.exitIf fun _ => rfl) fun _ _ => .ok _
    · exact .ok _
  · exact .ok _

/-- The steps of a successful run: the checksum, the header and the part number are
checked, the boot block is checked or repaired, sectors are erased, and the payload is
programmed. -/
lemma eepromWrite_eq_zero_iff :
    eepromWrite sha fs acc board name start fix shaFlag p = .ok (0, p') ↔
      ∃ p₁ size fp₀ ret part fp p₂ r p₃,
        writeShaCheck sha fs name shaFlag p = .ok p₁ ∧
        fs.stSize name = some size ∧ fs.fopen name = some fp₀ ∧
        printBitfileHeader fp₀ = .ok (ret, part, fp) ∧ ret ≠ -1 ∧
        (board.recover = 0 → partMatches board part = .ok true) ∧
        writeBootCheck acc board fix p₁ = .ok p₂ ∧
        startProgramming acc board start (toInt size) p₂ = .ok (r, p₃) ∧ r ≠ -1 ∧
        programLoop acc fp start p₃ = .ok p' := by
  rw [eepromWrite, eepromWriteBy, EarlyRet.eq_ok (P := Failed) ?_ (show (0 : ℤ) ≠ -1 by decide)]
  · simp only [bind_eq_ok, orExit_eq_ok, exitIf_eq_ok, call_eq_ok, writePartCheck_eq_ok]
    constructor
    · rintro ⟨p₁, hsha, size, hsize, fp₀, hopen, ⟨ret, part, fp⟩, hhead, _, hret, _, hpart, p₂,
        hboot, ⟨r, p₃⟩, hstart, _, hr, p₄, hloop, hend⟩
      obtain ⟨-, rfl⟩ := Prod.mk.inj (Except.ok.inj hend)
      exact ⟨p₁, size, fp₀, ret, part, fp, p₂, r, p₃, hsha, hsize, hopen, hhead, hret, hpart,
        hboot, hstart, hr, hloop⟩
    · rintro ⟨p₁, size, fp₀, ret, part, fp, p₂, r, p₃, hsha, hsize, hopen, hhead, hret, hpart,
        hboot, hstart, hr, hloop⟩
      exact ⟨p₁, hsha, size, hsize, fp₀, hopen, (ret, part, fp), hhead, (), hret, (), hpart, p₂,
        hboot, (r, p₃), hstart, (), hr, p', hloop, rfl⟩
  · exact .bind (writeShaCheck_earlyRet (P := Failed) fun _ => rfl) fun _ _ =>
      .bind (.orExit rfl) fun _ _ => .bind (.orExit rfl) fun _ _ => .bind (.call _) fun _ _ =>
      .bind (.exitIf fun _ => rfl) fun _ _ =>
      .bind (writePartCheck_earlyRet (P := Failed) rfl) fun _ _ =>
      .bind writeBootCheck_earlyRet fun _ _ => .bind (.call _) fun _ _ =>
      .bind (.exitIf fun _ => rfl) fun _ _ => .bind (.call _) fun _ _ => .ok _

/-- The file of a successful run is a regular file, and the stream behind the header
delivers the rest of it without an error. -/
lemma eepromWrite_file (h : eepromWrite sha fs acc board name start fix shaFlag p = .ok (0, p')) :
    ∃ data, fs.node name = some (.regular data true false) := by
  obtain ⟨p₁, size, fp₀, ret, part, fp, p₂, r, p₃, -, -, hopen, hhead, hret, -, -, -, -, hloop⟩ :=
    eepromWrite_eq_zero_iff.1 h
  have hreads := printBitfileHeader_reads hhead
  unfold FileSystem.fopen at hopen
  split at hopen
  · next data e hnode =>
      obtain rfl := Option.some.inj hopen
      cases e with
      | false => exact ⟨data, hnode⟩
      | true =>
          have hio : fp.ioError = true := hreads.ioError
          have heof : fp.eof = false := by
            cases he : fp.eof with
            | false => rfl
            | true =>
                have hno : fp.ioError = false :=
                  (hreads.consistent (File.consistent_start data true) he).1
                exact absurd hio (by simp [hno])
          exact absurd hloop (programLoop_ioError _ heof hio _ _ _)
  · next _ hnode =>
      -- a directory can be opened, but nothing is read from it
      obtain rfl := Option.some.inj hopen
      have hempty : printBitfileHeader (.start [] true) = .ok (-1, none, .start [] true) := by
        decide
      rw [hempty] at hhead
      exact absurd (Prod.mk.inj (Except.ok.inj hhead)).1.symm hret
  · cases hopen

end Run

/-! ### The boot block on the flash memory -/

variable {k : ℕ}

/-- The page that holds the boot block. -/
def bootPage (block : BootBlock) : PageBuf := pageAt pageSize (bootFileBuffer block fun _ => 0) 0

lemma pageAt_bootFileBuffer (block : BootBlock) (buf : ℕ → UInt8) :
    pageAt pageSize (bootFileBuffer block buf) 0 = bootPage block := by
  funext i
  have hi : pageSize * 0 + (i : ℕ) < pageSize := by
    rw [Nat.mul_zero, Nat.zero_add]
    exact i.isLt
  simp only [bootPage, pageAt, bootFileBuffer, if_pos hi]

/-- The flash memory after `write_boot`. -/
def withBootBlock (block : BootBlock) (f : Flash (chip k)) : Flash (chip k) :=
  Flash.programPage 0 (bootPage block) (Flash.eraseSector 0 f)

/-- The flash memory after the boot sector check, which may repair it. -/
def repaired (board : Board) (fix : ℤ) (block : BootBlock) (f : Flash (chip k)) :
    Flash (chip k) :=
  if HasBootBlock board ∧ ¬ BootOk block f ∧ fix ≠ 0 then withBootBlock block f else f

/-- The file buffer after the boot sector check. -/
def repairedBuffer (board : Board) (fix : ℤ) (block : BootBlock) (f : Flash (chip k))
    (buf : ℕ → UInt8) : ℕ → UInt8 :=
  if HasBootBlock board ∧ ¬ BootOk block f ∧ fix ≠ 0 then bootFileBuffer block buf else buf

lemma zero_lt_size (k : ℕ) : 0 < (chip k).size := (chip k).size_pos

lemma sectorSize_le_size (k : ℕ) : sectorSize ≤ (chip k).size :=
  Nat.le_mul_of_pos_right _ (Nat.two_pow_pos k)

lemma withBootBlock_apply (block : BootBlock) (f : Flash (chip k)) (a : Fin (chip k).size) :
    withBootBlock block f a =
      if h : (a : ℕ) < pageSize then bootPage block ⟨a, h⟩
      else if (a : ℕ) < sectorSize then 255 else f a := by
  have hpage := Flash.samePage_iff_between (G := chip k) (a := 0) (Nat.dvd_zero _)
    (zero_lt_size k) (p := a)
  have hsector := Flash.sameSector_iff_between (G := chip k) (a := 0) (Nat.dvd_zero _)
    (zero_lt_size k) (p := a)
  simp only [Nat.zero_le, true_and, Nat.zero_add] at hpage hsector
  rw [withBootBlock, Flash.programPage, Flash.eraseSector]
  simp only [hpage, hsector]
  by_cases h : (a : ℕ) < pageSize
  · have hslot : Flash.slot 0 a = ⟨a, h⟩ := by
      apply Fin.ext
      rw [Flash.slot_val (Nat.dvd_zero _)]
      exact Nat.mod_eq_of_lt h
    rw [dif_pos h, if_pos h, if_pos (Nat.lt_trans h (by decide)), Flash.and_erased, hslot]
  · rw [dif_neg h, if_neg h]

/-- A boot block that was written is found. -/
lemma bootOk_withBootBlock (block : BootBlock) (f : Flash (chip k)) :
    BootOk block (withBootBlock block f) := by
  intro i
  have hlt : (i : ℕ) < pageSize := Nat.lt_trans i.isLt (by decide)
  have hcell : (Flash.cell (chip k) i : ℕ) = i :=
    Flash.cell_of_lt (Nat.lt_of_lt_of_le hlt (Nat.le_trans (by decide) (sectorSize_le_size k)))
  rw [withBootBlock_apply, dif_pos (by rw [hcell]; exact hlt)]
  have hi : pageSize * 0 + (Flash.cell (chip k) i : ℕ) < bootBlockSize := by
    rw [Nat.mul_zero, Nat.zero_add, hcell]
    exact i.isLt
  rw [bootPage, pageAt, bootFileBuffer, dif_pos hi]
  congr 1
  apply Fin.ext
  simp only [Nat.mul_zero, Nat.zero_add]
  exact hcell.symm

lemma writeBoot_norFlash (p : Proc (Flash (chip k))) :
    writeBoot (norFlash k) p = .ok { p with
      fileBuffer := bootFileBuffer p.bootBlock p.fileBuffer
      dev := withBootBlock p.bootBlock p.dev } := by
  have herase : (norFlash k).eraseSector bootAddress p.dev = .ok (Flash.eraseSector 0 p.dev) := rfl
  simp only [writeBoot, herase, ok_bind, pageAt_bootFileBuffer]
  rfl

/-- The boot sector check passes when there is a boot block in the end. -/
lemma writeBootCheck_norFlash {board : Board} {fix : ℤ} {p p' : Proc (Flash (chip k))}
    (h : writeBootCheck (norFlash k) board fix p = .ok p') :
    (HasBootBlock board → BootOk p.bootBlock (repaired board fix p.bootBlock p.dev)) ∧
      ∃ pb, p' = { p with
        pageBuffer := pb
        fileBuffer := repairedBuffer board fix p.bootBlock p.dev p.fileBuffer
        dev := repaired board fix p.bootBlock p.dev } := by
  unfold writeBootCheck at h
  split at h
  · next hboard =>
    rw [checkBoot_norFlash, call_ok, ok_bind] at h
    by_cases hok : BootOk p.bootBlock p.dev
    · have hno : ¬ (HasBootBlock board ∧ ¬ BootOk p.bootBlock p.dev ∧ fix ≠ 0) := fun h => h.2.1 hok
      rw [repaired, repairedBuffer, if_neg hno, if_neg hno]
      simp only [if_pos hok, if_neg (show ¬ (0 : ℤ) = -1 by decide)] at h
      obtain rfl := Except.ok.inj h
      exact ⟨fun _ => hok, _, rfl⟩
    · -- the boot block is written, and the second check finds it
      simp only [if_neg hok, if_true, bind_eq_ok, exitIf_eq_ok, writeBoot_norFlash,
        checkBoot_norFlash, call_ok, Except.ok.injEq] at h
      obtain ⟨_, hfix, _, rfl, _, rfl, _, -, h⟩ := h
      have hyes : HasBootBlock board ∧ ¬ BootOk p.bootBlock p.dev ∧ fix ≠ 0 := ⟨hboard, hok, hfix⟩
      rw [repaired, repairedBuffer, if_pos hyes, if_pos hyes]
      obtain rfl := Except.ok.inj h
      exact ⟨fun _ => bootOk_withBootBlock _ _, _, rfl⟩
  · next hboard =>
    have hno : ¬ (HasBootBlock board ∧ ¬ BootOk p.bootBlock p.dev ∧ fix ≠ 0) := fun h => hboard h.1
    rw [repaired, repairedBuffer, if_neg hno, if_neg hno]
    obtain rfl := Except.ok.inj h
    exact ⟨fun h => absurd h hboard, _, rfl⟩

lemma exists_writeBootCheck {board : Board} {fix : ℤ} {p : Proc (Flash (chip k))}
    (h : HasBootBlock board → BootOk p.bootBlock p.dev ∨ fix ≠ 0) :
    ∃ p', writeBootCheck (norFlash k) board fix p = .ok p' := by
  unfold writeBootCheck
  by_cases hboard : HasBootBlock board
  · rw [if_pos hboard, checkBoot_norFlash, call_ok, ok_bind]
    by_cases hok : BootOk p.bootBlock p.dev
    · exact ⟨_, by simp only [if_pos hok]; rfl⟩
    · have hfix := (h hboard).resolve_left hok
      simp only [if_neg hok, if_true, exitIf_neg hfix, ok_bind, writeBoot_norFlash, call_ok,
        checkBoot_norFlash, if_pos (bootOk_withBootBlock p.bootBlock p.dev)]
      exact ⟨_, rfl⟩
  · exact ⟨p, if_neg hboard⟩

/-! ### The whole command on the flash memory -/

section Effect

variable {sha : Sha256} {fs : FileSystem} {board : Board} {name : CStr} {start : ℕ}
  {fix shaFlag : ℤ} {data : List UInt8} {p p' : Proc (Flash (chip k))}

/-- The flash memory after a successful write of `payload` from a file of `size` bytes,
while the file buffer held `buf`. -/
def written (board : Board) (fix : ℤ) (block : BootBlock) (start size : ℕ) (buf : ℕ → UInt8)
    (payload : List UInt8) (f : Flash (chip k)) : Flash (chip k) :=
  Flash.programAll (programmed buf payload start)
    (Flash.eraseAll (sectors (eSectors (toInt size) + 1).toNat start) (repaired board fix block f))

/-- The file buffer when programming starts. -/
def programBuffer (board : Board) (fix shaFlag : ℤ) (data : List UInt8)
    (p : Proc (Flash (chip k))) : ℕ → UInt8 :=
  repairedBuffer board fix p.bootBlock p.dev (shaBuffer shaFlag data p.fileBuffer)

/-- What a successful run leaves behind. -/
lemma eepromWrite_norFlash (hnode : fs.node name = some (.regular data true false))
    (h : eepromWrite sha fs (norFlash k) board name start fix shaFlag p = .ok (0, p')) :
    ∃ ret part fp pb, printBitfileHeader (.start data false) = .ok (ret, part, fp) ∧
      ret ≠ -1 ∧ (board.recover = 0 → partMatches board part = .ok true) ∧ fp.Sound ∧
      fp.data = data ∧
      (HasBootBlock board → BootOk p.bootBlock (repaired board fix p.bootBlock p.dev)) ∧
      eSectors (toInt data.length) ≤ maxSectors board start ∧
      p' = { p with
        pageBuffer := pb
        fileBuffer := drained chunkSize (programBuffer board fix shaFlag data p) fp.rest
        dev := written board fix p.bootBlock start data.length
          (programBuffer board fix shaFlag data p) fp.rest p.dev } := by
  obtain ⟨p₁, size, fp₀, ret, part, fp, p₂, r, p₃, hsha, hsize, hopen, hhead, hret, hpart, hboot,
    hstart, hr, hloop⟩ := eepromWrite_eq_zero_iff.1 h
  obtain rfl : data.length = size := by
    simpa [FileSystem.stSize_of_node hnode] using hsize
  obtain rfl : File.start data false = fp₀ := by
    simpa [FileSystem.fopen_of_node hnode] using hopen
  have hreads := printBitfileHeader_reads hhead
  have hsound : fp.Sound := ⟨hreads.ioError, hreads.consistent (File.consistent_start _ _)⟩
  obtain rfl := writeShaCheck_eq_ok hnode hsha
  obtain ⟨hbootOk, pb, rfl⟩ := writeBootCheck_norFlash hboot
  rw [startProgramming_norFlash] at hstart
  split at hstart
  · exact absurd (Prod.mk.inj (Except.ok.inj hstart)).1.symm hr
  · next hfits =>
    obtain ⟨-, rfl⟩ := Prod.mk.inj (Except.ok.inj hstart)
    rw [programLoop_norFlash hsound] at hloop
    refine ⟨ret, part, fp, pb, hhead, hret, hpart, hsound, hreads.data, hbootOk,
      Int.not_lt.1 hfits, ?_⟩
    rw [written, programBuffer, ← Except.ok.inj hloop]

/-- A file that passes all checks is written. -/
lemma exists_eepromWrite {p₁ : Proc (Flash (chip k))} {ret : ℤ} {part : Option CStr} {fp : File}
    (hnode : fs.node name = some (.regular data true false))
    (hsha : writeShaCheck sha fs name shaFlag p = .ok p₁)
    (hhead : printBitfileHeader (.start data false) = .ok (ret, part, fp)) (hret : ret ≠ -1)
    (hpart : board.recover = 0 → partMatches board part = .ok true)
    (hboot : HasBootBlock board → BootOk p₁.bootBlock p₁.dev ∨ fix ≠ 0)
    (hfits : eSectors (toInt data.length) ≤ maxSectors board start) :
    ∃ p', eepromWrite sha fs (norFlash k) board name start fix shaFlag p = .ok (0, p') := by
  have hreads := printBitfileHeader_reads hhead
  have hsound : fp.Sound := ⟨hreads.ioError, hreads.consistent (File.consistent_start _ _)⟩
  obtain ⟨p₂, hp₂⟩ := exists_writeBootCheck hboot
  have hstart := startProgramming_norFlash board start (toInt data.length) p₂
  rw [if_neg (Int.not_lt.2 hfits)] at hstart
  exact ⟨_, eepromWrite_eq_zero_iff.2 ⟨p₁, _, _, ret, part, fp, p₂, 0, _, hsha,
    FileSystem.stSize_of_node hnode, FileSystem.fopen_of_node hnode, hhead, hret, hpart, hp₂,
    hstart, by decide, programLoop_norFlash hsound start _⟩⟩

/-- The number of sectors that a file of `size` bytes needs. -/
def neededSectors (size : ℕ) : ℕ := (size + sectorSize - 1) / sectorSize

lemma eSectors_toInt {size : ℕ} (hpos : 0 < size) (hlt : size < 2 ^ 31) :
    (eSectors (toInt size) + 1).toNat = neededSectors size := by
  have h₁ : toInt (size : ℤ) = size := toInt_of_lt (by omega) (by exact_mod_cast hlt)
  have hpred : (size : ℤ) - 1 = (size - 1 : ℕ) := by omega
  have h₂ : toInt (size - 1 : ℕ) = (size - 1 : ℕ) :=
    toInt_of_lt (by omega) (by exact_mod_cast Nat.lt_of_le_of_lt (Nat.sub_le size 1) hlt)
  have h₃ : neededSectors size = (size - 1) / sectorSize + 1 := by
    have hsum : size + sectorSize - 1 = size - 1 + sectorSize := by omega
    rw [neededSectors, hsum, Nat.add_div_right _ (by decide)]
  rw [eSectors, h₁, hpred, h₂, h₃, ← Int.ofNat_tdiv]
  omega

/-- A payload lies in the sectors that were erased for its file. -/
lemma filePages_le {payload : List UInt8} {size : ℕ} (h : payload.length ≤ size) :
    pageSize * filePages payload ≤ sectorSize * neededSectors size := by
  have hneed : size ≤ sectorSize * neededSectors size := by
    have := Nat.div_add_mod (size + sectorSize - 1) sectorSize
    have := Nat.mod_lt (size + sectorSize - 1) (show 0 < sectorSize by decide)
    rw [neededSectors]
    omega
  have hpages : filePages payload ≤ 256 * neededSectors size := by
    by_contra hlt
    have := (lt_numPages_iff (g := pageSize) (by decide)).1 (Nat.lt_of_not_le hlt)
    rw [← Nat.mul_assoc] at this
    exact absurd (Nat.lt_of_lt_of_le this h) (Nat.not_lt.2 hneed)
  calc pageSize * filePages payload ≤ pageSize * (256 * neededSectors size) :=
        Nat.mul_le_mul_left _ hpages
    _ = sectorSize * neededSectors size := by rw [← Nat.mul_assoc]; rfl

variable (board fix) in
/-- The flash memory after a write whose sectors lie within it: the payload and the
left-over bytes of the last page, erased memory up to the end of the last sector, and
the old contents everywhere else. -/
lemma written_apply (hk : k ≤ 8) (hstart : sectorSize ∣ start) {size : ℕ} (hpos : 0 < size)
    (hlt : size < 2 ^ 31) (hfit : start + sectorSize * neededSectors size ≤ (chip k).size)
    {payload : List UInt8} (hlen : payload.length ≤ size) (block : BootBlock)
    (buf : ℕ → UInt8) (f : Flash (chip k)) (a : Fin (chip k).size) :
    written board fix block start size buf payload f a =
      if start ≤ a ∧ (a : ℕ) < start + pageSize * filePages payload then
        image chunkSize buf payload (a - start)
      else if start ≤ a ∧ (a : ℕ) < start + sectorSize * neededSectors size then 255
      else repaired board fix block f a := by
  have hsize : (chip k).size ≤ 2 ^ 24 := by
    have := Nat.pow_le_pow_right (show 0 < 2 by decide) hk
    exact Nat.mul_le_mul_left sectorSize this
  have hpages := filePages_le hlen
  have hdvd : pageSize ∣ start := Nat.dvd_trans (by decide) hstart
  rw [written, eSectors_toInt hpos hlt, sectors_eq (by omega), programmed_eq (by omega),
    Flash.programAll_range hdvd (Nat.le_trans (Nat.add_le_add_left hpages start) hfit),
    Flash.eraseAll_range hstart hfit]
  by_cases hin : start ≤ a ∧ (a : ℕ) < start + pageSize * filePages payload
  · have herased := Nat.lt_of_lt_of_le hin.2 (Nat.add_le_add_left hpages start)
    rw [if_pos hin, if_pos hin, if_pos ⟨hin.1, herased⟩, Flash.and_erased, filePage, pageAt,
      Nat.div_add_mod]
  · rw [if_neg hin, if_neg hin]

/-- The bytes that follow the parsed header. -/
def payload (data : List UInt8) : List UInt8 :=
  match printBitfileHeader (.start data false) with
  | .ok (_, _, fp) => fp.rest
  | .error _ => []

/-- **What a successful write leaves in the flash memory: the payload from the start
address on, erased memory from its last page to the last sector that the file needs,
and everything else as it was, but for a repaired boot sector.** -/
theorem eepromWrite_effect (hk : k ≤ 8) (hnode : fs.node name = some (.regular data true false))
    (hsize : data.length < 2 ^ 31) (hstart : sectorSize ∣ start)
    (hfit : start + sectorSize * neededSectors data.length ≤ (chip k).size)
    (h : eepromWrite sha fs (norFlash k) board name start fix shaFlag p = .ok (0, p')) :
    (∀ i, i < (payload data).length →
      p'.dev (Flash.cell _ (start + i)) = (payload data).getD i 0) ∧
    (∀ a : Fin (chip k).size, start + pageSize * filePages (payload data) ≤ a →
      (a : ℕ) < start + sectorSize * neededSectors data.length → p'.dev a = 0xFF) ∧
    (∀ a : Fin (chip k).size,
      ¬ (start ≤ a ∧ (a : ℕ) < start + sectorSize * neededSectors data.length) →
      p'.dev a = p.dev a ∨
        ((a : ℕ) < sectorSize ∧ HasBootBlock board ∧ ¬ BootOk p.bootBlock p.dev ∧ fix ≠ 0)) := by
  obtain ⟨ret, part, fp, pb, hhead, hret, -, -, hdata, -, -, rfl⟩ := eepromWrite_norFlash hnode h
  have hpay : payload data = fp.rest := by rw [payload, hhead]
  have hlen : fp.rest.length ≤ data.length := by
    rw [← hdata]
    exact fp.rest_length_le
  have hpos : 0 < data.length := Nat.lt_of_lt_of_le (by decide) (length_of_header hhead hret)
  have hcells := written_apply board fix hk hstart hpos hsize hfit hlen
    p.bootBlock (programBuffer board fix shaFlag data p) p.dev
  have hpages := filePages_le hlen
  rw [hpay]
  dsimp only
  refine ⟨fun i hi => ?_, fun a ha ha' => ?_, fun a ha => ?_⟩
  · -- the payload
    have hle := length_le_filePages fp.rest
    have hcell : (Flash.cell (chip k) (start + i) : ℕ) = start + i :=
      Flash.cell_of_lt (by omega)
    rw [hcells, hcell, if_pos ⟨Nat.le_add_right _ _, by omega⟩, Nat.add_sub_cancel_left,
      image_of_lt hi]
  · rw [hcells, if_neg (by omega), if_pos ⟨by omega, ha'⟩]
  · -- outside of the sectors only the boot sector can have changed
    rw [hcells, if_neg (fun hin => ha ⟨hin.1, by omega⟩), if_neg ha]
    by_cases hrepair : HasBootBlock board ∧ ¬ BootOk p.bootBlock p.dev ∧ fix ≠ 0
    · rw [repaired, if_pos hrepair, withBootBlock_apply]
      by_cases hsector : (a : ℕ) < sectorSize
      · exact .inr ⟨hsector, hrepair⟩
      · have hpage : ¬ (a : ℕ) < pageSize := fun h => hsector (Nat.lt_trans h (by decide))
        rw [dif_neg hpage, if_neg hsector]
        exact .inl rfl
    · rw [repaired, if_neg hrepair]
      exact .inl rfl

end Effect

lemma eepromWrite_shortFile (sha : Sha256) (p : Proc (Flash (chip 1))) :
    ∃ p', eepromWrite sha (FileSystem.empty.put [] shortFile) (norFlash 1)
      (board3x20 idEeprom1M) [] 0 0 0 p = .ok (0, p') :=
  exists_eepromWrite (FileSystem.node_put_self _ _ _) (rfl : writeShaCheck _ _ _ 0 p = .ok p)
    printBitfileHeader_shortFile
    (by decide) (fun _ => by decide) (fun h => absurd h (by decide)) (by decide)

theorem eepromWrite_effect_shortFile :
    ∃ p', eepromWrite (.constant fun _ => 0) (FileSystem.empty.put [] shortFile) (norFlash 1)
        (board3x20 idEeprom1M) [] 0 0 0 (Proc.start fun _ => 0) = .ok (0, p') ∧
      p'.dev (Flash.cell _ 0) = 0x55 := by
  obtain ⟨p', h⟩ := eepromWrite_shortFile (.constant fun _ => 0) (Proc.start fun _ => 0)
  have hpay : payload shortFile = [0x55] := by
    rw [payload, printBitfileHeader_shortFile]
    rfl
  have heffect := eepromWrite_effect (by decide) (FileSystem.node_put_self _ _ _) (by decide)
    (Nat.dvd_zero _) (by decide) h
  rw [hpay] at heffect
  exact ⟨p', h, heffect.1 0 (by decide)⟩

end Mesaflash
