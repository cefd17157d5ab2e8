import Mesaflash.Programming

/-!
A backup restores the flash memory.

`flash_backup` dumps the flash memory page by page and writes the digest of the
pages next to it; `flash_restore` checks the digest of the file, chunk by chunk,
erases the memory and programs the file.  The pages and the chunks are the same
bytes, the digest that was printed is the digest that is scanned, and a file that
has the size of the flash memory leaves no bytes of the memory out.
-/

namespace Mesaflash

open Lib

variable {k : ℕ} {sha : Sha256} {fs : FileSystem} {board : Board} {name autoName path : CStr}
  {p : Proc (Flash (chip k))}

/-! ### The digest in the checksum file -/

lemma hexDigit_digit : ∀ n < 16,
    let c := (if n < 10 then 48 + n else 87 + n).toUInt8
    isSpace c = false ∧ c ≠ 43 ∧ c ≠ 45 ∧ hexDigit c = some n.toUInt8 := by
  decide

/-- A byte that was printed is the byte that is scanned. -/
lemma scanHexByte_hexByte (b : UInt8) (t : List UInt8) :
    scanHexByte (hexByte b ++ t) = .ok (some b) := by
  have hb : b.toNat < 256 := b.toNat_lt
  obtain ⟨hspace, hplus, hminus, hhigh⟩ := hexDigit_digit (b.toNat / 16) (by omega)
  obtain ⟨-, -, -, hlow⟩ := hexDigit_digit (b.toNat % 16) (by omega)
  have hbyte : 16 * (b.toNat / 16).toUInt8 + (b.toNat % 16).toUInt8 = b := by
    apply UInt8.toNat_inj.1
    simp
    omega
  rw [hexByte, List.cons_append, List.cons_append, List.nil_append, scanHexByte,
    List.dropWhile_cons_of_neg (by simp [hspace])]
  simp only [hplus, hminus, or_self, if_false, hhigh, hlow, hbyte]

lemma length_hexBytes (digest : List UInt8) :
    (digest.map hexByte).flatten.length = 2 * digest.length := by
  induction digest with
  | nil => rfl
  | cons b digest ih =>
      rw [List.map_cons, List.flatten_cons, List.length_append, ih, List.length_cons,
        show (hexByte b).length = 2 from rfl]
      omega

lemma drop_hexBytes (digest : List UInt8) (j : ℕ) :
    (digest.map hexByte).flatten.drop (2 * j) = ((digest.drop j).map hexByte).flatten := by
  induction j generalizing digest with
  | zero => rfl
  | succ j ih =>
      cases digest with
      | nil => simp
      | cons b digest => exact ih digest

/-- A digest that was printed is the digest that is scanned. -/
lemma scanDigest_hexBytes {digest : List UInt8} (h : digest.length = 32) :
    scanDigest (digest.map hexByte).flatten = .ok (some digest) := by
  have hdigest : some digest = some (digest.take 32) := by rw [List.take_of_length_le h.le]
  rw [hdigest]
  unfold scanDigest
  refine foldlM_range_eq_ok (g := fun j => some (digest.take j)) fun j hj => ?_
  have hlt : j < digest.length := by omega
  dsimp only
  rw [drop_hexBytes, List.drop_eq_getElem_cons hlt, List.map_cons, List.flatten_cons,
    scanHexByte_hexByte, ok_bind, List.take_succ_eq_append_getElem hlt]
  rfl

/-! ### The dump -/

/-- The pages of the flash memory, in the order of the backup. -/
def dumpPages (f : Flash (chip k)) (n : ℕ) : List (List UInt8) :=
  (List.range n).map fun i => List.ofFn (Flash.readPage f (nextPage^[i] 0))

lemma dumpPages_succ (f : Flash (chip k)) (n : ℕ) :
    dumpPages f (n + 1) = dumpPages f n ++ [List.ofFn (Flash.readPage f (nextPage^[n] 0))] := by
  rw [dumpPages, List.range_succ, List.map_append]
  rfl

/-- What the writes store of the pages of the flash memory. -/
def storedPages (io : WriteIo) (f : Flash (chip k)) (n : ℕ) : List (List UInt8) :=
  (List.range n).map fun i => (List.ofFn (Flash.readPage f (nextPage^[i] 0))).take (io i pageSize)

lemma storedPages_succ (io : WriteIo) (f : Flash (chip k)) (n : ℕ) :
    storedPages io f (n + 1) = storedPages io f n ++
      [(List.ofFn (Flash.readPage f (nextPage^[n] 0))).take (io n pageSize)] := by
  rw [storedPages, List.range_succ, List.map_append]
  rfl

/-- Writes without losses store the pages. -/
lemma storedPages_eq {io : WriteIo} {n : ℕ} (h : ∀ i < n, pageSize ≤ io i pageSize)
    (f : Flash (chip k)) : storedPages io f n = dumpPages f n := by
  refine List.map_congr_left fun i hi => ?_
  have hlen : (List.ofFn (Flash.readPage f (nextPage^[i] 0))).length = pageSize := List.length_ofFn
  exact List.take_of_length_le (hlen.le.trans (h i (List.mem_range.1 hi)))

lemma backupRound_norFlash (io : WriteIo) (s : BackupState sha (Flash (chip k))) (i : ℕ) :
    backupRound sha (norFlash k) io s i =
      .ok ⟨nextPage s.addr,
        s.data ++ (List.ofFn (Flash.readPage s.dev s.addr)).take (io i pageSize),
        sha.update s.ctx (List.ofFn (Flash.readPage s.dev s.addr)),
        Flash.readPage s.dev s.addr, s.dev⟩ := rfl

variable (sha) in
/-- The backup loop hands every page to the file and to the checksum. -/
lemma backupLoop_norFlash (io : WriteIo) (f : Flash (chip k)) (pb : PageBuf) (n : ℕ) :
    ∃ pb', (List.range n).foldlM (backupRound sha (norFlash k) io) ⟨0, [], sha.init, pb, f⟩ =
      .ok ⟨nextPage^[n] 0, (storedPages io f n).flatten,
        (dumpPages f n).foldl sha.update sha.init, pb', f⟩ := by
  induction n with
  | zero => exact ⟨pb, rfl⟩
  | succ n ih =>
      obtain ⟨pb', ih⟩ := ih
      refine ⟨Flash.readPage f (nextPage^[n] 0), ?_⟩
      rw [List.range_succ, List.foldlM_append, ih, ok_bind, List.foldlM_cons,
        backupRound_norFlash, ok_bind, dumpPages_succ, storedPages_succ, List.flatten_append,
        List.foldl_append, Function.iterate_succ_apply']
      simp

/-- All pages together are the flash memory. -/
lemma flatten_dumpPages (hk : k ≤ 8) (f : Flash (chip k)) :
    (dumpPages f ((chip k).size / pageSize)).flatten = List.ofFn f := by
  have hpage : ∀ i, List.ofFn (Flash.readPage f (nextPage^[i] 0)) =
      bytesOf (fun j => f (Flash.cell _ (pageSize * i + j))) pageSize := by
    refine fun i => ofFn_eq_bytesOf fun j => ?_
    rw [Flash.readPage, cell_iterate_nextPage hk, Nat.zero_add]
  have hmem : List.ofFn f = bytesOf (fun a => f (Flash.cell _ a)) (chip k).size :=
    ofFn_eq_bytesOf fun a => by rw [Flash.cell_coe]
  have hsize : pageSize * ((chip k).size / pageSize) = (chip k).size :=
    Nat.mul_div_cancel' (Flash.page_dvd_size (chip k))
  simp only [dumpPages, hpage]
  rw [flatten_bytesOf (fun a => f (Flash.cell _ a)) pageSize, hsize, hmem]

/-! ### The backup command -/

/-- The file that a backup is written to: the one that was named, or one in the
directory that was named. -/
inductive BackupTarget (fs : FileSystem) (board : Board) (name autoName : CStr) : CStr → Prop
  | file (hnone : fs.node name = none) : BackupTarget fs board name autoName name
  | directory {size : ℕ} {last : UInt8} (hdir : fs.node name = some (.directory size))
      (hlast : name.getLast? = some last) :
      BackupTarget fs board name autoName
        (name ++ (if last ≠ 47 then ascii "/" else []) ++ board.llio.boardName ++ autoName)

lemma backupPath_of_target (htarget : BackupTarget fs board name autoName path)
    (hfits : path.length < pathMax - 8) :
    backupPath fs board name autoName = .ok (some path) := by
  have htake : snprintf (pathMax - 8) path = path := List.take_of_length_le (by omega)
  cases htarget with
  | file hnone => rw [backupPath, hnone, htake]
  | directory hdir hlast => simp only [backupPath, hdir, hlast, htake]

/-- The name of a checksum file is longer than that of its file. -/
lemma shaFileName_ne (hfits : path.length < pathMax - 8) : path ≠ shaFileName path := by
  intro h
  have hlen := congrArg List.length h
  rw [shaFileName, snprintf, List.length_take, List.length_append,
    show (ascii ".sha256").length = 7 from rfl] at hlen
  simp only [pathMax] at hfits hlen
  omega

/-- The digest of the flash memory that a backup prints. -/
def dumpDigest (sha : Sha256) (f : Flash (chip k)) : List UInt8 :=
  sha.digest ((dumpPages f ((chip k).size / pageSize)).foldl sha.update sha.init)

/-- The file system after a backup. -/
def backedUp (sha : Sha256) (fs : FileSystem) (path : CStr) (f : Flash (chip k)) : FileSystem :=
  (fs.put path (List.ofFn f)).put (shaFileName path) (checksumLine (dumpDigest sha f) path)

variable (sha) in
/-- A backup stores what the writes store of the pages and of the checksum line, and
returns 0 where both files can be created. -/
lemma flashBackup_writes (io : WriteIo) (hsize : (chip k).size = eepromGetFlashSize board.flashId)
    (hpath : backupPath fs board name autoName = .ok (some path)) :
    ∃ pb, flashBackup sha fs (norFlash k) io autoName board name p =
      if fs.writable path = false then .ok (-1, fs, p)
      else
        let fs' := fs.put path (storedPages io p.dev ((chip k).size / pageSize)).flatten
        let line := checksumLine (dumpDigest sha p.dev) path
        if fs.writable (shaFileName path) = false then .ok (-1, fs', { p with pageBuffer := pb })
        else .ok (0, fs'.put (shaFileName path)
            (line.take (io ((chip k).size / pageSize) line.length)),
          { p with pageBuffer := pb }) := by
  have hne : ¬ eepromGetFlashSize board.flashId = 0 := by
    rw [← hsize]
    exact (chip k).size_pos.ne'
  obtain ⟨pb, hloop⟩ := backupLoop_norFlash sha io p.dev p.pageBuffer ((chip k).size / pageSize)
  refine ⟨pb, ?_⟩
  rw [flashBackup, exitIf_neg hne, ok_bind, hpath, call_ok, ok_bind, orExit_some, ok_bind, ← hsize]
  dsimp only
  rw [hloop, call_ok]
  by_cases hwritable : fs.writable path = false
  · rw [exitIf_pos hwritable, if_pos hwritable]
    rfl
  · rw [exitIf_neg hwritable, if_neg hwritable, ok_bind, ok_bind, FileSystem.writable_put]
    by_cases hsum : fs.writable (shaFileName path) = false
    · rw [exitIf_pos hsum, if_pos hsum]
      rfl
    · rw [exitIf_neg hsum, if_neg hsum]
      rfl

variable (sha) in
/-- A backup stores the flash memory and its digest. -/
lemma flashBackup_norFlash (hsize : (chip k).size = eepromGetFlashSize board.flashId)
    (hk : k ≤ 8) (htarget : BackupTarget fs board name autoName path)
    (hfits : path.length < pathMax - 8) (hpath : fs.writable path = true)
    (hsum : fs.writable (shaFileName path) = true) :
    ∃ pb, flashBackup sha fs (norFlash k) .faultFree autoName board name p =
      .ok (0, backedUp sha fs path p.dev, { p with pageBuffer := pb }) := by
  obtain ⟨pb, hrun⟩ := flashBackup_writes sha (p := p) .faultFree hsize
    (backupPath_of_target htarget hfits)
  rw [if_neg (by simp [hpath]), storedPages_eq fun _ _ => le_rfl, flatten_dumpPages hk] at hrun
  dsimp only at hrun
  rw [if_neg (by simp [hsum]), WriteIo.faultFree, List.take_length] at hrun
  exact ⟨pb, hrun⟩

lemma node_backedUp (sha : Sha256) (fs : FileSystem) (f : Flash (chip k))
    (hfits : path.length < pathMax - 8) :
    (backedUp sha fs path f).node path = some (.regular (List.ofFn f) true false) := by
  rw [backedUp, FileSystem.node_put_of_ne _ (shaFileName_ne hfits), FileSystem.node_put_self]

/-! ### The restore command -/

lemma length_dumpDigest (sha : Sha256) (f : Flash (chip k)) : (dumpDigest sha f).length = 32 :=
  List.length_ofFn

/-- The first characters of a checksum line are the digest. -/
lemma take_checksumLine (digest : List UInt8) (hlen : digest.length = 32) (path : CStr) :
    (checksumLine digest path).take 64 = (digest.map hexByte).flatten := by
  have hhex : (digest.map hexByte).flatten.length = 64 := by rw [length_hexBytes, hlen]
  rw [checksumLine, List.append_assoc, List.append_assoc, List.take_append_of_le_length hhex.ge,
    List.take_of_length_le hhex.le]

/-- The backup file holds the flash memory, and the checksum file starts with the digest. -/
structure HoldsBackup (sha : Sha256) (fs : FileSystem) (path : CStr) (f : Flash (chip k)) :
    Prop where
  image : fs.node path = some (.regular (List.ofFn f) true false)
  digest : ∃ line, fs.node (shaFileName path) = some (.regular line true false) ∧
    line.take 64 = ((dumpDigest sha f).map hexByte).flatten

lemma holdsBackup_backedUp (sha : Sha256) (fs : FileSystem) (f : Flash (chip k))
    (hfits : path.length < pathMax - 8) : HoldsBackup sha (backedUp sha fs path f) path f :=
  ⟨node_backedUp sha fs f hfits, _, FileSystem.node_put_self _ _ _,
    take_checksumLine _ (length_dumpDigest sha f) path⟩

/-- A backup passes the integrity verification. -/
lemma HoldsBackup.sha256Verify (hholds : HoldsBackup sha fs path p.dev) (hsha : sha.SplitInvariant)
    (hk : k ≤ 8) (q : Proc (Flash (chip k))) :
    sha256Verify sha fs path q =
      .ok (true, { q with fileBuffer := drained chunkSize q.fileBuffer (List.ofFn p.dev) }) := by
  obtain ⟨hnode, line, hsum, hline⟩ := hholds
  have hlong : ¬ line.length < 64 := by
    have hhex := congrArg List.length hline
    rw [length_hexBytes, length_dumpDigest, List.length_take] at hhex
    omega
  have hscan : scanDigest (fread 64 (.start line false)).1 = .ok (some (dumpDigest sha p.dev)) := by
    rw [← scanDigest_hexBytes (length_dumpDigest sha p.dev), ← hline]
    rfl
  obtain ⟨chunks, hchunks, hfeed⟩ := readLoop_feed
    (.fault .hang : Stop (Bool × Proc (Flash (chip k)))) (show 0 < chunkSize by decide)
    sha.update _ ⟨.start (List.ofFn p.dev) false, q.fileBuffer, sha.init⟩ rfl rfl rfl
  -- the chunks of the file and the pages of the dump are the same bytes
  have hdigest : dumpDigest sha p.dev = sha.digest (chunks.foldl sha.update sha.init) := by
    rw [dumpDigest, Sha256.digest, hsha _ chunks ((flatten_dumpPages hk p.dev).trans hchunks.symm)]
    rfl
  rw [Mesaflash.sha256Verify, FileSystem.stSize_of_node hsum, FileSystem.fopen_of_node hsum,
    orExit_some, ok_bind, exitIf_neg hlong, ok_bind, orExit_some, ok_bind, hscan, call_ok, ok_bind,
    orExit_some, ok_bind, FileSystem.stSize_of_node hnode, FileSystem.fopen_of_node hnode,
    orExit_some, ok_bind, orExit_some, ok_bind, hfeed, ok_bind]
  simp only [hdigest, decide_true]
  rfl

/-- A file of the size of the flash memory, programmed into the erased memory, is what
the memory then holds. -/
lemma programmed_image (hk : k ≤ 8) (f g : Flash (chip k)) (buf : ℕ → UInt8) :
    Flash.programAll (programmed buf (List.ofFn f) 0)
      (Flash.eraseAll (sectors ((chip k).size / sectorSize) 0) g) = f := by
  have hlen : (List.ofFn f).length = (chip k).size := List.length_ofFn
  have hpages : pageSize * filePages (List.ofFn f) = (chip k).size := by
    obtain ⟨m, hm⟩ := Flash.page_dvd_size (chip k)
    have hm' : (chip k).size = pageSize * m := hm
    rw [filePages, hlen, hm', numPages_mul (by decide)]
  have hsectors : sectorSize * ((chip k).size / sectorSize) = (chip k).size :=
    Nat.mul_div_cancel' (chip k).sector_dvd
  have hsize : (chip k).size ≤ 2 ^ 24 :=
    Nat.mul_le_mul_left sectorSize (Nat.pow_le_pow_right (show 0 < 2 by decide) hk)
  funext a
  have ha : (a : ℕ) < (chip k).size := a.isLt
  have hin : 0 ≤ (a : ℕ) ∧ (a : ℕ) < 0 + pageSize * filePages (List.ofFn f) :=
    ⟨Nat.zero_le _, by omega⟩
  have herased : 0 ≤ (a : ℕ) ∧ (a : ℕ) < 0 + sectorSize * ((chip k).size / sectorSize) :=
    ⟨Nat.zero_le _, by omega⟩
  rw [sectors_eq (by omega), programmed_eq (by omega),
    Flash.programAll_range (Nat.dvd_zero _) (by rw [Nat.zero_add]; exact hpages.le),
    Flash.eraseAll_range (Nat.dvd_zero _) (by rw [Nat.zero_add]; exact hsectors.le),
    if_pos hin, if_pos herased, Flash.and_erased, filePage, pageAt, Nat.div_add_mod, Nat.sub_zero,
    image_of_lt (by omega), List.getD_eq_getElem _ _ (by omega), List.getElem_ofFn]

lemma flashErase_norFlash (board : Board) (q : Proc (Flash (chip k))) :
    flashErase (norFlash k) board q = .ok (0, { q with
      dev := Flash.eraseAll (sectors (eepromGetFlashSize board.flashId / sectorSize) 0)
        q.dev }) := by
  rw [flashErase_eq, eraseLoop_norFlash]
  rfl

/-- A backup is restored on every board with a flash memory of its size. -/
lemma HoldsBackup.flashRestore (hholds : HoldsBackup sha fs path p.dev) (hsha : sha.SplitInvariant)
    (hk : k ≤ 8) (hsize : (chip k).size = eepromGetFlashSize board.flashId)
    (q : Proc (Flash (chip k))) :
    ∃ buf, flashRestore sha fs (norFlash k) board path q =
      .ok (0, { q with fileBuffer := buf, dev := p.dev }) := by
  have hnode := hholds.image
  have hlen : (List.ofFn p.dev).length = eepromGetFlashSize board.flashId :=
    List.length_ofFn.trans hsize
  have hne : ¬ eepromGetFlashSize board.flashId = 0 := by
    rw [← hsize]
    exact (chip k).size_pos.ne'
  have himage := programmed_image hk p.dev q.dev
    (drained chunkSize q.fileBuffer (List.ofFn p.dev))
  rw [Mesaflash.flashRestore, exitIf_neg hne, ok_bind, hholds.sha256Verify hsha hk, call_ok,
    ok_bind]
  dsimp only
  rw [exitIf_neg (by simp), ok_bind, FileSystem.stSize_of_node hnode, orExit_some, ok_bind,
    exitIf_neg (by omega), ok_bind, exitIf_neg (by omega), ok_bind,
    FileSystem.fopen_of_node hnode, orExit_some, ok_bind, flashErase_norFlash, call_ok, ok_bind]
  dsimp only
  rw [exitIf_neg (show ¬ (0 : ℤ) = -1 by decide), ok_bind, programLoop_norFlash (sound_start _),
    call_ok, ok_bind, ← hsize, show (File.start (List.ofFn p.dev) false).rest = List.ofFn p.dev
      from rfl]
  dsimp only
  rw [himage]
  exact ⟨_, rfl⟩

/-- A restored flash memory is confirmed, whatever the start address is. -/
lemma eepromVerify_backedUp (hk : k ≤ 8)
    (hsize : (chip k).size = eepromGetFlashSize board.flashId)
    (hfits : path.length < pathMax - 8) (start : ℕ) (q : Proc (Flash (chip k))) :
    ∃ q', eepromVerify (backedUp sha fs path q.dev) (norFlash k) board path start q =
      .ok (0, q') := by
  have hlen : (List.ofFn q.dev).length = (chip k).size := List.length_ofFn
  rw [eepromVerify_holds_iff hk (node_backedUp sha fs q.dev hfits) (.full (hlen.trans hsize))]
  refine ⟨fun i hi => ?_, fun i hi hi' => ?_⟩
  · rw [Nat.zero_add, List.getD_eq_getElem _ _ hi, List.getElem_ofFn]
    exact congrArg q.dev (Fin.ext (Flash.cell_of_lt (hlen ▸ hi)))
  · -- the last page of the file is a full one
    obtain ⟨m, hm⟩ := Flash.page_dvd_size (chip k)
    have hm' : (chip k).size = pageSize * m := hm
    rw [filePages, hlen, hm', numPages_mul (by decide)] at hi'
    omega

/-- **A backup of a flash memory, restored on a board with a flash memory of the same
size, brings the memory back, and the verify command confirms it.** -/
theorem backup_restore {board' : Board} (hsha : sha.SplitInvariant)
    (hsize : (chip k).size = eepromGetFlashSize board.flashId)
    (hsize' : (chip k).size = eepromGetFlashSize board'.flashId)
    (htarget : BackupTarget fs board name autoName path) (hfits : path.length < pathMax - 8)
    (hpath : fs.writable path = true) (hsum : fs.writable (shaFileName path) = true) :
    ∃ fs' p', flashBackup sha fs (norFlash k) .faultFree autoName board name p =
        .ok (0, fs', p') ∧
      ∀ q : Proc (Flash (chip k)), ∃ q',
        flashRestore sha fs' (norFlash k) board' path q = .ok (0, q') ∧ q'.dev = p.dev ∧
        ∀ start, ∃ q'', eepromVerify fs' (norFlash k) board' path start q' = .ok (0, q'') := by
  have hk : k ≤ 8 := le_of_chip hsize
  obtain ⟨pb, hbackup⟩ := flashBackup_norFlash sha (p := p) hsize hk htarget hfits hpath hsum
  refine ⟨_, _, hbackup, fun q => ?_⟩
  obtain ⟨buf, hrestore⟩ := (holdsBackup_backedUp sha fs p.dev hfits).flashRestore hsha hk hsize' q
  exact ⟨_, hrestore, rfl, fun start => eepromVerify_backedUp hk hsize' hfits start
    { q with fileBuffer := buf, dev := p.dev }⟩

/-- The SHA-256 digest of an erased flash memory of two sectors. -/
def erasedDigest : Fin 32 → UInt8 := fun i => [
  0xb5, 0xa4, 0x1c, 0x37, 0x58, 0x76, 0x3b, 0xbe,
  0xc7, 0x27, 0x69, 0xfa, 0xb4, 0xa2, 0x53, 0x3b,
  0xf2, 0xdb, 0x0b, 0x63, 0x12, 0xd9, 0x3d, 0x25,
  0xa6, 0x95, 0xf9, 0xe4, 0xb9, 0xe0, 0x22, 0x60].getD i 0

theorem backup_restore_erased :
    ∃ fs' p' q', flashBackup (.constant erasedDigest) .empty (norFlash 1) .faultFree []
        (board7i98 idEeprom1M) (ascii "b.bin") (Proc.start fun _ => 0xFF) = .ok (0, fs', p') ∧
      flashRestore (.constant erasedDigest) fs' (norFlash 1) (board7i98 idEeprom1M)
        (ascii "b.bin") (Proc.start fun _ => 0) = .ok (0, q') ∧
      q'.dev = (fun _ => 0xFF) ∧
      ∃ q'', eepromVerify fs' (norFlash 1) (board7i98 idEeprom1M) (ascii "b.bin") 0x10000 q' =
        .ok (0, q'') := by
  have hsize : (chip 1).size = eepromGetFlashSize (board7i98 idEeprom1M).flashId := by decide
  have htarget : BackupTarget .empty (board7i98 idEeprom1M) (ascii "b.bin") [] (ascii "b.bin") :=
    .file rfl
  obtain ⟨fs', p', hbackup, hall⟩ := backup_restore (p := Proc.start fun _ => 0xFF)
    (Sha256.splitInvariant_constant erasedDigest) hsize hsize htarget (by decide) rfl rfl
  obtain ⟨q', hrestore, hdev, hverify⟩ := hall (Proc.start fun _ => 0)
  exact ⟨fs', p', q', hbackup, hrestore, hdev, hverify _⟩

end Mesaflash
