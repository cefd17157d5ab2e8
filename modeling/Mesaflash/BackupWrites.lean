import Mesaflash.Backup

/-!
When a backup that is reported as successful is complete.

`flash_backup` does not look at what `fwrite`, `fprintf` and `fclose` return: the
digest is calculated from the pages in memory, whatever becomes of them on disk.
A backup that returns 0 is complete exactly when every page and the digest at the
start of the checksum line came to be stored.
-/

namespace Mesaflash

open Lib

variable {k : ℕ} {sha : Sha256} {fs fs' : FileSystem} {board : Board} {name autoName path : CStr}
  {io : WriteIo} {p p' : Proc (Flash (chip k))}

/-! ### What is stored -/

lemma length_storedPages_le (io : WriteIo) (f : Flash (chip k)) (n : ℕ) :
    (storedPages io f n).flatten.length ≤ pageSize * n := by
  induction n with
  | zero => exact Nat.zero_le _
  | succ n ih =>
      have hpage : ((List.ofFn (Flash.readPage f (nextPage^[n] 0))).take (io n pageSize)).length ≤
          pageSize := by
        rw [List.length_take, List.length_ofFn]
        exact Nat.min_le_right _ _
      rw [storedPages_succ, List.flatten_append, List.length_append, List.flatten_singleton,
        Nat.mul_succ]
      exact Nat.add_le_add ih hpage

/-- Where nothing is missing, no write has lost anything. -/
lemma complete_of_length {f : Flash (chip k)} {n : ℕ}
    (h : (storedPages io f n).flatten.length = pageSize * n) :
    ∀ i < n, pageSize ≤ io i pageSize := by
  induction n with
  | zero => exact fun i hi => absurd hi (Nat.not_lt_zero i)
  | succ n ih =>
      have hlen := length_storedPages_le io f n
      rw [storedPages_succ, List.flatten_append, List.length_append, List.flatten_singleton,
        Nat.mul_succ, List.length_take, List.length_ofFn] at h
      have hmin := Nat.min_le_right (io n pageSize) pageSize
      have hpage : (chip k).page = pageSize := rfl
      rw [hpage] at h
      intro i hi
      rcases Nat.lt_succ_iff_lt_or_eq.1 hi with hi | rfl
      · exact ih (by omega) i hi
      · omega

/-- The writes lose no byte of a page and no digit of the digest. -/
structure NothingLost (io : WriteIo) (pages : ℕ) (line : List UInt8) : Prop where
  page_stored : ∀ i < pages, pageSize ≤ io i pageSize
  digest_stored : 64 ≤ io pages line.length

/-- The path of a backup leaves room for the name of its checksum file. -/
lemma length_of_backupPath (h : backupPath fs board name autoName = .ok (some path)) :
    path.length < pathMax - 8 := by
  have hshort : ∀ s : CStr, (snprintf (pathMax - 8) s).length < pathMax - 8 := by
    intro s
    have hle : (snprintf (pathMax - 8) s).length ≤ pathMax - 8 - 1 := List.length_take_le _ _
    have hpos : 0 < pathMax - 8 := by decide
    omega
  unfold backupPath at h
  split at h
  · split at h
    · cases h
    · obtain rfl := Option.some.inj (Except.ok.inj h)
      exact hshort _
  · cases h
  · obtain rfl := Option.some.inj (Except.ok.inj h)
    exact hshort _

/-- The two files of a backup that returned 0. -/
lemma files_of_flashBackup (hsize : (chip k).size = eepromGetFlashSize board.flashId)
    (hpath : backupPath fs board name autoName = .ok (some path))
    (h : flashBackup sha fs (norFlash k) io autoName board name p = .ok (0, fs', p')) :
    let line := checksumLine (dumpDigest sha p.dev) path
    fs'.node path =
        some (.regular (storedPages io p.dev ((chip k).size / pageSize)).flatten true false) ∧
      fs'.node (shaFileName path) =
        some (.regular (line.take (io ((chip k).size / pageSize) line.length)) true false) := by
  obtain ⟨pb, hrun⟩ := flashBackup_writes sha (p := p) io hsize hpath
  rw [h] at hrun
  split at hrun
  · exact absurd (Prod.mk.inj (Except.ok.inj hrun)).1 (by decide)
  · dsimp only at hrun
    split at hrun
    · exact absurd (Prod.mk.inj (Except.ok.inj hrun)).1 (by decide)
    · obtain ⟨-, hfiles⟩ := Prod.mk.inj (Except.ok.inj hrun)
      obtain ⟨rfl, -⟩ := Prod.mk.inj hfiles
      have hne := shaFileName_ne (length_of_backupPath hpath)
      exact ⟨by rw [FileSystem.node_put_of_ne _ hne, FileSystem.node_put_self],
        FileSystem.node_put_self _ _ _⟩

/-- **A backup that returned 0 holds the flash memory and its digest, and is accepted when
it is restored, exactly when the writes lost nothing of the pages and of the digest.** -/
theorem backup_complete_iff (hsha : sha.SplitInvariant)
    (hsize : (chip k).size = eepromGetFlashSize board.flashId)
    (hpath : backupPath fs board name autoName = .ok (some path))
    (h : flashBackup sha fs (norFlash k) io autoName board name p = .ok (0, fs', p')) :
    (HoldsBackup sha fs' path p.dev ∧
      ∀ board' q, (chip k).size = eepromGetFlashSize board'.flashId →
        ∃ q', flashRestore sha fs' (norFlash k) board' path q = .ok (0, q') ∧ q'.dev = p.dev) ↔
      NothingLost io ((chip k).size / pageSize) (checksumLine (dumpDigest sha p.dev) path) := by
  have hk : k ≤ 8 := le_of_chip hsize
  obtain ⟨himage, hsum⟩ := files_of_flashBackup hsize hpath h
  have hpages : pageSize * ((chip k).size / pageSize) = (chip k).size :=
    Nat.mul_div_cancel' (Flash.page_dvd_size (chip k))
  constructor
  · rintro ⟨⟨hnode, line, hline, hdigits⟩, -⟩
    refine ⟨complete_of_length (f := p.dev) ?_, ?_⟩
    · -- the file is as long as the memory
      rw [himage] at hnode
      obtain ⟨hdata, -, -⟩ := Node.regular.inj (Option.some.inj hnode)
      rw [hdata, List.length_ofFn, hpages]
    · -- the line is long enough to hold all digits
      rw [hsum] at hline
      obtain ⟨hdata, -, -⟩ := Node.regular.inj (Option.some.inj hline)
      have hlen := congrArg List.length hdigits
      rw [← hdata, length_hexBytes, length_dumpDigest, List.length_take, List.length_take] at hlen
      omega
  · rintro ⟨hstored, hdigest⟩
    have hholds : HoldsBackup sha fs' path p.dev := by
      refine ⟨?_, _, hsum, ?_⟩
      · rw [himage, storedPages_eq hstored, flatten_dumpPages hk]
      · rw [List.take_take, Nat.min_eq_left hdigest]
        exact take_checksumLine _ (length_dumpDigest sha p.dev) path
    refine ⟨hholds, fun board' q hsize' => ?_⟩
    obtain ⟨buf, hrun⟩ := hholds.flashRestore hsha hk hsize' q
    exact ⟨_, hrun, rfl⟩

/-! ### A disk that is full -/

/-- Writes of which the first stores nothing. -/
def firstLost : WriteIo := fun i n => if i = 0 then 0 else n

lemma backupPath_empty : backupPath .empty (board7i98 idEeprom1M) (ascii "b.bin") [] =
    .ok (some (ascii "b.bin")) := rfl

lemma flashBackup_empty (io : WriteIo) :
    ∃ fs' p', flashBackup (.constant erasedDigest) .empty (norFlash 1) io [] (board7i98 idEeprom1M)
      (ascii "b.bin") (Proc.start fun _ => 0xFF) = .ok (0, fs', p') := by
  obtain ⟨pb, hrun⟩ := flashBackup_writes (.constant erasedDigest) (k := 1)
    (p := Proc.start fun _ => 0xFF) io (by decide) backupPath_empty
  exact ⟨_, _, hrun⟩

/-- A backup is reported as successful although its first page is missing. -/
theorem backup_incomplete :
    ∃ fs' p', flashBackup (.constant erasedDigest) .empty (norFlash 1) firstLost []
        (board7i98 idEeprom1M) (ascii "b.bin") (Proc.start fun _ => 0xFF) = .ok (0, fs', p') ∧
      fs'.node (ascii "b.bin") ≠
        some (.regular (List.ofFn (fun _ => 0xFF : Flash (chip 1))) true false) := by
  obtain ⟨fs', p', hrun⟩ := flashBackup_empty firstLost
  refine ⟨fs', p', hrun, fun hnode => ?_⟩
  obtain ⟨himage, -⟩ := files_of_flashBackup (by decide) backupPath_empty hrun
  rw [hnode] at himage
  obtain ⟨hdata, -, -⟩ := Node.regular.inj (Option.some.inj himage)
  have hpages : pageSize * ((chip 1).size / pageSize) = (chip 1).size := by decide
  have hlen : (storedPages firstLost (fun _ => 0xFF : Flash (chip 1))
      ((chip 1).size / pageSize)).flatten.length = pageSize * ((chip 1).size / pageSize) := by
    rw [hpages]
    exact (congrArg List.length hdata).symm.trans List.length_ofFn
  exact absurd (complete_of_length hlen 0 (by decide)) (by decide)

theorem backup_complete_erased :
    ∃ fs' p', flashBackup (.constant erasedDigest) .empty (norFlash 1) .faultFree []
        (board7i98 idEeprom1M) (ascii "b.bin") (Proc.start fun _ => 0xFF) = .ok (0, fs', p') ∧
      HoldsBackup (.constant erasedDigest) fs' (ascii "b.bin")
        (fun _ => 0xFF : Flash (chip 1)) := by
  obtain ⟨fs', p', hrun⟩ := flashBackup_empty .faultFree
  exact ⟨fs', p', hrun, ((backup_complete_iff (Sha256.splitInvariant_constant erasedDigest)
    (by decide) backupPath_empty hrun).2 ⟨fun _ _ => le_rfl, by decide⟩).1⟩

end Mesaflash
