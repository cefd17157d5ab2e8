import Mesaflash.Anyio
import Mesaflash.BitfileBounds

/-!
The loops of the flash commands as counted loops.

Whatever the access functions do, the program loop writes the pages of the file
one after the other at ascending addresses, the verify loop reads them there, and
the erase loops erase sector after sector.  `filePage` is the page that both file
loops see, left-over bytes of the file buffer included.  For the flash memory
itself the loops are `Flash.programAll`, a comparison of all pages, and
`Flash.eraseAll`.
-/

namespace Mesaflash

open Lib

variable {σ : Type}

/-- Page `j` of what a file loop sees. -/
def filePage (buf : ℕ → UInt8) (bytes : List UInt8) (j : ℕ) : PageBuf :=
  pageAt pageSize (image chunkSize buf bytes) j

/-- The number of pages of a payload. -/
def filePages (bytes : List UInt8) : ℕ := numPages pageSize bytes.length

/-! ### Addresses -/

/-- The address of page `j` behind `start`. -/
lemma iterate_nextPage {start : ℕ} (h : start < 2 ^ 32) (j : ℕ) :
    nextPage^[j] start = u32 (start + pageSize * j) := by
  induction j with
  | zero => exact (u32_of_lt h).symm
  | succ j ih =>
      rw [Function.iterate_succ_apply', ih, nextPage, u32_add_left, Nat.mul_succ, Nat.add_assoc]

/-- The address of sector `i` behind `start`. -/
lemma iterate_nextSector {start : ℕ} (h : start < 2 ^ 32) (i : ℕ) :
    nextSector^[i] start = u32 (start + sectorSize * i) := by
  induction i with
  | zero => exact (u32_of_lt h).symm
  | succ i ih =>
      rw [Function.iterate_succ_apply', ih, nextSector, u32_add_left, Nat.mul_succ,
        Nat.add_assoc]

/-- The address counter of a flash memory does not notice the overflow of an address. -/
lemma cell_u32 {k : ℕ} (hk : k ≤ 8) (a b : ℕ) :
    Flash.cell (chip k) (u32 a + b) = Flash.cell (chip k) (a + b) := by
  have hdvd : sectorSize * 2 ^ k ∣ 2 ^ 32 := by
    rw [show sectorSize = 2 ^ 16 from rfl, ← pow_add]
    exact Nat.pow_dvd_pow 2 (by omega)
  apply Fin.ext
  rw [Flash.cell_val, Flash.cell_val, u32, Nat.add_mod, Nat.mod_mod_of_dvd a hdvd, ← Nat.add_mod]

lemma cell_iterate_nextPage {k : ℕ} (hk : k ≤ 8) (start j b : ℕ) :
    Flash.cell (chip k) (nextPage^[j] start + b)
      = Flash.cell (chip k) (start + (pageSize * j + b)) := by
  induction j generalizing b with
  | zero => simp
  | succ j ih =>
      rw [Function.iterate_succ_apply', nextPage, cell_u32 hk, Nat.add_assoc, ih, Nat.mul_succ,
        Nat.add_assoc]

lemma cell_iterate_nextSector {k : ℕ} (hk : k ≤ 8) (start i b : ℕ) :
    Flash.cell (chip k) (nextSector^[i] start + b)
      = Flash.cell (chip k) (start + (sectorSize * i + b)) := by
  induction i generalizing b with
  | zero => simp
  | succ i ih =>
      rw [Function.iterate_succ_apply', nextSector, cell_u32 hk, Nat.add_assoc, ih, Nat.mul_succ,
        Nat.add_assoc]

/-! ### Any access functions -/

section Generic

variable (acc : SpiEepromDev σ)

/-- A file loop, whether the stream is at its end already or not. -/
lemma readLoop_filePages {ε τ : Type} (stuck : ε)
    (step : (ℕ → UInt8) → ℕ → PageBuf → τ → Except ε τ) {fp : File} (hfp : fp.Sound)
    (buf : ℕ → UInt8) (start : ℕ) (t : τ) :
    ∃ fp', readLoop stuck chunkSize (pageChunk nextPage step) ⟨fp, buf, (start, t)⟩ =
      (List.range (filePages fp.rest)).foldlM
          (fun t j => step (chunkBuf chunkSize buf fp.rest (j / 32)) (nextPage^[j] start)
            (filePage buf fp.rest j) t) t >>= fun t =>
        .ok ⟨fp', drained chunkSize buf fp.rest, (nextPage^[filePages fp.rest] start, t)⟩ := by
  cases heof : fp.eof with
  | true =>
      -- the header parser reached the end: there is no round at all
      have hrest := (hfp.2 heof).2
      have hpages : filePages fp.rest = 0 := by rw [hrest]; rfl
      have hdrained : drained chunkSize buf fp.rest = buf := by
        rw [hrest, drained_of_lt (by decide)]
        funext k
        exact store_of_le (Nat.zero_le k) buf
      refine ⟨fp, ?_⟩
      rw [readLoop_done heof, hpages, hdrained]
      rfl
  | false =>
      refine ⟨fp.atEnd, ?_⟩
      have h := readLoop_pages stuck (g := pageSize) (m := 32) (by decide) (by decide)
        nextPage step _ ⟨fp, buf, (start, t)⟩ rfl heof hfp.1
      rw [show chunkSize = pageSize * 32 from rfl, h, pageRound, foldlM_stride, bind_assoc]
      rfl

/-- The erase loop of a command. -/
lemma eraseLoop_eq (n start : ℕ) (dev : σ) :
    (List.range n).foldlM (eraseRound acc) (start, dev) =
      (List.range n).foldlM (fun dev i => acc.eraseSector (nextSector^[i] start) dev) dev >>=
        fun dev => .ok (nextSector^[n] start, dev) :=
  foldlM_stride nextSector _ n start dev

lemma startProgramming_eq (board : Board) (start : ℕ) (fsize : ℤ) (p : Proc σ) :
    startProgramming acc board start fsize p =
      if maxSectors board start < eSectors fsize then .ok (-1, p)
      else (List.range (eSectors fsize + 1).toNat).foldlM
          (fun dev i => acc.eraseSector (nextSector^[i] start) dev) p.dev >>= fun dev =>
        .ok (0, { p with dev := dev }) := by
  rw [startProgramming, eraseLoop_eq, bind_assoc]
  rfl

lemma flashErase_eq (board : Board) (p : Proc σ) :
    flashErase acc board p =
      (List.range (eepromGetFlashSize board.flashId / sectorSize)).foldlM
          (fun dev i => acc.eraseSector (nextSector^[i] 0) dev) p.dev >>= fun dev =>
        .ok (0, { p with dev := dev }) := by
  rw [flashErase, eraseLoop_eq, bind_assoc]
  rfl

lemma programLoop_eq {fp : File} (hfp : fp.Sound) (start : ℕ) (p : Proc σ) :
    programLoop acc fp start p =
      (List.range (filePages fp.rest)).foldlM
          (fun dev j => acc.writePage (nextPage^[j] start) (filePage p.fileBuffer fp.rest j) dev)
          p.dev >>= fun dev =>
        .ok { p with fileBuffer := drained chunkSize p.fileBuffer fp.rest, dev := dev } := by
  obtain ⟨fp', h⟩ := readLoop_filePages Fault.hang (programPage acc) hfp p.fileBuffer
    start p.dev
  rw [programLoop, h, bind_assoc]
  rfl

lemma verifyLoop_eq {fp : File} (hfp : fp.Sound) (start : ℕ) (p : Proc σ) :
    verifyLoop acc fp start p =
      (List.range (filePages fp.rest)).foldlM
          (fun s j => verifyPage acc p (chunkBuf chunkSize p.fileBuffer fp.rest (j / 32))
            (nextPage^[j] start) (filePage p.fileBuffer fp.rest j) s)
          (p.pageBuffer, p.dev) >>= fun s =>
        .ok (0, { p with
          pageBuffer := s.1
          fileBuffer := drained chunkSize p.fileBuffer fp.rest
          dev := s.2 }) := by
  obtain ⟨fp', h⟩ := readLoop_filePages (.fault .hang) (verifyPage acc p) hfp
    p.fileBuffer start (p.pageBuffer, p.dev)
  rw [verifyLoop, h, bind_assoc]
  rfl

/-- A stream that ends in a read error is never programmed to its end. -/
lemma programLoop_ioError {fp : File} (heof : fp.eof = false) (hio : fp.ioError = true)
    (start : ℕ) (p p' : Proc σ) : programLoop acc fp start p ≠ .ok p' := by
  rw [programLoop, ne_eq, bind_eq_ok]
  rintro ⟨s, hs, -⟩
  exact readLoop_ioError heof hio s hs

end Generic

/-! ### The flash memory -/

section Nor

variable {k : ℕ}

/-- The pages that the program loop writes. -/
def programmed (buf : ℕ → UInt8) (bytes : List UInt8) (start : ℕ) :
    List (ℕ × PageBuf) :=
  (List.range (filePages bytes)).map fun j => (nextPage^[j] start, filePage buf bytes j)

/-- The addresses of `n` sectors. -/
def sectors (n start : ℕ) : List ℕ := (List.range n).map fun i => nextSector^[i] start

/-- The addresses of sectors that lie within 32 bits. -/
lemma sectors_eq {n start : ℕ} (h : start + sectorSize * n ≤ 2 ^ 32) :
    sectors n start = (List.range n).map fun i => start + sectorSize * i := by
  refine List.map_congr_left fun i hi => ?_
  have := Nat.mul_le_mul_left sectorSize (List.mem_range.1 hi)
  have hpos : 0 < sectorSize := by decide
  rw [Nat.mul_succ] at this
  rw [iterate_nextSector (by omega), u32_of_lt (by omega)]

/-- The addresses of pages that lie within 32 bits. -/
lemma programmed_eq {buf : ℕ → UInt8} {bytes : List UInt8} {start : ℕ}
    (h : start + pageSize * filePages bytes ≤ 2 ^ 32) :
    programmed buf bytes start =
      (List.range (filePages bytes)).map fun j => (start + pageSize * j, filePage buf bytes j) := by
  refine List.map_congr_left fun j hj => ?_
  have := Nat.mul_le_mul_left pageSize (List.mem_range.1 hj)
  have hpos : 0 < pageSize := by decide
  rw [Nat.mul_succ] at this
  rw [iterate_nextPage (by omega), u32_of_lt (by omega)]

lemma eraseLoop_norFlash (n start : ℕ) (f : Flash (chip k)) :
    (List.range n).foldlM (fun dev i => (norFlash k).eraseSector (nextSector^[i] start) dev) f =
      .ok (Flash.eraseAll (sectors n start) f) := by
  have h := foldlM_eq_ok (l := List.range n) (I := fun _ => True)
    (f := fun dev i => (norFlash k).eraseSector (nextSector^[i] start) dev)
    (g := fun dev i => Flash.eraseSector (nextSector^[i] start) dev)
    (fun _ _ _ _ => ⟨rfl, trivial⟩) (s := f) trivial
  rw [h, Flash.eraseAll, sectors, List.foldl_map]

lemma startProgramming_norFlash (board : Board) (start : ℕ) (fsize : ℤ)
    (p : Proc (Flash (chip k))) :
    startProgramming (norFlash k) board start fsize p =
      if maxSectors board start < eSectors fsize then .ok (-1, p)
      else .ok (0, { p with
        dev := Flash.eraseAll (sectors (eSectors fsize + 1).toNat start) p.dev }) := by
  rw [startProgramming_eq, eraseLoop_norFlash]
  rfl

lemma programLoop_norFlash {fp : File} (hfp : fp.Sound) (start : ℕ) (p : Proc (Flash (chip k))) :
    programLoop (norFlash k) fp start p =
      .ok { p with
        fileBuffer := drained chunkSize p.fileBuffer fp.rest
        dev := Flash.programAll (programmed p.fileBuffer fp.rest start) p.dev } := by
  have h := foldlM_eq_ok (l := List.range (filePages fp.rest)) (I := fun _ => True)
    (f := fun dev j => (norFlash k).writePage (nextPage^[j] start)
      (filePage p.fileBuffer fp.rest j) dev)
    (g := fun dev j => Flash.programPage (nextPage^[j] start) (filePage p.fileBuffer fp.rest j) dev)
    (fun _ _ _ _ => ⟨rfl, trivial⟩) (s := p.dev) trivial
  rw [programLoop_eq _ hfp, h, ok_bind, Flash.programAll, programmed, List.foldl_map]

/-- The verify loop compares a page of the file with the page of the flash memory. -/
lemma verifyPage_norFlash (p : Proc (Flash (chip k))) (buf : ℕ → UInt8) (addr : ℕ) (page : PageBuf)
    (s : PageBuf × Flash (chip k)) :
    verifyPage (norFlash k) p buf addr page s =
      if ∀ i, page i = Flash.readPage s.2 addr i then .ok (Flash.readPage s.2 addr, s.2)
      else .error (.ret (-1, { p with
        pageBuffer := Flash.readPage s.2 addr, fileBuffer := buf, dev := s.2 })) := by
  have hread : (norFlash k).readPage addr s.2 = .ok (Flash.readPage s.2 addr, s.2) := rfl
  simp only [verifyPage, hread, call_ok, ok_bind]
  rfl

/-- The verify loop compares page after page and stops at the first difference. -/
lemma verifyPages_norFlash (p : Proc (Flash (chip k))) (f : Flash (chip k))
    (buf : ℕ → ℕ → UInt8) (addr : ℕ → ℕ) (page : ℕ → PageBuf) (l : List ℕ) (pb : PageBuf) :
    ((∀ j ∈ l, Flash.readPage f (addr j) = page j) ∧ ∃ pb',
      l.foldlM (fun s j => verifyPage (norFlash k) p (buf j) (addr j) (page j) s) (pb, f) =
        .ok (pb', f)) ∨
    (¬ (∀ j ∈ l, Flash.readPage f (addr j) = page j) ∧ ∃ pb' buf',
      l.foldlM (fun s j => verifyPage (norFlash k) p (buf j) (addr j) (page j) s) (pb, f) =
        .error (.ret (-1, { p with pageBuffer := pb', fileBuffer := buf', dev := f }))) := by
  induction l generalizing pb with
  | nil => exact .inl ⟨by simp, pb, rfl⟩
  | cons j l ih =>
      rw [List.foldlM_cons, verifyPage_norFlash]
      by_cases hj : Flash.readPage f (addr j) = page j
      · rw [if_pos (by simp [hj]), ok_bind]
        simp only [List.forall_mem_cons, hj, true_and]
        exact ih _
      · have hne : ¬ ∀ i, page j i = Flash.readPage f (addr j) i := fun h =>
          hj (funext fun i => (h i).symm)
        rw [if_neg hne, error_bind]
        exact .inr ⟨fun h => hj (h j List.mem_cons_self), _, _, rfl⟩

/-- The verify loop returns 0 when every page of the file is read from the flash
memory, and -1 otherwise; it changes nothing but the two buffers. -/
lemma verifyLoop_norFlash {fp : File} (hfp : fp.Sound) (start : ℕ) (p : Proc (Flash (chip k))) :
    ((∀ x ∈ programmed p.fileBuffer fp.rest start, Flash.readPage p.dev x.1 = x.2) ∧ ∃ pb,
      verifyLoop (norFlash k) fp start p = .ok (0, { p with
        pageBuffer := pb, fileBuffer := drained chunkSize p.fileBuffer fp.rest })) ∨
    (¬ (∀ x ∈ programmed p.fileBuffer fp.rest start, Flash.readPage p.dev x.1 = x.2) ∧
      ∃ pb buf, verifyLoop (norFlash k) fp start p =
        .error (.ret (-1, { p with pageBuffer := pb, fileBuffer := buf }))) := by
  have hpages : (∀ x ∈ programmed p.fileBuffer fp.rest start, Flash.readPage p.dev x.1 = x.2) ↔
      ∀ j ∈ List.range (filePages fp.rest), Flash.readPage p.dev (nextPage^[j] start)
        = filePage p.fileBuffer fp.rest j := by
    simp [programmed]
  rw [hpages, verifyLoop_eq _ hfp]
  rcases verifyPages_norFlash p p.dev
    (fun j => chunkBuf chunkSize p.fileBuffer fp.rest (j / 32)) (fun j => nextPage^[j] start)
    (filePage p.fileBuffer fp.rest) (List.range (filePages fp.rest)) p.pageBuffer with
    ⟨hall, pb, hrun⟩ | ⟨hne, pb, buf, hrun⟩
  · refine .inl ⟨hall, pb, ?_⟩
    rw [hrun]
    rfl
  · refine .inr ⟨hne, pb, buf, ?_⟩
    rw [hrun]
    rfl

end Nor

end Mesaflash
