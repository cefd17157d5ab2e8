import Mesaflash.BitfileHeader
import Mesaflash.EepromLoops

/-!
What the verify command decides.

`eepromVerify` compares whole pages of the file buffer with whole pages of the
flash memory.  Behind the end of the payload the file buffer holds what earlier
reads left there, so on the last page these left-over bytes decide, too:
`eepromVerify_exact_iff` says that the verdict is right about the payload
exactly when it is wrong about it already, or when the left-over bytes happen to
be in the flash memory.
-/

namespace Mesaflash

open Lib

variable {k : ℕ} {board : Board} {fs : FileSystem} {name : CStr} {data : List UInt8}
  {start : ℕ} {p : Proc (Flash (chip k))}

/-! ### The checks -/

/-- The flash memory starts with the boot block. -/
def BootOk (block : BootBlock) (f : Flash (chip k)) : Prop :=
  ∀ i : Fin bootBlockSize, block i = f (Flash.cell _ i)

instance (block : BootBlock) (f : Flash (chip k)) : Decidable (BootOk block f) :=
  inferInstanceAs (Decidable (∀ _, _))

lemma checkBoot_norFlash (p : Proc (Flash (chip k))) :
    checkBoot (norFlash k) p =
      .ok (if BootOk p.bootBlock p.dev then 0 else -1,
        { p with pageBuffer := Flash.readPage p.dev 0 }) := by
  have hread : (norFlash k).readPage 0 p.dev = .ok (Flash.readPage p.dev 0, p.dev) := rfl
  have hboot : (∀ i : Fin bootBlockSize,
      p.bootBlock i = Flash.readPage p.dev 0 (i.castLE (show 64 ≤ 256 by decide))) ↔
      BootOk p.bootBlock p.dev := by
    refine forall_congr' fun i => ?_
    rw [Flash.readPage, Nat.zero_add]
    rfl
  rw [checkBoot, hread, ok_bind]
  by_cases h : BootOk p.bootBlock p.dev
  · rw [if_pos h]
    exact if_pos (hboot.2 h)
  · rw [if_neg h]
    exact if_neg fun hall => h (hboot.1 hall)

/-- The checks leave the payload, and change the page buffer only. -/
lemma verifyChecks_norFlash {fp fp' : File} {p' : Proc (Flash (chip k))} (hfp : fp.Sound)
    (h : verifyChecks (norFlash k) board fp p = .ok (fp', p')) :
    fp'.Sound ∧ ∃ pb, p' = { p with pageBuffer := pb } := by
  simp only [verifyChecks, bind_eq_ok] at h
  obtain ⟨⟨ret, part, fp₁⟩, hhead, -, -, right, -, -, -, h⟩ := h
  have hreads := printBitfileHeader_reads (call_eq_ok.1 hhead)
  have hsound : fp₁.Sound := ⟨hreads.ioError.trans hfp.1, hreads.consistent hfp.2⟩
  split at h
  · simp only [bind_eq_ok, checkBoot_norFlash, call_ok, Except.ok.injEq] at h
    obtain ⟨_, rfl, -, -, h⟩ := h
    obtain ⟨rfl, rfl⟩ := Prod.mk.inj (Except.ok.inj h)
    exact ⟨hsound, _, rfl⟩
  · obtain ⟨rfl, rfl⟩ := Prod.mk.inj (Except.ok.inj h)
    exact ⟨hsound, p.pageBuffer, rfl⟩

/-- The file passes the checks of `eepromVerify`, which then compares `payload` with
the flash memory at `addr`. -/
inductive Verifies (board : Board) (data : List UInt8) (start : ℕ)
    (p : Proc (Flash (chip k))) : List UInt8 → ℕ → Prop
  | image {fp : File} {p' : Proc (Flash (chip k))}
      (hsize : data.length ≠ eepromGetFlashSize board.flashId)
      (hchecks : verifyChecks (norFlash k) board (.start data false) p = .ok (fp, p')) :
      Verifies board data start p fp.rest start
  | full (hsize : data.length = eepromGetFlashSize board.flashId) :
      Verifies board data start p data 0

lemma sound_start (data : List UInt8) : (File.start data false).Sound :=
  ⟨rfl, File.consistent_start data false⟩

/-- A file that passes the checks verifies when all its pages match. -/
lemma eepromVerify_pages_iff (hnode : fs.node name = some (.regular data true false))
    {payload : List UInt8} {addr : ℕ} (hpass : Verifies board data start p payload addr) :
    (∃ p', eepromVerify fs (norFlash k) board name start p = .ok (0, p')) ↔
      ∀ x ∈ programmed p.fileBuffer payload addr, Flash.readPage p.dev x.1 = x.2 := by
  have hsize := FileSystem.stSize_of_node hnode
  have hopen := FileSystem.fopen_of_node hnode
  have hloop : ∀ {fp : File} {addr : ℕ} (pb : PageBuf), fp.Sound →
      ((∃ p', body (verifyLoop (norFlash k) fp addr { p with pageBuffer := pb }) = .ok (0, p')) ↔
        ∀ x ∈ programmed p.fileBuffer fp.rest addr, Flash.readPage p.dev x.1 = x.2) := by
    intro fp addr pb hfp
    rcases verifyLoop_norFlash hfp addr { p with pageBuffer := pb } with
      ⟨hall, pb', hrun⟩ | ⟨hne, pb', buf', hrun⟩
    · exact iff_of_true ⟨_, by rw [hrun, body_ok]⟩ hall
    · refine iff_of_false ?_ hne
      rintro ⟨p', hp'⟩
      rw [hrun, body_ret] at hp'
      simp at hp'
  rw [eepromVerify, hsize, hopen, orExit_some, ok_bind, orExit_some, ok_bind]
  cases hpass with
  | image hne hchecks =>
      obtain ⟨hsound, pb, rfl⟩ := verifyChecks_norFlash (sound_start data) hchecks
      simp only [ne_eq, hne, not_false_eq_true, if_true, hchecks, ok_bind]
      exact hloop pb hsound
  | full heq =>
      simp only [ne_eq, heq, not_true_eq_false, if_false]
      exact hloop p.pageBuffer (sound_start data)

/-! ### Pages and bytes -/

/-- The flash memory holds `bytes` from address `addr` on. -/
def Holds (f : Flash (chip k)) (bytes : List UInt8) (addr : ℕ) : Prop :=
  ∀ i, i < bytes.length → f (Flash.cell _ (addr + i)) = bytes.getD i 0

/-- The flash memory continues, up to the end of the last page, with the bytes that a
file loop finds in its buffer behind those of the file. -/
def HoldsLeftOver (f : Flash (chip k)) (buf : ℕ → UInt8) (bytes : List UInt8) (addr : ℕ) : Prop :=
  ∀ i, bytes.length ≤ i → i < pageSize * filePages bytes →
    f (Flash.cell _ (addr + i)) = image chunkSize buf bytes i

lemma length_le_filePages (bytes : List UInt8) : bytes.length ≤ pageSize * filePages bytes := by
  by_contra h
  exact absurd ((lt_numPages_iff (by decide)).2 (Nat.lt_of_not_le h)) (Nat.lt_irrefl _)

/-- All pages match when the payload and the left-over bytes do. -/
lemma pages_match_iff (hk : k ≤ 8) (f : Flash (chip k)) (buf : ℕ → UInt8) (bytes : List UInt8)
    (addr : ℕ) :
    (∀ x ∈ programmed buf bytes addr, Flash.readPage f x.1 = x.2) ↔
      Holds f bytes addr ∧ HoldsLeftOver f buf bytes addr := by
  have hbytes : (∀ x ∈ programmed buf bytes addr, Flash.readPage f x.1 = x.2) ↔
      ∀ i, i < pageSize * filePages bytes →
        f (Flash.cell _ (addr + i)) = image chunkSize buf bytes i := by
    constructor
    · intro h i hi
      have hj : i / pageSize < filePages bytes := Nat.div_lt_of_lt_mul hi
      have hpage := h _ (List.mem_map.2 ⟨i / pageSize, List.mem_range.2 hj, rfl⟩)
      have hbyte := congrFun hpage ⟨i % pageSize, Nat.mod_lt i (by decide)⟩
      simp only [Flash.readPage, filePage, pageAt, cell_iterate_nextPage hk,
        Nat.div_add_mod] at hbyte
      exact hbyte
    · intro h x hx
      obtain ⟨j, hj, rfl⟩ := List.mem_map.1 hx
      funext i
      simp only [Flash.readPage, filePage, pageAt, cell_iterate_nextPage hk]
      refine h _ ?_
      have := Nat.mul_le_mul_left pageSize (List.mem_range.1 hj)
      rw [Nat.mul_succ] at this
      have hi : (i : ℕ) < pageSize := i.isLt
      omega
  rw [hbytes]
  constructor
  · intro h
    refine ⟨fun i hi => ?_, fun i _ hi => h i hi⟩
    rw [h i (Nat.lt_of_lt_of_le hi (length_le_filePages bytes)), image_of_lt hi]
  · rintro ⟨hpay, hleft⟩ i hi
    rcases Nat.lt_or_ge i bytes.length with hlt | hge
    · rw [hpay i hlt, image_of_lt hlt]
    · exact hleft i hge hi

/-! ### The verdict -/

lemma eepromVerify_holds_iff (hk : k ≤ 8)
    (hnode : fs.node name = some (.regular data true false))
    {payload : List UInt8} {addr : ℕ} (hpass : Verifies board data start p payload addr) :
    (∃ p', eepromVerify fs (norFlash k) board name start p = .ok (0, p')) ↔
      Holds p.dev payload addr ∧ HoldsLeftOver p.dev p.fileBuffer payload addr := by
  rw [eepromVerify_pages_iff hnode hpass, pages_match_iff hk]

/-- **The verdict is equality of the payload and the flash memory exactly when the
payload differs or the left-over bytes are in the flash memory, too.** -/
theorem eepromVerify_exact_iff (hk : k ≤ 8)
    (hnode : fs.node name = some (.regular data true false))
    {payload : List UInt8} {addr : ℕ} (hpass : Verifies board data start p payload addr) :
    ((∃ p', eepromVerify fs (norFlash k) board name start p = .ok (0, p')) ↔
        Holds p.dev payload addr) ↔
      (¬ Holds p.dev payload addr ∨ HoldsLeftOver p.dev p.fileBuffer payload addr) := by
  rw [eepromVerify_holds_iff hk hnode hpass, and_iff_left_iff_imp, imp_iff_not_or]

/-- A file with a payload of one byte. -/
def shortFile : List UInt8 := headerTop.encode ++ [0x55]

/-- The payload of `shortFile`, followed by erased memory. -/
def shortFlash : Flash (chip 1) := fun i => if (i : ℕ) = 0 then 0x55 else 0xFF

lemma printBitfileHeader_shortFile :
    printBitfileHeader (.start shortFile false) = .ok (shortFile.length - 1,
      some (ascii "3s1000fg456"), ⟨shortFile, shortFile.length - 1, false, false⟩) := by
  decide

lemma verifies_shortFile (p : Proc (Flash (chip 1))) :
    Verifies (board3x20 idEeprom1M) shortFile 0 p [0x55] 0 := by
  have hchecks : verifyChecks (norFlash 1) (board3x20 idEeprom1M) (.start shortFile false) p =
      .ok (⟨shortFile, shortFile.length - 1, false, false⟩, p) := by
    rw [verifyChecks, printBitfileHeader_shortFile]
    rfl
  exact .image (by decide) hchecks

lemma holds_shortFlash : Holds shortFlash [0x55] 0 := by
  intro i hi
  obtain rfl : i = 0 := by simpa using hi
  rfl

theorem eepromVerify_exact_shortFile :
    (∃ p', eepromVerify (FileSystem.empty.put [] shortFile) (norFlash 1) (board3x20 idEeprom1M)
        [] 0 { Proc.start shortFlash with fileBuffer := fun _ => 0xFF } = .ok (0, p')) ↔
      Holds shortFlash [0x55] 0 := by
  refine (eepromVerify_exact_iff (by decide) (FileSystem.node_put_self _ _ _)
    (verifies_shortFile _)).2 (.inr fun i hi hlt => ?_)
  have hi' : 1 ≤ i := hi
  have hlt' : i < 256 := hlt
  have hcell : (Flash.cell (chip 1) (0 + i) : ℕ) = i := by
    rw [Nat.zero_add, Flash.cell_of_lt (Nat.lt_of_lt_of_le hlt' (by decide))]
  have hbuf : image chunkSize (fun _ => 0xFF) [0x55] i = 0xFF := by
    rw [image, if_neg (Nat.not_lt.2 hi), if_pos (Nat.lt_of_lt_of_le hlt' (by decide))]
  rw [hbuf]
  exact if_neg (by rw [hcell]; exact Nat.ne_of_gt hi')

/-- In a new process the payload of `shortFile` is in the flash memory, but the
command reports a difference. -/
theorem eepromVerify_not_exact_shortFile :
    ¬ ((∃ p', eepromVerify (FileSystem.empty.put [] shortFile) (norFlash 1)
        (board3x20 idEeprom1M) [] 0 (Proc.start shortFlash) = .ok (0, p')) ↔
      Holds shortFlash [0x55] 0) := by
  intro h
  have hboth := ((eepromVerify_holds_iff (by decide) (FileSystem.node_put_self _ _ _)
    (verifies_shortFile _)).symm.trans h).2 holds_shortFlash
  exact absurd (hboth.2 1 (by decide) (by decide)) (by decide)

end Mesaflash
