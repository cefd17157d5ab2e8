import Mesaflash.Programming

/-!
Where in the flash memory the write command writes.

The image of a command has a target area: one of the two halves of the memory, or
all of it where there is no fallback support.  `start_programming` compares the
index of the last sector that a file needs with a number of sectors, so that an
area takes one sector too many, and it works with the size as an `int`.
`acceptedSectors` is the number of sectors that pass the comparison.

The access functions are a `recorder`: it logs what is asked for and answers reads
as an oracle says, which knows the log.  `confined_iff` says for which files the
comparison is right, and that then everything stays inside the area.
-/

namespace Mesaflash

open Lib

/-! ### Areas -/

lemma sectorSize_dvd_userSpace (flashId : UInt8) : sectorSize ∣ eepromCalcUserSpace flashId := by
  unfold eepromCalcUserSpace
  split_ifs <;> decide

lemma sectorSize_le_userSpace (flashId : UInt8) : sectorSize ≤ eepromCalcUserSpace flashId := by
  unfold eepromCalcUserSpace
  split_ifs <;> decide

lemma sectorSize_dvd_flashSize (flashId : UInt8) : sectorSize ∣ eepromGetFlashSize flashId := by
  unfold eepromGetFlashSize
  split_ifs <;> decide

/-- A range of whole sectors, from `lo` up to but not including `hi`. -/
structure FlashArea where
  lo : ℕ
  hi : ℕ
  le : lo ≤ hi
  lo_dvd : sectorSize ∣ lo
  hi_dvd : sectorSize ∣ hi

/-- The number of sectors of an area. -/
def FlashArea.sectors (area : FlashArea) : ℕ := (area.hi - area.lo) / sectorSize

lemma FlashArea.lo_add (area : FlashArea) : area.lo + sectorSize * area.sectors = area.hi := by
  rw [sectors, Nat.mul_div_cancel' (Nat.dvd_sub area.hi_dvd area.lo_dvd),
    Nat.add_sub_cancel' area.le]

/-- The target area of an image. -/
def targetArea (board : Board) (fallbackFlag : ℤ) : FlashArea :=
  let user := eepromCalcUserSpace board.flashId
  have huser : sectorSize ∣ user := sectorSize_dvd_userSpace _
  if fallbackFlag = 1 then
    if board.fpgaType = .efinix then ⟨0, user, Nat.zero_le _, Nat.dvd_zero _, huser⟩
    else ⟨xilinxFallbackAddress, user, sectorSize_le_userSpace _, by decide, huser⟩
  else if board.fallbackSupport = 1 then
    ⟨user, 2 * user, Nat.le_mul_of_pos_left _ (by decide), huser, huser.mul_left _⟩
  else
    ⟨0, eepromGetFlashSize board.flashId, Nat.zero_le _, Nat.dvd_zero _,
      sectorSize_dvd_flashSize _⟩

/-- The number of sectors up to which files are accepted. -/
def acceptedSectors (board : Board) (fallbackFlag : ℤ) : ℕ :=
  let user := eepromCalcUserSpace board.flashId / sectorSize
  if board.fpgaType = .efinix then user + 1
  else if board.fallbackSupport = 1 then
    -- the user image of the smallest memory starts at the fallback address
    if fallbackFlag = 1 ∨ board.flashId = idEeprom1M then user else user + 1
  else eepromGetFlashSize board.flashId / sectorSize + 1

section Areas

variable {board : Board} {fallback : ℤ}

/-- Images start where their area does. -/
lemma flashAddress_eq_lo (hopen : board.Opened) :
    flashAddress board fallback = (targetArea board fallback).lo := by
  unfold flashAddress targetArea
  dsimp only
  split
  · split <;> rfl
  · rw [hopen.start]
    split <;> rfl

variable (fallback) in
lemma targetArea_hi_le (hopen : board.Opened) : (targetArea board fallback).hi ≤ 2 ^ 22 := by
  obtain ⟨k, hk, huser, hsize⟩ := hopen.known.sectors
  have hpow : 2 ^ k ≤ 2 ^ 5 := Nat.pow_le_pow_right (by decide) hk
  have huserLe : eepromCalcUserSpace board.flashId ≤ 2 ^ 21 := by
    rw [huser]
    exact Nat.mul_le_mul_left sectorSize hpow
  have hsizeLe : eepromGetFlashSize board.flashId ≤ 2 ^ 22 := by
    rw [hsize, pow_succ]
    exact Nat.mul_le_mul_left sectorSize (Nat.mul_le_mul_right 2 hpow)
  unfold targetArea
  dsimp only
  split
  · split <;> dsimp only <;> omega
  · split <;> dsimp only <;> omega

lemma userSpace_eq_fallback_iff (h : KnownFlashId board.flashId) :
    eepromCalcUserSpace board.flashId = xilinxFallbackAddress ↔ board.flashId = idEeprom1M := by
  simp only [KnownFlashId, List.mem_cons, List.not_mem_nil, or_false] at h
  rcases h with h | h | h | h | h | h <;> rw [h] <;> decide

variable (fallback) in
lemma maxSectors_add_one (hopen : board.Opened) :
    maxSectors board (flashAddress board fallback) + 1 = acceptedSectors board fallback := by
  have huser : 1 ≤ eepromCalcUserSpace board.flashId / sectorSize :=
    Nat.div_pos (sectorSize_le_userSpace _) (by decide)
  unfold maxSectors acceptedSectors
  split
  · rfl
  · next hfpga =>
    split
    · next hsupport =>
      have hstart : flashAddress board fallback = xilinxFallbackAddress ↔
          fallback = 1 ∨ board.flashId = idEeprom1M := by
        rw [flashAddress, hopen.start, if_pos hsupport, if_neg hfpga]
        by_cases hfallback : fallback = 1
        · simp [hfallback]
        · simp [hfallback, userSpace_eq_fallback_iff hopen.known]
      simp only [hstart]
      split <;> omega
    · rfl

end Areas

/-! ### What the comparison accepts -/

section Accepts

variable {size : ℕ} {limit : ℤ}

lemma eSectors_le_iff (hlimit : 0 ≤ limit) :
    eSectors (toInt size) ≤ limit ↔ toInt ((size : ℤ) - 1) < sectorSize * (limit + 1) := by
  have hwrap : toInt (toInt (size : ℤ) - 1) = toInt ((size : ℤ) - 1) := Int.bmod_sub_bmod
  have hsector : (0 : ℤ) < sectorSize := by decide
  rw [eSectors, hwrap]
  rcases Int.le_total 0 (toInt ((size : ℤ) - 1)) with hnonneg | hneg
  · rw [Int.tdiv_eq_ediv_of_nonneg hnonneg, ← Int.lt_add_one_iff,
      Int.ediv_lt_iff_lt_mul hsector, Int.mul_comm]
  · have hdiv : (toInt ((size : ℤ) - 1)).tdiv sectorSize ≤ 0 := by
      rw [← Int.neg_neg (toInt ((size : ℤ) - 1)), Int.neg_tdiv]
      exact Int.neg_nonpos_of_nonneg (Int.tdiv_nonneg (by omega) hsector.le)
    have hpos := Int.mul_pos hsector (show 0 < limit + 1 by omega)
    constructor <;> intro <;> omega

/-- The sectors that a file needs fit into `n` sectors when the file does. -/
lemma neededSectors_le_iff {n : ℕ} : neededSectors size ≤ n ↔ size ≤ sectorSize * n := by
  rw [neededSectors, ← Nat.lt_succ_iff, Nat.div_lt_iff_lt_mul (by decide), Nat.succ_mul,
    Nat.mul_comm n]
  have : 0 < sectorSize := by decide
  omega

/-- When the comparison with a limit is the comparison with the size of an area. -/
lemma accepts_iff_fits {cap limit : ℕ} (hcap : sectorSize * cap < 2 ^ 31) :
    (toInt ((size : ℤ) - 1) < (sectorSize * limit : ℕ) ↔ size ≤ sectorSize * cap) ↔
      size ≤ sectorSize * min cap limit ∨
        sectorSize * cap < size ∧ (sectorSize * limit : ℕ) ≤ toInt ((size : ℤ) - 1) := by
  rcases Nat.lt_or_ge (sectorSize * cap) size with hout | hin
  · have hmin : ¬ size ≤ sectorSize * min cap limit := fun h =>
      absurd (Nat.le_trans h (Nat.mul_le_mul_left _ (Nat.min_le_left _ _))) (Nat.not_le.2 hout)
    simp only [Nat.not_le.2 hout, hmin, hout, iff_false, Int.not_lt, false_or, true_and]
  · have hint : toInt ((size : ℤ) - 1) = (size : ℤ) - 1 := toInt_of_lt (by omega) (by omega)
    rw [hint, ← Nat.mul_min_mul_left, Nat.le_min]
    simp only [hin, iff_true, true_and, Nat.not_lt.2 hin, false_and, or_false]
    omega

end Accepts

/-! ### The recorder -/

/-- What the access functions are asked for. -/
inductive FlashOp where
  | read (addr : ℕ)
  | write (addr : ℕ) (page : PageBuf)
  | erase (addr : ℕ)

namespace FlashOp

def addr : FlashOp → ℕ
  | read a => a
  | write a _ => a
  | erase a => a

/-- The number of bytes that are concerned. -/
def extent : FlashOp → ℕ
  | read _ => pageSize
  | write _ _ => pageSize
  | erase _ => sectorSize

/-- The page or the sector is a whole one and lies in the area. -/
def Inside (area : FlashArea) (op : FlashOp) : Prop :=
  op.extent ∣ op.addr ∧ area.lo ≤ op.addr ∧ op.addr + op.extent ≤ area.hi

end FlashOp

/-- Access functions that keep a log, and read what the oracle says. -/
def recorder (oracle : List FlashOp → ℕ → PageBuf) : SpiEepromDev (List FlashOp) where
  readPage a log := .ok (oracle log a, log ++ [.read a])
  writePage a page log := .ok (log ++ [.write a page])
  eraseSector a log := .ok (log ++ [.erase a])

/-- What the boot sector check asks for. -/
def IsBootCheck (board : Board) (fix : ℤ) (ops : List FlashOp) : Prop :=
  ops = [] ∨ HasBootBlock board ∧ (ops = [.read 0] ∨
    fix ≠ 0 ∧ ∃ page, ops = [.read 0, .erase bootAddress, .write 0 page, .read 0])

/-- What erasing sectors and programming the pages of a payload asks for. -/
def imageOps (size start : ℕ) (buf : ℕ → UInt8) (bytes : List UInt8) : List FlashOp :=
  (sectors (eSectors (toInt size) + 1).toNat start).map .erase ++
    (programmed buf bytes start).map fun x => .write x.1 x.2

/-- What a write of a file asked for since `log`: the boot sector check, and then
nothing, or the sectors and the pages of an accepted file. -/
def Issued (board : Board) (fix : ℤ) (size start : ℕ) (log : List FlashOp)
    (p : Proc (List FlashOp)) : Prop :=
  ∃ boot image, p.dev = log ++ boot ++ image ∧ IsBootCheck board fix boot ∧
    (image = [] ∨ 0 < size ∧ eSectors (toInt size) ≤ maxSectors board start ∧
      ∃ buf bytes, bytes.length ≤ size ∧ image = imageOps size start buf bytes)

section Recorder

variable {oracle : List FlashOp → ℕ → PageBuf} {sha : Sha256} {fs : FileSystem} {board : Board}
  {name : CStr} {start : ℕ} {fix shaFlag : ℤ} {data : List UInt8} {p p' : Proc (List FlashOp)}

lemma startProgramming_recorder (board : Board) (start : ℕ) (fsize : ℤ)
    (p : Proc (List FlashOp)) :
    startProgramming (recorder oracle) board start fsize p =
      if maxSectors board start < eSectors fsize then .ok (-1, p)
      else .ok (0, { p with
        dev := p.dev ++ (sectors (eSectors fsize + 1).toNat start).map .erase }) := by
  have h := foldlM_log (ε := Fault) (fun i => FlashOp.erase (nextSector^[i] start))
    (List.range (eSectors fsize + 1).toNat) p.dev
  rw [startProgramming_eq, sectors, List.map_map]
  simp only [recorder, h, ok_bind]
  rfl

lemma programLoop_recorder {fp : File} (hfp : fp.Sound) (start : ℕ) (p : Proc (List FlashOp)) :
    programLoop (recorder oracle) fp start p =
      .ok { p with
        fileBuffer := drained chunkSize p.fileBuffer fp.rest
        dev := p.dev ++ (programmed p.fileBuffer fp.rest start).map fun x => .write x.1 x.2 } := by
  have h := foldlM_log (ε := Fault)
    (fun j => FlashOp.write (nextPage^[j] start) (filePage p.fileBuffer fp.rest j))
    (List.range (filePages fp.rest)) p.dev
  rw [programLoop_eq _ hfp, programmed, List.map_map]
  simp only [recorder, h, ok_bind]
  rfl

lemma checkBoot_recorder (oracle : List FlashOp → ℕ → PageBuf) (p : Proc (List FlashOp)) :
    ∃ r pb, checkBoot (recorder oracle) p =
      .ok (r, { p with pageBuffer := pb, dev := p.dev ++ [.read 0] }) := by
  have hread : (recorder oracle).readPage 0 p.dev =
    .ok (oracle p.dev 0, p.dev ++ [.read 0]) := rfl
  rw [checkBoot, hread, ok_bind]
  dsimp only
  split
  · exact ⟨_, _, rfl⟩
  · exact ⟨_, _, rfl⟩

variable (oracle board fix p) in
/-- The boot sector check asks for nothing else, whether it succeeds or not. -/
lemma writeBootCheck_recorder :
    EarlyRet (fun r => ∃ boot, r.2.dev = p.dev ++ boot ∧ IsBootCheck board fix boot)
        (writeBootCheck (recorder oracle) board fix p) ∧
      ∀ p', writeBootCheck (recorder oracle) board fix p = .ok p' →
        ∃ boot, p'.dev = p.dev ++ boot ∧ IsBootCheck board fix boot := by
  unfold writeBootCheck
  split
  · next hboard =>
    obtain ⟨r, pb, hcheck⟩ := checkBoot_recorder oracle p
    have hread : ∃ boot, p.dev ++ [.read 0] = p.dev ++ boot ∧ IsBootCheck board fix boot :=
      ⟨_, rfl, .inr ⟨hboard, .inl rfl⟩⟩
    rw [hcheck, call_ok, ok_bind]
    dsimp only
    split
    · by_cases hfix : fix = 0
      · rw [exitIf_pos hfix, error_bind]
        exact ⟨.ret hread, fun p' h => by simp at h⟩
      · have hwrite : writeBoot (recorder oracle)
            { p with pageBuffer := pb, dev := p.dev ++ [.read 0] } = .ok { p with
              pageBuffer := pb
              fileBuffer := bootFileBuffer p.bootBlock p.fileBuffer
              dev := p.dev ++ [.read 0] ++ [.erase bootAddress] ++
                [.write 0 (pageAt pageSize (bootFileBuffer p.bootBlock p.fileBuffer) 0)] } := rfl
        rw [exitIf_neg hfix, ok_bind, hwrite, call_ok, ok_bind]
        obtain ⟨r', pb', hcheck'⟩ := checkBoot_recorder oracle { p with
          pageBuffer := pb
          fileBuffer := bootFileBuffer p.bootBlock p.fileBuffer
          dev := p.dev ++ [.read 0] ++ [.erase bootAddress] ++
            [.write 0 (pageAt pageSize (bootFileBuffer p.bootBlock p.fileBuffer) 0)] }
        rw [hcheck', call_ok, ok_bind]
        have hrepair : ∃ boot, p.dev ++ [.read 0] ++ [.erase bootAddress] ++
            [.write 0 (pageAt pageSize (bootFileBuffer p.bootBlock p.fileBuffer) 0)] ++
            [.read 0] = p.dev ++ boot ∧ IsBootCheck board fix boot :=
          ⟨_, by simp only [List.append_assoc, List.cons_append, List.nil_append]; rfl,
            .inr ⟨hboard, .inr ⟨hfix, _, rfl⟩⟩⟩
        refine ⟨.bind (.exitIf fun _ => hrepair) fun _ _ => .ok _, fun p' h => ?_⟩
        simp only [bind_eq_ok] at h
        obtain ⟨_, -, h⟩ := h
        obtain rfl := Except.ok.inj h
        exact hrepair
    · refine ⟨.ok _, fun p' h => ?_⟩
      obtain rfl := Except.ok.inj h
      exact hread
  · refine ⟨.ok _, fun p' h => ?_⟩
    obtain rfl := Except.ok.inj h
    exact ⟨[], (List.append_nil _).symm, .inl rfl⟩

/-- The boot sector check may be all that a write asks for. -/
lemma Issued.of_bootCheck {size : ℕ} {log : List FlashOp}
    (h : ∃ boot, p'.dev = log ++ boot ∧ IsBootCheck board fix boot) :
    Issued board fix size start log p' := by
  obtain ⟨boot, hdev, hboot⟩ := h
  exact ⟨boot, [], by rw [hdev, List.append_nil], hboot, .inl rfl⟩

lemma issued_self {size : ℕ} (p : Proc (List FlashOp)) : Issued board fix size start p.dev p :=
  .of_bootCheck ⟨[], (List.append_nil _).symm, .inl rfl⟩

/-- A successful write asks for the boot sector check and its image. -/
lemma issued_of_zero (hnode : fs.node name = some (.regular data true false))
    (h : eepromWrite sha fs (recorder oracle) board name start fix shaFlag p = .ok (0, p')) :
    Issued board fix data.length start p.dev p' := by
  obtain ⟨p₁, size, fp₀, ret, part, fp, p₂, r, p₃, hsha, hsize, hopen, hhead, hret, -, hboot,
    hstart, hr, hloop⟩ := eepromWrite_eq_zero_iff.1 h
  obtain rfl : data.length = size := by
    simpa [FileSystem.stSize_of_node hnode] using hsize
  obtain rfl : File.start data false = fp₀ := by
    simpa [FileSystem.fopen_of_node hnode] using hopen
  obtain ⟨buf, rfl⟩ := writeShaCheck_frame hsha
  obtain ⟨boot, hdev, hcheck⟩ := (writeBootCheck_recorder _ _ _ { p with fileBuffer := buf }).2
    p₂ hboot
  have hreads := printBitfileHeader_reads hhead
  have hsound : fp.Sound := ⟨hreads.ioError, hreads.consistent (File.consistent_start _ _)⟩
  have hpos : 0 < data.length := Nat.lt_of_lt_of_le (by decide) (length_of_header hhead hret)
  have hlen : fp.rest.length ≤ data.length := by
    have hle := fp.rest_length_le
    rwa [show fp.data = data from hreads.data] at hle
  rw [startProgramming_recorder] at hstart
  split at hstart
  · exact absurd (Prod.mk.inj (Except.ok.inj hstart)).1.symm hr
  · next hfits =>
    obtain ⟨-, rfl⟩ := Prod.mk.inj (Except.ok.inj hstart)
    rw [programLoop_recorder hsound] at hloop
    obtain rfl := Except.ok.inj hloop
    refine ⟨boot, imageOps data.length start p₂.fileBuffer fp.rest, ?_, hcheck,
      .inr ⟨hpos, Int.not_lt.1 hfits, _, _, hlen, rfl⟩⟩
    simp only [imageOps, hdev, List.append_assoc]

/-- A write of a file asks for the boot sector check and its image. -/
lemma eepromWrite_recorder {r : ℤ} (hnode : fs.node name = some (.regular data true false))
    (h : eepromWrite sha fs (recorder oracle) board name start fix shaFlag p = .ok (r, p')) :
    Issued board fix data.length start p.dev p' := by
  by_cases hr : r = 0
  · subst hr
    exact issued_of_zero hnode h
  · rcases body_eq_ok.1 h with hend | hret
    · -- only the last line of the body returns zero
      simp only [bind_eq_ok] at hend
      obtain ⟨_, -, _, -, _, -, _, -, _, -, _, -, _, -, _, -, _, -, _, -, hend⟩ := hend
      exact absurd (Prod.mk.inj (Except.ok.inj hend)).1.symm hr
    · refine (?_ : EarlyRet (fun r : ℤ × Proc (List FlashOp) =>
        Issued board fix data.length start p.dev r.2) _) _ hret
      refine .bind (writeShaCheck_earlyRet fun _ => issued_self _) fun p₁ hp₁ => ?_
      obtain ⟨buf, rfl⟩ := writeShaCheck_frame hp₁
      have hsame : Issued board fix data.length start p.dev { p with fileBuffer := buf } :=
        issued_self _
      obtain ⟨hboot, hok⟩ := writeBootCheck_recorder oracle board fix { p with fileBuffer := buf }
      refine .bind (.orExit hsame) fun _ _ => .bind (.orExit hsame) fun _ _ =>
        .bind (.call _) fun _ _ => .bind (.exitIf fun _ => hsame) fun _ _ =>
        .bind (writePartCheck_earlyRet hsame) fun _ _ =>
        .bind (fun r hr => .of_bootCheck (hboot r hr)) fun p₂ hp₂ => .bind (.call _)
        fun x hstart => .bind (.exitIf fun hfail => ?_) fun _ _ => .bind (.call _) fun _ _ => .ok _
      obtain ⟨r, p₃⟩ := x
      rw [call_eq_ok, startProgramming_recorder] at hstart
      split at hstart
      · obtain ⟨-, rfl⟩ := Prod.mk.inj (Except.ok.inj hstart)
        exact .of_bootCheck (hok p₂ hp₂)
      · exact absurd ((Prod.mk.inj (Except.ok.inj hstart)).1.trans hfail) (by decide)

end Recorder

/-! ### Confinement -/

/-- The write command keeps to the target area: exactly the files that fit into it are
accepted, and the image is written inside it. -/
structure Confined (board : Board) (fallback : ℤ) (data : List UInt8) : Prop where
  accepts_iff : ∀ oracle p,
    (∃ p', startProgramming (recorder oracle) board (flashAddress board fallback)
      (toInt data.length) p = .ok (0, p')) ↔
        neededSectors data.length ≤ (targetArea board fallback).sectors
  inside : ∀ sha fs oracle name fix shaFlag p r p',
    fs.node name = some (.regular data true false) →
    anyioDevWriteFlash sha fs (recorder oracle) (some board) name fallback fix shaFlag p =
      .ok (r, p') →
    ∃ boot image, p'.dev = p.dev ++ boot ++ image ∧ IsBootCheck board fix boot ∧
      ∀ op ∈ image, op.Inside (targetArea board fallback)

section Confinement

variable {board : Board} {fallback : ℤ} {data : List UInt8}

/-- The image of a file that fits is written inside the area. -/
lemma imageOps_inside {area : FlashArea} (harea : area.hi ≤ 2 ^ 22) {size : ℕ} (hpos : 0 < size)
    (hfits : neededSectors size ≤ area.sectors) (buf : ℕ → UInt8) {bytes : List UInt8}
    (hlen : bytes.length ≤ size) : ∀ op ∈ imageOps size area.lo buf bytes, op.Inside area := by
  have hroom : area.lo + sectorSize * neededSectors size ≤ area.hi := by
    rw [← area.lo_add]
    exact Nat.add_le_add_left (Nat.mul_le_mul_left _ hfits) _
  have hsize : size ≤ sectorSize * neededSectors size := neededSectors_le_iff.1 le_rfl
  have hpages := filePages_le hlen
  intro op hop
  rw [imageOps, eSectors_toInt hpos (by omega), sectors_eq (by omega), programmed_eq (by omega),
    List.map_map, List.map_map, List.mem_append, List.mem_map, List.mem_map] at hop
  rcases hop with ⟨i, hi, rfl⟩ | ⟨j, hj, rfl⟩
  · have hlast := Nat.mul_le_mul_left sectorSize (List.mem_range.1 hi)
    rw [Nat.mul_succ] at hlast
    refine ⟨Nat.dvd_add area.lo_dvd (Nat.dvd_mul_right _ _), Nat.le_add_right _ _, ?_⟩
    show area.lo + sectorSize * i + sectorSize ≤ area.hi
    omega
  · have hlast := Nat.mul_le_mul_left pageSize (List.mem_range.1 hj)
    rw [Nat.mul_succ] at hlast
    have hdvd : pageSize ∣ area.lo := Nat.dvd_trans (by decide) area.lo_dvd
    refine ⟨Nat.dvd_add hdvd (Nat.dvd_mul_right _ _), Nat.le_add_right _ _, ?_⟩
    show area.lo + pageSize * j + pageSize ≤ area.hi
    omega

lemma startProgramming_accepts_iff (hopen : board.Opened) (size : ℕ)
    (oracle : List FlashOp → ℕ → PageBuf) (p : Proc (List FlashOp)) :
    (∃ p', startProgramming (recorder oracle) board (flashAddress board fallback) (toInt size) p =
      .ok (0, p')) ↔
        toInt ((size : ℤ) - 1) < (sectorSize * acceptedSectors board fallback : ℕ) := by
  have hmax := maxSectors_add_one fallback hopen
  have hpos : 1 ≤ acceptedSectors board fallback := by
    have := Nat.div_pos (sectorSize_le_userSpace board.flashId) (show 0 < sectorSize by decide)
    unfold acceptedSectors
    dsimp only
    split_ifs <;> first | exact this | exact Nat.le_add_left 1 _
  rw [startProgramming_recorder, Nat.cast_mul, ← hmax, ← eSectors_le_iff (by omega)]
  split
  · next h =>
    exact ⟨fun ⟨_, h'⟩ => by simp at h', fun h' => absurd h' (Int.not_le.2 h)⟩
  · next h => exact ⟨fun _ => Int.not_lt.1 h, fun _ => ⟨_, rfl⟩⟩

/-- **The write command keeps to the target area exactly for the files that fit into
the area and have at most as many sectors as are accepted, and for those that neither
fit nor are accepted.** -/
theorem confined_iff (hopen : board.Opened) :
    Confined board fallback data ↔
      data.length ≤
          sectorSize * min (targetArea board fallback).sectors (acceptedSectors board fallback) ∨
        sectorSize * (targetArea board fallback).sectors < data.length ∧
          (sectorSize * acceptedSectors board fallback : ℕ) ≤ toInt ((data.length : ℤ) - 1) := by
  have harea := targetArea_hi_le fallback hopen
  have hcap : sectorSize * (targetArea board fallback).sectors < 2 ^ 31 := by
    have := (targetArea board fallback).lo_add
    omega
  rw [← accepts_iff_fits hcap]
  constructor
  · -- any oracle and any process will do
    intro h
    have hiff := h.accepts_iff (fun _ _ _ => 0) (Proc.start [])
    rwa [startProgramming_accepts_iff hopen, neededSectors_le_iff] at hiff
  · intro h
    refine ⟨fun oracle p => ?_, fun sha fs oracle name fix shaFlag p r p' hnode hrun => ?_⟩
    · rw [startProgramming_accepts_iff hopen, neededSectors_le_iff, h]
    · rw [anyioDevWriteFlash] at hrun
      split at hrun
      · obtain ⟨-, rfl⟩ := Prod.mk.inj (Except.ok.inj hrun)
        exact ⟨[], [], by simp, .inl rfl, by simp⟩
      · obtain ⟨boot, image, hdev, hboot, himage⟩ := eepromWrite_recorder hnode hrun
        rcases himage with hnone | ⟨hpos, haccept, buf, bytes, hlen, hops⟩
        · exact ⟨boot, image, hdev, hboot, by simp [hnone]⟩
        · rw [hops] at hdev
          refine ⟨boot, _, hdev, hboot, ?_⟩
          rw [flashAddress_eq_lo hopen]
          refine imageOps_inside harea hpos ?_ buf hlen
          -- the file was accepted, so by the condition it fits
          rw [neededSectors_le_iff, ← h, ← startProgramming_accepts_iff hopen data.length
            (fun _ _ _ => 0) (Proc.start []), startProgramming_recorder,
            if_neg (Int.not_lt.2 haccept)]
          exact ⟨_, rfl⟩

end Confinement

theorem confined_shortFile : Confined (board7i98 idEeprom16M) 1 shortFile :=
  (confined_iff ⟨by decide, by decide⟩).2 (.inl (by decide))

/-- A fallback image of two sectors is accepted for an area of one, and reaches into the
user image. -/
theorem not_confined_two_sectors :
    ¬ Confined (board7i98 idEeprom2M) 1 (headerTop.encode ++ List.replicate sectorSize 0xFF) := by
  intro h
  have hlen : (headerTop.encode ++ List.replicate sectorSize (0xFF : UInt8)).length =
      headerTop.encode.length + sectorSize := by
    rw [List.length_append, List.length_replicate]
  have hiff := h.accepts_iff (fun _ _ _ => 0) (Proc.start [])
  rw [hlen, startProgramming_accepts_iff ⟨by decide, by decide⟩] at hiff
  exact absurd (hiff.1 (by decide)) (by decide)

end Mesaflash
