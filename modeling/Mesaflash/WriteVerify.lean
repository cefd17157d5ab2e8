import Mesaflash.Programming
import Mathlib.Data.Nat.ModEq

/-!
When the verify command confirms what the write command did.

The two commands decide for themselves whether the file suits the board, and
where in the flash memory it belongs.  They agree about the start address and
about the header.  They differ on a board in recover mode, which is written to
without a look at the part number, and on a file that has the size of the flash
memory, which is verified as an image of the whole memory.  Apart from that, a
payload can fail to read back where its pages wrap around the end of the memory,
or lie beyond the sectors that were erased.

`write_verify_iff` says exactly when a successful write is confirmed.
-/

namespace Mesaflash

open Lib

variable {k : ℕ} {sha : Sha256} {fs : FileSystem} {board : Board} {name : CStr} {start : ℕ}
  {fallback fix shaFlag : ℤ} {data : List UInt8} {p p' : Proc (Flash (chip k))}

/-! ### The condition -/

/-- The part name that is found in the header of a file. -/
def headerPart (data : List UInt8) : Option CStr :=
  match printBitfileHeader (.start data false) with
  | .ok (_, part, _) => part
  | .error _ => none

/-- The sectors that are erased for a file of `size` bytes. -/
def imageSectors (size start : ℕ) : List ℕ := sectors (eSectors (toInt size) + 1).toNat start

/-- The pages that are programmed for a file. -/
def imagePages (board : Board) (fix shaFlag : ℤ) (data : List UInt8) (start : ℕ)
    (p : Proc (Flash (chip k))) : List (ℕ × PageBuf) :=
  programmed (programBuffer board fix shaFlag data p) (payload data) start

/-- What must hold for a file, written to the given address, to be confirmed.  A file
of the size of the flash memory must be an image of what the memory then holds; any
other file must be for the part of the board, and its pages must be programmable and
leave the boot block as it is. -/
def WriteAgrees (board : Board) (fix shaFlag : ℤ) (data : List UInt8) (start : ℕ)
    (p : Proc (Flash (chip k))) : Prop :=
  if data.length = eepromGetFlashSize board.flashId then
    ∀ i, i < data.length →
      Flash.Lands (imageSectors data.length start) (imagePages board fix shaFlag data start p)
        (repaired board fix p.bootBlock p.dev) (Flash.cell _ i) (data.getD i 0)
  else
    partMatches board (headerPart data) = .ok true ∧
    Flash.Programmable (imageSectors data.length start)
      (imagePages board fix shaFlag data start p) (repaired board fix p.bootBlock p.dev) ∧
    (HasBootBlock board → ∀ i : Fin bootBlockSize,
      Flash.Lands (imageSectors data.length start) (imagePages board fix shaFlag data start p)
        (repaired board fix p.bootBlock p.dev) (Flash.cell _ i) (p.bootBlock i))

/-! ### The checks of the verify command -/

lemma verifyChecks_earlyRet {fp : File} :
    EarlyRet Failed (verifyChecks (norFlash k) board fp p) := by
  refine .bind (.call _) fun _ _ => .bind (.exitIf fun _ => rfl) fun _ _ => .bind (.call _)
    fun _ _ => .bind (.exitIf fun _ => rfl) fun _ _ => ?_
  split
  · exact .bind (.call _) fun _ _ => .bind (.exitIf fun _ => rfl) fun _ _ => .ok _
  · exact .ok _

/-- A file passes the checks when it is for the part of the board, and the board has
its boot block. -/
lemma verifyChecks_eq_ok_iff {fp₀ fp : File} {ret : ℤ} {part : Option CStr}
    (hhead : printBitfileHeader fp₀ = .ok (ret, part, fp)) (hret : ret ≠ -1) :
    (∃ p₁, verifyChecks (norFlash k) board fp₀ p = .ok (fp, p₁)) ↔
      partMatches board part = .ok true ∧ (HasBootBlock board → BootOk p.bootBlock p.dev) := by
  rw [verifyChecks, hhead, call_ok, ok_bind]
  simp only [exitIf_neg hret, ok_bind, bind_eq_ok, call_eq_ok, exitIf_eq_ok, Bool.not_eq_false]
  constructor
  · rintro ⟨p₁, right, hright, _, rfl, h⟩
    refine ⟨hright, fun hboard => ?_⟩
    rw [if_pos hboard, checkBoot_norFlash] at h
    by_contra hboot
    rw [if_neg hboot] at h
    simp [bind_eq_ok, exitIf_eq_ok] at h
  · rintro ⟨hright, hboot⟩
    by_cases hboard : HasBootBlock board
    · rw [if_pos hboard, checkBoot_norFlash, if_pos (hboot hboard), call_ok, ok_bind]
      exact ⟨_, true, hright, (), rfl, rfl⟩
    · rw [if_neg hboard]
      exact ⟨p, true, hright, (), rfl, rfl⟩

/-- The checks leave the stream behind the header. -/
lemma verifyChecks_stream {fp₀ fp fp' : File} {ret : ℤ} {part : Option CStr}
    (hhead : printBitfileHeader fp₀ = .ok (ret, part, fp))
    (h : verifyChecks (norFlash k) board fp₀ p = .ok (fp', p')) : fp' = fp := by
  rw [verifyChecks, hhead, call_ok, ok_bind] at h
  simp only [bind_eq_ok] at h
  obtain ⟨_, -, _, -, _, -, h⟩ := h
  split at h
  · simp only [bind_eq_ok] at h
    obtain ⟨_, -, _, -, h⟩ := h
    exact (Prod.mk.inj (Except.ok.inj h)).1.symm
  · exact (Prod.mk.inj (Except.ok.inj h)).1.symm

/-- A file of another size than the flash memory verifies when it passes the checks
and its pages match. -/
lemma eepromVerify_image_iff (hnode : fs.node name = some (.regular data true false))
    (hsize : data.length ≠ eepromGetFlashSize board.flashId) {fp : File} {ret : ℤ}
    {part : Option CStr} (hhead : printBitfileHeader (.start data false) = .ok (ret, part, fp))
    (hret : ret ≠ -1) :
    (∃ p'', eepromVerify fs (norFlash k) board name start p = .ok (0, p'')) ↔
      partMatches board part = .ok true ∧ (HasBootBlock board → BootOk p.bootBlock p.dev) ∧
        ∀ x ∈ programmed p.fileBuffer fp.rest start, Flash.readPage p.dev x.1 = x.2 := by
  rw [← and_assoc, ← verifyChecks_eq_ok_iff hhead hret]
  constructor
  · rintro ⟨p'', h⟩
    cases hchecks : verifyChecks (norFlash k) board (.start data false) p with
    | error e =>
        -- a check that fails returns -1
        rw [eepromVerify, FileSystem.stSize_of_node hnode, FileSystem.fopen_of_node hnode,
          orExit_some, ok_bind, orExit_some, ok_bind, if_pos hsize, hchecks, error_bind,
          body_eq_ok] at h
        have he : e = .ret (0, p'') := by simpa using h
        have hfail := verifyChecks_earlyRet (0, p'') (hchecks.trans (congrArg _ he))
        exact absurd hfail (by simp)
    | ok r =>
        obtain ⟨fp', p₁⟩ := r
        obtain rfl := verifyChecks_stream hhead hchecks
        exact ⟨⟨p₁, rfl⟩, (eepromVerify_pages_iff hnode (.image hsize hchecks)).1 ⟨p'', h⟩⟩
  · rintro ⟨⟨p₁, hchecks⟩, hpages⟩
    exact (eepromVerify_pages_iff hnode (.image hsize hchecks)).2 hpages

/-! ### Pages of an image -/

lemma pageSize_dvd_iterate (hstart : pageSize ∣ start) (j : ℕ) :
    pageSize ∣ nextPage^[j] start := by
  induction j with
  | zero => exact hstart
  | succ j ih =>
      rw [Function.iterate_succ_apply', nextPage, u32]
      exact (Nat.dvd_mod_iff (by decide)).2 (Nat.dvd_add ih (dvd_refl _))

lemma pageSize_dvd_programmed {buf : ℕ → UInt8} {bytes : List UInt8} (hstart : pageSize ∣ start) :
    ∀ x ∈ programmed buf bytes start, (chip k).page ∣ x.1 := by
  intro x hx
  obtain ⟨j, -, rfl⟩ := List.mem_map.1 hx
  exact pageSize_dvd_iterate hstart j

/-- A second pass over the same payload sees the same pages. -/
lemma programmed_drained (buf : ℕ → UInt8) (bytes : List UInt8) (start : ℕ) :
    programmed (drained chunkSize buf bytes) bytes start = programmed buf bytes start := by
  simp only [programmed, filePage, image_drained]

/-- The pages of a payload lie in the sectors that were erased for its file. -/
lemma erased_programmed (hk : k ≤ 8) (hstart : sectorSize ∣ start) {size : ℕ} (hpos : 0 < size)
    (hlt : size < 2 ^ 31) {buf : ℕ → UInt8} {bytes : List UInt8} (hlen : bytes.length ≤ size) :
    ∀ x ∈ programmed buf bytes start, ∀ i : Fin pageSize,
      Flash.Erased (G := chip k) (imageSectors size start) (Flash.cell _ (x.1 + i)) := by
  intro x hx i
  obtain ⟨j, hj, rfl⟩ := List.mem_map.1 hx
  have hroom : pageSize * j + i < sectorSize * neededSectors size := by
    have := Nat.mul_le_mul_left pageSize (List.mem_range.1 hj)
    rw [Nat.mul_succ] at this
    have := filePages_le hlen
    have := i.isLt
    omega
  have hdiv := Nat.div_add_mod (pageSize * j + i) sectorSize
  have hmod := Nat.mod_lt (pageSize * j + i) (show 0 < sectorSize by decide)
  -- the sector of the byte
  refine ⟨nextSector^[(pageSize * j + i) / sectorSize] start, List.mem_map.2
    ⟨_, List.mem_range.2 ?_, rfl⟩, ?_⟩
  · rw [eSectors_toInt hpos hlt]
    exact Nat.div_lt_of_lt_mul hroom
  · have hsector := cell_iterate_nextSector (k := k) hk start
      ((pageSize * j + i) / sectorSize) 0
    have hsame := Flash.sameSector_add (G := chip k) (k := (pageSize * j + i) % sectorSize)
      (Nat.dvd_add hstart (Nat.dvd_mul_right sectorSize ((pageSize * j + i) / sectorSize))) hmod
    rw [Flash.SameSector, cell_iterate_nextPage hk]
    rw [Nat.add_zero, Nat.add_zero] at hsector
    rw [hsector]
    rw [Nat.add_assoc, hdiv] at hsame
    exact hsame

/-- Pages that do not wrap around the memory lie apart. -/
lemma programmed_apart (hk : k ≤ 8) {buf : ℕ → UInt8} {bytes : List UInt8}
    (hroom : pageSize * filePages bytes ≤ (chip k).size) :
    ∀ x ∈ programmed buf bytes start, ∀ y ∈ programmed buf bytes start,
      Flash.cell (chip k) x.1 = Flash.cell (chip k) y.1 → x.2 = y.2 := by
  intro x hx y hy h
  obtain ⟨i, hi, rfl⟩ := List.mem_map.1 hx
  obtain ⟨j, hj, rfl⟩ := List.mem_map.1 hy
  have hlt : ∀ {j}, j ∈ List.range (filePages bytes) → pageSize * j < (chip k).size := by
    intro j hj
    have := Nat.mul_le_mul_left pageSize (List.mem_range.1 hj)
    rw [Nat.mul_succ] at this
    have : 0 < pageSize := by decide
    omega
  have hi' := cell_iterate_nextPage (k := k) hk start i 0
  have hj' := cell_iterate_nextPage (k := k) hk start j 0
  simp only [Nat.add_zero] at hi' hj'
  rw [hi', hj'] at h
  have hmod : Nat.ModEq (chip k).size (pageSize * i) (pageSize * j) :=
    Nat.ModEq.add_left_cancel' start (congrArg Fin.val h)
  have heq := Nat.ModEq.eq_of_lt_of_lt hmod (hlt hi) (hlt hj)
  obtain rfl : i = j := Nat.eq_of_mul_eq_mul_left (show 0 < pageSize by decide) heq
  rfl

/-! ### The two commands -/

/-- A file of the size of the flash memory, once written, is confirmed when it is an
image of what the memory then holds. -/
lemma eepromVerify_full_iff (hk : k ≤ 8)
    (hchip : (chip k).size = eepromGetFlashSize board.flashId) (hstart : sectorSize ∣ start)
    (hnode : fs.node name = some (.regular data true false))
    (hsize : data.length = eepromGetFlashSize board.flashId)
    (hlen : (payload data).length ≤ data.length)
    (hdev : p'.dev = written board fix p.bootBlock start data.length
      (programBuffer board fix shaFlag data p) (payload data) p.dev) :
    (∃ p'', eepromVerify fs (norFlash k) board name start p' = .ok (0, p'')) ↔
      ∀ i, i < data.length →
        Flash.Lands (imageSectors data.length start) (imagePages board fix shaFlag data start p)
          (repaired board fix p.bootBlock p.dev) (Flash.cell _ i) (data.getD i 0) := by
  have hpage : pageSize ∣ start := Nat.dvd_trans (by decide) hstart
  have haligned : ∀ x ∈ imagePages board fix shaFlag data start p, (chip k).page ∣ x.1 :=
    pageSize_dvd_programmed hpage
  have hfull : data.length = sectorSize * 2 ^ k := hsize.trans hchip.symm
  have hpow : 2 ^ k ≤ 2 ^ 8 := Nat.pow_le_pow_right (by decide) hk
  have hpos : 0 < data.length := by
    rw [hfull]
    exact (chip k).size_pos
  have hlt : data.length < 2 ^ 31 := by
    rw [hfull]
    exact Nat.lt_of_le_of_lt (Nat.mul_le_mul_left sectorSize hpow) (by decide)
  have hpages : pageSize * filePages data = data.length := by
    have hmul : data.length = pageSize * (256 * 2 ^ k) := by
      rw [hfull, ← Nat.mul_assoc]
      rfl
    rw [filePages, hmul, numPages_mul (by decide)]
  have hroom : pageSize * filePages (payload data) ≤ (chip k).size := by
    refine Nat.le_trans (Nat.mul_le_mul_left pageSize ?_) (hpages.trans (hsize.trans hchip.symm)).le
    by_contra h
    have := (lt_numPages_iff (g := pageSize) (by decide)).1 (Nat.lt_of_not_le h)
    exact absurd (Nat.lt_of_lt_of_le this hlen) (Nat.not_lt.2 (length_le_filePages data))
  -- each page was erased before it is written, and no page is written twice
  have hread := (Flash.programmable_iff haligned (repaired board fix p.bootBlock p.dev)).2
    ⟨fun x hx i => .inl (erased_programmed hk hstart hpos hlt hlen x hx i),
      programmed_apart hk hroom⟩
  rw [eepromVerify_holds_iff hk hnode (.full hsize), hdev, and_iff_left]
  · refine forall₂_congr fun i _ => ?_
    rw [Nat.zero_add]
    exact Flash.lands_iff haligned hread _ _
  · exact fun i hi hi' => absurd hi (by omega)

/-- **After a successful write the verify command succeeds exactly when
`WriteAgrees` held before it.** -/
theorem write_verify_iff (hk : k ≤ 8)
    (hchip : KnownFlashId board.flashId → (chip k).size = eepromGetFlashSize board.flashId)
    (hstart : sectorSize ∣ board.flashStartAddress)
    (hverify : board.llio.writeFlash.isSome → board.llio.verifyFlash.isSome)
    (hnode : fs.node name = some (.regular data true false))
    (hwrite : anyioDevWriteFlash sha fs (norFlash k) (some board) name fallback fix shaFlag p =
      .ok (0, p')) :
    (∃ p'', anyioDevVerifyFlash fs (norFlash k) (some board) name fallback p' = .ok (0, p'')) ↔
      WriteAgrees board fix shaFlag data (flashAddress board fallback) p := by
  have haddr : sectorSize ∣ flashAddress board fallback := by
    unfold flashAddress
    split
    · split <;> decide
    · exact hstart
  have hpage : pageSize ∣ flashAddress board fallback := Nat.dvd_trans (by decide) haddr
  obtain ⟨hsome, hrun⟩ := anyioDevWriteFlash_eq_zero_iff.1 hwrite
  rw [anyioDevVerifyFlash_of_isSome (hverify hsome)]
  obtain ⟨ret, part, fp, pb, hhead, hret, -, -, hdata, -, -, rfl⟩ := eepromWrite_norFlash hnode hrun
  have hpay : payload data = fp.rest := by rw [payload, hhead]
  have hpart : headerPart data = part := by rw [headerPart, hhead]
  have hlen : (payload data).length ≤ data.length := by
    rw [hpay, ← hdata]
    exact fp.rest_length_le
  -- a file of the size of the memory is read back as an image, any other one as its payload
  unfold WriteAgrees
  by_cases hsize : data.length = eepromGetFlashSize board.flashId
  · have hne : eepromGetFlashSize board.flashId ≠ 0 := by
      have hlong := length_of_header hhead hret
      omega
    rw [if_pos hsize]
    exact eepromVerify_full_iff hk (hchip (knownFlashId_of_size hne)) haddr hnode hsize hlen
      (by rw [hpay])
  · rw [if_neg hsize, eepromVerify_image_iff hnode hsize hhead hret, hpart]
    refine and_congr_right fun _ => ?_
    dsimp only
    rw [programmed_drained, ← hpay]
    have haligned : ∀ x ∈ imagePages board fix shaFlag data (flashAddress board fallback) p,
        (chip k).page ∣ x.1 := pageSize_dvd_programmed hpage
    have hread := Flash.programmable_iff haligned
      (l := imageSectors data.length (flashAddress board fallback))
      (repaired board fix p.bootBlock p.dev)
    constructor
    · rintro ⟨hboot, hpages⟩
      exact ⟨hread.1 hpages, fun hboard i =>
        (Flash.lands_iff haligned hpages _ _).1 (hboot hboard i).symm⟩
    · rintro ⟨hprog, hboot⟩
      have hpages := hread.2 hprog
      exact ⟨fun hboard i => ((Flash.lands_iff haligned hpages _ _).2 (hboot hboard i)).symm,
        hpages⟩

/-! ### Two boards -/

lemma payload_shortFile : payload shortFile = [0x55] := by
  rw [payload, printBitfileHeader_shortFile]
  rfl

lemma headerPart_shortFile : headerPart shortFile = some (ascii "3s1000fg456") := by
  rw [headerPart, printBitfileHeader_shortFile]

/-- Any file, for the part of a board without a boot block, is confirmed when its pages
do not wrap around the memory. -/
lemma writeAgrees_of_room (hk : k ≤ 8) (hstart : sectorSize ∣ start) (hpos : 0 < data.length)
    (hlt : data.length < 2 ^ 31) (hlen : (payload data).length ≤ data.length)
    (hsize : data.length ≠ eepromGetFlashSize board.flashId)
    (hpart : partMatches board (headerPart data) = .ok true) (hboard : ¬ HasBootBlock board)
    (hroom : pageSize * filePages (payload data) ≤ (chip k).size) :
    WriteAgrees board fix shaFlag data start p := by
  rw [WriteAgrees, if_neg hsize]
  exact ⟨hpart, ⟨fun x hx i => .inl (erased_programmed hk hstart hpos hlt hlen x hx i),
    programmed_apart hk hroom⟩, fun h => absurd h hboard⟩

theorem write_verify_shortFile :
    ∃ p' p'', anyioDevWriteFlash (.constant fun _ => 0) (FileSystem.empty.put [] shortFile)
        (norFlash 1) (some (board3x20 idEeprom1M)) [] 0 0 0 (Proc.start fun _ => 0) =
          .ok (0, p') ∧
      anyioDevVerifyFlash (FileSystem.empty.put [] shortFile) (norFlash 1)
        (some (board3x20 idEeprom1M)) [] 0 p' = .ok (0, p'') := by
  obtain ⟨p', h⟩ := eepromWrite_shortFile (.constant fun _ => 0) (Proc.start fun _ => 0)
  have hwrite : anyioDevWriteFlash (.constant fun _ => 0) (FileSystem.empty.put [] shortFile)
      (norFlash 1) (some (board3x20 idEeprom1M)) [] 0 0 0 (Proc.start fun _ => 0) = .ok (0, p') :=
    anyioDevWriteFlash_eq_zero_iff.2 ⟨rfl, h⟩
  have hagrees : WriteAgrees (board3x20 idEeprom1M) 0 0 shortFile
      (flashAddress (board3x20 idEeprom1M) 0) (Proc.start fun _ : Fin (chip 1).size => 0) := by
    refine writeAgrees_of_room (by decide) (by decide) (by decide) (by decide) ?_ (by decide) ?_
      (by decide) ?_
    · rw [payload_shortFile]
      decide
    · rw [headerPart_shortFile]
      decide
    · rw [payload_shortFile]
      decide
  obtain ⟨p'', hverify⟩ := (write_verify_iff (by decide) (fun _ => by decide) (by decide)
    (fun _ => rfl) (FileSystem.node_put_self _ _ _) hwrite).2 hagrees
  exact ⟨p', p'', hwrite, hverify⟩

/-- A board in recover mode takes any file, but the verify command compares the part
number with `Unknown`. -/
theorem not_write_verify_recover :
    ∃ p', anyioDevWriteFlash (.constant fun _ => 0) (FileSystem.empty.put [] shortFile)
        (norFlash 1) (some (boardRecover idEeprom1M)) [] 0 1 0
        { Proc.start (fun _ => 0) with
          bootBlock := eepromPrepareBootBlock idEeprom1M bootBlock } = .ok (0, p') ∧
      ¬ ∃ p'', anyioDevVerifyFlash (FileSystem.empty.put [] shortFile) (norFlash 1)
        (some (boardRecover idEeprom1M)) [] 0 p' = .ok (0, p'') := by
  obtain ⟨p', h⟩ : ∃ p', eepromWrite (.constant fun _ => 0) (FileSystem.empty.put [] shortFile)
      (norFlash 1) (boardRecover idEeprom1M) [] (flashAddress (boardRecover idEeprom1M) 0) 1 0
      { Proc.start (fun _ => 0) with
        bootBlock := eepromPrepareBootBlock idEeprom1M bootBlock } = .ok (0, p') :=
    exists_eepromWrite (FileSystem.node_put_self _ _ _) rfl printBitfileHeader_shortFile
      (by decide) (fun h => absurd h (by decide)) (fun _ => .inr (by decide)) (by decide)
  refine ⟨p', anyioDevWriteFlash_eq_zero_iff.2 ⟨rfl, h⟩, fun hverify => ?_⟩
  rw [anyioDevVerifyFlash_of_isSome rfl, eepromVerify_image_iff (FileSystem.node_put_self _ _ _)
    (by decide) printBitfileHeader_shortFile (by decide)] at hverify
  exact absurd hverify.1 (by decide)

end Mesaflash
