import Mesaflash.BoardReload
import Mesaflash.PowerCut

/-!
From a reload to the image.

The address of an image is in four places: `flashAddress` says where a file is written,
`eeprom_calc_user_space` and the boot block where the user image is, and the words of a reload
where the FPGA restarts.  An FPGA that restarts at the beginning of the flash memory reads the
boot block there, which is itself a sequence of configuration words.

So a reload loads what was written last for it, whatever became of the attempts to write the
other image (`reload_loads_written`).
-/

namespace Mesaflash

open Lib

variable {k : ℕ}

/-! ### The boot block -/

/-- The words of a boot block, the high byte first. -/
def blockWords (block : BootBlock) : List ℕ :=
  List.ofFn fun i : Fin 32 =>
    wordOf [block ⟨2 * i + 1, by unfold bootBlockSize; omega⟩,
      block ⟨2 * i, by unfold bootBlockSize; omega⟩]

/-- The words that an FPGA reads from the flash memory. -/
def flashWords (f : Flash (chip k)) (addr : ℕ) : List ℕ :=
  List.ofFn fun i : Fin 32 =>
    wordOf [f (Flash.cell _ (addr + (2 * i + 1))), f (Flash.cell _ (addr + 2 * i))]

/-- The boot block of a process, which has opened any boards before. -/
def IsBootBlock (block : BootBlock) : Prop :=
  ∃ msb, block = Function.update bootBlock jumpMsb msb

/-- The high byte of the address of the user image. -/
def userMsb (flashId : UInt8) : UInt8 := (eepromCalcUserSpace flashId / 0x10000).toUInt8

/-- `eeprom_prepare_boot_block` sets the byte, whatever it was before. -/
lemma eepromPrepareBootBlock_eq {flashId : UInt8} (hknown : KnownFlashId flashId)
    {block : BootBlock} (hblock : IsBootBlock block) :
    eepromPrepareBootBlock flashId block =
      Function.update bootBlock jumpMsb (userMsb flashId) := by
  obtain ⟨msb, rfl⟩ := hblock
  simp only [KnownFlashId, List.mem_cons, List.not_mem_nil, or_false] at hknown
  rcases hknown with rfl | rfl | rfl | rfl | rfl | rfl
  · exact Function.update_idem _ _ _
  · exact Function.update_idem _ _ _
  · exact Function.update_idem _ _ _
  · exact Function.update_idem _ _ _
  · exact Function.update_idem _ _ _
  · exact Function.update_idem _ _ _

/-- What the boot block writes to registers. -/
def bootWrites (msb : UInt8) : List (ℕ × ℕ) :=
  [(0x0F, 0xFFFF), (0x13, 0), (0x14, wordOf [msb, 0x0B]), (0x15, 0), (0x16, 0x0B01), (0x05, 0),
    (0x18, 0x2100), (0x10, 0x001F)]

/-- The byte is in one word. -/
lemma blockWords_update (msb : UInt8) :
    blockWords (Function.update bootBlock jumpMsb msb) =
      (blockWords bootBlock).set 12 (wordOf [msb, 0x0B]) := by
  refine List.ext_getElem (by simp [blockWords]) fun i hi _ => ?_
  rw [List.getElem_set]
  simp only [blockWords, List.length_ofFn] at hi
  simp only [blockWords, List.getElem_ofFn]
  split
  · next h =>
    subst h
    rfl
  · next h =>
    rw [Function.update_of_ne, Function.update_of_ne]
    · simp only [jumpMsb, ne_eq, Fin.mk.injEq]
      omega
    · simp only [jumpMsb, ne_eq, Fin.mk.injEq]
      omega

/-- The boot block sets registers and restarts the FPGA. -/
lemma blockWords_eq (msb : UInt8) :
    blockWords (Function.update bootBlock jumpMsb msb) =
      List.replicate 5 0xFFFF ++ ([0xAA99, 0x5566] ++ (ConfigPort.setRegs (bootWrites msb) ++
        ConfigPort.headerOf ConfigPort.cmdReg :: ConfigPort.restartCmd ::
          List.replicate 7 0x2000)) := by
  have hwords : blockWords bootBlock = List.replicate 5 0xFFFF ++ ([0xAA99, 0x5566] ++
      (ConfigPort.setRegs (bootWrites 8) ++ ConfigPort.headerOf ConfigPort.cmdReg ::
        ConfigPort.restartCmd :: List.replicate 7 0x2000)) := by decide
  rw [blockWords_update, hwords]
  rfl

/-- Where an FPGA goes on that reads words at an address, with what is in its registers. -/
def jump (regs : ℕ → ℕ) (f : Flash (chip k)) (addr : ℕ) : Option Restart :=
  ((⟨.sync, regs, none⟩ : ConfigPort).run (flashWords f addr)).restarted

/-- The words at the beginning of a flash memory with a boot block. -/
lemma BootOk.flashWords {block : BootBlock} {f : Flash (chip k)} (h : BootOk block f) :
    flashWords f 0 = blockWords block := by
  refine congrArg List.ofFn (funext fun i => ?_)
  rw [Nat.zero_add, Nat.zero_add, h ⟨2 * i + 1, by unfold bootBlockSize; omega⟩,
    h ⟨2 * i, by unfold bootBlockSize; omega⟩]

lemma userSpace_eq {flashId : UInt8} (hknown : KnownFlashId flashId) :
    wordOf [userMsb flashId, 0x0B] % 0x100 * 0x10000 = eepromCalcUserSpace flashId := by
  simp only [KnownFlashId, List.mem_cons, List.not_mem_nil, or_false] at hknown
  rcases hknown with rfl | rfl | rfl | rfl | rfl | rfl
  · decide
  · decide
  · decide
  · decide
  · decide
  · decide

/-- **A good boot block leads to the user image, and to the fallback image if there is none.** -/
lemma BootOk.jump {flashId : UInt8} (hknown : KnownFlashId flashId) {block : BootBlock}
    (hblock : IsBootBlock block) {f : Flash (chip k)}
    (h : BootOk (eepromPrepareBootBlock flashId block) f) (regs : ℕ → ℕ) :
    jump regs f 0 = some ⟨eepromCalcUserSpace flashId, xilinxFallbackAddress⟩ := by
  have hready : (⟨.sync, regs, none⟩ : ConfigPort).Ready := ⟨rfl, nofun⟩
  have hsets : ∀ w ∈ bootWrites (userMsb flashId), ConfigPort.OnlySets w := by
    simp [bootWrites, ConfigPort.OnlySets, ConfigPort.cmdReg, ConfigPort.restartCmd]
  rw [Mesaflash.jump, h.flashWords, eepromPrepareBootBlock_eq hknown hblock, blockWords_eq,
    ConfigPort.restarted_program hready (fun w hw => List.eq_of_mem_replicate hw) hsets,
    ← userSpace_eq hknown]
  simp [ConfigPort.written, ConfigPort.restartOf, bootWrites, xilinxFallbackAddress]

/-- An FPGA that starts at an address comes to another one. -/
inductive Loads (f : Flash (chip k)) : ℕ → ℕ → Prop
  | here (addr : ℕ) : Loads f addr addr
  | jump {addr addr' : ℕ} {r : Restart} (hjump : ∀ regs, jump regs f addr = some r)
      (hrest : Loads f r.start addr') : Loads f addr addr'

/-! ### The images -/

section Images

variable {sha : Sha256} {fs : FileSystem} {board : Board} {name : CStr}
  {fallback other fix shaFlag : ℤ} {data : List UInt8} {p p' : Proc (Flash (chip k))}
  {block : BootBlock}

/-- The two images do not overlap. -/
lemma targetArea_apart (hboard : HasBootBlock board) (hother : fallback = 1 ↔ other ≠ 1) {addr : ℕ}
    (haddr : (targetArea board fallback).lo ≤ addr ∧ addr < (targetArea board fallback).hi) :
    ¬ ((targetArea board other).lo ≤ addr ∧ addr < (targetArea board other).hi) := by
  have hxilinx : ¬ board.fpgaType = .efinix := by rw [hboard.2]; decide
  simp only [targetArea, if_neg hxilinx, if_pos hboard.1] at haddr ⊢
  by_cases hfallback : fallback = 1
  · rw [if_neg (hother.1 hfallback)]
    rw [if_pos hfallback] at haddr
    dsimp only at haddr ⊢
    omega
  · have hone : other = 1 := by
      by_contra h
      exact hfallback (hother.2 h)
    rw [if_pos hone]
    rw [if_neg hfallback] at haddr
    dsimp only at haddr ⊢
    omega

/-- Where a reload starts, the FPGA comes to the image that was asked for. -/
lemma loads_of_bootOk (hopen : board.Opened) (hboard : HasBootBlock board)
    (hblock : IsBootBlock block) {f : Flash (chip k)}
    (h : BootOk (eepromPrepareBootBlock board.flashId block) f) (fallback : ℤ) :
    Loads f (reloadStart fallback) (targetArea board fallback).lo := by
  have hxilinx : ¬ board.fpgaType = .efinix := by rw [hboard.2]; decide
  simp only [reloadStart, targetArea, if_neg hxilinx, if_pos hboard.1]
  split
  · exact .here _
  · exact .jump (h.jump hopen.known hblock) (.here _)

/-- The length of a file that fits is an `int`. -/
lemma length_lt_of_fits (hopen : board.Opened)
    (hfit : neededSectors data.length ≤ (targetArea board fallback).sectors) :
    data.length < 2 ^ 31 := by
  have hneeded := neededSectors_le_iff.1 (le_refl (neededSectors data.length))
  have hsectors := Nat.mul_le_mul_left sectorSize hfit
  have hroom := (targetArea board fallback).lo_add
  have harea := targetArea_hi_le fallback hopen
  omega

/-- A successful write leaves a good boot block, the payload in its area, and nothing else
outside of it but a repaired boot sector. -/
lemma written_image (hk : k ≤ 8) (hopen : board.Opened)
    (hsize : (chip k).size = eepromGetFlashSize board.flashId)
    (hnode : fs.node name = some (.regular data true false))
    (hfit : neededSectors data.length ≤ (targetArea board fallback).sectors)
    (hwrite : anyioDevWriteFlash sha fs (norFlash k) (some board) name fallback fix shaFlag p =
      .ok (0, p')) :
    (HasBootBlock board → BootOk p.bootBlock p'.dev) ∧
      (payload data).length ≤ sectorSize * neededSectors data.length ∧
      (∀ i < (payload data).length,
        p'.dev (Flash.cell _ ((targetArea board fallback).lo + i)) = (payload data).getD i 0) ∧
      SameOutside (targetArea board fallback) (repaired board fix p.bootBlock p.dev) p'.dev := by
  obtain ⟨-, hwrite⟩ := anyioDevWriteFlash_eq_zero_iff.1 hwrite
  rw [flashAddress_eq_lo hopen] at hwrite
  obtain ⟨ret, part, fp, pb, hhead, hret, -, -, hdata, hboot, -, rfl⟩ :=
    eepromWrite_norFlash hnode hwrite
  have hpay : payload data = fp.rest := by rw [payload, hhead]
  have hlen : fp.rest.length ≤ data.length := by
    rw [← hdata]
    exact fp.rest_length_le
  have hpos : 0 < data.length := Nat.lt_of_lt_of_le (by decide) (length_of_header hhead hret)
  have harea := targetArea_hi_le_size hopen hsize fallback
  have hroom := (targetArea board fallback).lo_add
  have hsectors := Nat.mul_le_mul_left sectorSize hfit
  have hcells := written_apply board fix hk (targetArea board fallback).lo_dvd hpos
    (length_lt_of_fits hopen hfit) (by omega) hlen p.bootBlock
    (programBuffer board fix shaFlag data p) p.dev
  have hneeded : data.length ≤ sectorSize * neededSectors data.length :=
    neededSectors_le_iff.1 le_rfl
  have hpages := length_le_filePages fp.rest
  have hfilled := filePages_le hlen
  rw [hpay]
  dsimp only
  refine ⟨fun hboard i => ?_, hlen.trans hneeded, fun i hi => ?_, fun c hc => ?_⟩
  · -- the boot sector is before the image
    have hlow := sectorSize_le_targetArea hboard fallback
    have hi : (i : ℕ) < sectorSize := i.isLt.trans (by decide)
    have hcell : (Flash.cell (chip k) i : ℕ) = i :=
      Flash.cell_of_lt (hi.trans_le (sectorSize_le_size k))
    rw [hcells, hcell, if_neg (by omega), if_neg (by omega)]
    exact hboot hboard i
  · have hcell : (Flash.cell (chip k) ((targetArea board fallback).lo + i) : ℕ) =
        (targetArea board fallback).lo + i := Flash.cell_of_lt (by omega)
    rw [hcells, hcell, if_pos ⟨Nat.le_add_right _ _, by omega⟩, Nat.add_sub_cancel_left,
      image_of_lt hi]
  · rw [hcells, if_neg (by omega), if_neg (by omega)]

/-- **A reload loads what was written for it.**  An image that fits is written.  After that there
are any number of attempts to write the other one, each with a file that fits, and each may lose
power at any moment.  Then a reload that asks for the image makes the FPGA come to it, and it is
still there; and an FPGA that is switched on comes to the user image, or to the fallback
image. -/
theorem reload_loads_written (hk : k ≤ 8) (hopen : board.Opened) (hboard : HasBootBlock board)
    (hsize : (chip k).size = eepromGetFlashSize board.flashId) (hblock : IsBootBlock block)
    (hprocess : p.bootBlock = eepromPrepareBootBlock board.flashId block)
    (hnode : fs.node name = some (.regular data true false))
    (hfit : neededSectors data.length ≤ (targetArea board fallback).sectors)
    (hwrite : anyioDevWriteFlash sha fs (norFlash k) (some board) name fallback fix shaFlag p =
      .ok (0, p'))
    (hother : fallback = 1 ↔ other ≠ 1) {l : List (Attempt k)}
    (hl : ∀ t ∈ l, t.Fits board other) {f : Flash (chip k)}
    (hattempts : attempts sha board other p.bootBlock l p'.dev = .ok f) {port port' : ConfigPort}
    (hreload : RestartsAt fallback port port') :
    (∃ r, port'.restarted = some r ∧ Loads f r.start (targetArea board fallback).lo) ∧
      (∀ i < (payload data).length,
        f (Flash.cell _ ((targetArea board fallback).lo + i)) = (payload data).getD i 0) ∧
      ∀ regs, jump regs f 0 = some ⟨(targetArea board 0).lo, (targetArea board 1).lo⟩ := by
  obtain ⟨hboot, hlen, hpayload, -⟩ := written_image hk hopen hsize hnode hfit hwrite
  obtain ⟨hsame, hboot'⟩ := (otherImage_survives hopen hsize hl hboot).of_eq_ok hattempts
  have hgood : BootOk (eepromPrepareBootBlock board.flashId block) f := hprocess ▸ hboot' hboard
  have hxilinx : ¬ board.fpgaType = .efinix := by rw [hboard.2]; decide
  refine ⟨⟨_, hreload, loads_of_bootOk hopen hboard hblock hgood fallback⟩, fun i hi => ?_,
    fun regs => ?_⟩
  · -- the attempts have not reached the image
    have harea := targetArea_hi_le_size hopen hsize fallback
    have hroom := (targetArea board fallback).lo_add
    have hsectors := Nat.mul_le_mul_left sectorSize hfit
    have hcell : (Flash.cell (chip k) ((targetArea board fallback).lo + i) : ℕ) =
        (targetArea board fallback).lo + i := Flash.cell_of_lt (by omega)
    rw [hsame, hpayload i hi]
    rw [hcell]
    exact targetArea_apart hboard hother ⟨Nat.le_add_right _ _, by omega⟩
  · rw [hgood.jump hopen.known hblock]
    simp [targetArea, hboard.1, hxilinx]

end Images

/-! ### An interrupted write of the fallback image -/

instance (op : FlashOp) (c : Fin (chip k).size) : Decidable (op.Reaches c) :=
  match op with
  | .read _ => inferInstanceAs (Decidable False)
  | .write a _ => inferInstanceAs (Decidable (Flash.SamePage (chip k) a c))
  | .erase a => inferInstanceAs (Decidable (Flash.SameSector (chip k) a c))

/-- The power fails in the second operation. -/
def secondCut : PowerCut 2 where
  after := 1
  torn op f := fun c => if op.Reaches c then 0x5A else f c
  torn_frame h := if_neg h

/-- The card that `--recover` works on. -/
def recover7i98 : Board := { board7i98 idEeprom2M with recover := 1 }

/-- A process that has opened the card, with a flash memory that holds the boot block. -/
def openProcess : Proc (Flash (chip 2)) where
  bootBlock := eepromPrepareBootBlock idEeprom2M bootBlock
  pageBuffer := fun _ => 0
  fileBuffer := fun _ => 0
  dev := fun c => if h : (c : ℕ) < bootBlockSize then
    eepromPrepareBootBlock idEeprom2M bootBlock ⟨c, h⟩ else 0xFF

/-- An attempt that the power failure interrupts. -/
def cutAttempt : Attempt 2 :=
  ⟨FileSystem.empty.put [] shortFile, [], 1, 0, fun _ => 0, fun _ => 0, secondCut⟩

theorem reload_loads_written_cutAttempt : ∃ p' f,
    anyioDevWriteFlash (.constant fun _ => 0) (FileSystem.empty.put [] shortFile) (norFlash 2)
        (some recover7i98) [] 0 0 0 openProcess = .ok (0, p') ∧
      attempts (.constant fun _ => 0) recover7i98 1 openProcess.bootBlock [cutAttempt, cutAttempt]
        p'.dev = .ok f ∧
      Loads f 0 0x20000 ∧ f (Flash.cell _ 0x20000) = 0x55 := by
  have hrun : ∃ p' f, anyioDevWriteFlash (.constant fun _ => 0)
        (FileSystem.empty.put [] shortFile) (norFlash 2) (some recover7i98) [] 0 0 0 openProcess =
          .ok (0, p') ∧
      attempts (.constant fun _ => 0) recover7i98 1 openProcess.bootBlock [cutAttempt, cutAttempt]
        p'.dev = .ok f := ⟨_, _, rfl, rfl⟩
  obtain ⟨p', f, hwrite, hattempts⟩ := hrun
  have hfits : ∀ t ∈ [cutAttempt, cutAttempt], t.Fits recover7i98 1 := by
    intro t ht
    refine ⟨shortFile, ?_, by decide⟩
    rcases List.mem_pair.1 ht with rfl | rfl
    · exact FileSystem.node_put_self _ _ _
    · exact FileSystem.node_put_self _ _ _
  have hpay : payload shortFile = [0x55] := by
    rw [payload, printBitfileHeader_shortFile]
    rfl
  obtain ⟨⟨r, hr, hloads⟩, hpayload, -⟩ := reload_loads_written (by decide) ⟨by decide, by decide⟩
    (by decide) (by decide) ⟨8, (Function.update_eq_self _ _).symm⟩ rfl
    (FileSystem.node_put_self _ _ _) (by decide) hwrite (by decide) hfits hattempts
    (run_xilinxReloadWords ready_freshPort 0)
  rw [run_xilinxReloadWords ready_freshPort 0] at hr
  obtain rfl := Option.some.inj hr
  rw [hpay] at hpayload
  exact ⟨p', f, hwrite, hattempts, hloads, hpayload 0 (by decide)⟩

end Mesaflash
