import Mesaflash.Platform
import Mesaflash.Lib.NorFlash

/-!
Boards and their flash memories.

A `Board` is the part of `board_t` that the flash commands use.  The size of the
flash memory and the layout of its user area follow from `flash_id`.  On a board
with fallback support the memory has two halves: the lower one holds a boot block
in sector 0 (Xilinx) and the fallback image, and the user image starts where
`eeprom_calc_user_space` says; the boot block jumps there.
-/

namespace Mesaflash

open Lib

/-! ### The board record -/

inductive FpgaType where
  | xilinx
  | efinix
deriving DecidableEq, Repr

/-- `board_flash`: how the flash memory of a board is reached. -/
inductive BoardFlash where
  | none
  | hm2
  | io
  | gpio
  | remote
  | epp
deriving DecidableEq, Repr

/-- The two sets of flash functions: those of `eeprom_local.c` and those of
`eeprom_remote.c`. -/
inductive FlashHandler where
  | localFlash
  | remoteFlash
deriving DecidableEq, Repr

/-- `llio_t`.  A function that a board does not have is a null pointer. -/
structure Llio where
  writeFlash : Option FlashHandler
  verifyFlash : Option FlashHandler
  backupFlash : Option FlashHandler
  restoreFlash : Option FlashHandler
  fpgaPartNumber : Option CStr
  boardName : CStr

/-- `board_t`. -/
structure Board where
  fpgaType : FpgaType
  flash : BoardFlash
  flashId : UInt8
  flashStartAddress : ℕ
  fallbackSupport : ℤ
  recover : ℤ
  llio : Llio

/-! ### Sizes -/

def idEeprom1M : UInt8 := 0x10
def idEeprom2M : UInt8 := 0x11
def idEeprom4M : UInt8 := 0x12
def idEeprom8M : UInt8 := 0x13
def idEeprom16M : UInt8 := 0x14
def idEeprom32M : UInt8 := 0x15

def pageSize : ℕ := 256
def sectorSize : ℕ := 65536
def bootBlockSize : ℕ := 64

/-- `eeprom_get_flash_size`. -/
def eepromGetFlashSize (flashId : UInt8) : ℕ :=
  if flashId = idEeprom1M then 0x100000 / 8
  else if flashId = idEeprom2M then 0x200000 / 8
  else if flashId = idEeprom4M then 0x400000 / 8
  else if flashId = idEeprom8M then 0x800000 / 8
  else if flashId = idEeprom16M then 0x1000000 / 8
  else if flashId = idEeprom32M then 0x2000000 / 8
  else 0

/-- `eeprom_calc_user_space`. -/
def eepromCalcUserSpace (flashId : UInt8) : ℕ :=
  if flashId = idEeprom1M then 0x10000
  else if flashId = idEeprom2M then 0x20000
  else if flashId = idEeprom4M then 0x40000
  else if flashId = idEeprom8M then 0x80000
  else if flashId = idEeprom16M then 0x100000
  else if flashId = idEeprom32M then 0x200000
  else 0x80000

/-- The flash ids with a size of their own. -/
def KnownFlashId (flashId : UInt8) : Prop :=
  flashId ∈ [idEeprom1M, idEeprom2M, idEeprom4M, idEeprom8M, idEeprom16M, idEeprom32M]

instance (flashId : UInt8) : Decidable (KnownFlashId flashId) :=
  inferInstanceAs (Decidable (_ ∈ _))

/-- A known flash memory has twice as many sectors as lie below its user area. -/
lemma KnownFlashId.sectors {flashId : UInt8} (h : KnownFlashId flashId) :
    ∃ k ≤ 5, eepromCalcUserSpace flashId = sectorSize * 2 ^ k ∧
      eepromGetFlashSize flashId = sectorSize * 2 ^ (k + 1) := by
  simp only [KnownFlashId, List.mem_cons, List.not_mem_nil, or_false] at h
  rcases h with rfl | rfl | rfl | rfl | rfl | rfl
  · exact ⟨0, by decide⟩
  · exact ⟨1, by decide⟩
  · exact ⟨2, by decide⟩
  · exact ⟨3, by decide⟩
  · exact ⟨4, by decide⟩
  · exact ⟨5, by decide⟩

/-- Only known flash ids have a size. -/
lemma knownFlashId_of_size {flashId : UInt8} (h : eepromGetFlashSize flashId ≠ 0) :
    KnownFlashId flashId := by
  simp only [KnownFlashId, List.mem_cons, List.not_mem_nil, or_false]
  by_contra hno
  simp only [not_or] at hno
  obtain ⟨h₁, h₂, h₃, h₄, h₅, h₆⟩ := hno
  exact h (by simp [eepromGetFlashSize, *])

/-! ### Registered boards -/

/-- A board whose `open` function has found a known flash memory. -/
structure Board.Opened (board : Board) : Prop where
  known : KnownFlashId board.flashId
  start : board.flashStartAddress =
    if board.fallbackSupport = 1 then eepromCalcUserSpace board.flashId else 0

/-- The 3X20-1.0 card, open. -/
def board3x20 (flashId : UInt8) : Board where
  fpgaType := .xilinx
  flash := .io
  flashId := flashId
  flashStartAddress := 0
  fallbackSupport := 0
  recover := 0
  llio :=
    { writeFlash := some .localFlash
      verifyFlash := some .localFlash
      backupFlash := none
      restoreFlash := none
      fpgaPartNumber := some (ascii "3s1000fg456")
      boardName := ascii "3X20" }

/-- A 6I25 in recover mode, open. -/
def boardRecover (flashId : UInt8) : Board where
  fpgaType := .xilinx
  flash := .gpio
  flashId := flashId
  flashStartAddress := eepromCalcUserSpace flashId
  fallbackSupport := 1
  recover := 1
  llio :=
    { writeFlash := some .localFlash
      verifyFlash := some .localFlash
      backupFlash := none
      restoreFlash := none
      fpgaPartNumber := some (ascii "Unknown")
      boardName := ascii "RECOVER" }

/-- The 7I98 card, open. -/
def board7i98 (flashId : UInt8) : Board where
  fpgaType := .xilinx
  flash := .remote
  flashId := flashId
  flashStartAddress := eepromCalcUserSpace flashId
  fallbackSupport := 1
  recover := 0
  llio :=
    { writeFlash := some .remoteFlash
      verifyFlash := some .remoteFlash
      backupFlash := some .remoteFlash
      restoreFlash := some .remoteFlash
      fpgaPartNumber := some (ascii "6slx9tqg144")
      boardName := ascii "7I98" }

/-! ### The boot block -/

/-- The initial contents of `boot_block`. -/
def bootBlockTable : List UInt8 := [
  0xFF, 0xFF, 0xFF, 0xFF, 0xFF, 0xFF, 0xFF, 0xFF,
  0xFF, 0xFF, 0xAA, 0x99, 0x55, 0x66, 0x31, 0xE1,
  0xFF, 0xFF, 0x32, 0x61, 0x00, 0x00, 0x32, 0x81,
  0x0B, 0x08, 0x32, 0xA1, 0x00, 0x00, 0x32, 0xC1,
  0x0B, 0x01, 0x30, 0xA1, 0x00, 0x00, 0x33, 0x01,
  0x21, 0x00, 0x32, 0x01, 0x00, 0x1F, 0x30, 0xA1,
  0x00, 0x0E, 0x20, 0x00, 0x20, 0x00, 0x20, 0x00,
  0x20, 0x00, 0x20, 0x00, 0x20, 0x00, 0x20, 0x00]

/-- A boot block. -/
abbrev BootBlock : Type := Fin bootBlockSize → UInt8

/-- `boot_block` before any board is opened. -/
def bootBlock : BootBlock := fun i => bootBlockTable.getD i 0

/-- The index of the most significant byte of the jump address. -/
def jumpMsb : Fin bootBlockSize := ⟨25, by decide⟩

/-- `eeprom_prepare_boot_block`: the most significant byte of the jump address. -/
def eepromPrepareBootBlock (flashId : UInt8) (block : BootBlock) : BootBlock :=
  if flashId = idEeprom1M then Function.update block jumpMsb 0x01
  else if flashId = idEeprom2M then Function.update block jumpMsb 0x02
  else if flashId = idEeprom4M then Function.update block jumpMsb 0x04
  else if flashId = idEeprom8M then Function.update block jumpMsb 0x08
  else if flashId = idEeprom16M then Function.update block jumpMsb 0x10
  else if flashId = idEeprom32M then Function.update block jumpMsb 0x20
  else block

/-! ### The flash memory -/

/-- A serial flash memory of `2 ^ k` sectors. -/
abbrev chip (k : ℕ) : Geometry where
  page := pageSize
  sector := sectorSize
  size := sectorSize * 2 ^ k
  page_pos := by decide
  size_pos := Nat.mul_pos (by decide) (Nat.two_pow_pos k)
  page_dvd := by decide
  sector_dvd := Nat.dvd_mul_right _ _

/-- A chip with the size of a flash id. -/
lemma le_of_chip {k : ℕ} {flashId : UInt8} (h : (chip k).size = eepromGetFlashSize flashId) :
    k ≤ 8 := by
  have hne : eepromGetFlashSize flashId ≠ 0 := by
    rw [← h]
    exact (chip k).size_pos.ne'
  obtain ⟨j, hj, -, hsize⟩ := (knownFlashId_of_size hne).sectors
  have hpow : 2 ^ k = 2 ^ (j + 1) :=
    Nat.eq_of_mul_eq_mul_left (show 0 < sectorSize by decide) (h.trans hsize)
  have := Nat.pow_right_injective le_rfl hpow
  omega

end Mesaflash
