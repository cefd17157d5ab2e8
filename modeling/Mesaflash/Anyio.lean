import Mesaflash.Eeprom

/-!
The flash commands of `anyio.c`.

They choose the start address and call the function that the board has for the
command.  Whatever that function is, it is the one of `eeprom.c` in the end: the
local and the remote set differ in the access functions that `eeprom_access` then
holds.
-/

namespace Mesaflash

open Lib

/-- `-EINVAL`. -/
def einval : ℤ := -22

/-- The start address of the image that a command is about. -/
def flashAddress (board : Board) (fallbackFlag : ℤ) : ℕ :=
  if fallbackFlag = 1 then
    if board.fpgaType = .efinix then efinixFallbackAddress else xilinxFallbackAddress
  else board.flashStartAddress

variable {σ : Type} (sha : Sha256) (fs : FileSystem) (acc : SpiEepromDev σ)

/-- `anyio_dev_write_flash`. -/
def anyioDevWriteFlash (board : Option Board) (name : CStr)
    (fallbackFlag fixBootFlag sha256CheckFlag : ℤ) (p : Proc σ) : Except Fault (ℤ × Proc σ) :=
  match board with
  | none => .ok (einval, p)
  | some board =>
    match board.llio.writeFlash with
    | none => .ok (einval, p)
    | some _ =>
      eepromWrite sha fs acc board name (flashAddress board fallbackFlag) fixBootFlag
        sha256CheckFlag p

/-- `anyio_dev_verify_flash`. -/
def anyioDevVerifyFlash (board : Option Board) (name : CStr) (fallbackFlag : ℤ) (p : Proc σ) :
    Except Fault (ℤ × Proc σ) :=
  match board with
  | none => .ok (einval, p)
  | some board =>
    match board.llio.verifyFlash with
    | none => .ok (einval, p)
    | some _ => eepromVerify fs acc board name (flashAddress board fallbackFlag) p

/-- `anyio_dev_backup_flash`. -/
def anyioDevBackupFlash (io : WriteIo) (autoName : CStr) (board : Option Board) (name : CStr)
    (p : Proc σ) : Except Fault (ℤ × FileSystem × Proc σ) :=
  match board with
  | none => .ok (einval, fs, p)
  | some board =>
    match board.llio.backupFlash with
    | none => .ok (einval, fs, p)
    | some _ => flashBackup sha fs acc io autoName board name p

/-- `anyio_dev_restore_flash`. -/
def anyioDevRestoreFlash (board : Option Board) (name : CStr) (p : Proc σ) :
    Except Fault (ℤ × Proc σ) :=
  match board with
  | none => .ok (einval, p)
  | some board =>
    match board.llio.restoreFlash with
    | none => .ok (einval, p)
    | some _ => flashRestore sha fs acc board name p

variable {sha fs acc} {board : Board} {name : CStr} {fallback fix shaFlag : ℤ} {p p' : Proc σ}

/-- A board that was written to has a function for it. -/
lemma anyioDevWriteFlash_eq_zero_iff :
    anyioDevWriteFlash sha fs acc (some board) name fallback fix shaFlag p = .ok (0, p') ↔
      board.llio.writeFlash.isSome ∧ eepromWrite sha fs acc board name
        (flashAddress board fallback) fix shaFlag p = .ok (0, p') := by
  cases h : board.llio.writeFlash <;> simp [anyioDevWriteFlash, h, einval]

lemma anyioDevWriteFlash_of_isSome (h : board.llio.writeFlash.isSome) :
    anyioDevWriteFlash sha fs acc (some board) name fallback fix shaFlag p =
      eepromWrite sha fs acc board name (flashAddress board fallback) fix shaFlag p := by
  obtain ⟨_, hsome⟩ := Option.isSome_iff_exists.1 h
  simp [anyioDevWriteFlash, hsome]

lemma anyioDevVerifyFlash_of_isSome (h : board.llio.verifyFlash.isSome) :
    anyioDevVerifyFlash fs acc (some board) name fallback p =
      eepromVerify fs acc board name (flashAddress board fallback) p := by
  obtain ⟨_, hsome⟩ := Option.isSome_iff_exists.1 h
  simp [anyioDevVerifyFlash, hsome]

end Mesaflash
