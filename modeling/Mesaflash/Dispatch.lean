import Mesaflash.Registry
import Mesaflash.Frame

/-!
What `main` does with the board that it has found.

It opens the board, carries out one action, and closes the board.  Most of what it calls,
it calls through function pointers of the board.  The flash commands look whether there is a
function before they call it, and so do `--program`, `--reload` and `--reset`; the others do
not look.

What the functions find and report besides is a parameter, a `Scene`.
-/

namespace Mesaflash

open Lib

/-- A pointer is used. -/
def deref {α : Type} (p : Option α) : Except Fault α :=
  match p with
  | some a => .ok a
  | none => .error (.undefined .nullPointer)

@[simp] lemma deref_some {α : Type} (a : α) : deref (some a) = .ok a := rfl

@[simp] lemma deref_none {α : Type} :
    deref (none : Option α) = .error (.undefined .nullPointer) := rfl

/-- An access to the registers by a function of `hostmot2.c` or `sserial_module.c`. -/
inductive RegisterUse where
  | read
  | write
deriving DecidableEq, Repr

/-- What a command finds. -/
structure Scene (σ : Type) where
  sha : Sha256
  fs : FileSystem
  /-- The flash memory of the board.  An access may never return. -/
  readPage : ℕ → σ → Option (PageBuf × σ)
  writePage : ℕ → PageBuf → σ → Option σ
  eraseSector : ℕ → σ → Option σ
  flash : σ
  flashId : UInt8
  /-- The answer of the CPLD to `epp_board_open`. -/
  cpldByte : UInt8
  /-- Whether the registers of a PCI board can be mapped into memory. -/
  mapped : Bool
  /-- The accesses to the registers by the commands that read the IDROM, behind the read of
  the cookie.  What they read decides which they are. -/
  uses : BoardAction → List RegisterUse
  /-- What writes to a backup file store, and its name. -/
  io : WriteIo
  autoName : CStr
  /-- What functions of the board and of `eth_boards.c` return. -/
  reset : Reset → ℤ
  reload : Reload → ℤ → ℤ
  setRemoteIp : ℤ
  setLedMode : ℤ

/-- `-EPERM`. -/
def eperm : ℤ := -1

section Dispatch

variable {σ : Type} (e : Scene σ) (o : Options) (b : BoardEntry)

/-! ### Registers -/

/-- A function of the board for its registers is called. -/
def useRegister (use : RegisterUse) : Except Fault Unit := do
  match use with
  | .read => let _ ← deref b.read
  | .write => let _ ← deref b.write

/-- Byte access to a flash memory: behind registers it writes and reads them. -/
def useBytes : Except Fault Unit :=
  match b.flash with
  | .hm2 => do
    useRegister b .write
    useRegister b .read
  | _ => .ok ()

/-! ### Opening -/

/-- The end of the open functions, for a flash memory with an id. -/
def idFound (block : BootBlock) : BoardEntry × BootBlock :=
  if b.fallbackSupport = 1 then
    ({ b with flashId := e.flashId, flashStartAddress := eepromCalcUserSpace e.flashId },
      eepromPrepareBootBlock e.flashId block)
  else ({ b with flashId := e.flashId, flashStartAddress := 0 }, block)

/-- `eeprom_init`, and the flash id is read. -/
def openFlash (block : BootBlock) : Except Fault (BoardEntry × BootBlock) := do
  useBytes b
  return idFound e b block

/-- `pci_board_open`. -/
def pciBoardOpen (block : BootBlock) : Except Fault (BoardEntry × BootBlock) :=
  if b.memBase ≠ 0 ∧ e.mapped = false then .error .abort
  else if b.flash ≠ .none then openFlash e b block
  else return (b, block)

/-- `epp_board_open`. -/
def eppBoardOpen (block : BootBlock) : Except Fault (BoardEntry × BootBlock) :=
  let b := if b.mode = .cpld then
      b.withPart (if e.cpldByte &&& 0x01 ≠ 0 then "3s400tq144" else "3s200tq144")
    else b
  if b.flash ≠ .none then openFlash e b block
  else return (b, block)

/-- The function that `open` points to. -/
def callOpen (f : BoardType) (block : BootBlock) : Except Fault (BoardEntry × BootBlock) :=
  match f with
  | .pci => pciBoardOpen e b block
  | .epp => eppBoardOpen e b block
  | .usb => return (b, block)
  | .spi | .eth | .ser => openFlash e b block

/-! ### Actions -/

/-- What an access function returns, if it returns. -/
def orHang {α : Type} (r : Option α) : Except Fault α :=
  match r with
  | some a => .ok a
  | none => .error .hang

/-- The functions in `eeprom_access` are there when the board has a flash memory, and they
exchange bytes with it. -/
def useAccess : Except Fault Unit :=
  if b.flash = .none then .error (.undefined .nullPointer) else useBytes b

/-- `eeprom_access`, for the only board that was opened. -/
def boardAccess : SpiEepromDev σ where
  readPage a s := do
    useAccess b
    orHang (e.readPage a s)
  writePage a page s := do
    useAccess b
    orHang (e.writePage a page s)
  eraseSector a s := do
    useAccess b
    orHang (e.eraseSector a s)

/-- A command that begins with `hm2_read_idrom`. -/
def hm2Command (a : BoardAction) : Except Fault ℤ := do
  useRegister b .read
  (e.uses a).forM (useRegister b)
  return 0

/-- The actions on an open board. -/
def callBoardAction (a : BoardAction) : Except Fault ℤ :=
  match a with
  | .readhmid | .printPd | .printLio | .sserial | .enableAllMod | .safeIo => hm2Command e b a
  | .rpo => do
    useRegister b .read
    return 0
  | .wpo => do
    useRegister b .write
    return 0
  | .setRemoteIp => return if b.type = .eth then e.setRemoteIp else eperm
  | .setLedMode => return if b.type = .eth then e.setLedMode else eperm

/-- `anyio_dev_reload`. -/
def anyioDevReload (fallbackFlag : ℤ) : Except Fault ℤ :=
  match b.reload with
  | none => return einval
  | some f => return e.reload f fallbackFlag

/-- `anyio_dev_reset`. -/
def anyioDevReset : Except Fault ℤ :=
  match b.reset with
  | none => return einval
  | some f => return e.reset f

/-- `anyio_dev_program_fpga`, which does not look at what `program_fpga` returns. -/
def anyioDevProgramFpga : Except Fault ℤ :=
  match b.reset, b.programFpga with
  | none, _ => return einval
  | some _, none => return einval
  | some f, some _ => return if e.reset f ≠ 0 then e.reset f else 0

/-- A flag as it is passed on. -/
def Options.int (f : Flag) : ℤ := o.flag f

/-- `anyio_dev_verify_flash` after a successful command, with automatic verification. -/
def autoVerify (name : CStr) (ret : ℤ) (p : Proc σ) : Except Fault ℤ :=
  if ret = 0 ∧ o.flag .autoVerify ≠ 0 then do
    let (ret, _) ← anyioDevVerifyFlash e.fs (boardAccess e b) (some b.toBoard) name
      (o.int .fallback) p
    return ret
  else return ret

/-- `--write`. -/
def callWrite (name : CStr) (p : Proc σ) : Except Fault ℤ := do
  let (ret, p) ← anyioDevWriteFlash e.sha e.fs (boardAccess e b) (some b.toBoard) name
    (o.int .fallback) (o.int .fixBoot) (o.int .sha256Check) p
  let ret ← autoVerify e o b name ret p
  if ret = 0 ∧ o.flag .reload = 1 then anyioDevReload e b (o.int .fallback)
  else return ret

/-- `--restore-flash`. -/
def callRestore (name : CStr) (p : Proc σ) : Except Fault ℤ := do
  let (ret, p) ← anyioDevRestoreFlash e.sha e.fs (boardAccess e b) (some b.toBoard) name p
  autoVerify e o b name ret p

/-- The actions on an open board and a file. -/
def callFileOp (op : FileOp) (name : CStr) (p : Proc σ) : Except Fault ℤ :=
  match op with
  | .write => callWrite e o b name p
  | .verify => do
    let (ret, _) ← anyioDevVerifyFlash e.fs (boardAccess e b) (some b.toBoard) name
      (o.int .fallback) p
    return ret
  | .backupFlash => do
    let (ret, _) ← anyioDevBackupFlash e.sha e.fs (boardAccess e b) e.io e.autoName
      (some b.toBoard) name p
    return ret
  | .restoreFlash => callRestore e o b name p
  | .program => anyioDevProgramFpga e b
  | .info => return 0

/-- `show_board_info`, which prints `fpga_part_number`. -/
def showBoardInfo : Except Fault Unit :=
  match b.llio.fpgaPartNumber with
  | some _ => .ok ()
  | none => .error (.undefined .nullString)

/-- The function that `print_info` points to. -/
def callPrintInfo (f : BoardType) : Except Fault Unit :=
  match f with
  | .usb | .spi => .ok ()
  | .pci | .epp | .eth | .ser => if b.verbose = 0 then .ok () else showBoardInfo b

/-- What `main` does with an open board. -/
def callAction (a : Action) (p : Proc σ) : Except Fault ℤ :=
  match a with
  | .board a => callBoardAction e b a
  | .file op name => callFileOp e o b op name p
  | .reload => do
    let _ ← anyioDevReload e b (o.int .fallback)
    return 0
  | .reset => do
    let _ ← anyioDevReset e b
    return 0
  | .printInfo => do
    let f ← deref b.printInfo
    callPrintInfo b f
    return 0

/-- The part of `main` behind `anyio_get_dev`. -/
def mainOnBoard : Except Fault ℤ := do
  let f ← deref b.boardOpen
  let (b, block) ← callOpen e b f bootBlock
  let ret ← callAction e o b (boardAction o) { Proc.start e.flash with bootBlock := block }
  let _ ← deref b.boardClose
  return ret

end Dispatch

end Mesaflash
