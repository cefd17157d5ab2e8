import Mesaflash.Board
import Mesaflash.Bitfile
import Mesaflash.Lib.PagedCopy

/-!
The flash commands of `eeprom.c`.

The functions work on a `Proc`, the global variables of the source: the boot
block, the page buffer, the file buffer, and the state of whatever the access
functions in `eeprom_access` reach.  The access functions are a parameter, an
`SpiEepromDev`; the SHA-256 library and the file system are parameters, too.

A function that can `return` from the middle is the `body` of a sequence in which
an early `return` is an exception.  The program loop, the verify loop and the
checksum loop are instances of `readLoop`, with chunks of 8192 bytes.
-/

namespace Mesaflash

open Lib

/-! ### State -/

/-- A page buffer. -/
abbrev PageBuf : Type := Fin pageSize → UInt8

/-- The functions in `eeprom_access` that work on pages and sectors. -/
structure SpiEepromDev (σ : Type) where
  readPage : ℕ → σ → Except Fault (PageBuf × σ)
  writePage : ℕ → PageBuf → σ → Except Fault σ
  eraseSector : ℕ → σ → Except Fault σ

/-- The global variables. -/
structure Proc (σ : Type) where
  bootBlock : BootBlock
  pageBuffer : PageBuf
  fileBuffer : ℕ → UInt8
  /-- What the access functions work on. -/
  dev : σ

/-- The global variables of a process that opened no board. -/
def Proc.start {σ : Type} (dev : σ) : Proc σ := ⟨Mesaflash.bootBlock, fun _ => 0, fun _ => 0, dev⟩

def bootAddress : ℕ := 0
def xilinxFallbackAddress : ℕ := 0x010000
def efinixFallbackAddress : ℕ := 0

/-- The size of the chunks in which files are read. -/
def chunkSize : ℕ := 8192

variable {σ : Type}

section Access

variable (acc : SpiEepromDev σ)

/-! ### Boot block and erasing -/

/-- `check_boot`. -/
def checkBoot (p : Proc σ) : Except Fault (ℤ × Proc σ) := do
  let (page, dev) ← acc.readPage 0 p.dev
  let p := { p with pageBuffer := page, dev := dev }
  if ∀ i : Fin bootBlockSize, p.bootBlock i = p.pageBuffer (i.castLE (by decide)) then
    return (0, p)
  else return (-1, p)

/-- The file buffer after the boot block was copied to its first page. -/
def bootFileBuffer (block : BootBlock) (buf : ℕ → UInt8) : ℕ → UInt8 := fun k =>
  if h : k < bootBlockSize then block ⟨k, h⟩ else if k < pageSize then 0 else buf k

/-- `write_boot`. -/
def writeBoot (p : Proc σ) : Except Fault (Proc σ) := do
  let dev ← acc.eraseSector bootAddress p.dev
  let buf := bootFileBuffer p.bootBlock p.fileBuffer
  let dev ← acc.writePage 0 (pageAt pageSize buf 0) dev
  return { p with fileBuffer := buf, dev := dev }

/-- The address of the next sector. -/
def nextSector (addr : ℕ) : ℕ := u32 (addr + sectorSize)

/-- One round of an erase loop. -/
def eraseRound : ℕ × σ → ℕ → Except Fault (ℕ × σ) :=
  stride nextSector fun _sector addr dev => acc.eraseSector addr dev

/-- `max_sectors`. -/
def maxSectors (board : Board) (startAddress : ℕ) : ℤ :=
  if board.fpgaType = .efinix then (eepromCalcUserSpace board.flashId / sectorSize : ℕ)
  else if board.fallbackSupport = 1 then
    if startAddress = xilinxFallbackAddress then
      (eepromCalcUserSpace board.flashId / sectorSize : ℕ) - 1
    else (eepromCalcUserSpace board.flashId / sectorSize : ℕ)
  else (eepromGetFlashSize board.flashId / sectorSize : ℕ)

/-- `esectors`, the index of the last sector that a file of `fsize` bytes needs. -/
def eSectors (fsize : ℤ) : ℤ := (toInt (fsize - 1)).tdiv sectorSize

/-- `start_programming`. -/
def startProgramming (board : Board) (startAddress : ℕ) (fsize : ℤ) (p : Proc σ) :
    Except Fault (ℤ × Proc σ) := do
  if maxSectors board startAddress < eSectors fsize then return (-1, p)
  else
    let (_, dev) ← (List.range (eSectors fsize + 1).toNat).foldlM (eraseRound acc)
      (startAddress, p.dev)
    return (0, { p with dev := dev })

/-- `flash_erase`. -/
def flashErase (board : Board) (p : Proc σ) : Except Fault (ℤ × Proc σ) := do
  let maxSectors := eepromGetFlashSize board.flashId / sectorSize
  let (_, dev) ← (List.range maxSectors).foldlM (eraseRound acc) (0, p.dev)
  return (0, { p with dev := dev })

/-! ### The chunk loops -/

/-- The address of the next page. -/
def nextPage (addr : ℕ) : ℕ := u32 (addr + pageSize)

/-- One page of a program loop. -/
def programPage (_buf : ℕ → UInt8) (addr : ℕ) (page : PageBuf) (dev : σ) : Except Fault σ :=
  acc.writePage addr page dev

/-- The program loop of `eeprom_write` and `flash_restore`. -/
def programLoop (fp : File) (startAddress : ℕ) (p : Proc σ) : Except Fault (Proc σ) := do
  let s ← readLoop .hang chunkSize (pageChunk nextPage (programPage acc))
    ⟨fp, p.fileBuffer, (startAddress, p.dev)⟩
  return { p with fileBuffer := s.buf, dev := s.st.2 }

/-- One page of the verify loop: `s` is the page buffer and what the access functions
work on. -/
def verifyPage (p : Proc σ) (buf : ℕ → UInt8) (addr : ℕ) (page : PageBuf) (s : PageBuf × σ) :
    Except (Stop (ℤ × Proc σ)) (PageBuf × σ) := do
  let (pageBuffer, dev) ← call (acc.readPage addr s.2)
  if ∀ i, page i = pageBuffer i then return (pageBuffer, dev)
  else throw (.ret (-1, { p with pageBuffer, fileBuffer := buf, dev }))

/-- The verify loop of `eeprom_verify`. -/
def verifyLoop (fp : File) (startAddress : ℕ) (p : Proc σ) :
    Except (Stop (ℤ × Proc σ)) (ℤ × Proc σ) := do
  let s ← readLoop (.fault .hang) chunkSize (pageChunk nextPage (verifyPage acc p))
    ⟨fp, p.fileBuffer, (startAddress, (p.pageBuffer, p.dev))⟩
  return (0, { p with pageBuffer := s.st.2.1, fileBuffer := s.buf, dev := s.st.2.2 })

end Access

/-! ### The checksum file -/

def pathMax : ℕ := 4096

/-- The digits of a byte, as `%02x` writes them. -/
def hexByte (b : UInt8) : CStr :=
  let digit := fun n : ℕ => (if n < 10 then 48 + n else 87 + n).toUInt8
  [digit (b.toNat / 16), digit (b.toNat % 16)]

/-- The value of a hexadecimal digit. -/
def hexDigit (c : UInt8) : Option UInt8 :=
  if 48 ≤ c ∧ c ≤ 57 then some (c - 48)
  else if 97 ≤ c ∧ c ≤ 102 then some (c - 87)
  else if 65 ≤ c ∧ c ≤ 70 then some (c - 55)
  else none

/-- `isspace`. -/
def isSpace (c : UInt8) : Bool := c == 32 || (9 ≤ c && c ≤ 13)

/-- `sscanf (s, "%2hhx", _)`: white space is skipped, then at most two characters are
converted, of which the first may be a sign or both may be the prefix `0x`.  Characters
behind those of `s` are indeterminate. -/
def scanHexByte (s : List UInt8) : Except Fault (Option UInt8) :=
  match s.dropWhile isSpace with
  | [] => .error (.undefined .indeterminate)
  | c :: t =>
    if c = 43 ∨ c = 45 then
      match t with
      | [] => .error (.undefined .indeterminate)
      | d :: _ => .ok ((hexDigit d).map fun v => if c = 45 then -v else v)
    else
      match hexDigit c with
      | none => .ok none
      | some v =>
        match t with
        | [] => .error (.undefined .indeterminate)
        | d :: _ =>
          match hexDigit d with
          | none => .ok (some v)
          | some w => .ok (some (16 * v + w))

/-- The loop that converts `sha256str`. -/
def scanDigest (str : List UInt8) : Except Fault (Option (List UInt8)) :=
  (List.range 32).foldlM (fun digest j => do
    match digest with
    | none => return none
    | some bytes =>
      match ← scanHexByte (str.drop (2 * j)) with
      | none => return none
      | some b => return some (bytes ++ [b])) (some [])

section Files

variable (sha : Sha256)

/-- The digest as a list of bytes. -/
def Sha256.digest (ctx : sha.Ctx) : List UInt8 := List.ofFn (sha.final ctx)

variable (fs : FileSystem)

/-- The name of the checksum file. -/
def shaFileName (name : CStr) : CStr := snprintf pathMax (name ++ ascii ".sha256")

/-- `sha256_verify`. -/
def sha256Verify (name : CStr) (p : Proc σ) : Except Fault (Bool × Proc σ) := body do
  let shaSize ← orExit (fs.stSize (shaFileName name)) (false, p)
  exitIf (shaSize < 64) (false, p)
  let shaFp ← orExit (fs.fopen (shaFileName name)) (false, p)
  let scanned ← call (scanDigest (fread 64 shaFp).1)
  let expected ← orExit scanned (false, p)
  let _ ← orExit (fs.stSize name) (false, p)
  let fp ← orExit (fs.fopen name) (false, p)
  let s ← readLoop (.fault .hang) chunkSize
    (fun buf n ctx => .ok (sha.update ctx (bytesOf buf n))) ⟨fp, p.fileBuffer, sha.init⟩
  return (decide (expected = sha.digest s.st), { p with fileBuffer := s.buf })

/-! ### Writing and verifying -/

/-- Whether `fpga_part_number` lists several parts or is the part of the file. -/
def partMatches (board : Board) (part : Option CStr) : Except Fault Bool :=
  match board.llio.fpgaPartNumber with
  | none => .error (.undefined .nullPointer)
  | some number =>
    if 124 ∈ number then .ok true
    else match part with
      | none => .error (.undefined .indeterminate)
      | some part => .ok (part = number)

variable (acc : SpiEepromDev σ)

/-- The checksum check of `eeprom_write`. -/
def writeShaCheck (name : CStr) (sha256CheckFlag : ℤ) (p : Proc σ) :
    Except (Stop (ℤ × Proc σ)) (Proc σ) := do
  if sha256CheckFlag ≠ 0 then
    let (passed, p) ← call (sha256Verify sha fs name p)
    exitIf (passed = false) (-1, p)
    return p
  else return p

/-- The part number check of `eeprom_write`, which recover boards skip. -/
def writePartCheck (board : Board) (part : Option CStr) (p : Proc σ) :
    Except (Stop (ℤ × Proc σ)) Unit := do
  if board.recover = 0 then
    let right ← call (partMatches board part)
    exitIf (right = false) (-1, p)
  else return ()

/-- Whether the board has a boot block. -/
def HasBootBlock (board : Board) : Prop :=
  board.fallbackSupport = 1 ∧ board.fpgaType = .xilinx

instance (board : Board) : Decidable (HasBootBlock board) := inferInstanceAs (Decidable (_ ∧ _))

/-- The boot sector check of `eeprom_write`, with its repair. -/
def writeBootCheck (board : Board) (fixBootFlag : ℤ) (p : Proc σ) :
    Except (Stop (ℤ × Proc σ)) (Proc σ) := do
  if HasBootBlock board then
    let (r, p) ← call (checkBoot acc p)
    if r = -1 then
      exitIf (fixBootFlag = 0) (-1, p)
      let p ← call (writeBoot acc p)
      let (r, p) ← call (checkBoot acc p)
      exitIf (r = -1) (-1, p)
      return p
    else return p
  else return p

/-- `eeprom_write`, where `program` is the function `start_programming` in
`eeprom_access`. -/
def eepromWriteBy (program : ℕ → ℤ → Proc σ → Except Fault (ℤ × Proc σ)) (board : Board)
    (name : CStr) (startAddress : ℕ) (fixBootFlag sha256CheckFlag : ℤ) (p : Proc σ) :
    Except Fault (ℤ × Proc σ) := body do
  let p ← writeShaCheck sha fs name sha256CheckFlag p
  let size ← orExit (fs.stSize name) (-1, p)
  let fp ← orExit (fs.fopen name) (-1, p)
  let (ret, part, fp) ← call (printBitfileHeader fp)
  exitIf (ret = -1) (-1, p)
  writePartCheck board part p
  let p ← writeBootCheck acc board fixBootFlag p
  let (r, p) ← call (program startAddress (toInt size) p)
  exitIf (r = -1) (-1, p)
  let p ← call (programLoop acc fp startAddress p)
  return (0, p)

/-- `eeprom_write`, where the access functions call `start_programming` itself. -/
def eepromWrite (board : Board) (name : CStr) (startAddress : ℕ)
    (fixBootFlag sha256CheckFlag : ℤ) (p : Proc σ) : Except Fault (ℤ × Proc σ) :=
  eepromWriteBy sha fs acc (startProgramming acc board) board name startAddress fixBootFlag
    sha256CheckFlag p

/-- The checks that `eeprom_verify` makes of a file that is not the size of the flash
memory. -/
def verifyChecks (board : Board) (fp : File) (p : Proc σ) :
    Except (Stop (ℤ × Proc σ)) (File × Proc σ) := do
  let (ret, part, fp) ← call (printBitfileHeader fp)
  exitIf (ret = -1) (-1, p)
  let right ← call (partMatches board part)
  exitIf (right = false) (-1, p)
  if HasBootBlock board then
    let (r, p) ← call (checkBoot acc p)
    exitIf (r = -1) (-1, p)
    return (fp, p)
  else return (fp, p)

/-- `eeprom_verify`. -/
def eepromVerify (board : Board) (name : CStr) (startAddress : ℕ) (p : Proc σ) :
    Except Fault (ℤ × Proc σ) := body do
  let size ← orExit (fs.stSize name) (-1, p)
  let fp ← orExit (fs.fopen name) (-1, p)
  if size ≠ eepromGetFlashSize board.flashId then
    let (fp, p) ← verifyChecks acc board fp p
    verifyLoop acc fp startAddress p
  else verifyLoop acc fp 0 p

/-! ### Backup and restore -/

/-- `basename`, the part behind the last slash. -/
def basename (path : CStr) : CStr := (path.reverse.takeWhile (· != 47)).reverse

/-- The path of the backup file; `none` where a file of that name exists. -/
def backupPath (board : Board) (name autoName : CStr) : Except Fault (Option CStr) :=
  match fs.node name with
  | some (.directory _) =>
    match name.getLast? with
    | none => .error (.undefined .indexUnderflow)
    | some last =>
      .ok (some (snprintf (pathMax - 8)
        (name ++ (if last ≠ 47 then ascii "/" else []) ++ board.llio.boardName ++ autoName)))
  | some (.regular ..) => .ok none
  | none => .ok (some (snprintf (pathMax - 8) name))

/-- The variables of the backup loop. -/
structure BackupState (sha : Sha256) (σ : Type) where
  addr : ℕ
  /-- The bytes in the backup file. -/
  data : List UInt8
  ctx : sha.Ctx
  pageBuffer : PageBuf
  dev : σ

/-- One page of the backup loop. -/
def backupRound (io : WriteIo) (s : BackupState sha σ) (i : ℕ) :
    Except Fault (BackupState sha σ) := do
  let (page, dev) ← acc.readPage s.addr s.dev
  return ⟨u32 (s.addr + pageSize), s.data ++ (List.ofFn page).take (io i pageSize),
    sha.update s.ctx (List.ofFn page), page, dev⟩

/-- The line in a checksum file. -/
def checksumLine (digest : List UInt8) (path : CStr) : CStr :=
  (digest.map hexByte).flatten ++ ascii " *./" ++ basename path ++ ascii "\n"

/-- `flash_backup`, where `io` says how much each write stores and `autoName` is the
name that is made from the time. -/
def flashBackup (io : WriteIo) (autoName : CStr) (board : Board) (name : CStr) (p : Proc σ) :
    Except Fault (ℤ × FileSystem × Proc σ) := body do
  exitIf (eepromGetFlashSize board.flashId = 0) (-1, fs, p)
  let path ← call (backupPath fs board name autoName)
  let path ← orExit path (-1, fs, p)
  exitIf (fs.writable path = false) (-1, fs, p)
  let pages := eepromGetFlashSize board.flashId / pageSize
  let s ← call ((List.range pages).foldlM (backupRound sha acc io)
    ⟨0, [], sha.init, p.pageBuffer, p.dev⟩)
  let p := { p with pageBuffer := s.pageBuffer, dev := s.dev }
  let fs := fs.put path s.data
  exitIf (fs.writable (shaFileName path) = false) (-1, fs, p)
  let line := checksumLine (sha.digest s.ctx) path
  return (0, fs.put (shaFileName path) (line.take (io pages line.length)), p)

/-- `flash_restore`. -/
def flashRestore (board : Board) (name : CStr) (p : Proc σ) : Except Fault (ℤ × Proc σ) := body do
  exitIf (eepromGetFlashSize board.flashId = 0) (-1, p)
  let (passed, p) ← call (sha256Verify sha fs name p)
  exitIf (passed = false) (-1, p)
  let size ← orExit (fs.stSize name) (-1, p)
  exitIf (size > eepromGetFlashSize board.flashId) (-1, p)
  exitIf (size < eepromGetFlashSize board.flashId) (-1, p)
  let fp ← orExit (fs.fopen name) (-1, p)
  let (r, p) ← call (flashErase acc board p)
  exitIf (r = -1) (-1, p)
  let p ← call (programLoop acc fp 0 p)
  return (0, p)

end Files

/-! ### The flash memory as a device -/

/-- Access to a flash memory without faults. -/
def norFlash (k : ℕ) : SpiEepromDev (Flash (chip k)) where
  readPage a f := .ok (Flash.readPage f a, f)
  writePage a page f := .ok (Flash.programPage a page f)
  eraseSector a f := .ok (Flash.eraseSector a f)

end Mesaflash
