import Mesaflash.FlashArea

/-!
Several boards in one process.

The access functions, the boot block, the Ethernet destination and the LBP16
transport are global variables, which are set when a board is opened.  A command on
a board uses whatever is there: `Globals.route` says which flash memory it reaches.
-/

namespace Mesaflash

open Lib

/-! ### Boards and routes -/

/-- `type` in `board_t`. -/
inductive BoardType where
  | eth
  | pci
  | epp
  | usb
  | spi
  | ser
deriving DecidableEq, Repr

/-- A board, and where it is found. -/
structure HostBoard extends Board where
  type : BoardType
  devAddr : CStr
  dev : ℕ
  memBase : ℕ
  dataBaseAddr : ℕ
  baseLo : ℕ

/-- Where LBP16 packets go: to an address of the network, or to the serial port. -/
inductive Link where
  | eth (addr : CStr)
  | ser
deriving DecidableEq, Repr

/-- Where the registers of a board are accessed by `llio.read` and `llio.write`. -/
inductive Port where
  | mem (base : ℕ)
  | epp (baseLo : ℕ)
  | spi
  | usb
  | lbp16 (link : Option Link)
deriving DecidableEq, Repr

/-- A way to a flash memory. -/
inductive Route where
  | hm2 (port : Port)
  | io (dataBaseAddr : ℕ)
  | gpio (dev : ℕ)
  | epp (baseLo : ℕ)
  | lbp16 (link : Link)
deriving DecidableEq, Repr

/-- The global variables that the boards share. -/
structure Globals where
  /-- Which `read_page`, `write_page` and `erase_sector` are in `eeprom_access`. -/
  pages : Option FlashHandler
  /-- Which functions for bytes are in `eeprom_access`. -/
  bytes : Option BoardFlash
  /-- `dst_addr`. -/
  dstAddr : CStr
  /-- The functions in `lbp16_access`: those of Ethernet or of serial boards. -/
  transport : Option BoardType
  bootBlock : BootBlock
  pageBuffer : PageBuf
  fileBuffer : ℕ → UInt8

/-- Where LBP16 packets go when the destination is `dstAddr`. -/
def linkTo (transport : Option BoardType) (dstAddr : CStr) : Option Link :=
  match transport with
  | some .eth => some (.eth dstAddr)
  | some .ser => some .ser
  | _ => none

/-- Where the registers of a board are, when LBP16 packets go to `link`. -/
def HostBoard.port (b : HostBoard) (link : Option Link) : Port :=
  match b.type with
  | .pci => .mem b.memBase
  | .epp => .epp b.baseLo
  | .spi => .spi
  | .usb => .usb
  | .eth => .lbp16 link
  | .ser => .lbp16 link

/-- The flash memory that functions for bytes reach for a board. -/
def byteRoute (bytes : Option BoardFlash) (b : HostBoard) (link : Option Link) : Option Route :=
  match bytes with
  | some .hm2 => some (.hm2 (b.port link))
  | some .io => some (.io b.dataBaseAddr)
  | some .gpio => some (.gpio b.dev)
  | some .epp => some (.epp b.baseLo)
  | _ => none

/-- The flash memory that the access functions reach for a board. -/
def Globals.route (g : Globals) (b : HostBoard) : Option Route :=
  match g.pages with
  | none => none
  | some .localFlash => byteRoute g.bytes b (linkTo g.transport g.dstAddr)
  | some .remoteFlash => (linkTo g.transport g.dstAddr).map .lbp16

/-- The flash memory of a board, by the access method that `flash` selects, when LBP16
packets are sent by `transport`. -/
def HostBoard.routeWith (transport : Option BoardType) (b : HostBoard) : Option Route :=
  match b.flash with
  | .none => none
  | .remote => (linkTo transport b.devAddr).map .lbp16
  | flash => byteRoute (some flash) b none

/-- The flash memory of a board, by its own access method. -/
def HostBoard.ownRoute (b : HostBoard) : Option Route := b.routeWith (some b.type)

/-- A board without functions for the flash memory. -/
def Llio.NoFlash (llio : Llio) : Prop :=
  llio.writeFlash = none ∧ llio.verifyFlash = none ∧ llio.backupFlash = none ∧
    llio.restoreFlash = none

/-- The boards that a scan registers: what flash memory they can have, and that those
without one have no function for it. -/
def HostBoard.Registered (b : HostBoard) : Prop :=
  match b.type, b.flash with
  | .eth, .remote => True
  | .ser, .remote => True
  | .spi, .hm2 => True
  | .pci, .hm2 => True
  | .pci, .io => True
  | .pci, .gpio => True
  | .epp, .hm2 => True
  | .epp, .epp => True
  | .pci, .none | .epp, .none | .usb, .none => b.llio.NoFlash
  | _, _ => False

/-! ### Opening a board -/

/-- `eeprom_init`, with `open_spi_access_local` and `open_spi_access_remote`. -/
def eepromInit (b : HostBoard) (g : Globals) : Globals :=
  match b.flash with
  | .none => g
  | .remote => { g with pages := some .remoteFlash }
  | flash => { g with bytes := some flash, pages := some .localFlash }

/-- The end of the open functions: what follows from the flash id. -/
def flashFound (b : HostBoard) (g : Globals) (id : Option UInt8) :
    Except Fault (HostBoard × Globals) :=
  match id with
  | none => .error (.undefined .nullPointer)
  | some id =>
    if b.fallbackSupport = 1 then
      .ok ({ b with flashId := id, flashStartAddress := eepromCalcUserSpace id },
        { g with bootBlock := eepromPrepareBootBlock id g.bootBlock })
    else .ok ({ b with flashId := id, flashStartAddress := 0 }, g)

section Open

variable (ids : Route → UInt8)

/-- `read_flash_id`. -/
def readFlashId (b : HostBoard) (g : Globals) : Option UInt8 :=
  (byteRoute g.bytes b (linkTo g.transport g.dstAddr)).map ids

/-- The flash id that is read by `lbp16_read`. -/
def lbp16ReadFlashId (g : Globals) : Option UInt8 :=
  ((linkTo g.transport g.dstAddr).map Route.lbp16).map ids

/-- `board->open`, where the flash memories have the given ids. -/
def openBoard (b : HostBoard) (g : Globals) : Except Fault (HostBoard × Globals) :=
  match b.type with
  | .eth =>
    let g := eepromInit b { g with dstAddr := b.devAddr }
    flashFound b g (lbp16ReadFlashId ids g)
  | .ser =>
    let g := eepromInit b g
    flashFound b g (lbp16ReadFlashId ids g)
  | .spi =>
    let g := eepromInit b g
    flashFound b g (readFlashId ids b g)
  | .pci | .epp =>
    if b.flash ≠ .none then
      let g := eepromInit b g
      flashFound b g (readFlashId ids b g)
    else .ok (b, g)
  | .usb => .ok (b, g)

end Open

/-! ### Commands -/

/-- The flash commands of `anyio.c`. -/
inductive Command where
  | write (name : CStr) (fallbackFlag fixBootFlag sha256CheckFlag : ℤ)
  | verify (name : CStr) (fallbackFlag : ℤ)
  | backup (io : WriteIo) (autoName name : CStr)
  | restore (name : CStr)

/-- A command, on the files that there are when it is given. -/
def Command.run {σ : Type} (sha : Sha256) (fs : FileSystem) (acc : SpiEepromDev σ)
    (board : Board) (p : Proc σ) : Command → Except Fault (ℤ × Proc σ)
  | .write name fallback fix shaFlag =>
    anyioDevWriteFlash sha fs acc (some board) name fallback fix shaFlag p
  | .verify name fallback => anyioDevVerifyFlash fs acc (some board) name fallback p
  | .backup io autoName name => do
    let (r, _, p) ← anyioDevBackupFlash sha fs acc io autoName (some board) name p
    return (r, p)
  | .restore name => anyioDevRestoreFlash sha fs acc (some board) name p

/-- What was asked of which flash memory. -/
abbrev RouteLog : Type := List (Route × FlashOp)

/-- The access functions that reach `route`.  They log what they are asked for, and read
what the oracle says. -/
def accessAt (oracle : RouteLog → Route → ℕ → PageBuf) (route : Option Route) :
    SpiEepromDev RouteLog :=
  match route with
  | none =>
    { readPage := fun _ _ => .error (.undefined .nullPointer)
      writePage := fun _ _ _ => .error (.undefined .nullPointer)
      eraseSector := fun _ _ => .error (.undefined .nullPointer) }
  | some route =>
    { readPage := fun a log => .ok (oracle log route a, log ++ [(route, .read a)])
      writePage := fun a page log => .ok (log ++ [(route, .write a page)])
      eraseSector := fun a log => .ok (log ++ [(route, .erase a)]) }

/-! ### Runs -/

/-- The boards and the global variables of a process. -/
structure World (ι : Type) where
  boards : ι → HostBoard
  globals : Globals

/-- A process whose scans found the boards. -/
def World.start {ι : Type} (boards : ι → HostBoard) (transport : Option BoardType) : World ι where
  boards := boards
  globals :=
    { pages := none
      bytes := none
      dstAddr := []
      transport := transport
      bootBlock := Mesaflash.bootBlock
      pageBuffer := fun _ => 0
      fileBuffer := fun _ => 0 }

inductive Event (ι : Type) where
  | openBoard (i : ι)
  | command (i : ι) (fs : FileSystem) (c : Command)

section Runs

variable {ι : Type} [DecidableEq ι] (sha : Sha256) (ids : Route → UInt8)
  (oracle : RouteLog → Route → ℕ → PageBuf)

/-- A command on a board: its result, what was asked of the flash memories, and the
process afterwards. -/
def World.command (w : World ι) (i : ι) (fs : FileSystem) (c : Command) :
    Except Fault (ℤ × RouteLog × World ι) := do
  let acc := accessAt oracle (w.globals.route (w.boards i))
  let (r, p) ← c.run sha fs acc (w.boards i).toBoard
    ⟨w.globals.bootBlock, w.globals.pageBuffer, w.globals.fileBuffer, []⟩
  return (r, p.dev, { w with globals := { w.globals with
    bootBlock := p.bootBlock
    pageBuffer := p.pageBuffer
    fileBuffer := p.fileBuffer } })

/-- One event. -/
def World.step (w : World ι) : Event ι → Except Fault (World ι)
  | .openBoard i => do
    let (b, g) ← openBoard ids (w.boards i) w.globals
    return { boards := Function.update w.boards i b, globals := g }
  | .command i fs c => do
    let (_, _, w) ← w.command sha oracle i fs c
    return w

/-- A sequence of events. -/
def World.run (w : World ι) (events : List (Event ι)) : Except Fault (World ι) :=
  events.foldlM (World.step sha ids oracle) w

end Runs

end Mesaflash
