import Mesaflash.Host
import Mesaflash.Hostmot2
import Mesaflash.CmdLine
import Mesaflash.Lbp16

/-!
The boards that are found.

`anyio_find_dev` scans the buses on which a board of the wanted name can be, and every scan
fills entries of the array `boards`.  Each kind of board gets its own selection of functions;
those that it does not get are null pointers.  What the devices answer to the scans is a
parameter, `Devices`.
-/

namespace Mesaflash

open Lib

/-! ### Entries -/

/-- `board_mode`. -/
inductive BoardMode where
  | cpld
  | fpga
deriving DecidableEq, Repr

/-- The functions for `program_fpga`. -/
inductive ProgramFpga where
  | epp
  | usb
  | plx9030
  | plx905x
deriving DecidableEq, Repr

/-- The functions for `reset`. -/
inductive Reset where
  | epp
  | plx9030
  | plx905x
  | lbp16
deriving DecidableEq, Repr

/-- The functions for `reload`. -/
inductive Reload where
  | pci
  | pciEfx
  | spi
  | lbp16
deriving DecidableEq, Repr

/-- An entry of `boards`, with what commands use of it.  The functions for `open`, `close`,
`print_info`, `read` and `write` are those for boards of a type. -/
structure BoardEntry extends HostBoard where
  mode : BoardMode
  boardOpen : Option BoardType
  boardClose : Option BoardType
  printInfo : Option BoardType
  read : Option BoardType
  write : Option BoardType
  programFpga : Option ProgramFpga
  reset : Option Reset
  reload : Option Reload
  verbose : ℕ

namespace BoardEntry

/-- `board_init_struct`, and what every scan sets. -/
def init (type : BoardType) (name : CStr) (verbose : ℕ) : BoardEntry where
  fpgaType := .xilinx
  flash := .none
  flashId := 0
  flashStartAddress := 0
  fallbackSupport := 0
  recover := 0
  llio :=
    { writeFlash := none
      verifyFlash := none
      backupFlash := none
      restoreFlash := none
      fpgaPartNumber := none
      boardName := name }
  type := type
  devAddr := []
  dev := 0
  memBase := 0
  dataBaseAddr := 0
  baseLo := 0
  mode := .cpld
  boardOpen := none
  boardClose := none
  printInfo := none
  read := none
  write := none
  programFpga := none
  reset := none
  reload := none
  verbose := verbose

variable (b : BoardEntry)

/-- `open`, `close` and `print_info` are set. -/
def withFunctions (f : BoardType) : BoardEntry :=
  { b with boardOpen := some f, boardClose := some f, printInfo := some f }

/-- `read` and `write` are set. -/
def withRegisters (f : BoardType) : BoardEntry := { b with read := some f, write := some f }

/-- `write_flash` and `verify_flash` are set. -/
def withFlash (h : FlashHandler) : BoardEntry :=
  { b with llio := { b.llio with writeFlash := some h, verifyFlash := some h } }

/-- `backup_flash` and `restore_flash` are set. -/
def withBackup (h : FlashHandler) : BoardEntry :=
  { b with llio := { b.llio with backupFlash := some h, restoreFlash := some h } }

/-- `fpga_part_number` is set. -/
def withPart (part : String) : BoardEntry :=
  { b with llio := { b.llio with fpgaPartNumber := some (ascii part) } }

end BoardEntry

/-! ### The devices -/

/-- `board_access_t`. -/
structure BoardAccess where
  deviceName : CStr
  type : ℕ
  /-- Whether an address was given. -/
  address : ℕ
  verbose : ℕ
  recover : ℕ
  devAddr : Option CStr

/-- `struct pci_dev`. -/
structure PciDev where
  vendorId : ℕ
  deviceId : ℕ
  subsystemId : ℕ
  baseAddr : ℕ → ℕ
  /-- Where it is on the bus. -/
  slot : ℕ

/-- What a board on USB answers. -/
structure UsbReplies where
  /-- The answers of `lbp_read_ctrl` to `LBP_CMD_READ_COOKIE` and to the four commands that
  read the name. -/
  cookie : UInt8
  devName : List UInt8
  /-- The registers. -/
  read : ℕ → ℕ
  /-- The answers of the CPLD to the commands `'1'` and `'0'`. -/
  status : UInt8
  size : UInt8

/-- What the scans find. -/
structure Devices where
  /-- Whether `pci_boards_init` and `epp_boards_init` succeed. -/
  pciInit : Bool
  eppInit : Bool
  pci : List PciDev
  /-- Registers that are read on the parallel port, wide or not. -/
  eppRead : Bool → ℕ → ℕ
  usb : UsbReplies
  /-- What `spi_read` delivers of an address and a size. -/
  spiRead : ℕ → ℕ → Option (List UInt8)
  /-- The answer of a serial board to the request for its name. -/
  serialInfo : List UInt8
  /-- Whether `inet_pton` accepts an address. -/
  inetPton : CStr → Bool
  /-- The answer to the request for the cookie: its size and its value. -/
  ethCookie : Option (ℕ × ℕ)
  /-- The answer to the request for the name, and where it comes from. -/
  ethInfo : List UInt8
  srcIp : CStr

/-- `offsetof(hm2_idrom_desc_t, board_name)` and that of `fpga_size`. -/
def idromBoardName : ℕ := 12
def idromFpgaSize : ℕ := 20

def maxBoards : ℕ := 8

/-- The next entry is cleared. -/
def initEntry (boards : List BoardEntry) : Except Fault Unit :=
  if boards.length < maxBoards then .ok () else .error (.undefined .outOfBounds)

/-- `sizeof(board->dev_addr)`. -/
def devAddrSize : ℕ := 16

/-- The address that was given. -/
def BoardAccess.givenAddress (access : BoardAccess) : Except Fault CStr :=
  match access.devAddr with
  | some addr => .ok addr
  | none => .error (.undefined .nullPointer)

/-- `strcpy` into `dev_addr`. -/
def strcpyDevAddr (addr : CStr) : Except Fault CStr :=
  if addr.length < devAddrSize then .ok addr else .error (.undefined .partNameOverflow)

/-! ### PCI -/

def vendoridMesapci : ℕ := 0x2718
def vendoridPlx : ℕ := 0x10B5
def vendoridXio2001 : ℕ := 0x104C
def deviceidMesa4i74 : ℕ := 0x4174
def deviceidMesa5i24 : ℕ := 0x5124
def deviceidMesa5i25 : ℕ := 0x5125
def deviceidMesa5i25t : ℕ := 0x5925
def deviceidMesa6i24 : ℕ := 0x6124
def deviceidMesa6i25 : ℕ := 0x6125
def deviceidPlx9030 : ℕ := 0x9030
def deviceidPlx9054 : ℕ := 0x9054
def deviceidPlx9056 : ℕ := 0x9056
def deviceidPlx8112 : ℕ := 0x8112
def deviceidXio2001 : ℕ := 0x8240
def subdeviceidMesa5i20 : ℕ := 0x3131
def subdeviceidMesa4i65 : ℕ := 0x3132
def subdeviceidMesa4i68Old : ℕ := 0x3133
def subdeviceidMesa4i68 : ℕ := 0x3311
def subdeviceidMesa5i21 : ℕ := 0x3312
def subdeviceidMesa5i22x15 : ℕ := 0x3313
def subdeviceidMesa5i22x10 : ℕ := 0x3314
def subdeviceidMesa5i23 : ℕ := 0x3315
def subdeviceidMesa3x20x10 : ℕ := 0x3427
def subdeviceidMesa3x20x15 : ℕ := 0x3428
def subdeviceidMesa3x20x20 : ℕ := 0x3429
def subdeviceidMesa4i69x16 : ℕ := 0x3472
def subdeviceidMesa4i69x25 : ℕ := 0x3473

section Pci

variable (access : BoardAccess) (dev : PciDev)

/-- The base address of a region of memory. -/
def PciDev.memBase (i : ℕ) : ℕ := dev.baseAddr i / 16 * 16

/-- The base address of a region of I/O ports. -/
def PciDev.ioBase (i : ℕ) : ℕ := dev.baseAddr i / 4 * 4 % 2 ^ 16

/-- A board with the XIO2001 bridge, in recover mode. -/
def recoverEntry : BoardEntry :=
  { (((BoardEntry.init .pci (ascii "RECOVER") access.verbose).withPart "Unknown").withFlash
      .localFlash).withFunctions .pci with
    dev := dev.slot
    flash := .gpio
    fallbackSupport := 1
    recover := 1 }

/-- A board with the PCI interface in its FPGA. -/
def mesaEntry (name part : String) (fpgaType : FpgaType) (reload : Option Reload) :
    BoardEntry :=
  { (((((BoardEntry.init .pci (ascii name) access.verbose).withPart part).withRegisters
      .pci).withFlash .localFlash).withBackup .localFlash).withFunctions .pci with
    fpgaType := fpgaType
    reload := reload
    memBase := dev.memBase 0
    dev := dev.slot
    flash := .hm2
    fallbackSupport := 1 }

/-- A board with a PLX bridge. -/
def plxEntry (name part : String) (memory : ℕ) (program : ProgramFpga) (reset : Reset) :
    BoardEntry :=
  { (((BoardEntry.init .pci (ascii name) access.verbose).withPart part).withRegisters
      .pci).withFunctions .pci with
    programFpga := some program
    reset := some reset
    memBase := dev.memBase memory
    dataBaseAddr := dev.ioBase 2
    dev := dev.slot
    flash := .none }

/-- A board with the PLX9030 bridge. -/
def plx9030Entry (name part : String) : BoardEntry :=
  plxEntry access dev name part 5 .plx9030 .plx9030

/-- A board with the PLX9054 or the PLX9056 bridge. -/
def plx905xEntry (name part : String) : BoardEntry :=
  plxEntry access dev name part 3 .plx905x .plx905x

/-- The 3X20 has a flash memory behind I/O ports. -/
def mesa3x20Entry (part : String) : BoardEntry :=
  { (plx905xEntry access dev "3X20" part).withFlash .localFlash with flash := .io }

def mesa5i71Entry : BoardEntry :=
  { (BoardEntry.init .pci (ascii "5I71") access.verbose).withFunctions .pci with
    dev := dev.slot }

/-- The board that a device is. -/
def pciEntry : Option BoardEntry :=
  let ssid := dev.subsystemId
  if dev.vendorId = vendoridMesapci then
    if dev.deviceId = deviceidMesa4i74 then
      some (mesaEntry access dev "4I74" "6slx9tqg144" .xilinx none)
    else if dev.deviceId = deviceidMesa5i24 then
      some (mesaEntry access dev "5I24" "6slx16ftg256 | 6slx25ftg256" .xilinx (some .pci))
    else if dev.deviceId = deviceidMesa5i25 then
      some (mesaEntry access dev "5I25" "6slx9tqg144" .xilinx (some .pci))
    else if dev.deviceId = deviceidMesa5i25t then
      some (mesaEntry access dev "5I25T" "T20F256" .efinix (some .pciEfx))
    else if dev.deviceId = deviceidMesa6i24 then
      some (mesaEntry access dev "6I24" "6slx16ftg256 | 6slx25ftg256" .xilinx (some .pci))
    else if dev.deviceId = deviceidMesa6i25 then
      some (mesaEntry access dev "6I25" "6slx9tqg144" .xilinx (some .pci))
    else none
  else if dev.vendorId = vendoridPlx then
    if dev.deviceId = deviceidPlx9030 then
      if ssid = subdeviceidMesa5i20 then some (plx9030Entry access dev "5I20" "2s200pq208")
      else if ssid = subdeviceidMesa4i65 then some (plx9030Entry access dev "4I65" "2s200pq208")
      else none
    else if dev.deviceId = deviceidPlx9054 then
      if ssid = subdeviceidMesa4i68Old ∨ ssid = subdeviceidMesa4i68 then
        some (plx905xEntry access dev "4I68" "3s400pq208")
      else if ssid = subdeviceidMesa5i21 then some (plx905xEntry access dev "5I21" "3s400pq208")
      else if ssid = subdeviceidMesa5i22x10 then
        some (plx905xEntry access dev "5I22" "3s1000fg320")
      else if ssid = subdeviceidMesa5i22x15 then
        some (plx905xEntry access dev "5I22" "3s1500fg320")
      else if ssid = subdeviceidMesa5i23 then some (plx905xEntry access dev "5I23" "3s400pq208")
      else if ssid = subdeviceidMesa4i69x16 then
        some (plx905xEntry access dev "4I69" "6slx16ftg256")
      else if ssid = subdeviceidMesa4i69x25 then
        some (plx905xEntry access dev "4I69" "6slx25ftg256")
      else none
    else if dev.deviceId = deviceidPlx9056 then
      if ssid = subdeviceidMesa3x20x10 then some (mesa3x20Entry access dev "3s1000fg456")
      else if ssid = subdeviceidMesa3x20x15 then some (mesa3x20Entry access dev "3s1500fg456")
      else if ssid = subdeviceidMesa3x20x20 then some (mesa3x20Entry access dev "3s2000fg456")
      else none
    else if dev.deviceId = deviceidPlx8112 then some (mesa5i71Entry access dev)
    else none
  else none

/-- The body of the loop over the devices. -/
def pciRound (boards : List BoardEntry) : Except Fault (List BoardEntry) := do
  initEntry boards
  return boards ++ (pciEntry access dev).toList

/-- The loop over the devices in recover mode, which ends at the first bridge. -/
def pciRecover (boards : List BoardEntry) : List PciDev → Except Fault (List BoardEntry)
  | [] => .ok boards
  | dev :: devs => do
    initEntry boards
    if dev.vendorId = vendoridXio2001 ∧ dev.deviceId = deviceidXio2001 then
      return boards ++ [recoverEntry access dev]
    else pciRecover boards devs

/-- `pci_boards_scan`. -/
def pciBoardsScan (devs : List PciDev) (boards : List BoardEntry) :
    Except Fault (List BoardEntry) :=
  if access.recover = 1 then pciRecover access boards devs
  else devs.foldlM (fun boards dev => pciRound access dev boards) boards

end Pci

/-! ### EPP -/

section Epp

variable (access : BoardAccess)

/-- What every board on the parallel port gets. -/
def eppEntry (name : String) (addr : CStr) (baseLo : ℕ) : BoardEntry :=
  { (BoardEntry.init .epp (ascii name) access.verbose).withFunctions .epp with
    devAddr := addr.take devAddrSize
    baseLo := baseLo }

/-- The 7I90HD with HostMot2. -/
def epp7i90Entry (addr : CStr) (baseLo : ℕ) : BoardEntry :=
  { (((eppEntry access "7I90HD" addr baseLo).withPart "6slx9tqg144").withRegisters
      .epp).withFlash .localFlash with
    mode := .fpga
    flash := .hm2
    fallbackSupport := 1 }

/-- The 7I43 with HostMot2. -/
def epp7i43Entry (addr : CStr) (baseLo : ℕ) : BoardEntry :=
  { (eppEntry access "7I43" addr baseLo).withRegisters .epp with
    mode := .fpga
    programFpga := some .epp
    reset := some .epp
    flash := .hm2 }

/-- The 7C81 with HostMot2. -/
def epp7c81Entry (addr : CStr) (baseLo : ℕ) : BoardEntry :=
  { (((eppEntry access "7C81" addr baseLo).withPart "6slx9tqg144").withRegisters
      .epp).withFlash .localFlash with
    mode := .fpga
    reset := some .epp
    flash := .hm2
    fallbackSupport := 1 }

/-- The 7I43 with the EPPIO firmware. -/
def eppioEntry (addr : CStr) (baseLo : ℕ) : BoardEntry :=
  { ((eppEntry access "7I43" addr baseLo).withRegisters .epp).withFlash .localFlash with
    mode := .fpga
    programFpga := some .epp
    flash := .epp }

/-- The 7I43 without firmware. -/
def eppCpldEntry (addr : CStr) (baseLo : ℕ) : BoardEntry :=
  { eppEntry access "7I43" addr baseLo with
    mode := .cpld
    programFpga := some .epp
    reset := some .epp }

/-- The address of the port, as a text and as a number. -/
def eppAddress : Except Fault (CStr × ℕ) :=
  if access.address = 0 then .ok (ascii "0x378", 0x378)
  else do
    let addr ← access.givenAddress
    if (ascii "0x").isPrefixOf addr then
      let addr := ascii "00" ++ addr.drop 2
      return (addr, (strtol 16 addr % 2 ^ 16).toNat)
    else return (addr, (strtol 10 addr % 2 ^ 16).toNat)

/-- Whether the port is read wide. -/
def eppWide (read : Bool → ℕ → ℕ) : Bool :=
  read true hm2CookieReg &&& 0xFF ≠ hm2Cookie &&& 0xFF

/-- The name that the firmware gives the board. -/
def eppBoardName (read : ℕ → ℕ) : List UInt8 :=
  let idromAddr := read hm2IdromAddr
  word32 (read (idromAddr + idromBoardName)) ++ word32 (read (idromAddr + idromBoardName + 4))

/-- The board on the port. -/
def eppFound (read : ℕ → ℕ) (addr : CStr) (baseLo : ℕ) : Except Fault (Option BoardEntry) :=
  if read hm2CookieReg = hm2Cookie then
    if eppBoardName read = ascii "MESA7I90" then return some (epp7i90Entry access addr baseLo)
    else if eppBoardName read = ascii "MESA7I43" then
      return some (epp7i43Entry access addr baseLo)
    else if eppBoardName read = ascii "MESA7C81" then do
      let devAddr ← strcpyDevAddr addr
      return some { epp7c81Entry access addr baseLo with devAddr := devAddr }
    else return none
  else if read 0 = hm2Cookie then return some (eppioEntry access addr baseLo)
  else return some (eppCpldEntry access addr baseLo)

/-- `epp_boards_scan`. -/
def eppBoardsScan (read : Bool → ℕ → ℕ) (boards : List BoardEntry) :
    Except Fault (List BoardEntry) := do
  initEntry boards
  let (addr, eppAddr) ← eppAddress access
  if eppAddr = 0 then return boards
  else do
    let b ← eppFound access (read (eppWide read)) addr eppAddr
    return boards ++ b.toList

end Epp

/-! ### USB -/

section Usb

variable (access : BoardAccess)

def lbpCookie : UInt8 := 0x5A

/-- The 7I64. -/
def usb7i64Entry (devAddr : CStr) : BoardEntry :=
  { BoardEntry.init .usb (ascii "7I64") access.verbose with devAddr := devAddr }

/-- The 7I43 with HostMot2. -/
def usb7i43Entry (read : ℕ → ℕ) (devAddr : CStr) : BoardEntry :=
  let b : BoardEntry :=
    { ((BoardEntry.init .usb (ascii "7I43") access.verbose).withRegisters .usb).withFunctions
        .usb with
      mode := .fpga
      devAddr := devAddr }
  if read hm2CookieReg = hm2Cookie then
    if read ((read hm2IdromAddr &&& 0xFFFF) + idromFpgaSize) = 400 then b.withPart "3s400tq144"
    else b.withPart "3s200tq144"
  else b

/-- The 7I43 without firmware. -/
def usbCpldEntry (size : UInt8) (devAddr : CStr) : BoardEntry :=
  { ((BoardEntry.init .usb (ascii "7I43") access.verbose).withPart
      (if size &&& 0x01 ≠ 0 then "3s400tq144" else "3s200tq144")).withFunctions .usb with
    mode := .cpld
    devAddr := devAddr
    programFpga := some .usb }

/-- `usb_boards_scan`. -/
def usbBoardsScan (usb : UsbReplies) (boards : List BoardEntry) :
    Except Fault (List BoardEntry) := do
  initEntry boards
  if usb.cookie = lbpCookie then
    if usb.devName = ascii "7I64" then do
      let devAddr ← strcpyDevAddr (← access.givenAddress)
      return boards ++ [usb7i64Entry access devAddr]
    else if usb.devName = ascii "7I43" then do
      let devAddr ← strcpyDevAddr (← access.givenAddress)
      return boards ++ [usb7i43Entry access usb.read devAddr]
    else return boards
  else if usb.status &&& 0x01 = 0 then do
    let devAddr ← strcpyDevAddr (← access.givenAddress)
    return boards ++ [usbCpldEntry access usb.size devAddr]
  else return boards

end Usb

/-! ### SPI -/

section Spi

variable (access : BoardAccess)

/-- A board on an SPI bus. -/
def spiEntry (name : String) (devAddr : CStr) : BoardEntry :=
  { (((((BoardEntry.init .spi (ascii name) access.verbose).withPart
      "6slx9tqg144").withRegisters .spi).withFlash .localFlash).withBackup
      .localFlash).withFunctions .spi with
    devAddr := devAddr
    reload := some .spi
    flash := .hm2
    fallbackSupport := 1 }

/-- The bytes of the cookie and of the name behind it. -/
def spiCookie : List UInt8 := word32 hm2Cookie ++ ascii "HOSTMOT2"

/-- The name of a board that identifies itself. -/
def spiName (ident : List UInt8) : Option String :=
  if ident = ascii "MESA7I90" then some "7I90HD"
  else if ident = ascii "MESA7C80" then some "7C80"
  else if ident = ascii "MESA7C81" then some "7C81"
  else none

/-- `spi_boards_scan`. -/
def spiBoardsScan (read : ℕ → ℕ → Option (List UInt8)) (boards : List BoardEntry) :
    Except Fault (List BoardEntry) := do
  initEntry boards
  match read hm2CookieReg 16 with
  | none => return boards
  | some buf =>
    if buf.take 12 ≠ spiCookie then return boards
    else
      match read (wordOf (buf.drop 12) + idromBoardName) 8 with
      | none => return boards
      | some ident =>
        match spiName ident with
        | none => return boards
        | some name => do
          let devAddr ← strcpyDevAddr (← access.givenAddress)
          return boards ++ [spiEntry access name devAddr]

end Spi

/-! ### Serial and Ethernet -/

section Lbp16

variable (access : BoardAccess)

/-- What boards with LBP16 have in common. -/
def lbp16Entry (type : BoardType) (name : CStr) (part : String) (devAddr : CStr) :
    BoardEntry :=
  { ((((BoardEntry.init type name access.verbose).withPart part).withRegisters
      type).withFlash .remoteFlash).withFunctions type with
    devAddr := devAddr.take devAddrSize
    reset := some .lbp16
    reload := some .lbp16
    flash := .remote
    fallbackSupport := 1 }

/-- `serial_boards_scan`. -/
def serialBoardsScan (info : List UInt8) (boards : List BoardEntry) :
    Except Fault (List BoardEntry) :=
  if (ascii "7I90HD").isPrefixOf info then do
    initEntry boards
    let addr ← access.givenAddress
    return boards ++ [lbp16Entry access .ser (cstr info) "6slx9tqg144" addr]
  else return boards

/-- An Ethernet board. -/
def ethEntry (name : CStr) (part : String) (fpgaType : FpgaType) (srcIp : CStr) : BoardEntry :=
  { (lbp16Entry access .eth name part srcIp).withBackup .remoteFlash with fpgaType := fpgaType }

/-- The names of the Ethernet boards, how much of a name is kept, the FPGA and its type. -/
def ethBoards : List (String × ℕ × String × FpgaType) := [
  ("7I80DB-16", 16, "6slx16ftg256", .xilinx),
  ("7I80DB-25", 16, "6slx25ftg256", .xilinx),
  ("7I80HD-16", 16, "6slx16ftg256", .xilinx),
  ("7I80HD-25", 16, "6slx25ftg256", .xilinx),
  ("7I80HDT", 16, "T20F256", .efinix),
  ("7I76E-16", 5, "6slx16ftg256", .xilinx),
  ("7I76EU", 16, "T20F256", .efinix),
  ("7I92", 16, "6slx9tqg144", .xilinx),
  ("7I92T", 16, "T20F256", .efinix),
  ("7I93", 16, "6slx9tqg144", .xilinx),
  ("7I94", 16, "6slx9tqg144", .xilinx),
  ("7I94T", 16, "T20F256", .efinix),
  ("7I95", 16, "6slx9tqg144", .xilinx),
  ("7I95T", 16, "T20F256", .efinix),
  ("7I96", 16, "6slx9tqg144", .xilinx),
  ("7I96S", 16, "T20F256", .efinix),
  ("7I97", 16, "6slx9tqg144", .xilinx),
  ("7I97T", 16, "T20F256", .efinix),
  ("7I98", 16, "6slx9tqg144", .xilinx)]

/-- The board of a name. -/
def ethNamed (name srcIp : CStr) : Option BoardEntry :=
  match ethBoards.find? fun row => ascii row.1 = name with
  | some (row, letters, part, fpgaType) =>
    some (ethEntry access ((ascii row).take letters) part fpgaType srcIp)
  | none =>
    if name.map toUpper = ascii "LITEHM2" then
      some (ethEntry access (ascii "LITEHM2") "6slx16ftg256" .xilinx srcIp)
    else none

/-- `eth_scan_one_addr`. -/
def ethScanOneAddr (devices : Devices) (boards : List BoardEntry) :
    Except Fault (ℤ × List BoardEntry) :=
  match devices.ethCookie with
  | none => .error (.undefined .indeterminate)
  | some (size, cookie) =>
    if 0 < size ∧ cookie = hm2Cookie then do
      initEntry boards
      match ethNamed access (cstr (devices.ethInfo.take 16)) devices.srcIp with
      | some b => return (0, boards ++ [b])
      | none => return (-1, boards)
    else return (-1, boards)

/-- `eth_boards_scan`.  The default address is valid, but it is not scanned. -/
def ethBoardsScan (devices : Devices) (boards : List BoardEntry) :
    Except Fault (ℤ × List BoardEntry) :=
  if access.address = 0 then return (-1, boards)
  else do
    let addr ← access.givenAddress
    if ¬ devices.inetPton addr then return (-1, boards)
    else if access.address = 1 then ethScanOneAddr access devices boards
    else return (-1, boards)

end Lbp16

/-! ### Finding boards -/

def boardAny : ℕ := 0
def boardMultiInterface : ℕ := 2 ^ 0
def boardEth : ℕ := 2 ^ 1
def boardPci : ℕ := 2 ^ 2
def boardEpp : ℕ := 2 ^ 3
def boardUsb : ℕ := 2 ^ 4
def boardSpi : ℕ := 2 ^ 5
def boardSer : ℕ := 2 ^ 6
def boardWildcard : ℕ := 2 ^ 30

/-- `supported_boards`. -/
def supportedBoards : List (String × ℕ) := [
  ("ETHER", boardEth ||| boardWildcard),
  ("SPI", boardSpi ||| boardWildcard),
  ("7I92", boardEth),
  ("7I92T", boardEth),
  ("7I93", boardEth),
  ("7I94", boardEth),
  ("7I94T", boardEth),
  ("7I95", boardEth),
  ("7I95T", boardEth),
  ("7I96", boardEth),
  ("7I96S", boardEth),
  ("7I97", boardEth),
  ("7I97T", boardEth),
  ("7I98", boardEth),
  ("7I80HD-16", boardEth),
  ("7I80HD-25", boardEth),
  ("7I80DB-16", boardEth),
  ("7I80DB-25", boardEth),
  ("7I80HDT", boardEth),
  ("7I76E", boardEth),
  ("7I76EU", boardEth),
  ("LITEHM2", boardEth),
  ("4I74", boardPci),
  ("5I24", boardPci),
  ("5I25", boardPci),
  ("6I24", boardPci),
  ("6I25", boardPci),
  ("5I20", boardPci),
  ("RECOVER", boardPci),
  ("4I65", boardPci),
  ("4I68", boardPci),
  ("5I21", boardPci),
  ("5I22", boardPci),
  ("5I23", boardPci),
  ("4I69", boardPci),
  ("3X20", boardPci),
  ("7C80", boardMultiInterface ||| boardEpp ||| boardSpi),
  ("7C81", boardMultiInterface ||| boardEpp ||| boardSpi),
  ("7I43", boardMultiInterface ||| boardEpp ||| boardUsb),
  ("7I90HD", boardMultiInterface ||| boardEpp ||| boardSpi ||| boardSer),
  ("7I64", boardMultiInterface ||| boardUsb ||| boardSpi),
  ("AUTO", boardMultiInterface ||| boardWildcard ||| boardUsb ||| boardEpp ||| boardSpi |||
    boardSer ||| boardPci)]

/-- The boards and the interfaces in use. -/
structure Registry where
  boards : List BoardEntry
  openIface : ℕ

/-- A process that has searched for nothing. -/
def Registry.empty : Registry := ⟨[], 0⟩

section Find

variable (access : BoardAccess) (devices : Devices)

/-- How `anyio_find_dev` goes on after a part of it. -/
abbrev Finds : Type := Except (Stop (ℤ × Registry)) Registry

/-- A scan, where `type` has the bit of an interface. -/
def scanIf (type bit : ℕ) (scan : List BoardEntry → Except Fault (List BoardEntry))
    (r : Registry) : Finds :=
  if type &&& bit ≠ 0 then do
    let boards ← call (scan r.boards)
    return ⟨boards, r.openIface ||| bit⟩
  else return r

/-- A scan of an interface that has to be initialised first. -/
def initScanIf (ready : Bool) (type bit : ℕ)
    (scan : List BoardEntry → Except Fault (List BoardEntry)) (r : Registry) : Finds := do
  exitIf (type &&& bit ≠ 0 ∧ ready = false) (-1, r)
  scanIf type bit scan r

/-- The scan for Ethernet boards.  Only when it is chosen by the name of the board does its
failure end the search. -/
def ethScanIf (type : ℕ) (named : Bool) (r : Registry) : Finds :=
  if type &&& boardEth ≠ 0 then do
    let (ret, boards) ← call (ethBoardsScan access devices r.boards)
    let r : Registry := ⟨boards, r.openIface ||| boardEth⟩
    exitIf (named ∧ ret < 0) (ret, r)
    return r
  else return r

/-- The scans of the interfaces in `type`. -/
def scanTypes (type : ℕ) (named : Bool) (r : Registry) : Finds := do
  let r ← ethScanIf access devices type named r
  let r ← initScanIf devices.pciInit type boardPci (pciBoardsScan access devices.pci) r
  let r ← initScanIf devices.eppInit type boardEpp (eppBoardsScan access devices.eppRead) r
  let r ← scanIf type boardUsb (usbBoardsScan access devices.usb) r
  let r ← scanIf type boardSpi (spiBoardsScan access devices.spiRead) r
  scanIf type boardSer (serialBoardsScan access devices.serialInfo) r

/-- The entry of `supported_boards` whose name the wanted name begins with. -/
def supportedBoard (name : CStr) : Option (String × ℕ) :=
  supportedBoards.find? fun row => (ascii row.1).isPrefixOf name

/-- `anyio_find_dev`. -/
def anyioFindDev (r : Registry) : Except Fault (ℤ × Registry) := body do
  let row ← orExit (supportedBoard access.deviceName) (-1, r)
  let r : Registry := ⟨r.boards, row.2 &&& boardWildcard⟩
  if access.type = boardAny then
    exitIf (row.2 &&& boardMultiInterface ≠ 0) (-1, r)
    let r ← scanTypes access devices row.2 true r
    return (0, r)
  else
    let r ← scanTypes access devices access.type false r
    return (0, r)

end Find

/-- The registries that calls of `anyio_find_dev` lead to. -/
inductive Registry.Reachable : Registry → Prop
  | empty : Registry.empty.Reachable
  | find {r r' : Registry} {access : BoardAccess} {devices : Devices} {ret : ℤ}
      (hr : r.Reachable) (h : anyioFindDev access devices r = .ok (ret, r')) : r'.Reachable

end Mesaflash
