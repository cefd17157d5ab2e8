import Mesaflash.Eeprom
import Mesaflash.Lib.Spi

/-!
Flash memories on an SPI bus.

The functions of `eeprom_local.c` for pages and sectors send commands to a serial flash
memory, byte by byte.  How a byte is sent depends on the board; an `SpiAccess` holds the
functions for it.  `spiBytes` is the access by a controller that exchanges whole bytes.
`gpioAccess` is the access to the 6I25 in recover mode, where the host moves every line
of the bus itself, by writes to the GPIO register of the XIO2001 bridge.
-/

namespace Mesaflash

open Lib

/-! ### Commands -/

def spiCmdPageWrite : UInt8 := 0x02
def spiCmdRead : UInt8 := 0x03
def spiCmdReadStatus : UInt8 := 0x05
def spiCmdWriteEnable : UInt8 := 0x06
def spiCmdSectorErase : UInt8 := 0xD8
def writeInProgressMask : UInt8 := 0x01

/-- The functions in `eeprom_access` that exchange bytes with the flash memory. -/
structure SpiAccess (τ : Type) where
  spiPrefix : τ → τ
  spiSuffix : τ → τ
  sendByte : UInt8 → τ → τ
  recvByte : τ → UInt8 × τ

section Pages

variable {τ : Type} (acc : SpiAccess τ)

/-- `send_address`. -/
def sendAddress (addr : ℕ) (s : τ) : τ :=
  let s := acc.sendByte ((addr >>> 16) &&& 0xFF).toUInt8 s
  let s := acc.sendByte ((addr >>> 8) &&& 0xFF).toUInt8 s
  acc.sendByte (addr &&& 0xFF).toUInt8 s

/-- `write_enable`. -/
def writeEnable (s : τ) : τ :=
  acc.spiSuffix (acc.sendByte spiCmdWriteEnable (acc.spiPrefix s))

/-- `read_status`. -/
def readStatus (s : τ) : UInt8 × τ :=
  let (ret, s) := acc.recvByte (acc.sendByte spiCmdReadStatus (acc.spiPrefix s))
  (ret, acc.spiSuffix s)

/-- `wait_for_write`, for at most `fuel` rounds. -/
def waitForWrite (fuel : ℕ) (s : τ) : Except Fault τ := do
  let (_, s) ← whileM .hang (fun s : UInt8 × τ => s.1 &&& writeInProgressMask ≠ 0)
    (fun s => .ok (readStatus acc s.2)) fuel (readStatus acc s)
  return s

/-- A loop that sends bytes. -/
def sendBytes (bytes : List UInt8) (s : τ) : τ := bytes.foldl (fun s b => acc.sendByte b s) s

/-- A loop that receives `n` bytes. -/
def recvBytes : ℕ → τ → List UInt8 × τ
  | 0, s => ([], s)
  | n + 1, s =>
    let byte := acc.recvByte s
    let bytes := recvBytes n byte.2
    (byte.1 :: bytes.1, bytes.2)

/-- `read_page`. -/
def readPage (addr : ℕ) (s : τ) : PageBuf × τ :=
  let s := acc.sendByte spiCmdRead (acc.spiPrefix s)
  let buff := recvBytes acc pageSize (sendAddress acc addr s)
  (fun i => buff.1.getD i 0, acc.spiSuffix buff.2)

/-- `write_page`. -/
def writePage (fuel addr : ℕ) (page : PageBuf) (s : τ) : Except Fault τ :=
  let s := acc.spiPrefix (writeEnable acc s)
  let s := sendAddress acc addr (acc.sendByte spiCmdPageWrite s)
  waitForWrite acc fuel (acc.spiSuffix (sendBytes acc (List.ofFn page) s))

/-- `erase_sector`. -/
def eraseSector (fuel addr : ℕ) (s : τ) : Except Fault τ :=
  let s := acc.spiPrefix (writeEnable acc s)
  let s := sendAddress acc addr (acc.sendByte spiCmdSectorErase s)
  waitForWrite acc fuel (acc.spiSuffix s)

/-- The access functions that `open_spi_access_local` sets. -/
def localAccess (fuel : ℕ) : SpiEepromDev τ where
  readPage addr s := .ok (readPage acc addr s)
  writePage := writePage acc fuel
  eraseSector := eraseSector acc fuel

end Pages

/-! ### Whole bytes -/

/-- Access by a controller that exchanges bytes.  To receive a byte it sends 0. -/
def spiBytes {σ : Type} (D : SpiSlave σ) : SpiAccess σ where
  spiPrefix := D.select
  spiSuffix := D.deselect
  sendByte := D.exchange
  recvByte d := (D.out d, D.exchange 0 d)

/-! ### Single bits -/

/-- The GPIO register of the bridge and what hangs on its pins. -/
structure GpioBus (σ : Type) where
  /-- `GPIO_reg_val`. -/
  gpioRegVal : BitVec 16
  /-- The value last written to the register. -/
  reg : BitVec 16
  wire : SpiWire σ

/-- The levels of the pins that are outputs. -/
def pinsOf (v : BitVec 16) : SpiPins := ⟨v.getLsbD 1, v.getLsbD 3, v.getLsbD 4⟩

def dataMask : ℕ := 0x80
def cmdLen : ℕ := 8
def dataLen : ℕ := 8

section Gpio

variable {σ : Type} (D : SpiSlave σ)

/-- `pci_write_word` to the GPIO register. -/
def pciWriteWord (v : BitVec 16) (s : GpioBus σ) : GpioBus σ :=
  { s with reg := v, wire := s.wire.drive D (pinsOf v) }

/-- `pci_read_word` of the GPIO register. -/
def pciReadWord (s : GpioBus σ) : BitVec 16 :=
  if s.wire.dout then s.reg ||| 0x4 else s.reg &&& ~~~0x4

/-- `GPIO_reg_val` gets a new value, which is written to the register. -/
def writeGpio (v : BitVec 16) (s : GpioBus σ) : GpioBus σ :=
  pciWriteWord D v { s with gpioRegVal := v }

def setCsHighGpio (s : GpioBus σ) : GpioBus σ := writeGpio D (s.gpioRegVal ||| 0x2) s

def setCsLowGpio (s : GpioBus σ) : GpioBus σ := writeGpio D (s.gpioRegVal &&& ~~~0x2) s

def setDinHighGpio (s : GpioBus σ) : GpioBus σ := writeGpio D (s.gpioRegVal ||| 0x8) s

def setDinLowGpio (s : GpioBus σ) : GpioBus σ := writeGpio D (s.gpioRegVal &&& ~~~0x8) s

def setClockHighGpio (s : GpioBus σ) : GpioBus σ := writeGpio D (s.gpioRegVal ||| 0x10) s

def setClockLowGpio (s : GpioBus σ) : GpioBus σ := writeGpio D (s.gpioRegVal &&& ~~~0x10) s

/-- `get_bit_gpio`. -/
def getBitGpio (s : GpioBus σ) : ℕ := if pciReadWord s &&& 0x4 ≠ 0 then 1 else 0

/-- `prefix_gpio`. -/
def prefixGpio (s : GpioBus σ) : GpioBus σ :=
  setCsLowGpio D (setClockLowGpio D (setDinLowGpio D (setCsHighGpio D s)))

/-- `suffix_gpio`. -/
def suffixGpio (s : GpioBus σ) : GpioBus σ := setDinLowGpio D (setCsHighGpio D s)

/-- The writes of `init_gpio` to the data register; before them, it makes the pins
outputs. -/
def initGpio (s : GpioBus σ) : GpioBus σ := writeGpio D 0x0003 s

/-- One round of the loop of `send_byte_gpio`: the mask, and the bus. -/
def sendBitGpio (byte : UInt8) (s : ℕ × GpioBus σ) : ℕ × GpioBus σ :=
  let bus := if s.1 &&& byte.toNat = 0 then setDinLowGpio D s.2 else setDinHighGpio D s.2
  (s.1 >>> 1, setClockLowGpio D (setClockHighGpio D bus))

/-- `send_byte_gpio`. -/
def sendByteGpio (byte : UInt8) (s : GpioBus σ) : GpioBus σ :=
  ((sendBitGpio D byte)^[cmdLen] (dataMask, s)).2

/-- One round of the loop of `recv_byte_gpio`: the mask, the data, and the bus. -/
def recvBitGpio (s : ℕ × ℕ × GpioBus σ) : ℕ × ℕ × GpioBus σ :=
  let data := if getBitGpio s.2.2 = 1 then s.2.1 ||| s.1 else s.2.1
  (s.1 >>> 1, data, setClockLowGpio D (setClockHighGpio D s.2.2))

/-- `recv_byte_gpio`. -/
def recvByteGpio (s : GpioBus σ) : UInt8 × GpioBus σ :=
  let s := (recvBitGpio D)^[dataLen] (dataMask, 0, s)
  (s.2.1.toUInt8, s.2.2)

/-- Access by the pins of the bridge. -/
def gpioAccess : SpiAccess (GpioBus σ) where
  spiPrefix := prefixGpio D
  spiSuffix := suffixGpio D
  sendByte := sendByteGpio D
  recvByte := recvByteGpio D

end Gpio

end Mesaflash
