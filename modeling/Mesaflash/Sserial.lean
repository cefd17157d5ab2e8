import Mesaflash.Hostmot2
import Mesaflash.Lbp16

/-!
Enumeration of the devices behind a smart serial interface.

The interface is a processor of the board, driven by the registers of a HostMot2 module.
It reads the memory of the remote device of a channel byte by byte.  A remote has a table
of records: descriptions of its data, and of its software modes, for each of which there
is another table.  Everything about these tables is chosen by the remote.

The texts that are printed are left out, but the elements of arrays that they need are not.
-/

namespace Mesaflash

open Lib

def hm2SserialMaxChannels : ℕ := 8

def hm2ModOffsSserialCmd : ℕ := 0x0000
def hm2ModOffsSserialData : ℕ := 0x0100
def hm2ModOffsSserialCs : ℕ := 0x0200
def hm2ModOffsSserialInterface0 : ℕ := 0x0300
def hm2ModOffsSserialInterface1 : ℕ := 0x0400
def hm2ModOffsSserialInterface2 : ℕ := 0x0500

def sslbpTypeLoc : ℕ := 0
def sslbpWidthLoc : ℕ := 1
def sslbpMajorRevLoc : ℕ := 2
def sslbpMinorRevLoc : ℕ := 3
def sslbpChannelStartLoc : ℕ := 4
def sslbpChannelStrideLoc : ℕ := 5
def sslbpProcessorTypeLoc : ℕ := 6
def sslbpNrChannelsLoc : ℕ := 7
def sslbpClockLoc : ℕ := 0x230

def sslbpStartSetup : ℕ := 0x0F00
def sslbpStop : ℕ := 0x0800
def sslbpDoit : ℕ := 0x1000
def sslbpRequest : ℕ := 0x2000
def sslbpReset : ℕ := 0x4000
def sslbpRead : ℕ := 0x0000

/-- `(1 << x) & 0xFF`. -/
def channelMask (x : ℕ) : ℕ := (1 <<< x) &&& 0xFF

def sslbpCmdStartSetupMode (x : ℕ) : ℕ := sslbpStartSetup ||| channelMask x
def sslbpCmdStop (x : ℕ) : ℕ := sslbpStop ||| channelMask x
def sslbpCmdStopall : ℕ := sslbpStop
def sslbpCmdReset : ℕ := sslbpReset
def sslbpCmdDoit (x : ℕ) : ℕ := sslbpDoit ||| channelMask x
def sslbpCmdRead (x : ℕ) : ℕ := sslbpRequest ||| sslbpRead ||| (x &&& 0x3FF)

def lbpAddr : ℕ := 0b00000100
def lbpAddrAutoInc : ℕ := 0b00001000
def lbpRead : ℕ := 0b00000000
def lbpCmdRw : ℕ := 0b01000000
def lbpCmdRead : ℕ := lbpCmdRw ||| lbpRead ||| lbpAddr
def lbpCmdReadNv : ℕ := 0xEC
def lbpNveepromByte : ℕ := 0x01

def lbpData : UInt8 := 0xA0
def lbpMode : UInt8 := 0xB0

def lbpUnsigned : ℕ := 0x02
def lbpNonvolUnsigned : ℕ := 0x04

def recordTypes : List String :=
  ["PADDING", "BITFIELD", "UNSIGNED", "SIGNED", "NV UNSIGNED", "NV SIGNED", "STREAM",
    "BOOLEAN", "ENCODER"]

def baudRates : List String :=
  ["9600b", "19200b", "38400b", "57600b", "115200b", "230400b", "460800b", "921600b",
    "1.25Mb", "2.5Mb", "5Mb", "10Mb"]

/-- `sserial_interface_t`. -/
structure SserialInterface where
  type : UInt8
  width : UInt8
  verMajor : UInt8
  verMinor : UInt8
  gpInputs : UInt8
  gpOutputs : UInt8
  processorType : UInt8
  channelsCount : UInt8
  baudRate : ℕ
  clock : ℕ

/-- `sw_mode_t`. -/
structure SwMode where
  index : ℕ
  name : CStr
deriving DecidableEq

/-- The number of elements of `sw_modes`. -/
def swModesMax : ℕ := 256

/-- The number of bytes of the `name` of a `sw_mode_t`. -/
def swModeNameSize : ℕ := 64

/-- `sserial_device_t`.  `sw_modes_cnt` is the length of the list. -/
structure SserialDevice where
  unit : ℕ
  swRevision : ℕ
  hwRevision : ℕ
  name : List UInt8
  swModes : List SwMode

/-- The state of the run.  `ssInterface` is `ss_interface[0]`. -/
structure SserialState (σ : Type) where
  regs : σ
  ssInterface : SserialInterface
  ssDevice : Fin hm2SserialMaxChannels → SserialDevice

/-- `sserial_module_t`. -/
structure SserialModule where
  baseAddress : ℕ
  instanceStride : ℕ

/-- A program of this module. -/
abbrev SserialM (σ α : Type) : Type := Prog Fault (SserialState σ) α

section Bus

variable {σ : Type} (bus : RegisterBus σ)

/-- `llio->read`. -/
def llioRead (addr : ℕ) : SserialM σ ℕ := fun s =>
  .ok ((bus.read addr s.regs).1, { s with regs := (bus.read addr s.regs).2 })

/-- `llio->write`. -/
def llioWrite (addr value : ℕ) : SserialM σ Unit := fun s =>
  .ok ((), { s with regs := bus.write addr value s.regs })

/-! ### Pins -/

/-- The variables of `enable_sserial_pins`. -/
structure PinScan where
  pin : ℕ
  chanCounts : Fin 8 → ℕ
  ddrReg : ℕ
  srcReg : ℕ

/-- The body of the inner loop of `enable_sserial_pins`.  A shift by 32 or more gives 0. -/
def scanPin (hm2 : Hostmot2) (x : PinScan) (portPin : ℕ) : SserialM σ PinScan := do
  let pin := u32 (x.pin + 1)
  let i ← elementOf hm2MaxPins pin
  let desc := hm2.pins i
  if desc.secTag = hm2GtagSserial then
    let chan ← elementOf 8 desc.secChan.toNat
    let secPin := (desc.secPin &&& 0x0F).toNat
    return {
      pin := pin
      chanCounts := if x.chanCounts chan < secPin then Function.update x.chanCounts chan secPin
        else x.chanCounts
      ddrReg := if desc.secPin &&& 0x80 ≠ 0 then x.ddrReg ||| u32 (1 <<< portPin) else x.ddrReg
      srcReg := x.srcReg ||| u32 (1 <<< portPin) }
  else return { x with pin := pin }

/-- The body of the outer loop of `enable_sserial_pins`. -/
def scanPort (hm2 : Hostmot2) (addr : ℕ) (x : PinScan) (port : ℕ) : SserialM σ PinScan := do
  let x ← (List.range hm2.idrom.portWidth).foldlM (scanPin hm2) { x with ddrReg := 0, srcReg := 0 }
  llioWrite bus (addr + hm2ModOffsGpioDdr + 4 * port) x.ddrReg
  llioWrite bus (addr + hm2ModOffsGpioAltSource + 4 * port) x.srcReg
  return x

/-- `enable_sserial_pins`. -/
def enableSserialPins (hm2 : Hostmot2) : SserialM σ Unit := do
  let md ← moduleAt (hm2FindModule hm2 hm2GtagIoport)
  let _ ← (List.range 2).foldlM (scanPort bus hm2 md.baseAddress.toNat)
    ⟨0xFFFFFFFF, fun _ => 0, 0, 0⟩

/-- `disable_sserial_pins`. -/
def disableSserialPins (hm2 : Hostmot2) : SserialM σ Unit := do
  let md ← moduleAt (hm2FindModule hm2 hm2GtagIoport)
  let addr := md.baseAddress.toNat
  [0, 1].forM fun port => do
    llioWrite bus (addr + hm2ModOffsGpioDdr + 4 * port) 0
    llioWrite bus (addr + hm2ModOffsGpioAltSource + 4 * port) 0

/-! ### Commands -/

variable (ssmod : SserialModule)

/-- `sslbp_send_local_cmd`. -/
def sslbpSendLocalCmd (interface cmd : ℕ) : SserialM σ Unit :=
  llioWrite bus (ssmod.baseAddress + hm2ModOffsSserialCmd + interface * 0x40) cmd

/-- `sslbp_read_local_cmd`. -/
def sslbpReadLocalCmd (interface : ℕ) : SserialM σ ℕ :=
  llioRead bus (ssmod.baseAddress + hm2ModOffsSserialCmd + interface * 0x40)

/-- `sslbp_read_data`. -/
def sslbpReadData (interface : ℕ) : SserialM σ UInt8 := do
  let data ← llioRead bus (ssmod.baseAddress + hm2ModOffsSserialData + interface * 0x40)
  return (data &&& 0xFF).toUInt8

/-- `sslbp_wait_complete`. -/
def sslbpWaitComplete (fuel interface : ℕ) : SserialM σ Unit :=
  loopM .hang (fun _ _ => do
    let cmd ← sslbpReadLocalCmd bus ssmod interface
    if cmd ≠ 0 then pure (.inl ()) else pure (.inr ())) fuel ()

/-- `sslbp_send_remote_cmd`. -/
def sslbpSendRemoteCmd (interface channel cmd : ℕ) : SserialM σ Unit :=
  llioWrite bus (ssmod.baseAddress + hm2ModOffsSserialCs + interface * 0x40 + channel * 4) cmd

/-- `sslbp_read_local8`. -/
def sslbpReadLocal8 (fuel interface addr : ℕ) : SserialM σ UInt8 := do
  sslbpSendLocalCmd bus ssmod interface (sslbpCmdRead addr)
  sslbpWaitComplete bus ssmod fuel interface
  sslbpReadData bus ssmod interface

/-- `sslbp_read_local32`. -/
def sslbpReadLocal32 (fuel interface addr : ℕ) : SserialM σ ℕ :=
  [3, 2, 1, 0].foldlM (fun ret byte => do
    let data ← sslbpReadLocal8 bus ssmod fuel interface (addr + byte)
    pure (u32 (ret <<< 8) ||| data.toNat)) 0

/-- `sslbp_read_remote8`. -/
def sslbpReadRemote8 (fuel interface channel addr : ℕ) : SserialM σ UInt8 := do
  sslbpSendRemoteCmd bus ssmod interface channel (((lbpCmdRead ||| lbpAddrAutoInc) <<< 24) ||| addr)
  sslbpSendLocalCmd bus ssmod interface (sslbpCmdDoit channel)
  sslbpWaitComplete bus ssmod fuel interface
  let data ← llioRead bus
    (ssmod.baseAddress + hm2ModOffsSserialInterface0 + interface * 0x40 + channel * 4)
  return (data &&& 0xFF).toUInt8

/-- `sslbp_read_remote16`. -/
def sslbpReadRemote16 (fuel interface channel addr : ℕ) : SserialM σ ℕ :=
  [1, 0].foldlM (fun ret byte => do
    let data ← sslbpReadRemote8 bus ssmod fuel interface channel (u32 (addr + byte))
    pure ((ret <<< 8 ||| data.toNat) % 0x10000)) 0

/-- `sslbp_read_remote32`. -/
def sslbpReadRemote32 (fuel interface channel addr : ℕ) : SserialM σ ℕ :=
  [3, 2, 1, 0].foldlM (fun ret byte => do
    let data ← sslbpReadRemote8 bus ssmod fuel interface channel (u32 (addr + byte))
    pure (u32 (ret <<< 8) ||| data.toNat)) 0

/-- What `sslbp_read_nv_remote16` and `sslbp_read_nv_remote32` do before they read, with
`LBP_NVEEPROM_BYTE`, and after it, with 0. -/
def selectNv (fuel interface channel nv : ℕ) : SserialM σ Unit := do
  llioWrite bus (ssmod.baseAddress + hm2ModOffsSserialCs + interface * 0x40 + channel * 4)
    (lbpCmdReadNv <<< 24)
  llioWrite bus (ssmod.baseAddress + hm2ModOffsSserialInterface0 + interface * 0x40 + channel * 4)
    nv
  sslbpSendLocalCmd bus ssmod interface (sslbpCmdDoit channel)
  sslbpWaitComplete bus ssmod fuel interface

/-- `sslbp_read_nv_remote16`. -/
def sslbpReadNvRemote16 (fuel interface channel addr : ℕ) : SserialM σ ℕ := do
  selectNv bus ssmod fuel interface channel lbpNveepromByte
  let data ← sslbpReadRemote16 bus ssmod fuel interface channel addr
  selectNv bus ssmod fuel interface channel 0
  return data

/-- `sslbp_read_nv_remote32`. -/
def sslbpReadNvRemote32 (fuel interface channel addr : ℕ) : SserialM σ ℕ := do
  selectNv bus ssmod fuel interface channel lbpNveepromByte
  let data ← sslbpReadRemote32 bus ssmod fuel interface channel addr
  selectNv bus ssmod fuel interface channel 0
  return data

/-- The variables of `sslbp_read_remote_bytes`, with the buffer as a `β`. -/
structure ByteCopy (β : Type) where
  addr : ℕ
  buffer : β
  size : ℤ

/-- The body of the loop of `sslbp_read_remote_bytes`, for a way to store a byte. -/
def copyByte {β : Type} (store : β → UInt8 → SserialM σ β) (fuel interface channel : ℕ)
    (x : ByteCopy β) : SserialM σ (ByteCopy β ⊕ β) := do
  if x.size = 0 then pure (.inr x.buffer)
  else do
    let data ← sslbpReadRemote8 bus ssmod fuel interface channel x.addr
    let buffer ← store x.buffer data
    let x : ByteCopy β := ⟨u32 (x.addr + 1), buffer, toInt (x.size - 1)⟩
    if x.size < 0 ∧ data = 0 then pure (.inr x.buffer) else pure (.inl x)

/-- A byte is stored behind the others in a buffer of `room` bytes. -/
def storeInRoom (room : ℕ) (buffer : List UInt8) (data : UInt8) : SserialM σ (List UInt8) := do
  let _ ← elementOf room buffer.length
  pure (buffer ++ [data])

/-- `sslbp_read_remote_bytes`, with a buffer of `room` bytes: the bytes stored there. -/
def sslbpReadRemoteBytes (fuel interface channel addr room : ℕ) (size : ℤ) :
    SserialM σ (List UInt8) :=
  loopM .hang (fun fuel x => copyByte bus ssmod (storeInRoom room) fuel interface channel x) fuel
    ⟨addr, [], size⟩

/-! ### Records -/

/-- `sserial_pdd_t`, as far as it decides what is done. -/
structure SserialPdd where
  dataSize : ℕ
  dataType : ℕ
  paramAddr : ℕ

/-- `sserial_md_t`, as far as it decides what is done. -/
structure SserialMd where
  modeIndex : ℕ
  modeType : ℕ

/-- `sizeof(sserial_pdd_t)`. -/
def sserialPddSize : ℕ := 14

/-- `sizeof(sserial_md_t)`. -/
def sserialMdSize : ℕ := 4

/-- The bytes of a `sserial_pdd_t`. -/
def pddOfBytes (bytes : List UInt8) : SserialPdd where
  dataSize := (bytes.getD 1 0).toNat
  dataType := (bytes.getD 2 0).toNat
  paramAddr := wordOf ((bytes.drop 12).take 2)

/-- The bytes of a `sserial_md_t`. -/
def mdOfBytes (bytes : List UInt8) : SserialMd where
  modeIndex := (bytes.getD 1 0).toNat
  modeType := (bytes.getD 2 0).toNat

/-- `sizeof(unit)` and `sizeof(name)`. -/
def textSize : ℕ := 48

/-- `strncmp(s, text, n) == 0` for a text of `n` characters. -/
def beginsWith (s : CStr) (text : String) : Bool := s.take (ascii text).length == ascii text

/-- The descriptor of a data record, its unit and its name. -/
def readDataRecord (fuel port channel d : ℕ) : SserialM σ (SserialPdd × CStr × CStr) := do
  let pdd ← sslbpReadRemoteBytes bus ssmod fuel port channel d sserialPddSize sserialPddSize
  let unit ← sslbpReadRemoteBytes bus ssmod fuel port channel (d + sserialPddSize) textSize (-1)
  let unit := cstr unit
  let name ← sslbpReadRemoteBytes bus ssmod fuel port channel
    (d + sserialPddSize + unit.length + 1) textSize (-1)
  return (pddOfBytes pdd, unit, cstr name)

/-- The descriptor of a mode record and its name. -/
def readModeRecord (fuel port channel d : ℕ) : SserialM σ (SserialMd × CStr) := do
  let md ← sslbpReadRemoteBytes bus ssmod fuel port channel d sserialMdSize sserialMdSize
  let name ← sslbpReadRemoteBytes bus ssmod fuel port channel (d + sserialMdSize) textSize (-1)
  return (mdOfBytes md, cstr name)

/-- A revision is read over the two bytes of the variable `d`. -/
def readRevision (fuel port channel d : ℕ) (pdd : SserialPdd) : SserialM σ ℕ := do
  let bytes ← sslbpReadRemoteBytes bus ssmod fuel port channel pdd.paramAddr 2
    (pdd.dataSize / 8 : ℕ)
  return wordOf (bytes ++ (word16 d).drop bytes.length)

/-- An element of a device changes. -/
def setDevice (i : Fin hm2SserialMaxChannels) (f : SserialDevice → SserialDevice) :
    SserialM σ Unit := fun s =>
  .ok ((), { s with ssDevice := Function.update s.ssDevice i (f (s.ssDevice i)) })

/-- The value of an unsigned parameter, read to be printed. -/
def readParameter (fuel port channel : ℕ) (pdd : SserialPdd) : SserialM σ Unit :=
  if pdd.dataType = lbpUnsigned ∨ pdd.dataType = lbpNonvolUnsigned then
    if pdd.dataSize = 16 then do
      let _ ← sslbpReadNvRemote16 bus ssmod fuel port channel pdd.paramAddr
    else if pdd.dataSize = 32 then do
      let _ ← sslbpReadNvRemote32 bus ssmod fuel port channel pdd.paramAddr
    else pure ()
  else pure ()

/-- A record of the type `LBP_DATA` in the first table. -/
def dataRecord (verbose : Bool) (fuel port channel : ℕ) (i : Fin hm2SserialMaxChannels)
    (d : ℕ) : SserialM σ Unit := do
  let (pdd, unit, name) ← readDataRecord bus ssmod fuel port channel d
  if beginsWith name "SwRevision" then do
    let d ← readRevision bus ssmod fuel port channel d pdd
    setDevice i fun dev => { dev with swRevision := d }
  else if beginsWith name "HwRevision" then do
    let d ← readRevision bus ssmod fuel port channel d pdd
    setDevice i fun dev => { dev with hwRevision := d }
  else if beginsWith name "NVBaudRate" then do
    let d ← sslbpReadNvRemote16 bus ssmod fuel port channel pdd.paramAddr
    let _ ← elementOf baudRates.length d
  else if beginsWith name "NVUnitNumber" then do
    let _ ← sslbpReadNvRemote32 bus ssmod fuel port channel pdd.paramAddr
  else if beginsWith name "NVWatchDogTimeout" then do
    let _ ← sslbpReadNvRemote16 bus ssmod fuel port channel pdd.paramAddr
  else if (beginsWith name "NV" ∨ (pdd.dataType = lbpUnsigned ∧ beginsWith unit "None")) ∧
      verbose then do
    readParameter bus ssmod fuel port channel pdd
    let _ ← elementOf recordTypes.length pdd.dataType
  else pure ()

/-- A record of the type `LBP_MODE` in the first table. -/
def modeRecord (fuel port channel : ℕ) (i : Fin hm2SserialMaxChannels) (d : ℕ) :
    SserialM σ Unit := do
  let (md, name) ← readModeRecord bus ssmod fuel port channel d
  if md.modeType = 0x01 then
    if swModeNameSize < name.length + 1 then throw .abort
    else do
      let s ← get
      let _ ← elementOf swModesMax (s.ssDevice i).swModes.length
      setDevice i fun dev => { dev with swModes := dev.swModes ++ [⟨md.modeIndex, name⟩] }
  else pure ()

/-- The body of the loop over the first table. -/
def recordRound (verbose : Bool) (fuel port channel : ℕ) (i : Fin hm2SserialMaxChannels)
    (addr : ℕ) : SserialM σ (ℕ ⊕ Unit) := do
  let d ← sslbpReadRemote16 bus ssmod fuel port channel addr
  if d = 0 then pure (.inr ())
  else do
    let recordType ← sslbpReadRemote8 bus ssmod fuel port channel d
    (if recordType = lbpData then dataRecord bus ssmod verbose fuel port channel i d
      else if recordType = lbpMode then modeRecord bus ssmod fuel port channel i d
      else pure ())
    pure (.inl (u32 (addr + 2)))

/-- A record of the type `LBP_DATA` in the table of a software mode. -/
def modeDataRecord (verbose : Bool) (fuel port channel d : ℕ) : SserialM σ Unit := do
  let (pdd, _, _) ← readDataRecord bus ssmod fuel port channel d
  if verbose then do
    let _ ← elementOf recordTypes.length pdd.dataType
  else pure ()

/-- The body of the loop over the table of a software mode. -/
def modeRound (verbose : Bool) (fuel port channel addr : ℕ) : SserialM σ (ℕ ⊕ Unit) := do
  let d ← sslbpReadRemote16 bus ssmod fuel port channel addr
  if d = 0 then pure (.inr ())
  else do
    let recordType ← sslbpReadRemote8 bus ssmod fuel port channel d
    (if recordType = lbpData then modeDataRecord bus ssmod verbose fuel port channel d
      else if recordType = lbpMode then do
        let _ ← readModeRecord bus ssmod fuel port channel d
      else pure ())
    pure (.inl (u32 (addr + 2)))

/-! ### Channels -/

/-- A channel is started in a setup mode, with a word in its `CS` register. -/
def startSetup (fuel port channel cmd : ℕ) : SserialM σ UInt8 := do
  llioWrite bus (ssmod.baseAddress + hm2ModOffsSserialCs + port * 0x40 + channel * 4) cmd
  sslbpSendLocalCmd bus ssmod port (sslbpCmdStartSetupMode channel)
  sslbpWaitComplete bus ssmod fuel port
  sslbpReadData bus ssmod port

/-- A software mode is started.  The result says whether it was. -/
def modeStart (fuel port channel : ℕ) (swMode : SwMode) : SserialM σ Bool := do
  sslbpSendLocalCmd bus ssmod port (sslbpCmdStop channel)
  sslbpWaitComplete bus ssmod fuel port
  let data ← startSetup bus ssmod fuel port channel (u32 (swMode.index <<< 24))
  pure (decide (data = 0))

/-- The table of a software mode is read. -/
def modeRecords (verbose : Bool) (fuel port channel : ℕ) : SserialM σ Unit := do
  -- the base address of the module is missing here
  let status ← llioRead bus (hm2ModOffsSserialInterface2 + port * 0x40 + channel * 4)
  loopM .hang (fun fuel addr => modeRound bus ssmod verbose fuel port channel addr) fuel
    (status &&& 0xFFFF)

/-- The body of the loop over the software modes. -/
def softwareMode (verbose : Bool) (fuel port channel : ℕ) (swMode : SwMode) :
    SserialM σ Unit := do
  let started ← modeStart bus ssmod fuel port channel swMode
  if started then modeRecords bus ssmod verbose fuel port channel else pure ()

/-- A channel is started, and its first table read.  The result is its device, if there is
one. -/
def channelStart (verbose : Bool) (fuel port channel : ℕ) :
    SserialM σ (Option (Fin hm2SserialMaxChannels)) := do
  let data ← startSetup bus ssmod fuel port channel 0
  if data ≠ 0 then pure none
  else do
    let _ ← llioRead bus (ssmod.baseAddress + hm2ModOffsSserialCs + port * 0x40 + channel * 4)
    let unit ← llioRead bus
      (ssmod.baseAddress + hm2ModOffsSserialInterface0 + port * 0x40 + channel * 4)
    let i ← elementOf hm2SserialMaxChannels channel
    setDevice i fun dev => { dev with unit := unit }
    let name ← llioRead bus
      (ssmod.baseAddress + hm2ModOffsSserialInterface1 + port * 0x40 + channel * 4)
    setDevice i fun dev => { dev with name := word32 name }
    let status ← llioRead bus
      (ssmod.baseAddress + hm2ModOffsSserialInterface2 + port * 0x40 + channel * 4)
    loopM .hang (fun fuel addr => recordRound bus ssmod verbose fuel port channel i addr) fuel
      ((status >>> 16) &&& 0xFFFF)
    pure (some i)

/-- The loop over the software modes that were found on a channel. -/
def deviceModes (verbose : Bool) (fuel port channel : ℕ) (i : Fin hm2SserialMaxChannels) :
    SserialM σ Unit := do
  let s ← get
  (s.ssDevice i).swModes.forM (softwareMode bus ssmod verbose fuel port channel)

/-- The body of the loop over the channels. -/
def channelRound (verbose : Bool) (fuel port channel : ℕ) : SserialM σ Unit := do
  match ← channelStart bus ssmod verbose fuel port channel with
  | some i => deviceModes bus ssmod verbose fuel port channel i
  | none => pure ()

/-- The body of the loop over the ports: what is read of the interface. -/
def readInterface (fuel port : ℕ) : SserialM σ SserialInterface := do
  let type ← sslbpReadLocal8 bus ssmod fuel port sslbpTypeLoc
  let width ← sslbpReadLocal8 bus ssmod fuel port sslbpWidthLoc
  let verMajor ← sslbpReadLocal8 bus ssmod fuel port sslbpMajorRevLoc
  let verMinor ← sslbpReadLocal8 bus ssmod fuel port sslbpMinorRevLoc
  let gpInputs ← sslbpReadLocal8 bus ssmod fuel port sslbpChannelStartLoc
  let gpOutputs ← sslbpReadLocal8 bus ssmod fuel port sslbpChannelStrideLoc
  let processorType ← sslbpReadLocal8 bus ssmod fuel port sslbpProcessorTypeLoc
  let channelsCount ← sslbpReadLocal8 bus ssmod fuel port sslbpNrChannelsLoc
  let baudRate ← sslbpReadLocal32 bus ssmod fuel port (gpInputs.toNat + 42)
  let clock ← sslbpReadLocal32 bus ssmod fuel port sslbpClockLoc
  return { type, width, verMajor, verMinor, gpInputs, gpOutputs, processorType, channelsCount,
           baudRate, clock }

/-- An interface is reset, and read.  The result is the number of its channels. -/
def portStart (fuel port : ℕ) : SserialM σ ℕ := do
  sslbpSendLocalCmd bus ssmod port (sslbpCmdStopall ||| sslbpCmdReset)
  sslbpSendLocalCmd bus ssmod port sslbpCmdStopall
  sslbpWaitComplete bus ssmod fuel port
  let interface ← readInterface bus ssmod fuel port
  modify fun s => { s with ssInterface := interface }
  pure interface.width.toNat

/-- The body of the loop over the ports. -/
def portRound (verbose : Bool) (fuel port : ℕ) : SserialM σ Unit := do
  let width ← portStart bus ssmod fuel port
  (List.range width).forM (channelRound bus ssmod verbose fuel port)

end Bus

/-- `sserial_module_init`. -/
def sserialModuleInit {σ : Type} (bus : RegisterBus σ) (hm2 : Hostmot2) (verbose : Bool)
    (fuel : ℕ) : SserialM σ Unit := do
  match hm2FindModule hm2 hm2GtagSserial with
  | none => pure ()
  | some md => do
    let ssmod : SserialModule := {
      baseAddress := md.baseAddress.toNat
      instanceStride := if md.strides &&& 0xF0 = 0 then hm2.idrom.instanceStride0
        else hm2.idrom.instanceStride1 }
    enableSserialPins bus hm2
    [0].forM (portRound bus ssmod verbose fuel)
    disableSserialPins bus hm2

end Mesaflash
