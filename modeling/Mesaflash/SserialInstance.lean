import Mesaflash.Sserial

/-!
One remote device behind a smart serial interface.

`sserial_init` resets an interface, starts the remote of one of its channels and checks that it
is of the wanted type, and `sserial_write` exchanges data with it.  The registers of a channel
are found by the stride of the module or by the literal `0x40`, and some commands are sent to
interface 0 whatever the interface is.
-/

namespace Mesaflash

open Lib

def hm2SserialMaxInterfaces : ℕ := 4

def sslbpStartNormal : ℕ := 0x0900

def sslbpCmdStartNormalMode (x : ℕ) : ℕ := sslbpStartNormal ||| channelMask x

/-- `sserial_module_t`, without the board. -/
structure SserialInstance extends SserialModule where
  interfaceNum : ℕ
  channelNum : ℕ
  data : ℕ
  cs : ℕ
  interface0 : ℕ
  interface1 : ℕ
  interface2 : ℕ
  interface : SserialInterface
  device : SserialDevice

namespace SserialInstance

/-- What `sserial_init` stores before it uses a register. -/
def start (hm2 : Hostmot2) (md : ModuleDesc) (interfaceNum channelNum : ℕ) : SserialInstance where
  baseAddress := md.baseAddress.toNat
  instanceStride := if md.strides &&& 0xF0 = 0 then hm2.idrom.instanceStride0
    else hm2.idrom.instanceStride1
  interfaceNum := interfaceNum
  channelNum := channelNum
  data := 0
  cs := 0
  interface0 := 0
  interface1 := 0
  interface2 := 0
  interface := ⟨0, 0, 0, 0, 0, 0, 0, 0, 0, 0⟩
  device := ⟨0, 0, 0, [], []⟩

/-- The address of a register of the channel. -/
def register (ssmod : SserialInstance) (offs : ℕ) : ℕ :=
  ssmod.baseAddress + offs + ssmod.interfaceNum * ssmod.instanceStride + ssmod.channelNum * 4

end SserialInstance

section Functions

variable {σ : Type} (bus : RegisterBus σ)

/-- The end of `sserial_init`: the remote is started.  The registers are those of interface 0. -/
def startNormal (fuel : ℕ) (ssmod : SserialInstance) : SserialM σ (ℤ × SserialInstance) := do
  sslbpSendLocalCmd bus ssmod.toSserialModule 0 sslbpCmdStopall
  sslbpWaitComplete bus ssmod.toSserialModule fuel 0
  llioWrite bus (ssmod.baseAddress + hm2ModOffsSserialCs + ssmod.channelNum * 4) 0
  sslbpSendLocalCmd bus ssmod.toSserialModule 0 (sslbpCmdStartNormalMode ssmod.channelNum)
  sslbpWaitComplete bus ssmod.toSserialModule fuel 0
  let status ← llioRead bus
    (ssmod.baseAddress + hm2ModOffsSserialData + ssmod.channelNum * 4)
  if status ≠ 0 then return (-1, ssmod)
  else return (0, ssmod)

/-- `sserial_init` with a remote that was started in its setup mode. -/
def checkRemote (fuel : ℕ) (ssmod : SserialInstance) (remoteType : ℕ) :
    SserialM σ (ℤ × SserialInstance) := do
  let _ ← llioRead bus (ssmod.register hm2ModOffsSserialCs)
  let status ← llioRead bus (ssmod.register hm2ModOffsSserialInterface0)
  if status &&& 0xFF000000 ≠ remoteType then return (-1, ssmod)
  else do
    let name ← llioRead bus (ssmod.register hm2ModOffsSserialInterface1)
    let _ ← llioRead bus (ssmod.register hm2ModOffsSserialInterface2)
    startNormal bus fuel
      { ssmod with device := { ssmod.device with unit := status, name := word32 name } }

/-- `sserial_init` with pins that are enabled. -/
def startRemote (fuel : ℕ) (ssmod : SserialInstance) (remoteType : ℕ) :
    SserialM σ (ℤ × SserialInstance) := do
  sslbpSendLocalCmd bus ssmod.toSserialModule ssmod.interfaceNum
    (sslbpCmdStopall ||| sslbpCmdReset)
  sslbpSendLocalCmd bus ssmod.toSserialModule ssmod.interfaceNum sslbpCmdStopall
  sslbpWaitComplete bus ssmod.toSserialModule fuel ssmod.interfaceNum
  let interface ← readInterface bus ssmod.toSserialModule fuel ssmod.interfaceNum
  let ssmod := { ssmod with interface := interface }
  llioWrite bus (ssmod.register hm2ModOffsSserialCs) 0
  sslbpSendLocalCmd bus ssmod.toSserialModule ssmod.interfaceNum
    (sslbpCmdStartSetupMode ssmod.channelNum)
  sslbpWaitComplete bus ssmod.toSserialModule fuel ssmod.interfaceNum
  let data ← sslbpReadData bus ssmod.toSserialModule ssmod.interfaceNum
  if data ≠ 0 then return (-1, ssmod)
  else checkRemote bus fuel ssmod remoteType

/-- `sserial_init`, for numbers that are not negative. -/
def sserialInit (hm2 : Hostmot2) (fuel : ℕ) (ssmod : SserialInstance)
    (interfaceNum channelNum remoteType : ℕ) : SserialM σ (ℤ × SserialInstance) := do
  match hm2FindModule hm2 hm2GtagSserial with
  | none => return (-1, ssmod)
  | some md =>
    if hm2SserialMaxInterfaces ≤ interfaceNum then return (-1, ssmod)
    else if hm2SserialMaxChannels ≤ channelNum then return (-1, ssmod)
    else do
      enableSserialPins bus hm2
      startRemote bus fuel (SserialInstance.start hm2 md interfaceNum channelNum) remoteType

/-- `sserial_write`.  It returns 0.  The command goes to interface 0 and channel 1. -/
def sserialWrite (fuel : ℕ) (ssmod : SserialInstance) : SserialM σ SserialInstance := do
  llioWrite bus (ssmod.register hm2ModOffsSserialInterface0) ssmod.interface0
  llioWrite bus (ssmod.register hm2ModOffsSserialInterface1) ssmod.interface1
  llioWrite bus (ssmod.register hm2ModOffsSserialInterface2) ssmod.interface2
  sslbpSendLocalCmd bus ssmod.toSserialModule 0 (sslbpCmdDoit 1)
  sslbpWaitComplete bus ssmod.toSserialModule fuel 0
  let data ← llioRead bus (ssmod.register hm2ModOffsSserialData)
  let cs ← llioRead bus (ssmod.register hm2ModOffsSserialCs)
  return { ssmod with data := data, cs := cs }

end Functions

end Mesaflash
