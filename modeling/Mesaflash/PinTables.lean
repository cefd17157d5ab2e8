import Mesaflash.PinRegisters

/-!
The names of the modules of the firmware, and of the functions of their pins.

The names are in tables of 255 entries, most of which are empty: they have tag 0 and no names.
The entry of a module has 32 places for names, most have 10 of them filled, and the rest is
null pointers.
-/

namespace Mesaflash

open Lib

/-! ### Tags -/

def hm2GtagIrqLogic : UInt8 := 0x01
def hm2GtagWatchdog : UInt8 := 0x02
def hm2GtagEncoder : UInt8 := 0x04
def hm2GtagStepgen : UInt8 := 0x05
def hm2GtagPwmgen : UInt8 := 0x06
def hm2GtagSpi : UInt8 := 0x07
def hm2GtagSsi : UInt8 := 0x08
def hm2GtagUartTx : UInt8 := 0x09
def hm2GtagUartRx : UInt8 := 0x0A
def hm2GtagTram : UInt8 := 0x0B
def hm2GtagMuxedEncoder : UInt8 := 0x0C
def hm2GtagBspi : UInt8 := 0x0E
def hm2GtagDbspi : UInt8 := 0x0F
def hm2GtagDpll : UInt8 := 0x10
def hm2GtagMuxedEncoderMim : UInt8 := 0x11
def hm2GtagMuxedEncoderSelMim : UInt8 := 0x12
def hm2GtagTppwm : UInt8 := 0x13
def hm2GtagWavegen : UInt8 := 0x14
def hm2GtagDaqFifo : UInt8 := 0x15
def hm2GtagBinOsc : UInt8 := 0x16
def hm2GtagBinDmdma : UInt8 := 0x17
def hm2GtagBiss : UInt8 := 0x18
def hm2GtagHm2dpll : UInt8 := 0x1A
def hm2GtagPktuartTx : UInt8 := 0x1B
def hm2GtagPktuartRx : UInt8 := 0x1C
def hm2GtagInmux : UInt8 := 0x1E
def hm2GtagSigma5 : UInt8 := 0x1F
def hm2GtagInm : UInt8 := 0x23
def hm2GtagDpainter : UInt8 := 0x2A
def hm2GtagXymod : UInt8 := 0x2B
def hm2GtagRcpwmgen : UInt8 := 0x2C
def hm2GtagOutm : UInt8 := 0x2D
def hm2GtagLioport : UInt8 := 0x40
def hm2GtagLed : UInt8 := 0x80
def hm2GtagResolver : UInt8 := 0xC0
def hm2GtagTwiddler : UInt8 := 0xC2
def hm2GtagSsr : UInt8 := 0xC3
def hm2GtagSserialb : UInt8 := 0xC6
def hm2GtagOneshot : UInt8 := 0xC7
def hm2GtagPeriod : UInt8 := 0xC8
def hm2GtagBspid : UInt8 := 0xC9

def hm2MaxTags : ℕ := 255

/-! ### Names of functions -/

/-- The number of places for names in an entry. -/
def namesPerTag : ℕ := 32

/-- A string of an array of names.  Behind the names are null pointers. -/
def tableName (names : List CStr) (i : ℤ) : Except Fault CStr :=
  if i < 0 then .error (.undefined .indexUnderflow)
  else if namesPerTag ≤ i then .error (.undefined .outOfBounds)
  else match names[i.toNat]? with
    | some name => .ok name
    | none => .error (.undefined .nullString)

lemma tableName_natCast {names : List CStr} (hlength : names.length ≤ namesPerTag) (k : ℕ) :
    tableName names k = if k < names.length then .ok (names[k]?.getD [])
      else if namesPerTag ≤ k then .error (.undefined .outOfBounds)
      else .error (.undefined .nullString) := by
  rw [tableName, if_neg (by omega), Int.toNat_natCast]
  by_cases hk : k < names.length
  · rw [if_neg (by omega), if_pos hk, List.getElem?_eq_getElem hk]
    rfl
  · rw [if_neg hk, List.getElem?_eq_none (Nat.le_of_not_lt hk)]
    by_cases hbound : namesPerTag ≤ k
    · rw [if_pos (by omega), if_pos hbound]
    · rw [if_neg (by omega), if_neg hbound]

/-- `pin_name_t`. -/
structure PinName where
  tag : UInt8
  names : List CStr

/-- The first of ten names; the others say that there is none. -/
def nulled (names : List String) : List CStr :=
  (names ++ ["Null1", "Null2", "Null3", "Null4", "Null5", "Null6", "Null7", "Null8", "Null9",
    "Null10"].drop names.length).map ascii

/-- `pin_names`. -/
def pinNames : List PinName := [
  ⟨hm2GtagNone, nulled []⟩,
  ⟨hm2GtagIrqLogic, nulled []⟩,
  ⟨hm2GtagWatchdog, nulled []⟩,
  ⟨hm2GtagIoport, nulled []⟩,
  ⟨hm2GtagEncoder, nulled ["Quad-A", "Quad-B", "Quad-IDX", "Quad-IDXM", "Quad-Probe",
    "Shared-IDX"]⟩,
  ⟨hm2GtagMuxedEncoder, nulled ["MuxQ-A", "MuxQ-B", "MuxQ-IDX", "MuxQ-IDXM", "Quad-ProbeM",
    "Shared-IDX"]⟩,
  ⟨hm2GtagMuxedEncoderSel, nulled ["MuxSel0", "MuxSel1"]⟩,
  ⟨hm2GtagMuxedEncoderMim, nulled ["MuxQ-A", "MuxQ-B", "MuxQ-IDX", "MuxQ-IDXM", "Quad-ProbeM",
    "Shared-IDX"]⟩,
  ⟨hm2GtagMuxedEncoderSelMim, nulled ["MuxSel0", "MuxSel1"]⟩,
  ⟨hm2GtagStepgen, nulled ["Step/Table1", "Dir/Table2", "Table3", "Table4", "Table5", "Table6",
    "Table7", "Table8", "Index", "Probe"]⟩,
  ⟨hm2GtagPwmgen, nulled ["PWM", "Dir", "/Enable"]⟩,
  ⟨hm2GtagRcpwmgen, nulled ["PWM"]⟩,
  ⟨hm2GtagTppwm, nulled ["PWMA", "PWMB", "PWMC", "NPWMA", "NPWMB", "NPWMC", "/ENA", "FAULT"]⟩,
  ⟨hm2GtagWavegen, nulled ["PDMA", "PDMB", "Trig0", "Trig1", "Trig2", "Trig3"]⟩,
  ⟨hm2GtagDaqFifo, nulled ["Data", "Strobe", "Full"]⟩,
  ⟨hm2GtagBinOsc, nulled ["OscOut"]⟩,
  ⟨hm2GtagBinDmdma, nulled []⟩,
  ⟨hm2GtagResolver, nulled ["PwrEn", "PDMP", "PDMM", "ADChan0", "ADChan1", "ADChan2", "SPICS",
    "SPIClk", "SPIDI0", "SPIDI1"]⟩,
  ⟨hm2GtagSserial, nulled ["RXData", "TXData", "TXEn", "TestPin"]⟩,
  ⟨hm2GtagSserialb, nulled ["RXData", "TXData", "TXEn", "TestPin"]⟩,
  ⟨hm2GtagTwiddler, nulled ["InBit", "IOBit", "OutBit"]⟩,
  ⟨hm2GtagSsr, nulled ["Out", "AC Ref"]⟩,
  ⟨hm2GtagSpi, nulled ["/Frame", "DOut", "SClk", "DIn"]⟩,
  ⟨hm2GtagBspi, nulled ["/Frame", "DOut", "SClk", "DIn", "CS0", "CS1", "CS2", "CS3"]⟩,
  ⟨hm2GtagBspid, nulled ["/Frame", "DOut", "SClk", "DIn", "CS0", "CS1", "CS2", "CS3"]⟩,
  ⟨hm2GtagDbspi, nulled ["Null1", "DOut", "SClk", "DIn", "/CS-FRM0", "/CS-FRM1", "/CS-FRM2",
    "/CS-FRM3"]⟩,
  ⟨hm2GtagDpll, nulled ["Sync", "DDSMSB", "FOut", "PostOut", "SyncToggle"]⟩,
  ⟨hm2GtagSsi, nulled ["SClk", "SClkEn", "Data", "DAv"]⟩,
  ⟨hm2GtagBiss, nulled ["Clk", "ClkEn", "Din", "DAv", "TData", "STime"]⟩,
  ⟨hm2GtagUartTx, nulled ["TXData", "TXEna"]⟩,
  ⟨hm2GtagUartRx, nulled ["RXData"]⟩,
  ⟨hm2GtagPktuartTx, nulled ["TXData", "TXEna"]⟩,
  ⟨hm2GtagPktuartRx, nulled ["RXData"]⟩,
  ⟨hm2GtagTram, nulled []⟩,
  ⟨hm2GtagLed, nulled []⟩,
  ⟨hm2GtagInmux, nulled ["Addr0", "Addr1", "Addr2", "Addr3", "Addr4", "MuxData"]⟩,
  ⟨hm2GtagSigma5, nulled ["TXData", "RXData", "TxEn"]⟩,
  ⟨hm2GtagInm, ["Input0_EncA0", "Input1_EncB0", "Input2_EncA1", "Input3_EncB1", "Input4_EncA2",
    "Input5_EncB2", "Input6_EncA3", "Input7_EncB3", "Input8", "Input9", "Input10", "Input11",
    "Input12", "Input13", "Input14", "Input15", "Input16", "Input17", "Input18", "Input19",
    "Input20", "Input21", "Input22", "Input23", "Input24", "Input25", "Input26", "Input27",
    "Input28", "Input29", "Input30", "Input31"].map ascii⟩,
  ⟨hm2GtagOutm, ["Output0", "Output1", "Output2", "Output3", "Output4", "Output5", "Output6",
    "Output7", "Output8", "Output9", "Output10", "Output11", "Output12", "Output13", "Output14",
    "Output15", "Output16", "Output17", "Output18", "Output19", "Output20", "Output21",
    "Output22", "Output23", "Output24", "Output25", "Output26", "Output27", "Output28",
    "Output29", "Output30", "Output31"].map ascii⟩,
  ⟨hm2GtagXymod, nulled ["XData", "YData", "Clk", "Sync", "Status"]⟩,
  ⟨hm2GtagDpainter, nulled ["VidData", "VidClk"]⟩,
  ⟨hm2GtagOneshot, nulled ["Trigger1", "Trigger2", "Out1", "Out2"]⟩,
  ⟨hm2GtagPeriod, nulled ["Input"]⟩]

/-- `pin_names_xml`. -/
def pinNamesXml : List PinName := [
  ⟨hm2GtagNone, nulled []⟩,
  ⟨hm2GtagIrqLogic, nulled []⟩,
  ⟨hm2GtagWatchdog, nulled []⟩,
  ⟨hm2GtagIoport, nulled []⟩,
  ⟨hm2GtagEncoder, nulled ["Phase A", "Phase B", "Index", "Quad-IDXM", "Quad-Probe"]⟩,
  ⟨hm2GtagMuxedEncoder, nulled ["Muxed Phase A", "Muxed Phase B", "Muxed Index", "MuxQ-IDXM",
    "Quad-ProbeM", "Shared-IDX"]⟩,
  ⟨hm2GtagMuxedEncoderSel, nulled ["Muxed Encoder Select 0", "Muxed Encoder select 1"]⟩,
  ⟨hm2GtagMuxedEncoderMim, nulled ["MuxQ-A", "MuxQ-B", "MuxQ-IDX", "MuxQ-IDXM", "Quad-ProbeM",
    "Shared-IDX"]⟩,
  ⟨hm2GtagMuxedEncoderSelMim, nulled ["MuxSel0", "MuxSel1"]⟩,
  ⟨hm2GtagStepgen, nulled ["Step/Table1", "Dir/Table2", "Table3", "Table4", "Table5", "Table6",
    "Table7", "Table8", "Index", "Probe"]⟩,
  ⟨hm2GtagPwmgen, nulled ["PWM/Up", "Dir/Down", "/Enable"]⟩,
  ⟨hm2GtagRcpwmgen, nulled ["PWM"]⟩,
  ⟨hm2GtagTppwm, nulled ["PWMA", "PWMB", "PWMC", "NPWMA", "NPWMB", "NPWMC", "/ENA", "FAULT"]⟩,
  ⟨hm2GtagWavegen, nulled ["PDMA", "PDMB", "Trig0", "Trig1", "Trig2", "Trig3"]⟩,
  ⟨hm2GtagDaqFifo, nulled ["Data", "Strobe", "Full"]⟩,
  ⟨hm2GtagBinOsc, nulled ["OscOut"]⟩,
  ⟨hm2GtagBinDmdma, nulled []⟩,
  ⟨hm2GtagResolver, nulled ["PwrEn", "PDMP", "PDMM", "ADChan0", "ADChan1", "ADChan2", "SPICS",
    "SPIClk", "SPIDI0", "SPIDI1"]⟩,
  ⟨hm2GtagSserial, nulled ["RXData", "TXData", "TXEna", "NTXEna"]⟩,
  ⟨hm2GtagSserialb, nulled ["RXData", "TXData", "TXEna", "NTXEna"]⟩,
  ⟨hm2GtagTwiddler, nulled ["InBit", "IOBit", "OutBit"]⟩,
  ⟨hm2GtagSsr, nulled ["Out", "AC Ref"]⟩,
  ⟨hm2GtagSpi, nulled ["/Frame", "DOut", "SClk", "DIn"]⟩,
  ⟨hm2GtagBspi, nulled ["/Frame", "DOut", "SClk", "DIn", "CS0", "CS1", "CS2", "CS3"]⟩,
  ⟨hm2GtagBspid, nulled ["/Frame", "DOut", "SClk", "DIn", "CS0", "CS1", "CS2", "CS3"]⟩,
  ⟨hm2GtagDbspi, nulled ["Null1", "DOut", "SClk", "DIn", "/CS-FRM0", "/CS-FRM1", "/CS-FRM2",
    "/CS-FRM3"]⟩,
  ⟨hm2GtagDpll, nulled ["Sync", "DDSMSB", "FOut", "PostOut", "SyncToggle"]⟩,
  ⟨hm2GtagSsi, nulled ["SClk", "SClkEn", "Din", "DAv"]⟩,
  ⟨hm2GtagBiss, nulled ["Clk", "ClkEn", "Din", "DAv", "TData", "STime"]⟩,
  ⟨hm2GtagUartTx, nulled ["TXData", "TXEna", "NTXEna"]⟩,
  ⟨hm2GtagUartRx, nulled ["RXData"]⟩,
  ⟨hm2GtagPktuartTx, nulled ["TXData", "TXEna", "NTXEna"]⟩,
  ⟨hm2GtagPktuartRx, nulled ["RXData"]⟩,
  ⟨hm2GtagTram, nulled []⟩,
  ⟨hm2GtagLed, nulled []⟩,
  ⟨hm2GtagInmux, nulled ["Addr0", "Addr1", "Addr2", "Addr3", "Addr4", "MuxData"]⟩,
  ⟨hm2GtagSigma5, nulled ["TXData", "RXData", "TxEn"]⟩,
  ⟨hm2GtagInm, ["Input0", "Input1", "Input2", "Input3", "Input4", "Input5", "Input6", "Input7",
    "Input8", "Input9", "Input10", "Input11", "Input12", "Input13", "Input14", "Input15",
    "Input16", "Input17", "Input18", "Input19", "Input20", "Input21", "Input22", "Input23",
    "Input24", "Input25", "Input26", "Input27", "Input28", "Input29", "Input30",
    "Input31"].map ascii⟩,
  ⟨hm2GtagOutm, ["Output0", "Output1", "Output2", "Output3", "Output4", "Output5", "Output6",
    "Output7", "Output8", "Output9", "Output10", "Output11", "Output12", "Output13", "Output14",
    "Output15", "Output16", "Output17", "Output18", "Output19", "Output20", "Output21",
    "Output22", "Output23", "Output24", "Output25", "Output26", "Output27", "Output28",
    "Output29", "Output30", "Output31"].map ascii⟩,
  ⟨hm2GtagXymod, nulled ["XData", "YData", "Clk", "Sync", "Status"]⟩,
  ⟨hm2GtagDpainter, nulled ["VidData", "VidClk"]⟩,
  ⟨hm2GtagOneshot, nulled ["Trigger1", "Trigger2", "Out1", "Out2"]⟩,
  ⟨hm2GtagPeriod, nulled ["Input"]⟩]

/-- The table that `pin_get_pin_name` uses, without its empty entries. -/
def pinTable (xmlFlag : ℤ) : List PinName := if xmlFlag = 0 then pinNames else pinNamesXml

/-- The table that `pin_get_pin_name` uses. -/
def pinNamesPtr (xmlFlag : ℤ) : List PinName :=
  pinTable xmlFlag ++ List.replicate (hm2MaxTags - (pinTable xmlFlag).length) ⟨0, []⟩

/-- A name of an entry, as a string that is printed. -/
def PinName.nameAt (e : PinName) (i : ℤ) : Except Fault CStr := tableName e.names i

/-! ### Names of modules -/

/-- `mod_name_t`. -/
structure ModName where
  name : CStr
  tag : UInt8

/-- `mod_names`. -/
def modNames : List ModName := [
  ⟨ascii "Null", hm2GtagNone⟩, ⟨ascii "IRQLogic", hm2GtagIrqLogic⟩,
  ⟨ascii "WatchDog", hm2GtagWatchdog⟩, ⟨ascii "IOPort", hm2GtagIoport⟩,
  ⟨ascii "QCount", hm2GtagEncoder⟩, ⟨ascii "StepGen", hm2GtagStepgen⟩,
  ⟨ascii "PWM", hm2GtagPwmgen⟩, ⟨ascii "RCPWM", hm2GtagRcpwmgen⟩, ⟨ascii "SPI", hm2GtagSpi⟩,
  ⟨ascii "SSI", hm2GtagSsi⟩, ⟨ascii "UARTTX", hm2GtagUartTx⟩, ⟨ascii "UARTRX", hm2GtagUartRx⟩,
  ⟨ascii "PktUARTTX", hm2GtagPktuartTx⟩, ⟨ascii "PktUARTRX", hm2GtagPktuartRx⟩,
  ⟨ascii "AddrX", hm2GtagTram⟩, ⟨ascii "MuxedQCount", hm2GtagMuxedEncoder⟩,
  ⟨ascii "MuxedQCountSel", hm2GtagMuxedEncoderSel⟩, ⟨ascii "BufSPI", hm2GtagBspi⟩,
  ⟨ascii "BufSPID", hm2GtagBspid⟩, ⟨ascii "DBufSPI", hm2GtagDbspi⟩, ⟨ascii "DPLL", hm2GtagDpll⟩,
  ⟨ascii "MuxQCntM", hm2GtagMuxedEncoderMim⟩, ⟨ascii "MuxQSelM", hm2GtagMuxedEncoderSelMim⟩,
  ⟨ascii "TPPWM", hm2GtagTppwm⟩, ⟨ascii "WaveGen", hm2GtagWavegen⟩,
  ⟨ascii "DAQFIFO", hm2GtagDaqFifo⟩, ⟨ascii "BinOsc", hm2GtagBinOsc⟩,
  ⟨ascii "DMDMA", hm2GtagBinDmdma⟩, ⟨ascii "DPLL", hm2GtagHm2dpll⟩, ⟨ascii "LED", hm2GtagLed⟩,
  ⟨ascii "ResolverMod", hm2GtagResolver⟩, ⟨ascii "SSerial", hm2GtagSserial⟩,
  ⟨ascii "SSerialB", hm2GtagSserialb⟩, ⟨ascii "Twiddler", hm2GtagTwiddler⟩,
  ⟨ascii "SSR", hm2GtagSsr⟩, ⟨ascii "InMux", hm2GtagInmux⟩, ⟨ascii "Sigma5Enc", hm2GtagSigma5⟩,
  ⟨ascii "InM", hm2GtagInm⟩, ⟨ascii "OutM", hm2GtagOutm⟩, ⟨ascii "LocalIO", hm2GtagLioport⟩,
  ⟨ascii "BISS", hm2GtagBiss⟩, ⟨ascii "XYMod", hm2GtagXymod⟩,
  ⟨ascii "DataPainter", hm2GtagDpainter⟩, ⟨ascii "OneShot", hm2GtagOneshot⟩,
  ⟨ascii "Period", hm2GtagPeriod⟩]

/-- `mod_names_xml`. -/
def modNamesXml : List ModName := [
  ⟨ascii "Null", hm2GtagNone⟩, ⟨ascii "IRQLogic", hm2GtagIrqLogic⟩,
  ⟨ascii "Watchdog", hm2GtagWatchdog⟩, ⟨ascii "IOPort", hm2GtagIoport⟩,
  ⟨ascii "Encoder", hm2GtagEncoder⟩, ⟨ascii "StepGen", hm2GtagStepgen⟩,
  ⟨ascii "PWM", hm2GtagPwmgen⟩, ⟨ascii "RCPWM", hm2GtagRcpwmgen⟩, ⟨ascii "SPI", hm2GtagSpi⟩,
  ⟨ascii "SSI", hm2GtagSsi⟩, ⟨ascii "UARTTX", hm2GtagUartTx⟩, ⟨ascii "UARTRX", hm2GtagUartRx⟩,
  ⟨ascii "PktUARTTX", hm2GtagPktuartTx⟩, ⟨ascii "PktUARTRX", hm2GtagPktuartRx⟩,
  ⟨ascii "AddrX", hm2GtagTram⟩, ⟨ascii "MuxedQCount", hm2GtagMuxedEncoder⟩,
  ⟨ascii "MuxedQCountSel", hm2GtagMuxedEncoderSel⟩, ⟨ascii "BufSPI", hm2GtagBspi⟩,
  ⟨ascii "BufSPID", hm2GtagBspid⟩, ⟨ascii "DBufSPI", hm2GtagDbspi⟩, ⟨ascii "DPLL", hm2GtagDpll⟩,
  ⟨ascii "MuxQCntM", hm2GtagMuxedEncoderMim⟩, ⟨ascii "MuxQSelM", hm2GtagMuxedEncoderSelMim⟩,
  ⟨ascii "TPPWM", hm2GtagTppwm⟩, ⟨ascii "WaveGen", hm2GtagWavegen⟩,
  ⟨ascii "DAQFIFO", hm2GtagDaqFifo⟩, ⟨ascii "BinOsc", hm2GtagBinOsc⟩,
  ⟨ascii "DMDMA", hm2GtagBinDmdma⟩, ⟨ascii "DPLL", hm2GtagHm2dpll⟩, ⟨ascii "LED", hm2GtagLed⟩,
  ⟨ascii "ResolverMod", hm2GtagResolver⟩, ⟨ascii "SSerial", hm2GtagSserial⟩,
  ⟨ascii "SSerialB", hm2GtagSserialb⟩, ⟨ascii "Twiddler", hm2GtagTwiddler⟩,
  ⟨ascii "SSR", hm2GtagSsr⟩, ⟨ascii "InMux", hm2GtagInmux⟩, ⟨ascii "Sigma5Enc", hm2GtagSigma5⟩,
  ⟨ascii "InM", hm2GtagInm⟩, ⟨ascii "OutM", hm2GtagOutm⟩, ⟨ascii "LocalIO", hm2GtagLioport⟩,
  ⟨ascii "BISS", hm2GtagBiss⟩, ⟨ascii "XYMod", hm2GtagXymod⟩,
  ⟨ascii "DataPainter", hm2GtagDpainter⟩, ⟨ascii "OneShot", hm2GtagOneshot⟩,
  ⟨ascii "Period", hm2GtagPeriod⟩]

/-- `find_module_name`.  The empty entries have the tag that is no module. -/
def findModuleName (gtag : UInt8) (xmlFlag : ℤ) : CStr :=
  if gtag = hm2GtagNone then ascii "None"
  else match (if xmlFlag = 0 then modNames else modNamesXml).find? (fun e => e.tag == gtag) with
    | some e => e.name
    | none => ascii "(unknown-gtag-" ++ decimal gtag.toNat ++ ascii ")"

/-! ### Names of the pins of daughterboards -/

/-- `bob_pin_names`, in the order of the numbers of the daughterboards.  Two strings without a
comma between them are one string, so the 13th daughterboard has 26 names for its 27 pins. -/
def bobPinNames : List (List CStr) := [
  ["TB2-4,5", "TB2-2,3", "TB2-10,11", "TB2-8,9", "TB2-16,17", "TB2-14,15", "TB2-22,23",
   "TB2-20,21", "TB3-4,5", "TB3-2,3", "Internal-Field-IO", "Internal-Field-IO", "TB3-18,19",
   "TB3-16,17", "TB3-13,14", "TB3-10,11", "TB3-7,8"].map ascii,
  ["Internal-TXEn", "TB6-5,6", "TB6-3,4", "Internal-Analog-IO", "Internal-Analog-IO",
   "Internal-Field-IO", "Internal-Field-IO", "Internal-EncMux", "TB3-1,2,9,10", "TB3-4,5,12,13",
   "TB3-7,8,15,16", "TB3-17,18,TB4-1,2", "TB3-20,21,TB4-4,5", "TB3-23,24,TB4-7,8",
   "TB4-9,10,17,18", "TB4-12,13,20,21", "TB4-15,16,23,24"].map ascii,
  ["P1-01/DB25-01", "P1-02/DB25-14", "P1-03/DB25-02", "P1-04/DB25-15", "P1-05/DB25-03",
   "P1-06/DB25-16", "P1-07/DB25-04", "P1-08/DB25-17", "P1-09/DB25-05", "P1-11/DB25-06",
   "P1-13/DB25-07", "P1-15/DB25-08", "P1-17/DB25-09", "P1-19/DB25-10", "P1-21/DB25-11",
   "P1-23/DB25-12", "P1-25/DB25-13", "J6 1,2", "J6 3,6", "J6 TXEN", "J7 1,2"].map ascii,
  ["J7-3,6", "J7-TXEN", "J8-1,2", "J8-3,6", "J8-TXEN", "J9-1,2", "J9-3,6", "J9-TXEN", "J4-1,2",
   "J4-3,6", "J4-TXEN", "J3-1,2", "J3-3,6", "J3-TXEN", "J2-1,2", "J2-3,6", "J2-TXEN", "J1-1,2",
   "J1-3,6", "J1-TXEN", "P2-/ENA"].map ascii,
  ["TB3-2,3", "TB3-4,5", "TB3-8,9", "TB3-10,11", "TB3-14,15", "TB3-16,17", "TB3-20,21",
   "TB3-22,23", "TB4-2,3", "TB4-4,5", "TB4-8,9", "TB4-10,11", "TB4-14,15", "TB4-16,17",
   "Internal-TXen", "TB4-20,21", "TB4-22,23", "Internal-TXen", "TB1-1,2,9,10", "TB1-4,5,12,13",
   "TB1-7,8,15,16", "TB1-17,18 TB2-1,2", "TB1-20,21 TB2-4,5", "TB1-23,24,TB2-7,8",
   "TB2-9,10,17,18", "TB2-11,12,20,21", "TB2-15,16,23,24", "Internal-EncMux",
   "TB5-1,12, TB6-1,24"].map ascii,
  ["TB5-1,12, TB6-1,24", "TB5-1,12, TB6-1,24", "TB5-1,12, TB6-1,24", "TB5-1,12, TB6-1,24",
   "TB5-1,12, TB6-1,24", "TB5-13,14", "TB5-15,16", "TB5-17,18", "TB5-19,20", "TB5-21,22",
   "TB5-23,24", "Internal-SSR", "P1-01/DB25-01", "P1-02/DB25-14", "P1-03/DB25-02",
   "P1-04/DB25-15", "P1-05/DB25-03", "P1-06/DB25-16", "P1-07/DB25-04", "P1-08/DB25-17",
   "P1-09/DB25-05", "P1-11/DB25-06", "P1-13/DB25-07", "P1-15/DB25-08", "P1-17/DB25-09",
   "P1-19/DB25-10", "P1-21/DB25-11", "P1-23/DB25-12", "P1-25/DB25-13"].map ascii,
  ["TB3-1", "TB3-2", "TB3-3", "TB3-4", "TB3-5", "TB3-6", "TB3-7", "TB3-8", "TB3-9", "TB3-10",
   "TB3-11", "TB3-13,14", "TB3-15,16", "TB3-17,18", "TB3-19,20", "TB3-21,22",
   "TB3-23,24"].map ascii,
  ["TB1-2,3", "TB1-4,5", "TB1-8,9", "TB1-10,11", "TB1-14,15", "TB1-16,17", "TB1-20,21",
   "TB1-22,23", "TB2-2,3", "TB2-4,5", "TB2-7,8", "TB2-10,11", "TB2-13,14", "TB2-16,17",
   "TB2-18,19", "Internal-TXEn", "Internal-SSR"].map ascii,
  ["P1-01/DB25-01", "P1-02/DB25-14", "P1-03/DB25-02", "P1-04/DB25-15", "P1-05/DB25-03",
   "P1-06/DB25-16", "P1-07/DB25-04", "P1-08/DB25-17", "P1-09/DB25-05", "P1-11/DB25-06",
   "P1-13/DB25-07", "P1-15/DB25-08", "P1-17/DB25-09", "P1-19/DB25-10", "P1-21/DB25-11",
   "P1-23/DB25-12", "P1-25/DB25-13"].map ascii,
  ["TB3-4", "TB3-8", "TB3-12", "TB3-16", "TB3-20", "TB3-20", "TB3-24", "TB3-24", "TB3-4,8,12,16",
   "TB1-1,2,9,10", "TB1-4,5,12,13", "TB1-7,8,15,16", "TB1-17,18,TB2-1,2", "TB1-20,21,TB2-4,5",
   "TB1-23,24,TB2-7,8", "TB2-9,10,17,18", "TB2-12,13,20,21"].map ascii,
  ["TB2-15,16,23,24", "Internal-EncMux", "TB5-13,14", "TB5-15,16", "TB5-17,18", "TB5-19,20",
   "TB5-21,22", "TB5-23,24", "Internal-SSR", "TB4-1,12, TB5-1,12", "TB4-1,12, TB5-1,12",
   "TB4-1,12, TB5-1,12", "TB4-1,12, TB5-1,12", "TB4-1,12, TB5-1,12", "TB4-15,16", "TB4-17,18",
   "Internal-TXEn"].map ascii,
  ["P1-01/DB25-01", "P1-02/DB25-14", "P1-03/DB25-02", "P1-04/DB25-15", "P1-05/DB25-03",
   "P1-06/DB25-16", "P1-07/DB25-04", "P1-08/DB25-17", "P1-09/DB25-05", "P1-11/DB25-06",
   "P1-13/DB25-07", "P1-15/DB25-08", "P1-17/DB25-09", "P1-19/DB25-10", "P1-21/DB25-11",
   "P1-23/DB25-12", "P1-25/DB25-13"].map ascii,
  ["TB7-2,3", "TB7-4,5", "TB8-2,3", "TB8-4,5", "TB9-2,3", "TB9-4,5", "TB10-2,3", "TB10-4,5",
   "TB11-2,3", "TB11-4,5", "TB12-2,3", "TB13-4,5", "TB3-3,4", "TB3-5,6", "Internal-TXen",
   "TB4-1,2", "TB4-4,5", "TB4-7,8", "TB5-2", "TB5-2", "TB5-5,6", "TB5-7,8TB1-1,24, TB2-1,2",
   "TB1-1,24, TB2-1,2", "TB1-1,24, TB2-1,2", "TB1-1,24, TB2-1,2", "TB1-1,24, TB2-1,2"].map ascii,
  ["TB1-1,24, TB2-1,2", "TB13-1,2", "TB13-3,4", "TB13-5,6", "TB13-7,8", "TB14-1,2", "TB14-3,4",
   "TB14-5,6", "TB14-7,8", "Internal-SSR", "P1-01/DB25-01", "P1-02/DB25-14", "P1-03/DB25-02",
   "P1-04/DB25-15", "P1-05/DB25-03", "P1-06/DB25-16", "P1-07/DB25-04", "P1-08/DB25-17",
   "P1-09/DB25-05", "P1-11/DB25-06", "P1-13/DB25-07", "P1-15/DB25-08", "P1-17/DB25-09",
   "P1-19/DB25-10", "P1-21/DB25-11", "P1-23/DB25-12", "P1-25/DB25-13"].map ascii,
  ["P1-01/DB25-01", "P1-02/DB25-14", "P1-03/DB25-02", "P1-04/DB25-15", "P1-05/DB25-03",
   "P1-06/DB25-16", "P1-07/DB25-04", "P1-08/DB25-17", "P1-09/DB25-05", "P1-11/DB25-06",
   "P1-13/DB25-07", "P1-15/DB25-08", "P1-17/DB25-09", "P1-19/DB25-10", "P1-21/DB25-11",
   "P1-23/DB25-12", "P1-25/DB25-13", "P5 3,6", "P6 3,6"].map ascii,
  ["P2-01/DB25-01", "P2-02/DB25-14", "P2-03/DB25-02", "P2-04/DB25-15", "P2-05/DB25-03",
   "P2-06/DB25-16", "P2-07/DB25-04", "P2-08/DB25-17", "P2-09/DB25-05", "P2-11/DB25-06",
   "P2-13/DB25-07", "P2-15/DB25-08", "P2-17/DB25-09", "P2-19/DB25-10", "P2-21/DB25-11",
   "P2-23/DB25-12", "P2-25/DB25-13", "P5 TXEN", "P6 TXEN"].map ascii,
  ["P7-01/DB25-01", "P7-02/DB25-14", "P7-03/DB25-02", "P7-04/DB25-15", "P7-05/DB25-03",
   "P7-06/DB25-16", "P7-07/DB25-04", "P7-08/DB25-17", "P7-09/DB25-05", "P7-11/DB25-06",
   "P7-13/DB25-07", "P7-15/DB25-08", "P7-17/DB25-09", "P7-19/DB25-10", "P7-21/DB25-11",
   "P7-23/DB25-12", "P7-25/DB25-13", "P5 1,2", "P6 1,2"].map ascii,
  ["CHAN0-RX", "CHAN1-RX", "CHAN2-RX", "CHAN3-RX", "CHAN0-TX", "CHAN1-TX", "CHAN2-TX", "CHAN3-TX",
   "CHAN4-RX", "CHAN5-RX", "CHAN6-RX", "CHAN7-RX", "CHAN4-TX", "CHAN5-TX", "CHAN6-TX", "CHAN7-TX",
   "CHAN7-TXEn"].map ascii,
  ["TB1-4,5", "TB1-2,3", "TB1-10,11", "TB1-8,9", "TB1-16,17", "TB1-14,15", "TB1-22,23",
   "TB1-20,21", "TB2-18", "TB2-21,22", "TB2-23,24", "TB2-12,13", "Internal-TXEn", "TB2-10,11",
   "TB2-7,8", "TB2-4,5", "TB2-1,2"].map ascii,
  ["TB1-19,20", "TB1-21,22", "TB1-11,12", "TB1-13,14", "TB1-3,4", "TB1-5,6", "TB2-19,20",
   "TB2-21,22", "TB2-11,12", "TB2-13,14", "Internal-EncMux", "TB3-1,2,9,10", "TB3-4,5,12,13",
   "TB3-7,8,12,13", "TB3-17,18,TB2-1,2", "TB3-20,21,TB2-4,5", "TB3-23,24,TB2-7,8"].map ascii,
  ["TB1-19,20", "TB1-21,22", "TB1-11,12", "TB1-13,14", "TB1-3,4", "TB1-5,6", "TB2-19,20",
   "TB2-21,22", "TB2-11,12", "TB2-13,14", "Internal-EncMux", "TB3-1,2,9,10", "TB3-4,5,12,13",
   "TB3-7,8,12,13", "TB3-17,18,TB2-1,2", "TB3-20,21,TB2-4,5", "TB3-23,24,TB2-7,8"].map ascii,
  ["TB2-2,3", "TB2-4,5", "TB2-8,9", "TB2-10,11", "TB2-14,15", "TB2-16,17", "TB2-20,21",
   "TB2-22,23", "TB3-2,3", "TB3-4,5", "TB3,8,9", "TB3-10,11", "TB3-13,14", "TB3-16,17",
   "TB3-20,21,Opt-TXEn", "TB3-22,23", "Opt-TB3-20,21"].map ascii,
  ["TB3-1,2,9,10", "TB3-4,5,12,13", "TB2-7,8,15,16", "TB3-17,18,TB2-1,2", "TB3-20,21,TB2-4,5",
   "TB3-23,24,TB2-7,8", "TB2-9,10,17,18", "TB2-12,13,20,21", "TB2-15,16,23,24", "TB1-1,2,9,10",
   "TB1-4,5,12,13", "TB1-7,8,15,16", "Internal-EncMux", "Internal-EncPower", "TB1-19,20",
   "TB1-21,22", "Internal-TXEn"].map ascii,
  ["Spindle-PWM", "Drive-Enable", "X-Dir", "EStop-In", "X-Step", "Output-16", "Y-Dir",
   "Output-17", "Y-Step", "Z-Dir", "Z-Step", "A-Dir", "A-Step,Charge-Pump", "X-Limit", "Y-Limit",
   "Z-Limit", "A-Limit"].map ascii,
  ["Spindle-PWM", "Drive-Enable", "X-Step", "Input-P15", "X-Dir", "B-Step", "Y-Step",
   "B-Dir,Relay", "Y-Dir", "Z-Step", "Z-Dir", "A-Step", "A-Dir", "Input-P10", "Input-P11",
   "Input-P12", "Input-P13"].map ascii,
  ["Output-2", "Spindle-PWM", "X-Step", "Fault", "X-Dir", "Charge-Pump", "Y-Step", "Output-1",
   "Y-Dir", "Z-Step", "Z-Dir", "A-Step", "A-Dir", "Input-1", "Input-2", "Input-3",
   "Input-4"].map ascii,
  ["Relay-2", "Spindle-Rate", "Out-2", "Input-P15", "Out-3", "Relay-1", "Out-4", "Charge-Pump",
   "Out-5", "Out-6", "Out-7", "Out-8", "Out-9", "Input-P10", "Input-P11", "Input-P12",
   "Input-P13"].map ascii,
  ["Relay-3", "Spindle-PWM", "Out-2", "Input-P15", "Out-3", "Spindle-Dir", "Out-4",
   "Charge-Pump,Relay-3", "Out-5", "Out-6", "Out-7", "Out-8", "Out-9", "Input-P10", "Input-P11",
   "Input-P12", "Input-P13"].map ascii,
  ["TB2-4,5", "TB2-1,2", "TB1-4,5", "TB1-1,2", "TB2-7,8", "TB1-7,8", "TB2-10:PWM", "TB1-10:PWM",
   "TB2-10:Dir", "TB1-10:Dir", "TB2-12:Ena", "TB1-12:Ena", "TB2-16,17", "TB2-13,14", "TB1-16,17",
   "TB1-13,14", "TB2-19,20", "TB1-19,20", "TB2-22:PWM", "TB1-22:PWM", "TB2-22:Dir", "TB1-22:Dir",
   "TB2-24:Ena", "TB1-24:Ena"].map ascii,
  ["TB1-1,2", "TB2-1,2", "TB1-3,4", "TB2-3,4", "TB1-5,6", "TB2-5,6", "TB1-7,8", "TB2-7,8",
   "TB1-9,10", "TB2-9,10", "TB1-11,12", "TB2-11,12", "TB1-13,14", "TB2-13,14", "TB1-15,16",
   "TB2-15,16", "TB1-17,18", "TB2-17,18", "TB1-19,20", "TB2-19,20", "TB1-21,22", "TB2-21,22",
   "TB1-23,24", "TB2-23,24"].map ascii,
  ["CHAN0-RX", "CHAN1-RX", "CHAN2-RX", "CHAN3-RX", "CHAN0-TX", "CHAN0-TXEn", "CHAN1-TX",
   "CHAN1-TXEn", "CHAN2-TX", "CHAN2-TXEn", "CHAN3-TX", "CHAN3-TXEn", "CHAN4-RX", "CHAN5-RX",
   "CHAN6-RX", "CHAN7-RX", "CHAN4-TX", "CHAN4-TXEn", "CHAN5-TX", "CHAN5-TXEn", "CHAN6-TX",
   "CHAN6-TXEn", "CHAN7-TX", "CHAN7-TXEn"].map ascii,
  ["P2-1,2", "P2-4,5", "P2-7,8", "P2-10,11", "P4-1,2", "P3-1,2", "P4-4,5", "P3-4,5", "P4-7,8",
   "P3-7,8", "P4-9,10", "P3-9,10", "P4-12,13", "P3-12,13", "P4-15,16", "P3-15,16", "P2-13,14",
   "P2-16,17", "P2-19,20", "P2-22,23", "P4-19,20", "P4-22,23", "P3-19,20", "P3-22,23"].map ascii,
  ["P2-1,2", "P2-4,5", "P2-7,8", "P2-10,11", "P4-1,2", "P3-1,2", "P4-4,5", "P3-4,5", "P4-7,8",
   "P3-7,8", "P4-9,10", "P3-9,10", "P4-12,13", "P3-12,13", "P4-15,16", "P3-15,16", "P2-15,16:Aux",
   "P2-17,18:Dir", "P2-19,20:/Ena", "P2-23:PWM", "P4-19,20", "P4-22,23", "P3-19,20",
   "P3-22,23"].map ascii,
  ["/Ena0", "P4-1,2,9,10", "P4-4,5,12,13", "P4-7,8,15,16", "P3-1,2,9,10", "P3-4,5,12,13",
   "P3-7,8,15,16", "P2-1,2,9,10", "P2-4,5,12,13", "P2-7,8,15,16", "Internal-EncMux",
   "P4-20:PWM-Up", "P4-20:PWM-Dwn", "P4-24:PWM-Up", "P4-24:PWM-Dwn", "P3-20:PWM-Up",
   "P3-20:PWM-Dwn", "P3-24:PWM-Up", "P3-24:PWM-Dwn", "P2-20:PWM-Up", "P2-20:PWM-Dwn",
   "P2-24:PWM-Up", "P2-24:PWM-Dwn", "/Ena1"].map ascii,
  ["P2-5,6:/Ena", "P5-1,2,9,10", "P5-4,5,12,13", "P5-7,8,15,16", "P5-17,18,P4-1,2",
   "P5-20,21,P4-4,5", "P5-23,24,P4-7,8", "P3-9,10,17,18", "P3-12,13,20,21", "P3-15,16,23,24",
   "Internal-EncMux", "P2-21,22", "P2-19,20", "P2-13,14", "P2-11,12", "P2-5,6", "P2-3,4",
   "P3-21,22", "P3-19,20", "P3-13,14", "P3-11,12", "P3-5,6", "P3-3,4", "P3-5,6:/Ena"].map ascii,
  ["P2-5,6:/Ena", "P5-1,2,9,10", "P5-4,5,12,13", "P5-7,8,15,16", "P5-17,18,P4-1,2",
   "P5-20,21,P4-4,5", "P5-23,24,P4-7,8", "P3-9,10,17,18", "P3-12,13,20,21", "P3-15,16,23,24",
   "Internal-EncMux", "P2-21,22", "P2-19,20", "P2-13,14", "P2-11,12", "P2-5,6", "P2-3,4",
   "P3-21,22", "P3-19,20", "P3-13,14", "P3-11,12", "P3-5,6", "P3-3,4", "P3-5,6:/Ena"].map ascii,
  ["Output2", "PWM", "X-Step", "Fault", "X-Dir", "Charge-Pump", "Y-Step", "Output1", "Y-Dir",
   "Z-Step", "Z-Dir", "Output3", "Output4", "Input1", "Input2", "Input3", "Input4"].map ascii,
  ["Output2", "PWM", "X-Step", "Fault", "X-Dir", "Charge-Pump", "Y-Step", "Output1", "Y-Dir",
   "Z-Step", "Z-Dir", "A-Step", "A-Dir", "Input1", "Input2", "Input3", "Input4"].map ascii,
  ["Output6", "NC", "NC", "NC", "NC", "NC", "NC", "Output5", "NC", "NC", "NC", "Output3",
   "Output4", "Input5", "Input6", "Input7", "Input8"].map ascii,
  ["TB3-1", "TB2-1", "TB3-3", "TB2-3", "TB3-5", "TB2-5", "TB3-7", "TB2-7", "TB3-9", "TB2-9",
   "TB3-11", "TB2-11", "TB3-13", "TB2-13", "TB3-15", "TB2-15", "TB3-17"].map ascii,
  ["Spindle/PWM/Relay1", "Relay2", "X-Dir", "4th-Axis-Limit", "X-Step", "WD/Current-Reduce",
   "Y-Dir", "PWM/Current-Reduce", "Y-Step", "Z-Dir", "Z-Step", "4th-Axis-Dir", "4th-axis-Step",
   "Z-Limit", "EStop", "Y-Limit", "X-Limit"].map ascii,
  ["1", "2", "3", "4", "5", "6", "7", "8", "9", "11", "13", "15", "17", "19", "21", "23",
   "25"].map ascii]

/-- No daughterboard has more names than there are places. -/
lemma length_bobPinNames : ∀ names ∈ bobPinNames, names.length ≤ namesPerTag := by
  decide

end Mesaflash
