import Mesaflash.Lib.Loop
import Mesaflash.Lib.Stdio
import Mesaflash.Lib.PagedCopy
import Mesaflash.Lib.NorFlash
import Mesaflash.Lib.Datagram
import Mesaflash.Lib.LoopRun
import Mesaflash.Lib.Spi
import Mesaflash.Lib.Fuel
import Mesaflash.Lib.BitOrder
import Mesaflash.Lib.Agree
import Mesaflash.Lib.Cells
import Mesaflash.Lib.Unwrap
import Mesaflash.Platform
import Mesaflash.Bitfile
import Mesaflash.BitfileBounds
import Mesaflash.BitfileHeader
import Mesaflash.BitfilePosition
import Mesaflash.BitfileProject
import Mesaflash.Eeprom
import Mesaflash.Anyio
import Mesaflash.EepromLoops
import Mesaflash.Verify
import Mesaflash.Programming
import Mesaflash.WriteVerify
import Mesaflash.FlashArea
import Mesaflash.Host
import Mesaflash.Isolation
import Mesaflash.Backup
import Mesaflash.BackupWrites
import Mesaflash.Frame
import Mesaflash.CmdLine
import Mesaflash.FileOptions
import Mesaflash.Lbp16
import Mesaflash.EthLink
import Mesaflash.RemoteVerify
import Mesaflash.LocalFlash
import Mesaflash.FpgaProgram
import Mesaflash.CopyLoops
import Mesaflash.EepromLocal
import Mesaflash.GpioFlash
import Mesaflash.SerialFlash
import Mesaflash.RegisterAccess
import Mesaflash.Hostmot2
import Mesaflash.Sserial
import Mesaflash.SserialDevice
import Mesaflash.SserialBounds
import Mesaflash.SserialBoard
import Mesaflash.Registry
import Mesaflash.Dispatch
import Mesaflash.FoundBoards
import Mesaflash.NullPointers
import Mesaflash.Checksum
import Mesaflash.Lbp16Transport
import Mesaflash.SerialLink
import Mesaflash.Reload
import Mesaflash.SpiWords
import Mesaflash.FpgaReset
import Mesaflash.FpgaStream
import Mesaflash.PinRegisters
import Mesaflash.ModuleOutputs
import Mesaflash.Lib.ImageCopy
import Mesaflash.IdromRead
import Mesaflash.Encoder
import Mesaflash.PciScan
import Mesaflash.BoardSelection
import Mesaflash.SserialPins
import Mesaflash.SserialConstant
import Mesaflash.SserialFailure
import Mesaflash.SserialCommands
import Mesaflash.SserialBlock
import Mesaflash.SserialRevision
import Mesaflash.PinTables
import Mesaflash.PinNames
import Mesaflash.PinFile
import Mesaflash.TableBounds
import Mesaflash.SserialBytes
import Mesaflash.Numeral
import Mesaflash.RegisterOptions
import Mesaflash.EthAddress
import Mesaflash.AcceptedOptions
import Mesaflash.Lib.Trace
import Mesaflash.MainRun
import Mesaflash.SceneRun
import Mesaflash.ExitStatus
import Mesaflash.Lib.Correspond
import Mesaflash.Lib.Client
import Mesaflash.FlashRefinement
import Mesaflash.RegisterSpi
import Mesaflash.FlashDrivers
import Mesaflash.BackupSessions
import Mesaflash.PowerCut
import Mesaflash.Lib.ConfigPort
import Mesaflash.RegisterPaths
import Mesaflash.BoardReload
import Mesaflash.BootPath
import Mesaflash.Lib.Microwire
import Mesaflash.BridgeEeprom
import Mesaflash.OptionOrder
import Mesaflash.EppTimeouts
import Mesaflash.EthSettings
import Mesaflash.MainFlash
import Mesaflash.SserialMemory
import Mesaflash.FlashHistory
import Mesaflash.RegisterActions
import Mesaflash.Lib.SlaveFpga
import Mesaflash.FpgaBridges
import Mesaflash.FpgaLoad
