import Mesaflash.Bitfile
import Mesaflash.Eeprom

/-!
Programming an FPGA.

Four kinds of boards take the configuration of the FPGA from the host: those on the
parallel port (EPP), those behind a PLX 9030 or a PLX 905x bridge, and USB boards.
The four functions `*_program_fpga` are one function with parameters, `programFpga`:
they open the file, prepare the board, send the file in chunks, and look at the board
to see whether it worked.  The I/O ports and the serial device are parameters.
-/

namespace Mesaflash

open Lib

/-- `EIO`. -/
def eIo : ℤ := 5

/-- Input and output on I/O ports. -/
structure IoPorts (σ : Type) where
  inb : ℕ → σ → UInt8 × σ
  inl : ℕ → σ → UInt32 × σ
  outb : UInt8 → ℕ → σ → σ
  outl : UInt32 → ℕ → σ → σ

/-- The serial device of USB boards. -/
structure SerialDev (σ : Type) where
  /-- `write`: its result, the number of bytes taken or -1. -/
  write : List UInt8 → σ → ℤ × σ
  /-- Nothing is taken of nothing. -/
  write_nil : ∀ s, (write [] s).1 = 0

/-- The fields of `board_t` that say where a board is. -/
structure FpgaBoard where
  baseLo : ℕ
  ctrlBaseAddr : ℕ
  dataBaseAddr : ℕ

/-- The file buffer of the board's source file, and the state of the board. -/
structure FpgaProc (σ : Type) where
  fileBuffer : ℕ → UInt8
  dev : σ

/-! ### Bits -/

/-- `swaptab`. -/
def swaptab : List UInt8 := [
  0x00, 0x80, 0x40, 0xC0, 0x20, 0xA0, 0x60, 0xE0, 0x10, 0x90, 0x50, 0xD0, 0x30, 0xB0, 0x70, 0xF0,
  0x08, 0x88, 0x48, 0xC8, 0x28, 0xA8, 0x68, 0xE8, 0x18, 0x98, 0x58, 0xD8, 0x38, 0xB8, 0x78, 0xF8,
  0x04, 0x84, 0x44, 0xC4, 0x24, 0xA4, 0x64, 0xE4, 0x14, 0x94, 0x54, 0xD4, 0x34, 0xB4, 0x74, 0xF4,
  0x0C, 0x8C, 0x4C, 0xCC, 0x2C, 0xAC, 0x6C, 0xEC, 0x1C, 0x9C, 0x5C, 0xDC, 0x3C, 0xBC, 0x7C, 0xFC,
  0x02, 0x82, 0x42, 0xC2, 0x22, 0xA2, 0x62, 0xE2, 0x12, 0x92, 0x52, 0xD2, 0x32, 0xB2, 0x72, 0xF2,
  0x0A, 0x8A, 0x4A, 0xCA, 0x2A, 0xAA, 0x6A, 0xEA, 0x1A, 0x9A, 0x5A, 0xDA, 0x3A, 0xBA, 0x7A, 0xFA,
  0x06, 0x86, 0x46, 0xC6, 0x26, 0xA6, 0x66, 0xE6, 0x16, 0x96, 0x56, 0xD6, 0x36, 0xB6, 0x76, 0xF6,
  0x0E, 0x8E, 0x4E, 0xCE, 0x2E, 0xAE, 0x6E, 0xEE, 0x1E, 0x9E, 0x5E, 0xDE, 0x3E, 0xBE, 0x7E, 0xFE,
  0x01, 0x81, 0x41, 0xC1, 0x21, 0xA1, 0x61, 0xE1, 0x11, 0x91, 0x51, 0xD1, 0x31, 0xB1, 0x71, 0xF1,
  0x09, 0x89, 0x49, 0xC9, 0x29, 0xA9, 0x69, 0xE9, 0x19, 0x99, 0x59, 0xD9, 0x39, 0xB9, 0x79, 0xF9,
  0x05, 0x85, 0x45, 0xC5, 0x25, 0xA5, 0x65, 0xE5, 0x15, 0x95, 0x55, 0xD5, 0x35, 0xB5, 0x75, 0xF5,
  0x0D, 0x8D, 0x4D, 0xCD, 0x2D, 0xAD, 0x6D, 0xED, 0x1D, 0x9D, 0x5D, 0xDD, 0x3D, 0xBD, 0x7D, 0xFD,
  0x03, 0x83, 0x43, 0xC3, 0x23, 0xA3, 0x63, 0xE3, 0x13, 0x93, 0x53, 0xD3, 0x33, 0xB3, 0x73, 0xF3,
  0x0B, 0x8B, 0x4B, 0xCB, 0x2B, 0xAB, 0x6B, 0xEB, 0x1B, 0x9B, 0x5B, 0xDB, 0x3B, 0xBB, 0x7B, 0xFB,
  0x07, 0x87, 0x47, 0xC7, 0x27, 0xA7, 0x67, 0xE7, 0x17, 0x97, 0x57, 0xD7, 0x37, 0xB7, 0x77, 0xF7,
  0x0F, 0x8F, 0x4F, 0xCF, 0x2F, 0xAF, 0x6F, 0xEF, 0x1F, 0x9F, 0x5F, 0xDF, 0x3F, 0xBF, 0x7F, 0xFF]

/-- `bitfile_reverse_bits`. -/
def bitfileReverseBits (data : UInt8) : UInt8 := swaptab.getD data.toNat 0

/-- The table reverses the bits of a byte. -/
lemma testBit_bitfileReverseBits (data : UInt8) (i : Fin 8) :
    (bitfileReverseBits data).toNat.testBit i = data.toNat.testBit (7 - i) := by
  have hall : ∀ n : Fin 256, ∀ i : Fin 8,
      (swaptab.getD n 0).toNat.testBit i = (n : ℕ).testBit (7 - i) := by decide +kernel
  exact hall ⟨data.toNat, data.toNat_lt⟩ i

/-! ### The four functions -/

section Program

variable {σ : Type} (fs : FileSystem)

/-- The loop that sends a file in chunks. -/
def sendLoop (send : List UInt8 → FpgaProc σ → Except Fault (FpgaProc σ)) (fp : File)
    (p : FpgaProc σ) : Except Fault (FpgaProc σ) := do
  let s ← readLoop .hang chunkSize (fun buf n p => send (bytesOf buf n) p) ⟨fp, p.fileBuffer, p⟩
  return s.st

/-- What the functions `*_program_fpga` have in common. -/
def programFpga (prepare : σ → Except Fault σ)
    (send : List UInt8 → FpgaProc σ → Except Fault (FpgaProc σ)) (finish : σ → ℤ × σ)
    (name : CStr) (p : FpgaProc σ) : Except Fault (ℤ × FpgaProc σ) := body do
  let _ ← orExit (fs.stSize name) (-1, p)
  let fp ← orExit (fs.fopen name) (-1, p)
  let (ret, _, fp) ← call (printBitfileHeader fp)
  exitIf (ret = -1) (-1, p)
  let dev ← call (prepare p.dev)
  let p ← call (sendLoop send fp { p with dev })
  let (ret, dev) := finish p.dev
  return (ret, { p with dev })

section Ports

variable (io : IoPorts σ) (board : FpgaBoard)

/-- The work on a chunk that is written to a port, byte by byte. -/
def sendPort (port : ℕ) (bytes : List UInt8) (p : FpgaProc σ) : Except Fault (FpgaProc σ) :=
  .ok ⟨store bytes p.fileBuffer,
    bytes.foldl (fun dev b => io.outb (bitfileReverseBits b) port dev) p.dev⟩

def eppStatusOffset : ℕ := 1
def eppAddressOffset : ℕ := 3
def eppDataOffset : ℕ := 4

/-- `epp_program_fpga`. -/
def eppProgramFpga : CStr → FpgaProc σ → Except Fault (ℤ × FpgaProc σ) :=
  programFpga fs
    (fun dev => .ok (io.outb 0 (board.baseLo + eppAddressOffset) dev))
    (sendPort io (board.baseLo + eppDataOffset))
    (fun dev =>
      let (status, dev) := io.inb (board.baseLo + eppStatusOffset) dev
      (if status &&& 0x01 ≠ 0 then -eIo else 0, dev))

/-- `1 << i`. -/
def regMask (i : ℕ) : UInt32 := .ofBitVec (BitVec.twoPow 32 i)

def plx9030CtrlStatOffset : ℕ := 0x0054
def plx9030DoneMask : UInt32 := regMask 11
def plx9030InitMask : UInt32 := regMask 14
def plx9030LedMask : UInt32 := regMask 17
def plx9030WriteMask : UInt32 := regMask 23
def plx9030ProgramMask : UInt32 := regMask 26

/-- The check of `plx9030_program_fpga` that the FPGA is set up, which resets it if it is
not. -/
def plx9030Finish (dev : σ) : ℤ × σ :=
  let ctrlStat := board.ctrlBaseAddr + plx9030CtrlStatOffset
  let (status, dev) := io.inl ctrlStat dev
  if status &&& plx9030InitMask = 0 ∨ status &&& plx9030DoneMask = 0 then
    let (status, dev) := io.inl ctrlStat dev
    let control := status &&& ~~~plx9030ProgramMask
    (-eIo, io.outl (control ||| (plx9030WriteMask ||| plx9030LedMask)) ctrlStat dev)
  else (0, io.outl (status ||| plx9030WriteMask ||| plx9030LedMask) ctrlStat dev)

/-- `plx9030_program_fpga`. -/
def plx9030ProgramFpga : CStr → FpgaProc σ → Except Fault (ℤ × FpgaProc σ) :=
  programFpga fs
    (fun dev =>
      let ctrlStat := board.ctrlBaseAddr + plx9030CtrlStatOffset
      let (status, dev) := io.inl ctrlStat dev
      .ok (io.outl (status &&& ~~~plx9030WriteMask &&& ~~~plx9030LedMask) ctrlStat dev))
    (sendPort io board.dataBaseAddr)
    (plx9030Finish io board)

def plx905xCtrlStatOffset : ℕ := 0x006C
def plx905xDoneMask : UInt32 := regMask 17
def plx905xDoneWait : ℕ := 20000

/-- The loop of `plx905x_program_fpga` that waits for DONE: whether it was seen in `n` reads. -/
def plx905xWaitDone : ℕ → σ → Bool × σ
  | 0, dev => (false, dev)
  | n + 1, dev =>
    let (status, dev) := io.inl (board.ctrlBaseAddr + plx905xCtrlStatOffset) dev
    if status &&& plx905xDoneMask ≠ 0 then (true, dev) else plx905xWaitDone n dev

/-- `plx905x_program_fpga`. -/
def plx905xProgramFpga : CStr → FpgaProc σ → Except Fault (ℤ × FpgaProc σ) :=
  programFpga fs .ok (sendPort io board.dataBaseAddr)
    (fun dev =>
      let (done, dev) := plx905xWaitDone io board plx905xDoneWait dev
      (if done then 0 else -eIo, dev))

end Ports

section Usb

variable (ser : SerialDev σ)

/-- `lbp_send_checked`. -/
def lbpSendChecked (packet : List UInt8) (dev : σ) : Except Fault σ :=
  let (result, dev) := ser.write packet dev
  if result = packet.length then .ok dev else .error .abort

/-- The work of `usb_program_fpga` on a chunk, which is reversed in the file buffer. -/
def sendUsb (bytes : List UInt8) (p : FpgaProc σ) : Except Fault (FpgaProc σ) := do
  let packet := bytes.map bitfileReverseBits
  let dev ← lbpSendChecked ser packet p.dev
  return ⟨store packet p.fileBuffer, dev⟩

/-- `usb_program_fpga`. -/
def usbProgramFpga : CStr → FpgaProc σ → Except Fault (ℤ × FpgaProc σ) :=
  programFpga fs
    (fun dev => do
      let dev ← lbpSendChecked ser (ascii "0") dev
      let dev ← lbpSendChecked ser (ascii "0") dev
      let dev ← lbpSendChecked ser (ascii "0") dev
      lbpSendChecked ser (ascii "0") dev)
    (sendUsb ser)
    (fun dev => (0, dev))

end Usb

end Program

end Mesaflash
