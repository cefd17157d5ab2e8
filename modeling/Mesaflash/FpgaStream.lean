import Mesaflash.BitfilePosition
import Mesaflash.CopyLoops
import Mesaflash.FpgaReset
import Mesaflash.Lib.BitOrder
import Mesaflash.Lib.LoopRun

/-!
What the FPGA receives.

The four functions `*_program_fpga` each have their own loop over the file: three write
it to a port byte by byte, and that of USB boards reverses a chunk in the file buffer and
sends it as one packet.  `loaders_sendSameStream` says that the same bytes arrive on all
four ways, in whichever chunks the file is read: the bytes behind the header, once each
and in their order, with the bits of each reversed.
-/

namespace Mesaflash

open Lib

/-! ### Reading in any chunks -/

/-- How the loops of the four functions may see the streams without read errors. -/
structure Reading where
  chunks : File → List (List UInt8)
  reads : ∀ fp : File, fp.Sound → ChunkReads chunkSize fp (chunks fp)

/-- Reads that only the end of the file cuts short. -/
def Reading.fread : Reading where
  chunks fp := if fp.eof then [] else chunksOf chunkSize fp.rest
  reads fp hfp := by
    cases heof : fp.eof with
    | true => exact .done heof
    | false => exact chunkReads_chunksOf chunkSize_pos _ fp rfl heof hfp.1

lemma Reading.chunks_fread (fp : File) :
    Reading.fread.chunks fp = if fp.eof then [] else chunksOf chunkSize fp.rest := rfl

/-- Whatever the chunks are, together they are what the stream still has. -/
lemma Reading.flatten_chunks (rd : Reading) {fp : File} (hfp : fp.Sound) :
    (rd.chunks fp).flatten = fp.rest := (rd.reads fp hfp).flatten hfp.2

/-! ### The four ways to an FPGA -/

/-- What is different in the four functions: the work in front of the loop, that on a
chunk, and the look at the board at the end. -/
structure FpgaLoader (σ : Type) where
  prepare : σ → Except Fault σ
  send : List UInt8 → FpgaProc σ → Except Fault (FpgaProc σ)
  finish : σ → ℤ × σ

section Loader

variable {σ : Type}

/-- The loop of a function whose reads deliver the given chunks. -/
def FpgaLoader.sendChunks (l : FpgaLoader σ) (chunks : List (List UInt8)) (p : FpgaProc σ) :
    Except Fault (FpgaProc σ) :=
  chunks.foldlM (fun p bytes => l.send bytes p) p

/-- One of the functions `*_program_fpga`, with reads that may be short. -/
def FpgaLoader.program (l : FpgaLoader σ) (rd : Reading) (fs : FileSystem) (name : CStr)
    (p : FpgaProc σ) : Except Fault (ℤ × FpgaProc σ) := body do
  let _ ← orExit (fs.stSize name) (-1, p)
  let fp ← orExit (fs.fopen name) (-1, p)
  let (ret, _, fp) ← call (printBitfileHeader fp)
  exitIf (ret = -1) (-1, p)
  let dev ← call (l.prepare p.dev)
  let p ← call (l.sendChunks (rd.chunks fp) { p with dev })
  let (ret, dev) := l.finish p.dev
  return (ret, { p with dev })

/-- One of the functions `*_program_fpga` as it is. -/
def FpgaLoader.programFread (l : FpgaLoader σ) (fs : FileSystem) :
    CStr → FpgaProc σ → Except Fault (ℤ × FpgaProc σ) :=
  programFpga fs l.prepare l.send l.finish

def eppLoader (io : IoPorts σ) (board : FpgaBoard) : FpgaLoader σ where
  prepare dev := .ok (io.outb 0 (board.baseLo + eppAddressOffset) dev)
  send := sendPort io (board.baseLo + eppDataOffset)
  finish dev :=
    let (status, dev) := io.inb (board.baseLo + eppStatusOffset) dev
    (if status &&& 0x01 ≠ 0 then -eIo else 0, dev)

def plx9030Loader (io : IoPorts σ) (board : FpgaBoard) : FpgaLoader σ where
  prepare dev :=
    let ctrlStat := board.ctrlBaseAddr + plx9030CtrlStatOffset
    let (status, dev) := io.inl ctrlStat dev
    .ok (io.outl (status &&& ~~~plx9030WriteMask &&& ~~~plx9030LedMask) ctrlStat dev)
  send := sendPort io board.dataBaseAddr
  finish := plx9030Finish io board

def plx905xLoader (io : IoPorts σ) (board : FpgaBoard) : FpgaLoader σ where
  prepare := .ok
  send := sendPort io board.dataBaseAddr
  finish dev :=
    let (done, dev) := plx905xWaitDone io board plx905xDoneWait dev
    (if done then 0 else -eIo, dev)

/-- The four times that `usb_program_fpga` sends `cmd`. -/
def usbPreamble (ser : SerialDev σ) (dev : σ) : Except Fault σ := do
  let dev ← lbpSendChecked ser (ascii "0") dev
  let dev ← lbpSendChecked ser (ascii "0") dev
  let dev ← lbpSendChecked ser (ascii "0") dev
  lbpSendChecked ser (ascii "0") dev

def usbLoader (ser : SerialDev σ) : FpgaLoader σ where
  prepare := usbPreamble ser
  send := sendUsb ser
  finish dev := (0, dev)

variable (fs : FileSystem) (io : IoPorts σ) (board : FpgaBoard) (ser : SerialDev σ)

lemma eppProgramFpga_eq : eppProgramFpga fs io board = (eppLoader io board).programFread fs := rfl

lemma plx9030ProgramFpga_eq :
    plx9030ProgramFpga fs io board = (plx9030Loader io board).programFread fs := rfl

lemma plx905xProgramFpga_eq :
    plx905xProgramFpga fs io board = (plx905xLoader io board).programFread fs := rfl

lemma usbProgramFpga_eq : usbProgramFpga fs ser = (usbLoader ser).programFread fs := rfl

/-- The loop as it is sees the chunks that only the end of the file cuts short. -/
lemma sendLoop_eq (l : FpgaLoader σ) {fp : File} (hfp : fp.Sound) (p : FpgaProc σ) :
    sendLoop l.send fp p = l.sendChunks (Reading.fread.chunks fp) p := by
  rw [sendLoop, FpgaLoader.sendChunks, Reading.chunks_fread]
  cases heof : fp.eof with
  | true =>
      rw [readLoop_done heof]
      rfl
  | false =>
      exact readLoop_chunks .hang chunkSize_pos l.send _ ⟨fp, p.fileBuffer, p⟩ rfl heof hfp.1

end Loader

/-! ### A file with a header -/

section Header

variable {σ : Type} {fs : FileSystem} {name : CStr} {data : List UInt8} {ret : ℤ}
  {part : Option CStr} {fp : File}

lemma sound_of_header (h : printBitfileHeader (.start data false) = .ok (ret, part, fp)) :
    fp.Sound :=
  have hreads := printBitfileHeader_reads h
  ⟨hreads.ioError, hreads.consistent (File.consistent_start _ _)⟩

/-- What is left of a function when the file and its header are there. -/
lemma FpgaLoader.program_eq (l : FpgaLoader σ) (rd : Reading)
    (hnode : fs.node name = some (.regular data true false))
    (hheader : printBitfileHeader (.start data false) = .ok (ret, part, fp)) (hret : ret ≠ -1)
    (p : FpgaProc σ) :
    l.program rd fs name p = (do
      let dev ← l.prepare p.dev
      let p ← l.sendChunks (rd.chunks fp) { p with dev }
      .ok ((l.finish p.dev).1, { p with dev := (l.finish p.dev).2 })) := by
  simp only [FpgaLoader.program, FileSystem.stSize_of_node hnode, FileSystem.fopen_of_node hnode,
    orExit_some, ok_bind, hheader, call_ok, exitIf_neg hret]
  cases l.prepare p.dev with
  | error f => rfl
  | ok dev =>
      simp only [call_ok, ok_bind]
      cases l.sendChunks (rd.chunks fp) { p with dev } with
      | error f => rfl
      | ok p' => rfl

/-- The functions as they are have reads that only the end of the file cuts short. -/
lemma FpgaLoader.programFread_eq (l : FpgaLoader σ)
    (hnode : fs.node name = some (.regular data true false))
    (hheader : printBitfileHeader (.start data false) = .ok (ret, part, fp)) (p : FpgaProc σ) :
    l.programFread fs name p = l.program .fread fs name p := by
  simp only [FpgaLoader.programFread, programFpga, FpgaLoader.program,
    FileSystem.stSize_of_node hnode, FileSystem.fopen_of_node hnode, orExit_some, ok_bind, hheader,
    call_ok, sendLoop_eq l (sound_of_header hheader)]

end Header

/-! ### What arrives -/

/-- I/O ports that note the bytes which are written to one of them. -/
def IoPorts.recording {σ : Type} (io : IoPorts σ) (port : ℕ) : IoPorts (σ × List UInt8) where
  inb addr s := ((io.inb addr s.1).1, (io.inb addr s.1).2, s.2)
  inl addr s := ((io.inl addr s.1).1, (io.inl addr s.1).2, s.2)
  outb b addr s := (io.outb b addr s.1, if addr = port then s.2 ++ [b] else s.2)
  outl w addr s := (io.outl w addr s.1, s.2)

/-- I/O ports that note what is written to the data port of an EPP board. -/
def IoPorts.recordingEpp {σ : Type} (io : IoPorts σ) (board : FpgaBoard) :
    IoPorts (σ × List UInt8) := io.recording (board.baseLo + eppDataOffset)

/-- I/O ports that note what is written to the data port behind a PLX bridge. -/
def IoPorts.recordingPlx {σ : Type} (io : IoPorts σ) (board : FpgaBoard) :
    IoPorts (σ × List UInt8) := io.recording board.dataBaseAddr

/-- A serial device that notes the bytes which it takes. -/
def SerialDev.recording {σ : Type} (ser : SerialDev σ) : SerialDev (σ × List UInt8) where
  write packet s :=
    ((ser.write packet s.1).1, (ser.write packet s.1).2,
      s.2 ++ packet.take (ser.write packet s.1).1.toNat)
  write_nil s := ser.write_nil s.1

/-- `b'` is `b` with bit `i` in the place of bit `7 - i`. -/
def Mirrored (b b' : UInt8) : Prop := ∀ i < 8, b'.toNat.testBit i = b.toNat.testBit (7 - i)

/-- The bytes of `out` are those of `payload`, each with its bits reversed. -/
def Mirrors (payload out : List UInt8) : Prop := List.Forall₂ Mirrored payload out

lemma mirrored_reverseBits (b : UInt8) : Mirrored b (bitfileReverseBits b) := by
  intro i hi
  exact testBit_bitfileReverseBits b ⟨i, hi⟩

lemma mirrors_map (payload : List UInt8) : Mirrors payload (payload.map bitfileReverseBits) := by
  rw [Mirrors, List.forall₂_map_right_iff, List.forall₂_same]
  exact fun b _ => mirrored_reverseBits b

/-- A byte has one mirror image. -/
lemma Mirrored.unique {b b₁ b₂ : UInt8} (h₁ : Mirrored b b₁) (h₂ : Mirrored b b₂) : b₁ = b₂ := by
  refine byte_ext fun i hi => ?_
  rw [h₁ i hi, h₂ i hi]

/-- A payload has one mirror image. -/
lemma Mirrors.eq_map {payload out : List UInt8} (h : Mirrors payload out) :
    out = payload.map bitfileReverseBits := by
  induction h with
  | nil => rfl
  | @cons b b' payload out hb _ ih =>
      rw [List.map_cons, ← ih, hb.unique (mirrored_reverseBits b)]

/-! ### The ways that keep a log -/

section Logs

variable {σ : Type}

/-- The log grows by `lead` in front of the loop, by the mirrored bytes of each chunk in the
loop, and not at all behind it; where the work stops, it stops with one of the faults. -/
structure FpgaLoader.Logs (l : FpgaLoader (σ × List UInt8)) (stops : Fault → Prop)
    (lead : List UInt8) : Prop where
  prepare : ∀ s, Yields (fun s' => s'.2 = s.2 ++ lead) stops (l.prepare s)
  send : ∀ bytes p, Yields (fun p' => p'.dev.2 = p.dev.2 ++ bytes.map bitfileReverseBits) stops
    (l.send bytes p)
  finish : ∀ s, (l.finish s).2.2 = s.2

variable {l : FpgaLoader (σ × List UInt8)} {stops : Fault → Prop} {lead : List UInt8}

/-- The loop adds the mirrored bytes of all chunks. -/
lemma FpgaLoader.Logs.sendChunks (h : l.Logs stops lead) (chunks : List (List UInt8)) :
    ∀ p, Yields (fun p' => p'.dev.2 = p.dev.2 ++ chunks.flatten.map bitfileReverseBits) stops
      (l.sendChunks chunks p) := by
  induction chunks with
  | nil =>
      intro p
      exact .ok (by simp)
  | cons bytes chunks ih =>
      intro p
      rw [FpgaLoader.sendChunks, List.foldlM_cons]
      refine (h.send bytes p).bind fun p' hp' => (ih p').mono fun p'' hp'' => ?_
      rw [hp'', hp', List.flatten_cons, List.map_append, List.append_assoc]

/-- The whole function adds `lead` and the mirrored bytes behind the header. -/
lemma FpgaLoader.Logs.program (h : l.Logs stops lead) (rd : Reading) {fs : FileSystem}
    {name : CStr} {data : List UInt8} {ret : ℤ} {part : Option CStr} {fp : File}
    (hnode : fs.node name = some (.regular data true false))
    (hheader : printBitfileHeader (.start data false) = .ok (ret, part, fp)) (hret : ret ≠ -1)
    (p : FpgaProc (σ × List UInt8)) :
    Yields (fun r => r.2.dev.2 = p.dev.2 ++ (lead ++ fp.rest.map bitfileReverseBits)) stops
      (l.program rd fs name p) := by
  rw [l.program_eq rd hnode hheader hret]
  refine (h.prepare p.dev).bind fun dev hdev => ?_
  refine (h.sendChunks (rd.chunks fp) _).bind fun p' hp' => .ok ?_
  rw [rd.flatten_chunks (sound_of_header hheader)] at hp'
  change (l.finish p'.dev).2.2 = _
  rw [h.finish, hp', hdev, List.append_assoc]

end Logs

section Ports

variable {σ : Type} (io : IoPorts σ) (board : FpgaBoard)

/-- The bytes of a chunk that is written to the port which is recorded. -/
lemma foldl_outb_recording (port : ℕ) (bytes : List UInt8) : ∀ s : σ × List UInt8,
    (bytes.foldl (fun s b => (io.recording port).outb (bitfileReverseBits b) port s) s).2 =
      s.2 ++ bytes.map bitfileReverseBits := by
  induction bytes with
  | nil =>
      intro s
      exact (List.append_nil _).symm
  | cons b bytes ih =>
      intro s
      rw [List.foldl_cons, ih]
      simp [IoPorts.recording]

lemma sendPort_recording (port : ℕ) (bytes : List UInt8) (p : FpgaProc (σ × List UInt8)) :
    Yields (fun p' => p'.dev.2 = p.dev.2 ++ bytes.map bitfileReverseBits) (fun _ => False)
      (sendPort (io.recording port) port bytes p) :=
  .ok (foldl_outb_recording io port bytes p.dev)

/-- The reads and writes of the control register are not writes of the data port. -/
lemma plx905xWaitDone_recording (port n : ℕ) : ∀ s : σ × List UInt8,
    (plx905xWaitDone (io.recording port) board n s).2.2 = s.2 := by
  induction n with
  | zero =>
      intro s
      rfl
  | succ n ih =>
      intro s
      rw [plx905xWaitDone]
      rcases hread : (io.recording port).inl _ s with ⟨status, t⟩
      have ht : t.2 = s.2 := by
        cases hread
        rfl
      dsimp only
      split_ifs with hdone
      · exact ht
      · exact (ih t).trans ht

lemma plx9030Finish_recording (port : ℕ) (s : σ × List UInt8) :
    (plx9030Finish (io.recording port) board s).2.2 = s.2 := by
  change (if _ then (-eIo, _) else (0, _) : ℤ × σ × List UInt8).2.2 = s.2
  split_ifs with hinit
  · rfl
  · rfl

lemma eppLoader_logs :
    (eppLoader (io.recordingEpp board) board).Logs (fun _ => False) [] where
  prepare s := by
    -- the address register is not the data register
    have hne : eppAddressOffset ≠ eppDataOffset := by decide
    refine .ok ?_
    simp [IoPorts.recordingEpp, IoPorts.recording, hne]
  send := sendPort_recording io _
  finish _ := rfl

lemma plx9030Loader_logs :
    (plx9030Loader (io.recordingPlx board) board).Logs (fun _ => False) [] where
  prepare _ := .ok (List.append_nil _).symm
  send := sendPort_recording io _
  finish s := plx9030Finish_recording io board board.dataBaseAddr s

lemma plx905xLoader_logs :
    (plx905xLoader (io.recordingPlx board) board).Logs (fun _ => False) [] where
  prepare _ := .ok (List.append_nil _).symm
  send := sendPort_recording io _
  finish s := plx905xWaitDone_recording io board board.dataBaseAddr plx905xDoneWait s

end Ports

section Usb

variable {σ : Type} (ser : SerialDev σ)

/-- A serial device that does not take a packet as a whole ends the process. -/
def ShortStop (f : Fault) : Prop :=
  f = .abort ∧ ∃ packet dev, (ser.write packet dev).1 ≠ packet.length

/-- A packet arrives as a whole, or the process ends. -/
lemma lbpSendChecked_recording (packet : List UInt8) (s : σ × List UInt8) :
    Yields (fun s' => s'.2 = s.2 ++ packet) (ShortStop ser)
      (lbpSendChecked ser.recording packet s) := by
  refine Yields.ite (fun hwhole => .ok ?_) fun hshort => .error ⟨rfl, packet, s.1, hshort⟩
  have htaken : (ser.write packet s.1).1 = packet.length := hwhole
  change s.2 ++ packet.take (ser.write packet s.1).1.toNat = _
  rw [htaken, Int.toNat_natCast, List.take_length]

lemma usbLoader_logs : (usbLoader ser.recording).Logs (ShortStop ser) (ascii "0000") where
  prepare s := by
    have hone := lbpSendChecked_recording ser (ascii "0")
    refine (hone s).bind fun s₁ h₁ => (hone s₁).bind fun s₂ h₂ => (hone s₂).bind fun s₃ h₃ =>
      (hone s₃).mono fun s₄ h₄ => ?_
    rw [h₄, h₃, h₂, h₁, List.append_assoc, List.append_assoc, List.append_assoc]
    rfl
  send bytes p := (lbpSendChecked_recording ser _ p.dev).bind fun _ hdev => .ok hdev
  finish _ := rfl

end Usb

/-! ### The same stream -/

/-- A function `*_program_fpga`, which reads the file by `fread`, is the way `l`; and in
whichever chunks the file is read, the function has sent exactly `out` when it returns,
unless it stops with one of the faults. -/
structure Sends {σ : Type} (stops : Fault → Prop)
    (program : CStr → FpgaProc (σ × List UInt8) → Except Fault (ℤ × FpgaProc (σ × List UInt8)))
    (l : FpgaLoader (σ × List UInt8)) (fs : FileSystem) (name : CStr)
    (p : FpgaProc σ) (out : List UInt8) : Prop where
  fread : program name ⟨p.fileBuffer, p.dev, []⟩ =
    l.program .fread fs name ⟨p.fileBuffer, p.dev, []⟩
  reading : ∀ rd : Reading, Yields (fun r => r.2.dev.2 = out) stops
    (l.program rd fs name ⟨p.fileBuffer, p.dev, []⟩)

section Same

variable {σ τ : Type} {fs : FileSystem} {name : CStr} {data : List UInt8} {ret : ℤ}
  {part : Option CStr} {fp : File}

lemma FpgaLoader.Logs.sends {l : FpgaLoader (σ × List UInt8)} {stops : Fault → Prop}
    {lead : List UInt8} (h : l.Logs stops lead)
    (hnode : fs.node name = some (.regular data true false))
    (hheader : printBitfileHeader (.start data false) = .ok (ret, part, fp)) (hret : ret ≠ -1)
    (p : FpgaProc σ) :
    Sends stops (l.programFread fs) l fs name p (lead ++ fp.rest.map bitfileReverseBits) :=
  ⟨l.programFread_eq hnode hheader _, fun rd =>
    h.program rd hnode hheader hret ⟨p.fileBuffer, p.dev, []⟩⟩

/-- **The four functions send the same stream: the bytes behind the header, once each and
in file order, with the bits of each byte reversed.  USB boards get four `0` in front of it,
and the function of USB boards returns unless the device does not take a packet as a whole;
the others always return.** -/
theorem loaders_sendSameStream (hnode : fs.node name = some (.regular data true false))
    (hheader : printBitfileHeader (.start data false) = .ok (ret, part, fp)) (hret : ret ≠ -1)
    (io : IoPorts σ) (board : FpgaBoard) (p : FpgaProc σ) (ser : SerialDev τ) (q : FpgaProc τ) :
    ∃ out, Mirrors fp.rest out ∧
      Sends (fun _ => False) (eppProgramFpga fs (io.recordingEpp board) board)
        (eppLoader (io.recordingEpp board) board) fs name p out ∧
      Sends (fun _ => False) (plx9030ProgramFpga fs (io.recordingPlx board) board)
        (plx9030Loader (io.recordingPlx board) board) fs name p out ∧
      Sends (fun _ => False) (plx905xProgramFpga fs (io.recordingPlx board) board)
        (plx905xLoader (io.recordingPlx board) board) fs name p out ∧
      Sends (ShortStop ser) (usbProgramFpga fs ser.recording) (usbLoader ser.recording) fs name q
        (ascii "0000" ++ out) := by
  rw [eppProgramFpga_eq, plx9030ProgramFpga_eq, plx905xProgramFpga_eq, usbProgramFpga_eq]
  exact ⟨_, mirrors_map fp.rest, (eppLoader_logs io board).sends hnode hheader hret p,
    (plx9030Loader_logs io board).sends hnode hheader hret p,
    (plx905xLoader_logs io board).sends hnode hheader hret p,
    (usbLoader_logs ser).sends hnode hheader hret q⟩

/-- Behind a header the payload is what the functions send. -/
lemma rest_of_encode (h : BitHeader) (payload : List UInt8) :
    File.rest ⟨h.encode ++ payload, h.encode.length, false, false⟩ = payload :=
  List.drop_left

/-- The header `headerTop`, whose fields fit. -/
def bitHeaderTop : BitHeader where
  toXilinxHeader := headerTop
  lead_start := by decide
  design_le := by decide
  part_le := by decide
  part_nul := by decide
  date_le := by decide
  time_le := by decide

/-- A serial device that takes all packets. -/
def idleSerial : SerialDev Unit where
  write packet _ := (packet.length, ())
  write_nil _ := rfl

/-- A USB board gets `0000` and the mirrored payload of two bytes. -/
theorem loaders_sendSameStream_top :
    ∃ r p', usbProgramFpga (FileSystem.empty.put [] (bitHeaderTop.encode ++ [0x01, 0x0F]))
      idleSerial.recording [] ⟨fun _ => 0, (), []⟩ = .ok (r, p') ∧
      p'.dev.2 = ascii "0000" ++ [0x80, 0xF0] := by
  obtain ⟨out, hout, -, -, -, husb⟩ := loaders_sendSameStream (FileSystem.node_put_self _ [] _)
    (printBitfileHeader_encode bitHeaderTop [0x01, 0x0F]) (by decide) zeroPorts firstPorts
    ⟨fun _ => 0, ()⟩ idleSerial ⟨fun _ => 0, ()⟩
  rw [rest_of_encode] at hout
  rw [husb.fread]
  cases hrun : (usbLoader idleSerial.recording).program .fread
      (FileSystem.empty.put [] (bitHeaderTop.encode ++ [0x01, 0x0F])) [] ⟨fun _ => 0, (), []⟩ with
  | ok r =>
      refine ⟨r.1, r.2, rfl, ?_⟩
      rw [(husb.reading .fread).of_eq_ok hrun, hout.eq_map]
      decide
  | error f =>
      obtain ⟨-, packet, _, hshort⟩ := (husb.reading .fread).of_eq_error hrun
      exact absurd rfl hshort

end Same

end Mesaflash
