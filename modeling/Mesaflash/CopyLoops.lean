import Mesaflash.BitfileHeader
import Mesaflash.EepromLoops
import Mesaflash.FpgaProgram
import Mesaflash.Lib.LoopRun

/-!
The file loops on streams that end in a read error.

All loops that read a file ask `feof` whether to go on, and a read error does not set
the end-of-file indicator.  `copyLoops_endWell_iff` says for each of them which streams
it ends well on: those that end without a read error, and, for the loops whose work can
fail, those with a failure in front of the read error.
-/

namespace Mesaflash

open Lib

/-! ### The loops -/

section Loops

variable {σ : Type}

/-- The loop of `sha256_verify` ends well. -/
def Sha256LoopEndsWell (sha : Sha256) (fp : InputStream) (p : Proc σ) : Prop :=
  EndsWell chunkSize (fun e : Stop (Bool × Proc σ) => ∃ p', e = .ret (false, p'))
    (fun buf n ctx => .ok (sha.update ctx (bytesOf buf n))) fp p.fileBuffer sha.init

/-- The loop of `eeprom_write` and `flash_restore` ends well. -/
def ProgramLoopEndsWell (acc : SpiEepromDev σ) (fp : InputStream) (start : ℕ) (p : Proc σ) :
    Prop :=
  EndsWell chunkSize (fun e => e = .abort) (pageChunk nextPage (programPage acc)) fp p.fileBuffer
    (start, p.dev)

/-- The loop of `eeprom_verify` ends well. -/
def VerifyLoopEndsWell (acc : SpiEepromDev σ) (fp : InputStream) (start : ℕ) (p : Proc σ) :
    Prop :=
  EndsWell chunkSize (fun e => ∃ p', e = .ret (-1, p')) (pageChunk nextPage (verifyPage acc p)) fp
    p.fileBuffer (start, (p.pageBuffer, p.dev))

/-- A loop of one of the functions `*_program_fpga` ends well. -/
def SendLoopEndsWell (send : List UInt8 → FpgaProc σ → Except Fault (FpgaProc σ))
    (fp : InputStream) (p : FpgaProc σ) : Prop :=
  EndsWell chunkSize (fun e => e = .abort) (fun buf n p => send (bytesOf buf n) p) fp p.fileBuffer p

/-- One of the packets is not taken as a whole. -/
def ShortWrite (ser : SerialDev σ) : List (List UInt8) → σ → Prop
  | [], _ => False
  | packet :: packets, dev =>
    (ser.write packet dev).1 ≠ packet.length ∨ ShortWrite ser packets (ser.write packet dev).2

end Loops

/-! ### Loops that cannot fail -/

section Total

variable {σ : Type} {fp : InputStream}

lemma chunkSize_pos : 0 < chunkSize := by decide

lemma sha256Loop_endsWell_iff (sha : Sha256) (p : Proc σ) :
    Sha256LoopEndsWell sha fp p ↔ fp.ioError = false :=
  endsWell_iff_total chunkSize_pos fun _ _ _ => ⟨_, rfl⟩

lemma sendPort_endsWell_iff (io : IoPorts σ) (port : ℕ) (p : FpgaProc σ) :
    SendLoopEndsWell (sendPort io port) fp p ↔ fp.ioError = false :=
  endsWell_iff_total chunkSize_pos fun _ _ _ => ⟨_, rfl⟩

lemma programLoop_endsWell_iff {k : ℕ} (start : ℕ) (p : Proc (Flash (chip k))) :
    ProgramLoopEndsWell (norFlash k) fp start p ↔ fp.ioError = false := by
  refine endsWell_iff_total chunkSize_pos fun buf n s => ?_
  have h := foldlM_eq_ok (l := List.range (numPages pageSize n)) (I := fun _ => True)
    (f := pageRound nextPage (programPage (norFlash k)) (fun _ => buf) (pageAt pageSize buf))
    (g := fun s j => (nextPage s.1, Flash.programPage s.1 (pageAt pageSize buf j) s.2))
    (fun _ _ _ _ => ⟨rfl, trivial⟩) (s := s) trivial
  exact ⟨_, h⟩

end Total

/-! ### The verify loop -/

section Verify

variable {k : ℕ} {fp : InputStream}

/-- An error of the verify loop is a verdict. -/
lemma verifyChunk_error {p : Proc (Flash (chip k))} {buf : ℕ → UInt8} {n : ℕ}
    {s : ℕ × PageBuf × Flash (chip k)} {e : Stop (ℤ × Proc (Flash (chip k)))}
    (h : pageChunk nextPage (verifyPage (norFlash k) p) buf n s = .error e) :
    ∃ p', e = .ret (-1, p') := by
  obtain ⟨-, j, -, t, -, -, hround⟩ := foldlM_eq_error h
  rw [pageRound, stride, verifyPage_norFlash] at hround
  by_cases hmatch : ∀ i, pageAt pageSize buf j i = Flash.readPage t.2.2 t.1 i
  · rw [if_pos hmatch] at hround
    cases hround
  · rw [if_neg hmatch] at hround
    exact ⟨_, (Except.error.inj hround).symm⟩

/-- Without the read error the verify loop fails when a page differs. -/
lemma verifyRun_error_iff (start : ℕ) (p : Proc (Flash (chip k))) :
    (∃ e, ReadRun chunkSize (pageChunk nextPage (verifyPage (norFlash k) p))
      ⟨fp.repaired, p.fileBuffer, (start, (p.pageBuffer, p.dev))⟩ (.error e)) ↔
      ¬ ∀ x ∈ programmed p.fileBuffer fp.rest start, Flash.readPage p.dev x.1 = x.2 := by
  rcases verifyLoop_norFlash fp.sound_repaired start p with ⟨hall, pb, hrun⟩ | ⟨hne, pb, buf, hrun⟩
  · refine iff_of_false ?_ (not_not_intro hall)
    rintro ⟨e, he⟩
    rw [verifyLoop, bind_eq_ok] at hrun
    obtain ⟨s, hs, -⟩ := hrun
    cases he.deterministic (readRun_of_readLoop hs (by simp))
  · refine iff_of_true ?_ hne
    rw [verifyLoop] at hrun
    rcases hloop : readLoop (.fault .hang) chunkSize
      (pageChunk nextPage (verifyPage (norFlash k) p))
      ⟨fp.repaired, p.fileBuffer, (start, (p.pageBuffer, p.dev))⟩ with e | s
    · rw [hloop, error_bind] at hrun
      obtain rfl := Except.error.inj hrun
      exact ⟨_, readRun_of_readLoop hloop (by simp)⟩
    · rw [hloop, ok_bind] at hrun
      cases hrun

lemma verifyLoop_endsWell_iff (start : ℕ) (p : Proc (Flash (chip k))) :
    VerifyLoopEndsWell (norFlash k) fp start p ↔ fp.ioError = false ∨
      ¬ ∀ x ∈ programmed p.fileBuffer fp.rest start, Flash.readPage p.dev x.1 = x.2 := by
  rw [← verifyRun_error_iff]
  exact endsWell_iff_error chunkSize_pos (fun _ s => ⟨s, rfl⟩) fun _ _ _ _ => verifyChunk_error

end Verify

/-! ### The loop of USB boards -/

section Usb

variable {σ : Type} {ser : SerialDev σ}

/-- A packet that is taken as a whole is sent, every other one ends the process. -/
lemma sendUsb_eq (bytes : List UInt8) (p : FpgaProc σ) :
    sendUsb ser bytes p =
      if (ser.write (bytes.map bitfileReverseBits) p.dev).1
          = (bytes.map bitfileReverseBits).length then
        .ok ⟨store (bytes.map bitfileReverseBits) p.fileBuffer,
          (ser.write (bytes.map bitfileReverseBits) p.dev).2⟩
      else .error .abort := by
  have hsend : lbpSendChecked ser (bytes.map bitfileReverseBits) p.dev =
      if (ser.write (bytes.map bitfileReverseBits) p.dev).1
          = (bytes.map bitfileReverseBits).length then
        .ok (ser.write (bytes.map bitfileReverseBits) p.dev).2
      else .error .abort := rfl
  rw [sendUsb, hsend]
  split_ifs with hwhole
  · rfl
  · rfl

lemma sendUsb_error {bytes : List UInt8} {p : FpgaProc σ} {e : Fault}
    (h : sendUsb ser bytes p = .error e) : e = .abort := by
  rw [sendUsb_eq] at h
  split_ifs at h
  exact (Except.error.inj h).symm

lemma sendUsb_chunks (l : List (List UInt8)) : ∀ p : FpgaProc σ,
    (∃ e, l.foldlM (fun p bytes => sendUsb ser bytes p) p = .error e) ↔
      ShortWrite ser (l.map (List.map bitfileReverseBits)) p.dev := by
  induction l with
  | nil =>
      intro p
      refine iff_of_false ?_ id
      rintro ⟨e, he⟩
      cases he
  | cons bytes l ih =>
      intro p
      rw [List.foldlM_cons, sendUsb_eq, List.map_cons, ShortWrite]
      split_ifs with hwhole
      · rw [ok_bind, ih]
        exact (or_iff_right (not_not_intro hwhole)).symm
      · exact iff_of_true ⟨_, rfl⟩ (.inl hwhole)

/-- Nothing goes wrong with an empty packet. -/
lemma sendUsb_nil (p : FpgaProc σ) : ∃ p', sendUsb ser [] p = .ok p' := by
  rw [sendUsb_eq, if_pos]
  · exact ⟨_, rfl⟩
  · exact ser.write_nil p.dev

lemma sendUsb_endsWell_iff (fp : InputStream) (p : FpgaProc σ) :
    SendLoopEndsWell (sendUsb ser) fp p ↔ fp.ioError = false ∨
      ShortWrite ser ((chunksOf chunkSize fp.rest).map (List.map bitfileReverseBits)) p.dev := by
  have hiff : SendLoopEndsWell (sendUsb ser) fp p ↔ _ :=
    endsWell_iff_error chunkSize_pos (fun _ p => sendUsb_nil p) fun _ _ _ _ => sendUsb_error
  rw [hiff]
  cases hio : fp.ioError with
  | false => exact iff_of_true (.inl rfl) (.inl rfl)
  | true =>
      have heof : fp.repaired.eof = false := fp.eof_of_ioError hio
      rw [← sendUsb_chunks]
      exact or_congr_right (exists_congr fun e =>
        readRun_chunks chunkSize_pos (sendUsb ser) _ ⟨fp.repaired, p.fileBuffer, p⟩ rfl heof rfl)

end Usb

/-! ### All loops -/

section All

variable {σ τ : Type} {k : ℕ}

/-- **A loop that reads a file ends well on the streams without a read error; with a read
error the verify loop does so when it finds a page that differs, and the loop of USB
boards when a packet is not taken; no other loop does.** -/
theorem copyLoops_endWell_iff (fp : InputStream) (sha : Sha256) (start : ℕ)
    (p : Proc (Flash (chip k))) (io : IoPorts σ) (port : ℕ) (q : FpgaProc σ) (ser : SerialDev τ)
    (u : FpgaProc τ) :
    (Sha256LoopEndsWell sha fp p ↔ fp.ioError = false) ∧
    (ProgramLoopEndsWell (norFlash k) fp start p ↔ fp.ioError = false) ∧
    (VerifyLoopEndsWell (norFlash k) fp start p ↔ fp.ioError = false ∨
      ¬ ∀ x ∈ programmed p.fileBuffer fp.rest start, Flash.readPage p.dev x.1 = x.2) ∧
    (SendLoopEndsWell (sendPort io port) fp q ↔ fp.ioError = false) ∧
    (SendLoopEndsWell (sendUsb ser) fp u ↔ fp.ioError = false ∨
      ShortWrite ser ((chunksOf chunkSize fp.rest).map (List.map bitfileReverseBits)) u.dev) :=
  ⟨sha256Loop_endsWell_iff sha p, programLoop_endsWell_iff start p,
    verifyLoop_endsWell_iff start p, sendPort_endsWell_iff io port q, sendUsb_endsWell_iff fp u⟩

/-- A stream that can not be read behind the header of the file. -/
def brokenStream : InputStream where
  toFile := ⟨headerTop.encode, headerTop.encode.length, false, true⟩
  consistent := by intro h; cases h

/-- Behind the header of a file that can not be read any more, the program loop has no
end: there is no result at all. -/
theorem programLoop_brokenStream :
    printBitfileHeader (.start headerTop.encode true) =
      .ok (headerTop.encode.length, some (ascii "3s1000fg456"), brokenStream.toFile) ∧
    ¬ ProgramLoopEndsWell (norFlash 1) brokenStream 0 (Proc.start fun _ => 0xFF) := by
  constructor
  · decide
  · rw [programLoop_endsWell_iff]
    exact fun h => by cases h

end All

end Mesaflash
