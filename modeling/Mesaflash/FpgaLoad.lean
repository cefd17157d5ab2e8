import Mesaflash.ExitStatus
import Mesaflash.FpgaBridges
import Mesaflash.FpgaStream
import Mesaflash.SceneRun
import Mesaflash.WriteVerify

/-!
What a run of the program does to an FPGA.

With `--program`, the FPGA is reset, and then takes the payload of a file, whatever it was doing
before, and whatever bridge it is behind (`main_programs`).
-/

namespace Mesaflash

open Lib

/-! ### The file -/

/-- What a file has for an FPGA: its payload, or nothing if it cannot be opened, or has no header
that is accepted. -/
inductive FpgaFile (fs : FileSystem) (name : CStr) : List UInt8 → Prop
  | unopened (hopen : fs.fopen name = none) : FpgaFile fs name []
  | noHeader {file fp : File} {part : Option CStr} (hopen : fs.fopen name = some file)
      (hhead : printBitfileHeader file = .ok (-1, part, fp)) : FpgaFile fs name []
  | header {data : List UInt8} {ret : ℤ} {part : Option CStr} {fp : File}
      (hnode : fs.node name = some (.regular data true false))
      (hhead : printBitfileHeader (.start data false) = .ok (ret, part, fp)) (hret : ret ≠ -1) :
      FpgaFile fs name (payload data)

section Refused

variable {σ : Type} {fs : FileSystem} {name : CStr}

lemma FpgaLoader.programFread_unopened (l : FpgaLoader σ) (hopen : fs.fopen name = none)
    (p : FpgaProc σ) : l.programFread fs name p = .ok (-1, p) := by
  rw [FpgaLoader.programFread, programFpga, hopen]
  cases fs.stSize name <;> rfl

lemma FpgaLoader.programFread_noHeader (l : FpgaLoader σ) {file fp : File} {part : Option CStr}
    (hopen : fs.fopen name = some file) (hhead : printBitfileHeader file = .ok (-1, part, fp))
    (p : FpgaProc σ) : l.programFread fs name p = .ok (-1, p) := by
  rw [FpgaLoader.programFread, programFpga, hopen, orExit_some, ok_bind, hhead]
  cases fs.stSize name <;> rfl

end Refused

/-! ### The FPGA takes the stream -/

namespace FpgaBridge

variable {γ : Type} {L : FpgaLogic γ} {board : FpgaBoard} {readTime : ℕ} {br : FpgaBridge}
  {s : FpgaHost γ} {c : γ}

/-- The port that takes data. -/
def dataPort (board : FpgaBoard) : FpgaBridge → ℕ
  | epp => board.baseLo + eppDataOffset
  | _ => board.dataBaseAddr

/-- How a bridge must be set so that data come to the FPGA. -/
def Open : FpgaBridge → FpgaHost γ → Prop
  | epp, s => s.addr < 0x100
  | plx9030, s => regBit s.latch 23 = false ∧ regBit s.latch 26 = true
  | plx905x, _ => True

/-- The FPGA is behind an open bridge, and has a configuration. -/
structure Loading (br : FpgaBridge) (c : γ) (s : FpgaHost γ) : Prop where
  opened : br.Open s
  fpga : s.fpga = ⟨true, 0, c⟩

/-- The order of the bits is reversed twice. -/
lemma fromBus_reverseBits (b : UInt8) : fromBus (bitfileReverseBits b) = b :=
  forall_byte (P := fun b => fromBus (bitfileReverseBits b) = b) (by decide +kernel) b

/-- **A byte that is sent comes to the FPGA.** -/
lemma Loading.outb (h : br.Loading c s) (b : UInt8) :
    br.Loading (L.take c b)
      ((br.ports L board readTime).outb (bitfileReverseBits b) (br.dataPort board) s) := by
  obtain ⟨addr, latch, fpga⟩ := s
  obtain ⟨hopen, rfl⟩ := h
  have hclock : (⟨true, 0, c⟩ : SlaveFpga γ).clock L (bitfileReverseBits b) =
      ⟨true, 0, L.take c b⟩ := by
    rw [SlaveFpga.clock_ready, fromBus_reverseBits]
  cases br with
  | epp =>
      have hne : board.baseLo + eppDataOffset ≠ board.baseLo + eppAddressOffset := by
        simp [eppDataOffset, eppAddressOffset]
      have haddr : addr < 0x100 := hopen
      have hzero : addr / 0x100 = 0 := Nat.div_eq_of_lt haddr
      simp only [ports, dataPort, eppFpgaPorts, if_neg hne, if_true, eppDataCycle, hclock]
      -- an FPGA that has started takes nothing more
      split_ifs with hdone hreset
      · exact absurd hreset.1 (by omega)
      · exact ⟨haddr, by rw [FpgaLogic.take, if_pos hdone]⟩
      · exact ⟨haddr, rfl⟩
  | plx9030 =>
      have hwrite : regBit latch 23 = false := hopen.1
      simp only [ports, dataPort, plx9030FpgaPorts, hwrite, and_self, if_true, hclock]
      exact ⟨hopen, rfl⟩
  | plx905x =>
      simp only [ports, dataPort, plx905xFpgaPorts, if_true, hclock]
      exact ⟨trivial, rfl⟩

/-- So do the bytes of a chunk. -/
lemma Loading.foldl_outb (h : br.Loading c s) (bytes : List UInt8) :
    br.Loading (bytes.foldl L.take c)
      (bytes.foldl (fun s b => (br.ports L board readTime).outb (bitfileReverseBits b)
        (br.dataPort board) s) s) := by
  induction bytes generalizing s c with
  | nil => exact h
  | cons b bytes ih => exact ih (h.outb b)

/-- What the three functions have in common. -/
def loader (L : FpgaLogic γ) (board : FpgaBoard) (readTime : ℕ) :
    FpgaBridge → FpgaLoader (FpgaHost γ)
  | epp => eppLoader (epp.ports L board readTime) board
  | plx9030 => plx9030Loader (plx9030.ports L board readTime) board
  | plx905x => plx905xLoader (plx905x.ports L board readTime) board

lemma programFpga_eq (fs : FileSystem) :
    br.programFpga L board readTime fs = (br.loader L board readTime).programFread fs := by
  cases br with
  | epp => exact eppProgramFpga_eq fs _ board
  | plx9030 => exact plx9030ProgramFpga_eq fs _ board
  | plx905x => exact plx905xProgramFpga_eq fs _ board

lemma send_eq : (br.loader L board readTime).send =
    sendPort (br.ports L board readTime) (br.dataPort board) := by
  cases br <;> rfl

variable (board readTime) in
/-- All chunks come to the FPGA. -/
lemma Loading.sendChunks {p : FpgaProc (FpgaHost γ)} (h : br.Loading c p.dev)
    (chunks : List (List UInt8)) : ∃ p',
      (br.loader L board readTime).sendChunks chunks p = .ok p' ∧
        br.Loading (chunks.flatten.foldl L.take c) p'.dev := by
  induction chunks generalizing p c with
  | nil => exact ⟨p, rfl, h⟩
  | cons bytes chunks ih =>
      rw [FpgaLoader.sendChunks, List.foldlM_cons, send_eq, List.flatten_cons, List.foldl_append]
      obtain ⟨p', hsend, hp'⟩ := ih (p := ⟨store bytes p.fileBuffer, _⟩) (h.foldl_outb bytes)
      refine ⟨p', ?_, hp'⟩
      rw [← hsend, FpgaLoader.sendChunks, send_eq]
      rfl

/-- The FPGA has been reset. -/
structure Waiting (L : FpgaLogic γ) (br : FpgaBridge) (s : FpgaHost γ) : Prop where
  latch : br = .plx9030 → regBit s.latch 26 = true
  fpga : s.fpga = .cleared L

variable (board) in
/-- **Every reset clears the FPGA**, whatever its configuration is. -/
lemma resetFpga_waiting (hclear : br.Waits L readTime) (s : FpgaHost γ) :
    ∃ s', br.resetFpga L board readTime s = (0, s') ∧ br.Waiting L s' := by
  cases br with
  | epp => exact ⟨_, eppReset_fpgaPorts hclear s, nofun, rfl⟩
  | plx9030 =>
      obtain ⟨latch, hlatch, hreset⟩ := plx9030Reset_fpgaPorts board hclear s
      exact ⟨_, hreset, fun _ => hlatch, rfl⟩
  | plx905x =>
      obtain ⟨latch, hreset⟩ := plx905xReset_fpgaPorts board hclear s
      exact ⟨_, hreset, nofun, rfl⟩

variable (board readTime) in
/-- The bridge is opened for the data. -/
lemma Waiting.prepare (h : br.Waiting L s) :
    ∃ s', (br.loader L board readTime).prepare s = .ok s' ∧ br.Loading L.blank s' := by
  obtain ⟨addr, latch, fpga⟩ := s
  obtain ⟨hlatch, rfl⟩ := h
  cases br with
  | epp =>
      have haddr : addr / 0x100 % 0x100 + 0x100 * (0 : UInt8).toNat < 0x100 := by
        rw [show (0 : UInt8).toNat = 0 from rfl]
        omega
      refine ⟨⟨_, latch, .cleared L⟩, ?_, haddr, rfl⟩
      simp [loader, eppLoader, ports, eppFpgaPorts]
  | plx9030 =>
      obtain ⟨w, hw⟩ : ∃ w, plx9030Status L ⟨addr, latch, ⟨true, 0, L.blank⟩⟩ &&&
          ~~~plx9030WriteMask &&& ~~~plx9030LedMask = w := ⟨_, rfl⟩
      have hbits : regBit w 23 = false ∧ regBit w 26 = true := by
        rw [← hw, plx9030WriteMask, plx9030LedMask]
        have hprogram : regBit latch 26 = true := hlatch rfl
        simp [regBit_not, regBit_mask, plx9030Status_program, hprogram]
      refine ⟨⟨addr, w, .cleared L⟩, ?_, hbits, rfl⟩
      have hport : board.ctrlBaseAddr + plx9030CtrlStatOffset = board.ctrlStat := rfl
      simp only [loader, plx9030Loader, ports, hport, inl_plx9030FpgaPorts, outl_plx9030FpgaPorts,
        SlaveFpga.cleared, SlaveFpga.wait_zero, hw, hbits.2, SlaveFpga.setProgram_high]
  | plx905x => exact ⟨_, rfl, trivial, rfl⟩

variable (L board readTime) in
/-- The wait for DONE does not change the configuration. -/
lemma config_plx905xWaitDone (n : ℕ) (s : FpgaHost γ) :
    (plx905xWaitDone (plx905xFpgaPorts L board readTime) board n s).2.fpga.config =
      s.fpga.config := by
  induction n generalizing s with
  | zero => rfl
  | succ n ih =>
      have hwait : (s.fpga.wait readTime).config = s.fpga.config := by
        unfold SlaveFpga.wait
        split <;> rfl
      rw [plx905xWaitDone, inl_plx905xFpgaPorts]
      dsimp only
      split
      · exact hwait
      · exact (ih _).trans hwait

lemma finish_plx905xLoader {σ : Type} (io : IoPorts σ) (dev : σ) :
    ((plx905xLoader io board).finish dev).2 =
      (plx905xWaitDone io board plx905xDoneWait dev).2 := by
  unfold plx905xLoader
  generalize plx905xDoneWait = n
  rfl

variable (board readTime) in
/-- What is left of the configuration at the end. -/
lemma Loading.finish (h : br.Loading c s) :
    ((br.loader L board readTime).finish s).2.fpga.config = br.leaves L c := by
  obtain ⟨addr, latch, fpga⟩ := s
  obtain ⟨hopen, rfl⟩ := h
  cases br with
  | epp => rfl
  | plx9030 =>
      have hprogram : regBit (plx9030Status L ⟨addr, latch, ⟨true, 0, c⟩⟩ ||| plx9030WriteMask |||
          plx9030LedMask) 26 = true := by
        have hlatch : regBit latch 26 = true := hopen.2
        simp [plx9030Status_program, hlatch]
      have hheld : regBit (plx9030Status L ⟨addr, latch, ⟨true, 0, c⟩⟩ &&& ~~~plx9030ProgramMask |||
          (plx9030WriteMask ||| plx9030LedMask)) 26 = false := by
        rw [plx9030ProgramMask, plx9030WriteMask, plx9030LedMask]
        simp [regBit_not, regBit_mask]
      have hport : board.ctrlBaseAddr + plx9030CtrlStatOffset = board.ctrlStat := rfl
      simp only [loader, plx9030Loader, plx9030Finish, ports, leaves, hport, inl_plx9030FpgaPorts,
        outl_plx9030FpgaPorts, SlaveFpga.wait_zero, plx9030Status_good]
      by_cases hgood : L.Good c
      · rw [if_neg (not_not.2 hgood), if_pos hgood]
        simp only [hprogram, SlaveFpga.setProgram_high]
      · rw [if_pos hgood, if_neg hgood]
        simp only [hheld, SlaveFpga.setProgram_low]
  | plx905x =>
      rw [loader, finish_plx905xLoader]
      exact config_plx905xWaitDone L board readTime _ _

/-- A configuration that is left is the one of the bytes. -/
lemma loaded_leaves (bytes : List UInt8) : L.Loaded bytes (br.leaves L (L.load bytes)) := by
  cases br with
  | epp => exact FpgaLogic.loaded_load bytes
  | plx9030 =>
      rw [leaves]
      split_ifs with hgood
      · exact FpgaLogic.loaded_load bytes
      · exact FpgaLogic.loaded_blank hgood
  | plx905x => exact FpgaLogic.loaded_load bytes

variable (board readTime) in
/-- The file comes to an FPGA that has been reset. -/
lemma Waiting.program {fs : FileSystem} {name : CStr} {bytes : List UInt8}
    (hfile : FpgaFile fs name bytes) {p : FpgaProc (FpgaHost γ)} (h : br.Waiting L p.dev) :
    ∃ r p', br.programFpga L board readTime fs name p = .ok (r, p') ∧
      L.Loaded bytes p'.dev.fpga.config := by
  -- without a file to send, the FPGA is left as the reset left it
  have hblank : L.Loaded [] p.dev.fpga.config := by
    rw [h.fpga]
    exact FpgaLogic.loaded_load []
  rw [programFpga_eq]
  cases hfile with
  | unopened hopen => exact ⟨-1, p, FpgaLoader.programFread_unopened _ hopen p, hblank⟩
  | noHeader hopen hhead => exact ⟨-1, p, FpgaLoader.programFread_noHeader _ hopen hhead p, hblank⟩
  | @header data ret part fp hnode hhead hret =>
      have hpay : payload data = fp.rest := by rw [payload, hhead]
      obtain ⟨s, hprepare, hs⟩ := h.prepare board readTime
      obtain ⟨p', hsend, hp'⟩ := hs.sendChunks board readTime (L := L) (p := { p with dev := s })
        (Reading.fread.chunks fp)
      rw [Reading.flatten_chunks _ (sound_of_header hhead), ← hpay] at hp'
      have hconfig := hp'.finish board readTime (L := L)
      refine ⟨((br.loader L board readTime).finish p'.dev).1,
        { p' with dev := ((br.loader L board readTime).finish p'.dev).2 }, ?_, ?_⟩
      · rw [FpgaLoader.programFread_eq _ hnode hhead,
          FpgaLoader.program_eq _ .fread hnode hhead hret, hprepare, ok_bind, hsend, ok_bind]
      · dsimp only
        rw [hconfig]
        exact loaded_leaves (payload data)

/-! ### The run of the program -/

/-- The pointers of a board behind a bridge. -/
def reset : FpgaBridge → Reset
  | epp => .epp
  | plx9030 => .plx9030
  | plx905x => .plx905x

def program : FpgaBridge → ProgramFpga
  | epp => .epp
  | plx9030 => .plx9030
  | plx905x => .plx905x

/-- The functions that work on the hardware, with those of a bridge among them. -/
def functions (br : FpgaBridge) (L : FpgaLogic γ) (board : FpgaBoard) (readTime : ℕ)
    (fs : FileSystem) (fns : DeviceFunctions (FpgaProc (FpgaHost γ))) :
    DeviceFunctions (FpgaProc (FpgaHost γ)) :=
  { fns with
    reset := fun f b p =>
      if f = br.reset then
        let (ret, dev) := br.resetFpga L board readTime p.dev
        (.ok ret, { p with dev })
      else fns.reset f b p
    programFpga := fun f b name =>
      if f = br.program then deviceFn (br.programFpga L board readTime fs name)
      else fns.programFpga f b name }

end FpgaBridge

section Runs

variable {γ : Type} {L : FpgaLogic γ} {board : FpgaBoard} {readTime : ℕ} {br : FpgaBridge}
  {fs : FileSystem} {fns : DeviceFunctions (FpgaProc (FpgaHost γ))} {name : CStr}
  {bytes : List UInt8}

/-- A board behind a bridge that is found, and opened.  When it is closed, the FPGA is left
alone. -/
structure FpgaCard (fns : DeviceFunctions (FpgaProc (FpgaHost γ))) (br : FpgaBridge) where
  entry : BoardEntry
  opened : BoardEntry
  type : BoardType
  found : ∀ s, ∃ s', fns.search s = (.ok (.board entry), s')
  boardOpen : entry.boardOpen = some type
  opens : ∀ s, ∃ s', fns.boardOpen type entry s = (.ok opened, s')
  reset : opened.reset = some br.reset
  programFpga : opened.programFpga = some br.program
  boardClose : opened.boardClose = some type
  closes : ∀ s, (fns.boardClose type opened s).dev.fpga = s.dev.fpga

/-- What `program_fpga` returns is dropped. -/
lemma resetAndProgram_of_ok {σ : Type} {f g : DeviceFn σ ℤ} {t : Trace DeviceEvent σ} {s s' : σ}
    {r : ℤ} (hreset : f t.state = (.ok 0, s)) (hprogram : g s = (.ok r, s')) :
    (resetAndProgram f g).run t =
      (.ok 0, ⟨s', t.events ++ [.reported .board .reset 0] ++ [.reported .board .program r]⟩) := by
  rw [resetAndProgram, Traced.run_bind_of_ok (callBoard_of_ok hreset), if_neg (not_not.2 rfl)]
  exact Traced.run_bind_of_ok (callBoard_of_ok hprogram)

variable (board) in
/-- `anyio_dev_program_fpga` resets the FPGA, and loads the file. -/
lemma run_anyioDevProgramFpga (card : FpgaCard fns br) (hwaits : br.Waits L readTime)
    (hfile : FpgaFile fs name bytes) (t : Trace DeviceEvent (FpgaProc (FpgaHost γ))) : ∃ t',
      ((br.functions L board readTime fs fns).anyioDevProgramFpga card.opened name).run t =
        (.ok 0, t') ∧
      L.Loaded bytes t'.state.dev.fpga.config := by
  obtain ⟨s, hcleared, hwaiting⟩ := FpgaBridge.resetFpga_waiting board hwaits t.state.dev
  obtain ⟨r, p, hprograms, hconfig⟩ := hwaiting.program board readTime hfile
    (p := { t.state with dev := s })
  have hreset : (br.functions L board readTime fs fns).reset br.reset card.opened t.state =
      (.ok 0, { t.state with dev := s }) := by
    simp only [FpgaBridge.functions, if_true, hcleared]
  have hprogram : (br.functions L board readTime fs fns).programFpga br.program card.opened name
      { t.state with dev := s } = (.ok r, p) := by
    simp only [FpgaBridge.functions, if_true, deviceFn, hprograms]
  have hrun : ∃ events, ((br.functions L board readTime fs fns).anyioDevProgramFpga card.opened
      name).run t = (.ok 0, ⟨p, events⟩) := by
    rw [DeviceFunctions.anyioDevProgramFpga, card.reset, card.programFpga]
    exact ⟨_, callAnyio_of_ok (resetAndProgram_of_ok hreset hprogram)⟩
  obtain ⟨events, hrun⟩ := hrun
  exact ⟨⟨p, events⟩, hrun, hconfig⟩

/-- **A run with `--program` loads the file into the FPGA**, whatever the FPGA was doing before,
and whatever bridge it is behind.  The status of the run is 0 also when the FPGA does not start,
or there is no file for it. -/
theorem main_programs (card : FpgaCard fns br) (hwaits : br.Waits L readTime)
    {args : List CStr} {r : ℤ} {o : Options} (hargs : Selects args r o)
    (haction : boardAction o = .file .program name) (hfile : FpgaFile fs name bytes)
    (s : FpgaProc (FpgaHost γ)) :
    ∃ t, ((br.functions L board readTime fs fns).main args).run ⟨s, []⟩ = (.ok 0, t) ∧
      L.Loaded bytes t.state.dev.fpga.config := by
  obtain ⟨s₁, hfound⟩ := card.found s
  obtain ⟨s₂, hopened⟩ := card.opens s₁
  obtain ⟨t, hrun, hloaded⟩ := run_anyioDevProgramFpga board card hwaits hfile
    ⟨s₂, [.search, .boardOpen]⟩
  refine ⟨⟨fns.boardClose card.type card.opened t.state, t.events ++ [.boardClose]⟩, ?_, ?_⟩
  · rw [hargs.main_eq_onDevice, run_onDevice_eq_zero]
    refine ⟨card.entry, s₁, hfound, run_onBoard_eq_ok.2
      ⟨card.type, card.opened, s₂, t, card.type, card.boardOpen, hopened, ?_, card.boardClose, rfl⟩⟩
    rw [haction]
    exact hrun
  · dsimp only
    rw [card.closes]
    exact hloaded

end Runs

/-! ### A 5I20 -/

/-- An FPGA that takes one byte, which must be 0x55. -/
def byteLogic : FpgaLogic (Option UInt8) where
  blank := none
  step _ b := some b
  done c := c.isSome
  error c := c.isSome && c != some 0x55
  clearTime := 20 * 1000
  blank_done := rfl
  blank_error := rfl

/-- The other functions of a computer with a 5I20 leave its FPGA alone. -/
def with5i20 {σ : Type} : DeviceFunctions σ where
  search s := (.ok (.board card5i20), s)
  boardOpen _ b s := (.ok b, s)
  boardClose _ _ s := s
  printInfo _ _ s := (.ok (), s)
  act _ _ _ s := (.ok (), s)
  writeFlash _ _ _ _ _ _ s := (.ok (-1), s)
  verifyFlash _ _ _ _ s := (.ok (-1), s)
  backupFlash _ _ _ s := (.ok (-1), s)
  restoreFlash _ _ _ s := (.ok (-1), s)
  programFpga _ _ _ s := (.ok (-1), s)
  reset _ _ s := (.ok (-1), s)
  reload _ _ _ s := (.ok (-1), s)
  ethSetRemoteIp _ s := (.ok (-1), s)
  ethSetLedMode _ s := (.ok (-1), s)

def fpga5i20 {γ : Type} : FpgaCard (γ := γ) with5i20 .plx9030 where
  entry := card5i20
  opened := card5i20
  type := .pci
  found s := ⟨s, rfl⟩
  boardOpen := rfl
  opens s := ⟨s, rfl⟩
  reset := rfl
  programFpga := rfl
  boardClose := rfl
  closes _ := rfl

/-- `--device 5i20 --program a.bit`. -/
def programArgs : List CStr :=
  [ascii "--device", ascii "5i20", ascii "--program", ascii "a.bit"]

lemma selects_programArgs : ∃ o, Selects programArgs 0 o ∧
    boardAction o = .file .program (ascii "a.bit") := by
  have hmap : (processCmdLine programArgs).map (fun
      | .ret r o => some (r, o.fileFlag .info, o.deviceFlag, boardAction o)
      | .exit _ => none) = .ok (some (0, 0, 1, .file .program (ascii "a.bit"))) := by
    decide +kernel
  rcases hparse : processCmdLine programArgs with x | (⟨r, o⟩ | status)
  · rw [hparse] at hmap
    cases hmap
  · rw [hparse] at hmap
    obtain ⟨rfl, h⟩ := Prod.mk.inj (Option.some.inj (Except.ok.inj hmap))
    obtain ⟨hinfo, h⟩ := Prod.mk.inj h
    obtain ⟨hdevice, haction⟩ := Prod.mk.inj h
    exact ⟨o, ⟨hparse, by decide, by rw [hinfo]; decide, hdevice⟩, haction⟩
  · rw [hparse] at hmap
    cases Except.ok.inj hmap

/-- An FPGA that has started with another byte takes that of the file. -/
theorem main_programs_shortFile : ∃ t,
    ((FpgaBridge.plx9030.functions byteLogic ⟨0, 0x100, 0x200⟩ 30
      (FileSystem.empty.put (ascii "a.bit") shortFile) with5i20).main programArgs).run
        ⟨⟨fun _ => 0, ⟨0, 0, ⟨true, 0, some 0x12⟩⟩⟩, []⟩ = (.ok 0, t) ∧
      t.state.dev.fpga.config = some 0x55 := by
  obtain ⟨o, hargs, haction⟩ := selects_programArgs
  have hwaits : FpgaBridge.plx9030.Waits byteLogic 30 :=
    show byteLogic.clearTime ≤ (plx9030InitReads - 1) * 30 by decide
  have hfile : FpgaFile (FileSystem.empty.put (ascii "a.bit") shortFile) (ascii "a.bit")
      (payload shortFile) :=
    .header (FileSystem.node_put_self _ _ _) printBitfileHeader_shortFile (by decide)
  rw [payload_shortFile] at hfile
  obtain ⟨t, hrun, hloaded⟩ := main_programs fpga5i20 hwaits hargs haction hfile
    ⟨fun _ => 0, ⟨0, 0, ⟨true, 0, some 0x12⟩⟩⟩
  exact ⟨t, hrun, hloaded.config (by decide)⟩

end Mesaflash
