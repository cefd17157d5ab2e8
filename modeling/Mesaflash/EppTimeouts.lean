import Mesaflash.RegisterPaths

/-!
Timeouts of an EPP port.

A cycle that the board does not answer in time sets a bit in the status register of the port,
and the bit stays until it is cleared.  How it is cleared depends on the chip: some clear it when
the register has been read a few times, some when 1 is written to the bit, and others when 0 is.
`epp_clear_timeout` tries all of this.

So a call of `epp_read` or `epp_write` reports the timeouts of its own cycles and of no others,
on every such chip; only the first call can find a bit that was set before.  What a call
transfers, with a timeout or without, is what it transfers on ports that have no such bit
(`eppCalls_report`).
-/

namespace Mesaflash

variable {σ : Type}

/-! ### The chip -/

/-- What clears the timeout bit. -/
inductive ClearedBy where
  /-- So many reads of the status register. -/
  | reads (n : ℕ)
  | one
  | zero
deriving DecidableEq, Repr

/-- What is behind a parallel port, and the cycles that there were. -/
structure EppLine (σ : Type) where
  cycles : ℕ
  dev : σ

/-- A parallel port with what is behind it. -/
structure EppChip (σ : Type) extends EppLine σ where
  timeout : Bool
  /-- The reads of the status register since the timeout. -/
  reads : ℕ

/-- A host: the ports of a board, and the chip in front of them. -/
structure EppHost (σ : Type) where
  io : IoPorts σ
  board : FpgaBoard
  /-- Whether the board answers a cycle in time. -/
  answers : ℕ → Bool
  clearedBy : ClearedBy
  /-- The levels of the other lines in the status register. -/
  lines : UInt8

/-- A cycle.  The board does not see one that it does not answer. -/
def EppLine.cycle {α : Type} (answers : ℕ → Bool) (op : σ → α × σ) (nothing : α) (s : EppLine σ) :
    α × EppLine σ :=
  if answers s.cycles then ((op s.dev).1, ⟨s.cycles + 1, (op s.dev).2⟩)
  else (nothing, ⟨s.cycles + 1, s.dev⟩)

namespace EppChip

/-- A cycle, and the timeout if it is not answered. -/
def cycle {α : Type} (answers : ℕ → Bool) (op : σ → α × σ) (nothing : α) (s : EppChip σ) :
    α × EppChip σ :=
  let r := s.toEppLine.cycle answers op nothing
  (r.1, if answers s.cycles then { s with toEppLine := r.2 }
    else ⟨r.2, true, if s.timeout then s.reads else 0⟩)

/-- The status register. -/
def status (lines : UInt8) (s : EppChip σ) : UInt8 :=
  lines &&& 0xFE ||| (if s.timeout then 0x01 else 0x00)

/-- The status register is read. -/
def readStatus (clearedBy : ClearedBy) (s : EppChip σ) : EppChip σ :=
  match clearedBy with
  | .reads n => { s with timeout := s.timeout && decide (s.reads + 1 < n), reads := s.reads + 1 }
  | _ => s

/-- The status register is written. -/
def writeStatus (clearedBy : ClearedBy) (b : UInt8) (s : EppChip σ) : EppChip σ :=
  match clearedBy with
  | .one => { s with timeout := s.timeout && b &&& 0x01 == 0 }
  | .zero => { s with timeout := s.timeout && b &&& 0x01 != 0 }
  | .reads _ => s

end EppChip

/-- The ports of the host. -/
def EppHost.ports (host : EppHost σ) : IoPorts (EppChip σ) where
  inb port s :=
    if port = host.board.baseLo + eppStatusOffset then
      (s.status host.lines, s.readStatus host.clearedBy)
    else s.cycle host.answers (host.io.inb port) 0xFF
  inl port s := s.cycle host.answers (host.io.inl port) 0xFFFFFFFF
  outb b port s :=
    if port = host.board.baseLo + eppStatusOffset then s.writeStatus host.clearedBy b
    else (s.cycle host.answers (fun dev => ((), host.io.outb b port dev)) ()).2
  outl w port s := (s.cycle host.answers (fun dev => ((), host.io.outl w port dev)) ()).2

/-- The ports without a timeout bit: a cycle that is not answered delivers ones, and nothing
tells. -/
def EppHost.silent (host : EppHost σ) : IoPorts (EppLine σ) where
  inb port := EppLine.cycle host.answers (host.io.inb port) 0xFF
  inl port := EppLine.cycle host.answers (host.io.inl port) 0xFFFFFFFF
  outb b port s := (s.cycle host.answers (fun dev => ((), host.io.outb b port dev)) ()).2
  outl w port s := (s.cycle host.answers (fun dev => ((), host.io.outl w port dev)) ()).2

namespace EppChip

/-! ### Cycles -/

/-- A cycle between two moments was not answered. -/
def Missed (answers : ℕ → Bool) (i j : ℕ) : Prop := ∃ k, i ≤ k ∧ k < j ∧ answers k = false

variable {answers : ℕ → Bool} {i j k : ℕ}

lemma not_missed_self : ¬ Missed answers i i := fun ⟨_, hi, hlt, _⟩ => by omega

lemma missed_succ : Missed answers i (i + 1) ↔ answers i = false := by
  constructor
  · rintro ⟨k, hi, hlt, hk⟩
    obtain rfl : k = i := by omega
    exact hk
  · exact fun h => ⟨i, le_refl i, i.lt_succ_self, h⟩

lemma missed_trans (hij : i ≤ j) (hjk : j ≤ k) :
    Missed answers i k ↔ Missed answers i j ∨ Missed answers j k := by
  constructor
  · rintro ⟨n, hi, hlt, hn⟩
    by_cases h : n < j
    · exact .inl ⟨n, hi, h, hn⟩
    · exact .inr ⟨n, Nat.le_of_not_lt h, hlt, hn⟩
  · rintro (⟨n, hi, hlt, hn⟩ | ⟨n, hi, hlt, hn⟩)
    · exact ⟨n, hi, hlt.trans_le hjk, hn⟩
    · exact ⟨n, hij.trans hi, hlt, hn⟩

/-- Some cycles on a chip, on the line without its bit, and on the device alone.  The bit tells
whether a cycle was not answered and changes nothing else, and when all of them were answered,
the line is as good as the device. -/
structure After {α : Type} (answers : ℕ → Bool) (s : EppChip σ) (r : α × EppChip σ)
    (line : α × EppLine σ) (dev : α × σ) : Prop where
  le : s.cycles ≤ r.2.cycles
  timeout : r.2.timeout = true ↔ s.timeout = true ∨ Missed answers s.cycles r.2.cycles
  same : (r.1, r.2.toEppLine) = line
  answered : ¬ Missed answers s.cycles r.2.cycles → (r.1, r.2.dev) = dev

/-- A function that makes cycles only. -/
def Follows {α : Type} (answers : ℕ → Bool) (f : EppChip σ → α × EppChip σ)
    (line : EppLine σ → α × EppLine σ) (g : σ → α × σ) : Prop :=
  ∀ s, After answers s (f s) (line s.toEppLine) (g s.dev)

variable {α β : Type}

lemma follows_pure (a : α) :
    Follows answers (fun s : EppChip σ => (a, s)) (fun line => (a, line)) fun dev => (a, dev) :=
  fun s => ⟨le_refl _, by simp [not_missed_self], rfl, fun _ => rfl⟩

/-- One after the other. -/
lemma Follows.bind {f : EppChip σ → α × EppChip σ} {line : EppLine σ → α × EppLine σ}
    {g : σ → α × σ} {f' : α → EppChip σ → β × EppChip σ}
    {line' : α → EppLine σ → β × EppLine σ} {g' : α → σ → β × σ} (h : Follows answers f line g)
    (h' : ∀ a, Follows answers (f' a) (line' a) (g' a)) :
    Follows answers (fun s => f' (f s).1 (f s).2) (fun s => line' (line s).1 (line s).2)
      fun dev => g' (g dev).1 (g dev).2 := by
  intro s
  have h₁ := h s
  have h₂ := h' (f s).1 (f s).2
  have hmissed : Missed answers _ _ ↔ _ := missed_trans h₁.le h₂.le
  refine ⟨h₁.le.trans h₂.le, ?_, ?_, fun hm => ?_⟩
  · rw [h₂.timeout, h₁.timeout, hmissed, or_assoc]
  · exact h₂.same.trans (congrArg (fun r => line' r.1 r.2) h₁.same)
  · rw [hmissed, not_or] at hm
    exact (h₂.answered hm.2).trans (congrArg (fun r => g' r.1 r.2) (h₁.answered hm.1))

lemma follows_cycle (answers : ℕ → Bool) (op : σ → α × σ) (nothing : α) :
    Follows answers (cycle answers op nothing) (EppLine.cycle answers op nothing) op := by
  intro s
  by_cases h : answers s.cycles = true
  · simp only [cycle, EppLine.cycle, if_pos h]
    refine ⟨Nat.le_succ _, ?_, rfl, fun _ => rfl⟩
    simp [missed_succ, h]
  · simp only [cycle, EppLine.cycle, if_neg h]
    have hno : answers s.cycles = false := by simpa using h
    refine ⟨Nat.le_succ _, ?_, rfl, fun hm => ?_⟩
    · simp [missed_succ, hno]
    · exact absurd (missed_succ.2 hno) hm

end EppChip

/-! ### The transfer -/

section Transfer

open EppChip

variable (host : EppHost σ) (eppWide : Bool)

lemma follows_outb (b : UInt8) {port : ℕ}
    (hport : port ≠ host.board.baseLo + eppStatusOffset) :
    Follows host.answers (fun s => ((), host.ports.outb b port s))
      (fun line => ((), host.silent.outb b port line))
      fun dev => ((), host.io.outb b port dev) := by
  intro s
  have hwrite := follows_cycle host.answers (fun dev => ((), host.io.outb b port dev)) () s
  simpa only [EppHost.ports, EppHost.silent, if_neg hport] using hwrite

lemma follows_read8 :
    Follows host.answers (eppRead8 host.ports host.board) (eppRead8 host.silent host.board)
      (eppRead8 host.io host.board) := by
  intro s
  have hport : host.board.baseLo + eppDataOffset ≠ host.board.baseLo + eppStatusOffset := by
    simp [eppDataOffset, eppStatusOffset]
  have hread := follows_cycle host.answers (host.io.inb (host.board.baseLo + eppDataOffset)) 0xFF s
  simpa only [eppRead8, EppHost.ports, EppHost.silent, if_neg hport] using hread

lemma follows_write8 (b : UInt8) :
    Follows host.answers (fun s => ((), eppWrite8 host.ports host.board b s))
      (fun line => ((), eppWrite8 host.silent host.board b line))
      fun dev => ((), eppWrite8 host.io host.board b dev) :=
  follows_outb host b (by simp [eppDataOffset, eppStatusOffset])

lemma follows_addr16 (addr : ℕ) :
    Follows host.answers (fun s => ((), eppAddr16 host.ports host.board addr s))
      (fun line => ((), eppAddr16 host.silent host.board addr line))
      fun dev => ((), eppAddr16 host.io host.board addr dev) :=
  (follows_outb host (loByte addr) (by simp [eppAddressOffset, eppStatusOffset])).bind fun _ =>
    follows_outb host (hiByte addr) (by simp [eppAddressOffset, eppStatusOffset])

lemma follows_read32 :
    Follows host.answers (eppRead32 host.ports host.board eppWide)
      (eppRead32 host.silent host.board eppWide) (eppRead32 host.io host.board eppWide) := by
  cases eppWide with
  | true =>
      have hcycle := follows_cycle host.answers (host.io.inl (host.board.baseLo + eppDataOffset))
        0xFFFFFFFF
      exact hcycle.bind fun data => follows_pure (word32 data.toNat)
  | false =>
      exact (follows_read8 host).bind fun a => (follows_read8 host).bind fun b =>
        (follows_read8 host).bind fun c => (follows_read8 host).bind fun d =>
          follows_pure [a, b, c, d]

lemma follows_write32 (a b c d : UInt8) :
    Follows host.answers (fun s => ((), eppWrite32 host.ports host.board eppWide a b c d s))
      (fun line => ((), eppWrite32 host.silent host.board eppWide a b c d line))
      fun dev => ((), eppWrite32 host.io host.board eppWide a b c d dev) := by
  cases eppWide with
  | true =>
      exact follows_cycle host.answers (fun dev =>
        ((), host.io.outl _ (host.board.baseLo + eppDataOffset) dev)) ()
  | false =>
      exact (follows_write8 host a).bind fun _ => (follows_write8 host b).bind fun _ =>
        (follows_write8 host c).bind fun _ => follows_write8 host d

/-- The loops of `epp_read`. -/
lemma follows_readLoops (n : ℕ) :
    Follows host.answers (eppReadLoops host.ports host.board eppWide n)
      (eppReadLoops host.silent host.board eppWide n)
      (eppReadLoops host.io host.board eppWide n) := by
  induction n using Nat.strong_induction_on with
  | _ n ih =>
      match n with
      | n + 4 =>
          exact (follows_read32 host eppWide).bind fun word =>
            (ih n (by omega)).bind fun buffer => follows_pure (word ++ buffer)
      | 0 => exact follows_pure []
      | 1 =>
          exact (follows_read8 host).bind fun data =>
            (ih 0 (by omega)).bind fun buffer => follows_pure (data :: buffer)
      | 2 =>
          exact (follows_read8 host).bind fun data =>
            (ih 1 (by omega)).bind fun buffer => follows_pure (data :: buffer)
      | 3 =>
          exact (follows_read8 host).bind fun data =>
            (ih 2 (by omega)).bind fun buffer => follows_pure (data :: buffer)

/-- The loops of `epp_write`. -/
lemma follows_writeLoops (buffer : List UInt8) :
    Follows host.answers (fun s => ((), eppWriteLoops host.ports host.board eppWide buffer s))
      (fun line => ((), eppWriteLoops host.silent host.board eppWide buffer line))
      fun dev => ((), eppWriteLoops host.io host.board eppWide buffer dev) := by
  match buffer with
  | a :: b :: c :: d :: buffer =>
      exact (follows_write32 host eppWide a b c d).bind fun _ => follows_writeLoops buffer
  | [] => exact follows_pure ()
  | [a] => exact (follows_write8 host a).bind fun _ => follows_writeLoops []
  | [a, b] => exact (follows_write8 host a).bind fun _ => follows_writeLoops [b]
  | [a, b, c] => exact (follows_write8 host a).bind fun _ => follows_writeLoops [b, c]

end Transfer

/-! ### Calls -/

/-- The chip gives way to what `epp_clear_timeout` tries. -/
def ClearedBy.Works : ClearedBy → Prop
  | .reads n => n ≤ 5
  | .one | .zero => True

inductive EppCall where
  | read (addr size : ℕ)
  | write (addr : ℕ) (buffer : List UInt8)

/-- The cycles of a call, and the bytes that it stores in the buffer of the caller. -/
def EppCall.transfer (io : IoPorts σ) (board : FpgaBoard) (eppWide : Bool) :
    EppCall → σ → List UInt8 × σ
  | .read addr size, dev =>
    eppReadLoops io board eppWide size (eppAddr16 io board (addr ||| eppAddrAutoincrement) dev)
  | .write addr buffer, dev =>
    ([], eppWriteLoops io board eppWide buffer
      (eppAddr16 io board (addr ||| eppAddrAutoincrement) dev))

/-- `epp_read` or `epp_write`: what it returns, and the bytes that it stores. -/
def EppCall.run (io : IoPorts σ) (board : FpgaBoard) (eppWide : Bool) :
    EppCall → σ → (ℤ × List UInt8) × σ
  | .read addr size, dev =>
    let (result, buffer, dev) := eppRead io board eppWide addr size dev
    ((result, buffer), dev)
  | .write addr buffer, dev =>
    let (result, dev) := eppWrite io board eppWide addr buffer dev
    ((result, []), dev)

section Calls

open EppChip

variable (host : EppHost σ) (eppWide : Bool)

/-- The status register is looked at behind the cycles. -/
lemma run_eq (io : IoPorts σ) (board : FpgaBoard) (call : EppCall) (dev : σ) :
    call.run io board eppWide dev =
      (((eppFinish io board (call.transfer io board eppWide dev).2).1,
        (call.transfer io board eppWide dev).1),
        (eppFinish io board (call.transfer io board eppWide dev).2).2) := by
  cases call with
  | read addr size => rfl
  | write addr buffer => rfl

lemma follows_transfer (call : EppCall) :
    Follows host.answers (call.transfer host.ports host.board eppWide)
      (call.transfer host.silent host.board eppWide)
      (call.transfer host.io host.board eppWide) := by
  cases call with
  | read addr size =>
      exact (follows_addr16 host (addr ||| eppAddrAutoincrement)).bind fun _ =>
        follows_readLoops host eppWide size
  | write addr buffer =>
      exact (follows_addr16 host (addr ||| eppAddrAutoincrement)).bind fun _ =>
        (follows_writeLoops host eppWide buffer).bind fun _ => follows_pure []

lemma or_one_and_one (b : UInt8) : (b ||| 0x01) &&& 0x01 = 0x01 := by
  refine UInt8.toBitVec_inj.1 (BitVec.eq_of_getLsbD_eq fun i hi => ?_)
  simp only [UInt8.toBitVec_and, UInt8.toBitVec_or, BitVec.getLsbD_and, BitVec.getLsbD_or]
  cases (UInt8.toBitVec 0x01).getLsbD i <;> simp

lemma and_fe_and_one (b : UInt8) : b &&& 0xFE &&& 0x01 = 0x00 := by
  rw [UInt8.and_assoc]
  exact UInt8.and_zero

/-- The bit of the status register. -/
lemma eppCheckForTimeout_chip (s : EppChip σ) :
    eppCheckForTimeout host.ports host.board s =
      (if s.timeout then 0x01 else 0x00, s.readStatus host.clearedBy) := by
  have hread : eppCheckForTimeout host.ports host.board s =
      (s.status host.lines &&& 0x01, s.readStatus host.clearedBy) := by
    simp [eppCheckForTimeout, eppReadStatus, EppHost.ports]
  rw [hread, EppChip.status]
  cases s.timeout with
  | false => exact congrArg (·, _) ((congrArg (· &&& 0x01) UInt8.or_zero).trans (and_fe_and_one _))
  | true => exact congrArg (·, _) (or_one_and_one _)

/-- The bit is reported and cleared. -/
lemma eppFinish_chip (hworks : host.clearedBy.Works) (s : EppChip σ) :
    (eppFinish host.ports host.board s).1 = (if s.timeout then 0 else 1) ∧
      (eppFinish host.ports host.board s).2.timeout = false ∧
      (eppFinish host.ports host.board s).2.toEppLine = s.toEppLine := by
  have hstatus : ∀ t : EppChip σ, eppReadStatus host.ports host.board t =
      (t.status host.lines, t.readStatus host.clearedBy) := by
    intro t
    simp [eppReadStatus, EppHost.ports]
  have hwrite : ∀ (b : UInt8) (t : EppChip σ), eppWriteStatus host.ports host.board b t =
      t.writeStatus host.clearedBy b := by
    intro b t
    simp [eppWriteStatus, EppHost.ports]
  obtain ⟨line, timeout, reads⟩ := s
  cases timeout with
  | false =>
      simp only [eppFinish, eppCheckForTimeout_chip]
      cases host.clearedBy <;> simp [EppChip.readStatus]
  | true =>
      simp only [eppFinish, eppClearTimeout, eppCheckForTimeout_chip, hstatus, hwrite]
      cases hcleared : host.clearedBy with
      | reads n =>
          rw [hcleared] at hworks
          -- the register is read five times, whatever the chip had counted before
          have hn : n ≤ 5 := hworks
          have hlast : ¬ reads + 1 + 1 + 1 + 1 + 1 < n := by omega
          simp only [EppChip.readStatus, writeStatus]
          by_cases hfirst : n ≤ reads + 1
          · have hnot : ¬ reads + 1 < n := by omega
            simp [hnot]
          · simp [hfirst, hlast, apply_ite]
      | one => simp [EppChip.readStatus, writeStatus, or_one_and_one]
      | zero => simp [EppChip.readStatus, writeStatus, or_one_and_one, and_fe_and_one]

/-- A call, with the chip before and behind it. -/
structure EppRecord (σ : Type) where
  call : EppCall
  before : EppChip σ
  result : ℤ
  buffer : List UInt8
  behind : EppChip σ

/-- Calls, one behind the other. -/
def eppRun : List EppCall → EppChip σ → List (EppRecord σ)
  | [], _ => []
  | call :: calls, s =>
    let ((result, buffer), s') := call.run host.ports host.board eppWide s
    ⟨call, s, result, buffer, s'⟩ :: eppRun calls s'

/-- A call reports the timeouts of its own cycles, and a bit that it finds set.  It transfers what
it would without the bit, and without a timeout that is what it does on the ports themselves. -/
structure EppRecord.Reports (r : EppRecord σ) : Prop where
  result : r.result = 0 ∧
      (r.before.timeout = true ∨ Missed host.answers r.before.cycles r.behind.cycles) ∨
    r.result = 1 ∧ r.before.timeout = false ∧
      ¬ Missed host.answers r.before.cycles r.behind.cycles
  same : (r.buffer, r.behind.toEppLine) =
    r.call.transfer host.silent host.board eppWide r.before.toEppLine
  answered : r.result = 1 → (r.buffer, r.behind.dev) =
    r.call.transfer host.io host.board eppWide r.before.dev
  cleared : r.behind.timeout = false

/-- One call. -/
lemma run_reports (hworks : host.clearedBy.Works) (call : EppCall) (s : EppChip σ) :
    EppRecord.Reports host eppWide ⟨call, s, (call.run host.ports host.board eppWide s).1.1,
      (call.run host.ports host.board eppWide s).1.2,
      (call.run host.ports host.board eppWide s).2⟩ := by
  have hafter := follows_transfer host eppWide call s
  set t := call.transfer host.ports host.board eppWide s with ht
  obtain ⟨hresult, hcleared, hline⟩ := eppFinish_chip host hworks t.2
  have hcycles := congrArg EppLine.cycles hline
  rw [run_eq, ← ht]
  refine ⟨?_, ?_, fun hone => ?_, hcleared⟩
  · dsimp only
    rw [hresult, hcycles, ← hafter.timeout]
    by_cases h : t.2.timeout = true
    · exact .inl ⟨if_pos h, h⟩
    · obtain ⟨hbefore, hmissed⟩ := not_or.1 (mt hafter.timeout.2 h)
      exact .inr ⟨if_neg h, Bool.eq_false_iff.2 hbefore, hmissed⟩
  · dsimp only
    rw [hline, ← hafter.same]
  · dsimp only at hone ⊢
    have h : ¬ t.2.timeout = true := by
      intro h
      rw [hresult, if_pos h] at hone
      exact absurd hone (by decide)
    rw [hline, ← hafter.answered fun hmissed => h (hafter.timeout.2 (.inr hmissed))]

/-- **A call reports the timeouts of its own cycles, and of no others**, whichever way the chip has
its timeout bit cleared.  Only the first call can find the bit set. -/
theorem eppCalls_report (hworks : host.clearedBy.Works) (calls : List EppCall) (s : EppChip σ) :
    (∀ r ∈ eppRun host eppWide calls s, r.Reports host eppWide) ∧
      ∀ r ∈ (eppRun host eppWide calls s).tail, r.before.timeout = false := by
  induction calls generalizing s with
  | nil => exact ⟨fun r hr => absurd hr List.not_mem_nil, fun r hr => absurd hr List.not_mem_nil⟩
  | cons call calls ih =>
      have hcall := run_reports host eppWide hworks call s
      obtain ⟨hreports, hbefore⟩ := ih (call.run host.ports host.board eppWide s).2
      rw [eppRun, List.forall_mem_cons, List.tail_cons]
      refine ⟨⟨hcall, hreports⟩, ?_⟩
      cases calls with
      | nil => exact fun r hr => absurd hr List.not_mem_nil
      | cons call' calls =>
          rw [eppRun, List.forall_mem_cons]
          exact ⟨hcall.cleared, hbefore⟩

end Calls

/-- A host whose chip clears the bit with the third read, and a board that is late once. -/
def slowHost : EppHost Unit where
  io := ⟨fun _ _ => (0x5A, ()), fun _ _ => (0x5A, ()), fun _ _ _ => (), fun _ _ _ => ()⟩
  board := ⟨0x378, 0x778, 0⟩
  answers i := i != 2
  clearedBy := .reads 3
  lines := 0x78

/-- The cycle with the data of the first call is not answered.  The second call has its data. -/
theorem eppCalls_report_slowHost :
    (∀ r ∈ eppRun slowHost true [.read 0x100 4, .read 0x100 4] ⟨⟨0, ()⟩, false, 0⟩,
      r.Reports slowHost true) ∧
    (eppRun slowHost true [.read 0x100 4, .read 0x100 4] ⟨⟨0, ()⟩, false, 0⟩).map
        (fun r => (r.buffer, r.result)) =
      [([0xFF, 0xFF, 0xFF, 0xFF], 0), ([0x5A, 0, 0, 0], 1)] :=
  ⟨(eppCalls_report slowHost true (show 3 ≤ 5 by decide) _ _).1, by decide +kernel⟩

end Mesaflash
