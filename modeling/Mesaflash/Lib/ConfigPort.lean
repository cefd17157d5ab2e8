import Mathlib.Data.Nat.Notation
import Mathlib.Logic.Function.Basic

/-!
A port that takes configuration words.

An FPGA takes its configuration in words of 16 bits.  It looks for the two words of the
synchronisation, and then takes packets apart: a header names a register and says how many
words follow for it.  A restart, which is a word for the command register, makes the FPGA read
its configuration again, from the address that is in two other registers.

A sequence of words that sets registers one by one and then restarts the FPGA does so from
every state in which the port is not waiting for words of an earlier packet
(`ConfigPort.restarted_program`).
-/

namespace Mesaflash.Lib

/-- What a port waits for. -/
inductive PortPhase where
  | sync
  | secondSync
  | header
  | data (reg left : ℕ)
deriving DecidableEq, Repr

/-- Where an FPGA reads its configuration, and where it does if there is none. -/
structure Restart where
  start : ℕ
  fallback : ℕ
deriving DecidableEq, Repr

/-- A port: what it waits for, its registers, and the restart that it was asked for. -/
structure ConfigPort where
  phase : PortPhase
  regs : ℕ → ℕ
  restarted : Option Restart

namespace ConfigPort

/-- The number of the command register. -/
def cmdReg : ℕ := 0x05

/-- The command that restarts the FPGA. -/
def restartCmd : ℕ := 0x000E

/-- The header of a packet with one word for a register. -/
def headerOf (reg : ℕ) : ℕ := 0x3001 + 0x20 * reg

/-- The addresses that registers hold.  The high byte of the upper half is the command with
which the flash memory is read. -/
def restartOf (regs : ℕ → ℕ) : Restart where
  start := regs 0x14 % 0x100 * 0x10000 + regs 0x13
  fallback := regs 0x16 % 0x100 * 0x10000 + regs 0x15

/-- A word for a register. -/
def takeData (reg left word : ℕ) (p : ConfigPort) : ConfigPort where
  phase := if left ≤ 1 then .header else .data reg (left - 1)
  regs := Function.update p.regs reg word
  restarted := if reg = cmdReg ∧ word = restartCmd then some (restartOf p.regs) else p.restarted

/-- A word comes.  An FPGA that is restarted does not take any more. -/
def take (p : ConfigPort) (word : ℕ) : ConfigPort :=
  if p.restarted.isSome then p
  else
    match p.phase with
    | .sync => if word = 0xAA99 then { p with phase := .secondSync } else p
    | .secondSync =>
      if word = 0x5566 then { p with phase := .header }
      else if word = 0xAA99 then p
      else { p with phase := .sync }
    | .header =>
      if word / 0x800 = 6 ∧ word % 0x20 ≠ 0 then
        { p with phase := .data (word / 0x20 % 0x40) (word % 0x20) }
      else p
    | .data reg left => p.takeData reg left word

/-- Words come. -/
def run (p : ConfigPort) (words : List ℕ) : ConfigPort := words.foldl take p

@[simp] lemma run_nil (p : ConfigPort) : p.run [] = p := rfl

@[simp] lemma run_cons (p : ConfigPort) (word : ℕ) (words : List ℕ) :
    p.run (word :: words) = (p.take word).run words := rfl

lemma run_append (p : ConfigPort) (words words' : List ℕ) :
    p.run (words ++ words') = (p.run words).run words' := List.foldl_append

/-- A port that is not restarted and does not wait for words of a packet. -/
structure Ready (p : ConfigPort) : Prop where
  running : p.restarted = none
  between : ∀ reg left, p.phase ≠ .data reg left

/-- A port that waits for a header. -/
structure Synced (p : ConfigPort) : Prop where
  running : p.restarted = none
  header : p.phase = .header

variable {p : ConfigPort}

lemma run_of_restarted {r : Restart} (h : p.restarted = some r) (words : List ℕ) :
    p.run words = p := by
  induction words with
  | nil => rfl
  | cons word words ih => rw [run_cons, take, h, Option.isSome_some, if_pos rfl, ih]

/-- A word between packets does nothing to the registers. -/
lemma Ready.take (h : p.Ready) {word : ℕ} (hword : word / 0x800 ≠ 6) :
    (p.take word).Ready ∧ (p.take word).regs = p.regs := by
  obtain ⟨phase, regs, restarted⟩ := p
  obtain ⟨rfl, hphase⟩ := h
  cases phase with
  | sync =>
      simp only [ConfigPort.take, Option.isSome_none, Bool.false_eq_true, if_false]
      split
      · exact ⟨⟨rfl, nofun⟩, rfl⟩
      · exact ⟨⟨rfl, nofun⟩, rfl⟩
  | secondSync =>
      simp only [ConfigPort.take, Option.isSome_none, Bool.false_eq_true, if_false]
      split
      · exact ⟨⟨rfl, nofun⟩, rfl⟩
      · split
        · exact ⟨⟨rfl, nofun⟩, rfl⟩
        · exact ⟨⟨rfl, nofun⟩, rfl⟩
  | header =>
      simp only [ConfigPort.take, Option.isSome_none, Bool.false_eq_true, if_false, hword,
        false_and]
      exact ⟨⟨rfl, nofun⟩, trivial⟩
  | data reg left => exact absurd rfl (hphase reg left)

lemma Ready.run (h : p.Ready) {words : List ℕ} (hwords : ∀ word ∈ words, word / 0x800 ≠ 6) :
    (p.run words).Ready ∧ (p.run words).regs = p.regs := by
  induction words generalizing p with
  | nil => exact ⟨h, rfl⟩
  | cons word words ih =>
      obtain ⟨hready, hregs⟩ := h.take (hwords word List.mem_cons_self)
      obtain ⟨hrun, hrun'⟩ := ih hready fun w hw => hwords w (List.mem_cons_of_mem _ hw)
      exact ⟨hrun, hrun'.trans hregs⟩

/-- The synchronisation. -/
lemma Ready.sync (h : p.Ready) :
    (p.run [0xAA99, 0x5566]).Synced ∧ (p.run [0xAA99, 0x5566]).regs = p.regs := by
  obtain ⟨phase, regs, restarted⟩ := p
  obtain ⟨rfl, hphase⟩ := h
  cases phase with
  | sync => exact ⟨⟨rfl, rfl⟩, rfl⟩
  | secondSync => exact ⟨⟨rfl, rfl⟩, rfl⟩
  | header => exact ⟨⟨rfl, rfl⟩, rfl⟩
  | data reg left => exact absurd rfl (hphase reg left)

/-- What a header of a packet with one word says. -/
lemma headerOf_fields {reg : ℕ} (hreg : reg < 0x40) :
    headerOf reg / 0x800 = 6 ∧ headerOf reg % 0x20 = 1 ∧ headerOf reg / 0x20 % 0x40 = reg := by
  rw [headerOf]
  omega

lemma Synced.take_header (h : p.Synced) {reg : ℕ} (hreg : reg < 0x40) :
    p.take (headerOf reg) = { p with phase := .data reg 1 } := by
  obtain ⟨hop, hcount, hfield⟩ := headerOf_fields hreg
  simp [take, h.running, h.header, hop, hcount, hfield]

/-- A register is set. -/
lemma Synced.set (h : p.Synced) {reg word : ℕ} (hreg : reg < 0x40)
    (hword : ¬ (reg = cmdReg ∧ word = restartCmd)) :
    (p.run [headerOf reg, word]).Synced ∧
      (p.run [headerOf reg, word]).regs = Function.update p.regs reg word := by
  have hrun : p.run [headerOf reg, word] =
      ⟨.header, Function.update p.regs reg word, p.restarted⟩ := by
    rw [run_cons, h.take_header hreg, run_cons, run_nil]
    simp [take, h.running, takeData, hword]
  rw [hrun]
  exact ⟨⟨h.running, rfl⟩, rfl⟩

/-- The FPGA is restarted. -/
lemma Synced.restart (h : p.Synced) (rest : List ℕ) :
    (p.run (headerOf cmdReg :: restartCmd :: rest)).restarted = some (restartOf p.regs) := by
  rw [run_cons, h.take_header (by decide), run_cons]
  have hrestart : (ConfigPort.take { p with phase := .data cmdReg 1 } restartCmd).restarted =
      some (restartOf p.regs) := by
    simp [take, h.running, takeData]
  rw [run_of_restarted hrestart, hrestart]

/-- Words that set registers. -/
def setRegs (writes : List (ℕ × ℕ)) : List ℕ := writes.flatMap fun w => [headerOf w.1, w.2]

/-- A write sets a register that there is, and does not restart the FPGA. -/
def OnlySets (w : ℕ × ℕ) : Prop := w.1 < 0x40 ∧ ¬ (w.1 = cmdReg ∧ w.2 = restartCmd)

/-- Registers after some writes. -/
def written (regs : ℕ → ℕ) (writes : List (ℕ × ℕ)) : ℕ → ℕ :=
  writes.foldl (fun regs w => Function.update regs w.1 w.2) regs

lemma Synced.setRegs (h : p.Synced) {writes : List (ℕ × ℕ)} (hwrites : ∀ w ∈ writes, OnlySets w) :
    (p.run (setRegs writes)).Synced ∧
      (p.run (ConfigPort.setRegs writes)).regs = written p.regs writes := by
  induction writes generalizing p with
  | nil => exact ⟨h, rfl⟩
  | cons w writes ih =>
      obtain ⟨hreg, hword⟩ := hwrites w List.mem_cons_self
      obtain ⟨hset, hregs⟩ := h.set hreg hword
      obtain ⟨hrun, hrun'⟩ := ih hset fun v hv => hwrites v (List.mem_cons_of_mem _ hv)
      rw [ConfigPort.setRegs, List.flatMap_cons, run_append]
      exact ⟨hrun, hrun'.trans (by rw [hregs]; rfl)⟩

/-- **A program restarts the FPGA with the registers that it has set.** -/
theorem restarted_program (h : p.Ready) {dummies : List ℕ} (hdummies : ∀ w ∈ dummies, w = 0xFFFF)
    {writes : List (ℕ × ℕ)} (hwrites : ∀ w ∈ writes, OnlySets w) (rest : List ℕ) :
    (p.run (dummies ++ ([0xAA99, 0x5566] ++ (setRegs writes ++
      headerOf cmdReg :: restartCmd :: rest)))).restarted =
        some (restartOf (written p.regs writes)) := by
  have hskip : ∀ word ∈ dummies, word / 0x800 ≠ 6 := by
    intro word hword
    rw [hdummies word hword]
    decide
  obtain ⟨hready, hregs⟩ := h.run hskip
  obtain ⟨hsync, hregs'⟩ := hready.sync
  obtain ⟨hset, hregs''⟩ := hsync.setRegs hwrites
  rw [run_append, run_append, run_append, hset.restart, hregs'', hregs', hregs]

end ConfigPort

end Mesaflash.Lib
