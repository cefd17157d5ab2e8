import Mesaflash.Lib.BitOrder

/-!
An FPGA that is configured from outside.

The FPGA is cleared by a low level at PROGRAM, and needs some time for that.  Then it takes its
configuration, a byte at a time, until that is complete.  What it makes of the bytes is a
parameter.
-/

namespace Mesaflash.Lib

variable {γ : Type}

/-- What an FPGA makes of its configuration. -/
structure FpgaLogic (γ : Type) where
  blank : γ
  step : γ → UInt8 → γ
  /-- The configuration is complete, and the FPGA has started. -/
  done : γ → Bool
  /-- The configuration is faulty. -/
  error : γ → Bool
  /-- How long it takes to clear the configuration. -/
  clearTime : ℕ
  blank_done : done blank = false
  blank_error : error blank = false

namespace FpgaLogic

variable (L : FpgaLogic γ)

/-- An FPGA that has started takes nothing more. -/
def take (c : γ) (b : UInt8) : γ := if L.done c then c else L.step c b

/-- The configuration after some bytes. -/
def load (bytes : List UInt8) : γ := bytes.foldl L.take L.blank

/-- The FPGA has started, without a fault. -/
def Good (c : γ) : Prop := L.done c = true ∧ L.error c = false

instance (c : γ) : Decidable (L.Good c) := inferInstanceAs (Decidable (_ ∧ _))

/-- The FPGA was given some bytes.  If it has not started with them, its configuration may be
gone. -/
structure Loaded (bytes : List UInt8) (c : γ) : Prop where
  good_iff : L.Good c ↔ L.Good (L.load bytes)
  config : L.Good (L.load bytes) → c = L.load bytes

variable {L}

lemma not_good_blank : ¬ L.Good L.blank := by
  intro h
  exact absurd h.1 (by rw [L.blank_done]; decide)

lemma loaded_load (bytes : List UInt8) : L.Loaded bytes (L.load bytes) := ⟨.rfl, fun _ => rfl⟩

lemma loaded_blank {bytes : List UInt8} (h : ¬ L.Good (L.load bytes)) : L.Loaded bytes L.blank :=
  ⟨iff_of_false not_good_blank h, fun hgood => absurd hgood h⟩

end FpgaLogic

/-- The byte on a data bus of an FPGA, whose line D0 has the first bit. -/
def fromBus (b : UInt8) : UInt8 := UInt8.ofBitVec b.toBitVec.reverse

/-- An FPGA with a port for its configuration. -/
structure SlaveFpga (γ : Type) where
  /-- The level at PROGRAM. -/
  program : Bool
  /-- The time until it is cleared. -/
  clearing : ℕ
  config : γ

namespace SlaveFpga

/-- The FPGA has been cleared, and waits for its configuration. -/
def cleared (L : FpgaLogic γ) : SlaveFpga γ := ⟨true, 0, L.blank⟩

/-- The FPGA takes configuration data. -/
def ready (f : SlaveFpga γ) : Bool := f.program && f.clearing == 0

variable (L : FpgaLogic γ)

/-- The level at INIT, which is low until the FPGA is cleared, and after a fault. -/
def init (f : SlaveFpga γ) : Bool := f.ready && !L.error f.config

/-- The level at DONE. -/
def done (f : SlaveFpga γ) : Bool := L.done f.config

/-- The level at PROGRAM is set. -/
def setProgram (high : Bool) (f : SlaveFpga γ) : SlaveFpga γ :=
  if high then { f with program := true } else ⟨false, L.clearTime, L.blank⟩

/-- Time passes. -/
def wait (n : ℕ) (f : SlaveFpga γ) : SlaveFpga γ :=
  if f.program then { f with clearing := f.clearing - n } else f

/-- A byte is on the data bus when the clock rises. -/
def clock (b : UInt8) (f : SlaveFpga γ) : SlaveFpga γ :=
  if f.ready then { f with config := L.take f.config (fromBus b) } else f

variable {L} {f : SlaveFpga γ} {c : γ} {n m : ℕ}

@[simp] lemma setProgram_low : f.setProgram L false = ⟨false, L.clearTime, L.blank⟩ := rfl

@[simp] lemma setProgram_high : f.setProgram L true = { f with program := true } := rfl

@[simp] lemma wait_low : (⟨false, n, c⟩ : SlaveFpga γ).wait m = ⟨false, n, c⟩ := rfl

@[simp] lemma wait_high : (⟨true, n, c⟩ : SlaveFpga γ).wait m = ⟨true, n - m, c⟩ := rfl

@[simp] lemma wait_zero : (⟨true, 0, c⟩ : SlaveFpga γ).wait m = ⟨true, 0, c⟩ := by
  rw [wait_high, Nat.zero_sub]

@[simp] lemma clock_ready (b : UInt8) :
    (⟨true, 0, c⟩ : SlaveFpga γ).clock L b = ⟨true, 0, L.take c (fromBus b)⟩ := rfl

@[simp] lemma init_cleared : (cleared L).init L = true := by
  simp [init, ready, cleared, L.blank_error]

lemma init_clearing (h : n ≠ 0) : (⟨true, n, c⟩ : SlaveFpga γ).init L = false := by
  simp [init, ready, h]

end SlaveFpga

end Mesaflash.Lib
