import Mathlib.Data.Nat.Bitwise
import Mathlib.Tactic.Common

/-!
A serial bus with a chip select line (SPI, mode 0).

A slave exchanges bytes with the master as long as it is selected: while the master
shifts a byte out on DIN, the slave shifts one out on DOUT.  On the wires this takes
eight clock cycles.  The slave takes a bit from DIN at a rising edge of the clock and
shows the next bit on DOUT at a falling edge, the most significant bit first.

`SpiSlave` is a slave that sees bytes, `SpiWire` the same slave on its wires.
`InByte` says where the wires are within a byte; the lemmas about it say what a clock
cycle does, so that whoever drives the wires only has to show which levels it puts
on them.
-/

namespace Mesaflash.Lib

variable {σ : Type}

/-- A slave, as the bytes that it exchanges. -/
structure SpiSlave (σ : Type) where
  select : σ → σ
  deselect : σ → σ
  /-- The byte that is shifted out next. -/
  out : σ → UInt8
  /-- What the slave makes of the byte that it got in exchange. -/
  exchange : UInt8 → σ → σ

/-- Whether the slave does not care for the next byte. -/
def SpiSlave.Deaf (D : SpiSlave σ) (d : σ) : Prop := ∀ x y, D.exchange x d = D.exchange y d

/-- The bytes are sent, one after the other. -/
def SpiSlave.send (D : SpiSlave σ) (bytes : List UInt8) (d : σ) : σ :=
  bytes.foldl (fun d x => D.exchange x d) d

/-- The slave is selected, gets the bytes, and acts. -/
def SpiSlave.window (D : SpiSlave σ) (bytes : List UInt8) (d : σ) : σ :=
  D.deselect (D.send bytes (D.select d))

/-- The next `n` bytes that the slave shifts out in exchange for zeros. -/
def SpiSlave.shiftOut (D : SpiSlave σ) : ℕ → σ → List UInt8 × σ
  | 0, d => ([], d)
  | n + 1, d =>
    let rest := D.shiftOut n (D.exchange 0 d)
    (D.out d :: rest.1, rest.2)

/-! ### Wires -/

/-- The lines that the master drives. -/
structure SpiPins where
  /-- Chip select; the slave is selected while it is low. -/
  cs : Bool
  din : Bool
  clk : Bool
deriving DecidableEq, Repr

/-- A slave and its wires. -/
structure SpiWire (σ : Type) where
  pins : SpiPins
  dev : σ
  /-- The number of bits that were taken of the current byte. -/
  count : ℕ
  /-- These bits. -/
  shift : ℕ
  dout : Bool

section Wire

variable (D : SpiSlave σ)

/-- The bit that the slave shows next. -/
def SpiSlave.bit (d : σ) (count : ℕ) : Bool := (D.out d).toNat.testBit (7 - count)

/-- The slave takes a bit; the eighth one completes a byte. -/
def SpiWire.take (w : SpiWire σ) : SpiWire σ :=
  let shift := 2 * w.shift + w.pins.din.toNat
  if w.count = 7 then { w with dev := D.exchange shift.toUInt8 w.dev, count := 0, shift := 0 }
  else { w with count := w.count + 1, shift }

/-- The master puts new levels on its lines. -/
def SpiWire.drive (pins : SpiPins) (w : SpiWire σ) : SpiWire σ :=
  if w.pins.cs then
    if pins.cs then { w with pins }
    else { pins, dev := D.select w.dev, count := 0, shift := 0, dout := D.bit (D.select w.dev) 0 }
  else if pins.cs then { w with pins, dev := D.deselect w.dev, count := 0, shift := 0 }
  else if !w.pins.clk && pins.clk then SpiWire.take D { w with pins }
  else if w.pins.clk && !pins.clk then { w with pins, dout := D.bit w.dev w.count }
  else { w with pins }

def SpiWire.setCs (v : Bool) (w : SpiWire σ) : SpiWire σ := w.drive D { w.pins with cs := v }

def SpiWire.setDin (v : Bool) (w : SpiWire σ) : SpiWire σ := w.drive D { w.pins with din := v }

def SpiWire.setClk (v : Bool) (w : SpiWire σ) : SpiWire σ := w.drive D { w.pins with clk := v }

/-- A clock cycle. -/
def SpiWire.cycle (w : SpiWire σ) : SpiWire σ := (w.setClk D true).setClk D false

variable {D} {w : SpiWire σ}

@[simp] lemma pins_drive (pins : SpiPins) (w : SpiWire σ) : (w.drive D pins).pins = pins := by
  unfold SpiWire.drive SpiWire.take
  split_ifs <;> rfl

@[simp] lemma pins_cycle (w : SpiWire σ) : (w.cycle D).pins = { w.pins with clk := false } := by
  rw [SpiWire.cycle, SpiWire.setClk, SpiWire.setClk, pins_drive, pins_drive]

/-- A rising edge of the clock. -/
lemma setClk_true (hcs : w.pins.cs = false) (hclk : w.pins.clk = false) :
    w.setClk D true = SpiWire.take D { w with pins := { w.pins with clk := true } } := by
  simp [SpiWire.setClk, SpiWire.drive, hcs, hclk]

/-- A falling edge of the clock. -/
lemma setClk_false (hcs : w.pins.cs = false) (hclk : w.pins.clk = true) :
    w.setClk D false =
      { w with pins := { w.pins with clk := false }, dout := D.bit w.dev w.count } := by
  simp [SpiWire.setClk, SpiWire.drive, hcs, hclk]

/-! ### A slave that is not selected -/

/-- The slave is not selected, and it is `d`. -/
structure Unselected (d : σ) (w : SpiWire σ) : Prop where
  cs : w.pins.cs = true
  dev : w.dev = d

/-- The slave notices nothing but its selection. -/
lemma Unselected.drive {d : σ} (h : Unselected d w) {pins : SpiPins} (hcs : pins.cs = true) :
    Unselected d (w.drive D pins) := by
  refine ⟨by rw [pins_drive, hcs], ?_⟩
  rw [SpiWire.drive, if_pos h.cs, if_pos hcs]
  exact h.dev

/-! ### Within a byte -/

/-- The slave `d` is selected, has taken `k` bits of the byte `x`, and shows the next bit
of its own byte. -/
structure InByte (D : SpiSlave σ) (d : σ) (x : UInt8) (k : ℕ) (w : SpiWire σ) : Prop where
  cs : w.pins.cs = false
  clk : w.pins.clk = false
  dev : w.dev = d
  count : w.count = k
  shift : w.shift = x.toNat >>> (8 - k)
  dout : w.dout = D.bit d k

variable {d : σ} {x : UInt8} {k : ℕ}

lemma shiftRight_byte (x : UInt8) : x.toNat >>> 8 = 0 := by
  rw [Nat.shiftRight_eq_div_pow]
  exact Nat.div_eq_of_lt x.toNat_lt

/-- At the start of a byte, no bit of it is settled. -/
lemma InByte.start (h : InByte D d x 0 w) (y : UInt8) : InByte D d y 0 w :=
  { h with shift := h.shift.trans ((shiftRight_byte x).trans (shiftRight_byte y).symm) }

/-- The chip select line falls. -/
lemma Unselected.select (h : Unselected d w) (hclk : w.pins.clk = false) (x : UInt8) :
    InByte D (D.select d) x 0 (w.setCs D false) := by
  have hdrive : w.setCs D false = ⟨{ w.pins with cs := false }, D.select d, 0, 0,
      D.bit (D.select d) 0⟩ := by
    rw [SpiWire.setCs, SpiWire.drive, if_pos h.cs, if_neg Bool.false_ne_true, h.dev]
  rw [hdrive]
  exact ⟨rfl, hclk, rfl, rfl, (shiftRight_byte x).symm, rfl⟩

/-- The chip select line rises. -/
lemma InByte.deselect (h : InByte D d x k w) : Unselected (D.deselect d) (w.setCs D true) := by
  refine ⟨by rw [SpiWire.setCs, pins_drive], ?_⟩
  rw [SpiWire.setCs, SpiWire.drive, if_neg (by simp [h.cs]), if_pos rfl, h.dev]

/-- A change of DIN is not noticed before the clock rises. -/
lemma InByte.setDin (h : InByte D d x k w) (v : Bool) : InByte D d x k (w.setDin D v) := by
  have hdrive : w.setDin D v = { w with pins := { w.pins with din := v } } := by
    simp [SpiWire.setDin, SpiWire.drive, h.cs, h.clk]
  rw [hdrive]
  exact ⟨h.cs, h.clk, h.dev, h.count, h.shift, h.dout⟩

/-- One more bit of a number. -/
lemma shiftRight_bit (n m : ℕ) : 2 * (n >>> (m + 1)) + (n.testBit m).toNat = n >>> m := by
  rw [Nat.shiftRight_succ, Nat.testBit_eq_decide_div_mod_eq, ← Nat.shiftRight_eq_div_pow]
  rcases Nat.mod_two_eq_zero_or_one (n >>> m) with h | h
  · rw [h]
    simp
    omega
  · rw [h]
    simp
    omega

/-- What the slave has taken at the next rising edge. -/
lemma InByte.shift_succ (h : InByte D d x k w) (hk : k < 8)
    (hdin : w.pins.din = x.toNat.testBit (7 - k)) :
    2 * w.shift + w.pins.din.toNat = x.toNat >>> (8 - (k + 1)) := by
  rw [h.shift, hdin, show 8 - k = 7 - k + 1 by omega, shiftRight_bit]
  congr 1
  omega

/-- A clock cycle within a byte. -/
lemma InByte.cycle (h : InByte D d x k w) (hk : k < 7)
    (hdin : w.pins.din = x.toNat.testBit (7 - k)) : InByte D d x (k + 1) (w.cycle D) := by
  have hrise : w.setClk D true = { w with
      pins := { w.pins with clk := true }
      count := k + 1
      shift := x.toNat >>> (8 - (k + 1)) } := by
    have hcount : w.count ≠ 7 := by
      rw [h.count]
      omega
    rw [setClk_true h.cs h.clk, SpiWire.take, if_neg hcount, h.count]
    exact congrArg (fun n => SpiWire.mk _ _ _ n _) (h.shift_succ (by omega) hdin)
  rw [SpiWire.cycle, hrise, setClk_false]
  · exact ⟨h.cs, rfl, h.dev, rfl, rfl, congrArg (D.bit · (k + 1)) h.dev⟩
  · exact h.cs
  · rfl

/-- The clock cycle that completes a byte. -/
lemma InByte.cycle_last (h : InByte D d x 7 w) (hdin : w.pins.din = x.toNat.testBit 0)
    (y : UInt8) : InByte D (D.exchange x d) y 0 (w.cycle D) := by
  have hbyte : (2 * w.shift + w.pins.din.toNat).toUInt8 = x := by
    rw [h.shift_succ (by omega) hdin]
    exact UInt8.ofNat_toNat
  have hrise : w.setClk D true = { w with
      pins := { w.pins with clk := true }, dev := D.exchange x d, count := 0, shift := 0 } := by
    rw [setClk_true h.cs h.clk, SpiWire.take, if_pos h.count]
    dsimp only
    rw [hbyte, h.dev]
  rw [SpiWire.cycle, hrise, setClk_false]
  · exact ⟨h.cs, rfl, rfl, rfl, (shiftRight_byte y).symm, rfl⟩
  · exact h.cs
  · rfl

end Wire

end Mesaflash.Lib
