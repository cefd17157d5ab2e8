import Mathlib.Data.Nat.Bitwise
import Mathlib.Tactic.Common
import Mathlib.Tactic.Ring

/-!
A serial EEPROM on three wires (Microwire).

The chip takes a bit from DI at a rising edge of the clock while it is selected.  The first bit
that is 1 starts a command: two bits say what to do, and the bits behind them are an address.
With the last bit of the address of a read the chip puts a 0 on DO, and with every edge that
follows it shows a bit of the word at that address, the highest one first, and then the words
behind it.  When it is not selected, the chip forgets where it was.
-/

namespace Mesaflash.Lib

/-- The lines that the master drives. -/
structure MicrowirePins where
  cs : Bool
  clk : Bool
  di : Bool
deriving DecidableEq, Repr

/-- What a selected chip is doing. -/
inductive MicrowirePhase where
  | waiting
  /-- The bits that came since the start. -/
  | command (bits : List Bool)
  /-- The word that is read, and the number of bits that were shown. -/
  | reading (addr shown : ℕ)
  /-- A command that is not a read. -/
  | other
deriving DecidableEq, Repr

/-- A chip with the words that it holds. -/
structure MicrowireChip where
  words : ℕ → ℕ
  phase : MicrowirePhase
  dout : Bool

/-- The number that bits stand for, the highest bit first. -/
def ofBits (bits : List Bool) : ℕ := bits.foldl (fun n b => 2 * n + b.toNat) 0

/-- The lowest `n` bits of a number, the highest one first. -/
def bitsOf (n value : ℕ) : List Bool := (List.range n).map fun i => value.testBit (n - 1 - i)

namespace MicrowireChip

variable (addrBits wordBits : ℕ)

/-- A bit that a chip shows while it reads. -/
def shownBit (words : ℕ → ℕ) (addr i : ℕ) : Bool :=
  (words (addr + i / wordBits)).testBit (wordBits - 1 - i % wordBits)

/-- A rising edge of the clock. -/
def take (di : Bool) (chip : MicrowireChip) : MicrowireChip :=
  match chip.phase with
  | .waiting => if di then { chip with phase := .command [] } else chip
  | .command bits =>
    if bits.length = addrBits + 1 then
      if bits.take 2 = [true, false] then
        { chip with phase := .reading (ofBits (bits.drop 2 ++ [di])) 0, dout := false }
      else { chip with phase := .other }
    else { chip with phase := .command (bits ++ [di]) }
  | .reading addr shown =>
    { chip with
      phase := .reading addr (shown + 1)
      dout := shownBit wordBits chip.words addr shown }
  | .other => chip

/-- The master puts new levels on its lines. -/
def drive (pins pins' : MicrowirePins) (chip : MicrowireChip) : MicrowireChip :=
  if pins'.cs then
    if !pins.clk && pins'.clk && pins.cs then chip.take addrBits wordBits pins'.di else chip
  else { chip with phase := .waiting }

variable {addrBits wordBits} {chip : MicrowireChip}

@[simp] lemma words_take (di : Bool) : (chip.take addrBits wordBits di).words = chip.words := by
  unfold take
  split
  · split <;> rfl
  · split
    · split <;> rfl
    · rfl
  · rfl
  · rfl

/-- Bits come. -/
def takes (addrBits wordBits : ℕ) (bits : List Bool) (chip : MicrowireChip) : MicrowireChip :=
  bits.foldl (fun chip di => chip.take addrBits wordBits di) chip

@[simp] lemma takes_nil : chip.takes addrBits wordBits [] = chip := rfl

@[simp] lemma takes_cons (di : Bool) (bits : List Bool) :
    chip.takes addrBits wordBits (di :: bits) =
      (chip.take addrBits wordBits di).takes addrBits wordBits bits := rfl

lemma takes_append (bits bits' : List Bool) :
    chip.takes addrBits wordBits (bits ++ bits') =
      (chip.takes addrBits wordBits bits).takes addrBits wordBits bits' := List.foldl_append

/-- The bits of a command are collected. -/
lemma takes_command (words : ℕ → ℕ) (dout : Bool) {bits more : List Bool}
    (hlen : bits.length + more.length ≤ addrBits + 1) :
    (⟨words, .command bits, dout⟩ : MicrowireChip).takes addrBits wordBits more =
      ⟨words, .command (bits ++ more), dout⟩ := by
  induction more generalizing bits with
  | nil => rw [takes_nil, List.append_nil]
  | cons di more ih =>
      rw [List.length_cons] at hlen
      have htake : (⟨words, .command bits, dout⟩ : MicrowireChip).take addrBits wordBits di =
          ⟨words, .command (bits ++ [di]), dout⟩ := by
        simp only [take]
        rw [if_neg (by omega)]
      rw [takes_cons, htake, ih (by simp; omega), List.append_assoc, List.singleton_append]

/-- The bits of a read command. -/
def readCommand (addr : List Bool) : List Bool := true :: [true, false] ++ addr

/-- **A read command makes the chip show a 0 and then the word.** -/
lemma takes_readCommand (words : ℕ → ℕ) (dout : Bool) {addr : List Bool} (hpos : 0 < addrBits)
    (hlen : addr.length = addrBits) :
    (⟨words, .waiting, dout⟩ : MicrowireChip).takes addrBits wordBits (readCommand addr) =
      ⟨words, .reading (ofBits addr) 0, false⟩ := by
  rcases List.eq_nil_or_concat addr with rfl | ⟨init, last, rfl⟩
  · exact absurd hlen (by simp; omega)
  · rw [List.concat_eq_append, List.length_append, List.length_singleton] at hlen
    have hstart : (⟨words, .waiting, dout⟩ : MicrowireChip).take addrBits wordBits true =
        ⟨words, .command [], dout⟩ := rfl
    have hinit : [true, false] ++ init ++ [last] = [true, false] ++ (init ++ [last]) := by simp
    rw [readCommand, List.concat_eq_append, List.cons_append, takes_cons, hstart, ← hinit,
      takes_append, takes_command words dout (by simp; omega), takes_cons, takes_nil]
    simp only [take, List.nil_append]
    rw [if_pos (by simp; omega)]
    simp

/-- What a clock cycle shows of the word. -/
lemma take_reading (words : ℕ → ℕ) (addr shown : ℕ) (dout di : Bool) :
    (⟨words, .reading addr shown, dout⟩ : MicrowireChip).take addrBits wordBits di =
      ⟨words, .reading addr (shown + 1), shownBit wordBits words addr shown⟩ := rfl

lemma shownBit_of_lt {words : ℕ → ℕ} {addr i : ℕ} (hi : i < wordBits) :
    shownBit wordBits words addr i = (words addr).testBit (wordBits - 1 - i) := by
  rw [shownBit, Nat.div_eq_of_lt hi, Nat.mod_eq_of_lt hi, Nat.add_zero]

/-! ### Levels -/

/-- No edge. -/
lemma drive_of_low {pins pins' : MicrowirePins} (hcs : pins'.cs = true)
    (h : pins'.clk = false ∨ pins.clk = true ∨ pins.cs = false) :
    chip.drive addrBits wordBits pins pins' = chip := by
  rw [drive, if_pos hcs, if_neg]
  rcases h with h | h | h <;> simp [h]

/-- A rising edge. -/
lemma drive_rising {pins pins' : MicrowirePins} (hcs : pins.cs = true) (hcs' : pins'.cs = true)
    (hclk : pins.clk = false) (hclk' : pins'.clk = true) :
    chip.drive addrBits wordBits pins pins' = chip.take addrBits wordBits pins'.di := by
  rw [drive, if_pos hcs', if_pos (by simp [hcs, hclk, hclk'])]

/-- The chip is deselected. -/
lemma drive_deselect {pins pins' : MicrowirePins} (hcs : pins'.cs = false) :
    chip.drive addrBits wordBits pins pins' = ⟨chip.words, .waiting, chip.dout⟩ := by
  rw [drive, if_neg (by simp [hcs])]

end MicrowireChip

/-! ### Numbers and their bits -/

lemma length_bitsOf (n value : ℕ) : (bitsOf n value).length = n := by
  simp [bitsOf]

lemma bitsOf_succ (n value : ℕ) :
    bitsOf (n + 1) value = value.testBit n :: bitsOf n value := by
  rw [bitsOf, List.range_succ_eq_map, List.map_cons, List.map_map, bitsOf]
  refine congrArg₂ _ (by simp) (List.map_congr_left fun i _ => ?_)
  simp only [Function.comp_apply]
  congr 1
  omega

lemma foldl_bits (bits : List Bool) (n : ℕ) :
    bits.foldl (fun n b => 2 * n + b.toNat) n = n * 2 ^ bits.length + ofBits bits := by
  induction bits generalizing n with
  | nil => simp [ofBits]
  | cons b bits ih =>
      have hcons : ofBits (b :: bits) = (2 * 0 + b.toNat) * 2 ^ bits.length + ofBits bits :=
        ih (2 * 0 + b.toNat)
      rw [List.foldl_cons, ih, hcons, List.length_cons, pow_succ]
      ring

/-- A number is its bits. -/
lemma ofBits_bitsOf (n value : ℕ) : ofBits (bitsOf n value) = value % 2 ^ n := by
  induction n with
  | zero => simp [bitsOf, ofBits, Nat.mod_one]
  | succ n ih =>
      have hcons : ofBits (bitsOf (n + 1) value) =
          (value.testBit n).toNat * 2 ^ (bitsOf n value).length + ofBits (bitsOf n value) := by
        rw [bitsOf_succ, ofBits, List.foldl_cons, foldl_bits]
        simp
      rw [hcons, length_bitsOf, ih, Nat.mod_pow_succ, Nat.toNat_testBit]
      ring

end Mesaflash.Lib
