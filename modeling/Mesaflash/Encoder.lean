import Mesaflash.Hostmot2
import Mesaflash.Lib.Unwrap
import Mathlib.Algebra.Field.Rat

/-!
Reading a muxed encoder.

A counter of the board has 16 bits for the position and 16 bits for the time at which it was
latched.  Each read adds the change of the counter to a count of 32 bits and computes a
velocity from the change of the time.

The floating point numbers are a parameter: only the arithmetic that is done with them is
part of the model.
-/

namespace Mesaflash

open Lib

def hm2ModOffsMuxEncoderCounter : ℕ := 0x0000
def hm2ModOffsMuxEncoderLatchCcr : ℕ := 0x0100
def hm2ModOffsMuxEncoderTsCount : ℕ := 0x0300

/-- `encoder_module_t`, without the board. -/
structure EncoderModule (F : Type) where
  count : UInt16
  timeStamp : UInt16
  globalTimeStamp : UInt16
  rawCounts : Int32
  position : F
  velocity : F
  scale : F
  baseAddress : UInt16
  instance_ : ℕ
  instanceStride : ℕ

/-- `reg_count`. -/
def regCount (word : ℕ) : UInt16 := word.toUInt16

/-- `reg_time_stamp`. -/
def regTimeStamp (word : ℕ) : UInt16 := (word >>> 16).toUInt16

/-- The correction of `reg_count_diff`. -/
def correctCountDiff (diff : ℤ) : ℤ :=
  let diff := if diff > 32768 then diff - 65536 else diff
  if diff < -32768 then diff + 65536 else diff

section

variable {F : Type}

/-- `reg_count_diff`, as it is computed first. -/
def regCountDiff (enc : EncoderModule F) (word : ℕ) : ℤ :=
  (regCount word).toNat - enc.count.toNat

/-- `dT_clocks`. -/
def dTClocks (enc : EncoderModule F) (word : ℕ) : ℤ :=
  let tscRollover : ℤ := if regTimeStamp word < enc.timeStamp then 1 else 0
  ((regTimeStamp word).toNat - enc.timeStamp.toNat) + tscRollover * 65536

variable [Zero F] [One F] [Mul F] [Div F] [IntCast F] [DecidableEq F]

/-- What `encoder_read` does with the registers that it has read. -/
def encoderUpdate (secondsPerTsdivClock : F) (enc : EncoderModule F) (tsc word : ℕ) :
    EncoderModule F :=
  let scale := if enc.scale = 0 then 1 else enc.scale
  let diff := regCountDiff enc word
  let rawCounts := if diff = 0 then enc.rawCounts
    else enc.rawCounts + Int32.ofInt (correctCountDiff diff)
  let dSCounts := rawCounts - enc.rawCounts
  { enc with
    scale := scale
    rawCounts := rawCounts
    velocity :=
      if diff = 0 then 0
      else if dTClocks enc word > 0 then
        ((dSCounts.toInt : F) / scale) / ((dTClocks enc word : F) * secondsPerTsdivClock)
      else enc.velocity
    position := (rawCounts.toInt : F) / scale
    count := regCount word
    timeStamp := regTimeStamp word
    globalTimeStamp := tsc.toUInt16 }

/-- What `encoder_init` leaves in the fields. -/
def encoderInitial (baseAddress : UInt16) (instance_ instanceStride : ℕ) : EncoderModule F where
  count := 0
  timeStamp := 0
  globalTimeStamp := 0
  rawCounts := 0
  position := 0
  velocity := 0
  scale := 1
  baseAddress := baseAddress
  instance_ := instance_
  instanceStride := instanceStride

end

/-! ### Reading the registers -/

section

variable {σ F : Type}

/-- The address of a register of the instance. -/
def EncoderModule.register (enc : EncoderModule F) (offs : ℕ) : ℕ :=
  enc.baseAddress.toNat + offs + enc.instance_ * enc.instanceStride

/-- The word that the counter shows when it is read. -/
def countWord (bus : RegisterBus σ) (enc : EncoderModule F) (s : σ) : ℕ :=
  (bus.read (enc.register hm2ModOffsMuxEncoderCounter)
    (bus.read (enc.baseAddress.toNat + hm2ModOffsMuxEncoderTsCount) s).2).1

variable [Zero F] [One F] [Mul F] [Div F] [IntCast F] [DecidableEq F]

/-- `encoder_read`, for a pointer that is not null.  It returns 0. -/
def encoderRead (bus : RegisterBus σ) (secondsPerTsdivClock : F) (enc : EncoderModule F) (s : σ) :
    EncoderModule F × σ :=
  let (tsc, s) := bus.read (enc.baseAddress.toNat + hm2ModOffsMuxEncoderTsCount) s
  let (count, s) := bus.read (enc.register hm2ModOffsMuxEncoderCounter) s
  let (_, s) := bus.read (enc.register hm2ModOffsMuxEncoderLatchCcr) s
  (encoderUpdate secondsPerTsdivClock enc tsc count, s)

/-- The encoder after a number of reads.  The registers are found in the state `s n` by the
read `n`, whatever happened to them since the read before. -/
def encoderRun (bus : RegisterBus σ) (secondsPerTsdivClock : F) (enc : EncoderModule F)
    (s : ℕ → σ) : ℕ → EncoderModule F
  | 0 => enc
  | n + 1 =>
    (encoderRead bus secondsPerTsdivClock (encoderRun bus secondsPerTsdivClock enc s n) (s n)).1

end

/-! ### One read -/

lemma regCount_toNat (word : ℕ) : (regCount word).toNat = word % 65536 := by
  simp [regCount]

lemma regTimeStamp_toNat (word : ℕ) : (regTimeStamp word).toNat = word / 65536 % 65536 := by
  simp [regTimeStamp, Nat.shiftRight_eq_div_pow]

lemma correctCountDiff_eq {diff : ℤ} (hlo : -65536 < diff) (hhi : diff < 65536) :
    correctCountDiff diff = unwrapDiff 32768 diff := by
  unfold correctCountDiff unwrapDiff
  dsimp only
  -- the second correction never follows on the first
  split_ifs <;> omega

section OneRead

variable {F : Type} (secs : F) (enc : EncoderModule F) (tsc word : ℕ)

lemma regCountDiff_bounds : -65536 < regCountDiff enc word ∧ regCountDiff enc word < 65536 := by
  have h₁ := (regCount word).toNat_lt
  have h₂ := enc.count.toNat_lt
  constructor <;> rw [regCountDiff] <;> omega

/-- A time of less than 65536 ticks is computed from its two stamps. -/
lemma dTClocks_eq {t t' : ℤ} (h₀ : 0 ≤ t' - t) (h₁ : t' - t ≤ 65535)
    (ht : (enc.timeStamp.toNat : ℤ) = t % 65536)
    (ht' : ((regTimeStamp word).toNat : ℤ) = t' % 65536) :
    dTClocks enc word = t' - t := by
  unfold dTClocks
  simp only [UInt16.lt_iff_toNat_lt]
  -- the later stamp is the smaller one when the clock has passed a multiple of 65536 between
  split_ifs with hlt <;> omega

variable [Zero F] [One F] [Mul F] [Div F] [IntCast F] [DecidableEq F]

@[simp] lemma encoderUpdate_count : (encoderUpdate secs enc tsc word).count = regCount word := rfl

@[simp] lemma encoderUpdate_timeStamp :
    (encoderUpdate secs enc tsc word).timeStamp = regTimeStamp word := rfl

@[simp] lemma encoderUpdate_register (offs : ℕ) :
    (encoderUpdate secs enc tsc word).register offs = enc.register offs := rfl

/-- The count changes by the corrected difference, which is 0 for an idle encoder. -/
lemma encoderUpdate_rawCounts :
    (encoderUpdate secs enc tsc word).rawCounts =
      enc.rawCounts + Int32.ofInt (unwrapDiff 32768 (regCountDiff enc word)) := by
  rw [← correctCountDiff_eq (regCountDiff_bounds enc word).1 (regCountDiff_bounds enc word).2]
  by_cases h : regCountDiff enc word = 0
  · simp [encoderUpdate, h, correctCountDiff]
  · simp [encoderUpdate, h]

lemma encoderUpdate_rawCounts_modEq :
    (encoderUpdate secs enc tsc word).rawCounts.toInt ≡
      enc.rawCounts.toInt + unwrapDiff 32768 (regCountDiff enc word) [ZMOD 2 ^ 32] := by
  rw [encoderUpdate_rawCounts, Int32.toInt_add, Int32.toInt_ofInt]
  exact (bmod_modEq _ (2 ^ 32)).trans ((bmod_modEq _ Int32.size).add_left _)

/-- The count and the register agree modulo 65536 after a read if they did before. -/
lemma encoderUpdate_modEq (h : enc.rawCounts.toInt ≡ enc.count.toNat [ZMOD 65536]) :
    (encoderUpdate secs enc tsc word).rawCounts.toInt ≡ (regCount word).toNat [ZMOD 65536] := by
  have hraw := (encoderUpdate_rawCounts_modEq secs enc tsc word).of_dvd
    (show (65536 : ℤ) ∣ 2 ^ 32 by decide)
  have hdiff : unwrapDiff 32768 (regCountDiff enc word) ≡
      (regCount word).toNat - enc.count.toNat [ZMOD 65536] := unwrapDiff_modEq 32768 _
  have hsum := hraw.trans (h.add hdiff)
  rwa [add_sub_cancel] at hsum

end OneRead

/-! ### A run -/

section Words

variable {σ F : Type} (bus : RegisterBus σ) (enc : EncoderModule F) (s : ℕ → σ)

/-- The words that the counter shows in the run. -/
def runWord (n : ℕ) : ℕ := countWord bus enc (s n)

/-- The registers show, at each read, a position and a time modulo 65536. -/
def Shows (pos time : ℕ → ℤ) : Prop :=
  ∀ n, (runWord bus enc s n : ℤ) = pos n % 65536 + 65536 * (time n % 65536)

variable {bus enc s} {pos time : ℕ → ℤ}

lemma Shows.count (h : Shows bus enc s pos time) (n : ℕ) :
    ((regCount (runWord bus enc s n)).toNat : ℤ) = pos n % 65536 := by
  have := h n
  rw [regCount_toNat]
  omega

lemma Shows.timeStamp (h : Shows bus enc s pos time) (n : ℕ) :
    ((regTimeStamp (runWord bus enc s n)).toNat : ℤ) = time n % 65536 := by
  have := h n
  rw [regTimeStamp_toNat]
  omega

end Words

section Run

variable {σ F : Type} [Zero F] [One F] [Mul F] [Div F] [IntCast F] [DecidableEq F]
variable (bus : RegisterBus σ) (secs : F) (enc : EncoderModule F) (s : ℕ → σ)

@[simp] lemma encoderRun_zero : encoderRun bus secs enc s 0 = enc := rfl

lemma encoderRun_register (n offs : ℕ) :
    (encoderRun bus secs enc s n).register offs = enc.register offs := by
  induction n with
  | zero => rfl
  | succ n ih => exact ih

lemma encoderRun_baseAddress (n : ℕ) :
    (encoderRun bus secs enc s n).baseAddress = enc.baseAddress := by
  induction n with
  | zero => rfl
  | succ n ih => exact ih

lemma encoderRun_succ (n : ℕ) : ∃ tsc, encoderRun bus secs enc s (n + 1) =
    encoderUpdate secs (encoderRun bus secs enc s n) tsc (runWord bus enc s n) := by
  refine ⟨(bus.read (enc.baseAddress.toNat + hm2ModOffsMuxEncoderTsCount) (s n)).1, ?_⟩
  rw [encoderRun, encoderRead]
  simp only [runWord, countWord, encoderRun_register, encoderRun_baseAddress]

lemma encoderRun_count (n : ℕ) :
    (encoderRun bus secs enc s (n + 1)).count = regCount (runWord bus enc s n) := by
  obtain ⟨tsc, h⟩ := encoderRun_succ bus secs enc s n
  rw [h, encoderUpdate_count]

lemma encoderRun_timeStamp (n : ℕ) :
    (encoderRun bus secs enc s (n + 1)).timeStamp = regTimeStamp (runWord bus enc s n) := by
  obtain ⟨tsc, h⟩ := encoderRun_succ bus secs enc s n
  rw [h, encoderUpdate_timeStamp]

/-- The count and the last register agree modulo 65536. -/
lemma encoderRun_modEq (h : enc.rawCounts.toInt ≡ enc.count.toNat [ZMOD 65536]) (n : ℕ) :
    (encoderRun bus secs enc s n).rawCounts.toInt ≡
      (encoderRun bus secs enc s n).count.toNat [ZMOD 65536] := by
  induction n with
  | zero => exact h
  | succ n ih =>
    obtain ⟨tsc, hn⟩ := encoderRun_succ bus secs enc s n
    rw [hn]
    exact encoderUpdate_modEq secs _ tsc _ ih

variable {bus enc s} {pos time : ℕ → ℤ}

/-- What a read finds to have changed is the change of the position. -/
lemma Shows.diff (h : Shows bus enc s pos time) {n : ℕ} (hstep : |pos (n + 1) - pos n| ≤ 32767) :
    unwrapDiff 32768 (regCountDiff (encoderRun bus secs enc s (n + 1)) (runWord bus enc s (n + 1)))
      = pos (n + 1) - pos n := by
  rw [regCountDiff, encoderRun_count, h.count, h.count]
  have := abs_le.1 hstep
  exact unwrapDiff_eq (h := 32768) (by omega) (by omega)

/-- After the first read the count follows the position. -/
lemma Shows.follows (h : Shows bus enc s pos time) (hstep : ∀ n, |pos (n + 1) - pos n| ≤ 32767) :
    Follows (2 ^ 32) (fun n => (encoderRun bus secs enc s (n + 1)).rawCounts.toInt) pos := by
  intro n
  obtain ⟨tsc, hn⟩ := encoderRun_succ bus secs enc s (n + 1)
  have hraw := encoderUpdate_rawCounts_modEq secs (encoderRun bus secs enc s (n + 1)) tsc
    (runWord bus enc s (n + 1))
  rwa [h.diff secs (hstep n), ← hn] at hraw

/-- The velocity of a read that has found a change. -/
lemma encoderUpdate_velocity (tsc word : ℕ) (hdiff : regCountDiff enc word ≠ 0)
    (hclocks : 0 < dTClocks enc word) :
    (encoderUpdate secs enc tsc word).velocity =
      ((((encoderUpdate secs enc tsc word).rawCounts - enc.rawCounts).toInt : F) /
        (encoderUpdate secs enc tsc word).scale) / ((dTClocks enc word : F) * secs) := by
  simp [encoderUpdate, hdiff, hclocks]

/-- A run that begins after `encoder_init` unwraps the position and the time. -/
theorem encoderRun_unwraps (base : UInt16) (inst stride : ℕ)
    (hshows : Shows bus (encoderInitial (F := F) base inst stride) s pos time)
    (hstep : ∀ n, |pos (n + 1) - pos n| ≤ 32767) :
    let enc := encoderInitial (F := F) base inst stride
    let run := encoderRun bus secs enc s
    (∀ n, (run (n + 1)).rawCounts.toInt ≡ runWord bus enc s n [ZMOD 65536]) ∧
    (∀ i j, -2 ^ 31 ≤ (run (i + 1)).rawCounts.toInt + (pos j - pos i) →
      (run (i + 1)).rawCounts.toInt + (pos j - pos i) < 2 ^ 31 →
      (run (j + 1)).rawCounts.toInt - (run (i + 1)).rawCounts.toInt = pos j - pos i) ∧
    (∀ n, regCount (runWord bus enc s (n + 1)) ≠ regCount (runWord bus enc s n) →
      0 ≤ time (n + 1) - time n → time (n + 1) - time n ≤ 65535 →
      dTClocks (run (n + 1)) (runWord bus enc s (n + 1)) = time (n + 1) - time n ∧
      (0 < time (n + 1) - time n → (run (n + 2)).velocity =
        ((((run (n + 2)).rawCounts - (run (n + 1)).rawCounts).toInt : F) / (run (n + 2)).scale) /
          (((time (n + 1) - time n : ℤ) : F) * secs))) := by
  intro enc run
  refine ⟨fun n => ?_, fun i j hlo hhi => ?_, fun n hchange h₀ h₁ => ?_⟩
  · have hcount := encoderRun_modEq bus secs enc s (Int.ModEq.refl 0) (n + 1)
    rw [encoderRun_count, hshows.count] at hcount
    have hword : (runWord bus enc s n : ℤ) ≡ pos n [ZMOD 65536] := by
      rw [hshows n]
      exact Int.modEq_iff_dvd.2 ⟨pos n / 65536 - time n % 65536, by omega⟩
    exact (hcount.trans (Int.mod_modEq _ _)).trans hword.symm
  · exact (hshows.follows secs hstep).eq_of_window (l := -2 ^ 31)
      ⟨Int32.le_toInt _, Int32.toInt_lt _⟩ ⟨hlo, hhi⟩
  · have hclocks : dTClocks (run (n + 1)) (runWord bus enc s (n + 1)) = time (n + 1) - time n := by
      refine dTClocks_eq _ _ h₀ h₁ ?_ (hshows.timeStamp (n + 1))
      rw [encoderRun_timeStamp, hshows.timeStamp]
    refine ⟨hclocks, fun hpos => ?_⟩
    obtain ⟨tsc, hn⟩ := encoderRun_succ bus secs enc s (n + 1)
    have hdiff : regCountDiff (run (n + 1)) (runWord bus enc s (n + 1)) ≠ 0 := by
      rw [regCountDiff, encoderRun_count]
      intro h
      exact hchange (UInt16.toNat_inj.1 (by omega))
    have hvel := encoderUpdate_velocity secs tsc _ hdiff (by omega)
    rw [← hn, hclocks] at hvel
    exact hvel

end Run

/-- An encoder that moves back by 20000 counts and 40000 ticks with every read. -/
def turningEncoder : RegisterBus ℕ where
  read addr n :=
    (if addr = 0 then ((-20000 * n : ℤ) % 65536 + 65536 * ((40000 * n : ℤ) % 65536)).toNat
      else 0, n)
  write _ _ n := n

lemma turningEncoder_shows : Shows turningEncoder (encoderInitial (F := ℚ) 0 0 0) id
    (fun n => -20000 * n) (fun n => 40000 * n) := by
  intro n
  have h₁ := Int.emod_nonneg (-20000 * n : ℤ) (show (65536 : ℤ) ≠ 0 by decide)
  have h₂ := Int.emod_nonneg (40000 * n : ℤ) (show (65536 : ℤ) ≠ 0 by decide)
  exact Int.toNat_of_nonneg (by omega)

/-- The encoder passes the ends of its counter and of its clock, and neither is noticed. -/
theorem turningEncoder_unwraps :
    let run := encoderRun turningEncoder (1 / 1000 : ℚ) (encoderInitial 0 0 0) id
    (run 5).rawCounts.toInt - (run 1).rawCounts.toInt = -80000 ∧
      dTClocks (run 2) (runWord turningEncoder (encoderInitial (F := ℚ) 0 0 0) id 2) = 40000 := by
  have hrun := encoderRun_unwraps (1 / 1000 : ℚ) 0 0 0 turningEncoder_shows
    (by intro n; push_cast; rw [abs_le]; constructor <;> linarith)
  exact ⟨hrun.2.1 0 4 (by decide) (by decide), (hrun.2.2 1 (by decide) (by decide) (by decide)).1⟩

end Mesaflash
