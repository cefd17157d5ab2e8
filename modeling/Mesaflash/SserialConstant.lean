import Mesaflash.SserialAccess

/-!
A board whose registers always answer the same.

The runs on such a board return, whatever they write.  As what a board notices does not change
what it answers, they return on a board that notices an access as well.
-/

namespace Mesaflash

open Lib

/-- In states with `I`, which accesses keep, the registers have the values `f`. -/
structure Answers {σ : Type} (bus : RegisterBus σ) (f : ℕ → ℕ) (I : σ → Prop) : Prop where
  value : ∀ addr s, I s → (bus.read addr s).1 = f addr
  read : ∀ addr s, I s → I (bus.read addr s).2
  write : ∀ addr value s, I s → I (bus.write addr value s)

/-- The registers have these values. -/
def constantBus (f : ℕ → ℕ) : RegisterBus Unit where
  read addr s := (f addr, s)
  write _ _ s := s

lemma constantBus_answers (f : ℕ → ℕ) : Answers (constantBus f) f fun _ => True :=
  ⟨fun _ _ _ => rfl, fun _ _ _ => trivial, fun _ _ _ _ => trivial⟩

/-- What is answered does not depend on the access that is noticed. -/
lemma noticeBus_answers (f : ℕ → ℕ) (a : RegisterAccess) :
    Answers (noticeBus (constantBus f) a (constantBus f) ()) f fun _ => True := by
  refine ⟨fun addr s _ => ?_, fun _ _ _ => trivial, fun _ _ _ _ => trivial⟩
  cases s with
  | inl s =>
    by_cases h : a = .read addr
    · simp [noticeBus, constantBus, h]
    · simp [noticeBus, constantBus, h]
  | inr s => rfl

/-- An access that was noticed stays noticed. -/
lemma noticeBus_answers_right {σ : Type} (bus : RegisterBus σ) (f : ℕ → ℕ) (a : RegisterAccess) :
    Answers (noticeBus bus a (constantBus f) ()) f fun s => s = .inr () := by
  constructor
  · rintro addr s rfl
    rfl
  · rintro addr s rfl
    rfl
  · rintro addr value s rfl
    rfl

/-- From the states with `I` the program returns this value. -/
abbrev Returning {σ α : Type} (I : σ → Prop) (p : ℕ → SserialM σ α) (a : α) : Prop :=
  Reads .hang (fun s => I s.regs) (fun _ => ()) p a

section Constant

variable {σ : Type} {bus : RegisterBus σ} {f : ℕ → ℕ} {I : σ → Prop} (hbus : Answers bus f I)

include hbus

lemma constant_read (addr : ℕ) : Returning I (fun _ => llioRead bus addr) (f addr) := by
  intro s hs
  refine ⟨{ s with regs := (bus.read addr s.regs).2 }, hbus.read addr _ hs, rfl, ?_⟩
  have hend : EndsIn .hang (fun _ => llioRead bus addr) s _ := endsIn_const _ s
  rwa [llioRead, hbus.value addr _ hs] at hend

lemma constant_write (addr value : ℕ) : Returning I (fun _ => llioWrite bus addr value) () :=
  fun s hs => ⟨_, hbus.write addr value _ hs, rfl, endsIn_const _ s⟩

variable {ssmod : SserialModule} {interface : ℕ}

/-- The data register, as it is read. -/
def constantData (f : ℕ → ℕ) (ssmod : SserialModule) (interface : ℕ) : UInt8 :=
  (f (ssmod.baseAddress + hm2ModOffsSserialData + interface * 0x40) &&& 0xFF).toUInt8

lemma constant_readData :
    Returning I (fun _ => sslbpReadData bus ssmod interface) (constantData f ssmod interface) :=
  (constant_read hbus _).bind (.pure _)

variable (hcmd : f (ssmod.baseAddress + hm2ModOffsSserialCmd + interface * 0x40) = 0)

include hcmd

/-- The interface is never busy. -/
lemma constant_waitComplete :
    Returning I (fun fuel => sslbpWaitComplete bus ssmod fuel interface) () := by
  refine Reads.loopM (x := fun _ => ()) (k := 0) (fun i hi => absurd hi i.not_lt_zero) ?_
  refine (constant_read hbus _).bind ?_
  simp only [hcmd, ne_eq, not_true_eq_false, if_false]
  exact .pure _

lemma constant_readLocal8 (addr : ℕ) :
    Returning I (fun fuel => sslbpReadLocal8 bus ssmod fuel interface addr)
      (constantData f ssmod interface) :=
  (constant_write hbus _ _).bind <| (constant_waitComplete hbus hcmd).bind <|
    constant_readData hbus

lemma constant_readLocal32 (addr : ℕ) : ∃ a,
    Returning I (fun fuel => sslbpReadLocal32 bus ssmod fuel interface addr) a :=
  ⟨_, Reads.foldlM (g := fun ret _ =>
    u32 (ret <<< 8) ||| (constantData f ssmod interface).toNat)
      (fun _ _ _ => (constant_readLocal8 hbus hcmd _).bind (.pure _)) 0⟩

lemma constant_readInterface : ∃ a,
    Returning I (fun fuel => readInterface bus ssmod fuel interface) a := by
  obtain ⟨baud, hbaud⟩ :=
    constant_readLocal32 hbus hcmd ((constantData f ssmod interface).toNat + 42)
  obtain ⟨clock, hclock⟩ := constant_readLocal32 hbus hcmd sslbpClockLoc
  have hbyte := fun addr => constant_readLocal8 hbus hcmd addr
  exact ⟨_, (hbyte _).bind <| (hbyte _).bind <| (hbyte _).bind <| (hbyte _).bind <|
    (hbyte _).bind <| (hbyte _).bind <| (hbyte _).bind <| (hbyte _).bind <|
    hbaud.bind <| hclock.bind <| .pure _⟩

/-! ### Remotes -/

/-- The setup of a channel. -/
lemma constant_startSetup (channel cmd : ℕ) :
    Returning I (fun fuel => startSetup bus ssmod fuel interface channel cmd)
      (constantData f ssmod interface) :=
  (constant_write hbus _ _).bind <| (constant_write hbus _ _).bind <|
    (constant_waitComplete hbus hcmd).bind <| constant_readData hbus

/-- A channel without a device is left as it is. -/
lemma constant_channelRound (hdata : constantData f ssmod interface ≠ 0) (verbose : Bool)
    (channel : ℕ) :
    Returning I (fun fuel => channelRound bus ssmod verbose fuel interface channel) () := by
  have hstart : Returning I
      (fun fuel => channelStart bus ssmod verbose fuel interface channel) none := by
    refine (constant_startSetup hbus hcmd channel 0).bind ?_
    simp only [if_pos hdata]
    exact .pure _
  exact hstart.bind (.pure _)

/-- A software mode that does not start. -/
lemma constant_softwareMode (hdata : constantData f ssmod interface ≠ 0) (verbose : Bool)
    (channel : ℕ) (swMode : SwMode) :
    Returning I (fun fuel => softwareMode bus ssmod verbose fuel interface channel swMode) () := by
  have hstart : Returning I (fun fuel => modeStart bus ssmod fuel interface channel swMode)
      false := by
    refine (constant_write hbus _ _).bind <| (constant_waitComplete hbus hcmd).bind <|
      (constant_startSetup hbus hcmd channel _).bind ?_
    rw [decide_eq_false hdata]
    exact .pure _
  exact hstart.bind (.pure _)

section Zero

variable {channel : ℕ}
  (hzero : f (ssmod.baseAddress + hm2ModOffsSserialInterface0 + interface * 0x40 + channel * 4) = 0)

include hzero

lemma constant_readRemote8 (addr : ℕ) :
    Returning I (fun fuel => sslbpReadRemote8 bus ssmod fuel interface channel addr) 0 := by
  refine (constant_write hbus _ _).bind <| (constant_write hbus _ _).bind <|
    (constant_waitComplete hbus hcmd).bind <| (constant_read hbus _).bind ?_
  rw [hzero]
  exact .pure _

lemma constant_readRemote16 (addr : ℕ) :
    Returning I (fun fuel => sslbpReadRemote16 bus ssmod fuel interface channel addr) 0 := by
  have hword : Returning I (fun fuel => sslbpReadRemote16 bus ssmod fuel interface channel addr)
      ([1, 0].foldl (fun ret _ => (ret <<< 8 ||| (0 : UInt8).toNat) % 0x10000) 0) := by
    refine Reads.foldlM (fun ret byte _ => ?_) 0
    exact (constant_readRemote8 hbus hcmd hzero (u32 (addr + byte))).bind (Reads.pure _)
  exact hword

/-- A table that ends at once. -/
lemma constant_modeTable (verbose : Bool) (table : ℕ) :
    Returning I (fun fuel => loopM .hang
      (fun fuel addr => modeRound bus ssmod verbose fuel interface channel addr) fuel table)
      () := by
  refine Reads.loopM (x := fun _ => table) (k := 0) (fun i hi => absurd hi i.not_lt_zero) ?_
  exact (constant_readRemote16 hbus hcmd hzero table).bind (.pure _)

end Zero

end Constant

/-! ### Starting a remote -/

section Remote

variable {σ : Type} {bus : RegisterBus σ} {f : ℕ → ℕ} {I : σ → Prop}

/-- An interface that reports an error for the channel. -/
lemma constant_startRemote_fails {ssmod : SserialInstance} (hbus : Answers bus f I)
    (hcmd : f (ssmod.baseAddress + hm2ModOffsSserialCmd + ssmod.interfaceNum * 0x40) = 0)
    (hdata : constantData f ssmod.toSserialModule ssmod.interfaceNum ≠ 0) (remoteType : ℕ) :
    ∃ ssmod', Returning I (fun fuel => startRemote bus fuel ssmod remoteType) (-1, ssmod') := by
  obtain ⟨interface, hinterface⟩ := constant_readInterface hbus hcmd
  refine ⟨{ ssmod with interface := interface }, ?_⟩
  refine (constant_write hbus _ _).bind <| (constant_write hbus _ _).bind <|
    (constant_waitComplete hbus hcmd).bind <| hinterface.bind <| (constant_write hbus _ _).bind <|
    (constant_write hbus _ _).bind <| (constant_waitComplete hbus hcmd).bind <|
    (constant_readData hbus).bind ?_
  simp only [if_pos hdata]
  exact .pure _

/-- With registers that are all zero a remote of type 0 is started. -/
lemma constant_startRemote_zero (ssmod : SserialInstance) (hbus : Answers bus (fun _ => 0) I) :
    ∃ ssmod', Returning I (fun fuel => startRemote bus fuel ssmod 0) (0, ssmod') := by
  have hcmd : (fun _ => 0) (ssmod.baseAddress + hm2ModOffsSserialCmd +
      ssmod.interfaceNum * 0x40) = 0 := rfl
  have hdata : constantData (fun _ => 0) ssmod.toSserialModule ssmod.interfaceNum = 0 := by
    simp [constantData]
  obtain ⟨interface, hinterface⟩ := constant_readInterface hbus hcmd
  refine ⟨{ ssmod with
    interface := interface
    device := { ssmod.device with unit := 0, name := word32 0 } }, ?_⟩
  refine (constant_write hbus _ _).bind <| (constant_write hbus _ _).bind <|
    (constant_waitComplete hbus rfl).bind <| hinterface.bind <| (constant_write hbus _ _).bind <|
    (constant_write hbus _ _).bind <| (constant_waitComplete hbus rfl).bind <|
    (constant_readData hbus).bind ?_
  simp only [hdata, ne_eq, not_true_eq_false, if_false]
  -- the remote is checked, and then started
  refine (constant_read hbus _).bind <| (constant_read hbus _).bind ?_
  simp only [Nat.zero_and, ne_eq, not_true_eq_false, if_false]
  refine (constant_read hbus _).bind <| (constant_read hbus _).bind <|
    (constant_write hbus _ _).bind <| (constant_waitComplete hbus rfl).bind <|
    (constant_write hbus _ _).bind <| (constant_write hbus _ _).bind <|
    (constant_waitComplete hbus rfl).bind <| (constant_read hbus _).bind ?_
  simp only [ne_eq, not_true_eq_false, if_false]
  exact .pure _

end Remote

end Mesaflash
