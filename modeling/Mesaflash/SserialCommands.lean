import Mesaflash.SserialFailure

/-!
The interface and the channel that commands are sent to.

A remote is started by `sserial_init`, and then exchanges words by `sserial_write`.  Both send
some of their commands to interface 0, and the second one to channel 1, so that they address the
requested channel only if it is channel 1 of interface 0.
-/

namespace Mesaflash

open Lib

/-- The words for one exchange. -/
structure SserialWords where
  interface0 : ℕ
  interface1 : ℕ
  interface2 : ℕ

/-- The same interface and the same channel of a module. -/
structure SserialInstance.SameChannel (x y : SserialInstance) : Prop where
  toSserialModule : x.toSserialModule = y.toSserialModule
  interfaceNum : x.interfaceNum = y.interfaceNum
  channelNum : x.channelNum = y.channelNum

section Exchange

variable {σ : Type} (bus : RegisterBus σ)

/-- The words are stored and written. -/
def writeWords (fuel : ℕ) (ssmod : SserialInstance) (words : SserialWords) :
    SserialM σ SserialInstance :=
  sserialWrite bus fuel { ssmod with
    interface0 := words.interface0
    interface1 := words.interface1
    interface2 := words.interface2 }

/-- The remote is started, and if it is, words are exchanged with it. -/
def exchange (hm2 : Hostmot2) (fuel : ℕ) (ssmod : SserialInstance)
    (interfaceNum channelNum remoteType : ℕ) (words : List SserialWords) :
    SserialM σ SserialInstance := do
  let (ret, ssmod) ← sserialInit bus hm2 fuel ssmod interfaceNum channelNum remoteType
  if ret = 0 then words.foldlM (writeWords bus fuel) ssmod
  else return ssmod

variable {bus}

lemma startRemote_sameChannel (fuel : ℕ) (ssmod : SserialInstance) (remoteType : ℕ) :
    Leaves (fun _ => True) (fun x _ => x.2.SameChannel ssmod)
      (startRemote bus fuel ssmod remoteType) := by
  have hpure : ∀ (ret : ℤ) (x : SserialInstance), x.SameChannel ssmod →
      Leaves (fun _ => True) (fun x _ => x.2.SameChannel ssmod)
        (pure (ret, x) : SserialM σ (ℤ × SserialInstance)) :=
    fun _ _ h => .pure fun _ _ => h
  refine .last fun _ => .last fun _ => .last fun _ => .last fun _ => .last fun _ => .last fun _ =>
    .last fun _ => .last fun _ => .ite (hpure _ _ ⟨rfl, rfl, rfl⟩) ?_
  refine .last fun _ => .last fun _ => .ite (hpure _ _ ⟨rfl, rfl, rfl⟩) <| .last fun _ =>
    .last fun _ => ?_
  exact .last fun _ => .last fun _ => .last fun _ => .last fun _ => .last fun _ => .last fun _ =>
    .ite (hpure _ _ ⟨rfl, rfl, rfl⟩) (hpure _ _ ⟨rfl, rfl, rfl⟩)

lemma writeWords_sameChannel (fuel : ℕ) (ssmod : SserialInstance) (words : SserialWords) :
    Leaves (fun _ => True) (fun x _ => x.SameChannel ssmod)
      (writeWords bus fuel ssmod words) :=
  .last fun _ => .last fun _ => .last fun _ => .last fun _ => .last fun _ => .last fun _ =>
    .last fun _ => .pure fun _ _ => ⟨rfl, rfl, rfl⟩

end Exchange

/-! ### Channel 1 of interface 0 -/

section Alike

variable {σ₁ σ₂ : Type} {P : RegisterAccess → Prop} {R : σ₁ → σ₂ → Prop}
  {bus₁ : RegisterBus σ₁} {bus₂ : RegisterBus σ₂} {hm2 : Hostmot2} {md : ModuleDesc}

/-- The registers of channel 1 of interface 0, whatever the stride. -/
lemma registersIn_zero_one {ssmod : SserialInstance}
    (h : ssmod.SameChannel (SserialInstance.start hm2 md 0 1))
    (hP : ∀ a, Addresses md.baseAddress.toNat 0 1 a → P a) : RegistersIn ssmod P := by
  have haddr : ∀ offs, ssmod.register offs = md.baseAddress.toNat + offs + 0 * 0x40 + 1 * 4 := by
    intro offs
    rw [SserialInstance.register, h.toSserialModule, h.interfaceNum, h.channelNum]
    simp [SserialInstance.start]
  intro offs hoffs
  rw [haddr]
  exact ⟨hP _ (.readChannel hoffs), fun value => hP _ (.writeChannel hoffs value)⟩

/-- An exchange with channel 1 of interface 0 accesses the registers of this channel, and those
of the ports. -/
lemma exchange_alike (hmd : hm2FindModule hm2 hm2GtagSserial = some md)
    (hbus : AnswerAlike P R bus₁ bus₂)
    (hport : ∀ addr value, IsPortRegister hm2 addr → P (.write addr value))
    (hP : ∀ a, Addresses md.baseAddress.toNat 0 1 a → P a) (fuel : ℕ) (ssmod : SserialInstance)
    (remoteType : ℕ) (words : List SserialWords) :
    Alike R (exchange bus₁ hm2 fuel ssmod 0 1 remoteType words)
      (exchange bus₂ hm2 fuel ssmod 0 1 remoteType words) := by
  have hinit : ∀ {σ : Type} (bus : RegisterBus σ),
      sserialInit bus hm2 fuel ssmod 0 1 remoteType = enableSserialPins bus hm2 >>= fun _ =>
        startRemote bus fuel (SserialInstance.start hm2 md 0 1) remoteType := by
    intro σ bus
    rw [sserialInit, hmd]
    rfl
  have hstart : Alike R (sserialInit bus₁ hm2 fuel ssmod 0 1 remoteType)
      (sserialInit bus₂ hm2 fuel ssmod 0 1 remoteType) := by
    rw [hinit, hinit]
    exact (enablePins_alike hbus hport).seq fun _ =>
      startRemote_alike hbus (registersIn_zero_one ⟨rfl, rfl, rfl⟩ hP) hP hP fuel remoteType
  have hsame : Leaves (fun _ => True)
      (fun x _ => x.2.SameChannel (SserialInstance.start hm2 md 0 1))
      (sserialInit bus₂ hm2 fuel ssmod 0 1 remoteType) := by
    rw [hinit]
    exact .last fun _ => startRemote_sameChannel fuel _ remoteType
  refine hstart.seqOf hsame fun x hx => .ite (fun _ => ?_) fun _ => .pure _
  -- the channel stays the same from exchange to exchange
  refine Agree.foldlM_of (J := fun x => x.SameChannel (SserialInstance.start hm2 md 0 1))
    (fun x hx words _ => ?_) (fun x hx words _ s y t hs hrun => ?_) hx
  · apply sserialWrite_alike hbus
    · exact registersIn_zero_one ⟨hx.1, hx.2, hx.3⟩ hP
    · intro a ha
      have hbase : x.baseAddress = md.baseAddress.toNat := congrArg SserialModule.baseAddress hx.1
      exact hP a (hbase ▸ ha)
  · have hy := writeWords_sameChannel fuel x words s y t hs hrun
    exact ⟨hy.1.trans hx.1, hy.2.trans hx.2, hy.3.trans hx.3⟩

end Alike

/-! ### The other channels -/

/-- The register of a write that is noticed may have been written before. -/
lemma noticeBus_write {σ τ : Type} (bus : RegisterBus σ) (addr value : ℕ) (other : RegisterBus τ)
    (first : τ) (r : σ ⊕ τ) :
    ∃ noticed, (noticeBus bus (.write addr value) other first).write addr value r =
      .inr noticed := by
  cases r with
  | inl s => exact ⟨_, if_pos rfl⟩
  | inr t => exact ⟨_, rfl⟩

/-- Registers that are zero, until an access is noticed and from then on. -/
abbrev zeroNoticing (a : RegisterAccess) : RegisterBus (Unit ⊕ Unit) :=
  noticeBus (constantBus fun _ => 0) a (constantBus fun _ => 0) ()

/-- Every exchange of words starts the remotes of channel 1 of interface 0. -/
lemma writeWords_notices (ssmod : SserialInstance) (words : SserialWords)
    (s : SserialState (Unit ⊕ Unit)) :
    ∃ x t, EndsIn .hang (fun fuel => writeWords (zeroNoticing (.write
        (ssmod.baseAddress + hm2ModOffsSserialCmd + 0 * 0x40) (sslbpCmdDoit 1))) fuel ssmod words)
      s (.ok (x, t)) ∧ t.regs = .inr () := by
  let a : RegisterAccess :=
    .write (ssmod.baseAddress + hm2ModOffsSserialCmd + 0 * 0x40) (sslbpCmdDoit 1)
  have hany := noticeBus_answers (fun _ => 0) a
  have hright := noticeBus_answers_right (constantBus fun _ => 0) (fun _ => 0) a
  obtain ⟨t₁, -, -, h₁⟩ := constant_write hany
    (ssmod.register hm2ModOffsSserialInterface0) words.interface0 s trivial
  obtain ⟨t₂, -, -, h₂⟩ := constant_write hany
    (ssmod.register hm2ModOffsSserialInterface1) words.interface1 t₁ trivial
  obtain ⟨t₃, -, -, h₃⟩ := constant_write hany
    (ssmod.register hm2ModOffsSserialInterface2) words.interface2 t₂ trivial
  -- the command is noticed
  obtain ⟨⟨⟩, hnoticed⟩ := noticeBus_write (constantBus fun _ => 0)
    (ssmod.baseAddress + hm2ModOffsSserialCmd + 0 * 0x40) (sslbpCmdDoit 1)
    (constantBus fun _ => 0) () t₃.regs
  have h₄ : EndsIn .hang (fun _ => sslbpSendLocalCmd (zeroNoticing a) ssmod.toSserialModule 0
      (sslbpCmdDoit 1)) t₃ (.ok ((), t₃.onBoard (.inr ()))) := by
    have hend : EndsIn .hang (fun _ => sslbpSendLocalCmd (zeroNoticing a) ssmod.toSserialModule 0
      (sslbpCmdDoit 1)) t₃ _ := endsIn_const _ t₃
    rwa [sslbpSendLocalCmd, llioWrite, hnoticed] at hend
  have hrest : ∃ x, Returning (fun r => r = .inr ()) (fun fuel => do
      sslbpWaitComplete (zeroNoticing a) ssmod.toSserialModule fuel 0
      let data ← llioRead (zeroNoticing a) (ssmod.register hm2ModOffsSserialData)
      let cs ← llioRead (zeroNoticing a) (ssmod.register hm2ModOffsSserialCs)
      return ({ ssmod with
        interface0 := words.interface0
        interface1 := words.interface1
        interface2 := words.interface2
        data := data
        cs := cs } : SserialInstance)) x :=
    ⟨_, (constant_waitComplete hright rfl).bind <| (constant_read hright _).bind <|
      (constant_read hright _).bind <| .pure _⟩
  obtain ⟨x, hx⟩ := hrest
  obtain ⟨t, hregs, -, hend⟩ := hx (t₃.onBoard (.inr ())) rfl
  exact ⟨x, t, h₁.bind (h₂.bind (h₃.bind (h₄.bind hend))), hregs⟩

/-- The command starts the remote of channel 1 and of no other. -/
lemma commandOf_doit_one {channel : ℕ} (hchannel : channel < hm2SserialMaxChannels)
    (h : CommandOf channel (sslbpCmdDoit 1)) : channel = 1 := by
  have hmasks : ∀ channel < hm2SserialMaxChannels,
      sslbpCmdDoit 1 = sslbpCmdStartSetupMode channel ∨
        sslbpCmdDoit 1 = sslbpCmdStartNormalMode channel ∨
        sslbpCmdDoit 1 = sslbpCmdStop channel ∨ sslbpCmdDoit 1 = sslbpCmdDoit channel →
      channel = 1 := by decide
  generalize hcmd : sslbpCmdDoit 1 = cmd at h hmasks
  cases h with
  | stopall => exact absurd hcmd (by decide)
  | reset => exact absurd hcmd (by decide)
  | readLocal x =>
    -- a request has a bit that no other command has
    have hbit := congrArg (Nat.testBit · 13) hcmd
    rw [sslbpCmdRead, Nat.testBit_or, Nat.testBit_or,
      show sslbpRequest.testBit 13 = true from rfl, Bool.true_or, Bool.true_or] at hbit
    exact absurd hbit (by decide)
  | startSetup => exact hmasks channel hchannel (.inl rfl)
  | startNormal => exact hmasks channel hchannel (.inr (.inl rfl))
  | stop => exact hmasks channel hchannel (.inr (.inr (.inl rfl)))
  | doit => exact hmasks channel hchannel (.inr (.inr (.inr rfl)))

/-- It is no access to another channel. -/
lemma addresses_doit_one {base interface channel : ℕ} (hchannel : channel < hm2SserialMaxChannels)
    (h : Addresses base interface channel
      (.write (base + hm2ModOffsSserialCmd + 0 * 0x40) (sslbpCmdDoit 1))) :
    interface = 0 ∧ channel = 1 := by
  generalize ha : RegisterAccess.write (base + hm2ModOffsSserialCmd + 0 * 0x40)
    (sslbpCmdDoit 1) = a at h
  cases h with
  | readCmd | readData | readChannel => cases ha
  | sendCmd hcmd =>
    obtain ⟨haddr, rfl⟩ := RegisterAccess.write.inj ha
    exact ⟨by omega, commandOf_doit_one hchannel hcmd⟩
  | writeChannel hoffs value =>
    have hcmd : hm2ModOffsSserialCmd = 0 := rfl
    have hle : ∀ offs ∈ channelOffsets, 0x100 ≤ offs := by decide
    have := hle _ hoffs
    have haddr := (RegisterAccess.write.inj ha).1
    omega

section Commands

variable {hm2 : Hostmot2} {md : ModuleDesc} {interfaceNum channelNum : ℕ}

/-- On any board, an exchange accesses in the block of the module nothing but the registers of
the requested channel, with commands for this channel. -/
def CommandsAddressed (hm2 : Hostmot2) (md : ModuleDesc) (interfaceNum channelNum : ℕ) : Prop :=
  ∀ (remoteType : ℕ) (words : List SserialWords) (ssmod : SserialInstance) (σ : Type)
    (bus : RegisterBus σ) (s : SserialState σ) (a : RegisterAccess),
    Makes (fun _ bus fuel =>
      exchange bus hm2 fuel ssmod interfaceNum channelNum remoteType words) bus s a →
    md.baseAddress.toNat ≤ a.addr → a.addr < md.baseAddress.toNat + 0x600 →
    Addresses md.baseAddress.toNat interfaceNum channelNum a

/-- Where remotes can be started, only channel 1 of interface 0 is addressed as requested. -/
lemma CommandsAddressed.eq (h : CommandsAddressed hm2 md interfaceNum channelNum)
    (henables : EnablesPins hm2 interfaceNum channelNum)
    (hmd : hm2FindModule hm2 hm2GtagSserial = some md) : interfaceNum = 0 ∧ channelNum = 1 := by
  obtain ⟨io, hio⟩ := Option.isSome_iff_exists.1 henables.ioport
  let cmd := md.baseAddress.toNat + hm2ModOffsSserialCmd + 0 * 0x40
  let bus := zeroNoticing (.write cmd (sslbpCmdDoit 1))
  let first := SserialInstance.start hm2 md interfaceNum channelNum
  let s : SserialState Unit := ⟨(), first.interface, fun _ => first.device⟩
  let s₀ := (s.onBoard (Sum.inl () : Unit ⊕ Unit)).onBoard
    (enabledRegs bus hm2 io (Sum.inl () : Unit ⊕ Unit))
  -- the remote is started
  obtain ⟨ssmod, hstart⟩ := constant_startRemote_zero first
    (noticeBus_answers (fun _ => 0) (.write cmd (sslbpCmdDoit 1)))
  obtain ⟨t₁, -, -, hend₁⟩ := hstart s₀ trivial
  obtain ⟨fuel₁, hrun₁⟩ := hend₁.exists_eq
  have hsame := startRemote_sameChannel fuel₁ first 0 s₀ _ _ trivial hrun₁
  have hbase : ssmod.baseAddress = md.baseAddress.toNat :=
    congrArg SserialModule.baseAddress hsame.toSserialModule
  -- and one exchange of words addresses channel 1
  obtain ⟨x, t, hend, hnoticed⟩ := writeWords_notices ssmod ⟨0, 0, 0⟩ t₁
  rw [hbase] at hend
  have hrun : EndsIn .hang (fun fuel => exchange bus hm2 fuel first interfaceNum channelNum 0
      [⟨0, 0, 0⟩]) (s.onBoard (.inl ())) (.ok (x, t)) := by
    have hinit : EndsIn .hang (fun fuel => sserialInit bus hm2 fuel first interfaceNum channelNum 0)
        (s.onBoard (.inl ())) (.ok ((0, ssmod), t₁)) := by
      have heq := fun fuel => sserialInit_enables bus fuel first 0 henables hmd hio
        (s.onBoard (.inl ()))
      obtain ⟨n, hn, hstuck⟩ := hend₁
      exact ⟨n, fun fuel hfuel => (heq fuel).trans (hn fuel hfuel),
        fun fuel hfuel => (heq fuel).trans (hstuck fuel hfuel)⟩
    refine hinit.bind ?_
    exact hend.bind (endsIn_const _ t)
  obtain ⟨fuel, hfuel⟩ := hrun.exists_eq
  have hlow : md.baseAddress.toNat ≤ cmd := Nat.le_add_right _ _
  have hhigh : cmd < md.baseAddress.toNat + 0x600 := Nat.add_lt_add_left (by decide) _
  exact addresses_doit_one henables.channel_lt <|
    h 0 [⟨0, 0, 0⟩] first Unit (constantBus fun _ => 0) s (.write cmd (sslbpCmdDoit 1))
      ⟨Unit, constantBus fun _ => 0, (), fuel, x, t, (), hfuel, hnoticed⟩ hlow hhigh

/-- Channel 1 of interface 0 is addressed as requested. -/
lemma commandsAddressed_zero_one (hmd : hm2FindModule hm2 hm2GtagSserial = some md)
    (hapart : hm2.SserialApart md) : CommandsAddressed hm2 md 0 1 := by
  intro remoteType words ssmod σ bus s a hmakes hlow hhigh
  by_contra ha
  refine not_makes (fun τ other first fuel => ?_) hmakes
  have hne : ∀ x, IsPortRegister hm2 x.addr ∨ Addresses md.baseAddress.toNat 0 1 x → x ≠ a := by
    rintro x (hport | hx) rfl
    · rcases hapart.block _ hport with h | h
      · exact absurd hlow (Nat.not_le.2 h)
      · exact absurd hhigh (Nat.not_lt.2 h)
    · exact ha hx
  exact (exchange_alike hmd (noticeBus_alike hne other first) (fun _ _ h => .inl h)
    (fun _ h => .inr h) fuel ssmod remoteType words).mono fun _ _ => trivial

/-- Where no remote can be started, nothing is accessed. -/
lemma commandsAddressed_of_not_enables (h : ¬ EnablesPins hm2 interfaceNum channelNum) :
    CommandsAddressed hm2 md interfaceNum channelNum := by
  rintro remoteType words ssmod σ bus s a ⟨τ, other, first, fuel, x, t, noticed, hrun, hregs⟩ _ _
  dsimp only at hrun
  rw [exchange, prog_bind] at hrun
  rcases sserialInit_refuses (noticeBus bus a other first) fuel ssmod remoteType h
    (s.onBoard (.inl s.regs)) with hok | ⟨e, he⟩
  · rw [hok] at hrun
    obtain ⟨-, rfl⟩ := Prod.mk.inj (Except.ok.inj hrun)
    cases hregs
  · rw [he] at hrun
    cases hrun

/-- **The commands address the requested channel exactly if it is channel 1 of interface 0, or if
no remote can be started.** -/
theorem commandsAddressed_iff (hmd : hm2FindModule hm2 hm2GtagSserial = some md)
    (hapart : hm2.SserialApart md) : CommandsAddressed hm2 md interfaceNum channelNum ↔
      (EnablesPins hm2 interfaceNum channelNum → interfaceNum = 0 ∧ channelNum = 1) := by
  constructor
  · intro h henables
    exact h.eq henables hmd
  · intro h
    by_cases henables : EnablesPins hm2 interfaceNum channelNum
    · obtain ⟨rfl, rfl⟩ := h henables
      exact commandsAddressed_zero_one hmd hapart
    · exact commandsAddressed_of_not_enables henables

end Commands

/-- The commands for channel 1 of interface 0 are its own. -/
theorem remote_zero_one_addressed :
    CommandsAddressed (boardWithRemote 3) sserialAt5B00 0 1 :=
  (commandsAddressed_iff rfl (boardWithRemote_apart 3)).2 fun _ => ⟨rfl, rfl⟩

/-- Those for channel 2 are not. -/
theorem remote_zero_two_not_addressed :
    ¬ CommandsAddressed (boardWithRemote 3) sserialAt5B00 0 2 := by
  intro h
  have henables : EnablesPins (boardWithRemote 3) 0 2 :=
    ⟨rfl, by decide, by decide, rfl, by decide, by decide⟩
  exact absurd (h.eq henables rfl).2 (by decide)

end Mesaflash
