import Mesaflash.SserialFailure

/-!
The registers that the enumeration of smart serial devices accesses.

One address is put together without the base address of the module: the register from which the
table of a software mode is read.  The enumeration stays in the block of the module, and at the
ports, exactly if on no channel that it comes to a software mode starts, or the address is one of
these all the same.
-/

namespace Mesaflash

open Lib

/-- The register that is read when a software mode of a channel has started. -/
def modeTableRegister (channel : ℕ) : ℕ := hm2ModOffsSserialInterface2 + channel * 4

namespace SserialContents

variable (M : SserialContents)

/-- A software mode of a channel starts: the tables of the channels before it fit and end, and
so does the first table of its own. -/
structure ModesReached (verbose : Bool) (c : ℕ) : Prop where
  channel_lt : c < (M.localByte sslbpWidthLoc).toNat
  before : ∀ c' < c, M.Present c' → M.ChannelFits verbose c' ∧ M.ChannelEnds c'
  present : M.Present c
  fits : M.TableFits verbose c (M.table c)
  starts : ∃ l, M.TableModes c (M.table c) l ∧ M.ModeStarts c l

end SserialContents

/-! ### Channels without a software mode -/

section Agree

variable {σ : Type} {P : RegisterAccess → Prop} {R : σ → SserialRegs → Prop}
  {bus : RegisterBus σ} (M : SserialContents) {ssmod : SserialModule}
  (hbus : AnswerAlike P R bus (M.bus ssmod.baseAddress))
  (hP : ∀ c < hm2SserialMaxChannels, ∀ a, Addresses ssmod.baseAddress 0 c a → P a)

include hbus hP

/-- The software modes of a device: where one of them starts, its register may be read. -/
lemma deviceModes_agree (i : Fin hm2SserialMaxChannels) {l : List SwMode}
    (hl : M.TableModes i (M.table i) l)
    (hbase : modeTableRegister i < ssmod.baseAddress)
    (hread : M.ModeStarts i l → P (.read (modeTableRegister i))) (verbose : Bool) (fuel : ℕ) :
    Agree (StatesAlike R) (Modes i l) (deviceModes bus ssmod verbose fuel 0 i i)
      (deviceModes (M.bus ssmod.baseAddress) ssmod verbose fuel 0 i i) := by
  refine get_agree fun s₁ s₂ hR hs => ?_
  rw [hR.ssDevice, show (s₂.ssDevice i).swModes = l from hs.2.1]
  have hindex := fun mode (hmode : mode ∈ l) => TableModes.index_lt M hl hmode
  refine Agree.forM (I := fun _ => Modes i l) (fun k hk => ?_) fun k hk s u t hs hrun => ?_
  · rw [softwareMode, softwareMode]
    have hstart : Leaves (Modes i l) (fun started s => started =
        decide (M.setup i l[k].index = 0) ∧ Modes i l s)
        (modeStart (M.bus ssmod.baseAddress) ssmod fuel 0 i l[k]) := by
      intro s started t hs hrun
      obtain ⟨t', ht', hview, hend⟩ :=
        modeStart_reads M ssmod i.isLt (hindex _ (List.getElem_mem hk)) s hs.1
      rcases hend.eq_or_stuck fuel with heq | heq
      · obtain ⟨rfl, rfl⟩ := Prod.mk.inj (Except.ok.inj (heq.symm.trans hrun))
        exact ⟨rfl, ht', hview ▸ hs.2⟩
      · cases heq.symm.trans hrun
    refine ((modeStart_alike hbus (hP i i.isLt) fuel l[k]).mono fun _ _ => trivial).bind hstart
      fun started => ?_
    intro s₁ s₂ hR hs
    -- the register is read only if the mode has started
    cases started with
    | false => exact .ok hR
    | true =>
      have hzero : M.setup i l[k].index = 0 := of_decide_eq_true hs.1.symm
      exact modeRecords_alike hbus (hP i i.isLt) (hread ⟨l[k], List.getElem_mem hk, hzero⟩)
        verbose fuel s₁ s₂ hR trivial
  · have hwalk := softwareMode_walks M ssmod (i := i) (l := l) hbase i.isLt verbose
      (hindex _ (List.getElem_mem hk))
    exact ((Leaves.of_walks hwalk fuel) s u t hs hrun).1

/-- A channel: where one of its software modes starts, its register may be read. -/
lemma channelRound_agree (i : Fin hm2SserialMaxChannels) (verbose : Bool)
    (hbase : modeTableRegister i < ssmod.baseAddress)
    (hread : M.Present i → M.TableFits verbose i (M.table i) →
      (∃ l, M.TableModes i (M.table i) l ∧ M.ModeStarts i l) → P (.read (modeTableRegister i)))
    (fuel : ℕ) :
    Agree (StatesAlike R) (Fresh i) (channelRound bus ssmod verbose fuel 0 i)
      (channelRound (M.bus ssmod.baseAddress) ssmod verbose fuel 0 i) := by
  rw [channelRound, channelRound]
  refine ((channelStart_alike hbus (hP i i.isLt) verbose fuel).mono fun _ _ => trivial).bind
    (Leaves.of_walks (channelStart_walks M ssmod verbose) fuel) fun found s₁ s₂ hR hs => ?_
  obtain ⟨⟨hpresent, habsent⟩, hfits, -⟩ := hs
  by_cases hp : M.Present i
  · obtain ⟨rfl, l, hl, hmodes⟩ := hpresent hp
    exact deviceModes_agree M hbus hP i hl hbase (fun h => hread hp (hfits hp) ⟨l, hl, h⟩) verbose
      fuel s₁ s₂ hR hmodes
  · obtain ⟨rfl, -⟩ := habsent hp
    exact .ok hR

/-- What is known before a channel, as long as the register of its software modes is in front of
the block. -/
def BeforeChannel (ssmod : SserialModule) (verbose : Bool) (c : ℕ) (s : SserialRun) : Prop :=
  modeTableRegister c < ssmod.baseAddress →
    Fresh c s ∧ ∀ c' < c, M.Present c' → M.ChannelFits verbose c' ∧ M.ChannelEnds c'

/-- The channels. -/
lemma channels_agree (verbose : Bool)
    (hwidth : (M.localByte sslbpWidthLoc).toNat ≤ hm2SserialMaxChannels)
    (hread : ∀ c < hm2SserialMaxChannels, ssmod.baseAddress ≤ modeTableRegister c →
      P (.read (modeTableRegister c)))
    (hmodes : ∀ c, M.ModesReached verbose c → P (.read (modeTableRegister c))) (fuel : ℕ) :
    Agree (StatesAlike R) (BeforeChannel M ssmod verbose 0)
      ((List.range (M.localByte sslbpWidthLoc).toNat).forM
        (channelRound bus ssmod verbose fuel 0))
      ((List.range (M.localByte sslbpWidthLoc).toNat).forM
        (channelRound (M.bus ssmod.baseAddress) ssmod verbose fuel 0)) := by
  refine Agree.forM (I := BeforeChannel M ssmod verbose) (fun c hc => ?_) fun c hc => ?_
  · rw [List.getElem_range]
    rw [List.length_range] at hc
    intro s₁ s₂ hR hs
    by_cases hbase : modeTableRegister c < ssmod.baseAddress
    · obtain ⟨hfresh, hbefore⟩ := hs hbase
      exact channelRound_agree M hbus hP ⟨c, hc.trans_le hwidth⟩ verbose hbase
        (fun hp hfits hstarts => hmodes c ⟨hc, hbefore, hp, hfits, hstarts⟩) fuel s₁ s₂ hR hfresh
    · exact channelRound_alike hbus (hP c (hc.trans_le hwidth))
        (hread c (hc.trans_le hwidth) (Nat.not_lt.1 hbase)) verbose fuel s₁ s₂ hR trivial
  · rw [List.getElem_range]
    rw [List.length_range] at hc
    intro s u t hs hrun hbase
    have hbase' : modeTableRegister c < ssmod.baseAddress :=
      lt_trans (by simp only [modeTableRegister]; omega) hbase
    obtain ⟨hfresh, hbefore⟩ := hs hbase'
    have hwalk := channelRound_walks M ssmod (i := ⟨c, hc.trans_le hwidth⟩) hbase' rfl verbose
    obtain ⟨hfresh', hfits, hends⟩ := (Leaves.of_walks hwalk fuel) s u t hfresh hrun
    refine ⟨hfresh', fun c' hc' hp => ?_⟩
    rcases Nat.lt_succ_iff_lt_or_eq.1 hc' with hlt | rfl
    · exact hbefore c' hlt hp
    · exact ⟨hfits hp, hends hp⟩

end Agree

/-! ### The software mode that starts -/

section Notice

variable (M : SserialContents) (ssmod : SserialModule) (c : Fin hm2SserialMaxChannels)

/-- The board, until the register for the software modes of the channel is read.  From then on
no channel answers to its setup. -/
def noticing : RegisterBus (SserialRegs ⊕ Unit) :=
  noticeBus (M.bus ssmod.baseAddress) (.read (modeTableRegister c))
    (constantBus (failingRegister ssmod.baseAddress 0)) ()

/-- The register was not read yet. -/
def Unnoticed (J : SserialRun → Prop) (s : SserialState (SserialRegs ⊕ Unit)) : Prop :=
  ∃ t, StatesAlike (fun r₁ r₂ => r₁ = .inl r₂) s t ∧ J t

/-- The register was read. -/
def Noticed (s : SserialState (SserialRegs ⊕ Unit)) : Prop := s.regs = .inr ()

/-- A program on the board that notices. -/
abbrev Observes {α : Type} (I : SserialState (SserialRegs ⊕ Unit) → Prop)
    (J : α → SserialState (SserialRegs ⊕ Unit) → Prop)
    (p : ℕ → SserialM (SserialRegs ⊕ Unit) α) (fits ends : Prop) : Prop :=
  Walks .hang (.undefined .outOfBounds) I J p fits ends

lemma statesAlike_unique {s s' : SserialState (SserialRegs ⊕ Unit)} {t : SserialRun}
    (h : StatesAlike (fun r₁ r₂ => r₁ = .inl r₂) s t)
    (h' : StatesAlike (fun r₁ r₂ => r₁ = .inl r₂) s' t) : s = s' := by
  cases s
  cases s'
  obtain ⟨rfl, rfl, rfl⟩ := h
  obtain ⟨rfl, rfl, rfl⟩ := h'
  rfl

/-- What is known of the board carries over while the register is not read. -/
lemma unnoticed_walks {α : Type} {I : SserialRun → Prop} {J : α → SserialRun → Prop}
    {p₁ : ℕ → SserialM (SserialRegs ⊕ Unit) α} {p₂ : ℕ → SserialM SserialRegs α} {fits ends : Prop}
    (h : ∀ fuel, Alike (fun r₁ r₂ => r₁ = .inl r₂) (p₁ fuel) (p₂ fuel))
    (hp : Enumerates I J p₂ fits ends) :
    Observes (Unnoticed I) (fun a => Unnoticed (J a)) p₁ fits ends :=
  Agree.walks (fun _ _ _ => statesAlike_unique) (fun fuel => (h fuel).mono fun _ _ => trivial) hp

variable {M ssmod c}

lemma noticing_alike :
    AnswerAlike (fun x => x ≠ .read (modeTableRegister c)) (fun r₁ r₂ => r₁ = .inl r₂)
      (noticing M ssmod c) (M.bus ssmod.baseAddress) :=
  noticeBus_alike (fun _ h => h) _ _

lemma noticing_answers :
    Answers (noticing M ssmod c) (failingRegister ssmod.baseAddress 0) fun r => r = .inr () :=
  noticeBus_answers_right _ _ _

/-- What is accessed in the block is not the register in front of it. -/
lemma addresses_ne (hbase : modeTableRegister c < ssmod.baseAddress) :
    ∀ c' < hm2SserialMaxChannels, ∀ a, Addresses ssmod.baseAddress 0 c' a →
      a ≠ .read (modeTableRegister c) := by
  rintro c' hc' a ha rfl
  have := (ha.in_block (by decide) hc').1
  simp only [RegisterAccess.addr] at this
  omega

lemma failingRegister_cmd :
    failingRegister ssmod.baseAddress 0 (ssmod.baseAddress + hm2ModOffsSserialCmd + 0 * 0x40) =
      0 :=
  if_neg (by simp [hm2ModOffsSserialCmd, hm2ModOffsSserialData])

lemma failingRegister_data :
    constantData (failingRegister ssmod.baseAddress 0) ssmod 0 ≠ 0 := by
  simp [constantData, failingRegister]

/-- After the register was read it stays noticed. -/
lemma Noticed.returns {p : ℕ → SserialM (SserialRegs ⊕ Unit) Unit}
    (h : Returning (fun r => r = .inr ()) p ()) :
    Observes Noticed (fun _ => Noticed) p True True := by
  refine .of_endsIn fun s hs => ?_
  obtain ⟨t, ht, -, hend⟩ := h s hs
  exact ⟨(), t, ht, hend⟩

/-- The register is read, and then the table ends at once. -/
lemma modeRecords_notices (I : SserialRun → Prop) (verbose : Bool) :
    Observes (Unnoticed I) (fun _ => Noticed)
      (fun fuel => modeRecords (noticing M ssmod c) ssmod verbose fuel 0 c) True True := by
  refine .of_endsIn ?_
  rintro s ⟨t, hst, -⟩
  have hread : llioRead (noticing M ssmod c) (modeTableRegister c) s =
      .ok (failingRegister ssmod.baseAddress 0 (modeTableRegister c), s.onBoard (.inr ())) := by
    rw [llioRead, hst.regs]
    simp only [noticing, noticeBus, if_true]
    rfl
  have hzero : failingRegister ssmod.baseAddress 0 (ssmod.baseAddress +
      hm2ModOffsSserialInterface0 + 0 * 0x40 + c * 4) = 0 :=
    if_neg (by simp only [hm2ModOffsSserialInterface0, hm2ModOffsSserialData]; omega)
  obtain ⟨u, hu, -, hend⟩ := constant_modeTable noticing_answers failingRegister_cmd hzero verbose
    (failingRegister ssmod.baseAddress 0 (modeTableRegister c) &&& 0xFFFF)
    (s.onBoard (.inr ())) rfl
  exact ⟨(), u, hu, EndsIn.step hread hend⟩

/-- Starting a software mode does not read the register. -/
lemma modeStart_unnoticed {l : List SwMode} (hbase : modeTableRegister c < ssmod.baseAddress)
    (hl : M.TableModes c (M.table c) l) {mode : SwMode} (hmode : mode ∈ l) :
    Observes (Unnoticed (Modes c l)) (fun started => Unnoticed fun t =>
        started = decide (M.setup c mode.index = 0) ∧ Modes c l t)
      (fun fuel => modeStart (noticing M ssmod c) ssmod fuel 0 c mode) True True := by
  refine unnoticed_walks (fun fuel => modeStart_alike noticing_alike
    (addresses_ne hbase c c.isLt) fuel mode) (.of_endsIn fun s hs => ?_)
  obtain ⟨t, ht, hview, hend⟩ :=
    modeStart_reads M ssmod c.isLt (TableModes.index_lt M hl hmode) s hs.1
  exact ⟨_, t, ⟨rfl, ht, hview ▸ hs.2⟩, hend⟩

/-- A software mode that does not start. -/
lemma softwareMode_unnoticed {l : List SwMode} (hbase : modeTableRegister c < ssmod.baseAddress)
    (hl : M.TableModes c (M.table c) l) {mode : SwMode} (hmode : mode ∈ l)
    (hsetup : ¬ M.setup c mode.index = 0) (verbose : Bool) :
    Observes (Unnoticed (Modes c l)) (fun _ => Unnoticed (Modes c l))
      (fun fuel => softwareMode (noticing M ssmod c) ssmod verbose fuel 0 c mode) True True := by
  simp only [softwareMode]
  refine (modeStart_unnoticed hbase hl hmode).seq fun started => ?_
  cases started with
  | false =>
    refine Walks.pure ?_
    rintro s ⟨t, hst, ht⟩
    exact ⟨t, hst, ht.2⟩
  | true =>
    refine .of_false ?_
    rintro s ⟨t, -, ht⟩
    exact hsetup (of_decide_eq_true ht.1.symm)

/-- A software mode that starts. -/
lemma softwareMode_notices {l : List SwMode} (hbase : modeTableRegister c < ssmod.baseAddress)
    (hl : M.TableModes c (M.table c) l) {mode : SwMode} (hmode : mode ∈ l)
    (hsetup : M.setup c mode.index = 0) (verbose : Bool) :
    Observes (Unnoticed (Modes c l)) (fun _ => Noticed)
      (fun fuel => softwareMode (noticing M ssmod c) ssmod verbose fuel 0 c mode) True True := by
  simp only [softwareMode]
  refine (modeStart_unnoticed hbase hl hmode).seq fun started => ?_
  cases started with
  | false =>
    refine .of_false ?_
    rintro s ⟨t, -, ht⟩
    exact of_decide_eq_false ht.1.symm hsetup
  | true => exact modeRecords_notices _ verbose

/-- Among the software modes is one that starts. -/
lemma deviceModes_notices {l : List SwMode} (hbase : modeTableRegister c < ssmod.baseAddress)
    (hl : M.TableModes c (M.table c) l) (hstarts : M.ModeStarts c l) (verbose : Bool) :
    Observes (Unnoticed (Modes c l)) (fun _ => Noticed)
      (fun fuel => deviceModes (noticing M ssmod c) ssmod verbose fuel 0 c c) True True := by
  obtain ⟨n, hn, hzero, hbefore⟩ := ModeStarts.exists_first M hstarts
  have hmodes : Observes (Unnoticed (Modes c l)) (fun _ => Noticed)
      (fun fuel => l.forM (softwareMode (noticing M ssmod c) ssmod verbose fuel 0 c)) True True :=
    Walks.forM_turn (I := fun _ => Unnoticed (Modes c l)) hn
      (fun k hk hlt => softwareMode_unnoticed hbase hl (List.getElem_mem hk) (hbefore k hk hlt)
        verbose)
      (softwareMode_notices hbase hl (List.getElem_mem hn) hzero verbose)
      fun k hk _ => Noticed.returns (constant_softwareMode noticing_answers failingRegister_cmd
        failingRegister_data verbose c l[k])
  refine hmodes.congr fun s hs fuel => ?_
  obtain ⟨t, hst, ht⟩ := hs
  -- the modes that are gone through are those that the device has now
  have hlist : (s.ssDevice c).swModes = l := by
    rw [hst.ssDevice]
    exact ht.2.1
  change (s.ssDevice c).swModes.forM
    (softwareMode (noticing M ssmod c) ssmod verbose fuel 0 c) s = _
  rw [hlist]

/-- On the channel a software mode starts. -/
lemma channelRound_notices {verbose : Bool} (hbase : modeTableRegister c < ssmod.baseAddress)
    (h : M.ModesReached verbose c) :
    Observes (Unnoticed (Fresh c)) (fun _ => Noticed)
      (fun fuel => channelRound (noticing M ssmod c) ssmod verbose fuel 0 c) True True := by
  obtain ⟨l, hl, hstarts⟩ := h.starts
  have hends : M.TableEnds c (M.table c) := by
    obtain ⟨k, hk, -⟩ := hl
    exact ⟨k, hk⟩
  have hstart : Observes (Unnoticed (Fresh c)) (fun found => Unnoticed (ChannelStarted M c found))
      (fun fuel => channelStart (noticing M ssmod c) ssmod verbose fuel 0 c) True True :=
    (unnoticed_walks (fun fuel => channelStart_alike noticing_alike (addresses_ne hbase c c.isLt)
      verbose fuel) (channelStart_walks M ssmod verbose)).iff
        (iff_of_true trivial fun _ => h.fits) fun _ => iff_of_true trivial fun _ => hends
  simp only [channelRound]
  refine hstart.seq fun found => ?_
  by_cases hfound : found = some c
  · subst hfound
    refine (deviceModes_notices hbase hl hstarts verbose).mono ?_ fun _ _ hs => hs
    rintro s ⟨t, hst, ht⟩
    obtain ⟨-, l', hl', hmodes⟩ := ht.1 h.present
    exact ⟨t, hst, TableModes.unique M hl' hl ▸ hmodes⟩
  · refine .of_false ?_
    rintro s ⟨t, -, ht⟩
    exact hfound (ht.1 h.present).1

/-- A channel before it does not read the register. -/
lemma channelRound_unnoticed {verbose : Bool} (hbase : modeTableRegister c < ssmod.baseAddress)
    (h : M.ModesReached verbose c) {k : ℕ} (hlt : k < c) :
    Observes (Unnoticed (Fresh k)) (fun _ => Unnoticed (Fresh (k + 1)))
      (fun fuel => channelRound (noticing M ssmod c) ssmod verbose fuel 0 k) True True := by
  have hmax := hlt.trans c.isLt
  have hne : RegisterAccess.read (modeTableRegister k) ≠ .read (modeTableRegister c) := by
    intro heq
    have := RegisterAccess.read.inj heq
    simp only [modeTableRegister] at this
    omega
  have hbase' : modeTableRegister k < ssmod.baseAddress :=
    lt_trans (by simp only [modeTableRegister]; omega) hbase
  exact (unnoticed_walks (fun fuel => channelRound_alike noticing_alike
    (addresses_ne hbase k hmax) hne verbose fuel)
    (channelRound_walks M ssmod (i := ⟨k, hmax⟩) hbase' rfl verbose)).iff
      (iff_of_true trivial fun hp => (h.before k hlt hp).1)
      fun _ => iff_of_true trivial fun hp => (h.before k hlt hp).2

/-- The channels before it do not read the register, and those after it find it read. -/
lemma channels_notice {verbose : Bool} (hbase : modeTableRegister c < ssmod.baseAddress)
    (h : M.ModesReached verbose c) :
    Observes (Unnoticed (Fresh 0)) (fun _ => Noticed)
      (fun fuel => (List.range (M.localByte sslbpWidthLoc).toNat).forM
        (channelRound (noticing M ssmod c) ssmod verbose fuel 0)) True True := by
  refine Walks.forM_turn (I := fun k => Unnoticed (Fresh k)) (n := c)
    (by rw [List.length_range]; exact h.channel_lt) (fun k hk hlt => ?_) ?_ fun k hk _ => ?_
  · rw [List.getElem_range]
    exact channelRound_unnoticed hbase h hlt
  · rw [List.getElem_range]
    exact channelRound_notices hbase h
  · exact Noticed.returns (constant_channelRound noticing_answers failingRegister_cmd
      failingRegister_data verbose _)

end Notice

/-! ### The enumeration -/

/-- The module for smart serial. -/
def sserialModuleOf (hm2 : Hostmot2) (md : ModuleDesc) : SserialModule :=
  (SserialInstance.start hm2 md 0 0).toSserialModule

section Init

variable {hm2 : Hostmot2} {md : ModuleDesc} {M : SserialContents} {verbose : Bool}

lemma sserialModuleInit_eq {σ : Type} (bus : RegisterBus σ) (fuel : ℕ)
    (hmd : hm2FindModule hm2 hm2GtagSserial = some md) :
    sserialModuleInit bus hm2 verbose fuel = enableSserialPins bus hm2 >>= fun _ =>
      portStart bus (sserialModuleOf hm2 md) fuel 0 >>= fun width =>
        (List.range width).forM (channelRound bus (sserialModuleOf hm2 md) verbose fuel 0) >>=
          fun _ => disableSserialPins bus hm2 := by
  have hport : [0].forM (portRound bus (sserialModuleOf hm2 md) verbose fuel) =
      portRound bus (sserialModuleOf hm2 md) verbose fuel 0 := bind_pure _
  rw [sserialModuleInit, hmd]
  change (enableSserialPins bus hm2 >>= fun _ =>
    [0].forM (portRound bus (sserialModuleOf hm2 md) verbose fuel) >>= fun _ =>
      disableSserialPins bus hm2) = _
  rw [hport, portRound]
  simp only [bind_assoc]

/-- Every access of the enumeration is to a register of a port or in the block of the module. -/
def EnumerationStays (hm2 : Hostmot2) (M : SserialContents) (verbose : Bool) : Prop :=
  ∀ md, hm2FindModule hm2 hm2GtagSserial = some md → ∀ (regs : SserialRegs) (a : RegisterAccess),
    Makes (fun _ bus fuel => sserialModuleInit bus hm2 verbose fuel)
      (M.bus md.baseAddress.toNat) (SserialBoard.start regs) a →
    IsPortRegister hm2 a.addr ∨
      md.baseAddress.toNat ≤ a.addr ∧ a.addr < md.baseAddress.toNat + 0x600

/-- Where a software mode starts, the register that is read is in the block or at a port. -/
def ModeTablesInside (hm2 : Hostmot2) (M : SserialContents) (verbose : Bool) : Prop :=
  ∀ md, hm2FindModule hm2 hm2GtagSserial = some md →
    (hm2FindModule hm2 hm2GtagIoport).isSome → hm2.PinsFit → ∀ c, M.ModesReached verbose c →
      md.baseAddress.toNat ≤ modeTableRegister c ∨ IsPortRegister hm2 (modeTableRegister c)

variable (hwidth : (M.localByte sslbpWidthLoc).toNat ≤ hm2SserialMaxChannels)

include hwidth

/-- The enumeration does the same on a board that answers these accesses alike. -/
lemma sserialModuleInit_agree {σ : Type} {P : RegisterAccess → Prop} {R : σ → SserialRegs → Prop}
    {bus : RegisterBus σ} (hmd : hm2FindModule hm2 hm2GtagSserial = some md)
    (hio : (hm2FindModule hm2 hm2GtagIoport).isSome)
    (hbus : AnswerAlike P R bus (M.bus md.baseAddress.toNat))
    (hport : ∀ addr value, IsPortRegister hm2 addr → P (.write addr value))
    (hP : ∀ c < hm2SserialMaxChannels, ∀ a, Addresses md.baseAddress.toNat 0 c a → P a)
    (hread : ∀ c < hm2SserialMaxChannels, md.baseAddress.toNat ≤ modeTableRegister c →
      P (.read (modeTableRegister c)))
    (hmodes : ∀ c, M.ModesReached verbose c → P (.read (modeTableRegister c))) (fuel : ℕ) :
    Agree (StatesAlike R) NoModes (sserialModuleInit bus hm2 verbose fuel)
      (sserialModuleInit (M.bus md.baseAddress.toNat) hm2 verbose fuel) := by
  rw [sserialModuleInit_eq bus fuel hmd, sserialModuleInit_eq _ fuel hmd]
  refine ((enablePins_alike hbus hport).mono fun _ _ => trivial).bind
    (Leaves.of_walks (enablePins_walks (M.bus md.baseAddress.toNat) hm2 hio) fuel) fun _ => ?_
  have hstart : Alike R (portStart bus (sserialModuleOf hm2 md) fuel 0)
      (portStart (M.bus md.baseAddress.toNat) (sserialModuleOf hm2 md) fuel 0) :=
    portStart_alike hbus (hP 0 (by decide)) fuel
  refine (hstart.mono fun _ _ => trivial).bind (J := fun width s =>
    width = (M.localByte sslbpWidthLoc).toNat ∧ Fresh 0 s) (fun s width t hs hrun => ?_)
    fun width s₁ s₂ hR hs => ?_
  · exact (Leaves.of_walks (portStart_walks M (sserialModuleOf hm2 md)) fuel s width t hs.1
      hrun).1
  · obtain ⟨rfl, hfresh⟩ := hs
    have hchannels : Agree (StatesAlike R) (BeforeChannel M (sserialModuleOf hm2 md) verbose 0)
        ((List.range (M.localByte sslbpWidthLoc).toNat).forM
          (channelRound bus (sserialModuleOf hm2 md) verbose fuel 0))
        ((List.range (M.localByte sslbpWidthLoc).toNat).forM
          (channelRound (M.bus md.baseAddress.toNat) (sserialModuleOf hm2 md) verbose fuel 0)) :=
      channels_agree M hbus hP verbose hwidth hread hmodes fuel
    refine hchannels.bind (J := fun _ _ => True) (fun _ _ _ _ _ => trivial)
      (fun _ => disablePins_alike hbus hport) s₁ s₂ hR fun _ => ⟨hfresh, fun c' hc' => ?_⟩
    exact absurd hc' c'.not_lt_zero

/-- Where the registers of software modes are inside, all accesses are. -/
lemma enumerationStays_of_inside (h : ModeTablesInside hm2 M verbose) :
    EnumerationStays hm2 M verbose := by
  intro md hmd regs a hmakes
  by_cases hpins : (hm2FindModule hm2 hm2GtagIoport).isSome ∧ hm2.PinsFit
  · by_contra ha
    let P : RegisterAccess → Prop := fun x => IsPortRegister hm2 x.addr ∨
      md.baseAddress.toNat ≤ x.addr ∧ x.addr < md.baseAddress.toNat + 0x600
    have hne : ∀ x, P x → x ≠ a := fun x hx heq => ha (heq ▸ hx)
    refine not_makes (fun τ other first fuel => ?_) hmakes
    refine (sserialModuleInit_agree (P := P) hwidth hmd hpins.1 (noticeBus_alike hne other first)
      (fun addr value => .inl) (fun c hc x hx => .inr (hx.in_block (by decide) hc))
      (fun c hc hbase => .inr ⟨hbase, ?_⟩) (fun c hc => ?_) fuel).mono ?_
    · have : c < 8 := hc
      simp only [RegisterAccess.addr, modeTableRegister, hm2ModOffsSserialInterface2]
      omega
    · rcases h md hmd hpins.1 hpins.2 c hc with hbase | hio
      · refine .inr ⟨hbase, ?_⟩
        have : c < 8 := hc.channel_lt.trans_le hwidth
        simp only [RegisterAccess.addr, modeTableRegister, hm2ModOffsSserialInterface2]
        omega
      · exact .inl hio
    · rintro s rfl
      exact fun _ => rfl
  · -- the pins cannot be enabled, so nothing is accessed by a run that returns
    obtain ⟨τ, other, first, fuel, x, t, noticed, hrun, -⟩ := hmakes
    obtain ⟨e, he⟩ := enablePins_error (noticeBus (M.bus md.baseAddress.toNat) a other first) hpins
      ((SserialBoard.start regs).onBoard (.inl (SserialBoard.start regs).regs))
    dsimp only at hrun
    rw [sserialModuleInit_eq _ _ hmd, prog_bind, he] at hrun
    cases hrun

omit hwidth in
/-- The pins are enabled without a read. -/
lemma enableSserialPins_unnoticed (hio : (hm2FindModule hm2 hm2GtagIoport).isSome)
    (hfits : hm2.PinsFit) (ssmod : SserialModule) (i : Fin hm2SserialMaxChannels) :
    Observes (Unnoticed NoModes) (fun _ => Unnoticed NoModes)
      (fun _ => enableSserialPins (noticing M ssmod i) hm2) True True :=
  (unnoticed_walks (fun _ => enablePins_alike (noticing_alike (M := M) (c := i))
    fun _ _ _ => nofun) (enablePins_walks (M.bus ssmod.baseAddress) hm2 hio)).iff
      (iff_of_true trivial hfits) fun _ => Iff.rfl

omit hwidth in
/-- After the register was read, the pins are disabled as before. -/
lemma disableSserialPins_noticed (hio : (hm2FindModule hm2 hm2GtagIoport).isSome)
    (ssmod : SserialModule) (i : Fin hm2SserialMaxChannels) :
    Observes Noticed (fun _ => Noticed)
      (fun _ => disableSserialPins (noticing M ssmod i) hm2) True True := by
  obtain ⟨io, hio⟩ := Option.isSome_iff_exists.1 hio
  refine .of_endsIn fun s hs => ?_
  have hend : EndsIn .hang (fun _ => disableSserialPins (noticing M ssmod i) hm2) s _ :=
    endsIn_const _ s
  rw [disablePins_eq _ hio] at hend
  refine ⟨(), _, ?_, hend⟩
  rw [Noticed] at hs ⊢
  change disabledRegs (noticing M ssmod i) io s.regs = Sum.inr ()
  rw [hs]
  rfl

omit hwidth in
/-- The enumeration reads the register of a channel on which a software mode starts. -/
lemma sserialModuleInit_notices (hmd : hm2FindModule hm2 hm2GtagSserial = some md)
    (hio : (hm2FindModule hm2 hm2GtagIoport).isSome) (hfits : hm2.PinsFit)
    {i : Fin hm2SserialMaxChannels} (hreached : M.ModesReached verbose i)
    (hbase : modeTableRegister i < md.baseAddress.toNat) :
    Observes (Unnoticed NoModes) (fun _ => Noticed)
      (fun fuel => sserialModuleInit (noticing M (sserialModuleOf hm2 md) i) hm2 verbose fuel)
      True True := by
  have hbase' : modeTableRegister i < (sserialModuleOf hm2 md).baseAddress := hbase
  have hstart := unnoticed_walks (fun fuel => portStart_alike noticing_alike
    (addresses_ne hbase' 0 (by decide)) fuel) (portStart_walks M (sserialModuleOf hm2 md))
  simp only [sserialModuleInit_eq _ _ hmd]
  refine (enableSserialPins_unnoticed hio hfits _ i).seq fun _ => hstart.seq fun width => ?_
  by_cases hw : width = (M.localByte sslbpWidthLoc).toNat
  · subst hw
    refine Walks.seq ?_ fun _ => disableSserialPins_noticed hio _ i
    refine (channels_notice hbase' hreached).mono ?_ fun _ _ hs => hs
    rintro s ⟨t, hst, ht⟩
    exact ⟨t, hst, ht.2⟩
  · refine .of_false ?_
    rintro s ⟨t, -, ht⟩
    exact hw ht.1

/-- The enumeration makes this read. -/
lemma makes_modeTable (hmd : hm2FindModule hm2 hm2GtagSserial = some md)
    (hio : (hm2FindModule hm2 hm2GtagIoport).isSome) (hfits : hm2.PinsFit) {c : ℕ}
    (hreached : M.ModesReached verbose c) (hbase : modeTableRegister c < md.baseAddress.toNat)
    (regs : SserialRegs) :
    Makes (fun _ bus fuel => sserialModuleInit bus hm2 verbose fuel)
      (M.bus md.baseAddress.toNat) (SserialBoard.start regs) (.read (modeTableRegister c)) := by
  let i : Fin hm2SserialMaxChannels := ⟨c, hreached.channel_lt.trans_le hwidth⟩
  obtain ⟨x, t, ht, hend⟩ := (sserialModuleInit_notices (i := i) hmd hio hfits hreached hbase).ok
    trivial trivial ((SserialBoard.start regs).onBoard (.inl regs))
    ⟨_, ⟨rfl, rfl, rfl⟩, fun _ => rfl⟩
  obtain ⟨fuel, hrun⟩ := hend.exists_eq
  exact ⟨Unit, constantBus (failingRegister md.baseAddress.toNat 0), (), fuel, x, t, (), hrun, ht⟩

/-- Every register of software modes that is come to is read. -/
lemma EnumerationStays.inside (h : EnumerationStays hm2 M verbose) :
    ModeTablesInside hm2 M verbose := by
  intro md hmd hio hfits c hreached
  by_contra hout
  rw [not_or, Nat.not_le] at hout
  let regs : SserialRegs :=
    ⟨0, fun _ => 0, fun _ => 0, fun _ => 0, fun _ => 0, fun _ => false, fun _ => false⟩
  have hmakes := makes_modeTable hwidth hmd hio hfits hreached hout.1 regs
  -- the read would be an access to a port or in the block
  rcases h md hmd regs _ hmakes with hport | ⟨hlow, -⟩
  · exact hout.2 hport
  · exact absurd hlow (Nat.not_le.2 hout.1)

/-- **The enumeration stays in the block of the module and at the ports exactly if the registers
of all software modes that it starts are there.** -/
theorem enumerationStays_iff :
    EnumerationStays hm2 M verbose ↔ ModeTablesInside hm2 M verbose :=
  ⟨fun h => h.inside hwidth, enumerationStays_of_inside hwidth⟩

end Init

/-! ### A remote without software modes, and one with a software mode -/

/-- A remote that only has a data record. -/
theorem dataRemote_stays : EnumerationStays (boardWithRemote 60) encoderContents false := by
  refine (enumerationStays_iff (by decide)).2 fun md hmd _ _ c hreached => ?_
  obtain ⟨l, ⟨k, hk, hbefore, rfl⟩, mode, hmode, -⟩ := hreached.starts
  have hlt : c < 1 := hreached.channel_lt
  obtain rfl : c = 0 := by omega
  -- the table has one record, which declares no mode
  match k with
  | 0 => exact absurd hmode List.not_mem_nil
  | 1 =>
    have hnone : encoderContents.modesBefore 0 (encoderContents.table 0) 1 = [] := by decide
    rw [hnone] at hmode
    exact absurd hmode List.not_mem_nil
  | k + 2 => exact absurd (by decide) (hbefore 1 (by omega))

/-- The memory of a remote with a table at 0x10.  Its only record is that of a software mode with
the index 0x20. -/
def modeMemory : List UInt8 :=
  List.replicate 16 0 ++ [0x14, 0, 0, 0] ++ [lbpMode, 0x20, 0x01, 0] ++ (ascii "A" ++ [0])

/-- An interface with this remote at its only channel. -/
def modeContents : SserialContents :=
  { encoderContents with remoteByte := fun _ _ cmd => modeMemory.getD (cmd % 0x1000000) 0 }

lemma modeContents_reached : modeContents.ModesReached false 0 where
  channel_lt := by decide
  before := fun _ h => absurd h (Nat.not_lt_zero _)
  present := rfl
  fits := by
    intro k hbefore
    match k with
    | 0 =>
      have hdata : ¬ modeContents.byteAt 0 false (modeContents.entry 0 (modeContents.table 0) 0) =
        lbpData := by decide
      have hmode : modeContents.byteAt 0 false (modeContents.entry 0 (modeContents.table 0) 0) =
        lbpMode := by decide
      rw [SserialContents.RecordFits, if_neg hdata, if_pos hmode]
      exact ⟨⟨ascii "A", by decide⟩, fun _ => by decide⟩
    | k + 1 => exact absurd (by decide) (hbefore 1 (by omega))
  starts := ⟨_, ⟨1, by decide, by decide, rfl⟩, ⟨0x20, ascii "A"⟩, by decide, by decide⟩

/-- The register of its software mode is in front of the block. -/
theorem modeRemote_not_stays : ¬ EnumerationStays (boardWithRemote 60) modeContents false := by
  intro h
  rcases h.inside (by decide) sserialAt5B00 rfl rfl
    ⟨by decide, by decide⟩ 0 modeContents_reached with hbase | ⟨io, n, hio, -, haddr⟩
  · revert hbase
    decide
  · obtain rfl : ioportAt1000 = io := Option.some.inj hio
    have hbase : ioportAt1000.baseAddress.toNat = 0x1000 := rfl
    simp only [hbase, modeTableRegister, hm2ModOffsSserialInterface2, hm2ModOffsGpioDdr,
      hm2ModOffsGpioAltSource] at haddr
    omega

end Mesaflash
