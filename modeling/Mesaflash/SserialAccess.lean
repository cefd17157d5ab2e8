import Mesaflash.SserialInstance
import Mesaflash.Lib.Agree

/-!
The registers that the functions for smart serial use.

What is sent to a channel of an interface goes to a few registers (`Addresses`).  Two boards
that answer the accesses to them alike (`AnswerAlike`) cannot be told apart by the functions.

Whether a program makes an access is asked with a board that notices it (`noticeBus`): it
answers like a given board until the access comes, and in any other way from then on.
-/

namespace Mesaflash

open Lib

/-- An access to a register. -/
inductive RegisterAccess where
  | read (addr : ℕ)
  | write (addr value : ℕ)
deriving DecidableEq

def RegisterAccess.addr : RegisterAccess → ℕ
  | read addr => addr
  | write addr _ => addr

/-! ### Accesses to a channel -/

/-- The commands that concern one channel, or none. -/
inductive CommandOf (channel : ℕ) : ℕ → Prop
  | stopall : CommandOf channel sslbpCmdStopall
  | reset : CommandOf channel (sslbpCmdStopall ||| sslbpCmdReset)
  | readLocal (x : ℕ) : CommandOf channel (sslbpCmdRead x)
  | startSetup : CommandOf channel (sslbpCmdStartSetupMode channel)
  | startNormal : CommandOf channel (sslbpCmdStartNormalMode channel)
  | stop : CommandOf channel (sslbpCmdStop channel)
  | doit : CommandOf channel (sslbpCmdDoit channel)

/-- The registers that each channel has. -/
def channelOffsets : List ℕ :=
  [hm2ModOffsSserialData, hm2ModOffsSserialCs, hm2ModOffsSserialInterface0,
    hm2ModOffsSserialInterface1, hm2ModOffsSserialInterface2]

/-- The accesses to the command and data registers of an interface and to the registers of one
of its channels. -/
inductive Addresses (baseAddress interface channel : ℕ) : RegisterAccess → Prop
  | sendCmd {cmd : ℕ} (h : CommandOf channel cmd) : Addresses baseAddress interface channel
      (.write (baseAddress + hm2ModOffsSserialCmd + interface * 0x40) cmd)
  | readCmd : Addresses baseAddress interface channel
      (.read (baseAddress + hm2ModOffsSserialCmd + interface * 0x40))
  | readData : Addresses baseAddress interface channel
      (.read (baseAddress + hm2ModOffsSserialData + interface * 0x40))
  | readChannel {offs : ℕ} (h : offs ∈ channelOffsets) : Addresses baseAddress interface channel
      (.read (baseAddress + offs + interface * 0x40 + channel * 4))
  | writeChannel {offs : ℕ} (h : offs ∈ channelOffsets) (value : ℕ) :
      Addresses baseAddress interface channel
        (.write (baseAddress + offs + interface * 0x40 + channel * 4) value)

/-! ### Boards that answer alike -/

section Alike

variable {σ₁ σ₂ α : Type}

/-- Two boards answer the accesses in `P` alike, in states that correspond. -/
structure AnswerAlike (P : RegisterAccess → Prop) (R : σ₁ → σ₂ → Prop) (bus₁ : RegisterBus σ₁)
    (bus₂ : RegisterBus σ₂) : Prop where
  value : ∀ addr, P (.read addr) → ∀ s₁ s₂, R s₁ s₂ →
    (bus₁.read addr s₁).1 = (bus₂.read addr s₂).1
  read : ∀ addr, P (.read addr) → ∀ s₁ s₂, R s₁ s₂ →
    R (bus₁.read addr s₁).2 (bus₂.read addr s₂).2
  write : ∀ addr value, P (.write addr value) → ∀ s₁ s₂, R s₁ s₂ →
    R (bus₁.write addr value s₁) (bus₂.write addr value s₂)

/-- The registers of two runs correspond, and the rest of their states is the same. -/
structure StatesAlike (R : σ₁ → σ₂ → Prop) (s₁ : SserialState σ₁) (s₂ : SserialState σ₂) :
    Prop where
  regs : R s₁.regs s₂.regs
  ssInterface : s₁.ssInterface = s₂.ssInterface
  ssDevice : s₁.ssDevice = s₂.ssDevice

/-- The two programs do the same on boards with registers that correspond. -/
abbrev Alike (R : σ₁ → σ₂ → Prop) (p₁ : SserialM σ₁ α) (p₂ : SserialM σ₂ α) : Prop :=
  Agree (StatesAlike R) (fun _ => True) p₁ p₂

variable {P : RegisterAccess → Prop} {R : σ₁ → σ₂ → Prop} {bus₁ : RegisterBus σ₁}
  {bus₂ : RegisterBus σ₂}

lemma elementOf_alike (n i : ℕ) : Alike R (elementOf n i) (elementOf n i) := by
  intro s₁ s₂ hR _
  unfold elementOf
  split
  · exact .ok hR
  · exact .error _

lemma setDevice_alike (i : Fin hm2SserialMaxChannels) (f : SserialDevice → SserialDevice) :
    Alike R (setDevice i f) (setDevice i f) := by
  intro s₁ s₂ hR _
  refine .ok ⟨hR.regs, hR.ssInterface, ?_⟩
  change Function.update s₁.ssDevice i _ = Function.update s₂.ssDevice i _
  rw [hR.ssDevice]

/-- What depends on the state depends on the part of it that is the same. -/
lemma get_agree {I : SserialState σ₂ → Prop} {f₁ : SserialState σ₁ → SserialM σ₁ α}
    {f₂ : SserialState σ₂ → SserialM σ₂ α}
    (h : ∀ s₁ s₂, StatesAlike R s₁ s₂ → I s₂ → Agree (StatesAlike R) I (f₁ s₁) (f₂ s₂)) :
    Agree (StatesAlike R) I (get >>= f₁) (get >>= f₂) :=
  fun s₁ s₂ hR hs => h s₁ s₂ hR hs s₁ s₂ hR hs

variable (hbus : AnswerAlike P R bus₁ bus₂)

include hbus

lemma llioRead_alike {addr : ℕ} (h : P (.read addr)) :
    Alike R (llioRead bus₁ addr) (llioRead bus₂ addr) := by
  intro s₁ s₂ hR _
  rw [llioRead, llioRead, hbus.value addr h _ _ hR.regs]
  exact .ok ⟨hbus.read addr h _ _ hR.regs, hR.ssInterface, hR.ssDevice⟩

lemma llioWrite_alike {addr value : ℕ} (h : P (.write addr value)) :
    Alike R (llioWrite bus₁ addr value) (llioWrite bus₂ addr value) := by
  intro s₁ s₂ hR _
  exact .ok ⟨hbus.write addr value h _ _ hR.regs, hR.ssInterface, hR.ssDevice⟩

/-! ### The functions -/

variable {ssmod : SserialModule} {interface channel : ℕ}
  (hP : ∀ a, Addresses ssmod.baseAddress interface channel a → P a)

include hP

lemma sendLocalCmd_alike {cmd : ℕ} (hcmd : CommandOf channel cmd) :
    Alike R (sslbpSendLocalCmd bus₁ ssmod interface cmd)
      (sslbpSendLocalCmd bus₂ ssmod interface cmd) :=
  llioWrite_alike hbus (hP _ (.sendCmd hcmd))

lemma readData_alike :
    Alike R (sslbpReadData bus₁ ssmod interface) (sslbpReadData bus₂ ssmod interface) :=
  (llioRead_alike hbus (hP _ .readData)).seq fun _ => .pure _

lemma waitComplete_alike (fuel : ℕ) :
    Alike R (sslbpWaitComplete bus₁ ssmod fuel interface)
      (sslbpWaitComplete bus₂ ssmod fuel interface) :=
  .loopM (fun _ _ => (llioRead_alike hbus (hP _ .readCmd)).seq fun _ =>
    .ite (fun _ => .pure _) fun _ => .pure _) fuel ()

lemma channelRead_alike {offs : ℕ} (h : offs ∈ channelOffsets) :
    Alike R (llioRead bus₁ (ssmod.baseAddress + offs + interface * 0x40 + channel * 4))
      (llioRead bus₂ (ssmod.baseAddress + offs + interface * 0x40 + channel * 4)) :=
  llioRead_alike hbus (hP _ (.readChannel h))

lemma channelWrite_alike {offs : ℕ} (h : offs ∈ channelOffsets) (value : ℕ) :
    Alike R (llioWrite bus₁ (ssmod.baseAddress + offs + interface * 0x40 + channel * 4) value)
      (llioWrite bus₂ (ssmod.baseAddress + offs + interface * 0x40 + channel * 4) value) :=
  llioWrite_alike hbus (hP _ (.writeChannel h value))

lemma readLocal8_alike (fuel addr : ℕ) :
    Alike R (sslbpReadLocal8 bus₁ ssmod fuel interface addr)
      (sslbpReadLocal8 bus₂ ssmod fuel interface addr) :=
  (sendLocalCmd_alike hbus hP (.readLocal addr)).seq fun _ =>
    (waitComplete_alike hbus hP fuel).seq fun _ => readData_alike hbus hP

lemma readLocal32_alike (fuel addr : ℕ) :
    Alike R (sslbpReadLocal32 bus₁ ssmod fuel interface addr)
      (sslbpReadLocal32 bus₂ ssmod fuel interface addr) :=
  .foldlM (fun _ _ _ => (readLocal8_alike hbus hP fuel _).seq fun _ => .pure _) 0

lemma readRemote8_alike (fuel addr : ℕ) :
    Alike R (sslbpReadRemote8 bus₁ ssmod fuel interface channel addr)
      (sslbpReadRemote8 bus₂ ssmod fuel interface channel addr) :=
  (channelWrite_alike hbus hP (by decide) _).seq fun _ =>
    (sendLocalCmd_alike hbus hP .doit).seq fun _ =>
    (waitComplete_alike hbus hP fuel).seq fun _ =>
    (channelRead_alike hbus hP (by decide)).seq fun _ => .pure _

lemma readRemote16_alike (fuel addr : ℕ) :
    Alike R (sslbpReadRemote16 bus₁ ssmod fuel interface channel addr)
      (sslbpReadRemote16 bus₂ ssmod fuel interface channel addr) :=
  .foldlM (fun _ _ _ => (readRemote8_alike hbus hP fuel _).seq fun _ => .pure _) 0

lemma readRemote32_alike (fuel addr : ℕ) :
    Alike R (sslbpReadRemote32 bus₁ ssmod fuel interface channel addr)
      (sslbpReadRemote32 bus₂ ssmod fuel interface channel addr) :=
  .foldlM (fun _ _ _ => (readRemote8_alike hbus hP fuel _).seq fun _ => .pure _) 0

lemma selectNv_alike (fuel nv : ℕ) :
    Alike R (selectNv bus₁ ssmod fuel interface channel nv)
      (selectNv bus₂ ssmod fuel interface channel nv) :=
  (channelWrite_alike hbus hP (by decide) _).seq fun _ =>
    (channelWrite_alike hbus hP (by decide) _).seq fun _ =>
    (sendLocalCmd_alike hbus hP .doit).seq fun _ => waitComplete_alike hbus hP fuel

lemma readNvRemote16_alike (fuel addr : ℕ) :
    Alike R (sslbpReadNvRemote16 bus₁ ssmod fuel interface channel addr)
      (sslbpReadNvRemote16 bus₂ ssmod fuel interface channel addr) :=
  (selectNv_alike hbus hP fuel _).seq fun _ => (readRemote16_alike hbus hP fuel addr).seq fun _ =>
    (selectNv_alike hbus hP fuel _).seq fun _ => .pure _

lemma readNvRemote32_alike (fuel addr : ℕ) :
    Alike R (sslbpReadNvRemote32 bus₁ ssmod fuel interface channel addr)
      (sslbpReadNvRemote32 bus₂ ssmod fuel interface channel addr) :=
  (selectNv_alike hbus hP fuel _).seq fun _ => (readRemote32_alike hbus hP fuel addr).seq fun _ =>
    (selectNv_alike hbus hP fuel _).seq fun _ => .pure _

lemma copyByte_alike (fuel room : ℕ) (x : ByteCopy (List UInt8)) :
    Alike R (copyByte bus₁ ssmod (storeInRoom room) fuel interface channel x)
      (copyByte bus₂ ssmod (storeInRoom room) fuel interface channel x) :=
  .ite (fun _ => .pure _) fun _ => (readRemote8_alike hbus hP fuel _).seq fun _ =>
    ((elementOf_alike _ _).seq fun _ => .pure _).seq fun _ =>
      .ite (fun _ => .pure _) fun _ => .pure _

lemma readRemoteBytes_alike (fuel addr room : ℕ) (size : ℤ) :
    Alike R (sslbpReadRemoteBytes bus₁ ssmod fuel interface channel addr room size)
      (sslbpReadRemoteBytes bus₂ ssmod fuel interface channel addr room size) :=
  .loopM (fun fuel x => copyByte_alike hbus hP fuel room x) fuel _

/-! ### Records -/

lemma readDataRecord_alike (fuel d : ℕ) :
    Alike R (readDataRecord bus₁ ssmod fuel interface channel d)
      (readDataRecord bus₂ ssmod fuel interface channel d) :=
  (readRemoteBytes_alike hbus hP fuel _ _ _).seq fun _ =>
    (readRemoteBytes_alike hbus hP fuel _ _ _).seq fun _ =>
    (readRemoteBytes_alike hbus hP fuel _ _ _).seq fun _ => .pure _

lemma readModeRecord_alike (fuel d : ℕ) :
    Alike R (readModeRecord bus₁ ssmod fuel interface channel d)
      (readModeRecord bus₂ ssmod fuel interface channel d) :=
  (readRemoteBytes_alike hbus hP fuel _ _ _).seq fun _ =>
    (readRemoteBytes_alike hbus hP fuel _ _ _).seq fun _ => .pure _

lemma readRevision_alike (fuel d : ℕ) (pdd : SserialPdd) :
    Alike R (readRevision bus₁ ssmod fuel interface channel d pdd)
      (readRevision bus₂ ssmod fuel interface channel d pdd) :=
  (readRemoteBytes_alike hbus hP fuel _ _ _).seq fun _ => .pure _

lemma readParameter_alike (fuel : ℕ) (pdd : SserialPdd) :
    Alike R (readParameter bus₁ ssmod fuel interface channel pdd)
      (readParameter bus₂ ssmod fuel interface channel pdd) :=
  .ite (fun _ => .ite (fun _ => (readNvRemote16_alike hbus hP fuel _).seq fun _ => .pure _)
    fun _ => .ite (fun _ => (readNvRemote32_alike hbus hP fuel _).seq fun _ => .pure _)
      fun _ => .pure _) fun _ => .pure _

lemma dataRecord_alike (verbose : Bool) (fuel : ℕ) (i : Fin hm2SserialMaxChannels) (d : ℕ) :
    Alike R (dataRecord bus₁ ssmod verbose fuel interface channel i d)
      (dataRecord bus₂ ssmod verbose fuel interface channel i d) := by
  refine (readDataRecord_alike hbus hP fuel d).seq ?_
  rintro ⟨pdd, unit, name⟩
  -- one case for each name that is looked for
  refine .ite (fun _ => ?_) fun _ => .ite (fun _ => ?_) fun _ => .ite (fun _ => ?_) fun _ =>
    .ite (fun _ => ?_) fun _ => .ite (fun _ => ?_) fun _ => .ite (fun _ => ?_) fun _ => .pure _
  · exact (readRevision_alike hbus hP fuel d pdd).seq fun _ => setDevice_alike i _
  · exact (readRevision_alike hbus hP fuel d pdd).seq fun _ => setDevice_alike i _
  · exact (readNvRemote16_alike hbus hP fuel _).seq fun _ => (elementOf_alike _ _).seq fun _ =>
      .pure _
  · exact (readNvRemote32_alike hbus hP fuel _).seq fun _ => .pure _
  · exact (readNvRemote16_alike hbus hP fuel _).seq fun _ => .pure _
  · exact (readParameter_alike hbus hP fuel pdd).seq fun _ => (elementOf_alike _ _).seq fun _ =>
      .pure _

lemma modeRecord_alike (fuel : ℕ) (i : Fin hm2SserialMaxChannels) (d : ℕ) :
    Alike R (modeRecord bus₁ ssmod fuel interface channel i d)
      (modeRecord bus₂ ssmod fuel interface channel i d) := by
  refine (readModeRecord_alike hbus hP fuel d).seq ?_
  rintro ⟨md, name⟩
  refine .ite (fun _ => .ite (fun _ => .throw _) fun _ => ?_) fun _ => .pure _
  refine get_agree fun s₁ s₂ hR _ => ?_
  rw [hR.ssDevice]
  exact (elementOf_alike _ _).seq fun _ => setDevice_alike i _

lemma recordRound_alike (verbose : Bool) (fuel : ℕ) (i : Fin hm2SserialMaxChannels) (addr : ℕ) :
    Alike R (recordRound bus₁ ssmod verbose fuel interface channel i addr)
      (recordRound bus₂ ssmod verbose fuel interface channel i addr) := by
  refine (readRemote16_alike hbus hP fuel addr).seq fun d => .ite (fun _ => .pure _) fun _ => ?_
  refine (readRemote8_alike hbus hP fuel d).seq fun _ => ?_
  refine (Agree.ite (fun _ => ?_) fun _ => .ite (fun _ => ?_) fun _ => .pure _).seq
    fun _ => .pure _
  · exact dataRecord_alike hbus hP verbose fuel i d
  · exact modeRecord_alike hbus hP fuel i d

lemma modeDataRecord_alike (verbose : Bool) (fuel d : ℕ) :
    Alike R (modeDataRecord bus₁ ssmod verbose fuel interface channel d)
      (modeDataRecord bus₂ ssmod verbose fuel interface channel d) := by
  refine (readDataRecord_alike hbus hP fuel d).seq ?_
  rintro ⟨pdd, unit, name⟩
  exact .ite (fun _ => (elementOf_alike _ _).seq fun _ => .pure _) fun _ => .pure _

lemma modeRound_alike (verbose : Bool) (fuel addr : ℕ) :
    Alike R (modeRound bus₁ ssmod verbose fuel interface channel addr)
      (modeRound bus₂ ssmod verbose fuel interface channel addr) := by
  refine (readRemote16_alike hbus hP fuel addr).seq fun d => .ite (fun _ => .pure _) fun _ => ?_
  refine (readRemote8_alike hbus hP fuel d).seq fun _ => ?_
  refine (Agree.ite (fun _ => ?_) fun _ => .ite (fun _ => ?_) fun _ => .pure _).seq
    fun _ => .pure _
  · exact modeDataRecord_alike hbus hP verbose fuel d
  · exact (readModeRecord_alike hbus hP fuel d).seq fun _ => .pure _

/-! ### Channels and interfaces -/

lemma startSetup_alike (fuel cmd : ℕ) :
    Alike R (startSetup bus₁ ssmod fuel interface channel cmd)
      (startSetup bus₂ ssmod fuel interface channel cmd) :=
  (channelWrite_alike hbus hP (by decide) _).seq fun _ =>
    (sendLocalCmd_alike hbus hP .startSetup).seq fun _ =>
    (waitComplete_alike hbus hP fuel).seq fun _ => readData_alike hbus hP

lemma readInterface_alike (fuel : ℕ) :
    Alike R (readInterface bus₁ ssmod fuel interface) (readInterface bus₂ ssmod fuel interface) :=
  (readLocal8_alike hbus hP fuel _).seq fun _ => (readLocal8_alike hbus hP fuel _).seq fun _ =>
    (readLocal8_alike hbus hP fuel _).seq fun _ => (readLocal8_alike hbus hP fuel _).seq fun _ =>
    (readLocal8_alike hbus hP fuel _).seq fun _ => (readLocal8_alike hbus hP fuel _).seq fun _ =>
    (readLocal8_alike hbus hP fuel _).seq fun _ => (readLocal8_alike hbus hP fuel _).seq fun _ =>
    (readLocal32_alike hbus hP fuel _).seq fun _ => (readLocal32_alike hbus hP fuel _).seq fun _ =>
    .pure _

lemma channelStart_alike (verbose : Bool) (fuel : ℕ) :
    Alike R (channelStart bus₁ ssmod verbose fuel interface channel)
      (channelStart bus₂ ssmod verbose fuel interface channel) := by
  refine (startSetup_alike hbus hP fuel 0).seq fun _ => .ite (fun _ => .pure _) fun _ => ?_
  refine (channelRead_alike hbus hP (by decide)).seq fun _ =>
    (channelRead_alike hbus hP (by decide)).seq fun _ => (elementOf_alike _ _).seq fun i =>
    (setDevice_alike i _).seq fun _ => (channelRead_alike hbus hP (by decide)).seq fun _ =>
    (setDevice_alike i _).seq fun _ => (channelRead_alike hbus hP (by decide)).seq fun _ => ?_
  exact (Agree.loopM (fun fuel addr => recordRound_alike hbus hP verbose fuel i addr) fuel _).seq
    fun _ => .pure _

lemma modeStart_alike (fuel : ℕ) (swMode : SwMode) :
    Alike R (modeStart bus₁ ssmod fuel interface channel swMode)
      (modeStart bus₂ ssmod fuel interface channel swMode) :=
  (sendLocalCmd_alike hbus hP .stop).seq fun _ => (waitComplete_alike hbus hP fuel).seq fun _ =>
    (startSetup_alike hbus hP fuel _).seq fun _ => .pure _

lemma portStart_alike (fuel : ℕ) :
    Alike R (portStart bus₁ ssmod fuel interface) (portStart bus₂ ssmod fuel interface) := by
  refine (sendLocalCmd_alike hbus hP .reset).seq fun _ => (sendLocalCmd_alike hbus hP .stopall).seq
    fun _ => (waitComplete_alike hbus hP fuel).seq fun _ => (readInterface_alike hbus hP fuel).seq
    fun interface => Agree.seq (fun s₁ s₂ hR _ => ?_) fun _ => .pure _
  exact .ok ⟨hR.regs, rfl, hR.ssDevice⟩

/-! ### Software modes -/

section Modes

variable (hread : P (.read (hm2ModOffsSserialInterface2 + interface * 0x40 + channel * 4)))

include hread

lemma modeRecords_alike (verbose : Bool) (fuel : ℕ) :
    Alike R (modeRecords bus₁ ssmod verbose fuel interface channel)
      (modeRecords bus₂ ssmod verbose fuel interface channel) :=
  (llioRead_alike hbus hread).seq fun _ =>
    .loopM (fun fuel addr => modeRound_alike hbus hP verbose fuel addr) fuel _

lemma softwareMode_alike (verbose : Bool) (fuel : ℕ) (swMode : SwMode) :
    Alike R (softwareMode bus₁ ssmod verbose fuel interface channel swMode)
      (softwareMode bus₂ ssmod verbose fuel interface channel swMode) := by
  rw [softwareMode, softwareMode]
  exact (modeStart_alike hbus hP fuel swMode).seq fun _ =>
    .ite (fun _ => modeRecords_alike hbus hP hread verbose fuel) fun _ => .pure _

lemma deviceModes_alike (verbose : Bool) (fuel : ℕ) (i : Fin hm2SserialMaxChannels) :
    Alike R (deviceModes bus₁ ssmod verbose fuel interface channel i)
      (deviceModes bus₂ ssmod verbose fuel interface channel i) := by
  refine get_agree fun s₁ s₂ hR _ => ?_
  rw [hR.ssDevice]
  exact .forM_all fun swMode _ => softwareMode_alike hbus hP hread verbose fuel swMode

lemma channelRound_alike (verbose : Bool) (fuel : ℕ) :
    Alike R (channelRound bus₁ ssmod verbose fuel interface channel)
      (channelRound bus₂ ssmod verbose fuel interface channel) := by
  rw [channelRound, channelRound]
  refine (channelStart_alike hbus hP verbose fuel).seq fun found => ?_
  cases found with
  | none => exact .pure _
  | some i => exact deviceModes_alike hbus hP hread verbose fuel i

end Modes

end Alike

/-! ### One remote -/

section Remote

variable {σ₁ σ₂ : Type} {P : RegisterAccess → Prop} {R : σ₁ → σ₂ → Prop}
  {bus₁ : RegisterBus σ₁} {bus₂ : RegisterBus σ₂} {ssmod : SserialInstance}

/-- The registers of the channel are among the accesses, with the stride of the module. -/
def RegistersIn (ssmod : SserialInstance) (P : RegisterAccess → Prop) : Prop :=
  ∀ offs ∈ channelOffsets, P (.read (ssmod.register offs)) ∧
    ∀ value, P (.write (ssmod.register offs) value)

variable (hbus : AnswerAlike P R bus₁ bus₂)

include hbus

lemma startNormal_alike
    (hzero : ∀ a, Addresses ssmod.baseAddress 0 ssmod.channelNum a → P a) (fuel : ℕ) :
    Alike R (startNormal bus₁ fuel ssmod) (startNormal bus₂ fuel ssmod) := by
  have hplain : ∀ offs, ssmod.baseAddress + offs + 0 * 0x40 + ssmod.channelNum * 4 =
      ssmod.baseAddress + offs + ssmod.channelNum * 4 := fun offs => by rw [Nat.zero_mul, add_zero]
  have hwrite := channelWrite_alike hbus hzero
    (show hm2ModOffsSserialCs ∈ channelOffsets by decide) 0
  have hread := channelRead_alike hbus hzero (show hm2ModOffsSserialData ∈ channelOffsets by decide)
  rw [hplain] at hwrite hread
  exact (sendLocalCmd_alike hbus hzero .stopall).seq fun _ =>
    (waitComplete_alike hbus hzero fuel).seq fun _ => hwrite.seq fun _ =>
    (sendLocalCmd_alike hbus hzero .startNormal).seq fun _ =>
    (waitComplete_alike hbus hzero fuel).seq fun _ => hread.seq fun _ =>
    .ite (fun _ => .pure _) fun _ => .pure _

variable (hreg : RegistersIn ssmod P)

include hreg

lemma checkRemote_alike
    (hzero : ∀ a, Addresses ssmod.baseAddress 0 ssmod.channelNum a → P a) (fuel remoteType : ℕ) :
    Alike R (checkRemote bus₁ fuel ssmod remoteType) (checkRemote bus₂ fuel ssmod remoteType) := by
  refine (llioRead_alike hbus (hreg _ (by decide)).1).seq fun _ =>
    (llioRead_alike hbus (hreg _ (by decide)).1).seq fun _ =>
    .ite (fun _ => .pure _) fun _ => (llioRead_alike hbus (hreg _ (by decide)).1).seq fun _ =>
    (llioRead_alike hbus (hreg _ (by decide)).1).seq fun _ => ?_
  apply startNormal_alike hbus
  exact hzero

lemma startRemote_alike
    (hP : ∀ a, Addresses ssmod.baseAddress ssmod.interfaceNum ssmod.channelNum a → P a)
    (hzero : ∀ a, Addresses ssmod.baseAddress 0 ssmod.channelNum a → P a) (fuel remoteType : ℕ) :
    Alike R (startRemote bus₁ fuel ssmod remoteType) (startRemote bus₂ fuel ssmod remoteType) := by
  refine (sendLocalCmd_alike hbus hP .reset).seq fun _ =>
    (sendLocalCmd_alike hbus hP .stopall).seq fun _ =>
    (waitComplete_alike hbus hP fuel).seq fun _ =>
    (readInterface_alike hbus hP fuel).seq fun _ =>
    (llioWrite_alike hbus ((hreg _ (by decide)).2 _)).seq fun _ =>
    (sendLocalCmd_alike hbus hP .startSetup).seq fun _ => (waitComplete_alike hbus hP fuel).seq
    fun _ => (readData_alike hbus hP).seq fun _ => .ite (fun _ => .pure _) fun _ => ?_
  apply checkRemote_alike hbus
  · exact hreg
  · exact hzero

lemma sserialWrite_alike (hone : ∀ a, Addresses ssmod.baseAddress 0 1 a → P a) (fuel : ℕ) :
    Alike R (sserialWrite bus₁ fuel ssmod) (sserialWrite bus₂ fuel ssmod) :=
  (llioWrite_alike hbus ((hreg _ (by decide)).2 _)).seq fun _ =>
    (llioWrite_alike hbus ((hreg _ (by decide)).2 _)).seq fun _ =>
    (llioWrite_alike hbus ((hreg _ (by decide)).2 _)).seq fun _ =>
    (sendLocalCmd_alike hbus hone .doit).seq fun _ =>
    (waitComplete_alike hbus hone fuel).seq fun _ =>
    (llioRead_alike hbus (hreg _ (by decide)).1).seq fun _ =>
    (llioRead_alike hbus (hreg _ (by decide)).1).seq fun _ => .pure _

end Remote

/-! ### Pins -/

/-- A direction or alternate-source register of a port.  The functions for smart serial take it
that there are two ports at least. -/
def IsPortRegister (hm2 : Hostmot2) (addr : ℕ) : Prop :=
  ∃ md n, hm2FindModule hm2 hm2GtagIoport = some md ∧ (n < 2 ∨ n < hm2.idrom.ioPorts) ∧
    (addr = md.baseAddress.toNat + hm2ModOffsGpioDdr + 4 * n ∨
      addr = md.baseAddress.toNat + hm2ModOffsGpioAltSource + 4 * n)

section Pins

variable {σ₁ σ₂ : Type} {P : RegisterAccess → Prop} {R : σ₁ → σ₂ → Prop}
  {bus₁ : RegisterBus σ₁} {bus₂ : RegisterBus σ₂} {hm2 : Hostmot2}

lemma scanPin_alike (x : PinScan) (k : ℕ) : Alike R (scanPin hm2 x k) (scanPin hm2 x k) :=
  (elementOf_alike _ _).seq fun _ => .ite (fun _ => (elementOf_alike _ _).seq fun _ => .pure _)
    fun _ => .pure _

variable (hbus : AnswerAlike P R bus₁ bus₂)
  (hP : ∀ addr value, IsPortRegister hm2 addr → P (.write addr value))

include hbus hP

lemma enablePins_alike : Alike R (enableSserialPins bus₁ hm2) (enableSserialPins bus₂ hm2) := by
  intro s₁ s₂ hR _
  rw [enableSserialPins, enableSserialPins]
  cases hmd : hm2FindModule hm2 hm2GtagIoport with
  | none => exact .error _
  | some md =>
    have hport : ∀ x, ∀ port ∈ List.range 2,
        Alike R (scanPort bus₁ hm2 md.baseAddress.toNat x port)
          (scanPort bus₂ hm2 md.baseAddress.toNat x port) := by
      intro x port hlt
      have hlt' := List.mem_range.1 hlt
      exact (Agree.foldlM (fun x k _ => scanPin_alike x k) _).seq fun _ =>
        (llioWrite_alike hbus (hP _ _ ⟨md, port, hmd, .inl hlt', .inl rfl⟩)).seq fun _ =>
        (llioWrite_alike hbus (hP _ _ ⟨md, port, hmd, .inl hlt', .inr rfl⟩)).seq fun _ => .pure _
    exact (Agree.foldlM hport _).seq (fun _ => .pure ()) s₁ s₂ hR trivial

lemma disablePins_alike :
    Alike R (disableSserialPins bus₁ hm2) (disableSserialPins bus₂ hm2) := by
  intro s₁ s₂ hR _
  rw [disableSserialPins, disableSserialPins]
  cases hmd : hm2FindModule hm2 hm2GtagIoport with
  | none => exact .error _
  | some md =>
    have hport : ∀ port < 2, Alike R
        (llioWrite bus₁ (md.baseAddress.toNat + hm2ModOffsGpioDdr + 4 * port) 0 >>= fun _ =>
          llioWrite bus₁ (md.baseAddress.toNat + hm2ModOffsGpioAltSource + 4 * port) 0)
        (llioWrite bus₂ (md.baseAddress.toNat + hm2ModOffsGpioDdr + 4 * port) 0 >>= fun _ =>
          llioWrite bus₂ (md.baseAddress.toNat + hm2ModOffsGpioAltSource + 4 * port) 0) :=
      fun port hlt =>
        (llioWrite_alike hbus (hP _ _ ⟨md, port, hmd, .inl hlt, .inl rfl⟩)).seq fun _ =>
          llioWrite_alike hbus (hP _ _ ⟨md, port, hmd, .inl hlt, .inr rfl⟩)
    have hports : Alike R _ _ := (hport 0 (by decide)).seq fun _ =>
      (hport 1 (by decide)).seq fun _ => .pure ()
    exact hports s₁ s₂ hR trivial

/-- The enumeration, where all registers may be read and those in the block of the module may be
written. -/
lemma sserialModuleInit_alike (hread : ∀ addr, P (.read addr))
    (hblock : ∀ md, hm2FindModule hm2 hm2GtagSserial = some md →
      ∀ addr value, md.baseAddress.toNat ≤ addr → P (.write addr value))
    (verbose : Bool) (fuel : ℕ) :
    Alike R (sserialModuleInit bus₁ hm2 verbose fuel)
      (sserialModuleInit bus₂ hm2 verbose fuel) := by
  rw [sserialModuleInit, sserialModuleInit]
  cases hmd : hm2FindModule hm2 hm2GtagSserial with
  | none => exact .pure _
  | some md =>
    have haddr : ∀ interface channel a, Addresses md.baseAddress.toNat interface channel a →
        P a := by
      rintro interface channel a ha
      cases ha with
      | readCmd => exact hread _
      | readData => exact hread _
      | readChannel => exact hread _
      | sendCmd => exact hblock md hmd _ _ (by omega)
      | writeChannel => exact hblock md hmd _ _ (by omega)
    refine (enablePins_alike hbus hP).seq fun _ =>
      (Agree.forM_all fun port _ => ?_).seq fun _ => disablePins_alike hbus hP
    exact (portStart_alike hbus (haddr port 0) fuel).seq fun width =>
      .forM_all fun channel _ =>
        channelRound_alike hbus (haddr port channel) (hread _) verbose fuel

end Pins

/-! ### Accesses of a program -/

/-- The registers answer like those of `bus` until the access `a` comes, and from then on like
those of `other`. -/
def noticeBus {σ τ : Type} (bus : RegisterBus σ) (a : RegisterAccess) (other : RegisterBus τ)
    (first : τ) : RegisterBus (σ ⊕ τ) where
  read addr
    | .inl s => if a = .read addr then ((other.read addr first).1, .inr (other.read addr first).2)
      else ((bus.read addr s).1, .inl (bus.read addr s).2)
    | .inr t => ((other.read addr t).1, .inr (other.read addr t).2)
  write addr value
    | .inl s => if a = .write addr value then .inr (other.write addr value first)
      else .inl (bus.write addr value s)
    | .inr t => .inr (other.write addr value t)

/-- A program that is given a board and fuel. -/
abbrev BoardProgram (α : Type) : Type 1 := (σ : Type) → RegisterBus σ → ℕ → SserialM σ α

/-- The same state, with other registers. -/
def SserialState.onBoard {σ τ : Type} (s : SserialState σ) (regs : τ) : SserialState τ where
  regs := regs
  ssInterface := s.ssInterface
  ssDevice := s.ssDevice

/-- The program makes the access `a` on the board: some board that has noticed it lets the
program return.  What is answered from the access on is free, as a run shows nothing of itself
where it does not return. -/
def Makes {σ α : Type} (p : BoardProgram α) (bus : RegisterBus σ) (s : SserialState σ)
    (a : RegisterAccess) : Prop :=
  ∃ (τ : Type) (other : RegisterBus τ) (first : τ) (fuel : ℕ) (x : α)
    (t : SserialState (σ ⊕ τ)) (noticed : τ),
    p _ (noticeBus bus a other first) fuel (s.onBoard (.inl s.regs)) = .ok (x, t) ∧
      t.regs = .inr noticed

section Makes

variable {σ τ α : Type} {P : RegisterAccess → Prop} {bus : RegisterBus σ} {a : RegisterAccess}

/-- Before the access comes, the board cannot be told apart from one that does not notice. -/
lemma noticeBus_alike (h : ∀ x, P x → x ≠ a) (other : RegisterBus τ) (first : τ) :
    AnswerAlike P (fun s₁ s₂ => s₁ = .inl s₂) (noticeBus bus a other first) bus where
  value addr hP s₁ s₂ hs := by
    subst hs
    simp only [noticeBus, if_neg (h _ hP).symm]
  read addr hP s₁ s₂ hs := by
    subst hs
    simp only [noticeBus, if_neg (h _ hP).symm]
  write addr value hP s₁ s₂ hs := by
    subst hs
    simp only [noticeBus, if_neg (h _ hP).symm]

/-- A program that cannot tell the boards apart does not make the access. -/
lemma not_makes {p : BoardProgram α} {s : SserialState σ}
    (h : ∀ (τ : Type) (other : RegisterBus τ) (first : τ) (fuel : ℕ),
      Agree (StatesAlike fun s₁ s₂ => s₁ = .inl s₂) (fun t => t = s)
        (p _ (noticeBus bus a other first) fuel) (p _ bus fuel)) :
    ¬ Makes p bus s a := by
  rintro ⟨τ, other, first, fuel, x, t, noticed, hrun, hregs⟩
  have hends := h τ other first fuel (s.onBoard (.inl s.regs)) s ⟨rfl, rfl, rfl⟩ rfl
  rw [hrun] at hends
  obtain ⟨t₂, halike, -⟩ := hends.of_ok
  rw [halike.regs] at hregs
  cases hregs

end Makes

end Mesaflash
