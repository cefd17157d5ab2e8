import Mesaflash.Sserial

/-!
A smart serial interface and its remote devices.

The processor of the interface carries out a command when its register is written.  What
it answers is given by contents that do not change: its own memory, the answer to the setup
of each channel, and the bytes that the remotes send for each command word.  From this
the functions that read a remote read its contents (`readRemote8_reads`, …), whatever is
in the registers before.
-/

namespace Mesaflash

open Lib

/-- What is behind the registers of an interface. -/
structure SserialContents where
  /-- The memory of the processor. -/
  localByte : ℕ → UInt8
  /-- The result of the setup of a channel in a mode. -/
  setup : ℕ → ℕ → UInt8
  /-- The result of a setup without a channel. -/
  setupNone : UInt8
  /-- The registers that the setup of a channel in a mode fills. -/
  interface0 : ℕ → ℕ → ℕ
  interface1 : ℕ → ℕ → ℕ
  interface2 : ℕ → ℕ → ℕ
  /-- What the remote of a channel answers to a command word, from its memory or from its
  nonvolatile memory. -/
  remoteByte : ℕ → Bool → ℕ → UInt8
  /-- The registers of other modules. -/
  otherReg : ℕ → ℕ

/-- The registers of an interface, and what its remotes have latched. -/
structure SserialRegs where
  data : ℕ
  cs : ℕ → ℕ
  interface0 : ℕ → ℕ
  interface1 : ℕ → ℕ
  interface2 : ℕ → ℕ
  /-- Whether `INTERFACE0` holds the argument of a command. -/
  argument : ℕ → Bool
  /-- Whether the nonvolatile memory of a remote is selected. -/
  nv : ℕ → Bool

namespace SserialContents

variable (M : SserialContents)

/-- The channel that a command is for. -/
def channelOf (cmd : ℕ) : Option ℕ :=
  (List.range hm2SserialMaxChannels).find? fun c => channelMask c == cmd % 0x100

/-- The setup of a channel, in the mode that is in its register. -/
def start (c : ℕ) (r : SserialRegs) : SserialRegs :=
  let mode := r.cs c / 2 ^ 24
  { r with
    data := (M.setup c mode).toNat
    interface0 := Function.update r.interface0 c (M.interface0 c mode)
    interface1 := Function.update r.interface1 c (M.interface1 c mode)
    interface2 := Function.update r.interface2 c (M.interface2 c mode) }

/-- A command for the remote of a channel. -/
def doit (c : ℕ) (r : SserialRegs) : SserialRegs :=
  if r.argument c ∧ r.cs c / 2 ^ 24 = lbpCmdReadNv then
    { r with
      nv := Function.update r.nv c (r.interface0 c != 0)
      argument := Function.update r.argument c false }
  else
    { r with
      interface0 := Function.update r.interface0 c (M.remoteByte c (r.nv c) (r.cs c)).toNat
      argument := Function.update r.argument c false }

/-- The processor carries out a command. -/
def exec (cmd : ℕ) (r : SserialRegs) : SserialRegs :=
  if cmd / sslbpReset % 2 = 1 then { r with nv := fun _ => false, argument := fun _ => false }
  else if cmd / sslbpRequest % 2 = 1 then { r with data := (M.localByte (cmd % 0x400)).toNat }
  else if cmd / 0x100 = 0x0F then
    match channelOf cmd with
    | some c => M.start c r
    | none => { r with data := M.setupNone.toNat }
  else if cmd / 0x100 = 0x10 then
    match channelOf cmd with
    | some c => M.doit c r
    | none => r
  else r

/-- A write to a register of a channel.  The blocks of registers are 0x100 apart. -/
def setReg (block c value : ℕ) (r : SserialRegs) : SserialRegs :=
  match block with
  | 2 => { r with cs := Function.update r.cs c value }
  | 3 => { r with
      interface0 := Function.update r.interface0 c value
      argument := Function.update r.argument c true }
  | 4 => { r with interface1 := Function.update r.interface1 c value }
  | 5 => { r with interface2 := Function.update r.interface2 c value }
  | _ => r

/-- A register of a channel, the data register, or the command register, which is 0 because
a command is done at once. -/
def getReg (block c : ℕ) (r : SserialRegs) : ℕ :=
  match block with
  | 0 => 0
  | 1 => r.data
  | 2 => r.cs c
  | 3 => r.interface0 c
  | 4 => r.interface1 c
  | _ => r.interface2 c

/-- The registers of a board with the interface at a base address. -/
def bus (base : ℕ) : RegisterBus SserialRegs where
  read addr r :=
    if base ≤ addr ∧ addr < base + 0x600 then
      (getReg ((addr - base) / 0x100) ((addr - base) % 0x100 / 4) r, r)
    else (M.otherReg addr, r)
  write addr value r :=
    if addr = base then M.exec value r
    else if base ≤ addr then setReg ((addr - base) / 0x100) ((addr - base) % 0x100 / 4) value r
    else r

end SserialContents

/-- The states of the run of the enumeration with this interface. -/
abbrev SserialRun : Type := SserialState SserialRegs

/-- What only reading leaves as it is. -/
def SserialState.view (s : SserialRun) :
    SserialInterface × (Fin hm2SserialMaxChannels → SserialDevice) :=
  (s.ssInterface, s.ssDevice)

/-- The state with other registers. -/
def SserialState.withRegs (s : SserialRun) (r : SserialRegs) : SserialRun := { s with regs := r }

@[simp] lemma SserialState.withRegs_regs (s : SserialRun) (r : SserialRegs) :
    (s.withRegs r).regs = r := rfl

@[simp] lemma SserialState.view_withRegs (s : SserialRun) (r : SserialRegs) :
    (s.withRegs r).view = s.view := rfl

/-- The remotes of these channels have their nonvolatile memories selected, and there is no
argument of a command. -/
def Selected (sel : ℕ → Bool) (s : SserialRun) : Prop :=
  s.regs.nv = sel ∧ s.regs.argument = fun _ => false

section Primitives

variable (M : SserialContents) (ssmod : SserialModule) {s : SserialRun} {sel : ℕ → Bool}

/-! ### Registers -/

/-- A write to the command register. -/
lemma sendLocalCmd_eq (cmd : ℕ) :
    sslbpSendLocalCmd (M.bus ssmod.baseAddress) ssmod 0 cmd s =
      .ok ((), s.withRegs (M.exec cmd s.regs)) := by
  have haddr : ssmod.baseAddress + hm2ModOffsSserialCmd + 0 * 0x40 = ssmod.baseAddress := rfl
  simp only [sslbpSendLocalCmd, llioWrite, SserialContents.bus, haddr, if_true,
    SserialState.withRegs]

/-- A write to a register of a channel. -/
lemma llioWrite_channel {off k c : ℕ} (hoff : off = k * 0x100) (hk : k ≠ 0) (hc : c < 64)
    (value : ℕ) :
    llioWrite (M.bus ssmod.baseAddress) (ssmod.baseAddress + off + 0 * 0x40 + c * 4) value s =
      .ok ((), s.withRegs (SserialContents.setReg k c value s.regs)) := by
  have hne : ssmod.baseAddress + off + 0 * 0x40 + c * 4 ≠ ssmod.baseAddress := by omega
  have hle : ssmod.baseAddress ≤ ssmod.baseAddress + off + 0 * 0x40 + c * 4 := by omega
  have hsub : ssmod.baseAddress + off + 0 * 0x40 + c * 4 - ssmod.baseAddress =
      k * 0x100 + c * 4 := by omega
  have hdiv : (k * 0x100 + c * 4) / 0x100 = k := by omega
  have hmod : (k * 0x100 + c * 4) % 0x100 / 4 = c := by omega
  simp only [llioWrite, SserialContents.bus, if_neg hne, if_pos hle, hsub, hdiv, hmod,
    SserialState.withRegs]

/-- A read of a register of a channel, or of the first two. -/
lemma llioRead_channel {off k c : ℕ} (hoff : off = k * 0x100) (hk : k < 6) (hc : c < 64) :
    llioRead (M.bus ssmod.baseAddress) (ssmod.baseAddress + off + 0 * 0x40 + c * 4) s =
      .ok (SserialContents.getReg k c s.regs, s) := by
  have hin : ssmod.baseAddress ≤ ssmod.baseAddress + off + 0 * 0x40 + c * 4 ∧
      ssmod.baseAddress + off + 0 * 0x40 + c * 4 < ssmod.baseAddress + 0x600 := by omega
  have hsub : ssmod.baseAddress + off + 0 * 0x40 + c * 4 - ssmod.baseAddress =
      k * 0x100 + c * 4 := by omega
  have hdiv : (k * 0x100 + c * 4) / 0x100 = k := by omega
  have hmod : (k * 0x100 + c * 4) % 0x100 / 4 = c := by omega
  simp only [llioRead, SserialContents.bus, if_pos hin, hsub, hdiv, hmod]

/-! ### Commands -/

lemma channelMask_lt (c : ℕ) : channelMask c < 0x100 :=
  Nat.lt_succ_of_le Nat.and_le_right

/-- A channel mask in the low byte of a command. -/
lemma or_channelMask (k c : ℕ) : k * 0x100 ||| channelMask c = k * 0x100 + channelMask c := by
  have hlt : channelMask c < 2 ^ 8 := channelMask_lt c
  have hshift : k * 0x100 = k <<< 8 := (Nat.shiftLeft_eq k 8).symm
  rw [hshift, Nat.shiftLeft_add_eq_or_of_lt hlt]

lemma channelMask_of_ge {c : ℕ} (hc : 8 ≤ c) : channelMask c = 0 := by
  have hshift : 1 <<< c = 1 <<< (c - 8) <<< 8 := by
    rw [← Nat.shiftLeft_add, Nat.sub_add_cancel hc]
  have hmod : 1 <<< (c - 8) <<< 8 % 2 ^ 8 = 0 := by
    rw [Nat.shiftLeft_eq _ 8]
    exact Nat.mul_mod_left _ _
  rw [channelMask, hshift, show 0xFF = 2 ^ 8 - 1 from rfl, Nat.and_two_pow_sub_one_eq_mod, hmod]

/-- A command knows its channel, if it is one of the eight. -/
lemma channelOf_eq (k c : ℕ) : SserialContents.channelOf (k * 0x100 + channelMask c) =
    if c < hm2SserialMaxChannels then some c else none := by
  have hlow : (k * 0x100 + channelMask c) % 0x100 = channelMask c := by
    have hlt := channelMask_lt c
    omega
  rw [SserialContents.channelOf, hlow]
  split_ifs with hc
  · have hall : ∀ c : Fin 8, (List.range hm2SserialMaxChannels).find?
        (fun c' => channelMask c' == channelMask c) = some (c : ℕ) := by decide
    exact hall ⟨c, hc⟩
  · rw [channelMask_of_ge (Nat.le_of_not_lt hc)]
    decide

/-- The parts of a command for a channel. -/
lemma cmd_parts (k c : ℕ) (hk : k < 0x20) :
    (k * 0x100 + channelMask c) / sslbpReset % 2 = 0 ∧
      (k * 0x100 + channelMask c) / sslbpRequest % 2 = 0 ∧
      (k * 0x100 + channelMask c) / 0x100 = k := by
  have hlt := channelMask_lt c
  generalize channelMask c = m at hlt
  simp only [sslbpReset, sslbpRequest]
  omega

lemma exec_doit {c : ℕ} (hc : c < hm2SserialMaxChannels) (r : SserialRegs) :
    M.exec (sslbpCmdDoit c) r = M.doit c r := by
  have hcmd : sslbpCmdDoit c = 0x10 * 0x100 + channelMask c := or_channelMask 0x10 c
  obtain ⟨hreset, hrequest, hkind⟩ := cmd_parts 0x10 c (by decide)
  rw [hcmd, SserialContents.exec, hreset, hrequest, hkind, channelOf_eq, if_pos hc]
  rfl

lemma exec_startSetup (c : ℕ) (r : SserialRegs) :
    M.exec (sslbpCmdStartSetupMode c) r = if c < hm2SserialMaxChannels then M.start c r
      else { r with data := M.setupNone.toNat } := by
  have hcmd : sslbpCmdStartSetupMode c = 0x0F * 0x100 + channelMask c := or_channelMask 0x0F c
  obtain ⟨hreset, hrequest, hkind⟩ := cmd_parts 0x0F c (by decide)
  rw [hcmd, SserialContents.exec, hreset, hrequest, hkind, channelOf_eq]
  by_cases hc : c < hm2SserialMaxChannels
  · rw [if_pos hc, if_pos hc]
    rfl
  · rw [if_neg hc, if_neg hc]
    rfl

lemma exec_stop (c : ℕ) (r : SserialRegs) : M.exec (sslbpCmdStop c) r = r := by
  have hcmd : sslbpCmdStop c = 0x08 * 0x100 + channelMask c := or_channelMask 0x08 c
  obtain ⟨hreset, hrequest, hkind⟩ := cmd_parts 0x08 c (by decide)
  rw [hcmd, SserialContents.exec, hreset, hrequest, hkind]
  rfl

lemma exec_read {x : ℕ} (hx : x < 0x400) (r : SserialRegs) :
    M.exec (sslbpCmdRead x) r = { r with data := (M.localByte x).toNat } := by
  have hand : x &&& 0x3FF = x := by
    rw [show 0x3FF = 2 ^ 10 - 1 from rfl, Nat.and_two_pow_sub_one_eq_mod]
    exact Nat.mod_eq_of_lt hx
  have hcmd : sslbpCmdRead x = 0x2000 + x := by
    rw [sslbpCmdRead, hand]
    have hor := Nat.shiftLeft_add_eq_or_of_lt (a := 8) (i := 10) hx
    exact hor.symm
  have hreset : (0x2000 + x) / sslbpReset % 2 ≠ 1 := by
    simp only [sslbpReset]
    omega
  have hrequest : (0x2000 + x) / sslbpRequest % 2 = 1 := by
    simp only [sslbpRequest]
    omega
  have hmod : (0x2000 + x) % 0x400 = x := by omega
  rw [hcmd, SserialContents.exec, if_neg hreset, if_pos hrequest, hmod]

lemma waitComplete_endsIn (s : SserialRun) :
    EndsIn .hang (fun f => sslbpWaitComplete (M.bus ssmod.baseAddress) ssmod f 0) s
      (.ok ((), s)) := by
  have hread : sslbpReadLocalCmd (M.bus ssmod.baseAddress) ssmod 0 s = .ok (0, s) :=
    llioRead_channel M ssmod (k := 0) (c := 0) rfl (by decide) (by decide)
  exact loopM_break (EndsIn.step hread (endsIn_const (pure (Sum.inr ())) s))

lemma toUInt8_and_toNat (b : UInt8) : (b.toNat &&& 0xFF).toUInt8 = b := by
  rw [show 0xFF = 2 ^ 8 - 1 from rfl, Nat.and_two_pow_sub_one_eq_mod,
    Nat.mod_eq_of_lt b.toNat_lt]
  exact UInt8.ofNat_toNat

lemma readData_eq (s : SserialRun) : sslbpReadData (M.bus ssmod.baseAddress) ssmod 0 s =
    .ok ((s.regs.data &&& 0xFF).toUInt8, s) := by
  have hread : llioRead (M.bus ssmod.baseAddress)
      (ssmod.baseAddress + hm2ModOffsSserialData + 0 * 0x40) s = .ok (s.regs.data, s) :=
    llioRead_channel M ssmod (k := 1) (c := 0) rfl (by decide) (by decide)
  rw [sslbpReadData, prog_bind, hread]
  rfl

/-- The setup of a channel. -/
lemma startSetup_endsIn {c : ℕ} (hc : c < hm2SserialMaxChannels) (cmd : ℕ) (s : SserialRun) :
    EndsIn .hang (fun f => startSetup (M.bus ssmod.baseAddress) ssmod f 0 c cmd) s
      (.ok (M.setup c (cmd / 2 ^ 24),
        s.withRegs (M.start c { s.regs with cs := Function.update s.regs.cs c cmd }))) := by
  have hcs : llioWrite (M.bus ssmod.baseAddress)
      (ssmod.baseAddress + hm2ModOffsSserialCs + 0 * 0x40 + c * 4) cmd s =
      .ok ((), s.withRegs { s.regs with cs := Function.update s.regs.cs c cmd }) :=
    llioWrite_channel M ssmod (k := 2) rfl (by decide) (hc.trans (by decide)) cmd
  have hstart := sendLocalCmd_eq M ssmod
    (s := s.withRegs { s.regs with cs := Function.update s.regs.cs c cmd })
    (sslbpCmdStartSetupMode c)
  rw [exec_startSetup, if_pos hc] at hstart
  refine EndsIn.step hcs (EndsIn.step hstart ((waitComplete_endsIn M ssmod _).bind ?_))
  have hread := readData_eq M ssmod
    (s.withRegs (M.start c { s.regs with cs := Function.update s.regs.cs c cmd }))
  have hdata : (M.start c { s.regs with cs := Function.update s.regs.cs c cmd }).data =
      (M.setup c (cmd / 2 ^ 24)).toNat := by
    simp only [SserialContents.start, Function.update_self]
  rw [SserialState.withRegs_regs, hdata, toUInt8_and_toNat] at hread
  exact hread ▸ endsIn_const _ _

/-- A setup without a channel. -/
lemma startSetup_none {c : ℕ} (hc : ¬ c < hm2SserialMaxChannels) (cmd : ℕ) (s : SserialRun) :
    ∃ t, EndsIn .hang (fun f => startSetup (M.bus ssmod.baseAddress) ssmod f 0 c cmd) s
      (.ok (M.setupNone, t)) := by
  obtain ⟨t, hcs⟩ : ∃ t, llioWrite (M.bus ssmod.baseAddress)
      (ssmod.baseAddress + hm2ModOffsSserialCs + 0 * 0x40 + c * 4) cmd s = .ok ((), t) := ⟨_, rfl⟩
  have hstart := sendLocalCmd_eq M ssmod (s := t) (sslbpCmdStartSetupMode c)
  rw [exec_startSetup, if_neg hc] at hstart
  refine ⟨t.withRegs { t.regs with data := M.setupNone.toNat },
    EndsIn.step hcs (EndsIn.step hstart ((waitComplete_endsIn M ssmod _).bind ?_))⟩
  have hread := readData_eq M ssmod (t.withRegs { t.regs with data := M.setupNone.toNat })
  rw [SserialState.withRegs_regs, toUInt8_and_toNat] at hread
  exact hread ▸ endsIn_const _ _

/-! ### Reading the contents -/

/-- The command word that reads a byte. -/
def readWord (addr : ℕ) : ℕ := ((lbpCmdRead ||| lbpAddrAutoInc) <<< 24) ||| addr

/-- The byte of the remote of a channel. -/
def SserialContents.byteAt (c : ℕ) (nv : Bool) (addr : ℕ) : UInt8 :=
  M.remoteByte c nv (readWord addr)

/-- The word that `sslbp_read_remote16` puts together. -/
def SserialContents.word16At (c : ℕ) (nv : Bool) (addr : ℕ) : ℕ :=
  [1, 0].foldl (fun ret byte => (ret <<< 8 ||| (M.byteAt c nv (u32 (addr + byte))).toNat) % 0x10000)
    0

/-- The word that `sslbp_read_remote32` puts together. -/
def SserialContents.word32At (c : ℕ) (nv : Bool) (addr : ℕ) : ℕ :=
  [3, 2, 1, 0].foldl (fun ret byte => u32 (ret <<< 8) ||| (M.byteAt c nv (u32 (addr + byte))).toNat)
    0

/-- The word that `sslbp_read_local32` puts together. -/
def SserialContents.localWord (addr : ℕ) : ℕ :=
  [3, 2, 1, 0].foldl (fun ret byte => u32 (ret <<< 8) ||| (M.localByte (addr + byte)).toNat) 0

lemma readLocal8_endsIn {addr : ℕ} (haddr : addr < 0x400) (s : SserialRun) :
    EndsIn .hang (fun f => sslbpReadLocal8 (M.bus ssmod.baseAddress) ssmod f 0 addr) s
      (.ok (M.localByte addr, s.withRegs { s.regs with data := (M.localByte addr).toNat })) := by
  have hsend := sendLocalCmd_eq M ssmod (s := s) (sslbpCmdRead addr)
  rw [exec_read M haddr] at hsend
  refine EndsIn.step hsend ((waitComplete_endsIn M ssmod _).bind ?_)
  have hread := readData_eq M ssmod
    (s.withRegs { s.regs with data := (M.localByte addr).toNat })
  rw [SserialState.withRegs_regs, toUInt8_and_toNat] at hread
  exact hread ▸ endsIn_const _ _

lemma readLocal8_reads {addr : ℕ} (haddr : addr < 0x400) :
    Reads .hang (Selected sel) SserialState.view
      (fun f => sslbpReadLocal8 (M.bus ssmod.baseAddress) ssmod f 0 addr) (M.localByte addr) :=
  fun s hs => ⟨s.withRegs { s.regs with data := (M.localByte addr).toNat }, hs, rfl,
    readLocal8_endsIn M ssmod haddr s⟩

lemma readLocal32_reads {addr : ℕ} (haddr : addr + 3 < 0x400) :
    Reads .hang (Selected sel) SserialState.view
      (fun f => sslbpReadLocal32 (M.bus ssmod.baseAddress) ssmod f 0 addr) (M.localWord addr) := by
  refine Reads.foldlM (fun ret byte hbyte => ?_) 0
  have hlt : addr + byte < 0x400 := by
    have hle : byte ≤ 3 := by
      simp only [List.mem_cons, List.not_mem_nil, or_false] at hbyte
      omega
    omega
  exact (readLocal8_reads M ssmod hlt).bind (Reads.pure _)

/-- The registers after a read of a byte of the remote of a channel. -/
def remoteRegs (c addr : ℕ) (r : SserialRegs) : SserialRegs :=
  { r with
    cs := Function.update r.cs c (readWord addr)
    interface0 := Function.update r.interface0 c (M.byteAt c (r.nv c) addr).toNat }

/-- A remote answers to a command without an argument. -/
lemma doit_of_argument {c addr : ℕ} {r : SserialRegs} (harg : r.argument = fun _ => false) :
    M.doit c { r with cs := Function.update r.cs c (readWord addr) } = remoteRegs M c addr r := by
  have hkeep : Function.update (fun _ : ℕ => false) c false = fun _ => false :=
    Function.update_eq_self c _
  simp only [remoteRegs, SserialContents.doit, SserialContents.byteAt, harg, Bool.false_eq_true,
    false_and, if_false, Function.update_self, hkeep]

lemma readRemote8_reads {c : ℕ} (hc : c < hm2SserialMaxChannels) (addr : ℕ) :
    Reads .hang (Selected sel) SserialState.view
      (fun f => sslbpReadRemote8 (M.bus ssmod.baseAddress) ssmod f 0 c addr)
      (M.byteAt c (sel c) addr) := by
  intro s hs
  have hc' : c < 64 := hc.trans (by decide)
  refine ⟨s.withRegs (remoteRegs M c addr s.regs), hs, rfl, ?_⟩
  have hcs : sslbpSendRemoteCmd (M.bus ssmod.baseAddress) ssmod 0 c (readWord addr) s =
      .ok ((), s.withRegs { s.regs with cs := Function.update s.regs.cs c (readWord addr) }) :=
    llioWrite_channel M ssmod (k := 2) rfl (by decide) hc' (readWord addr)
  have hdoit := sendLocalCmd_eq M ssmod
    (s := s.withRegs { s.regs with cs := Function.update s.regs.cs c (readWord addr) })
    (sslbpCmdDoit c)
  rw [exec_doit M hc, SserialState.withRegs_regs, doit_of_argument M hs.2] at hdoit
  have hread : llioRead (M.bus ssmod.baseAddress)
      (ssmod.baseAddress + hm2ModOffsSserialInterface0 + 0 * 0x40 + c * 4)
      (s.withRegs (remoteRegs M c addr s.regs)) =
      .ok ((M.byteAt c (sel c) addr).toNat, s.withRegs (remoteRegs M c addr s.regs)) := by
    refine (llioRead_channel M ssmod (k := 3) rfl (by decide) hc').trans ?_
    simp only [SserialContents.getReg, SserialState.withRegs_regs, remoteRegs, Function.update_self,
      hs.1]
  refine EndsIn.step hcs (EndsIn.step hdoit ((waitComplete_endsIn M ssmod _).bind
    (EndsIn.step hread ?_)))
  rw [toUInt8_and_toNat]
  exact endsIn_const (pure _) _

lemma readRemote16_reads {c : ℕ} (hc : c < hm2SserialMaxChannels) (addr : ℕ) :
    Reads .hang (Selected sel) SserialState.view
      (fun f => sslbpReadRemote16 (M.bus ssmod.baseAddress) ssmod f 0 c addr)
      (M.word16At c (sel c) addr) := by
  refine Reads.foldlM (fun ret byte _ => ?_) 0
  exact (readRemote8_reads M ssmod hc (u32 (addr + byte))).bind (Reads.pure _)

lemma readRemote32_reads {c : ℕ} (hc : c < hm2SserialMaxChannels) (addr : ℕ) :
    Reads .hang (Selected sel) SserialState.view
      (fun f => sslbpReadRemote32 (M.bus ssmod.baseAddress) ssmod f 0 c addr)
      (M.word32At c (sel c) addr) := by
  refine Reads.foldlM (fun ret byte _ => ?_) 0
  exact (readRemote8_reads M ssmod hc (u32 (addr + byte))).bind (Reads.pure _)

/-- The selection of a memory of the remote of a channel. -/
lemma selectNv_endsIn {c : ℕ} (hc : c < hm2SserialMaxChannels) (nv : ℕ) {s : SserialRun}
    (hs : Selected sel s) :
    ∃ t, Selected (Function.update sel c (nv != 0)) t ∧ t.view = s.view ∧
      EndsIn .hang (fun f => selectNv (M.bus ssmod.baseAddress) ssmod f 0 c nv) s
        (.ok ((), t)) := by
  have hc' : c < 64 := hc.trans (by decide)
  obtain ⟨hnv, harg⟩ := hs
  let r : SserialRegs := { s.regs with
    cs := Function.update s.regs.cs c (lbpCmdReadNv <<< 24)
    interface0 := Function.update s.regs.interface0 c nv
    argument := Function.update s.regs.argument c true }
  have hcs : llioWrite (M.bus ssmod.baseAddress)
      (ssmod.baseAddress + hm2ModOffsSserialCs + 0 * 0x40 + c * 4) (lbpCmdReadNv <<< 24) s =
      .ok ((), s.withRegs
        { s.regs with cs := Function.update s.regs.cs c (lbpCmdReadNv <<< 24) }) :=
    llioWrite_channel M ssmod (k := 2) rfl (by decide) hc' _
  have hif : llioWrite (M.bus ssmod.baseAddress)
      (ssmod.baseAddress + hm2ModOffsSserialInterface0 + 0 * 0x40 + c * 4) nv (s.withRegs
        { s.regs with cs := Function.update s.regs.cs c (lbpCmdReadNv <<< 24) }) =
      .ok ((), s.withRegs r) :=
    llioWrite_channel M ssmod (k := 3) rfl (by decide) hc' nv
  have hdoit := sendLocalCmd_eq M ssmod (s := s.withRegs r) (sslbpCmdDoit c)
  have hkind : lbpCmdReadNv <<< 24 / 2 ^ 24 = lbpCmdReadNv := by decide
  rw [exec_doit M hc, SserialState.withRegs_regs, SserialContents.doit, if_pos] at hdoit
  · have hend : EndsIn .hang (fun f => selectNv (M.bus ssmod.baseAddress) ssmod f 0 c nv) s
        (.ok ((), s.withRegs { r with
          nv := Function.update r.nv c (r.interface0 c != 0)
          argument := Function.update r.argument c false })) :=
      EndsIn.step hcs (EndsIn.step hif (EndsIn.step hdoit (waitComplete_endsIn M ssmod _)))
    refine ⟨_, ⟨?_, ?_⟩, ?_, hend⟩
    · simp only [SserialState.withRegs_regs, r, hnv, Function.update_self]
    · simp only [SserialState.withRegs_regs, r, harg, Function.update_idem]
      exact Function.update_eq_self c _
    · exact SserialState.view_withRegs s _
  · exact ⟨by simp only [r, Function.update_self], by simp only [r, Function.update_self, hkind]⟩

/-- What is read of the nonvolatile memory of a remote. -/
lemma nv_reads {α : Type} {p : ℕ → SserialM SserialRegs α} {a : α} {c : ℕ}
    (hc : c < hm2SserialMaxChannels)
    (hp : Reads .hang (Selected (Function.update (fun _ => false) c true)) SserialState.view p a) :
    Reads .hang (Selected fun _ => false) SserialState.view (fun f => do
      selectNv (M.bus ssmod.baseAddress) ssmod f 0 c lbpNveepromByte
      let data ← p f
      selectNv (M.bus ssmod.baseAddress) ssmod f 0 c 0
      pure data) a := by
  intro s hs
  obtain ⟨t, ht, hview, hon⟩ := selectNv_endsIn M ssmod hc lbpNveepromByte hs
  obtain ⟨t', ht', hview', hread⟩ := hp t ht
  obtain ⟨t'', ht'', hview'', hoff⟩ := selectNv_endsIn M ssmod hc 0 ht'
  refine ⟨t'', ?_, hview''.trans (hview'.trans hview),
    hon.bind (hread.bind (hoff.bind (endsIn_const (pure a) t'')))⟩
  have hnone : Function.update (Function.update (fun _ : ℕ => false) c true) c (0 != 0) =
      fun _ => false := by
    rw [Function.update_idem]
    exact Function.update_eq_self c _
  exact hnone ▸ ht''

lemma readNvRemote16_reads {c : ℕ} (hc : c < hm2SserialMaxChannels) (addr : ℕ) :
    Reads .hang (Selected fun _ => false) SserialState.view
      (fun f => sslbpReadNvRemote16 (M.bus ssmod.baseAddress) ssmod f 0 c addr)
      (M.word16At c true addr) := by
  refine nv_reads M ssmod hc ?_
  have hread : Reads .hang (Selected (Function.update (fun _ => false) c true)) SserialState.view
      (fun f => sslbpReadRemote16 (M.bus ssmod.baseAddress) ssmod f 0 c addr) _ :=
    readRemote16_reads M ssmod hc addr
  rwa [Function.update_self] at hread

lemma readNvRemote32_reads {c : ℕ} (hc : c < hm2SserialMaxChannels) (addr : ℕ) :
    Reads .hang (Selected fun _ => false) SserialState.view
      (fun f => sslbpReadNvRemote32 (M.bus ssmod.baseAddress) ssmod f 0 c addr)
      (M.word32At c true addr) := by
  refine nv_reads M ssmod hc ?_
  have hread : Reads .hang (Selected (Function.update (fun _ => false) c true)) SserialState.view
      (fun f => sslbpReadRemote32 (M.bus ssmod.baseAddress) ssmod f 0 c addr) _ :=
    readRemote32_reads M ssmod hc addr
  rwa [Function.update_self] at hread

end Primitives

end Mesaflash
