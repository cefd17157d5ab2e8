import Mesaflash.IdromRead
import Mesaflash.MainFlash
import Mesaflash.ModuleOutputs
import Mesaflash.RegisterOptions
import Mesaflash.RegisterSpi
import Mesaflash.SserialAccess

/-!
The actions of `main` on registers, and the flash memory behind them.

`--rpo` and `--wpo` access one register.  The commands that begin with `hm2_read_idrom` look at
the descriptors of the modules, and some of them write registers of these: `--enable-all-mod` and
`--safe-io` those of the ports, `--sserial` those of the ports and of the module for smart
serial.  Where the flash memory is reached through registers too, none of this comes to it, unless
`--wpo` names a register of its interface or the descriptors do (`main_leavesFlash`).
-/

namespace Mesaflash

open Lib

/-! ### The actions -/

/-- The state in which `sserial_module_init` starts: `board_init_struct` has cleared the board. -/
def SserialState.cleared {σ : Type} (regs : σ) : SserialState σ where
  regs := regs
  ssInterface := ⟨0, 0, 0, 0, 0, 0, 0, 0, 0, 0⟩
  ssDevice := fun _ => ⟨0, 0, 0, [], []⟩

section Actions

variable {σ : Type} (bus : RegisterBus σ)

/-- The bytes of the registers. -/
def registerBytes (s : σ) (addr : ℕ) : UInt8 :=
  (word32 (bus.read (addr / 4 * 4) s).1).getD (addr % 4) 0

/-- What `hm2_read_idrom` makes of `hm2`, which is cleared.  The descriptors are in a memory that
does not change when it is read. -/
def hostmot2At (s : σ) : Hostmot2 :=
  .inMemory 0 (hm2ReadIdrom (registerBytes bus s) 0 fun _ => 0)

/-- What follows `hm2_read_idrom`. -/
def hm2Action (fuel : ℕ) (verbose : Bool) (hm2 : Hostmot2) : BoardAction → Prog Fault σ Unit
  | .sserial => fun s => do
    let ((), s) ← sserialModuleInit bus hm2 verbose fuel (.cleared s)
    return ((), s.regs)
  | .enableAllMod => hm2EnableAllModuleOutputs bus hm2
  | .safeIo => hm2SafeIo bus hm2
  -- the others only print
  | _ => pure ()

/-- The actions of `main` on registers.  A board has functions for both directions, or none. -/
def registerAction (fuel : ℕ) (o : Options) (b : BoardEntry) (a : BoardAction) :
    Prog Fault σ Unit := fun s => do
  match a with
  | .rpo =>
    useRegister b .read
    return ((), (bus.read o.rpoAddr s).2)
  | .wpo =>
    useRegister b .write
    return ((), bus.write o.wpoAddr o.wpoData s)
  -- these are functions of `eth_boards.c`
  | .setRemoteIp | .setLedMode => return ((), s)
  | a =>
    useRegister b .read
    hm2Action bus fuel (decide (b.verbose ≠ 0)) (hostmot2At bus s) a s

/-- The functions of a board, with the actions on its registers. -/
def onRegisters (fuel : ℕ) (others : OtherFunctions (Proc σ)) : OtherFunctions (Proc σ) :=
  { others with
    act := fun a o b => deviceFn fun p => do
      let ((), dev) ← registerAction bus fuel o b a p.dev
      return ((), { p with dev }) }

end Actions

/-- The accesses that `mainOn` lists are those of the options that select the action. -/
lemma selects_of_mainOn {args : List CStr} {f : Options → Except ℤ Unit} {a : Action}
    {accesses : List RegisterAccess} (ha : ∀ name, a ≠ .file .info name)
    (h : mainOn .long64 f args = .ok (.run a, accesses)) :
    ∃ r o, Selects args r o ∧ boardAction o = a ∧ directAccesses o = accesses := by
  rw [mainOn, processCmdLineOn_long64] at h
  split_ifs at h with hargs
  · cases h
  obtain ⟨parsed, hparse, h⟩ := bind_eq_ok.1 h
  cases parsed with
  | exit status => cases h
  | ret r o =>
      dsimp only at h
      split_ifs at h with hret hinfo hdevice
      · cases h
      · exact absurd (MainEnd.run.inj (Prod.mk.inj (Except.ok.inj h)).1).symm (ha _)
      · cases hfind : f o with
        | error status =>
            rw [hfind] at h
            cases h
        | ok =>
            rw [hfind] at h
            obtain ⟨hrun, haccesses⟩ := Prod.mk.inj (Except.ok.inj h)
            exact ⟨r, o, ⟨hparse, hret, hinfo, hdevice⟩, MainEnd.run.inj hrun, haccesses⟩
      · cases h

/-! ### A flash memory behind registers -/

/-- The flash memory is behind the registers of an interface: no other access changes it. -/
structure BehindRegisters {σ γ : Type} (bus : RegisterBus σ) (content : σ → γ)
    (interface : ℕ → Prop) : Prop where
  read : ∀ addr s, content (bus.read addr s).2 = content s
  write : ∀ addr value s, ¬ interface addr → content (bus.write addr value s) = content s

/-- The registers of the ports and of the module for smart serial are not those of the interface.
Addresses are computed with 32 bits. -/
structure Hostmot2.Apart (hm2 : Hostmot2) (interface : ℕ → Prop) : Prop where
  ports : ∀ addr, IsPortRegister hm2 addr → ¬ interface addr ∧ ¬ interface (u32 addr)
  sserial : ∀ md, hm2FindModule hm2 hm2GtagSserial = some md →
    ∀ addr, md.baseAddress.toNat ≤ addr → ¬ interface addr

section Behind

variable {σ γ : Type} {bus : RegisterBus σ} {content : σ → γ} {interface : ℕ → Prop}
  {hm2 : Hostmot2} {c : γ}

/-- A program leaves the flash memory alone. -/
abbrev LeavesContent (content : σ → γ) (c : γ) {α : Type} (p : Prog Fault σ α) : Prop :=
  Leaves (fun s => content s = c) (fun _ s => content s = c) p

lemma leaves_shiftedOne (k : ℕ) : LeavesContent content c (shiftedOne k : Prog Fault σ ℕ) :=
  .ite (.pure fun _ hs => hs) (.throw _)

lemma leaves_elementOf (n i : ℕ) :
    LeavesContent content c (elementOf n i : Prog Fault σ (Fin n)) := by
  intro s a t hs hrun
  rw [elementOf_state hrun]
  exact hs

/-- What is found in the descriptors. -/
lemma leaves_moduleAt (md : Option ModuleDesc) :
    Leaves (fun s => content s = c) (fun x s => md = some x ∧ content s = c)
      (moduleAt md : Prog Fault σ ModuleDesc) := by
  cases md with
  | none => exact .throw _
  | some md => exact .pure fun _ hs => ⟨rfl, hs⟩

/-- The register of a port in one of the two banks. -/
lemma Hostmot2.Apart.register (h : hm2.Apart interface) {md : ModuleDesc} {bank n : ℕ}
    (hmd : hm2FindModule hm2 hm2GtagIoport = some md)
    (hbank : bank = hm2ModOffsGpioDdr ∨ bank = hm2ModOffsGpioAltSource)
    (hn : n < hm2.idrom.ioPorts) : ¬ interface (md.register bank n) := by
  have hport : IsPortRegister hm2 (md.baseAddress.toNat + bank + 4 * n) := by
    refine ⟨md, n, hmd, .inr hn, ?_⟩
    rcases hbank with rfl | rfl
    · exact .inl rfl
    · exact .inr rfl
  rw [ModuleDesc.register, Nat.mul_comm n 4]
  exact (h.ports _ hport).2

section Programs

variable (hbus : BehindRegisters bus content interface)

include hbus

lemma leaves_busRead (addr : ℕ) : LeavesContent content c (busRead bus addr) := by
  intro s a t hs hrun
  obtain ⟨-, rfl⟩ := Prod.mk.inj (Except.ok.inj hrun)
  exact (hbus.read addr s).trans hs

lemma leaves_busWrite {addr : ℕ} (h : ¬ interface addr) (value : ℕ) :
    LeavesContent content c (busWrite bus addr value) := by
  intro s a t hs hrun
  obtain ⟨-, rfl⟩ := Prod.mk.inj (Except.ok.inj hrun)
  exact (hbus.write addr value s h).trans hs

variable (hapart : hm2.Apart interface)

include hapart

/-- A pin is changed in its register. -/
lemma leaves_setPin {bank : PinBank}
    (hbank : bank.offset = hm2ModOffsGpioDdr ∨ bank.offset = hm2ModOffsGpioAltSource) (pin : ℕ)
    (value : UInt8) : LeavesContent content c (setPin bus hm2 bank pin value) := by
  rw [setPin]
  cases hmd : hm2FindModule hm2 hm2GtagIoport with
  | none => exact .pure fun _ hs => hs
  | some md =>
      dsimp only
      split
      · exact .pure fun _ hs => hs
      · next hpin =>
        have hlt : pin < bank.width * hm2.idrom.ioPorts := by
          rw [Nat.mul_comm]
          exact (Nat.not_le.1 hpin).trans_le (Nat.mod_le _ _)
        have hregister : ¬ interface (md.register bank.offset (pin / bank.width)) :=
          hapart.register hmd hbank (Nat.div_lt_of_lt_mul hlt)
        refine (leaves_busRead hbus _).bind fun data => .ite ?_ (.ite ?_ (.pure fun _ hs => hs))
        · exact (leaves_shiftedOne _).bind fun bit => leaves_busWrite hbus hregister _
        · exact (leaves_shiftedOne _).bind fun bit => leaves_busWrite hbus hregister _

lemma leaves_enableModuleOutput (i : ℕ) :
    LeavesContent content c (enableModuleOutput bus hm2 i) :=
  (leaves_elementOf _ _).bind fun _ =>
    .ite (leaves_setPin hbus hapart (.inl rfl) i hm2PinDirIsOutput) (.pure fun _ hs => hs)

lemma leaves_enableAllModuleOutputs :
    LeavesContent content c (hm2EnableAllModuleOutputs bus hm2) := by
  refine (leaves_moduleAt _).bind fun md => .assuming fun hmd => ?_
  refine Leaves.bind (.forM fun i hi => ?_) fun _ => .forM fun i _ => ?_
  · exact leaves_busWrite hbus (hapart.register hmd (.inr rfl) (List.mem_range.1 hi)) _
  · exact leaves_enableModuleOutput hbus hapart i

lemma leaves_safeIo : LeavesContent content c (hm2SafeIo bus hm2) := by
  refine (leaves_moduleAt _).bind fun md => .assuming fun hmd => .forM fun i hi => ?_
  have hi := List.mem_range.1 hi
  exact (leaves_busWrite hbus (hapart.register hmd (.inr rfl) hi) _).bind fun _ =>
    leaves_busWrite hbus (hapart.register hmd (.inl rfl) hi) _

/-- The enumeration of smart serial devices. -/
lemma leaves_sserialModuleInit (verbose : Bool) (fuel : ℕ) :
    Leaves (fun s => content s.regs = c) (fun _ s => content s.regs = c)
      (sserialModuleInit bus hm2 verbose fuel) := by
  let P : RegisterAccess → Prop := fun x => ∀ addr value, x = .write addr value → ¬ interface addr
  let R : σ → σ → Prop := fun s₁ s₂ => s₁ = s₂ ∧ content s₁ = c
  have halike : AnswerAlike P R bus bus := by
    refine ⟨?_, ?_, ?_⟩
    · rintro addr - s _ ⟨rfl, -⟩
      rfl
    · rintro addr - s _ ⟨rfl, hs⟩
      exact ⟨rfl, (hbus.read addr s).trans hs⟩
    · rintro addr value hP s _ ⟨rfl, hs⟩
      exact ⟨rfl, (hbus.write addr value s (hP addr value rfl)).trans hs⟩
  have hwrite : ∀ addr value, ¬ interface addr → P (.write addr value) := by
    rintro addr value h _ _ ⟨⟩
    exact h
  intro s a t hs hrun
  have hsame := sserialModuleInit_alike (P := P) halike
    (fun addr value hport => hwrite addr value (hapart.ports addr hport).1) (fun _ _ _ => nofun)
    (fun md hmd addr value haddr => hwrite addr value (hapart.sserial md hmd addr haddr))
    verbose fuel s s
    ⟨⟨rfl, hs⟩, rfl, rfl⟩ trivial
  rw [hrun] at hsame
  obtain ⟨t', hend, -⟩ := hsame.of_ok
  exact hend.regs.2

/-- What follows `hm2_read_idrom`. -/
lemma leaves_hm2Action (fuel : ℕ) (verbose : Bool) (a : BoardAction) :
    LeavesContent content c (hm2Action bus fuel verbose hm2 a) := by
  cases a with
  | sserial =>
      intro s a t hs hrun
      obtain ⟨⟨_, s'⟩, hinit, h⟩ := bind_eq_ok.1 hrun
      obtain ⟨-, rfl⟩ := Prod.mk.inj (Except.ok.inj h)
      exact leaves_sserialModuleInit hbus hapart verbose fuel _ _ s' hs hinit
  | enableAllMod => exact leaves_enableAllModuleOutputs hbus hapart
  | safeIo => exact leaves_safeIo hbus hapart
  | _ => exact .pure fun _ hs => hs

end Programs

/-! ### The descriptors -/

/-- Descriptors that were not found name no registers. -/
lemma apart_zero : (Hostmot2.inMemory 0 fun _ => 0).Apart interface := by
  have hnone : ∀ gtag : UInt8, gtag ≠ 0 →
      hm2FindModule (Hostmot2.inMemory 0 fun _ => 0) gtag = none := by
    intro gtag hgtag
    refine List.find?_eq_none.2 fun md hmd => ?_
    obtain ⟨i, -, rfl⟩ := List.mem_map.1 hmd
    simpa [Hostmot2.inMemory, Hostmot2.decode] using hgtag.symm
  constructor
  · rintro addr ⟨md, n, hmd, -⟩
    cases (hnone _ (by decide)).symm.trans hmd
  · intro md hmd
    cases (hnone _ (by decide)).symm.trans hmd

/-- What the program knows of the modules is what the registers say, or nothing. -/
lemma apart_hostmot2At {s : σ}
    (h : (Hostmot2.inRegisters (registerBytes bus s)).Apart interface) :
    (hostmot2At bus s).Apart interface := by
  by_cases hcookie : leWord (registerBytes bus s) hm2CookieReg 4 = hm2Cookie
  · have hnew : NotYetRead (registerBytes bus s) 0 fun _ => 0 := ⟨hcookie, by decide⟩
    rw [hostmot2At, inMemory_hm2ReadIdrom hnew]
    exact h
  · rw [hostmot2At, hm2ReadIdrom, if_pos hcookie]
    exact apart_zero

/-- The action that is asked for writes no register of the interface.  Where descriptors can
change, the contents may say what they are. -/
structure RegistersApart (bus : RegisterBus σ) (content : σ → γ) (c : γ) (interface : ℕ → Prop)
    (o : Options) : Prop where
  wpo : boardAction o = .board .wpo → ¬ interface o.wpoAddr
  modules : ∀ a, boardAction o = .board a → a = .sserial ∨ a = .enableAllMod ∨ a = .safeIo →
    ∀ s, content s = c → (Hostmot2.inRegisters (registerBytes bus s)).Apart interface

variable {fuel : ℕ} {o : Options} {b : BoardEntry}

/-- An action on registers leaves the flash memory alone. -/
lemma leaves_registerAction (hbus : BehindRegisters bus content interface)
    (hapart : RegistersApart bus content c interface o) {a : BoardAction}
    (ha : boardAction o = .board a) :
    LeavesContent content c (registerAction bus fuel o b a) := by
  intro s x t hs hrun
  have hm2 : a = .sserial ∨ a = .enableAllMod ∨ a = .safeIo → (hostmot2At bus s).Apart interface :=
    fun h => apart_hostmot2At (hapart.modules a ha h s hs)
  cases a with
  | rpo =>
      obtain ⟨_, -, h⟩ := bind_eq_ok.1 hrun
      obtain ⟨-, rfl⟩ := Prod.mk.inj (Except.ok.inj h)
      exact (hbus.read _ s).trans hs
  | wpo =>
      obtain ⟨_, -, h⟩ := bind_eq_ok.1 hrun
      obtain ⟨-, rfl⟩ := Prod.mk.inj (Except.ok.inj h)
      exact (hbus.write _ _ s (hapart.wpo ha)).trans hs
  | setRemoteIp | setLedMode =>
      obtain ⟨-, rfl⟩ := Prod.mk.inj (Except.ok.inj hrun)
      exact hs
  | sserial | enableAllMod | safeIo =>
      obtain ⟨_, -, h⟩ := bind_eq_ok.1 hrun
      exact leaves_hm2Action hbus (hm2 (by simp)) fuel _ _ s _ _ hs h
  | readhmid | printPd | printLio =>
      obtain ⟨_, -, h⟩ := bind_eq_ok.1 hrun
      obtain ⟨-, rfl⟩ := Prod.mk.inj (Except.ok.inj h)
      exact hs

variable {e : Scene σ} {others : OtherFunctions (Proc σ)}

lemma actsMaintain_onRegisters (hbus : BehindRegisters bus content interface)
    (hapart : RegistersApart bus content c interface o) :
    (onRegisters bus fuel others).ActsMaintain content c o := by
  intro a b ha
  refine (implements_lift _).maintains fun p x p' hp hact => ?_
  obtain ⟨⟨_, dev⟩, hdev, h⟩ := bind_eq_ok.1 hact
  obtain ⟨-, rfl⟩ := Prod.mk.inj (Except.ok.inj h)
  exact leaves_registerAction hbus hapart ha p.dev _ _ hp hdev

/-- The other functions are those of the board. -/
lemma callsLeaveFlash_onRegisters (h : others.CallsLeaveFlash content o) :
    (onRegisters bus fuel others).CallsLeaveFlash content o where
  boardClose := h.boardClose
  setRemoteIp := h.setRemoteIp
  setLedMode := h.setLedMode
  program := h.program
  reload := h.reload
  reset := h.reset
  printInfo := h.printInfo

/-- **Only `--write` and `--restore-flash` change the flash memory**, on a board whose flash
memory is behind registers, unless the command line leads to something else that does: a `--wpo`
or descriptors that name a register of the interface, or a function of the board. -/
theorem main_leavesFlash (he : e.ReadsLeave content)
    (hbus : BehindRegisters bus content interface) (hsearch : Stays content others.search)
    {args : List CStr} {t t' : Trace DeviceEvent (Proc σ)}
    (hargs : ∀ r o, Selects args r o →
      RegistersApart bus content (content t.state.dev) interface o ∧
      others.CallsLeaveFlash content o ∧
      ∀ name, boardAction o ≠ .file .write name ∧ boardAction o ≠ .file .restoreFlash name)
    {ret : ℤ}
    (hrun : ((e.functions (onRegisters bus fuel others)).main args).run t = (.ok ret, t')) :
    content t'.state.dev = content t.state.dev := by
  have hfind : Stays content (onRegisters bus fuel others).search := hsearch
  refine maintains_main he hfind (fun r o h => ?_) t ret t' rfl hrun
  obtain ⟨hapart, hcalls, hfiles⟩ := hargs r o h
  exact ⟨callsLeaveFlash_onRegisters hcalls, actsMaintain_onRegisters hbus hapart, hfiles⟩

end Behind

/-! ### A board with an SPI interface -/

/-- The registers of a board: those of an SPI interface, and others that keep what is written. -/
structure SpiBoard (σ : Type) where
  port : SpiPort σ
  regs : ℕ → ℕ

/-- The control and data registers of the interface. -/
def IsSpiRegister (addr : ℕ) : Prop := addr = hm2SpiCtrlReg ∨ addr = hm2SpiDataReg

instance : DecidablePred IsSpiRegister := fun addr =>
  inferInstanceAs (Decidable (addr = hm2SpiCtrlReg ∨ addr = hm2SpiDataReg))

/-- Where the descriptors end, which cannot be written. -/
def romEnd : ℕ := 0x1000

section Interface

variable {σ : Type} (D : SpiSlave σ) (time : ℕ) (rom : ℕ → UInt8)

/-- The bus to such a board. -/
def spiBoardBus : RegisterBus (SpiBoard σ) where
  read addr s :=
    if IsSpiRegister addr then
      ((s.port.regRead addr).1.toNat, { s with port := (s.port.regRead addr).2 })
    else (if addr < romEnd then leWord rom addr 4 else s.regs addr, s)
  write addr value s :=
    if IsSpiRegister addr then
      { s with port := s.port.regWrite D time addr (BitVec.ofNat 32 value) }
    else if addr < romEnd then s
    else { s with regs := Function.update s.regs addr value }

/-- A read of a register does nothing to the slave. -/
lemma regRead_dev (addr : ℕ) (s : SpiPort σ) : (s.regRead addr).2.dev = s.dev := by
  rw [SpiPort.regRead]
  split_ifs <;> rfl

/-- The slave is behind the two registers. -/
lemma behindRegisters_spiBoardBus :
    BehindRegisters (spiBoardBus D time rom) (fun s => s.port.dev) IsSpiRegister where
  read addr s := by
    by_cases h : IsSpiRegister addr
    · simp only [spiBoardBus, if_pos h, regRead_dev]
    · simp only [spiBoardBus, if_neg h]
  write addr value s h := by
    simp only [spiBoardBus, if_neg h]
    split_ifs <;> rfl

variable {D time rom} in
/-- The bytes of the descriptors are those of the memory. -/
lemma registerBytes_spiBoardBus {addr : ℕ} (hlow : 0x100 ≤ addr) (hhigh : addr < romEnd)
    (s : SpiBoard σ) : registerBytes (spiBoardBus D time rom) s addr = rom addr := by
  have hend : romEnd = 4 * 0x400 := rfl
  have hspi : ¬ IsSpiRegister (addr / 4 * 4) := by
    unfold IsSpiRegister hm2SpiCtrlReg hm2SpiDataReg
    omega
  have hrom : addr / 4 * 4 < romEnd := by omega
  have hbytes : ∀ a, ∀ k < 4, (word32 (leWord rom a 4)).getD k 0 = rom (a + k) := by
    intro a k hk
    rw [show leWord rom a 4 = wordOf [rom a, rom (a + 1), rom (a + 2), rom (a + 3)] from rfl,
      word32_wordOf]
    obtain rfl | rfl | rfl | rfl : k = 0 ∨ k = 1 ∨ k = 2 ∨ k = 3 := by omega
    all_goals rfl
  rw [registerBytes]
  simp only [spiBoardBus, if_neg hspi, if_pos hrom]
  rw [hbytes _ _ (Nat.mod_lt _ (by decide)), Nat.div_add_mod']

end Interface

/-- A scene with a serial flash memory on the interface. -/
def spiScene : Scene (SpiBoard (SerialFlash 2)) where
  sha := blankScene.sha
  fs := blankScene.fs
  readPage a s := some (Flash.readPage s.port.dev.mem a, s)
  writePage a page s :=
    some { s with port.dev.mem := Flash.programPage a page s.port.dev.mem }
  eraseSector a s := some { s with port.dev.mem := Flash.eraseSector a s.port.dev.mem }
  flash := ⟨⟨⟨fun _ => 0, false, 0, []⟩, true, 0, 0⟩, fun _ => 0xFFFFFF⟩
  flashId := idEeprom2M
  cpldByte := 0
  mapped := true
  uses _ := []
  io := .faultFree
  autoName := []
  reset _ := 0
  reload _ _ := 0
  setRemoteIp := 0
  setLedMode := 0

/-- Reading pages does nothing to it. -/
lemma readsLeave_spiScene : spiScene.ReadsLeave fun s => s.port.dev := by
  intro a s page s' h
  obtain ⟨-, rfl⟩ := Prod.mk.inj (Option.some.inj h)
  rfl

/-- The board of the scene. -/
def spiBoard : BoardEntry :=
  spiEntry ⟨ascii "7i90hd", boardSpi, 1, 0, 0, some (ascii "/dev/spidev0.0")⟩ "7I90HD"
    (ascii "/dev/spidev0.0")

/-- Descriptors with one port of 24 pins, whose registers begin at `0x1000`. -/
def portIdrom : List (ℕ × UInt8) :=
  smallIdrom ++ [(0x41C, 1), (0x420, 24), (0x424, 24), (0x440, hm2GtagIoport), (0x445, 0x10)]

/-- The registers of the board. -/
def flashBus : RegisterBus (SpiBoard (SerialFlash 2)) :=
  spiBoardBus (serialFlash 2 3).toSpiSlave 40 (regsOf portIdrom)

/-- The descriptors of the board, whatever is in its other registers. -/
lemma inRegisters_flashBus (s : SpiBoard (SerialFlash 2)) :
    Hostmot2.inRegisters (registerBytes flashBus s) = .inRegisters (regsOf portIdrom) :=
  Hostmot2.inRegisters_congr (by decide)
    (fun _ hlow hhigh => registerBytes_spiBoardBus hlow hhigh s) (by decide) (by decide) (by decide)
    (by decide)

/-- They do not name a register of the interface. -/
lemma apart_portIdrom : (Hostmot2.inRegisters (regsOf portIdrom)).Apart IsSpiRegister where
  ports addr h := by
    obtain ⟨md, n, hmd, hn, haddr⟩ := h
    have hbase : (hm2FindModule (.inRegisters (regsOf portIdrom)) hm2GtagIoport).map
        (fun md => md.baseAddress.toNat) = some 0x1000 := by decide +kernel
    rw [hmd] at hbase
    have hbase : md.baseAddress.toNat = 0x1000 := Option.some.inj hbase
    have hports : (Hostmot2.inRegisters (regsOf portIdrom)).idrom.ioPorts = 1 := by decide +kernel
    rw [hbase] at haddr
    unfold IsSpiRegister u32
    unfold hm2ModOffsGpioDdr hm2ModOffsGpioAltSource at haddr
    unfold hm2SpiCtrlReg hm2SpiDataReg
    omega
  sserial md h := by
    have hnone : (hm2FindModule (.inRegisters (regsOf portIdrom)) hm2GtagSserial).isNone := by
      decide +kernel
    rw [h] at hnone
    cases hnone

/-- So the program knows of this port, and of no other module. -/
lemma hostmot2At_flashBus (s : SpiBoard (SerialFlash 2)) :
    hostmot2At flashBus s = .inRegisters (regsOf portIdrom) := by
  have hcookie : leWord (registerBytes flashBus s) hm2CookieReg 4 = hm2Cookie :=
    (leWord_congr fun i hi => registerBytes_spiBoardBus (by unfold hm2CookieReg; omega)
      (by unfold hm2CookieReg romEnd; omega) s).trans (by decide)
  rw [hostmot2At, inMemory_hm2ReadIdrom ⟨hcookie, by decide⟩, inRegisters_flashBus]

/-- Its functions. -/
def spiFunctions : DeviceFunctions (Proc (SpiBoard (SerialFlash 2))) :=
  spiScene.functions (onRegisters flashBus 0
    (spiScene.reporting (fun p => (.ok (.board spiBoard), p)) 0))

/-- `--device 7i90hd --spi --addr /dev/spidev0.0`, and what it is asked for. -/
def spiArgs (asked : List CStr) : List CStr :=
  [ascii "--device", ascii "7i90hd", ascii "--spi", ascii "--addr", ascii "/dev/spidev0.0"] ++ asked

/-- The board, open. -/
def openSpi : BoardEntry × BootBlock := idFound spiScene spiBoard bootBlock

/-- A run with an action on the registers of the board. -/
lemma run_spiFunctions {asked : List CStr} {r : ℤ} {o : Options} {a : BoardAction}
    {dev : SpiBoard (SerialFlash 2)} (hselects : Selects (spiArgs asked) r o)
    (haction : boardAction o = .board a) (hip : a ≠ .setRemoteIp) (hled : a ≠ .setLedMode)
    (hact : registerAction flashBus 0 o openSpi.1 a spiScene.flash = .ok ((), dev)) :
    ∃ t', (spiFunctions.main (spiArgs asked)).run ⟨.start spiScene.flash, []⟩ = (.ok 0, t') ∧
      t'.state.dev = dev := by
  set p : Proc (SpiBoard (SerialFlash 2)) := ⟨openSpi.2, fun _ => 0, fun _ => 0, dev⟩ with hp
  have hreg : (spiFunctions.action openSpi.1 o (.board a)).run
      ⟨{ p with dev := spiScene.flash }, [.search, .boardOpen]⟩ =
        (.ok 0, ⟨p, [.search, .boardOpen, .act a]⟩) := by
    have hcall : spiFunctions.act a o openSpi.1 { p with dev := spiScene.flash } = (.ok (), p) := by
      unfold spiFunctions
      dsimp only [Scene.functions, onRegisters]
      rw [deviceFn_eq_ok, hact, hp]
      rfl
    have hseq : spiFunctions.action openSpi.1 o (.board a) = do
        .emit (.act a)
        .lift (spiFunctions.act a o openSpi.1)
        return 0 := by
      cases a with
      | setRemoteIp => exact absurd rfl hip
      | setLedMode => exact absurd rfl hled
      | _ => rfl
    rw [hseq, Traced.run_emit_bind, Traced.run_bind_of_ok (Traced.run_lift_of_eq hcall)]
    rfl
  refine ⟨⟨p, [.search, .boardOpen, .act a, .boardClose]⟩, ?_, rfl⟩
  rw [hselects.main_eq_onDevice, run_onDevice_eq_zero]
  refine ⟨spiBoard, _, rfl, run_onBoard_eq_ok.2 ⟨.spi, openSpi.1,
    { p with dev := spiScene.flash }, ⟨p, [.search, .boardOpen, .act a]⟩, .spi, rfl, rfl, ?_, rfl,
    rfl⟩⟩
  rw [haction]
  exact hreg

lemma selects_wpoArgs : ∃ r o, Selects (spiArgs [ascii "--wpo", ascii "0x1000=5"]) r o ∧
    boardAction o = .board .wpo ∧ directAccesses o = [.write 0x1000 5] :=
  selects_of_mainOn (f := fun _ => .ok ()) nofun (by decide +kernel)

lemma selects_safeIoArgs : ∃ r o, Selects (spiArgs [ascii "--safe-io"]) r o ∧
    boardAction o = .board .safeIo ∧ directAccesses o = [] :=
  selects_of_mainOn (f := fun _ => .ok ()) nofun (by decide +kernel)

/-- The registers of the port, when the pins are made safe. -/
lemma registerAction_safeIo (o : Options) : registerAction flashBus 0 o openSpi.1 .safeIo
    spiScene.flash =
      .ok ((), flashBus.write 0x1100 0 (flashBus.write 0x1200 0 spiScene.flash)) := by
  have hbase : (hm2FindModule (.inRegisters (regsOf portIdrom)) hm2GtagIoport).map
      (fun md => md.baseAddress.toNat) = some 0x1000 := by decide +kernel
  obtain ⟨md, hmd, hbase⟩ := Option.map_eq_some_iff.1 hbase
  have hports : (Hostmot2.inRegisters (regsOf portIdrom)).idrom.ioPorts = 1 := by decide +kernel
  have hregister : ∀ bank, md.register bank 0 = u32 (0x1000 + bank) := fun bank => by
    rw [ModuleDesc.register, hbase, Nat.zero_mul, Nat.add_zero]
  have hddr : md.register hm2ModOffsGpioDdr 0 = 0x1100 := hregister _
  have halt : md.register hm2ModOffsGpioAltSource 0 = 0x1200 := hregister _
  have hsafe : hm2SafeIo flashBus (.inRegisters (regsOf portIdrom)) spiScene.flash =
      .ok ((), flashBus.write (md.register hm2ModOffsGpioDdr 0) 0
        (flashBus.write (md.register hm2ModOffsGpioAltSource 0) 0 spiScene.flash)) := by
    rw [hm2SafeIo, hmd, hports]
    rfl
  have hread : useRegister openSpi.1 .read = .ok () := rfl
  rw [hddr, halt] at hsafe
  simp only [registerAction, hread, ok_bind, hm2Action, hostmot2At_flashBus]
  exact hsafe

/-- A register is written, and the pins of the port are made safe.  The flash memory is as it
was. -/
theorem main_leavesFlash_spiArgs :
    (∃ t', (spiFunctions.main (spiArgs [ascii "--wpo", ascii "0x1000=5"])).run
        ⟨.start spiScene.flash, []⟩ = (.ok 0, t') ∧
      t'.state.dev.regs 0x1000 = 5 ∧ t'.state.dev.port.dev = spiScene.flash.port.dev) ∧
    ∃ t', (spiFunctions.main (spiArgs [ascii "--safe-io"])).run
        ⟨.start spiScene.flash, []⟩ = (.ok 0, t') ∧
      t'.state.dev.regs 0x1100 = 0 ∧ t'.state.dev.port.dev = spiScene.flash.port.dev := by
  have hsearch : Stays (fun s : SpiBoard (SerialFlash 2) => s.port.dev)
      (spiScene.reporting (fun p => (.ok (.board spiBoard), p)) 0).search := by
    intro p found p' h
    obtain ⟨-, rfl⟩ := Prod.mk.inj h
    rfl
  constructor
  · obtain ⟨r, o, hselects, haction, haccesses⟩ := selects_wpoArgs
    rw [directAccesses, haction] at haccesses
    obtain ⟨haddr, hdata⟩ := RegisterAccess.write.inj (List.head_eq_of_cons_eq haccesses)
    obtain ⟨t', hrun, hdev⟩ := run_spiFunctions hselects haction (by decide) (by decide) rfl
    refine ⟨t', hrun, ?_, main_leavesFlash readsLeave_spiScene (behindRegisters_spiBoardBus _ _ _)
      hsearch (fun r' o' h => ?_) hrun⟩
    · rw [hdev, haddr, hdata]
      rfl
    · obtain ⟨-, rfl⟩ := Parsed.ret.inj (Except.ok.inj (hselects.parsed.symm.trans h.parsed))
      refine ⟨⟨fun _ => ?_, ?_⟩, (leaveFlash_reporting _ _).toCallsLeaveFlash, ?_⟩
      · rw [haddr]
        decide
      · rw [haction]
        rintro a ⟨⟩ (h | h | h) <;> cases h
      · rw [haction]
        exact fun name => ⟨nofun, nofun⟩
  · obtain ⟨r, o, hselects, haction, -⟩ := selects_safeIoArgs
    obtain ⟨t', hrun, hdev⟩ := run_spiFunctions hselects haction (by decide) (by decide)
      (registerAction_safeIo o)
    refine ⟨t', hrun, ?_, main_leavesFlash readsLeave_spiScene (behindRegisters_spiBoardBus _ _ _)
      hsearch (fun r' o' h => ?_) hrun⟩
    · rw [hdev]
      rfl
    · obtain ⟨-, rfl⟩ := Parsed.ret.inj (Except.ok.inj (hselects.parsed.symm.trans h.parsed))
      refine ⟨⟨fun hwpo => ?_, fun _ _ _ s _ => ?_⟩,
        (leaveFlash_reporting _ _).toCallsLeaveFlash, ?_⟩
      · rw [haction] at hwpo
        cases hwpo
      · rw [show spiBoardBus _ _ _ = flashBus from rfl, inRegisters_flashBus]
        exact apart_portIdrom
      · rw [haction]
        exact fun name => ⟨nofun, nofun⟩

end Mesaflash
