import Mesaflash.SserialBytes
import Mesaflash.Lib.Client

/-!
Smart serial as a set of memories.

A board has up to four smart serial interfaces, each with a processor of its own that takes its
time over a command, and with up to eight remotes.  A command is carried out when the command
register has become zero; the registers of a channel hold the word for the remote and its
argument.  For the functions that read and write, however slow the processors are, there is a
memory and a nonvolatile memory behind every channel, and nothing else (`sslbp_refines`).
-/

namespace Mesaflash

open Lib

/-! ### Writing to a remote -/

def lbpArgs8Bit : ℕ := 0b00000000
def lbpArgs16Bit : ℕ := 0b00000001
def lbpArgs32Bit : ℕ := 0b00000010
def lbpWrite : ℕ := 0b00100000
def lbpCmdWrite : ℕ := lbpCmdRw ||| lbpWrite ||| lbpAddr

section Write

variable {σ : Type} (bus : RegisterBus σ) (ssmod : SserialModule)
  (fuel interface channel addr : ℕ)

/-- The three functions that write to a remote, with the kind and the value of the argument. -/
def writeRemote (args d : ℕ) : SserialM σ Unit := do
  sslbpSendRemoteCmd bus ssmod interface channel
    (((lbpCmdWrite ||| args ||| lbpAddrAutoInc) <<< 24) ||| addr)
  llioWrite bus (ssmod.baseAddress + hm2ModOffsSserialInterface0 + interface * 0x40 + channel * 4) d
  sslbpSendLocalCmd bus ssmod interface (sslbpCmdDoit channel)
  sslbpWaitComplete bus ssmod fuel interface

/-- `sslbp_write_remote8`. -/
def sslbpWriteRemote8 (data : UInt8) : SserialM σ Unit :=
  writeRemote bus ssmod fuel interface channel addr lbpArgs8Bit data.toNat

/-- `sslbp_write_remote16`. -/
def sslbpWriteRemote16 (data : UInt16) : SserialM σ Unit :=
  writeRemote bus ssmod fuel interface channel addr lbpArgs16Bit data.toNat

/-- `sslbp_write_remote32`. -/
def sslbpWriteRemote32 (data : UInt32) : SserialM σ Unit :=
  writeRemote bus ssmod fuel interface channel addr lbpArgs32Bit data.toNat

end Write

/-! ### Slow processors and their remotes -/

/-- Bytes of a memory. -/
def loadBytes (memory : ℕ → UInt8) (addr n : ℕ) : List UInt8 :=
  (List.range n).map fun k => memory (addr + k)

/-- A memory with these bytes from an address on. -/
def withBytes (memory : ℕ → UInt8) (ptr : ℕ) (bytes : List UInt8) : ℕ → UInt8 :=
  copyFrom (fun a => bytes.getD (a - ptr) 0) (Window ptr bytes.length) memory

/-- A remote: its memory and its nonvolatile memory, and whether the second one is selected. -/
structure SslbpRemote where
  memory : Bool → ℕ → UInt8
  nv : Bool

/-- A remote gets a word with an argument.  The second component is what is in the register of the
argument afterwards. -/
def SslbpRemote.exec (word arg : ℕ) (r : SslbpRemote) : SslbpRemote × ℕ :=
  let cmd := word / 2 ^ 24
  let addr := word % 2 ^ 16
  let n := 2 ^ (cmd % 4)
  if cmd / 0x40 = 1 then
    if cmd.testBit 5 then
      ({ r with
        memory := Function.update r.memory r.nv
          (withBytes (r.memory r.nv) addr ((word32 arg).take n)) }, arg)
    else (r, u32 (wordOf (loadBytes (r.memory r.nv) addr n)))
  else if cmd = lbpCmdReadNv then ({ r with nv := arg != 0 }, arg)
  else (r, arg)

/-- A processor with its remotes and registers. -/
structure SslbpProcessor where
  remotes : ℕ → SslbpRemote
  data : ℕ
  cs : ℕ → ℕ
  interface0 : ℕ → ℕ
  /-- The command that has not been carried out yet, and how often the command register will still
  be seen with it. -/
  pending : Option (ℕ × ℕ)
  /-- The number of commands so far. -/
  count : ℕ

namespace SslbpProcessor

variable (localByte : ℕ → UInt8)

/-- A command is carried out: a read of the local memory, or the words for the remotes of some
channels. -/
def exec (cmd : ℕ) (p : SslbpProcessor) : SslbpProcessor :=
  let answer c := (p.remotes c).exec (p.cs c) (p.interface0 c)
  if cmd / sslbpRequest % 2 = 1 then { p with data := (localByte (cmd % 0x400)).toNat }
  else if cmd / 0x100 = 0x10 then
    { p with
      remotes := fun c => if (cmd % 0x100).testBit c then (answer c).1 else p.remotes c
      interface0 := fun c => if (cmd % 0x100).testBit c then (answer c).2 else p.interface0 c }
  else p

/-- The command register is read. -/
def poll (p : SslbpProcessor) : ℕ × SslbpProcessor :=
  match p.pending with
  | none => (0, p)
  | some (cmd, n + 1) => (cmd, { p with pending := some (cmd, n) })
  | some (cmd, 0) => (0, { p.exec localByte cmd with pending := none })

/-- A register of a block is read. -/
def readReg (block c : ℕ) (p : SslbpProcessor) : ℕ × SslbpProcessor :=
  match block with
  | 0 => p.poll localByte
  | 1 => (p.data, p)
  | 2 => (p.cs c, p)
  | _ => (p.interface0 c, p)

/-- A register of a block is written.  A command that was pending is forgotten. -/
def writeReg (delay : ℕ → ℕ) (block c value : ℕ) (p : SslbpProcessor) : SslbpProcessor :=
  match block with
  | 0 => { p with pending := some (value, delay p.count), count := p.count + 1 }
  | 1 => { p with data := value }
  | 2 => { p with cs := Function.update p.cs c value }
  | _ => { p with interface0 := Function.update p.interface0 c value }

end SslbpProcessor

/-- The processors of a board, and its other registers. -/
structure SslbpBoard (ρ : Type) where
  processors : ℕ → SslbpProcessor
  others : ρ

/-- What does not change: the local memories of the processors, the time that each takes over each
command, and what the other registers do. -/
structure SslbpChip (ρ : Type) where
  localByte : ℕ → ℕ → UInt8
  delay : ℕ → ℕ → ℕ
  others : RegisterBus ρ

variable {ρ : Type}

/-- A processor with its new state. -/
def SslbpBoard.set (i : ℕ) (p : SslbpProcessor) (b : SslbpBoard ρ) : SslbpBoard ρ :=
  { b with processors := Function.update b.processors i p }

/-- The registers of a board with its smart serial interfaces at a base address. -/
def SslbpChip.bus (chip : SslbpChip ρ) (base : ℕ) : RegisterBus (SslbpBoard ρ) where
  read addr b :=
    if base ≤ addr ∧ addr < base + 0x400 then
      let i := (addr - base) % 0x100 / 0x40
      let (value, p) := (b.processors i).readReg (chip.localByte i) ((addr - base) / 0x100)
        ((addr - base) % 0x40 / 4)
      (value, b.set i p)
    else
      let (value, others) := chip.others.read addr b.others
      (value, { b with others := others })
  write addr value b :=
    if base ≤ addr ∧ addr < base + 0x400 then
      let i := (addr - base) % 0x100 / 0x40
      b.set i ((b.processors i).writeReg (chip.delay i) ((addr - base) / 0x100)
        ((addr - base) % 0x40 / 4) value)
    else { b with others := chip.others.write addr value b.others }

/-! ### Requests -/

/-- What can be asked of smart serial.  A text is read up to its NUL, with a buffer of `room`
bytes. -/
inductive SslbpRequest where
  | readLocal8 (interface addr : ℕ)
  | readLocal32 (interface addr : ℕ)
  | readRemote8 (interface channel addr : ℕ)
  | readRemote16 (interface channel addr : ℕ)
  | readRemote32 (interface channel addr : ℕ)
  | readNvRemote16 (interface channel addr : ℕ)
  | readNvRemote32 (interface channel addr : ℕ)
  | readRemoteBytes (interface channel addr room size : ℕ)
  | readRemoteText (interface channel addr room : ℕ)
  | writeRemote8 (interface channel addr : ℕ) (data : UInt8)
  | writeRemote16 (interface channel addr : ℕ) (data : UInt16)
  | writeRemote32 (interface channel addr : ℕ) (data : UInt32)

/-- The reply to a request. -/
inductive SslbpReply where
  | word (n : ℕ)
  | bytes (l : List UInt8)
  | done
deriving DecidableEq

/-- A request that is inside the memories, for one of the interfaces and channels that there are,
with a buffer that is large enough. -/
def SslbpRequest.Fits : SslbpRequest → Prop
  | readLocal8 i addr => i < 4 ∧ addr < 0x400
  | readLocal32 i addr => i < 4 ∧ addr + 4 ≤ 0x400
  | readRemote8 i c addr => i < 4 ∧ c < 8 ∧ addr + 1 ≤ 2 ^ 16
  | readRemote16 i c addr => i < 4 ∧ c < 8 ∧ addr + 2 ≤ 2 ^ 16
  | readRemote32 i c addr => i < 4 ∧ c < 8 ∧ addr + 4 ≤ 2 ^ 16
  | readNvRemote16 i c addr => i < 4 ∧ c < 8 ∧ addr + 2 ≤ 2 ^ 16
  | readNvRemote32 i c addr => i < 4 ∧ c < 8 ∧ addr + 4 ≤ 2 ^ 16
  | readRemoteBytes i c addr room size => i < 4 ∧ c < 8 ∧ addr + room ≤ 2 ^ 16 ∧ size ≤ room
  | readRemoteText i c addr room => i < 4 ∧ c < 8 ∧ addr + room + 1 ≤ 2 ^ 16
  | writeRemote8 i c addr _ => i < 4 ∧ c < 8 ∧ addr + 1 ≤ 2 ^ 16
  | writeRemote16 i c addr _ => i < 4 ∧ c < 8 ∧ addr + 2 ≤ 2 ^ 16
  | writeRemote32 i c addr _ => i < 4 ∧ c < 8 ∧ addr + 4 ≤ 2 ^ 16

/-- A request is carried out on a board. -/
def sslbpServe {σ : Type} (bus : RegisterBus σ) (ssmod : SserialModule) (fuel : ℕ) :
    SslbpRequest → SserialM σ SslbpReply
  | .readLocal8 i addr => do
    let data ← sslbpReadLocal8 bus ssmod fuel i addr
    return .word data.toNat
  | .readLocal32 i addr => do
    let data ← sslbpReadLocal32 bus ssmod fuel i addr
    return .word data
  | .readRemote8 i c addr => do
    let data ← sslbpReadRemote8 bus ssmod fuel i c addr
    return .word data.toNat
  | .readRemote16 i c addr => do
    let data ← sslbpReadRemote16 bus ssmod fuel i c addr
    return .word data
  | .readRemote32 i c addr => do
    let data ← sslbpReadRemote32 bus ssmod fuel i c addr
    return .word data
  | .readNvRemote16 i c addr => do
    let data ← sslbpReadNvRemote16 bus ssmod fuel i c addr
    return .word data
  | .readNvRemote32 i c addr => do
    let data ← sslbpReadNvRemote32 bus ssmod fuel i c addr
    return .word data
  | .readRemoteBytes i c addr room size => do
    let bytes ← sslbpReadRemoteBytes bus ssmod fuel i c addr room size
    return .bytes bytes
  | .readRemoteText i c addr room => do
    let bytes ← sslbpReadRemoteBytes bus ssmod fuel i c addr room (-1)
    return .bytes bytes
  | .writeRemote8 i c addr data => do
    sslbpWriteRemote8 bus ssmod fuel i c addr data
    return .done
  | .writeRemote16 i c addr data => do
    sslbpWriteRemote16 bus ssmod fuel i c addr data
    return .done
  | .writeRemote32 i c addr data => do
    sslbpWriteRemote32 bus ssmod fuel i c addr data
    return .done

/-- The memories of the remotes: for each interface and channel the memory and the nonvolatile
memory. -/
abbrev SslbpMemories : Type := ℕ → ℕ → Bool → ℕ → UInt8

/-- A new value for one channel. -/
def atChannel {α : Type} (f : ℕ → ℕ → α) (i c : ℕ) (x : α) : ℕ → ℕ → α :=
  Function.update f i (Function.update (f i) c x)

namespace SslbpMemories

/-- The memories with these bytes from an address on. -/
def store (m : SslbpMemories) (i c addr : ℕ) (bytes : List UInt8) : SslbpMemories :=
  atChannel m i c (Function.update (m i c) false (withBytes (m i c false) addr bytes))

/-- The number at an address. -/
def word (memory : ℕ → UInt8) (addr n : ℕ) : SslbpReply := .word (wordOf (loadBytes memory addr n))

/-- A request is carried out on the memories. -/
def exec (localByte : ℕ → ℕ → UInt8) : SslbpRequest → SslbpMemories →
    Except Fault (SslbpReply × SslbpMemories)
  | .readLocal8 i addr, m => .ok (word (localByte i) addr 1, m)
  | .readLocal32 i addr, m => .ok (word (localByte i) addr 4, m)
  | .readRemote8 i c addr, m => .ok (word (m i c false) addr 1, m)
  | .readRemote16 i c addr, m => .ok (word (m i c false) addr 2, m)
  | .readRemote32 i c addr, m => .ok (word (m i c false) addr 4, m)
  | .readNvRemote16 i c addr, m => .ok (word (m i c true) addr 2, m)
  | .readNvRemote32 i c addr, m => .ok (word (m i c true) addr 4, m)
  | .readRemoteBytes i c addr _ size, m => .ok (.bytes (loadBytes (m i c false) addr size), m)
  | .readRemoteText i c addr room, m =>
    let bytes := loadBytes (m i c false) addr room
    if 0 ∈ bytes then .ok (.bytes (cstr bytes ++ [0]), m) else .error (.undefined .outOfBounds)
  | .writeRemote8 i c addr data, m => .ok (.done, m.store i c addr [data])
  | .writeRemote16 i c addr data, m => .ok (.done, m.store i c addr (word16 data.toNat))
  | .writeRemote32 i c addr data, m => .ok (.done, m.store i c addr (word32 data.toNat))

end SslbpMemories

/-! ### Words -/

lemma loadBytes_succ (memory : ℕ → UInt8) (addr n : ℕ) :
    loadBytes memory addr (n + 1) = loadBytes memory addr n ++ [memory (addr + n)] := by
  simp [loadBytes, List.range_succ]

lemma loadBytes_add (memory : ℕ → UInt8) (addr a b : ℕ) :
    loadBytes memory addr (a + b) = loadBytes memory addr a ++ loadBytes memory (addr + a) b := by
  simp [loadBytes, List.range_add, Function.comp_def, Nat.add_assoc]

lemma mem_loadBytes {memory : ℕ → UInt8} {addr n : ℕ} {b : UInt8} :
    b ∈ loadBytes memory addr n ↔ ∃ k < n, memory (addr + k) = b := by
  simp [loadBytes]

@[simp] lemma length_loadBytes (memory : ℕ → UInt8) (addr n : ℕ) :
    (loadBytes memory addr n).length = n := by
  simp [loadBytes]

/-- The words for a remote have the command on top of the address. -/
lemma remoteWord_parts (cmd : ℕ) {addr : ℕ} (haddr : addr < 2 ^ 16) :
    (cmd <<< 24 ||| addr) / 2 ^ 24 = cmd ∧ (cmd <<< 24 ||| addr) % 2 ^ 16 = addr := by
  have hlt : addr < 2 ^ 24 := haddr.trans (by decide)
  rw [← Nat.shiftLeft_add_eq_or_of_lt hlt, Nat.shiftLeft_eq]
  omega

/-- A byte behind a number. -/
lemma shiftLeft_or_toNat (n : ℕ) (b : UInt8) : n <<< 8 ||| b.toNat = 0x100 * n + b.toNat := by
  rw [← Nat.shiftLeft_add_eq_or_of_lt (show b.toNat < 2 ^ 8 from b.toNat_lt), Nat.shiftLeft_eq,
    Nat.mul_comm]

/-- A byte behind a number that is short enough. -/
lemma u32_shiftLeft_or_toNat {n : ℕ} (hn : n < 2 ^ 24) (b : UInt8) :
    u32 (n <<< 8) ||| b.toNat = 0x100 * n + b.toNat := by
  rw [u32_of_lt (by rw [Nat.shiftLeft_eq]; omega), shiftLeft_or_toNat]

/-- Two bytes, from the last one on, are a number. -/
lemma foldl_word16 (f : ℕ → UInt8) :
    [1, 0].foldl (fun ret byte => (ret <<< 8 ||| (f byte).toNat) % 0x10000) 0 =
      wordOf [f 0, f 1] := by
  have h₀ := (f 0).toNat_lt
  have h₁ := (f 1).toNat_lt
  simp only [List.foldl_cons, List.foldl_nil, shiftLeft_or_toNat, wordOf]
  omega

/-- Four bytes, from the last one on, are a number. -/
lemma foldl_word32 (f : ℕ → UInt8) :
    [3, 2, 1, 0].foldl (fun ret byte => u32 (ret <<< 8) ||| (f byte).toNat) 0 =
      wordOf [f 0, f 1, f 2, f 3] := by
  have h₁ := (f 1).toNat_lt
  have h₂ := (f 2).toNat_lt
  have h₃ := (f 3).toNat_lt
  -- the innermost byte comes first, for the others the number must be known to be short
  simp only [List.foldl_cons, List.foldl_nil, wordOf]
  rw [u32_shiftLeft_or_toNat (n := 0) (by decide) (f 3), u32_shiftLeft_or_toNat (by omega) (f 2),
    u32_shiftLeft_or_toNat (by omega) (f 1), u32_shiftLeft_or_toNat (by omega) (f 0)]
  omega

namespace SslbpRemote

variable (r : SslbpRemote) (arg : ℕ) {addr : ℕ} (haddr : addr < 2 ^ 16)

include haddr

lemma exec_readWord : r.exec (readWord addr) arg = (r, (r.memory r.nv addr).toNat) := by
  obtain ⟨hcmd, hlow⟩ := remoteWord_parts (lbpCmdRead ||| lbpAddrAutoInc) haddr
  have hlt := (r.memory r.nv addr).toNat_lt
  have hbyte : u32 (wordOf (loadBytes (r.memory r.nv) addr 1)) = (r.memory r.nv addr).toNat := by
    simp only [loadBytes, List.range_one, List.map_cons, List.map_nil, wordOf, Nat.add_zero, u32]
    omega
  rw [exec, readWord, hcmd, hlow, if_pos (by decide), if_neg (by decide)]
  exact congrArg (Prod.mk r) hbyte

lemma exec_writeWord {args : ℕ} (hargs : args < 3) :
    r.exec (((lbpCmdWrite ||| args ||| lbpAddrAutoInc) <<< 24) ||| addr) arg =
      (⟨Function.update r.memory r.nv
        (withBytes (r.memory r.nv) addr ((word32 arg).take (2 ^ args))), r.nv⟩, arg) := by
  obtain ⟨hcmd, hlow⟩ := remoteWord_parts (lbpCmdWrite ||| args ||| lbpAddrAutoInc) haddr
  rw [exec, hcmd, hlow]
  obtain rfl | rfl | rfl : args = 0 ∨ args = 1 ∨ args = 2 := by omega
  · rfl
  · rfl
  · rfl

omit haddr

lemma exec_selectWord :
    r.exec (lbpCmdReadNv <<< 24) arg = (⟨r.memory, arg != 0⟩, arg) := rfl

end SslbpRemote

/-! ### Commands -/

lemma sslbpCmdDoit_eq (c : ℕ) : sslbpCmdDoit c = 0x10 * 0x100 + channelMask c :=
  or_channelMask 0x10 c

/-- The channels that a command is for. -/
lemma testBit_cmdDoit {c : ℕ} (hc : c < 8) (d : ℕ) :
    (sslbpCmdDoit c % 0x100).testBit d = decide (d = c) := by
  have hlow : sslbpCmdDoit c % 0x100 = channelMask c := by
    have hlt := channelMask_lt c
    rw [sslbpCmdDoit_eq]
    omega
  rw [hlow, channelMask, Nat.testBit_and, Nat.one_shiftLeft, Nat.testBit_two_pow,
    show 0xFF = 2 ^ 8 - 1 from rfl, Nat.testBit_two_pow_sub_one]
  by_cases hd : d = c
  · simp [hd, hc]
  · simp [hd, Ne.symm hd]

namespace SslbpProcessor

variable (localByte : ℕ → UInt8) (p : SslbpProcessor)

/-- What a command does in the end. -/
def run (cmd : ℕ) : SslbpProcessor :=
  { p.exec localByte cmd with pending := none, count := p.count + 1 }

/-- What is pending and the number of commands do not matter to a command. -/
lemma exec_with (cmd n : ℕ) (pending : Option (ℕ × ℕ)) :
    { p with pending := pending, count := n }.exec localByte cmd =
      { p.exec localByte cmd with pending := pending, count := n } := by
  simp only [exec]
  split_ifs <;> rfl

lemma exec_pending (cmd : ℕ) (pending : Option (ℕ × ℕ)) :
    { { p with pending := pending }.exec localByte cmd with pending := none } =
      { p.exec localByte cmd with pending := none } := by
  simp only [exec]
  split_ifs <;> rfl

/-- What the remote of a channel says to the word and the argument in its registers. -/
def answer (c : ℕ) : SslbpRemote × ℕ := (p.remotes c).exec (p.cs c) (p.interface0 c)

lemma run_cmdDoit {c : ℕ} (hc : c < 8) : p.run localByte (sslbpCmdDoit c) =
    { p with
      remotes := Function.update p.remotes c (p.answer c).1
      interface0 := Function.update p.interface0 c (p.answer c).2
      pending := none
      count := p.count + 1 } := by
  obtain ⟨-, hrequest, hkind⟩ := cmd_parts 0x10 c (by decide)
  rw [← sslbpCmdDoit_eq] at hrequest hkind
  have hne : ¬ sslbpCmdDoit c / sslbpRequest % 2 = 1 := by
    rw [hrequest]
    decide
  simp only [run, exec, if_neg hne, if_pos hkind, testBit_cmdDoit hc, decide_eq_true_eq]
  congr 1
  · funext d
    by_cases hd : d = c
    · simp [hd, answer]
    · simp [hd]
  · funext d
    by_cases hd : d = c
    · simp [hd, answer]
    · simp [hd]

lemma run_cmdRead {addr : ℕ} (haddr : addr < 0x400) : p.run localByte (sslbpCmdRead addr) =
    { p with
      data := (localByte addr).toNat
      pending := none
      count := p.count + 1 } := by
  have hand : addr &&& 0x3FF = addr := by
    rw [show 0x3FF = 2 ^ 10 - 1 from rfl, Nat.and_two_pow_sub_one_eq_mod]
    exact Nat.mod_eq_of_lt haddr
  have hcmd : sslbpCmdRead addr = 0x2000 + addr := by
    rw [sslbpCmdRead, hand]
    exact (Nat.shiftLeft_add_eq_or_of_lt (a := 8) (i := 10) haddr).symm
  have hrequest : (0x2000 + addr) / sslbpRequest % 2 = 1 := by
    rw [sslbpRequest]
    omega
  have hmod : (0x2000 + addr) % 0x400 = addr := by omega
  rw [run, exec, hcmd, if_pos hrequest, hmod]

end SslbpProcessor

/-- The run, with a processor in a new state. -/
def SserialState.withProcessor (s : SserialState (SslbpBoard ρ)) (i : ℕ) (p : SslbpProcessor) :
    SserialState (SslbpBoard ρ) :=
  { s with regs := s.regs.set i p }

/-- The processor of an interface. -/
def SserialState.processor (s : SserialState (SslbpBoard ρ)) (i : ℕ) : SslbpProcessor :=
  s.regs.processors i

/-- What does not belong to the interfaces. -/
def SserialState.rest (s : SserialState (SslbpBoard ρ)) :
    ρ × SserialInterface × (Fin hm2SserialMaxChannels → SserialDevice) :=
  (s.regs.others, s.ssInterface, s.ssDevice)

section WithProcessor

variable (s : SserialState (SslbpBoard ρ)) (i : ℕ) (p q : SslbpProcessor)

@[simp] lemma SserialState.processor_withProcessor : (s.withProcessor i p).processor i = p := by
  simp [withProcessor, processor, SslbpBoard.set]

lemma SserialState.processor_withProcessor_of_ne {j : ℕ} (h : j ≠ i) :
    (s.withProcessor i p).processor j = s.processor j := by
  simp [withProcessor, processor, SslbpBoard.set, h]

@[simp] lemma SserialState.withProcessor_withProcessor :
    (s.withProcessor i p).withProcessor i q = s.withProcessor i q := by
  simp [withProcessor, SslbpBoard.set]

@[simp] lemma SserialState.withProcessor_processor : s.withProcessor i (s.processor i) = s := by
  simp [withProcessor, SslbpBoard.set, processor]

@[simp] lemma SserialState.rest_withProcessor : (s.withProcessor i p).rest = s.rest := rfl

end WithProcessor

section Board

variable (chip : SslbpChip ρ) (ssmod : SserialModule) {s : SserialState (SslbpBoard ρ)} {i c : ℕ}
  (hi : i < 4)

include hi

/-- The parts of the address of a register. -/
lemma sslbpAddress_parts (base : ℕ) {k : ℕ} (hk : k < 4) (hc : c < 16) :
    (base ≤ base + k * 0x100 + i * 0x40 + c * 4 ∧
      base + k * 0x100 + i * 0x40 + c * 4 < base + 0x400) ∧
    (base + k * 0x100 + i * 0x40 + c * 4 - base) / 0x100 = k ∧
    (base + k * 0x100 + i * 0x40 + c * 4 - base) % 0x100 / 0x40 = i ∧
    (base + k * 0x100 + i * 0x40 + c * 4 - base) % 0x40 / 4 = c := by
  have hsub : base + k * 0x100 + i * 0x40 + c * 4 - base = k * 0x100 + i * 0x40 + c * 4 := by omega
  rw [hsub]
  omega

lemma llioRead_sslbp {off k : ℕ} (hoff : off = k * 0x100) (hk : k < 4) (hc : c < 16) :
    llioRead (chip.bus ssmod.baseAddress) (ssmod.baseAddress + off + i * 0x40 + c * 4) s =
      .ok (((s.processor i).readReg (chip.localByte i) k c).1,
        s.withProcessor i ((s.processor i).readReg (chip.localByte i) k c).2) := by
  obtain ⟨hin, hblock, hinterface, hchannel⟩ := sslbpAddress_parts hi ssmod.baseAddress hk hc
  simp only [llioRead, SslbpChip.bus, hoff, if_pos hin, hblock, hinterface, hchannel]
  rfl

lemma llioWrite_sslbp {off k : ℕ} (hoff : off = k * 0x100) (hk : k < 4) (hc : c < 16)
    (value : ℕ) :
    llioWrite (chip.bus ssmod.baseAddress) (ssmod.baseAddress + off + i * 0x40 + c * 4) value s =
      .ok ((), s.withProcessor i ((s.processor i).writeReg (chip.delay i) k c value)) := by
  obtain ⟨hin, hblock, hinterface, hchannel⟩ := sslbpAddress_parts hi ssmod.baseAddress hk hc
  simp only [llioWrite, SslbpChip.bus, hoff, if_pos hin, hblock, hinterface, hchannel]
  rfl

/-- Waiting for a command, which is carried out meanwhile. -/
lemma waitComplete_pending {cmd n : ℕ} (hcmd : cmd ≠ 0) {p : SslbpProcessor}
    (hp : p.pending = some (cmd, n)) :
    EndsIn .hang (fun fuel => sslbpWaitComplete (chip.bus ssmod.baseAddress) ssmod fuel i)
      (s.withProcessor i p)
      (.ok ((), s.withProcessor i { p.exec (chip.localByte i) cmd with pending := none })) := by
  induction n generalizing p with
  | zero =>
      have hread : sslbpReadLocalCmd (chip.bus ssmod.baseAddress) ssmod i (s.withProcessor i p) =
          .ok (0, s.withProcessor i { p.exec (chip.localByte i) cmd with pending := none }) := by
        refine (llioRead_sslbp chip ssmod hi (k := 0) (c := 0) rfl (by decide) (by decide)).trans ?_
        simp [SslbpProcessor.readReg, SslbpProcessor.poll, hp]
      exact loopM_break (EndsIn.step hread (endsIn_const (pure (Sum.inr ())) _))
  | succ n ih =>
      have hread : sslbpReadLocalCmd (chip.bus ssmod.baseAddress) ssmod i (s.withProcessor i p) =
          .ok (cmd, s.withProcessor i { p with pending := some (cmd, n) }) := by
        refine (llioRead_sslbp chip ssmod hi (k := 0) (c := 0) rfl (by decide) (by decide)).trans ?_
        simp [SslbpProcessor.readReg, SslbpProcessor.poll, hp]
      have hround : EndsIn .hang (fun _ => do
          let cmd ← sslbpReadLocalCmd (chip.bus ssmod.baseAddress) ssmod i
          if cmd ≠ 0 then pure (.inl ()) else pure (.inr ())) (s.withProcessor i p)
          (.ok ((.inl () : Unit ⊕ Unit),
            s.withProcessor i { p with pending := some (cmd, n) })) := by
        refine EndsIn.step hread ?_
        rw [if_pos hcmd]
        exact endsIn_const (pure (Sum.inl ())) _
      have hrest := ih (p := { p with pending := some (cmd, n) }) rfl
      rw [p.exec_pending] at hrest
      exact loopM_next hround hrest

/-- A command is sent, and has been carried out when the loop ends. -/
lemma command_endsIn {cmd : ℕ} (hcmd : cmd ≠ 0) :
    EndsIn .hang (fun fuel => do
      sslbpSendLocalCmd (chip.bus ssmod.baseAddress) ssmod i cmd
      sslbpWaitComplete (chip.bus ssmod.baseAddress) ssmod fuel i) s
      (.ok ((), s.withProcessor i ((s.processor i).run (chip.localByte i) cmd))) := by
  let p : SslbpProcessor := { s.processor i with
    pending := some (cmd, chip.delay i (s.processor i).count)
    count := (s.processor i).count + 1 }
  have hsend : sslbpSendLocalCmd (chip.bus ssmod.baseAddress) ssmod i cmd s =
      .ok ((), s.withProcessor i p) :=
    llioWrite_sslbp chip ssmod hi (k := 0) (c := 0) rfl (by decide) (by decide) cmd
  have hwait := waitComplete_pending chip ssmod (s := s) hi hcmd (p := p) rfl
  rw [(s.processor i).exec_with (chip.localByte i) cmd] at hwait
  exact EndsIn.step hsend hwait

/-- A command before a program. -/
lemma command_bind {cmd : ℕ} (hcmd : cmd ≠ 0) {α : Type} {q : ℕ → SserialM (SslbpBoard ρ) α}
    {r : Except Fault (α × SserialState (SslbpBoard ρ))}
    (hq : EndsIn .hang q (s.withProcessor i ((s.processor i).run (chip.localByte i) cmd)) r) :
    EndsIn .hang (fun fuel => do
      sslbpSendLocalCmd (chip.bus ssmod.baseAddress) ssmod i cmd
      sslbpWaitComplete (chip.bus ssmod.baseAddress) ssmod fuel i
      q fuel) s r :=
  ((command_endsIn chip ssmod hi hcmd).bind hq).congr fun _ => by rw [bind_assoc]

end Board

/-! ### Memories behind the channels -/

@[simp] lemma atChannel_self {α : Type} (f : ℕ → ℕ → α) (i c : ℕ) :
    atChannel f i c (f i c) = f := by
  simp [atChannel]

@[simp] lemma atChannel_atChannel {α : Type} (f : ℕ → ℕ → α) (i c : ℕ) (x y : α) :
    atChannel (atChannel f i c x) i c y = atChannel f i c y := by
  simp [atChannel]

@[simp] lemma atChannel_apply {α : Type} (f : ℕ → ℕ → α) (i c : ℕ) (x : α) :
    atChannel f i c x i c = x := by
  simp [atChannel]

/-- These memories are behind the channels, and where `sel` says so the nonvolatile one is
selected. -/
def SslbpHolds (sel : ℕ → ℕ → Bool) (m : SslbpMemories) (s : SserialState (SslbpBoard ρ)) : Prop :=
  ∀ i < 4, ∀ c < 8, (s.processor i).remotes c = ⟨m i c, sel i c⟩

section Holds

variable {sel : ℕ → ℕ → Bool} {m : SslbpMemories} {s : SserialState (SslbpBoard ρ)} {i c : ℕ}
  {p : SslbpProcessor}

/-- A remote has changed. -/
lemma SslbpHolds.withProcessor (h : SslbpHolds sel m s) {x : Bool → ℕ → UInt8} {b : Bool}
    (hp : p.remotes = Function.update (s.processor i).remotes c ⟨x, b⟩) :
    SslbpHolds (atChannel sel i c b) (atChannel m i c x) (s.withProcessor i p) := by
  intro j hj d hd
  by_cases hji : j = i
  · subst hji
    rw [SserialState.processor_withProcessor, hp]
    by_cases hdc : d = c
    · subst hdc
      simp
    · simp [atChannel, hdc, h j hj d hd]
  · simp [atChannel, hji, h j hj d hd, SserialState.processor_withProcessor_of_ne]

/-- No remote has changed. -/
lemma SslbpHolds.withRegisters (h : SslbpHolds sel m s)
    (hp : p.remotes = (s.processor i).remotes) : SslbpHolds sel m (s.withProcessor i p) := by
  intro j hj d hd
  by_cases hji : j = i
  · subst hji
    rw [SserialState.processor_withProcessor, hp, h j hj d hd]
  · rw [SserialState.processor_withProcessor_of_ne _ _ _ hji, h j hj d hd]

/-- The word in the register of a channel is carried out. -/
lemma SslbpHolds.doit (h : SslbpHolds sel m s) (hi : i < 4) (hc : c < 8) (localByte : ℕ → UInt8)
    (hp : p.remotes = (s.processor i).remotes) {x : Bool → ℕ → UInt8} {b : Bool} {d : ℕ}
    (hanswer : (⟨m i c, sel i c⟩ : SslbpRemote).exec (p.cs c) (p.interface0 c) = (⟨x, b⟩, d)) :
    SslbpHolds (atChannel sel i c b) (atChannel m i c x)
        (s.withProcessor i (p.run localByte (sslbpCmdDoit c))) ∧
      (p.run localByte (sslbpCmdDoit c)).interface0 c = d := by
  have hremote : p.answer c = (⟨x, b⟩, d) := by
    rw [SslbpProcessor.answer, hp, h i hi c hc, hanswer]
  rw [p.run_cmdDoit localByte hc, hremote]
  exact ⟨h.withProcessor (by rw [hp]), Function.update_self _ _ _⟩

end Holds

lemma sslbpCmdDoit_ne_zero (c : ℕ) : sslbpCmdDoit c ≠ 0 := by
  rw [sslbpCmdDoit_eq]
  omega

section Reads

variable (chip : SslbpChip ρ) (ssmod : SserialModule) {sel : ℕ → ℕ → Bool} {m : SslbpMemories}
  {i c : ℕ} (hi : i < 4)

include hi

lemma sslbpReadLocal8_reads {addr : ℕ} (haddr : addr < 0x400) :
    Reads .hang (SslbpHolds sel m) SserialState.rest
      (fun fuel => sslbpReadLocal8 (chip.bus ssmod.baseAddress) ssmod fuel i addr)
      (chip.localByte i addr) := by
  intro s hs
  let p := (s.processor i).run (chip.localByte i) (sslbpCmdRead addr)
  have hp : p = _ := (s.processor i).run_cmdRead (chip.localByte i) haddr
  have hne : sslbpCmdRead addr ≠ 0 := by
    have hle : 0x2000 ≤ sslbpCmdRead addr := Nat.left_le_or
    omega
  have hread : llioRead (chip.bus ssmod.baseAddress)
      (ssmod.baseAddress + hm2ModOffsSserialData + i * 0x40) (s.withProcessor i p) =
      .ok ((chip.localByte i addr).toNat, s.withProcessor i p) := by
    refine (llioRead_sslbp chip ssmod hi (k := 1) (c := 0) rfl (by decide) (by decide)).trans ?_
    simp [SslbpProcessor.readReg, hp]
  refine ⟨s.withProcessor i p, hs.withRegisters (by rw [hp]), rfl,
    command_bind chip ssmod hi hne (EndsIn.step hread ?_)⟩
  rw [toUInt8_and_toNat]
  exact endsIn_const (pure _) _

lemma sslbpReadLocal32_reads {addr : ℕ} (haddr : addr + 4 ≤ 0x400) :
    Reads .hang (SslbpHolds sel m) SserialState.rest
      (fun fuel => sslbpReadLocal32 (chip.bus ssmod.baseAddress) ssmod fuel i addr)
      (wordOf (loadBytes (chip.localByte i) addr 4)) := by
  have hword := foldl_word32 fun k => chip.localByte i (addr + k)
  refine (congrArg (Reads _ _ _ _) hword).mp (Reads.foldlM (fun ret byte hbyte => ?_) 0)
  have hlt : addr + byte < 0x400 := by
    simp only [List.mem_cons, List.not_mem_nil, or_false] at hbyte
    omega
  exact (sslbpReadLocal8_reads chip ssmod hi hlt).bind (.pure _)

variable (hc : c < 8)

include hc

lemma sslbpReadRemote8_reads {addr : ℕ} (haddr : addr < 2 ^ 16) :
    Reads .hang (SslbpHolds sel m) SserialState.rest
      (fun fuel => sslbpReadRemote8 (chip.bus ssmod.baseAddress) ssmod fuel i c addr)
      (m i c (sel i c) addr) := by
  intro s hs
  let p : SslbpProcessor := { s.processor i with
    cs := Function.update (s.processor i).cs c (readWord addr) }
  have hcs : sslbpSendRemoteCmd (chip.bus ssmod.baseAddress) ssmod i c (readWord addr) s =
      .ok ((), s.withProcessor i p) :=
    llioWrite_sslbp chip ssmod hi (k := 2) rfl (by decide) (by omega) _
  obtain ⟨hholds, hdata⟩ := hs.doit hi hc (chip.localByte i) (p := p) rfl
    (x := m i c) (b := sel i c) (d := (m i c (sel i c) addr).toNat) (by
      rw [show p.cs c = readWord addr from Function.update_self _ _ _]
      exact SslbpRemote.exec_readWord _ _ haddr)
  rw [atChannel_self, atChannel_self] at hholds
  let q := p.run (chip.localByte i) (sslbpCmdDoit c)
  have hread : llioRead (chip.bus ssmod.baseAddress)
      (ssmod.baseAddress + hm2ModOffsSserialInterface0 + i * 0x40 + c * 4) (s.withProcessor i q) =
      .ok ((m i c (sel i c) addr).toNat, s.withProcessor i q) := by
    refine (llioRead_sslbp chip ssmod hi (k := 3) rfl (by decide) (by omega)).trans ?_
    simp [SslbpProcessor.readReg, q, hdata]
  refine ⟨s.withProcessor i q, hholds, rfl, EndsIn.step hcs
    (command_bind chip ssmod hi (sslbpCmdDoit_ne_zero c) ?_)⟩
  rw [SserialState.processor_withProcessor, SserialState.withProcessor_withProcessor]
  refine EndsIn.step hread ?_
  rw [toUInt8_and_toNat]
  exact endsIn_const (pure _) _

lemma sslbpReadRemote16_reads {addr : ℕ} (haddr : addr + 2 ≤ 2 ^ 16) :
    Reads .hang (SslbpHolds sel m) SserialState.rest
      (fun fuel => sslbpReadRemote16 (chip.bus ssmod.baseAddress) ssmod fuel i c addr)
      (wordOf (loadBytes (m i c (sel i c)) addr 2)) := by
  have hword := foldl_word16 fun k => m i c (sel i c) (addr + k)
  refine (congrArg (Reads _ _ _ _) hword).mp (Reads.foldlM (fun ret byte hbyte => ?_) 0)
  have hlt : addr + byte < 2 ^ 16 := by
    simp only [List.mem_cons, List.not_mem_nil, or_false] at hbyte
    omega
  rw [u32_of_lt (by omega)]
  exact (sslbpReadRemote8_reads chip ssmod hi hc hlt).bind (.pure _)

lemma sslbpReadRemote32_reads {addr : ℕ} (haddr : addr + 4 ≤ 2 ^ 16) :
    Reads .hang (SslbpHolds sel m) SserialState.rest
      (fun fuel => sslbpReadRemote32 (chip.bus ssmod.baseAddress) ssmod fuel i c addr)
      (wordOf (loadBytes (m i c (sel i c)) addr 4)) := by
  have hword := foldl_word32 fun k => m i c (sel i c) (addr + k)
  refine (congrArg (Reads _ _ _ _) hword).mp (Reads.foldlM (fun ret byte hbyte => ?_) 0)
  have hlt : addr + byte < 2 ^ 16 := by
    simp only [List.mem_cons, List.not_mem_nil, or_false] at hbyte
    omega
  rw [u32_of_lt (by omega)]
  exact (sslbpReadRemote8_reads chip ssmod hi hc hlt).bind (.pure _)

/-! ### Words with an argument -/

/-- A word with an argument is sent to a remote. -/
lemma argument_endsIn {word arg : ℕ} {x : Bool → ℕ → UInt8} {b : Bool}
    (hanswer : (⟨m i c, sel i c⟩ : SslbpRemote).exec word arg = (⟨x, b⟩, arg))
    {s : SserialState (SslbpBoard ρ)} (hs : SslbpHolds sel m s) :
    ∃ t, SslbpHolds (atChannel sel i c b) (atChannel m i c x) t ∧ t.rest = s.rest ∧
      EndsIn .hang (fun fuel => do
        llioWrite (chip.bus ssmod.baseAddress)
          (ssmod.baseAddress + hm2ModOffsSserialCs + i * 0x40 + c * 4) word
        llioWrite (chip.bus ssmod.baseAddress)
          (ssmod.baseAddress + hm2ModOffsSserialInterface0 + i * 0x40 + c * 4) arg
        sslbpSendLocalCmd (chip.bus ssmod.baseAddress) ssmod i (sslbpCmdDoit c)
        sslbpWaitComplete (chip.bus ssmod.baseAddress) ssmod fuel i) s (.ok ((), t)) := by
  let p : SslbpProcessor := { s.processor i with
    cs := Function.update (s.processor i).cs c word }
  let q : SslbpProcessor := { p with interface0 := Function.update p.interface0 c arg }
  have hcs : llioWrite (chip.bus ssmod.baseAddress)
      (ssmod.baseAddress + hm2ModOffsSserialCs + i * 0x40 + c * 4) word s =
      .ok ((), s.withProcessor i p) :=
    llioWrite_sslbp chip ssmod hi (k := 2) rfl (by decide) (by omega) word
  have harg : llioWrite (chip.bus ssmod.baseAddress)
      (ssmod.baseAddress + hm2ModOffsSserialInterface0 + i * 0x40 + c * 4) arg
      (s.withProcessor i p) = .ok ((), s.withProcessor i q) := by
    refine (llioWrite_sslbp chip ssmod hi (k := 3) rfl (by decide) (by omega) arg).trans ?_
    rw [SserialState.processor_withProcessor, SserialState.withProcessor_withProcessor]
    rfl
  obtain ⟨hholds, -⟩ := hs.doit hi hc (chip.localByte i) (p := q) rfl (x := x) (b := b) (d := arg)
    (by
      rw [show q.cs c = word from Function.update_self _ _ _,
        show q.interface0 c = arg from Function.update_self _ _ _, hanswer])
  refine ⟨_, hholds, rfl, EndsIn.step hcs (EndsIn.step harg ?_)⟩
  have hend := command_endsIn chip ssmod hi (s := s.withProcessor i q) (sslbpCmdDoit_ne_zero c)
  rw [SserialState.processor_withProcessor, SserialState.withProcessor_withProcessor] at hend
  exact hend

/-- The selection of a memory. -/
lemma selectNv_sslbp (nv : ℕ) {s : SserialState (SslbpBoard ρ)} (hs : SslbpHolds sel m s) :
    ∃ t, SslbpHolds (atChannel sel i c (nv != 0)) m t ∧ t.rest = s.rest ∧
      EndsIn .hang (fun fuel => selectNv (chip.bus ssmod.baseAddress) ssmod fuel i c nv) s
        (.ok ((), t)) := by
  have h := argument_endsIn chip ssmod hi hc (SslbpRemote.exec_selectWord ⟨m i c, sel i c⟩ nv) hs
  rwa [atChannel_self] at h

/-- What is read between two selections is read from the nonvolatile memory. -/
lemma nv_reads_sslbp {α : Type} {p : ℕ → SserialM (SslbpBoard ρ) α} {a : α}
    (hsel : sel i c = false)
    (hp : Reads .hang (SslbpHolds (atChannel sel i c true) m) SserialState.rest p a) :
    Reads .hang (SslbpHolds sel m) SserialState.rest (fun fuel => do
      selectNv (chip.bus ssmod.baseAddress) ssmod fuel i c lbpNveepromByte
      let data ← p fuel
      selectNv (chip.bus ssmod.baseAddress) ssmod fuel i c 0
      pure data) a := by
  intro s hs
  obtain ⟨t, ht, hrest, hon⟩ := selectNv_sslbp chip ssmod hi hc lbpNveepromByte hs
  obtain ⟨t', ht', hrest', hread⟩ := hp t ht
  obtain ⟨t'', ht'', hrest'', hoff⟩ := selectNv_sslbp chip ssmod hi hc 0 ht'
  refine ⟨t'', ?_, hrest''.trans (hrest'.trans hrest),
    hon.bind (hread.bind (hoff.bind (endsIn_const (pure a) t'')))⟩
  have hback : atChannel (atChannel sel i c true) i c (0 != 0) = sel := by
    rw [atChannel_atChannel]
    exact (congrArg (atChannel sel i c) hsel.symm).trans (atChannel_self sel i c)
  exact hback ▸ ht''

lemma sslbpReadNvRemote16_reads (hsel : sel i c = false) {addr : ℕ} (haddr : addr + 2 ≤ 2 ^ 16) :
    Reads .hang (SslbpHolds sel m) SserialState.rest
      (fun fuel => sslbpReadNvRemote16 (chip.bus ssmod.baseAddress) ssmod fuel i c addr)
      (wordOf (loadBytes (m i c true) addr 2)) := by
  have hread : Reads .hang (SslbpHolds (atChannel sel i c true) m) SserialState.rest
      (fun fuel => sslbpReadRemote16 (chip.bus ssmod.baseAddress) ssmod fuel i c addr)
      (wordOf (loadBytes (m i c (atChannel sel i c true i c)) addr 2)) :=
    sslbpReadRemote16_reads chip ssmod hi hc haddr
  rw [atChannel_apply] at hread
  exact nv_reads_sslbp chip ssmod hi hc hsel hread

lemma sslbpReadNvRemote32_reads (hsel : sel i c = false) {addr : ℕ} (haddr : addr + 4 ≤ 2 ^ 16) :
    Reads .hang (SslbpHolds sel m) SserialState.rest
      (fun fuel => sslbpReadNvRemote32 (chip.bus ssmod.baseAddress) ssmod fuel i c addr)
      (wordOf (loadBytes (m i c true) addr 4)) := by
  have hread : Reads .hang (SslbpHolds (atChannel sel i c true) m) SserialState.rest
      (fun fuel => sslbpReadRemote32 (chip.bus ssmod.baseAddress) ssmod fuel i c addr)
      (wordOf (loadBytes (m i c (atChannel sel i c true i c)) addr 4)) :=
    sslbpReadRemote32_reads chip ssmod hi hc haddr
  rw [atChannel_apply] at hread
  exact nv_reads_sslbp chip ssmod hi hc hsel hread

/-- The bytes of the argument are written. -/
lemma writeRemote_endsIn (hsel : sel i c = false) {addr args : ℕ} (haddr : addr < 2 ^ 16)
    (hargs : args < 3) (d : ℕ) {s : SserialState (SslbpBoard ρ)} (hs : SslbpHolds sel m s) :
    ∃ t, SslbpHolds sel (m.store i c addr ((word32 d).take (2 ^ args))) t ∧ t.rest = s.rest ∧
      EndsIn .hang (fun fuel => writeRemote (chip.bus ssmod.baseAddress) ssmod fuel i c addr args d)
        s (.ok ((), t)) := by
  have h := argument_endsIn chip ssmod hi hc
    (SslbpRemote.exec_writeWord ⟨m i c, sel i c⟩ d haddr hargs) hs
  rw [atChannel_self, hsel] at h
  exact h

/-! ### Bytes -/

/-- The variables before round `k` of `sslbp_read_remote_bytes`. -/
def copiedBytes (memory : ℕ → UInt8) (addr : ℕ) (size : ℤ) (k : ℕ) :
    ByteCopy (List UInt8) :=
  ⟨addr + k, loadBytes memory addr k, size - k⟩

variable (sel m) {addr room k : ℕ} (size : ℤ)

/-- A round that stores a byte. -/
lemma copyByte_sslbp (hk : k < room) (hin : addr + k < 2 ^ 16) (hsize : size - k ≠ 0)
    (hlo : -2 ^ 31 < size - k) (hhi : size - k < 2 ^ 31) :
    Reads .hang (SslbpHolds sel m) SserialState.rest
      (fun fuel => copyByte (chip.bus ssmod.baseAddress) ssmod (storeInRoom room) fuel i c
        (copiedBytes (m i c (sel i c)) addr size k))
      (if size - (k + 1 : ℕ) < 0 ∧ m i c (sel i c) (addr + k) = 0 then
        .inr (loadBytes (m i c (sel i c)) addr (k + 1))
      else .inl (copiedBytes (m i c (sel i c)) addr size (k + 1))) := by
  have hnext : toInt (size - k - 1) = size - (k + 1 : ℕ) := by
    rw [toInt_of_lt (by omega) (by omega)]
    push_cast
    omega
  have haddr : u32 (addr + k + 1) = addr + (k + 1) := u32_of_lt (by omega)
  simp only [copyByte, copiedBytes, hsize, if_false]
  refine (sslbpReadRemote8_reads chip ssmod hi hc hin).bind ?_
  refine (storeInRoom_reads _ (by rwa [length_loadBytes])).bind ?_
  simp only [hnext, haddr, ← loadBytes_succ]
  split_ifs
  · exact .pure _
  · exact .pure _

/-- A buffer that is large enough gets as many bytes as it is asked for. -/
lemma readRemoteBytes_reads {n : ℕ} (hn : n ≤ room) (haddr : addr + room ≤ 2 ^ 16) :
    Reads .hang (SslbpHolds sel m) SserialState.rest
      (fun fuel => sslbpReadRemoteBytes (chip.bus ssmod.baseAddress) ssmod fuel i c addr room n)
      (loadBytes (m i c (sel i c)) addr n) := by
  have hstart : (⟨addr, [], n⟩ : ByteCopy _) = copiedBytes (m i c (sel i c)) addr n 0 := by
    simp [copiedBytes, loadBytes]
  simp only [sslbpReadRemoteBytes, hstart]
  refine Reads.loopM (k := n) (x := copiedBytes (m i c (sel i c)) addr n) (fun k hk => ?_) ?_
  · have hround := copyByte_sslbp chip ssmod sel m hi hc n (hk.trans_le hn)
      (show addr + k < 2 ^ 16 by omega) (by omega) (by omega) (by omega)
    rwa [if_neg (by omega)] at hround
  · simp only [copyByte, copiedBytes, sub_self, if_true]
    exact .pure _

/-- A text that goes on. -/
lemma copyText_sslbp (hk : k < room) (haddr : addr + room + 1 ≤ 2 ^ 16)
    (hbyte : m i c (sel i c) (addr + k) ≠ 0) :
    Reads .hang (SslbpHolds sel m) SserialState.rest
      (fun fuel => copyByte (chip.bus ssmod.baseAddress) ssmod (storeInRoom room) fuel i c
        (copiedBytes (m i c (sel i c)) addr (-1) k))
      (.inl (copiedBytes (m i c (sel i c)) addr (-1) (k + 1))) := by
  have hround := copyByte_sslbp chip ssmod sel m hi hc (-1) hk
    (show addr + k < 2 ^ 16 by omega) (by omega) (by omega) (by omega)
  rwa [if_neg fun h => hbyte h.2] at hround

/-- A text that ends in time. -/
lemma readRemoteText_reads (haddr : addr + room + 1 ≤ 2 ^ 16)
    (hend : 0 ∈ loadBytes (m i c (sel i c)) addr room) :
    Reads .hang (SslbpHolds sel m) SserialState.rest
      (fun fuel => sslbpReadRemoteBytes (chip.bus ssmod.baseAddress) ssmod fuel i c addr room (-1))
      (cstr (loadBytes (m i c (sel i c)) addr room) ++ [0]) := by
  have hend' := mem_loadBytes.1 hend
  -- the loop breaks at the first zero byte
  obtain ⟨hk, hbyte⟩ := Nat.find_spec hend'
  have hbefore : ∀ j < Nat.find hend', m i c (sel i c) (addr + j) ≠ 0 := by
    intro j hj hzero
    exact Nat.find_min hend' hj ⟨hj.trans hk, hzero⟩
  generalize Nat.find hend' = k at hk hbyte hbefore
  have htext : cstr (loadBytes (m i c (sel i c)) addr room) ++ [0] =
      loadBytes (m i c (sel i c)) addr (k + 1) := by
    have hnone : 0 ∉ loadBytes (m i c (sel i c)) addr k := by
      rw [mem_loadBytes]
      rintro ⟨j, hj, hzero⟩
      exact hbefore j hj hzero
    have hsplit := loadBytes_add (m i c (sel i c)) addr (k + 1) (room - (k + 1))
    rw [Nat.add_sub_cancel' hk, loadBytes_succ, hbyte] at hsplit
    rw [hsplit, loadBytes_succ, hbyte, List.append_assoc, cstr_of_not_mem hnone]
    simp [cstr]
  rw [htext]
  have hstart : (⟨addr, [], -1⟩ : ByteCopy _) = copiedBytes (m i c (sel i c)) addr (-1) 0 := by
    simp [copiedBytes, loadBytes]
  simp only [sslbpReadRemoteBytes, hstart]
  refine Reads.loopM (x := copiedBytes (m i c (sel i c)) addr (-1))
    (fun j hj => copyText_sslbp chip ssmod sel m hi hc (hj.trans hk) haddr (hbefore j hj)) ?_
  have hround := copyByte_sslbp chip ssmod sel m hi hc (-1) hk
    (show addr + k < 2 ^ 16 by omega) (by omega) (by omega) (by omega)
  rwa [if_pos ⟨by omega, hbyte⟩] at hround

/-- A text that does not end in time. -/
lemma readRemoteText_error (haddr : addr + room + 1 ≤ 2 ^ 16)
    (hend : 0 ∉ loadBytes (m i c (sel i c)) addr room) {s : SserialState (SslbpBoard ρ)}
    (hs : SslbpHolds sel m s) :
    EndsIn .hang
      (fun fuel => sslbpReadRemoteBytes (chip.bus ssmod.baseAddress) ssmod fuel i c addr room (-1))
      s (.error (.undefined .outOfBounds)) := by
  have hbefore : ∀ j < room, m i c (sel i c) (addr + j) ≠ 0 := by
    intro j hj hzero
    exact hend (mem_loadBytes.2 ⟨j, hj, hzero⟩)
  have hstart : (⟨addr, [], -1⟩ : ByteCopy _) = copiedBytes (m i c (sel i c)) addr (-1) 0 := by
    simp [copiedBytes, loadBytes]
  simp only [sslbpReadRemoteBytes, hstart]
  refine Reads.loopM_error (k := room) (x := copiedBytes (m i c (sel i c)) addr (-1))
    (fun j hj => copyText_sslbp chip ssmod sel m hi hc hj haddr (hbefore j hj)) (fun t ht => ?_) hs
  have hsize : ¬ (-1 - (room : ℤ) = 0) := by omega
  simp only [copyByte, copiedBytes, hsize, if_false]
  refine (sslbpReadRemote8_reads chip ssmod hi hc (by omega)).bind_error (fun u _ => ?_) ht
  exact EndsIn.bind_error (storeInRoom_error _ (by simp) u)

end Reads

/-! ### Programs -/

/-- Between two requests the remotes have these memories, and everything else is as it was. -/
def SslbpRefines (rest : ρ × SserialInterface × (Fin hm2SserialMaxChannels → SserialDevice))
    (s : SserialState (SslbpBoard ρ)) (m : SslbpMemories) : Prop :=
  SslbpHolds (fun _ _ => false) m s ∧ s.rest = rest

section Serve

variable {rest : ρ × SserialInterface × (Fin hm2SserialMaxChannels → SserialDevice)}
  {s t : SserialState (SslbpBoard ρ)} {m m' : SslbpMemories} {α : Type}
  {p : ℕ → SserialM (SslbpBoard ρ) α} {f : α → SslbpReply}

/-- The outcome of a request on a board, and on the memories. -/
abbrev SslbpOutcome (rest : ρ × SserialInterface × (Fin hm2SserialMaxChannels → SserialDevice))
    (p : ℕ → SserialM (SslbpBoard ρ) SslbpReply) (s : SserialState (SslbpBoard ρ))
    (y : Except Fault (SslbpReply × SslbpMemories)) : Prop :=
  ∃ r, EndsIn .hang p s r ∧
    Corresponds (fun x y => x.1 = y.1 ∧ SslbpRefines rest x.2 y.2) Eq r y

/-- A request that reads. -/
lemma SslbpRefines.reads (hs : SslbpRefines rest s m) {a : α}
    (h : Reads .hang (SslbpHolds (fun _ _ => false) m) SserialState.rest p a) {reply : SslbpReply}
    (hreply : f a = reply) :
    SslbpOutcome rest (fun fuel => p fuel >>= fun x => pure (f x)) s (.ok (reply, m)) := by
  obtain ⟨t, ht, hrest, hend⟩ := h s hs.1
  exact ⟨_, hend.bind (endsIn_const (pure (f a)) t), .ok ⟨hreply, ht, hrest.trans hs.2⟩⟩

/-- A request that writes. -/
lemma SslbpRefines.writes {p : ℕ → SserialM (SslbpBoard ρ) Unit} (hs : SslbpRefines rest s m)
    (h : ∃ t, SslbpHolds (fun _ _ => false) m' t ∧ t.rest = s.rest ∧
      EndsIn .hang p s (.ok ((), t))) :
    SslbpOutcome rest (fun fuel => p fuel >>= fun _ => pure .done) s (.ok (.done, m')) := by
  obtain ⟨t, ht, hrest, hend⟩ := h
  exact ⟨_, hend.bind (endsIn_const (pure SslbpReply.done) t), .ok ⟨rfl, ht, hrest.trans hs.2⟩⟩

lemma word_one (memory : ℕ → UInt8) (addr : ℕ) :
    .word (memory addr).toNat = SslbpMemories.word memory addr 1 := by
  simp [SslbpMemories.word, loadBytes, wordOf]

/-- Each request does to the memories what it should. -/
lemma sslbpServe_outcome (chip : SslbpChip ρ) (ssmod : SserialModule) {q : SslbpRequest}
    (hq : q.Fits) (hs : SslbpRefines rest s m) :
    SslbpOutcome rest (fun fuel => sslbpServe (chip.bus ssmod.baseAddress) ssmod fuel q) s
      (SslbpMemories.exec chip.localByte q m) := by
  cases q with
  | readLocal8 i addr =>
      obtain ⟨hi, haddr⟩ := hq
      exact hs.reads (sslbpReadLocal8_reads chip ssmod hi haddr) (word_one _ _)
  | readLocal32 i addr =>
      obtain ⟨hi, haddr⟩ := hq
      exact hs.reads (sslbpReadLocal32_reads chip ssmod hi haddr) rfl
  | readRemote8 i c addr =>
      obtain ⟨hi, hc, haddr⟩ := hq
      exact hs.reads (sslbpReadRemote8_reads chip ssmod hi hc haddr) (word_one _ _)
  | readRemote16 i c addr =>
      obtain ⟨hi, hc, haddr⟩ := hq
      exact hs.reads (sslbpReadRemote16_reads chip ssmod hi hc haddr) rfl
  | readRemote32 i c addr =>
      obtain ⟨hi, hc, haddr⟩ := hq
      exact hs.reads (sslbpReadRemote32_reads chip ssmod hi hc haddr) rfl
  | readNvRemote16 i c addr =>
      obtain ⟨hi, hc, haddr⟩ := hq
      exact hs.reads (sslbpReadNvRemote16_reads chip ssmod hi hc rfl haddr) rfl
  | readNvRemote32 i c addr =>
      obtain ⟨hi, hc, haddr⟩ := hq
      exact hs.reads (sslbpReadNvRemote32_reads chip ssmod hi hc rfl haddr) rfl
  | readRemoteBytes i c addr room size =>
      obtain ⟨hi, hc, haddr, hsize⟩ := hq
      exact hs.reads (readRemoteBytes_reads chip ssmod _ m hi hc hsize haddr) rfl
  | readRemoteText i c addr room =>
      obtain ⟨hi, hc, haddr⟩ := hq
      by_cases hend : 0 ∈ loadBytes (m i c false) addr room
      · simp only [SslbpMemories.exec, if_pos hend]
        exact hs.reads (readRemoteText_reads chip ssmod _ m hi hc haddr hend) rfl
      · simp only [SslbpMemories.exec, if_neg hend]
        have herror := readRemoteText_error chip ssmod _ m hi hc haddr hend hs.1
        exact ⟨_, herror.bind_error, .error rfl⟩
  | writeRemote8 i c addr data =>
      obtain ⟨hi, hc, haddr⟩ := hq
      have hbytes : (word32 data.toNat).take (2 ^ lbpArgs8Bit) = [data] :=
        congrArg (fun b => [b]) (UInt8.ofNat_toNat)
      have h := writeRemote_endsIn chip ssmod hi hc rfl haddr (show lbpArgs8Bit < 3 by decide)
        data.toNat hs.1
      rw [hbytes] at h
      exact hs.writes h
  | writeRemote16 i c addr data =>
      obtain ⟨hi, hc, haddr⟩ := hq
      exact hs.writes (writeRemote_endsIn chip ssmod hi hc rfl (by omega)
        (show lbpArgs16Bit < 3 by decide) data.toNat hs.1)
  | writeRemote32 i c addr data =>
      obtain ⟨hi, hc, haddr⟩ := hq
      exact hs.writes (writeRemote_endsIn chip ssmod hi hc rfl (by omega)
        (show lbpArgs32Bit < 3 by decide) data.toNat hs.1)

end Serve

/-- **Smart serial is a set of memories.**  Whatever a program reads and writes, also where that
depends on what it has read, and however long the processors take over each command, the program
ends, with the results that the memories give.  Behind the channels are then the memories that
it has written, and all else is as it was. -/
theorem sslbp_refines {α : Type} (chip : SslbpChip ρ) (ssmod : SserialModule)
    {program : Client SslbpRequest SslbpReply α} (hprogram : program.Asks SslbpRequest.Fits)
    {s : SserialState (SslbpBoard ρ)} {m : SslbpMemories}
    (hs : ∀ i < 4, ∀ c < 8, (s.processor i).remotes c = ⟨m i c, false⟩) :
    ∃ r, EndsIn .hang
        (fun fuel => program.run (sslbpServe (chip.bus ssmod.baseAddress) ssmod fuel)) s r ∧
      Corresponds (fun x y => x.1 = y.1 ∧ SslbpRefines s.rest x.2 y.2) Eq r
        (program.run (SslbpMemories.exec chip.localByte) m) :=
  Client.endsIn_run (fun _ _ _ hq => sslbpServe_outcome chip ssmod hq) hprogram ⟨hs, rfl⟩

/-- A board whose processors take longer over each command than over the one before. -/
def tiringChip : SslbpChip Unit where
  localByte _ addr := addr.toUInt8
  delay i n := i + n
  others := ⟨fun _ _ => (0, ()), fun _ _ _ => ()⟩

/-- Processors whose remotes have cleared memories. -/
def clearedBoard : SslbpBoard Unit where
  processors _ := ⟨fun _ => ⟨fun _ _ => 0, false⟩, 0, fun _ => 0, fun _ => 0, none, 0⟩
  others := ()

/-- A program that writes a number, reads the low byte, and then reads what this byte is the
address of. -/
def followByte : Client SslbpRequest SslbpReply SslbpReply :=
  .ask (.writeRemote16 1 2 0x10 0x3411) fun _ => .ask (.readRemote8 1 2 0x10) fun
    | .word addr => .ask (.readRemote8 1 2 (addr % 0x100)) .done
    | reply => .done reply

lemma followByte_asks : followByte.Asks SslbpRequest.Fits := by
  refine .ask ⟨by decide, by decide, by decide⟩ fun _ =>
    .ask ⟨by decide, by decide, by decide⟩ fun reply => ?_
  cases reply with
  | word addr => exact .ask ⟨by decide, by decide, by omega⟩ .done
  | bytes l => exact .done _
  | done => exact .done _

theorem sslbp_refines_tiringChip :
    ∃ t, EndsIn .hang (fun fuel => followByte.run
      (sslbpServe (tiringChip.bus 0x5B00) ⟨0x5B00, 0x40⟩ fuel))
      ⟨clearedBoard, ⟨0, 0, 0, 0, 0, 0, 0, 0, 0, 0⟩, fun _ => ⟨0, 0, 0, [], []⟩⟩
      (.ok (.word 0x34, t)) := by
  obtain ⟨r, hend, hr⟩ := sslbp_refines tiringChip ⟨0x5B00, 0x40⟩ followByte_asks
    (s := ⟨clearedBoard, ⟨0, 0, 0, 0, 0, 0, 0, 0, 0, 0⟩, fun _ => ⟨0, 0, 0, [], []⟩⟩)
    (m := fun _ _ _ _ => 0) fun _ _ _ _ => rfl
  obtain ⟨⟨reply, t⟩, rfl, hreply, -⟩ := hr.of_ok'
  obtain rfl : reply = .word 0x34 := hreply.trans (by decide)
  exact ⟨t, hend⟩

end Mesaflash
