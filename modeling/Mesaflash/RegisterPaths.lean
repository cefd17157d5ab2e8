import Mesaflash.FpgaProgram
import Mesaflash.Hostmot2
import Mesaflash.Lib.Client
import Mesaflash.SpiWords

/-!
Seven links to the same registers.

`llio.read` and `llio.write` copy words between a buffer and registers of the firmware.  PCI
boards map the registers into memory.  Over an EPP bus the bytes of a word come one by one, or
four at once where the host has wide ports; over USB every word has a command of its own;
Ethernet, serial and SPI boards get one request for all words.

The first part is the pairs of functions and what there is at the other end of each link, the
second one that all links lead to the same registers, and so that whoever uses registers does
not see which link there is (`registers_sameOnAll`).
-/

namespace Mesaflash

open Lib

variable {σ : Type}

/-! ### Registers -/

section Words

variable (bus : RegisterBus σ) (stride : ℕ)

/-- Some words are read, one after the other. -/
def loadWords : ℕ → ℕ → σ → List UInt8 × σ
  | 0, _, s => ([], s)
  | n + 1, addr, s =>
    let (word, s) := bus.read addr s
    let (bytes, s) := loadWords n (addr + stride) s
    (word32 word ++ bytes, s)

/-- Words are written, one after the other. -/
def storeWords : List UInt8 → ℕ → σ → σ
  | b₀ :: b₁ :: b₂ :: b₃ :: bytes, addr, s =>
    storeWords bytes (addr + stride) (bus.write addr (wordOf [b₀, b₁, b₂, b₃]) s)
  | _, _, s => s

variable {bus stride}

@[simp] lemma length_loadWords (n addr : ℕ) (s : σ) :
    (loadWords bus stride n addr s).1.length = 4 * n := by
  induction n generalizing addr s with
  | zero => rfl
  | succ n ih =>
      simp only [loadWords, List.length_append, ih]
      simp [word32, word16]
      omega

end Words

/-! ### PCI -/

section Pci

variable (bus : RegisterBus σ)

/-- `pci_read`.  `memcpy32` reads every register once. -/
def pciRead (addr size : ℕ) (s : σ) : Except Fault (ℤ × List UInt8 × σ) :=
  if size % 4 ≠ 0 then .error .abort
  else
    let (buffer, s) := loadWords bus 4 (size / 4) addr s
    .ok (0, buffer, s)

/-- `pci_write`. -/
def pciWrite (addr : ℕ) (buffer : List UInt8) (s : σ) : Except Fault (ℤ × σ) :=
  if buffer.length % 4 ≠ 0 then .error .abort
  else .ok (0, storeWords bus 4 buffer addr s)

end Pci

/-! ### EPP -/

/-- `EPP_ADDR_AUTOINCREMENT`. -/
def eppAddrAutoincrement : ℕ := 0x8000

section Epp

variable (io : IoPorts σ) (board : FpgaBoard)

/-- `epp_read_status`. -/
def eppReadStatus (dev : σ) : UInt8 × σ := io.inb (board.baseLo + eppStatusOffset) dev

/-- `epp_write_status`. -/
def eppWriteStatus (status : UInt8) (dev : σ) : σ :=
  io.outb status (board.baseLo + eppStatusOffset) dev

/-- `epp_check_for_timeout`. -/
def eppCheckForTimeout (dev : σ) : UInt8 × σ :=
  let (status, dev) := eppReadStatus io board dev
  (status &&& 0x01, dev)

/-- `epp_clear_timeout`. -/
def eppClearTimeout (dev : σ) : ℤ × σ :=
  let (timeout, dev) := eppCheckForTimeout io board dev
  if timeout = 0 then (1, dev)
  else
    let (_, dev) := eppReadStatus io board dev
    let (status, dev) := eppReadStatus io board dev
    let dev := eppWriteStatus io board (status ||| 0x01) dev
    let dev := eppWriteStatus io board (status &&& 0xFE) dev
    let (timeout, dev) := eppCheckForTimeout io board dev
    if timeout ≠ 0 then (0, dev) else (1, dev)

/-- `epp_addr16`. -/
def eppAddr16 (addr : ℕ) (dev : σ) : σ :=
  io.outb (hiByte addr) (board.baseLo + eppAddressOffset)
    (io.outb (loByte addr) (board.baseLo + eppAddressOffset) dev)

/-- `epp_read8`. -/
def eppRead8 (dev : σ) : UInt8 × σ := io.inb (board.baseLo + eppDataOffset) dev

/-- `epp_write8`. -/
def eppWrite8 (data : UInt8) (dev : σ) : σ := io.outb data (board.baseLo + eppDataOffset) dev

variable (eppWide : Bool)

/-- `epp_read32`, as the bytes that are stored in the buffer. -/
def eppRead32 (dev : σ) : List UInt8 × σ :=
  if eppWide then
    let (data, dev) := io.inl (board.baseLo + eppDataOffset) dev
    (word32 data.toNat, dev)
  else
    let (a, dev) := eppRead8 io board dev
    let (b, dev) := eppRead8 io board dev
    let (c, dev) := eppRead8 io board dev
    let (d, dev) := eppRead8 io board dev
    ([a, b, c, d], dev)

/-- `epp_write32`, with the bytes of the word in the buffer. -/
def eppWrite32 (a b c d : UInt8) (dev : σ) : σ :=
  if eppWide then io.outl (UInt32.ofNat (wordOf [a, b, c, d])) (board.baseLo + eppDataOffset) dev
  else
    eppWrite8 io board d (eppWrite8 io board c (eppWrite8 io board b (eppWrite8 io board a dev)))

/-- The loops of `epp_read`: words as long as there are four bytes, and then bytes. -/
def eppReadLoops : ℕ → σ → List UInt8 × σ
  | n + 4, dev =>
    let (word, dev) := eppRead32 io board eppWide dev
    let (buffer, dev) := eppReadLoops n dev
    (word ++ buffer, dev)
  | n + 1, dev =>
    let (data, dev) := eppRead8 io board dev
    let (buffer, dev) := eppReadLoops n dev
    (data :: buffer, dev)
  | 0, dev => ([], dev)

/-- The loops of `epp_write`. -/
def eppWriteLoops : List UInt8 → σ → σ
  | a :: b :: c :: d :: buffer, dev =>
    eppWriteLoops buffer (eppWrite32 io board eppWide a b c d dev)
  | a :: buffer, dev => eppWriteLoops buffer (eppWrite8 io board a dev)
  | [], dev => dev

/-- The end of `epp_read` and `epp_write`. -/
def eppFinish (dev : σ) : ℤ × σ :=
  let (timeout, dev) := eppCheckForTimeout io board dev
  if timeout ≠ 0 then (0, (eppClearTimeout io board dev).2) else (1, dev)

/-- `epp_read`. -/
def eppRead (addr size : ℕ) (dev : σ) : ℤ × List UInt8 × σ :=
  let (buffer, dev) :=
    eppReadLoops io board eppWide size (eppAddr16 io board (addr ||| eppAddrAutoincrement) dev)
  let (result, dev) := eppFinish io board dev
  (result, buffer, dev)

/-- `epp_write`. -/
def eppWrite (addr : ℕ) (buffer : List UInt8) (dev : σ) : ℤ × σ :=
  eppFinish io board
    (eppWriteLoops io board eppWide buffer
      (eppAddr16 io board (addr ||| eppAddrAutoincrement) dev))

end Epp

/-- A board on an EPP bus: its address register, and the bytes of the word that is being read
or written. -/
structure EppBoard (σ : Type) where
  addr : ℕ
  lanes : List UInt8
  regs : σ

namespace EppBoard

variable (bus : RegisterBus σ)

/-- An address cycle.  The address register gets the low byte first. -/
def addrByte (b : UInt8) (s : EppBoard σ) : EppBoard σ :=
  { s with addr := s.addr / 0x100 % 0x100 + 0x100 * b.toNat }

/-- The address that follows in the address register. -/
def next (s : EppBoard σ) : ℕ :=
  if s.addr / 0x8000 = 1 then 0x8000 + (s.addr + 1) % 0x8000 else s.addr

/-- A data cycle that reads.  With the first byte of a word, the register is read. -/
def readByte (s : EppBoard σ) : UInt8 × EppBoard σ :=
  let addr := s.addr % 0x8000
  if addr % 4 = 0 then
    let (word, regs) := bus.read addr s.regs
    ((word32 word).getD 0 0, ⟨s.next, word32 word, regs⟩)
  else (s.lanes.getD (addr % 4) 0, { s with addr := s.next })

/-- A data cycle that writes.  With the last byte of a word, the register is written. -/
def writeByte (b : UInt8) (s : EppBoard σ) : EppBoard σ :=
  let addr := s.addr % 0x8000
  let lanes := s.lanes.take (addr % 4) ++ [b]
  if addr % 4 = 3 then ⟨s.next, lanes, bus.write (addr - 3) (wordOf lanes) s.regs⟩
  else ⟨s.next, lanes, s.regs⟩

/-- Four data cycles that read. -/
def readLanes (s : EppBoard σ) : List UInt8 × EppBoard σ :=
  let (a, s) := s.readByte bus
  let (b, s) := s.readByte bus
  let (c, s) := s.readByte bus
  let (d, s) := s.readByte bus
  ([a, b, c, d], s)

end EppBoard

/-- The ports of a host with a board on its EPP bus that answers in time. -/
def eppPorts (bus : RegisterBus σ) (board : FpgaBoard) : IoPorts (EppBoard σ) where
  inb port s := if port = board.baseLo + eppDataOffset then s.readByte bus else (0, s)
  inl port s :=
    if port = board.baseLo + eppDataOffset then
      (UInt32.ofNat (wordOf (s.readLanes bus).1), (s.readLanes bus).2)
    else (0, s)
  outb b port s :=
    if port = board.baseLo + eppDataOffset then s.writeByte bus b
    else if port = board.baseLo + eppAddressOffset then s.addrByte b
    else s
  outl w port s :=
    if port = board.baseLo + eppDataOffset then
      (word32 w.toNat).foldl (fun s b => s.writeByte bus b) s
    else s

/-! ### USB -/

/-- The serial device of a USB board, which can also be read. -/
structure LbpPort (σ : Type) extends SerialDev σ where
  /-- `read`: the bytes that come. -/
  read : ℕ → σ → List UInt8 × σ

section Usb

variable (port : LbpPort σ)

/-- `LBP_CMD_READ | LBP_ARGS_32BIT`. -/
def lbpCmdRead32 : UInt8 := 0b01000000 ||| 0b00000000 ||| 0b00000100 ||| 0b00000010

/-- `LBP_CMD_WRITE | LBP_ARGS_32BIT`. -/
def lbpCmdWrite32 : UInt8 := 0b01000000 ||| 0b00100000 ||| 0b00000100 ||| 0b00000010

/-- `lbp_recv_checked`. -/
def lbpRecvChecked (size : ℕ) (dev : σ) : Except Fault (List UInt8 × σ) :=
  let (bytes, dev) := port.read size dev
  if bytes.length = size then .ok (bytes, dev) else .error .abort

/-- `lbp_read`, whose field `addr_hi` holds the low byte. -/
def LbpPort.lbpRead (addr : ℕ) (dev : σ) : Except Fault (List UInt8 × σ) := do
  let dev ← lbpSendChecked port.toSerialDev [lbpCmdRead32, loByte addr, hiByte addr] dev
  lbpRecvChecked port 4 dev

/-- `lbp_write`. -/
def LbpPort.lbpWrite (addr : ℕ) (data : List UInt8) (dev : σ) : Except Fault σ :=
  lbpSendChecked port.toSerialDev ([lbpCmdWrite32, loByte addr, hiByte addr] ++ data) dev

/-- The loop of `usb_read`, which stores whole words in the buffer. -/
def usbReadLoop : ℕ → ℕ → σ → Except Fault (List UInt8 × σ)
  | _, 0, dev => .ok ([], dev)
  | addr, n + 4, dev => do
    let (word, dev) ← port.lbpRead (addr &&& 0xFFFF) dev
    let (buffer, dev) ← usbReadLoop (addr + 4) n dev
    return (word ++ buffer, dev)
  | addr, _ + 1, dev => do
    let _ ← port.lbpRead (addr &&& 0xFFFF) dev
    throw (.undefined .bufferOverflow)

/-- `usb_read`. -/
def usbRead (addr size : ℕ) (dev : σ) : Except Fault (ℤ × List UInt8 × σ) := do
  let (buffer, dev) ← usbReadLoop port addr size dev
  return (0, buffer, dev)

/-- The loop of `usb_write`, which takes whole words from the buffer. -/
def usbWriteLoop : ℕ → List UInt8 → σ → Except Fault σ
  | _, [], dev => .ok dev
  | addr, a :: b :: c :: d :: buffer, dev => do
    let dev ← port.lbpWrite (addr &&& 0xFFFF) [a, b, c, d] dev
    usbWriteLoop (addr + 4) buffer dev
  | _, _, _ => .error (.undefined .outOfBounds)

/-- `usb_write`. -/
def usbWrite (addr : ℕ) (buffer : List UInt8) (dev : σ) : Except Fault (ℤ × σ) := do
  let dev ← usbWriteLoop port addr buffer dev
  return (0, dev)

end Usb

/-- A board that takes bytes and delivers bytes: what it has of a command, and what it has
still to deliver. -/
structure LbpBoard (σ : Type) where
  taken : List UInt8
  out : List UInt8
  regs : σ

/-- A byte comes.  A command is executed with its last byte. -/
def LbpBoard.takeByte (bus : RegisterBus σ) (s : LbpBoard σ) (b : UInt8) : LbpBoard σ :=
  match s.taken ++ [b] with
  | [c, a₀, a₁] =>
    if c = lbpCmdRead32 then
      let (word, regs) := bus.read (wordOf [a₀, a₁]) s.regs
      ⟨[], s.out ++ word32 word, regs⟩
    else { s with taken := [c, a₀, a₁] }
  | [c, a₀, a₁, d₀, d₁, d₂, d₃] =>
    if c = lbpCmdWrite32 then
      ⟨[], s.out, bus.write (wordOf [a₀, a₁]) (wordOf [d₀, d₁, d₂, d₃]) s.regs⟩
    else { s with taken := [c, a₀, a₁, d₀, d₁, d₂, d₃] }
  | taken => { s with taken := taken }

/-- The serial device of a USB board. -/
def lbpBoardPort (bus : RegisterBus σ) : LbpPort (LbpBoard σ) where
  write bytes s := (bytes.length, bytes.foldl (LbpBoard.takeByte bus) s)
  write_nil _ := rfl
  read n s := (s.out.take n, { s with out := s.out.drop n })

/-! ### Requests -/

section Requests

variable (bus : RegisterBus σ)

/-- A request is served. -/
def serveRequest (req : Request) (data : List UInt8) (s : σ) : List UInt8 × σ :=
  let stride := if req.autoInc then 4 else 0
  if req.write then ([], storeWords bus stride (data.take (4 * req.count)) req.addr s)
  else loadWords bus stride req.count req.addr s

/-- A board behind a link: what it has still to deliver. -/
structure LinkBoard (σ : Type) where
  out : List UInt8
  regs : σ

/-- The packets of a board that serves requests for registers. -/
def lbp16Link : Lbp16Access (LinkBoard σ) where
  sendPacket d s :=
    match lbp16Request d with
    | some req =>
      let (reply, regs) := serveRequest bus req (d.drop 4) s.regs
      (d.length, ⟨s.out ++ reply, regs⟩)
    | none => (d.length, s)
  recvPacket n s := (s.out.take n, { s with out := s.out.drop n })

/-- A transfer over SPI.  While the header comes in there is nothing to deliver. -/
def spiLink : SpiIoctl σ where
  transfer bytes s :=
    match spiRequest bytes with
    | some req =>
      let (reply, s) := serveRequest bus req (reorderBuffer req.count (bytes.drop 4)) s
      let sent := List.replicate 4 0xFF ++ reorderBuffer req.count reply
      (bytes.length, (sent ++ List.replicate bytes.length 0xFF).take bytes.length, s)
    | none => (bytes.length, List.replicate bytes.length 0xFF, s)

end Requests

/-! ### An EPP bus leads to the registers -/

lemma hiByte_toNat (n : ℕ) : (hiByte n).toNat = n / 0x100 % 0x100 := rfl

lemma loByte_toNat (n : ℕ) : (loByte n).toNat = n % 0x100 := rfl

/-- The bytes of a word survive the way through a wide port. -/
lemma word32_ofNat (a b c d : UInt8) :
    word32 (UInt32.ofNat (wordOf [a, b, c, d])).toNat = [a, b, c, d] := by
  have ha := a.toNat_lt
  have hb := b.toNat_lt
  have hc := c.toNat_lt
  have hd := d.toNat_lt
  have hlt : wordOf [a, b, c, d] < 2 ^ 32 := by
    simp only [wordOf]
    omega
  rw [UInt32.toNat_ofNat', Nat.mod_eq_of_lt hlt, word32_wordOf]

namespace EppBoard

variable {bus : RegisterBus σ} {s : EppBoard σ} {addr : ℕ}

/-- Two address cycles set the address register, whatever was there. -/
lemma addrByte_addrByte (haddr : addr < 0x10000) (s : EppBoard σ) :
    (s.addrByte (loByte addr)).addrByte (hiByte addr) = { s with addr := addr } := by
  have hword : ((s.addr / 0x100 % 0x100 + 0x100 * (loByte addr).toNat) / 0x100 % 0x100 +
      0x100 * (hiByte addr).toNat) = addr := by
    rw [loByte_toNat, hiByte_toNat]
    omega
  rw [addrByte, addrByte]
  exact congrArg (fun addr => ({ s with addr } : EppBoard σ)) hword

lemma next_eq (h : s.addr = 0x8000 + addr) (haddr : addr < 0x8000) :
    s.next = 0x8000 + (addr + 1) % 0x8000 := by
  rw [next, if_pos (by omega), h]
  omega

lemma mod_addr (h : s.addr = 0x8000 + addr) (haddr : addr < 0x8000) : s.addr % 0x8000 = addr := by
  omega

/-- Four data cycles read a register. -/
lemma readLanes_eq (h : s.addr = 0x8000 + addr) (haddr : addr < 0x8000) (hword : addr % 4 = 0) :
    s.readLanes bus = (word32 (bus.read addr s.regs).1,
      ⟨0x8000 + (addr + 4) % 0x8000, word32 (bus.read addr s.regs).1,
        (bus.read addr s.regs).2⟩) := by
  have hfirst : s.readByte bus = ((word32 (bus.read addr s.regs).1).getD 0 0,
      ⟨0x8000 + (addr + 1), word32 (bus.read addr s.regs).1, (bus.read addr s.regs).2⟩) := by
    rw [readByte, mod_addr h haddr, if_pos hword, next_eq h haddr,
      Nat.mod_eq_of_lt (show addr + 1 < 0x8000 by omega)]
  have hlane : ∀ {i : ℕ} {t : EppBoard σ}, t.addr = 0x8000 + (addr + i) → 0 < i → i < 4 →
      t.readByte bus = (t.lanes.getD i 0, { t with addr := 0x8000 + (addr + i + 1) % 0x8000 }) := by
    intro i t ht hpos hi
    have hlt : addr + i < 0x8000 := by omega
    rw [readByte, mod_addr ht hlt, if_neg (by omega), next_eq ht hlt,
      show (addr + i) % 4 = i by omega]
  have hstep : ∀ i < 3, (addr + i + 1) % 0x8000 = addr + (i + 1) := fun i hi =>
    Nat.mod_eq_of_lt (by omega)
  rw [readLanes, hfirst]
  dsimp only
  rw [hlane rfl (by decide) (by decide)]
  dsimp only
  rw [hstep 1 (by decide), hlane rfl (by decide) (by decide)]
  dsimp only
  rw [hstep 2 (by decide), hlane rfl (by decide) (by decide)]
  rfl

/-- Four data cycles write a register. -/
lemma writeLanes_eq (h : s.addr = 0x8000 + addr) (haddr : addr < 0x8000) (hword : addr % 4 = 0)
    (a b c d : UInt8) :
    [a, b, c, d].foldl (fun s b => s.writeByte bus b) s =
      ⟨0x8000 + (addr + 4) % 0x8000, [a, b, c, d],
        bus.write addr (wordOf [a, b, c, d]) s.regs⟩ := by
  have hlane : ∀ {i : ℕ} {t : EppBoard σ} (x : UInt8), t.addr = 0x8000 + (addr + i) → i < 3 →
      t.writeByte bus x = ⟨0x8000 + (addr + (i + 1)), t.lanes.take i ++ [x], t.regs⟩ := by
    intro i t x ht hi
    have hlt : addr + i < 0x8000 := by omega
    rw [writeByte, mod_addr ht hlt, if_neg (by omega), next_eq ht hlt,
      show (addr + i) % 4 = i by omega,
      Nat.mod_eq_of_lt (show addr + i + 1 < 0x8000 by omega), Nat.add_assoc]
  have hlast : ∀ {t : EppBoard σ}, t.addr = 0x8000 + (addr + 3) → t.writeByte bus d =
      ⟨0x8000 + (addr + 4) % 0x8000, t.lanes.take 3 ++ [d],
        bus.write addr (wordOf (t.lanes.take 3 ++ [d])) t.regs⟩ := by
    intro t ht
    have hlt : addr + 3 < 0x8000 := by omega
    rw [writeByte, mod_addr ht hlt, show (addr + 3) % 4 = 3 by omega, if_pos rfl, next_eq ht hlt,
      Nat.add_sub_cancel]
  simp only [List.foldl_cons, List.foldl_nil]
  rw [hlane (i := 0) a h (by decide), hlane b rfl (by decide), hlane c rfl (by decide), hlast rfl]
  rfl

end EppBoard

section EppRefines

variable (bus : RegisterBus σ) (board : FpgaBoard) (eppWide : Bool)

lemma eppRead32_ports (s : EppBoard σ) :
    eppRead32 (eppPorts bus board) board eppWide s = s.readLanes bus := by
  cases eppWide with
  | false => simp [eppRead32, eppRead8, eppPorts, EppBoard.readLanes]
  | true =>
      simp only [eppRead32, eppPorts, if_true, EppBoard.readLanes]
      rw [word32_ofNat]

lemma eppWrite32_ports (a b c d : UInt8) (s : EppBoard σ) :
    eppWrite32 (eppPorts bus board) board eppWide a b c d s =
      [a, b, c, d].foldl (fun s b => s.writeByte bus b) s := by
  cases eppWide with
  | false => simp [eppWrite32, eppWrite8, eppPorts]
  | true =>
      simp only [eppWrite32, eppPorts, if_true]
      rw [word32_ofNat]

lemma eppAddr16_ports {addr : ℕ} (haddr : addr ≤ 0x8000) (s : EppBoard σ) :
    eppAddr16 (eppPorts bus board) board (addr ||| eppAddrAutoincrement) s =
      { s with addr := 0x8000 + addr % 0x8000 } := by
  have hne : ¬ board.baseLo + eppAddressOffset = board.baseLo + eppDataOffset := by
    simp [eppAddressOffset, eppDataOffset]
  have hor : addr ||| eppAddrAutoincrement = 0x8000 + addr % 0x8000 := by
    rcases Nat.eq_or_lt_of_le haddr with rfl | hlt
    · rfl
    · rw [Nat.or_comm, Nat.mod_eq_of_lt hlt]
      exact (Nat.two_pow_add_eq_or_of_lt (show addr < 2 ^ 15 from hlt) 1).symm
  simp only [eppAddr16, eppPorts, if_neg hne, if_true, hor]
  exact EppBoard.addrByte_addrByte (by omega) s

/-- The board answers in time. -/
lemma eppFinish_ports (s : EppBoard σ) : eppFinish (eppPorts bus board) board s = (1, s) := by
  have hne : ¬ board.baseLo + eppStatusOffset = board.baseLo + eppDataOffset := by
    simp [eppStatusOffset, eppDataOffset]
  have hstatus : (eppPorts bus board).inb (board.baseLo + eppStatusOffset) s = (0, s) := if_neg hne
  simp [eppFinish, eppCheckForTimeout, eppReadStatus, hstatus]

/-- The loops of `epp_read` read words. -/
lemma eppReadLoops_ports {n addr : ℕ} (hword : addr % 4 = 0) (htop : addr + 4 * n ≤ 0x8000)
    {s : EppBoard σ} (h : s.addr = 0x8000 + addr % 0x8000) :
    ∃ s', eppReadLoops (eppPorts bus board) board eppWide (4 * n) s =
      ((loadWords bus 4 n addr s.regs).1, s') ∧ s'.regs = (loadWords bus 4 n addr s.regs).2 := by
  induction n generalizing addr s with
  | zero => exact ⟨s, rfl, rfl⟩
  | succ n ih =>
      have haddr : addr < 0x8000 := by omega
      rw [Nat.mod_eq_of_lt haddr] at h
      have hnext : (addr + 4) % 4 = 0 := by omega
      obtain ⟨s', hloop, hregs⟩ := ih
        (s := ⟨0x8000 + (addr + 4) % 0x8000, word32 (bus.read addr s.regs).1,
          (bus.read addr s.regs).2⟩) hnext (by omega) rfl
      refine ⟨s', ?_, hregs⟩
      rw [show 4 * (n + 1) = 4 * n + 4 from rfl, eppReadLoops, eppRead32_ports,
        EppBoard.readLanes_eq h haddr hword]
      dsimp only
      rw [hloop]
      rfl

/-- The loops of `epp_write` write words. -/
lemma eppWriteLoops_ports {n addr : ℕ} (hword : addr % 4 = 0) (htop : addr + 4 * n ≤ 0x8000)
    {buffer : List UInt8} (hlen : buffer.length = 4 * n) {s : EppBoard σ}
    (h : s.addr = 0x8000 + addr % 0x8000) :
    (eppWriteLoops (eppPorts bus board) board eppWide buffer s).regs =
      storeWords bus 4 buffer addr s.regs := by
  induction n generalizing addr s buffer with
  | zero =>
      obtain rfl := List.length_eq_zero_iff.1 hlen
      rfl
  | succ n ih =>
      have haddr : addr < 0x8000 := by omega
      rw [Nat.mod_eq_of_lt haddr] at h
      rcases buffer with _ | ⟨a, _ | ⟨b, _ | ⟨c, _ | ⟨d, buffer⟩⟩⟩⟩
      · simp at hlen
      · simp at hlen; omega
      · simp at hlen; omega
      · simp at hlen; omega
      · have hrest : buffer.length = 4 * n := by
          simp only [List.length_cons] at hlen
          omega
        rw [eppWriteLoops, eppWrite32_ports, EppBoard.writeLanes_eq h haddr hword]
        exact ih (by omega) (by omega) hrest rfl

end EppRefines

/-! ### USB leads to the registers -/

section UsbRefines

variable (bus : RegisterBus σ)

/-- A board that is waiting for a command. -/
def LbpBoard.idle (s : σ) : LbpBoard σ := ⟨[], [], s⟩

lemma and_0xFFFF {addr : ℕ} (haddr : addr < 0x10000) : addr &&& 0xFFFF = addr := by
  rw [show 0xFFFF = 2 ^ 16 - 1 from rfl, Nat.and_two_pow_sub_one_eq_mod]
  exact Nat.mod_eq_of_lt haddr

lemma lbpRead_idle {addr : ℕ} (haddr : addr < 0x10000) (s : σ) :
    (lbpBoardPort bus).lbpRead (addr &&& 0xFFFF) (.idle s) =
      .ok (word32 (bus.read addr s).1, .idle (bus.read addr s).2) := by
  have hword : wordOf [loByte addr, hiByte addr] = addr := wordOf_word16 haddr
  have hread : (lbpBoardPort bus).lbpRead addr (.idle s) =
      .ok (word32 (bus.read (wordOf [loByte addr, hiByte addr]) s).1,
        .idle (bus.read (wordOf [loByte addr, hiByte addr]) s).2) := rfl
  rw [and_0xFFFF haddr, hread, hword]

lemma lbpWrite_idle {addr : ℕ} (haddr : addr < 0x10000) (a b c d : UInt8) (s : σ) :
    (lbpBoardPort bus).lbpWrite (addr &&& 0xFFFF) [a, b, c, d] (.idle s) =
      .ok (.idle (bus.write addr (wordOf [a, b, c, d]) s)) := by
  have hword : wordOf [loByte addr, hiByte addr] = addr := wordOf_word16 haddr
  have hwrite : (lbpBoardPort bus).lbpWrite addr [a, b, c, d] (.idle s) =
      .ok (.idle (bus.write (wordOf [loByte addr, hiByte addr]) (wordOf [a, b, c, d]) s)) := rfl
  rw [and_0xFFFF haddr, hwrite, hword]

lemma usbReadLoop_idle {n addr : ℕ} (htop : addr + 4 * n ≤ 0x10000) (s : σ) :
    usbReadLoop (lbpBoardPort bus) addr (4 * n) (.idle s) =
      .ok ((loadWords bus 4 n addr s).1, .idle (loadWords bus 4 n addr s).2) := by
  induction n generalizing addr s with
  | zero => rfl
  | succ n ih =>
      rw [show 4 * (n + 1) = 4 * n + 4 from rfl, usbReadLoop, lbpRead_idle bus (by omega), ok_bind]
      dsimp only
      rw [ih (by omega)]
      rfl

lemma usbWriteLoop_idle {n addr : ℕ} (htop : addr + 4 * n ≤ 0x10000) {buffer : List UInt8}
    (hlen : buffer.length = 4 * n) (s : σ) :
    usbWriteLoop (lbpBoardPort bus) addr buffer (.idle s) =
      .ok (.idle (storeWords bus 4 buffer addr s)) := by
  induction n generalizing addr buffer s with
  | zero =>
      obtain rfl := List.length_eq_zero_iff.1 hlen
      rfl
  | succ n ih =>
      rcases buffer with _ | ⟨a, _ | ⟨b, _ | ⟨c, _ | ⟨d, buffer⟩⟩⟩⟩
      · simp at hlen
      · simp at hlen; omega
      · simp at hlen; omega
      · simp at hlen; omega
      · have hrest : buffer.length = 4 * n := by
          simp only [List.length_cons] at hlen
          omega
        rw [usbWriteLoop, lbpWrite_idle bus (by omega), ok_bind, ih (by omega) hrest]
        rfl

end UsbRefines

/-! ### Requests lead to the registers -/

section RequestsRefine

variable (bus : RegisterBus σ) {n addr : ℕ} (hn : n < 0x80) (haddr : addr < 0x10000) (s : σ)

lemma serveRequest_read (data : List UInt8) :
    serveRequest bus ⟨false, addr, true, n⟩ data s = loadWords bus 4 n addr s := rfl

lemma serveRequest_write {data : List UInt8} (hlen : data.length = 4 * n) :
    serveRequest bus ⟨true, addr, true, n⟩ data s = ([], storeWords bus 4 data addr s) := by
  rw [serveRequest, List.take_of_length_le hlen.le]
  rfl

/-- A board with nothing to deliver. -/
def LinkBoard.idle (s : σ) : LinkBoard σ := ⟨[], s⟩

include hn haddr

lemma lbp16ReadRegs_idle :
    lbp16ReadRegs (lbp16Link bus) (cmdReadHostmot2Addr32Incr n) addr (4 * n) (.idle s) =
      .ok (0, (loadWords bus 4 n addr s).1, .idle (loadWords bus 4 n addr s).2) := by
  have hreq := lbp16Request_read haddr n []
  rw [List.append_nil, Nat.mod_eq_of_lt hn] at hreq
  have hlen : (loadWords bus 4 n addr s).1.length ≤ 4 * n := (length_loadWords n addr s).le
  simp only [lbp16ReadRegs, lbp16Link, LinkBoard.idle, hreq, serveRequest_read, List.nil_append,
    List.take_of_length_le hlen, List.drop_of_length_le hlen]

lemma lbp16WriteRegs_idle {buffer : List UInt8} (hlen : buffer.length = 4 * n) :
    lbp16WriteRegs (lbp16Link bus) (cmdWriteHostmot2Addr32Incr n) addr buffer (.idle s) =
      .ok (0, .idle (storeWords bus 4 buffer addr s)) := by
  have hreq := lbp16Request_write haddr n buffer
  rw [Nat.mod_eq_of_lt hn] at hreq
  have hroom : ¬ lbp16MaxPacketDataSize * 8 < buffer.length := by
    rw [hlen, lbp16MaxPacketDataSize]
    omega
  have hdata : (initPacket4 (cmdWriteHostmot2Addr32Incr n) addr ++ buffer).drop 4 = buffer := rfl
  rw [lbp16WriteRegs, if_neg hroom]
  simp only [lbp16Link, LinkBoard.idle, hreq, hdata, serveRequest_write bus s hlen, List.nil_append]

lemma ethRead_idle : ethRead (lbp16Link bus) addr (4 * n) (.idle s) =
    .ok (0, (loadWords bus 4 n addr s).1, .idle (loadWords bus 4 n addr s).2) := by
  rw [ethRead, Nat.mul_div_cancel_left n (by decide), if_neg, lbp16ReadRegs_idle bus hn haddr]
  rw [lbp16MaxPacketDataSize]
  omega

lemma ethWrite_idle {buffer : List UInt8} (hlen : buffer.length = 4 * n) :
    ethWrite (lbp16Link bus) addr buffer (.idle s) =
      .ok (0, .idle (storeWords bus 4 buffer addr s)) := by
  rw [ethWrite, hlen, Nat.mul_div_cancel_left n (by decide), if_neg,
    lbp16WriteRegs_idle bus hn haddr s hlen]
  rw [lbp16MaxPacketDataSize]
  omega

lemma serialRead_idle : serialRead (lbp16Link bus) addr (4 * n) (.idle s) =
    .ok (0, (loadWords bus 4 n addr s).1, .idle (loadWords bus 4 n addr s).2) := by
  rw [serialRead, Nat.mul_div_cancel_left n (by decide), lbp16ReadRegs_idle bus hn haddr]

lemma serialWrite_idle {buffer : List UInt8} (hlen : buffer.length = 4 * n) :
    serialWrite (lbp16Link bus) addr buffer (.idle s) =
      .ok (0, .idle (storeWords bus 4 buffer addr s)) := by
  rw [serialWrite, hlen, Nat.mul_div_cancel_left n (by decide),
    lbp16WriteRegs_idle bus hn haddr s hlen]

end RequestsRefine

lemma reorderBuffer_reorderBuffer (n : ℕ) (bytes : List UInt8) :
    reorderBuffer n (reorderBuffer n bytes) = bytes := by
  induction n generalizing bytes with
  | zero => rfl
  | succ n ih =>
      rcases bytes with _ | ⟨b₀, _ | ⟨b₁, _ | ⟨b₂, _ | ⟨b₃, rest⟩⟩⟩⟩
      · rfl
      · rfl
      · rfl
      · rfl
      · simp only [reorderBuffer, ih rest]

section SpiRefines

variable (bus : RegisterBus σ) {n addr : ℕ} (hn : n < 0x80) (haddr : addr < 0x10000) (s : σ)

include hn haddr

lemma spiRead_link : spiRead (spiLink bus) addr (4 * n) s =
    .ok (0, (loadWords bus 4 n addr s).1, (loadWords bus 4 n addr s).2) := by
  have hreq : spiRequest (reorderBuffer 1 (word32 (readCommand addr n) ++
      List.replicate (4 * n) 0)) = some ⟨false, addr, true, n⟩ := spiRequest_read haddr hn _ 0
  have hlen : (reorderBuffer 1 (word32 (readCommand addr n) ++
      List.replicate (4 * n) 0)).length = 4 + 4 * n := by
    rw [length_reorderBuffer, List.length_append, List.length_replicate]
    rfl
  have hreply : (List.replicate 4 0xFF ++
      reorderBuffer n (loadWords bus 4 n addr s).1).length = 4 + 4 * n := by
    rw [List.length_append, length_reorderBuffer, length_loadWords, List.length_replicate]
  rw [spiRead, if_neg (by omega), Nat.mul_div_cancel_left n (by decide)]
  simp only [spiLink, hreq, hlen, serveRequest_read, List.take_left' hreply]
  rw [if_neg (by omega), Nat.add_comm 1 n]
  refine congrArg (fun bytes => Except.ok (0, bytes, (loadWords bus 4 n addr s).2)) ?_
  -- the answer to the header is dropped, and the words are turned around again
  exact reorderBuffer_reorderBuffer n _

lemma spiWrite_link {buffer : List UInt8} (hlen : buffer.length = 4 * n) :
    spiWrite (spiLink bus) addr buffer s = .ok (0, storeWords bus 4 buffer addr s) := by
  have hreq : spiRequest (reorderBuffer (n + 1) (word32 (writeCommand addr n) ++ buffer)) =
      some ⟨true, addr, true, n⟩ := spiRequest_write haddr hn buffer n
  have hdata : reorderBuffer n
      ((reorderBuffer (n + 1) (word32 (writeCommand addr n) ++ buffer)).drop 4) = buffer :=
    reorderBuffer_reorderBuffer n buffer
  have hsent : (reorderBuffer (n + 1) (word32 (writeCommand addr n) ++ buffer)).length =
      4 + 4 * n := by
    rw [length_reorderBuffer, List.length_append, hlen]
    rfl
  rw [spiWrite, if_neg (by omega), hlen, Nat.mul_div_cancel_left n (by decide), Nat.add_comm 1 n]
  simp only [spiLink, hreq, hdata, serveRequest_write bus s hlen, hsent]
  rw [if_neg (by omega)]

end SpiRefines

/-! ### The links -/

/-- A request fits if it is for whole words, for fewer than 128 of them, and for registers below
`top`. -/
structure FitsBelow (top addr n : ℕ) : Prop where
  word : addr % 4 = 0
  count : n < 0x80
  start : addr < top
  below : addr + 4 * n ≤ top

/-- `llio.read` and `llio.write` of a board that leads to the registers of a bus. -/
structure RegisterPath (bus : RegisterBus σ) where
  State : Type
  read : ℕ → ℕ → State → Except Fault (ℤ × List UInt8 × State)
  write : ℕ → List UInt8 → State → Except Fault (ℤ × State)
  /-- What the functions return when they succeed. -/
  success : ℤ
  /-- From here on registers cannot be reached. -/
  top : ℕ
  /-- The registers, in a state between two calls. -/
  Holds : σ → State → Prop
  read_exact : ∀ {addr n s t}, FitsBelow top addr n → Holds s t →
    ∃ t', read addr (4 * n) t = .ok (success, (loadWords bus 4 n addr s).1, t') ∧
      Holds (loadWords bus 4 n addr s).2 t'
  write_exact : ∀ {addr n buffer s t}, FitsBelow top addr n → buffer.length = 4 * n →
    Holds s t → ∃ t', write addr buffer t = .ok (success, t') ∧
      Holds (storeWords bus 4 buffer addr s) t'

section Paths

variable (bus : RegisterBus σ)

/-- A PCI board. -/
def pciPath : RegisterPath bus where
  State := σ
  read := pciRead bus
  write := pciWrite bus
  success := 0
  top := 0x10000
  Holds s t := s = t
  read_exact := by
    rintro addr n s _ - rfl
    refine ⟨_, ?_, rfl⟩
    rw [pciRead, if_neg (by omega), Nat.mul_div_cancel_left n (by decide)]
  write_exact := by
    rintro addr n buffer s _ - hlen rfl
    exact ⟨_, if_neg (by omega), rfl⟩

/-- A board on an EPP bus.  The functions return 1 when they succeed, and the highest bit of an
address is not part of it. -/
def eppPath (board : FpgaBoard) (eppWide : Bool) : RegisterPath bus where
  State := EppBoard σ
  read addr size t := .ok (eppRead (eppPorts bus board) board eppWide addr size t)
  write addr buffer t := .ok (eppWrite (eppPorts bus board) board eppWide addr buffer t)
  success := 1
  top := 0x8000
  Holds s t := t.regs = s
  read_exact := by
    rintro addr n _ t hfits rfl
    obtain ⟨hword, -, -, htop⟩ := hfits
    obtain ⟨t', hloop, hregs⟩ := eppReadLoops_ports bus board eppWide hword htop
      (s := { t with addr := 0x8000 + addr % 0x8000 }) rfl
    refine ⟨t', ?_, hregs⟩
    rw [eppRead, eppAddr16_ports bus board (by omega), hloop]
    dsimp only
    rw [eppFinish_ports]
  write_exact := by
    rintro addr n buffer _ t hfits hlen rfl
    obtain ⟨hword, -, -, htop⟩ := hfits
    refine ⟨_, ?_, eppWriteLoops_ports bus board eppWide hword htop hlen
      (s := { t with addr := 0x8000 + addr % 0x8000 }) rfl⟩
    rw [eppWrite, eppAddr16_ports bus board (by omega), eppFinish_ports]

/-- A USB board. -/
def usbPath : RegisterPath bus where
  State := LbpBoard σ
  read := usbRead (lbpBoardPort bus)
  write := usbWrite (lbpBoardPort bus)
  success := 0
  top := 0x10000
  Holds s t := t = .idle s
  read_exact := by
    rintro addr n s _ hfits rfl
    refine ⟨_, ?_, rfl⟩
    rw [usbRead, usbReadLoop_idle bus hfits.below]
    rfl
  write_exact := by
    rintro addr n buffer s _ hfits hlen rfl
    refine ⟨_, ?_, rfl⟩
    rw [usbWrite, usbWriteLoop_idle bus hfits.below hlen]
    rfl

/-- An Ethernet board. -/
def ethPath : RegisterPath bus where
  State := LinkBoard σ
  read := ethRead (lbp16Link bus)
  write := ethWrite (lbp16Link bus)
  success := 0
  top := 0x10000
  Holds s t := t = .idle s
  read_exact := by
    rintro addr n s _ hfits rfl
    exact ⟨_, ethRead_idle bus hfits.count hfits.start s, rfl⟩
  write_exact := by
    rintro addr n buffer s _ hfits hlen rfl
    exact ⟨_, ethWrite_idle bus hfits.count hfits.start s hlen, rfl⟩

/-- A board on a serial port. -/
def serialPath : RegisterPath bus where
  State := LinkBoard σ
  read := serialRead (lbp16Link bus)
  write := serialWrite (lbp16Link bus)
  success := 0
  top := 0x10000
  Holds s t := t = .idle s
  read_exact := by
    rintro addr n s _ hfits rfl
    exact ⟨_, serialRead_idle bus hfits.count hfits.start s, rfl⟩
  write_exact := by
    rintro addr n buffer s _ hfits hlen rfl
    exact ⟨_, serialWrite_idle bus hfits.count hfits.start s hlen, rfl⟩

/-- A board on an SPI bus. -/
def spiPath : RegisterPath bus where
  State := σ
  read := spiRead (spiLink bus)
  write := spiWrite (spiLink bus)
  success := 0
  top := 0x10000
  Holds s t := s = t
  read_exact := by
    rintro addr n s _ hfits rfl
    exact ⟨_, spiRead_link bus hfits.count hfits.start s, rfl⟩
  write_exact := by
    rintro addr n buffer s _ hfits hlen rfl
    exact ⟨_, spiWrite_link bus hfits.count hfits.start s hlen, rfl⟩

/-- The links that a board can be on. -/
inductive BoardLink where
  | pci
  | epp (board : FpgaBoard) (eppWide : Bool)
  | usb
  | eth
  | serial
  | spi

/-- The functions for a link. -/
def BoardLink.path : BoardLink → RegisterPath bus
  | .pci => pciPath bus
  | .epp board eppWide => eppPath bus board eppWide
  | .usb => usbPath bus
  | .eth => ethPath bus
  | .serial => serialPath bus
  | .spi => spiPath bus

end Paths

/-! ### Users of registers -/

/-- A call of `llio.read` or `llio.write`. -/
inductive RegisterCall where
  | read (addr n : ℕ)
  | write (addr : ℕ) (buffer : List UInt8)

/-- A call that all links can serve. -/
def RegisterCall.Fits (top : ℕ) : RegisterCall → Prop
  | .read addr n => FitsBelow top addr n
  | .write addr buffer => 4 ∣ buffer.length ∧ FitsBelow top addr (buffer.length / 4)

namespace RegisterPath

variable {bus : RegisterBus σ}

/-- A call is served: whether it succeeds, and what is then in the buffer. -/
def serve (P : RegisterPath bus) : RegisterCall → P.State →
    Except Fault ((Bool × List UInt8) × P.State)
  | .read addr n, t => do
    let (result, buffer, t) ← P.read addr (4 * n) t
    return ((decide (result = P.success), buffer), t)
  | .write addr buffer, t => do
    let (result, t) ← P.write addr buffer t
    return ((decide (result = P.success), buffer), t)

/-- What a call does to the registers themselves. -/
def exact (bus : RegisterBus σ) : RegisterCall → σ → Except Fault ((Bool × List UInt8) × σ)
  | .read addr n, s => .ok ((true, (loadWords bus 4 n addr s).1), (loadWords bus 4 n addr s).2)
  | .write addr buffer, s => .ok ((true, buffer), storeWords bus 4 buffer addr s)

lemma serve_exact (P : RegisterPath bus) {call : RegisterCall} (hcall : call.Fits P.top) {s : σ}
    {t : P.State} (h : P.Holds s t) :
    Corresponds (fun x y => x.1 = y.1 ∧ P.Holds x.2 y.2) (Eq : Fault → Fault → Prop)
      (exact bus call s) (P.serve call t) := by
  cases call with
  | read addr n =>
      obtain ⟨t', hread, ht'⟩ := P.read_exact hcall h
      rw [serve, hread, ok_bind]
      exact .ok ⟨by simp, ht'⟩
  | write addr buffer =>
      obtain ⟨⟨n, hlen⟩, hfits⟩ := hcall
      rw [hlen, Nat.mul_div_cancel_left n (by decide)] at hfits
      obtain ⟨t', hwrite, ht'⟩ := P.write_exact hfits hlen h
      rw [serve, hwrite, ok_bind]
      exact .ok ⟨by simp, ht'⟩

variable (bus) in
/-- A client that uses the registers themselves ends. -/
lemma exists_run_exact {α : Type} (client : Client RegisterCall (Bool × List UInt8) α) (s : σ) :
    ∃ a s', client.run (exact bus) s = .ok (a, s') := by
  induction client generalizing s with
  | done a => exact ⟨a, s, rfl⟩
  | ask call next ih =>
      cases call with
      | read addr n => exact ih _ _
      | write addr buffer => exact ih _ _

end RegisterPath

lemma FitsBelow.mono {top top' addr n : ℕ} (h : FitsBelow top addr n) (htop : top ≤ top') :
    FitsBelow top' addr n :=
  ⟨h.word, h.count, h.start.trans_le htop, h.below.trans htop⟩

lemma RegisterCall.Fits.mono {top top' : ℕ} (htop : top ≤ top') {call : RegisterCall}
    (h : call.Fits top) : call.Fits top' := by
  cases call with
  | read addr n => exact FitsBelow.mono h htop
  | write addr buffer => exact ⟨h.1, h.2.mono htop⟩

/-- **Who uses registers does not see the link.**  Whatever is read and written, also where
that depends on what was read before, the results over two links are the same, and so are the
registers at the end. -/
theorem registers_sameOnAll {α : Type} (bus : RegisterBus σ) (link link' : BoardLink)
    {client : Client RegisterCall (Bool × List UInt8) α}
    (hclient : client.Asks (RegisterCall.Fits (min (link.path bus).top (link'.path bus).top)))
    {s : σ} {t : (link.path bus).State} {t' : (link'.path bus).State}
    (ht : (link.path bus).Holds s t) (ht' : (link'.path bus).Holds s t') :
    ∃ a s' u u', client.run (link.path bus).serve t = .ok (a, u) ∧
      client.run (link'.path bus).serve t' = .ok (a, u') ∧
      (link.path bus).Holds s' u ∧ (link'.path bus).Holds s' u' := by
  obtain ⟨a, s', hexact⟩ := RegisterPath.exists_run_exact bus client s
  have h := Client.corresponds_run
    (fun _ _ _ hcall => (link.path bus).serve_exact hcall)
    (hclient.mono fun _ => .mono (min_le_left _ _)) ht
  have h' := Client.corresponds_run
    (fun _ _ _ hcall => (link'.path bus).serve_exact hcall)
    (hclient.mono fun _ => .mono (min_le_right _ _)) ht'
  rw [hexact] at h h'
  obtain ⟨⟨_, u⟩, hu, rfl, hholds⟩ := h.of_ok
  obtain ⟨⟨_, u'⟩, hu', rfl, hholds'⟩ := h'.of_ok
  exact ⟨_, s', u, u', hu, hu', hholds, hholds'⟩

/-- Registers that are memory. -/
def memoryBus : RegisterBus (ℕ → ℕ) where
  read addr s := (s addr, s)
  write addr word s := Function.update s addr word

/-- A client that writes a register only where it finds the cookie. -/
def cookieClient : Client RegisterCall (Bool × List UInt8) Bool :=
  .ask (.read hm2CookieReg 1) fun reply =>
    if reply.2 = word32 0x55AACAFE then .ask (.write 0x1000 [1, 2, 3, 4]) fun _ => .done true
    else .done false

theorem registers_sameOnAll_cookie : ∃ a s' u u',
    cookieClient.run (eppPath memoryBus ⟨0x378, 0, 0⟩ true).serve ⟨0, [], fun _ => 0x55AACAFE⟩ =
        .ok (a, u) ∧
      cookieClient.run (serialPath memoryBus).serve ⟨[], fun _ => 0x55AACAFE⟩ = .ok (a, u') ∧
      u.regs = s' ∧ u' = LinkBoard.idle s' := by
  have hclient : cookieClient.Asks (RegisterCall.Fits 0x8000) := by
    refine .ask ⟨by decide, by decide, by decide, by decide⟩ fun reply => ?_
    split
    · exact .ask ⟨by decide, by decide, by decide, by decide, by decide⟩ fun _ => .done true
    · exact .done false
  exact registers_sameOnAll memoryBus (.epp ⟨0x378, 0, 0⟩ true) .serial hclient rfl rfl

end Mesaflash
