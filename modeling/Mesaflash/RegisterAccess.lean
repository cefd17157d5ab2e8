import Mesaflash.Lbp16

/-!
Requests for registers.

`llio.read` and `llio.write` of Ethernet, serial and SPI boards send a request for a
number of words from a register on.  The header of a request has seven bits for that
number.  Only the Ethernet functions refuse larger requests: a serial board is then
asked for the number modulo 128, and in a header for SPI the bits of the number run into
the bits that say what to do, and with what register.

The first part is the three pairs of functions, the second one how a board reads the
header of a request.
-/

namespace Mesaflash

open Lib

/-! ### LBP16 -/

def lbp16AddrAutoInc : ℕ := 0x0080
def lbp16SpaceHm2 : ℕ := 0x0000

/-- `CMD_READ_HOSTMOT2_ADDR32_INCR`. -/
def cmdReadHostmot2Addr32Incr (size : ℕ) : ℕ :=
  lbp16Read ||| lbp16Addr ||| lbp16Args32Bit ||| lbp16SpaceHm2 ||| lbp16AddrAutoInc |||
    (size &&& lbp16MaxPacketDataSize)

/-- `CMD_WRITE_HOSTMOT2_ADDR32_INCR`. -/
def cmdWriteHostmot2Addr32Incr (size : ℕ) : ℕ :=
  lbp16Write ||| lbp16Addr ||| lbp16AddrAutoInc ||| lbp16Args32Bit ||| lbp16SpaceHm2 |||
    (size &&& lbp16MaxPacketDataSize)

/-- `send_packet` and `recv_packet` in `lbp16_access`. -/
structure Lbp16Access (σ : Type) where
  sendPacket : Datagram → σ → ℤ × σ
  recvPacket : ℕ → σ → List UInt8 × σ

section Lbp16

variable {σ : Type} (acc : Lbp16Access σ)

/-- `lbp16_read`: the result, and the bytes that were received for the buffer. -/
def lbp16ReadRegs (cmd addr size : ℕ) (s : σ) : Except Fault (ℤ × List UInt8 × σ) :=
  let (_, s) := acc.sendPacket (initPacket4 cmd addr) s
  let (buffer, s) := acc.recvPacket size s
  .ok (0, buffer, s)

/-- `lbp16_write`, which copies the data behind the header. -/
def lbp16WriteRegs (cmd addr : ℕ) (buffer : List UInt8) (s : σ) : Except Fault (ℤ × σ) :=
  if lbp16MaxPacketDataSize * 8 < buffer.length then .error (.undefined .bufferOverflow)
  else
    let (_, s) := acc.sendPacket (initPacket4 cmd addr ++ buffer) s
    .ok (0, s)

/-- `eth_read`. -/
def ethRead (addr size : ℕ) (s : σ) : Except Fault (ℤ × List UInt8 × σ) :=
  if lbp16MaxPacketDataSize < size / 4 then .ok (-1, [], s)
  else lbp16ReadRegs acc (cmdReadHostmot2Addr32Incr (size / 4)) addr size s

/-- `eth_write`. -/
def ethWrite (addr : ℕ) (buffer : List UInt8) (s : σ) : Except Fault (ℤ × σ) :=
  if lbp16MaxPacketDataSize < buffer.length / 4 then .ok (-1, s)
  else lbp16WriteRegs acc (cmdWriteHostmot2Addr32Incr (buffer.length / 4)) addr buffer s

/-- `serial_read`. -/
def serialRead (addr size : ℕ) (s : σ) : Except Fault (ℤ × List UInt8 × σ) :=
  lbp16ReadRegs acc (cmdReadHostmot2Addr32Incr (size / 4)) addr size s

/-- `serial_write`. -/
def serialWrite (addr : ℕ) (buffer : List UInt8) (s : σ) : Except Fault (ℤ × σ) :=
  lbp16WriteRegs acc (cmdWriteHostmot2Addr32Incr (buffer.length / 4)) addr buffer s

end Lbp16

/-! ### SPI -/

def spilbpAddrAutoInc : ℕ := 0b0000100000000000
def spilbpCmdRead : ℕ := 0b1010000000000000
def spilbpCmdWrite : ℕ := 0b1011000000000000

/-- `read_command`. -/
def readCommand (addr nelem : ℕ) : ℕ :=
  u32 ((addr % 0x10000) <<< 16) ||| spilbpCmdRead ||| spilbpAddrAutoInc ||| u32 (nelem <<< 4)

/-- `write_command`. -/
def writeCommand (addr nelem : ℕ) : ℕ :=
  u32 ((addr % 0x10000) <<< 16) ||| spilbpCmdWrite ||| spilbpAddrAutoInc ||| u32 (nelem <<< 4)

/-- `reorderBuffer`: the bytes of the first words are reversed. -/
def reorderBuffer : ℕ → List UInt8 → List UInt8
  | n + 1, b₀ :: b₁ :: b₂ :: b₃ :: rest => b₃ :: b₂ :: b₁ :: b₀ :: reorderBuffer n rest
  | _, bytes => bytes

/-- `ioctl` for a transfer of bytes: the result, and the bytes that came back. -/
structure SpiIoctl (σ : Type) where
  transfer : List UInt8 → σ → ℤ × List UInt8 × σ

section Spi

variable {σ : Type} (dev : SpiIoctl σ)

/-- `spi_read`, after `spi_boards_init` has cleared `canDo32`. -/
def spiRead (addr size : ℕ) (s : σ) : Except Fault (ℤ × List UInt8 × σ) :=
  if size % 4 ≠ 0 then .ok (-1, [], s)
  else
    let trxbuf := reorderBuffer 1 (word32 (readCommand addr (size / 4)) ++ List.replicate size 0)
    let (r, trxbuf, s) := dev.transfer trxbuf s
    if r < 0 then .ok (r, [], s)
    else .ok (0, (reorderBuffer (1 + size / 4) trxbuf).drop 4, s)

/-- `spi_write`, after `spi_boards_init` has cleared `canDo32`. -/
def spiWrite (addr : ℕ) (buffer : List UInt8) (s : σ) : Except Fault (ℤ × σ) :=
  if buffer.length % 4 ≠ 0 then .ok (-1, s)
  else
    let txbuf := reorderBuffer (1 + buffer.length / 4)
      (word32 (writeCommand addr (buffer.length / 4)) ++ buffer)
    let (r, _, s) := dev.transfer txbuf s
    if r ≤ 0 then .ok (r, s) else .ok (0, s)

end Spi

/-! ### Headers -/

/-- What a header asks for. -/
structure Request where
  write : Bool
  addr : ℕ
  autoInc : Bool
  /-- The number of words. -/
  count : ℕ
deriving DecidableEq, Repr

/-- The header of an LBP16 request for registers of the HostMot2 space, in units of 32 bits. -/
def lbp16Request : Datagram → Option Request
  | c₀ :: c₁ :: a₀ :: a₁ :: _ =>
    let cmd := wordOf [c₀, c₁]
    if cmd / 0x100 % 0x80 = 0x42 then
      some ⟨decide (cmd / 0x8000 % 2 = 1), wordOf [a₀, a₁], decide (cmd / 0x80 % 2 = 1),
        cmd % 0x80⟩
    else none
  | _ => none

/-- The header of a request for SPI, the most significant byte first. -/
def spiRequest : List UInt8 → Option Request
  | b₀ :: b₁ :: b₂ :: b₃ :: _ =>
    let header := wordOf [b₃, b₂, b₁, b₀]
    if header / 0x1000 % 0x10 = 0xA ∨ header / 0x1000 % 0x10 = 0xB then
      some ⟨decide (header / 0x1000 % 0x10 = 0xB), header / 0x10000,
        decide (header / 0x800 % 2 = 1), header / 0x10 % 0x80⟩
    else none
  | _ => none

/-! ### What is sent -/

/-- The boards with a protocol for registers. -/
inductive RegisterLink where
  | eth
  | serial
  | spi
deriving DecidableEq, Repr

/-- LBP16 access that records what is sent.  The results and the replies are given. -/
def recordLbp16 (result : Datagram → ℤ) (reply : ℕ → List UInt8) :
    Lbp16Access (List (List UInt8)) where
  sendPacket d log := (result d, log ++ [d])
  recvPacket n log := (reply n, log)

/-- An SPI device that records what is sent. -/
def recordSpi (result : List UInt8 → ℤ × List UInt8) : SpiIoctl (List (List UInt8)) where
  transfer bytes log := ((result bytes).1, (result bytes).2, log ++ [bytes])

/-- The world of a run: what the links answer. -/
structure LinkReplies where
  sendResult : Datagram → ℤ
  reply : ℕ → List UInt8
  transfer : List UInt8 → ℤ × List UInt8

/-- The result of `llio.read` of the board, and what it sends. -/
def RegisterLink.read (env : LinkReplies) (link : RegisterLink) (addr size : ℕ) :
    Except Fault (ℤ × List (List UInt8)) := do
  let (ret, _, log) ← match link with
    | .eth => ethRead (recordLbp16 env.sendResult env.reply) addr size []
    | .serial => serialRead (recordLbp16 env.sendResult env.reply) addr size []
    | .spi => spiRead (recordSpi env.transfer) addr size []
  return (ret, log)

/-- The result of `llio.write` of the board, and what it sends. -/
def RegisterLink.write (env : LinkReplies) (link : RegisterLink) (addr : ℕ)
    (buffer : List UInt8) : Except Fault (ℤ × List (List UInt8)) :=
  match link with
  | .eth => ethWrite (recordLbp16 env.sendResult env.reply) addr buffer []
  | .serial => serialWrite (recordLbp16 env.sendResult env.reply) addr buffer []
  | .spi => spiWrite (recordSpi env.transfer) addr buffer []

/-- How the board reads a header. -/
def RegisterLink.decode (link : RegisterLink) : List UInt8 → Option Request :=
  match link with
  | .eth => lbp16Request
  | .serial => lbp16Request
  | .spi => spiRequest

/-- A call was refused with an error, or it has sent the request and nothing else. -/
def Asks (link : RegisterLink) (req : Request) (x : Except Fault (ℤ × List (List UInt8))) : Prop :=
  ∃ ret log, x = .ok (ret, log) ∧
    ((ret < 0 ∧ log = []) ∨ ∃ d, log = [d] ∧ link.decode d = some req)

lemma asks_refused {link : RegisterLink} {req : Request} {ret : ℤ} (hret : ret < 0) :
    Asks link req (.ok (ret, [])) :=
  ⟨ret, [], rfl, .inl ⟨hret, rfl⟩⟩

/-- A call that has sent something has asked for what the board reads in the header. -/
lemma asks_sent {link : RegisterLink} {req : Request} {ret : ℤ} {d : List UInt8} :
    Asks link req (.ok (ret, [d])) ↔ link.decode d = some req := by
  constructor
  · rintro ⟨ret', log, heq, h⟩
    obtain ⟨rfl, rfl⟩ := Prod.mk.inj (Except.ok.inj heq)
    rcases h with ⟨-, hnil⟩ | ⟨d', hd, hdecode⟩
    · exact absurd hnil (List.cons_ne_nil d [])
    · rwa [(List.cons.inj hd).1]
  · exact fun h => ⟨ret, [d], rfl, .inr ⟨d, rfl, h⟩⟩

lemma not_asks_error {link : RegisterLink} {req : Request} {e : Fault} :
    ¬ Asks link req (.error e) := by
  rintro ⟨ret, log, heq, -⟩
  exact nomatch heq

/-! ### LBP16 headers -/

/-- The number of words that a request of `n` words asks for. -/
lemma and_maxPacketDataSize (n : ℕ) : n &&& lbp16MaxPacketDataSize = n % 0x80 := by
  rw [lbp16MaxPacketDataSize, show 0x7F = 2 ^ 7 - 1 from rfl, Nat.and_two_pow_sub_one_eq_mod]

lemma lbp16Request_initPacket4 {cmd addr : ℕ} (hcmd : cmd < 0x10000) (haddr : addr < 0x10000)
    (rest : Datagram) : lbp16Request (initPacket4 cmd addr ++ rest) =
      if cmd / 0x100 % 0x80 = 0x42 then
        some ⟨decide (cmd / 0x8000 % 2 = 1), addr, decide (cmd / 0x80 % 2 = 1), cmd % 0x80⟩
      else none := by
  have hword : wordOf [loByte cmd, hiByte cmd] = cmd := wordOf_word16 hcmd
  have hreg : wordOf [loByte addr, hiByte addr] = addr := wordOf_word16 haddr
  simp only [initPacket4, word16, List.cons_append, List.nil_append, lbp16Request, hword, hreg]

lemma cmdReadHostmot2Addr32Incr_eq (n : ℕ) :
    cmdReadHostmot2Addr32Incr n = 0x4280 + n % 0x80 := by
  have hall : ∀ m : Fin 0x80, lbp16Read ||| lbp16Addr ||| lbp16Args32Bit ||| lbp16SpaceHm2 |||
      lbp16AddrAutoInc ||| (m : ℕ) = 0x4280 + m := by decide
  rw [cmdReadHostmot2Addr32Incr, and_maxPacketDataSize]
  exact hall ⟨n % 0x80, Nat.mod_lt n (by decide)⟩

lemma cmdWriteHostmot2Addr32Incr_eq (n : ℕ) :
    cmdWriteHostmot2Addr32Incr n = 0xC280 + n % 0x80 := by
  have hall : ∀ m : Fin 0x80, lbp16Write ||| lbp16Addr ||| lbp16AddrAutoInc ||| lbp16Args32Bit |||
      lbp16SpaceHm2 ||| (m : ℕ) = 0xC280 + m := by decide
  rw [cmdWriteHostmot2Addr32Incr, and_maxPacketDataSize]
  exact hall ⟨n % 0x80, Nat.mod_lt n (by decide)⟩

lemma lbp16Request_read {addr : ℕ} (haddr : addr < 0x10000) (n : ℕ) (rest : Datagram) :
    lbp16Request (initPacket4 (cmdReadHostmot2Addr32Incr n) addr ++ rest) =
      some ⟨false, addr, true, n % 0x80⟩ := by
  have hcmd := cmdReadHostmot2Addr32Incr_eq n
  generalize cmdReadHostmot2Addr32Incr n = cmd at hcmd
  have hn : n % 0x80 < 0x80 := Nat.mod_lt n (by decide)
  rw [lbp16Request_initPacket4 (by omega) haddr, if_pos (by omega)]
  simp only [Option.some.injEq, Request.mk.injEq, decide_eq_false_iff_not, decide_eq_true_eq,
    true_and]
  omega

lemma lbp16Request_write {addr : ℕ} (haddr : addr < 0x10000) (n : ℕ) (rest : Datagram) :
    lbp16Request (initPacket4 (cmdWriteHostmot2Addr32Incr n) addr ++ rest) =
      some ⟨true, addr, true, n % 0x80⟩ := by
  have hcmd := cmdWriteHostmot2Addr32Incr_eq n
  generalize cmdWriteHostmot2Addr32Incr n = cmd at hcmd
  have hn : n % 0x80 < 0x80 := Nat.mod_lt n (by decide)
  rw [lbp16Request_initPacket4 (by omega) haddr, if_pos (by omega)]
  simp only [Option.some.injEq, Request.mk.injEq, decide_eq_true_eq, true_and]
  omega

/-! ### SPI headers -/

/-- With a number of words that fits, the fields of the header do not overlap. -/
lemma header_eq {addr n cmd : ℕ} (haddr : addr < 0x10000) (hn : n < 0x80)
    (hcmd : cmd = 0xA ∨ cmd = 0xB) :
    u32 ((addr % 0x10000) <<< 16) ||| (cmd * 0x1000) ||| spilbpAddrAutoInc ||| u32 (n <<< 4) =
      addr * 0x10000 + cmd * 0x1000 + 0x800 + n * 0x10 := by
  have hlow : (cmd * 0x1000) ||| (spilbpAddrAutoInc ||| n * 0x10) =
      cmd * 0x1000 + 0x800 + n * 0x10 := by
    have hall : ∀ n : Fin 0x80,
        (0xA * 0x1000) ||| (spilbpAddrAutoInc ||| (n : ℕ) * 0x10) =
          0xA * 0x1000 + 0x800 + n * 0x10 ∧
        (0xB * 0x1000) ||| (spilbpAddrAutoInc ||| (n : ℕ) * 0x10) =
          0xB * 0x1000 + 0x800 + n * 0x10 := by decide
    rcases hcmd with rfl | rfl
    · exact (hall ⟨n, hn⟩).1
    · exact (hall ⟨n, hn⟩).2
  have haddr' : u32 ((addr % 0x10000) <<< 16) = addr <<< 16 := by
    rw [Nat.mod_eq_of_lt haddr, u32, Nat.shiftLeft_eq]
    exact Nat.mod_eq_of_lt (by omega)
  have hn' : u32 (n <<< 4) = n * 0x10 := by
    rw [u32, Nat.shiftLeft_eq]
    exact Nat.mod_eq_of_lt (by omega)
  rw [haddr', hn', Nat.or_assoc, Nat.or_assoc, hlow, ← Nat.shiftLeft_add_eq_or_of_lt (by omega),
    Nat.shiftLeft_eq]
  omega

/-- A header for SPI, sent with the most significant byte first. -/
lemma spiRequest_word32 {header : ℕ} (hheader : header < 0x100000000) (rest : List UInt8)
    (n : ℕ) : spiRequest (reorderBuffer (n + 1) (word32 header ++ rest)) =
      if header / 0x1000 % 0x10 = 0xA ∨ header / 0x1000 % 0x10 = 0xB then
        some ⟨decide (header / 0x1000 % 0x10 = 0xB), header / 0x10000,
          decide (header / 0x800 % 2 = 1), header / 0x10 % 0x80⟩
      else none := by
  have hword : wordOf [loByte header, hiByte header, loByte (header / 0x10000),
      hiByte (header / 0x10000)] = header :=
    (wordOf_word32 header).trans (Nat.mod_eq_of_lt hheader)
  simp only [word32, word16, List.cons_append, List.nil_append, reorderBuffer, spiRequest, hword]

lemma spiRequest_read {addr n : ℕ} (haddr : addr < 0x10000) (hn : n < 0x80)
    (rest : List UInt8) (k : ℕ) :
    spiRequest (reorderBuffer (k + 1) (word32 (readCommand addr n) ++ rest)) =
      some ⟨false, addr, true, n⟩ := by
  have hheader : readCommand addr n = addr * 0x10000 + 0xA * 0x1000 + 0x800 + n * 0x10 :=
    header_eq haddr hn (.inl rfl)
  rw [hheader, spiRequest_word32 (by omega), if_pos (by omega)]
  simp only [Option.some.injEq, Request.mk.injEq, decide_eq_false_iff_not, decide_eq_true_eq]
  omega

lemma spiRequest_write {addr n : ℕ} (haddr : addr < 0x10000) (hn : n < 0x80)
    (rest : List UInt8) (k : ℕ) :
    spiRequest (reorderBuffer (k + 1) (word32 (writeCommand addr n) ++ rest)) =
      some ⟨true, addr, true, n⟩ := by
  have hheader : writeCommand addr n = addr * 0x10000 + 0xB * 0x1000 + 0x800 + n * 0x10 :=
    header_eq haddr hn (.inr rfl)
  rw [hheader, spiRequest_word32 (by omega), if_pos (by omega)]
  simp only [Option.some.injEq, Request.mk.injEq, decide_eq_true_eq]
  omega

/-- The number of words in a header is a number of seven bits. -/
lemma count_lt_of_decode {link : RegisterLink} {d : List UInt8} {req : Request}
    (h : link.decode d = some req) : req.count < 0x80 := by
  have hlbp : ∀ {d req}, lbp16Request d = some req → req.count < 0x80 := by
    intro d req h
    unfold lbp16Request at h
    split at h
    · dsimp only at h
      split_ifs at h
      obtain rfl := Option.some.inj h
      exact Nat.mod_lt _ (by decide)
    · exact absurd h (by simp)
  have hspi : ∀ {d req}, spiRequest d = some req → req.count < 0x80 := by
    intro d req h
    unfold spiRequest at h
    split at h
    · dsimp only at h
      split_ifs at h
      obtain rfl := Option.some.inj h
      exact Nat.mod_lt _ (by decide)
    · exact absurd h (by simp)
  cases link with
  | eth => exact hlbp h
  | serial => exact hlbp h
  | spi => exact hspi h

/-! ### Requests and their headers -/

section Requests

variable (env : LinkReplies) {addr : ℕ}

lemma ethRead_asks (haddr : addr < 0x10000) (words : ℕ) :
    Asks .eth ⟨false, addr, true, words⟩ (RegisterLink.eth.read env addr (4 * words)) := by
  have hwords : 4 * words / 4 = words := Nat.mul_div_cancel_left words (by decide)
  by_cases hmax : lbp16MaxPacketDataSize < words
  · have hread : RegisterLink.eth.read env addr (4 * words) = .ok (-1, []) := by
      simp only [RegisterLink.read, ethRead, hwords, if_pos hmax, bind, Except.bind, pure,
        Except.pure]
    rw [hread]
    exact asks_refused (by decide)
  · have hread : RegisterLink.eth.read env addr (4 * words) =
        .ok (0, [initPacket4 (cmdReadHostmot2Addr32Incr words) addr ++ []]) := by
      simp only [RegisterLink.read, ethRead, hwords, if_neg hmax, lbp16ReadRegs, recordLbp16,
        bind, Except.bind, pure, Except.pure, List.nil_append, List.append_nil]
    have hcount : words % 0x80 = words :=
      Nat.mod_eq_of_lt (Nat.lt_succ_of_le (Nat.le_of_not_lt hmax))
    rw [hread, asks_sent]
    exact (lbp16Request_read haddr words []).trans (by rw [hcount])

lemma serialRead_asks_iff (haddr : addr < 0x10000) (words : ℕ) :
    Asks .serial ⟨false, addr, true, words⟩ (RegisterLink.serial.read env addr (4 * words)) ↔
      words ≤ lbp16MaxPacketDataSize := by
  have hwords : 4 * words / 4 = words := Nat.mul_div_cancel_left words (by decide)
  have hread : RegisterLink.serial.read env addr (4 * words) =
      .ok (0, [initPacket4 (cmdReadHostmot2Addr32Incr words) addr ++ []]) := by
    simp only [RegisterLink.read, serialRead, hwords, lbp16ReadRegs, recordLbp16,
      bind, Except.bind, pure, Except.pure, List.nil_append, List.append_nil]
  rw [hread, asks_sent, RegisterLink.decode, lbp16Request_read haddr]
  simp only [Option.some.injEq, Request.mk.injEq, true_and, lbp16MaxPacketDataSize]
  omega

/-- Whatever the transfer returns, the header has been sent. -/
lemma spiRead_sends (addr words : ℕ) : ∃ ret, RegisterLink.spi.read env addr (4 * words) =
    .ok (ret, [reorderBuffer (0 + 1)
      (word32 (readCommand addr words) ++ List.replicate (4 * words) 0)]) := by
  have hwords : 4 * words / 4 = words := Nat.mul_div_cancel_left words (by decide)
  simp only [RegisterLink.read, spiRead, recordSpi, hwords, Nat.mul_mod_right, ne_eq,
    not_true_eq_false, if_false, bind, Except.bind, pure, Except.pure, List.nil_append, zero_add]
  split_ifs
  · exact ⟨_, rfl⟩
  · exact ⟨_, rfl⟩

lemma spiRead_asks_iff (haddr : addr < 0x10000) (words : ℕ) :
    Asks .spi ⟨false, addr, true, words⟩ (RegisterLink.spi.read env addr (4 * words)) ↔
      words ≤ lbp16MaxPacketDataSize := by
  obtain ⟨ret, hread⟩ := spiRead_sends env addr words
  rw [hread, asks_sent]
  constructor
  · intro hdecode
    exact Nat.le_of_lt_succ (count_lt_of_decode hdecode)
  · intro hmax
    exact spiRequest_read haddr (Nat.lt_succ_of_le hmax) (List.replicate (4 * words) 0) 0

variable {buffer : List UInt8} {words : ℕ} (hbuffer : buffer.length = 4 * words)

include hbuffer

lemma ethWrite_asks (haddr : addr < 0x10000) :
    Asks .eth ⟨true, addr, true, words⟩ (RegisterLink.eth.write env addr buffer) := by
  have hwords : buffer.length / 4 = words := by omega
  by_cases hmax : lbp16MaxPacketDataSize < words
  · have hwrite : RegisterLink.eth.write env addr buffer = .ok (-1, []) := by
      simp only [RegisterLink.write, ethWrite, hwords, if_pos hmax]
    rw [hwrite]
    exact asks_refused (by decide)
  · have hfits : ¬ lbp16MaxPacketDataSize * 8 < buffer.length := by omega
    have hwrite : RegisterLink.eth.write env addr buffer =
        .ok (0, [initPacket4 (cmdWriteHostmot2Addr32Incr words) addr ++ buffer]) := by
      simp only [RegisterLink.write, ethWrite, hwords, if_neg hmax, lbp16WriteRegs, if_neg hfits,
        recordLbp16, List.nil_append]
    have hcount : words % 0x80 = words :=
      Nat.mod_eq_of_lt (Nat.lt_succ_of_le (Nat.le_of_not_lt hmax))
    rw [hwrite, asks_sent]
    exact (lbp16Request_write haddr words buffer).trans (by rw [hcount])

lemma serialWrite_asks_iff (haddr : addr < 0x10000) :
    Asks .serial ⟨true, addr, true, words⟩ (RegisterLink.serial.write env addr buffer) ↔
      words ≤ lbp16MaxPacketDataSize := by
  have hwords : buffer.length / 4 = words := by omega
  by_cases hfits : lbp16MaxPacketDataSize * 8 < buffer.length
  -- the packet of `lbp16_write` is too small for the data
  · have hwrite : RegisterLink.serial.write env addr buffer =
        .error (.undefined .bufferOverflow) := by
      simp only [RegisterLink.write, serialWrite, lbp16WriteRegs, if_pos hfits]
    rw [hwrite]
    refine iff_of_false not_asks_error ?_
    simp only [lbp16MaxPacketDataSize] at hfits ⊢
    omega
  · have hwrite : RegisterLink.serial.write env addr buffer =
        .ok (0, [initPacket4 (cmdWriteHostmot2Addr32Incr words) addr ++ buffer]) := by
      simp only [RegisterLink.write, serialWrite, hwords, lbp16WriteRegs, if_neg hfits,
        recordLbp16, List.nil_append]
    rw [hwrite, asks_sent, RegisterLink.decode, lbp16Request_write haddr]
    simp only [Option.some.injEq, Request.mk.injEq, true_and, lbp16MaxPacketDataSize]
    omega

lemma spiWrite_asks_iff (haddr : addr < 0x10000) :
    Asks .spi ⟨true, addr, true, words⟩ (RegisterLink.spi.write env addr buffer) ↔
      words ≤ lbp16MaxPacketDataSize := by
  have hwords : buffer.length / 4 = words := by omega
  have hmod : buffer.length % 4 = 0 := by omega
  obtain ⟨ret, hwrite⟩ : ∃ ret, RegisterLink.spi.write env addr buffer =
      .ok (ret, [reorderBuffer (words + 1) (word32 (writeCommand addr words) ++ buffer)]) := by
    simp only [RegisterLink.write, spiWrite, recordSpi, hwords, hmod, ne_eq, not_true_eq_false,
      if_false, List.nil_append, Nat.add_comm 1 words]
    split_ifs
    · exact ⟨_, rfl⟩
    · exact ⟨_, rfl⟩
  rw [hwrite, asks_sent]
  constructor
  · intro hdecode
    exact Nat.le_of_lt_succ (count_lt_of_decode hdecode)
  · intro hmax
    exact spiRequest_write haddr (Nat.lt_succ_of_le hmax) buffer words

end Requests

/-- **The read and write functions of a board ask for the registers of the call, or refuse
the call, exactly when the board is an Ethernet board or the number of words is at most
127**: only the Ethernet functions look at the number. -/
theorem asks_iff (env : LinkReplies) (link : RegisterLink) {addr : ℕ} (haddr : addr < 0x10000)
    (words : ℕ) :
    (Asks link ⟨false, addr, true, words⟩ (link.read env addr (4 * words)) ↔
      link = .eth ∨ words ≤ lbp16MaxPacketDataSize) ∧
    ∀ buffer : List UInt8, buffer.length = 4 * words →
      (Asks link ⟨true, addr, true, words⟩ (link.write env addr buffer) ↔
        link = .eth ∨ words ≤ lbp16MaxPacketDataSize) := by
  cases link with
  | eth =>
    exact ⟨iff_of_true (ethRead_asks env haddr words) (.inl rfl),
      fun buffer hbuffer => iff_of_true (ethWrite_asks env hbuffer haddr) (.inl rfl)⟩
  | serial =>
    simp only [reduceCtorEq, false_or]
    exact ⟨serialRead_asks_iff env haddr words,
      fun buffer hbuffer => serialWrite_asks_iff env hbuffer haddr⟩
  | spi =>
    simp only [reduceCtorEq, false_or]
    exact ⟨spiRead_asks_iff env haddr words,
      fun buffer hbuffer => spiWrite_asks_iff env hbuffer haddr⟩

/-- Links that take every packet, and answer with zeros. -/
def quietLinks : LinkReplies where
  sendResult d := d.length
  reply n := List.replicate n 0
  transfer bytes := (bytes.length, bytes)

theorem asks_iff_word :
    Asks .serial ⟨false, 0x0100, true, 1⟩ (RegisterLink.serial.read quietLinks 0x0100 4) ∧
      Asks .spi ⟨true, 0x1000, true, 1⟩ (RegisterLink.spi.write quietLinks 0x1000 [1, 2, 3, 4]) :=
  ⟨(asks_iff quietLinks .serial (by decide) 1).1.mpr (.inr (by decide)),
    ((asks_iff quietLinks .spi (by decide) 1).2 [1, 2, 3, 4] rfl).mpr (.inr (by decide))⟩

/-- A serial board is asked for no words instead of 128, and a read of 256 words is sent to
an SPI board as a write. -/
theorem request_overflow :
    (∃ ret d, RegisterLink.serial.read quietLinks 0x1000 (4 * 128) = .ok (ret, [d]) ∧
      lbp16Request d = some ⟨false, 0x1000, true, 0⟩ ∧
      ¬ Asks .serial ⟨false, 0x1000, true, 128⟩ (.ok (ret, [d]))) ∧
    ∃ ret d, RegisterLink.spi.read quietLinks 0x1000 (4 * 256) = .ok (ret, [d]) ∧
      spiRequest d = some ⟨true, 0x1000, true, 0⟩ ∧
      ¬ Asks .spi ⟨false, 0x1000, true, 256⟩ (.ok (ret, [d])) := by
  constructor
  · have hrequest : lbp16Request (initPacket4 (cmdReadHostmot2Addr32Incr 128) 0x1000) =
        some ⟨false, 0x1000, true, 0⟩ := by decide
    refine ⟨0, initPacket4 (cmdReadHostmot2Addr32Incr 128) 0x1000, rfl, hrequest, ?_⟩
    rw [asks_sent, RegisterLink.decode, hrequest]
    decide
  · obtain ⟨ret, hread⟩ := spiRead_sends quietLinks 0x1000 256
    have hrequest : spiRequest (reorderBuffer (0 + 1) (word32 (readCommand 0x1000 256) ++
        List.replicate (4 * 256) 0)) = some ⟨true, 0x1000, true, 0⟩ := by
      rw [spiRequest_word32 (by decide)]
      decide
    refine ⟨ret, _, hread, hrequest, ?_⟩
    rw [asks_sent, RegisterLink.decode, hrequest]
    decide

end Mesaflash
