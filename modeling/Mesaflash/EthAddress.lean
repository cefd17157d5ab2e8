import Mesaflash.Lbp16Transport
import Mesaflash.Numeral

/-!
The IP address of an Ethernet board.

The address is kept in two words of an EEPROM of the board.  `eth_set_remote_ip` writes it
there, and `eth_print_info` reads the first 48 bytes of the EEPROM and shows what is in them.
-/

namespace Mesaflash

open Lib

/-! ### Setting the address -/

def ethEepromIpReg : ℕ := 0x0020

def lbp16SpaceEthEeprom : ℕ := 0x0800

/-- `CMD_READ_ETH_EEPROM_ADDR16_INCR`. -/
def cmdReadEthEepromAddr16Incr (size : ℕ) : ℕ :=
  lbp16Read ||| lbp16Addr ||| lbp16Args16Bit ||| lbp16SpaceEthEeprom ||| lbp16AddrAutoInc |||
    (size &&& lbp16MaxPacketDataSize)

/-- `CMD_WRITE_ETH_EEPROM_ADDR16_INCR`. -/
def cmdWriteEthEepromAddr16Incr (size : ℕ) : ℕ :=
  lbp16Write ||| lbp16Addr ||| lbp16AddrAutoInc ||| lbp16Args16Bit ||| lbp16SpaceEthEeprom |||
    (size &&& lbp16MaxPacketDataSize)

/-- A number of one to three digits that fits into a byte. -/
def IsOctet (p : CStr) : Prop := IsNumeral 10 p ∧ p.length ≤ 3 ∧ numeralValue 10 p < 0x100

instance : DecidablePred IsOctet := fun p =>
  inferInstanceAs (Decidable (IsNumeral 10 p ∧ p.length ≤ 3 ∧ numeralValue 10 p < 0x100))

/-- What is between the dots. -/
def dottedParts (src : CStr) : List CStr := src.splitOn 46

/-- `inet_pton (AF_INET, src, dst)`: the bytes that are stored, where it returns 1.  That is the
documented format; the GNU library refuses some of it, a number of several digits that starts with
a zero. -/
def inetPton (src : CStr) : Option (List UInt8) :=
  if (dottedParts src).length = 4 ∧ ∀ p ∈ dottedParts src, IsOctet p then
    some ((dottedParts src).map fun p => (numeralValue 10 p).toUInt8)
  else none

/-- `htonl`, on a little-endian host. -/
def htonl (n : ℕ) : ℕ := wordOf (word32 n).reverse

/-- `write_ip_pck`. -/
def writeIpPck (addr : ℕ) : Datagram :=
  initPacket6 (cmdWriteCommCtrlAddr16 1) commCtrlWriteEnaReg 0x5A02 ++
    initPacket8 (cmdWriteEthEepromAddr16Incr 2) ethEepromIpReg addr

/-- `eth_set_remote_ip`.  `addr` is read as a number of the host. -/
def ethSetRemoteIp {σ : Type} (acc : Lbp16Transport σ) (ipAddr : CStr) (s : σ) :
    Except Fault (ℤ × σ) :=
  match inetPton ipAddr with
  | none => .ok (einval, s)
  | some bytes => do
    let (_, s) ← acc.sendPacket (writeIpPck (htonl (wordOf bytes))) s
    return (0, s)

/-! ### Showing the address -/

/-- `lbp_eth_eeprom_area`. -/
structure LbpEthEepromArea where
  reserved1 : ℕ
  macAddrLo : ℕ
  macAddrMid : ℕ
  macAddrHi : ℕ
  reserved2 : ℕ
  reserved3 : ℕ
  reserved4 : ℕ
  reserved5 : ℕ
  name : List UInt8
  ipAddrLo : ℕ
  ipAddrHi : ℕ
  reserved6 : ℕ
  reserved7 : ℕ
  ledDebug : ℕ
  reserved8 : ℕ
  reserved9 : ℕ
  reserved10 : ℕ

/-- `sizeof(lbp_eth_eeprom_area)`. -/
def lbpEthEepromAreaSize : ℕ := 48

/-- The word at an offset. -/
def areaWord (bytes : List UInt8) (offs : ℕ) : ℕ := wordOf ((bytes.drop offs).take 2)

/-- The bytes of a `lbp_eth_eeprom_area`. -/
def LbpEthEepromArea.ofBytes (bytes : List UInt8) : LbpEthEepromArea where
  reserved1 := areaWord bytes 0x00
  macAddrLo := areaWord bytes 0x02
  macAddrMid := areaWord bytes 0x04
  macAddrHi := areaWord bytes 0x06
  reserved2 := areaWord bytes 0x08
  reserved3 := areaWord bytes 0x0A
  reserved4 := areaWord bytes 0x0C
  reserved5 := areaWord bytes 0x0E
  name := (bytes.drop 0x10).take 16
  ipAddrLo := areaWord bytes 0x20
  ipAddrHi := areaWord bytes 0x22
  reserved6 := areaWord bytes 0x24
  reserved7 := areaWord bytes 0x26
  ledDebug := areaWord bytes 0x28
  reserved8 := areaWord bytes 0x2A
  reserved9 := areaWord bytes 0x2C
  reserved10 := areaWord bytes 0x2E

/-- The part of `eth_print_info` that fills `eth_area`. -/
def readEthArea {σ : Type} (acc : Lbp16Transport σ) (s : σ) :
    Except Fault (LbpEthEepromArea × σ) := do
  let s ← acc.sendPacketChecked
    (initPacket4 (cmdReadEthEepromAddr16Incr (lbpEthEepromAreaSize / 2)) 0) s
  let (bytes, s) ← acc.recvPacketChecked (fun _ => 0) lbpEthEepromAreaSize s
  return (.ofBytes bytes, s)

/-- A number as `%02X` writes it. -/
def hexUpper (b : UInt8) : CStr := (hexByte b).map toUpper

/-- `led_debug_types`. -/
def ledDebugType (ledDebug : ℕ) : CStr :=
  if ledDebug &&& 0x1 = 0 then ascii "Hostmot2" else ascii "eth debug"

/-- The lines that `eth_print_info` prints of the EEPROM. -/
def ethEepromLines (area : LbpEthEepromArea) : List CStr := [
  ascii "  [space 2] Ethernet eeprom:",
  ascii "    mac address: " ++ List.intercalate (ascii ":")
    ([hiByte area.macAddrHi, loByte area.macAddrHi, hiByte area.macAddrMid, loByte area.macAddrMid,
      hiByte area.macAddrLo, loByte area.macAddrLo].map hexUpper),
  ascii "    ip address: " ++ List.intercalate (ascii ".")
    ([hiByte area.ipAddrHi, loByte area.ipAddrHi, hiByte area.ipAddrLo, loByte area.ipAddrLo].map
      fun b => decimal b.toNat),
  ascii "    board name: " ++ cstr area.name,
  ascii "    user leds: " ++ ledDebugType area.ledDebug]

/-! ### The EEPROM of a board -/

/-- The word at each address of the EEPROM. -/
abbrev EthEeprom : Type := ℕ → UInt16

/-- Words in a row are written. -/
def EthEeprom.write (step : ℕ) : ℕ → List UInt8 → EthEeprom → EthEeprom
  | addr, lo :: hi :: data, m =>
    EthEeprom.write step (addr + step) data
      (Function.update m (addr % 0x10000) (wordOf [lo, hi]).toUInt16)
  | _, _, m => m

/-- Words in a row are read. -/
def EthEeprom.read (step addr n : ℕ) (m : EthEeprom) : List UInt8 :=
  (List.range n).flatMap fun i => word16 (m ((addr + step * i) % 0x10000)).toNat

/-- What the commands of a datagram work on. -/
structure EthEepromExec where
  eeprom : EthEeprom
  /-- Whether the datagram has enabled writing. -/
  writeEna : Bool
  replies : List Datagram

/-- The address goes up by the size of a word, or not at all. -/
def addrStep (cmd : ℕ) : ℕ := if cmd &&& lbp16AddrAutoInc = 0 then 0 else 2

/-- The board executes a command.  The high byte of a command word says what is done, and the
low byte how often. -/
def EthEepromExec.command (x : EthEepromExec) (c : Lbp16Command) : EthEepromExec :=
  if c.cmd = cmdWriteCommCtrlAddr16 1 ∧ c.addr = commCtrlWriteEnaReg then
    { x with writeEna := c.data == word16 0x5A02 }
  else if c.cmd / 0x100 = cmdWriteEthEepromAddr16Incr 0 / 0x100 ∧ x.writeEna then
    { x with eeprom := x.eeprom.write (addrStep c.cmd) c.addr c.data }
  else if c.cmd / 0x100 = cmdReadEthEepromAddr16Incr 0 / 0x100 then
    { x with replies := x.replies ++
      [x.eeprom.read (addrStep c.cmd) c.addr (c.cmd &&& lbp16MaxPacketDataSize)] }
  else x

/-- The board executes a datagram. -/
def ethEepromServe : Server EthEeprom Datagram Datagram := fun d m =>
  let x := d.commands.foldl EthEepromExec.command ⟨m, false, []⟩
  (x.eeprom, x.replies)

/-- A network on which every datagram arrives, and the replies that were not received yet. -/
def ethEepromTransport : Lbp16Transport (EthEeprom × List Datagram) where
  sendPacket packet s :=
    .ok (packet.length, (ethEepromServe packet s.1).1, s.2 ++ (ethEepromServe packet s.1).2)
  recvPacket size s :=
    match s.2 with
    | [] => .ok (none, s)
    | x :: replies => .ok (some (x.take size), s.1, replies)
  length_le := by
    intro size s x s' h
    rcases hs : s.2 with _ | ⟨y, replies⟩
    · simp only [hs] at h
      exact nomatch (Prod.mk.inj (Except.ok.inj h)).1
    · simp only [hs] at h
      obtain rfl := Option.some.inj (Prod.mk.inj (Except.ok.inj h)).1
      exact List.length_take_le size y

/-! ### Words of the EEPROM -/

/-- The words before some others. -/
lemma drop_words {f : ℕ → List UInt8} (hf : ∀ i, (f i).length = 2) {k n : ℕ} (hk : k ≤ n) :
    ((List.range n).flatMap f).drop (2 * k) =
      (List.range (n - k)).flatMap fun i => f (k + i) := by
  obtain ⟨m, rfl⟩ := Nat.exists_eq_add_of_le hk
  have hlen : ((List.range k).flatMap f).length = 2 * k := by
    simp [List.length_flatMap, hf, Nat.mul_comm]
  rw [List.range_add, List.flatMap_append, List.drop_left' hlen, Nat.add_sub_cancel_left,
    List.flatMap_map]

lemma take_words {f : ℕ → List UInt8} (hf : ∀ i, (f i).length = 2) {k n : ℕ} (hk : k ≤ n) :
    ((List.range n).flatMap f).take (2 * k) = (List.range k).flatMap f := by
  obtain ⟨m, rfl⟩ := Nat.exists_eq_add_of_le hk
  have hlen : ((List.range k).flatMap f).length = 2 * k := by
    simp [List.length_flatMap, hf, Nat.mul_comm]
  rw [List.range_add, List.flatMap_append, List.take_left' hlen]

/-- What the area shows of the EEPROM. -/
def areaOf (m : EthEeprom) : LbpEthEepromArea where
  reserved1 := (m 0x00).toNat
  macAddrLo := (m 0x02).toNat
  macAddrMid := (m 0x04).toNat
  macAddrHi := (m 0x06).toNat
  reserved2 := (m 0x08).toNat
  reserved3 := (m 0x0A).toNat
  reserved4 := (m 0x0C).toNat
  reserved5 := (m 0x0E).toNat
  name := (List.range 8).flatMap fun i => word16 (m (0x10 + 2 * i)).toNat
  ipAddrLo := (m 0x20).toNat
  ipAddrHi := (m 0x22).toNat
  reserved6 := (m 0x24).toNat
  reserved7 := (m 0x26).toNat
  ledDebug := (m 0x28).toNat
  reserved8 := (m 0x2A).toNat
  reserved9 := (m 0x2C).toNat
  reserved10 := (m 0x2E).toNat

section Area

variable (m : EthEeprom)

lemma read_eq {n : ℕ} (hn : n ≤ 0x8000) :
    EthEeprom.read 2 0 n m = (List.range n).flatMap fun i => word16 (m (2 * i)).toNat := by
  refine List.flatMap_congr fun i hi => ?_
  have hlt := List.mem_range.1 hi
  rw [Nat.zero_add, Nat.mod_eq_of_lt (by omega)]

/-- A word of what was read. -/
lemma areaWord_read {k n : ℕ} (hk : k < n) (hn : n ≤ 0x8000) :
    areaWord (EthEeprom.read 2 0 n m) (2 * k) = (m (2 * k)).toNat := by
  have htake := take_words (f := fun i => word16 (m (2 * (k + i))).toNat) (fun _ => rfl)
    (show 1 ≤ n - k by omega)
  rw [areaWord, read_eq m hn, drop_words (fun _ => rfl) hk.le]
  rw [Nat.mul_one] at htake
  rw [htake]
  simp only [List.range_one, List.flatMap_cons, List.flatMap_nil, List.append_nil, Nat.add_zero]
  exact wordOf_word16 (m (2 * k)).toNat_lt

/-- The area is laid over the words of the EEPROM. -/
lemma ofBytes_read : LbpEthEepromArea.ofBytes (EthEeprom.read 2 0 24 m) = areaOf m := by
  have hword : ∀ k < 24, areaWord (EthEeprom.read 2 0 24 m) (2 * k) = (m (2 * k)).toNat :=
    fun k hk => areaWord_read m hk (by decide)
  have hname : ((EthEeprom.read 2 0 24 m).drop (2 * 8)).take (2 * 8) = (areaOf m).name := by
    rw [read_eq m (by decide), drop_words (fun _ => rfl) (by decide),
      take_words (fun _ => rfl) (by decide)]
    rfl
  simp only [LbpEthEepromArea.ofBytes, areaOf, LbpEthEepromArea.mk.injEq]
  exact ⟨hword 0 (by decide), hword 1 (by decide), hword 2 (by decide), hword 3 (by decide),
    hword 4 (by decide), hword 5 (by decide), hword 6 (by decide), hword 7 (by decide), hname,
    hword 16 (by decide), hword 17 (by decide), hword 18 (by decide), hword 19 (by decide),
    hword 20 (by decide), hword 21 (by decide), hword 22 (by decide), hword 23 (by decide)⟩

end Area

/-! ### Datagrams -/

lemma commands_readEthArea :
    (initPacket4 (cmdReadEthEepromAddr16Incr 24) 0).commands =
      [⟨cmdReadEthEepromAddr16Incr 24, 0, []⟩] := by
  decide

lemma commands_writeIpPck (addr : ℕ) : (writeIpPck addr).commands =
    [⟨cmdWriteCommCtrlAddr16 1, commCtrlWriteEnaReg, word16 0x5A02⟩,
      ⟨cmdWriteEthEepromAddr16Incr 2, ethEepromIpReg, word32 addr⟩] := by
  have hsecond := commandsOf_initPacket4 (show cmdWriteEthEepromAddr16Incr 2 < 0x10000 by decide)
    (show ethEepromIpReg < 0x10000 by decide) (word32 addr) rfl [] 12
  rw [commandsOf_nil, List.append_nil] at hsecond
  have hlen : (writeIpPck addr).length = 13 + 1 := rfl
  rw [Datagram.commands, hlen, writeIpPck, initPacket6, List.append_assoc,
    commandsOf_initPacket4 (by decide) (by decide) _ (by decide)]
  rw [initPacket8, hsecond]

section Serve

variable (m : EthEeprom)

lemma serve_readEthArea :
    ethEepromServe (initPacket4 (cmdReadEthEepromAddr16Incr 24) 0) m =
      (m, [EthEeprom.read 2 0 24 m]) := by
  rw [ethEepromServe, commands_readEthArea]
  rfl

/-- The two words of an address are written, and no other. -/
lemma serve_writeIpPck (addr : ℕ) :
    ethEepromServe (writeIpPck addr) m =
      (Function.update (Function.update m 0x20 (wordOf (word16 addr)).toUInt16) 0x22
        (wordOf (word16 (addr / 0x10000))).toUInt16, []) := by
  have henable : EthEepromExec.command ⟨m, false, []⟩
      ⟨cmdWriteCommCtrlAddr16 1, commCtrlWriteEnaReg, word16 0x5A02⟩ = ⟨m, true, []⟩ := rfl
  have hwrite : EthEepromExec.command ⟨m, true, []⟩
      ⟨cmdWriteEthEepromAddr16Incr 2, ethEepromIpReg, word32 addr⟩ =
        ⟨EthEeprom.write 2 0x20 (word32 addr) m, true, []⟩ := by
    have hne : ¬ (cmdWriteEthEepromAddr16Incr 2 = cmdWriteCommCtrlAddr16 1 ∧
      ethEepromIpReg = commCtrlWriteEnaReg) := by decide
    have hkind : cmdWriteEthEepromAddr16Incr 2 / 0x100 =
      cmdWriteEthEepromAddr16Incr 0 / 0x100 := by decide
    have hstep : addrStep (cmdWriteEthEepromAddr16Incr 2) = 2 := by decide
    rw [EthEepromExec.command, if_neg hne, if_pos ⟨hkind, rfl⟩, hstep]
    rfl
  rw [ethEepromServe, commands_writeIpPck, List.foldl_cons, List.foldl_cons, List.foldl_nil,
    henable, hwrite]
  simp [word32, word16, EthEeprom.write]

/-- What is read of the EEPROM is what is in it. -/
lemma readEthArea_eq : readEthArea ethEepromTransport (m, []) = .ok (areaOf m, (m, [])) := by
  have hlen : (EthEeprom.read 2 0 24 m).length = 48 := by
    rw [read_eq m (by decide)]
    rfl
  have hsend : ethEepromTransport.sendPacketChecked
      (initPacket4 (cmdReadEthEepromAddr16Incr 24) 0) (m, []) =
        .ok (m, [EthEeprom.read 2 0 24 m]) := by
    simp only [Lbp16Transport.sendPacketChecked, ethEepromTransport, serve_readEthArea]
    rfl
  have hrecv : ethEepromTransport.recvPacketChecked (fun _ => 0) 48
      (m, [EthEeprom.read 2 0 24 m]) = .ok (EthEeprom.read 2 0 24 m, (m, [])) := by
    have hreply : ethEepromTransport.recvPacket 48 (m, [EthEeprom.read 2 0 24 m]) =
        .ok (some ((EthEeprom.read 2 0 24 m).take 48), (m, [])) := rfl
    have hresult : ((48 : ℕ) : ℤ) = recvResult (some (EthEeprom.read 2 0 24 m)) := by
      rw [recvResult, hlen]
    rw [Lbp16Transport.recvPacketChecked, hreply, List.take_of_length_le hlen.le, ok_bind]
    change (if ((48 : ℕ) : ℤ) ≠ _ then _ else _ : Except Fault _) = _
    rw [if_neg (not_not.2 hresult), received_of_length hlen]
    rfl
  rw [← ofBytes_read, readEthArea, lbpEthEepromAreaSize, hsend, ok_bind, hrecv]
  rfl

end Serve

/-! ### The order of the bytes -/

lemma word16_wordOf (a b : UInt8) : word16 (wordOf [a, b]) = [a, b] := by
  have ha := a.toNat_lt
  have hb := b.toNat_lt
  refine wordOf_injective rfl (wordOf_word16 ?_)
  simp only [wordOf]
  omega

/-- `htonl` turns the bytes around. -/
lemma word32_htonl (a b c d : UInt8) : word32 (htonl (wordOf [a, b, c, d])) = [d, c, b, a] := by
  rw [htonl, word32_wordOf]
  exact word32_wordOf d c b a

lemma toNat_wordOf (a b : UInt8) : (wordOf [a, b]).toUInt16.toNat = wordOf [a, b] := by
  have ha := a.toNat_lt
  have hb := b.toNat_lt
  refine Nat.mod_eq_of_lt ?_
  simp only [wordOf]
  omega

/-! ### The round trip -/

/-- The parts of an address that is accepted. -/
lemma exists_of_inetPton {ipAddr : CStr} {bytes : List UInt8} (h : inetPton ipAddr = some bytes) :
    ∃ p q r t : CStr, (∀ x ∈ [p, q, r, t], IsOctet x) ∧
      List.intercalate (ascii ".") [p, q, r, t] = ipAddr ∧
      bytes = [p, q, r, t].map fun x => (numeralValue 10 x).toUInt8 := by
  rw [inetPton] at h
  split_ifs at h with hparts
  obtain ⟨hlen, hoctets⟩ := hparts
  obtain rfl := Option.some.inj h
  have hjoin : List.intercalate (ascii ".") (dottedParts ipAddr) = ipAddr :=
    List.intercalate_splitOn 46
  rcases hcases : dottedParts ipAddr with _ | ⟨p, _ | ⟨q, _ | ⟨r, _ | ⟨t, _ | ⟨u, l⟩⟩⟩⟩⟩
  all_goals rw [hcases] at hlen hoctets hjoin
  case cons.cons.cons.cons.nil => exact ⟨p, q, r, t, hoctets, hjoin, rfl⟩
  all_goals simp at hlen

/-- After the address was set, the board shows its four numbers, and nothing else in the EEPROM
is changed. -/
def AddressShown (ipAddr : CStr) (m : EthEeprom) : Prop :=
  ∃ p q r t : CStr, (∀ x ∈ [p, q, r, t], IsOctet x) ∧
    List.intercalate (ascii ".") [p, q, r, t] = ipAddr ∧
    ∃ m' area area',
      ethSetRemoteIp ethEepromTransport ipAddr (m, []) = .ok (0, (m', [])) ∧
      readEthArea ethEepromTransport (m, []) = .ok (area, (m, [])) ∧
      readEthArea ethEepromTransport (m', []) = .ok (area', (m', [])) ∧
      (ethEepromLines area')[2]? = some (ascii "    ip address: " ++
        List.intercalate (ascii ".") ([p, q, r, t].map fun x => decimal (numeralValue 10 x))) ∧
      area' = { area with ipAddrLo := area'.ipAddrLo, ipAddrHi := area'.ipAddrHi } ∧
      ∀ a, a ≠ 0x20 → a ≠ 0x22 → m' a = m a

/-- The EEPROM with an address. -/
def withAddress (m : EthEeprom) (a b c d : UInt8) : EthEeprom :=
  Function.update (Function.update m 0x20 (wordOf [d, c]).toUInt16) 0x22 (wordOf [b, a]).toUInt16

lemma serve_address (m : EthEeprom) (a b c d : UInt8) :
    ethEepromServe (writeIpPck (htonl (wordOf [a, b, c, d]))) m = (withAddress m a b c d, []) := by
  have hbytes := word32_htonl a b c d
  simp only [word32, word16, List.cons_append, List.nil_append, List.cons.injEq, and_true] at hbytes
  obtain ⟨h₀, h₁, h₂, h₃⟩ := hbytes
  rw [serve_writeIpPck, withAddress, word16, word16, h₀, h₁, h₂, h₃]

lemma withAddress_of_ne (m : EthEeprom) (a b c d : UInt8) {x : ℕ} (hlo : x ≠ 0x20)
    (hhi : x ≠ 0x22) : withAddress m a b c d x = m x := by
  rw [withAddress, Function.update_of_ne hhi, Function.update_of_ne hlo]

/-- Only the two words of the address are different. -/
lemma areaOf_withAddress (m : EthEeprom) (a b c d : UInt8) :
    areaOf (withAddress m a b c d) =
      { areaOf m with ipAddrLo := wordOf [d, c], ipAddrHi := wordOf [b, a] } := by
  have hlo : (withAddress m a b c d 0x20).toNat = wordOf [d, c] := toNat_wordOf d c
  have hhi : (withAddress m a b c d 0x22).toNat = wordOf [b, a] := toNat_wordOf b a
  have hother : ∀ x, x < 0x20 ∨ 0x22 < x → withAddress m a b c d x = m x :=
    fun x hx => withAddress_of_ne m a b c d (by omega) (by omega)
  have hname :
      ((List.range 8).flatMap fun i => word16 (withAddress m a b c d (0x10 + 2 * i)).toNat) =
        (List.range 8).flatMap fun i => word16 (m (0x10 + 2 * i)).toNat := by
    refine List.flatMap_congr fun i hi => ?_
    have hlt := List.mem_range.1 hi
    rw [hother _ (by omega)]
  rw [areaOf, hlo, hhi, hname]
  simp (disch := omega) only [hother]
  rfl

/-- The line with the address. -/
lemma lines_withAddress (m : EthEeprom) (a b c d : UInt8) :
    (ethEepromLines (areaOf (withAddress m a b c d)))[2]? = some (ascii "    ip address: " ++
      List.intercalate (ascii ".") ([a, b, c, d].map fun x => decimal x.toNat)) := by
  have hhi := word16_wordOf b a
  have hlo := word16_wordOf d c
  simp only [word16, List.cons.injEq, and_true] at hhi hlo
  rw [areaOf_withAddress, ethEepromLines]
  simp only [hhi.1, hhi.2, hlo.1, hlo.2]
  rfl

/-- **The address that was set is shown**, with its numbers in their order. -/
theorem ethSetRemoteIp_shown {ipAddr : CStr} {bytes : List UInt8}
    (h : inetPton ipAddr = some bytes) (m : EthEeprom) : AddressShown ipAddr m := by
  obtain ⟨p, q, r, t, hoctets, hjoin, rfl⟩ := exists_of_inetPton h
  have hnumber : ∀ x ∈ [p, q, r, t],
      decimal (numeralValue 10 x).toUInt8.toNat = decimal (numeralValue 10 x) := by
    intro x hx
    have hvalue : (numeralValue 10 x).toUInt8.toNat = numeralValue 10 x :=
      Nat.mod_eq_of_lt (hoctets x hx).2.2
    rw [hvalue]
  have hline := lines_withAddress m (numeralValue 10 p).toUInt8 (numeralValue 10 q).toUInt8
    (numeralValue 10 r).toUInt8 (numeralValue 10 t).toUInt8
  simp only [List.map_cons, List.map_nil, List.forall_mem_cons] at hline hnumber h
  rw [hnumber.1, hnumber.2.1, hnumber.2.2.1, hnumber.2.2.2.1] at hline
  have hserve := serve_address m (numeralValue 10 p).toUInt8 (numeralValue 10 q).toUInt8
    (numeralValue 10 r).toUInt8 (numeralValue 10 t).toUInt8
  refine ⟨p, q, r, t, hoctets, hjoin, _, _, _, ?_, readEthArea_eq m, readEthArea_eq _, hline, ?_,
    fun a hlo hhi => withAddress_of_ne m _ _ _ _ hlo hhi⟩
  · rw [ethSetRemoteIp, h]
    simp only [ethEepromTransport, hserve]
    rfl
  · rw [areaOf_withAddress]

theorem ethSetRemoteIp_shown_default : AddressShown (ascii "192.168.1.121") (fun _ => 0xFFFF) :=
  ethSetRemoteIp_shown
    (show inetPton (ascii "192.168.1.121") = some [192, 168, 1, 121] by decide +kernel) _

/-- What is not an address leaves the board alone. -/
lemma ethSetRemoteIp_rejected {σ : Type} (acc : Lbp16Transport σ) {ipAddr : CStr}
    (h : inetPton ipAddr = none) (s : σ) : ethSetRemoteIp acc ipAddr s = .ok (einval, s) := by
  rw [ethSetRemoteIp, h]

example : inetPton (ascii "192.168.1") = none ∧ inetPton (ascii "192.168.1.256") = none := by
  decide +kernel

end Mesaflash
