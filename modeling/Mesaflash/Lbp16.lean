import Mesaflash.Eeprom

/-!
LBP16 packets.

A packet is a sequence of commands.  A command is a command word, the address of a
register, and for writing the data; all of them have their least significant byte
first.  The word says in which space the register is, how large a unit of data is
and how many units there are.

The first part is how the source builds its packets, the second one is how a board
takes them apart.
-/

namespace Mesaflash

open Lib

/-! ### Command words -/

def lbp16MaxPacketDataSize : ℕ := 0x7F

def flashAddrReg : ℕ := 0x0000
def flashDataReg : ℕ := 0x0004
def flashSecEraseReg : ℕ := 0x000C
def commCtrlWriteEnaReg : ℕ := 0x001A

def lbp16Args16Bit : ℕ := 0x0100
def lbp16Args32Bit : ℕ := 0x0200
def lbp16SpaceFpgaFlash : ℕ := 0x0C00
def lbp16SpaceCommCtrl : ℕ := 0x1800
def lbp16Read : ℕ := 0x0000
def lbp16Addr : ℕ := 0x4000
def lbp16Write : ℕ := 0x8000

/-- `CMD_READ_FPGA_FLASH_ADDR32`. -/
def cmdReadFpgaFlashAddr32 (size : ℕ) : ℕ :=
  lbp16Read ||| lbp16Addr ||| lbp16Args32Bit ||| lbp16SpaceFpgaFlash |||
    (size &&& lbp16MaxPacketDataSize)

/-- `CMD_WRITE_FPGA_FLASH_ADDR32`. -/
def cmdWriteFpgaFlashAddr32 (size : ℕ) : ℕ :=
  lbp16Write ||| lbp16Addr ||| lbp16Args32Bit ||| lbp16SpaceFpgaFlash |||
    (size &&& lbp16MaxPacketDataSize)

/-- `CMD_WRITE_COMM_CTRL_ADDR16`. -/
def cmdWriteCommCtrlAddr16 (size : ℕ) : ℕ :=
  lbp16Write ||| lbp16Addr ||| lbp16Args16Bit ||| lbp16SpaceCommCtrl |||
    (size &&& lbp16MaxPacketDataSize)

/-! ### Building packets -/

/-- A datagram. -/
abbrev Datagram : Type := List UInt8

/-- `LO_BYTE`. -/
def loByte (n : ℕ) : UInt8 := n.toUInt8

/-- `HI_BYTE`. -/
def hiByte (n : ℕ) : UInt8 := (n / 0x100).toUInt8

/-- A word, least significant byte first. -/
def word16 (n : ℕ) : Datagram := [loByte n, hiByte n]

/-- A double word, least significant byte first. -/
def word32 (n : ℕ) : Datagram := word16 n ++ word16 (n / 0x10000)

/-- `LBP16_INIT_PACKET4`. -/
def initPacket4 (cmd addr : ℕ) : Datagram := word16 cmd ++ word16 addr

/-- `LBP16_INIT_PACKET6`. -/
def initPacket6 (cmd addr data : ℕ) : Datagram := initPacket4 cmd addr ++ word16 data

/-- `LBP16_INIT_PACKET8`. -/
def initPacket8 (cmd addr data : ℕ) : Datagram := initPacket4 cmd addr ++ word32 data

/-- `write_addr_pck`. -/
def writeAddrPck (addr : ℕ) : Datagram :=
  initPacket8 (cmdWriteFpgaFlashAddr32 1) flashAddrReg addr

/-- `read_page_pck`. -/
def readPagePck : Datagram := initPacket4 (cmdReadFpgaFlashAddr32 64) flashDataReg

/-- `write_page_pck`. -/
def writePagePck (page : PageBuf) : Datagram :=
  initPacket6 (cmdWriteCommCtrlAddr16 1) commCtrlWriteEnaReg 0x5A03 ++
    (initPacket4 (cmdWriteFpgaFlashAddr32 64) flashDataReg ++ List.ofFn page)

/-- `sector_erase_pck`. -/
def sectorErasePck : Datagram :=
  initPacket6 (cmdWriteCommCtrlAddr16 1) commCtrlWriteEnaReg 0x5A03 ++
    initPacket8 (cmdWriteFpgaFlashAddr32 1) flashSecEraseReg 0

/-- The packet by which `write_page` and `erase_sector` wait for the board. -/
def syncPck : Datagram := initPacket4 (cmdReadFpgaFlashAddr32 1) flashAddrReg

/-! ### Taking packets apart -/

/-- A command in a packet. -/
structure Lbp16Command where
  cmd : ℕ
  addr : ℕ
  data : List UInt8
deriving DecidableEq, Repr

/-- The number that bytes stand for, least significant byte first. -/
def wordOf : List UInt8 → ℕ
  | [] => 0
  | b :: l => b.toNat + 0x100 * wordOf l

/-- The number of data bytes behind a command word and an address. -/
def dataSize (cmd : ℕ) : ℕ :=
  if cmd &&& lbp16Write = 0 then 0
  else (cmd &&& lbp16MaxPacketDataSize) * 2 ^ (cmd / 0x100 % 4)

/-- The commands in a packet.  Every command takes at least one byte, so that the length
of the packet bounds their number. -/
def commandsOf : ℕ → Datagram → List Lbp16Command
  | fuel + 1, c₀ :: c₁ :: a₀ :: a₁ :: rest =>
    let cmd := wordOf [c₀, c₁]
    ⟨cmd, wordOf [a₀, a₁], rest.take (dataSize cmd)⟩ :: commandsOf fuel (rest.drop (dataSize cmd))
  | _, _ => []

/-- The commands in a packet. -/
def Datagram.commands (d : Datagram) : List Lbp16Command := commandsOf d.length d

lemma wordOf_word16 {n : ℕ} (h : n < 0x10000) : wordOf (word16 n) = n := by
  have hlo : (loByte n).toNat = n % 0x100 := rfl
  have hhi : (hiByte n).toNat = n / 0x100 % 0x100 := rfl
  simp only [word16, wordOf, hlo, hhi]
  omega

/-- A double word is the number modulo `2 ^ 32`. -/
lemma wordOf_word32 (n : ℕ) : wordOf (word32 n) = u32 n := by
  have hlo : ∀ m, (loByte m).toNat = m % 0x100 := fun _ => rfl
  have hhi : ∀ m, (hiByte m).toNat = m / 0x100 % 0x100 := fun _ => rfl
  simp only [word32, word16, List.cons_append, List.nil_append, wordOf, hlo, hhi, u32]
  omega

/-- Bytes are determined by their number and by the number that they stand for. -/
lemma wordOf_injective {x y : List UInt8} (hlen : x.length = y.length)
    (h : wordOf x = wordOf y) : x = y := by
  induction x generalizing y with
  | nil => exact (List.length_eq_zero_iff.1 hlen.symm).symm
  | cons a x ih =>
      rcases y with _ | ⟨b, y⟩
      · exact nomatch hlen
      · have ha := a.toNat_lt
        have hb := b.toNat_lt
        simp only [wordOf] at h
        have hword : wordOf x = wordOf y := by omega
        have hbyte : a = b := UInt8.toNat_inj.1 (by omega)
        rw [hbyte, ih (Nat.succ.inj hlen) hword]

lemma word32_wordOf (a b c d : UInt8) : word32 (wordOf [a, b, c, d]) = [a, b, c, d] := by
  have ha := a.toNat_lt
  have hb := b.toNat_lt
  have hc := c.toNat_lt
  have hd := d.toNat_lt
  refine wordOf_injective rfl ((wordOf_word32 _).trans (u32_of_lt ?_))
  simp only [wordOf]
  omega

/-- A packet starts with the command that it was built from. -/
lemma commandsOf_initPacket4 {cmd addr : ℕ} (hcmd : cmd < 0x10000) (haddr : addr < 0x10000)
    (data : Datagram) (hdata : data.length = dataSize cmd) (rest : Datagram) (fuel : ℕ) :
    commandsOf (fuel + 1) (initPacket4 cmd addr ++ (data ++ rest)) =
      ⟨cmd, addr, data⟩ :: commandsOf fuel rest := by
  have hword : wordOf [loByte cmd, hiByte cmd] = cmd := wordOf_word16 hcmd
  have hreg : wordOf [loByte addr, hiByte addr] = addr := wordOf_word16 haddr
  simp only [initPacket4, word16, List.cons_append, List.nil_append, commandsOf, hword, hreg,
    ← hdata, List.take_left', List.drop_left']

@[simp] lemma commandsOf_nil (fuel : ℕ) : commandsOf fuel [] = [] := by
  cases fuel <;> rfl

lemma commands_writeAddrPck (addr : ℕ) : (writeAddrPck addr).commands =
    [⟨cmdWriteFpgaFlashAddr32 1, flashAddrReg, word32 addr⟩] := by
  have h := commandsOf_initPacket4 (show cmdWriteFpgaFlashAddr32 1 < 0x10000 by decide)
    (show flashAddrReg < 0x10000 by decide) (word32 addr) rfl [] 7
  rwa [commandsOf_nil, List.append_nil] at h

lemma commands_readPagePck :
    readPagePck.commands = [⟨cmdReadFpgaFlashAddr32 64, flashDataReg, []⟩] := by
  decide

lemma commands_syncPck : syncPck.commands = [⟨cmdReadFpgaFlashAddr32 1, flashAddrReg, []⟩] := by
  decide

lemma commands_sectorErasePck : sectorErasePck.commands =
    [⟨cmdWriteCommCtrlAddr16 1, commCtrlWriteEnaReg, word16 0x5A03⟩,
      ⟨cmdWriteFpgaFlashAddr32 1, flashSecEraseReg, word32 0⟩] := by
  decide

lemma commands_writePagePck (page : PageBuf) : (writePagePck page).commands =
    [⟨cmdWriteCommCtrlAddr16 1, commCtrlWriteEnaReg, word16 0x5A03⟩,
      ⟨cmdWriteFpgaFlashAddr32 64, flashDataReg, List.ofFn page⟩] := by
  have hpage : (List.ofFn page).length = 256 := List.length_ofFn
  have hlen : (writePagePck page).length = 265 + 1 := by
    simp [writePagePck, initPacket6, initPacket4, word16, hpage]
  have h := commandsOf_initPacket4 (show cmdWriteFpgaFlashAddr32 64 < 0x10000 by decide)
    (show flashDataReg < 0x10000 by decide) (List.ofFn page) hpage [] 264
  rw [commandsOf_nil, List.append_nil] at h
  rw [Datagram.commands, hlen, writePagePck, initPacket6, List.append_assoc,
    commandsOf_initPacket4 (by decide) (by decide) _ (by decide), h]

end Mesaflash
