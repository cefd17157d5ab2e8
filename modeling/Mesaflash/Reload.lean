import Mesaflash.SerialLink

/-!
Reloading the FPGA.

`lbp16_board_reload` has room for fourteen commands in its stack and always sends all of them.
For a Xilinx FPGA it fills all of them; for an Efinix FPGA it fills two, and the board executes
what the stack holds in the others.
-/

namespace Mesaflash

open Lib

/-! ### The packet -/

/-- The register that starts a reconfiguration. -/
def icapReg : ℕ := 0x1E

/-- `offsetof(lbp_info_area, firmware_version)`. -/
def firmwareVersionOffset : ℕ := 18

/-- The words for a Xilinx FPGA. -/
def xilinxReloadWords (fallbackFlag : ℤ) : List ℕ :=
  let bootAddr := (if fallbackFlag = 1 then 0x10000 else 0x0) ||| 0x0B000000
  [0xFFFF, 0xFFFF, 0xAA99, 0x5566, 0x3261, bootAddr &&& 0xFFFF, 0x3281, bootAddr >>> 16, 0x30A1,
    0x000E, 0x2000, 0x2000, 0x2000, 0x2000]

/-- The words for an Efinix FPGA. -/
def efinixReloadWords (fallbackFlag : ℤ) : List ℕ :=
  if fallbackFlag = 1 then [0x0004, 0x000C] else [0x0005, 0x000D]

/-- The words that are built. -/
def reloadWords (fpgaType : FpgaType) (fallbackFlag : ℤ) : List ℕ :=
  if fpgaType = .efinix then efinixReloadWords fallbackFlag else xilinxReloadWords fallbackFlag

/-- A command that writes a word. -/
def reloadCommand (word : ℕ) : Datagram := initPacket6 (cmdWriteCommCtrlAddr16 1) icapReg word

/-- The commands that are built. -/
def reloadBuilt (fpgaType : FpgaType) (fallbackFlag : ℤ) : Datagram :=
  (reloadWords fpgaType fallbackFlag).flatMap reloadCommand

/-- `sizeof(packet)`. -/
def reloadPacketSize : ℕ := 14 * 6

/-- `packet`: the commands that are built, stored over what the stack holds. -/
def reloadPacket (fpgaType : FpgaType) (fallbackFlag : ℤ) (stack : ℕ → UInt8) : Datagram :=
  bytesOf (store (reloadBuilt fpgaType fallbackFlag) stack) reloadPacketSize

namespace Lbp16Transport

variable {σ : Type} (acc : Lbp16Transport σ)

/-- The check of the firmware version, in `lbp16_board_reload`. -/
def reloadCheck (board : BoardEntry) (stack : ℕ → UInt8) (s : σ) : Except Fault (Bool × σ) := do
  let s ← acc.sendPacketChecked (initPacket4 (cmdReadBoardInfoAddr16 1) firmwareVersionOffset) s
  let (reply, s) ← acc.recvPacketChecked stack 2 s
  let fwVer := wordOf reply
  return (decide (¬ (board.type = .eth ∧ fwVer < 15 ∨ board.type = .ser ∧ fwVer < 2)), s)

/-- What is sent after the check. -/
def reloadSent (board : BoardEntry) (fallbackFlag : ℤ) (stack : ℕ → UInt8) (s : σ) :
    Option Datagram :=
  match acc.reloadCheck board (fun i => stack (reloadPacketSize + i)) s with
  | .ok (true, _) => some (reloadPacket board.fpgaType fallbackFlag stack)
  | _ => none

/-- What is sent after the check does not depend on the stack, and is what was built. -/
def SendsBuilt (board : BoardEntry) (fallbackFlag : ℤ) (s : σ) : Prop :=
  (∀ stack stack', acc.reloadSent board fallbackFlag stack s =
      acc.reloadSent board fallbackFlag stack' s) ∧
    ∀ stack d, acc.reloadSent board fallbackFlag stack s = some d →
      d = reloadBuilt board.fpgaType fallbackFlag

/-- A transport that also records what it was given to send. -/
def recording : Lbp16Transport (σ × List Datagram) where
  sendPacket packet s := (acc.sendPacket packet s.1).map fun r => (r.1, r.2, s.2 ++ [packet])
  recvPacket size s := (acc.recvPacket size s.1).map fun r => (r.1, r.2, s.2)
  length_le := by
    intro size s x s' h
    rcases hrecv : acc.recvPacket size s.1 with f | ⟨reply, t⟩
    · rw [hrecv] at h
      exact nomatch h
    · rw [hrecv] at h
      obtain ⟨hx, -⟩ := Prod.mk.inj (Except.ok.inj h)
      exact acc.length_le (hrecv.trans (by rw [show reply = some x from hx]))

variable {acc} {board : BoardEntry} {fallbackFlag : ℤ} {stack : ℕ → UInt8} {s s' : σ}

/-- A reply that was checked does not depend on the stack. -/
lemma recvPacketChecked_congr (stack stack' : ℕ → UInt8) (size : ℕ) (s : σ) :
    acc.recvPacketChecked stack size s = acc.recvPacketChecked stack' size s := by
  rw [recvPacketChecked, recvPacketChecked]
  rcases acc.recvPacket size s with f | ⟨reply, s'⟩
  · rfl
  · simp only [ok_bind]
    split_ifs with hsize
    · rfl
    · rcases reply with _ | x
      · exact absurd hsize (by simp [recvResult])
      · have hlen : x.length = size := by simpa [recvResult, eq_comm] using hsize
        rw [received_of_length hlen, received_of_length hlen]

lemma reloadCheck_congr (stack stack' : ℕ → UInt8) :
    acc.reloadCheck board stack s = acc.reloadCheck board stack' s := by
  rw [reloadCheck, reloadCheck]
  refine congrArg _ (funext fun t => ?_)
  rw [recvPacketChecked_congr stack stack']

/-! ### What is recorded -/

end Lbp16Transport

/-! ### The bytes of the packet -/

lemma length_reloadBuilt (fpgaType : FpgaType) (fallbackFlag : ℤ) :
    (reloadBuilt fpgaType fallbackFlag).length = if fpgaType = .xilinx then 84 else 12 := by
  have hlen : ∀ words : List ℕ, (words.flatMap reloadCommand).length = 6 * words.length := by
    intro words
    induction words with
    | nil => rfl
    | cons word words ih =>
        rw [List.flatMap_cons, List.length_append, ih, List.length_cons,
          show (reloadCommand word).length = 6 from rfl]
        omega
  rw [reloadBuilt, hlen]
  cases fpgaType with
  | xilinx => rfl
  | efinix =>
      rw [reloadWords, if_pos rfl, if_neg (by decide), efinixReloadWords]
      split_ifs
      · rfl
      · rfl

namespace Lbp16Transport

variable {σ : Type} {acc : Lbp16Transport σ} {board : BoardEntry} {fallbackFlag : ℤ} {s : σ}

/-- What is sent is the packet, after the check has passed. -/
lemma reloadSent_eq_some {stack : ℕ → UInt8} {d : Datagram}
    (h : acc.reloadSent board fallbackFlag stack s = some d) :
    d = reloadPacket board.fpgaType fallbackFlag stack ∧ ∃ s',
      acc.reloadCheck board (fun i => stack (reloadPacketSize + i)) s = .ok (true, s') := by
  rw [reloadSent] at h
  rcases hcheck : acc.reloadCheck board (fun i => stack (reloadPacketSize + i)) s
    with f | ⟨supported, s'⟩
  · rw [hcheck] at h
    exact nomatch h
  · rw [hcheck] at h
    rcases supported with _ | _
    · exact nomatch h
    · exact ⟨(Option.some.inj h).symm, s', rfl⟩

/-- **A reload sends only what it built exactly for a Xilinx FPGA, and where the firmware is too
old.** -/
theorem sendsBuilt_iff : acc.SendsBuilt board fallbackFlag s ↔
    board.fpgaType = .xilinx ∨ ∀ stack s', acc.reloadCheck board stack s ≠ .ok (true, s') := by
  constructor
  · rintro ⟨-, hbuilt⟩
    by_contra hnot
    rw [not_or, not_forall] at hnot
    obtain ⟨hefinix, stack, hcheck⟩ := hnot
    obtain ⟨s', hcheck⟩ := not_forall.1 hcheck
    rw [not_not, reloadCheck_congr stack fun i => stack (reloadPacketSize + i)] at hcheck
    have hsent : acc.reloadSent board fallbackFlag stack s =
        some (reloadPacket board.fpgaType fallbackFlag stack) := by
      rw [reloadSent, hcheck]
    -- all of the packet is sent, but less was built
    have hlen := congrArg List.length (hbuilt stack _ hsent)
    rw [length_reloadBuilt, if_neg hefinix] at hlen
    simp [reloadPacket, bytesOf, reloadPacketSize] at hlen
  · -- for a Xilinx FPGA the packet is as long as what is built
    rintro (hxilinx | hold)
    · have hpacket : ∀ stack, reloadPacket board.fpgaType fallbackFlag stack =
          reloadBuilt board.fpgaType fallbackFlag := by
        intro stack
        have hlen : (reloadBuilt board.fpgaType fallbackFlag).length = reloadPacketSize := by
          rw [length_reloadBuilt, if_pos hxilinx]
          rfl
        rw [reloadPacket, ← hlen]
        exact bytesOf_store _ _
      have hsent : ∀ stack stack', acc.reloadSent board fallbackFlag stack s =
          acc.reloadSent board fallbackFlag stack' s := by
        intro stack stack'
        rw [reloadSent, reloadSent, reloadCheck_congr _ fun i => stack' (reloadPacketSize + i),
          hpacket stack, hpacket stack']
      refine ⟨hsent, fun stack d hd => ?_⟩
      rw [(reloadSent_eq_some hd).1, hpacket]
    · have hnone : ∀ stack, acc.reloadSent board fallbackFlag stack s = none := by
        intro stack
        refine Option.eq_none_iff_forall_ne_some.2 fun d hd => ?_
        obtain ⟨-, s', hcheck⟩ := reloadSent_eq_some hd
        exact hold _ s' hcheck
      refine ⟨fun stack stack' => by rw [hnone, hnone], fun stack d hd => ?_⟩
      rw [hnone] at hd
      exact absurd hd.symm (Option.some_ne_none d)

end Lbp16Transport

/-! ### A stack that erases the flash memory -/

/-- An Ethernet board with an Efinix FPGA. -/
def efinixBoard : BoardEntry :=
  { BoardEntry.init .eth (ascii "7I92T") 0 with fpgaType := .efinix }

/-- The socket of a board with firmware 20. -/
def firmware20 : EthSocket := ⟨fun _ packet => packet.length, fun _ => .ok (some [20, 0]), [], 0⟩

/-- A stack that holds what erases a sector, where the packet is not filled. -/
def eraseStack : ℕ → UInt8 := fun i => (List.replicate 12 0 ++ sectorErasePck).getD i 0

/-- **The reload of an Efinix FPGA sends what the stack holds, and the board executes it.** -/
theorem efinixBoard_sendsStack :
    ¬ ethTransport.SendsBuilt efinixBoard 0 firmware20 ∧
      ∃ d, ethTransport.reloadSent efinixBoard 0 eraseStack firmware20 = some d ∧
        ⟨cmdWriteFpgaFlashAddr32 1, flashSecEraseReg, word32 0⟩ ∈ d.commands := by
  have hsent : ∀ stack, ethTransport.reloadSent efinixBoard 0 stack firmware20 =
      some (reloadPacket .efinix 0 stack) := fun _ => rfl
  refine ⟨?_, _, hsent eraseStack, by decide⟩
  rintro ⟨-, hbuilt⟩
  have hlen := congrArg List.length (hbuilt (fun _ => 0) _ (hsent _))
  exact absurd hlen (by decide)

end Mesaflash
