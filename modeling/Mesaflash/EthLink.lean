import Mesaflash.Lbp16
import Mesaflash.EepromLoops
import Mesaflash.Lib.Datagram

/-!
The flash memory of an Ethernet board.

The board executes each datagram that it receives in the order of arrival.  A page
is read from and written to the address that was last received in the address
register, and each command that reads is answered with one datagram.

`remoteAccess` are the access functions of `eeprom_remote.c` over such a network.
While the network is in order and nothing else is under way that brings a page or
changes the flash memory, a page that is read is the page of the flash memory at the
address that was asked for.
-/

namespace Mesaflash

open Lib

/-! ### The board -/

/-- An Ethernet board. -/
structure EthBoard (k : ℕ) where
  flash : Flash (chip k)
  /-- `FLASH_ADDR_REG`. -/
  flashAddr : ℕ

/-- What the commands of a datagram work on. -/
structure EthExec (k : ℕ) where
  board : EthBoard k
  /-- Whether the datagram has enabled writing. -/
  writeEna : Bool
  replies : List Datagram

variable {k : ℕ}

/-- The page in the data of a command. -/
def pageOf (data : List UInt8) : PageBuf := fun i => data.getD i 0

/-- The board executes a command. -/
def EthExec.command (x : EthExec k) (c : Lbp16Command) : EthExec k :=
  if c.cmd = cmdReadFpgaFlashAddr32 1 ∧ c.addr = flashAddrReg then
    { x with replies := x.replies ++ [word32 x.board.flashAddr] }
  else if c.cmd = cmdReadFpgaFlashAddr32 64 ∧ c.addr = flashDataReg then
    { x with
      replies := x.replies ++ [List.ofFn (Flash.readPage x.board.flash x.board.flashAddr)] }
  else if c.cmd = cmdWriteCommCtrlAddr16 1 ∧ c.addr = commCtrlWriteEnaReg then
    { x with writeEna := c.data == word16 0x5A03 }
  else if c.cmd = cmdWriteFpgaFlashAddr32 1 ∧ c.addr = flashAddrReg then
    { x with board := { x.board with flashAddr := wordOf c.data } }
  else if c.cmd = cmdWriteFpgaFlashAddr32 64 ∧ c.addr = flashDataReg ∧ x.writeEna then
    { x with board := { x.board with
      flash := Flash.programPage x.board.flashAddr (pageOf c.data) x.board.flash } }
  else if c.cmd = cmdWriteFpgaFlashAddr32 1 ∧ c.addr = flashSecEraseReg ∧ x.writeEna then
    { x with board := { x.board with
      flash := Flash.eraseSector x.board.flashAddr x.board.flash } }
  else x

/-- The board executes a datagram. -/
def ethServe : Server (EthBoard k) Datagram Datagram := fun d b =>
  let x := d.commands.foldl EthExec.command ⟨b, false, []⟩
  (x.board, x.replies)

lemma pageOf_ofFn (page : PageBuf) : pageOf (List.ofFn page) = page := by
  funext i
  have hlen : (i : ℕ) < (List.ofFn page).length := by simp
  rw [pageOf, List.getD_eq_getElem _ _ hlen, List.getElem_ofFn]

section Serve

variable (b : EthBoard k)

lemma ethServe_writeAddrPck (addr : ℕ) :
    ethServe (writeAddrPck addr) b = ({ b with flashAddr := u32 addr }, []) := by
  rw [← wordOf_word32, ethServe, commands_writeAddrPck]
  rfl

lemma ethServe_readPagePck :
    ethServe readPagePck b = (b, [List.ofFn (Flash.readPage b.flash b.flashAddr)]) := by
  rw [ethServe, commands_readPagePck]
  rfl

lemma ethServe_syncPck : ethServe syncPck b = (b, [word32 b.flashAddr]) := by
  rw [ethServe, commands_syncPck]
  rfl

lemma ethServe_sectorErasePck :
    ethServe sectorErasePck b =
      ({ b with flash := Flash.eraseSector b.flashAddr b.flash }, []) := by
  rw [ethServe, commands_sectorErasePck]
  rfl

lemma ethServe_writePagePck (page : PageBuf) : ethServe (writePagePck page) b =
    ({ b with flash := Flash.programPage b.flashAddr page b.flash }, []) := by
  have henable : EthExec.command ⟨b, false, []⟩
      ⟨cmdWriteCommCtrlAddr16 1, commCtrlWriteEnaReg, word16 0x5A03⟩ = ⟨b, true, []⟩ := rfl
  have hwrite : ∀ data, EthExec.command ⟨b, true, []⟩
      ⟨cmdWriteFpgaFlashAddr32 64, flashDataReg, data⟩ =
        ⟨{ b with flash := Flash.programPage b.flashAddr (pageOf data) b.flash }, true, []⟩ := by
    have hcmd : ∀ c ∈ [cmdReadFpgaFlashAddr32 1, cmdReadFpgaFlashAddr32 64,
        cmdWriteCommCtrlAddr16 1, cmdWriteFpgaFlashAddr32 1],
        ¬ cmdWriteFpgaFlashAddr32 64 = c := by decide
    simp only [List.forall_mem_cons] at hcmd
    simp [EthExec.command, hcmd]
  rw [ethServe, commands_writePagePck, List.foldl_cons, List.foldl_cons, List.foldl_nil, henable,
    hwrite, pageOf_ofFn]

end Serve

/-! ### The access functions -/

/-- A board on the network. -/
abbrev EthNet (k : ℕ) : Type := Net (EthBoard k) Datagram Datagram

section Access

variable (schedule : Schedule Datagram)

/-- `lbp16_send_packet_checked`.  The network accepts every datagram. -/
def lbp16SendPacketChecked (packet : Datagram) (n : EthNet k) : Except Fault (EthNet k) :=
  .ok (n.send ethServe schedule packet)

/-- `eth_recv_packet`, on a blocking socket: the bytes of a datagram that fit. -/
def ethRecvPacket (size : ℕ) (n : EthNet k) : Except Fault (Datagram × EthNet k) :=
  match n.recv ethServe schedule with
  | none => .error .hang
  | some (x, n) => .ok (x.take size, n)

/-- `lbp16_recv_packet_checked`. -/
def lbp16RecvPacketChecked (size : ℕ) (n : EthNet k) : Except Fault (Datagram × EthNet k) := do
  let (x, n) ← ethRecvPacket schedule size n
  if x.length ≠ size then .error .abort else return (x, n)

/-- `lbp16_read`, whose result is not used by the access functions. -/
def lbp16ReadIgnored (cmd addr size : ℕ) (n : EthNet k) : Except Fault (EthNet k) := do
  let n := n.send ethServe schedule (initPacket4 cmd addr)
  let (_, n) ← ethRecvPacket schedule size n
  return n

/-- `read_page`, `write_page` and `erase_sector`. -/
def remoteAccess : SpiEepromDev (EthNet k) where
  readPage addr n := do
    let n ← lbp16SendPacketChecked schedule (writeAddrPck addr) n
    let n ← lbp16SendPacketChecked schedule readPagePck n
    let (buff, n) ← lbp16RecvPacketChecked schedule pageSize n
    return (pageOf buff, n)
  writePage addr page n := do
    let n ← lbp16SendPacketChecked schedule (writeAddrPck addr) n
    let n ← lbp16SendPacketChecked schedule (writePagePck page) n
    lbp16ReadIgnored schedule (cmdReadFpgaFlashAddr32 1) flashAddrReg 4 n
  eraseSector addr n := do
    let n ← lbp16SendPacketChecked schedule (writeAddrPck addr) n
    let n ← lbp16SendPacketChecked schedule sectorErasePck n
    lbp16ReadIgnored schedule (cmdReadFpgaFlashAddr32 1) flashAddrReg 4 n

end Access

/-! ### Reading over a network in order -/

/-- The datagram does not change the flash memory. -/
def KeepsFlash (k : ℕ) (d : Datagram) : Prop := ∀ b : EthBoard k, (ethServe d b).1.flash = b.flash

/-- Nothing is under way that changes the flash memory or brings a page. -/
structure EthNet.Quiet (n : EthNet k) : Prop where
  requests : ∀ d ∈ n.requests, KeepsFlash k d
  replies : ∀ x ∈ n.pending ethServe, x.length < pageSize

/-- From now on the network is in order. -/
def EthNet.InOrder (schedule : Schedule Datagram) (n : EthNet k) : Prop :=
  ∀ m, n.clock ≤ m → ∀ e ∈ schedule m, e.InOrder (ethServe (k := k))

lemma keepsFlash_writeAddrPck (addr : ℕ) : KeepsFlash k (writeAddrPck addr) := fun b => by
  rw [ethServe_writeAddrPck]

lemma keepsFlash_readPagePck : KeepsFlash k readPagePck := fun b => by
  rw [ethServe_readPagePck]

section Reading

variable {schedule : Schedule Datagram} {n : EthNet k} {f : Flash (chip k)}

/-- What holds between two calls while `f` is read: nothing under way changes it. -/
structure EthNet.Holding (schedule : Schedule Datagram) (f : Flash (chip k)) (n : EthNet k) :
    Prop where
  flash : n.server.flash = f
  requests : ∀ d ∈ n.requests, KeepsFlash k d
  inOrder : n.InOrder schedule

namespace EthNet.Holding

lemma drains (h : n.Holding schedule f) : n.Drains ethServe (n.await ethServe schedule) :=
  Net.drains_await fun e he => h.inOrder n.clock le_rfl e he

lemma await (h : n.Holding schedule f) :
    EthNet.Holding schedule f (n.await ethServe schedule) where
  flash := Net.server_await (J := fun b => b.flash = f)
    (fun e he => h.inOrder n.clock le_rfl e he)
    (fun d hd b hb => (h.requests d hd b).trans hb) h.flash
  requests d hd := h.requests d (h.drains.requests hd)
  inOrder m hm := h.inOrder m (Nat.le_of_succ_le hm)

lemma send (h : n.Holding schedule f) {d : Datagram} (hd : KeepsFlash k d) :
    EthNet.Holding schedule f (n.send ethServe schedule d) where
  flash := h.await.flash
  requests d' hd' := by
    rcases List.mem_append.1 hd' with hd' | hd'
    · exact h.await.requests d' hd'
    · exact List.mem_singleton.1 hd' ▸ hd
  inOrder := h.await.inOrder

lemma final (h : n.Holding schedule f) : (n.final ethServe).flash = f :=
  finish_keeps (J := fun b => b.flash = f) (fun d hd b hb => (h.requests d hd b).trans hb) h.flash

end EthNet.Holding

lemma readPage_u32 (hk : k ≤ 8) (f : Flash (chip k)) (addr : ℕ) :
    Flash.readPage f (u32 addr) = Flash.readPage f addr :=
  funext fun i => congrArg f (cell_u32 hk addr i)

/-- Once a page was asked for, it is the last of the replies under way, and the only one that
is long enough. -/
lemma pending_asked (hk : k ≤ 8) (h : n.Holding schedule f) (hquiet : n.Quiet) (addr : ℕ) :
    ∃ replies, (∀ y ∈ replies, y.length < pageSize) ∧
      ((n.send ethServe schedule (writeAddrPck addr)).send ethServe schedule readPagePck).pending
        ethServe = replies ++ [List.ofFn (Flash.readPage f addr)] := by
  set n₁ := n.send ethServe schedule (writeAddrPck addr) with hn₁
  have h₁ : EthNet.Holding schedule f n₁ := h.send (keepsFlash_writeAddrPck addr)
  -- the address has no reply, and the board will have it when it executes the read
  have hpending₁ : ∀ x ∈ n₁.pending ethServe, x.length < pageSize := by
    intro x hx
    rw [hn₁, Net.pending_send, ethServe_writeAddrPck, List.append_nil] at hx
    exact hquiet.replies x (h.drains.pending.subset hx)
  have hfinal₁ : (n₁.final ethServe).flashAddr = u32 addr := by
    rw [hn₁, Net.final_send, ethServe_writeAddrPck]
  -- the read adds one page to the replies
  have hpage : Flash.readPage (n₁.final ethServe).flash (n₁.final ethServe).flashAddr =
      Flash.readPage f addr := by
    rw [h₁.final, hfinal₁, readPage_u32 hk]
  refine ⟨(n₁.await ethServe schedule).pending ethServe, fun y hy => ?_, ?_⟩
  · exact hpending₁ y (h₁.drains.pending.subset hy)
  · rw [Net.pending_send, ethServe_readPagePck, h₁.drains.final, hpage]

/-- **Over a quiet network in order, the page that is read is the one at the address
that was asked for.** -/
theorem readPage_remoteAccess (hk : k ≤ 8) (h : n.Holding schedule f) (hquiet : n.Quiet)
    (addr : ℕ) :
    Delivers (fun r => r.1 = Flash.readPage f addr ∧ r.2.Holding schedule f ∧ r.2.Quiet)
      ((remoteAccess schedule).readPage addr n) := by
  obtain ⟨replies, hshort, hpending₂⟩ := pending_asked hk h hquiet addr
  set n₁ := n.send ethServe schedule (writeAddrPck addr) with hn₁
  set n₂ := n₁.send ethServe schedule readPagePck with hn₂
  have h₁ : EthNet.Holding schedule f n₁ := h.send (keepsFlash_writeAddrPck addr)
  have h₂ : EthNet.Holding schedule f n₂ := h₁.send keepsFlash_readPagePck
  have hrun : (remoteAccess schedule).readPage addr n =
      lbp16RecvPacketChecked schedule pageSize n₂ >>= fun r => .ok (pageOf r.1, r.2) := rfl
  rw [hrun, lbp16RecvPacketChecked, ethRecvPacket]
  cases hrecv : n₂.recv ethServe schedule with
  | none => exact .error trivial
  | some r =>
      obtain ⟨x, n₃⟩ := r
      obtain ⟨hpending, hn₃⟩ := Net.recv_eq_some hrecv
      dsimp only
      rw [ok_bind]
      by_cases hlen : (x.take pageSize).length ≠ pageSize
      · rw [if_pos hlen]
        exact .error trivial
      rw [if_neg hlen]
      -- only the page that was asked for is long enough
      have hlong : ¬ x.length < pageSize := by
        rw [not_not, List.length_take] at hlen
        omega
      have hsub : List.Subperm (x :: n₃.pending ethServe)
          (replies ++ [List.ofFn (Flash.readPage f addr)]) := by
        rw [← hpending, ← hpending₂]
        exact h₂.drains.pending
      have hx : x = List.ofFn (Flash.readPage f addr) := by
        rcases List.mem_append.1 (hsub.subset List.mem_cons_self) with hx | hx
        · exact absurd (hshort x hx) hlong
        · exact List.mem_singleton.1 hx
      refine .ok ⟨?_, ?_, ?_⟩
      · rw [hx, List.take_of_length_le (by simp), pageOf_ofFn]
      · rw [hn₃]
        exact ⟨h₂.await.flash, h₂.await.requests, h₂.await.inOrder⟩
      · refine ⟨?_, fun y hy => hshort y ?_⟩
        · rw [hn₃]
          exact h₂.await.requests
        · rw [← hx] at hsub
          have hrest := hsub.trans (List.perm_append_singleton _ _).subperm
          exact ((List.subperm_cons _).1 hrest).subset hy

end Reading

/-! ### A prompt network -/

/-- A board with nothing under way, before call `c`. -/
def EthNet.idle (b : EthBoard k) (c : ℕ) : EthNet k := ⟨b, [], [], [], c⟩

/-- A board with one datagram under way to it. -/
def EthNet.sent (b : EthBoard k) (d : Datagram) (c : ℕ) : EthNet k := ⟨b, [d], [], [], c⟩

/-- A datagram and the reply to it are delivered. -/
def promptly : List (NetEvent Datagram) := [.deliver 0, .deliverReply 0]

section Prompt

variable {schedule : Schedule Datagram} {b b₁ b₂ : EthBoard k} {c addr : ℕ} {d x : Datagram}

/-- Where nothing is under way, nothing can happen to it. -/
lemma await_idle : (EthNet.idle b c).await ethServe schedule = EthNet.idle b (c + 1) := by
  have hevents : ∀ l, (EthNet.idle b c).events ethServe l = EthNet.idle b c := by
    intro l
    induction l with
    | nil => rfl
    | cons e l ih =>
        have he : (EthNet.idle b c).event ethServe e = EthNet.idle b c := by cases e <;> rfl
        rw [Net.events, List.foldl_cons, he]
        exact ih
  rw [Net.await, show (EthNet.idle b c).clock = c from rfl, hevents]
  rfl

lemma send_idle :
    (EthNet.idle b c).send ethServe schedule d = EthNet.sent b d (c + 1) := by
  rw [Net.send, await_idle]
  rfl

lemma await_sent (h : schedule c = promptly) (hserve : ethServe d b = (b₁, [])) :
    (EthNet.sent b d c).await ethServe schedule = EthNet.idle b₁ (c + 1) := by
  simp [Net.await, Net.events, Net.event, EthNet.sent, EthNet.idle, h, promptly, hserve]

lemma await_sent_reply (h : schedule c = promptly) (hserve : ethServe d b = (b₁, [x])) :
    (EthNet.sent b d c).await ethServe schedule = ⟨b₁, [], [], [x], c + 1⟩ := by
  simp [Net.await, Net.events, Net.event, EthNet.sent, h, promptly, hserve]

lemma await_address {f : Flash (chip k)} {a : ℕ} (h : schedule c = promptly)
    (haddr : addr < 2 ^ 32) :
    (EthNet.sent ⟨f, a⟩ (writeAddrPck addr) c).await ethServe schedule =
      EthNet.idle ⟨f, addr⟩ (c + 1) := by
  rw [await_sent h (ethServe_writeAddrPck _ _), u32_of_lt haddr]

lemma await_lost (h : schedule c = [.lose d]) :
    (EthNet.sent b d c).await ethServe schedule = EthNet.idle b (c + 1) := by
  simp [Net.await, Net.events, Net.event, EthNet.sent, EthNet.idle, h]

/-- The next datagram is sent when nothing is left of the last one. -/
lemma send_of_await {n : EthNet k} (hn : n.await ethServe schedule = EthNet.idle b c) :
    n.send ethServe schedule d = EthNet.sent b d c := by
  rw [Net.send, hn]
  rfl

lemma recv_sent (h : schedule c = promptly) (hserve : ethServe d b = (b₁, [x])) :
    (EthNet.sent b d c).recv ethServe schedule = some (x, EthNet.idle b₁ (c + 1)) := by
  rw [Net.recv, await_sent_reply h hserve]
  rfl

lemma lbp16ReadIgnored_sync {n : EthNet k} (hn : n.await ethServe schedule = EthNet.idle b c)
    (h : schedule c = promptly) :
    lbp16ReadIgnored schedule (cmdReadFpgaFlashAddr32 1) flashAddrReg 4 n =
      .ok (EthNet.idle b (c + 1)) := by
  have hrecv := recv_sent h (ethServe_syncPck b)
  rw [lbp16ReadIgnored, show initPacket4 (cmdReadFpgaFlashAddr32 1) flashAddrReg = syncPck from rfl,
    send_of_await hn, ethRecvPacket, hrecv]
  rfl

/-- A page is read at the address that the board has when the read arrives. -/
lemma readPage_idle
    (h₁ : (EthNet.sent b (writeAddrPck addr) (c + 1)).await ethServe schedule =
      EthNet.idle b₁ (c + 2))
    (h₂ : schedule (c + 2) = promptly) :
    (remoteAccess schedule).readPage addr (EthNet.idle b c) =
      .ok (Flash.readPage b₁.flash b₁.flashAddr, EthNet.idle b₁ (c + 3)) := by
  have hrecv := recv_sent h₂ (ethServe_readPagePck b₁)
  simp only [remoteAccess, lbp16SendPacketChecked, ok_bind, send_idle, send_of_await h₁,
    lbp16RecvPacketChecked, ethRecvPacket, hrecv, pure_eq_ok]
  rw [List.take_of_length_le (by simp), if_neg (by simp), ok_bind, pageOf_ofFn]

lemma writePage_idle {page : PageBuf}
    (h₁ : (EthNet.sent b (writeAddrPck addr) (c + 1)).await ethServe schedule =
      EthNet.idle b₁ (c + 2))
    (h₂ : (EthNet.sent b₁ (writePagePck page) (c + 2)).await ethServe schedule =
      EthNet.idle b₂ (c + 3))
    (h₃ : schedule (c + 3) = promptly) :
    (remoteAccess schedule).writePage addr page (EthNet.idle b c) =
      .ok (EthNet.idle b₂ (c + 4)) := by
  simp only [remoteAccess, lbp16SendPacketChecked, ok_bind, send_idle, send_of_await h₁,
    lbp16ReadIgnored_sync h₂ h₃]

lemma eraseSector_idle
    (h₁ : (EthNet.sent b (writeAddrPck addr) (c + 1)).await ethServe schedule =
      EthNet.idle b₁ (c + 2))
    (h₂ : (EthNet.sent b₁ sectorErasePck (c + 2)).await ethServe schedule =
      EthNet.idle b₂ (c + 3))
    (h₃ : schedule (c + 3) = promptly) :
    (remoteAccess schedule).eraseSector addr (EthNet.idle b c) =
      .ok (EthNet.idle b₂ (c + 4)) := by
  simp only [remoteAccess, lbp16SendPacketChecked, ok_bind, send_idle, send_of_await h₁,
    lbp16ReadIgnored_sync h₂ h₃]

/-- **Over a network that delivers everything at once, the access functions are those of
the flash memory.** -/
theorem remoteAccess_promptly (h : ∀ m, schedule m = promptly) (haddr : addr < 2 ^ 32) :
    (∃ b', (remoteAccess schedule).readPage addr (EthNet.idle b c) =
        .ok (Flash.readPage b.flash addr, EthNet.idle b' (c + 3)) ∧ b'.flash = b.flash) ∧
      (∀ page, ∃ b', (remoteAccess schedule).writePage addr page (EthNet.idle b c) =
        .ok (EthNet.idle b' (c + 4)) ∧ b'.flash = Flash.programPage addr page b.flash) ∧
      ∃ b', (remoteAccess schedule).eraseSector addr (EthNet.idle b c) =
        .ok (EthNet.idle b' (c + 4)) ∧ b'.flash = Flash.eraseSector addr b.flash := by
  have haddress := await_address (f := b.flash) (a := b.flashAddr) (h (c + 1)) haddr
  refine ⟨⟨_, readPage_idle haddress (h _), rfl⟩, fun page => ⟨_, writePage_idle haddress
    (await_sent (h _) (ethServe_writePagePck _ page)) (h _), rfl⟩, ⟨_, eraseSector_idle haddress
    (await_sent (h _) (ethServe_sectorErasePck _)) (h _), rfl⟩⟩

end Prompt

end Mesaflash
