import Mesaflash.EthLink
import Mesaflash.Registry
import Mesaflash.RegisterAccess

/-!
The transport of LBP16 packets.

A transport reports how much of a packet it has sent and how much of a reply it has received.
`lbp16_read` looks at neither, and the scan for an Ethernet board compares the second as an
unsigned number.  Where no reply has come, the bytes that are left in the stack take its place.
-/

namespace Mesaflash

open Lib

/-! ### Transports -/

/-- `lbp16_access_t`, with transports that can fail. -/
structure Lbp16Transport (σ : Type) where
  /-- The result of `send_packet`. -/
  sendPacket : Datagram → σ → Except Fault (ℤ × σ)
  /-- The bytes that `recv_packet` has stored, where it does not return -1. -/
  recvPacket : ℕ → σ → Except Fault (Option Datagram × σ)
  /-- Not more is stored than was asked for. -/
  length_le : ∀ {size s x s'}, recvPacket size s = .ok (some x, s') → x.length ≤ size

def cmdReadHm2Cookie : ℕ := lbp16Read ||| lbp16Addr ||| lbp16Args32Bit ||| 1
def cmdReadFlashIdrom : ℕ := cmdReadFpgaFlashAddr32 1
def flashIdReg : ℕ := 0x0008
def lbp16SpaceBoardInfo : ℕ := 0x1C00

/-- `CMD_READ_BOARD_INFO_ADDR16`. -/
def cmdReadBoardInfoAddr16 (size : ℕ) : ℕ :=
  lbp16Read ||| lbp16Addr ||| lbp16Args16Bit ||| lbp16SpaceBoardInfo |||
    (size &&& lbp16MaxPacketDataSize)

/-- What `recv_packet` returns. -/
def recvResult (reply : Option Datagram) : ℤ :=
  match reply with
  | none => -1
  | some x => x.length

/-- A buffer of the stack after `recv_packet`. -/
def received (stack : ℕ → UInt8) (size : ℕ) (reply : Option Datagram) : List UInt8 :=
  bytesOf (store (reply.getD []) stack) size

/-- An `int` that is stored in a `size_t`. -/
def toSizeT (n : ℤ) : ℕ := (n % 0x10000000000000000).toNat

namespace Lbp16Transport

variable {σ : Type} (acc : Lbp16Transport σ)

/-- `lbp16_send_packet_checked`. -/
def sendPacketChecked (packet : Datagram) (s : σ) : Except Fault σ := do
  let (result, s) ← acc.sendPacket packet s
  if (packet.length : ℤ) ≠ result then .error .abort else return s

/-- `lbp16_recv_packet_checked`. -/
def recvPacketChecked (stack : ℕ → UInt8) (size : ℕ) (s : σ) : Except Fault (Datagram × σ) := do
  let (reply, s) ← acc.recvPacket size s
  if (size : ℤ) ≠ recvResult reply then .error .abort else return (received stack size reply, s)

/-- `lbp16_read`: what it returns, and the bytes that it stores in the buffer of the caller. -/
def read (stack : ℕ → UInt8) (cmd addr size : ℕ) (s : σ) :
    Except Fault (ℤ × Datagram × σ) := do
  let (_, s) ← acc.sendPacket (initPacket4 cmd addr) s
  let (reply, s) ← acc.recvPacket size s
  return (0, received stack size reply, s)

/-- The part of `eth_scan_one_addr` that asks for the cookie. -/
def scanCookie (stack : ℕ → UInt8) (s : σ) : Except Fault (Bool × σ) := do
  let s ← acc.sendPacketChecked (initPacket4 cmdReadHm2Cookie hm2CookieReg) s
  let (reply, s) ← acc.recvPacket 4 s
  let recv := toSizeT (recvResult reply)
  return (decide (0 < recv ∧ wordOf (received stack 4 reply) = hm2Cookie), s)

end Lbp16Transport

/-! ### What is left in the stack -/

section Stack

variable {x : Datagram} {stack : ℕ → UInt8} {n : ℕ}

lemma received_of_length (h : x.length = n) : received stack n (some x) = x := by
  subst h
  exact bytesOf_store x stack

lemma length_received (reply : Option Datagram) : (received stack n reply).length = n := by
  simp [received, bytesOf]

/-- The bytes that have come are the first ones of the buffer. -/
lemma prefix_received (h : x.length ≤ n) : x <+: received stack n (some x) := by
  refine List.prefix_iff_eq_take.2 (List.ext_getElem ?_ fun i hi hi' => ?_)
  · rw [List.length_take, length_received, Nat.min_eq_left h]
  · rw [List.getElem_take]
    simp [received, bytesOf, store, hi]

/-- The stack can hold the rest of any bytes. -/
lemma exists_received {y : Datagram} (h : x <+: y) :
    ∃ stack : ℕ → UInt8, received stack y.length (some x) = y := by
  obtain ⟨t, rfl⟩ := h
  refine ⟨fun i => (x ++ t).getD i 0, List.ext_getElem (length_received _) fun i hi hi' => ?_⟩
  rw [← List.getD_eq_getElem (x ++ t) 0 hi']
  simp only [received, bytesOf, Option.getD_some, List.getElem_map, List.getElem_range, store]
  rcases Nat.lt_or_ge i x.length with hlt | hge
  · rw [List.getD_eq_getElem _ _ hlt, List.getD_append _ _ _ _ hlt, List.getD_eq_getElem _ _ hlt]
  · rw [List.getD_eq_default _ _ hge]

lemma exists_received_none (y : Datagram) :
    ∃ stack : ℕ → UInt8, received stack y.length none = y :=
  exists_received y.nil_prefix

end Stack

/-! ### Reads without a reply -/

namespace Lbp16Transport

variable {σ : Type} (acc : Lbp16Transport σ)

/-- `lbp16_read` does not let the stack through, and returns 0 only for a complete reply, which
it delivers. -/
def ReadsReply (cmd addr size : ℕ) (s : σ) : Prop :=
  (∀ stack stack', acc.read stack cmd addr size s = acc.read stack' cmd addr size s) ∧
    ∀ stack x s', acc.read stack cmd addr size s = .ok (0, x, s') →
      ∃ r s₁, acc.sendPacket (initPacket4 cmd addr) s = .ok (r, s₁) ∧
        acc.recvPacket size s₁ = .ok (some x, s') ∧ x.length = size

/-- Whatever is received after the request is a complete reply. -/
def ReplyComplete (cmd addr size : ℕ) (s : σ) : Prop :=
  ∀ r s₁ reply s', acc.sendPacket (initPacket4 cmd addr) s = .ok (r, s₁) →
    acc.recvPacket size s₁ = .ok (reply, s') → ∃ x, reply = some x ∧ x.length = size

/-- The scan does not let the stack decide, and takes a board to answer only after a complete
cookie. -/
def ScansCookie (s : σ) : Prop :=
  (∀ stack stack', acc.scanCookie stack s = acc.scanCookie stack' s) ∧
    ∀ stack s', acc.scanCookie stack s = .ok (true, s') →
      ∃ s₁ x, acc.sendPacketChecked (initPacket4 cmdReadHm2Cookie hm2CookieReg) s = .ok s₁ ∧
        acc.recvPacket 4 s₁ = .ok (some x, s') ∧ x.length = 4

/-- What is received is a complete cookie, or nothing, or shows by itself that it is none. -/
def CookieDecides (s : σ) : Prop :=
  ∀ s₁ reply s', acc.sendPacketChecked (initPacket4 cmdReadHm2Cookie hm2CookieReg) s = .ok s₁ →
    acc.recvPacket 4 s₁ = .ok (reply, s') →
      ∃ x, reply = some x ∧ (x.length = 4 ∨ x = [] ∨ ¬ x <+: word32 hm2Cookie)

variable {acc} {stack : ℕ → UInt8} {cmd addr size : ℕ} {s s₁ s' : σ} {r : ℤ}
  {reply : Option Datagram}

/-- `lbp16_read` returns 0 after every reply, and after none. -/
lemma read_eq (hsend : acc.sendPacket (initPacket4 cmd addr) s = .ok (r, s₁))
    (hrecv : acc.recvPacket size s₁ = .ok (reply, s')) :
    acc.read stack cmd addr size s = .ok (0, received stack size reply, s') := by
  rw [read, hsend, ok_bind]
  dsimp only
  rw [hrecv]
  rfl

lemma readsReply_iff : acc.ReadsReply cmd addr size s ↔ acc.ReplyComplete cmd addr size s := by
  constructor
  · rintro ⟨-, hzero⟩ r s₁ reply s' hsend hrecv
    obtain ⟨r', s₂, hsend', hrecv', hlen⟩ :=
      hzero (fun _ => 0) _ s' (read_eq hsend hrecv)
    cases hsend.symm.trans hsend'
    obtain ⟨hreply, -⟩ := Prod.mk.inj (Except.ok.inj (hrecv.symm.trans hrecv'))
    exact ⟨_, hreply, hlen⟩
  · intro hcomplete
    rcases hsend : acc.sendPacket (initPacket4 cmd addr) s with f | ⟨r, s₁⟩
    · have hread : ∀ stack, acc.read stack cmd addr size s = .error f := fun stack => by
        rw [read, hsend, error_bind]
      refine ⟨fun _ _ => by rw [hread, hread], ?_⟩
      intro stack x s' h
      exact nomatch (hread stack).symm.trans h
    · rcases hrecv : acc.recvPacket size s₁ with f | ⟨reply, s'⟩
      · have hread : ∀ stack, acc.read stack cmd addr size s = .error f := fun stack => by
          rw [read, hsend, ok_bind]
          dsimp only
          rw [hrecv, error_bind]
        exact ⟨fun _ _ => by rw [hread, hread],
          fun stack x s' h => nomatch (hread stack).symm.trans h⟩
      · obtain ⟨x, rfl, hlen⟩ := hcomplete r s₁ reply s' hsend hrecv
        have hread : ∀ stack, acc.read stack cmd addr size s = .ok (0, x, s') := fun stack => by
          rw [read_eq hsend hrecv, received_of_length hlen]
        refine ⟨fun _ _ => by rw [hread, hread], fun stack y t h => ?_⟩
        cases (hread stack).symm.trans h
        exact ⟨r, s₁, hsend, hrecv, hlen⟩

variable (stack) in
/-- What the scan makes of a reply. -/
lemma scanCookie_eq
    (hsend : acc.sendPacketChecked (initPacket4 cmdReadHm2Cookie hm2CookieReg) s = .ok s₁)
    (hrecv : acc.recvPacket 4 s₁ = .ok (reply, s')) :
    acc.scanCookie stack s = .ok (decide (0 < toSizeT (recvResult reply) ∧
      wordOf (received stack 4 reply) = hm2Cookie), s') := by
  rw [scanCookie, hsend, ok_bind, hrecv]
  rfl

lemma toSizeT_recvResult {x : Datagram} (h : x.length ≤ 4) :
    toSizeT (recvResult (some x)) = x.length := by
  simp only [toSizeT, recvResult]
  omega

/-- The stack is taken for the cookie exactly where it can complete what was received. -/
lemma wordOf_received_iff {x : Datagram} (h : x.length ≤ 4) :
    (∃ stack, wordOf (received stack 4 (some x)) = hm2Cookie) ↔ x <+: word32 hm2Cookie := by
  have hword : wordOf (word32 hm2Cookie) = hm2Cookie := wordOf_word32 hm2Cookie
  constructor
  · rintro ⟨stack, hstack⟩
    have hbytes : received stack 4 (some x) = word32 hm2Cookie :=
      wordOf_injective (length_received _) (hstack.trans hword.symm)
    rw [← hbytes]
    exact prefix_received h
  · intro hx
    obtain ⟨stack, hstack⟩ := exists_received hx
    exact ⟨stack, (congrArg wordOf hstack).trans hword⟩

lemma cookieDecides_of_scansCookie (h : acc.ScansCookie s) : acc.CookieDecides s := by
  obtain ⟨-, htrue⟩ := h
  intro s₁ reply s' hsend hrecv
  have hanswer : ∀ stack, 0 < toSizeT (recvResult reply) →
      wordOf (received stack 4 reply) = hm2Cookie → ∃ x, reply = some x ∧ x.length = 4 := by
    intro stack hpos hword
    have hscan := scanCookie_eq stack hsend hrecv
    rw [decide_eq_true ⟨hpos, hword⟩] at hscan
    obtain ⟨s₂, x, hsend', hrecv', hlen⟩ := htrue stack s' hscan
    cases hsend.symm.trans hsend'
    obtain ⟨hreply, -⟩ := Prod.mk.inj (Except.ok.inj (hrecv.symm.trans hrecv'))
    exact ⟨x, hreply, hlen⟩
  rcases reply with _ | x
  · -- `-1` is a large number, and the stack can hold the cookie
    obtain ⟨stack, hstack⟩ := exists_received_none (word32 hm2Cookie)
    exact absurd (hanswer stack (by decide) ((congrArg wordOf hstack).trans (wordOf_word32 _)))
      (by simp)
  · have hle := acc.length_le hrecv
    refine ⟨x, rfl, ?_⟩
    by_cases hx : x <+: word32 hm2Cookie
    · rcases Nat.eq_zero_or_pos x.length with hzero | hpos
      · exact .inr (.inl (List.length_eq_zero_iff.1 hzero))
      · obtain ⟨stack, hstack⟩ := (wordOf_received_iff hle).2 hx
        obtain ⟨y, hy, hlen⟩ :=
          hanswer stack (by rw [toSizeT_recvResult hle]; exact hpos) hstack
        cases hy
        exact .inl hlen
    · exact .inr (.inr hx)

lemma scansCookie_of_cookieDecides (h : acc.CookieDecides s) : acc.ScansCookie s := by
  rcases hsend : acc.sendPacketChecked (initPacket4 cmdReadHm2Cookie hm2CookieReg) s with f | s₁
  · have hscan : ∀ stack, acc.scanCookie stack s = .error f := fun stack => by
      rw [scanCookie, hsend, error_bind]
    exact ⟨fun _ _ => by rw [hscan, hscan], fun stack s' h => nomatch (hscan stack).symm.trans h⟩
  · rcases hrecv : acc.recvPacket 4 s₁ with f | ⟨reply, s'⟩
    · have hscan : ∀ stack, acc.scanCookie stack s = .error f := fun stack => by
        rw [scanCookie, hsend, ok_bind, hrecv, error_bind]
      exact ⟨fun _ _ => by rw [hscan, hscan],
        fun stack s' h => nomatch (hscan stack).symm.trans h⟩
    · obtain ⟨x, rfl, hx⟩ := h s₁ reply s' hsend hrecv
      have hle := acc.length_le hrecv
      rcases hx with hlen | hx
      · -- a complete cookie
        have hscan : ∀ stack, acc.scanCookie stack s =
            .ok (decide (0 < x.length ∧ wordOf x = hm2Cookie), s') := fun stack => by
          rw [scanCookie_eq _ hsend hrecv, toSizeT_recvResult hle, received_of_length hlen]
        refine ⟨fun _ _ => by rw [hscan, hscan], fun stack t ht => ?_⟩
        obtain ⟨-, rfl⟩ := Prod.mk.inj (Except.ok.inj ((hscan stack).symm.trans ht))
        exact ⟨s₁, x, hsend, hrecv, hlen⟩
      · have hscan : ∀ stack, acc.scanCookie stack s = .ok (false, s') := fun stack => by
          rw [scanCookie_eq _ hsend hrecv, toSizeT_recvResult hle, decide_eq_false]
          rintro ⟨hpos, hword⟩
          rcases hx with rfl | hx
          · exact absurd hpos (Nat.lt_irrefl 0)
          · exact hx ((wordOf_received_iff hle).1 ⟨stack, hword⟩)
        exact ⟨fun _ _ => by rw [hscan, hscan],
          fun stack t ht => nomatch (hscan stack).symm.trans ht⟩

/-- **No data without a reply: `lbp16_read` and the scan keep to it exactly where the transport
delivers the reply.** -/
theorem noDataWithoutReply_iff (acc : Lbp16Transport σ) (cmd addr size : ℕ) (s : σ) :
    (acc.ReadsReply cmd addr size s ↔ acc.ReplyComplete cmd addr size s) ∧
      (acc.ScansCookie s ↔ acc.CookieDecides s) :=
  ⟨readsReply_iff, cookieDecides_of_scansCookie, scansCookie_of_cookieDecides⟩

end Lbp16Transport

/-! ### Ethernet -/

/-- The socket of the Ethernet boards: what `sendto` and `recvfrom` do in turn. -/
structure EthSocket where
  sendto : ℕ → Datagram → ℤ
  recvfrom : ℕ → Except Fault (Option Datagram)
  sent : List Datagram
  receives : ℕ

/-- `eth_send_packet` and `eth_recv_packet`.  A datagram is cut to the size of the buffer. -/
def ethTransport : Lbp16Transport EthSocket where
  sendPacket packet s :=
    .ok (s.sendto s.sent.length packet, { s with sent := s.sent ++ [packet] })
  recvPacket size s :=
    (s.recvfrom s.receives).map fun reply =>
      (reply.map (List.take size), { s with receives := s.receives + 1 })
  length_le := by
    intro size s x s' h
    rcases hrecv : s.recvfrom s.receives with f | reply
    · rw [hrecv] at h
      exact nomatch h
    · rw [hrecv] at h
      obtain ⟨hx, -⟩ := Prod.mk.inj (Except.ok.inj h)
      obtain ⟨y, -, rfl⟩ := Option.map_eq_some_iff.1 hx
      rw [List.length_take]
      exact Nat.min_le_left _ _

/-- A non-blocking socket in a network without boards. -/
def silentSocket : EthSocket := ⟨fun _ packet => packet.length, fun _ => .ok none, [], 0⟩

/-- **Without a board in the network, `lbp16_read` returns 0 and delivers the stack, and the
stack decides whether a board answers.** -/
theorem silentSocket_answers :
    (∀ stack, ∃ s', ethTransport.read stack cmdReadFlashIdrom flashIdReg 4 silentSocket =
      .ok (0, bytesOf stack 4, s')) ∧
    (∃ stack s', ethTransport.scanCookie stack silentSocket = .ok (true, s')) ∧
    ¬ ethTransport.ReadsReply cmdReadFlashIdrom flashIdReg 4 silentSocket ∧
    ¬ ethTransport.ScansCookie silentSocket := by
  have hread : ¬ ethTransport.ReadsReply cmdReadFlashIdrom flashIdReg 4 silentSocket := by
    rintro ⟨-, hzero⟩
    obtain ⟨r, s₁, hsend, hrecv, -⟩ := hzero (fun _ => 0) _ _ rfl
    cases hsend
    exact nomatch hrecv
  have hscan : ¬ ethTransport.ScansCookie silentSocket := by
    intro hscans
    obtain ⟨x, hx, -⟩ := Lbp16Transport.cookieDecides_of_scansCookie hscans _ none _ rfl rfl
    exact nomatch hx
  refine ⟨fun stack => ⟨_, rfl⟩, ⟨fun i => (word32 hm2Cookie).getD i 0, _, rfl⟩, hread, hscan⟩

end Mesaflash
