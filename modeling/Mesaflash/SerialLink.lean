import Mesaflash.Lbp16Transport

/-!
The serial line.

`serial_send_packet` counts what `write` returns until the size of the packet is reached.  Every
`write` starts at the first byte of the packet, and a `write` that fails counts as -1.  So the
count can reach the size while the line has taken other bytes.

`serial_recv_packet` reads byte by byte.  Both give up after five timeouts.
-/

namespace Mesaflash

open Lib

/-! ### Sending -/

/-- A round of the loop of `serial_send_packet`: `ppoll` fails, or times out, or is followed by
`write`, which fails or takes the first bytes of the packet. -/
inductive SendRound where
  | failed
  | timeout
  | ready (written : Option ℕ)
deriving DecidableEq, Repr

/-- The bytes that the line takes in a round. -/
def SendRound.taken (packet : Datagram) : SendRound → Datagram
  | .ready (some n) => packet.take n
  | _ => []

/-- What a round adds to the count. -/
def SendRound.result (packet : Datagram) : SendRound → ℤ
  | .ready none => -1
  | .ready (some n) => (packet.take n).length
  | _ => 0

/-- The state of the loop. -/
structure SendState where
  round : ℕ
  r : ℤ
  timeouts : ℕ
  /-- The bytes that the line has taken. -/
  taken : Datagram
deriving DecidableEq, Repr

section Send

variable (packet : Datagram) (rounds : ℕ → SendRound)

/-- The body of the loop. -/
def sendRound (s : SendState) : Except (Stop (ℤ × SendState)) SendState :=
  let next := { s with round := s.round + 1 }
  match rounds s.round with
  | .failed => .error (.ret (s.r, next))
  | .timeout =>
    if s.timeouts + 1 = 5 then .error (.ret (-1, next))
    else .ok { next with timeouts := s.timeouts + 1 }
  | .ready written =>
    .ok { next with
      r := s.r + (SendRound.ready written).result packet
      taken := s.taken ++ (SendRound.ready written).taken packet }

/-- `serial_send_packet`. -/
def serialSendPacket (fuel : ℕ) : Except Fault (ℤ × SendState) := body do
  let s ← whileM (.fault .hang) (fun s => decide (s.r < (packet.length : ℤ)))
    (sendRound packet rounds) fuel ⟨0, 0, 0, []⟩
  return (s.r, s)

/-- The sum of the results of the first rounds. -/
def resultSum (n : ℕ) : ℤ := ((List.range n).map fun j => (rounds j).result packet).sum

/-- The number of timeouts in the first rounds. -/
def timeoutCount (n : ℕ) : ℕ := (List.range n).countP fun j => rounds j = .timeout

/-- The bytes that the line takes in the first rounds. -/
def takenBytes (n : ℕ) : Datagram := (List.range n).flatMap fun j => (rounds j).taken packet

/-- The results add up to the size of the packet after `n` rounds, and no earlier. -/
structure Completes (n : ℕ) : Prop where
  before : ∀ j < n, resultSum packet rounds j < packet.length
  failed : ∀ j < n, rounds j ≠ .failed
  timeouts : timeoutCount rounds n < 5
  sum : resultSum packet rounds n = packet.length

/-- The results add up to the size of the packet although a `write` failed or took other bytes
than those that were due. -/
def Misaligned : Prop :=
  ∃ n, Completes packet rounds n ∧ ∃ j < n, rounds j = .ready none ∨
    (rounds j).taken packet ≠
      (packet.drop (resultSum packet rounds j).toNat).take ((rounds j).taken packet).length

/-- Where the result is the size of the packet, the line has taken the packet. -/
def SendsWhole : Prop :=
  ∀ fuel s, serialSendPacket packet rounds fuel = .ok (packet.length, s) → s.taken = packet

end Send

/-! ### The rounds of a call -/

section Rounds

variable {packet : Datagram} {rounds : ℕ → SendRound} {n : ℕ}

lemma resultSum_succ (n : ℕ) :
    resultSum packet rounds (n + 1) = resultSum packet rounds n + (rounds n).result packet := by
  simp [resultSum, List.range_succ]

lemma timeoutCount_succ (n : ℕ) : timeoutCount rounds (n + 1) =
    timeoutCount rounds n + if rounds n = .timeout then 1 else 0 := by
  simp [timeoutCount, List.range_succ, List.countP_append, List.countP_singleton]

lemma takenBytes_succ (n : ℕ) :
    takenBytes packet rounds (n + 1) = takenBytes packet rounds n ++ (rounds n).taken packet := by
  simp [takenBytes, List.range_succ, List.flatMap_append]

variable (rounds) in
lemma timeoutCount_mono {m n : ℕ} (h : m ≤ n) : timeoutCount rounds m ≤ timeoutCount rounds n := by
  induction n, h using Nat.le_induction with
  | base => exact le_rfl
  | succ n _ ih =>
      rw [timeoutCount_succ]
      exact ih.trans (Nat.le_add_right _ _)

variable (packet rounds) in
/-- The state after `n` rounds that go on. -/
def sendState (n : ℕ) : SendState :=
  ⟨n, resultSum packet rounds n, timeoutCount rounds n, takenBytes packet rounds n⟩

/-- What a round does: the loop goes on, or the call returns something that is not the size. -/
lemma sendRound_sendState (n : ℕ) :
    sendRound packet rounds (sendState packet rounds n) =
      if rounds n = .failed then .error (.ret (resultSum packet rounds n,
        { sendState packet rounds n with round := n + 1 }))
      else if rounds n = .timeout ∧ timeoutCount rounds (n + 1) = 5 then
        .error (.ret (-1, { sendState packet rounds n with round := n + 1 }))
      else .ok (sendState packet rounds (n + 1)) := by
  rw [sendState, sendState, timeoutCount_succ, resultSum_succ, takenBytes_succ]
  rcases hround : rounds n with _ | _ | written
  · simp only [sendRound, hround, if_true]
  · simp only [sendRound, hround, if_true, SendRound.result, SendRound.taken, add_zero,
      List.append_nil, true_and, reduceCtorEq, if_false]
  · simp only [sendRound, hround, reduceCtorEq, if_false, false_and, add_zero]

lemma sendRound_eq_ok {s : SendState} :
    sendRound packet rounds (sendState packet rounds n) = .ok s ↔
      (rounds n ≠ .failed ∧ ¬ (rounds n = .timeout ∧ timeoutCount rounds (n + 1) = 5)) ∧
        s = sendState packet rounds (n + 1) := by
  rw [sendRound_sendState]
  split_ifs with hfailed htimeout
  · simp [hfailed]
  · simp [htimeout]
  · rw [Except.ok.injEq, eq_comm]
    exact (and_iff_right ⟨hfailed, htimeout⟩).symm

variable (packet rounds) in
/-- The condition of the loop. -/
def sendCond (s : SendState) : Bool := decide (s.r < (packet.length : ℤ))

/-- The rounds that go on. -/
lemma goesOn_iff : GoesOn (sendCond packet) (sendRound packet rounds) (sendState packet rounds) n ↔
    (∀ j < n, resultSum packet rounds j < packet.length) ∧ (∀ j < n, rounds j ≠ .failed) ∧
      timeoutCount rounds n < 5 := by
  constructor
  · intro h
    refine ⟨fun j hj => of_decide_eq_true (h j hj).1,
      fun j hj => (sendRound_eq_ok.1 (h j hj).2).1.1, ?_⟩
    induction n with
    | zero => exact Nat.zero_lt_succ 4
    | succ n ih =>
        have hn := (sendRound_eq_ok.1 (h n (Nat.lt_succ_self n)).2).1.2
        have hlt := ih fun j hj => h j (Nat.lt_succ_of_lt hj)
        rw [timeoutCount_succ] at hn ⊢
        split_ifs at hn ⊢ with hround
        · have hne := not_and.1 hn hround
          omega
        · exact hlt
  · rintro ⟨hbefore, hfailed, htimeouts⟩ j hj
    refine ⟨decide_eq_true (hbefore j hj), sendRound_eq_ok.2 ⟨⟨hfailed j hj, ?_⟩, rfl⟩⟩
    rintro ⟨-, hfive⟩
    have hmono := timeoutCount_mono rounds (Nat.succ_le_of_lt hj)
    rw [Nat.succ_eq_add_one, hfive] at hmono
    omega

lemma serialSendPacket_eq (fuel : ℕ) : serialSendPacket packet rounds fuel =
    body (whileM (.fault .hang) (sendCond packet) (sendRound packet rounds) fuel
      (sendState packet rounds 0) >>= fun s => return (s.r, s)) := rfl

/-- The call returns the size exactly where the results add up to it. -/
lemma serialSendPacket_eq_size_iff {s : SendState} :
    (∃ fuel, serialSendPacket packet rounds fuel = .ok (packet.length, s)) ↔
      ∃ n, Completes packet rounds n ∧ s = sendState packet rounds n := by
  constructor
  · rintro ⟨fuel, h⟩
    rw [serialSendPacket_eq] at h
    have hstep : ∀ i t, sendCond packet (sendState packet rounds i) = true →
        sendRound packet rounds (sendState packet rounds i) = .ok t →
          t = sendState packet rounds (i + 1) := fun i t _ ht => (sendRound_eq_ok.1 ht).2
    rcases whileM_exits (.fault .hang) hstep fuel with hstuck | ⟨n, -, hgoes, hexit⟩
    · rw [hstuck] at h
      exact nomatch h
    · generalize whileM (.fault .hang) (sendCond packet) (sendRound packet rounds) fuel
        (sendState packet rounds 0) = r at h hexit
      obtain ⟨hbefore, hfailed, htimeouts⟩ := goesOn_iff.1 hgoes
      cases hexit with
      | done hcond =>
          obtain ⟨hsum, rfl⟩ := Prod.mk.inj (Except.ok.inj h)
          exact ⟨n, ⟨hbefore, hfailed, htimeouts, hsum⟩, rfl⟩
      | error hcond he =>
          -- what is returned from inside the loop is not the size
          have hlt : resultSum packet rounds n < packet.length := of_decide_eq_true hcond
          rw [sendRound_sendState] at he
          split_ifs at he
          · cases he
            have hsum := (Prod.mk.inj (Except.ok.inj h)).1
            omega
          · cases he
            have hsum := (Prod.mk.inj (Except.ok.inj h)).1
            omega
  · rintro ⟨n, ⟨hbefore, hfailed, htimeouts, hsum⟩, rfl⟩
    have hcond : sendCond packet (sendState packet rounds n) = false :=
      decide_eq_false (not_lt.2 hsum.ge)
    refine ⟨n + 1, ?_⟩
    rw [serialSendPacket_eq, whileM_of_exitsAt _ (goesOn_iff.2 ⟨hbefore, hfailed, htimeouts⟩)
      (.done hcond) 0]
    change Except.ok (resultSum packet rounds n, _) = _
    rw [hsum]

/-! ### What the line has taken -/

/-- A `write` that did not fail adds the bytes that it took. -/
lemma result_eq_length (h : rounds n ≠ .ready none) :
    (rounds n).result packet = ((rounds n).taken packet).length := by
  rcases hround : rounds n with _ | _ | _ | m
  · rfl
  · rfl
  · exact absurd hround h
  · rfl

variable (packet rounds) in
/-- The line takes at least as many bytes as are counted. -/
lemma resultSum_le (n : ℕ) :
    resultSum packet rounds n ≤ (takenBytes packet rounds n).length := by
  induction n with
  | zero => exact le_rfl
  | succ n ih =>
      rw [resultSum_succ, takenBytes_succ, List.length_append, Nat.cast_add]
      refine add_le_add ih ?_
      by_cases hround : rounds n = .ready none
      · rw [hround]
        change (-1 : ℤ) ≤ 0
        decide
      · exact (result_eq_length hround).le

/-- Where it takes no more than that, no `write` failed. -/
lemma ne_failed_of_length (h : resultSum packet rounds n = (takenBytes packet rounds n).length) :
    ∀ j < n, rounds j ≠ .ready none ∧
      resultSum packet rounds j = (takenBytes packet rounds j).length := by
  induction n with
  | zero => exact fun j hj => absurd hj (Nat.not_lt_zero j)
  | succ n ih =>
      rw [resultSum_succ, takenBytes_succ, List.length_append, Nat.cast_add] at h
      have hle := resultSum_le packet rounds n
      have hround : rounds n ≠ .ready none := by
        intro hround
        rw [hround] at h
        simp only [SendRound.result, SendRound.taken, List.length_nil] at h
        omega
      have hsum : resultSum packet rounds n = (takenBytes packet rounds n).length := by
        rw [result_eq_length hround] at h
        omega
      intro j hj
      rcases Nat.lt_succ_iff_lt_or_eq.1 hj with hlt | rfl
      · exact ih hsum j hlt
      · exact ⟨hround, hsum⟩

variable (packet rounds) in
lemma takenBytes_prefix {m n : ℕ} (h : m ≤ n) :
    takenBytes packet rounds m <+: takenBytes packet rounds n := by
  induction n, h using Nat.le_induction with
  | base => exact List.prefix_rfl
  | succ n _ ih =>
      rw [takenBytes_succ]
      exact ih.trans (List.prefix_append _ _)

/-- Bytes that continue the beginning of a packet are the ones that are due. -/
lemma append_prefix_iff {x y : Datagram} (hx : x = packet.take x.length) :
    x ++ y <+: packet ↔ y = (packet.drop x.length).take y.length := by
  rw [List.prefix_iff_eq_take, List.length_append, List.take_add, ← hx, List.append_cancel_left_eq]

/-- **What was counted as the size is the packet exactly where no round was misaligned.** -/
theorem sendsWhole_iff : SendsWhole packet rounds ↔ ¬ Misaligned packet rounds := by
  constructor
  · rintro hwhole ⟨n, hcompletes, j, hj, hbad⟩
    obtain ⟨fuel, hrun⟩ := serialSendPacket_eq_size_iff.2 ⟨n, hcompletes, rfl⟩
    have htaken : takenBytes packet rounds n = packet := hwhole fuel _ hrun
    have hlen : resultSum packet rounds n = (takenBytes packet rounds n).length := by
      rw [htaken]
      exact hcompletes.sum
    obtain ⟨hround, hsum⟩ := ne_failed_of_length hlen j hj
    rcases hbad with hfailed | hbytes
    · exact hround hfailed
    · have hprefix := takenBytes_prefix packet rounds (Nat.succ_le_of_lt hj)
      have hpre := takenBytes_prefix packet rounds hj.le
      rw [htaken] at hprefix hpre
      rw [Nat.succ_eq_add_one, takenBytes_succ,
        append_prefix_iff (List.prefix_iff_eq_take.1 hpre)] at hprefix
      rw [hsum, Int.toNat_natCast] at hbytes
      exact hbytes hprefix
  · intro haligned fuel s hrun
    obtain ⟨n, hcompletes, rfl⟩ := serialSendPacket_eq_size_iff.1 ⟨fuel, hrun⟩
    -- every round before the end takes the bytes that are due
    have hround : ∀ j < n, rounds j ≠ .ready none ∧ (rounds j).taken packet =
        (packet.drop (resultSum packet rounds j).toNat).take ((rounds j).taken packet).length := by
      intro j hj
      by_contra hbad
      exact haligned ⟨n, hcompletes, j, hj, not_and_or.1 hbad |>.imp not_not.1 id⟩
    have hprefix : ∀ j ≤ n, resultSum packet rounds j = (takenBytes packet rounds j).length ∧
        takenBytes packet rounds j <+: packet := by
      intro j
      induction j with
      | zero => exact fun _ => ⟨rfl, List.nil_prefix⟩
      | succ j ih =>
          intro hj
          obtain ⟨hsum, hpre⟩ := ih (Nat.le_of_succ_le hj)
          obtain ⟨hfailed, hbytes⟩ := hround j hj
          rw [hsum, Int.toNat_natCast] at hbytes
          refine ⟨?_, ?_⟩
          · rw [resultSum_succ, takenBytes_succ, result_eq_length hfailed, hsum,
              List.length_append, Nat.cast_add]
          · rw [takenBytes_succ]
            exact (append_prefix_iff (List.prefix_iff_eq_take.1 hpre)).2 hbytes
    obtain ⟨hsum, hpre⟩ := hprefix n le_rfl
    exact hpre.eq_of_length (by exact_mod_cast hsum.symm.trans hcompletes.sum)

end Rounds

/-- A `write` takes one byte at a time. -/
def singleBytes : ℕ → SendRound := fun _ => .ready (some 1)

/-- **A packet of two bytes is reported as sent, and the line has taken the first one twice.** -/
theorem singleBytes_repeat :
    serialSendPacket [1, 2] singleBytes 3 = .ok (2, ⟨2, 2, 0, [1, 1]⟩) ∧
      ¬ SendsWhole [1, 2] singleBytes := by
  have hrun : serialSendPacket [1, 2] singleBytes 3 = .ok (2, ⟨2, 2, 0, [1, 1]⟩) := rfl
  exact ⟨hrun, fun hwhole => absurd (hwhole 3 _ hrun) (by decide)⟩

/-! ### Receiving -/

section Recv

variable (size : ℕ) (rounds : ℕ → RecvRound)

end Recv

section Recv

variable {size : ℕ} {rounds : ℕ → RecvRound}

end Recv

/-! ### The transport -/

end Mesaflash
