import Mathlib.Data.List.Perm.Subperm
import Mathlib.Tactic.Common

/-!
Requests and replies over a network of datagrams.

A client sends requests to a server, which executes them in the order in which they
arrive.  At any time the network may deliver any datagram that is under way, lose
one, or duplicate one; what happens before each call of the client is given by a
schedule.

The network is in order as long as it delivers requests in the order in which they
were sent, duplicates nothing, and loses only requests that leave the state of the
server alone.  Then the replies that are still to be expected, `pending`, can only
become fewer, and the state that the server ends in, `final`, stays the same.
-/

namespace Mesaflash.Lib

variable {S Req Rep : Type}

/-- What a request does to the state of the server, and the replies to it. -/
abbrev Server (S Req Rep : Type) : Type := Req → S → S × List Rep

/-- The server and the datagrams. -/
structure Net (S Req Rep : Type) where
  server : S
  /-- What is under way to the server. -/
  requests : List Req
  /-- What is under way to the client. -/
  replies : List Rep
  /-- What has arrived at the client, and was not received yet. -/
  inbox : List Rep
  /-- The number of calls of the client. -/
  clock : ℕ

inductive NetEvent (Req : Type) where
  | deliver (k : ℕ)
  | lose (r : Req)
  | duplicate (k : ℕ)
  | deliverReply (k : ℕ)
  | loseReply (k : ℕ)
  | duplicateReply (k : ℕ)
deriving DecidableEq, Repr

/-- What happens before each call. -/
abbrev Schedule (Req : Type) : Type := ℕ → List (NetEvent Req)

variable [DecidableEq Req] (serve : Server S Req Rep)

namespace Net

/-- An event that concerns a datagram that does not exist changes nothing. -/
def event (n : Net S Req Rep) : NetEvent Req → Net S Req Rep
  | .deliver k =>
    match n.requests[k]? with
    | none => n
    | some r =>
      { n with
        server := (serve r n.server).1
        requests := n.requests.eraseIdx k
        replies := n.replies ++ (serve r n.server).2 }
  | .lose r => { n with requests := n.requests.erase r }
  | .duplicate k =>
    match n.requests[k]? with
    | none => n
    | some r => { n with requests := n.requests ++ [r] }
  | .deliverReply k =>
    match n.replies[k]? with
    | none => n
    | some x => { n with replies := n.replies.eraseIdx k, inbox := n.inbox ++ [x] }
  | .loseReply k => { n with replies := n.replies.eraseIdx k }
  | .duplicateReply k =>
    match n.replies[k]? with
    | none => n
    | some x => { n with replies := n.replies ++ [x] }

def events (n : Net S Req Rep) (l : List (NetEvent Req)) : Net S Req Rep := l.foldl (event serve) n

variable (schedule : Schedule Req)

/-- What happens before the next call. -/
def await (n : Net S Req Rep) : Net S Req Rep :=
  { n.events serve (schedule n.clock) with clock := n.clock + 1 }

/-- The client sends a request. -/
def send (r : Req) (n : Net S Req Rep) : Net S Req Rep :=
  { n.await serve schedule with requests := (n.await serve schedule).requests ++ [r] }

/-- The client receives a reply; `none` where none arrives. -/
def recv (n : Net S Req Rep) : Option (Rep × Net S Req Rep) :=
  match (n.await serve schedule).inbox with
  | [] => none
  | x :: l => some (x, { n.await serve schedule with inbox := l })

end Net

/-! ### Serving requests in order -/

/-- The replies to a sequence of requests. -/
def served : S → List Req → List Rep
  | _, [] => []
  | s, r :: l => (serve r s).2 ++ served (serve r s).1 l

/-- The state after a sequence of requests. -/
def finish : S → List Req → S
  | s, [] => s
  | s, r :: l => finish (serve r s).1 l

/-- The request leaves the state of the server alone. -/
def ReadOnly (r : Req) : Prop := ∀ s, (serve r s).1 = s

section Serving

variable {serve} {r : Req}

omit [DecidableEq Req]

lemma finish_append (s : S) (l l' : List Req) :
    finish serve s (l ++ l') = finish serve (finish serve s l) l' := by
  induction l generalizing s with
  | nil => rfl
  | cons r l ih => exact ih _

lemma served_append (s : S) (l l' : List Req) :
    served serve s (l ++ l') = served serve s l ++ served serve (finish serve s l) l' := by
  induction l generalizing s with
  | nil => rfl
  | cons r l ih =>
      rw [List.cons_append, served, ih, served, List.append_assoc]
      rfl

/-- What every request keeps of the state, a sequence of them keeps. -/
lemma finish_keeps {J : S → Prop} {l : List Req} (h : ∀ r ∈ l, ∀ s, J s → J (serve r s).1) {s : S}
    (hs : J s) : J (finish serve s l) := by
  induction l generalizing s with
  | nil => exact hs
  | cons r l ih =>
      exact ih (fun r' hr' => h r' (List.mem_cons_of_mem r hr')) (h r List.mem_cons_self s hs)

end Serving

section Erase

variable {serve} {r : Req}

lemma finish_erase (h : ReadOnly serve r) (s : S) (l : List Req) :
    finish serve s (l.erase r) = finish serve s l := by
  induction l generalizing s with
  | nil => rfl
  | cons r' l ih =>
      by_cases hr : r' = r
      · subst hr
        rw [List.erase_cons_head, finish, h]
      · rw [List.erase_cons_tail (by simpa using hr), finish, finish, ih]

/-- Without a request that leaves the state alone, only its replies are missing. -/
lemma served_erase (h : ReadOnly serve r) (s : S) (l : List Req) :
    (served serve s (l.erase r)).Sublist (served serve s l) := by
  induction l generalizing s with
  | nil => exact List.Sublist.refl _
  | cons r' l ih =>
      by_cases hr : r' = r
      · subst hr
        rw [List.erase_cons_head, served, h]
        exact List.sublist_append_right _ _
      · rw [List.erase_cons_tail (by simpa using hr), served, served]
        exact (ih _).append_left _

end Erase

/-! ### A network in order -/

namespace Net

/-- All replies that the client can expect. -/
def pending (n : Net S Req Rep) : List Rep :=
  n.inbox ++ n.replies ++ served serve n.server n.requests

/-- The state of the server, once it has executed all requests that are under way. -/
def final (n : Net S Req Rep) : S := finish serve n.server n.requests

end Net

/-- The event does not put the network out of order. -/
def NetEvent.InOrder : NetEvent Req → Prop
  | .deliver k => k = 0
  | .lose r => ReadOnly serve r
  | .duplicate _ => False
  | .deliverReply _ => True
  | .loseReply _ => True
  | .duplicateReply _ => False

/-- What the network may do with the datagrams that are under way, as long as it is in
order. -/
structure Net.Drains (n n' : Net S Req Rep) : Prop where
  pending : List.Subperm (n'.pending serve) (n.pending serve)
  final : n'.final serve = n.final serve
  requests : n'.requests ⊆ n.requests

section InOrder

variable {serve} {n n' : Net S Req Rep} {e : NetEvent Req} {schedule : Schedule Req}

namespace Net

omit [DecidableEq Req] in
lemma Drains.refl (n : Net S Req Rep) : n.Drains serve n :=
  ⟨.refl _, rfl, List.Subset.refl _⟩

omit [DecidableEq Req] in
lemma Drains.trans {n'' : Net S Req Rep} (h : n.Drains serve n') (h' : n'.Drains serve n'') :
    n.Drains serve n'' :=
  ⟨h'.pending.trans h.pending, h'.final.trans h.final,
    List.Subset.trans h'.requests h.requests⟩

/-- The step lemma. -/
lemma drains_event (h : e.InOrder serve) : n.Drains serve (n.event serve e) := by
  cases e with
  | deliver k =>
      obtain rfl : k = 0 := h
      cases hreq : n.requests with
      | nil =>
          simp only [event, hreq, List.getElem?_nil]
          exact .refl n
      | cons r l =>
          -- the replies were expected before, and are under way now
          simp only [event, hreq, List.getElem?_cons_zero, List.eraseIdx_cons_zero]
          refine ⟨?_, ?_, ?_⟩
          · simp only [pending, hreq, served, List.append_assoc]
            exact .refl _
          · simp only [final, hreq, finish]
          · rw [hreq]
            exact List.subset_cons_self r l
  | lose r =>
      -- the replies to the request will not come
      exact ⟨((served_erase h _ _).append_left _).subperm, finish_erase h _ _, List.erase_subset⟩
  | duplicate k => exact h.elim
  | deliverReply k =>
      rcases Nat.lt_or_ge k n.replies.length with hk | hk
      · simp only [event, List.getElem?_eq_getElem hk]
        refine ⟨?_, rfl, List.Subset.refl _⟩
        have hperm := (List.getElem_cons_eraseIdx_perm hk).append_left n.inbox
        simpa only [pending, List.append_assoc, List.singleton_append] using
          (hperm.append_right (served serve n.server n.requests)).subperm
      · simp only [event, List.getElem?_eq_none hk]
        exact .refl n
  | loseReply k =>
      refine ⟨?_, rfl, List.Subset.refl _⟩
      exact (((List.eraseIdx_sublist _ k).append_left n.inbox).append_right _).subperm
  | duplicateReply k => exact h.elim

/-- The run lemma. -/
lemma drains_events {l : List (NetEvent Req)} (h : ∀ e ∈ l, e.InOrder serve) :
    n.Drains serve (n.events serve l) := by
  induction l generalizing n with
  | nil => exact .refl n
  | cons e l ih =>
      exact (drains_event (h e List.mem_cons_self)).trans
        (ih fun e' he' => h e' (List.mem_cons_of_mem e he'))

lemma drains_await (h : ∀ e ∈ schedule n.clock, e.InOrder serve) :
    n.Drains serve (n.await serve schedule) :=
  ⟨(drains_events h).pending, (drains_events h).final, (drains_events h).requests⟩

/-- What the requests under way keep of the state of the server, every event keeps. -/
lemma server_event {J : S → Prop} (h : ∀ r ∈ n.requests, ∀ s, J s → J (serve r s).1)
    (hs : J n.server) : J (n.event serve e).server := by
  cases e with
  | deliver k =>
      cases hreq : n.requests[k]? with
      | none => simpa only [event, hreq] using hs
      | some r =>
          simp only [event, hreq]
          exact h r (List.mem_of_getElem? hreq) _ hs
  | lose r => exact hs
  | duplicate k =>
      simp only [event]
      split <;> exact hs
  | deliverReply k =>
      simp only [event]
      split <;> exact hs
  | loseReply k => exact hs
  | duplicateReply k =>
      simp only [event]
      split <;> exact hs

lemma server_events {J : S → Prop} {l : List (NetEvent Req)} (hl : ∀ e ∈ l, e.InOrder serve)
    (h : ∀ r ∈ n.requests, ∀ s, J s → J (serve r s).1) (hs : J n.server) :
    J (n.events serve l).server := by
  induction l generalizing n with
  | nil => exact hs
  | cons e l ih =>
      have he := drains_event (n := n) (hl e List.mem_cons_self)
      exact ih (fun e' he' => hl e' (List.mem_cons_of_mem e he'))
        (fun r hr => h r (he.requests hr)) (server_event h hs)

lemma server_await {J : S → Prop} (hl : ∀ e ∈ schedule n.clock, e.InOrder serve)
    (h : ∀ r ∈ n.requests, ∀ s, J s → J (serve r s).1) (hs : J n.server) :
    J (n.await serve schedule).server :=
  server_events hl h hs

/-- A request adds its replies to those that the client can expect. -/
lemma pending_send (r : Req) : (n.send serve schedule r).pending serve =
    (n.await serve schedule).pending serve ++
      (serve r ((n.await serve schedule).final serve)).2 := by
  simp only [send, pending, served_append, served, List.append_nil, List.append_assoc, final]

lemma final_send (r : Req) : (n.send serve schedule r).final serve =
    (serve r ((n.await serve schedule).final serve)).1 := by
  simp only [send, final, finish_append, finish]

/-- The reply that the client receives is one that it could expect. -/
lemma recv_eq_some {x : Rep} (h : n.recv serve schedule = some (x, n')) :
    (n.await serve schedule).pending serve = x :: n'.pending serve ∧
      n' = { n.await serve schedule with inbox := n'.inbox } := by
  unfold recv at h
  cases hin : (n.await serve schedule).inbox with
  | nil => simp [hin] at h
  | cons y l =>
      simp only [hin, Option.some.injEq, Prod.mk.injEq] at h
      obtain ⟨rfl, rfl⟩ := h
      exact ⟨by simp only [pending, hin, List.cons_append], rfl⟩

end Net

end InOrder

end Mesaflash.Lib
