import Mesaflash.SserialBoard
import Mesaflash.SserialAccess
import Mesaflash.Lib.ImageCopy

/-!
Copying bytes from a remote.

`sslbp_read_remote_bytes` has one loop for two uses.  With a size it copies so many bytes.
With the size `-1` it copies a text up to its NUL: the counter runs away from zero, and the
loop looks at the bytes while it is negative.  Here the loop stores the bytes in a memory, so
that one sees what it leaves alone, and a bus keeps the requests that are sent to the remote.
-/

namespace Mesaflash

open Lib

/-! ### The loop -/

section Loop

variable {σ : Type}

/-- `*(ptr++) = data`, with the pointer and the memory that it points into. -/
def storeAt (ptr : ℕ × (ℕ → UInt8)) (data : UInt8) : SserialM σ (ℕ × (ℕ → UInt8)) :=
  pure (ptr.1 + 1, Function.update ptr.2 ptr.1 data)

/-- `sslbp_read_remote_bytes`, with the memory that `buffer` points into. -/
def sslbpReadRemoteBytesTo (bus : RegisterBus σ) (ssmod : SserialModule)
    (fuel interface channel addr buffer : ℕ) (memory : ℕ → UInt8) (size : ℤ) :
    SserialM σ (ℕ → UInt8) := do
  let (_, memory) ← loopM .hang
    (fun fuel x => copyByte bus ssmod storeAt fuel interface channel x) fuel
    ⟨addr, (buffer, memory), size⟩
  return memory

/-! ### Requests -/

/-- A bus that keeps what is written to one register, in order. -/
def logWrites (bus : RegisterBus σ) (reg : ℕ) : RegisterBus (σ × List ℕ) where
  read addr r := ((bus.read addr r.1).1, (bus.read addr r.1).2, r.2)
  write addr value r := (bus.write addr value r.1, if addr = reg then r.2 ++ [value] else r.2)

/-- The state, and what was written to the register so far. -/
def SserialState.withLog (s : SserialState σ) (log : List ℕ) : SserialState (σ × List ℕ) where
  regs := (s.regs, log)
  ssInterface := s.ssInterface
  ssDevice := s.ssDevice

/-- Registers with this log. -/
def Logged (log : List ℕ) (r₁ : σ × List ℕ) (r₂ : σ) : Prop := r₁ = (r₂, log)

variable {bus : RegisterBus σ} {reg : ℕ} {log : List ℕ}

lemma logged_withLog (s : SserialState σ) : StatesAlike (Logged log) (s.withLog log) s :=
  ⟨rfl, rfl, rfl⟩

lemma eq_withLog {s₁ : SserialState (σ × List ℕ)} {s₂ : SserialState σ}
    (h : StatesAlike (Logged log) s₁ s₂) : s₁ = s₂.withLog log := by
  obtain ⟨hregs, hinterface, hdevice⟩ := h
  cases s₁
  rw [SserialState.withLog, ← hregs, ← hinterface, ← hdevice]

/-- What is not a write to the register is not kept. -/
lemma logWrites_alike : AnswerAlike (fun a => ∀ value, a ≠ .write reg value) (Logged log)
    (logWrites bus reg) bus where
  value addr _ r₁ r₂ h := by
    obtain rfl : r₁ = (r₂, log) := h
    rfl
  read addr _ r₁ r₂ h := by
    obtain rfl : r₁ = (r₂, log) := h
    rfl
  write addr value hne r₁ r₂ h := by
    obtain rfl : r₁ = (r₂, log) := h
    have haddr : addr ≠ reg := fun heq => hne value (heq ▸ rfl)
    simp only [Logged, logWrites, if_neg haddr]

lemma llioWrite_logged (value : ℕ) (s : SserialState σ) :
    llioWrite (logWrites bus reg) reg value (s.withLog log) =
      .ok ((), SserialState.withLog { s with regs := bus.write reg value s.regs }
        (log ++ [value])) := by
  simp only [llioWrite, logWrites, SserialState.withLog, if_true]

/-! ### The helper -/

/-- What `sslbp_read_remote8` does after its request. -/
def readAnswer (bus : RegisterBus σ) (ssmod : SserialModule) (fuel interface channel : ℕ) :
    SserialM σ UInt8 := do
  sslbpSendLocalCmd bus ssmod interface (sslbpCmdDoit channel)
  sslbpWaitComplete bus ssmod fuel interface
  let data ← llioRead bus
    (ssmod.baseAddress + hm2ModOffsSserialInterface0 + interface * 0x40 + channel * 4)
  return (data &&& 0xFF).toUInt8

variable {ssmod : SserialModule} {interface channel : ℕ}

/-- The answer is awaited without another request. -/
lemma readAnswer_alike
    (hreg : reg ≠ ssmod.baseAddress + hm2ModOffsSserialCmd + interface * 0x40) (fuel : ℕ) :
    Alike (Logged log) (readAnswer (logWrites bus reg) ssmod fuel interface channel)
      (readAnswer bus ssmod fuel interface channel) := by
  have hwrite : ∀ value value', RegisterAccess.write
      (ssmod.baseAddress + hm2ModOffsSserialCmd + interface * 0x40) value ≠ .write reg value' := by
    intro value value' h
    exact hreg (RegisterAccess.write.inj h).1.symm
  refine (llioWrite_alike logWrites_alike (hwrite _)).seq fun _ => Agree.seq ?_ fun _ => ?_
  · refine .loopM (fun _ _ => ?_) fuel ()
    refine (llioRead_alike logWrites_alike fun _ => RegisterAccess.noConfusion).seq fun _ => ?_
    exact .ite (fun _ => .pure _) fun _ => .pure _
  · exact (llioRead_alike logWrites_alike fun _ => RegisterAccess.noConfusion).seq fun _ => .pure _

end Loop

section Copies

variable (M : SserialContents) (ssmod : SserialModule)

/-- The module whose interface 0 is this interface. -/
def SserialModule.ofInterface (interface : ℕ) : SserialModule :=
  { ssmod with baseAddress := ssmod.baseAddress + interface * 0x40 }

/-- The registers of another interface are at the same distances. -/
lemma sslbpReadRemote8_interface {σ : Type} (bus : RegisterBus σ)
    (fuel interface channel addr : ℕ) :
    sslbpReadRemote8 bus ssmod fuel interface channel addr =
      sslbpReadRemote8 bus (ssmod.ofInterface interface) fuel 0 channel addr := by
  have hreg : ∀ offs, ssmod.baseAddress + offs + interface * 0x40 =
      ssmod.baseAddress + interface * 0x40 + offs + 0 * 0x40 := fun offs => by omega
  simp only [sslbpReadRemote8, sslbpSendRemoteCmd, sslbpSendLocalCmd, sslbpWaitComplete,
    sslbpReadLocalCmd, SserialModule.ofInterface, hreg]

/-- The requests for bytes in a row. -/
def requests (addr n : ℕ) : List ℕ := (List.range n).map fun i => readWord (u32 (addr + i))

lemma requests_succ (addr n : ℕ) :
    requests addr (n + 1) = requests addr n ++ [readWord (u32 (addr + n))] := by
  simp only [requests, List.range_succ, List.map_append, List.map_cons, List.map_nil]

@[simp] lemma length_requests (addr n : ℕ) : (requests addr n).length = n := by
  simp only [requests, List.length_map, List.length_range]

/-- **A request for an address of 24 bits carries that address**, beside its command. -/
lemma readWord_parts {addr : ℕ} (h : addr < 2 ^ 24) :
    readWord addr % 2 ^ 24 = addr ∧ readWord addr / 2 ^ 24 = lbpCmdRead ||| lbpAddrAutoInc := by
  have hsum : readWord addr = (lbpCmdRead ||| lbpAddrAutoInc) * 2 ^ 24 + addr := by
    rw [readWord, ← Nat.shiftLeft_add_eq_or_of_lt h, Nat.shiftLeft_eq]
  have hpos : 0 < 2 ^ 24 := by decide
  rw [hsum, Nat.mul_comm, Nat.mul_add_mod, Nat.mod_eq_of_lt h, Nat.mul_add_div hpos,
    Nat.div_eq_of_lt h]
  exact ⟨rfl, rfl⟩

/-- The bus of a board with the interface, which keeps the requests to a channel. -/
def requestBus (interface channel : ℕ) : RegisterBus (SserialRegs × List ℕ) :=
  logWrites (M.bus (ssmod.baseAddress + interface * 0x40))
    (ssmod.baseAddress + hm2ModOffsSserialCs + interface * 0x40 + channel * 4)

variable (interface : ℕ) {c : ℕ} {sel : ℕ → Bool} (hc : c < hm2SserialMaxChannels)

include hc in
/-- The helper asks for its byte, and for nothing else. -/
lemma readRemote8_asks (addr : ℕ) {s : SserialRun} (hs : Selected sel s) (log : List ℕ) :
    ∃ t : SserialRun, Selected sel t ∧ t.view = s.view ∧
      EndsIn .hang
        (fun f => sslbpReadRemote8 (requestBus M ssmod interface c) ssmod f interface c addr)
        (s.withLog log) (.ok (M.byteAt c (sel c) addr, t.withLog (log ++ [readWord addr]))) := by
  obtain ⟨t, ht, hview, hend⟩ :=
    readRemote8_reads M (ssmod.ofInterface interface) hc addr s hs
  simp only [← sslbpReadRemote8_interface] at hend
  refine ⟨t, ht, hview, ?_⟩
  -- the request, and then the answer to it
  have hrest : EndsIn .hang
      (fun f => readAnswer (M.bus (ssmod.baseAddress + interface * 0x40)) ssmod f interface c)
      { s with
        regs := (M.bus (ssmod.baseAddress + interface * 0x40)).write
          (ssmod.baseAddress + hm2ModOffsSserialCs + interface * 0x40 + c * 4) (readWord addr)
          s.regs }
      (.ok (M.byteAt c (sel c) addr, t)) :=
    hend.congr fun _ => rfl
  have hreg : ssmod.baseAddress + hm2ModOffsSserialCs + interface * 0x40 + c * 4 ≠
      ssmod.baseAddress + hm2ModOffsSserialCmd + interface * 0x40 := by
    simp only [hm2ModOffsSserialCs, hm2ModOffsSserialCmd]
    omega
  obtain ⟨t', ht', hend'⟩ :=
    Agree.endsIn (R := StatesAlike (Logged (log ++ [readWord addr])))
      (fun _ _ _ h h' => (eq_withLog h).trans (eq_withLog h').symm)
      (fun f => readAnswer_alike hreg f) (logged_withLog _) hrest
  obtain rfl := eq_withLog ht'
  exact EndsIn.step (llioWrite_logged (readWord addr) s) hend'

/-! ### Rounds -/

/-- The memory with the first `n` bytes from an address stored. -/
def SserialContents.storedAt (c : ℕ) (nv : Bool) (addr buffer : ℕ) (memory : ℕ → UInt8) (n : ℕ) :
    ℕ → UInt8 :=
  copyFrom (fun a => M.byteAt c nv (u32 (addr + (a - buffer)))) (Window buffer n) memory

section Rounds

variable (c) (nv : Bool) (addr buffer : ℕ) (memory : ℕ → UInt8) (size : ℤ) (i : ℕ)

lemma storedAt_zero : M.storedAt c nv addr buffer memory 0 = memory := by
  funext a
  exact copyFrom_of_not_mem fun h => Nat.not_lt.mpr h.1 h.2

lemma update_storedAt : Function.update (M.storedAt c nv addr buffer memory i) (buffer + i)
      (M.byteAt c nv (u32 (addr + i))) = M.storedAt c nv addr buffer memory (i + 1) := by
  funext a
  by_cases ha : a = buffer + i
  · subst ha
    rw [Function.update_self, SserialContents.storedAt, copyFrom_of_mem ⟨by omega, by omega⟩,
      Nat.add_sub_cancel_left]
  · have hiff : Window buffer (i + 1) a ↔ Window buffer i a := by
      simp only [Window]
      omega
    rw [Function.update_of_ne ha, SserialContents.storedAt, SserialContents.storedAt, copyFrom,
      copyFrom]
    exact if_congr hiff.symm rfl rfl

/-- The variables before round `i` of `sslbp_read_remote_bytes`. -/
def byteStoreAt : ByteCopy (ℕ × (ℕ → UInt8)) :=
  ⟨u32 (addr + i), (buffer + i, M.storedAt c nv addr buffer memory i), toInt (size - i)⟩

/-- They are the variables after the round before. -/
lemma byteStoreAt_succ :
    byteStoreAt M c nv addr buffer memory size (i + 1) =
      ⟨u32 (u32 (addr + i) + 1),
        (buffer + i + 1, Function.update (M.storedAt c nv addr buffer memory i) (buffer + i)
          (M.byteAt c nv (u32 (addr + i)))), toInt (toInt (size - i) - 1)⟩ := by
  have haddr : u32 (u32 (addr + i) + 1) = u32 (addr + (i + 1)) := u32_add_left _ _
  have hsize : toInt (toInt (size - i) - 1) = toInt (size - (i + 1 : ℕ)) := by
    rw [toInt, toInt, toInt, Int.bmod_sub_bmod, Int.sub_sub, Nat.cast_succ]
  rw [byteStoreAt, haddr, hsize, update_storedAt, Nat.add_assoc]

end Rounds

/-- A state of the run, after these requests. -/
def Asked (sel : ℕ → Bool)
    (v : SserialInterface × (Fin hm2SserialMaxChannels → SserialDevice)) (log : List ℕ)
    (s : SserialState (SserialRegs × List ℕ)) : Prop :=
  ∃ r : SserialRun, Selected sel r ∧ r.view = v ∧ s = r.withLog log

/-- A loop body over the board that keeps the requests. -/
abbrev storeRound (interface c fuel : ℕ) (x : ByteCopy (ℕ × (ℕ → UInt8))) :
    SserialM (SserialRegs × List ℕ) (ByteCopy (ℕ × (ℕ → UInt8)) ⊕ ℕ × (ℕ → UInt8)) :=
  copyByte (requestBus M ssmod interface c) ssmod storeAt fuel interface c x

section Runs

variable {addr : ℕ} (buffer : ℕ) (memory : ℕ → UInt8) {size : ℤ}
  {v : SserialInterface × (Fin hm2SserialMaxChannels → SserialDevice)}

include hc in
/-- A round that stores a byte. -/
lemma storeRound_stores {i : ℕ} (hsize : toInt (size - i) ≠ 0)
    {s : SserialState (SserialRegs × List ℕ)} (hs : Asked sel v (requests addr i) s) :
    ∃ t, Asked sel v (requests addr (i + 1)) t ∧
      EndsIn .hang
        (fun f => storeRound M ssmod interface c f
          (byteStoreAt M c (sel c) addr buffer memory size i)) s
        (.ok (if toInt (size - (i + 1 : ℕ)) < 0 ∧ M.byteAt c (sel c) (u32 (addr + i)) = 0 then
            .inr (buffer + (i + 1), M.storedAt c (sel c) addr buffer memory (i + 1))
          else .inl (byteStoreAt M c (sel c) addr buffer memory size (i + 1)), t)) := by
  obtain ⟨r, hr, rfl, rfl⟩ := hs
  obtain ⟨t, ht, hview, hread⟩ :=
    readRemote8_asks M ssmod interface hc (u32 (addr + i)) hr (requests addr i)
  rw [← requests_succ] at hread
  refine ⟨t.withLog (requests addr (i + 1)), ⟨t, ht, hview, rfl⟩, ?_⟩
  have hne : (byteStoreAt M c (sel c) addr buffer memory size i).size ≠ 0 := hsize
  simp only [storeRound, copyByte, if_neg hne]
  refine hread.bind ?_
  have hsucc := byteStoreAt_succ M c (sel c) addr buffer memory size i
  have hstored : storeAt (byteStoreAt M c (sel c) addr buffer memory size i).buffer
      (M.byteAt c (sel c) (u32 (addr + i))) (t.withLog (requests addr (i + 1))) =
        .ok ((byteStoreAt M c (sel c) addr buffer memory size (i + 1)).buffer,
          t.withLog (requests addr (i + 1))) := by
    rw [hsucc]
    rfl
  have haddr : u32 ((byteStoreAt M c (sel c) addr buffer memory size i).addr + 1) =
      (byteStoreAt M c (sel c) addr buffer memory size (i + 1)).addr :=
    (congrArg ByteCopy.addr hsucc).symm
  have hnext : toInt ((byteStoreAt M c (sel c) addr buffer memory size i).size - 1) =
      toInt (size - (i + 1 : ℕ)) := (congrArg ByteCopy.size hsucc).symm
  refine EndsIn.step hstored ?_
  simp only [haddr, hnext]
  split_ifs
  · exact endsIn_const _ _
  · exact endsIn_const _ _

end Runs

/-- The run stores `n` bytes and stops.  Nothing else in the memory changes, and the remote is
asked once for each byte, in order. -/
def CopiesExactly (interface c addr buffer : ℕ) (memory : ℕ → UInt8) (size : ℤ) (s : SserialRun)
    (n : ℕ) : Prop :=
  ∃ t : SserialRun, Selected s.regs.nv t ∧ t.view = s.view ∧
    EndsIn .hang
      (fun fuel => sslbpReadRemoteBytesTo (requestBus M ssmod interface c) ssmod fuel interface c
        addr buffer memory size)
      (s.withLog [])
      (.ok (M.storedAt c (s.regs.nv c) addr buffer memory n, t.withLog (requests addr n)))

/-- After storing byte `i`, the loop is not at its end. -/
def CopyGoesOn (byte : ℕ → UInt8) (size : ℤ) (i : ℕ) : Prop :=
  toInt (size - i) ≠ 0 ∧ ¬ (toInt (size - (i + 1 : ℕ)) < 0 ∧ byte i = 0)

section Runs

variable {M ssmod interface} {addr buffer : ℕ} {memory : ℕ → UInt8} {size : ℤ} {s : SserialRun}
  {n : ℕ}

/-- Two runs from one state copy as many bytes. -/
lemma CopiesExactly.unique {m : ℕ}
    (hn : CopiesExactly M ssmod interface c addr buffer memory size s n)
    (hm : CopiesExactly M ssmod interface c addr buffer memory size s m) : n = m := by
  obtain ⟨t, -, -, hend⟩ := hn
  obtain ⟨t', -, -, hend'⟩ := hm
  have hlog : requests addr n = requests addr m :=
    congrArg (fun x => x.2.regs.2) (Except.ok.inj (hend.unique hend'))
  rw [← length_requests addr n, hlog, length_requests]

variable (haddr : addr < 2 ^ 32) (hs : s.regs.argument = fun _ => false)
  (hnext : ∀ i < n, CopyGoesOn (fun i => M.byteAt c (s.regs.nv c) (u32 (addr + i))) size i)

include hc haddr hs hnext

variable (ssmod interface) in
/-- What comes after the rounds that go on. -/
lemma copies_reach (buffer : ℕ) (memory : ℕ → UInt8) (hsize : toInt size = size) :
    ∃ t, Asked s.regs.nv s.view (requests addr n) t ∧ ∀ ptr stored t',
      EndsIn .hang
        (fun f => loopM .hang (storeRound M ssmod interface c) f
          (byteStoreAt M c (s.regs.nv c) addr buffer memory size n)) t (.ok ((ptr, stored), t')) →
      EndsIn .hang
        (fun fuel => sslbpReadRemoteBytesTo (requestBus M ssmod interface c) ssmod fuel interface c
          addr buffer memory size) (s.withLog []) (.ok (stored, t')) := by
  have hstart : byteStoreAt M c (s.regs.nv c) addr buffer memory size 0 =
      ⟨addr, (buffer, memory), size⟩ := by
    rw [byteStoreAt, storedAt_zero, Nat.add_zero, u32_of_lt haddr, Nat.cast_zero, Int.sub_zero,
      hsize, Nat.add_zero]
  have hasked : Asked s.regs.nv s.view (requests addr 0) (s.withLog []) :=
    ⟨s, ⟨rfl, hs⟩, rfl, rfl⟩
  have hstep : ∀ i < n, ∀ s', Asked s.regs.nv s.view (requests addr i) s' →
      ∃ t, Asked s.regs.nv s.view (requests addr (i + 1)) t ∧
        EndsIn .hang
          (fun f => storeRound M ssmod interface c f
            (byteStoreAt M c (s.regs.nv c) addr buffer memory size i)) s'
          (.ok (.inl (byteStoreAt M c (s.regs.nv c) addr buffer memory size (i + 1)), t)) := by
    intro i hi s' hs'
    obtain ⟨hne, hgo⟩ := hnext i hi
    have hround := storeRound_stores M ssmod interface hc buffer memory hne hs'
    rwa [if_neg hgo] at hround
  obtain ⟨t, ht, hreach⟩ := loopM_reach
    (I := fun i => Asked s.regs.nv s.view (requests addr i))
    (x := byteStoreAt M c (s.regs.nv c) addr buffer memory size) hstep hasked
  refine ⟨t, ht, fun ptr stored t' hend => ?_⟩
  have hrun := hreach _ hend
  rw [hstart] at hrun
  exact hrun.bind (endsIn_const _ _)

/-- The counter comes to zero. -/
lemma copies_counted (hsize : toInt size = size) (hend : toInt (size - n) = 0) :
    CopiesExactly M ssmod interface c addr buffer memory size s n := by
  obtain ⟨_, ⟨t, ht, hview, rfl⟩, hreach⟩ :=
    copies_reach ssmod interface hc haddr hs hnext buffer memory hsize
  refine ⟨t, ht, hview, hreach (buffer + n) _ _ (loopM_break ?_)⟩
  have hzero : (byteStoreAt M c (s.regs.nv c) addr buffer memory size n).size = 0 := hend
  simp only [storeRound, copyByte, if_pos hzero]
  exact endsIn_const _ _

/-- There is a NUL while the counter is negative. -/
lemma copies_text (hsize : toInt size = size) (hne : toInt (size - n) ≠ 0)
    (hneg : toInt (size - (n + 1 : ℕ)) < 0)
    (hnul : M.byteAt c (s.regs.nv c) (u32 (addr + n)) = 0) :
    CopiesExactly M ssmod interface c addr buffer memory size s (n + 1) := by
  obtain ⟨_, hasked, hreach⟩ :=
    copies_reach ssmod interface hc haddr hs hnext buffer memory hsize
  obtain ⟨_, ⟨t, ht, hview, rfl⟩, hround⟩ :=
    storeRound_stores M ssmod interface hc buffer memory hne hasked
  rw [if_pos ⟨hneg, hnul⟩] at hround
  exact ⟨t, ht, hview, hreach _ _ _ (loopM_break hround)⟩

end Runs

/-! ### The two uses -/

section Uses

variable {M ssmod interface} {addr : ℕ} (buffer : ℕ) (memory : ℕ → UInt8) {s : SserialRun}
  (haddr : addr < 2 ^ 32) (hs : s.regs.argument = fun _ => false)

include hc haddr hs

/-- With a size the loop copies so many bytes. -/
lemma copies_size {n : ℕ} (hn : n < 2 ^ 31) :
    CopiesExactly M ssmod interface c addr buffer memory n s n := by
  refine copies_counted hc haddr hs (fun i hi => ?_) (toInt_of_lt (by omega) (by omega)) ?_
  · rw [CopyGoesOn, toInt_of_lt (by omega) (by omega), toInt_of_lt (by omega) (by omega)]
    omega
  · rw [sub_self]
    rfl

/-- With the size `-1` the loop copies a text up to its NUL, if it is there in time. -/
lemma copies_upToNul {k : ℕ} (hk : k < 2 ^ 31 - 1)
    (hnul : M.byteAt c (s.regs.nv c) (u32 (addr + k)) = 0)
    (hbefore : ∀ i < k, M.byteAt c (s.regs.nv c) (u32 (addr + i)) ≠ 0) :
    CopiesExactly M ssmod interface c addr buffer memory (-1) s (k + 1) := by
  refine copies_text hc haddr hs (fun i hi => ⟨?_, fun h => hbefore i hi h.2⟩)
    (toInt_of_lt (by omega) (by omega)) ?_ ?_ hnul
  · rw [toInt_of_lt (by omega) (by omega)]
    omega
  · rw [toInt_of_lt (by omega) (by omega)]
    omega
  · rw [toInt_of_lt (by omega) (by omega)]
    omega

/-- A text that is longer makes the counter wrap around, and then the loop counts down to zero. -/
lemma copies_wrapped
    (hbefore : ∀ i < 2 ^ 31 - 1, M.byteAt c (s.regs.nv c) (u32 (addr + i)) ≠ 0) :
    CopiesExactly M ssmod interface c addr buffer memory (-1) s (2 ^ 32 - 1) := by
  have hwrap : ∀ n : ℕ, 2 ^ 31 ≤ n → n ≤ 2 ^ 32 - 1 → toInt (-1 - n) = 2 ^ 32 - 1 - n := by
    intro n hlow hhigh
    have hperiod : toInt (-1 - n) = toInt (2 ^ 32 - 1 - n) := by
      rw [toInt, toInt, show (2 ^ 32 - 1 - n : ℤ) = -1 - n + (2 ^ 32 : ℕ) by push_cast; ring,
        Int.add_bmod_right]
    rw [hperiod, toInt_of_lt (by omega) (by omega)]
  refine copies_counted hc haddr hs (fun i hi => ?_) (toInt_of_lt (by omega) (by omega)) ?_
  · rcases Nat.lt_or_ge i (2 ^ 31 - 1) with hlt | hge
    · refine ⟨?_, fun h => hbefore i hlt h.2⟩
      rw [toInt_of_lt (by omega) (by omega)]
      omega
    · -- from here on the counter is not negative any more
      refine ⟨?_, fun h => ?_⟩
      · rcases eq_or_lt_of_le hge with rfl | hlt
        · rw [toInt_of_lt (by omega) (by omega)]
          omega
        · rw [hwrap i (by omega) (by omega)]
          omega
      · have hneg := h.1
        rw [hwrap (i + 1) (by omega) (by omega)] at hneg
        omega
  · rw [hwrap _ (by omega) le_rfl]
    omega

end Uses

variable {M ssmod} in
/-- **The copy of remote bytes stores what it should and stops**: as many bytes as its size
says, or a text up to its NUL if that is at a distance below `2 ^ 31 - 1`. -/
theorem sslbpReadRemoteBytesTo_copies {interface c addr : ℕ} (hc : c < hm2SserialMaxChannels)
    (haddr : addr < 2 ^ 32) (buffer : ℕ) (memory : ℕ → UInt8) {s : SserialRun}
    (hs : s.regs.argument = fun _ => false) :
    (∀ n : ℕ, n < 2 ^ 31 → CopiesExactly M ssmod interface c addr buffer memory n s n) ∧
      (∀ k : ℕ, k < 2 ^ 31 - 1 → M.byteAt c (s.regs.nv c) (u32 (addr + k)) = 0 →
        (∀ i < k, M.byteAt c (s.regs.nv c) (u32 (addr + i)) ≠ 0) →
        CopiesExactly M ssmod interface c addr buffer memory (-1) s (k + 1)) ∧
      ∀ a < 2 ^ 24, readWord a % 2 ^ 24 = a ∧
        readWord a / 2 ^ 24 = lbpCmdRead ||| lbpAddrAutoInc := by
  refine ⟨fun n hn => ?_, fun k hk hnul hbefore => ?_, fun a ha => readWord_parts ha⟩
  · exact copies_size hc buffer memory haddr hs hn
  · exact copies_upToNul hc buffer memory haddr hs hk hnul hbefore

end Copies

/-- A run that starts with these registers. -/
def clearRun : SserialRun where
  regs := clearRegs
  ssInterface := ⟨0, 0, 0, 0, 0, 0, 0, 0, 0, 0⟩
  ssDevice _ := ⟨0, 0, 0, [], []⟩

/-- The descriptor of a record, and the text behind it. -/
theorem sslbpReadRemoteBytesTo_copies_encoder :
    CopiesExactly encoderContents ⟨0x5B00, 0x40⟩ 0 0 20 0x2000 (fun _ => 7) (14 : ℕ) clearRun 14 ∧
      CopiesExactly encoderContents ⟨0x5B00, 0x40⟩ 0 0 34 0x2000 (fun _ => 7) (-1) clearRun 4 :=
  ⟨(sslbpReadRemoteBytesTo_copies (by decide) (by decide) _ _ rfl).1 14 (by decide),
    (sslbpReadRemoteBytesTo_copies (by decide) (by decide) _ _ rfl).2.1 3 (by decide) (by decide)
      (by decide)⟩

/-! ### A text that is too long -/

/-- A remote that sends a NUL for address 0, and for no other. -/
def lateNulContents : SserialContents :=
  { encoderContents with remoteByte := fun _ _ cmd => if cmd = readWord 0 then 0 else 1 }

lemma lateNul_byteAt {addr : ℕ} (h : 2 ^ 31 ≤ addr) : lateNulContents.byteAt 0 false addr ≠ 0 := by
  have hle : addr ≤ readWord addr := Nat.right_le_or
  have hzero : readWord 0 < 2 ^ 31 := by decide
  have hne : readWord addr ≠ readWord 0 := by omega
  have hbyte : lateNulContents.byteAt 0 false addr = 1 := if_neg hne
  rw [hbyte]
  decide

/-- From `0x80000001` on, the first NUL is at a distance of `2 ^ 31 - 1`.  It is not the last
byte that is stored. -/
theorem lateNul_copiesMore :
    (lateNulContents.byteAt 0 false (u32 (0x80000001 + (2 ^ 31 - 1))) = 0 ∧
      ∀ i < 2 ^ 31 - 1, lateNulContents.byteAt 0 false (u32 (0x80000001 + i)) ≠ 0) ∧
    CopiesExactly lateNulContents ⟨0x5B00, 0x40⟩ 0 0 0x80000001 0 (fun _ => 7) (-1) clearRun
      (2 ^ 32 - 1) ∧
    ¬ CopiesExactly lateNulContents ⟨0x5B00, 0x40⟩ 0 0 0x80000001 0 (fun _ => 7) (-1) clearRun
      (2 ^ 31 - 1 + 1) := by
  have hbefore : ∀ i < 2 ^ 31 - 1, lateNulContents.byteAt 0 false (u32 (0x80000001 + i)) ≠ 0 := by
    intro i hi
    rw [u32_of_lt (by omega)]
    exact lateNul_byteAt (by omega)
  have hmore : CopiesExactly lateNulContents ⟨0x5B00, 0x40⟩ 0 0 0x80000001 0 (fun _ => 7) (-1)
      clearRun (2 ^ 32 - 1) := copies_wrapped (by decide) _ _ (by decide) rfl hbefore
  have haddr : u32 (0x80000001 + (2 ^ 31 - 1)) = 0 := by decide
  have hnul : lateNulContents.byteAt 0 false (u32 (0x80000001 + (2 ^ 31 - 1))) = 0 := by
    rw [haddr]
    decide
  exact ⟨⟨hnul, hbefore⟩, hmore, fun h => absurd (h.unique hmore) (by decide)⟩

end Mesaflash
