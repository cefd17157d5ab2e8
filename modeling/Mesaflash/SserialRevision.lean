import Mesaflash.SserialBlock

/-!
The revisions of a remote.

A record of a remote with the name `SwRevision` or `HwRevision` says where the revision is, and
how many bits it has.  It is read over the bytes of the variable that holds the address of the
record, so that a revision of 8 bits gets the high byte of this address.
-/

namespace Mesaflash

open Lib

/-- The revisions that a record can describe. -/
inductive Revision where
  | sw
  | hw
deriving DecidableEq

namespace Revision

/-- How the name of the record begins. -/
def text : Revision → String
  | sw => "SwRevision"
  | hw => "HwRevision"

/-- The element of the device where it is stored. -/
def stored (r : Revision) (dev : SserialDevice) : ℕ :=
  match r with
  | sw => dev.swRevision
  | hw => dev.hwRevision

/-- The device with this revision. -/
def store (r : Revision) (n : ℕ) (dev : SserialDevice) : SserialDevice :=
  match r with
  | sw => { dev with swRevision := n }
  | hw => { dev with hwRevision := n }

lemma stored_store (r : Revision) (n : ℕ) (dev : SserialDevice) : r.stored (r.store n dev) = n := by
  cases r <;> rfl

end Revision

section Record

variable (M : SserialContents)

/-- At this address is the record of a revision of 8 or 16 bits.  The text of its unit has
`unitLength` characters. -/
structure IsRevision (r : Revision) (c d unitLength : ℕ) : Prop where
  ne_zero : d ≠ 0
  lt : d < 0x10000
  type : M.byteAt c false d = lbpData
  unit : ∀ k < unitLength, M.byteAt c false (u32 (d + sserialPddSize + k)) ≠ 0
  unit_end : M.byteAt c false (u32 (d + sserialPddSize + unitLength)) = 0
  name : M.bytesAt c (d + sserialPddSize + unitLength + 1) (ascii r.text).length = ascii r.text
  size : (M.pddAt c d).dataSize = 8 ∨ (M.pddAt c d).dataSize = 16

/-- The revision itself: the bytes at the address of the parameter. -/
def SserialContents.revisionAt (c d : ℕ) : ℕ :=
  wordOf (M.bytesAt c (M.pddAt c d).paramAddr ((M.pddAt c d).dataSize / 8))

variable {M} {c d n : ℕ}

/-! ### Texts -/

lemma mem_bytesAt_iff {addr m : ℕ} :
    0 ∈ M.bytesAt c addr m ↔ ∃ k < m, M.byteAt c false (u32 (addr + k)) = 0 := by
  simp [SserialContents.bytesAt]

lemma bytesAt_add (c addr a b : ℕ) : M.bytesAt c addr (a + b) =
    M.bytesAt c addr a ++ (List.range b).map fun k => M.byteAt c false (u32 (addr + (a + k))) := by
  simp only [SserialContents.bytesAt, List.range_add, List.map_append, List.map_map]
  rfl

/-- A text is as long as its bytes before the first zero. -/
lemma length_of_textAt {addr : ℕ} {text : CStr} (h : M.textAt c addr = some text)
    (hbefore : ∀ k < n, M.byteAt c false (u32 (addr + k)) ≠ 0)
    (hend : M.byteAt c false (u32 (addr + n)) = 0) : text.length = n := by
  rw [SserialContents.textAt] at h
  split_ifs at h with hmem
  obtain rfl := Option.some.inj h
  obtain ⟨k, hk, hzero⟩ := mem_bytesAt_iff.1 hmem
  have hle : n ≤ k := by
    by_contra hlt
    exact hbefore k (Nat.not_le.1 hlt) hzero
  obtain ⟨m, hm⟩ : ∃ m, textSize = n + (m + 1) := ⟨textSize - n - 1, by omega⟩
  have hnone : 0 ∉ M.bytesAt c addr n := fun hmem => by
    obtain ⟨k, hk, hzero⟩ := mem_bytesAt_iff.1 hmem
    exact hbefore k hk hzero
  have hzero' : cstr ((List.range (m + 1)).map fun k =>
      M.byteAt c false (u32 (addr + (n + k)))) = [] := by
    rw [List.range_succ_eq_map, List.map_cons, Nat.add_zero, hend]
    rfl
  rw [hm, bytesAt_add, cstr_of_not_mem hnone, hzero', List.append_nil, length_bytesAt]

/-- A text begins with the bytes that are there. -/
lemma beginsWith_of_textAt {addr : ℕ} {text : CStr} (h : M.textAt c addr = some text)
    {t : String} (hzero : 0 ∉ ascii t) (hlen : (ascii t).length ≤ textSize)
    (hbytes : M.bytesAt c addr (ascii t).length = ascii t) : beginsWith text t = true := by
  rw [SserialContents.textAt] at h
  split_ifs at h with hmem
  obtain rfl := Option.some.inj h
  obtain ⟨m, hm⟩ : ∃ m, textSize = (ascii t).length + m := ⟨textSize - (ascii t).length, by omega⟩
  rw [beginsWith, hm, bytesAt_add, hbytes, cstr_of_not_mem hzero, List.take_left, beq_self_eq_true]

lemma Revision.ascii_text (r : Revision) :
    0 ∉ ascii r.text ∧ (ascii r.text).length = 10 := by
  cases r with
  | sw => exact ⟨by decide, by decide⟩
  | hw => exact ⟨by decide, by decide⟩

/-- The name of a record begins with one of the names. -/
lemma beginsWith_sw_of_hw {text : CStr} (h : beginsWith text "HwRevision" = true) :
    ¬ beginsWith text "SwRevision" = true := by
  intro h'
  have hlen : (ascii "HwRevision").length = (ascii "SwRevision").length := by decide
  rw [beginsWith, beq_iff_eq] at h h'
  rw [hlen] at h
  exact absurd (h.symm.trans h') (by decide)

/-! ### The record -/

variable {r : Revision} {i : Fin hm2SserialMaxChannels} {unit name : CStr}

/-- The name of the record begins as it should. -/
lemma IsRevision.beginsWith (h : IsRevision M r c d n) (htexts : M.TextsAt c d unit name) :
    Mesaflash.beginsWith name r.text = true := by
  have hunit := length_of_textAt htexts.1 h.unit h.unit_end
  have hname := htexts.2
  rw [hunit] at hname
  obtain ⟨hzero, hlen⟩ := r.ascii_text
  exact beginsWith_of_textAt hname hzero (hlen.trans_le (by decide)) h.name

/-- What is stored: the bytes of the revision, and behind them those of the address of the
record. -/
def SserialContents.storedRevision (M : SserialContents) (c d : ℕ) : ℕ :=
  wordOf (M.bytesAt c (M.pddAt c d).paramAddr ((M.pddAt c d).dataSize / 8) ++
    (word16 d).drop ((M.pddAt c d).dataSize / 8))

lemma readRevision_reads (ssmod : SserialModule) (h : IsRevision M r i d n) :
    Reads .hang Ready SserialState.view
      (fun fuel => readRevision (M.bus ssmod.baseAddress) ssmod fuel 0 i d (M.pddAt i d))
      (M.storedRevision i d) := by
  have haddr := paramAddr_pddAt_lt M (c := i) (d := d)
  have hsize : (M.pddAt i d).dataSize / 8 ≤ 2 := by
    rcases h.size with h | h <;> omega
  have hbytes := readBytes_reads M ssmod i.isLt (show (M.pddAt i d).paramAddr < 2 ^ 32 by omega)
    hsize (by omega)
  have hstored : M.storedRevision i d = wordOf (M.bytesAt i (M.pddAt i d).paramAddr
      ((M.pddAt i d).dataSize / 8) ++ (word16 d).drop (M.bytesAt i (M.pddAt i d).paramAddr
        ((M.pddAt i d).dataSize / 8)).length) := by
    rw [length_bytesAt, SserialContents.storedRevision]
  rw [hstored]
  exact hbytes.bind (Reads.pure _)

/-- The revision is stored in the device. -/
lemma dataRecord_stores (ssmod : SserialModule) (verbose : Bool) (h : IsRevision M r i d n)
    (htexts : M.TextsAt i d unit name) {s : SserialRun} (hs : Ready s) :
    ∃ t, r.stored (t.ssDevice i) = M.storedRevision i d ∧
      EndsIn .hang (fun fuel => dataRecord (M.bus ssmod.baseAddress) ssmod verbose fuel 0 i i d) s
        (.ok ((), t)) := by
  have hname := h.beginsWith htexts
  obtain ⟨t₁, ht₁, -, hread⟩ := readDataRecord_reads M ssmod i.isLt h.lt htexts s hs
  obtain ⟨t₂, -, -, hrevision⟩ := readRevision_reads ssmod h t₁ ht₁
  let t : SserialRun := { t₂ with
    ssDevice := Function.update t₂.ssDevice i (r.store (M.storedRevision i d) (t₂.ssDevice i)) }
  have hset : EndsIn .hang (fun _ => setDevice i (r.store (M.storedRevision i d))) t₂
      (.ok ((), t)) := endsIn_const (setDevice i (r.store (M.storedRevision i d))) t₂
  refine ⟨t, ?_, hread.bind ?_⟩
  · change r.stored (Function.update t₂.ssDevice i _ i) = _
    rw [Function.update_self, r.stored_store]
  · have hend := hrevision.bind (q := fun _ n => setDevice i (r.store n)) hset
    cases r with
    | sw =>
      simp only [if_pos (show Mesaflash.beginsWith name "SwRevision" = true from hname)]
      exact hend
    | hw =>
      simp only [if_neg (beginsWith_sw_of_hw hname),
        if_pos (show Mesaflash.beginsWith name "HwRevision" = true from hname)]
      exact hend

/-- The round comes to the record, and then goes on with the next one. -/
lemma recordRound_endsIn (ssmod : SserialModule) (verbose : Bool) {addr : ℕ}
    (h : IsRevision M r i (M.word16At i false addr) n) {s : SserialRun} (hs : Ready s) :
    ∃ t, Ready t ∧ ∀ x : Except Fault ((ℕ ⊕ Unit) × SserialRun),
      EndsIn .hang (fun fuel => dataRecord (M.bus ssmod.baseAddress) ssmod verbose fuel 0 i i
        (M.word16At i false addr) >>= fun _ => pure (.inl (u32 (addr + 2)))) t x →
      EndsIn .hang (fun fuel => recordRound (M.bus ssmod.baseAddress) ssmod verbose fuel 0 i i addr)
        s x := by
  obtain ⟨t, ht, -, hd⟩ := readRemote16_reads M ssmod i.isLt addr s hs
  obtain ⟨t', ht', -, htype⟩ :=
    readRemote8_reads M ssmod i.isLt (M.word16At i false addr) t ht
  refine ⟨t', ht', fun x hx => hd.bind ?_⟩
  simp only [if_neg h.ne_zero]
  refine htype.bind ?_
  simp only [h.type, if_true]
  exact hx

/-- The revision is decoded: after the round for its record the device has it. -/
def RevisionDecoded (M : SserialContents) (verbose : Bool) (r : Revision)
    (i : Fin hm2SserialMaxChannels) (addr : ℕ) : Prop :=
  ∀ (ssmod : SserialModule) (s : SserialRun), Ready s → ∃ x t,
    EndsIn .hang (fun fuel => recordRound (M.bus ssmod.baseAddress) ssmod verbose fuel 0 i i addr)
      s (.ok (x, t)) ∧
    r.stored (t.ssDevice i) = M.revisionAt i (M.word16At i false addr)

/-- What is stored is the revision if it has two bytes, or the high byte of the address of the
record is zero. -/
lemma storedRevision_eq_iff (h : IsRevision M r c d n) :
    M.storedRevision c d = M.revisionAt c d ↔ (M.pddAt c d).dataSize = 16 ∨ d < 0x100 := by
  have hlt := h.lt
  have hhigh : (hiByte d).toNat = d / 0x100 := by
    have hbyte : (hiByte d).toNat = d / 0x100 % 0x100 := rfl
    omega
  rw [SserialContents.storedRevision, SserialContents.revisionAt]
  rcases h.size with h8 | h16
  · obtain ⟨b, hb⟩ : ∃ b, M.bytesAt c (M.pddAt c d).paramAddr (8 / 8) = [b] := ⟨_, rfl⟩
    rw [h8, hb]
    simp only [word16, Nat.reduceDiv, List.drop_succ_cons, List.drop_zero, List.singleton_append,
      wordOf, hhigh]
    omega
  · rw [h16]
    simp [word16]

/-- A revision that is decoded has texts that end in time, and its high byte is right. -/
lemma RevisionDecoded.fits {verbose : Bool} {addr : ℕ}
    (hdecoded : RevisionDecoded M verbose r i addr)
    (h : IsRevision M r i (M.word16At i false addr) n) :
    (∃ unit name, M.TextsAt i (M.word16At i false addr) unit name) ∧
      ((M.pddAt i (M.word16At i false addr)).dataSize = 16 ∨ M.word16At i false addr < 0x100) := by
  obtain ⟨x, t, hend, hstored⟩ := hdecoded ⟨0, 0⟩ (SserialBoard.start clearRegs) ⟨rfl, rfl⟩
  obtain ⟨t', ht', hround⟩ := recordRound_endsIn ⟨0, 0⟩ verbose h
    (s := SserialBoard.start clearRegs) ⟨rfl, rfl⟩
  by_cases htexts : ∃ unit name, M.TextsAt i (M.word16At i false addr) unit name
  · obtain ⟨unit, name, htexts⟩ := htexts
    obtain ⟨u, hu, hrecord⟩ := dataRecord_stores ⟨0, 0⟩ verbose h htexts ht'
    have hok := hround _ (hrecord.bind (endsIn_const _ u))
    obtain ⟨-, rfl⟩ := Prod.mk.inj (Except.ok.inj (hend.unique hok))
    exact ⟨⟨unit, name, htexts⟩, (storedRevision_eq_iff h).1 (hu.symm.trans hstored)⟩
  · -- a text that does not end in time is written behind its array
    have herror := hround _ (EndsIn.bind_error (EndsIn.bind_error
      (readDataRecord_error M ⟨0, 0⟩ i.isLt h.lt htexts ht')))
    cases hend.unique herror

/-- **The revision is decoded exactly if its texts end in time, and it has 16 bits or its record
is in front of 0x100.** -/
theorem revisionDecoded_iff (verbose : Bool) {addr : ℕ}
    (h : IsRevision M r i (M.word16At i false addr) n) :
    RevisionDecoded M verbose r i addr ↔
      (∃ unit name, M.TextsAt i (M.word16At i false addr) unit name) ∧
        ((M.pddAt i (M.word16At i false addr)).dataSize = 16 ∨
          M.word16At i false addr < 0x100) := by
  refine ⟨fun hdecoded => hdecoded.fits h, ?_⟩
  rintro ⟨⟨unit, name, htexts⟩, hsize⟩ ssmod s hs
  obtain ⟨t', ht', hround⟩ := recordRound_endsIn ssmod verbose h hs
  obtain ⟨t, ht, hrecord⟩ := dataRecord_stores ssmod verbose h htexts ht'
  exact ⟨_, t, hround _ (hrecord.bind (endsIn_const _ t)),
    ht.trans ((storedRevision_eq_iff h).2 hsize)⟩

end Record

/-! ### A revision of 8 bits -/

/-- The record of a revision of 8 bits at 0x40. -/
def revisionRecord : List UInt8 :=
  [lbpData, 8, 0x02, 0] ++ List.replicate 8 0 ++ [0x40, 0] ++ [0] ++ (ascii "SwRevision" ++ [0])

/-- The memory of a remote with a table at 0x10.  Its only record is in this page. -/
def revisionMemory (page : UInt8) (addr : ℕ) : UInt8 :=
  if addr = 0x10 then 0x20
  else if addr = 0x11 then page
  else if addr = 0x40 then 7
  else if 0x20 ≤ addr then revisionRecord.getD (addr % 0x100 - 0x20) 0
  else 0

def revisionContents (page : UInt8) : SserialContents :=
  { encoderContents with remoteByte := fun _ _ cmd => revisionMemory page (cmd % 0x1000000) }

def firstChannel : Fin hm2SserialMaxChannels := ⟨0, by decide⟩

/-- In the first two pages the record is that of a revision. -/
lemma page_isRevision {page : UInt8} (hpage : page = 0 ∨ page = 1) :
    IsRevision (revisionContents page) .sw firstChannel
      ((revisionContents page).word16At firstChannel false 0x10) 0 where
  ne_zero := by rcases hpage with rfl | rfl <;> decide
  lt := by rcases hpage with rfl | rfl <;> decide
  type := by rcases hpage with rfl | rfl <;> decide
  unit := fun k hk => absurd hk k.not_lt_zero
  unit_end := by rcases hpage with rfl | rfl <;> decide
  name := by rcases hpage with rfl | rfl <;> decide
  size := by rcases hpage with rfl | rfl <;> exact .inl (by decide)

/-- With its record in the first page the revision is decoded. -/
theorem firstPage_decoded : RevisionDecoded (revisionContents 0) false .sw firstChannel 0x10 :=
  (revisionDecoded_iff false (page_isRevision (.inl rfl))).2
    ⟨⟨[], ascii "SwRevision", by decide, by decide⟩, .inr (by decide)⟩

/-- With its record in the second page it is not. -/
theorem secondPage_not_decoded :
    ¬ RevisionDecoded (revisionContents 1) false .sw firstChannel 0x10 := by
  intro h
  have hfits := (h.fits (page_isRevision (.inr rfl))).2
  revert hfits
  decide

end Mesaflash
