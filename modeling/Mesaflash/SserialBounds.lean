import Mesaflash.SserialDevice

/-!
When the enumeration of smart serial devices stays in its arrays.

A remote chooses its texts, the sizes and types of its data, and how many software modes it
has, and an interface chooses how many channels it has.  None of this is checked.  This file
says which contents of an interface are harmless (`InterfaceFits`), and that with them, and
only with them, no access of a run over its port is out of bounds.
-/

namespace Mesaflash

open Lib

/-! ### What has to fit -/

namespace SserialContents

variable (M : SserialContents)

/-- The bytes of a remote from an address on. -/
def bytesAt (c addr n : ℕ) : List UInt8 :=
  (List.range n).map fun k => M.byteAt c false (u32 (addr + k))

/-- The text at an address, if it ends in time for a buffer of `textSize` bytes. -/
def textAt (c addr : ℕ) : Option CStr :=
  if 0 ∈ M.bytesAt c addr textSize then some (cstr (M.bytesAt c addr textSize)) else none

/-- The descriptor of a data record. -/
def pddAt (c d : ℕ) : SserialPdd := pddOfBytes (M.bytesAt c d sserialPddSize)

/-- The descriptor of a mode record. -/
def mdAt (c d : ℕ) : SserialMd := mdOfBytes (M.bytesAt c d sserialMdSize)

/-- The unit and the name of a data record. -/
def TextsAt (c d : ℕ) (unit name : CStr) : Prop :=
  M.textAt c (d + sserialPddSize) = some unit ∧
    M.textAt c (d + sserialPddSize + unit.length + 1) = some name

/-- What is done with a parameter fits: a revision into two bytes, a baud rate and a type into
their tables of names. -/
def ParameterFits (verbose : Bool) (c : ℕ) (pdd : SserialPdd) (unit name : CStr) : Prop :=
  if beginsWith name "SwRevision" then pdd.dataSize / 8 ≤ 2
  else if beginsWith name "HwRevision" then pdd.dataSize / 8 ≤ 2
  else if beginsWith name "NVBaudRate" then M.word16At c true pdd.paramAddr < baudRates.length
  else if beginsWith name "NVUnitNumber" then True
  else if beginsWith name "NVWatchDogTimeout" then True
  else if (beginsWith name "NV" ∨ (pdd.dataType = lbpUnsigned ∧ beginsWith unit "None")) ∧
      verbose then pdd.dataType < recordTypes.length
  else True

/-- A data record of the first table. -/
def DataFits (verbose : Bool) (c d : ℕ) : Prop :=
  ∃ unit name, M.TextsAt c d unit name ∧ M.ParameterFits verbose c (M.pddAt c d) unit name

/-- A mode record of the first table, after `n` software modes. -/
def ModeFits (c d n : ℕ) : Prop :=
  (∃ name, M.textAt c (d + sserialMdSize) = some name) ∧
    ((M.mdAt c d).modeType = 0x01 → n < swModesMax)

/-- A record of the first table, after `n` software modes. -/
def RecordFits (verbose : Bool) (c d n : ℕ) : Prop :=
  if M.byteAt c false d = lbpData then M.DataFits verbose c d
  else if M.byteAt c false d = lbpMode then M.ModeFits c d n
  else True

/-- The software modes that a record declares: one at most. -/
def modesAt (c d : ℕ) : List SwMode :=
  if M.byteAt c false d = lbpMode ∧ (M.mdAt c d).modeType = 0x01 then
    (M.textAt c (d + sserialMdSize)).toList.map fun name => ⟨(M.mdAt c d).modeIndex, name⟩
  else []

/-- A record of the table of a software mode. -/
def ModeRecordFits (verbose : Bool) (c d : ℕ) : Prop :=
  if M.byteAt c false d = lbpData then
    (∃ unit name, M.TextsAt c d unit name) ∧
      (verbose → (M.pddAt c d).dataType < recordTypes.length)
  else if M.byteAt c false d = lbpMode then ∃ name, M.textAt c (d + sserialMdSize) = some name
  else True

/-- The address of the `k`-th record of a table. -/
def entry (c table k : ℕ) : ℕ := M.word16At c false (u32 (table + 2 * k))

/-- A table ends with a zero. -/
def TableEnds (c table : ℕ) : Prop := ∃ k, M.entry c table k = 0

/-- The software modes before the `k`-th record. -/
def modesBefore (c table k : ℕ) : List SwMode :=
  (List.range k).flatMap fun j => M.modesAt c (M.entry c table j)

/-- The software modes of a table that ends. -/
def TableModes (c table : ℕ) (l : List SwMode) : Prop :=
  ∃ k, M.entry c table k = 0 ∧ (∀ j < k, M.entry c table j ≠ 0) ∧ l = M.modesBefore c table k

/-- The records of the first table, up to its end if it has one. -/
def TableFits (verbose : Bool) (c table : ℕ) : Prop :=
  ∀ k, (∀ j ≤ k, M.entry c table j ≠ 0) →
    M.RecordFits verbose c (M.entry c table k) (M.modesBefore c table k).length

/-- The records of the table of a software mode, up to its end if it has one. -/
def ModeTableFits (verbose : Bool) (c table : ℕ) : Prop :=
  ∀ k, (∀ j ≤ k, M.entry c table j ≠ 0) → M.ModeRecordFits verbose c (M.entry c table k)

/-- The first table of a channel. -/
def table (c : ℕ) : ℕ := (M.interface2 c 0 >>> 16) &&& 0xFFFF

/-- The table that is taken for that of the software modes of a channel. -/
def modeTable (c : ℕ) : ℕ := M.otherReg (hm2ModOffsSserialInterface2 + c * 4) &&& 0xFFFF

/-- A software mode can be started. -/
def ModeStarts (c : ℕ) (l : List SwMode) : Prop := ∃ mode ∈ l, M.setup c mode.index = 0

/-- A channel answers to its setup. -/
def Present (c : ℕ) : Prop :=
  (if c < hm2SserialMaxChannels then M.setup c 0 else M.setupNone) = 0

/-- The device of a channel. -/
def ChannelFits (verbose : Bool) (c : ℕ) : Prop :=
  c < hm2SserialMaxChannels ∧ M.TableFits verbose c (M.table c) ∧
    ∀ l, M.TableModes c (M.table c) l → M.ModeStarts c l → M.ModeTableFits verbose c (M.modeTable c)

/-- The tables of the device of a channel end. -/
def ChannelEnds (c : ℕ) : Prop :=
  ∃ l, M.TableModes c (M.table c) l ∧ (M.ModeStarts c l → M.TableEnds c (M.modeTable c))

/-- The channels of the interface.  A channel counts only if the tables of the channels before
it end. -/
def InterfaceFits (verbose : Bool) : Prop :=
  ∀ c < (M.localByte sslbpWidthLoc).toNat,
    (∀ c' < c, M.Present c' → M.ChannelEnds c') → M.Present c → M.ChannelFits verbose c

end SserialContents

/-- No nonvolatile memory is selected, and no command has an argument. -/
abbrev Ready : SserialRun → Prop := Selected fun _ => false

section Walks

variable (M : SserialContents) (ssmod : SserialModule)

/-! ### Elements of arrays -/

lemma elementOf_reads {σ ν : Type} {Q : σ → Prop} {view : σ → ν} {n i : ℕ} (h : i < n) :
    Reads .hang Q view (fun _ => elementOf n i) ⟨i, h⟩ :=
  fun s hs => ⟨s, hs, rfl, elementOf_eq h s ▸ endsIn_const _ s⟩

lemma elementOf_error {σ : Type} {n i : ℕ} (h : ¬ i < n) (s : σ) :
    EndsIn .hang (fun _ => elementOf n i) s (.error (.undefined .outOfBounds)) := by
  have hat : elementOf n i s = .error (.undefined .outOfBounds) := by
    rw [elementOf, dif_neg h]
    rfl
  exact hat ▸ endsIn_const _ s

/-! ### Bytes of a remote -/

lemma bytesAt_succ (c addr n : ℕ) :
    M.bytesAt c addr (n + 1) = M.bytesAt c addr n ++ [M.byteAt c false (u32 (addr + n))] := by
  simp only [SserialContents.bytesAt, List.range_succ, List.map_append, List.map_cons,
    List.map_nil]

@[simp] lemma length_bytesAt (c addr n : ℕ) : (M.bytesAt c addr n).length = n := by
  simp only [SserialContents.bytesAt, List.length_map, List.length_range]

/-- The variables before round `i` of `sslbp_read_remote_bytes`. -/
def byteCopyAt (c addr : ℕ) (size : ℤ) (i : ℕ) : ByteCopy (List UInt8) :=
  ⟨u32 (addr + i), M.bytesAt c addr i, size - i⟩

/-- A buffer that has room takes a byte. -/
lemma storeInRoom_reads {σ τ : Type} {I : SserialState σ → Prop} {view : SserialState σ → τ}
    {room : ℕ} {buffer : List UInt8} (data : UInt8) (h : buffer.length < room) :
    Reads .hang I view (fun _ => storeInRoom room buffer data) (buffer ++ [data]) :=
  (elementOf_reads h).bind (.pure _)

lemma storeInRoom_error {σ : Type} {room : ℕ} {buffer : List UInt8} (data : UInt8)
    (h : ¬ buffer.length < room) (s : SserialState σ) :
    EndsIn .hang (fun _ => storeInRoom room buffer data) s (.error (.undefined .outOfBounds)) :=
  EndsIn.bind_error (elementOf_error h s)

section CopyByte

variable {c i : ℕ} (addr room : ℕ) (size : ℤ) (hc : c < hm2SserialMaxChannels)

include hc in
/-- A round that stores a byte. -/
lemma copyByte_reads (hi : i < room) (hsize : size - i ≠ 0) (hlo : -2 ^ 31 < size - i)
    (hhi : size - i < 2 ^ 31) :
    Reads .hang Ready SserialState.view
      (fun f => copyByte (M.bus ssmod.baseAddress) ssmod (storeInRoom room) f 0 c
        (byteCopyAt M c addr size i))
      (if size - (i + 1 : ℕ) < 0 ∧ M.byteAt c false (u32 (addr + i)) = 0 then
        .inr (M.bytesAt c addr (i + 1))
      else .inl (byteCopyAt M c addr size (i + 1))) := by
  have hnext : toInt (size - i - 1) = size - (i + 1 : ℕ) := by
    rw [toInt_of_lt (by omega) (by omega)]
    push_cast
    omega
  have haddr : u32 (u32 (addr + i) + 1) = u32 (addr + (i + 1)) := u32_add_left _ _
  simp only [copyByte, byteCopyAt, hsize, if_false]
  refine (readRemote8_reads M ssmod hc (u32 (addr + i))).bind ?_
  refine (storeInRoom_reads _ (by rwa [length_bytesAt])).bind ?_
  simp only [hnext, haddr, ← bytesAt_succ]
  split_ifs
  · exact Reads.pure _
  · exact Reads.pure _

include hc in
/-- A round for which the buffer is too small. -/
lemma copyByte_error (hi : room ≤ i) (hsize : size - i ≠ 0) {s : SserialRun} (hs : Ready s) :
    EndsIn .hang
      (fun f => copyByte (M.bus ssmod.baseAddress) ssmod (storeInRoom room) f 0 c
        (byteCopyAt M c addr size i))
      s (.error (.undefined .outOfBounds)) := by
  simp only [copyByte, byteCopyAt, hsize, if_false]
  refine (readRemote8_reads M ssmod hc (u32 (addr + i))).bind_error (fun t _ => ?_) hs
  refine EndsIn.bind_error (storeInRoom_error _ ?_ t)
  rw [length_bytesAt]
  exact Nat.not_lt.mpr hi

/-- The round after the last byte. -/
lemma copyByte_done (hsize : size - i = 0) :
    Reads .hang Ready SserialState.view
      (fun f => copyByte (M.bus ssmod.baseAddress) ssmod (storeInRoom room) f 0 c
        (byteCopyAt M c addr size i))
      (.inr (M.bytesAt c addr i)) := by
  simp only [copyByte, byteCopyAt, hsize, if_true]
  exact Reads.pure _

variable {addr : ℕ}

/-- The loop starts with no bytes. -/
lemma readRemoteBytes_eq (haddr : addr < 2 ^ 32) (fuel : ℕ) :
    sslbpReadRemoteBytes (M.bus ssmod.baseAddress) ssmod fuel 0 c addr room size =
      loopM .hang (fun f x => copyByte (M.bus ssmod.baseAddress) ssmod (storeInRoom room) f 0 c x)
        fuel (byteCopyAt M c addr size 0) := by
  have hstart : byteCopyAt M c addr size 0 = ⟨addr, [], size⟩ := by
    rw [byteCopyAt, Nat.add_zero, u32_of_lt haddr, Nat.cast_zero, Int.sub_zero]
    rfl
  rw [hstart, sslbpReadRemoteBytes]

variable {room : ℕ}

include hc

/-- A buffer that is large enough gets as many bytes as it is asked for. -/
lemma readBytes_reads (haddr : addr < 2 ^ 32) {n : ℕ} (hn : n ≤ room) (hint : n < 2 ^ 31) :
    Reads .hang Ready SserialState.view
      (fun f => sslbpReadRemoteBytes (M.bus ssmod.baseAddress) ssmod f 0 c addr room n)
      (M.bytesAt c addr n) := by
  simp only [readRemoteBytes_eq M ssmod room n haddr]
  refine Reads.loopM (k := n) (x := byteCopyAt M c addr n) (fun i hi => ?_) ?_
  · have hround := copyByte_reads M ssmod addr room n hc (hi.trans_le hn)
      (by omega) (by omega) (by omega)
    rwa [if_neg (by omega)] at hround
  · exact copyByte_done M ssmod addr room n (sub_self _)

/-- A buffer that is too small for what is asked for. -/
lemma readBytes_error (haddr : addr < 2 ^ 32) {n : ℕ} (hn : room < n) (hint : n < 2 ^ 31)
    {s : SserialRun} (hs : Ready s) :
    EndsIn .hang
      (fun f => sslbpReadRemoteBytes (M.bus ssmod.baseAddress) ssmod f 0 c addr room n)
      s (.error (.undefined .outOfBounds)) := by
  simp only [readRemoteBytes_eq M ssmod room n haddr]
  have hnext : ∀ i < room, Reads .hang Ready SserialState.view
      (fun f => copyByte (M.bus ssmod.baseAddress) ssmod (storeInRoom room) f 0 c
        (byteCopyAt M c addr n i))
      (.inl (byteCopyAt M c addr n (i + 1))) := by
    intro i hi
    have hround := copyByte_reads M ssmod addr room n hc hi (by omega) (by omega) (by omega)
    rwa [if_neg (by omega)] at hround
  exact Reads.loopM_error hnext
    (fun t ht => copyByte_error M ssmod addr room n hc le_rfl (by omega) ht) hs

/-- A text that goes on. -/
lemma copyText_next {i : ℕ} (hi : i < textSize) (hbyte : M.byteAt c false (u32 (addr + i)) ≠ 0) :
    Reads .hang Ready SserialState.view
      (fun f => copyByte (M.bus ssmod.baseAddress) ssmod (storeInRoom textSize) f 0 c
        (byteCopyAt M c addr (-1) i))
      (.inl (byteCopyAt M c addr (-1) (i + 1))) := by
  have hi' : i < 48 := hi
  have hround := copyByte_reads M ssmod addr textSize (-1) hc hi (by omega) (by omega) (by omega)
  rwa [if_neg fun h => hbyte h.2] at hround

/-- A text that ends in time. -/
lemma readText_reads (haddr : addr < 2 ^ 32) {text : CStr} (h : M.textAt c addr = some text) :
    ∃ buffer, cstr buffer = text ∧ Reads .hang Ready SserialState.view
      (fun f => sslbpReadRemoteBytes (M.bus ssmod.baseAddress) ssmod f 0 c addr textSize (-1))
      buffer := by
  rw [SserialContents.textAt] at h
  split_ifs at h with hzero
  obtain rfl := Option.some.inj h
  have hend : ∃ k < textSize, M.byteAt c false (u32 (addr + k)) = 0 := by
    simpa only [SserialContents.bytesAt, List.mem_map, List.mem_range] using hzero
  -- the loop copies up to the first zero byte
  obtain ⟨hk, hbyte⟩ := Nat.find_spec hend
  have hbefore : ∀ i < Nat.find hend, M.byteAt c false (u32 (addr + i)) ≠ 0 := by
    intro i hi hzero'
    exact Nat.find_min hend hi ⟨hi.trans hk, hzero'⟩
  generalize Nat.find hend = k at hk hbyte hbefore
  have hk' : k < 48 := hk
  refine ⟨M.bytesAt c addr (k + 1), ?_, ?_⟩
  · obtain ⟨m, hm⟩ : ∃ m, textSize = (k + 1) + m := ⟨textSize - (k + 1), by omega⟩
    have hsplit : M.bytesAt c addr textSize = M.bytesAt c addr (k + 1) ++
        (List.range m).map fun j => M.byteAt c false (u32 (addr + (k + 1 + j))) := by
      simp only [SserialContents.bytesAt, hm, List.range_add, List.map_append, List.map_map]
      rfl
    have hmem : 0 ∈ M.bytesAt c addr (k + 1) := by
      rw [bytesAt_succ, hbyte]
      exact List.mem_append_right _ List.mem_cons_self
    rw [hsplit, cstr_append_of_mem hmem]
  · simp only [readRemoteBytes_eq M ssmod textSize (-1) haddr]
    refine Reads.loopM (x := byteCopyAt M c addr (-1))
      (fun i hi => copyText_next M ssmod hc (hi.trans hk) (hbefore i hi)) ?_
    have hround := copyByte_reads M ssmod addr textSize (-1) hc hk (by omega) (by omega) (by omega)
    rwa [if_pos ⟨by omega, hbyte⟩] at hround

/-- A text that does not end in time. -/
lemma readText_error (haddr : addr < 2 ^ 32) (h : M.textAt c addr = none) {s : SserialRun}
    (hs : Ready s) :
    EndsIn .hang
      (fun f => sslbpReadRemoteBytes (M.bus ssmod.baseAddress) ssmod f 0 c addr textSize (-1))
      s (.error (.undefined .outOfBounds)) := by
  have hbefore : ∀ i < textSize, M.byteAt c false (u32 (addr + i)) ≠ 0 := by
    intro i hi hzero
    have hmem : 0 ∈ M.bytesAt c addr textSize :=
      List.mem_map.mpr ⟨i, List.mem_range.mpr hi, hzero⟩
    rw [SserialContents.textAt, if_pos hmem] at h
    exact nomatch h
  simp only [readRemoteBytes_eq M ssmod textSize (-1) haddr]
  refine Reads.loopM_error (k := textSize) (x := byteCopyAt M c addr (-1))
    (fun i hi => copyText_next M ssmod hc hi (hbefore i hi)) (fun t ht => ?_) hs
  exact copyByte_error M ssmod addr textSize (-1) hc le_rfl (by omega) ht

end CopyByte

/-! ### Records -/

/-- The software modes of a device are these, and the devices behind it have none. -/
def ModesView (i : Fin hm2SserialMaxChannels) (l : List SwMode)
    (v : SserialInterface × (Fin hm2SserialMaxChannels → SserialDevice)) : Prop :=
  (v.2 i).swModes = l ∧ ∀ j, i < j → (v.2 j).swModes = []

/-- `ModesView`, between two accesses. -/
def Modes (i : Fin hm2SserialMaxChannels) (l : List SwMode) (s : SserialRun) : Prop :=
  Ready s ∧ ModesView i l s.view

/-- A program whose accesses are out of bounds only if something does not fit. -/
abbrev Enumerates {α : Type} (I : SserialRun → Prop) (J : α → SserialRun → Prop)
    (p : ℕ → SserialM SserialRegs α) (fits ends : Prop) : Prop :=
  Walks .hang (.undefined .outOfBounds) I J p fits ends

variable {c d : ℕ} {i : Fin hm2SserialMaxChannels} {l : List SwMode}

/-- A device is changed, but not its software modes. -/
lemma Modes.setDevice {f : SserialDevice → SserialDevice}
    (hf : ∀ dev, (f dev).swModes = dev.swModes) {s : SserialRun} (hs : Modes i l s) :
    ∃ t, Modes i l t ∧ t.regs = s.regs ∧ Mesaflash.setDevice i f s = .ok ((), t) := by
  obtain ⟨hready, hmodes, hrest⟩ := hs
  refine ⟨{ s with ssDevice := Function.update s.ssDevice i (f (s.ssDevice i)) },
    ⟨hready, ?_, fun j hj => ?_⟩, rfl, rfl⟩
  · rw [← hmodes]
    exact (congrArg SserialDevice.swModes (Function.update_self i _ _)).trans (hf _)
  · rw [← hrest j hj]
    exact congrArg SserialDevice.swModes (Function.update_of_ne (ne_of_gt hj) _ _)

lemma setDevice_walks {f : SserialDevice → SserialDevice}
    (hf : ∀ dev, (f dev).swModes = dev.swModes) :
    Enumerates (Modes i l) (fun _ => Modes i l) (fun _ => setDevice i f) True True := by
  refine .of_endsIn fun s hs => ?_
  obtain ⟨t, ht, -, heq⟩ := hs.setDevice hf
  exact ⟨(), t, ht, heq ▸ endsIn_const _ s⟩

/-- Reading, and nothing else. -/
lemma reads_walks {α : Type} {p : ℕ → SserialM SserialRegs α} {a : α}
    (hp : Reads .hang Ready SserialState.view p a) :
    Enumerates (Modes i l) (fun _ => Modes i l) (fun f => do let _ ← p f; pure ()) True True :=
  hp.walks (Walks.pure fun _ hs => hs)

/-- An index is read, and used. -/
lemma elementOf_walks (n k : ℕ) :
    Enumerates (Modes i l) (fun _ => Modes i l)
      (fun _ => do let _ ← elementOf n k; pure ()) (k < n) True := by
  by_cases hk : k < n
  · exact (reads_walks (elementOf_reads hk)).iff (iff_true_intro hk) fun _ => Iff.rfl
  · exact .of_bad hk fun s _ => (elementOf_error hk s).bind_error

lemma length_textAt {addr : ℕ} {text : CStr} (h : M.textAt c addr = some text) :
    text.length ≤ textSize := by
  rw [SserialContents.textAt] at h
  split_ifs at h
  obtain rfl := Option.some.inj h
  exact (length_cstr_le _).trans (length_bytesAt M c addr textSize).le

lemma dataSize_pddAt_lt : (M.pddAt c d).dataSize < 256 := UInt8.toNat_lt _

lemma wordOf_lt_of_length_le {bytes : List UInt8} (h : bytes.length ≤ 2) :
    wordOf bytes < 0x10000 := by
  rcases bytes with _ | ⟨b, _ | ⟨b', _ | ⟨b'', rest⟩⟩⟩
  · decide
  · have hb := b.toNat_lt
    simp only [wordOf]
    omega
  · have hb := b.toNat_lt
    have hb' := b'.toNat_lt
    simp only [wordOf]
    omega
  · simp only [List.length_cons] at h
    omega

lemma paramAddr_pddAt_lt : (M.pddAt c d).paramAddr < 0x10000 :=
  wordOf_lt_of_length_le (List.length_take_le _ _)

section Records

variable (hc : c < hm2SserialMaxChannels) (hd : d < 0x10000)

include hc hd

/-- A data record whose texts end in time. -/
lemma readDataRecord_reads {unit name : CStr} (h : M.TextsAt c d unit name) :
    Reads .hang Ready SserialState.view
      (fun f => readDataRecord (M.bus ssmod.baseAddress) ssmod f 0 c d)
      (M.pddAt c d, unit, name) := by
  obtain ⟨hunit, hname⟩ := h
  have hlen := length_textAt M hunit
  simp only [sserialPddSize, textSize] at hunit hname hlen
  obtain ⟨buffer, hbuffer, hreadUnit⟩ := readText_reads M ssmod hc (by omega) hunit
  obtain ⟨buffer', hbuffer', hreadName⟩ := readText_reads M ssmod hc (by omega) hname
  refine (readBytes_reads M ssmod hc (by omega) le_rfl (by decide)).bind (hreadUnit.bind ?_)
  rw [hbuffer]
  refine hreadName.bind ?_
  rw [hbuffer']
  exact Reads.pure _

/-- A data record with a text that does not end in time. -/
lemma readDataRecord_error (h : ¬ ∃ unit name, M.TextsAt c d unit name) {s : SserialRun}
    (hs : Ready s) :
    EndsIn .hang (fun f => readDataRecord (M.bus ssmod.baseAddress) ssmod f 0 c d) s
      (.error (.undefined .outOfBounds)) := by
  refine (readBytes_reads M ssmod hc (by omega) le_rfl (by decide)).bind_error (fun t ht => ?_) hs
  cases hunit : M.textAt c (d + sserialPddSize) with
  | none =>
      simp only [sserialPddSize] at hunit
      exact (readText_error M ssmod hc (by omega) hunit ht).bind_error
  | some unit =>
      have hlen := length_textAt M hunit
      cases hname : M.textAt c (d + sserialPddSize + unit.length + 1) with
      | some name => exact absurd ⟨unit, name, hunit, hname⟩ h
      | none =>
          simp only [sserialPddSize, textSize] at hunit hname hlen
          obtain ⟨buffer, hbuffer, hreadUnit⟩ := readText_reads M ssmod hc (by omega) hunit
          refine hreadUnit.bind_error (fun t' ht' => ?_) ht
          rw [hbuffer]
          exact (readText_error M ssmod hc (by omega) hname ht').bind_error

/-- A mode record whose name ends in time. -/
lemma readModeRecord_reads {name : CStr} (h : M.textAt c (d + sserialMdSize) = some name) :
    Reads .hang Ready SserialState.view
      (fun f => readModeRecord (M.bus ssmod.baseAddress) ssmod f 0 c d)
      (M.mdAt c d, name) := by
  simp only [sserialMdSize] at h
  obtain ⟨buffer, hbuffer, hread⟩ := readText_reads M ssmod hc (by omega) h
  refine (readBytes_reads M ssmod hc (by omega) le_rfl (by decide)).bind (hread.bind ?_)
  rw [hbuffer]
  exact Reads.pure _

/-- A mode record with a name that does not end in time. -/
lemma readModeRecord_error (h : M.textAt c (d + sserialMdSize) = none) {s : SserialRun}
    (hs : Ready s) :
    EndsIn .hang (fun f => readModeRecord (M.bus ssmod.baseAddress) ssmod f 0 c d) s
      (.error (.undefined .outOfBounds)) := by
  simp only [sserialMdSize] at h
  refine (readBytes_reads M ssmod hc (by omega) le_rfl (by decide)).bind_error (fun t ht => ?_) hs
  exact (readText_error M ssmod hc (by omega) h ht).bind_error

omit hd in
/-- A revision is stored in a device. -/
lemma revision_walks {f : ℕ → SserialDevice → SserialDevice}
    (hf : ∀ n dev, (f n dev).swModes = dev.swModes) :
    Enumerates (Modes i l) (fun _ => Modes i l)
      (fun n => do
        let d ← readRevision (M.bus ssmod.baseAddress) ssmod n 0 c d (M.pddAt c d)
        setDevice i (f d))
      ((M.pddAt c d).dataSize / 8 ≤ 2) True := by
  have hsize := dataSize_pddAt_lt M (c := c) (d := d)
  have haddr := paramAddr_pddAt_lt M (c := c) (d := d)
  by_cases hfits : (M.pddAt c d).dataSize / 8 ≤ 2
  · have hread : Reads .hang Ready SserialState.view
        (fun n => readRevision (M.bus ssmod.baseAddress) ssmod n 0 c d (M.pddAt c d)) _ :=
      (readBytes_reads M ssmod hc (by omega) hfits (by omega)).bind (Reads.pure _)
    exact (hread.walks (setDevice_walks (hf _))).iff (iff_true_intro hfits) fun _ => Iff.rfl
  · refine .of_bad hfits fun s hs => EndsIn.bind_error (EndsIn.bind_error ?_)
    exact readBytes_error M ssmod hc (by omega) (by omega) (by omega) hs.1

omit hd in
/-- The value of a parameter is read to be printed. -/
lemma readParameter_reads :
    Reads .hang Ready SserialState.view
      (fun f => readParameter (M.bus ssmod.baseAddress) ssmod f 0 c (M.pddAt c d)) () := by
  unfold readParameter
  split_ifs
  · exact (readNvRemote16_reads M ssmod hc _).bind (Reads.pure ())
  · exact (readNvRemote32_reads M ssmod hc _).bind (Reads.pure ())
  · exact Reads.pure ()
  · exact Reads.pure ()

/-- A data record of the first table. -/
lemma dataRecord_walks (verbose : Bool) :
    Enumerates (Modes i l) (fun _ => Modes i l)
      (fun f => dataRecord (M.bus ssmod.baseAddress) ssmod verbose f 0 c i d)
      (M.DataFits verbose c d) True := by
  by_cases htexts : ∃ unit name, M.TextsAt c d unit name
  · obtain ⟨unit, name, h⟩ := htexts
    have hfits : M.DataFits verbose c d ↔ M.ParameterFits verbose c (M.pddAt c d) unit name := by
      constructor
      · rintro ⟨unit', name', ⟨hunit, hname⟩, hfits⟩
        obtain rfl := Option.some.inj (hunit.symm.trans h.1)
        obtain rfl := Option.some.inj (hname.symm.trans h.2)
        exact hfits
      · exact fun hfits => ⟨unit, name, h, hfits⟩
    refine Walks.iff (Reads.walks (readDataRecord_reads M ssmod hc hd h) ?_) hfits fun _ => Iff.rfl
    dsimp only [SserialContents.ParameterFits]
    split_ifs
    · exact revision_walks M ssmod hc fun _ _ => rfl
    · exact revision_walks M ssmod hc fun _ _ => rfl
    · exact (readNvRemote16_reads M ssmod hc _).walks (elementOf_walks _ _)
    · exact reads_walks (readNvRemote32_reads M ssmod hc _)
    · exact reads_walks (readNvRemote16_reads M ssmod hc _)
    · exact (readParameter_reads M ssmod hc).walks (elementOf_walks _ _)
    · exact Walks.pure fun _ hs => hs
  · -- one of the two texts of the record does not end in its array
    refine .of_bad (fun hfits => htexts ?_) fun s hs =>
      EndsIn.bind_error (readDataRecord_error M ssmod hc hd htexts hs.1)
    obtain ⟨unit, name, h, -⟩ := hfits
    exact ⟨unit, name, h⟩

omit hc hd in
/-- A software mode is added, if there is an element for it. -/
lemma addMode_walks (mode : SwMode) :
    Enumerates (Modes i l) (fun _ => Modes i (l ++ [mode]))
      (fun _ => do
        let s ← get
        let _ ← elementOf swModesMax (s.ssDevice i).swModes.length
        setDevice i fun dev => { dev with swModes := dev.swModes ++ [mode] })
      (l.length < swModesMax) True := by
  by_cases hfits : l.length < swModesMax
  · refine Walks.iff (.of_endsIn fun s hs => ?_) (iff_true_intro hfits) fun _ => Iff.rfl
    obtain ⟨hready, hmodes, hrest⟩ := hs
    have hmodes' : (s.ssDevice i).swModes = l := hmodes
    have hindex : (s.ssDevice i).swModes.length < swModesMax := hmodes' ▸ hfits
    refine ⟨(), _, ?_, EndsIn.step (s := s) (a := s) rfl
      (EndsIn.step (elementOf_eq hindex s) (endsIn_const _ s))⟩
    refine ⟨hready, ?_, fun j hj => ?_⟩
    · rw [← hmodes]
      exact (congrArg SserialDevice.swModes (Function.update_self i _ _)).trans rfl
    · rw [← hrest j hj]
      exact congrArg SserialDevice.swModes (Function.update_of_ne (ne_of_gt hj) _ _)
  · refine .of_bad hfits fun s hs => EndsIn.step (s := s) (a := s) rfl ?_
    refine EndsIn.bind_error (elementOf_error ?_ s)
    have hmodes : (s.ssDevice i).swModes = l := hs.2.1
    rwa [hmodes]

/-- A mode record of the first table. -/
lemma modeRecord_walks (htype : M.byteAt c false d = lbpMode) :
    Enumerates (Modes i l) (fun _ => Modes i (l ++ M.modesAt c d))
      (fun f => modeRecord (M.bus ssmod.baseAddress) ssmod f 0 c i d)
      (M.ModeFits c d l.length) True := by
  cases hname : M.textAt c (d + sserialMdSize) with
  | none =>
      refine .of_bad (fun hfits => ?_) fun s hs =>
        EndsIn.bind_error (readModeRecord_error M ssmod hc hd hname hs.1)
      obtain ⟨name, hname'⟩ := hfits.1
      exact nomatch hname.symm.trans hname'
  | some name =>
      have hlen : ¬ swModeNameSize < name.length + 1 := by
        have hlen := length_textAt M hname
        simp only [textSize, swModeNameSize] at hlen ⊢
        omega
      have hread := readModeRecord_reads M ssmod hc hd hname
      by_cases hmode : (M.mdAt c d).modeType = 0x01
      · have hmodes : M.modesAt c d = [⟨(M.mdAt c d).modeIndex, name⟩] := by
          rw [SserialContents.modesAt, if_pos ⟨htype, hmode⟩, hname]
          rfl
        have hfits : M.ModeFits c d l.length ↔ l.length < swModesMax :=
          ⟨fun h => h.2 hmode, fun h => ⟨⟨name, hname⟩, fun _ => h⟩⟩
        refine Walks.iff (hread.walks ?_) hfits fun _ => Iff.rfl
        dsimp only
        rw [if_pos hmode, if_neg hlen, hmodes]
        exact addMode_walks _
      · have hmodes : M.modesAt c d = [] := if_neg fun h => hmode h.2
        have hfits : M.ModeFits c d l.length ↔ True :=
          iff_true_intro ⟨⟨name, hname⟩, fun h => absurd h hmode⟩
        refine Walks.iff (hread.walks ?_) hfits fun _ => Iff.rfl
        dsimp only
        rw [if_neg hmode, hmodes, List.append_nil]
        exact Walks.pure fun _ hs => hs

/-- A record of the first table. -/
lemma record_walks (verbose : Bool) :
    Enumerates (Modes i l) (fun _ => Modes i (l ++ M.modesAt c d))
      (fun f =>
        if M.byteAt c false d = lbpData then
          dataRecord (M.bus ssmod.baseAddress) ssmod verbose f 0 c i d
        else if M.byteAt c false d = lbpMode then
          modeRecord (M.bus ssmod.baseAddress) ssmod f 0 c i d
        else pure ())
      (M.RecordFits verbose c d l.length) True := by
  have hnone : M.byteAt c false d ≠ lbpMode → M.modesAt c d = [] :=
    fun h => if_neg fun h' => h h'.1
  unfold SserialContents.RecordFits
  by_cases hdata : M.byteAt c false d = lbpData
  · have hmode : M.byteAt c false d ≠ lbpMode := by
      rw [hdata]
      decide
    simp only [if_pos hdata, hnone hmode, List.append_nil]
    exact dataRecord_walks M ssmod hc hd verbose
  · by_cases hmode : M.byteAt c false d = lbpMode
    · simp only [if_neg hdata, if_pos hmode]
      exact modeRecord_walks M ssmod hc hd hmode
    · simp only [if_neg hdata, if_neg hmode, hnone hmode, List.append_nil]
      exact Walks.pure fun _ hs => hs

/-- A record of the table of a software mode. -/
lemma modeTableRecord_walks (verbose : Bool) :
    Enumerates (Modes i l) (fun _ => Modes i l)
      (fun f =>
        if M.byteAt c false d = lbpData then
          modeDataRecord (M.bus ssmod.baseAddress) ssmod verbose f 0 c d
        else if M.byteAt c false d = lbpMode then do
          let _ ← readModeRecord (M.bus ssmod.baseAddress) ssmod f 0 c d
        else pure ())
      (M.ModeRecordFits verbose c d) True := by
  unfold SserialContents.ModeRecordFits
  by_cases hdata : M.byteAt c false d = lbpData
  · simp only [if_pos hdata]
    by_cases htexts : ∃ unit name, M.TextsAt c d unit name
    · obtain ⟨unit, name, h⟩ := htexts
      refine Walks.iff (Reads.walks (readDataRecord_reads M ssmod hc hd h) ?_)
        (and_iff_right ⟨unit, name, h⟩) fun _ => Iff.rfl
      cases verbose with
      | false =>
          refine Walks.iff (Walks.pure fun _ hs => hs) ?_ fun _ => Iff.rfl
          exact iff_true_intro fun h => absurd h (by decide)
      | true =>
          refine Walks.iff (elementOf_walks _ _) ?_ fun _ => Iff.rfl
          exact ⟨fun h => h rfl, fun h _ => h⟩
    · exact .of_bad (fun h => htexts h.1) fun s hs =>
        EndsIn.bind_error (readDataRecord_error M ssmod hc hd htexts hs.1)
  · -- the name of a mode has to end in its array too
    by_cases hmode : M.byteAt c false d = lbpMode
    · simp only [if_neg hdata, if_pos hmode]
      cases hname : M.textAt c (d + sserialMdSize) with
      | none =>
          refine .of_bad (fun h => ?_) fun s hs =>
            EndsIn.bind_error (readModeRecord_error M ssmod hc hd hname hs.1)
          obtain ⟨name, hname'⟩ := h
          exact nomatch hname'
      | some name =>
          exact Walks.iff (reads_walks (readModeRecord_reads M ssmod hc hd hname))
            (iff_true_intro ⟨name, rfl⟩) fun _ => Iff.rfl
    · simp only [if_neg hdata, if_neg hmode]
      exact Walks.pure fun _ hs => hs

end Records

/-! ### Tables -/

lemma word16At_lt (c : ℕ) (nv : Bool) (addr : ℕ) : M.word16At c nv addr < 0x10000 :=
  Nat.mod_lt _ (by decide)

lemma modesBefore_succ (c table k : ℕ) : M.modesBefore c table (k + 1) =
    M.modesBefore c table k ++ M.modesAt c (M.entry c table k) := by
  simp only [SserialContents.modesBefore, List.range_succ, List.flatMap_append,
    List.flatMap_singleton]

section Tables

variable (hc : c < hm2SserialMaxChannels) {table : ℕ}

include hc

/-- A round for a record of the first table. -/
lemma recordRound_walks (verbose : Bool) {k : ℕ} (hk : M.entry c table k ≠ 0) :
    Enumerates (Modes i (M.modesBefore c table k))
      (fun y s => y = .inl (u32 (table + 2 * (k + 1))) ∧ Modes i (M.modesBefore c table (k + 1)) s)
      (fun f => recordRound (M.bus ssmod.baseAddress) ssmod verbose f 0 c i (u32 (table + 2 * k)))
      (M.RecordFits verbose c (M.entry c table k) (M.modesBefore c table k).length) True := by
  have hnext : u32 (u32 (table + 2 * k) + 2) = u32 (table + 2 * (k + 1)) := u32_add_left _ _
  have hd : M.entry c table k < 0x10000 := word16At_lt M c false _
  refine (readRemote16_reads M ssmod hc _).walks ?_
  change Enumerates _ _ (fun f => if M.entry c table k = 0 then _ else _) _ _
  simp only [if_neg hk]
  refine (readRemote8_reads M ssmod hc _).walks ?_
  refine Walks.iff (Walks.bind (record_walks M ssmod hc hd verbose) fun _ => ?_)
    (and_iff_left fun _ => trivial).symm fun _ => (and_iff_left trivial).symm
  refine Walks.pure fun s hs => ⟨by rw [hnext], ?_⟩
  rw [modesBefore_succ]
  exact hs

/-- The first table of a channel. -/
lemma recordTable_walks (verbose : Bool) (htable : table < 0x10000) :
    Enumerates (Modes i []) (fun _ s => ∃ l, M.TableModes c table l ∧ Modes i l s)
      (fun f => loopM .hang
        (fun f addr => recordRound (M.bus ssmod.baseAddress) ssmod verbose f 0 c i addr) f table)
      (M.TableFits verbose c table) (M.TableEnds c table) := by
  have hstart : u32 (table + 2 * 0) = table := u32_of_lt (by omega)
  have hwalk : Enumerates (Modes i (M.modesBefore c table 0))
      (fun _ s => ∃ l, M.TableModes c table l ∧ Modes i l s)
      (fun f => loopM .hang
        (fun f addr => recordRound (M.bus ssmod.baseAddress) ssmod verbose f 0 c i addr) f
        (u32 (table + 2 * 0)))
      (M.TableFits verbose c table) (M.TableEnds c table) := by
    refine Walks.loopM (x := fun k => u32 (table + 2 * k))
      (I := fun k => Modes i (M.modesBefore c table k)) (fun k hk hbefore s hs => ?_)
      fun k hk => recordRound_walks M ssmod hc verbose hk
    obtain ⟨t, ht, hview, hread⟩ := readRemote16_reads M ssmod hc (u32 (table + 2 * k)) s hs.1
    refine ⟨(), t, ⟨_, ⟨k, hk, hbefore, rfl⟩, ht, hview ▸ hs.2⟩, hread.bind ?_⟩
    change EndsIn _ (fun f => if M.entry c table k = 0 then _ else _) _ _
    simp only [if_pos hk]
    exact endsIn_const _ t
  rwa [hstart] at hwalk

/-- A round for a record of the table of a software mode. -/
lemma modeRound_walks (verbose : Bool) {k : ℕ} (hk : M.entry c table k ≠ 0) :
    Enumerates (Modes i l)
      (fun y s => y = .inl (u32 (table + 2 * (k + 1))) ∧ Modes i l s)
      (fun f => modeRound (M.bus ssmod.baseAddress) ssmod verbose f 0 c (u32 (table + 2 * k)))
      (M.ModeRecordFits verbose c (M.entry c table k)) True := by
  have hnext : u32 (u32 (table + 2 * k) + 2) = u32 (table + 2 * (k + 1)) := u32_add_left _ _
  have hd : M.entry c table k < 0x10000 := word16At_lt M c false _
  refine (readRemote16_reads M ssmod hc _).walks ?_
  change Enumerates _ _ (fun f => if M.entry c table k = 0 then _ else _) _ _
  simp only [if_neg hk]
  refine (readRemote8_reads M ssmod hc _).walks ?_
  refine Walks.iff (Walks.bind (modeTableRecord_walks M ssmod hc hd verbose) fun _ => ?_)
    (and_iff_left fun _ => trivial).symm fun _ => (and_iff_left trivial).symm
  exact Walks.pure fun s hs => ⟨by rw [hnext], hs⟩

/-- The table of a software mode. -/
lemma modeTable_walks (verbose : Bool) (htable : table < 0x10000) :
    Enumerates (Modes i l) (fun _ => Modes i l)
      (fun f => loopM .hang
        (fun f addr => modeRound (M.bus ssmod.baseAddress) ssmod verbose f 0 c addr) f table)
      (M.ModeTableFits verbose c table) (M.TableEnds c table) := by
  have hstart : u32 (table + 2 * 0) = table := u32_of_lt (by omega)
  have hwalk : Enumerates (Modes i l) (fun _ => Modes i l)
      (fun f => loopM .hang
        (fun f addr => modeRound (M.bus ssmod.baseAddress) ssmod verbose f 0 c addr) f
        (u32 (table + 2 * 0)))
      (M.ModeTableFits verbose c table) (M.TableEnds c table) := by
    refine Walks.loopM (x := fun k => u32 (table + 2 * k)) (I := fun _ => Modes i l)
      (fun k hk hbefore s hs => ?_) fun k hk => modeRound_walks M ssmod hc verbose hk
    obtain ⟨t, ht, hview, hread⟩ := readRemote16_reads M ssmod hc (u32 (table + 2 * k)) s hs.1
    refine ⟨(), t, ⟨ht, hview ▸ hs.2⟩, hread.bind ?_⟩
    change EndsIn _ (fun f => if M.entry c table k = 0 then _ else _) _ _
    simp only [if_pos hk]
    exact endsIn_const _ t
  rwa [hstart] at hwalk

end Tables

/-! ### Channels -/

lemma and_ffff_lt (n : ℕ) : n &&& 0xFFFF < 0x10000 := by
  have hle : n &&& 0xFFFF ≤ 0xFFFF := Nat.and_le_right
  omega

/-- The setup of a channel keeps what is known. -/
lemma startSetup_ready (hc : c < hm2SserialMaxChannels) (cmd : ℕ) {s : SserialRun}
    (hs : Ready s) :
    ∃ t, Ready t ∧ t.view = s.view ∧ t.regs.interface2 c = M.interface2 c (cmd / 2 ^ 24) ∧
      EndsIn .hang (fun f => startSetup (M.bus ssmod.baseAddress) ssmod f 0 c cmd) s
        (.ok (M.setup c (cmd / 2 ^ 24), t)) := by
  refine ⟨_, ?_, ?_, ?_, startSetup_endsIn M ssmod hc cmd s⟩
  · exact hs
  · exact SserialState.view_withRegs s _
  · simp only [SserialState.withRegs_regs, SserialContents.start, Function.update_self]

/-- The register that is read for the table of a software mode. -/
lemma llioRead_modeTable (hbase : hm2ModOffsSserialInterface2 + c * 4 < ssmod.baseAddress)
    (s : SserialRun) :
    llioRead (M.bus ssmod.baseAddress) (hm2ModOffsSserialInterface2 + 0 * 0x40 + c * 4) s =
      .ok (M.otherReg (hm2ModOffsSserialInterface2 + c * 4), s) := by
  have haddr : hm2ModOffsSserialInterface2 + 0 * 0x40 + c * 4 =
      hm2ModOffsSserialInterface2 + c * 4 := by omega
  have hout : ¬ (ssmod.baseAddress ≤ hm2ModOffsSserialInterface2 + c * 4 ∧
      hm2ModOffsSserialInterface2 + c * 4 < ssmod.baseAddress + 0x600) :=
    fun h => absurd h.1 (Nat.not_le.mpr hbase)
  simp only [llioRead, SserialContents.bus, haddr, if_neg hout]

/-- The start of a software mode. -/
lemma modeStart_reads (hc : c < hm2SserialMaxChannels) {mode : SwMode} (hmode : mode.index < 256) :
    Reads .hang Ready SserialState.view
      (fun f => modeStart (M.bus ssmod.baseAddress) ssmod f 0 c mode)
      (decide (M.setup c mode.index = 0)) := by
  have hindex : u32 (mode.index <<< 24) / 2 ^ 24 = mode.index := by
    rw [u32, Nat.shiftLeft_eq]
    omega
  have hstop : ∀ s : SserialRun, sslbpSendLocalCmd (M.bus ssmod.baseAddress) ssmod 0
      (sslbpCmdStop c) s = .ok ((), s) := by
    intro s
    rw [sendLocalCmd_eq, exec_stop]
    rfl
  have hsend : Reads .hang Ready SserialState.view
      (fun _ => sslbpSendLocalCmd (M.bus ssmod.baseAddress) ssmod 0 (sslbpCmdStop c)) () :=
    fun s hs => ⟨s, hs, rfl, hstop s ▸ endsIn_const _ s⟩
  have hwait : Reads .hang Ready SserialState.view
      (fun f => sslbpWaitComplete (M.bus ssmod.baseAddress) ssmod f 0) () :=
    fun s hs => ⟨s, hs, rfl, waitComplete_endsIn M ssmod s⟩
  have hsetup : Reads .hang Ready SserialState.view
      (fun f => startSetup (M.bus ssmod.baseAddress) ssmod f 0 c (u32 (mode.index <<< 24)))
      (M.setup c mode.index) := by
    intro s hs
    obtain ⟨t, ht, hview, -, hend⟩ := startSetup_ready M ssmod hc (u32 (mode.index <<< 24)) hs
    rw [hindex] at hend
    exact ⟨t, ht, hview, hend⟩
  exact hsend.bind (hwait.bind (hsetup.bind (.pure _)))

/-- The table that is taken for that of a software mode. -/
lemma modeRecords_walks (hbase : hm2ModOffsSserialInterface2 + c * 4 < ssmod.baseAddress)
    (hc : c < hm2SserialMaxChannels) (verbose : Bool) :
    Enumerates (Modes i l) (fun _ => Modes i l)
      (fun f => modeRecords (M.bus ssmod.baseAddress) ssmod verbose f 0 c)
      (M.ModeTableFits verbose c (M.modeTable c)) (M.TableEnds c (M.modeTable c)) := by
  have hread : Reads .hang Ready SserialState.view
      (fun _ => llioRead (M.bus ssmod.baseAddress)
        (hm2ModOffsSserialInterface2 + 0 * 0x40 + c * 4))
      (M.otherReg (hm2ModOffsSserialInterface2 + c * 4)) :=
    fun s hs => ⟨s, hs, rfl, llioRead_modeTable M ssmod hbase s ▸ endsIn_const _ s⟩
  exact hread.walks (modeTable_walks M ssmod hc verbose (and_ffff_lt _))

/-- A software mode. -/
lemma softwareMode_walks (hbase : hm2ModOffsSserialInterface2 + c * 4 < ssmod.baseAddress)
    (hc : c < hm2SserialMaxChannels) (verbose : Bool) {mode : SwMode} (hmode : mode.index < 256) :
    Enumerates (Modes i l) (fun _ => Modes i l)
      (fun f => softwareMode (M.bus ssmod.baseAddress) ssmod verbose f 0 c mode)
      (M.setup c mode.index = 0 → M.ModeTableFits verbose c (M.modeTable c))
      (M.setup c mode.index = 0 → M.TableEnds c (M.modeTable c)) := by
  simp only [softwareMode]
  refine (modeStart_reads M ssmod hc hmode).walks ?_
  by_cases hstarts : M.setup c mode.index = 0
  · simp only [hstarts, decide_true, if_true, true_imp_iff]
    exact modeRecords_walks M ssmod hbase hc verbose
  · simp only [hstarts, decide_false, Bool.false_eq_true, if_false, false_imp_iff]
    exact Walks.pure fun _ hs => hs

lemma TableModes.index_lt {table : ℕ} (h : M.TableModes c table l) {mode : SwMode}
    (hmode : mode ∈ l) : mode.index < 256 := by
  obtain ⟨k, -, -, rfl⟩ := h
  obtain ⟨j, -, hmode⟩ := List.mem_flatMap.mp hmode
  rw [SserialContents.modesAt] at hmode
  split_ifs at hmode
  · obtain ⟨name, -, rfl⟩ := List.mem_map.mp hmode
    exact UInt8.toNat_lt _
  · exact absurd hmode List.not_mem_nil

lemma TableModes.unique {table : ℕ} {l' : List SwMode} (h : M.TableModes c table l)
    (h' : M.TableModes c table l') : l = l' := by
  obtain ⟨k, hk, hbefore, rfl⟩ := h
  obtain ⟨k', hk', hbefore', rfl⟩ := h'
  rcases lt_trichotomy k k' with hlt | rfl | hgt
  · exact absurd hk (hbefore' k hlt)
  · rfl
  · exact absurd hk' (hbefore k' hgt)

/-- Where a mode of a list starts, there is a first one that does. -/
lemma ModeStarts.exists_first {modes : List SwMode} (h : M.ModeStarts c modes) :
    ∃ n, ∃ hn : n < modes.length, M.setup c modes[n].index = 0 ∧
      ∀ k (hk : k < modes.length), k < n → ¬ M.setup c modes[k].index = 0 := by
  have hfirst : ∃ k, ∃ hk : k < modes.length, M.setup c modes[k].index = 0 := by
    obtain ⟨mode, hmode, hstart⟩ := h
    obtain ⟨k, hk, rfl⟩ := List.getElem_of_mem hmode
    exact ⟨k, hk, hstart⟩
  classical
  obtain ⟨hn, hzero⟩ := Nat.find_spec hfirst
  exact ⟨_, hn, hzero, fun k hk hlt hzero' => Nat.find_min hfirst hlt ⟨hk, hzero'⟩⟩

/-- The software modes of a device.  The first one that starts shows whether the table fits. -/
lemma softwareModes_walks (hbase : hm2ModOffsSserialInterface2 + c * 4 < ssmod.baseAddress)
    (hc : c < hm2SserialMaxChannels) (verbose : Bool) {modes : List SwMode}
    (hindex : ∀ mode ∈ modes, mode.index < 256) :
    Enumerates (Modes i l) (fun _ => Modes i l)
      (fun f => modes.forM (softwareMode (M.bus ssmod.baseAddress) ssmod verbose f 0 c))
      (M.ModeStarts c modes → M.ModeTableFits verbose c (M.modeTable c))
      (M.ModeStarts c modes → M.TableEnds c (M.modeTable c)) := by
  have hwalk : Enumerates (Modes i l) (fun _ => Modes i l)
      (fun f => modes.forM (softwareMode (M.bus ssmod.baseAddress) ssmod verbose f 0 c))
      (∀ k < modes.length,
        (∀ j < k, ∀ hj : j < modes.length, M.setup c modes[j].index = 0 →
          M.TableEnds c (M.modeTable c)) →
        ∀ hk : k < modes.length, M.setup c modes[k].index = 0 →
          M.ModeTableFits verbose c (M.modeTable c))
      (∀ k < modes.length, ∀ hk : k < modes.length, M.setup c modes[k].index = 0 →
        M.TableEnds c (M.modeTable c)) := by
    refine Walks.forM (I := fun _ => Modes i l) fun k hk => ?_
    have hmode : modes[k].index < 256 := hindex _ (List.getElem_mem hk)
    exact (softwareMode_walks M ssmod hbase hc verbose hmode).iff
      ⟨fun h => h hk, fun h _ => h⟩ fun _ => ⟨fun h => h hk, fun h _ => h⟩
  refine hwalk.iff ⟨fun h k hk _ hk' hstart => h ⟨_, List.getElem_mem hk, hstart⟩, ?_⟩ fun _ => ?_
  · -- the round of the first mode that starts is always reached
    intro h hstarts
    obtain ⟨k, hk, hzero, hbefore⟩ := ModeStarts.exists_first M hstarts
    exact h k hk (fun j hj hj' hzero' => absurd hzero' (hbefore j hj' hj)) hk hzero
  · constructor
    · exact fun h k hk _ hstart => h ⟨_, List.getElem_mem hk, hstart⟩
    · rintro h ⟨mode, hmode, hstart⟩
      obtain ⟨k, hk, rfl⟩ := List.getElem_of_mem hmode
      exact h k hk hk hstart

/-- A read of a register changes nothing. -/
lemma llioRead_same (addr : ℕ) (s : SserialRun) :
    ∃ value, llioRead (M.bus ssmod.baseAddress) addr s = .ok (value, s) := by
  simp only [llioRead, SserialContents.bus]
  split_ifs
  · exact ⟨_, rfl⟩
  · exact ⟨_, rfl⟩

/-- The software modes that the table of a device has. -/
lemma deviceModes_walks (hbase : hm2ModOffsSserialInterface2 + c * 4 < ssmod.baseAddress)
    (hc : c < hm2SserialMaxChannels) (verbose : Bool) (table : ℕ) :
    Enumerates (fun s => ∃ l, M.TableModes c table l ∧ Modes i l s)
      (fun _ s => ∃ l, Modes i l s)
      (fun f => deviceModes (M.bus ssmod.baseAddress) ssmod verbose f 0 c i)
      (∀ l, M.TableModes c table l → M.ModeStarts c l →
        M.ModeTableFits verbose c (M.modeTable c))
      (∃ l, M.TableModes c table l ∧ (M.ModeStarts c l → M.TableEnds c (M.modeTable c))) := by
  by_cases htable : ∃ l, M.TableModes c table l
  · -- there is only one list of modes, and the device has it
    obtain ⟨l, hl⟩ := htable
    have hwalk := softwareModes_walks M ssmod (i := i) (l := l) hbase hc verbose
      fun mode => TableModes.index_lt M hl
    refine ((hwalk.congr fun s hs fuel => ?_).mono (fun s hs => ?_) fun _ s hs => ⟨l, hs⟩).iff
      ⟨fun h => h l hl, fun h l' hl' => TableModes.unique M hl hl' ▸ h⟩ fun _ => ?_
    · have hdev : (s.ssDevice i).swModes = l := hs.2.1
      change (s.ssDevice i).swModes.forM
        (softwareMode (M.bus ssmod.baseAddress) ssmod verbose fuel 0 c) s = _
      rw [hdev]
    · obtain ⟨l', hl', hs'⟩ := hs
      exact TableModes.unique M hl hl' ▸ hs'
    · constructor
      · rintro ⟨l', hl', h⟩
        exact TableModes.unique M hl hl' ▸ h
      · exact fun h => ⟨l, hl, h⟩
  · -- a table that never ends leaves no device behind
    exact .of_false fun s hs => htable ⟨hs.choose, hs.choose_spec.1⟩

/-- The devices from a channel on have no software modes yet. -/
def Fresh (c : ℕ) (s : SserialRun) : Prop :=
  c < hm2SserialMaxChannels →
    Ready s ∧ ∀ j : Fin hm2SserialMaxChannels, c ≤ j → (s.ssDevice j).swModes = []

lemma Fresh.modes (hi : c = (i : ℕ)) {s : SserialRun} (h : Fresh c s) : Modes i [] s := by
  obtain ⟨hready, hnone⟩ := h (hi ▸ i.isLt)
  exact ⟨hready, hnone i hi.le, fun j hj => hnone j (hi.trans_le (le_of_lt hj))⟩

lemma Modes.fresh (hi : c = (i : ℕ)) {s : SserialRun} (h : Modes i l s) : Fresh (c + 1) s :=
  fun _ => ⟨h.1, fun j hj => h.2.2 j (Fin.lt_def.mpr (hi ▸ hj))⟩

/-- While the registers of the channel of device `i` are read. -/
def Started (i : Fin hm2SserialMaxChannels) (s : SserialRun) : Prop :=
  Modes i [] s ∧ s.regs.interface2 i = M.interface2 i 0

/-- The channel is started. -/
lemma startSetup_started {s : SserialRun} (hs : Fresh i s) :
    ∃ t, Started M i t ∧
      EndsIn .hang (fun f => startSetup (M.bus ssmod.baseAddress) ssmod f 0 i 0) s
        (.ok (M.setup i 0, t)) := by
  have hmodes := Fresh.modes rfl hs
  obtain ⟨t, ht, hview, hregs, hend⟩ := startSetup_ready M ssmod i.isLt 0 hmodes.1
  rw [Nat.zero_div] at hregs hend
  exact ⟨t, ⟨⟨ht, hview ▸ hmodes.2⟩, hregs⟩, hend⟩

/-- A register of the channel is read. -/
lemma llioRead_started (addr : ℕ) {s : SserialRun} (hs : Started M i s) :
    ∃ value t, Started M i t ∧
      EndsIn .hang (fun _ => llioRead (M.bus ssmod.baseAddress) addr) s (.ok (value, t)) := by
  obtain ⟨value, hvalue⟩ := llioRead_same M ssmod addr s
  exact ⟨value, s, hs, hvalue ▸ endsIn_const _ s⟩

/-- The register with the table of the channel is read. -/
lemma llioRead_interface2 {s : SserialRun} (hs : Started M i s) :
    ∃ t, Modes i [] t ∧
      EndsIn .hang (fun _ => llioRead (M.bus ssmod.baseAddress) (ssmod.baseAddress +
        hm2ModOffsSserialInterface2 + 0 * 0x40 + i * 4)) s (.ok (M.interface2 i 0, t)) := by
  have hvalue := llioRead_channel M ssmod (s := s) (k := 5)
    (show hm2ModOffsSserialInterface2 = 5 * 0x100 from rfl) (by decide)
    (i.isLt.trans (by decide))
  rw [show hm2ModOffsSserialInterface2 = 5 * 0x100 from rfl, ← hs.2]
  exact ⟨s, hs.1, hvalue ▸ endsIn_const _ s⟩

/-- What was read is stored in the device. -/
lemma setDevice_started (f : SserialDevice → SserialDevice)
    (hf : ∀ dev, (f dev).swModes = dev.swModes) (s : SserialRun) (hs : Started M i s) :
    ∃ t, Started M i t ∧ EndsIn .hang (fun _ => setDevice i f) s (.ok ((), t)) := by
  obtain ⟨t, ht, hregs, heq⟩ := hs.1.setDevice hf
  exact ⟨t, ⟨ht, hregs ▸ hs.2⟩, heq ▸ endsIn_const _ s⟩

/-- The device of a channel was found, with the software modes of its table, or there is none. -/
def ChannelStarted (i : Fin hm2SserialMaxChannels) (found : Option (Fin hm2SserialMaxChannels))
    (s : SserialRun) : Prop :=
  (M.Present i → found = some i ∧ ∃ l, M.TableModes i (M.table i) l ∧ Modes i l s) ∧
    (¬ M.Present i → found = none ∧ Modes i [] s)

/-- A channel up to the end of its first table. -/
lemma channelStart_walks (verbose : Bool) :
    Enumerates (Fresh i) (ChannelStarted M i)
      (fun f => channelStart (M.bus ssmod.baseAddress) ssmod verbose f 0 i)
      (M.Present i → M.TableFits verbose i (M.table i))
      (M.Present i → M.TableEnds i (M.table i)) := by
  have hpresent : M.Present i ↔ M.setup i 0 = 0 := by
    rw [SserialContents.Present, if_pos i.isLt]
  have hindex : ∀ s, Started M i s → ∃ t, Started M i t ∧
      EndsIn .hang (fun _ => elementOf hm2SserialMaxChannels (i : ℕ)) s (.ok (i, t)) :=
    fun s hs => ⟨s, hs, elementOf_eq i.isLt s ▸ endsIn_const _ s⟩
  refine Walks.afterValue (fun s => startSetup_started M ssmod) ?_
  by_cases hzero : M.setup i 0 = 0
  · -- the registers of the channel are read into its device, then its table is walked
    have hp : M.Present i := hpresent.mpr hzero
    simp only [hzero, ne_eq, not_true_eq_false, if_false, hp, true_imp_iff]
    refine Walks.after (J := fun _ => Started M i) (fun s => llioRead_started M ssmod _)
      fun _ => ?_
    refine Walks.after (J := fun _ => Started M i) (fun s => llioRead_started M ssmod _)
      fun unit => ?_
    refine Walks.afterValue hindex ?_
    refine Walks.afterValue (setDevice_started M _ fun _ => rfl) ?_
    refine Walks.after (J := fun _ => Started M i) (fun s => llioRead_started M ssmod _)
      fun name => ?_
    refine Walks.afterValue (setDevice_started M _ fun _ => rfl) ?_
    refine Walks.afterValue (fun s => llioRead_interface2 M ssmod) ?_
    have hdone : ∀ _ : Unit, Enumerates (fun s => ∃ l, M.TableModes i (M.table i) l ∧ Modes i l s)
        (ChannelStarted M i) (fun _ => pure (some i)) True True :=
      fun _ => .pure fun s hs => ⟨fun _ => ⟨rfl, hs⟩, fun h => absurd hp h⟩
    exact ((recordTable_walks M ssmod i.isLt verbose (and_ffff_lt _)).bind hdone).iff
      (by tauto) (by tauto)
  · -- no device: the channel is left as it is
    have hp : ¬ M.Present i := fun hp => hzero (hpresent.mp hp)
    simp only [hzero, ne_eq, not_false_eq_true, if_true, hp, false_imp_iff]
    exact Walks.pure fun s hs => ⟨fun h => absurd h hp, fun _ => ⟨rfl, hs.1⟩⟩

/-- What is done on a channel when it has been started. -/
lemma channelModes_walks (hbase : hm2ModOffsSserialInterface2 + i * 4 < ssmod.baseAddress)
    (verbose : Bool) (found : Option (Fin hm2SserialMaxChannels)) :
    Enumerates (ChannelStarted M i found) (fun _ => Fresh (i + 1))
      (fun f => match found with
        | some i' => deviceModes (M.bus ssmod.baseAddress) ssmod verbose f 0 i i'
        | none => pure ())
      (M.Present i → ∀ l, M.TableModes i (M.table i) l → M.ModeStarts i l →
        M.ModeTableFits verbose i (M.modeTable i))
      (M.Present i → M.ChannelEnds i) := by
  by_cases hpresent : M.Present i
  · simp only [hpresent, true_imp_iff]
    by_cases hfound : found = some i
    · subst hfound
      refine (deviceModes_walks M ssmod hbase i.isLt verbose _).mono
        (fun s hs => (hs.1 hpresent).2) ?_
      rintro _ s ⟨l, hl⟩
      exact Modes.fresh rfl hl
    · exact .of_false fun s hs => hfound (hs.1 hpresent).1
  · simp only [hpresent, false_imp_iff]
    cases found with
    | some _ => exact .of_false fun s hs => absurd (hs.2 hpresent).1 (Option.some_ne_none _)
    | none => exact Walks.pure fun s hs => Modes.fresh rfl (hs.2 hpresent).2

/-- A channel with a device. -/
lemma channelRound_walks (hbase : hm2ModOffsSserialInterface2 + c * 4 < ssmod.baseAddress)
    (hi : c = (i : ℕ)) (verbose : Bool) :
    Enumerates (Fresh c) (fun _ => Fresh (c + 1))
      (fun f => channelRound (M.bus ssmod.baseAddress) ssmod verbose f 0 c)
      (M.Present c → M.ChannelFits verbose c) (M.Present c → M.ChannelEnds c) := by
  subst hi
  have hfits : M.ChannelFits verbose i ↔ M.TableFits verbose i (M.table i) ∧
      ∀ l, M.TableModes i (M.table i) l → M.ModeStarts i l →
        M.ModeTableFits verbose i (M.modeTable i) := and_iff_right i.isLt
  simp only [channelRound]
  refine ((channelStart_walks M ssmod verbose).bind
    (channelModes_walks M ssmod hbase verbose)).iff ?_ fun _ => ?_
  · rw [hfits]
    constructor
    · exact fun h => ⟨fun hp => (h hp).1, fun _ hp => (h hp).2⟩
    · rintro ⟨htable, h⟩ hp
      refine ⟨htable hp, fun l hl => h (fun _ => ?_) hp l hl⟩
      obtain ⟨k, hk, -⟩ := hl
      exact ⟨k, hk⟩
  · constructor
    · refine fun h => ⟨fun hp => ?_, h⟩
      obtain ⟨l, ⟨k, hk, -⟩, -⟩ := h hp
      exact ⟨k, hk⟩
    · exact fun h => h.2

/-- A channel behind the last device. -/
lemma channelRound_none (hc : ¬ c < hm2SserialMaxChannels) (verbose : Bool) :
    Enumerates (Fresh c) (fun _ => Fresh (c + 1))
      (fun f => channelRound (M.bus ssmod.baseAddress) ssmod verbose f 0 c)
      (M.Present c → M.ChannelFits verbose c) (M.Present c → M.ChannelEnds c) := by
  have hpresent : M.Present c ↔ M.setupNone = 0 := by
    rw [SserialContents.Present, if_neg hc]
  have hfits : M.ChannelFits verbose c ↔ False := iff_false_intro fun h => hc h.1
  have hfresh : ∀ s, Fresh (c + 1) s := fun s h => absurd (Nat.lt_of_succ_lt h) hc
  rw [hpresent, hfits]
  by_cases hzero : M.setupNone = 0
  · -- there are no elements for this channel in the arrays
    refine .of_bad (fun h => h hzero) fun s _ => ?_
    obtain ⟨t, hend⟩ := startSetup_none M ssmod hc 0 s
    have hstart : EndsIn .hang (fun f => channelStart (M.bus ssmod.baseAddress) ssmod verbose f 0 c)
        s (.error (.undefined .outOfBounds)) := by
      refine hend.bind ?_
      simp only [hzero, ne_eq, not_true_eq_false, if_false]
      obtain ⟨value, hread⟩ := llioRead_same M ssmod
        (ssmod.baseAddress + hm2ModOffsSserialCs + 0 * 0x40 + c * 4) t
      obtain ⟨value', hread'⟩ := llioRead_same M ssmod
        (ssmod.baseAddress + hm2ModOffsSserialInterface0 + 0 * 0x40 + c * 4) t
      exact EndsIn.step hread (EndsIn.step hread' (EndsIn.bind_error (elementOf_error hc t)))
    exact hstart.bind_error
  · refine Walks.iff (.of_endsIn fun s _ => ?_) (iff_true_intro fun h => absurd h hzero)
      fun _ => iff_true_intro fun h => absurd h hzero
    obtain ⟨t, hend⟩ := startSetup_none M ssmod hc 0 s
    have hstart : EndsIn .hang (fun f => channelStart (M.bus ssmod.baseAddress) ssmod verbose f 0 c)
        s (.ok (none, t)) := by
      refine hend.bind ?_
      simp only [hzero, ne_eq, not_false_eq_true, if_true]
      exact endsIn_const _ t
    exact ⟨(), t, hfresh t, hstart.bind (endsIn_const _ t)⟩

/-! ### The interface -/

/-- No device has software modes. -/
def NoModes (s : SserialRun) : Prop := ∀ j, (s.ssDevice j).swModes = []

/-- What is read of the interface. -/
def SserialContents.interface : SserialInterface where
  type := M.localByte sslbpTypeLoc
  width := M.localByte sslbpWidthLoc
  verMajor := M.localByte sslbpMajorRevLoc
  verMinor := M.localByte sslbpMinorRevLoc
  gpInputs := M.localByte sslbpChannelStartLoc
  gpOutputs := M.localByte sslbpChannelStrideLoc
  processorType := M.localByte sslbpProcessorTypeLoc
  channelsCount := M.localByte sslbpNrChannelsLoc
  baudRate := M.localWord ((M.localByte sslbpChannelStartLoc).toNat + 42)
  clock := M.localWord sslbpClockLoc

lemma readInterface_reads :
    Reads .hang Ready SserialState.view
      (fun f => readInterface (M.bus ssmod.baseAddress) ssmod f 0) M.interface := by
  have hbaud : (M.localByte sslbpChannelStartLoc).toNat + 42 + 3 < 0x400 := by
    have hlt := (M.localByte sslbpChannelStartLoc).toNat_lt
    omega
  refine (readLocal8_reads M ssmod (by decide)).bind ?_
  refine (readLocal8_reads M ssmod (by decide)).bind ?_
  refine (readLocal8_reads M ssmod (by decide)).bind ?_
  refine (readLocal8_reads M ssmod (by decide)).bind ?_
  refine (readLocal8_reads M ssmod (by decide)).bind ?_
  refine (readLocal8_reads M ssmod (by decide)).bind ?_
  refine (readLocal8_reads M ssmod (by decide)).bind ?_
  refine (readLocal8_reads M ssmod (by decide)).bind ?_
  refine (readLocal32_reads M ssmod hbaud).bind ?_
  refine (readLocal32_reads M ssmod (by decide)).bind ?_
  exact Reads.pure _

/-- The tables of all devices end. -/
def SserialContents.InterfaceEnds : Prop :=
  ∀ c < (M.localByte sslbpWidthLoc).toNat, M.Present c → M.ChannelEnds c

/-- The channels of an interface. -/
lemma channels_walks (hbase : 0x520 ≤ ssmod.baseAddress) (verbose : Bool) (width : ℕ) :
    Enumerates (Fresh 0) (fun _ => Fresh width)
      (fun f => (List.range width).forM
        (channelRound (M.bus ssmod.baseAddress) ssmod verbose f 0))
      (∀ c < width, (∀ c' < c, M.Present c' → M.ChannelEnds c') → M.Present c →
        M.ChannelFits verbose c)
      (∀ c < width, M.Present c → M.ChannelEnds c) := by
  have hwalk := Walks.forM (l := List.range width)
    (f := fun f => channelRound (M.bus ssmod.baseAddress) ssmod verbose f 0) (I := Fresh)
    fun c hc => show Enumerates (Fresh c) (fun _ => Fresh (c + 1)) _
      (M.Present c → M.ChannelFits verbose c) (M.Present c → M.ChannelEnds c) by
        rw [List.getElem_range]
        by_cases hmax : c < hm2SserialMaxChannels
        · have hlt : c < 8 := hmax
          have hout : hm2ModOffsSserialInterface2 + c * 4 < ssmod.baseAddress := by
            simp only [hm2ModOffsSserialInterface2]
            omega
          exact channelRound_walks M ssmod (i := ⟨c, hmax⟩) hout rfl verbose
        · exact channelRound_none M ssmod hmax verbose
  rwa [List.length_range] at hwalk

/-- The port up to its channels. -/
lemma portStart_walks :
    Enumerates NoModes (fun width s => width = (M.localByte sslbpWidthLoc).toNat ∧ Fresh 0 s)
      (fun f => portStart (M.bus ssmod.baseAddress) ssmod f 0) True True := by
  refine Walks.after (J := fun _ s => Ready s ∧ NoModes s) (fun s hs => ?_) fun _ => ?_
  · have hsend := sendLocalCmd_eq M ssmod (s := s) (sslbpCmdStopall ||| sslbpCmdReset)
    refine ⟨(), s.withRegs (M.exec (sslbpCmdStopall ||| sslbpCmdReset) s.regs),
      ⟨⟨rfl, rfl⟩, hs⟩, ?_⟩
    rw [← hsend]
    exact endsIn_const _ s
  refine Walks.after (J := fun _ s => Ready s ∧ NoModes s) (fun s hs => ?_) fun _ => ?_
  · have hsend := sendLocalCmd_eq M ssmod (s := s) sslbpCmdStopall
    refine ⟨(), s.withRegs (M.exec sslbpCmdStopall s.regs), hs, ?_⟩
    rw [← hsend]
    exact endsIn_const _ s
  refine Walks.after (J := fun _ s => Ready s ∧ NoModes s)
    (fun s hs => ⟨(), s, hs, waitComplete_endsIn M ssmod s⟩) fun _ => ?_
  refine (readInterface_reads M ssmod).walks (P := fun v => ∀ j, (v.2 j).swModes = []) ?_
  refine Walks.after (J := fun _ => Fresh 0) (fun s hs => ?_) fun _ => ?_
  · exact ⟨(), { s with ssInterface := M.interface }, fun _ => ⟨hs.1, fun j _ => hs.2 j⟩,
      endsIn_const _ s⟩
  · exact Walks.pure fun s hs => ⟨rfl, hs⟩

/-- The run over the port. -/
lemma portRound_walks (hbase : 0x520 ≤ ssmod.baseAddress) (verbose : Bool) :
    Enumerates NoModes (fun _ _ => True)
      (fun f => portRound (M.bus ssmod.baseAddress) ssmod verbose f 0)
      (M.InterfaceFits verbose) M.InterfaceEnds := by
  have hchannels : ∀ width, Enumerates
      (fun s => width = (M.localByte sslbpWidthLoc).toNat ∧ Fresh 0 s) (fun _ _ => True)
      (fun f => (List.range width).forM (channelRound (M.bus ssmod.baseAddress) ssmod verbose f 0))
      (M.InterfaceFits verbose) M.InterfaceEnds := by
    intro width
    by_cases hwidth : width = (M.localByte sslbpWidthLoc).toNat
    · subst hwidth
      exact (channels_walks M ssmod hbase verbose _).mono (fun s hs => hs.2) fun _ _ _ => trivial
    · exact .of_false fun s hs => hwidth hs.1
  simp only [portRound]
  exact ((portStart_walks M ssmod).bind hchannels).iff (by tauto) (by tauto)

end Walks

end Mesaflash
