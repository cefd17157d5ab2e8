import Mesaflash.Bitfile

/-!
When the header parser stays in bounds.

The parser takes the length of a field from the file and asks `fread` for that
many bytes, into an array of 256.  It copies the part name with `strcpy`, and in
the Efinix branch it uses the second word of a line without asking whether there
is one.  `HeaderInBounds` collects what a file must satisfy for all of this to be
harmless, in terms of the bytes of the file alone, and
`printBitfileHeader_in_bounds_iff` says that nothing less will do.

A field may be cut off by the end of the file.  The bytes that the parser then
takes for a length or a name are left over from an earlier field, so a `View`
carries the contents of the array along with the rest of the file.
-/

namespace Mesaflash

open Lib

/-! ### The reads of the Xilinx branch -/

/-- What is left of the file, and the bytes in `buff`. -/
structure View where
  rest : List UInt8
  buff : List UInt8

namespace View

/-- The view after up to `n` bytes were read. -/
def read (n : ℕ) (v : View) : View := ⟨v.rest.drop n, overlay (v.rest.take n) v.buff⟩

/-- The length of the next field, as the parser takes it from `buff`. -/
def fieldLen (hdr : ℕ) (v : View) : ℕ := be16 (v.read hdr).buff (hdr - 2)

/-- The view behind the next field. -/
def field (hdr : ℕ) (v : View) : View := (v.read hdr).read (v.fieldLen hdr)

end View

namespace HeaderState

def view (s : HeaderState) : View := ⟨s.fp.rest, s.buff⟩

/-- The state after a read that fits the array. -/
def stored (n : ℕ) (s : HeaderState) : HeaderState :=
  ⟨(fread n s.fp).2, overlay (fread n s.fp).1 s.buff, s.ret + (fread n s.fp).1.length⟩

@[simp] lemma view_stored (n : ℕ) (s : HeaderState) : (s.stored n).view = s.view.read n := by
  simp [view, stored, View.read]

/-- The state behind a field that fits the array. -/
def field (hdr : ℕ) (s : HeaderState) : HeaderState :=
  (s.stored hdr).stored (s.view.fieldLen hdr)

@[simp] lemma view_field (hdr : ℕ) (s : HeaderState) : (s.field hdr).view = s.view.field hdr := by
  rw [field, view_stored, view_stored, View.field]

end HeaderState

section

variable {α : Type} {k : HeaderState → Except Fault α} {r : α}

/-- A read goes on when it fits the array. -/
lemma readBuff_bind_eq_ok {n : ℕ} {s : HeaderState} :
    (readBuff n s >>= k) = .ok r ↔ n ≤ buffSize ∧ k (s.stored n) = .ok r := by
  unfold readBuff
  by_cases h : buffSize < n
  · simp [h, Nat.not_le.2 h]
  · simp [h, HeaderState.stored, Nat.not_lt.1 h]

/-- A field is passed when its length fits the array. -/
lemma readField_bind_eq_ok {hdr : ℕ} (hhdr : hdr ≤ buffSize) {s : HeaderState} :
    (readField hdr s >>= k) = .ok r ↔
      s.view.fieldLen hdr ≤ buffSize ∧ k (s.field hdr) = .ok r := by
  have hlen : be16 (s.stored hdr).buff (hdr - 2) = s.view.fieldLen hdr := by
    rw [View.fieldLen, ← HeaderState.view_stored]
    rfl
  rw [readField, bind_assoc, readBuff_bind_eq_ok, readBuff_bind_eq_ok, hlen,
    and_iff_right hhdr]
  rfl

end

/-! ### The copy of the part name -/

lemma zero_mem_take_iff (n : ℕ) (l : List UInt8) :
    0 ∈ l.take n ↔ 0 ∈ l ∧ (cstr l).length < n := by
  induction l generalizing n with
  | nil => simp
  | cons b l ih =>
      cases n with
      | zero => simp
      | succ n =>
          by_cases hb : b = 0
          · simp [hb, cstr]
          · have hcstr : (cstr (b :: l)).length = (cstr l).length + 1 := by simp [cstr, hb]
            rw [List.take_succ_cons, List.mem_cons, List.mem_cons, ih, hcstr]
            simp only [Ne.symm hb, false_or, Nat.succ_lt_succ_iff]

lemma copyPart_bind_eq_ok {α : Type} {k : CStr → Except Fault α} {r : α} {buff : List UInt8} :
    (copyPart buff >>= k) = .ok r ↔ 0 ∈ buff.take partNameSize ∧ k (cstr buff) = .ok r := by
  rw [zero_mem_take_iff]
  unfold copyPart
  by_cases h0 : 0 ∈ buff
  · by_cases hlen : partNameSize < (cstr buff).length + 1
    · simp [h0, hlen, Nat.not_lt.2 (Nat.le_of_lt_succ hlen)]
    · simp [h0, hlen, Nat.lt_of_succ_le (Nat.not_lt.1 hlen)]
  · simp [h0]

/-! ### The Xilinx branch -/

/-- The preamble of a `.bit` file ends in `00 01 61`. -/
def Magic (buff : List UInt8) : Prop :=
  buff.getD 11 0 = 0 ∧ buff.getD 12 0 = 1 ∧ buff.getD 13 0 = 0x61

/-- The four lengths that the parser meets fit the array, and a NUL ends the part
name within the caller's array. -/
def XilinxInBounds (v : View) : Prop :=
  v.fieldLen 2 ≤ buffSize ∧
  (v.field 2).fieldLen 3 ≤ buffSize ∧
  0 ∈ ((v.field 2).field 3).buff.take partNameSize ∧
  ((v.field 2).field 3).fieldLen 3 ≤ buffSize ∧
  (((v.field 2).field 3).field 3).fieldLen 3 ≤ buffSize

/-- The state at the end of a Xilinx header. -/
def HeaderState.xilinxEnd (s : HeaderState) : HeaderState :=
  ((((s.field 2).field 3).field 3).field 3).stored 5

/-- The Xilinx branch returns exactly on the headers that are in bounds. -/
lemma xilinxHeader_eq_ok {s : HeaderState} (hmagic : Magic s.buff) {r : ℤ × Option CStr × File} :
    xilinxHeader s = .ok r ↔ XilinxInBounds s.view ∧
      r = ((s.xilinxEnd.ret : ℤ), some (cstr ((s.field 2).field 3).buff), s.xilinxEnd.fp) := by
  have h2 : (2 : ℕ) ≤ buffSize := by decide
  have h3 : (3 : ℕ) ≤ buffSize := by decide
  have h5 : (5 : ℕ) ≤ buffSize := by decide
  have hbuff : ((s.field 2).field 3).buff = ((s.view.field 2).field 3).buff := by
    rw [← HeaderState.view_field, ← HeaderState.view_field]
    rfl
  unfold Magic at hmagic
  rw [xilinxHeader, if_pos hmagic, readField_bind_eq_ok h2, readField_bind_eq_ok h3,
    copyPart_bind_eq_ok, readField_bind_eq_ok h3, readField_bind_eq_ok h3, readBuff_bind_eq_ok,
    hbuff, and_iff_right h5]
  simp only [HeaderState.view_field, XilinxInBounds, and_assoc, pure_eq_ok, Except.ok.injEq,
    eq_comm, HeaderState.xilinxEnd]

/-! ### The lines of the Efinix branch -/

/-- What is left of the file, and the string in `str`. -/
structure LineView where
  rest : List UInt8
  str : CStr

namespace LineView

/-- The view after a line was read into `size` bytes.  At the end of the file `str`
keeps the line before. -/
def next (v : LineView) (size : ℕ) : LineView :=
  let line := takeLine (size - 1) v.rest
  ⟨v.rest.drop line.length, if line = [] then v.str else cstr line⟩

end LineView

/-- The string in which the parser looks for the part name of an Efinix file. -/
def deviceLine (file : List UInt8) : CStr :=
  ([20, 60, 60, 80, 80, 60, 60].foldl LineView.next ⟨file, []⟩).str

/-- The device line has a second word, and that word fits the caller's array. -/
def EfinixInBounds (file : List UInt8) : Prop :=
  ∃ first more partns after, strtok 32 (deviceLine file) = some (first, more) ∧
    strtok 32 more = some (partns, after) ∧ partns.length ≤ partNameSize

def LineState.view (s : LineState) : LineView := ⟨s.fp.rest, s.str⟩

/-- Without read errors a line is always read. -/
lemma readLine_ok {s : LineState} (hio : s.fp.ioError = false) (size : ℕ) :
    ∃ s', readLine size s = .ok s' ∧ s'.view = s.view.next size ∧ s'.fp.ioError = false := by
  refine ⟨_, if_neg (by simp [hio]), ?_, hio⟩
  simp only [LineState.view, LineView.next, fgets, File.rest, List.drop_drop, LineView.mk.injEq,
    true_and]
  exact if_congr Iff.rfl rfl rfl

lemma devicePart_defined_iff {str : CStr} :
    (∃ r, devicePart str = .ok r) ↔
      ∃ first more partns after, strtok 32 str = some (first, more) ∧
        strtok 32 more = some (partns, after) ∧ partns.length ≤ partNameSize := by
  unfold devicePart
  rcases h₁ : strtok 32 str with _ | ⟨first, more⟩
  · simp
  · rcases h₂ : strtok 32 more with _ | ⟨partns, after⟩
    · simp [h₂]
    · have hne := strtok_ne_nil h₂
      have hlast : partns.dropLast.length + 1 = partns.length := by
        rw [List.length_dropLast]
        exact Nat.sub_add_cancel (List.length_pos_iff.2 hne)
      simp only [h₂, hne, if_false, hlast, Option.some.injEq, Prod.mk.injEq]
      by_cases hlen : partNameSize < partns.length
      · simp [h₂, hlen]
      · simp [h₂, hlen, Nat.not_lt.1 hlen]

/-- The Efinix branch returns when the device line has its second word. -/
lemma efinixHeader_defined_iff {s : LineState} (hio : s.fp.ioError = false) :
    (∃ r, efinixHeader s = .ok r) ↔
      ∃ r, devicePart ([60, 60, 80, 80, 60, 60].foldl LineView.next s.view).str = .ok r := by
  obtain ⟨s₁, h₁, hv₁, hio₁⟩ := readLine_ok hio 60
  obtain ⟨s₂, h₂, hv₂, hio₂⟩ := readLine_ok hio₁ 60
  obtain ⟨s₃, h₃, hv₃, hio₃⟩ := readLine_ok hio₂ 80
  obtain ⟨s₄, h₄, hv₄, hio₄⟩ := readLine_ok hio₃ 80
  obtain ⟨s₅, h₅, hv₅, hio₅⟩ := readLine_ok hio₄ 60
  obtain ⟨s₆, h₆, hv₆, hio₆⟩ := readLine_ok hio₅ 60
  have hstr : s₆.str = ([60, 60, 80, 80, 60, 60].foldl LineView.next s.view).str := by
    simp only [List.foldl_cons, List.foldl_nil, ← hv₁, ← hv₂, ← hv₃, ← hv₄, ← hv₅, ← hv₆]
    rfl
  rw [efinixHeader]
  -- the three lines behind the device line are read, but not looked at
  simp only [h₁, h₂, h₃, h₄, h₅, h₆, ok_bind, hstr]
  cases hpart : devicePart ([60, 60, 80, 80, 60, 60].foldl LineView.next s.view).str with
  | error f => simp
  | ok p =>
      obtain ⟨s₇, h₇, -, hio₇⟩ := readLine_ok (s := { s₆ with str := p.2 }) hio₆ 60
      obtain ⟨s₈, h₈, -, hio₈⟩ := readLine_ok hio₇ 60
      obtain ⟨s₉, h₉, -, -⟩ := readLine_ok hio₈ 60
      simp [h₇, h₈, h₉]

/-! ### The version line -/

lemma takeLine_isInitial (n : ℕ) (l : List UInt8) : takeLine n l <+: l := by
  induction n generalizing l with
  | zero => exact List.nil_prefix
  | succ n ih =>
      cases l with
      | nil => exact List.nil_prefix
      | cons b l =>
          by_cases hb : b = 10
          · simp [takeLine, hb]
          · simpa [takeLine, hb] using ih l

/-- The first line starts with `Version` exactly when the file does. -/
lemma version_iff (file : List UInt8) :
    (cstr (takeLine 19 file)).take 7 = ascii "Version" ↔ ascii "Version" <+: file := by
  constructor
  · intro h
    rw [← h]
    have hcstr : cstr (takeLine 19 file) <+: takeLine 19 file := List.takeWhile_prefix _
    exact (List.take_prefix 7 _).trans (hcstr.trans (takeLine_isInitial 19 file))
  · rintro ⟨tail, rfl⟩
    simp [ascii, cstr, takeLine]

/-! ### The whole parser -/

/-- What a file must satisfy for the parser to stay in bounds. -/
def HeaderInBounds (file : List UInt8) : Prop :=
  14 ≤ file.length →
    if file.getD 0 0 = 0 ∧ file.getD 1 0 = 9 then
      Magic file → XilinxInBounds ⟨file.drop 14, file.take 14⟩
    else ascii "Version" <+: file → EfinixInBounds file

/-- The state after the preamble was read. -/
def preambleState (file : List UInt8) : HeaderState :=
  HeaderState.stored 14 ⟨.start file false, [], 0⟩

lemma view_preambleState (file : List UInt8) :
    (preambleState file).view = ⟨file.drop 14, file.take 14⟩ := by
  rw [preambleState, HeaderState.view_stored]
  simp [View.read, HeaderState.view, overlay]

lemma buff_preambleState (file : List UInt8) : (preambleState file).buff = file.take 14 :=
  congrArg View.buff (view_preambleState file)

lemma ret_preambleState (file : List UInt8) :
    (preambleState file).ret = min 14 file.length := by
  simp [preambleState, HeaderState.stored]

lemma getD_take {n i : ℕ} (h : i < n) (l : List UInt8) : (l.take n).getD i 0 = l.getD i 0 := by
  simp [List.getD_eq_getElem?_getD, h]

lemma magic_take (file : List UInt8) : Magic (file.take 14) ↔ Magic file := by
  simp only [Magic, getD_take (show 11 < 14 by decide), getD_take (show 12 < 14 by decide),
    getD_take (show 13 < 14 by decide)]

/-- A file without a whole preamble is rejected. -/
lemma printBitfileHeader_short {file : List UInt8} (h : file.length < 14) :
    ∃ fp, printBitfileHeader (.start file false) = .ok (-1, none, fp) := by
  have hret : (preambleState file).ret ≠ 14 := by
    rw [ret_preambleState]
    omega
  exact ⟨_, readBuff_bind_eq_ok.2 ⟨by decide, if_pos hret⟩⟩

lemma length_of_header {file : List UInt8} {ret : ℤ} {part : Option CStr} {fp : File}
    (h : printBitfileHeader (.start file false) = .ok (ret, part, fp)) (hret : ret ≠ -1) :
    14 ≤ file.length := by
  by_contra hlt
  obtain ⟨_, hshort⟩ := printBitfileHeader_short (Nat.lt_of_not_le hlt)
  rw [hshort] at h
  exact hret (Prod.mk.inj (Except.ok.inj h)).1.symm

/-- A file that starts with `00 09` is left to the Xilinx branch. -/
lemma printBitfileHeader_xilinx {file : List UInt8} (hlen : 14 ≤ file.length)
    (h : file.getD 0 0 = 0 ∧ file.getD 1 0 = 9) :
    printBitfileHeader (.start file false) = xilinxHeader (preambleState file) := by
  have hret : (preambleState file).ret = 14 := by
    rw [ret_preambleState]
    omega
  have hbuff := buff_preambleState file
  have hstart : readBuff 14 ⟨.start file false, [], 0⟩ = .ok (preambleState file) := rfl
  rw [printBitfileHeader, hstart, ok_bind]
  simp [hret, hbuff, getD_take, -List.getD_eq_getElem?_getD, h]

/-- The state in which the first line is read. -/
def versionState (file : List UInt8) : LineState := ⟨(preambleState file).fp.rewind, [], 14⟩

/-- Any other file is left to the Efinix branch or rejected. -/
lemma printBitfileHeader_other {file : List UInt8} (hlen : 14 ≤ file.length)
    (h : ¬ (file.getD 0 0 = 0 ∧ file.getD 1 0 = 9)) :
    ∃ t : LineState, readLine 20 (versionState file) = .ok t ∧
      t.view = LineView.next ⟨file, []⟩ 20 ∧ t.fp.ioError = false ∧
      printBitfileHeader (.start file false) =
        if ascii "Version" <+: file then efinixHeader t else .ok (-1, none, t.fp) := by
  have hret : (preambleState file).ret = 14 := by
    rw [ret_preambleState]
    omega
  have hstart : readBuff 14 ⟨.start file false, [], 0⟩ = .ok (preambleState file) := rfl
  obtain ⟨t, ht, hv, hio⟩ := readLine_ok (s := versionState file) rfl 20
  have hview : t.view = LineView.next ⟨file, []⟩ 20 := hv
  have hne : takeLine 19 file ≠ [] := by
    obtain ⟨b, l, rfl⟩ := List.exists_cons_of_length_pos (Nat.lt_of_lt_of_le (by decide) hlen)
    by_cases hb : b = 10 <;> simp [takeLine, hb]
  have hstr : t.str = cstr (takeLine 19 file) := by
    have hs : t.str = (LineView.next ⟨file, []⟩ 20).str := congrArg LineView.str hview
    rw [hs, LineView.next]
    exact if_neg hne
  refine ⟨t, ht, hview, hio, ?_⟩
  rw [printBitfileHeader, hstart, ok_bind]
  simp only [hret, ne_eq, not_true_eq_false, if_false, buff_preambleState,
    getD_take (show 0 < 14 by decide), getD_take (show 1 < 14 by decide), if_neg h]
  rw [versionState] at ht
  rw [ht, ok_bind, hstr]
  exact if_congr (version_iff file) rfl rfl

lemma deviceLine_eq (file : List UInt8) :
    deviceLine file =
      ([60, 60, 80, 80, 60, 60].foldl LineView.next (LineView.next ⟨file, []⟩ 20)).str := by
  rw [deviceLine, List.foldl_cons]

/-- **The parser stays in bounds exactly on the files that satisfy
`HeaderInBounds`.** -/
theorem printBitfileHeader_in_bounds_iff (file : List UInt8) :
    (∃ r, printBitfileHeader (.start file false) = .ok r) ↔ HeaderInBounds file := by
  unfold HeaderInBounds
  rcases Nat.lt_or_ge file.length 14 with hlt | hlen
  · obtain ⟨fp, hfp⟩ := printBitfileHeader_short hlt
    exact iff_of_true ⟨_, hfp⟩ fun h => absurd h (Nat.not_le.2 hlt)
  · rw [forall_prop_of_true hlen]
    by_cases hx : file.getD 0 0 = 0 ∧ file.getD 1 0 = 9
    · rw [if_pos hx, printBitfileHeader_xilinx hlen hx]
      have hm : Magic (preambleState file).buff ↔ Magic file := by
        rw [buff_preambleState, magic_take]
      by_cases hmagic : Magic file
      · simp only [xilinxHeader_eq_ok (hm.2 hmagic), view_preambleState]
        rw [forall_prop_of_true hmagic, exists_and_left, and_iff_left ⟨_, rfl⟩]
      · -- the inner branch is skipped: nothing is read any more
        have hskip : ¬ Magic (preambleState file).buff := fun h => hmagic (hm.1 h)
        rw [xilinxHeader, if_neg (by exact hskip)]
        exact iff_of_true ⟨_, rfl⟩ fun h => absurd h hmagic
    · obtain ⟨t, -, hview, hio, hrun⟩ := printBitfileHeader_other hlen hx
      rw [if_neg hx, hrun]
      by_cases hv : ascii "Version" <+: file
      · rw [if_pos hv, efinixHeader_defined_iff hio, hview, forall_prop_of_true hv,
          devicePart_defined_iff, EfinixInBounds, deviceLine_eq]
      · rw [if_neg hv]
        exact iff_of_true ⟨_, rfl⟩ fun h => absurd h hv

/-- A design field of `01 01` bytes is read into an array of 256. -/
theorem printBitfileHeader_overflows :
    printBitfileHeader
        (.start [0, 9, 0, 0, 0, 0, 0, 0, 0, 0, 0, 0, 1, 0x61, 1, 1] false) =
      .error (.undefined .bufferOverflow) := by
  decide

end Mesaflash
