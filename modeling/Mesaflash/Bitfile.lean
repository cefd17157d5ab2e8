import Mesaflash.Platform

/-!
The header parser of `bitfile.c`.

`printBitfileHeader` follows `print_bitfile_header`: it returns the number that
the source returns, the string that it stored through `part_name` (`none` where
it stored nothing), and the stream.

The array `buff` is the list of its bytes that were stored so far: every read
stores at its start, so these are always a prefix of the array.  Asking `fread`
for more bytes than the array holds has no defined behaviour, whatever the file
then delivers.
-/

namespace Mesaflash

open Lib

/-- `sizeof (buff)`. -/
def buffSize : ℕ := 256

/-- The size of the `part_name` arrays of all callers. -/
def partNameSize : ℕ := 32

/-- The variables of the Xilinx branch. -/
structure HeaderState where
  fp : File
  buff : List UInt8
  ret : ℕ

/-- `buff` after bytes were stored at its start. -/
def overlay (bytes buff : List UInt8) : List UInt8 := bytes ++ buff.drop bytes.length

/-- `bytesread = fread (&buff, 1, n, fp); ret += bytesread`. -/
def readBuff (n : ℕ) (s : HeaderState) : Except Fault HeaderState :=
  if buffSize < n then .error (.undefined .bufferOverflow)
  else .ok ⟨(fread n s.fp).2, overlay (fread n s.fp).1 s.buff, s.ret + (fread n s.fp).1.length⟩

/-- The big-endian 16-bit number at position `i` of `buff`. -/
def be16 (buff : List UInt8) (i : ℕ) : ℕ :=
  (buff.getD i 0).toNat * 256 + (buff.getD (i + 1) 0).toNat

/-- Read the key and the length of a field, `hdr` bytes in all, then its bytes. -/
def readField (hdr : ℕ) (s : HeaderState) : Except Fault HeaderState := do
  let s ← readBuff hdr s
  readBuff (be16 s.buff (hdr - 2)) s

/-- `strcpy (part_name, buff)`. -/
def copyPart (buff : List UInt8) : Except Fault CStr :=
  if 0 ∉ buff then .error (.undefined .stringOverread)
  else if partNameSize < (cstr buff).length + 1 then .error (.undefined .partNameOverflow)
  else .ok (cstr buff)

/-- The Xilinx branch, behind the preamble. -/
def xilinxHeader (s : HeaderState) : Except Fault (ℤ × Option CStr × File) :=
  if s.buff.getD 11 0 = 0 ∧ s.buff.getD 12 0 = 1 ∧ s.buff.getD 13 0 = 0x61 then do
    let s ← readField 2 s       -- design name
    let s ← readField 3 s       -- part name
    let part ← copyPart s.buff
    let s ← readField 3 s       -- design date
    let s ← readField 3 s       -- design time
    let s ← readBuff 5 s        -- config length
    return (s.ret, some part, s.fp)
  else return (s.ret, none, s.fp)

/-- The variables of the Efinix branch. -/
structure LineState where
  fp : File
  str : CStr
  ret : ℕ

/-- `fgets (str, size, fp); ret += strlen (str)`.  After a read error the contents
of `str` are indeterminate. -/
def readLine (size : ℕ) (s : LineState) : Except Fault LineState :=
  if lineHitsEnd (size - 1) s.fp.rest = true ∧ s.fp.ioError = true then
    .error (.undefined .indeterminate)
  else
    .ok ⟨(fgets size s.str s.fp).2, (fgets size s.str s.fp).1,
      s.ret + (fgets size s.str s.fp).1.length⟩

/-- The part name in the device line, which is its second word without the last
character, and what the two calls of `strtok` leave of the line. -/
def devicePart (str : CStr) : Except Fault (CStr × CStr) :=
  match strtok 32 str with
  | none => .error (.undefined .nullToken)
  | some (first, more) =>
    match strtok 32 more with
    | none => .error (.undefined .nullToken)
    | some (partns, _) =>
      if partns = [] then .error (.undefined .indexUnderflow)
      else if partNameSize < partns.dropLast.length + 1 then
        .error (.undefined .partNameOverflow)
      else .ok (partns.dropLast, str.takeWhile (· == 32) ++ first)

/-- The Efinix branch, behind the version line. -/
def efinixHeader (s : LineState) : Except Fault (ℤ × Option CStr × File) := do
  let s ← readLine 60 s         -- compiler version
  let s ← readLine 60 s         -- date
  let s ← readLine 80 s         -- project
  let s ← readLine 80 s
  let s ← readLine 60 s         -- family
  let s ← readLine 60 s         -- device
  let (part, str) ← devicePart s.str
  let s ← readLine 60 { s with str := str }   -- configuration device width
  let s ← readLine 60 s         -- configuration mode
  let s ← readLine 60 s         -- padded bits
  return (s.ret, some part, s.fp)

/-- `print_bitfile_header`. -/
def printBitfileHeader (fp : File) : Except Fault (ℤ × Option CStr × File) := do
  let s ← readBuff 14 ⟨fp, [], 0⟩
  if s.ret ≠ 14 then return (-1, none, s.fp)
  if s.buff.getD 0 0 = 0 ∧ s.buff.getD 1 0 = 9 then xilinxHeader s
  else
    let t ← readLine 20 ⟨s.fp.rewind, [], s.ret⟩
    if t.str.take 7 = ascii "Version" then efinixHeader t
    else return (-1, none, t.fp)

/-! ### The stream behind the header -/

lemma readBuff_reads {n : ℕ} {s s' : HeaderState} (h : readBuff n s = .ok s') :
    s.fp.Reads s'.fp := by
  unfold readBuff at h
  split at h
  · cases h
  · obtain rfl := Except.ok.inj h
    exact reads_fread n s.fp

lemma readField_reads {hdr : ℕ} {s s' : HeaderState} (h : readField hdr s = .ok s') :
    s.fp.Reads s'.fp := by
  rw [readField, bind_eq_ok] at h
  obtain ⟨s₁, h₁, h₂⟩ := h
  exact (readBuff_reads h₁).trans (readBuff_reads h₂)

lemma xilinxHeader_reads {s : HeaderState} {r : ℤ × Option CStr × File}
    (h : xilinxHeader s = .ok r) : s.fp.Reads r.2.2 := by
  unfold xilinxHeader at h
  split at h
  · simp only [bind_eq_ok] at h
    obtain ⟨s₁, h₁, s₂, h₂, _, -, s₃, h₃, s₄, h₄, s₅, h₅, hr⟩ := h
    obtain rfl := Except.ok.inj hr
    exact (readField_reads h₁).trans ((readField_reads h₂).trans ((readField_reads h₃).trans
      ((readField_reads h₄).trans (readBuff_reads h₅))))
  · obtain rfl := Except.ok.inj h
    exact .refl _

lemma readLine_reads {size : ℕ} {s s' : LineState} (h : readLine size s = .ok s') :
    s.fp.Reads s'.fp := by
  unfold readLine at h
  split at h
  · cases h
  · obtain rfl := Except.ok.inj h
    exact reads_fgets size s.str s.fp

lemma efinixHeader_reads {s : LineState} {r : ℤ × Option CStr × File}
    (h : efinixHeader s = .ok r) : s.fp.Reads r.2.2 := by
  simp only [efinixHeader, bind_eq_ok] at h
  obtain ⟨s₁, h₁, s₂, h₂, s₃, h₃, s₄, h₄, s₅, h₅, s₆, h₆, p, -, s₇, h₇, s₈, h₈, s₉, h₉, hr⟩ := h
  obtain rfl := Except.ok.inj hr
  have h₇' := readLine_reads h₇
  exact (readLine_reads h₁).trans ((readLine_reads h₂).trans ((readLine_reads h₃).trans
    ((readLine_reads h₄).trans ((readLine_reads h₅).trans ((readLine_reads h₆).trans
      (h₇'.trans ((readLine_reads h₈).trans (readLine_reads h₉))))))))

/-- The parser only reads. -/
lemma printBitfileHeader_reads {fp : File} {r : ℤ × Option CStr × File}
    (h : printBitfileHeader fp = .ok r) : fp.Reads r.2.2 := by
  rw [printBitfileHeader, bind_eq_ok] at h
  obtain ⟨s, hs, h⟩ := h
  have hread : fp.Reads s.fp := readBuff_reads hs
  split at h
  · obtain rfl := Except.ok.inj h
    exact hread
  · split at h
    · exact hread.trans (xilinxHeader_reads h)
    · rw [bind_eq_ok] at h
      obtain ⟨t, ht, h⟩ := h
      have hline : s.fp.rewind.Reads t.fp := readLine_reads ht
      have hstart := hread.trans ((File.reads_rewind s.fp).trans hline)
      split at h
      · exact hstart.trans (efinixHeader_reads h)
      · obtain rfl := Except.ok.inj h
        exact hstart

end Mesaflash
