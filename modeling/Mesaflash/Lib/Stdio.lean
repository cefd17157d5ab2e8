import Mesaflash.Lib.Loop
import Mathlib.Data.List.Basic
import Mathlib.Data.List.TakeWhile

/-!
Input streams and byte strings of the C library.

A `File` is an open input stream: the bytes of the file, the position, and the
end-of-file indicator.  A stream may also end in a read error that never goes
away; then the indicator is never set.  `fread` and `fgets` are the two ways in
which bytes are taken from a stream.  A C string is the list of its bytes
without the terminating NUL.
-/

namespace Mesaflash.Lib

/-- A C string, without its NUL. -/
abbrev CStr := List UInt8

/-- The bytes of a string literal. -/
def ascii (s : String) : CStr := s.toList.map fun c => c.toNat.toUInt8

/-- A number that is printed in decimal. -/
def decimal (i : ℤ) : CStr := ascii (toString i)

/-- The C string stored at the start of a byte sequence. -/
def cstr (bytes : List UInt8) : CStr := bytes.takeWhile (· != 0)

lemma cstr_append_of_mem {l : List UInt8} (h : 0 ∈ l) (tail : List UInt8) :
    cstr (l ++ tail) = cstr l := by
  induction l with
  | nil => exact absurd h (by simp)
  | cons b l ih =>
      by_cases hb : b = 0
      · simp [cstr, hb]
      · have hl : 0 ∈ l := (List.mem_cons.1 h).resolve_left (Ne.symm hb)
        have hrec := ih hl
        simp only [cstr] at hrec
        simp [cstr, hb, hrec]

lemma cstr_of_not_mem {l : List UInt8} (h : 0 ∉ l) (tail : List UInt8) :
    cstr (l ++ tail) = l ++ cstr tail := by
  rw [cstr, List.takeWhile_append_of_pos]
  · rfl
  · intro b hb
    have : b ≠ 0 := fun h0 => h (h0 ▸ hb)
    simpa using this

lemma length_cstr_le (l : List UInt8) : (cstr l).length ≤ l.length :=
  (List.takeWhile_sublist _).length_le

/-- The string that `snprintf` leaves in a buffer of `size` bytes. -/
def snprintf (size : ℕ) (s : CStr) : CStr := s.take (size - 1)

/-- An open input stream. -/
structure File where
  /-- The bytes that the stream can deliver. -/
  data : List UInt8
  pos : ℕ
  /-- The end-of-file indicator, read by `feof`. -/
  eof : Bool
  /-- Whether the stream ends in a persistent read error instead of end of file. -/
  ioError : Bool
deriving DecidableEq, Repr

namespace File

/-- A stream that was just opened. -/
def start (data : List UInt8) (ioError : Bool) : File := ⟨data, 0, false, ioError⟩

/-- The bytes that were not read yet. -/
def rest (fp : File) : List UInt8 := fp.data.drop fp.pos

/-- `rewind`. -/
def rewind (fp : File) : File := { fp with pos := 0, eof := false }

/-- Advance by `k` bytes in answer to a request for `n` of them. -/
def advance (fp : File) (n k : ℕ) : File :=
  { fp with pos := fp.pos + k, eof := fp.eof || (decide (k < n) && !fp.ioError) }

@[simp] lemma rest_start (data : List UInt8) (e : Bool) : (start data e).rest = data := rfl

@[simp] lemma eof_start (data : List UInt8) (e : Bool) : (start data e).eof = false := rfl

@[simp] lemma ioError_start (data : List UInt8) (e : Bool) : (start data e).ioError = e := rfl

@[simp] lemma rest_rewind (fp : File) : fp.rewind.rest = fp.data := rfl

@[simp] lemma rest_advance (fp : File) (n k : ℕ) : (fp.advance n k).rest = fp.rest.drop k := by
  simp [rest, advance, List.drop_drop]

@[simp] lemma data_advance (fp : File) (n k : ℕ) : (fp.advance n k).data = fp.data := rfl

@[simp] lemma ioError_advance (fp : File) (n k : ℕ) :
    (fp.advance n k).ioError = fp.ioError := rfl

@[simp] lemma eof_advance (fp : File) (n k : ℕ) :
    (fp.advance n k).eof = (fp.eof || (decide (k < n) && !fp.ioError)) := rfl

end File

/-- `fread` of `n` single bytes: the bytes delivered and the stream after it. -/
def fread (n : ℕ) (fp : File) : List UInt8 × File :=
  (fp.rest.take n, fp.advance n (fp.rest.take n).length)

@[simp] lemma fread_fst (n : ℕ) (fp : File) : (fread n fp).1 = fp.rest.take n := rfl

@[simp] lemma rest_fread (n : ℕ) (fp : File) : (fread n fp).2.rest = fp.rest.drop n := by
  simp only [fread, File.rest_advance, List.length_take]
  rcases Nat.le_total n fp.rest.length with h | h
  · rw [Nat.min_eq_left h]
  · rw [Nat.min_eq_right h, List.drop_length, List.drop_eq_nil_of_le h]

@[simp] lemma data_fread (n : ℕ) (fp : File) : (fread n fp).2.data = fp.data := rfl

@[simp] lemma ioError_fread (n : ℕ) (fp : File) : (fread n fp).2.ioError = fp.ioError := rfl

lemma eof_fread (n : ℕ) (fp : File) :
    (fread n fp).2.eof = (fp.eof || (decide (fp.rest.length < n) && !fp.ioError)) := by
  have h : (min n fp.rest.length < n) = (fp.rest.length < n) := by
    simp only [eq_iff_iff]
    omega
  simp [fread, h]

/-! ### Lines -/

/-- The first line of a byte sequence, newline included, cut after `n` bytes. -/
def takeLine : ℕ → List UInt8 → List UInt8
  | 0, _ => []
  | _ + 1, [] => []
  | n + 1, b :: bs => if b = 10 then [b] else b :: takeLine n bs

/-- Whether `takeLine` stopped because the bytes ran out. -/
def lineHitsEnd : ℕ → List UInt8 → Bool
  | 0, _ => false
  | _ + 1, [] => true
  | n + 1, b :: bs => if b = 10 then false else lineHitsEnd n bs

/-- `fgets` into a buffer of `size` bytes that holds the string `str`: the string
in the buffer and the stream afterwards.  Nothing read leaves the buffer alone. -/
def fgets (size : ℕ) (str : CStr) (fp : File) : CStr × File :=
  let line := takeLine (size - 1) fp.rest
  let fp' := { fp with
    pos := fp.pos + line.length
    eof := fp.eof || (lineHitsEnd (size - 1) fp.rest && !fp.ioError) }
  (if line = [] then str else cstr line, fp')

/-! ### Streams that are only read -/

namespace File

/-- The end-of-file indicator is only set at the end, and never by a read error. -/
def Consistent (fp : File) : Prop := fp.eof = true → fp.ioError = false ∧ fp.rest = []

/-- A stream without read errors. -/
def Sound (fp : File) : Prop := fp.ioError = false ∧ fp.Consistent

/-- `fp'` is what reads make of `fp`. -/
structure Reads (fp fp' : File) : Prop where
  data : fp'.data = fp.data
  ioError : fp'.ioError = fp.ioError
  consistent : fp.Consistent → fp'.Consistent

lemma Reads.refl (fp : File) : Reads fp fp := ⟨rfl, rfl, id⟩

lemma Reads.trans {fp fp' fp'' : File} (h : Reads fp fp') (h' : Reads fp' fp'') :
    Reads fp fp'' :=
  ⟨h'.data.trans h.data, h'.ioError.trans h.ioError, fun hc => h'.consistent (h.consistent hc)⟩

lemma consistent_start (data : List UInt8) (e : Bool) : (start data e).Consistent := by
  simp [Consistent]

lemma reads_rewind (fp : File) : Reads fp fp.rewind :=
  ⟨rfl, rfl, fun _ h => by simp [rewind] at h⟩

/-- What a stream delivers is a part of the file. -/
lemma rest_length_le (fp : File) : fp.rest.length ≤ fp.data.length := by
  rw [rest, List.length_drop]
  exact Nat.sub_le _ _

end File

lemma reads_fread (n : ℕ) (fp : File) : fp.Reads (fread n fp).2 := by
  refine ⟨rfl, rfl, fun hc h => ?_⟩
  rw [eof_fread, Bool.or_eq_true] at h
  rw [rest_fread, ioError_fread]
  rcases h with h | h
  · exact ⟨(hc h).1, by rw [(hc h).2, List.drop_nil]⟩
  · simp only [Bool.and_eq_true, decide_eq_true_eq, Bool.not_eq_true'] at h
    exact ⟨h.2, List.drop_eq_nil_of_le h.1.le⟩

lemma takeLine_of_lineHitsEnd {n : ℕ} {l : List UInt8} (h : lineHitsEnd n l = true) :
    takeLine n l = l := by
  induction n generalizing l with
  | zero => simp [lineHitsEnd] at h
  | succ n ih =>
      cases l with
      | nil => rfl
      | cons b l =>
          by_cases hb : b = 10
          · simp [lineHitsEnd, hb] at h
          · rw [takeLine, if_neg hb, ih (by simpa [lineHitsEnd, hb] using h)]

lemma reads_fgets (size : ℕ) (str : CStr) (fp : File) : fp.Reads (fgets size str fp).2 := by
  refine ⟨rfl, rfl, fun hc h => ?_⟩
  have hrest : (fgets size str fp).2.rest
      = fp.rest.drop (takeLine (size - 1) fp.rest).length := by
    simp [fgets, File.rest, List.drop_drop]
  have heof : (fgets size str fp).2.eof
      = (fp.eof || (lineHitsEnd (size - 1) fp.rest && !fp.ioError)) := rfl
  rw [heof, Bool.or_eq_true] at h
  rw [hrest]
  rcases h with h | h
  · exact ⟨(hc h).1, by rw [(hc h).2, List.drop_nil]⟩
  · rw [Bool.and_eq_true, Bool.not_eq_true'] at h
    exact ⟨h.2, by rw [takeLine_of_lineHitsEnd h.1, List.drop_length]⟩

/-! ### Tokens -/

/-- What `strtok (NULL, delim)` finds in the rest of a string: the token, and the
bytes after the delimiter that ended it. -/
def strtok (delim : UInt8) (s : CStr) : Option (CStr × CStr) :=
  match s.dropWhile (· == delim) with
  | [] => none
  | t => some (t.takeWhile (· != delim), (t.dropWhile (· != delim)).tail)

/-- A token is never empty. -/
lemma strtok_ne_nil {delim : UInt8} {s tok rest : CStr}
    (h : strtok delim s = some (tok, rest)) : tok ≠ [] := by
  rw [strtok] at h
  have hhead := List.head?_dropWhile_not (· == delim) s
  cases hs : s.dropWhile (· == delim) with
  | nil => rw [hs] at h; exact absurd h (by simp)
  | cons b bs =>
      rw [hs] at h hhead
      simp only [List.head?_cons, beq_eq_false_iff_ne, ne_eq] at hhead
      simp only [Option.some.injEq, Prod.mk.injEq] at h
      rw [← h.1, List.takeWhile_cons, if_pos (by simpa using hhead)]
      exact List.cons_ne_nil _ _

lemma strtok_of_head {delim c : UInt8} (hc : c ≠ delim) (s : CStr) :
    strtok delim (c :: s) =
      some ((c :: s).takeWhile (· != delim), ((c :: s).dropWhile (· != delim)).tail) := by
  have hdrop : (c :: s).dropWhile (· == delim) = c :: s := by simp [hc]
  rw [strtok, hdrop]

section Token

variable {delim : UInt8} {tok : CStr} (hne : tok ≠ []) (htok : ∀ c ∈ tok, c ≠ delim)

include hne htok

/-- A token at the start of a string. -/
lemma strtok_append (rest : CStr) : strtok delim (tok ++ delim :: rest) = some (tok, rest) := by
  have hpos : ∀ c ∈ tok, (c != delim) = true := fun c hc => bne_iff_ne.2 (htok c hc)
  have htake : (tok ++ delim :: rest).takeWhile (· != delim) = tok := by
    rw [List.takeWhile_append_of_pos hpos]
    simp
  have hdrop : (tok ++ delim :: rest).dropWhile (· != delim) = delim :: rest := by
    rw [List.dropWhile_append_of_pos hpos]
    simp
  obtain ⟨c, u, rfl⟩ := List.exists_cons_of_ne_nil hne
  rw [List.cons_append] at htake hdrop ⊢
  rw [strtok_of_head (htok c List.mem_cons_self), htake, hdrop, List.tail_cons]

/-- A string that is one token. -/
lemma strtok_last : strtok delim tok = some (tok, []) := by
  have hpos : ∀ c ∈ tok, (c != delim) = true := fun c hc => bne_iff_ne.2 (htok c hc)
  have htake : tok.takeWhile (· != delim) = tok := List.takeWhile_eq_self_iff.2 hpos
  have hdrop : tok.dropWhile (· != delim) = [] := List.dropWhile_eq_nil_iff.2 hpos
  obtain ⟨c, u, rfl⟩ := List.exists_cons_of_ne_nil hne
  rw [strtok_of_head (htok c List.mem_cons_self), htake, hdrop, List.tail_nil]

end Token

end Mesaflash.Lib
