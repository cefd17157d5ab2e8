import Mesaflash.BitfilePosition
import Mathlib.Data.List.Forall2
import Mathlib.Algebra.GroupWithZero.Nat

/-!
Which line the header parser takes for the device line.

The lines of an Efinix header are read with a fixed number of `fgets` calls.  A
line that is longer than the buffer takes several calls, a short one takes one,
and the code provides two calls for the version line and two for the project line,
whatever their lengths are.  The part name is the second word of what the seventh
call reads.

`skip` follows the calls through the lengths of the lines.  For given lengths and a
given device line, `projectIndependent_iff` says when the project line has no
influence on the part name and on the place of the stream, whatever the lines and
the payload contain otherwise.
-/

namespace Mesaflash

open Lib

/-! ### Headers -/

/-- A line of text, without its newline. -/
abbrev TextLine : Type := {l : List UInt8 // 10 ∉ l}

/-- The bytes of a line. -/
def TextLine.bytes (l : TextLine) : List UInt8 := l.1 ++ [10]

/-- The second blank-separated word of a line. -/
def secondWord (line : CStr) : Option CStr := do
  let (_, more) ← strtok 32 line
  let (word, _) ← strtok 32 more
  return word

/-- The header lines of an Efinix file. -/
structure EfinixHeader where
  version : TextLine
  version_start : ascii "Version" <+: version.1
  date : TextLine
  project : TextLine
  family : TextLine
  device : TextLine
  /-- The part name. -/
  part : CStr
  device_part : secondWord device.1 = some part
  width : TextLine
  mode : TextLine
  padded : TextLine

namespace EfinixHeader

def lines (h : EfinixHeader) : List (List UInt8) :=
  [h.version, h.date, h.project, h.family, h.device, h.width, h.mode, h.padded].map TextLine.bytes

def encode (h : EfinixHeader) : List UInt8 := h.lines.flatten

/-- The header with another project line. -/
def withProject (h : EfinixHeader) (project : TextLine) : EfinixHeader := { h with project }

/-- Headers with the same device line and lines of the same lengths. -/
structure Alike (h h' : EfinixHeader) : Prop where
  lengths : h.lines.map List.length = h'.lines.map List.length
  device : h.device = h'.device

end EfinixHeader

/-- For both project lines the parser delivers the part name of the device line, and the
stream is left at the same place relative to the payload. -/
def ProjectIndependent (h : EfinixHeader) (t₁ t₂ : TextLine) (payload : List UInt8) : Prop :=
  ∃ ret₁ ret₂ fp₁ fp₂,
    printBitfileHeader (.start ((h.withProject t₁).encode ++ payload) false) =
      .ok (ret₁, some h.part, fp₁) ∧
    printBitfileHeader (.start ((h.withProject t₂).encode ++ payload) false) =
      .ok (ret₂, some h.part, fp₂) ∧
    (fp₁.pos : ℤ) - (h.withProject t₁).encode.length =
      fp₂.pos - (h.withProject t₂).encode.length

/-! ### Reading lines -/

/-- The lines that are left after a read of at most `n` bytes. -/
def cut (n : ℕ) : List (List UInt8) → List (List UInt8)
  | [] => []
  | l :: ls => if l.length ≤ n then ls else l.drop n :: ls

/-- The lengths of the lines that are left after a read of at most `n` bytes. -/
def skip (n : ℕ) : List ℕ → List ℕ
  | [] => []
  | l :: ls => if l ≤ n then ls else (l - n) :: ls

lemma map_length_cut (n : ℕ) (ls : List (List UInt8)) :
    (cut n ls).map List.length = skip n (ls.map List.length) := by
  cases ls with
  | nil => rfl
  | cons l ls =>
      rw [cut, List.map_cons, skip]
      split
      · rfl
      · rw [List.map_cons, List.length_drop]

/-- The end of a line, with the newline. -/
def LineEnd (l : List UInt8) : Prop := ∃ t, 10 ∉ t ∧ l = t ++ [10]

lemma lineEnd_drop {l : List UInt8} (h : LineEnd l) {n : ℕ} (hn : n < l.length) :
    LineEnd (l.drop n) := by
  obtain ⟨t, ht, rfl⟩ := h
  rw [List.length_append, List.length_singleton] at hn
  exact ⟨t.drop n, fun h => ht (List.mem_of_mem_drop h),
    List.drop_append_of_le_length (Nat.le_of_lt_succ hn)⟩

lemma takeLine_lineEnd {l : List UInt8} (h : LineEnd l) (n : ℕ) (rest : List UInt8) :
    takeLine n (l ++ rest) = l.take n := by
  obtain ⟨t, ht, rfl⟩ := h
  induction t generalizing n with
  | nil =>
      cases n with
      | zero => rfl
      | succ n => simp [takeLine]
  | cons b t ih =>
      cases n with
      | zero => rfl
      | succ n =>
          have hb : b ≠ 10 := fun h => ht (h ▸ List.mem_cons_self)
          have hrec := ih n fun h => ht (List.mem_cons_of_mem b h)
          rw [List.cons_append, List.cons_append, takeLine, if_neg hb, List.take_succ_cons]
          exact congrArg _ hrec

/-- `ls` is what is left of `lines` after some reads. -/
def Behind (lines ls : List (List UInt8)) : Prop :=
  ∃ pre ls', lines = pre ++ ls' ∧ List.Forall₂ (· <:+ ·) ls ls'

lemma Behind.cut {lines ls : List (List UInt8)} (h : Behind lines ls) (n : ℕ) :
    Behind lines (cut n ls) := by
  obtain ⟨pre, ls', rfl, hsuffix⟩ := h
  cases hsuffix with
  | nil => exact ⟨pre, [], rfl, .nil⟩
  | @cons l l' ls ls' hl hls =>
      rw [Mesaflash.cut]
      split
      · exact ⟨pre ++ [l'], ls', by simp, hls⟩
      · exact ⟨pre, l' :: ls', rfl, .cons ((List.drop_suffix n l).trans hl) hls⟩

/-- A read takes the first of the lines that are left, or the start of it. -/
lemma next_flatten {l : List UInt8} {ls : List (List UInt8)} (h : ∀ x ∈ l :: ls, LineEnd x)
    {size : ℕ} (hsize : 1 < size) (payload : List UInt8) (str : CStr) :
    LineView.next ⟨(l :: ls).flatten ++ payload, str⟩ size =
      ⟨(cut (size - 1) (l :: ls)).flatten ++ payload, cstr (l.take (size - 1))⟩ := by
  have hl : LineEnd l := h l List.mem_cons_self
  have hne : l.take (size - 1) ≠ [] := by
    obtain ⟨t, -, rfl⟩ := hl
    rw [ne_eq, List.take_eq_nil_iff]
    rintro (h | h)
    · omega
    · simp at h
  have hline : takeLine (size - 1) ((l :: ls).flatten ++ payload) = l.take (size - 1) := by
    rw [List.flatten_cons, List.append_assoc]
    exact takeLine_lineEnd hl _ _
  have hrest : ((l :: ls).flatten ++ payload).drop (l.take (size - 1)).length =
      (cut (size - 1) (l :: ls)).flatten ++ payload := by
    rw [List.flatten_cons, List.append_assoc, List.length_take, cut]
    split
    · next hle => rw [Nat.min_eq_right hle, List.drop_left' rfl]
    · next hlt =>
      rw [Nat.min_eq_left (by omega), List.drop_append_of_le_length (by omega), List.flatten_cons,
        List.append_assoc]
  rw [LineView.next]
  simp only [hline, hrest, if_neg hne]

lemma lineEnd_cut {ls : List (List UInt8)} (h : ∀ x ∈ ls, LineEnd x) (n : ℕ) :
    ∀ x ∈ cut n ls, LineEnd x := by
  cases ls with
  | nil => exact h
  | cons l ls =>
      intro x hx
      rw [cut] at hx
      split at hx
      · exact h x (List.mem_cons_of_mem l hx)
      · rcases List.mem_cons.1 hx with rfl | hx
        · exact lineEnd_drop (h l List.mem_cons_self) (by omega)
        · exact h x (List.mem_cons_of_mem l hx)

lemma length_cut_le (n : ℕ) (ls : List (List UInt8)) : ls.length ≤ (cut n ls).length + 1 := by
  cases ls with
  | nil => exact Nat.zero_le _
  | cons l ls =>
      rw [cut]
      split
      · exact le_rfl
      · exact Nat.le_succ _

/-- The lines that are left after reads into buffers of the given sizes. -/
def cutAll (sizes : List ℕ) (ls : List (List UInt8)) : List (List UInt8) :=
  sizes.foldl (fun ls size => cut (size - 1) ls) ls

lemma Behind.cutAll {lines ls : List (List UInt8)} (h : Behind lines ls) (sizes : List ℕ) :
    Behind lines (cutAll sizes ls) := by
  induction sizes generalizing ls with
  | nil => exact h
  | cons size sizes ih => exact ih (h.cut _)

lemma lineEnd_cutAll {ls : List (List UInt8)} (h : ∀ x ∈ ls, LineEnd x) (sizes : List ℕ) :
    ∀ x ∈ cutAll sizes ls, LineEnd x := by
  induction sizes generalizing ls with
  | nil => exact h
  | cons size sizes ih => exact ih (lineEnd_cut h _)

lemma length_cutAll_le (sizes : List ℕ) (ls : List (List UInt8)) :
    ls.length ≤ (cutAll sizes ls).length + sizes.length := by
  induction sizes generalizing ls with
  | nil => exact le_rfl
  | cons size sizes ih =>
      have hcut := length_cut_le (size - 1) ls
      have hrec := ih (cut (size - 1) ls)
      rw [cutAll, List.foldl_cons, List.length_cons]
      rw [cutAll] at hrec
      omega

lemma map_length_cutAll (sizes : List ℕ) (ls : List (List UInt8)) :
    (cutAll sizes ls).map List.length =
      sizes.foldl (fun lens size => skip (size - 1) lens) (ls.map List.length) := by
  induction sizes generalizing ls with
  | nil => rfl
  | cons size sizes ih =>
      rw [List.foldl_cons, ← map_length_cut]
      exact ih _

/-- As many reads as there are lines stay within the lines. -/
lemma rest_foldl_next (sizes : List ℕ) (hsizes : ∀ size ∈ sizes, 1 < size)
    {ls : List (List UInt8)} (h : ∀ x ∈ ls, LineEnd x) (hlen : sizes.length ≤ ls.length)
    (payload : List UInt8) (str : CStr) :
    (sizes.foldl LineView.next ⟨ls.flatten ++ payload, str⟩).rest =
      (cutAll sizes ls).flatten ++ payload := by
  induction sizes generalizing ls str with
  | nil => rfl
  | cons size sizes ih =>
      cases ls with
      | nil => simp at hlen
      | cons l ls =>
          have hcut := length_cut_le (size - 1) (l :: ls)
          rw [List.length_cons, List.length_cons] at hlen
          rw [List.length_cons] at hcut
          rw [List.foldl_cons, next_flatten h (hsizes size List.mem_cons_self)]
          exact ih (fun x hx => hsizes x (List.mem_cons_of_mem size hx)) (lineEnd_cut h _)
            (by omega) _

/-- Where a read ends does not depend on the string in the buffer. -/
lemma rest_foldl_next_congr (sizes : List ℕ) (rest : List UInt8) (str str' : CStr) :
    (sizes.foldl LineView.next ⟨rest, str⟩).rest =
      (sizes.foldl LineView.next ⟨rest, str'⟩).rest := by
  induction sizes generalizing rest str str' with
  | nil => rfl
  | cons size sizes ih => exact ih _ _ _

/-! ### A run of the parser -/

namespace EfinixHeader

variable (h : EfinixHeader) (payload : List UInt8)

lemma lineEnd_lines : ∀ x ∈ h.lines, LineEnd x := by
  intro x hx
  obtain ⟨l, -, rfl⟩ := List.mem_map.1 hx
  exact ⟨l.1, l.2, rfl⟩

lemma version_isInitial : ascii "Version" <+: h.encode ++ payload := by
  obtain ⟨tail, htail⟩ := h.version_start
  rw [encode, lines, List.map_cons, List.flatten_cons, TextLine.bytes, ← htail]
  simp only [List.append_assoc]
  exact List.prefix_append _ _

/-- The parser takes the Efinix branch. -/
lemma printBitfileHeader_eq :
    ∃ t, readLine 20 (versionState (h.encode ++ payload)) = .ok t ∧
      printBitfileHeader (.start (h.encode ++ payload) false) = efinixHeader t := by
  have hversion := h.version_isInitial payload
  have hstart : ¬ ((h.encode ++ payload).getD 0 0 = 0 ∧ (h.encode ++ payload).getD 1 0 = 9) := by
    obtain ⟨tail, htail⟩ := hversion
    rw [← htail]
    rintro ⟨h0, -⟩
    exact absurd h0 (by simp [ascii])
  have hlen : 14 ≤ (h.encode ++ payload).length := by
    have hseven : 7 ≤ h.version.1.length := h.version_start.length_le
    simp only [encode, lines, TextLine.bytes, List.map_cons, List.map_nil, List.flatten_cons,
      List.flatten_nil, List.length_append, List.length_singleton]
    omega
  obtain ⟨t, ht, -, -, hrun⟩ := printBitfileHeader_other hlen hstart
  exact ⟨t, ht, by rw [hrun, if_pos hversion]⟩

lemma printBitfileHeader_delivers_iff {part : CStr} :
    (∃ ret fp, printBitfileHeader (.start (h.encode ++ payload) false) =
        .ok (ret, some part, fp)) ↔
      ∃ str, devicePart (deviceLine (h.encode ++ payload)) = .ok (part, str) := by
  obtain ⟨t, ht, hrun⟩ := h.printBitfileHeader_eq payload
  have hdefined := efinixHeader_defined_iff (s := t) ((readLine_reads ht).ioError)
  have hview : t.view = LineView.next ⟨h.encode ++ payload, []⟩ 20 := by
    obtain ⟨t', ht', hview, -⟩ := readLine_ok (s := versionState (h.encode ++ payload)) rfl 20
    obtain rfl : t = t' := Except.ok.inj (ht.symm.trans ht')
    exact hview
  rw [hview, ← deviceLine_eq] at hdefined
  have hlines : ∀ r, efinixHeader t = .ok r →
      ∃ ret p, r.1 = ret ∧ r.2.1 = some p.1 ∧
        devicePart (deviceLine (h.encode ++ payload)) = .ok p := by
    intro r hr
    obtain ⟨u, p, v, hdevice, hp, -, rfl⟩ := efinixHeader_lines rfl ht hr
    have hstr : u.str = deviceLine (h.encode ++ payload) := congrArg LineView.str hdevice.view
    exact ⟨_, p, rfl, rfl, hstr ▸ hp⟩
  rw [hrun]
  constructor
  · rintro ⟨ret, fp, hr⟩
    obtain ⟨-, p, -, hpart, hp⟩ := hlines _ hr
    obtain ⟨part', str⟩ := p
    obtain rfl : part = part' := Option.some.inj hpart
    exact ⟨str, hp⟩
  · rintro ⟨str, hp⟩
    obtain ⟨r, hr⟩ := hdefined.2 ⟨_, hp⟩
    obtain ⟨-, p, -, hpart, hp'⟩ := hlines r hr
    obtain ⟨ret, part', fp⟩ := r
    obtain rfl := Except.ok.inj (hp.symm.trans hp')
    obtain rfl : part' = some part := hpart
    exact ⟨ret, fp, hr⟩

/-- Where the stream is left. -/
lemma pos_add_rest {ret : ℤ} {part : Option CStr} {fp : File}
    (hr : printBitfileHeader (.start (h.encode ++ payload) false) = .ok (ret, part, fp)) :
    fp.pos + ((deviceSizes ++ tailSizes).foldl LineView.next
      ⟨h.encode ++ payload, []⟩).rest.length = (h.encode ++ payload).length := by
  obtain ⟨t, ht, hrun⟩ := h.printBitfileHeader_eq payload
  rw [hrun] at hr
  obtain ⟨u, p, v, hdevice, -, htail, heq⟩ := efinixHeader_lines rfl ht hr
  obtain ⟨-, -, rfl⟩ : _ ∧ _ ∧ _ := by simpa only [Prod.mk.injEq] using heq
  have hplace := hdevice.place
  have hplace' := htail.place
  have hrest : v.fp.rest = ((deviceSizes ++ tailSizes).foldl LineView.next
      ⟨h.encode ++ payload, []⟩).rest := by
    rw [List.foldl_append, ← view_versionState, ← hdevice.view]
    exact (congrArg LineView.rest htail.view).trans (rest_foldl_next_congr _ _ _ _)
  rw [← hrest]
  have hstart : (versionState (h.encode ++ payload)).fp.rest = h.encode ++ payload := rfl
  have hpos : (versionState (h.encode ++ payload)).fp.pos = 0 := rfl
  rw [hstart, hpos] at hplace
  dsimp only at hplace'
  omega

end EfinixHeader

/-! ### The read of the device line -/

/-- The buffer sizes of the reads before the one in which the part name is looked for. -/
def leadSizes : List ℕ := [20, 60, 60, 80, 80, 60]

/-- The lengths of the lines that are left after reads into buffers of the given sizes. -/
def skipAll (sizes : List ℕ) (lens : List ℕ) : List ℕ :=
  sizes.foldl (fun lens size => skip (size - 1) lens) lens

/-- How many bytes of the device line are left when the part name is looked for; `none`
where it is looked for in another line. -/
def leftOfDevice (lens : List ℕ) : Option ℕ :=
  match skipAll leadSizes lens with
  | [left, _, _, _] => some left
  | _ => none

/-- The part name that is found when the last `left` bytes of the device line are left. -/
def wordAt (device : TextLine) (left : ℕ) : Option CStr :=
  (devicePart (cstr ((device.bytes.drop (device.bytes.length - left)).take 59))).toOption.map
    Prod.fst

namespace EfinixHeader

variable (h : EfinixHeader) (payload : List UInt8)

/-- The lengths of the lines, newlines included. -/
def lengths : List ℕ := h.lines.map List.length

/-- The part name is looked for in the device line, and found. -/
def FindsPart : Prop :=
  ∃ left, leftOfDevice h.lengths = some left ∧ wordAt h.device left = some h.part

/-- How many bytes of the header the parser leaves unread. -/
def unread : ℕ := (skipAll (deviceSizes ++ tailSizes) h.lengths).sum

/-- The lines that are left when the part name is looked for. -/
def leftLines : List (List UInt8) := cutAll leadSizes h.lines

lemma map_length_leftLines : h.leftLines.map List.length = skipAll leadSizes h.lengths :=
  map_length_cutAll _ _

lemma two_le_leftLines : 2 ≤ h.leftLines.length := by
  have hle := length_cutAll_le leadSizes h.lines
  have hlen : h.lines.length = 8 := rfl
  have hsizes : leadSizes.length = 6 := rfl
  rw [leftLines]
  omega

/-- The lines that are left are ends of the last lines. -/
lemma leftLines_suffix :
    List.Forall₂ (· <:+ ·) h.leftLines (h.lines.drop (8 - h.leftLines.length)) := by
  have hbehind : Behind h.lines h.leftLines :=
    Behind.cutAll ⟨[], h.lines, rfl, List.forall₂_same.2 fun _ _ => List.suffix_rfl⟩ _
  obtain ⟨pre, ls', hlines, hsuffix⟩ := hbehind
  have hlen := congrArg List.length hlines
  have hlen' := hsuffix.length_eq
  rw [List.length_append, show h.lines.length = 8 from rfl] at hlen
  have hpre : 8 - h.leftLines.length = pre.length := by omega
  rw [hpre, hlines, List.drop_left' rfl]
  exact hsuffix

lemma rest_leadSizes :
    (leadSizes.foldl LineView.next ⟨h.encode ++ payload, []⟩).rest =
      h.leftLines.flatten ++ payload :=
  rest_foldl_next leadSizes (by decide) h.lineEnd_lines (show 6 ≤ 8 by decide) payload []

/-- The part name is looked for in the first of the lines that are left. -/
lemma deviceLine_eq_take {l : List UInt8} {ls : List (List UInt8)} (hleft : h.leftLines = l :: ls) :
    deviceLine (h.encode ++ payload) = cstr (l.take 59) := by
  have hrest := h.rest_leadSizes payload
  rw [hleft] at hrest
  have hends : ∀ x ∈ l :: ls, LineEnd x := by
    rw [← hleft]
    exact lineEnd_cutAll h.lineEnd_lines _
  obtain ⟨v, hv⟩ : ∃ v, leadSizes.foldl LineView.next ⟨h.encode ++ payload, []⟩ = v := ⟨_, rfl⟩
  rw [hv] at hrest
  have hview : v = ⟨(l :: ls).flatten ++ payload, v.str⟩ := by
    rw [← hrest]
  have hline : deviceLine (h.encode ++ payload) = (v.next 60).str := by
    rw [← hv]
    rfl
  rw [hline, hview, next_flatten hends (by decide)]

/-- When the part name is looked for in the device line, the other reads stay within the
header. -/
lemma rest_of_leftLines (hleft : 4 ≤ h.leftLines.length) :
    ((deviceSizes ++ tailSizes).foldl LineView.next ⟨h.encode ++ payload, []⟩).rest.length =
      h.unread + payload.length := by
  have hsplit : deviceSizes ++ tailSizes = leadSizes ++ [60, 60, 60, 60] := rfl
  obtain ⟨v, hv⟩ : ∃ v, leadSizes.foldl LineView.next ⟨h.encode ++ payload, []⟩ = v := ⟨_, rfl⟩
  have hview : v = ⟨h.leftLines.flatten ++ payload, v.str⟩ := by
    rw [← h.rest_leadSizes payload, hv]
  have hlens : skipAll (deviceSizes ++ tailSizes) h.lengths =
      (cutAll [60, 60, 60, 60] h.leftLines).map List.length := by
    rw [map_length_cutAll, map_length_leftLines, hsplit, skipAll, List.foldl_append]
    rfl
  have hends : ∀ x ∈ h.leftLines, LineEnd x := lineEnd_cutAll h.lineEnd_lines _
  rw [hsplit, List.foldl_append, hv, hview,
    rest_foldl_next [60, 60, 60, 60] (by decide) hends hleft, List.length_append,
    List.length_flatten, unread, hlens]

/-- The line in which the part name is looked for is the end of the device line when four
lines are left. -/
lemma leftLines_eq_device {l : List UInt8} {ls : List (List UInt8)}
    (hleft : h.leftLines = l :: ls) (hlen : h.leftLines.length = 4) :
    l = h.device.bytes.drop (h.device.bytes.length - l.length) := by
  have hsuffix := h.leftLines_suffix
  rw [hlen, hleft] at hsuffix
  cases hsuffix with
  | cons hl _ => exact List.suffix_iff_eq_drop.1 hl

/-- The parser finds the part name. -/
lemma FindsPart.devicePart {h : EfinixHeader} (hfinds : h.FindsPart) :
    4 ≤ h.leftLines.length ∧
      ∃ str, devicePart (deviceLine (h.encode ++ payload)) = .ok (h.part, str) := by
  obtain ⟨left, hleft, hword⟩ := hfinds
  rw [leftOfDevice] at hleft
  split at hleft
  · next a b c d heq =>
    obtain rfl := Option.some.inj hleft
    rw [← map_length_leftLines] at heq
    have hlen : h.leftLines.length = 4 := by
      have := congrArg List.length heq
      rwa [List.length_map] at this
    rcases hlines : h.leftLines with _ | ⟨l, ls⟩
    · rw [hlines] at hlen
      cases hlen
    · have hl : l.length = a := by
        rw [hlines] at heq
        exact (List.cons.inj heq).1
      rw [wordAt, ← hl, ← h.leftLines_eq_device hlines hlen] at hword
      rw [h.deviceLine_eq_take payload hlines, ← hlines, hlen]
      refine ⟨le_rfl, ?_⟩
      cases hpart : Mesaflash.devicePart (cstr (l.take 59)) with
      | error f => simp [hpart, Except.toOption] at hword
      | ok p =>
          obtain ⟨part, str⟩ := p
          simp only [hpart, Except.toOption, Option.map_some, Option.some.injEq] at hword
          exact ⟨str, by rw [hword]⟩
  · cases hleft

end EfinixHeader

/-! ### Lines without blanks -/

/-- Without a blank there is no second word. -/
lemma devicePart_of_not_mem {str : CStr} (h : 32 ∉ str) : ∀ r, devicePart str ≠ .ok r := by
  have hdrop : str.dropWhile (· == 32) = str := by
    cases str with
    | nil => rfl
    | cons b str =>
        have hb : b ≠ 32 := fun hb => h (hb ▸ List.mem_cons_self)
        exact List.dropWhile_cons_of_neg (by simpa using hb)
  have hall : ∀ b ∈ str, (b != 32) = true := by
    intro b hb
    simpa using fun h32 : b = 32 => h (h32 ▸ hb)
  intro r hr
  have htake : str.takeWhile (· != 32) = str := List.takeWhile_eq_self_iff.2 hall
  have hnone : str.dropWhile (· != 32) = [] := List.dropWhile_eq_nil_iff.2 hall
  unfold devicePart at hr
  rw [strtok, hdrop] at hr
  cases str with
  | nil => cases hr
  | cons b str =>
      dsimp only at hr
      rw [htake, hnone] at hr
      simp [strtok] at hr

/-- A line of `n` times the letter `x`. -/
def plainLine (n : ℕ) : TextLine :=
  ⟨List.replicate n 120, fun h => absurd (List.eq_of_mem_replicate h) (by decide)⟩

lemma length_plainLine (n : ℕ) : (plainLine n).1.length = n := List.length_replicate

lemma not_mem_plainLine (n : ℕ) : 32 ∉ (plainLine n).bytes := by
  intro h
  rcases List.mem_append.1 h with h | h
  · exact absurd (List.eq_of_mem_replicate h) (by decide)
  · exact absurd h (by decide)

namespace EfinixHeader

variable (h : EfinixHeader)

/-- A header of the same lengths with no blanks except in the device line. -/
def plain : EfinixHeader where
  version := ⟨ascii "Version" ++ (plainLine (h.version.1.length - 7)).1, fun hmem =>
    (List.mem_append.1 hmem).elim (by decide) (plainLine _).2⟩
  version_start := List.prefix_append _ _
  date := plainLine h.date.1.length
  project := h.project
  family := plainLine h.family.1.length
  device := h.device
  part := h.part
  device_part := h.device_part
  width := plainLine h.width.1.length
  mode := plainLine h.mode.1.length
  padded := plainLine h.padded.1.length

lemma length_bytes (l : TextLine) : l.bytes.length = l.1.length + 1 := List.length_append

lemma plain_alike : h.plain.Alike h := by
  have hseven : 7 ≤ h.version.1.length := h.version_start.length_le
  have hversion : h.plain.version.1.length = h.version.1.length := by
    rw [plain, List.length_append, length_plainLine, show (ascii "Version").length = 7 from rfl]
    omega
  refine ⟨?_, rfl⟩
  simp only [lines, List.map_cons, List.map_nil, length_bytes, hversion]
  simp only [plain, length_plainLine]

lemma plain_not_mem (n : ℕ) {i : ℕ} (hi : i ≠ 4) {x : List UInt8}
    (hx : (h.plain.withProject (plainLine n)).lines[i]? = some x) : 32 ∉ x := by
  have hversion : 32 ∉ h.plain.version.bytes := by
    intro hmem
    rw [plain, TextLine.bytes, List.append_assoc] at hmem
    rcases List.mem_append.1 hmem with hmem | hmem
    · exact absurd hmem (by decide)
    · exact not_mem_plainLine _ hmem
  rcases i with _ | _ | _ | _ | _ | _ | _ | _ | i
  · exact Option.some.inj hx ▸ hversion
  · exact Option.some.inj hx ▸ not_mem_plainLine _
  · exact Option.some.inj hx ▸ not_mem_plainLine _
  · exact Option.some.inj hx ▸ not_mem_plainLine _
  · exact absurd rfl hi
  · exact Option.some.inj hx ▸ not_mem_plainLine _
  · exact Option.some.inj hx ▸ not_mem_plainLine _
  · exact Option.some.inj hx ▸ not_mem_plainLine _
  · cases hx

/-- Where the other lines have no blanks, a part name can only come from the device line. -/
lemma findsPart_of_plain {g : EfinixHeader} {n : ℕ} (hg : g = h.plain.withProject (plainLine n))
    {payload : List UInt8} {str : CStr}
    (hpart : devicePart (deviceLine (g.encode ++ payload)) = .ok (g.part, str)) :
    g.FindsPart := by
  have hsuffix := g.leftLines_suffix
  have htwo := g.two_le_leftLines
  rcases hleft : g.leftLines with _ | ⟨l, ls⟩
  · rw [hleft] at htwo
    cases htwo
  · rw [g.deviceLine_eq_take payload hleft] at hpart
    by_cases hlen : g.leftLines.length = 4
    · have hdevice := g.leftLines_eq_device hleft hlen
      have hlens := g.map_length_leftLines
      obtain ⟨a, b, c, hls⟩ : ∃ a b c, ls = [a, b, c] := by
        rw [hleft, List.length_cons] at hlen
        exact List.length_eq_three.1 (Nat.succ.inj hlen)
      rw [hleft, hls] at hlens
      refine ⟨l.length, ?_, ?_⟩
      · rw [leftOfDevice, ← hlens]
        rfl
      · rw [wordAt, ← hdevice, hpart]
        rfl
    · -- another line is read: it has no second word
      exfalso
      rw [hleft] at hsuffix hlen htwo
      generalize hk : 8 - (l :: ls).length = k at hsuffix
      have hk4 : k ≠ 4 := by
        rintro rfl
        omega
      cases hdrop : g.lines.drop k with
      | nil =>
          rw [hdrop] at hsuffix
          cases hsuffix
      | cons x xs =>
          rw [hdrop] at hsuffix
          cases hsuffix with
          | cons hl _ =>
              have hget : g.lines[k]? = some x := by
                rw [← List.head?_drop, hdrop]
                rfl
              have hx : 32 ∉ x := by
                rw [hg] at hget
                exact plain_not_mem h n hk4 hget
              refine devicePart_of_not_mem (fun hmem => hx ?_) _ hpart
              have hsub : cstr (l.take 59) ⊆ x := fun b hb =>
                hl.subset (List.mem_of_mem_take ((List.takeWhile_subset _) hb))
              exact hsub hmem

end EfinixHeader

/-! ### The project line -/

namespace EfinixHeader

variable {h h' : EfinixHeader} {s t : TextLine}

lemma Alike.part (halike : h'.Alike h) : h'.part = h.part := by
  have hword := h'.device_part
  rw [halike.device, h.device_part] at hword
  exact (Option.some.inj hword).symm

lemma lengths_withProject (h : EfinixHeader) (t : TextLine) :
    (h.withProject t).lengths = [h.version.bytes.length, h.date.bytes.length, t.bytes.length,
      h.family.bytes.length, h.device.bytes.length, h.width.bytes.length, h.mode.bytes.length,
      h.padded.bytes.length] := rfl

lemma Alike.lengths_withProject (halike : h'.Alike h) (hlen : t.1.length = s.1.length) :
    (h'.withProject t).lengths = (h.withProject s).lengths := by
  have hlens := halike.lengths
  simp only [lines, List.map_cons, List.map_nil, List.cons.injEq, and_true] at hlens
  obtain ⟨h₁, h₂, -, h₄, h₅, h₆, h₇, h₈⟩ := hlens
  rw [EfinixHeader.lengths_withProject, EfinixHeader.lengths_withProject, h₁, h₂, h₄, h₅, h₆, h₇,
    h₈, length_bytes t, length_bytes s, hlen]

lemma Alike.findsPart_iff (halike : h'.Alike h) (hlen : t.1.length = s.1.length) :
    (h'.withProject t).FindsPart ↔ (h.withProject s).FindsPart := by
  rw [FindsPart, FindsPart, halike.lengths_withProject hlen]
  have hdevice : (h'.withProject t).device = (h.withProject s).device := halike.device
  have hpart : (h'.withProject t).part = (h.withProject s).part := halike.part
  rw [hdevice, hpart]

lemma Alike.unread_eq (halike : h'.Alike h) (hlen : t.1.length = s.1.length) :
    (h'.withProject t).unread = (h.withProject s).unread := by
  rw [unread, unread, halike.lengths_withProject hlen]

end EfinixHeader

/-- Where both runs find the part name, the places differ as the unread parts do. -/
lemma place_eq_iff {g₁ g₂ : EfinixHeader} (hfinds₁ : g₁.FindsPart) (hfinds₂ : g₂.FindsPart)
    {payload : List UInt8} {ret₁ ret₂ : ℤ} {part₁ part₂ : Option CStr} {fp₁ fp₂ : File}
    (h₁ : printBitfileHeader (.start (g₁.encode ++ payload) false) = .ok (ret₁, part₁, fp₁))
    (h₂ : printBitfileHeader (.start (g₂.encode ++ payload) false) = .ok (ret₂, part₂, fp₂)) :
    (fp₁.pos : ℤ) - g₁.encode.length = fp₂.pos - g₂.encode.length ↔ g₁.unread = g₂.unread := by
  have hpos₁ := g₁.pos_add_rest payload h₁
  have hpos₂ := g₂.pos_add_rest payload h₂
  rw [g₁.rest_of_leftLines payload (hfinds₁.devicePart payload).1, List.length_append] at hpos₁
  rw [g₂.rest_of_leftLines payload (hfinds₂.devicePart payload).1, List.length_append] at hpos₂
  omega

/-- **For a device line and lines of given lengths, the project line has no influence
exactly when for both of its lengths the part name is looked for in the device line and
found there, and the same number of header bytes is left unread.** -/
theorem projectIndependent_iff (h : EfinixHeader) (s₁ s₂ : TextLine) :
    (∀ h' t₁ t₂ payload, h'.Alike h → t₁.1.length = s₁.1.length → t₂.1.length = s₂.1.length →
      ProjectIndependent h' t₁ t₂ payload) ↔
      (h.withProject s₁).FindsPart ∧ (h.withProject s₂).FindsPart ∧
        (h.withProject s₁).unread = (h.withProject s₂).unread := by
  constructor
  · intro hall
    -- lines without blanks tell what the parser reads
    have hlen := fun s : TextLine => length_plainLine s.1.length
    obtain ⟨ret₁, ret₂, fp₁, fp₂, h₁, h₂, hplace⟩ := hall h.plain (plainLine s₁.1.length)
      (plainLine s₂.1.length) [] h.plain_alike (hlen s₁) (hlen s₂)
    obtain ⟨str₁, hpart₁⟩ := (EfinixHeader.printBitfileHeader_delivers_iff _ _).1 ⟨_, _, h₁⟩
    obtain ⟨str₂, hpart₂⟩ := (EfinixHeader.printBitfileHeader_delivers_iff _ _).1 ⟨_, _, h₂⟩
    have hfinds₁ := h.findsPart_of_plain rfl hpart₁
    have hfinds₂ := h.findsPart_of_plain rfl hpart₂
    rw [place_eq_iff hfinds₁ hfinds₂ h₁ h₂, h.plain_alike.unread_eq (hlen s₁),
      h.plain_alike.unread_eq (hlen s₂)] at hplace
    exact ⟨(h.plain_alike.findsPart_iff (hlen s₁)).1 hfinds₁,
      (h.plain_alike.findsPart_iff (hlen s₂)).1 hfinds₂, hplace⟩
  · rintro ⟨hfinds₁, hfinds₂, hunread⟩ h' t₁ t₂ payload halike hlen₁ hlen₂
    rw [← halike.findsPart_iff hlen₁] at hfinds₁
    rw [← halike.findsPart_iff hlen₂] at hfinds₂
    rw [← halike.unread_eq hlen₁, ← halike.unread_eq hlen₂] at hunread
    obtain ⟨ret₁, fp₁, h₁⟩ := (EfinixHeader.printBitfileHeader_delivers_iff _ payload).2
      (hfinds₁.devicePart payload).2
    obtain ⟨ret₂, fp₂, h₂⟩ := (EfinixHeader.printBitfileHeader_delivers_iff _ payload).2
      (hfinds₂.devicePart payload).2
    exact ⟨ret₁, ret₂, fp₁, fp₂, h₁, h₂, (place_eq_iff hfinds₁ hfinds₂ h₁ h₂).2 hunread⟩

/-! ### A short project line -/

/-- The header of a file for a T20F256. -/
def efinixHeaderTop : EfinixHeader where
  version := ⟨ascii "Version: 2022.1.226.2.11", by decide⟩
  version_start := by decide
  date := ⟨ascii "Generated: Mar 09 2023 22:15", by decide⟩
  project := ⟨ascii "Project: /tmp/7i96s", by decide⟩
  family := ⟨ascii "Family: Trion", by decide⟩
  device := ⟨ascii "Device: T20F256", by decide⟩
  part := ascii "T20F256"
  device_part := by decide
  width := ⟨ascii "Configuration width: 1", by decide⟩
  mode := ⟨ascii "Configuration mode: active", by decide⟩
  padded := ⟨ascii "Padded bits: 0", by decide⟩

/-- Behind a short project line the part name is taken from the line after the device
line. -/
theorem not_projectIndependent_short :
    ¬ ProjectIndependent efinixHeaderTop (plainLine 100) efinixHeaderTop.project [0, 0, 0, 0] := by
  rintro ⟨-, ret, -, fp, -, hrun, -⟩
  have hshort : ((printBitfileHeader (.start (efinixHeaderTop.encode ++ [0, 0, 0, 0]) false)).map
      fun r => r.2.1) = .ok (some (ascii "width")) := by decide
  have hsame : efinixHeaderTop.withProject efinixHeaderTop.project = efinixHeaderTop := rfl
  rw [hsame] at hrun
  rw [hrun] at hshort
  exact absurd (Option.some.inj (Except.ok.inj hshort)) (by decide)

end Mesaflash
