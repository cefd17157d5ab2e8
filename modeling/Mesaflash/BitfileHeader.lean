import Mesaflash.BitfileBounds

/-!
What the header parser accepts as a Xilinx file.

A `.bit` file starts with a preamble, four fields of at most 65535 bytes, each
behind its length and all but the first behind a key, and the length of the
configuration data.  `XilinxHeader` is such a header and `encode` its bytes.

The parser returns the number of bytes that it read and says in its head comment
that this is -1 for an error, but it counts and never compares: a field that the
end of the file cuts off, or that has another key, is passed like any other, and
a file without the preamble is accepted as a header of 14 bytes.
`headerSound_iff` states on which files nothing of this happens.
-/

namespace Mesaflash

open Lib

/-! ### Headers -/

/-- The contents of a field, whose length takes 16 bits. -/
abbrev FieldBytes : Type := {l : List UInt8 // l.length < 2 ^ 16}

/-- A 16-bit length, most significant byte first. -/
def lengthBytes (n : ℕ) : List UInt8 := [(n / 256).toUInt8, (n % 256).toUInt8]

/-- The bytes of a field behind the given key. -/
def encodeField (key : List UInt8) (l : List UInt8) : List UInt8 := key ++ lengthBytes l.length ++ l

/-- A complete header. -/
structure XilinxHeader where
  /-- The preamble. -/
  lead : List UInt8
  lead_length : lead.length = 14
  lead_magic : Magic lead
  design : FieldBytes
  part : FieldBytes
  date : FieldBytes
  time : FieldBytes
  /-- The length of the configuration data. -/
  config : List UInt8
  config_length : config.length = 4

namespace XilinxHeader

/-- The bytes of a header. -/
def encode (h : XilinxHeader) : List UInt8 :=
  h.lead ++ (encodeField [] h.design ++ (encodeField (ascii "b") h.part ++
    (encodeField (ascii "c") h.date ++ (encodeField (ascii "d") h.time ++
      (ascii "e" ++ h.config)))))

/-- The bytes in `buff` when the part name is read into it. -/
def underPart (h : XilinxHeader) : List UInt8 :=
  overlay (ascii "b" ++ lengthBytes h.part.1.length)
    (overlay h.design (overlay (lengthBytes h.design.1.length) h.lead))

/-- Every field fits the array, and a NUL ends the part name: within the field or
directly behind it, and within the caller's array. -/
def Fits (h : XilinxHeader) : Prop :=
  h.design.1.length ≤ buffSize ∧ h.part.1.length ≤ buffSize ∧ h.date.1.length ≤ buffSize ∧
  h.time.1.length ≤ buffSize ∧
  0 ∈ (h.part ++ (h.underPart.drop h.part.1.length).take 1).take partNameSize

end XilinxHeader

/-! ### Reading an encoded field -/

lemma be16_lengthBytes {n : ℕ} (hn : n < 2 ^ 16) (key tail : List UInt8) :
    be16 (key ++ lengthBytes n ++ tail) key.length = n := by
  have h0 : (key ++ lengthBytes n ++ tail).getD key.length 0 = (n / 256).toUInt8 := by
    simp [lengthBytes]
  have h1 : (key ++ lengthBytes n ++ tail).getD (key.length + 1) 0 = (n % 256).toUInt8 := by
    simp [lengthBytes]
  rw [be16, h0, h1]
  simp only [Nat.toUInt8_eq, UInt8.toNat_ofNat']
  omega

lemma View.read_append {bytes tail buff : List UInt8} :
    View.read bytes.length ⟨bytes ++ tail, buff⟩ = ⟨tail, overlay bytes buff⟩ := by
  simp [View.read]

lemma View.read_key {key : List UInt8} {n : ℕ} {tail buff : List UInt8} :
    View.read (key.length + 2) ⟨key ++ lengthBytes n ++ tail, buff⟩ =
      ⟨tail, overlay (key ++ lengthBytes n) buff⟩ := by
  have hlen : key.length + 2 = (key ++ lengthBytes n).length := by simp [lengthBytes]
  rw [hlen, View.read_append]

/-- The parser takes the length of a field as it is encoded. -/
lemma View.fieldLen_encodeField (key : List UInt8) (l : FieldBytes) (tail buff : List UInt8) :
    View.fieldLen (key.length + 2) ⟨encodeField key l ++ tail, buff⟩ = l.1.length := by
  rw [View.fieldLen, encodeField, List.append_assoc, View.read_key, Nat.add_sub_cancel]
  exact be16_lengthBytes l.2 key _

lemma View.field_encodeField (key : List UInt8) (l : FieldBytes) (tail buff : List UInt8) :
    View.field (key.length + 2) ⟨encodeField key l ++ tail, buff⟩ =
      ⟨tail, overlay l (overlay (key ++ lengthBytes l.1.length) buff)⟩ := by
  rw [View.field, View.fieldLen_encodeField, encodeField, List.append_assoc, View.read_key,
    View.read_append]

/-! ### The part name -/

/-- A string ends within its field, or the byte behind the field is the NUL. -/
lemma part_terminated_iff {part behind : List UInt8} {n : ℕ} :
    0 ∈ (part ++ behind).take n ∧ cstr (part ++ behind) = cstr part ↔
      0 ∈ (part ++ behind.take 1).take n := by
  simp only [zero_mem_take_iff]
  by_cases hp : 0 ∈ part
  · simp [cstr_append_of_mem hp, hp]
  · have hpart : cstr part = part := by simpa [cstr] using cstr_of_not_mem hp []
    rw [cstr_of_not_mem hp, cstr_of_not_mem hp, hpart]
    cases behind with
    | nil => simp [hp]
    | cons b behind =>
        by_cases hb : b = 0
        · simp [hb, cstr]
        · simp [hp, hb, cstr, Ne.symm hb]

/-! ### Files with a complete header -/

section Complete

variable {file tail : List UInt8} {h : XilinxHeader}

lemma lead_of_encode (hfile : h.encode ++ tail = file) : file.take 14 = h.lead := by
  rw [← hfile, XilinxHeader.encode, List.append_assoc, List.take_left' h.lead_length]

/-- A complete header carries the preamble. -/
lemma magic_of_encode (hfile : h.encode ++ tail = file) : Magic file := by
  rw [← magic_take, lead_of_encode hfile]
  exact h.lead_magic

/-- The part of a file behind the preamble of a complete header. -/
lemma drop_of_encode (hfile : h.encode ++ tail = file) :
    file.drop 14 = encodeField [] h.design ++ (encodeField (ascii "b") h.part ++
      (encodeField (ascii "c") h.date ++ (encodeField (ascii "d") h.time ++
        (ascii "e" ++ (h.config ++ tail))))) := by
  rw [← hfile, XilinxHeader.encode, List.append_assoc, List.drop_left' h.lead_length]
  simp only [List.append_assoc]

/-- The views of the parser on its way through a complete header. -/
lemma views_of_encode (hfile : h.encode ++ tail = file) {v : View}
    (hv : v = ⟨file.drop 14, file.take 14⟩) :
    v.fieldLen 2 = h.design.1.length ∧
    (v.field 2).fieldLen 3 = h.part.1.length ∧
    ((v.field 2).field 3).buff = overlay h.part h.underPart ∧
    ((v.field 2).field 3).fieldLen 3 = h.date.1.length ∧
    (((v.field 2).field 3).field 3).fieldLen 3 = h.time.1.length := by
  rw [drop_of_encode hfile, lead_of_encode hfile] at hv
  have hdesign := View.field_encodeField [] h.design
  have hdesign' := View.fieldLen_encodeField [] h.design
  have hfield := fun c : UInt8 => View.field_encodeField [c]
  have hfield' := fun c : UInt8 => View.fieldLen_encodeField [c]
  simp only [List.length_nil, List.length_singleton, Nat.zero_add, Nat.reduceAdd,
    List.nil_append] at hdesign hdesign' hfield hfield'
  have hb : ascii "b" = [98] := rfl
  have hc : ascii "c" = [99] := rfl
  have hd : ascii "d" = [100] := rfl
  rw [hv, hb, hc, hd]
  simp only [hdesign, hdesign', hfield, hfield', XilinxHeader.underPart, hb, and_self]

/-- In a complete header the parser stays in bounds and delivers the part field
exactly when the fields fit. -/
lemma xilinxInBounds_of_encode (hfile : h.encode ++ tail = file) :
    XilinxInBounds ⟨file.drop 14, file.take 14⟩ ∧
        cstr (overlay h.part h.underPart) = cstr h.part ↔ h.Fits := by
  obtain ⟨h₁, h₂, h₃, h₄, h₅⟩ := views_of_encode hfile rfl
  rw [XilinxInBounds, h₁, h₂, h₃, h₄, h₅, XilinxHeader.Fits, ← part_terminated_iff, overlay]
  constructor
  · rintro ⟨⟨hdesign, hpart, hmem, hdate, htime⟩, hcstr⟩
    exact ⟨hdesign, hpart, hdate, htime, hmem, hcstr⟩
  · rintro ⟨hdesign, hpart, hdate, htime, hmem, hcstr⟩
    exact ⟨⟨hdesign, hpart, hmem, hdate, htime⟩, hcstr⟩

end Complete

/-! ### Soundness -/

/-- The parser returns; it returns a length only for a complete header, whose part
field it then delivers; and it rejects everything else with -1. -/
def HeaderSound (file : List UInt8) : Prop :=
  ∃ ret part fp, printBitfileHeader (.start file false) = .ok (ret, part, fp) ∧
    (0 ≤ ret → ∃ h : XilinxHeader, h.encode <+: file ∧ part = some (cstr h.part)) ∧
    ((¬ ∃ h : XilinxHeader, h.encode <+: file) → ret = -1)

/-- **Among the files that start with `00 09` the parser is sound on those that end
within the preamble, and on those that start with a complete header whose
fields fit.** -/
theorem headerSound_iff {file : List UInt8} (hfile : [0, 9] <+: file) :
    HeaderSound file ↔ file.length < 14 ∨ ∃ h : XilinxHeader, h.encode <+: file ∧ h.Fits := by
  have hx : file.getD 0 0 = 0 ∧ file.getD 1 0 = 9 := by
    obtain ⟨tail, rfl⟩ := hfile
    exact ⟨rfl, rfl⟩
  rcases Nat.lt_or_ge file.length 14 with hlt | hlen
  · obtain ⟨fp, hfp⟩ := printBitfileHeader_short hlt
    exact iff_of_true ⟨-1, none, fp, hfp, fun h => absurd h (by decide), fun _ => rfl⟩ (.inl hlt)
  · rw [or_iff_right (Nat.not_lt.2 hlen), HeaderSound, printBitfileHeader_xilinx hlen hx]
    have hm : Magic (preambleState file).buff ↔ Magic file := by
      rw [buff_preambleState, magic_take]
    by_cases hmagic : Magic file
    · constructor
      · rintro ⟨ret, part, fp, hrun, hsound, -⟩
        rw [xilinxHeader_eq_ok (hm.2 hmagic), view_preambleState] at hrun
        obtain ⟨hin, heq⟩ := hrun
        obtain ⟨rfl, rfl, rfl⟩ : _ ∧ _ ∧ _ := by simpa only [Prod.mk.injEq] using heq
        obtain ⟨h, ⟨tail, ht⟩, hpart⟩ := hsound (Int.natCast_nonneg _)
        -- the part field that was delivered is the one of the header
        refine ⟨h, ⟨tail, ht⟩, (xilinxInBounds_of_encode ht).1 ⟨hin, ?_⟩⟩
        rw [← (views_of_encode ht rfl).2.2.1, ← Option.some.inj hpart, ← view_preambleState,
          ← HeaderState.view_field, ← HeaderState.view_field]
        rfl
      · rintro ⟨h, ⟨tail, ht⟩, hfits⟩
        obtain ⟨hin, hpart⟩ := (xilinxInBounds_of_encode ht).2 hfits
        refine ⟨_, _, _, (xilinxHeader_eq_ok (hm.2 hmagic)).2
          ⟨by rw [view_preambleState]; exact hin, rfl⟩, fun _ => ⟨h, ⟨tail, ht⟩, ?_⟩,
          fun hno => absurd ⟨h, ⟨tail, ht⟩⟩ hno⟩
        rw [← hpart, ← (views_of_encode ht rfl).2.2.1, ← view_preambleState,
          ← HeaderState.view_field, ← HeaderState.view_field]
        rfl
    · -- no preamble: accepted all the same, with an unset part name
      have hskip : ¬ Magic (preambleState file).buff := fun h => hmagic (hm.1 h)
      have hrun : xilinxHeader (preambleState file) =
          .ok ((preambleState file).ret, none, (preambleState file).fp) := if_neg hskip
      refine iff_of_false ?_ ?_
      · rintro ⟨ret, part, fp, h, hsound, -⟩
        rw [hrun] at h
        obtain ⟨rfl, rfl, rfl⟩ : _ ∧ _ ∧ _ := by
          simpa only [Except.ok.injEq, Prod.mk.injEq] using h
        obtain ⟨h, -, hpart⟩ := hsound (Int.natCast_nonneg _)
        exact Option.some_ne_none _ hpart.symm
      · rintro ⟨h, ⟨tail, ht⟩, -⟩
        exact hmagic (magic_of_encode ht)

/-- The header of a file for the part of a 3X20-1.0. -/
def headerTop : XilinxHeader where
  lead := [0, 9, 0x0f, 0xf0, 0x0f, 0xf0, 0x0f, 0xf0, 0x0f, 0xf0, 0, 0, 1, 0x61]
  lead_length := rfl
  lead_magic := ⟨rfl, rfl, rfl⟩
  design := ⟨ascii "top" ++ [0], by decide⟩
  part := ⟨ascii "3s1000fg456" ++ [0], by decide⟩
  date := ⟨ascii "2024/01/01" ++ [0], by decide⟩
  time := ⟨ascii "00:00:00" ++ [0], by decide⟩
  config := [0, 0, 0, 0]
  config_length := rfl

theorem headerSound_headerTop : HeaderSound headerTop.encode :=
  (headerSound_iff (by decide)).2 (.inr ⟨headerTop, List.prefix_rfl, by
    unfold XilinxHeader.Fits; decide⟩)

/-- Fourteen bytes that do not end in `00 01 61` are accepted as a header. -/
theorem not_headerSound_zeros : ¬ HeaderSound ([0, 9] ++ List.replicate 12 0) := by
  rintro ⟨ret, part, fp, hrun, hsound, -⟩
  have h : printBitfileHeader (.start ([0, 9] ++ List.replicate 12 0) false) =
      .ok (14, none, ⟨[0, 9] ++ List.replicate 12 0, 14, false, false⟩) := by decide
  rw [h] at hrun
  obtain ⟨rfl, rfl, -⟩ : 14 = ret ∧ none = part ∧ _ := by
    simpa only [Except.ok.injEq, Prod.mk.injEq] using hrun
  obtain ⟨header, -, hpart⟩ := hsound (by decide)
  exact Option.some_ne_none _ hpart.symm

end Mesaflash
