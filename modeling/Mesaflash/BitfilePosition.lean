import Mesaflash.BitfileHeader

/-!
Where the header parser leaves the stream.

The head comment of the parser says that it returns the length of the header.  In
the Xilinx branch it counts the bytes that `fread` delivers, so that count and
position agree on every file, and a header that a design tool wrote is decoded to
its fields with the stream at the payload.

In the Efinix branch the count starts with the 14 bytes that were read before the
stream was rewound, it leaves out what stands behind a NUL in a line, and at the
end of the file it counts the last line again.  `returned_eq_position_iff` says
when the three make up for each other.
-/

namespace Mesaflash

open Lib

/-! ### Headers as design tools write them -/

/-- A complete header with fields of at most 256 bytes and a part name that ends
within the array of the caller. -/
structure BitHeader extends XilinxHeader where
  lead_start : [0, 9] <+: lead
  design_le : design.1.length ≤ buffSize
  part_le : part.1.length ≤ partNameSize
  part_nul : 0 ∈ part.1
  date_le : date.1.length ≤ buffSize
  time_le : time.1.length ≤ buffSize

namespace BitHeader

variable (h : BitHeader)

/-- All fields fit. -/
lemma fits : h.Fits := by
  have hpart : h.part.1.length ≤ buffSize := h.part_le.trans (by decide)
  refine ⟨h.design_le, hpart, h.date_le, h.time_le, ?_⟩
  rw [List.take_append, List.take_of_length_le h.part_le, List.mem_append]
  exact .inl h.part_nul

end BitHeader

lemma XilinxHeader.length_encode (h : XilinxHeader) :
    h.encode.length = 14 + (2 + h.design.1.length) + (3 + h.part.1.length) +
      (3 + h.date.1.length) + (3 + h.time.1.length) + 5 := by
  have hb : (ascii "b").length = 1 := rfl
  have hc : (ascii "c").length = 1 := rfl
  have hd : (ascii "d").length = 1 := rfl
  have he : (ascii "e").length = 1 := rfl
  simp only [XilinxHeader.encode, encodeField, lengthBytes, List.length_append, h.lead_length,
    h.config_length, hb, hc, hd, he, List.length_nil, List.length_cons]
  omega

/-! ### The Xilinx branch -/

namespace HeaderState

/-- The state when `n` bytes of the file were read and counted. -/
structure At (file : List UInt8) (n : ℕ) (s : HeaderState) : Prop where
  fp : s.fp = ⟨file, n, false, false⟩
  ret : s.ret = n

variable {file : List UInt8} {n : ℕ} {s : HeaderState}

lemma At.stored (h : s.At file n) {k : ℕ} (hk : n + k ≤ file.length) :
    (s.stored k).At file (n + k) := by
  have hlen : (s.fp.rest.take k).length = k := by
    rw [h.fp, File.rest, List.length_take, List.length_drop]
    dsimp only
    omega
  refine ⟨?_, ?_⟩
  · rw [HeaderState.stored, fread, hlen, h.fp]
    simp [File.advance]
  · rw [HeaderState.stored, fread_fst]
    dsimp only
    rw [hlen, h.ret]

lemma At.field (h : s.At file n) {k : ℕ} (hk : n + k + s.view.fieldLen k ≤ file.length) :
    (s.field k).At file (n + k + s.view.fieldLen k) :=
  (h.stored (Nat.le_trans (Nat.le_add_right _ _) hk)).stored hk

/-- Count and position advance together. -/
lemma pos_stored (h : s.fp.pos = s.ret) (k : ℕ) : (s.stored k).fp.pos = (s.stored k).ret := by
  simp [HeaderState.stored, fread, File.advance, h]

lemma pos_field (h : s.fp.pos = s.ret) (hdr : ℕ) : (s.field hdr).fp.pos = (s.field hdr).ret :=
  pos_stored (pos_stored h hdr) _

lemma pos_xilinxEnd (h : s.fp.pos = s.ret) : s.xilinxEnd.fp.pos = s.xilinxEnd.ret :=
  pos_stored (pos_field (pos_field (pos_field (pos_field h 2) 3) 3) 3) 5

end HeaderState

lemma at_preambleState {file : List UInt8} (h : 14 ≤ file.length) :
    (preambleState file).At file 14 := by
  have hstart : HeaderState.At file 0 ⟨.start file false, [], 0⟩ := ⟨rfl, rfl⟩
  exact hstart.stored (k := 14) (by omega)

lemma pos_preambleState (file : List UInt8) :
    (preambleState file).fp.pos = (preambleState file).ret :=
  HeaderState.pos_stored rfl 14

/-- **A header is decoded to its length and its part name, and the stream is left at
the payload.** -/
theorem printBitfileHeader_encode (h : BitHeader) (payload : List UInt8) :
    printBitfileHeader (.start (h.encode ++ payload) false) =
      .ok (h.encode.length, some (cstr h.part),
        ⟨h.encode ++ payload, h.encode.length, false, false⟩) := by
  obtain ⟨file, hfile⟩ : ∃ file, h.encode ++ payload = file := ⟨_, rfl⟩
  have hlen : file.length = h.encode.length + payload.length := by
    rw [← hfile, List.length_append]
  rw [h.length_encode] at hlen
  have hlead : file.take 14 = h.lead := lead_of_encode hfile
  have hstart : file.getD 0 0 = 0 ∧ file.getD 1 0 = 9 := by
    obtain ⟨tail, htail⟩ := h.lead_start
    rw [← getD_take (show 0 < 14 by decide), ← getD_take (show 1 < 14 by decide), hlead, ← htail]
    exact ⟨rfl, rfl⟩
  have hmagic : Magic (preambleState file).buff := by
    rw [buff_preambleState, hlead]
    exact h.lead_magic
  obtain ⟨hin, hpart⟩ := (xilinxInBounds_of_encode hfile).2 h.fits
  obtain ⟨h₁, h₂, h₃, h₄, h₅⟩ := views_of_encode hfile (view_preambleState file)
  -- the five reads behind the preamble
  have s₀ : (preambleState file).At file 14 := at_preambleState (by omega)
  have s₁ := s₀.field (k := 2) (by rw [h₁]; omega)
  rw [h₁] at s₁
  have s₂ := s₁.field (k := 3) (by rw [HeaderState.view_field, h₂]; omega)
  rw [HeaderState.view_field, h₂] at s₂
  have s₃ := s₂.field (k := 3) (by simp only [HeaderState.view_field, h₄]; omega)
  simp only [HeaderState.view_field, h₄] at s₃
  have s₄ := s₃.field (k := 3) (by simp only [HeaderState.view_field, h₅]; omega)
  simp only [HeaderState.view_field, h₅] at s₄
  have s₅ := s₄.stored (k := 5) (by omega)
  have htotal : 14 + 2 + h.design.1.length + 3 + h.part.1.length + 3 + h.date.1.length + 3 +
      h.time.1.length + 5 = h.encode.length := by
    rw [h.length_encode]
    omega
  rw [htotal] at s₅
  have hname : ((preambleState file).field 2 |>.field 3).buff = overlay h.part h.underPart := by
    rw [← h₃, ← HeaderState.view_field, ← HeaderState.view_field]
    rfl
  rw [hfile, printBitfileHeader_xilinx (by omega) hstart, xilinxHeader_eq_ok hmagic,
    view_preambleState]
  refine ⟨hin, ?_⟩
  rw [hname, hpart, HeaderState.xilinxEnd, s₅.fp, s₅.ret]

/-! ### The Efinix branch -/

/-- The buffer sizes of the reads up to the device line, and of the reads behind it. -/
def deviceSizes : List ℕ := [20, 60, 60, 80, 80, 60, 60]
def tailSizes : List ℕ := [60, 60, 60]

/-- How many bytes stand behind a NUL of their line, when lines are read into buffers of
the given sizes. -/
def hiddenIn : List ℕ → List UInt8 → ℕ
  | [], _ => 0
  | size :: sizes, rest =>
    let line := takeLine (size - 1) rest
    line.length - (cstr line).length + hiddenIn sizes (rest.drop line.length)

/-- How many characters are counted again, because nothing is left to be read. -/
def recountedIn : List ℕ → LineView → ℕ
  | [], _ => 0
  | size :: sizes, v =>
    (if takeLine (size - 1) v.rest = [] then v.str.length else 0) + recountedIn sizes (v.next size)

/-- A line up to the end of its first word, where `strtok` puts a NUL. -/
def firstWord (str : CStr) : CStr :=
  str.takeWhile (· == 32) ++ (str.dropWhile (· == 32)).takeWhile (· != 32)

/-- The bytes of the header lines that the parser does not count. -/
def hiddenBytes (file : List UInt8) : ℕ := hiddenIn (deviceSizes ++ tailSizes) file

/-- The characters that the parser counts again at the end of the file. -/
def recountedBytes (file : List UInt8) : ℕ :=
  let v := deviceSizes.foldl LineView.next ⟨file, []⟩
  recountedIn deviceSizes ⟨file, []⟩ + recountedIn tailSizes ⟨v.rest, firstWord v.str⟩

/-- From `s` to `s'` lines were read into buffers of the given sizes. -/
structure LinesRead (sizes : List ℕ) (s s' : LineState) : Prop where
  view : s'.view = sizes.foldl LineView.next s.view
  sound : s'.fp.ioError = false
  place : s'.fp.pos + s'.fp.rest.length = s.fp.pos + s.fp.rest.length
  count : s'.ret + s.fp.pos + hiddenIn sizes s.fp.rest =
    s.ret + s'.fp.pos + recountedIn sizes s.view

lemma LinesRead.nil {s : LineState} (hio : s.fp.ioError = false) : LinesRead [] s s :=
  ⟨rfl, hio, rfl, rfl⟩

/-- A read takes a line and counts what stands before its first NUL. -/
lemma LinesRead.cons {size : ℕ} {sizes : List ℕ} {s t s' : LineState}
    (hio : s.fp.ioError = false) (ht : readLine size s = .ok t) (h : LinesRead sizes t s') :
    LinesRead (size :: sizes) s s' := by
  obtain ⟨t', ht', hview, -⟩ := readLine_ok hio size
  obtain rfl : t = t' := Except.ok.inj (ht.symm.trans ht')
  obtain ⟨line, hline⟩ : ∃ line, takeLine (size - 1) s.fp.rest = line := ⟨_, rfl⟩
  have hrun : t = ⟨(fgets size s.str s.fp).2, (fgets size s.str s.fp).1,
      s.ret + (fgets size s.str s.fp).1.length⟩ := by
    rw [readLine, if_neg (by simp [hio])] at ht
    exact (Except.ok.inj ht).symm
  have hpos : t.fp.pos = s.fp.pos + line.length := by
    rw [hrun, ← hline]
    rfl
  have hret : t.ret = s.ret + (s.view.next size).str.length := by
    rw [← hview, hrun]
    rfl
  have hrest : t.fp.rest = s.fp.rest.drop line.length := by
    rw [← hline]
    exact congrArg LineView.rest hview
  have hstr : (s.view.next size).str = if line = [] then s.str else cstr line := by
    rw [← hline]
    rfl
  have hhidden : hiddenIn (size :: sizes) s.fp.rest =
      line.length - (cstr line).length + hiddenIn sizes (s.fp.rest.drop line.length) := by
    rw [← hline]
    rfl
  have hagain : recountedIn (size :: sizes) s.view =
      (if line = [] then s.str.length else 0) + recountedIn sizes (s.view.next size) := by
    rw [← hline]
    rfl
  have hline_le : line.length ≤ s.fp.rest.length := by
    rw [← hline]
    exact (takeLine_isInitial _ _).length_le
  have hcount := h.count
  have hle := length_cstr_le line
  refine ⟨by rw [h.view, hview, List.foldl_cons], h.sound, ?_, ?_⟩
  · rw [h.place, hpos, hrest, List.length_drop]
    omega
  rw [hview, hrest, hpos, hret, hstr] at hcount
  rw [hhidden, hagain]
  split at hcount
  · next hnil =>
    rw [if_pos hnil]
    simp only [hnil, List.length_nil] at hcount hle ⊢
    omega
  · next hnil =>
    rw [if_neg hnil]
    omega

lemma hiddenIn_append (l l' : List ℕ) (v : LineView) :
    hiddenIn (l ++ l') v.rest = hiddenIn l v.rest + hiddenIn l' (l.foldl LineView.next v).rest := by
  induction l generalizing v with
  | nil => exact (Nat.zero_add _).symm
  | cons size l ih =>
      rw [List.cons_append, hiddenIn, hiddenIn, List.foldl_cons, Nat.add_assoc]
      exact congrArg _ (ih (v.next size))

lemma devicePart_snd {str : CStr} {r : CStr × CStr} (h : devicePart str = .ok r) :
    r.2 = firstWord str := by
  unfold devicePart at h
  split at h
  · cases h
  · next first more hfirst =>
    split at h
    · cases h
    · split at h
      · cases h
      · split at h
        · cases h
        · obtain rfl := Except.ok.inj h
          rw [strtok] at hfirst
          split at hfirst
          · cases hfirst
          · next hword =>
            obtain ⟨rfl, -⟩ := Prod.mk.inj (Option.some.inj hfirst)
            rw [firstWord]

/-- What the Efinix branch reads and delivers, from the read of the version line on. -/
lemma efinixHeader_lines {s t : LineState} (hio : s.fp.ioError = false)
    (ht : readLine 20 s = .ok t) {r : ℤ × Option CStr × File} (h : efinixHeader t = .ok r) :
    ∃ u p v, LinesRead deviceSizes s u ∧ devicePart u.str = .ok p ∧
      LinesRead tailSizes { u with str := p.2 } v ∧ r = ((v.ret : ℤ), some p.1, v.fp) := by
  simp only [efinixHeader, bind_eq_ok] at h
  obtain ⟨s₁, h₁, s₂, h₂, s₃, h₃, s₄, h₄, s₅, h₅, s₆, h₆, p, hp, s₇, h₇, s₈, h₈, s₉, h₉, hr⟩ := h
  have sound : ∀ {size : ℕ} {u u' : LineState}, readLine size u = .ok u' →
      u.fp.ioError = false → u'.fp.ioError = false := fun hu hu' =>
    (readLine_reads hu).ioError.trans hu'
  have i₀ := sound ht hio
  have i₁ := sound h₁ i₀
  have i₂ := sound h₂ i₁
  have i₃ := sound h₃ i₂
  have i₄ := sound h₄ i₃
  have i₅ := sound h₅ i₄
  have i₆ := sound h₆ i₅
  have i₇ := sound h₇ i₆
  have i₈ := sound h₈ i₇
  have i₉ := sound h₉ i₈
  exact ⟨s₆, p, s₉,
    .cons hio ht <| .cons i₀ h₁ <| .cons i₁ h₂ <| .cons i₂ h₃ <| .cons i₃ h₄ <| .cons i₄ h₅ <|
      .cons i₅ h₆ <| .nil i₆,
    hp, .cons i₆ h₇ <| .cons i₇ h₈ <| .cons i₈ h₉ <| .nil i₉, (Except.ok.inj hr).symm⟩

/-- What the Efinix branch counts. -/
lemma efinixHeader_count {s t : LineState} (hio : s.fp.ioError = false)
    (ht : readLine 20 s = .ok t) {r : ℤ × Option CStr × File} (h : efinixHeader t = .ok r) :
    let v := deviceSizes.foldl LineView.next s.view
    ∃ ret : ℕ, r.1 = ret ∧
      ret + s.fp.pos + hiddenIn (deviceSizes ++ tailSizes) s.fp.rest =
        s.ret + r.2.2.pos +
          (recountedIn deviceSizes s.view + recountedIn tailSizes ⟨v.rest, firstWord v.str⟩) := by
  obtain ⟨u, p, v, hdevice, hp, htail, rfl⟩ := efinixHeader_lines hio ht h
  have hview : ({ u with str := p.2 } : LineState).view =
      ⟨(deviceSizes.foldl LineView.next s.view).rest,
        firstWord (deviceSizes.foldl LineView.next s.view).str⟩ := by
    rw [devicePart_snd hp, ← hdevice.view]
    rfl
  have hrest : u.fp.rest = (deviceSizes.foldl LineView.next s.view).rest := by
    rw [← hdevice.view]
    rfl
  have hcount := hdevice.count
  have hcount' := htail.count
  rw [hview] at hcount'
  dsimp only at hcount'
  rw [hrest] at hcount'
  have happend := hiddenIn_append deviceSizes tailSizes s.view
  have hv : s.view.rest = s.fp.rest := rfl
  rw [hv] at happend
  refine ⟨v.ret, rfl, ?_⟩
  rw [happend]
  dsimp only
  omega

lemma view_versionState (file : List UInt8) : (versionState file).view = ⟨file, []⟩ := rfl

/-- A file that is accepted and does not start with `00 09` has gone through the Efinix
branch. -/
lemma printBitfileHeader_efinix {file : List UInt8} {ret : ℤ} {part : Option CStr} {fp : File}
    (hx : ¬ (file.getD 0 0 = 0 ∧ file.getD 1 0 = 9))
    (h : printBitfileHeader (.start file false) = .ok (ret, part, fp)) (hret : ret ≠ -1) :
    ∃ t, readLine 20 (versionState file) = .ok t ∧ efinixHeader t = .ok (ret, part, fp) := by
  obtain ⟨t, ht, -, -, hrun⟩ := printBitfileHeader_other (length_of_header h hret) hx
  rw [hrun] at h
  split at h
  · exact ⟨t, ht, h⟩
  · exact absurd (Prod.mk.inj (Except.ok.inj h)).1.symm hret

/-- **The parser returns the position of the stream exactly for Xilinx files, and for
Efinix files of which it leaves 14 bytes more uncounted than it counts twice.** -/
theorem returned_eq_position_iff {file : List UInt8} {ret : ℤ} {part : Option CStr} {fp : File}
    (h : printBitfileHeader (.start file false) = .ok (ret, part, fp)) (hret : 0 ≤ ret) :
    ret = fp.pos ↔ [0, 9] <+: file ∨ hiddenBytes file = 14 + recountedBytes file := by
  have hlen : 14 ≤ file.length := length_of_header h (by omega)
  have hstart : [0, 9] <+: file ↔ file.getD 0 0 = 0 ∧ file.getD 1 0 = 9 := by
    constructor
    · rintro ⟨tail, rfl⟩
      exact ⟨rfl, rfl⟩
    · rcases file with _ | ⟨a, _ | ⟨b, file⟩⟩
      · simp at hlen
      · simp at hlen
      · rintro ⟨rfl, rfl⟩
        exact ⟨file, rfl⟩
  by_cases hx : file.getD 0 0 = 0 ∧ file.getD 1 0 = 9
  · refine iff_of_true ?_ (.inl (hstart.2 hx))
    rw [printBitfileHeader_xilinx hlen hx] at h
    have hpre := pos_preambleState file
    by_cases hmagic : Magic (preambleState file).buff
    · obtain ⟨-, heq⟩ := (xilinxHeader_eq_ok hmagic).1 h
      obtain ⟨rfl, -, rfl⟩ : _ ∧ _ ∧ _ := by simpa only [Prod.mk.injEq] using heq
      rw [HeaderState.pos_xilinxEnd hpre]
    · have hskip : xilinxHeader (preambleState file) =
          .ok ((preambleState file).ret, none, (preambleState file).fp) := if_neg hmagic
      rw [hskip] at h
      obtain ⟨rfl, -, rfl⟩ : _ ∧ _ ∧ _ := by simpa only [Except.ok.injEq, Prod.mk.injEq] using h
      rw [hpre]
  · rw [or_iff_right (fun h => hx (hstart.1 h))]
    obtain ⟨t, ht, hrun⟩ := printBitfileHeader_efinix hx h (by omega)
    obtain ⟨n, hn, hcount⟩ := efinixHeader_count rfl ht hrun
    have hpos : (versionState file).fp.pos = 0 := rfl
    have hrest : (versionState file).fp.rest = file := rfl
    have hret : (versionState file).ret = 14 := rfl
    rw [view_versionState, hpos, hrest, hret] at hcount
    dsimp only at hn hcount
    rw [hn, hiddenBytes, recountedBytes, Int.natCast_inj]
    omega

/-- A header of 238 bytes for a T20F256. -/
def efinixTop : List UInt8 := (List.map (fun s => ascii s ++ [10]) [
  "Version: 2022.1.226.2.11",
  "Generated: Mar 09 2023 22:15",
  "Project: /home/user/hostmot2/firmware/efinix/boards/7i96s/configurations/7i96s_d/7i96s_d",
  "Family: Trion",
  "Device: T20F256",
  "Configuration width: 1",
  "Configuration mode: active",
  "Padded bits: 0"]).flatten

lemma printBitfileHeader_efinixTop :
    printBitfileHeader (.start (efinixTop ++ [0, 0, 0, 0]) false) =
      .ok (252, some (ascii "T20F256"), ⟨efinixTop ++ [0, 0, 0, 0], 238, false, false⟩) := by
  decide +kernel

theorem returned_eq_position_iff_efinixTop :
    (252 : ℤ) = (238 : ℕ) ↔ [0, 9] <+: efinixTop ++ [0, 0, 0, 0] ∨
      hiddenBytes (efinixTop ++ [0, 0, 0, 0]) = 14 + recountedBytes (efinixTop ++ [0, 0, 0, 0]) :=
  returned_eq_position_iff printBitfileHeader_efinixTop (by decide)

/-- Behind the header of an Efinix file the parser has counted 14 bytes too many. -/
theorem returned_ne_position :
    ∃ ret part fp, printBitfileHeader (.start (efinixTop ++ [0, 0, 0, 0]) false) =
      .ok (ret, part, fp) ∧ 0 ≤ ret ∧ ret ≠ fp.pos :=
  ⟨_, _, _, printBitfileHeader_efinixTop, by decide, by decide⟩

end Mesaflash
