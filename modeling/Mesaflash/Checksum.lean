import Mesaflash.Backup

/-!
The texts that are accepted as the checksum of a file.

`sha256_verify` reads the 64 characters of a digest pair by pair with `sscanf`, which skips
white space and takes signs and single digits.  So there are texts that are accepted without
being 64 digits, and texts behind which it reads on.  `Slips` says which.
-/

namespace Mesaflash

open Lib

/-! ### Strict texts -/

/-- The text spells the bytes, two hexadecimal digits for each. -/
inductive HexSpells : List UInt8 → List UInt8 → Prop
  | nil : HexSpells [] []
  | cons {c d v w : UInt8} {text bytes : List UInt8} (hc : hexDigit c = some v)
      (hd : hexDigit d = some w) (h : HexSpells text bytes) :
      HexSpells (c :: d :: text) ((16 * v + w) :: bytes)

lemma HexSpells.length {text bytes : List UInt8} (h : HexSpells text bytes) :
    text.length = 2 * bytes.length := by
  induction h with
  | nil => rfl
  | cons _ _ _ ih =>
      simp only [List.length_cons, ih]
      omega

/-- A strict text consists of digits. -/
lemma HexSpells.forall_isSome {text bytes : List UInt8} (h : HexSpells text bytes) :
    ∀ c ∈ text, (hexDigit c).isSome := by
  induction h with
  | nil => exact fun c hc => absurd hc List.not_mem_nil
  | cons hc hd _ ih =>
      refine List.forall_mem_cons.2 ⟨?_, List.forall_mem_cons.2 ⟨?_, ih⟩⟩
      · rw [hc]
        rfl
      · rw [hd]
        rfl

/-- A digest that was printed is a strict text. -/
lemma hexSpells_hexBytes (digest : List UInt8) :
    HexSpells (digest.map hexByte).flatten digest := by
  induction digest with
  | nil => exact .nil
  | cons b digest ih =>
      have hb : b.toNat < 256 := b.toNat_lt
      obtain ⟨-, -, -, hhigh⟩ := hexDigit_digit (b.toNat / 16) (by omega)
      obtain ⟨-, -, -, hlow⟩ := hexDigit_digit (b.toNat % 16) (by omega)
      have hbyte : 16 * (b.toNat / 16).toUInt8 + (b.toNat % 16).toUInt8 = b := by
        apply UInt8.toNat_inj.1
        simp
        omega
      have hcons := HexSpells.cons hhigh hlow ih
      rwa [hbyte] at hcons

/-! ### Pairs -/

/-- A digit is no white space and no sign. -/
lemma hexDigit_eq_some {c v : UInt8} (h : hexDigit c = some v) :
    isSpace c = false ∧ c ≠ 43 ∧ c ≠ 45 := by
  refine ⟨?_, ?_, ?_⟩
  · by_contra hspace
    have hle : c.toNat ≤ 32 := by
      simp only [isSpace, Bool.not_eq_false, Bool.or_eq_true, beq_iff_eq, Bool.and_eq_true,
        decide_eq_true_eq] at hspace
      rcases hspace with rfl | ⟨-, hle⟩
      · exact le_rfl
      · exact (UInt8.le_iff_toNat_le.1 hle).trans (by decide)
    have hlt : ∀ a : UInt8, 32 < a.toNat → ¬ a ≤ c := fun a ha hac =>
      Nat.not_le.mpr ha ((UInt8.le_iff_toNat_le.1 hac).trans hle)
    simp only [hexDigit, hlt 48 (by decide), hlt 97 (by decide), hlt 65 (by decide), false_and,
      if_false] at h
    exact nomatch h
  · rintro rfl
    exact nomatch h
  · rintro rfl
    exact nomatch h

/-- The texts from which a byte is scanned: after white space, two digits, one digit, or a
sign and a digit. -/
inductive Scans : List UInt8 → UInt8 → Prop
  | space {c b : UInt8} {text : List UInt8} (hc : isSpace c = true) (h : Scans text b) :
      Scans (c :: text) b
  | pair {c d v w : UInt8} {text : List UInt8} (hc : hexDigit c = some v)
      (hd : hexDigit d = some w) : Scans (c :: d :: text) (16 * v + w)
  | single {c d v : UInt8} {text : List UInt8} (hc : hexDigit c = some v)
      (hd : hexDigit d = none) : Scans (c :: d :: text) v
  | plus {d v : UInt8} {text : List UInt8} (hd : hexDigit d = some v) : Scans (43 :: d :: text) v
  | minus {d v : UInt8} {text : List UInt8} (hd : hexDigit d = some v) :
      Scans (45 :: d :: text) (-v)

/-- The texts behind which it is read on: white space, and a last sign or digit. -/
inductive RunsOff : List UInt8 → Prop
  | nil : RunsOff []
  | space {c : UInt8} {text : List UInt8} (hc : isSpace c = true) (h : RunsOff text) :
      RunsOff (c :: text)
  | number {c : UInt8} (hc : (hexDigit c).isSome ∨ c = 43 ∨ c = 45) : RunsOff [c]

section Pair

variable {c d v w b : UInt8} {text : List UInt8}

lemma scanHexByte_space (hc : isSpace c = true) :
    scanHexByte (c :: text) = scanHexByte text := by
  rw [scanHexByte, List.dropWhile_cons_of_pos hc, scanHexByte]

lemma scanHexByte_sign (hc : c = 43 ∨ c = 45) : scanHexByte (c :: d :: text) =
    .ok ((hexDigit d).map fun v => if c = 45 then -v else v) := by
  rcases hc with rfl | rfl
  · rfl
  · rfl

lemma scanHexByte_digit (hc : hexDigit c = some v) : scanHexByte (c :: d :: text) =
    .ok (some (match hexDigit d with | none => v | some w => 16 * v + w)) := by
  obtain ⟨hspace, hplus, hminus⟩ := hexDigit_eq_some hc
  rw [scanHexByte, List.dropWhile_cons_of_neg (by simp [hspace])]
  simp only [hplus, hminus, or_self, if_false, hc]
  cases hexDigit d with
  | none => rfl
  | some w => rfl

/-- Behind a last sign or digit it is read on. -/
lemma scanHexByte_last (hc : (hexDigit c).isSome ∨ c = 43 ∨ c = 45) :
    scanHexByte [c] = .error (.undefined .indeterminate) := by
  rcases hc with hdigit | rfl | rfl
  · obtain ⟨v, hv⟩ := Option.isSome_iff_exists.1 hdigit
    obtain ⟨hspace, hplus, hminus⟩ := hexDigit_eq_some hv
    rw [scanHexByte, List.dropWhile_cons_of_neg (by simp [hspace])]
    simp only [hplus, hminus, or_self, if_false, hv]
  · rfl
  · rfl

lemma Scans.scan (h : Scans text b) : scanHexByte text = .ok (some b) := by
  induction h with
  | space hc _ ih => exact (scanHexByte_space hc).trans ih
  | pair hc hd => rw [scanHexByte_digit hc, hd]
  | single hc hd => rw [scanHexByte_digit hc, hd]
  | plus hd => rw [scanHexByte_sign (.inl rfl), hd]; rfl
  | minus hd => rw [scanHexByte_sign (.inr rfl), hd]; rfl

lemma RunsOff.scan (h : RunsOff text) :
    scanHexByte text = .error (.undefined .indeterminate) := by
  induction h with
  | nil => rfl
  | space hc _ ih => exact (scanHexByte_space hc).trans ih
  | number hc => exact scanHexByte_last hc

/-- A byte is scanned, or it is read on, or the text is rejected. -/
lemma scanHexByte_cases (text : List UInt8) :
    (∃ b, Scans text b) ∨ RunsOff text ∨ scanHexByte text = .ok none := by
  induction text with
  | nil => exact .inr (.inl .nil)
  | cons c text ih =>
      by_cases hspace : isSpace c = true
      · rw [scanHexByte_space hspace]
        rcases ih with ⟨b, hb⟩ | hoff | hnone
        · exact .inl ⟨b, hb.space hspace⟩
        · exact .inr (.inl (hoff.space hspace))
        · exact .inr (.inr hnone)
      · by_cases hsign : c = 43 ∨ c = 45
        · rcases text with _ | ⟨d, text⟩
          · exact .inr (.inl (.number (.inr hsign)))
          · rcases hd : hexDigit d with _ | v
            · rw [scanHexByte_sign hsign, hd]
              exact .inr (.inr rfl)
            · rcases hsign with rfl | rfl
              · exact .inl ⟨v, .plus hd⟩
              · exact .inl ⟨-v, .minus hd⟩
        · rcases hc : hexDigit c with _ | v
          · rw [scanHexByte, List.dropWhile_cons_of_neg hspace]
            simp only [hsign, if_false, hc]
            exact .inr (.inr trivial)
          · rcases text with _ | ⟨d, text⟩
            · exact .inr (.inl (.number (.inl (by rw [hc]; rfl))))
            · rcases hd : hexDigit d with _ | w
              · exact .inl ⟨v, .single hc hd⟩
              · exact .inl ⟨16 * v + w, .pair hc hd⟩

/-- A pair with something behind it is read beyond only over white space. -/
lemma RunsOff.drop_pair (htext : text ≠ []) (h : RunsOff (c :: d :: text)) : RunsOff text := by
  cases h with
  | space _ h =>
      cases h with
      | space _ h => exact h
      | number _ => exact absurd rfl htext

/-- What is read beyond the end from one pair on, is so from the next ones on. -/
lemma RunsOff.of_le {i j : ℕ} (hij : i ≤ j) (hj : 2 * j < text.length)
    (h : RunsOff (text.drop (2 * i))) : RunsOff (text.drop (2 * j)) := by
  induction j, hij using Nat.le_induction with
  | base => exact h
  | succ j hij ih =>
      have hpair := ih (by omega)
      rw [List.drop_eq_getElem_cons (by omega), List.drop_eq_getElem_cons (by omega)] at hpair
      refine hpair.drop_pair ?_
      rw [Ne, List.drop_eq_nil_iff]
      omega

/-- Every pair of a strict text is scanned as its byte. -/
lemma HexSpells.scans {bytes : List UInt8} (h : HexSpells text bytes) {j : ℕ}
    (hj : j < bytes.length) : Scans (text.drop (2 * j)) bytes[j] := by
  induction h generalizing j with
  | nil => exact absurd hj (Nat.not_lt_zero j)
  | cons hc hd _ ih =>
      cases j with
      | zero => exact .pair hc hd
      | succ j => exact ih (Nat.lt_of_succ_lt_succ hj)

end Pair

/-! ### The whole text -/

section Digest

variable {str : List UInt8} {bytes : ℕ → UInt8} {n : ℕ}

/-- Where all pairs up to one are scanned, the scan goes on there. -/
lemma scanDigest_step (h : ∀ j < n, Scans (str.drop (2 * j)) (bytes j)) {j : ℕ} (hj : j < n) :
    (scanHexByte (str.drop (2 * j)) >>= fun
      | none => return none
      | some b => return some ((List.range j).map bytes ++ [b])) =
      (.ok (some ((List.range (j + 1)).map bytes)) : Except Fault (Option (List UInt8))) := by
  rw [(h j hj).scan, ok_bind, List.range_succ, List.map_append]
  rfl

/-- The bytes that are scanned. -/
lemma scanDigest_some (h : ∀ j < 32, Scans (str.drop (2 * j)) (bytes j)) :
    scanDigest str = .ok (some ((List.range 32).map bytes)) := by
  unfold scanDigest
  exact foldlM_range_eq_ok (g := fun j => some ((List.range j).map bytes)) fun j hj =>
    scanDigest_step h hj

/-- A pair that is no number ends the scan. -/
lemma scanDigest_none (hn : n < 32) (h : ∀ j < n, Scans (str.drop (2 * j)) (bytes j))
    (hnone : scanHexByte (str.drop (2 * n)) = .ok none) : scanDigest str = .ok none := by
  have hg : none = if 32 ≤ n then some ((List.range 32).map bytes) else none :=
    (if_neg (Nat.not_le.mpr hn)).symm
  rw [hg]
  unfold scanDigest
  refine foldlM_range_eq_ok
    (g := fun j => if j ≤ n then some ((List.range j).map bytes) else none) fun j hj => ?_
  rcases lt_trichotomy j n with hlt | rfl | hgt
  · rw [if_pos hlt.le, if_pos (Nat.succ_le_of_lt hlt)]
    exact scanDigest_step h hlt
  · rw [if_pos le_rfl, if_neg (Nat.not_succ_le_self j)]
    dsimp only
    rw [hnone, ok_bind]
    rfl
  · rw [if_neg (Nat.not_le.mpr hgt), if_neg (by omega)]
    rfl

/-- A pair behind which it is read on is undefined behaviour. -/
lemma scanDigest_error (hn : n < 32) (h : ∀ j < n, Scans (str.drop (2 * j)) (bytes j))
    (hoff : RunsOff (str.drop (2 * n))) :
    scanDigest str = .error (.undefined .indeterminate) := by
  unfold scanDigest
  refine foldlM_range_error (g := fun j => some ((List.range j).map bytes)) hn
    (fun j hj => scanDigest_step h hj) ?_
  dsimp only
  rw [hoff.scan, error_bind]

variable (str) in
/-- Either all of the first pairs are scanned, or there is a first pair that is not. -/
lemma exists_scans (m : ℕ) : ∃ bytes : ℕ → UInt8,
    (∀ j < m, Scans (str.drop (2 * j)) (bytes j)) ∨
      ∃ n < m, (∀ j < n, Scans (str.drop (2 * j)) (bytes j)) ∧
        (RunsOff (str.drop (2 * n)) ∨ scanHexByte (str.drop (2 * n)) = .ok none) := by
  induction m with
  | zero => exact ⟨fun _ => 0, .inl fun j hj => absurd hj (Nat.not_lt_zero j)⟩
  | succ m ih =>
      obtain ⟨bytes, hall | ⟨n, hn, hfirst⟩⟩ := ih
      · rcases scanHexByte_cases (str.drop (2 * m)) with ⟨b, hb⟩ | hstop
        · refine ⟨Function.update bytes m b, .inl fun j hj => ?_⟩
          rcases Nat.lt_succ_iff_lt_or_eq.1 hj with hlt | rfl
          · rw [Function.update_of_ne hlt.ne]
            exact hall j hlt
          · rwa [Function.update_self]
        · exact ⟨bytes, .inr ⟨m, Nat.lt_succ_self m, hall, hstop⟩⟩
      · exact ⟨bytes, .inr ⟨n, Nat.lt_succ_of_lt hn, hfirst⟩⟩

end Digest

/-! ### The runs of `sha256_verify` -/

section Verify

variable {σ : Type} {sha : Sha256} {fs : FileSystem} {name : CStr} {p : Proc σ}
  {text data : List UInt8}

/-- The digest of a file. -/
def fileDigest (sha : Sha256) (data : List UInt8) : List UInt8 :=
  sha.digest (sha.update sha.init data)

lemma length_fileDigest (sha : Sha256) (data : List UInt8) : (fileDigest sha data).length = 32 :=
  List.length_ofFn

/-- `sha256_verify` returns true exactly for a text that spells the digest of the file. -/
def VerifiesStrictly (sha : Sha256) (fs : FileSystem) (name : CStr) (text data : List UInt8)
    (p : Proc σ) : Prop :=
  ∃ r p', sha256Verify sha fs name p = .ok (r, p') ∧
    (r = true ↔ HexSpells (text.take 64) (fileDigest sha data))

/-- The texts that slip through, or behind which it is read on: they are not 64 digits, and
either every pair is scanned as its byte of the digest, or all pairs are scanned up to those
at the end, behind which it is read on. -/
def Slips (text digest : List UInt8) : Prop :=
  64 ≤ text.length ∧ (¬ ∃ bytes, HexSpells (text.take 64) bytes) ∧
    ((∀ j < 32, Scans ((text.take 64).drop (2 * j)) (digest.getD j 0)) ∨
      ∃ n < 32, (∀ j < n, ∃ b, Scans ((text.take 64).drop (2 * j)) b) ∧
        RunsOff ((text.take 64).drop (2 * n)))

variable {e : Bool} (hsum : fs.node (shaFileName name) = some (.regular text true e))

include hsum

/-- A text that is too short is rejected. -/
lemma sha256Verify_short (hlen : text.length < 64) :
    sha256Verify sha fs name p = .ok (false, p) := by
  rw [sha256Verify, FileSystem.stSize_of_node hsum, orExit_some, ok_bind, exitIf_pos hlen]
  rfl

variable (sha p) in
/-- What follows from the scan of the text. -/
lemma sha256Verify_scan (hlen : 64 ≤ text.length) {x : Except Fault (Option (List UInt8))}
    (hscan : scanDigest (text.take 64) = x) :
    (x = .ok none → sha256Verify sha fs name p = .ok (false, p)) ∧
      ∀ f, x = .error f → sha256Verify sha fs name p = .error f := by
  have hread : (fread 64 (.start text e)).1 = text.take 64 := rfl
  rw [sha256Verify, FileSystem.stSize_of_node hsum, FileSystem.fopen_of_node hsum, orExit_some,
    ok_bind, exitIf_neg (Nat.not_lt.mpr hlen), ok_bind, orExit_some, ok_bind, hread, hscan]
  refine ⟨?_, ?_⟩
  · rintro rfl
    rfl
  · rintro f rfl
    rfl

/-- After a scan that delivers bytes, these are compared with the digest of the file. -/
lemma sha256Verify_compare (hsha : sha.SplitInvariant)
    (hnode : fs.node name = some (.regular data true false)) (hlen : 64 ≤ text.length)
    {bytes : List UInt8} (hscan : scanDigest (text.take 64) = .ok (some bytes)) :
    ∃ p', sha256Verify sha fs name p = .ok (decide (bytes = fileDigest sha data), p') := by
  have hread : (fread 64 (.start text e)).1 = text.take 64 := rfl
  obtain ⟨chunks, hchunks, hfeed⟩ := readLoop_feed
    (.fault .hang : Stop (Bool × Proc σ)) (show 0 < chunkSize by decide) sha.update _
    ⟨.start data false, p.fileBuffer, sha.init⟩ rfl rfl rfl
  have hflat : chunks.flatten = [data].flatten := by rw [hchunks, List.flatten_singleton]; rfl
  have hdigest : sha.digest (chunks.foldl sha.update sha.init) = fileDigest sha data := by
    rw [Sha256.digest, hsha _ _ hflat]
    rfl
  rw [sha256Verify, FileSystem.stSize_of_node hsum, FileSystem.fopen_of_node hsum, orExit_some,
    ok_bind, exitIf_neg (Nat.not_lt.mpr hlen), ok_bind, orExit_some, ok_bind, hread, hscan,
    call_ok, ok_bind, orExit_some, ok_bind, FileSystem.stSize_of_node hnode,
    FileSystem.fopen_of_node hnode, orExit_some, ok_bind, orExit_some, ok_bind, hfeed, ok_bind]
  simp only [hdigest]
  exact ⟨_, rfl⟩

end Verify

/-! ### Strict and slipping texts -/

section Strict

variable {s text digest bytes : List UInt8} {a b : UInt8}

/-- A text is scanned as one byte at most. -/
lemma Scans.unique (ha : Scans s a) (hb : Scans s b) : a = b :=
  Option.some.inj (Except.ok.inj (ha.scan.symm.trans hb.scan))

/-- Behind a text that is scanned it is not read on. -/
lemma Scans.not_runsOff (h : Scans s b) : ¬ RunsOff s := fun hoff =>
  nomatch h.scan.symm.trans hoff.scan

lemma Scans.ne_none (h : Scans s b) : scanHexByte s ≠ .ok none := fun hnone =>
  nomatch h.scan.symm.trans hnone

lemma RunsOff.ne_none (h : RunsOff s) : scanHexByte s ≠ .ok none := fun hnone =>
  nomatch h.scan.symm.trans hnone

/-- A strict text of 64 characters spells 32 bytes. -/
lemma HexSpells.length_bytes (h : HexSpells (text.take 64) bytes) (hlen : 64 ≤ text.length) :
    bytes.length = 32 := by
  have hlength := h.length
  rw [List.length_take] at hlength
  omega

/-- The bytes of a strict text are those that are scanned. -/
lemma HexSpells.map_range (h : HexSpells text bytes) (hlen : bytes.length = 32)
    {scanned : ℕ → UInt8} (hscans : ∀ j < 32, Scans (text.drop (2 * j)) (scanned j)) :
    (List.range 32).map scanned = bytes := by
  refine List.ext_getElem (by simp [hlen]) fun j hj hj' => ?_
  rw [List.getElem_map, List.getElem_range]
  exact (hscans j (hlen ▸ hj')).unique (h.scans hj')

/-- A text one of whose pairs is not scanned is not strict. -/
lemma not_hexSpells {n : ℕ} (hn : n < 32) (hlen : 64 ≤ text.length)
    (h : ∀ b, ¬ Scans ((text.take 64).drop (2 * n)) b) : ¬ HexSpells (text.take 64) bytes :=
  fun hstrict => h _ (hstrict.scans (by rw [hstrict.length_bytes hlen]; exact hn))

/-- A text with a pair that ends the scan does not slip. -/
lemma not_slips {n : ℕ} (hn : n < 32)
    (hnone : scanHexByte ((text.take 64).drop (2 * n)) = .ok none) : ¬ Slips text digest := by
  rintro ⟨hlen, -, hall | ⟨m, hm, hscans, hoff⟩⟩
  · exact (hall n hn).ne_none hnone
  · rcases Nat.lt_or_ge n m with hlt | hge
    · obtain ⟨b, hb⟩ := hscans n hlt
      exact hb.ne_none hnone
    · refine (hoff.of_le hge ?_).ne_none hnone
      rw [List.length_take]
      omega

/-- Where all pairs are scanned, exactly a text that is not strict and spells the digest slips. -/
lemma slips_iff {scanned : ℕ → UInt8} (hlen : 64 ≤ text.length) (hdigest : digest.length = 32)
    (hall : ∀ j < 32, Scans ((text.take 64).drop (2 * j)) (scanned j)) :
    Slips text digest ↔ (¬ ∃ bytes, HexSpells (text.take 64) bytes) ∧
      (List.range 32).map scanned = digest := by
  constructor
  · rintro ⟨-, hstrict, hscans | ⟨n, hn, -, hoff⟩⟩
    · refine ⟨hstrict, List.ext_getElem (by simp [hdigest]) fun j hj hj' => ?_⟩
      rw [List.getElem_map, List.getElem_range, ← List.getD_eq_getElem digest 0 hj']
      exact (hall j (hdigest ▸ hj')).unique (hscans j (hdigest ▸ hj'))
    · exact absurd hoff (hall n hn).not_runsOff
  · rintro ⟨hstrict, rfl⟩
    refine ⟨hlen, hstrict, .inl fun j hj => ?_⟩
    rw [List.getD_eq_getElem _ 0 (by simpa using hj), List.getElem_map, List.getElem_range]
    exact hall j hj

end Strict

/-! ### The check -/

section Main

variable {σ : Type} {sha : Sha256} {fs : FileSystem} {name : CStr} {text data : List UInt8}
  {e : Bool}

/-- **The checksum is decoded strictly exactly where the text does not slip through.** -/
theorem verifiesStrictly_iff (hsha : sha.SplitInvariant)
    (hnode : fs.node name = some (.regular data true false))
    (hsum : fs.node (shaFileName name) = some (.regular text true e)) (p : Proc σ) :
    VerifiesStrictly sha fs name text data p ↔ ¬ Slips text (fileDigest sha data) := by
  have hdigest := length_fileDigest sha data
  rcases Nat.lt_or_ge text.length 64 with hshort | hlen
  · -- a text of less than 64 digits is refused
    refine iff_of_true ⟨false, p, sha256Verify_short hsum hshort, iff_of_false (by decide) ?_⟩
      fun hslips => absurd hslips.1 (Nat.not_le.mpr hshort)
    intro hstrict
    have hlength := hstrict.length
    rw [List.length_take, hdigest] at hlength
    omega
  · obtain ⟨scanned, hall | ⟨n, hn, hfirst, hoff | hnone⟩⟩ := exists_scans (text.take 64) 32
    · -- all 32 pairs are scanned, and the digests are compared
      obtain ⟨p', hrun⟩ := sha256Verify_compare (p := p) hsum hsha hnode hlen
        (scanDigest_some hall)
      rw [slips_iff hlen hdigest hall]
      constructor
      · rintro ⟨r, q, hr, hiff⟩ ⟨hstrict, heq⟩
        cases hrun.symm.trans hr
        exact hstrict ⟨_, hiff.1 (decide_eq_true heq)⟩
      · intro hslips
        refine ⟨_, p', hrun, decide_eq_true_iff.trans ⟨fun heq => ?_, fun hspells => ?_⟩⟩
        · obtain ⟨bytes, hbytes⟩ := not_not.1 fun hstrict => hslips ⟨hstrict, heq⟩
          rwa [← heq, hbytes.map_range (hbytes.length_bytes hlen) hall]
        · exact hspells.map_range hdigest hall
    · -- it is read on behind the text
      have hscan := (sha256Verify_scan sha p hsum hlen rfl).2 _
        (scanDigest_error hn hfirst hoff)
      refine iff_of_false ?_ (not_not.2 ⟨hlen, ?_, .inr ⟨n, hn, ?_, hoff⟩⟩)
      · rintro ⟨r, q, hr, -⟩
        exact nomatch hscan.symm.trans hr
      · rintro ⟨bytes, hbytes⟩
        exact not_hexSpells hn hlen (fun b hb => hb.not_runsOff hoff) hbytes
      · intro j hj
        exact ⟨_, hfirst j hj⟩
    · -- a pair is no number
      have hscan := (sha256Verify_scan sha p hsum hlen rfl).1
        (scanDigest_none hn hfirst hnone)
      refine iff_of_true ⟨false, p, hscan, iff_of_false (by decide) ?_⟩
        (not_slips hn hnone)
      exact not_hexSpells hn hlen fun b hb => hb.ne_none hnone

end Main

/-! ### A text with a sign -/

/-- The digest of a file without bytes. -/
def emptyDigest : Fin 32 → UInt8 := fun j =>
  [0xe3, 0xb0, 0xc4, 0x42, 0x98, 0xfc, 0x1c, 0x14, 0x9a, 0xfb, 0xf4, 0xc8, 0x99, 0x6f, 0xb9, 0x24,
    0x27, 0xae, 0x41, 0xe4, 0x64, 0x9b, 0x93, 0x4c, 0xa4, 0x95, 0x99, 0x1b, 0x78, 0x52, 0xb8,
    0x55].getD j 0

/-- A text with `-4` for the byte `fc`. -/
def signedText : List UInt8 :=
  ascii "e3b0c44298-41c149afbf4c8996fb92427ae41e4649b934ca495991b7852b855"

/-- An empty file and its checksum. -/
def signedFiles (text : List UInt8) : FileSystem where
  node := fun path =>
    if path = ascii "b.bin" then some (.regular [] true false)
    else if path = ascii "b.bin.sha256" then some (.regular text true false)
    else none
  writable := fun _ => false

/-- **A text with a sign is accepted.** -/
theorem signedText_accepted :
    (∃ p', sha256Verify (.constant emptyDigest) (signedFiles signedText) (ascii "b.bin")
        (Proc.start ()) = .ok (true, p')) ∧
      ¬ VerifiesStrictly (.constant emptyDigest) (signedFiles signedText) (ascii "b.bin")
        signedText [] (Proc.start ()) := by
  have hscan : scanDigest (signedText.take 64) = .ok (some (List.ofFn emptyDigest)) := by
    decide
  have hsum : (signedFiles signedText).node (shaFileName (ascii "b.bin")) =
      some (.regular signedText true false) := rfl
  obtain ⟨p', hrun⟩ := sha256Verify_compare (p := Proc.start ()) hsum
    (Sha256.splitInvariant_constant emptyDigest) rfl (by decide) hscan
  have htrue : decide (List.ofFn emptyDigest = fileDigest (.constant emptyDigest) []) = true :=
    decide_eq_true rfl
  rw [htrue] at hrun
  refine ⟨⟨p', hrun⟩, ?_⟩
  rintro ⟨r, q, hr, hiff⟩
  cases hrun.symm.trans hr
  exact absurd ((hiff.1 rfl).forall_isSome 45 (by decide)) (by decide)

theorem verifiesStrictly_spelled :
    VerifiesStrictly (.constant emptyDigest)
      (signedFiles ((List.ofFn emptyDigest).map hexByte).flatten) (ascii "b.bin")
      ((List.ofFn emptyDigest).map hexByte).flatten [] (Proc.start ()) := by
  refine (verifiesStrictly_iff (e := false) (Sha256.splitInvariant_constant emptyDigest) rfl rfl
    _).2 fun hslips => hslips.2.1 ⟨List.ofFn emptyDigest, ?_⟩
  rw [List.take_of_length_le (by rw [length_hexBytes, List.length_ofFn])]
  exact hexSpells_hexBytes _

end Mesaflash
