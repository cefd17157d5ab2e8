import Mesaflash.PinTables
import Mesaflash.Lib.BitOrder

/-!
The names of the secondary functions of pins.

`pin_get_pin_name` looks for the entry of the secondary tag and decodes `sec_pin` and
`sec_chan` with it.  Three modules have decodings of their own, but these are chosen by the
primary tag of the pin.  So the name depends on the primary tag, except where two decodings
happen to give the same text.
-/

namespace Mesaflash

open Lib

/-! ### pin_get_pin_name -/

/-- The name of an entry that smart-serial pins take. -/
def sserialPlace (secPin : UInt8) : Option ℕ :=
  if secPin &&& 0xF0 = 0x00 then some 0
  else if secPin &&& 0xF0 = 0x80 then some 1
  else if secPin &&& 0xF0 = 0x90 then some 2
  else if secPin &&& 0xF0 = 0xA0 then some 3
  else none

/-- The modules with decodings of their own that are chosen by the primary tag. -/
inductive ModuleDecoding where
  | daqFifo
  | twiddler
  | binOsc
deriving DecidableEq, Repr

/-- The name of an entry that a decoding takes. -/
def ModuleDecoding.place : ModuleDecoding → UInt8 → Option ℕ
  | daqFifo, secPin =>
    if secPin &&& 0xE0 = 0x00 then some 0
    else if secPin = 0x41 then some 1
    else if secPin = 0x81 then some 2
    else none
  | twiddler, secPin =>
    if secPin &&& 0xC0 = 0x00 then some 0
    else if secPin &&& 0xC0 = 0xC0 then some 1
    else if secPin &&& 0xC0 = 0x80 then some 2
    else none
  | binOsc, secPin => if secPin &&& 0x80 = 0x80 then some 0 else none

/-- `sprintf(buff, "%s%u", name[k], chan)`, where a name is taken. -/
def PinName.numbered (e : PinName) (place : Option ℕ) (chan : UInt8) :
    Except Fault (Option CStr) :=
  match place with
  | some k => do
    let name ← e.nameAt k
    pure (some (name ++ decimal chan.toNat))
  | none => pure none

/-- `%02u`. -/
def twoDigits (n : ℕ) : CStr := if n < 10 then ascii "0" ++ decimal n else decimal n

/-- The names of the pins of a solid state relay. -/
def PinName.ssrName (e : PinName) (secPin : UInt8) : Except Fault (Option CStr) :=
  if secPin &&& 0xF0 = 0x80 then do
    let name ← e.nameAt 0
    pure (some (name ++ ascii "-" ++ twoDigits (secPin - 0x81).toNat))
  else if secPin = 0xA0 then do
    let name ← e.nameAt 1
    pure (some name)
  else pure none

-- the differences are integers, so that `sec_pin` 0x80 gives -1
def inmuxName (secPin : UInt8) : CStr :=
  if secPin &&& 0x80 = 0x80 then ascii "Addr" ++ decimal ((secPin.toNat : ℤ) - 0x81)
  else ascii "Data" ++ decimal ((secPin.toNat : ℤ) - 0x01)

def outmName (secPin : UInt8) : Option CStr :=
  if secPin &&& 0x80 = 0x80 then some (ascii "Output" ++ decimal ((secPin.toNat : ℤ) - 0x81))
  else none

example : inmuxName 0x80 = ascii "Addr-1" ∧ outmName 0x80 = some (ascii "Output-1") := by
  decide +kernel

/-- What the loop does with an entry of the secondary tag: a name, or on to the next entry. -/
def PinName.entryName (e : PinName) (pin : PinDesc) : Except Fault (Option CStr) :=
  if pin.secTag = hm2GtagSserial ∨ pin.secTag = hm2GtagSserialb then
    e.numbered (sserialPlace pin.secPin) ((pin.secPin &&& 0x0F) - 1)
  else if pin.secTag = hm2GtagSsr then e.ssrName pin.secPin
  else if pin.gtag = hm2GtagDaqFifo then
    e.numbered (ModuleDecoding.daqFifo.place pin.secPin) (pin.secChan &&& 0x1F)
  else if pin.gtag = hm2GtagTwiddler then
    e.numbered (ModuleDecoding.twiddler.place pin.secPin) (pin.secChan &&& 0x1F)
  else if pin.gtag = hm2GtagBinOsc then
    e.numbered (ModuleDecoding.binOsc.place pin.secPin) (pin.secChan &&& 0x1F)
  else if pin.secTag = hm2GtagInmux then pure (some (inmuxName pin.secPin))
  else if pin.secTag = hm2GtagOutm then pure (outmName pin.secPin)
  else do
    let name ← e.nameAt ((pin.secPin &&& 0x0F).toNat - 1)
    pure (some name)

def unknownName (pin : PinDesc) : CStr :=
  ascii "Unknown-Gtag" ++ decimal pin.secTag.toNat ++ ascii "-Chan" ++ decimal pin.secChan.toNat ++
    ascii "-Pin" ++ decimal pin.secPin.toNat

/-- The loop of `pin_get_pin_name`. -/
def pinNameLoop (pin : PinDesc) : List PinName → Except Fault CStr
  | [] => pure (unknownName pin)
  | e :: entries =>
    if e.tag = pin.secTag then do
      match ← e.entryName pin with
      | some name => pure name
      | none => pinNameLoop pin entries
    else pinNameLoop pin entries

/-- `pin_get_pin_name`. -/
def pinGetPinName (pin : PinDesc) (xmlFlag : ℤ) : Except Fault CStr :=
  pinNameLoop pin (pinNamesPtr xmlFlag)

/-! ### One name for one secondary function -/

/-- The pins have the same secondary function. -/
structure SameSecondary (p p' : PinDesc) : Prop where
  secTag : p.secTag = p'.secTag
  secChan : p.secChan = p'.secChan
  secPin : p.secPin = p'.secPin

/-- Both pins get a name, and with either flag it is one name. -/
def SameName (p p' : PinDesc) : Prop :=
  ∀ xmlFlag, ∃ name, pinGetPinName p xmlFlag = .ok name ∧ pinGetPinName p' xmlFlag = .ok name

/-- The tags of the modules with decodings of their own. -/
def decodedTags : List UInt8 := [hm2GtagDaqFifo, hm2GtagTwiddler, hm2GtagBinOsc]

/-- The names are those of the secondary function.  If it is a function of a module with a
decoding of its own, they are the ones that this decoding gives. -/
def NamesFollow (p p' : PinDesc) : Prop :=
  SameName p p' ∧ (p.secTag ∈ decodedTags → SameName p { p with gtag := p.secTag })

/-! ### The condition -/

/-- The decoding of its own that is chosen by the primary tag. -/
def PinDesc.decoding (pin : PinDesc) : Option ModuleDecoding :=
  if pin.gtag = hm2GtagDaqFifo then some .daqFifo
  else if pin.gtag = hm2GtagTwiddler then some .twiddler
  else if pin.gtag = hm2GtagBinOsc then some .binOsc
  else none

/-- The secondary tags that are looked at before the primary tag. -/
def foremostTags : List UInt8 := [hm2GtagSserial, hm2GtagSserialb, hm2GtagSsr]

/-- The tags whose entries have the name `Null1` at the first place. -/
def nullTags : List UInt8 := [hm2GtagNone, hm2GtagIrqLogic, hm2GtagWatchdog, hm2GtagIoport,
  hm2GtagBinDmdma, hm2GtagDbspi, hm2GtagTram, hm2GtagLed]

/-- The number whose digits are those of `k` and those of `c`. -/
def joined (k c : ℕ) : ℕ := if c < 10 then 10 * k + c else 100 * k + c

/-- The decoding by the secondary tag has a name for the pin. -/
def PinDesc.Spelled (pin : PinDesc) : Prop :=
  pin.secTag ∈ [hm2GtagInmux, hm2GtagOutm, hm2GtagInm] ∨ pin.secPin &&& 0x0F ≤ 10

/-- The name at a place, with the channel behind it, reads like the name that the decoding by
the secondary tag gives: both find no name, or `Null1` and the channel 0 read like `Null10`,
or a digit of the name and the channel read like the number of an input or output. -/
def PinDesc.Coincides (pin : PinDesc) : Option ℕ → Prop
  | none => pin.secTag = hm2GtagOutm ∧ pin.secPin &&& 0x80 = 0
  | some k =>
    (k = 0 ∧ pin.secTag ∈ nullTags ∧ pin.secChan &&& 0x1F = 0 ∧ pin.secPin &&& 0x0F = 10) ∨
      (k ≠ 0 ∧ pin.secTag ∈ [hm2GtagInmux, hm2GtagOutm] ∧
        pin.secPin.toNat = 0x81 + joined k (pin.secChan &&& 0x1F).toNat)

/-- What two decodings make of a pin is one name. -/
def PinDesc.Agree (pin : PinDesc) : Option ModuleDecoding → Option ModuleDecoding → Prop
  | none, none => pin.Spelled
  | none, some d => pin.Coincides (d.place pin.secPin)
  | some d, none => pin.Coincides (d.place pin.secPin)
  | some d, some d' => d.place pin.secPin = d'.place pin.secPin

/-- The secondary tag is looked at first, or the decodings that the primary tags choose agree. -/
def DecodingsAgree (p p' : PinDesc) : Prop :=
  p.secTag ∈ foremostTags ∨ p.Agree p.decoding p'.decoding

/-! ### The tables -/

section Tables

variable {xmlFlag : ℤ} {e : PinName}

/-- A name of an entry, or nothing for a null pointer. -/
def PinName.text (e : PinName) (k : ℕ) : CStr := (e.names[k]?).getD []

lemma mem_pinTable (he : e ∈ pinTable xmlFlag) : e ∈ pinNames ++ pinNamesXml := by
  rw [pinTable] at he
  split at he
  · exact List.mem_append_left _ he
  · exact List.mem_append_right _ he

/-- Both tables have the same tags in the same order. -/
lemma tags_pinTable (xmlFlag : ℤ) : (pinTable xmlFlag).map (·.tag) = pinNames.map (·.tag) := by
  rw [pinTable]
  split
  · rfl
  · rfl

/-- What the names of the entries have in common: how many there are, that none of them is empty
or begins like the text for an unknown pin, that those which a decoding can take differ, that
where `Null1` is at the first place `Null10` is at the last, and the numbered names of the
input multiplexers and the output modules. -/
def PinName.Regular (e : PinName) : Prop :=
  (e.names.length = if e.tag ∈ [hm2GtagInm, hm2GtagOutm] then 32 else 10) ∧
  (∀ name ∈ e.names, name.head?.isSome ∧ name.head? ≠ (ascii "Unknown").head?) ∧
  (∀ k < 3, ∀ m < 3, e.text k = e.text m → k = m) ∧
  (e.tag ∈ nullTags → e.text 9 = e.text 0 ++ decimal 0) ∧
  (e.tag = hm2GtagInmux → ∀ k < 3, e.text k = ascii "Addr" ++ decimal k) ∧
  (e.tag = hm2GtagOutm → ∀ k < 3, e.text k = ascii "Output" ++ decimal k)

instance (e : PinName) : Decidable e.Regular := inferInstanceAs (Decidable (_ ∧ _))

lemma regular_names : ∀ e ∈ pinNames ++ pinNamesXml, e.Regular := by
  decide +kernel

section Regular

variable (he : e ∈ pinNames ++ pinNamesXml)

include he

lemma length_names :
    e.names.length = if e.tag ∈ [hm2GtagInm, hm2GtagOutm] then 32 else 10 :=
  (regular_names e he).1

lemma head_names {name : CStr} (hname : name ∈ e.names) :
    name.head?.isSome ∧ name.head? ≠ (ascii "Unknown").head? :=
  (regular_names e he).2.1 name hname

lemma text_inj {k m : ℕ} (hk : k < 3) (hm : m < 3) (h : e.text k = e.text m) : k = m :=
  (regular_names e he).2.2.1 k hk m hm h

lemma text_null (hnull : e.tag ∈ nullTags) : e.text 9 = e.text 0 ++ decimal 0 :=
  (regular_names e he).2.2.2.1 hnull

lemma text_inmux (hinmux : e.tag = hm2GtagInmux) {k : ℕ} (hk : k < 3) :
    e.text k = ascii "Addr" ++ decimal k :=
  (regular_names e he).2.2.2.2.1 hinmux k hk

lemma text_outm (houtm : e.tag = hm2GtagOutm) {k : ℕ} (hk : k < 3) :
    e.text k = ascii "Output" ++ decimal k :=
  (regular_names e he).2.2.2.2.2 houtm k hk

end Regular

/-- The name at `k`, which a decoding can take, and a digit behind it are no beginning of the name
at `m`, unless these are `Null1` and `Null10`. -/
def PinName.Apart (e : PinName) (k m : ℕ) : Prop :=
  (e.text k).isPrefixOf (e.text m) → (k = 0 ∧ m = 9 ∧ e.tag ∈ nullTags) ∨
    ∀ d ∈ ascii "0123456789", (e.text m)[(e.text k).length]? ≠ some d

instance (e : PinName) (k m : ℕ) : Decidable (e.Apart k m) :=
  inferInstanceAs (Decidable (_ → _ ∨ _))

lemma text_digit : ∀ e ∈ pinNames, e.tag ≠ hm2GtagOutm → ∀ k < 3, ∀ m < 15, e.Apart k m := by
  decide +kernel

/-! Numbers in texts. -/

/-- A number begins with a digit, and its value is read off its digits. -/
lemma digits_decimal : ∀ n < (256 : ℕ),
    (∃ d ∈ ascii "0123456789", decimal n = d :: (decimal n).drop 1) ∧
      (decimal n).foldl (fun value d => 10 * value + (d.toNat - 48)) 0 = n := by
  decide +kernel

lemma decimal_eq_cons {n : ℕ} (hn : n < 256) :
    ∃ d ∈ ascii "0123456789", decimal n = d :: (decimal n).drop 1 :=
  (digits_decimal n hn).1

lemma foldl_decimal {n : ℕ} (hn : n < 256) :
    (decimal n).foldl (fun value d => 10 * value + (d.toNat - 48)) 0 = n :=
  (digits_decimal n hn).2

lemma decimal_inj {n m : ℕ} (hn : n < 256) (hm : m < 256) (h : decimal n = decimal m) : n = m := by
  rw [← foldl_decimal hn, h, foldl_decimal hm]

/-- Digits behind digits. -/
lemma decimal_joined : ∀ k < (3 : ℕ), ∀ c < (32 : ℕ), k ≠ 0 →
    decimal k ++ decimal c = decimal (joined k c) := by
  decide +kernel

end Tables

/-! ### The loop -/

section Search

variable {pin : PinDesc} {e : PinName}

lemma PinName.numbered_none {place : Option ℕ} {chan : UInt8}
    (h : e.numbered place chan = .ok none) (e' : PinName) : e'.numbered place chan = .ok none := by
  cases place with
  | none => rfl
  | some k =>
      obtain ⟨name, -, hname⟩ := bind_eq_ok.1 h
      cases hname

lemma PinName.ssrName_none {secPin : UInt8} (h : e.ssrName secPin = .ok none) (e' : PinName) :
    e'.ssrName secPin = .ok none := by
  rw [ssrName] at h ⊢
  split_ifs at h ⊢
  · obtain ⟨name, -, hname⟩ := bind_eq_ok.1 h
    cases hname
  · obtain ⟨name, -, hname⟩ := bind_eq_ok.1 h
    cases hname
  · rfl

/-- Whether an entry gives a name does not depend on its names. -/
lemma PinName.entryName_none (h : e.entryName pin = .ok none) (e' : PinName) :
    e'.entryName pin = .ok none := by
  rw [entryName] at h ⊢
  split_ifs at h ⊢
  · exact numbered_none h e'
  · exact ssrName_none h e'
  · exact numbered_none h e'
  · exact numbered_none h e'
  · exact numbered_none h e'
  · exact h
  · exact h
  · obtain ⟨name, -, hname⟩ := bind_eq_ok.1 h
    cases hname

/-- When one entry gives no name, none does. -/
lemma pinNameLoop_none (h : e.entryName pin = .ok none) (entries : List PinName) :
    pinNameLoop pin entries = .ok (unknownName pin) := by
  induction entries with
  | nil => rfl
  | cons e' entries ih =>
      rw [pinNameLoop, PinName.entryName_none h e']
      split
      · exact ih
      · exact ih

/-- The first entry of the tag decides. -/
lemma pinNameLoop_eq {entries : List PinName}
    (h : entries.find? (fun e => e.tag == pin.secTag) = some e) :
    pinNameLoop pin entries =
      e.entryName pin >>= fun name => .ok (name.getD (unknownName pin)) := by
  induction entries with
  | nil => cases h
  | cons e' entries ih =>
      rw [pinNameLoop]
      by_cases htag : e'.tag = pin.secTag
      · rw [List.find?_cons_of_pos (by simpa using htag)] at h
        obtain rfl := Option.some.inj h
        rw [if_pos htag]
        rcases hname : e'.entryName pin with fault | name
        · rfl
        · cases name with
          | some name => rfl
          | none => exact pinNameLoop_none hname entries
      · rw [List.find?_cons_of_neg (by simpa using htag)] at h
        rw [if_neg htag]
        exact ih h

/-- A tag of the tables has an entry in each of them. -/
lemma exists_entry {tag : UInt8} (h : tag ∈ pinNames.map (·.tag)) (xmlFlag : ℤ) :
    ∃ e ∈ pinTable xmlFlag, e.tag = tag ∧ ∀ pin : PinDesc, pin.secTag = tag →
      pinGetPinName pin xmlFlag =
        e.entryName pin >>= fun name => .ok (name.getD (unknownName pin)) := by
  rw [← tags_pinTable xmlFlag] at h
  obtain ⟨e₀, he₀, htag₀⟩ := List.mem_map.1 h
  have hsome : ((pinTable xmlFlag).find? fun e => e.tag == tag).isSome := by
    rw [List.find?_isSome]
    exact ⟨e₀, he₀, by simpa using htag₀⟩
  obtain ⟨e, he⟩ := Option.isSome_iff_exists.1 hsome
  refine ⟨e, List.mem_of_find?_eq_some he, by simpa using List.find?_some he, ?_⟩
  intro pin hpin
  refine pinNameLoop_eq ?_
  rw [hpin, pinNamesPtr, List.find?_append, he]
  rfl

end Search

/-! ### The two kinds of decodings -/

section Decodings

variable {pin : PinDesc} {e : PinName}

/-- The text that belongs to a place of an entry. -/
def PinDesc.placedName (pin : PinDesc) (e : PinName) : Option ℕ → CStr
  | none => unknownName pin
  | some k => e.text k ++ decimal (pin.secChan &&& 0x1F).toNat

/-- What the decoding by the secondary tag gives. -/
def PinDesc.secondaryName (pin : PinDesc) (e : PinName) : Except Fault CStr :=
  if pin.secTag = hm2GtagInmux then .ok (inmuxName pin.secPin)
  else if pin.secTag = hm2GtagOutm then .ok ((outmName pin.secPin).getD (unknownName pin))
  else e.nameAt ((pin.secPin &&& 0x0F).toNat - 1)

lemma ModuleDecoding.place_lt (d : ModuleDecoding) (secPin : UInt8) :
    ∀ k ∈ d.place secPin, k < 3 := by
  intro k hk
  cases d <;> simp only [place] at hk <;> split_ifs at hk <;> simp_all <;> omega

lemma ten_le_length (he : e ∈ pinNames ++ pinNamesXml) : 10 ≤ e.names.length := by
  rw [length_names he]
  split
  · decide
  · exact le_rfl

lemma PinName.nameAt_natCast (he : e ∈ pinNames ++ pinNamesXml) (k : ℕ) :
    e.nameAt k = if k < e.names.length then .ok (e.text k)
      else if namesPerTag ≤ k then .error (.undefined .outOfBounds)
      else .error (.undefined .nullString) := by
  refine tableName_natCast ?_ k
  rw [length_names he]
  split
  · exact le_rfl
  · decide

lemma PinName.numbered_eq (he : e ∈ pinNames ++ pinNamesXml) {place : Option ℕ}
    (hplace : ∀ k ∈ place, k < 10) (chan : UInt8) : e.numbered place chan =
      .ok (place.map fun k => e.text k ++ decimal chan.toNat) := by
  cases place with
  | none => rfl
  | some k =>
      rw [numbered, nameAt_natCast he, if_pos ((hplace k rfl).trans_le (ten_le_length he))]
      rfl

/-- A decoding of its own gives the text of the place that it takes. -/
lemma entryName_of_decoding (he : e ∈ pinNames ++ pinNamesXml) (htag : pin.secTag ∉ foremostTags)
    {d : ModuleDecoding} (hd : pin.decoding = some d) :
    (e.entryName pin >>= fun name => .ok (name.getD (unknownName pin))) =
      .ok (pin.placedName e (d.place pin.secPin)) := by
  simp only [foremostTags, List.mem_cons, List.not_mem_nil, or_false, not_or] at htag
  have hentry : e.entryName pin = e.numbered (d.place pin.secPin) (pin.secChan &&& 0x1F) := by
    rw [PinName.entryName, if_neg (not_or.2 ⟨htag.1, htag.2.1⟩), if_neg htag.2.2]
    rw [PinDesc.decoding] at hd
    split_ifs at hd ⊢
    · cases hd
      rfl
    · cases hd
      rfl
    · cases hd
      rfl
  rw [hentry, PinName.numbered_eq he fun k hk => (d.place_lt _ k hk).trans (by decide), ok_bind]
  cases d.place pin.secPin with
  | none => rfl
  | some k => rfl

lemma entryName_of_secondary (htag : pin.secTag ∉ foremostTags) (hd : pin.decoding = none) :
    (e.entryName pin >>= fun name => .ok (name.getD (unknownName pin))) =
      pin.secondaryName e := by
  simp only [foremostTags, List.mem_cons, List.not_mem_nil, or_false, not_or] at htag
  rw [PinName.entryName, if_neg (not_or.2 ⟨htag.1, htag.2.1⟩), if_neg htag.2.2,
    PinDesc.secondaryName]
  rw [PinDesc.decoding] at hd
  split_ifs at hd ⊢
  · rfl
  · rfl
  · cases e.nameAt ((pin.secPin &&& 0x0F).toNat - 1) with
    | error fault => rfl
    | ok name => rfl

/-! ### Texts that are the same -/

lemma text_mem {k : ℕ} (hk : k < e.names.length) :
    e.text k ∈ e.names := by
  rw [PinName.text, List.getElem?_eq_getElem hk]
  exact List.getElem_mem hk

/-- A name, whatever is behind it, is not the text for an unknown pin. -/
lemma text_ne_unknownName (he : e ∈ pinNames ++ pinNamesXml) {k : ℕ} (hk : k < e.names.length)
    (tail : CStr) : e.text k ++ tail ≠ unknownName pin := by
  obtain ⟨hsome, hhead⟩ := head_names he (text_mem hk)
  intro h
  refine hhead ?_
  have hunknown : (unknownName pin).head? = (ascii "Unknown").head? := rfl
  obtain ⟨b, hb⟩ := Option.isSome_iff_exists.1 hsome
  rw [← hunknown, ← h, List.head?_append, hb]
  rfl

/-- Two places give one text only if they are one place. -/
lemma placedName_inj (he : e ∈ pinNames ++ pinNamesXml) {s s' : Option ℕ}
    (hs : ∀ k ∈ s, k < 3) (hs' : ∀ k ∈ s', k < 3)
    (h : pin.placedName e s = pin.placedName e s') : s = s' := by
  have hlength := ten_le_length he
  cases s with
  | none =>
      cases s' with
      | none => rfl
      | some k =>
          have hk : k < 3 := hs' k rfl
          exact absurd h.symm (text_ne_unknownName he (by omega) _)
  | some k =>
      have hk : k < 3 := hs k rfl
      cases s' with
      | none => exact absurd h (text_ne_unknownName he (by omega) _)
      | some k' =>
          rw [text_inj he hk (hs' k' rfl) (List.append_cancel_right h)]

/-- The pins of outputs are those from 0x80 on. -/
lemma outputBit_eq : ∀ secPin : UInt8,
    secPin &&& 0x80 = if 0x80 ≤ secPin.toNat then 0x80 else 0 :=
  forall_byte (by decide +kernel)

lemma outputBit_cases (secPin : UInt8) : secPin &&& 0x80 = 0x80 ∨ secPin &&& 0x80 = 0 := by
  rw [outputBit_eq]
  split
  · exact .inl rfl
  · exact .inr rfl

lemma outputPin_ge {secPin : UInt8} (hpin : secPin &&& 0x0F ≠ 0) (hbit : secPin &&& 0x80 = 0x80) :
    0x81 ≤ secPin.toNat := by
  rw [outputBit_eq] at hbit
  have hge : 0x80 ≤ secPin.toNat := by
    by_contra hlt
    rw [if_neg hlt] at hbit
    exact absurd hbit (by decide)
  have hne : secPin.toNat ≠ 0x80 := by
    intro heq
    obtain rfl : secPin = 0x80 := UInt8.toNat_inj.1 heq
    exact hpin (by decide)
  omega

lemma outputPin_of_ge {secPin : UInt8} (h : 0x81 ≤ secPin.toNat) : secPin &&& 0x80 = 0x80 := by
  rw [outputBit_eq, if_pos (Nat.le_of_succ_le h)]

lemma channel_lt (secChan : UInt8) : (secChan &&& 0x1F).toNat < 32 := by
  rw [UInt8.toNat_and]
  exact Nat.and_le_right.trans_lt (by decide)

lemma nibble_lt (secPin : UInt8) : (secPin &&& 0x0F).toNat < 16 := by
  rw [UInt8.toNat_and]
  exact Nat.and_le_right.trans_lt (by decide)

/-- The digit of a name and the channel read like a number. -/
lemma decimal_append_iff {k c n : ℕ} (hk : k < 3) (hc : c < 32) (hn : n < 128) :
    decimal k ++ decimal c = decimal n ↔ k ≠ 0 ∧ n = joined k c := by
  have hjoined : joined k c < 256 := by
    rw [joined]
    split <;> omega
  constructor
  · intro h
    have hk0 : k ≠ 0 := by
      rintro rfl
      -- the value would be that of the channel alone, which has fewer digits
      have hvalue := congrArg (List.foldl (fun value d => 10 * value + (d.toNat - 48)) 0) h
      rw [List.foldl_append, foldl_decimal (show n < 256 by omega)] at hvalue
      have hcn : c = n := (foldl_decimal (show c < 256 by omega)).symm.trans hvalue
      rw [hcn] at h
      exact absurd (List.append_left_eq_self.1 h) (by decide)
    refine ⟨hk0, decimal_inj (by omega) hjoined ?_⟩
    rw [← decimal_joined k hk c hc hk0, h]
  · rintro ⟨hk0, rfl⟩
    exact decimal_joined k hk c hc hk0

/-- The number of an output, as it is printed. -/
lemma decimal_outputNumber {secPin : UInt8} (h : 0x81 ≤ secPin.toNat) :
    decimal (secPin.toNat - 0x81) = decimal ((secPin.toNat - 0x81 : ℕ) : ℤ) :=
  congrArg decimal (by omega)

/-- A number behind a text that is also the text of the entry. -/
lemma placedName_numbered {text : CStr} (htext : ∀ k < 3, e.text k = text ++ decimal k)
    (hpin : 0x81 ≤ pin.secPin.toNat) {k : ℕ} (hk : k < 3) :
    text ++ decimal (pin.secPin.toNat - 0x81) = pin.placedName e (some k) ↔
      k ≠ 0 ∧ pin.secPin.toNat = 0x81 + joined k (pin.secChan &&& 0x1F).toNat := by
  have hlt : pin.secPin.toNat < 256 := pin.secPin.toNat_lt
  rw [PinDesc.placedName, htext k hk, List.append_assoc, decimal_outputNumber hpin,
    List.append_cancel_left_eq, eq_comm,
    decimal_append_iff hk (channel_lt pin.secChan) (by omega)]
  omega

/-- An input multiplexer: the text begins with `Addr` or `Data`. -/
lemma coincides_inmux (he : e ∈ pinNames ++ pinNamesXml) (htag : e.tag = pin.secTag)
    (hinmux : pin.secTag = hm2GtagInmux) (hpin : pin.secPin &&& 0x0F ≠ 0) {s : Option ℕ}
    (hs : ∀ k ∈ s, k < 3) (h : inmuxName pin.secPin = pin.placedName e s) :
    pin.Coincides s := by
  have htext := fun k (hk : k < 3) => text_inmux he (htag.trans hinmux) hk
  rw [inmuxName] at h
  cases s with
  | none =>
      have hhead := congrArg List.head? h
      split_ifs at hhead
      · change (ascii "Addr").head? = (ascii "Unknown").head? at hhead
        exact absurd hhead (by decide)
      · change (ascii "Data").head? = (ascii "Unknown").head? at hhead
        exact absurd hhead (by decide)
  | some k =>
      split_ifs at h with hbit
      · obtain ⟨hk, hnumber⟩ :=
          (placedName_numbered htext (outputPin_ge hpin hbit) (hs k rfl)).1 h
        exact .inr ⟨hk, by simp [hinmux], hnumber⟩
      · rw [PinDesc.placedName, htext k (hs k rfl)] at h
        have hhead := congrArg List.head? h
        change (ascii "Data").head? = (ascii "Addr").head? at hhead
        exact absurd hhead (by decide)

/-- An output module: the text begins with `Output`, or the pin is unknown. -/
lemma coincides_outm (he : e ∈ pinNames ++ pinNamesXml) (htag : e.tag = pin.secTag)
    (houtm : pin.secTag = hm2GtagOutm) (hpin : pin.secPin &&& 0x0F ≠ 0) {s : Option ℕ}
    (hs : ∀ k ∈ s, k < 3)
    (h : (outmName pin.secPin).getD (unknownName pin) = pin.placedName e s) :
    pin.Coincides s := by
  rcases outputBit_cases pin.secPin with hbit | hbit
  · rw [outmName, if_pos hbit] at h
    cases s with
    | none =>
        have hhead := congrArg List.head? h
        change (ascii "Output").head? = (ascii "Unknown").head? at hhead
        exact absurd hhead (by decide)
    | some k =>
        obtain ⟨hk, hnumber⟩ := (placedName_numbered (fun _ => text_outm he (htag.trans houtm))
          (outputPin_ge hpin hbit) (hs k rfl)).1 h
        exact .inr ⟨hk, by simp [houtm], hnumber⟩
  · rw [outmName, hbit, if_neg (by decide)] at h
    have hnone : none = s := placedName_inj he (fun k hk => by cases hk) hs h
    subst hnone
    exact ⟨houtm, hbit⟩

/-- Any other module: the text is a name of the entry. -/
lemma coincides_text (he : e ∈ pinNames) (htag : e.tag = pin.secTag)
    (houtm : pin.secTag ≠ hm2GtagOutm) {m : ℕ} (hm : (pin.secPin &&& 0x0F).toNat = m + 1)
    (hlength : m < e.names.length) {s : Option ℕ} (hs : ∀ k ∈ s, k < 3)
    (h : e.text m = pin.placedName e s) : pin.Coincides s := by
  have he' : e ∈ pinNames ++ pinNamesXml := List.mem_append_left _ he
  have hlt := nibble_lt pin.secPin
  cases s with
  | none =>
      rw [← List.append_nil (e.text m)] at h
      exact absurd h (text_ne_unknownName he' hlength [])
  | some k =>
      obtain ⟨d, hd, hdecimal⟩ := decimal_eq_cons ((channel_lt pin.secChan).trans (by decide))
      rw [PinDesc.placedName] at h
      have hpre : (e.text k).isPrefixOf (e.text m) := by
        rw [h]
        simp
      rcases text_digit e he (fun h => houtm (htag.symm.trans h)) k (hs k rfl) m (by omega) hpre
        with ⟨rfl, rfl, hnull⟩ | hno
      · -- `Null1` with the channel behind it is `Null10`
        refine .inl ⟨rfl, htag ▸ hnull, ?_, UInt8.toNat_inj.1 hm⟩
        rw [text_null he' hnull] at h
        exact UInt8.toNat_inj.1 (decimal_inj (by decide) ((channel_lt _).trans (by decide))
          (List.append_cancel_left h)).symm
      · refine absurd ?_ (hno d hd)
        rw [h, hdecimal, List.getElem?_append_right le_rfl, Nat.sub_self]
        rfl

lemma nibble_succ (hpin : pin.secPin &&& 0x0F ≠ 0) :
    ∃ m, (pin.secPin &&& 0x0F).toNat = m + 1 :=
  Nat.exists_eq_succ_of_ne_zero fun h0 => hpin (UInt8.toNat_inj.1 h0)

/-- The name that the nibble counts from 1. -/
lemma nameAt_nibble (he : e ∈ pinNames ++ pinNamesXml) {m : ℕ}
    (hm : (pin.secPin &&& 0x0F).toNat = m + 1) :
    e.nameAt ((pin.secPin &&& 0x0F).toNat - 1) =
      if m < e.names.length then .ok (e.text m) else .error (.undefined .nullString) := by
  have hlt := nibble_lt pin.secPin
  have hmax : namesPerTag = 32 := rfl
  have hindex : (((pin.secPin &&& 0x0F).toNat : ℤ) - 1) = (m : ℕ) := by omega
  rw [hindex, PinName.nameAt_natCast he, if_neg (show ¬ namesPerTag ≤ m by omega)]

/-- The decoding by the secondary tag reads like a place only where the two coincide. -/
lemma coincides_of_secondaryName (he : e ∈ pinNames) (htag : e.tag = pin.secTag)
    (hpin : pin.secPin &&& 0x0F ≠ 0) {s : Option ℕ} (hs : ∀ k ∈ s, k < 3)
    (h : pin.secondaryName e = .ok (pin.placedName e s)) : pin.Coincides s := by
  have he' : e ∈ pinNames ++ pinNamesXml := List.mem_append_left _ he
  obtain ⟨m, hm⟩ := nibble_succ hpin
  rw [PinDesc.secondaryName, nameAt_nibble he' hm] at h
  split_ifs at h with hinmux houtm hlength
  · exact coincides_inmux he' htag hinmux hpin hs (Except.ok.inj h)
  · exact coincides_outm he' htag houtm hpin hs (Except.ok.inj h)
  · exact coincides_text he htag houtm hm hlength hs (Except.ok.inj h)

/-- Where the two coincide, they give one text. -/
lemma secondaryName_of_coincides (he : e ∈ pinNames ++ pinNamesXml) (htag : e.tag = pin.secTag)
    {s : Option ℕ} (hs : ∀ k ∈ s, k < 3) (h : pin.Coincides s) :
    pin.secondaryName e = .ok (pin.placedName e s) := by
  cases s with
  | none =>
      obtain ⟨houtm, hbit⟩ := h
      rw [PinDesc.secondaryName, houtm, if_neg (by decide), if_pos rfl, outmName, hbit,
        if_neg (by decide)]
      rfl
  | some k =>
      rcases h with ⟨rfl, hnull, hchan, hnibble⟩ | ⟨hk, hnumbered, hnumber⟩
      · have hinmux : pin.secTag ≠ hm2GtagInmux := by
          intro h
          rw [h] at hnull
          exact absurd hnull (by decide)
        have houtm : pin.secTag ≠ hm2GtagOutm := by
          intro h
          rw [h] at hnull
          exact absurd hnull (by decide)
        rw [PinDesc.secondaryName, if_neg hinmux, if_neg houtm, hnibble]
        change e.nameAt ((9 : ℕ) : ℤ) = _
        have hnine : 9 < e.names.length := ten_le_length he
        rw [PinName.nameAt_natCast he, if_pos hnine, text_null he (htag ▸ hnull),
          PinDesc.placedName, hchan]
        rfl
      · have hge : 0x81 ≤ pin.secPin.toNat := by omega
        have hbit : pin.secPin &&& 0x80 = 0x80 := outputPin_of_ge hge
        have hnumbered' : pin.secTag = hm2GtagInmux ∨ pin.secTag = hm2GtagOutm := by
          simpa using hnumbered
        rw [PinDesc.secondaryName]
        rcases hnumbered' with hinmux | houtm
        · rw [if_pos hinmux, inmuxName, if_pos hbit]
          exact congrArg Except.ok ((placedName_numbered
            (fun _ => text_inmux he (htag.trans hinmux)) hge (hs k rfl)).2 ⟨hk, hnumber⟩)
        · rw [houtm, if_neg (by decide), if_pos rfl, outmName, if_pos hbit]
          exact congrArg Except.ok ((placedName_numbered
            (fun _ => text_outm he (htag.trans houtm)) hge (hs k rfl)).2 ⟨hk, hnumber⟩)

/-- The decoding by the secondary tag gives a name where it has one. -/
lemma exists_secondaryName_iff (he : e ∈ pinNames ++ pinNamesXml) (htag : e.tag = pin.secTag)
    (hpin : pin.secPin &&& 0x0F ≠ 0) :
    (∃ name, pin.secondaryName e = .ok name) ↔ pin.Spelled := by
  obtain ⟨m, hm⟩ := nibble_succ hpin
  have hlt := nibble_lt pin.secPin
  have hten : pin.secPin &&& 0x0F ≤ 10 ↔ m < 10 := by
    rw [UInt8.le_iff_toNat_le, hm]
    exact Nat.lt_iff_add_one_le.symm
  rw [PinDesc.secondaryName, PinDesc.Spelled, hten, nameAt_nibble he hm, length_names he, htag]
  split_ifs with hinmux houtm hinm hm32 hm10
  · simp [hinmux]
  · simp [houtm]
  · have hspelled : pin.secTag = hm2GtagInm := by simpa [houtm] using hinm
    simp [hspelled]
  · omega
  · simp [hm10]
  · have hnot : pin.secTag ≠ hm2GtagInm := fun h => hinm (by simp [h])
    simp [hm10, hnot, hinmux, houtm]

/-! ### Pairs of decodings -/

/-- The name that a decoding gives. -/
def PinDesc.nameBy (pin : PinDesc) (e : PinName) : Option ModuleDecoding → Except Fault CStr
  | none => pin.secondaryName e
  | some d => .ok (pin.placedName e (d.place pin.secPin))

variable {o o' : Option ModuleDecoding}

lemma agree_of_nameBy (he : e ∈ pinNames) (htag : e.tag = pin.secTag)
    (hpin : pin.secPin &&& 0x0F ≠ 0)
    (h : ∃ name, pin.nameBy e o = .ok name ∧ pin.nameBy e o' = .ok name) : pin.Agree o o' := by
  obtain ⟨name, ho, ho'⟩ := h
  have he' : e ∈ pinNames ++ pinNamesXml := List.mem_append_left _ he
  cases o with
  | none =>
      cases o' with
      | none => exact (exists_secondaryName_iff he' htag hpin).1 ⟨name, ho⟩
      | some d =>
          exact coincides_of_secondaryName he htag hpin (d.place_lt _) (ho.trans ho'.symm)
  | some d =>
      cases o' with
      | none => exact coincides_of_secondaryName he htag hpin (d.place_lt _) (ho'.trans ho.symm)
      | some d' =>
          exact placedName_inj he' (d.place_lt _) (d'.place_lt _)
            (Except.ok.inj (ho.trans ho'.symm))

lemma nameBy_of_agree (he : e ∈ pinNames ++ pinNamesXml) (htag : e.tag = pin.secTag)
    (hpin : pin.secPin &&& 0x0F ≠ 0) (h : pin.Agree o o') :
    ∃ name, pin.nameBy e o = .ok name ∧ pin.nameBy e o' = .ok name := by
  cases o with
  | none =>
      cases o' with
      | none =>
          obtain ⟨name, hname⟩ := (exists_secondaryName_iff he htag hpin).2 h
          exact ⟨name, hname, hname⟩
      | some d => exact ⟨_, secondaryName_of_coincides he htag (d.place_lt _) h, rfl⟩
  | some d =>
      cases o' with
      | none => exact ⟨_, rfl, secondaryName_of_coincides he htag (d.place_lt _) h⟩
      | some d' =>
          refine ⟨_, rfl, ?_⟩
          have hplace : d.place pin.secPin = d'.place pin.secPin := h
          rw [PinDesc.nameBy, hplace]

/-- A smart-serial pin or a relay has a name. -/
lemma exists_entryName (he : e ∈ pinNames ++ pinNamesXml) (hfore : pin.secTag ∈ foremostTags) :
    ∃ name, e.entryName pin = .ok name := by
  have hlength := ten_le_length he
  by_cases hserial : pin.secTag = hm2GtagSserial ∨ pin.secTag = hm2GtagSserialb
  · have hplace : ∀ k ∈ sserialPlace pin.secPin, k < 10 := by
      intro k hk
      rw [sserialPlace] at hk
      split_ifs at hk <;> simp_all <;> omega
    rw [PinName.entryName, if_pos hserial, PinName.numbered_eq he hplace]
    exact ⟨_, rfl⟩
  · have hssr : pin.secTag = hm2GtagSsr := by
      simp only [foremostTags, List.mem_cons, List.not_mem_nil, or_false] at hfore
      tauto
    rw [PinName.entryName, if_neg hserial, if_pos hssr, PinName.ssrName]
    have hzero := PinName.nameAt_natCast he 0
    have hone := PinName.nameAt_natCast he 1
    rw [if_pos (by omega)] at hzero hone
    split_ifs
    · exact ⟨_, congrArg (· >>= _) hzero⟩
    · exact ⟨_, congrArg (· >>= _) hone⟩
    · exact ⟨_, rfl⟩

/-- There the primary tag does not count. -/
lemma entryName_gtag (hfore : pin.secTag ∈ foremostTags) (g : UInt8) :
    e.entryName { pin with gtag := g } = e.entryName pin := by
  rw [PinName.entryName, PinName.entryName]
  by_cases hserial : pin.secTag = hm2GtagSserial ∨ pin.secTag = hm2GtagSserialb
  · rw [if_pos hserial, if_pos hserial]
  · have hssr : pin.secTag = hm2GtagSsr := by
      simp only [foremostTags, List.mem_cons, List.not_mem_nil, or_false] at hfore
      tauto
    rw [if_neg hserial, if_neg hserial, if_pos hssr, if_pos hssr]

end Decodings

/-! ### The names of two pins -/

section Pairs

variable {p p' : PinDesc}

/-- One name is given exactly where the decodings agree. -/
lemma sameName_iff (hsec : SameSecondary p p') (htag : p.secTag ∈ pinNames.map (·.tag))
    (hpin : p.secPin &&& 0x0F ≠ 0) : SameName p p' ↔ DecodingsAgree p p' := by
  obtain ⟨g, rfl⟩ : ∃ g, p' = { p with gtag := g } := by
    obtain ⟨htag, hchan, hpin⟩ := hsec
    exact ⟨p'.gtag, by rw [htag, hchan, hpin]⟩
  by_cases hfore : p.secTag ∈ foremostTags
  · refine iff_of_true (fun xmlFlag => ?_) (.inl hfore)
    obtain ⟨e, he, -, hget⟩ := exists_entry htag xmlFlag
    obtain ⟨name, hname⟩ := exists_entryName (mem_pinTable he) hfore
    have hname' : e.entryName { p with gtag := g } = .ok name :=
      (entryName_gtag hfore g).trans hname
    refine ⟨name.getD (unknownName p), ?_, ?_⟩
    · rw [hget p rfl, hname]
      rfl
    · rw [hget { p with gtag := g } rfl, hname']
      rfl
  · -- the name is the one that the decoding of the primary tag gives
    have hname : ∀ xmlFlag, ∃ e ∈ pinTable xmlFlag, e.tag = p.secTag ∧
        ∀ g, pinGetPinName { p with gtag := g } xmlFlag =
          p.nameBy e { p with gtag := g }.decoding := by
      intro xmlFlag
      obtain ⟨e, he, hetag, hget⟩ := exists_entry htag xmlFlag
      refine ⟨e, he, hetag, fun g => ?_⟩
      rw [hget { p with gtag := g } rfl]
      rcases hd : PinDesc.decoding { p with gtag := g } with - | d
      · refine entryName_of_secondary ?_ hd
        exact hfore
      · refine entryName_of_decoding (mem_pinTable he) ?_ hd
        exact hfore
    rw [DecodingsAgree, or_iff_right hfore]
    constructor
    · intro hsame
      obtain ⟨e, he, hetag, hget⟩ := hname 0
      obtain ⟨name, h, h'⟩ := hsame 0
      exact agree_of_nameBy he hetag hpin ⟨name, (hget p.gtag).symm.trans h, (hget g).symm.trans h'⟩
    · intro hagree xmlFlag
      obtain ⟨e, he, hetag, hget⟩ := hname xmlFlag
      obtain ⟨name, h, h'⟩ := nameBy_of_agree (mem_pinTable he) hetag hpin hagree
      exact ⟨name, (hget p.gtag).trans h, (hget g).trans h'⟩

/-- **Names by the secondary function.**  Two pins with one secondary function get its name
exactly when the decodings agree that their primary tags choose, and when, for a module with a
decoding of its own, they agree with this decoding. -/
theorem namesFollow_iff (hsec : SameSecondary p p') (htag : p.secTag ∈ pinNames.map (·.tag))
    (hpin : p.secPin &&& 0x0F ≠ 0) :
    NamesFollow p p' ↔ DecodingsAgree p p' ∧
      (p.secTag ∈ decodedTags → DecodingsAgree p { p with gtag := p.secTag }) := by
  have hown : SameName p { p with gtag := p.secTag } ↔
      DecodingsAgree p { p with gtag := p.secTag } := sameName_iff ⟨rfl, rfl, rfl⟩ htag hpin
  rw [NamesFollow, sameName_iff hsec htag hpin, hown]

/-- The first input of an encoder. -/
def encoderInput (gtag : UInt8) : PinDesc := ⟨0x01, hm2GtagEncoder, 0, gtag⟩

/-- It has one name on a pin of a port and on a local pin. -/
theorem encoderInput_follows :
    NamesFollow (encoderInput hm2GtagIoport) (encoderInput hm2GtagLioport) := by
  have hsec : SameSecondary (encoderInput hm2GtagIoport) (encoderInput hm2GtagLioport) :=
    ⟨rfl, rfl, rfl⟩
  refine (namesFollow_iff hsec (by decide) (by decide)).2 ⟨.inr ?_, ?_⟩
  · exact Or.inr (by decide)
  · exact fun h => absurd h (by decide)

/-- The strobe of a FIFO on a pin of a port, which is called `Data`. -/
theorem strobe_not_follows : ¬ ∀ p p' : PinDesc, SameSecondary p p' →
    p.secTag ∈ pinNames.map (·.tag) → p.secPin &&& 0x0F ≠ 0 → NamesFollow p p' := by
  intro hall
  obtain ⟨hsame, -⟩ := hall ⟨0x41, hm2GtagDaqFifo, 0, hm2GtagIoport⟩
    ⟨0x41, hm2GtagDaqFifo, 0, hm2GtagDaqFifo⟩ ⟨rfl, rfl, rfl⟩ (by decide) (by decide)
  obtain ⟨name, h, h'⟩ := hsame 0
  have hdata : name = ascii "Data" := (Except.ok.inj h).symm
  have hstrobe : name = ascii "Strobe0" := (Except.ok.inj h').symm
  exact absurd (hdata.symm.trans hstrobe) (by decide)

end Pairs

end Mesaflash
