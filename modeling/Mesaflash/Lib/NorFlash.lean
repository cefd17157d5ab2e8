import Mathlib.Tactic.Common
import Mathlib.Data.List.Basic

/-!
A serial NOR flash memory.

The memory is an array of cells, grouped into pages and the pages into sectors.
Erasing a sector sets all its cells to `0xFF`; programming a page can only clear
bits, so a cell then holds the conjunction of what it held and what was written;
reading delivers the cells from an address on.  The address counter of the chip
has as many bits as the array needs: an address beyond the end reaches the cell
that it is congruent to.

The two questions that a programmer of such a memory has are answered here for
any list of writes: what a cell holds afterwards (`programAll_eq`), and when
everything that was written reads back (`readback_iff`).
-/

namespace Mesaflash.Lib

/-- The layout of a flash memory. -/
structure Geometry where
  page : ℕ
  sector : ℕ
  size : ℕ
  page_pos : 0 < page
  size_pos : 0 < size
  page_dvd : page ∣ sector
  sector_dvd : sector ∣ size

/-- The contents of a flash memory. -/
abbrev Flash (G : Geometry) : Type := Fin G.size → UInt8

/-- The contents of a page. -/
abbrev Page (G : Geometry) : Type := Fin G.page → UInt8

namespace Flash

variable {G : Geometry}

/-- The cell that an address reaches. -/
def cell (G : Geometry) (a : ℕ) : Fin G.size := ⟨a % G.size, Nat.mod_lt a G.size_pos⟩

/-- Two addresses or cells that lie in the same page. -/
def SamePage (G : Geometry) (a : ℕ) (p : Fin G.size) : Prop :=
  (p : ℕ) / G.page = (cell G a : ℕ) / G.page

/-- Two addresses or cells that lie in the same sector. -/
def SameSector (G : Geometry) (a : ℕ) (p : Fin G.size) : Prop :=
  (p : ℕ) / G.sector = (cell G a : ℕ) / G.sector

instance (a : ℕ) (p : Fin G.size) : Decidable (SamePage G a p) :=
  inferInstanceAs (Decidable (_ = _))

instance (a : ℕ) (p : Fin G.size) : Decidable (SameSector G a p) :=
  inferInstanceAs (Decidable (_ = _))

/-- Which byte of a page written at address `a` reaches cell `p`; the writes wrap
around inside the page. -/
def slot (a : ℕ) (p : Fin G.size) : Fin G.page :=
  ⟨(p + (G.page - a % G.page)) % G.page, Nat.mod_lt _ G.page_pos⟩

/-- The page of bytes from address `a` on. -/
def readPage (f : Flash G) (a : ℕ) : Page G := fun k => f (cell G (a + k))

/-- Erase the sector that holds address `a`. -/
def eraseSector (a : ℕ) (f : Flash G) : Flash G := fun p => if SameSector G a p then 255 else f p

/-- Program the page that holds address `a`. -/
def programPage (a : ℕ) (d : Page G) (f : Flash G) : Flash G := fun p =>
  if SamePage G a p then f p &&& d (slot a p) else f p

/-- Erase the sectors of a list of addresses. -/
def eraseAll (l : List ℕ) (f : Flash G) : Flash G := l.foldl (fun f a => eraseSector a f) f

/-- Program a list of pages, each with its address. -/
def programAll (w : List (ℕ × Page G)) (f : Flash G) : Flash G :=
  w.foldl (fun f x => programPage x.1 x.2 f) f

/-! ### Addresses -/

lemma page_dvd_size (G : Geometry) : G.page ∣ G.size := Nat.dvd_trans G.page_dvd G.sector_dvd

@[simp] lemma cell_val (a : ℕ) : (cell G a : ℕ) = a % G.size := rfl

lemma cell_of_lt {a : ℕ} (h : a < G.size) : (cell G a : ℕ) = a := Nat.mod_eq_of_lt h

@[simp] lemma cell_coe (p : Fin G.size) : cell G p = p := Fin.ext (cell_of_lt p.isLt)

/-- An aligned block does not run over the end of the memory. -/
lemma cell_add_of_dvd {g a k : ℕ} (hg : g ∣ G.size) (ha : g ∣ a) (hk : k < g) :
    (cell G (a + k) : ℕ) = cell G a + k := by
  obtain ⟨c, hc⟩ := ha
  obtain ⟨n, hn⟩ := hg
  have hmod : a % G.size = g * (c % n) := by rw [hc, hn, Nat.mul_mod_mul_left]
  have hlt : c % n < n := by
    refine Nat.mod_lt c (Nat.pos_of_ne_zero ?_)
    rintro rfl
    exact absurd G.size_pos (by simp [hn])
  have hroom : a % G.size + k < G.size := by
    have := Nat.mul_le_mul_left g hlt
    rw [Nat.mul_succ] at this
    omega
  simp only [cell_val]
  rw [← Nat.mod_add_mod, Nat.mod_eq_of_lt hroom]

lemma cell_add {a k : ℕ} (ha : G.page ∣ a) (hk : k < G.page) :
    (cell G (a + k) : ℕ) = cell G a + k :=
  cell_add_of_dvd (page_dvd_size G) ha hk

/-- The cells behind an aligned address lie in its sector. -/
lemma sameSector_add {a k : ℕ} (ha : G.sector ∣ a) (hk : k < G.sector) :
    SameSector G a (cell G (a + k)) := by
  obtain ⟨c, hc⟩ := (Nat.dvd_mod_iff G.sector_dvd).2 ha
  rw [SameSector, cell_add_of_dvd G.sector_dvd ha hk, cell_val, hc,
    Nat.mul_add_div (by omega), Nat.div_eq_of_lt hk, Nat.mul_div_cancel_left c (by omega),
    Nat.add_zero]

lemma page_dvd_cell {a : ℕ} (ha : G.page ∣ a) : G.page ∣ (cell G a : ℕ) :=
  (Nat.dvd_mod_iff (page_dvd_size G)).2 ha

lemma samePage_add {a k : ℕ} (ha : G.page ∣ a) (hk : k < G.page) :
    SamePage G a (cell G (a + k)) := by
  obtain ⟨c, hc⟩ := page_dvd_cell ha
  rw [SamePage, cell_add ha hk, hc, Nat.mul_add_div G.page_pos, Nat.div_eq_of_lt hk,
    Nat.mul_div_cancel_left c G.page_pos, Nat.add_zero]

lemma slot_val {a : ℕ} (ha : G.page ∣ a) (p : Fin G.size) :
    (slot a p : ℕ) = (p : ℕ) % G.page := by
  simp [slot, Nat.mod_eq_zero_of_dvd ha]

lemma slot_add {a : ℕ} (ha : G.page ∣ a) (k : Fin G.page) :
    slot a (cell G (a + k)) = k := by
  obtain ⟨c, hc⟩ := page_dvd_cell ha
  apply Fin.ext
  rw [slot_val ha, cell_add ha k.isLt, hc, Nat.mul_add_mod, Nat.mod_eq_of_lt k.isLt]

/-- The cells of an aligned page are the ones at its offsets. -/
lemma samePage_iff {a : ℕ} (ha : G.page ∣ a) {p : Fin G.size} :
    SamePage G a p ↔ p = cell G (a + (slot a p : Fin G.page)) := by
  constructor
  · intro h
    obtain ⟨c, hc⟩ := page_dvd_cell ha
    apply Fin.ext
    have hp := Nat.div_add_mod (p : ℕ) G.page
    rw [h, hc, Nat.mul_div_cancel_left c G.page_pos, ← hc, ← slot_val ha] at hp
    rw [cell_add ha (slot a p).isLt]
    exact hp.symm
  · intro h
    rw [h]
    exact samePage_add ha (slot a p).isLt

lemma SamePage.cell_eq {a b : ℕ} (ha : G.page ∣ a) (hb : G.page ∣ b) {p : Fin G.size}
    (h : SamePage G a p) (h' : SamePage G b p) : cell G a = cell G b := by
  obtain ⟨c, hc⟩ := page_dvd_cell ha
  obtain ⟨d, hd⟩ := page_dvd_cell hb
  rw [SamePage, hc, Nat.mul_div_cancel_left _ G.page_pos] at h
  rw [SamePage, hd, Nat.mul_div_cancel_left _ G.page_pos] at h'
  apply Fin.ext
  rw [hc, hd, ← h, ← h']

/-! ### Long addresses -/

section Long

variable {m : ℕ}

/-- The address counter of the chip does not notice what is above the end of the memory. -/
lemma cell_mod_add (hm : G.size ∣ m) (a k : ℕ) : cell G (a % m + k) = cell G (a + k) := by
  apply Fin.ext
  rw [cell_val, cell_val, Nat.add_mod, Nat.mod_mod_of_dvd a hm, ← Nat.add_mod]

lemma cell_mod (hm : G.size ∣ m) (a : ℕ) : cell G (a % m) = cell G a := cell_mod_add hm a 0

lemma slot_mod (hm : G.size ∣ m) (a : ℕ) (p : Fin G.size) : slot (a % m) p = slot a p := by
  apply Fin.ext
  simp only [slot, Nat.mod_mod_of_dvd a (Nat.dvd_trans (page_dvd_size G) hm)]

lemma readPage_mod (hm : G.size ∣ m) (f : Flash G) (a : ℕ) : readPage f (a % m) = readPage f a :=
  funext fun k => congrArg f (cell_mod_add hm a k)

lemma eraseSector_mod (hm : G.size ∣ m) (a : ℕ) (f : Flash G) :
    eraseSector (a % m) f = eraseSector a f := by
  funext p
  have hsame : SameSector G (a % m) p ↔ SameSector G a p := by
    rw [SameSector, SameSector, cell_mod hm]
  exact if_congr hsame rfl rfl

lemma programPage_mod (hm : G.size ∣ m) (a : ℕ) (d : Page G) (f : Flash G) :
    programPage (a % m) d f = programPage a d f := by
  funext p
  have hsame : SamePage G (a % m) p ↔ SamePage G a p := by rw [SamePage, SamePage, cell_mod hm]
  rw [programPage, programPage, slot_mod hm]
  exact if_congr hsame rfl rfl

end Long

/-! ### Bits -/

lemma and_idem_right (a b : UInt8) : a &&& b &&& b = a &&& b := by
  rw [UInt8.and_assoc, UInt8.and_self]

lemma and_erased (b : UInt8) : 255 &&& b = b := UInt8.neg_one_and

/-- `b` has no bit that `a` lacks; then writing `b` over `a` yields `b`. -/
def Clears (a b : UInt8) : Prop := b &&& a = b

instance (a b : UInt8) : Decidable (Clears a b) := inferInstanceAs (Decidable (_ = _))

lemma Clears.trans {a b c : UInt8} (h : Clears a b) (h' : Clears b c) : Clears a c := by
  unfold Clears at *
  rw [← h', UInt8.and_assoc, h]

lemma clears_and (a b : UInt8) : Clears a (a &&& b) := by
  unfold Clears
  rw [UInt8.and_comm a b, and_idem_right]

lemma Clears.and_eq {a b : UInt8} (h : Clears a b) : a &&& b = b := by
  rw [UInt8.and_comm]
  exact h

/-! ### Erasing -/

/-- One of the erased sectors holds the cell. -/
def Erased (l : List ℕ) (p : Fin G.size) : Prop := ∃ a ∈ l, SameSector G a p

instance (l : List ℕ) (p : Fin G.size) : Decidable (Erased l p) :=
  inferInstanceAs (Decidable (∃ a ∈ l, _))

lemma erased_cons {a : ℕ} {l : List ℕ} {p : Fin G.size} :
    Erased (a :: l) p ↔ SameSector G a p ∨ Erased l p :=
  List.exists_mem_cons_iff _ _ _

lemma eraseAll_eq (l : List ℕ) (f : Flash G) (p : Fin G.size) :
    eraseAll l f p = if Erased l p then 255 else f p := by
  induction l generalizing f with
  | nil => simp [eraseAll, Erased]
  | cons a l ih =>
      rw [eraseAll, List.foldl_cons, ← eraseAll, ih, eraseSector]
      by_cases h : Erased l p
      · rw [if_pos h, if_pos (erased_cons.2 (.inr h))]
      · by_cases ha : SameSector G a p
        · rw [if_neg h, if_pos ha, if_pos (erased_cons.2 (.inl ha))]
        · rw [if_neg h, if_neg ha, if_neg fun h' => (erased_cons.1 h').elim ha h]

/-! ### Programming -/

lemma programAll_cons (x : ℕ × Page G) (w : List (ℕ × Page G)) (f : Flash G) :
    programAll (x :: w) f = programAll w (programPage x.1 x.2 f) := rfl

/-- A cell of which all writes agree holds the conjunction of the old byte and the
written one. -/
lemma programAll_eq {w : List (ℕ × Page G)} {p : Fin G.size} {v : UInt8}
    (h : ∀ x ∈ w, SamePage G x.1 p → x.2 (slot x.1 p) = v) (f : Flash G) :
    programAll w f p = if ∃ x ∈ w, SamePage G x.1 p then f p &&& v else f p := by
  induction w generalizing f with
  | nil => simp [programAll]
  | cons x w ih =>
      rw [programAll_cons, ih fun y hy => h y (List.mem_cons_of_mem x hy)]
      by_cases hx : SamePage G x.1 p
      · have hv := h x List.mem_cons_self hx
        have hone : programPage x.1 x.2 f p = f p &&& v := by rw [programPage, if_pos hx, hv]
        rw [hone, and_idem_right, ite_self, if_pos ⟨x, List.mem_cons_self, hx⟩]
      · have hone : programPage x.1 x.2 f p = f p := by rw [programPage, if_neg hx]
        have hany : (∃ y ∈ x :: w, SamePage G y.1 p) ↔ ∃ y ∈ w, SamePage G y.1 p := by
          rw [List.exists_mem_cons_iff, or_iff_right hx]
        rw [hone]
        exact if_congr hany.symm rfl rfl

/-- Programming only clears bits. -/
lemma programAll_clears (w : List (ℕ × Page G)) (f : Flash G) (p : Fin G.size) :
    Clears (f p) (programAll w f p) := by
  induction w generalizing f with
  | nil => exact UInt8.and_self
  | cons x w ih =>
      rw [programAll_cons]
      refine Clears.trans ?_ (ih (programPage x.1 x.2 f))
      by_cases hx : SamePage G x.1 p
      · rw [programPage, if_pos hx]
        exact clears_and _ _
      · rw [programPage, if_neg hx]
        exact UInt8.and_self

/-- **What was written reads back exactly when every write clears only bits that
were set, and the writes to one page agree.** -/
theorem readback_iff {w : List (ℕ × Page G)} (haligned : ∀ x ∈ w, G.page ∣ x.1) (f : Flash G) :
    (∀ x ∈ w, readPage (programAll w f) x.1 = x.2) ↔
      (∀ x ∈ w, ∀ k, Clears (readPage f x.1 k) (x.2 k)) ∧
        ∀ x ∈ w, ∀ y ∈ w, cell G x.1 = cell G y.1 → x.2 = y.2 := by
  constructor
  · intro h
    refine ⟨fun x hx k => ?_, fun x hx y hy hxy => ?_⟩
    · rw [← congrFun (h x hx) k]
      exact programAll_clears w f _
    · -- two writes to one page are read back from the same cells
      have hread : readPage (programAll w f) x.1 = readPage (programAll w f) y.1 := by
        funext k
        have hk : cell G (x.1 + k) = cell G (y.1 + k) := Fin.ext (by
          rw [cell_add (haligned x hx) k.isLt, cell_add (haligned y hy) k.isLt, hxy])
        simp only [readPage, hk]
      rw [← h x hx, hread, h y hy]
  · rintro ⟨hclear, hagree⟩ x hx
    funext k
    have hsame := samePage_add (haligned x hx) k.isLt
    -- all writes to the cell write the same byte
    have hall : ∀ y ∈ w, SamePage G y.1 (cell G (x.1 + k)) →
        y.2 (slot y.1 (cell G (x.1 + k))) = x.2 k := by
      intro y hy hp
      have hcell := SamePage.cell_eq (haligned y hy) (haligned x hx) hp hsame
      have hslot : slot y.1 (cell G (x.1 + k)) = k := by
        apply Fin.ext
        rw [slot_val (haligned y hy), ← slot_val (haligned x hx), slot_add (haligned x hx)]
      rw [hagree y hy x hx hcell, hslot]
    rw [readPage, programAll_eq hall, if_pos ⟨x, hx, hsame⟩]
    exact Clears.and_eq (hclear x hx k)

/-! ### Erasing, programming and reading back -/

/-- Every write lands on erased memory or clears only bits that are set, and the
writes to one page agree. -/
def Programmable (l : List ℕ) (w : List (ℕ × Page G)) (f : Flash G) : Prop :=
  (∀ x ∈ w, ∀ k : Fin G.page, Erased l (cell G (x.1 + k)) ∨
    Clears (f (cell G (x.1 + k))) (x.2 k)) ∧
  ∀ x ∈ w, ∀ y ∈ w, cell G x.1 = cell G y.1 → x.2 = y.2

/-- A cell that is to hold `v`: every write to its page says so, or there is none and
the cell is erased, or kept, accordingly. -/
def Lands (l : List ℕ) (w : List (ℕ × Page G)) (f : Flash G) (p : Fin G.size) (v : UInt8) :
    Prop :=
  (∀ x ∈ w, SamePage G x.1 p → x.2 (slot x.1 p) = v) ∧
  ((∃ x ∈ w, SamePage G x.1 p) ∨ (Erased l p ∧ v = 255) ∨ (¬ Erased l p ∧ f p = v))

/-- What is programmed into erased sectors reads back exactly when it is
programmable. -/
theorem programmable_iff {l : List ℕ} {w : List (ℕ × Page G)} (haligned : ∀ x ∈ w, G.page ∣ x.1)
    (f : Flash G) :
    (∀ x ∈ w, readPage (programAll w (eraseAll l f)) x.1 = x.2) ↔ Programmable l w f := by
  rw [readback_iff haligned, Programmable]
  refine and_congr_left fun _ => forall₂_congr fun x _ => forall_congr' fun k => ?_
  rw [readPage, eraseAll_eq]
  by_cases h : Erased l (cell G (x.1 + k))
  · rw [if_pos h]
    exact iff_of_true (by rw [Clears, UInt8.and_comm, and_erased]) (.inl h)
  · rw [if_neg h, or_iff_right h]

/-- Where everything reads back, a cell holds what it is to hold. -/
theorem lands_iff {l : List ℕ} {w : List (ℕ × Page G)} (haligned : ∀ x ∈ w, G.page ∣ x.1)
    {f : Flash G} (hread : ∀ x ∈ w, readPage (programAll w (eraseAll l f)) x.1 = x.2)
    (p : Fin G.size) (v : UInt8) :
    programAll w (eraseAll l f) p = v ↔ Lands l w f p v := by
  have hslot : ∀ x ∈ w, SamePage G x.1 p →
      x.2 (slot x.1 p) = programAll w (eraseAll l f) p := by
    intro x hx hp
    rw [← hread x hx, readPage, ← (samePage_iff (haligned x hx)).1 hp]
  by_cases hw : ∃ x ∈ w, SamePage G x.1 p
  · obtain ⟨x, hx, hp⟩ := hw
    constructor
    · rintro rfl
      exact ⟨hslot, .inl ⟨x, hx, hp⟩⟩
    · rintro ⟨hall, -⟩
      rw [← hslot x hx hp, hall x hx hp]
  · -- no write: the cell is as the erasing left it
    have hnone : ∀ x ∈ w, SamePage G x.1 p → x.2 (slot x.1 p) = v := fun x hx hp =>
      absurd ⟨x, hx, hp⟩ hw
    rw [Lands, programAll_eq hnone, if_neg hw, eraseAll_eq, and_iff_right hnone, or_iff_right hw]
    by_cases he : Erased l p
    · rw [if_pos he]
      simp only [he, true_and, not_true_eq_false, false_and, or_false]
      exact eq_comm
    · rw [if_neg he]
      simp only [he, false_and, not_false_eq_true, true_and, false_or]

/-! ### Consecutive pages and sectors -/

lemma div_eq_of_bounds {c x g : ℕ} (hg : 0 < g) (h₁ : g * c ≤ x) (h₂ : x < g * c + g) :
    x / g = c := by
  obtain ⟨y, rfl⟩ := Nat.exists_eq_add_of_le h₁
  rw [Nat.mul_add_div hg, Nat.div_eq_of_lt (by omega), Nat.add_zero]

/-- A cell lies in a block of `g` cells, aligned, when it lies between its ends. -/
lemma div_eq_div_iff {a x g : ℕ} (hg : 0 < g) (ha : g ∣ a) :
    x / g = a / g ↔ a ≤ x ∧ x < a + g := by
  obtain ⟨c, rfl⟩ := ha
  rw [Nat.mul_div_cancel_left c hg]
  constructor
  · rintro rfl
    have := Nat.div_add_mod x g
    have := Nat.mod_lt x hg
    omega
  · exact fun h => div_eq_of_bounds hg h.1 h.2

lemma samePage_iff_between {a : ℕ} (ha : G.page ∣ a) (hlt : a < G.size) {p : Fin G.size} :
    SamePage G a p ↔ a ≤ p ∧ (p : ℕ) < a + G.page := by
  rw [SamePage, cell_of_lt hlt, div_eq_div_iff G.page_pos ha]

lemma sector_pos (G : Geometry) : 0 < G.sector := by
  refine Nat.pos_of_ne_zero fun h => ?_
  have hdvd := G.sector_dvd
  rw [h, Nat.zero_dvd] at hdvd
  exact absurd G.size_pos (by omega)

lemma sameSector_iff_between {a : ℕ} (ha : G.sector ∣ a) (hlt : a < G.size) {p : Fin G.size} :
    SameSector G a p ↔ a ≤ p ∧ (p : ℕ) < a + G.sector := by
  rw [SameSector, cell_of_lt hlt, div_eq_div_iff (sector_pos G) ha]

/-- The block of a cell behind `start`. -/
lemma exists_block_iff {start x g n : ℕ} (hg : 0 < g) :
    (∃ i < n, start + g * i ≤ x ∧ x < start + g * i + g) ↔ start ≤ x ∧ x < start + g * n := by
  constructor
  · rintro ⟨i, hi, h₁, h₂⟩
    have := Nat.mul_le_mul_left g hi
    rw [Nat.mul_succ] at this
    omega
  · rintro ⟨h₁, h₂⟩
    have hdiv := Nat.div_add_mod (x - start) g
    have hmod := Nat.mod_lt (x - start) hg
    exact ⟨(x - start) / g, Nat.div_lt_of_lt_mul (by omega), by omega, by omega⟩

/-- Erasing `n` sectors in a row. -/
lemma eraseAll_range {n start : ℕ} (hstart : G.sector ∣ start)
    (hfit : start + G.sector * n ≤ G.size) (f : Flash G) (p : Fin G.size) :
    eraseAll ((List.range n).map fun i => start + G.sector * i) f p =
      if start ≤ p ∧ (p : ℕ) < start + G.sector * n then 255 else f p := by
  rw [eraseAll_eq]
  refine if_congr ?_ rfl rfl
  rw [← exists_block_iff (sector_pos G)]
  constructor
  · rintro ⟨a, ha, hsame⟩
    obtain ⟨i, hi, rfl⟩ := List.mem_map.1 ha
    have hi' := List.mem_range.1 hi
    have hroom := Nat.mul_le_mul_left G.sector hi'
    rw [Nat.mul_succ] at hroom
    have := sector_pos G
    exact ⟨i, hi', (sameSector_iff_between (Nat.dvd_add hstart (Nat.dvd_mul_right _ i))
      (by omega)).1 hsame⟩
  · rintro ⟨i, hi, hbetween⟩
    exact ⟨_, List.mem_map.2 ⟨i, List.mem_range.2 hi, rfl⟩,
      (sameSector_iff_between (Nat.dvd_add hstart (Nat.dvd_mul_right _ i))
        (Nat.lt_of_le_of_lt hbetween.1 p.isLt)).2 hbetween⟩

/-- Programming `n` pages in a row. -/
lemma programAll_range {n start : ℕ} (hstart : G.page ∣ start)
    (hfit : start + G.page * n ≤ G.size) (page : ℕ → Page G) (f : Flash G) (p : Fin G.size) :
    programAll ((List.range n).map fun j => (start + G.page * j, page j)) f p =
      if start ≤ p ∧ (p : ℕ) < start + G.page * n then
        f p &&& page ((p - start) / G.page) ⟨(p - start) % G.page, Nat.mod_lt _ G.page_pos⟩
      else f p := by
  have hsame : ∀ j < n, (SamePage G (start + G.page * j) p ↔
      start + G.page * j ≤ p ∧ (p : ℕ) < start + G.page * j + G.page) := fun j hj => by
    have hroom := Nat.mul_le_mul_left G.page hj
    rw [Nat.mul_succ] at hroom
    have := G.page_pos
    exact samePage_iff_between (Nat.dvd_add hstart (Nat.dvd_mul_right _ j)) (by omega)
  have hexists : (∃ x ∈ (List.range n).map fun j => (start + G.page * j, page j),
      SamePage G x.1 p) ↔ start ≤ p ∧ (p : ℕ) < start + G.page * n := by
    rw [← exists_block_iff G.page_pos]
    constructor
    · rintro ⟨x, hx, h⟩
      obtain ⟨j, hj, rfl⟩ := List.mem_map.1 hx
      exact ⟨j, List.mem_range.1 hj, (hsame j (List.mem_range.1 hj)).1 h⟩
    · rintro ⟨j, hj, h⟩
      exact ⟨_, List.mem_map.2 ⟨j, List.mem_range.2 hj, rfl⟩, (hsame j hj).2 h⟩
  have hvalue : ∀ x ∈ (List.range n).map fun j => (start + G.page * j, page j),
      SamePage G x.1 p → x.2 (slot x.1 p) =
        page ((p - start) / G.page) ⟨(p - start) % G.page, Nat.mod_lt _ G.page_pos⟩ := by
    intro x hx h
    obtain ⟨j, hj, rfl⟩ := List.mem_map.1 hx
    obtain ⟨h₁, h₂⟩ := (hsame j (List.mem_range.1 hj)).1 h
    have hdiv : ((p : ℕ) - start) / G.page = j := div_eq_of_bounds G.page_pos (by omega) (by omega)
    have hslot : slot (start + G.page * j) p
        = ⟨(p - start) % G.page, Nat.mod_lt _ G.page_pos⟩ := by
      apply Fin.ext
      obtain ⟨c, rfl⟩ := hstart
      rw [slot_val (Nat.dvd_add (Nat.dvd_mul_right _ c) (Nat.dvd_mul_right _ j))]
      exact (Nat.sub_mul_mod (by omega)).symm
    rw [hdiv, hslot]
  rw [programAll_eq hvalue]
  exact if_congr hexists rfl rfl

end Flash

end Mesaflash.Lib
