import Mesaflash.Lib.BitOrder
import Mesaflash.RegisterAccess

/-!
SPI transfers in units of 8 and of 32 bits.

`spi_read` and `spi_write` send words, most significant bit first.  Where the controller can
only send bytes, the bytes of the words are swapped in place before the transfer, and those of
the reply after it.  The bits on the wire and the words of the reply are the same.
-/

namespace Mesaflash

open Lib

/-! ### Swapping bytes -/

/-- `p[i] ^= p[j]`. -/
def xorByte (i j : ℕ) (m : ℕ → UInt8) : ℕ → UInt8 := Function.update m i (m i ^^^ m j)

/-- The statements that swap two bytes. -/
def swapBytes (i j : ℕ) (m : ℕ → UInt8) : ℕ → UInt8 := xorByte i j (xorByte j i (xorByte i j m))

/-- The body of the loop of `reorderBuffer`. -/
def reorderWord (p : ℕ) (m : ℕ → UInt8) : ℕ → UInt8 :=
  swapBytes (p + 1) (p + 2) (swapBytes p (p + 3) m)

/-- `reorderBuffer`, with the pointer `p` that moves from word to word. -/
def reorderWords : ℕ → ℕ → (ℕ → UInt8) → ℕ → UInt8
  | 0, _, m => m
  | n + 1, p, m => reorderWords n (p + 4) (reorderWord p m)

/-! ### Reading and writing -/

/-- The SPI controller: from the bits that are sent, the result of `ioctl` and the bits that
come back. -/
structure SpiController (σ : Type) where
  exchange : List Bool → σ → ℤ × (ℕ → Bool) × σ

/-- What a controller works on, and the bits that it has put on the wire. -/
structure SpiBus (σ : Type) where
  dev : σ
  wire : List Bool

/-- `settings.bits_per_word`, in bytes. -/
def bytesPerWord (canDo32 : Bool) : ℕ := if canDo32 then 4 else 1

namespace SpiController

variable {σ : Type} (ctl : SpiController σ)

/-- The transfer of a buffer, which also takes the reply. -/
def transfer (k : ℕ) (buf : ℕ → UInt8) (len : ℕ) (bus : SpiBus σ) : ℤ × (ℕ → UInt8) × SpiBus σ :=
  let bits := wireBits k buf len
  let (r, reply, dev) := ctl.exchange bits bus.dev
  (r, wireStore k reply len buf, ⟨dev, bus.wire ++ bits⟩)

/-- `spi_read`: the result, and the buffer of the caller. -/
def spiRead (canDo32 : Bool) (addr size : ℕ) (buffer : ℕ → UInt8) (bus : SpiBus σ) :
    ℤ × (ℕ → UInt8) × SpiBus σ :=
  if size % 4 ≠ 0 then (-1, buffer, bus)
  else
    let numInts := 1 + size / 4
    let trxbuf := store (word32 (readCommand addr (size / 4)) ++ List.replicate size 0) fun _ => 0
    let trxbuf := if canDo32 then trxbuf else reorderWords 1 0 trxbuf
    let (r, trxbuf, bus) := ctl.transfer (bytesPerWord canDo32) trxbuf (4 * numInts) bus
    if r < 0 then (r, buffer, bus)
    else
      let trxbuf := if canDo32 then trxbuf else reorderWords numInts 0 trxbuf
      (0, store (bytesOf (fun i => trxbuf (4 + i)) size) buffer, bus)

/-- `spi_write`: the result, and the buffer of the caller. -/
def spiWrite (canDo32 : Bool) (addr size : ℕ) (buffer : ℕ → UInt8) (bus : SpiBus σ) :
    ℤ × (ℕ → UInt8) × SpiBus σ :=
  if size % 4 ≠ 0 then (-1, buffer, bus)
  else
    let numInts := 1 + size / 4
    let txbuf := store (word32 (writeCommand addr (size / 4)) ++ bytesOf buffer size) fun _ => 0
    let txbuf := if canDo32 then txbuf else reorderWords numInts 0 txbuf
    let (r, _, bus) := ctl.transfer (bytesPerWord canDo32) txbuf (4 * numInts) bus
    if r ≤ 0 then (r, buffer, bus) else (0, buffer, bus)

end SpiController

/-! ### What swapping does -/

lemma swapBytes_apply {i j : ℕ} (h : i ≠ j) (m : ℕ → UInt8) (a : ℕ) :
    swapBytes i j m a = if a = i then m j else if a = j then m i else m a := by
  have hi : m i ^^^ m j ^^^ (m j ^^^ (m i ^^^ m j)) = m j := by
    rw [UInt8.xor_comm (m i) (m j), ← UInt8.xor_assoc (m j) (m j), UInt8.xor_self,
      UInt8.zero_xor, UInt8.xor_assoc, UInt8.xor_self, UInt8.xor_zero]
  have hj : m j ^^^ (m i ^^^ m j) = m i := by
    rw [UInt8.xor_comm (m i) (m j), ← UInt8.xor_assoc, UInt8.xor_self, UInt8.zero_xor]
  rw [swapBytes, xorByte, xorByte, xorByte]
  split_ifs with hai haj
  · rw [hai, Function.update_self, Function.update_self, Function.update_of_ne h,
      Function.update_self, Function.update_of_ne h.symm, Function.update_self]
    exact hi
  · rw [haj, Function.update_of_ne h.symm, Function.update_self, Function.update_self,
      Function.update_of_ne h.symm]
    exact hj
  · rw [Function.update_of_ne hai, Function.update_of_ne haj, Function.update_of_ne hai]

lemma reorderWord_apply (p : ℕ) (m : ℕ → UInt8) (a : ℕ) :
    reorderWord p m a = if p ≤ a ∧ a < p + 4 then m (2 * p + 3 - a) else m a := by
  rw [reorderWord, swapBytes_apply (by omega), swapBytes_apply (by omega),
    swapBytes_apply (by omega), swapBytes_apply (by omega)]
  by_cases hin : p ≤ a ∧ a < p + 4
  · rw [if_pos hin]
    obtain ⟨c, rfl⟩ := Nat.exists_eq_add_of_le hin.1
    have hc : c = 0 ∨ c = 1 ∨ c = 2 ∨ c = 3 := by omega
    rcases hc with rfl | rfl | rfl | rfl
    · simp [show 2 * p + 3 - p = p + 3 by omega]
    · simp [show 2 * p + 3 - (p + 1) = p + 2 by omega]
    · simp [show 2 * p + 3 - (p + 2) = p + 1 by omega]
    · simp [show 2 * p + 3 - (p + 3) = p by omega]
  · rw [if_neg hin, if_neg (by omega), if_neg (by omega), if_neg (by omega), if_neg (by omega)]

lemma reorderWords_apply (n p : ℕ) (m : ℕ → UInt8) (a : ℕ) :
    reorderWords n p m a = if p ≤ a ∧ a < p + 4 * n then m (p + mirror 4 (a - p)) else m a := by
  induction n generalizing p m with
  | zero => rw [reorderWords, if_neg (by omega)]
  | succ n ih =>
      rw [reorderWords, ih]
      rcases Nat.lt_or_ge a p with hbefore | hle
      · rw [if_neg (by omega), if_neg (by omega), reorderWord_apply, if_neg (by omega)]
      · obtain ⟨c, rfl⟩ := Nat.exists_eq_add_of_le hle
        rcases Nat.lt_or_ge c 4 with hfirst | hrest
        · -- the byte is in the word of this round
          have hmirror : mirror 4 c = 3 - c := by
            rw [mirror]
            omega
          rw [if_neg (by omega), reorderWord_apply, if_pos (by omega), if_pos (by omega),
            Nat.add_sub_cancel_left, hmirror]
          congr 1
          omega
        · -- the byte is in the word of a later round
          have hmirror : p + 4 + mirror 4 (p + c - (p + 4)) = p + mirror 4 c := by
            rw [mirror, mirror]
            omega
          have hbehind : 4 ≤ mirror 4 c := by
            rw [mirror]
            omega
          rw [Nat.add_sub_cancel_left, hmirror, reorderWord_apply, reorderWord_apply,
            if_neg (show ¬ (p ≤ p + mirror 4 c ∧ p + mirror 4 c < p + 4) by omega),
            if_neg (show ¬ (p ≤ p + c ∧ p + c < p + 4) by omega)]
          by_cases hin : c < 4 * (n + 1)
          · rw [if_pos (by omega), if_pos (by omega)]
          · rw [if_neg (by omega), if_neg (by omega)]

/-- `reorderBuffer` reverses the bytes of each word. -/
lemma reorderWords_eq (n : ℕ) (m : ℕ → UInt8) : reorderWords n 0 m = reverseUnits 4 n m := by
  funext a
  rw [reorderWords_apply, reverseUnits, Nat.sub_zero, Nat.zero_add, Nat.zero_add]
  simp only [Nat.zero_le, true_and]

/-! ### The two modes -/

namespace SpiController

variable {σ : Type} (ctl : SpiController σ)

/-- A transfer in bytes of swapped words sends what a transfer in words sends, and the words
of the reply are swapped back. -/
lemma transfer_reverseUnits (n : ℕ) (m : ℕ → UInt8) (bus : SpiBus σ) :
    (ctl.transfer 1 (reverseUnits 4 n m) (4 * n) bus).1 = (ctl.transfer 4 m (4 * n) bus).1 ∧
      (ctl.transfer 1 (reverseUnits 4 n m) (4 * n) bus).2.2 = (ctl.transfer 4 m (4 * n) bus).2.2 ∧
      ∀ a < 4 * n, reverseUnits 4 n (ctl.transfer 1 (reverseUnits 4 n m) (4 * n) bus).2.1 a =
        (ctl.transfer 4 m (4 * n) bus).2.1 a := by
  simp only [transfer, wireBits_reverseUnits (show 0 < 4 by decide)]
  exact ⟨trivial, trivial, fun a ha => reverseUnits_wireStore (by decide) n _ _ _ ha⟩

/-- Only the first word of a request to read has to be swapped. -/
lemma reverseUnits_request (word : List UInt8) (hword : word.length = 4) (size n : ℕ) :
    reverseUnits 4 1 (store (word ++ List.replicate size 0) fun _ => 0) =
      reverseUnits 4 (1 + n) (store (word ++ List.replicate size 0) fun _ => 0) := by
  have hzero : ∀ a, 4 ≤ a → store (word ++ List.replicate size 0) (fun _ => 0) a = 0 := by
    intro a ha
    rw [store, List.getD_append_right _ _ _ _ (by omega)]
    rcases Nat.lt_or_ge (a - word.length) size with hlt | hge
    · rw [List.getD_replicate _ hlt]
    · rw [List.getD_eq_default _ _ (by simpa using hge)]
  funext a
  rw [reverseUnits, reverseUnits]
  by_cases hfirst : a < 4 * 1
  · rw [if_pos hfirst, if_pos (by omega)]
  · rw [if_neg hfirst]
    split_ifs
    · have hmirror : 4 ≤ mirror 4 a := by
        rw [mirror]
        omega
      rw [hzero a (by omega), hzero _ hmirror]
    · rfl

lemma spiRead_modes (addr size : ℕ) (buffer : ℕ → UInt8) (bus : SpiBus σ) :
    ctl.spiRead false addr size buffer bus = ctl.spiRead true addr size buffer bus := by
  rw [spiRead, spiRead]
  by_cases hsize : size % 4 ≠ 0
  · rw [if_pos hsize, if_pos hsize]
  · rw [if_neg hsize, if_neg hsize]
    simp only [Bool.false_eq_true, if_false, if_true, bytesPerWord, reorderWords_eq]
    rw [reverseUnits_request (word32 (readCommand addr (size / 4))) rfl size (size / 4)]
    generalize
      store (word32 (readCommand addr (size / 4)) ++ List.replicate size 0) (fun _ => 0) = m
    obtain ⟨hr, hbus, hreply⟩ := ctl.transfer_reverseUnits (1 + size / 4) m bus
    have hbytes : bytesOf (fun i => reverseUnits 4 (1 + size / 4)
        (ctl.transfer 1 (reverseUnits 4 (1 + size / 4) m) (4 * (1 + size / 4)) bus).2.1
          (4 + i)) size =
        bytesOf (fun i => (ctl.transfer 4 m (4 * (1 + size / 4)) bus).2.1 (4 + i)) size := by
      refine List.map_congr_left fun i hi => hreply (4 + i) ?_
      have := List.mem_range.1 hi
      omega
    rw [hr, hbus, hbytes]

lemma spiWrite_modes (addr size : ℕ) (buffer : ℕ → UInt8) (bus : SpiBus σ) :
    ctl.spiWrite false addr size buffer bus = ctl.spiWrite true addr size buffer bus := by
  rw [spiWrite, spiWrite]
  by_cases hsize : size % 4 ≠ 0
  · rw [if_pos hsize, if_pos hsize]
  · rw [if_neg hsize, if_neg hsize]
    simp only [Bool.false_eq_true, if_false, if_true, bytesPerWord, reorderWords_eq]
    obtain ⟨hr, hbus, -⟩ := ctl.transfer_reverseUnits (1 + size / 4)
      (store (word32 (writeCommand addr (size / 4)) ++ bytesOf buffer size) fun _ => 0) bus
    rw [hr, hbus]

lemma spiRead_frame (canDo32 : Bool) (addr size : ℕ) (buffer : ℕ → UInt8) (bus : SpiBus σ)
    {i : ℕ} (hi : size ≤ i) : (ctl.spiRead canDo32 addr size buffer bus).2.1 i = buffer i := by
  rw [spiRead]
  dsimp only
  split_ifs
  · rfl
  all_goals first
    | rfl
    | exact store_of_le (by simpa [bytesOf] using hi) buffer

lemma spiWrite_frame (canDo32 : Bool) (addr size : ℕ) (buffer : ℕ → UInt8) (bus : SpiBus σ) :
    (ctl.spiWrite canDo32 addr size buffer bus).2.1 = buffer := by
  rw [spiWrite]
  dsimp only
  split_ifs
  all_goals rfl

/-- **SPI transfers in bytes put the bits of transfers in words on the wire, and return the same
buffer; the bytes behind it are left alone.** -/
theorem spiModes_agree (addr size : ℕ) (buffer : ℕ → UInt8) (bus : SpiBus σ) :
    ctl.spiRead false addr size buffer bus = ctl.spiRead true addr size buffer bus ∧
      ctl.spiWrite false addr size buffer bus = ctl.spiWrite true addr size buffer bus ∧
      ∀ canDo32, (∀ i, size ≤ i →
          (ctl.spiRead canDo32 addr size buffer bus).2.1 i = buffer i) ∧
        (ctl.spiWrite canDo32 addr size buffer bus).2.1 = buffer :=
  ⟨ctl.spiRead_modes addr size buffer bus, ctl.spiWrite_modes addr size buffer bus, fun canDo32 =>
    ⟨fun _ hi => ctl.spiRead_frame canDo32 addr size buffer bus hi,
      ctl.spiWrite_frame canDo32 addr size buffer bus⟩⟩

end SpiController

/-! ### Requests for registers -/

lemma length_reorderBuffer (n : ℕ) (bytes : List UInt8) :
    (reorderBuffer n bytes).length = bytes.length := by
  induction n generalizing bytes with
  | zero => rfl
  | succ n ih =>
      rcases bytes with _ | ⟨b₀, _ | ⟨b₁, _ | ⟨b₂, _ | ⟨b₃, rest⟩⟩⟩⟩
      · rfl
      · rfl
      · rfl
      · rfl
      · simp only [reorderBuffer, List.length_cons, ih rest]

lemma getD_reorderBuffer {n : ℕ} {bytes : List UInt8} (h : 4 * n ≤ bytes.length) (i : ℕ) :
    (reorderBuffer n bytes).getD i 0 = bytes.getD (if i < 4 * n then mirror 4 i else i) 0 := by
  induction n generalizing bytes i with
  | zero => rw [if_neg (Nat.not_lt_zero i)]; rfl
  | succ n ih =>
      rcases bytes with _ | ⟨b₀, _ | ⟨b₁, _ | ⟨b₂, _ | ⟨b₃, rest⟩⟩⟩⟩
      · simp at h
      · simp at h; omega
      · simp at h; omega
      · simp at h; omega
      · rw [reorderBuffer]
        rcases Nat.lt_or_ge i 4 with hfirst | hrest
        · have hi : i = 0 ∨ i = 1 ∨ i = 2 ∨ i = 3 := by omega
          rw [if_pos (by omega)]
          rcases hi with rfl | rfl | rfl | rfl
          · rfl
          · rfl
          · rfl
          · rfl
        · -- behind the first word the mirror only moves along
          obtain ⟨c, rfl⟩ := Nat.exists_eq_add_of_le' hrest
          have hmirror : mirror 4 (c + 4) = mirror 4 c + 4 := by
            rw [mirror, mirror]
            omega
          have hlen : 4 * n ≤ rest.length := by
            simp only [List.length_cons] at h
            omega
          simp only [List.getD_cons_succ, ih hlen c, hmirror]
          by_cases hin : c < 4 * n
          · rw [if_pos hin, if_pos (by omega), List.getD_cons_succ, List.getD_cons_succ,
              List.getD_cons_succ, List.getD_cons_succ]
          · rw [if_neg hin, if_neg (by omega), List.getD_cons_succ, List.getD_cons_succ,
              List.getD_cons_succ, List.getD_cons_succ]

/-- Swapping words in a list of bytes is swapping them in the buffer that holds it. -/
lemma reorderBuffer_eq {n : ℕ} {bytes : List UInt8} (h : 4 * n ≤ bytes.length) :
    reorderBuffer n bytes =
      bytesOf (reverseUnits 4 n (store bytes fun _ => 0)) bytes.length := by
  refine List.ext_getElem ?_ fun i hi hi' => ?_
  · rw [length_reorderBuffer]
    simp [bytesOf]
  · rw [← List.getD_eq_getElem _ 0 hi, getD_reorderBuffer h]
    simp only [bytesOf, List.getElem_map, List.getElem_range, reverseUnits, store]
    split_ifs
    · rfl
    · rfl

namespace SpiController

variable {σ : Type} (ctl : SpiController σ)

/-- `ioctl` for a transfer in bytes. -/
def ioctl : SpiIoctl (SpiBus σ) where
  transfer bytes bus :=
    let (r, m, bus) := ctl.transfer 1 (store bytes fun _ => 0) bytes.length bus
    (r, bytesOf m bytes.length, bus)

/-- The transfer of a buffer depends on the bytes that are sent. -/
lemma transfer_congr {k len : ℕ} (hk : 0 < k) {m m' : ℕ → UInt8} {n : ℕ} (hlen : len = k * n)
    (h : ∀ a < len, m a = m' a) (bus : SpiBus σ) :
    (ctl.transfer k m len bus).1 = (ctl.transfer k m' len bus).1 ∧
      (ctl.transfer k m len bus).2.2 = (ctl.transfer k m' len bus).2.2 ∧
      ∀ a < len, (ctl.transfer k m len bus).2.1 a = (ctl.transfer k m' len bus).2.1 a := by
  have hbits : wireBits k m len = wireBits k m' len := by
    refine List.map_congr_left fun i hi => ?_
    have hlt : i / 8 < len := by
      have := List.mem_range.1 hi
      omega
    rw [wireBit_eq hk, wireBit_eq hk, h _ (hlen ▸ mirror_lt hk (hlen ▸ hlt))]
  simp only [transfer, hbits, true_and]
  intro a ha
  rw [wireStore, wireStore, if_pos ha, if_pos ha]

lemma store_bytesOf {m : ℕ → UInt8} {len a : ℕ} (ha : a < len) (buf : ℕ → UInt8) :
    store (bytesOf m len) buf a = m a := by
  simp [store, bytesOf, ha]

lemma drop_bytesOf (m : ℕ → UInt8) (k n : ℕ) :
    (bytesOf m (k + n)).drop k = bytesOf (fun i => m (k + i)) n := by
  rw [bytesOf, List.range_add, List.map_append, List.drop_left' (by simp), List.map_map]
  rfl

lemma ioctl_transfer (m : ℕ → UInt8) (len : ℕ) (bus : SpiBus σ) :
    ctl.ioctl.transfer (bytesOf m len) bus = ((ctl.transfer 1 m len bus).1,
      bytesOf (ctl.transfer 1 m len bus).2.1 len, (ctl.transfer 1 m len bus).2.2) := by
  have hlen : (bytesOf m len).length = len := by simp [bytesOf]
  obtain ⟨hr, hbus, hreply⟩ := ctl.transfer_congr Nat.one_pos (Nat.one_mul len).symm
    (fun a ha => store_bytesOf (m := m) ha fun _ => 0) bus
  have hbytes : bytesOf (ctl.transfer 1 (store (bytesOf m len) fun _ => 0) len bus).2.1 len =
      bytesOf (ctl.transfer 1 m len bus).2.1 len :=
    List.map_congr_left fun a ha => hreply a (List.mem_range.1 ha)
  rw [ioctl]
  dsimp only
  rw [hlen, hr, hbus, hbytes]

/-- Swapping the words of bytes of a buffer. -/
lemma reorderBuffer_bytesOf (m : ℕ → UInt8) {n len : ℕ} (h : 4 * n ≤ len) :
    reorderBuffer n (bytesOf m len) = bytesOf (reverseUnits 4 n m) len := by
  have hlen : (bytesOf m len).length = len := by simp [bytesOf]
  rw [reorderBuffer_eq (by omega), hlen]
  refine List.map_congr_left fun a ha => ?_
  have hlt := List.mem_range.1 ha
  rw [reverseUnits, reverseUnits]
  split_ifs with hin
  · exact store_bytesOf ((mirror_lt (by decide) hin).trans_le h) _
  · exact store_bytesOf hlt _

lemma reorderBuffer_request (n : ℕ) {request : List UInt8} {len : ℕ}
    (hlen : request.length = len) (hn : 4 * n ≤ len) : reorderBuffer n request =
      bytesOf (reverseUnits 4 n (store request fun _ => 0)) len := by
  subst hlen
  exact reorderBuffer_eq hn

/-- In transfers of bytes, these functions are the ones that ask for registers. -/
lemma spiRead_ioctl (addr size : ℕ) (buffer : ℕ → UInt8) (bus : SpiBus σ) :
    ∃ bytes, Mesaflash.spiRead ctl.ioctl addr size bus =
        .ok ((ctl.spiRead false addr size buffer bus).1, bytes,
          (ctl.spiRead false addr size buffer bus).2.2) ∧
      (ctl.spiRead false addr size buffer bus).2.1 = store bytes buffer := by
  by_cases hsize : size % 4 ≠ 0
  · rw [spiRead, Mesaflash.spiRead, if_pos hsize, if_pos hsize]
    exact ⟨[], rfl, rfl⟩
  · have hlen : 4 * (1 + size / 4) = 4 + size := by omega
    have hrequest : (word32 (readCommand addr (size / 4)) ++ List.replicate size 0).length =
        4 + size := by
      rw [List.length_append, List.length_replicate]
      rfl
    have hread : Mesaflash.spiRead ctl.ioctl addr size bus =
        let x := ctl.ioctl.transfer (reorderBuffer 1
          (word32 (readCommand addr (size / 4)) ++ List.replicate size 0)) bus
        if x.1 < 0 then .ok (x.1, [], x.2.2)
        else .ok (0, (reorderBuffer (1 + size / 4) x.2.1).drop 4, x.2.2) := by
      rw [Mesaflash.spiRead, if_neg hsize]
    rw [reorderBuffer_request 1 hrequest (by omega), ioctl_transfer] at hread
    dsimp only at hread
    rw [reorderBuffer_bytesOf _ hlen.le, drop_bytesOf] at hread
    rw [hread, spiRead, if_neg hsize]
    simp only [Bool.false_eq_true, if_false, bytesPerWord, reorderWords_eq, hlen]
    split_ifs
    · exact ⟨[], rfl, rfl⟩
    · exact ⟨_, rfl, rfl⟩

lemma spiWrite_ioctl (addr size : ℕ) (buffer : ℕ → UInt8) (bus : SpiBus σ) :
    Mesaflash.spiWrite ctl.ioctl addr (bytesOf buffer size) bus =
      .ok ((ctl.spiWrite false addr size buffer bus).1,
        (ctl.spiWrite false addr size buffer bus).2.2) := by
  have hsizeof : (bytesOf buffer size).length = size := by simp [bytesOf]
  by_cases hsize : size % 4 ≠ 0
  · rw [spiWrite, Mesaflash.spiWrite, hsizeof, if_pos hsize, if_pos hsize]
  · have hlen : 4 * (1 + size / 4) = 4 + size := by omega
    have hrequest : (word32 (writeCommand addr (size / 4)) ++ bytesOf buffer size).length =
        4 + size := by
      rw [List.length_append, hsizeof]
      rfl
    have hwrite : Mesaflash.spiWrite ctl.ioctl addr (bytesOf buffer size) bus =
        let x := ctl.ioctl.transfer (reorderBuffer (1 + size / 4)
          (word32 (writeCommand addr (size / 4)) ++ bytesOf buffer size)) bus
        if x.1 ≤ 0 then .ok (x.1, x.2.2) else .ok (0, x.2.2) := by
      rw [Mesaflash.spiWrite, hsizeof, if_neg hsize]
    rw [reorderBuffer_request _ hrequest hlen.le, ioctl_transfer] at hwrite
    dsimp only at hwrite
    rw [hwrite, spiWrite, if_neg hsize]
    simp only [Bool.false_eq_true, if_false, bytesPerWord, reorderWords_eq, hlen]
    split_ifs
    · rfl
    · rfl

end SpiController

end Mesaflash
