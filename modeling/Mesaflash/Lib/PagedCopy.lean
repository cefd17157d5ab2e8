import Mesaflash.Lib.Stdio
import Mathlib.Data.List.GetD
import Mathlib.Data.List.Range
import Mathlib.Tactic.Ring

/-!
Reading a stream in chunks through a reused buffer.

A copy loop fills one buffer with `fread` again and again until the stream
reports end of file, and works on the buffer after every read.  The last read is
short, so the tail of the buffer still holds bytes of an earlier read.  A loop
that works page by page therefore handles, besides the bytes of the stream, the
left-over bytes up to the end of the last page.

`image` says which byte the loop sees at every offset, left-over bytes included,
and `readLoop_pages` says that the two nested loops are one counted loop over
the pages of `image`.  `drained` is the buffer after the loop.
-/

namespace Mesaflash.Lib

variable {ε τ A : Type} {g : ℕ}

/-! ### The buffer -/

/-- The buffer `buf` after `bytes` were stored at its start. -/
def store (bytes : List UInt8) (buf : ℕ → UInt8) : ℕ → UInt8 := fun k => bytes.getD k (buf k)

lemma store_of_lt {bytes : List UInt8} {k : ℕ} (h : k < bytes.length) (buf : ℕ → UInt8) :
    store bytes buf k = bytes.getD k 0 := by
  rw [store, List.getD_eq_getElem _ _ h, List.getD_eq_getElem _ _ h]

lemma store_of_le {bytes : List UInt8} {k : ℕ} (h : bytes.length ≤ k) (buf : ℕ → UInt8) :
    store bytes buf k = buf k :=
  List.getD_eq_default _ _ h

/-- The first `n` bytes of a buffer. -/
def bytesOf (buf : ℕ → UInt8) (n : ℕ) : List UInt8 := (List.range n).map buf

lemma ofFn_eq_bytesOf {n : ℕ} {f : Fin n → UInt8} {buf : ℕ → UInt8} (h : ∀ i : Fin n, f i = buf i) :
    List.ofFn f = bytesOf buf n := by
  apply List.ext_getElem
  · simp [bytesOf]
  · intro i hi hi'
    simp [bytesOf, h]

/-- The blocks of a buffer, one after the other, are its first bytes. -/
lemma flatten_bytesOf (buf : ℕ → UInt8) (g n : ℕ) :
    ((List.range n).map fun i => bytesOf (fun j => buf (g * i + j)) g).flatten
      = bytesOf buf (g * n) := by
  induction n with
  | zero => rfl
  | succ n ih =>
      rw [List.range_succ, List.map_append, List.flatten_append, ih, Nat.mul_succ, bytesOf, bytesOf,
        List.range_add, List.map_append, List.map_map]
      simp [bytesOf, Function.comp_def]

lemma bytesOf_store (bytes : List UInt8) (buf : ℕ → UInt8) :
    bytesOf (store bytes buf) bytes.length = bytes := by
  apply List.ext_getElem
  · simp [bytesOf]
  · intro k hk hk'
    simp only [bytesOf, List.getElem_map, List.getElem_range]
    rw [store_of_lt hk', List.getD_eq_getElem _ _ hk']

/-! ### The read loop -/

/-- The variables of a loop that reads a stream into a buffer. -/
structure ReadState (τ : Type) where
  fp : File
  buf : ℕ → UInt8
  /-- Everything else that the loop works on. -/
  st : τ

/-- One round: read up to `c` bytes, then work on the buffer. -/
def readRound (c : ℕ) (act : (ℕ → UInt8) → ℕ → τ → Except ε τ) (s : ReadState τ) :
    Except ε (ReadState τ) := do
  let (bytes, fp) := fread c s.fp
  let buf := store bytes s.buf
  let st ← act buf bytes.length s.st
  return ⟨fp, buf, st⟩

/-- `while (!feof (fp))` around `readRound`.  A stream of `n` bytes that ends
normally is at its end after `n / c + 1` rounds; a stream that still is not will
never be. -/
def readLoop (stuck : ε) (c : ℕ) (act : (ℕ → UInt8) → ℕ → τ → Except ε τ) (s : ReadState τ) :
    Except ε (ReadState τ) :=
  whileM stuck (fun s => !s.fp.eof) (readRound c act) (s.fp.rest.length / c + 2) s

section ReadLoop

variable {stuck : ε} {c : ℕ} {act : (ℕ → UInt8) → ℕ → τ → Except ε τ} {s : ReadState τ}

lemma readRound_eq (c : ℕ) (act : (ℕ → UInt8) → ℕ → τ → Except ε τ) (s : ReadState τ) :
    readRound c act s =
      act (store (s.fp.rest.take c) s.buf) (s.fp.rest.take c).length s.st >>= fun st =>
        .ok ⟨(fread c s.fp).2, store (s.fp.rest.take c) s.buf, st⟩ := rfl

lemma readLoop_done (h : s.fp.eof = true) : readLoop stuck c act s = .ok s :=
  whileM_done (by simp [h]) _

/-- What the work on a chunk keeps, the loop keeps. -/
lemma yields_readLoop {I : τ → Prop} {E : ε → Prop} (hstuck : E stuck)
    (hact : ∀ buf n t, I t → Yields I E (act buf n t)) (hI : I s.st) :
    Yields (fun s => I s.st) E (readLoop stuck c act s) := by
  refine yields_whileM (I := fun s : ReadState τ => I s.st) hstuck (fun s hs => ?_) _ s hI
  rw [readRound_eq]
  exact (hact _ _ _ hs).bind fun _ ht => .ok ht

/-- A full chunk is read, worked on, and the loop goes on behind it. -/
lemma readLoop_full (hc : 0 < c) (heof : s.fp.eof = false) (hlen : c ≤ s.fp.rest.length) :
    readLoop stuck c act s =
      act (store (s.fp.rest.take c) s.buf) c s.st >>= fun st =>
        readLoop stuck c act ⟨(fread c s.fp).2, store (s.fp.rest.take c) s.buf, st⟩ := by
  have htake : (s.fp.rest.take c).length = c := by
    rw [List.length_take]
    exact Nat.min_eq_left hlen
  have hfuel : (s.fp.rest.length - c) / c + 2 = s.fp.rest.length / c + 1 := by
    obtain ⟨k, hk⟩ := Nat.exists_eq_add_of_le hlen
    rw [hk, Nat.add_sub_cancel_left, Nat.add_div_left k hc]
  rw [readLoop, whileM_round (by simp [heof]), readRound_eq, htake]
  cases act (store (s.fp.rest.take c) s.buf) c s.st with
  | error e => rfl
  | ok st => simp [readLoop, hfuel]

/-- The last read is short and sets the end-of-file indicator. -/
lemma readLoop_last (heof : s.fp.eof = false) (hio : s.fp.ioError = false)
    (hlen : s.fp.rest.length < c) :
    readLoop stuck c act s =
      act (store s.fp.rest s.buf) s.fp.rest.length s.st >>= fun st =>
        .ok ⟨(fread c s.fp).2, store s.fp.rest s.buf, st⟩ := by
  have htake : s.fp.rest.take c = s.fp.rest := List.take_of_length_le hlen.le
  have hend : (fread c s.fp).2.eof = true := by simp [eof_fread, heof, hio, hlen]
  rw [readLoop, whileM_round (by simp [heof]), readRound_eq, htake]
  cases act (store s.fp.rest s.buf) s.fp.rest.length s.st with
  | error e => rfl
  | ok st =>
      simp only [ok_bind]
      exact whileM_done (by simp [hend]) _

/-- A stream that ends in a read error is never left. -/
lemma readLoop_ioError (heof : s.fp.eof = false) (hio : s.fp.ioError = true)
    (t : ReadState τ) : readLoop stuck c act s ≠ .ok t := by
  intro h
  have hround : ∀ u v : ReadState τ, (u.fp.eof = false ∧ u.fp.ioError = true) →
      (!u.fp.eof) = true → readRound c act u = .ok v →
      v.fp.eof = false ∧ v.fp.ioError = true := by
    rintro u v ⟨hu, hu'⟩ - hv
    rw [readRound_eq, bind_eq_ok] at hv
    obtain ⟨st, -, hv⟩ := hv
    obtain rfl := Except.ok.inj hv
    exact ⟨by simp [eof_fread, hu, hu'], by simp [hu']⟩
  obtain ⟨⟨ht, -⟩, hcond⟩ := whileM_invariant hround _ s t ⟨heof, hio⟩ h
  simp [ht] at hcond

/-- An error of the loop is an error of its work, or `stuck`. -/
lemma readLoop_error {E : ε → Prop} (hstuck : E stuck)
    (hact : ∀ buf n t e, act buf n t = .error e → E e) {e : ε}
    (h : readLoop stuck c act s = .error e) : E e := by
  refine whileM_error hstuck (fun s e he => ?_) _ s e h
  rw [readRound_eq] at he
  cases hst : act (store (s.fp.rest.take c) s.buf) (s.fp.rest.take c).length s.st with
  | error e' =>
      rw [hst, error_bind] at he
      obtain rfl : e' = e := Except.error.inj he
      exact hact _ _ _ _ hst
  | ok t =>
      rw [hst, ok_bind] at he
      cases he

end ReadLoop

/-! ### What a loop sees -/

/-- The byte that a loop with chunks of `c` bytes sees at offset `j`: a byte of the
stream, or behind its end what the buffer held before. -/
def image (c : ℕ) (buf : ℕ → UInt8) (bytes : List UInt8) (j : ℕ) : UInt8 :=
  if j < bytes.length then bytes.getD j 0
  else if j < c then buf j
  else bytes.getD (j - c) 0

/-- The buffer while the loop works on chunk `q`. -/
def chunkBuf (c : ℕ) (buf : ℕ → UInt8) (bytes : List UInt8) (q : ℕ) : ℕ → UInt8 := fun k =>
  if k < c then image c buf bytes (c * q + k) else buf k

/-- The buffer after the loop: the stream ends in chunk `bytes.length / c`. -/
def drained (c : ℕ) (buf : ℕ → UInt8) (bytes : List UInt8) : ℕ → UInt8 :=
  chunkBuf c buf bytes (bytes.length / c)

lemma image_of_lt {c j : ℕ} {bytes : List UInt8} (h : j < bytes.length) (buf : ℕ → UInt8) :
    image c buf bytes j = bytes.getD j 0 := if_pos h

/-- Behind a full chunk the loop sees what a new loop would see. -/
lemma image_drop {c : ℕ} {bytes : List UInt8} (h : c ≤ bytes.length) (buf : ℕ → UInt8) (j : ℕ) :
    image c (store (bytes.take c) buf) (bytes.drop c) j = image c buf bytes (c + j) := by
  have hget : ∀ k, (bytes.drop c).getD k 0 = bytes.getD (c + k) 0 := by
    intro k
    simp [List.getD_eq_getElem?_getD, List.getElem?_drop]
  have hlen : (bytes.drop c).length = bytes.length - c := List.length_drop
  unfold image
  by_cases h1 : c + j < bytes.length
  · rw [if_pos (by omega), if_pos h1, hget]
  · rw [if_neg (by omega), if_neg h1, if_neg (by omega : ¬ c + j < c)]
    by_cases h2 : j < c
    · -- left over from the chunk before
      have hj : j < (bytes.take c).length := by
        rw [List.length_take]
        omega
      rw [if_pos h2, store_of_lt hj, Nat.add_sub_cancel_left]
      simp [List.getD_eq_getElem?_getD, h2]
    · rw [if_neg h2, hget, Nat.add_sub_cancel_left, Nat.add_sub_cancel' (by omega : c ≤ j)]

lemma image_store {c : ℕ} {bytes : List UInt8} {j : ℕ} (hj : j < c) (buf : ℕ → UInt8) :
    image c buf bytes j = store bytes buf j := by
  unfold image
  by_cases h1 : j < bytes.length
  · rw [if_pos h1, store_of_lt h1]
  · rw [if_neg h1, if_pos hj, store_of_le (by omega)]

/-- The first chunk is stored over what the buffer held. -/
lemma chunkBuf_zero (c : ℕ) (buf : ℕ → UInt8) (bytes : List UInt8) :
    chunkBuf c buf bytes 0 = store (bytes.take c) buf := by
  funext k
  unfold chunkBuf
  by_cases hk : k < c
  · rw [if_pos hk, Nat.mul_zero, Nat.zero_add, image_store hk]
    simp [store, List.getD_eq_getElem?_getD, hk]
  · rw [if_neg hk, store_of_le (by rw [List.length_take]; omega)]

/-- Behind a full chunk the chunks are those of a new loop. -/
lemma chunkBuf_drop {c : ℕ} {bytes : List UInt8} (h : c ≤ bytes.length) (buf : ℕ → UInt8)
    (q : ℕ) : chunkBuf c (store (bytes.take c) buf) (bytes.drop c) q
      = chunkBuf c buf bytes (q + 1) := by
  funext k
  unfold chunkBuf
  by_cases hk : k < c
  · rw [if_pos hk, if_pos hk, image_drop h]
    congr 1
    ring
  · rw [if_neg hk, if_neg hk]
    exact store_of_le (by rw [List.length_take]; omega) buf

/-- Reading the same bytes a second time, nothing changes. -/
@[simp] lemma image_drained (c : ℕ) (buf : ℕ → UInt8) (bytes : List UInt8) :
    image c (drained c buf bytes) bytes = image c buf bytes := by
  funext j
  by_cases h1 : j < bytes.length
  · rw [image_of_lt h1, image_of_lt h1]
  · by_cases h2 : j < c
    · have hq : bytes.length / c = 0 := Nat.div_eq_of_lt (by omega)
      have h3 : drained c buf bytes j = image c buf bytes j := by
        rw [drained, hq, chunkBuf, if_pos h2, Nat.mul_zero, Nat.zero_add]
      rw [← h3]
      exact (if_neg h1).trans (if_pos h2)
    · simp only [image, if_neg h1, if_neg h2]

lemma drained_of_lt {c : ℕ} {bytes : List UInt8} (h : bytes.length < c) (buf : ℕ → UInt8) :
    drained c buf bytes = store bytes buf := by
  rw [drained, Nat.div_eq_of_lt h, chunkBuf_zero, List.take_of_length_le h.le]

lemma drained_drop {c : ℕ} (hc : 0 < c) {bytes : List UInt8} (h : c ≤ bytes.length)
    (buf : ℕ → UInt8) :
    drained c (store (bytes.take c) buf) (bytes.drop c) = drained c buf bytes := by
  have hq : bytes.length / c = (bytes.drop c).length / c + 1 := by
    rw [List.length_drop]
    exact Nat.div_eq_sub_div hc h
  rw [drained, drained, chunkBuf_drop h, hq]

/-- The stream of `fp` once it is used up. -/
def File.atEnd (fp : File) : File := { fp with pos := fp.pos + fp.rest.length, eof := true }

lemma atEnd_fread {c : ℕ} {fp : File} (h : c ≤ fp.rest.length) :
    (fread c fp).2.atEnd = fp.atEnd := by
  have : (fread c fp).2.pos = fp.pos + c := by simp [fread, File.advance, Nat.min_eq_left h]
  simp only [File.atEnd, rest_fread, List.length_drop, this]
  simp only [fread, File.advance, File.mk.injEq, and_self, and_true, true_and]
  omega

lemma fread_eq_atEnd {c : ℕ} {fp : File} (h : fp.rest.length < c) (hio : fp.ioError = false) :
    (fread c fp).2 = fp.atEnd := by
  simp [fread, File.advance, File.atEnd, List.take_of_length_le h.le, hio, h]

/-! ### Chunks handed to a pure consumer -/

/-- A loop that only feeds its bytes to an accumulator feeds it the whole stream,
split in some way. -/
lemma readLoop_feed (stuck : ε) {c : ℕ} (hc : 0 < c) (upd : τ → List UInt8 → τ) :
    ∀ (n : ℕ) (s : ReadState τ), s.fp.rest.length = n → s.fp.eof = false →
      s.fp.ioError = false →
      ∃ chunks : List (List UInt8), chunks.flatten = s.fp.rest ∧
        readLoop stuck c (fun buf n t => .ok (upd t (bytesOf buf n))) s =
          .ok ⟨s.fp.atEnd, drained c s.buf s.fp.rest, chunks.foldl upd s.st⟩ := by
  intro n
  induction n using Nat.strong_induction_on with
  | _ n ih =>
      intro s hn heof hio
      rcases Nat.lt_or_ge s.fp.rest.length c with hlt | hge
      · refine ⟨[s.fp.rest], by simp, ?_⟩
        rw [readLoop_last heof hio hlt, ok_bind, bytesOf_store, fread_eq_atEnd hlt hio,
          drained_of_lt hlt]
        rfl
      · have hlen : (s.fp.rest.take c).length = c := by
          rw [List.length_take]
          exact Nat.min_eq_left hge
        obtain ⟨chunks, hflat, hrun⟩ := ih (n - c) (by omega)
          ⟨(fread c s.fp).2, store (s.fp.rest.take c) s.buf, upd s.st (s.fp.rest.take c)⟩
          (by simp [hn]) (by simp [eof_fread, heof, hge]) (by simp [hio])
        refine ⟨s.fp.rest.take c :: chunks, ?_, ?_⟩
        · simpa using congrArg (s.fp.rest.take c ++ ·) hflat
        · have hbytes := bytesOf_store (s.fp.rest.take c) s.buf
          rw [hlen] at hbytes
          rw [readLoop_full hc heof hge, ok_bind, hbytes, hrun, atEnd_fread hge]
          simp [drained_drop hc hge]

/-! ### Pages -/

/-- Page `j` of a buffer. -/
def pageAt (g : ℕ) (f : ℕ → UInt8) (j : ℕ) : Fin g → UInt8 := fun k => f (g * j + k)

/-- The number of pages that `n` bytes touch. -/
def numPages (g n : ℕ) : ℕ := (n + g - 1) / g

lemma numPages_add (hg : 0 < g) (m n : ℕ) : numPages g (g * m + n) = m + numPages g n := by
  unfold numPages
  rw [show g * m + n + g - 1 = n + g - 1 + g * m by omega, Nat.add_mul_div_left _ _ hg,
    Nat.add_comm]

lemma numPages_mul (hg : 0 < g) (m : ℕ) : numPages g (g * m) = m := by
  have h0 : numPages g 0 = 0 := Nat.div_eq_of_lt (by omega)
  simpa [h0] using numPages_add hg m 0

/-- A page is touched when its first byte is among the first `n`. -/
lemma lt_numPages_iff (hg : 0 < g) {n j : ℕ} : j < numPages g n ↔ g * j < n := by
  unfold numPages
  rw [Nat.lt_iff_add_one_le, Nat.le_div_iff_mul_le hg, Nat.add_mul, Nat.mul_comm j g]
  omega

/-- One page of a loop: work on page `j` at the current address, then move the
address on.  The work may look at the whole buffer. -/
def pageRound (next : A → A) (step : (ℕ → UInt8) → A → (Fin g → UInt8) → τ → Except ε τ)
    (buf : ℕ → ℕ → UInt8) (page : ℕ → Fin g → UInt8) : A × τ → ℕ → Except ε (A × τ) :=
  stride next fun j addr t => step (buf j) addr (page j) t

/-- The work on one chunk: all pages that its `n` bytes touch. -/
def pageChunk (next : A → A) (step : (ℕ → UInt8) → A → (Fin g → UInt8) → τ → Except ε τ)
    (buf : ℕ → UInt8) (n : ℕ) (s : A × τ) : Except ε (A × τ) :=
  (List.range (numPages g n)).foldlM (pageRound next step (fun _ => buf) (pageAt g buf)) s

lemma yields_pageChunk {I : τ → Prop} {E : ε → Prop} {next : A → A}
    {step : (ℕ → UInt8) → A → (Fin g → UInt8) → τ → Except ε τ}
    (hstep : ∀ buf addr page t, I t → Yields I E (step buf addr page t)) (buf : ℕ → UInt8)
    (n : ℕ) {s : A × τ} (hI : I s.2) : Yields (fun s => I s.2) E (pageChunk next step buf n s) :=
  yields_foldlM (I := fun s : A × τ => I s.2)
    (fun _ _ _ hs => yields_stride next _ (hstep _ _ _ _ hs)) hI

/-- The work on the first chunk handles the first pages of `image`. -/
lemma pageChunk_store {m n : ℕ} (hg : 0 < g) (hn : n ≤ g * m) (next : A → A)
    (step : (ℕ → UInt8) → A → (Fin g → UInt8) → τ → Except ε τ) (buf : ℕ → UInt8)
    (bytes : List UInt8) (s : A × τ) :
    pageChunk next step (store (bytes.take (g * m)) buf) n s =
      (List.range (numPages g n)).foldlM
        (pageRound next step (fun j => chunkBuf (g * m) buf bytes (j / m))
          (pageAt g (image (g * m) buf bytes))) s := by
  refine foldlM_congr (fun j hj t => ?_) s
  have hjn : g * j < n := (lt_numPages_iff hg).1 (List.mem_range.1 hj)
  have hjm : j < m := Nat.lt_of_mul_lt_mul_left (hjn.trans_le hn)
  have hroom : g * (j + 1) ≤ g * m := Nat.mul_le_mul_left g hjm
  have hbuf : store (bytes.take (g * m)) buf = chunkBuf (g * m) buf bytes (j / m) := by
    rw [Nat.div_eq_of_lt hjm, chunkBuf_zero]
  have hpage : pageAt g (store (bytes.take (g * m)) buf) j
      = pageAt g (image (g * m) buf bytes) j := by
    funext i
    have hi : g * j + i < g * m := by
      rw [Nat.mul_succ] at hroom
      omega
    rw [← chunkBuf_zero, pageAt, chunkBuf, if_pos hi, Nat.mul_zero, Nat.zero_add, pageAt]
  simp only [pageRound, stride, hpage]
  rw [hbuf]

/-- Behind a full chunk the pages are those of a new loop. -/
lemma pageRound_drop {m : ℕ} (hm : 0 < m) (next : A → A)
    (step : (ℕ → UInt8) → A → (Fin g → UInt8) → τ → Except ε τ) (buf : ℕ → UInt8)
    {bytes : List UInt8} (h : g * m ≤ bytes.length) :
    pageRound next step
        (fun j => chunkBuf (g * m) (store (bytes.take (g * m)) buf) (bytes.drop (g * m)) (j / m))
        (pageAt g (image (g * m) (store (bytes.take (g * m)) buf) (bytes.drop (g * m)))) =
      fun s j => pageRound next step (fun j => chunkBuf (g * m) buf bytes (j / m))
        (pageAt g (image (g * m) buf bytes)) s (m + j) := by
  funext s j
  have hbuf : chunkBuf (g * m) (store (bytes.take (g * m)) buf) (bytes.drop (g * m)) (j / m)
      = chunkBuf (g * m) buf bytes ((m + j) / m) := by
    rw [chunkBuf_drop h, Nat.add_div_left j hm]
  have hpage : pageAt g (image (g * m) (store (bytes.take (g * m)) buf) (bytes.drop (g * m))) j
      = pageAt g (image (g * m) buf bytes) (m + j) := by
    funext i
    rw [pageAt, image_drop h, pageAt, Nat.mul_add, Nat.add_assoc]
  simp only [pageRound, stride, hbuf, hpage]

/-- **The chunk loop and the page loop in it are one loop over the pages of
`image`.** -/
theorem readLoop_pages (stuck : ε) {m : ℕ} (hg : 0 < g) (hm : 0 < m) (next : A → A)
    (step : (ℕ → UInt8) → A → (Fin g → UInt8) → τ → Except ε τ) :
    ∀ (n : ℕ) (s : ReadState (A × τ)), s.fp.rest.length = n → s.fp.eof = false →
      s.fp.ioError = false →
      readLoop stuck (g * m) (pageChunk next step) s =
        (List.range (numPages g n)).foldlM
            (pageRound next step (fun j => chunkBuf (g * m) s.buf s.fp.rest (j / m))
              (pageAt g (image (g * m) s.buf s.fp.rest))) s.st >>= fun r =>
          .ok ⟨s.fp.atEnd, drained (g * m) s.buf s.fp.rest, r⟩ := by
  have hc : 0 < g * m := Nat.mul_pos hg hm
  intro n
  induction n using Nat.strong_induction_on with
  | _ n ih =>
      intro s hn heof hio
      rcases Nat.lt_or_ge s.fp.rest.length (g * m) with hlt | hge
      · -- one short read: all pages lie in this chunk
        have hchunk := pageChunk_store hg hlt.le next step s.buf s.fp.rest s.st
        rw [List.take_of_length_le hlt.le, hn] at hchunk
        rw [readLoop_last heof hio hlt, fread_eq_atEnd hlt hio, drained_of_lt hlt, hn, hchunk]
      · -- a full chunk: its `m` pages, then the pages of the rest
        have hrest := fun t => ih (n - g * m) (by omega)
          ⟨(fread (g * m) s.fp).2, store (s.fp.rest.take (g * m)) s.buf, t⟩
          (by simp [hn]) (by simp [eof_fread, heof, hge]) (by simp [hio])
        have hpages : numPages g n = m + numPages g (n - g * m) := by
          rw [← numPages_add hg]
          congr 1
          omega
        rw [readLoop_full hc heof hge, hpages, List.range_add, List.foldlM_append, bind_assoc,
          pageChunk_store hg le_rfl, numPages_mul hg]
        simp only [hrest, rest_fread, atEnd_fread hge, drained_drop hc hge, List.foldlM_map,
          pageRound_drop hm next step s.buf hge]

end Mesaflash.Lib
