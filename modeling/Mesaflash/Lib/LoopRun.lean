import Mesaflash.Lib.PagedCopy

/-!
Which loops end.

`whileM` stops after a given number of rounds, so that it is a function.  What the
loop itself does, however long it takes, is the relation `WhileRun`: a loop that
has no run never ends.  A loop that `whileM` ends has a run (`whileRun_of_whileM`).

A loop that reads a stream until end of file is reported always ends when the
stream ends in that way.  When the stream ends in a read error, the loop can only
be left by an error of the work on a chunk, and from the read error on the chunks
are empty.
-/

namespace Mesaflash.Lib

variable {ε σ τ : Type}

/-! ### Runs -/

/-- The runs of `while (cond) body` that end. -/
inductive WhileRun (cond : σ → Bool) (body : σ → Except ε σ) : σ → Except ε σ → Prop
  | done {s : σ} (h : cond s = false) : WhileRun cond body s (.ok s)
  | error {s : σ} {e : ε} (h : cond s = true) (hbody : body s = .error e) :
      WhileRun cond body s (.error e)
  | round {s s' : σ} {r : Except ε σ} (h : cond s = true) (hbody : body s = .ok s')
      (hrest : WhileRun cond body s' r) : WhileRun cond body s r

section Run

variable {stuck : ε} {cond : σ → Bool} {body : σ → Except ε σ} {s : σ} {r r' : Except ε σ}

/-- A loop has one result. -/
lemma WhileRun.deterministic (h : WhileRun cond body s r) (h' : WhileRun cond body s r') :
    r = r' := by
  induction h with
  | done hs =>
      cases h' with
      | done _ => rfl
      | error hs' _ => exact absurd (hs.symm.trans hs') (by decide)
      | round hs' _ _ => exact absurd (hs.symm.trans hs') (by decide)
  | error hs he =>
      cases h' with
      | done hs' => exact absurd (hs.symm.trans hs') (by decide)
      | error _ he' => exact he.symm.trans he'
      | round _ ht _ => cases he.symm.trans ht
  | round hs ht _ ih =>
      cases h' with
      | done hs' => exact absurd (hs.symm.trans hs') (by decide)
      | error _ he => cases ht.symm.trans he
      | round _ ht' hrest =>
          obtain rfl := Except.ok.inj (ht.symm.trans ht')
          exact ih hrest

/-- A result that is not `stuck` is the result of the loop. -/
lemma whileRun_of_whileM : ∀ (fuel : ℕ) (s : σ) (r : Except ε σ),
    whileM stuck cond body fuel s = r → r ≠ .error stuck → WhileRun cond body s r := by
  intro fuel
  induction fuel with
  | zero => exact fun s r h hr => absurd h.symm hr
  | succ fuel ih =>
      intro s r h hr
      cases hc : cond s with
      | false =>
          rw [whileM_done hc] at h
          exact h ▸ .done hc
      | true =>
          rw [whileM_round hc] at h
          cases hb : body s with
          | error e =>
              rw [hb, error_bind] at h
              exact h ▸ .error hc hb
          | ok s' =>
              rw [hb, ok_bind] at h
              exact .round hc hb (ih s' r h hr)

/-- A loop that can always go on never ends. -/
lemma not_whileRun {I : σ → Prop}
    (hstep : ∀ s, I s → cond s = true ∧ ∃ s', body s = .ok s' ∧ I s') (hI : I s) :
    ¬ WhileRun cond body s r := by
  intro h
  induction h with
  | done hs => exact absurd (hs.symm.trans (hstep _ hI).1) (by decide)
  | error _ he =>
      obtain ⟨s', hs', -⟩ := (hstep _ hI).2
      cases he.symm.trans hs'
  | round _ hb _ ih =>
      obtain ⟨s', hs', hI'⟩ := (hstep _ hI).2
      obtain rfl := Except.ok.inj (hb.symm.trans hs')
      exact ih hI'

end Run

/-! ### Streams -/

/-- A stream that was only read. -/
structure InputStream extends File where
  consistent : toFile.Consistent

/-- The runs of a loop that reads the stream in chunks until end of file is reported. -/
abbrev ReadRun (c : ℕ) (act : (ℕ → UInt8) → ℕ → τ → Except ε τ) :
    ReadState τ → Except ε (ReadState τ) → Prop :=
  WhileRun (fun s => !s.fp.eof) (readRound c act)

section ReadRun

variable {stuck : ε} {c : ℕ} {act : (ℕ → UInt8) → ℕ → τ → Except ε τ} {s : ReadState τ}
  {r : Except ε (ReadState τ)}

lemma readRun_of_readLoop (h : readLoop stuck c act s = r) (hr : r ≠ .error stuck) :
    ReadRun c act s r := whileRun_of_whileM _ s r h hr

/-- The loop ends on a stream that ends. -/
lemma exists_readRun (hc : 0 < c) : ∀ (n : ℕ) (s : ReadState τ), s.fp.rest.length = n →
    s.fp.ioError = false → ∃ r, ReadRun c act s r := by
  intro n
  induction n using Nat.strong_induction_on with
  | _ n ih =>
      intro s hn hio
      cases heof : s.fp.eof with
      | true => exact ⟨_, .done (by simp [heof])⟩
      | false =>
          have hcond : (!s.fp.eof) = true := by rw [heof]; rfl
          cases hround : readRound c act s with
          | error e => exact ⟨_, .error hcond hround⟩
          | ok s' =>
              have hfp : s'.fp = (fread c s.fp).2 := by
                rw [readRound_eq, bind_eq_ok] at hround
                obtain ⟨st, -, hround⟩ := hround
                exact (congrArg ReadState.fp (Except.ok.inj hround)).symm
              rcases Nat.lt_or_ge s.fp.rest.length c with hlt | hge
              · -- the last read sets the indicator
                have hend : (!s'.fp.eof) = false := by
                  rw [hfp]
                  simp [eof_fread, hio, hlt]
                exact ⟨_, .round hcond hround (.done hend)⟩
              · obtain ⟨r, hr⟩ := ih (n - c) (by omega) s' (by rw [hfp, rest_fread]; simp [hn])
                  (by rw [hfp]; exact hio)
                exact ⟨r, .round hcond hround hr⟩

/-- From a read error on the loop only sees empty chunks. -/
lemma not_readRun_empty (hempty : ∀ buf t, ∃ t', act buf 0 t = .ok t') (heof : s.fp.eof = false)
    (hio : s.fp.ioError = true) (hrest : s.fp.rest = []) : ¬ ReadRun c act s r := by
  refine not_whileRun (I := fun s : ReadState τ =>
    s.fp.eof = false ∧ s.fp.ioError = true ∧ s.fp.rest = []) ?_ ⟨heof, hio, hrest⟩
  rintro s ⟨heof, hio, hrest⟩
  refine ⟨by simp [heof], ?_⟩
  obtain ⟨t', ht'⟩ := hempty (store [] s.buf) s.st
  have hround : readRound c act s = .ok ⟨(fread c s.fp).2, store [] s.buf, t'⟩ := by
    rw [readRound_eq, hrest, List.take_nil, List.length_nil, ht', ok_bind]
  exact ⟨_, hround, by simp [eof_fread, heof, hio], hio, by rw [rest_fread, hrest, List.drop_nil]⟩

/-- Where no work fails, a stream that ends in a read error is never left. -/
lemma not_readRun_total (htotal : ∀ buf n t, ∃ t', act buf n t = .ok t') (heof : s.fp.eof = false)
    (hio : s.fp.ioError = true) : ¬ ReadRun c act s r := by
  refine not_whileRun (I := fun s : ReadState τ => s.fp.eof = false ∧ s.fp.ioError = true) ?_
    ⟨heof, hio⟩
  rintro s ⟨heof, hio⟩
  obtain ⟨t', ht'⟩ := htotal (store (s.fp.rest.take c) s.buf) (s.fp.rest.take c).length s.st
  have hround : readRound c act s =
      .ok ⟨(fread c s.fp).2, store (s.fp.rest.take c) s.buf, t'⟩ := by
    rw [readRound_eq, ht', ok_bind]
  exact ⟨by simp [heof], _, hround, by simp [eof_fread, heof, hio], hio⟩

/-- A round whose work fails is the last one. -/
lemma readRun_round_error {e : ε} (heof : s.fp.eof = false)
    (hact : act (store (s.fp.rest.take c) s.buf) (s.fp.rest.take c).length s.st = .error e) :
    ReadRun c act s r ↔ r = .error e := by
  have hcond : (!s.fp.eof) = true := by rw [heof]; rfl
  have hround : readRound c act s = .error e := by rw [readRound_eq, hact, error_bind]
  have hrun : ReadRun c act s (.error e) := .error hcond hround
  constructor
  · intro h
    exact h.deterministic hrun
  · intro h
    exact h ▸ hrun

/-- Behind a round whose work does not fail the loop goes on. -/
lemma readRun_round_ok {t : τ} (heof : s.fp.eof = false)
    (hact : act (store (s.fp.rest.take c) s.buf) (s.fp.rest.take c).length s.st = .ok t) :
    ReadRun c act s r ↔
      ReadRun c act ⟨(fread c s.fp).2, store (s.fp.rest.take c) s.buf, t⟩ r := by
  have hcond : (!s.fp.eof) = true := by rw [heof]; rfl
  have hround : readRound c act s = .ok ⟨(fread c s.fp).2, store (s.fp.rest.take c) s.buf, t⟩ := by
    rw [readRound_eq, hact, ok_bind]
  constructor
  · intro h
    cases h with
    | done hs => exact absurd (hs.symm.trans hcond) (by decide)
    | error _ he => cases hround.symm.trans he
    | round _ hround' hrest =>
        obtain rfl := Except.ok.inj (hround.symm.trans hround')
        exact hrest
  · exact .round hcond hround

/-- The same stream without the read error. -/
def File.repaired (fp : File) : File := { fp with ioError := false }

@[simp] lemma File.rest_repaired (fp : File) : fp.repaired.rest = fp.rest := rfl

lemma InputStream.sound_repaired (fp : InputStream) : fp.repaired.Sound :=
  ⟨rfl, fun heof => ⟨rfl, (fp.consistent heof).2⟩⟩

/-- A full chunk is read in the same way whatever comes behind it. -/
lemma repaired_fread {fp : File} (hlen : c ≤ fp.rest.length) :
    (fread c fp.repaired).2 = (fread c fp).2.repaired := by
  have hfull : decide ((fp.rest.take c).length < c) = false := by
    rw [decide_eq_false_iff_not, List.length_take]
    omega
  have hfull' : decide ((fp.repaired.rest.take c).length < c) = false := hfull
  simp only [fread, File.advance, hfull, hfull']
  rw [Bool.false_and, Bool.false_and]
  rfl

/-- When a stream ends in a read error, and the work on an empty chunk never fails, then
the loop fails as it would fail without the read error. -/
lemma readRun_error_iff (hc : 0 < c) (hempty : ∀ buf t, ∃ t', act buf 0 t = .ok t') {e : ε} :
    ∀ (n : ℕ) (fp : File) (buf : ℕ → UInt8) (t : τ), fp.rest.length = n → fp.eof = false →
      fp.ioError = true →
      (ReadRun c act ⟨fp, buf, t⟩ (.error e) ↔ ReadRun c act ⟨fp.repaired, buf, t⟩ (.error e)) := by
  intro n
  induction n using Nat.strong_induction_on with
  | _ n ih =>
      intro fp buf t hn heof hio
      cases hact : act (store (fp.rest.take c) buf) (fp.rest.take c).length t with
      | error e' =>
          rw [readRun_round_error (s := ⟨fp, buf, t⟩) heof hact,
            readRun_round_error (s := ⟨fp.repaired, buf, t⟩) heof hact]
      | ok t' =>
          rw [readRun_round_ok (s := ⟨fp, buf, t⟩) heof hact,
            readRun_round_ok (s := ⟨fp.repaired, buf, t⟩) heof hact]
          rcases Nat.lt_or_ge fp.rest.length c with hlt | hge
          · -- one loop has reached its end, the other one will never
            refine iff_of_false ?_ ?_
            · exact not_readRun_empty hempty (by simp [eof_fread, heof, hio]) hio
                (by rw [rest_fread, List.drop_eq_nil_of_le hlt.le])
            · intro h
              have hend : (fread c fp.repaired).2.eof = true := by
                simp [eof_fread, File.repaired, File.rest] at hlt ⊢
                exact .inr hlt
              cases h.deterministic (.done (by simp [hend]))
          · -- a full chunk: the read error is still to come
            rw [repaired_fread hge]
            exact ih (n - c) (by omega) _ _ _ (by simp [hn])
              (by simp [eof_fread, heof, hio]) hio

/-- A chunk is what its bytes in the buffer are. -/
lemma bytesOf_chunk (fp : File) (buf : ℕ → UInt8) :
    bytesOf (store (fp.rest.take c) buf) (fp.rest.take c).length = fp.rest.take c :=
  bytesOf_store _ _

/-- The chunks in which a loop reads `n` bytes: one for each full chunk, and the last one,
which may be empty. -/
def chunks (c : ℕ) : ℕ → List UInt8 → List (List UInt8)
  | 0, bytes => [bytes.take c]
  | n + 1, bytes => bytes.take c :: chunks c n (bytes.drop c)

/-- The chunks of a sequence of bytes. -/
def chunksOf (c : ℕ) (bytes : List UInt8) : List (List UInt8) :=
  chunks c (bytes.length / c) bytes

lemma chunksOf_of_lt {bytes : List UInt8} (h : bytes.length < c) : chunksOf c bytes = [bytes] := by
  rw [chunksOf, Nat.div_eq_of_lt h, chunks, List.take_of_length_le h.le]

lemma chunksOf_of_le {bytes : List UInt8} (hc : 0 < c) (h : c ≤ bytes.length) :
    chunksOf c bytes = bytes.take c :: chunksOf c (bytes.drop c) := by
  rw [chunksOf, Nat.div_eq_sub_div hc h, chunks, chunksOf, List.length_drop]

/-- A loop that works on the bytes of its chunks fails where the work on one chunk after the
other fails. -/
lemma readRun_chunks (hc : 0 < c) (work : List UInt8 → τ → Except ε τ) {e : ε} :
    ∀ (n : ℕ) (s : ReadState τ), s.fp.rest.length = n → s.fp.eof = false →
      s.fp.ioError = false →
      (ReadRun c (fun buf n t => work (bytesOf buf n) t) s (.error e) ↔
        (chunksOf c s.fp.rest).foldlM (fun t bytes => work bytes t) s.st = .error e) := by
  intro n
  induction n using Nat.strong_induction_on with
  | _ n ih =>
      intro s hn heof hio
      have hbytes := bytesOf_chunk (c := c) s.fp s.buf
      have hhead : ∃ rest, chunksOf c s.fp.rest = s.fp.rest.take c :: rest := by
        rcases Nat.lt_or_ge s.fp.rest.length c with hlt | hge
        · exact ⟨[], by rw [chunksOf_of_lt hlt, List.take_of_length_le hlt.le]⟩
        · exact ⟨_, chunksOf_of_le hc hge⟩
      cases hact : work (s.fp.rest.take c) s.st with
      | error e' =>
          obtain ⟨rest, hrest⟩ := hhead
          rw [readRun_round_error heof (by rw [hbytes, hact]), hrest, List.foldlM_cons, hact,
            error_bind]
          constructor
          · intro h
            rw [Except.error.inj h]
          · intro h
            rw [Except.error.inj h]
      | ok t =>
          rw [readRun_round_ok heof (by rw [hbytes, hact])]
          rcases Nat.lt_or_ge s.fp.rest.length c with hlt | hge
          · -- the last chunk: both are done
            rw [List.take_of_length_le hlt.le] at hact
            rw [chunksOf_of_lt hlt, List.foldlM_cons, hact, ok_bind]
            refine iff_of_false (fun h => ?_) (fun h => by cases h)
            have hend : (fread c s.fp).2.eof = true := by simp [eof_fread, hio, hlt]
            cases h.deterministic (.done (by simp [hend]))
          · -- a full chunk, then the rest of the stream
            rw [chunksOf_of_le hc hge, List.foldlM_cons, hact, ok_bind, ← rest_fread]
            exact ih (n - c) (by omega) ⟨_, _, t⟩ (by simp [hn])
              (by simp [eof_fread, heof, hge]) hio

/-- A loop that works on the bytes of its chunks does the work on one chunk after the
other. -/
lemma readLoop_chunks (stuck : ε) (hc : 0 < c) (work : List UInt8 → τ → Except ε τ) :
    ∀ (n : ℕ) (s : ReadState τ), s.fp.rest.length = n → s.fp.eof = false →
      s.fp.ioError = false →
      (readLoop stuck c (fun buf n t => work (bytesOf buf n) t) s >>= fun s => .ok s.st) =
        (chunksOf c s.fp.rest).foldlM (fun t bytes => work bytes t) s.st := by
  intro n
  induction n using Nat.strong_induction_on with
  | _ n ih =>
      intro s hn heof hio
      rcases Nat.lt_or_ge s.fp.rest.length c with hlt | hge
      · rw [readLoop_last heof hio hlt, bytesOf_store, chunksOf_of_lt hlt, List.foldlM_cons,
          bind_assoc]
        rfl
      · have hbytes := bytesOf_chunk (c := c) s.fp s.buf
        rw [List.length_take, Nat.min_eq_left hge] at hbytes
        rw [readLoop_full hc heof hge, bind_assoc, hbytes, chunksOf_of_le hc hge, List.foldlM_cons,
          ← rest_fread]
        refine bind_congr fun t => ?_
        exact ih (n - c) (by omega) ⟨_, _, t⟩ (by simp [hn])
          (by simp [eof_fread, heof, hge]) hio

/-! ### Short reads -/

/-- What a call of `fread` for `n` bytes may do: deliver some of the bytes that come next,
and fewer than `n` of them for whatever reason. -/
structure ShortRead (n : ℕ) (fp : File) (bytes : List UInt8) (fp' : File) : Prop where
  length_le : bytes.length ≤ n
  rest : fp.rest = bytes ++ fp'.rest
  consistent : fp.Consistent → fp'.Consistent

/-- A read that only the end of the file cuts short. -/
lemma shortRead_fread (n : ℕ) (fp : File) : ShortRead n fp (fread n fp).1 (fread n fp).2 where
  length_le := List.length_take_le n fp.rest
  rest := by rw [fread_fst, rest_fread, List.take_append_drop]
  consistent := (reads_fread n fp).consistent

/-- The chunks in which a loop that asks `feof` whether to go on may see a stream. -/
inductive ChunkReads (c : ℕ) : File → List (List UInt8) → Prop
  | done {fp : File} (h : fp.eof = true) : ChunkReads c fp []
  | round {fp fp' : File} {bytes : List UInt8} {chunks : List (List UInt8)} (h : fp.eof = false)
      (hread : ShortRead c fp bytes fp') (hrest : ChunkReads c fp' chunks) :
      ChunkReads c fp (bytes :: chunks)

/-- In whichever chunks a stream is read, it is read once and in order. -/
lemma ChunkReads.flatten {fp : File} {chunks : List (List UInt8)} (h : ChunkReads c fp chunks)
    (hfp : fp.Consistent) : chunks.flatten = fp.rest := by
  induction h with
  | done heof => exact (hfp heof).2.symm
  | round _ hread _ ih => rw [List.flatten_cons, ih (hread.consistent hfp), hread.rest]

/-- The chunks that only the end of the file cuts short. -/
lemma chunkReads_chunksOf (hc : 0 < c) : ∀ (n : ℕ) (fp : File), fp.rest.length = n →
    fp.eof = false → fp.ioError = false → ChunkReads c fp (chunksOf c fp.rest) := by
  intro n
  induction n using Nat.strong_induction_on with
  | _ n ih =>
      intro fp hn heof hio
      have hread := shortRead_fread c fp
      rcases Nat.lt_or_ge fp.rest.length c with hlt | hge
      · rw [fread_fst, List.take_of_length_le hlt.le] at hread
        rw [chunksOf_of_lt hlt]
        exact .round heof hread (.done (by simp [eof_fread, hio, hlt]))
      · rw [chunksOf_of_le hc hge, ← rest_fread]
        exact .round heof hread (ih (n - c) (by omega) (fread c fp).2 (by simp [hn])
          (by simp [eof_fread, heof, hge]) hio)

/-! ### Loops that end well -/

/-- The loop ends, and it fails when the stream ends in a read error. -/
structure EndsWell (c : ℕ) (fails : ε → Prop) (act : (ℕ → UInt8) → ℕ → τ → Except ε τ)
    (fp : InputStream) (buf : ℕ → UInt8) (t : τ) : Prop where
  ends : ∃ r, ReadRun c act ⟨fp.toFile, buf, t⟩ r
  failed : fp.ioError = true → ∃ e, fails e ∧ ReadRun c act ⟨fp.toFile, buf, t⟩ (.error e)

variable {fails : ε → Prop} {fp : InputStream} {buf : ℕ → UInt8} {t : τ}

lemma InputStream.eof_of_ioError (fp : InputStream) (hio : fp.ioError = true) :
    fp.eof = false := by
  by_contra heof
  have := (fp.consistent (by simpa using heof)).1
  exact absurd (hio.symm.trans this) (by decide)

/-- Without a read error every loop ends well. -/
lemma endsWell_of_sound (hc : 0 < c) (hio : fp.ioError = false) :
    EndsWell c fails act fp buf t :=
  ⟨exists_readRun hc _ _ rfl hio, fun h => absurd (hio.symm.trans h) (by decide)⟩

/-- A loop whose work never fails ends well only without a read error. -/
lemma endsWell_iff_total (hc : 0 < c) (htotal : ∀ buf n t, ∃ t', act buf n t = .ok t') :
    EndsWell c fails act fp buf t ↔ fp.ioError = false := by
  constructor
  · intro h
    by_contra hio
    have hio : fp.ioError = true := by simpa using hio
    obtain ⟨r, hr⟩ := h.ends
    exact not_readRun_total htotal (fp.eof_of_ioError hio) hio hr
  · exact endsWell_of_sound hc

/-- A loop ends well without a read error, or when its work fails before. -/
lemma endsWell_iff_error (hc : 0 < c) (hempty : ∀ buf t, ∃ t', act buf 0 t = .ok t')
    (hfails : ∀ buf n t e, act buf n t = .error e → fails e) :
    EndsWell c fails act fp buf t ↔
      fp.ioError = false ∨ ∃ e, ReadRun c act ⟨fp.repaired, buf, t⟩ (.error e) := by
  cases hio : fp.ioError with
  | false => exact iff_of_true (endsWell_of_sound hc hio) (.inl rfl)
  | true =>
      have heof := fp.eof_of_ioError hio
      have hiff : ∀ e, _ := fun e =>
        readRun_error_iff (e := e) hc hempty _ fp.toFile buf t rfl heof hio
      -- an error of the loop is one of its work
      have herror : ∀ (s : ReadState τ) (r : Except ε (ReadState τ)), ReadRun c act s r →
          ∀ e, r = .error e → fails e := by
        intro s r h
        induction h with
        | done _ => intro e he; cases he
        | round _ _ _ ih => exact ih
        | @error s e _ he =>
            intro e' heq
            obtain rfl := Except.error.inj heq
            rw [readRound_eq] at he
            cases hact : act (store (s.fp.rest.take c) s.buf) (s.fp.rest.take c).length s.st with
            | error e' =>
                rw [hact, error_bind] at he
                obtain rfl := Except.error.inj he
                exact hfails _ _ _ _ hact
            | ok t => rw [hact, ok_bind] at he; cases he
      constructor
      · intro h
        obtain ⟨e, -, hrun⟩ := h.failed hio
        exact .inr ⟨e, (hiff e).1 hrun⟩
      · rintro (h | ⟨e, hrun⟩)
        · cases h
        · have hrun := (hiff e).2 hrun
          exact ⟨⟨_, hrun⟩, fun _ => ⟨e, herror _ _ hrun e rfl, hrun⟩⟩

end ReadRun

end Mesaflash.Lib
