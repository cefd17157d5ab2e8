import Mesaflash.FlashArea
import Mesaflash.BitfilePosition

/-!
Writes that fail.

The access layer of `eeprom_local.c` works on a chip select line: it raises the
line around `start_programming` and at the end of a write.  The layer of
`eeprom_remote.c` adds nothing.

A write fails for eight reasons, and all of them come before the first sector of
the image is erased.  One of the steps before them may already have repaired the
boot sector, though, and the size of the file is only looked at after it.
`writeFlash_failed` says exactly what a write that failed has modified.
-/

namespace Mesaflash

open Lib

variable {σ : Type} {sha : Sha256} {fs : FileSystem} {acc : SpiEepromDev σ} {csHigh : σ → σ}
  {board : Board} {name : CStr} {start : ℕ} {fix shaFlag : ℤ} {p p' : Proc σ}

/-! ### The access layers -/

section Layers

variable (sha fs acc) (csHigh : σ → σ)

/-- `local_start_programming`, where `csHigh` is `set_cs_high`. -/
def localStartProgramming (board : Board) (startAddress : ℕ) (fsize : ℤ) (p : Proc σ) :
    Except Fault (ℤ × Proc σ) := do
  let p := { p with dev := csHigh p.dev }
  let (ret, p) ← startProgramming acc board startAddress fsize p
  return (ret, { p with dev := csHigh p.dev })

/-- `local_write_flash`. -/
def localWriteFlash (board : Board) (name : CStr) (startAddress : ℕ)
    (fixBootFlag sha256CheckFlag : ℤ) (p : Proc σ) : Except Fault (ℤ × Proc σ) := do
  let (ret, p) ← eepromWriteBy sha fs acc (localStartProgramming acc csHigh board) board name
    startAddress fixBootFlag sha256CheckFlag p
  return (ret, { p with dev := csHigh p.dev })

/-- The write function of a set of flash functions: `local_write_flash`, or
`remote_write_flash`, which only calls `eeprom_write`. -/
def writeFlash (handler : FlashHandler) :
    Board → CStr → ℕ → ℤ → ℤ → Proc σ → Except Fault (ℤ × Proc σ) :=
  match handler with
  | .localFlash => localWriteFlash sha fs acc csHigh
  | .remoteFlash => eepromWrite sha fs acc

end Layers

/-! ### What is asked of the flash memory -/

/-- What an access layer is asked for. -/
inductive AccessOp where
  | flash (op : FlashOp)
  | csHigh

/-- The erasures and writes among the operations. -/
def modifications (ops : List AccessOp) : List FlashOp :=
  ops.filterMap fun op =>
    match op with
    | .flash (.write a page) => some (.write a page)
    | .flash (.erase a) => some (.erase a)
    | _ => none

lemma modifications_append (ops ops' : List AccessOp) :
    modifications (ops ++ ops') = modifications ops ++ modifications ops' :=
  List.filterMap_append

/-- The operations take the device from one state to another. -/
inductive Performs (acc : SpiEepromDev σ) (csHigh : σ → σ) : σ → List AccessOp → σ → Prop
  | nil (s : σ) : Performs acc csHigh s [] s
  | read {s s' s'' : σ} {a : ℕ} {page : PageBuf} {ops : List AccessOp}
      (h : acc.readPage a s = .ok (page, s')) (hrest : Performs acc csHigh s' ops s'') :
      Performs acc csHigh s (.flash (.read a) :: ops) s''
  | write {s s' s'' : σ} {a : ℕ} {page : PageBuf} {ops : List AccessOp}
      (h : acc.writePage a page s = .ok s') (hrest : Performs acc csHigh s' ops s'') :
      Performs acc csHigh s (.flash (.write a page) :: ops) s''
  | erase {s s' s'' : σ} {a : ℕ} {ops : List AccessOp}
      (h : acc.eraseSector a s = .ok s') (hrest : Performs acc csHigh s' ops s'') :
      Performs acc csHigh s (.flash (.erase a) :: ops) s''
  | csHigh {s s' : σ} {ops : List AccessOp} (hrest : Performs acc csHigh (csHigh s) ops s') :
      Performs acc csHigh s (.csHigh :: ops) s'

lemma Performs.append {s s' s'' : σ} {ops ops' : List AccessOp}
    (h : Performs acc csHigh s ops s') (h' : Performs acc csHigh s' ops' s'') :
    Performs acc csHigh s (ops ++ ops') s'' := by
  induction h with
  | nil s => exact h'
  | read hs _ ih => exact .read hs (ih h')
  | write hs _ ih => exact .write hs (ih h')
  | erase hs _ ih => exact .erase hs (ih h')
  | csHigh _ ih => exact .csHigh (ih h')

/-- The device went from `s` to `s'` with the given modifications. -/
def Modifies (acc : SpiEepromDev σ) (csHigh : σ → σ) (s : σ) (mods : List FlashOp) (s' : σ) :
    Prop := ∃ ops, Performs acc csHigh s ops s' ∧ modifications ops = mods

lemma Modifies.refl (s : σ) : Modifies acc csHigh s [] s := ⟨[], .nil s, rfl⟩

lemma Modifies.trans {s s' s'' : σ} {mods mods' : List FlashOp}
    (h : Modifies acc csHigh s mods s') (h' : Modifies acc csHigh s' mods' s'') :
    Modifies acc csHigh s (mods ++ mods') s'' := by
  obtain ⟨ops, hops, rfl⟩ := h
  obtain ⟨ops', hops', rfl⟩ := h'
  exact ⟨ops ++ ops', hops.append hops', modifications_append _ _⟩

lemma modifies_csHigh (s : σ) : Modifies acc csHigh s [] (csHigh s) :=
  ⟨[.csHigh], .csHigh (.nil _), rfl⟩

/-! ### The boot sector -/

/-- The boot sector check repairs the boot sector: there is a boot block, it is not valid,
and the repair was asked for. -/
def RepairsBoot (acc : SpiEepromDev σ) (board : Board) (fix : ℤ) (p : Proc σ) : Prop :=
  HasBootBlock board ∧ fix ≠ 0 ∧ ∃ q, checkBoot acc p = .ok (-1, q)

/-- What a repair modifies. -/
def repairOps (block : BootBlock) : List FlashOp :=
  [.erase bootAddress, .write 0 (bootPage block)]

/-- The device was modified by a repair of the boot sector, or not at all. -/
structure BootModified (acc : SpiEepromDev σ) (csHigh : σ → σ) (repairs : Prop)
    (block : BootBlock) (s s' : σ) : Prop where
  repaired : repairs → Modifies acc csHigh s (repairOps block) s'
  untouched : ¬ repairs → Modifies acc csHigh s [] s'

lemma BootModified.trans {repairs : Prop} {block : BootBlock} {s s' s'' : σ}
    (h : BootModified acc csHigh repairs block s s') (h' : Modifies acc csHigh s' [] s'') :
    BootModified acc csHigh repairs block s s'' :=
  ⟨fun hr => (h.repaired hr).trans h', fun hr => (h.untouched hr).trans h'⟩

variable (csHigh) in
/-- A boot check reads one page. -/
lemma checkBoot_modifies {r : ℤ} {q : Proc σ} (h : checkBoot acc p = .ok (r, q)) :
    Modifies acc csHigh p.dev [] q.dev ∧ q.bootBlock = p.bootBlock := by
  rw [checkBoot, bind_eq_ok] at h
  obtain ⟨x, hread, h⟩ := h
  obtain ⟨page, dev⟩ := x
  have hmod : Modifies acc csHigh p.dev [] dev := ⟨[_], .read hread (.nil _), rfl⟩
  dsimp only at h
  split at h
  · obtain ⟨-, rfl⟩ := Prod.mk.inj (Except.ok.inj h)
    exact ⟨hmod, rfl⟩
  · obtain ⟨-, rfl⟩ := Prod.mk.inj (Except.ok.inj h)
    exact ⟨hmod, rfl⟩

variable (csHigh) in
lemma writeBoot_modifies {q : Proc σ} (h : writeBoot acc p = .ok q) :
    Modifies acc csHigh p.dev (repairOps p.bootBlock) q.dev := by
  simp only [writeBoot, bind_eq_ok, pageAt_bootFileBuffer] at h
  obtain ⟨dev, herase, dev', hwrite, h⟩ := h
  obtain rfl := Except.ok.inj h
  exact ⟨_, .erase herase (.write hwrite (.nil _)), rfl⟩

variable (acc csHigh board fix p) in
/-- The boot sector check modifies the flash memory exactly when it repairs the boot
sector, whether it succeeds or not. -/
lemma writeBootCheck_modifies :
    Yields (fun q => BootModified acc csHigh (RepairsBoot acc board fix p) p.bootBlock p.dev q.dev)
      (Returns fun r =>
        BootModified acc csHigh (RepairsBoot acc board fix p) p.bootBlock p.dev r.2.dev)
      (writeBootCheck acc board fix p) := by
  unfold writeBootCheck
  split
  · next hboard =>
    cases hcheck : checkBoot acc p with
    | error f => exact .error trivial
    | ok x =>
        obtain ⟨r, q⟩ := x
        obtain ⟨hread, hblock⟩ := checkBoot_modifies csHigh hcheck
        rw [call_ok, ok_bind]
        dsimp only
        split
        · next hr =>
          subst hr
          by_cases hfix : fix = 0
          · have hno : ¬ RepairsBoot acc board fix p := fun h => h.2.1 hfix
            rw [exitIf_pos hfix, error_bind]
            exact .error ⟨fun h => absurd h hno, fun _ => hread⟩
          · have hyes : RepairsBoot acc board fix p := ⟨hboard, hfix, q, hcheck⟩
            rw [exitIf_neg hfix, ok_bind]
            cases hwrite : writeBoot acc q with
            | error f => exact .error trivial
            | ok q₁ =>
                have hrepair := hread.trans (writeBoot_modifies csHigh hwrite)
                rw [hblock, List.nil_append] at hrepair
                rw [call_ok, ok_bind]
                cases hcheck' : checkBoot acc q₁ with
                | error f => exact .error trivial
                | ok x' =>
                    obtain ⟨r', q₂⟩ := x'
                    have hread' := (checkBoot_modifies csHigh hcheck').1
                    have hmod : BootModified acc csHigh (RepairsBoot acc board fix p) p.bootBlock
                        p.dev q₂.dev :=
                      ⟨fun _ => hrepair.trans hread', fun h => absurd hyes h⟩
                    rw [call_ok, ok_bind]
                    dsimp only
                    refine Yields.bind (P := fun _ => ¬ r' = -1) (yields_exitIf fun _ => ?_)
                      fun _ _ => ?_
                    · exact hmod
                    · exact .ok hmod
        · next hr =>
          have hno : ¬ RepairsBoot acc board fix p := by
            rintro ⟨-, -, q', hq'⟩
            exact hr (Prod.mk.inj (Except.ok.inj (hcheck.symm.trans hq'))).1
          exact .ok ⟨fun h => absurd h hno, fun _ => hread⟩
  · next hboard =>
    exact .ok ⟨fun h => absurd h.1 hboard, fun _ => .refl _⟩

/-! ### A failed write -/

/-- The checks before the boot sector check are passed and leave `p'`. -/
def Checked (sha : Sha256) (fs : FileSystem) (board : Board) (name : CStr) (shaFlag : ℤ)
    (p p' : Proc σ) : Prop :=
  ∃ size fp₀ ret part fp, writeShaCheck sha fs name shaFlag p = .ok p' ∧
    fs.stSize name = some size ∧ fs.fopen name = some fp₀ ∧
    printBitfileHeader fp₀ = .ok (ret, part, fp) ∧ ret ≠ -1 ∧
    writePartCheck board part p' = .ok ()

/-- The write repairs the boot sector: it comes to the boot sector check, and that repairs
it. -/
def WriteRepairs (sha : Sha256) (fs : FileSystem) (acc : SpiEepromDev σ) (board : Board)
    (name : CStr) (fix shaFlag : ℤ) (p : Proc σ) : Prop :=
  (∃ p', Checked sha fs board name shaFlag p p') ∧ RepairsBoot acc board fix p

/-- When `program` fails, it has modified nothing. -/
def FailsUnmodified (acc : SpiEepromDev σ) (csHigh : σ → σ)
    (program : ℕ → ℤ → Proc σ → Except Fault (ℤ × Proc σ)) : Prop :=
  ∀ a n q q', program a n q = .ok (-1, q') → Modifies acc csHigh q.dev [] q'.dev

lemma repairsBoot_congr {buf : ℕ → UInt8} :
    RepairsBoot acc board fix { p with fileBuffer := buf } ↔ RepairsBoot acc board fix p := by
  have hcheck : (∃ q, checkBoot acc { p with fileBuffer := buf } = .ok (-1, q)) ↔
      ∃ q, checkBoot acc p = .ok (-1, q) := by
    rw [checkBoot, checkBoot]
    dsimp only
    cases acc.readPage 0 p.dev with
    | error f => simp
    | ok x =>
        rw [ok_bind, ok_bind]
        split
        · exact iff_of_false (by simp) (by simp)
        · exact iff_of_true ⟨_, rfl⟩ ⟨_, rfl⟩
  rw [RepairsBoot, RepairsBoot, hcheck]

/-- A write that failed in one of the checks before the boot sector check leaves the device as
it was. -/
lemma eepromWriteBy_unchecked {program : ℕ → ℤ → Proc σ → Except Fault (ℤ × Proc σ)}
    (hno : ¬ ∃ p₁, Checked sha fs board name shaFlag p p₁)
    (h : eepromWriteBy sha fs acc program board name start fix shaFlag p = .ok (-1, p')) :
    p'.dev = p.dev := by
  rcases body_eq_ok.1 h with hend | hret
  · -- a write that comes to its end has succeeded
    simp only [bind_eq_ok] at hend
    obtain ⟨_, -, _, -, _, -, _, -, _, -, _, -, _, -, _, -, _, -, _, -, hend⟩ := hend
    exact absurd (Prod.mk.inj (Except.ok.inj hend)).1 (by decide)
  · refine (?_ : EarlyRet (fun r : ℤ × Proc σ => r.2.dev = p.dev) _) _ hret
    refine .bind (writeShaCheck_earlyRet fun _ => rfl) fun p₁ hsha => ?_
    have hdev : p₁.dev = p.dev := by
      obtain ⟨buf, rfl⟩ := writeShaCheck_frame hsha
      rfl
    refine .bind (.orExit hdev) fun size hsize => .bind (.orExit hdev) fun fp₀ hopen =>
      .bind (.call _) fun x hhead => .bind (.exitIf fun _ => hdev) fun _ hret' =>
      .bind (writePartCheck_earlyRet hdev) fun _ hpart => ?_
    obtain ⟨ret, part, fp⟩ := x
    exact absurd ⟨p₁, size, fp₀, ret, part, fp, hsha, orExit_eq_ok.1 hsize,
      orExit_eq_ok.1 hopen, call_eq_ok.1 hhead, exitIf_eq_ok.1 hret', hpart⟩ hno

/-- A write that failed after the boot sector check has modified nothing since. -/
lemma programs_failed {program : ℕ → ℤ → Proc σ → Except Fault (ℤ × Proc σ)} {fp : File} {n : ℤ}
    {q : Proc σ} (hprogram : FailsUnmodified acc csHigh program)
    (h : body (do
      let (r, q) ← call (program start n q)
      exitIf (r = -1) (-1, q)
      let q ← call (programLoop acc fp start q)
      return (0, q)) = .ok (-1, p')) :
    Modifies acc csHigh q.dev [] p'.dev := by
  cases hprog : program start n q with
  | error f => rw [hprog] at h; cases h
  | ok x =>
      obtain ⟨r, q'⟩ := x
      rw [hprog, call_ok, ok_bind] at h
      dsimp only at h
      by_cases hr : r = -1
      · subst hr
        rw [exitIf_pos rfl, error_bind] at h
        obtain rfl : q' = p' := (Prod.mk.inj (Except.ok.inj h)).2
        exact hprogram _ _ _ _ hprog
      · -- an image that is programmed is a success
        rw [exitIf_neg hr, ok_bind] at h
        cases hloop : programLoop acc fp start q' with
        | error f => rw [hloop] at h; cases h
        | ok q'' =>
            rw [hloop, call_ok, ok_bind] at h
            exact absurd (Prod.mk.inj (Except.ok.inj h)).1 (by decide)

/-- A write that failed has at most repaired the boot sector. -/
lemma eepromWriteBy_failed {program : ℕ → ℤ → Proc σ → Except Fault (ℤ × Proc σ)}
    (hprogram : FailsUnmodified acc csHigh program)
    (h : eepromWriteBy sha fs acc program board name start fix shaFlag p = .ok (-1, p')) :
    BootModified acc csHigh (WriteRepairs sha fs acc board name fix shaFlag p) p.bootBlock p.dev
      p'.dev := by
  by_cases hchecked : ∃ p₁, Checked sha fs board name shaFlag p p₁
  · obtain ⟨p₁, size, fp₀, ret, part, fp, hsha, hsize, hopen, hhead, hret, hpart⟩ := hchecked
    obtain ⟨buf, rfl⟩ := writeShaCheck_frame hsha
    have hiff : WriteRepairs sha fs acc board name fix shaFlag p ↔
        RepairsBoot acc board fix { p with fileBuffer := buf } := by
      rw [repairsBoot_congr]
      exact and_iff_right ⟨_, size, fp₀, ret, part, fp, hsha, hsize, hopen, hhead, hret, hpart⟩
    rw [eepromWriteBy, hsha, ok_bind, hsize, orExit_some, ok_bind, hopen, orExit_some, ok_bind,
      hhead, call_ok, ok_bind] at h
    dsimp only at h
    rw [exitIf_neg hret, ok_bind, hpart, ok_bind] at h
    have hboot := writeBootCheck_modifies acc csHigh board fix { p with fileBuffer := buf }
    rw [← propext hiff] at hboot
    cases hrun : writeBootCheck acc board fix { p with fileBuffer := buf } with
    | error e =>
        rw [hrun] at hboot h
        cases hboot with
        | error he =>
            cases e with
            | fault f => simp at h
            | ret r =>
                obtain rfl : r = (-1, p') := Except.ok.inj h
                exact he
    | ok p₂ =>
        rw [hrun] at hboot h
        rw [ok_bind] at h
        exact (hboot.of_eq_ok rfl).trans (programs_failed hprogram h)
  · have hno : ¬ WriteRepairs sha fs acc board name fix shaFlag p := fun h => hchecked h.1
    refine ⟨fun h => absurd h hno, fun _ => ?_⟩
    rw [eepromWriteBy_unchecked hchecked h]
    exact .refl _

variable (csHigh) in
lemma startProgramming_failsUnmodified :
    FailsUnmodified acc csHigh (startProgramming acc board) := by
  intro a n q q' h
  rw [startProgramming_eq] at h
  split at h
  · obtain ⟨-, rfl⟩ := Prod.mk.inj (Except.ok.inj h)
    exact .refl _
  · rw [bind_eq_ok] at h
    obtain ⟨dev, -, h⟩ := h
    exact absurd (Prod.mk.inj (Except.ok.inj h)).1 (by decide)

lemma localStartProgramming_failsUnmodified :
    FailsUnmodified acc csHigh (localStartProgramming acc csHigh board) := by
  intro a n q q' h
  rw [localStartProgramming, bind_eq_ok] at h
  obtain ⟨x, hx, h⟩ := h
  obtain ⟨r, q₁⟩ := x
  obtain ⟨rfl, rfl⟩ := Prod.mk.inj (Except.ok.inj h)
  have hmod := startProgramming_failsUnmodified csHigh _ _ _ _ hx
  exact ((modifies_csHigh q.dev).trans hmod).trans (modifies_csHigh _)

lemma writeFlash_modified (handler : FlashHandler)
    (h : writeFlash sha fs acc csHigh handler board name start fix shaFlag p = .ok (-1, p')) :
    BootModified acc csHigh (WriteRepairs sha fs acc board name fix shaFlag p) p.bootBlock p.dev
      p'.dev := by
  cases handler with
  | localFlash =>
      rw [writeFlash, localWriteFlash, bind_eq_ok] at h
      obtain ⟨x, hx, h⟩ := h
      obtain ⟨r, q⟩ := x
      obtain ⟨rfl, rfl⟩ := Prod.mk.inj (Except.ok.inj h)
      exact (eepromWriteBy_failed localStartProgramming_failsUnmodified hx).trans
        (modifies_csHigh q.dev)
  | remoteFlash => exact eepromWriteBy_failed (startProgramming_failsUnmodified csHigh) h

/-! ### The log and the flash memory -/

/-- Access functions that keep a log, and read what the oracle says. -/
def transcript (oracle : List AccessOp → ℕ → PageBuf) : SpiEepromDev (List AccessOp) where
  readPage a log := .ok (oracle log a, log ++ [.flash (.read a)])
  writePage a page log := .ok (log ++ [.flash (.write a page)])
  eraseSector a log := .ok (log ++ [.flash (.erase a)])

/-- The chip select function that keeps the log. -/
def logCsHigh (log : List AccessOp) : List AccessOp := log ++ [.csHigh]

/-- The log tells what was performed. -/
lemma performs_transcript {oracle : List AccessOp → ℕ → PageBuf} {log log' ops : List AccessOp}
    (h : Performs (transcript oracle) logCsHigh log ops log') : log' = log ++ ops := by
  induction h with
  | nil log => exact (List.append_nil log).symm
  | read hs _ ih =>
      obtain ⟨-, rfl⟩ := Prod.mk.inj (Except.ok.inj hs)
      rw [ih, List.append_assoc, List.singleton_append]
  | write hs _ ih =>
      obtain rfl := Except.ok.inj hs
      rw [ih, List.append_assoc, List.singleton_append]
  | erase hs _ ih =>
      obtain rfl := Except.ok.inj hs
      rw [ih, List.append_assoc, List.singleton_append]
  | csHigh _ ih => rw [ih, logCsHigh, List.append_assoc, List.singleton_append]

variable {k : ℕ}

/-- What an operation makes of the flash memory. -/
def FlashOp.apply (f : Flash (chip k)) : FlashOp → Flash (chip k)
  | .read _ => f
  | .write a page => Flash.programPage a page f
  | .erase a => Flash.eraseSector a f

/-- The flash memory only notices modifications. -/
lemma performs_norFlash {f f' : Flash (chip k)} {ops : List AccessOp}
    (h : Performs (norFlash k) id f ops f') : f' = (modifications ops).foldl FlashOp.apply f := by
  induction h with
  | nil f => rfl
  | read hs _ ih =>
      obtain ⟨-, rfl⟩ := Prod.mk.inj (Except.ok.inj hs)
      exact ih
  | write hs _ ih =>
      obtain rfl := Except.ok.inj hs
      exact ih
  | erase hs _ ih =>
      obtain rfl := Except.ok.inj hs
      exact ih
  | csHigh _ ih => exact ih

/-- **A write that failed has asked for no erasure and no write, unless it came to an
invalid boot sector that it was to repair; then it has erased and written sector 0 as
the repair does.  The flash memory holds what it held before, or what the repair left.** -/
theorem writeFlash_failed (handler : FlashHandler) (sha : Sha256) (fs : FileSystem)
    (board : Board) (name : CStr) (start : ℕ) (fix shaFlag : ℤ) :
    (∀ oracle p p', writeFlash sha fs (transcript oracle) logCsHigh handler board name start fix
        shaFlag p = .ok (-1, p') →
      ∃ ops, p'.dev = p.dev ++ ops ∧
        (WriteRepairs sha fs (transcript oracle) board name fix shaFlag p →
          modifications ops = repairOps p.bootBlock) ∧
        (¬ WriteRepairs sha fs (transcript oracle) board name fix shaFlag p →
          modifications ops = [])) ∧
    ∀ (k : ℕ) (p p' : Proc (Flash (chip k))), writeFlash sha fs (norFlash k) id handler board name
        start fix shaFlag p = .ok (-1, p') →
      (WriteRepairs sha fs (norFlash k) board name fix shaFlag p →
        p'.dev = withBootBlock p.bootBlock p.dev) ∧
      (¬ WriteRepairs sha fs (norFlash k) board name fix shaFlag p → p'.dev = p.dev) := by
  constructor
  · intro oracle p p' h
    obtain ⟨hrepaired, huntouched⟩ := writeFlash_modified handler h
    by_cases hr : WriteRepairs sha fs (transcript oracle) board name fix shaFlag p
    · obtain ⟨ops, hops, hmods⟩ := hrepaired hr
      exact ⟨ops, performs_transcript hops, fun _ => hmods, fun hno => absurd hr hno⟩
    · obtain ⟨ops, hops, hmods⟩ := huntouched hr
      exact ⟨ops, performs_transcript hops, fun h => absurd h hr, fun _ => hmods⟩
  · intro k p p' h
    obtain ⟨hrepaired, huntouched⟩ := writeFlash_modified handler h
    constructor
    -- with the ops of the repair, the memory is the repaired one
    · intro hr
      obtain ⟨ops, hops, hmods⟩ := hrepaired hr
      rw [performs_norFlash hops, hmods]
      rfl
    · intro hr
      obtain ⟨ops, hops, hmods⟩ := huntouched hr
      rw [performs_norFlash hops, hmods]
      rfl

/-! ### A file that is too large -/

lemma length_part7i98 : (ascii "6slx9tqg144" ++ [0]).length < 2 ^ 16 := by decide

/-- A header of a file for the part of a 7I98. -/
def bitHeader7i98 : BitHeader where
  toXilinxHeader := { headerTop with part := ⟨ascii "6slx9tqg144" ++ [0], length_part7i98⟩ }
  lead_start := by decide
  design_le := by decide
  part_le := by decide
  part_nul := by decide
  date_le := by decide
  time_le := by decide

/-- A file of more than two sectors. -/
def largeFile : List UInt8 := bitHeader7i98.encode ++ List.replicate (2 * sectorSize) 0

/-- A file for which the user area of the smallest flash memory is too small is refused only
after the boot sector was repaired. -/
theorem writeFlash_tooLarge_repairs :
    ∃ (fs : FileSystem) (p p' : Proc (Flash (chip 1))),
      fs.node (ascii "large.bit") = some (.regular largeFile true false) ∧
      maxSectors (board7i98 idEeprom1M) 0x10000 < eSectors (toInt largeFile.length) ∧
      writeFlash (.constant fun _ => 0) fs (norFlash 1) id .remoteFlash (board7i98 idEeprom1M)
        (ascii "large.bit") 0x10000 1 0 p = .ok (-1, p') ∧ p'.dev ≠ p.dev := by
  obtain ⟨fs, hfs⟩ : ∃ fs, FileSystem.empty.put (ascii "large.bit") largeFile = fs := ⟨_, rfl⟩
  obtain ⟨p, hp⟩ : ∃ p : Proc (Flash (chip 1)), Proc.start (fun _ => 0xFF) = p := ⟨_, rfl⟩
  have hnode : fs.node (ascii "large.bit") = some (.regular largeFile true false) := by
    rw [← hfs]
    exact FileSystem.node_put_self _ _ _
  have hlarge : maxSectors (board7i98 idEeprom1M) 0x10000 < eSectors (toInt largeFile.length) := by
    rw [largeFile, List.length_append, List.length_replicate]
    decide
  have hfix : HasBootBlock (board7i98 idEeprom1M) → BootOk p.bootBlock p.dev ∨ (1 : ℤ) ≠ 0 :=
    fun _ => .inr (by decide)
  obtain ⟨p₂, hboot⟩ := exists_writeBootCheck hfix
  obtain ⟨hok, pb, hp₂⟩ := writeBootCheck_norFlash hboot
  refine ⟨fs, p, p₂, hnode, hlarge, ?_, ?_⟩
  · have hsha : writeShaCheck (.constant fun _ => 0) fs (ascii "large.bit") 0 p = .ok p := rfl
    have hhead := printBitfileHeader_encode bitHeader7i98 (List.replicate (2 * sectorSize) 0)
    have hpart : writePartCheck (board7i98 idEeprom1M) (some (cstr bitHeader7i98.part)) p =
        .ok () := by
      rw [writePartCheck_eq_ok]
      intro _
      decide
    have hstart := startProgramming_norFlash (board7i98 idEeprom1M) 0x10000
      (toInt largeFile.length) p₂
    rw [if_pos hlarge] at hstart
    rw [writeFlash, eepromWrite, eepromWriteBy, hsha, ok_bind,
      FileSystem.stSize_of_node hnode, orExit_some, ok_bind, FileSystem.fopen_of_node hnode,
      orExit_some, ok_bind, largeFile, hhead, call_ok, ok_bind]
    dsimp only
    rw [exitIf_neg (by decide), ok_bind, hpart, ok_bind, hboot, ok_bind, ← largeFile, hstart,
      call_ok, ok_bind]
    rfl
  · -- the boot block is there now, and was not before
    intro hsame
    have hdev : p₂.dev = repaired (board7i98 idEeprom1M) 1 p.bootBlock p.dev := by rw [hp₂]
    rw [← hdev, hsame] at hok
    have hbyte := hok ⟨rfl, rfl⟩ ⟨10, by decide⟩
    rw [← hp] at hbyte
    exact absurd hbyte (by decide)

end Mesaflash
