import Mesaflash.AcceptedOptions
import Mesaflash.MainRun

/-!
What the exit status of `main` says.

A result of the hardware passes two levels before it reaches `main`: the function of the board
that a pointer leads to, or a function of `eth_boards.c`, and the function of `anyio.c` that
called it.  The run of `main` records what each of them reports.  Its status is honest when
a 0 means that all of them reported success.

The status hides a failure in three places: `anyio_dev_program_fpga` does not look at what
`program_fpga` returns, `main` does not look at what `--reload` and `--reset` return on their
own, and it takes an argument that is too long for no error.
-/

namespace Mesaflash

open Lib

/-! ### What the status should say -/

/-- What was reported, by whom and on which operation. -/
def reports (events : List DeviceEvent) : List (Level × DeviceOp × ℤ) :=
  events.filterMap fun
    | .reported level op ret => some (level, op, ret)
    | _ => none

/-- The levels that an operation passes through, from the board to `main`. -/
def levels (op : DeviceOp) : List (Level × DeviceOp) := [(.board, op), (.anyio, op)]

/-- The reports that belong to an action. -/
def asked (o : Options) : Action → List (Level × DeviceOp)
  | .board .setRemoteIp => levels .setRemoteIp
  | .board .setLedMode => levels .setLedMode
  | .board _ => []
  | .file .write _ =>
    levels .write ++ (if o.flag .autoVerify ≠ 0 then levels .verify else []) ++
      (if o.flag .reload = 1 then levels .reload else [])
  | .file .verify _ => levels .verify
  | .file .backupFlash _ => levels .backup
  | .file .restoreFlash _ =>
    levels .restore ++ (if o.flag .autoVerify ≠ 0 then levels .verify else [])
  | .file .program _ => [(.board, .reset), (.board, .program), (.anyio, .program)]
  | .file .info _ => []
  | .reload => levels .reload
  | .reset => levels .reset
  | .printInfo => []

/-- A report of success. -/
def success (report : Level × DeviceOp) : Level × DeviceOp × ℤ := (report.1, report.2, 0)

/-- When the status is 0 and a board was to be found, the options were accepted and all parts of
the action reported success.  When the options were not accepted, the hardware was left
alone. -/
def StatusReflects {σ : Type} (fns : DeviceFunctions σ) (args : List CStr) (s : σ) : Prop :=
  ∀ status t, (fns.main args).run ⟨s, []⟩ = (status, t) →
    (status = .ok 0 → .search ∈ t.events → ∃ o, processCmdLine args = .ok (.ret 0 o) ∧
      reports t.events = (asked o (boardAction o)).map success) ∧
    ((∀ o, processCmdLine args ≠ .ok (.ret 0 o)) → t.events = [])

/-! ### When it does -/

/-- The name that a file option stored last. -/
def lastFile (events : List OptEvent) : CStr := ((fileArgs events).getLast?.map Prod.snd).getD []

/-- A board is selected, and no action on it or on a file. -/
def NoAction (events : List OptEvent) : Prop :=
  .device ∈ optionsOf events ∧ (∀ e ∈ events, askedAction e = none) ∧ fileArgs events = []

/-- `--reload` is the action. -/
def ReloadAlone (events : List OptEvent) : Prop :=
  NoAction events ∧ .flag .reload ∈ optionsOf events

/-- `--reset` is the action. -/
def ResetAlone (events : List OptEvent) : Prop :=
  NoAction events ∧ .flag .reload ∉ optionsOf events ∧ .flag .reset ∈ optionsOf events

/-- `fallback_flag`. -/
def fallbackOf (events : List OptEvent) : ℤ := if .flag .fallback ∈ optionsOf events then 1 else 0

/-- The results that are not looked at are good: what `program_fpga` returns behind a reset that
was successful, and what `--reload` and `--reset` return. -/
structure NoneHidden {σ : Type} (fns : DeviceFunctions σ) (events : List OptEvent) (b : BoardEntry)
    (s : σ) : Prop where
  program : chosen events = some .program → ∀ f g, b.reset = some f → b.programFpga = some g →
    ∀ s₁, fns.reset f b s = (.ok 0, s₁) →
      ∀ ret s₂, fns.programFpga g b (lastFile events) s₁ = (.ok ret, s₂) → ret = 0
  reload : ReloadAlone events → ∃ f, b.reload = some f ∧
    ∀ ret s₁, fns.reload f b (fallbackOf events) s = (.ok ret, s₁) → ret = 0
  reset : ResetAlone events → ∃ f, b.reset = some f ∧
    ∀ ret s₁, fns.reset f b s = (.ok ret, s₁) → ret = 0

/-! ### Actions that hide nothing -/

@[simp] lemma reports_nil : reports [] = [] := rfl

@[simp] lemma reports_append (events events' : List DeviceEvent) :
    reports (events ++ events') = reports events ++ reports events' := List.filterMap_append

@[simp] lemma reports_search : reports [.search] = [] := rfl

@[simp] lemma reports_boardOpen : reports [.boardOpen] = [] := rfl

@[simp] lemma reports_boardClose : reports [.boardClose] = [] := rfl

@[simp] lemma reports_reported (level : Level) (op : DeviceOp) (ret : ℤ)
    (events : List DeviceEvent) :
    reports (.reported level op ret :: events) = (level, op, ret) :: reports events := rfl

/-- A part of the run that returns 0 only when all the reports were made, and of success. -/
def Honest {σ : Type} (l : List (Level × DeviceOp)) (x : Session σ ℤ) : Prop :=
  Records (fun ret new => ret = 0 → reports new = l.map success) x

section Honest

variable {σ : Type} {l l' : List (Level × DeviceOp)} {x y : Session σ ℤ} {op : DeviceOp}

lemma honest_failed {ret : ℤ} (h : ret ≠ 0) : Honest l (return ret : Session σ ℤ) :=
  .pure fun hzero => absurd hzero h

lemma honest_callBoard (f : DeviceFn σ ℤ) : Honest [(.board, op)] (callBoard op f) := by
  refine .bind (.lift f fun _ => rfl : Records (fun _ new => new = []) _) ?_
  rintro ret _ rfl
  refine .bind (.emit rfl : Records (fun _ new => new = [.reported .board op ret]) _) ?_
  rintro _ _ rfl
  refine .pure fun hzero => ?_
  rw [hzero]
  rfl

lemma Honest.callAnyio (hx : Honest l x) : Honest (l ++ [(.anyio, op)]) (callAnyio op x) := by
  refine .bind hx fun ret new hnew => ?_
  refine .bind (.emit rfl : Records (fun _ new => new = [.reported .anyio op ret]) _) ?_
  rintro _ _ rfl
  refine .pure fun hzero => ?_
  simp [hnew hzero, hzero, success]

lemma honest_viaPointer {α : Type} (p : Option α) (f : α → DeviceFn σ ℤ) :
    Honest (levels op) (viaPointer op p f) := by
  refine Honest.callAnyio (l := [(.board, op)]) ?_
  cases p with
  | none => exact honest_failed (by decide)
  | some g => exact honest_callBoard _

lemma honest_viaEth (b : BoardEntry) (f : DeviceFn σ ℤ) : Honest (levels op) (viaEth op b f) := by
  refine Honest.callAnyio (l := [(.board, op)]) ?_
  split
  · exact honest_callBoard f
  · exact honest_failed (by decide)

/-- A command, and what follows it. -/
lemma Honest.onSuccess (hx : Honest l x) (hy : Honest l' y) {c : Prop} [Decidable c] :
    Honest (l ++ if c then l' else []) (x >>= fun ret => onSuccess ret c y) := by
  refine .bind hx fun ret new hnew => ?_
  by_cases h : ret = 0 ∧ c
  · rw [Mesaflash.onSuccess, if_pos h]
    refine hy.mono fun ret' new' hnew' hzero => ?_
    simp [hnew h.1, hnew' hzero, h.2]
  · rw [Mesaflash.onSuccess, if_neg h]
    refine .pure fun hzero => ?_
    have hc : ¬ c := fun hc => h ⟨hzero, hc⟩
    simp [hnew hzero, hc]

/-- An action that reports nothing. -/
lemma honest_quiet {event : DeviceEvent} (h : reports [event] = []) (f : DeviceFn σ Unit) :
    Honest [] (do .emit event; .lift f; return 0 : Session σ ℤ) := by
  refine .bind (.emit rfl : Records (fun _ new => new = [event]) _) ?_
  rintro _ _ rfl
  refine .bind (.lift f fun _ => rfl : Records (fun _ new => new = []) _) ?_
  rintro _ _ rfl
  exact .pure fun _ => h

end Honest

/-- The actions whose results are all looked at. -/
def Action.Heeded : Action → Prop
  | .file .program _ | .reload | .reset => False
  | _ => True

section Actions

variable {σ : Type} {fns : DeviceFunctions σ} {b : BoardEntry} {o : Options}

lemma honest_action {a : Action} (ha : a.Heeded) : Honest (asked o a) (fns.action b o a) := by
  cases a with
  | board a =>
      cases a with
      | setRemoteIp => exact honest_viaEth _ _
      | setLedMode => exact honest_viaEth _ _
      | _ => exact honest_quiet rfl _
  | file op name =>
      cases op with
      | write =>
          rw [DeviceFunctions.action, ← Traced.bind_assoc]
          exact ((honest_viaPointer _ _).onSuccess (honest_viaPointer _ _)).onSuccess
            (honest_viaPointer _ _)
      | verify => exact honest_viaPointer _ _
      | backupFlash => exact honest_viaPointer _ _
      | restoreFlash => exact (honest_viaPointer _ _).onSuccess (honest_viaPointer _ _)
      | program => exact ha.elim
      | info => exact .pure fun _ => rfl
  | reload => exact ha.elim
  | reset => exact ha.elim
  | printInfo =>
      refine .bind (.ofExcept _ fun _ => rfl : Records (fun _ new => new = []) _) ?_
      rintro f _ rfl
      exact honest_quiet rfl _

end Actions

/-! ### Actions that hide a result -/

/-- A run that returns 0 made the reports, and of success. -/
def HonestAt {σ : Type} (l : List (Level × DeviceOp)) (x : Session σ ℤ)
    (t : Trace DeviceEvent σ) : Prop :=
  ∀ t', x.run t = (.ok 0, t') → reports t'.events = reports t.events ++ l.map success

section HonestAt

variable {σ : Type} {fns : DeviceFunctions σ} {b : BoardEntry} {o : Options}
  {t t' : Trace DeviceEvent σ}

lemma Honest.at {l : List (Level × DeviceOp)} {x : Session σ ℤ} (h : Honest l x)
    (t : Trace DeviceEvent σ) : HonestAt l x t := by
  intro t' hrun
  obtain ⟨new, hnew, hreports⟩ := h t
  rw [hrun] at hnew hreports
  rw [hnew, reports_append, hreports 0 rfl rfl]

lemma honestAt_of_error {l : List (Level × DeviceOp)} {x : Session σ ℤ} {e : Fault}
    (h : x.run t = (.error e, t')) : HonestAt l x t := by
  intro t'' hzero
  rw [h] at hzero
  cases hzero

/-- A result that is replaced by 0. -/
lemma honestAt_ignored {α : Type} {op : DeviceOp} {p : Option α} {f : α → DeviceFn σ ℤ} :
    HonestAt (levels op) (viaPointer op p f >>= fun _ => return 0) t ↔
      ∃ g, p = some g ∧ ∀ ret s, f g t.state = (.ok ret, s) → ret = 0 := by
  cases p with
  | none =>
      -- `-EINVAL` is replaced as well
      have hrun : (viaPointer op none f).run t =
          (.ok einval, ⟨t.state, t.events ++ [.reported .anyio op einval]⟩) := callAnyio_of_ok rfl
      simp [HonestAt, Traced.run_bind_of_ok hrun, levels]
  | some g =>
      rcases hcall : f g t.state with ⟨e | ret, s⟩
      · have hrun : (viaPointer op (some g) f).run t = (.error e, ⟨s, t.events⟩) :=
          callAnyio_of_error (callBoard_of_error hcall)
        refine iff_of_true (honestAt_of_error (Traced.run_bind_of_error hrun)) ⟨g, rfl, ?_⟩
        rintro ret s' h
        rw [hcall] at h
        cases h
      · have hrun : (viaPointer op (some g) f).run t = (.ok ret, ⟨s, t.events ++
            [.reported .board op ret] ++ [.reported .anyio op ret]⟩) :=
          callAnyio_of_ok (callBoard_of_ok hcall)
        simp [HonestAt, Traced.run_bind_of_ok hrun, levels, success, hcall]

/-- A reset, and then a bit file for the FPGA. -/
lemma honestAt_resetAndProgram {reset program : DeviceFn σ ℤ} :
    HonestAt [(.board, .reset), (.board, .program), (.anyio, .program)]
        (callAnyio .program (resetAndProgram reset program)) t ↔
      ∀ s₁, reset t.state = (.ok 0, s₁) → ∀ ret s₂, program s₁ = (.ok ret, s₂) → ret = 0 := by
  rcases hreset : reset t.state with ⟨e | ret, s₁⟩
  · refine iff_of_true (honestAt_of_error
      (callAnyio_of_error (Traced.run_bind_of_error (callBoard_of_error hreset)))) ?_
    rintro _ h
    cases h
  · by_cases hret : ret = 0
    · subst hret
      rcases hprogram : program s₁ with ⟨e | ret, s₂⟩
      · have hrun : (resetAndProgram reset program).run t =
            (.error e, ⟨s₂, t.events ++ [.reported .board .reset 0]⟩) := by
          rw [resetAndProgram, Traced.run_bind_of_ok (callBoard_of_ok hreset), if_neg (by simp),
            Traced.run_bind_of_error (callBoard_of_error hprogram)]
        refine iff_of_true (honestAt_of_error (callAnyio_of_error hrun)) ?_
        rintro _ h ret s h'
        obtain rfl := (Prod.mk.inj h).2
        rw [hprogram] at h'
        cases h'
      · -- the only result that is dropped
        have hrun : (resetAndProgram reset program).run t = (.ok 0, ⟨s₂, t.events ++
            [.reported .board .reset 0] ++ [.reported .board .program ret]⟩) := by
          rw [resetAndProgram, Traced.run_bind_of_ok (callBoard_of_ok hreset), if_neg (by simp),
            Traced.run_bind_of_ok (callBoard_of_ok hprogram)]
          rfl
        simp [HonestAt, callAnyio_of_ok hrun, success, hprogram]
    · -- the reset failed, and its result is returned
      have hrun : (resetAndProgram reset program).run t =
          (.ok ret, ⟨s₁, t.events ++ [.reported .board .reset ret]⟩) := by
        rw [resetAndProgram, Traced.run_bind_of_ok (callBoard_of_ok hreset), if_pos hret]
        rfl
      simp [HonestAt, callAnyio_of_ok hrun, hret]

/-- `anyio_dev_program_fpga` hides only what `program_fpga` returns. -/
lemma honestAt_program {name : CStr} :
    HonestAt [(.board, .reset), (.board, .program), (.anyio, .program)]
        (fns.anyioDevProgramFpga b name) t ↔
      ∀ f g, b.reset = some f → b.programFpga = some g →
        ∀ s₁, fns.reset f b t.state = (.ok 0, s₁) →
          ∀ ret s₂, fns.programFpga g b name s₁ = (.ok ret, s₂) → ret = 0 := by
  have hfailed : Honest [(.board, .reset), (.board, .program), (.anyio, .program)]
      (callAnyio .program (return einval) : Session σ ℤ) :=
    Honest.callAnyio (l := [(.board, .reset), (.board, .program)]) (honest_failed (by decide))
  unfold DeviceFunctions.anyioDevProgramFpga
  cases hreset : b.reset with
  | none => exact iff_of_true (hfailed.at t) (by simp)
  | some f =>
      cases hprogram : b.programFpga with
      | none => exact iff_of_true (hfailed.at t) (by simp)
      | some g =>
          constructor
          · rintro h f' g' hf hg
            obtain rfl := Option.some.inj hf
            obtain rfl := Option.some.inj hg
            exact honestAt_resetAndProgram.1 h
          · intro h
            exact honestAt_resetAndProgram.2 (h f g rfl rfl)

/-- The actions that may hide a failure, and what they hide. -/
lemma honestAt_action_iff {a : Action} :
    HonestAt (asked o a) (fns.action b o a) t ↔
      (∀ name, a = .file .program name → ∀ f g, b.reset = some f → b.programFpga = some g →
        ∀ s₁, fns.reset f b t.state = (.ok 0, s₁) →
          ∀ ret s₂, fns.programFpga g b name s₁ = (.ok ret, s₂) → ret = 0) ∧
      (a = .reload → ∃ f, b.reload = some f ∧
        ∀ ret s₁, fns.reload f b (o.int .fallback) t.state = (.ok ret, s₁) → ret = 0) ∧
      (a = .reset → ∃ f, b.reset = some f ∧
        ∀ ret s₁, fns.reset f b t.state = (.ok ret, s₁) → ret = 0) := by
  by_cases ha : a.Heeded
  · refine iff_of_true ((honest_action ha).at t) ⟨?_, ?_, ?_⟩
    · rintro name rfl
      exact ha.elim
    · rintro rfl
      exact ha.elim
    · rintro rfl
      exact ha.elim
  · cases a with
    | board a => exact absurd trivial ha
    | file op name =>
        cases op with
        | program =>
            refine honestAt_program.trans ?_
            simp
        | _ => exact absurd trivial ha
    | reload =>
        refine honestAt_ignored.trans ?_
        simp
    | reset =>
        refine honestAt_ignored.trans ?_
        simp
    | printInfo => exact absurd trivial ha

/-! ### The whole run -/

/-- The actions between the opening and the closing. -/
lemma honestAt_onBoard_iff {l : List (Level × DeviceOp)} :
    HonestAt l (fns.onBoard b o) t ↔
      ∀ f, b.boardOpen = some f → ∀ b' s, fns.boardOpen f b t.state = (.ok b', s) →
        b'.boardClose.isSome →
        HonestAt l (fns.action b' o (boardAction o)) ⟨s, t.events ++ [.boardOpen]⟩ := by
  constructor
  · intro h f hf b' s hopen hclose t₁ haction
    obtain ⟨g, hg⟩ := Option.isSome_iff_exists.1 hclose
    have hreports := h _ (run_onBoard_eq_ok.2 ⟨f, b', s, t₁, g, hf, hopen, haction, hg, rfl⟩)
    simpa using hreports
  · intro h t' hrun
    obtain ⟨f, b', s, t₁, g, hf, hopen, haction, hg, rfl⟩ := run_onBoard_eq_ok.1 hrun
    have hreports := h f hf b' s hopen (by simp [hg]) t₁ haction
    simpa using hreports

lemma honestAt_onDevice_iff {l : List (Level × DeviceOp)} :
    HonestAt l (fns.onDevice o) t ↔
      ∀ b s, fns.search t.state = (.ok (.board b), s) →
        HonestAt l (fns.onBoard b o) ⟨s, t.events ++ [.search]⟩ := by
  constructor
  · intro h b s hsearch t' hrun
    have hreports := h t' (run_onDevice_eq_zero.2 ⟨b, s, hsearch, hrun⟩)
    simpa using hreports
  · intro h t' hrun
    obtain ⟨b, s, hsearch, hboard⟩ := run_onDevice_eq_zero.1 hrun
    have hreports := h b s hsearch t' hboard
    simpa using hreports

/-! ### Events remain -/

lemma Honest.extends {l : List (Level × DeviceOp)} {x : Session σ ℤ} (h : Honest l x) :
    Extends x := h.mono fun _ _ _ => trivial

lemma extends_program (name : CStr) : Extends (fns.anyioDevProgramFpga b name) := by
  refine .bind ?_ fun _ => .bind (.emit _) fun _ => .pure _
  cases b.reset with
  | none => exact .pure _
  | some f =>
      cases b.programFpga with
      | none => exact .pure _
      | some g =>
          refine .bind (honest_callBoard _).extends fun ret => ?_
          split
          · exact .pure _
          · exact .bind (honest_callBoard _).extends fun _ => .pure _

lemma extends_action {a : Action} : Extends (fns.action b o a) := by
  by_cases ha : a.Heeded
  · exact (honest_action ha).extends
  · cases a with
    | board a => exact absurd trivial ha
    | file op name =>
        cases op with
        | program => exact extends_program name
        | _ => exact absurd trivial ha
    | reload => exact .bind (honest_viaPointer _ _).extends fun _ => .pure _
    | reset => exact .bind (honest_viaPointer _ _).extends fun _ => .pure _
    | printInfo => exact absurd trivial ha

lemma extends_onBoard : Extends (fns.onBoard b o) :=
  .bind (.ofExcept _) fun _ => .bind (.emit _) fun _ => .bind (.lift _) fun _ =>
    .bind extends_action fun _ => .bind (.ofExcept _) fun _ => .bind (.emit _) fun _ =>
      .bind (.lift _) fun _ => .pure _

/-- The search is the first event, whatever comes of it. -/
lemma search_mem_onDevice (fns : DeviceFunctions σ) (o : Options) (t : Trace DeviceEvent σ) :
    .search ∈ ((fns.onDevice o).run t).2.events := by
  rw [DeviceFunctions.onDevice]
  refine Extends.mem_emit (.bind (.lift _) fun found => ?_) t
  cases found with
  | noAccess => exact .pure _
  | notFound => exact .pure _
  | board b => exact extends_onBoard

end HonestAt

/-! ### The action that the options ask for -/

section Asked

variable {σ : Type} {fns : DeviceFunctions σ} {args : List CStr} {o : Options} {r : ℤ}

lemma Selects.reflects (h : Selects args 0 o) : Reflects (getoptLong args) o := by
  rw [← (processCmdLine_ret_zero h.parsed).2]
  exact reflects_processed h.parsed h.goes_on

lemma Selects.program_iff (h : Selects args 0 o) {name : CStr} :
    boardAction o = .file .program name ↔
      chosen (getoptLong args) = some .program ∧ name = lastFile (getoptLong args) := by
  have hmain : main (fun _ => .ok ()) args = .ok (.run (.file .program name)) ↔ _ :=
    main_eq_file_iff h.parsed h.goes_on
  rw [h.main_eq, (processCmdLine_ret_zero h.parsed).2, h.reflects.name] at hmain
  simpa [lastFile] using hmain

lemma Selects.flag_eq_one_iff (h : Selects args 0 o) {f : Flag} (hf : f ≠ .autoVerify) :
    o.flag f = 1 ↔ .flag f ∈ optionsOf (getoptLong args) := by
  rw [(processCmdLine_ret_zero h.parsed).1.flag]
  split
  · next hmem => simp [hmem, Flag.value, hf]
  · next hmem => simp [hmem, Options.start, hf]

lemma Selects.noAction_iff (h : Selects args 0 o) :
    NoAction (getoptLong args) ↔ boardActions.find? (o.boardFlag · = 1) = none ∧
      fileOps.find? (o.fileFlag · = 1) = none := by
  have hdevice : .device ∈ optionsOf (getoptLong args) :=
    ((processCmdLine_ret_zero h.parsed).1.eq_one_iff (l := .device) trivial).1 h.device
  have hfiles : fileArgs (getoptLong args) = [] ↔ ∀ op, o.fileFlag op ≠ 1 := by
    simp only [Ne, h.reflects.file_eq_one_iff]
    rw [← List.map_eq_nil_iff (f := Prod.fst), List.eq_nil_iff_forall_not_mem]
  rw [NoAction, h.reflects.find_board_iff, hfiles]
  simp only [hdevice, true_and, List.find?_eq_none, decide_eq_true_eq]
  refine and_congr_right fun _ => ⟨fun hall op _ => hall op, fun hall op => ?_⟩
  -- `fileOps` has all operations but `--info`
  by_cases hop : op = .info
  · rw [hop]
    exact h.no_info
  · exact hall op (by cases op <;> simp_all [fileOps])

lemma Selects.reload_iff (h : Selects args 0 o) :
    boardAction o = .reload ↔ ReloadAlone (getoptLong args) := by
  rw [ReloadAlone, h.noAction_iff, ← h.flag_eq_one_iff (by decide), boardAction]
  cases boardActions.find? (o.boardFlag · = 1) with
  | some a => simp
  | none =>
      cases fileOps.find? (o.fileFlag · = 1) with
      | some op => simp
      | none =>
          dsimp only
          split_ifs <;> simp [*]

lemma Selects.reset_iff (h : Selects args 0 o) :
    boardAction o = .reset ↔ ResetAlone (getoptLong args) := by
  rw [ResetAlone, h.noAction_iff, ← h.flag_eq_one_iff (f := .reload) (by decide),
    ← h.flag_eq_one_iff (f := .reset) (by decide), boardAction]
  cases boardActions.find? (o.boardFlag · = 1) with
  | some a => simp
  | none =>
      cases fileOps.find? (o.fileFlag · = 1) with
      | some op => simp
      | none =>
          dsimp only
          split_ifs <;> simp [*]

lemma Selects.fallback_eq (h : Selects args 0 o) :
    o.int .fallback = fallbackOf (getoptLong args) := by
  rw [Options.int, (processCmdLine_ret_zero h.parsed).1.flag, fallbackOf]
  split <;> rfl

/-- A board was asked for where a result may be hidden. -/
lemma selects_of_hidden (h : processCmdLine args = .ok (.ret 0 o))
    (haction : chosen (getoptLong args) = some .program ∨ NoAction (getoptLong args)) :
    Selects args 0 o := by
  obtain ⟨hcounts, hall⟩ := processCmdLine_ret_zero h
  have hreflects := reflects_processed h (by decide)
  rw [hall] at hreflects
  refine ⟨h, by decide, ?_, ?_⟩
  · rw [Ne, hreflects.file_eq_one_iff]
    intro hinfo
    rcases haction with hchosen | ⟨-, -, hfiles⟩
    · simp [chosen, hinfo] at hchosen
    · simp [hfiles] at hinfo
  · -- both ask for a board
    rcases haction with hchosen | ⟨hdevice, -, -⟩
    · rw [hreflects.device]
      by_contra hdevice
      simp only [chosen, hdevice, false_and, if_false] at hchosen
      split at hchosen
      · cases hchosen
      · cases hchosen
    · exact (hcounts.eq_one_iff (l := .device) trivial).2 hdevice

/-- What is hidden, in terms of the options. -/
lemma Selects.honestAt_action_iff (h : Selects args 0 o) {b : BoardEntry}
    {t : Trace DeviceEvent σ} :
    HonestAt (asked o (boardAction o)) (fns.action b o (boardAction o)) t ↔
      NoneHidden fns (getoptLong args) b t.state := by
  rw [Mesaflash.honestAt_action_iff, h.reload_iff, h.reset_iff, h.fallback_eq]
  simp only [h.program_iff]
  constructor
  · rintro ⟨hprogram, hreload, hreset⟩
    exact ⟨fun hchosen => hprogram _ ⟨hchosen, rfl⟩, hreload, hreset⟩
  · rintro ⟨hprogram, hreload, hreset⟩
    refine ⟨?_, hreload, hreset⟩
    rintro name ⟨hchosen, rfl⟩
    exact hprogram hchosen

/-- The property of `main`, when all options were accepted and a board is to be found. -/
lemma Selects.statusReflects_iff_honestAt (h : Selects args 0 o) (s : σ) :
    StatusReflects fns args s ↔ HonestAt (asked o (boardAction o)) (fns.onDevice o) ⟨s, []⟩ := by
  rw [StatusReflects, h.main_eq_onDevice]
  constructor
  · intro hstatus t hrun
    have hsearch : .search ∈ t.events := by
      have := search_mem_onDevice fns o ⟨s, []⟩
      rwa [hrun] at this
    obtain ⟨o', hparse, hreports⟩ := (hstatus _ t hrun).1 rfl hsearch
    rw [h.parsed] at hparse
    obtain ⟨-, rfl⟩ := Parsed.ret.inj (Except.ok.inj hparse)
    simpa using hreports
  · intro hhonest status t hrun
    refine ⟨fun hzero _ => ⟨o, h.parsed, ?_⟩, fun hrefused => absurd h.parsed (hrefused o)⟩
    rw [hzero] at hrun
    simpa using hhonest t hrun

/-- `main` goes on to the search though the options were not accepted. -/
lemma Selects.not_statusReflects (h : Selects args r o) (hr : r ≠ 0) (s : σ) :
    ¬ StatusReflects fns args s := by
  intro hstatus
  have hrefused : ∀ o', processCmdLine args ≠ .ok (.ret 0 o') := by
    intro o' hparse
    rw [h.parsed] at hparse
    exact hr (Parsed.ret.inj (Except.ok.inj hparse)).1
  have hsearch := search_mem_onDevice fns o ⟨s, []⟩
  have hevents := (hstatus _ _ rfl).2 hrefused
  rw [h.main_eq_onDevice] at hevents
  rw [hevents] at hsearch
  cases hsearch

lemma statusReflects_of_not_selects (h : ∀ r o, ¬ Selects args r o) (s : σ) :
    StatusReflects fns args s := by
  intro status t hrun
  have hsame := run_main_of_not_selects fns h ⟨s, []⟩
  rw [hrun] at hsame
  dsimp only at hsame
  rw [hsame]
  exact ⟨fun _ hsearch => (by cases hsearch), fun _ => rfl⟩

lemma longNameAfterDevice_iff :
    LongNameAfterDevice (getoptLong args) ↔ ∃ r o, Selects args r o ∧ r ≠ 0 := by
  rw [← processCmdLine_long_iff]
  constructor
  · rintro ⟨r, o, hparse, hzero, hneg, hdevice, hinfo⟩
    exact ⟨r, o, ⟨hparse, hneg, hinfo, hdevice⟩, hzero⟩
  · rintro ⟨r, o, h, hzero⟩
    exact ⟨r, o, h.parsed, hzero, h.goes_on, h.device, h.no_info⟩

lemma noneHidden_of_not_selects (h : processCmdLine args = .ok (.ret 0 o))
    (hselects : ¬ Selects args 0 o) (b : BoardEntry) (s : σ) :
    NoneHidden fns (getoptLong args) b s where
  program hchosen := absurd (selects_of_hidden h (.inl hchosen)) hselects
  reload halone := absurd (selects_of_hidden h (.inr halone.1)) hselects
  reset halone := absurd (selects_of_hidden h (.inr halone.1)) hselects

/-- **The status of `main` reflects the outcome exactly when no file name is too long behind
`--device` and no result is hidden.** -/
theorem exitStatus_reflects_iff (fns : DeviceFunctions σ) (args : List CStr) (s : σ) :
    StatusReflects fns args s ↔
      ¬ LongNameAfterDevice (getoptLong args) ∧
      (AllAcceptable [] (getoptLong args) →
        ∀ b s₁, fns.search s = (.ok (.board b), s₁) →
        ∀ f, b.boardOpen = some f → ∀ b' s₂, fns.boardOpen f b s₁ = (.ok b', s₂) →
          b'.boardClose.isSome → NoneHidden fns (getoptLong args) b' s₂) := by
  rw [longNameAfterDevice_iff]
  by_cases hselects : ∃ r o, Selects args r o
  · obtain ⟨r, o, hselects⟩ := hselects
    by_cases hr : r = 0
    · subst hr
      have hlong : ¬ ∃ r o, Selects args r o ∧ r ≠ 0 := by
        rintro ⟨r, o', h, hzero⟩
        have hsame := hselects.parsed.symm.trans h.parsed
        exact hzero (Parsed.ret.inj (Except.ok.inj hsame)).1.symm
      have haccept := processCmdLine_ret_zero_iff.1 ⟨o, hselects.parsed⟩
      rw [hselects.statusReflects_iff_honestAt, honestAt_onDevice_iff]
      simp only [honestAt_onBoard_iff, hselects.honestAt_action_iff, hlong, haccept,
        not_false_eq_true, true_and, true_imp_iff]
    · -- the options were not accepted, and `main` goes on all the same
      exact iff_of_false (hselects.not_statusReflects hr s)
        fun h => h.1 ⟨r, o, hselects, hr⟩
  · -- nothing is done with the hardware, so nothing is hidden
    have hnone : ∀ r o, ¬ Selects args r o := fun r o h => hselects ⟨r, o, h⟩
    refine iff_of_true (statusReflects_of_not_selects hnone s) ⟨?_, ?_⟩
    · rintro ⟨r, o, h, -⟩
      exact hnone r o h
    · intro haccept b s₁ _ f _ b' s₂ _ _
      obtain ⟨o, hparse⟩ := processCmdLine_ret_zero_iff.2 haccept
      exact noneHidden_of_not_selects hparse (hnone 0 o) b' s₂

end Asked

/-! ### A failure that is hidden -/

/-- The 5I20. -/
def card5i20 : BoardEntry :=
  plx9030Entry
    { deviceName := ascii "5I20", type := 0, address := 0, verbose := 0, recover := 0,
      devAddr := none }
    { vendorId := vendoridPlx, deviceId := deviceidPlx9030, subsystemId := subdeviceidMesa5i20,
      baseAddr := fun _ => 0, slot := 0 } "5I20" "2s200pq208"

/-- A 5I20 in a computer without bit files: `plx9030_reset` is successful, and
`plx9030_program_fpga` returns -1. -/
def without5i20File : DeviceFunctions Unit where
  search s := (.ok (.board card5i20), s)
  boardOpen _ b s := (.ok b, s)
  boardClose _ _ s := s
  printInfo _ _ s := (.ok (), s)
  act _ _ _ s := (.ok (), s)
  writeFlash _ _ _ _ _ _ s := (.ok (-1), s)
  verifyFlash _ _ _ _ s := (.ok (-1), s)
  backupFlash _ _ _ s := (.ok (-1), s)
  restoreFlash _ _ _ s := (.ok (-1), s)
  programFpga _ _ _ s := (.ok (-1), s)
  reset _ _ s := (.ok 0, s)
  reload _ _ _ s := (.ok 0, s)
  ethSetRemoteIp _ s := (.ok 0, s)
  ethSetLedMode _ s := (.ok 0, s)

/-- The status of `--program` is 0 though the FPGA was not programmed. -/
theorem not_exitStatus_reflects : ¬ StatusReflects without5i20File
    [ascii "--device", ascii "5i20", ascii "--program", ascii "a.bit"] () := by
  intro hstatus
  obtain ⟨o, -, hreports⟩ := (hstatus _ _ rfl).1 (by decide +kernel) (by decide +kernel)
  have hfailed : (Level.board, DeviceOp.program, (-1 : ℤ)) ∈
      (asked o (boardAction o)).map success := by
    rw [← hreports]
    decide +kernel
  simp [success] at hfailed

/-- A file name of 255 characters is reported, and then the board is reset. -/
example : ((without5i20File.main [ascii "--device", ascii "5i20", ascii "--reset",
      ascii "--write", List.replicate 255 97]).run ⟨(), []⟩).2.events =
    [.search, .boardOpen, .reported .board .reset 0, .reported .anyio .reset 0, .boardClose] := by
  decide +kernel

end Mesaflash
