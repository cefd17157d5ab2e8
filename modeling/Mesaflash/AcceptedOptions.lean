import Mesaflash.FileOptions

/-!
Which command lines `process_cmd_line` accepts.

Each option is looked at with the options before it: it may have been given already, its
argument may be too long or of the wrong form.  The command line is accepted when every option
is, and `process_cmd_line` returns 0 then.  An argument that is too long makes it return 1,
and `main` goes on with the options in front of it.
-/

namespace Mesaflash

open Lib

/-! ### Conditions on the options -/

/-- The options of a command line, without their arguments. -/
def optionsOf (events : List OptEvent) : List LongOption :=
  events.filterMap fun
    | .opt l _ => some l
    | .bad => none

/-- The two numbers of `--wpo` are there. -/
def HasTwoTokens (optarg : CStr) : Prop :=
  ∃ addr rest data, strtok 61 optarg = some (addr, rest) ∧ strtok 61 rest = some data

/-- An option that may stand behind the options `before`. -/
def Acceptable (before : List OptEvent) : OptEvent → Prop
  | .bad => False
  | .opt .help _ => False
  | .opt .version _ => False
  | .opt (.flag _) _ => True
  | .opt (.dbname _) optarg => hm2FindBobHintByName optarg ≠ 0
  | .opt (.file op) optarg =>
    .file op ∉ optionsOf before ∧ optarg.length + 1 ≤ bitfileNameSize
  | .opt .wpo optarg => .wpo ∉ optionsOf before ∧ HasTwoTokens optarg
  | .opt .set optarg =>
    .set ∉ optionsOf before ∧
      ((ascii "ip=").isPrefixOf optarg = true ∨ (ascii "ledmode=").isPrefixOf optarg = true)
  | .opt l _ => l ∉ optionsOf before

/-- All of the options behind `before` are acceptable. -/
def AllAcceptable (before : List OptEvent) : List OptEvent → Prop
  | [] => True
  | e :: events => Acceptable before e ∧ AllAcceptable (before ++ [e]) events

/-- A file option whose argument is too long, behind `--device` and acceptable options only.
With `--info` in front of it, `main` prints about a file. -/
def LongNameAfterDevice (events : List OptEvent) : Prop :=
  ∃ before op name behind, events = before ++ .opt (.file op) name :: behind ∧
    AllAcceptable [] before ∧ .device ∈ optionsOf before ∧ .file .info ∉ optionsOf before ∧
    .file op ∉ optionsOf before ∧ bitfileNameSize < name.length + 1

variable {events before : List OptEvent} {o o' : Options} {e : OptEvent} {args : List CStr}

@[simp] lemma optionsOf_nil : optionsOf [] = [] := rfl

lemma optionsOf_append (events events' : List OptEvent) :
    optionsOf (events ++ events') = optionsOf events ++ optionsOf events' :=
  List.filterMap_append

@[simp] lemma optionsOf_snoc_opt (events : List OptEvent) (l : LongOption) (optarg : CStr) :
    optionsOf (events ++ [.opt l optarg]) = optionsOf events ++ [l] := optionsOf_append _ _

/-! ### One option -/

/-- How often an option that may be given once was given. -/
def Options.timesGiven (o : Options) : LongOption → ℕ
  | .device => o.deviceFlag
  | .addr => o.addrFlag
  | .addrHi => o.addrHiFlag
  | .file op => o.fileFlag op
  | .rpo => o.rpoFlag
  | .wpo => o.wpoFlag
  | .set => o.setFlag
  | _ => 0

/-- The options that may be given once. -/
def LongOption.Once : LongOption → Prop
  | .flag _ | .dbname _ | .help | .version => False
  | _ => True

/-- The variables know which options were there. -/
structure OptionCounts (events : List OptEvent) (o : Options) : Prop where
  timesGiven : ∀ l, l.Once → o.timesGiven l = if l ∈ optionsOf events then 1 else 0
  flag : ∀ f, o.flag f = if .flag f ∈ optionsOf events then f.value else Options.start.flag f

lemma optionCounts_start : OptionCounts [] .start where
  timesGiven l _ := by cases l <;> simp [Options.timesGiven, Options.start]
  flag f := by simp

/-- An option that was accepted is counted. -/
lemma processOption_counts {l : LongOption} {optarg : CStr}
    (h : processOption o (.opt l optarg) = .ok o') :
    (∀ l' : LongOption, l'.Once →
      o'.timesGiven l' = if l' = l then 1 else o.timesGiven l') ∧
    ∀ f, o'.flag f = if .flag f = l then f.value else o.flag f := by
  cases stores_of_ok h with
  | flag f =>
      refine ⟨fun l' hl' => ?_, fun f' => ?_⟩
      · cases l' <;> simp_all [LongOption.Once, Options.timesGiven]
      · by_cases hf : f' = f
        · simp [hf]
        · simp [hf]
  | file op _ hzero _ =>
      refine ⟨fun l' hl' => ?_, fun f => rfl⟩
      cases l' <;> simp [Options.timesGiven, Function.update_apply, hzero]
  | dbname i =>
      refine ⟨fun l' hl' => ?_, fun f => rfl⟩
      cases l' <;> simp_all [LongOption.Once, Options.timesGiven]
  | _ =>
      refine ⟨fun l' hl' => ?_, fun f => rfl⟩
      cases l' <;> simp_all [Options.timesGiven]

/-- One more option. -/
lemma OptionCounts.snoc (hc : OptionCounts events o) (h : processOption o e = .ok o') :
    OptionCounts (events ++ [e]) o' := by
  cases e with
  | bad => exact absurd h (by simp [processOption])
  | opt l optarg =>
      obtain ⟨hgiven, hflag⟩ := processOption_counts h
      refine ⟨fun l' hl' => ?_, fun f => ?_⟩
      · rw [hgiven l' hl', hc.timesGiven l' hl', optionsOf_snoc_opt]
        by_cases hl : l' = l
        · simp [hl]
        · simp [hl]
      · rw [hflag, hc.flag, optionsOf_snoc_opt]
        by_cases hl : .flag f = l
        · simp [hl]
        · simp [hl]

/-- An option that may be given once is new when it was not counted. -/
lemma OptionCounts.eq_zero_iff (hc : OptionCounts events o) {l : LongOption} (hl : l.Once) :
    o.timesGiven l = 0 ↔ l ∉ optionsOf events := by
  rw [hc.timesGiven l hl]
  split <;> simp [*]

lemma OptionCounts.eq_one_iff (hc : OptionCounts events o) {l : LongOption} (hl : l.Once) :
    o.timesGiven l = 1 ↔ l ∈ optionsOf events := by
  rw [hc.timesGiven l hl]
  split <;> simp [*]

/-- What an option that may be given once does behind its first check. -/
lemma OptionCounts.once_bind_ok (hc : OptionCounts events o) {l : LongOption} (hl : l.Once)
    {f : Unit → Except (Stop Parsed) Options} :
    (∃ o', (once (o.timesGiven l) >>= f) = .ok o') ↔
      l ∉ optionsOf events ∧ ∃ o', f () = .ok o' := by
  simp only [once_bind_eq_ok, hc.eq_zero_iff hl, exists_and_left]

lemma exitIf_bind_ok {c : Prop} [Decidable c] {r : Parsed}
    {f : Unit → Except (Stop Parsed) Options} :
    (∃ o', (exitIf c r >>= f) = .ok o') ↔ ¬ c ∧ ∃ o', f () = .ok o' := by
  simp only [bind_eq_ok, exitIf_eq_ok]
  constructor
  · rintro ⟨o', _, hc, h⟩
    exact ⟨hc, o', h⟩
  · rintro ⟨hc, o', h⟩
    exact ⟨o', (), hc, h⟩

/-- An option is accepted when it is acceptable behind the options that were there. -/
lemma OptionCounts.processOption_ok_iff (hc : OptionCounts before o) :
    (∃ o', processOption o e = .ok o') ↔ Acceptable before e := by
  cases e with
  | bad => simp [processOption, Acceptable]
  | opt l optarg =>
      cases l with
      | flag f => simp [processOption, Acceptable]
      | device =>
          refine (hc.once_bind_ok (l := .device) trivial).trans ?_
          simp [Acceptable]
      | addr =>
          refine (hc.once_bind_ok (l := .addr) trivial).trans ?_
          simp [Acceptable]
      | addrHi =>
          refine (hc.once_bind_ok (l := .addrHi) trivial).trans ?_
          simp [Acceptable]
      | file op =>
          refine (hc.once_bind_ok (l := .file op) trivial).trans ?_
          rw [exitIf_bind_ok]
          simp [Acceptable]
      | rpo =>
          refine (hc.once_bind_ok (l := .rpo) trivial).trans ?_
          simp [Acceptable]
      | wpo =>
          refine (hc.once_bind_ok (l := .wpo) trivial).trans ?_
          -- both numbers are there, or a null pointer is used
          refine and_congr_right fun _ => ?_
          cases haddr : strtok 61 optarg with
          | none => simp [HasTwoTokens, haddr]
          | some t =>
              cases hdata : strtok 61 t.2 with
              | none => simp [HasTwoTokens, haddr, hdata, Prod.ext_iff]
              | some u => simp [HasTwoTokens, haddr, hdata, Prod.ext_iff]
      | set =>
          refine (hc.once_bind_ok (l := .set) trivial).trans ?_
          refine and_congr_right fun _ => ?_
          by_cases hip : (ascii "ip=").isPrefixOf optarg = true
          · simp [hip]
          · by_cases hled : (ascii "ledmode=").isPrefixOf optarg = true
            · simp [hip, hled]
            · simp [hip, hled]
      | dbname i =>
          refine exitIf_bind_ok.trans ?_
          simp [Acceptable]
      | help => simp [processOption, Acceptable]
      | version => simp [processOption, Acceptable]

/-! ### All options -/

/-- The loop over the options comes to its end when all of them are acceptable. -/
lemma OptionCounts.foldlM_ok_iff (hc : OptionCounts before o) :
    (∃ o', events.foldlM processOption o = .ok o') ↔ AllAcceptable before events := by
  induction events generalizing before o with
  | nil => simp [AllAcceptable]
  | cons e events ih =>
      simp only [List.foldlM_cons, bind_eq_ok, AllAcceptable]
      constructor
      · rintro ⟨o', o₁, he, hrest⟩
        exact ⟨hc.processOption_ok_iff.1 ⟨o₁, he⟩, (ih (hc.snoc he)).1 ⟨o', hrest⟩⟩
      · rintro ⟨he, hrest⟩
        obtain ⟨o₁, he⟩ := hc.processOption_ok_iff.2 he
        obtain ⟨o', hrest⟩ := (ih (hc.snoc he)).2 hrest
        exact ⟨o', o₁, he, hrest⟩

lemma OptionCounts.foldlM (hc : OptionCounts before o)
    (h : events.foldlM processOption o = .ok o') : OptionCounts (before ++ events) o' := by
  induction events generalizing before o with
  | nil =>
      obtain rfl := Except.ok.inj h
      rwa [List.append_nil]
  | cons e events ih =>
      rw [List.foldlM_cons, bind_eq_ok] at h
      obtain ⟨o₁, he, hrest⟩ := h
      rw [List.append_cons]
      exact ih (hc.snoc he) hrest

/-- `process_cmd_line` returns 0 exactly when all options are acceptable. -/
lemma processCmdLine_ret_zero_iff :
    (∃ o, processCmdLine args = .ok (.ret 0 o)) ↔ AllAcceptable [] (getoptLong args) := by
  rw [← optionCounts_start.foldlM_ok_iff]
  constructor
  · rintro ⟨o, h⟩
    rcases processCmdLine_eq_ret h with ⟨-, o₁, hrun, -⟩ | hrun
    · exact ⟨o₁, hrun⟩
    · -- an option that is not accepted does not return 0
      obtain ⟨pre, e, post, o₁, -, -, hstop⟩ := foldlM_eq_error hrun
      rcases processOption_earlyRet _ hstop with ⟨_, hexit⟩ | hfail | ⟨-, hlong⟩
      · cases hexit
      · exact absurd (Parsed.ret.inj hfail).1 (by decide)
      · exact absurd (Parsed.ret.inj hlong).1 (by decide)
  · rintro ⟨o, hrun⟩
    rw [processCmdLine, hrun]
    exact ⟨_, rfl⟩

/-- How an accepted command line leaves the variables. -/
lemma processCmdLine_ret_zero {o : Options} (h : processCmdLine args = .ok (.ret 0 o)) :
    OptionCounts (getoptLong args) o ∧ processed args = getoptLong args := by
  obtain ⟨o', hrun⟩ :=
    optionCounts_start.foldlM_ok_iff.2 (processCmdLine_ret_zero_iff.1 ⟨o, h⟩)
  have hall : processed args = getoptLong args :=
    List.takeWhile_eq_self_iff.2 fun e he => by simp [not_tooLong_of_foldlM hrun e he]
  rw [processCmdLine, hrun] at h
  obtain ⟨-, rfl⟩ := Parsed.ret.inj (Except.ok.inj h)
  obtain ⟨hgiven, hflag⟩ := optionCounts_start.foldlM hrun
  refine ⟨⟨fun l hl => ?_, hflag⟩, hall⟩
  rw [← List.nil_append (getoptLong args), ← hgiven l hl]
  cases l <;> rfl

/-- An argument that is too long ends the loop only at an option that was not given before. -/
lemma tooLong_stops (hc : OptionCounts before o) {r : ℤ}
    (h : processOption o e = .error (.ret (.ret r o'))) (hr : r ≠ -1) :
    ∃ op name, e = .opt (.file op) name ∧ .file op ∉ optionsOf before ∧
      bitfileNameSize < name.length + 1 ∧ o' = o := by
  rcases processOption_earlyRet _ h with ⟨_, hexit⟩ | hfail | ⟨hlong, hret⟩
  · cases hexit
  · exact absurd (Parsed.ret.inj hfail).1 hr
  · cases e with
    | bad => cases hlong
    | opt l name =>
        cases l with
        | file op =>
            refine ⟨op, name, rfl, ?_, of_decide_eq_true hlong, (Parsed.ret.inj hret).2⟩
            -- else the option is refused before its argument is looked at
            rw [← hc.eq_zero_iff (l := .file op) trivial]
            by_contra hgiven
            have hpos : 0 < o.fileFlag op := Nat.pos_of_ne_zero hgiven
            simp only [processOption, fileOption, once] at h
            rw [exitIf_pos hpos, error_bind] at h
            cases h
        | _ => cases hlong

/-- `main` goes on to a board, though not all options were accepted, when a file name is too
long behind `--device`. -/
lemma processCmdLine_long_iff :
    (∃ r o, processCmdLine args = .ok (.ret r o) ∧ r ≠ 0 ∧ r ≠ -1 ∧ o.deviceFlag = 1 ∧
      o.fileFlag .info ≠ 1) ↔ LongNameAfterDevice (getoptLong args) := by
  constructor
  · rintro ⟨r, o, h, hzero, hneg, hdevice, hinfo⟩
    have h' := (processCmdLine_eq_ret h).resolve_left fun hend => hzero hend.1
    -- the loop ended at an option, and not with -1
    obtain ⟨before, e, behind, o₁, hsplit, hbefore, hstop⟩ := foldlM_eq_error h'
    have hc : OptionCounts before o₁ := optionCounts_start.foldlM hbefore
    obtain ⟨op, name, rfl, hnew, hlong, rfl⟩ := tooLong_stops hc hstop hneg
    exact ⟨before, op, name, behind, hsplit, optionCounts_start.foldlM_ok_iff.1 ⟨o, hbefore⟩,
      (hc.eq_one_iff (l := .device) trivial).1 hdevice,
      fun hmem => hinfo ((hc.eq_one_iff (l := .file .info) trivial).2 hmem), hnew, hlong⟩
  · rintro ⟨before, op, name, behind, hsplit, hbefore, hdevice, hinfo, hnew, hlong⟩
    obtain ⟨o, hrun⟩ := optionCounts_start.foldlM_ok_iff.2 hbefore
    have hc : OptionCounts before o := optionCounts_start.foldlM hrun
    have hzero : o.fileFlag op = 0 := (hc.eq_zero_iff (l := .file op) trivial).2 hnew
    have hstop : processOption o (.opt (.file op) name) = .error (.ret (.ret 1 o)) := by
      simp only [processOption, fileOption, once, hzero]
      rw [exitIf_neg (Nat.lt_irrefl 0), ok_bind, exitIf_pos hlong, error_bind]
    refine ⟨1, o, ?_, by decide, by decide, (hc.eq_one_iff (l := .device) trivial).2 hdevice,
      fun hone => hinfo ((hc.eq_one_iff (l := .file .info) trivial).1 hone)⟩
    rw [processCmdLine, hsplit, List.foldlM_append, hrun, ok_bind, List.foldlM_cons, hstop]
    rfl

end Mesaflash
