import Mesaflash.ExitStatus
import Mathlib.Data.List.Perm.Basic

/-!
The order of the options.

What an accepted command line leaves in the variables can be told from the arguments of its
options.  Most options have variables of their own and are given once.  The six that name a file
share a variable, and a `--dbname` replaces the one before it.

So a command line is the set of its options, but for the file that is named last
(`main_perm`).
-/

namespace Mesaflash

open Lib

/-! ### Arguments -/

/-- The arguments of an option, in the order of the command line. -/
def argsOf (l : LongOption) (events : List OptEvent) : List CStr :=
  events.filterMap fun
    | .opt l' optarg => if l' = l then some optarg else none
    | .bad => none

/-- The last argument of an option. -/
def lastArg (l : LongOption) (events : List OptEvent) : Option CStr := (argsOf l events).getLast?

/-- What the options store, by the kinds of their variables. -/
inductive Stored where
  | text (t : Option CStr)
  | number (n : ℕ)
  | register (addr data : ℕ)
  /-- The IP address with its flag, and the LED mode with its flag. -/
  | setting (ipAddr : Option CStr) (ipaddrFlag : ℕ) (ledMode : Option CStr) (ledmodeFlag : ℕ)
  /-- A flag, or the name of a file. -/
  | elsewhere

/-- The variables of an option. -/
def Options.stored (o : Options) : LongOption → Stored
  | .device => .text o.deviceName
  | .addr => .text o.devAddr
  | .addrHi => .text o.devHiAddr
  | .rpo => .number o.rpoAddr
  | .wpo => .register o.wpoAddr o.wpoData
  | .set => .setting o.lbp16SetIpAddr o.ipaddrFlag o.lbp16SetLedMode o.ledmodeFlag
  | .dbname i => .number (o.bobHints i)
  | .flag _ | .file _ | .help | .version => .elsewhere

/-- What an option leaves in its variables. -/
def storedBy (optarg : CStr) : LongOption → Stored
  | .device => .text (some (optarg.map toUpper))
  | .addr | .addrHi => .text (some optarg)
  | .rpo => .number (number optarg % 2 ^ 16).toNat
  | .wpo =>
    match strtok 61 optarg with
    | none => .elsewhere
    | some (addr, rest) =>
      match strtok 61 rest with
      | none => .elsewhere
      | some (data, _) =>
        .register (number addr % 2 ^ 16).toNat (number data % 2 ^ 32).toNat
  | .set =>
    let value := (strtok 61 optarg).bind fun t => (strtok 61 t.2).map (·.1)
    if (ascii "ip=").isPrefixOf optarg then .setting value 1 none 0 else .setting none 0 value 1
  | .dbname _ => .number (hm2FindBobHintByName optarg)
  | .flag _ | .file _ | .help | .version => .elsewhere

section Arguments

variable {l : LongOption} {events events' : List OptEvent}

@[simp] lemma argsOf_nil : argsOf l [] = [] := rfl

@[simp] lemma lastArg_nil : lastArg l [] = none := rfl

@[simp] lemma lastFile_nil : lastFile [] = [] := rfl

@[simp] lemma argsOf_append : argsOf l (events ++ events') = argsOf l events ++ argsOf l events' :=
  List.filterMap_append

@[simp] lemma lastArg_snoc (l' : LongOption) (optarg : CStr) :
    lastArg l (events ++ [.opt l' optarg]) = if l' = l then some optarg else lastArg l events := by
  rw [lastArg, argsOf_append]
  by_cases h : l' = l
  · have hone : argsOf l [.opt l' optarg] = [optarg] := by simp [argsOf, h]
    rw [hone, List.getLast?_append, if_pos h]
    rfl
  · have hnone : argsOf l [.opt l' optarg] = [] := by simp [argsOf, h]
    rw [hnone, List.append_nil, if_neg h, lastArg]

lemma lastFile_snoc_file (op : FileOp) (name : CStr) :
    lastFile (events ++ [.opt (.file op) name]) = name := by
  have hone : fileArgs [.opt (.file op) name] = [(op, name)] := rfl
  rw [lastFile, fileArgs_append, hone, List.getLast?_append]
  rfl

lemma lastFile_snoc_of_ne {l' : LongOption} (h : ∀ op, l' ≠ .file op) (optarg : CStr) :
    lastFile (events ++ [.opt l' optarg]) = lastFile events := by
  have hnone : fileArgs [.opt l' optarg] = [] := by
    cases l' with
    | file op => exact absurd rfl (h op)
    | _ => rfl
  rw [lastFile, fileArgs_append, hnone, List.append_nil, lastFile]

/-- An option was given when it has an argument. -/
lemma mem_optionsOf_iff : l ∈ optionsOf events ↔ argsOf l events ≠ [] := by
  induction events with
  | nil => simp
  | cons e events ih =>
      cases e with
      | bad => exact ih
      | opt l' optarg =>
          have hmem : l ∈ optionsOf (.opt l' optarg :: events) ↔ l = l' ∨ l ∈ optionsOf events :=
            List.mem_cons
          rw [hmem, ih]
          by_cases h : l' = l
          · simp [argsOf, h]
          · simp [argsOf, h, Ne.symm h]

lemma lastArg_of_not_mem (h : l ∉ optionsOf events) : lastArg l events = none := by
  rw [mem_optionsOf_iff, not_not] at h
  rw [lastArg, h]
  rfl

end Arguments

/-! ### The meaning of a command line -/

/-- What the variables are behind the options `events`. -/
structure OptionValues (events : List OptEvent) (o : Options) : Prop where
  counts : OptionCounts events o
  stored : ∀ l, o.stored l = (lastArg l events).elim (Options.start.stored l) fun optarg =>
    storedBy optarg l
  bitfileName : o.bitfileName = lastFile events
  accessType : o.accessType = 0

lemma optionValues_start : OptionValues [] .start := ⟨optionCounts_start, fun _ => rfl, rfl, rfl⟩

section Run

variable {events events' : List OptEvent} {o o' : Options} {e : OptEvent}

/-- What an accepted option leaves in the variables of all options. -/
lemma OptionValues.stored_snoc (h : OptionValues events o) {l : LongOption} {optarg : CStr}
    (he : processOption o (.opt l optarg) = .ok o') (l' : LongOption) :
    o'.stored l' = if l = l' then storedBy optarg l' else o.stored l' := by
  cases l with
  | flag f =>
      obtain rfl := Except.ok.inj he
      cases l' <;> simp [Options.stored, storedBy]
  | device =>
      obtain ⟨-, he⟩ := once_bind_eq_ok.1 he
      obtain rfl := Except.ok.inj he
      cases l' <;> simp [Options.stored, storedBy]
  | addr =>
      obtain ⟨-, he⟩ := once_bind_eq_ok.1 he
      obtain rfl := Except.ok.inj he
      cases l' <;> simp [Options.stored, storedBy]
  | addrHi =>
      obtain ⟨-, he⟩ := once_bind_eq_ok.1 he
      obtain rfl := Except.ok.inj he
      cases l' <;> simp [Options.stored, storedBy]
  | file op =>
      obtain ⟨-, he⟩ := once_bind_eq_ok.1 he
      obtain ⟨_, -, he⟩ := bind_eq_ok.1 he
      obtain rfl := Except.ok.inj he
      cases l' <;> simp [Options.stored, storedBy]
  | rpo =>
      obtain ⟨-, he⟩ := once_bind_eq_ok.1 he
      obtain rfl := Except.ok.inj he
      cases l' <;> simp [Options.stored, storedBy]
  | wpo =>
      obtain ⟨-, he⟩ := once_bind_eq_ok.1 he
      -- both numbers are there, else the option is not accepted
      rcases haddr : strtok 61 optarg with _ | ⟨addr, rest⟩
      · rw [haddr] at he
        cases he
      · rcases hdata : strtok 61 rest with _ | ⟨data, rest'⟩
        · simp only [haddr, hdata] at he
          cases he
        · simp only [haddr, hdata] at he
          obtain rfl := Except.ok.inj he
          cases l' <;> simp [Options.stored, storedBy, haddr, hdata]
  | set =>
      obtain ⟨hzero, he⟩ := once_bind_eq_ok.1 he
      -- the option comes once, so that its variables are as at the start
      have hstart := h.stored .set
      rw [lastArg_of_not_mem ((h.counts.eq_zero_iff (l := .set) trivial).1 hzero)] at hstart
      simp only [Options.stored, Options.start, Option.elim, Stored.setting.injEq] at hstart
      obtain ⟨hip, hipFlag, hled, hledFlag⟩ := hstart
      dsimp only at he
      split_ifs at he with hprefix hprefix'
      · obtain rfl := Except.ok.inj he
        cases l' <;> simp [Options.stored, storedBy, hprefix, hled, hledFlag]
      · obtain rfl := Except.ok.inj he
        cases l' <;> simp [Options.stored, storedBy, hprefix, hip, hipFlag]
  | dbname i =>
      obtain ⟨_, -, he⟩ := bind_eq_ok.1 he
      obtain rfl := Except.ok.inj he
      cases l' with
      | dbname j =>
          by_cases hi : i = j
          · simp [Options.stored, storedBy, hi]
          · simp [Options.stored, hi, Function.update_of_ne (Ne.symm hi)]
      | _ => simp [Options.stored]
  | help => cases he
  | version => cases he

/-- The name of the file, and what is left for the end. -/
lemma OptionValues.name_snoc (h : OptionValues events o) (he : processOption o e = .ok o') :
    o'.bitfileName = lastFile (events ++ [e]) ∧ o'.accessType = 0 := by
  cases e with
  | bad => exact absurd he (by simp [processOption])
  | opt l optarg =>
      rw [← h.accessType]
      cases stores_of_ok he with
      | file op _ _ _ => exact ⟨(lastFile_snoc_file op optarg).symm, rfl⟩
      | _ => exact ⟨by rw [lastFile_snoc_of_ne (by simp), ← h.bitfileName], rfl⟩

/-- One more option. -/
lemma OptionValues.snoc (h : OptionValues events o) (he : processOption o e = .ok o') :
    OptionValues (events ++ [e]) o' := by
  refine ⟨h.counts.snoc he, fun l => ?_, (h.name_snoc he).1, (h.name_snoc he).2⟩
  cases e with
  | bad => exact absurd he (by simp [processOption])
  | opt l' optarg =>
      rw [h.stored_snoc he, lastArg_snoc]
      split
      · rfl
      · exact h.stored l

/-- All options. -/
lemma OptionValues.foldlM (h : OptionValues events o)
    (hrun : events'.foldlM processOption o = .ok o') : OptionValues (events ++ events') o' := by
  induction events' generalizing events o with
  | nil =>
      obtain rfl := Except.ok.inj hrun
      rwa [List.append_nil]
  | cons e events' ih =>
      rw [List.foldlM_cons, bind_eq_ok] at hrun
      obtain ⟨o₁, he, hrest⟩ := hrun
      rw [List.append_cons]
      exact ih (h.snoc he) hrest

end Run

/-! ### Reordering -/

section Order

variable {events events' before : List OptEvent} {l : LongOption} {o o' : Options}

lemma acceptable_iff (optarg : CStr) :
    Acceptable before (.opt l optarg) ↔
      Acceptable [] (.opt l optarg) ∧ (l.Once → l ∉ optionsOf before) := by
  cases l <;> simp [Acceptable, LongOption.Once] <;> tauto

/-- All options are acceptable when each is by itself, and those that may be given once are. -/
lemma allAcceptable_iff :
    AllAcceptable before events ↔ (∀ e ∈ events, Acceptable [] e) ∧
      ∀ l : LongOption, l.Once →
        (argsOf l events).length ≤ if l ∈ optionsOf before then 0 else 1 := by
  induction events generalizing before with
  | nil => simp [AllAcceptable]
  | cons e events ih =>
      cases e with
      | bad => simp [AllAcceptable, Acceptable]
      | opt l optarg =>
          have hlen : ∀ l' : LongOption, (argsOf l' (.opt l optarg :: events)).length =
              (argsOf l' events).length + if l = l' then 1 else 0 := by
            intro l'
            by_cases hl : l = l'
            · simp [argsOf, hl]
            · simp [argsOf, hl]
          rw [AllAcceptable, acceptable_iff, ih, List.forall_mem_cons]
          constructor
          · rintro ⟨⟨hone, hnew⟩, hall, hrest⟩
            refine ⟨⟨hone, hall⟩, fun l' hl' => ?_⟩
            have hcount := hrest l' hl'
            simp only [optionsOf_snoc_opt, List.mem_append, List.mem_singleton] at hcount
            rw [hlen]
            by_cases hl : l = l'
            · subst hl
              rw [if_pos (.inr rfl)] at hcount
              rw [if_pos rfl, if_neg (hnew hl')]
              omega
            · simpa [hl, Ne.symm hl] using hcount
          · rintro ⟨⟨hone, hall⟩, hrest⟩
            refine ⟨⟨hone, fun hl hmem => ?_⟩, hall, fun l' hl' => ?_⟩
            · have hcount := hrest l hl
              rw [hlen, if_pos rfl, if_pos hmem] at hcount
              omega
            · have hcount := hrest l' hl'
              rw [hlen] at hcount
              simp only [optionsOf_snoc_opt, List.mem_append, List.mem_singleton]
              by_cases hl : l = l'
              · subst hl
                rw [if_pos rfl] at hcount
                rw [if_pos (.inr rfl)]
                split at hcount <;> omega
              · simpa [hl, Ne.symm hl] using hcount

/-- What is acceptable stays acceptable in another order. -/
lemma allAcceptable_perm (h : AllAcceptable [] events) (hperm : events'.Perm events) :
    AllAcceptable [] events' := by
  obtain ⟨hall, hcount⟩ := allAcceptable_iff.1 h
  refine allAcceptable_iff.2 ⟨fun e he => hall e (hperm.mem_iff.1 he), fun l hl => ?_⟩
  rw [argsOf, (hperm.filterMap _).length_eq]
  exact hcount l hl

/-- An option that is given once has its argument wherever it stands. -/
lemma lastArg_perm (h : AllAcceptable [] events) (hperm : events'.Perm events) (hl : l.Once) :
    lastArg l events' = lastArg l events := by
  have hcount : (argsOf l events).length ≤ 1 := by
    simpa using (allAcceptable_iff.1 h).2 l hl
  have hargs : (argsOf l events').Perm (argsOf l events) := hperm.filterMap _
  have heq : argsOf l events' = argsOf l events := by
    rcases hcases : argsOf l events with _ | ⟨optarg, _ | ⟨_, _⟩⟩
    · rw [hcases] at hargs
      exact hargs.eq_nil
    · rw [hcases] at hargs
      exact List.perm_singleton.1 hargs
    · rw [hcases] at hcount
      exact absurd hcount (by simp)
  rw [lastArg, heq, lastArg]

/-- The variables are known but for the name of the file. -/
lemma OptionValues.eq_of_stored (h : OptionValues events o) (h' : OptionValues events' o')
    (hmem : ∀ l, l ∈ optionsOf events' ↔ l ∈ optionsOf events)
    (hstored : ∀ l, o'.stored l = o.stored l) :
    o' = { o with bitfileName := lastFile events' } := by
  have htimes : ∀ l : LongOption, l.Once → o'.timesGiven l = o.timesGiven l := by
    intro l hl
    rw [h'.counts.timesGiven l hl, h.counts.timesGiven l hl]
    simp only [hmem]
  have hflag : o'.flag = o.flag := by
    ext f
    rw [h'.counts.flag, h.counts.flag]
    simp only [hmem]
  have hfile : o'.fileFlag = o.fileFlag := funext fun op => htimes (.file op) trivial
  have hhints : o'.bobHints = o.bobHints := funext fun i => Stored.number.inj (hstored (.dbname i))
  obtain ⟨hwpoAddr, hwpoData⟩ := Stored.register.inj (hstored .wpo)
  obtain ⟨hip, hipFlag, hled, hledFlag⟩ := Stored.setting.inj (hstored .set)
  have hdevice := Stored.text.inj (hstored .device)
  have haddr := Stored.text.inj (hstored .addr)
  have haddrHi := Stored.text.inj (hstored .addrHi)
  have hrpo := Stored.number.inj (hstored .rpo)
  have hdeviceFlag : o'.deviceFlag = o.deviceFlag := htimes .device trivial
  have haddrFlag : o'.addrFlag = o.addrFlag := htimes .addr trivial
  have haddrHiFlag : o'.addrHiFlag = o.addrHiFlag := htimes .addrHi trivial
  have hrpoFlag : o'.rpoFlag = o.rpoFlag := htimes .rpo trivial
  have hwpoFlag : o'.wpoFlag = o.wpoFlag := htimes .wpo trivial
  have hsetFlag : o'.setFlag = o.setFlag := htimes .set trivial
  have hname := h'.bitfileName
  have htype := h'.accessType.trans h.accessType.symm
  cases o'
  simp only [Options.mk.injEq]
  exact ⟨hdeviceFlag, haddrFlag, haddrHiFlag, hfile, hflag, hrpoFlag, hwpoFlag, hsetFlag, hipFlag,
    hledFlag, hrpo, hwpoAddr, hwpoData, hip, hled, hname, hhints, hdevice, haddr, haddrHi, htype⟩

/-- The loop over the options in another order. -/
lemma foldlM_perm (hrun : events.foldlM processOption .start = .ok o)
    (hperm : events'.Perm events)
    (hdb : ∀ i, lastArg (.dbname i) events' = lastArg (.dbname i) events) :
    events'.foldlM processOption .start = .ok { o with bitfileName := lastFile events' } := by
  have hall : AllAcceptable [] events := optionCounts_start.foldlM_ok_iff.1 ⟨o, hrun⟩
  obtain ⟨o', hrun'⟩ :=
    optionCounts_start.foldlM_ok_iff.2 (allAcceptable_perm hall hperm)
  have hd : OptionValues events o := optionValues_start.foldlM hrun
  have hd' : OptionValues events' o' := optionValues_start.foldlM hrun'
  have hlast : ∀ l : LongOption, l.Once → o'.stored l = o.stored l := by
    intro l hl
    rw [hd'.stored, hd.stored, lastArg_perm hall hperm hl]
  have heq := hd.eq_of_stored hd' (fun l => (hperm.filterMap _).mem_iff) fun l => ?_
  · rw [hrun', heq]
  · cases l with
    | dbname i => rw [hd'.stored, hd.stored, hdb]
    | flag | help | version => rfl
    | _ => exact hlast _ trivial

end Order

/-- What `main` does with its variables. -/
lemma main_of_processCmdLine {σ : Type} (fns : DeviceFunctions σ) {args : List CStr} {o : Options}
    (h : processCmdLine args = .ok (.ret 0 o)) :
    fns.main args =
      if o.fileFlag .info = 1 then return 0
      else if o.deviceFlag = 1 then fns.onDevice o
      else return 0 := by
  by_cases hargs : args = []
  · subst hargs
    obtain ⟨-, rfl⟩ := Parsed.ret.inj (Except.ok.inj h)
    rfl
  · rw [DeviceFunctions.main, if_neg hargs, h]
    rfl

/-- **A command line is the set of its options**, but for the file that is named last, and the
last `--dbname` of each kind. -/
theorem main_perm {args args' : List CStr} {o : Options}
    (h : processCmdLine args = .ok (.ret 0 o))
    (hperm : (getoptLong args').Perm (getoptLong args))
    (hdb : ∀ i, lastArg (.dbname i) (getoptLong args') = lastArg (.dbname i) (getoptLong args)) :
    processCmdLine args' =
        .ok (.ret 0 { o with bitfileName := lastFile (getoptLong args') }) ∧
      (lastFile (getoptLong args') = lastFile (getoptLong args) →
        ∀ {σ : Type} (fns : DeviceFunctions σ), fns.main args' = fns.main args) := by
  obtain ⟨o₁, hrun⟩ :=
    optionCounts_start.foldlM_ok_iff.2 (processCmdLine_ret_zero_iff.1 ⟨o, h⟩)
  have hrun' := foldlM_perm hrun hperm hdb
  have hparsed : processCmdLine args = .ok (.ret 0 { o₁ with accessType := accessType o₁ }) := by
    rw [processCmdLine, hrun]
    rfl
  obtain ⟨-, rfl⟩ := Parsed.ret.inj (Except.ok.inj (h.symm.trans hparsed))
  have hparsed' : processCmdLine args' = .ok (.ret 0
      { o₁ with
        accessType := accessType o₁
        bitfileName := lastFile (getoptLong args') }) := by
    rw [processCmdLine, hrun']
    rfl
  refine ⟨hparsed', fun hfile σ fns => ?_⟩
  have hname : o₁.bitfileName = lastFile (getoptLong args) :=
    (optionValues_start.foldlM hrun).bitfileName
  rw [main_of_processCmdLine fns hparsed', main_of_processCmdLine fns hparsed, hfile, ← hname]

/-- The options of a write, the other way round. -/
theorem main_perm_write :
    ∃ o, processCmdLine [ascii "--device", ascii "7i98", ascii "--write", ascii "a.bit",
        ascii "--fallback"] = .ok (.ret 0 o) ∧
      processCmdLine [ascii "--fallback", ascii "--write=a.bit", ascii "--device", ascii "7i98"] =
        .ok (.ret 0 { o with bitfileName := ascii "a.bit" }) := by
  have hargs : getoptLong [ascii "--device", ascii "7i98", ascii "--write", ascii "a.bit",
      ascii "--fallback"] = [.opt .device (ascii "7i98"), .opt (.file .write) (ascii "a.bit"),
        .opt (.flag .fallback) []] := by decide +kernel
  have hname : lastFile (getoptLong [ascii "--fallback", ascii "--write=a.bit", ascii "--device",
      ascii "7i98"]) = ascii "a.bit" := by decide +kernel
  have hshort : (ascii "a.bit").length + 1 ≤ bitfileNameSize := by decide +kernel
  obtain ⟨o, h⟩ := processCmdLine_ret_zero_iff.2 <| by
    rw [hargs]
    exact show AllAcceptable [] _ from ⟨by simp [Acceptable], ⟨by simp [optionsOf], hshort⟩,
      trivial, trivial⟩
  refine ⟨o, h, ?_⟩
  rw [← hname]
  exact (main_perm h (by decide +kernel) (by decide +kernel)).1

end Mesaflash
