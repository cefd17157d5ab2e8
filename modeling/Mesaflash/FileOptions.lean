import Mesaflash.CmdLine
import Mathlib.Data.List.Nodup

/-!
Which file an action works on.

The state of the loop over the options is described by the options that it has
seen: `Reflects` says that the flag of a file option is set when the option was
there, and that the name is the argument of the last file option.  So the action
that `main` chooses works on its own file exactly when the argument of its option is
the argument of the last file option.
-/

namespace Mesaflash

open Lib

/-! ### Options on the command line -/

/-- The file options, with their arguments, in the order of the command line. -/
def fileArgs (events : List OptEvent) : List (FileOp × CStr) :=
  events.filterMap fun
    | .opt (.file op) optarg => some (op, optarg)
    | _ => none

/-- The action on a board that an option asks for. -/
def askedAction : OptEvent → Option BoardAction
  | .opt (.flag .readhmid) _ => some .readhmid
  | .opt (.flag .printPd) _ => some .printPd
  | .opt (.flag .printLio) _ => some .printLio
  | .opt (.flag .sserial) _ => some .sserial
  | .opt (.flag .enableAllMod) _ => some .enableAllMod
  | .opt (.flag .safeIo) _ => some .safeIo
  | .opt .rpo _ => some .rpo
  | .opt .wpo _ => some .wpo
  | .opt .set optarg => some (if (ascii "ip=").isPrefixOf optarg then .setRemoteIp else .setLedMode)
  | _ => none

def isDevice : OptEvent → Bool
  | .opt .device _ => true
  | _ => false

/-- The argument of a file option does not fit into `bitfile_name`. -/
def tooLong : OptEvent → Bool
  | .opt (.file _) optarg => bitfileNameSize < optarg.length + 1
  | _ => false

/-- The options that `process_cmd_line` works on: it stops at an argument that is too
long, but `main` goes on. -/
def processed (args : List CStr) : List OptEvent := (getoptLong args).takeWhile (!tooLong ·)

/-- The operation on a file that `main` chooses. -/
def chosen (events : List OptEvent) : Option FileOp :=
  let files := (fileArgs events).map Prod.fst
  if .info ∈ files then some .info
  else if (∃ e ∈ events, isDevice e) ∧ ∀ e ∈ events, askedAction e = none then
    fileOps.find? (· ∈ files)
  else none

/-! ### One option -/

/-- The variables after the options `events`. -/
structure Reflects (events : List OptEvent) (o : Options) : Prop where
  nodup : ((fileArgs events).map Prod.fst).Nodup
  name : o.bitfileName = ((fileArgs events).getLast?.map Prod.snd).getD []
  file : ∀ op, o.fileFlag op = if op ∈ (fileArgs events).map Prod.fst then 1 else 0
  device : o.deviceFlag = 1 ↔ ∃ e ∈ events, isDevice e
  board : ∀ a, o.boardFlag a = 1 ↔ ∃ e ∈ events, askedAction e = some a

lemma reflects_start : Reflects [] .start := by
  refine ⟨List.nodup_nil, rfl, fun op => rfl, by simp [Options.start], fun a => ?_⟩
  cases a <;> simp [Options.boardFlag, Options.start]

variable {events : List OptEvent} {o o' : Options} {e : OptEvent}

lemma fileArgs_append (events events' : List OptEvent) :
    fileArgs (events ++ events') = fileArgs events ++ fileArgs events' :=
  List.filterMap_append

lemma once_bind_eq_ok {flag : ℕ} {f : Unit → Except (Stop Parsed) Options} :
    (once flag >>= f) = .ok o ↔ flag = 0 ∧ f () = .ok o := by
  simp only [once, bind_eq_ok, exitIf_eq_ok, Nat.not_lt, Nat.le_zero]
  exact ⟨fun ⟨_, hzero, h⟩ => ⟨hzero, h⟩, fun ⟨hzero, h⟩ => ⟨(), hzero, h⟩⟩

/-- What an accepted option stores. -/
inductive Stores (o : Options) : LongOption → CStr → Options → Prop
  | flag (f : Flag) (optarg : CStr) :
    Stores o (.flag f) optarg { o with flag := Function.update o.flag f f.value }
  | device (optarg : CStr) (h : o.deviceFlag = 0) :
    Stores o .device optarg
      { o with deviceName := some (optarg.map toUpper), deviceFlag := o.deviceFlag + 1 }
  | addr (optarg : CStr) (h : o.addrFlag = 0) :
    Stores o .addr optarg { o with devAddr := some optarg, addrFlag := o.addrFlag + 1 }
  | addrHi (optarg : CStr) (h : o.addrHiFlag = 0) :
    Stores o .addrHi optarg { o with devHiAddr := some optarg, addrHiFlag := o.addrHiFlag + 1 }
  | file (op : FileOp) (optarg : CStr) (h : o.fileFlag op = 0)
      (hlong : ¬ bitfileNameSize < optarg.length + 1) :
    Stores o (.file op) optarg
      { o with
        bitfileName := optarg
        fileFlag := Function.update o.fileFlag op (o.fileFlag op + 1) }
  | rpo (optarg : CStr) (addr : ℕ) (h : o.rpoFlag = 0) :
    Stores o .rpo optarg { o with rpoAddr := addr, rpoFlag := o.rpoFlag + 1 }
  | wpo (optarg : CStr) (addr data : ℕ) (h : o.wpoFlag = 0) :
    Stores o .wpo optarg { o with wpoAddr := addr, wpoData := data, wpoFlag := o.wpoFlag + 1 }
  | setIp (optarg : CStr) (value : Option CStr) (h : o.setFlag = 0)
      (hip : (ascii "ip=").isPrefixOf optarg = true) :
    Stores o .set optarg
      { o with lbp16SetIpAddr := value, ipaddrFlag := 1, setFlag := o.setFlag + 1 }
  | setLedMode (optarg : CStr) (value : Option CStr) (h : o.setFlag = 0)
      (hip : ¬ (ascii "ip=").isPrefixOf optarg = true) :
    Stores o .set optarg
      { o with lbp16SetLedMode := value, ledmodeFlag := 1, setFlag := o.setFlag + 1 }
  | dbname (i : Fin 6) (optarg : CStr) (hints : Fin 6 → ℕ) :
    Stores o (.dbname i) optarg { o with bobHints := hints }

/-- An option is accepted by storing it, if its flag was not set. -/
lemma stores_of_ok {l : LongOption} {optarg : CStr}
    (h : processOption o (.opt l optarg) = .ok o') : Stores o l optarg o' := by
  cases l with
  | flag f =>
      obtain rfl := Except.ok.inj h
      exact .flag f optarg
  | device =>
      obtain ⟨hzero, h⟩ := once_bind_eq_ok.1 h
      obtain rfl := Except.ok.inj h
      exact .device optarg hzero
  | addr =>
      obtain ⟨hzero, h⟩ := once_bind_eq_ok.1 h
      obtain rfl := Except.ok.inj h
      exact .addr optarg hzero
  | addrHi =>
      obtain ⟨hzero, h⟩ := once_bind_eq_ok.1 h
      obtain rfl := Except.ok.inj h
      exact .addrHi optarg hzero
  | file op =>
      obtain ⟨hzero, h⟩ := once_bind_eq_ok.1 h
      simp only [bind_eq_ok, exitIf_eq_ok] at h
      obtain ⟨_, hlong, h⟩ := h
      obtain rfl := Except.ok.inj h
      exact .file op optarg hzero hlong
  | rpo =>
      obtain ⟨hzero, h⟩ := once_bind_eq_ok.1 h
      obtain rfl := Except.ok.inj h
      exact .rpo optarg _ hzero
  | wpo =>
      obtain ⟨hzero, h⟩ := once_bind_eq_ok.1 h
      split at h
      · cases h
      · split at h
        · cases h
        · obtain rfl := Except.ok.inj h
          exact .wpo optarg _ _ hzero
  | set =>
      -- the action is chosen by the prefix of the argument
      obtain ⟨hzero, h⟩ := once_bind_eq_ok.1 h
      dsimp only at h
      split at h
      · next hip =>
        obtain rfl := Except.ok.inj h
        exact .setIp optarg _ hzero hip
      · next hip =>
        split at h
        · obtain rfl := Except.ok.inj h
          exact .setLedMode optarg _ hzero hip
        · cases h
  | dbname i =>
      simp only [processOption, bind_eq_ok, exitIf_eq_ok] at h
      obtain ⟨_, -, h⟩ := h
      obtain rfl := Except.ok.inj h
      exact .dbname i optarg _
  | help => exact absurd h (by simp [processOption])
  | version => exact absurd h (by simp [processOption])

/-- What an accepted option does to the variables that `Reflects` is about. -/
lemma processOption_eq_ok (h : processOption o e = .ok o') :
    (∃ op optarg, e = .opt (.file op) optarg ∧ o.fileFlag op = 0 ∧
      o' = { o with bitfileName := optarg, fileFlag := Function.update o.fileFlag op 1 }) ∨
    (fileArgs [e] = [] ∧ o'.bitfileName = o.bitfileName ∧ o'.fileFlag = o.fileFlag ∧
      o'.deviceFlag = (if isDevice e then 1 else o.deviceFlag) ∧
      ∀ a, o'.boardFlag a = if askedAction e = some a then 1 else o.boardFlag a) := by
  cases e with
  | bad => exact absurd h (by simp [processOption])
  | opt l optarg =>
      cases stores_of_ok h with
      | file op _ hzero _ => exact .inl ⟨op, optarg, rfl, hzero, by rw [hzero]⟩
      | flag f =>
          refine .inr ⟨rfl, rfl, rfl, rfl, fun a => ?_⟩
          cases f <;> cases a <;> simp [Options.boardFlag, askedAction, Flag.value]
      | device _ hzero =>
          refine .inr ⟨rfl, rfl, rfl, by simp [isDevice, hzero], fun a => ?_⟩
          cases a <;> simp [Options.boardFlag, askedAction]
      | rpo _ _ hzero =>
          refine .inr ⟨rfl, rfl, rfl, rfl, fun a => ?_⟩
          cases a <;> simp [Options.boardFlag, askedAction, hzero]
      | wpo _ _ _ hzero =>
          refine .inr ⟨rfl, rfl, rfl, rfl, fun a => ?_⟩
          cases a <;> simp [Options.boardFlag, askedAction, hzero]
      | setIp _ _ _ hip =>
          refine .inr ⟨rfl, rfl, rfl, rfl, fun a => ?_⟩
          cases a <;> simp [Options.boardFlag, askedAction, hip]
      | setLedMode _ _ _ hip =>
          refine .inr ⟨rfl, rfl, rfl, rfl, fun a => ?_⟩
          cases a <;> simp [Options.boardFlag, askedAction, hip]
      | _ =>
          refine .inr ⟨rfl, rfl, rfl, rfl, fun a => ?_⟩
          cases a <;> simp [Options.boardFlag, askedAction]

/-- One more option. -/
lemma Reflects.snoc (hr : Reflects events o) (h : processOption o e = .ok o') :
    Reflects (events ++ [e]) o' := by
  rcases processOption_eq_ok h with ⟨op, optarg, rfl, hzero, rfl⟩ |
    ⟨hnone, hname, hfile, hdevice, hboard⟩
  · have hfiles : fileArgs (events ++ [.opt (.file op) optarg]) =
        fileArgs events ++ [(op, optarg)] := fileArgs_append _ _
    have hnew : op ∉ (fileArgs events).map Prod.fst := fun hmem => by
      rw [hr.file, if_pos hmem] at hzero
      exact absurd hzero (by decide)
    refine ⟨?_, ?_, fun op' => ?_, ?_, fun a => ?_⟩
    · rw [hfiles, List.map_append]
      refine List.nodup_append.2 ⟨hr.nodup, List.nodup_singleton _, ?_⟩
      rintro op' hop' _ hlast rfl
      obtain rfl := List.mem_singleton.1 hlast
      exact hnew hop'
    · simp [hfiles]
    · rw [hfiles, List.map_append]
      by_cases hop : op' = op
      · simp [hop]
      · dsimp only
        rw [Function.update_of_ne hop, hr.file]
        refine if_congr ?_ rfl rfl
        rw [List.mem_append, List.map_singleton, List.mem_singleton, or_iff_left hop]
    · simp [hr.device, isDevice]
    · have := hr.board a
      cases a <;> simpa [Options.boardFlag, askedAction] using this
  · have hfiles : fileArgs (events ++ [e]) = fileArgs events := by
      rw [fileArgs_append, hnone, List.append_nil]
    refine ⟨by rw [hfiles]; exact hr.nodup, by rw [hfiles, hname, hr.name],
      fun op => by rw [hfiles, hfile, hr.file], ?_, fun a => ?_⟩
    · rw [hdevice]
      split
      · next hd => simp [hd]
      · next hd => simp [hr.device, hd]
    · rw [hboard]
      split
      · next ha => simp [ha]
      · next ha => simp [hr.board, ha]

/-- All options. -/
lemma reflects_foldlM (h : events.foldlM processOption .start = .ok o) : Reflects events o := by
  induction events using List.reverseRecOn generalizing o with
  | nil =>
      obtain rfl := Except.ok.inj h
      exact reflects_start
  | append_singleton events e ih =>
      rw [List.foldlM_append, bind_eq_ok] at h
      obtain ⟨o₁, h₁, h⟩ := h
      rw [List.foldlM_cons, bind_eq_ok] at h
      obtain ⟨o₂, h₂, h⟩ := h
      obtain rfl := Except.ok.inj h
      exact (ih h₁).snoc h₂

/-! ### The whole command line -/

lemma tooLong_of_ok (h : processOption o e = .ok o') : tooLong e = false := by
  cases e with
  | bad => rfl
  | opt l optarg =>
      cases stores_of_ok h with
      | file op _ _ hlong => simpa [tooLong] using hlong
      | _ => rfl

lemma not_tooLong_of_foldlM (h : events.foldlM processOption o = .ok o') :
    ∀ e ∈ events, tooLong e = false := by
  induction events generalizing o with
  | nil => simp
  | cons e events ih =>
      rw [List.foldlM_cons, bind_eq_ok] at h
      obtain ⟨o₁, h₁, h⟩ := h
      exact List.forall_mem_cons.2 ⟨tooLong_of_ok h₁, ih h⟩

/-- The loop over the options is left with -1, or by `exit`, or at an argument that is
too long. -/
lemma processOption_earlyRet :
    EarlyRet (fun p => (∃ status, p = .exit status) ∨ p = .ret (-1) o ∨
      tooLong e = true ∧ p = .ret 1 o) (processOption o e) := by
  have honce : ∀ flag, EarlyRet (fun p => (∃ status, p = .exit status) ∨ p = .ret (-1) o ∨
      tooLong e = true ∧ p = .ret 1 o) (once flag) := fun flag => .exitIf fun _ => .inl ⟨_, rfl⟩
  cases e with
  | bad => exact .ret (.inr (.inl rfl))
  | opt l optarg =>
      cases l with
      | flag f => exact .ok _
      | device => exact .bind (honce _) fun _ _ => .ok _
      | addr => exact .bind (honce _) fun _ _ => .ok _
      | addrHi => exact .bind (honce _) fun _ _ => .ok _
      | file op =>
          exact .bind (honce _) fun _ _ => .bind (.exitIf fun hlong =>
            .inr (.inr ⟨by simpa [tooLong] using hlong, rfl⟩)) fun _ _ => .ok _
      | rpo => exact .bind (honce _) fun _ _ => .ok _
      | wpo =>
          refine .bind (honce _) fun _ _ => ?_
          split
          · exact fun r h => by cases h
          · split
            · exact fun r h => by cases h
            · exact .ok _
      | set =>
          refine .bind (honce _) fun _ _ => ?_
          dsimp only
          split
          · exact .ok _
          · split
            · exact .ok _
            · exact .ret (.inl ⟨_, rfl⟩)
      | dbname i => exact .bind (.exitIf fun _ => .inl ⟨_, rfl⟩) fun _ _ => .ok _
      | help => exact .ret (.inl ⟨_, rfl⟩)
      | version => exact .ret (.inl ⟨_, rfl⟩)

/-- `process_cmd_line` returns behind its loop or from it. -/
lemma processCmdLine_eq_ret {args : List CStr} {r : ℤ} (h : processCmdLine args = .ok (.ret r o)) :
    (r = 0 ∧ ∃ o₁, (getoptLong args).foldlM processOption .start = .ok o₁ ∧
      o = { o₁ with accessType := accessType o₁ }) ∨
    (getoptLong args).foldlM processOption .start = .error (.ret (.ret r o)) := by
  rw [processCmdLine, body_eq_ok] at h
  cases hrun : (getoptLong args).foldlM processOption .start with
  | ok o₁ =>
      rw [hrun] at h
      rcases h with h | h
      · obtain ⟨rfl, rfl⟩ := Parsed.ret.inj (Except.ok.inj h)
        exact .inl ⟨rfl, o₁, rfl, rfl⟩
      · cases h
  | error stop =>
      rw [hrun, error_bind] at h
      rcases h with h | h
      · cases h
      · exact .inr (congrArg _ (Except.error.inj h))

/-- An accepted command line is reflected by the variables. -/
lemma reflects_processed {args : List CStr} {r : ℤ}
    (h : processCmdLine args = .ok (.ret r o)) (hr : r ≠ -1) : Reflects (processed args) o := by
  rcases processCmdLine_eq_ret h with ⟨-, o₁, h₁, rfl⟩ | h'
  · have hall : processed args = getoptLong args :=
      List.takeWhile_eq_self_iff.2 fun e he => by simp [not_tooLong_of_foldlM h₁ e he]
    obtain ⟨hnodup, hname, hfile, hdevice, hboard⟩ := reflects_foldlM h₁
    rw [hall]
    exact ⟨hnodup, hname, hfile, hdevice, hboard⟩
  · obtain ⟨pre, e, post, o₁, hsplit, hpre, hstop⟩ := foldlM_eq_error h'
    rcases processOption_earlyRet _ hstop with ⟨_, hexit⟩ | hfail | ⟨hlong, hret⟩
    · cases hexit
    · exact absurd (Parsed.ret.inj hfail).1 hr
    · obtain ⟨-, rfl⟩ := Parsed.ret.inj hret
      have hpart : processed args = pre := by
        rw [processed, hsplit, List.takeWhile_append_of_pos
          (fun e he => by simp [not_tooLong_of_foldlM hpre e he]),
          List.takeWhile_cons_of_neg (by simp [hlong]), List.append_nil]
      rw [hpart]
      exact reflects_foldlM hpre

/-! ### The action -/

lemma Reflects.file_eq_one_iff (h : Reflects events o) (op : FileOp) :
    o.fileFlag op = 1 ↔ op ∈ (fileArgs events).map Prod.fst := by
  rw [h.file]
  split <;> simp [*]

/-- No action on the board is preferred when no option asks for one. -/
lemma Reflects.find_board_iff (h : Reflects events o) :
    boardActions.find? (o.boardFlag · = 1) = none ↔ ∀ e ∈ events, askedAction e = none := by
  simp only [List.find?_eq_none, decide_eq_true_eq, h.board, not_exists, not_and]
  constructor
  · intro hnone e he
    cases hasked : askedAction e with
    | none => rfl
    | some a => exact absurd hasked (hnone a (by cases a <;> decide) e he)
  · rintro hnone a - e he hasked
    rw [hnone e he] at hasked
    cases hasked

/-- An operation is chosen when its option was given. -/
lemma mem_of_chosen {op : FileOp} (h : chosen events = some op) :
    op ∈ (fileArgs events).map Prod.fst := by
  rw [chosen] at h
  split at h
  · next hinfo =>
    obtain rfl := Option.some.inj h
    exact hinfo
  · split at h
    · simpa using List.find?_some h
    · cases h

lemma boardAction_eq_file_iff {op : FileOp} {name : CStr} :
    boardAction o = .file op name ↔ boardActions.find? (o.boardFlag · = 1) = none ∧
      fileOps.find? (o.fileFlag · = 1) = some op ∧ name = o.bitfileName := by
  unfold boardAction
  cases boardActions.find? (o.boardFlag · = 1) with
  | some a => simp
  | none =>
      cases fileOps.find? (o.fileFlag · = 1) with
      | some op' =>
          simp only [Action.file.injEq, true_and, Option.some.injEq, eq_comm (a := name)]
      | none =>
          dsimp only
          split_ifs <;> simp

/-- `main` works on the file that was named last, for the operation that is chosen. -/
lemma main_eq_file_iff {args : List CStr} {r : ℤ} (h : processCmdLine args = .ok (.ret r o))
    (hr : r ≠ -1) {findDev : Options → Except ℤ Unit} {op : FileOp} {name : CStr} :
    main findDev args = .ok (.run (.file op name)) ↔
      chosen (processed args) = some op ∧ name = o.bitfileName ∧
        (op ≠ .info → findDev o = .ok ()) := by
  have hreflects := reflects_processed h hr
  have hempty : args ≠ [] ∨ chosen (processed args) = none := by
    cases args with
    | nil => exact .inr rfl
    | cons _ _ => exact .inl (List.cons_ne_nil _ _)
  by_cases hne : args = []
  · rw [main, if_pos hne, hempty.resolve_left (not_not_intro hne)]
    simp
  rw [main, if_neg hne, h, ok_bind]
  dsimp only
  rw [if_neg hr, chosen]
  by_cases hinfo : o.fileFlag .info = 1
  · rw [if_pos hinfo, if_pos ((hreflects.file_eq_one_iff _).1 hinfo)]
    simp only [pure_eq_ok, Except.ok.injEq, MainEnd.run.injEq, Action.file.injEq,
      Option.some.injEq]
    constructor
    · rintro ⟨rfl, rfl⟩
      exact ⟨rfl, rfl, fun h => absurd rfl h⟩
    · rintro ⟨rfl, rfl, -⟩
      exact ⟨rfl, rfl⟩
  · rw [if_neg hinfo, if_neg fun h => hinfo ((hreflects.file_eq_one_iff _).2 h)]
    have hfiles : fileOps.find? (· ∈ (fileArgs (processed args)).map Prod.fst) =
        fileOps.find? (o.fileFlag · = 1) := by
      simp only [hreflects.file_eq_one_iff]
    have hop : fileOps.find? (o.fileFlag · = 1) = some op → op ≠ .info := by
      rintro hfind rfl
      exact absurd (List.mem_of_find?_eq_some hfind) (by decide)
    simp only [← hreflects.device, ← hreflects.find_board_iff, hfiles]
    by_cases hdevice : o.deviceFlag = 1
    · rw [if_pos hdevice]
      cases hfind : findDev o with
      | error status =>
          simp only [pure_eq_ok, Except.ok.injEq, reduceCtorEq, false_iff, imp_false]
          rintro ⟨hchosen, -, hnot⟩
          split at hchosen
          · exact hnot (hop hchosen)
          · cases hchosen
      | ok u =>
          simp only [pure_eq_ok, Except.ok.injEq, MainEnd.run.injEq, boardAction_eq_file_iff,
            hdevice, true_and]
          split
          · next hnone => simp [hnone]
          · next hnone => simp [hnone]
    · simp [hdevice]

/-- The operation on a file, if there is one, works on the file that was named by the
option for it. -/
def OwnFile (args : List CStr) : Prop :=
  ∀ findDev op name, main findDev args = .ok (.run (.file op name)) →
    (op, name) ∈ fileArgs (processed args)

/-- The command line is accepted: `main` goes on. -/
def Accepted (args : List CStr) : Prop :=
  ∃ r o, processCmdLine args = .ok (.ret r o) ∧ r ≠ -1

instance (args : List CStr) : Decidable (Accepted args) :=
  match h : processCmdLine args with
  | .ok (.ret r o) => decidable_of_iff (r ≠ -1) ⟨fun hr => ⟨r, o, h, hr⟩, fun ⟨r', o', h', hr⟩ => by
      rw [h] at h'
      rwa [(Parsed.ret.inj (Except.ok.inj h')).1]⟩
  | .ok (.exit _) => .isFalse fun ⟨_, _, h', _⟩ => by simp [h] at h'
  | .error _ => .isFalse fun ⟨_, _, h', _⟩ => by simp [h] at h'

/-- **An operation works on its own file exactly when the file that is named last is
the one that is named by the option for the operation.** -/
theorem ownFile_iff {args : List CStr} (h : Accepted args) :
    OwnFile args ↔ ∀ x ∈ fileArgs (processed args), chosen (processed args) = some x.1 →
      (fileArgs (processed args)).getLast?.map Prod.snd = some x.2 := by
  obtain ⟨r, o, h, hr⟩ := h
  have hreflects := reflects_processed h hr
  have hlast : ∀ {x}, x ∈ fileArgs (processed args) →
      (fileArgs (processed args)).getLast?.map Prod.snd = some o.bitfileName := by
    intro x hx
    have hne : fileArgs (processed args) ≠ [] := List.ne_nil_of_mem hx
    rw [hreflects.name, List.getLast?_eq_getLast_of_ne_nil hne]
    rfl
  constructor
  · rintro hown ⟨op, name⟩ hmem hchosen
    have hrun := hown (fun _ => .ok ()) op o.bitfileName
      ((main_eq_file_iff h hr).2 ⟨hchosen, rfl, fun _ => rfl⟩)
    -- the option was given once
    have hname : o.bitfileName = name :=
      (Prod.mk.inj (List.inj_on_of_nodup_map hreflects.nodup hrun hmem rfl)).2
    rw [hlast hmem, hname]
  · intro hall findDev op name hrun
    obtain ⟨hchosen, rfl, -⟩ := (main_eq_file_iff h hr).1 hrun
    obtain ⟨⟨_, arg⟩, hmem, rfl⟩ := List.mem_map.1 (mem_of_chosen hchosen)
    have hsame := (hlast hmem).symm.trans (hall _ hmem hchosen)
    rwa [Option.some.inj hsame]

theorem ownFile_write :
    OwnFile [ascii "--device", ascii "7i98", ascii "--fallback", ascii "--write", ascii "a.bit"] :=
  (ownFile_iff (by decide +kernel)).2 (by decide +kernel)

/-- `--verify` behind `--write` names the file that is written. -/
theorem not_ownFile_write_verify :
    ¬ OwnFile [ascii "--device", ascii "7i98", ascii "--write", ascii "a.bit", ascii "--verify",
      ascii "b.bit"] := by
  intro h
  have hmem := h (fun _ => .ok ()) .write (ascii "b.bit") (by decide +kernel)
  exact absurd hmem (by decide +kernel)

end Mesaflash
