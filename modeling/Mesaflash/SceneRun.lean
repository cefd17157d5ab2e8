import Mesaflash.MainRun

/-!
The run of `main` in a scene.

A scene says what the functions of a board for its flash memory do, and what the others report.
The run of `main` with functions that report this ends as `mainOnBoard` does, so that what is
known about the one holds for the other.
-/

namespace Mesaflash

open Lib

/-! ### The functions of a scene -/

/-- A function that leaves the hardware alone when it faults. -/
def deviceFn {σ α : Type} (f : σ → Except Fault (α × σ)) : DeviceFn σ α := fun s =>
  match f s with
  | .ok (a, s') => (.ok a, s')
  | .error e => (.error e, s)

lemma deviceFn_eq_ok {σ α : Type} {f : σ → Except Fault (α × σ)} {a : α} {s s' : σ} :
    deviceFn f s = (.ok a, s') ↔ f s = .ok (a, s') := by
  rw [deviceFn]
  rcases f s with e | ⟨a, s⟩ <;> simp

variable {σ : Type}

/-- The functions on a board of a scene: those for the flash memory are the ones of `eeprom.c`,
with the access of the board, and the others may be any. -/
def Scene.functions (e : Scene σ) (others : OtherFunctions (Proc σ)) : DeviceFunctions (Proc σ) :=
  { others with
    boardOpen := fun f b => deviceFn fun p => do
      let (b, block) ← callOpen e b f p.bootBlock
      return (b, { p with bootBlock := block })
    writeFlash := fun _ b name addr fixBootFlag sha256CheckFlag =>
      deviceFn (eepromWrite e.sha e.fs (boardAccess e b) b.toBoard name addr fixBootFlag
        sha256CheckFlag)
    verifyFlash := fun _ b name addr =>
      deviceFn (eepromVerify e.fs (boardAccess e b) b.toBoard name addr)
    backupFlash := fun _ b name => deviceFn fun p => do
      let (ret, _, p) ← flashBackup e.sha e.fs (boardAccess e b) e.io e.autoName b.toBoard name p
      return (ret, p)
    restoreFlash := fun _ b name =>
      deviceFn (flashRestore e.sha e.fs (boardAccess e b) b.toBoard name) }

/-- Other functions that report what the scene has, and do nothing to the process.  What
`program_fpga` returns is not part of the scene. -/
def Scene.reporting (e : Scene σ) (search : DeviceFn (Proc σ) Found) (programmed : ℤ) :
    OtherFunctions (Proc σ) where
  search := search
  boardClose _ _ p := p
  printInfo f b := deviceFn fun p => do
    callPrintInfo b f
    return ((), p)
  act a _ b := deviceFn fun p => do
    let _ ← callBoardAction e b a
    return ((), p)
  programFpga _ _ _ := deviceFn fun p => return (programmed, p)
  reset f _ := deviceFn fun p => return (e.reset f, p)
  reload f _ fallbackFlag := deviceFn fun p => return (e.reload f fallbackFlag, p)
  ethSetRemoteIp _ := deviceFn fun p => return (e.setRemoteIp, p)
  ethSetLedMode _ := deviceFn fun p => return (e.setLedMode, p)

/-! ### Calls -/

section Calls

variable {op : DeviceOp} {f : σ → Except Fault (ℤ × σ)}

lemma implements_lift {α : Type} (f : σ → Except Fault (α × σ)) :
    Implements (.lift (deviceFn f) : Session σ α) f := by
  intro t
  simp only [Traced.lift, deviceFn]
  rcases f t.state with e | ⟨a, s⟩ <;> rfl

lemma implements_callBoard (f : σ → Except Fault (ℤ × σ)) :
    Implements (callBoard op (deviceFn f)) f :=
  (implements_lift f).then_emit _

lemma implements_callAnyio {x : Session σ ℤ} (hx : Implements x f) :
    Implements (callAnyio op x) f := hx.then_emit _

lemma implements_viaPointer {α : Type} (p : Option α) (f : α → σ → Except Fault (ℤ × σ)) :
    Implements (viaPointer op p fun g => deviceFn (f g))
      (p.elim (fun s => .ok (einval, s)) f) := by
  refine implements_callAnyio ?_
  cases p with
  | none => exact .pure _
  | some g => exact implements_callBoard (f g)

end Calls

/-! ### Actions -/

section Actions

variable {e : Scene σ} {others : OtherFunctions (Proc σ)} {search : DeviceFn (Proc σ) Found}
  {programmed : ℤ} {o : Options} {b : BoardEntry}

lemma implements_writeFlash (name : CStr) (fallbackFlag fixBootFlag sha256CheckFlag : ℤ) :
    Implements ((e.functions others).anyioDevWriteFlash b name fallbackFlag fixBootFlag
        sha256CheckFlag)
      (anyioDevWriteFlash e.sha e.fs (boardAccess e b) (some b.toBoard) name fallbackFlag
        fixBootFlag sha256CheckFlag) := by
  refine (implements_viaPointer _ fun _ => eepromWrite _ _ _ _ _ _ _ _).congr fun p => ?_
  simp only [anyioDevWriteFlash]
  cases b.llio.writeFlash <;> rfl

lemma implements_verifyFlash (name : CStr) (fallbackFlag : ℤ) :
    Implements ((e.functions others).anyioDevVerifyFlash b name fallbackFlag)
      (anyioDevVerifyFlash e.fs (boardAccess e b) (some b.toBoard) name fallbackFlag) := by
  refine (implements_viaPointer _ fun _ => eepromVerify _ _ _ _ _).congr fun p => ?_
  simp only [anyioDevVerifyFlash]
  cases b.llio.verifyFlash <;> rfl

lemma implements_restoreFlash (name : CStr) :
    Implements ((e.functions others).anyioDevRestoreFlash b name)
      (anyioDevRestoreFlash e.sha e.fs (boardAccess e b) (some b.toBoard) name) := by
  refine (implements_viaPointer _ fun _ => flashRestore _ _ _ _ _).congr fun p => ?_
  simp only [anyioDevRestoreFlash]
  cases b.llio.restoreFlash <;> rfl

lemma endsWith_viaEth {op : DeviceOp} (ret : ℤ) :
    EndsWith (viaEth op b (deviceFn fun p : Proc σ => return (ret, p)))
      fun _ => return if b.type = .eth then ret else eperm := by
  refine (implements_callAnyio (f := fun p => .ok (if b.type = .eth then ret else eperm, p))
    ?_).endsWith.congr fun _ => rfl
  split
  · exact implements_callBoard fun p => .ok (ret, p)
  · exact .pure eperm

/-- What follows a command, for a result that does not depend on the state. -/
lemma endsWith_onSuccess {ret : ℤ} {c : Prop} [Decidable c] {x : Session (Proc σ) ℤ}
    {y : Proc σ → Except Fault ℤ} (hx : EndsWith x y) :
    EndsWith (onSuccess ret c x) fun p => if ret = 0 ∧ c then y p else .ok ret := by
  unfold onSuccess
  split
  · exact hx
  · exact fun _ => rfl

lemma endsWith_autoVerify (name : CStr) (ret : ℤ) :
    EndsWith (onSuccess ret (o.flag .autoVerify ≠ 0)
        ((e.functions others).anyioDevVerifyFlash b name (o.int .fallback)))
      (autoVerify e o b name ret) := by
  intro t
  rw [endsWith_onSuccess (implements_verifyFlash name (o.int .fallback)).endsWith t, autoVerify]
  dsimp only
  split
  · cases anyioDevVerifyFlash e.fs (boardAccess e b) (some b.toBoard) name (o.int .fallback)
      t.state <;> rfl
  · rfl

lemma endsWith_reload (fallbackFlag : ℤ) :
    EndsWith ((e.functions (e.reporting search programmed)).anyioDevReload b fallbackFlag)
      fun _ => anyioDevReload e b fallbackFlag := by
  refine (implements_viaPointer _ fun f p => .ok (e.reload f fallbackFlag, p)).endsWith.congr
    fun p => ?_
  rw [anyioDevReload]
  cases b.reload <;> rfl

lemma endsWith_reset :
    EndsWith ((e.functions (e.reporting search programmed)).anyioDevReset b)
      fun _ => anyioDevReset e b := by
  refine (implements_viaPointer _ fun f p => .ok (e.reset f, p)).endsWith.congr fun p => ?_
  rw [anyioDevReset]
  cases b.reset <;> rfl

lemma implements_resetAndProgram (f : Reset) (g : ProgramFpga) (name : CStr) :
    Implements (resetAndProgram ((e.functions (e.reporting search programmed)).reset f b)
        ((e.functions (e.reporting search programmed)).programFpga g b name))
      fun p => .ok (if e.reset f ≠ 0 then e.reset f else 0, p) := by
  have hrest : ∀ ret : ℤ, Implements
      (if ret ≠ 0 then return ret
        else callBoard .program
            ((e.functions (e.reporting search programmed)).programFpga g b name) >>=
          fun _ => return 0 : Session (Proc σ) ℤ)
      fun p => .ok (if ret ≠ 0 then ret else 0, p) := by
    intro ret
    by_cases hret : ret ≠ 0
    · simp only [if_pos hret]
      exact .pure ret
    · simp only [if_neg hret]
      exact Implements.bind (implements_callBoard fun p => .ok (programmed, p)) fun _ => .pure 0
  exact (Implements.bind (implements_callBoard fun p => .ok (e.reset f, p)) hrest).congr
    fun _ => rfl

lemma endsWith_program (name : CStr) :
    EndsWith ((e.functions (e.reporting search programmed)).anyioDevProgramFpga b name)
      fun _ => anyioDevProgramFpga e b := by
  unfold DeviceFunctions.anyioDevProgramFpga anyioDevProgramFpga
  cases b.reset with
  | none => exact fun _ => rfl
  | some f =>
      cases b.programFpga with
      | none => exact fun _ => rfl
      | some g =>
          exact (implements_callAnyio (implements_resetAndProgram f g name)).endsWith.congr
            fun _ => rfl

/-- What follows the writing of a bit file. -/
lemma endsWith_written (name : CStr) (ret : ℤ) :
    EndsWith (onSuccess ret (o.flag .autoVerify ≠ 0)
        ((e.functions (e.reporting search programmed)).anyioDevVerifyFlash b name
          (o.int .fallback)) >>=
      fun ret => onSuccess ret (o.flag .reload = 1)
        ((e.functions (e.reporting search programmed)).anyioDevReload b (o.int .fallback)))
      fun p => autoVerify e o b name ret p >>= fun ret =>
        if ret = 0 ∧ o.flag .reload = 1 then anyioDevReload e b (o.int .fallback) else .ok ret :=
  (endsWith_autoVerify name ret).bind_const fun _ => endsWith_onSuccess (endsWith_reload _)

/-- An action that reports nothing. -/
lemma endsWith_quiet (event : DeviceEvent) (f : Proc σ → Except Fault (Unit × Proc σ)) :
    EndsWith (do .emit event; .lift (deviceFn f); return 0 : Session (Proc σ) ℤ)
      fun p => f p >>= fun _ => .ok 0 := by
  intro t
  rw [Traced.run_emit_bind]
  exact EndsWith.bind (g := fun _ _ => .ok 0) (implements_lift f) (fun _ _ => rfl) _

/-- The other actions on a board return 0 when they return. -/
lemma callBoardAction_eq_zero {a : BoardAction} {ret : ℤ} (h : callBoardAction e b a = .ok ret)
    (hip : a ≠ .setRemoteIp) (hled : a ≠ .setLedMode) : ret = 0 := by
  have hm2 : ∀ a, hm2Command e b a = .ok ret → ret = 0 := by
    intro a h
    simp only [hm2Command, bind_eq_ok] at h
    obtain ⟨_, -, _, -, h⟩ := h
    exact (Except.ok.inj h).symm
  cases a with
  | setRemoteIp => exact absurd rfl hip
  | setLedMode => exact absurd rfl hled
  | rpo =>
      simp only [callBoardAction, bind_eq_ok] at h
      obtain ⟨_, -, h⟩ := h
      exact (Except.ok.inj h).symm
  | wpo =>
      simp only [callBoardAction, bind_eq_ok] at h
      obtain ⟨_, -, h⟩ := h
      exact (Except.ok.inj h).symm
  | _ => exact hm2 _ h

/-- The actions on a board that report nothing. -/
lemma endsWith_act {a : BoardAction} (hip : a ≠ .setRemoteIp) (hled : a ≠ .setLedMode) :
    EndsWith (do
        .emit (.act a)
        .lift ((e.functions (e.reporting search programmed)).act a o b)
        return 0 : Session (Proc σ) ℤ) fun _ => callBoardAction e b a := by
  refine (endsWith_quiet _ _).congr fun p => ?_
  cases hact : callBoardAction e b a with
  | error f => rfl
  | ok ret => rw [callBoardAction_eq_zero hact hip hled]; rfl

lemma endsWith_action (a : Action) :
    EndsWith ((e.functions (e.reporting search programmed)).action b o a) (callAction e o b a) := by
  cases a with
  | board a =>
      cases a with
      | setRemoteIp => exact endsWith_viaEth e.setRemoteIp
      | setLedMode => exact endsWith_viaEth e.setLedMode
      | _ => exact endsWith_act (by decide) (by decide)
  | file op name =>
      cases op with
      | write =>
          exact (EndsWith.bind (implements_writeFlash name _ _ _) (endsWith_written name)).congr
            fun _ => rfl
      | verify =>
          refine (implements_verifyFlash name (o.int .fallback)).endsWith.congr fun p => ?_
          simp only [callAction, callFileOp]
          cases anyioDevVerifyFlash e.fs (boardAccess e b) (some b.toBoard) name (o.int .fallback)
            p <;> rfl
      | backupFlash =>
          refine (implements_viaPointer _ fun _ => _).endsWith.congr fun p => ?_
          simp only [callAction, callFileOp, anyioDevBackupFlash]
          cases b.llio.backupFlash with
          | none => rfl
          | some f =>
              simp only [Option.elim]
              cases flashBackup e.sha e.fs (boardAccess e b) e.io e.autoName b.toBoard name p <;>
                rfl
      | restoreFlash =>
          exact (EndsWith.bind (implements_restoreFlash name) (endsWith_autoVerify name)).congr
            fun _ => rfl
      | program => exact endsWith_program name
      | info => exact fun _ => rfl
  | reload =>
      exact ((endsWith_reload _).bind_const fun _ => fun _ => rfl).congr fun _ => rfl
  | reset => exact (endsWith_reset.bind_const fun _ => fun _ => rfl).congr fun _ => rfl
  | printInfo =>
      cases hprint : b.printInfo with
      | none =>
          intro t
          simp only [DeviceFunctions.action, callAction, hprint]
          rfl
      | some f =>
          simp only [DeviceFunctions.action, hprint, deref_some, Traced.ofExcept_ok_bind]
          refine (endsWith_quiet _ _).congr fun p => ?_
          -- a board without a part number faults here
          simp only [callAction, hprint, deref_some, ok_bind]
          cases callPrintInfo b f <;> rfl

/-- A board is closed behind its action. -/
lemma endsWith_close (ret : ℤ) :
    EndsWith (do
        let f ← .ofExcept (deref b.boardClose)
        .emit .boardClose
        .lift fun s => (.ok (), (e.functions (e.reporting search programmed)).boardClose f b s)
        return ret : Session (Proc σ) ℤ)
      fun _ => deref b.boardClose >>= fun _ => .ok ret := by
  intro t
  cases b.boardClose <;> rfl

/-- **The run of `main` on a board of a scene ends as the scene has it.** -/
lemma endsWith_onBoard {t : Trace DeviceEvent (Proc σ)} (ht : t.state = Proc.start e.flash) :
    (((e.functions (e.reporting search programmed)).onBoard b o).run t).1 = mainOnBoard e o b := by
  rw [DeviceFunctions.onBoard, mainOnBoard]
  cases hb : b.boardOpen with
  | none => rfl
  | some f =>
      rw [deref_some, Traced.ofExcept_ok_bind, Traced.run_emit_bind, ok_bind]
      refine (EndsWith.bind (implements_lift _) (fun b' =>
        (endsWith_action (boardAction o)).bind_const endsWith_close) _).trans ?_
      rw [ht]
      have hopen : callOpen e b f (Proc.start e.flash).bootBlock = callOpen e b f bootBlock := rfl
      simp only [hopen]
      cases callOpen e b f bootBlock <;> rfl

end Actions

end Mesaflash
