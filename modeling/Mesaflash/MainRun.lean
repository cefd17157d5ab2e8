import Mesaflash.Dispatch
import Mesaflash.Lib.Trace

/-!
The run of `main`.

The functions that work on the hardware are parameters, `DeviceFunctions`: each of them may
return anything, or fault.  A run of `main` leaves a trace of what it has to do with the
hardware, and of the results that are reported to it.
-/

namespace Mesaflash

open Lib

/-! ### The run of main -/

/-- The operations that report a result. -/
inductive DeviceOp where
  | write
  | verify
  | backup
  | restore
  | program
  | setRemoteIp
  | setLedMode
  | reload
  | reset
deriving DecidableEq, Repr

/-- Who reports a result. -/
inductive Level where
  /-- A function of the board, or of `eth_boards.c`. -/
  | board
  /-- A function of `anyio.c`. -/
  | anyio
deriving DecidableEq, Repr

/-- What `main` has to do with the hardware. -/
inductive DeviceEvent where
  /-- `anyio_init`, `anyio_find_dev` and `anyio_get_dev` are called. -/
  | search
  | boardOpen
  /-- An action that reports nothing. -/
  | act (a : BoardAction)
  | printInfo
  | reported (level : Level) (op : DeviceOp) (ret : ℤ)
  | boardClose
deriving DecidableEq, Repr

/-- A function that works on the hardware. -/
abbrev DeviceFn (σ α : Type) : Type := σ → Except Fault α × σ

/-- What the search for a board comes to. -/
inductive Found where
  /-- `anyio_init` fails. -/
  | noAccess
  /-- `anyio_find_dev` fails, or there is no board of the name. -/
  | notFound
  | board (b : BoardEntry)

/-- The search, and the functions of a board that have nothing to do with `eeprom.c`, with those
of `eth_boards.c` that set the IP address and the LED mode. -/
structure OtherFunctions (σ : Type) where
  /-- The search, for the options that were given. -/
  search : DeviceFn σ Found
  boardClose : BoardType → BoardEntry → σ → σ
  printInfo : BoardType → BoardEntry → DeviceFn σ Unit
  act : BoardAction → Options → BoardEntry → DeviceFn σ Unit
  programFpga : ProgramFpga → BoardEntry → CStr → DeviceFn σ ℤ
  reset : Reset → BoardEntry → DeviceFn σ ℤ
  reload : Reload → BoardEntry → ℤ → DeviceFn σ ℤ
  ethSetRemoteIp : Option CStr → DeviceFn σ ℤ
  ethSetLedMode : Option CStr → DeviceFn σ ℤ

/-- The functions that work on the hardware.  A board is opened with its flash memory. -/
structure DeviceFunctions (σ : Type) extends OtherFunctions σ where
  boardOpen : BoardType → BoardEntry → DeviceFn σ BoardEntry
  writeFlash : FlashHandler → BoardEntry → CStr → ℕ → ℤ → ℤ → DeviceFn σ ℤ
  verifyFlash : FlashHandler → BoardEntry → CStr → ℕ → DeviceFn σ ℤ
  backupFlash : FlashHandler → BoardEntry → CStr → DeviceFn σ ℤ
  restoreFlash : FlashHandler → BoardEntry → CStr → DeviceFn σ ℤ

/-- A part of the run of `main`. -/
abbrev Session (σ α : Type) : Type := Traced Fault DeviceEvent σ α

section Main

variable {σ : Type}

/-- A function of the board is called. -/
def callBoard (op : DeviceOp) (f : DeviceFn σ ℤ) : Session σ ℤ := do
  let ret ← .lift f
  .emit (.reported .board op ret)
  return ret

/-- A function of `anyio.c` is called. -/
def callAnyio (op : DeviceOp) (x : Session σ ℤ) : Session σ ℤ := do
  let ret ← x
  .emit (.reported .anyio op ret)
  return ret

/-- A function of `anyio.c` that calls a function of the board, if there is one. -/
def viaPointer {α : Type} (op : DeviceOp) (p : Option α) (f : α → DeviceFn σ ℤ) : Session σ ℤ :=
  callAnyio op <|
    match p with
    | none => return einval
    | some g => callBoard op (f g)

/-- A function of `anyio.c` that calls one of `eth_boards.c`, for an Ethernet board. -/
def viaEth (op : DeviceOp) (b : BoardEntry) (f : DeviceFn σ ℤ) : Session σ ℤ :=
  callAnyio op (if b.type = .eth then callBoard op f else return eperm)

/-- The two calls in `anyio_dev_program_fpga`: the second result is dropped. -/
def resetAndProgram (reset programFpga : DeviceFn σ ℤ) : Session σ ℤ := do
  let ret ← callBoard .reset reset
  if ret ≠ 0 then return ret
  else
    let _ ← callBoard .program programFpga
    return 0

/-- What follows a command that was successful, and is asked for. -/
def onSuccess (ret : ℤ) (c : Prop) [Decidable c] (x : Session σ ℤ) : Session σ ℤ :=
  if ret = 0 ∧ c then x else return ret

namespace DeviceFunctions

variable (fns : DeviceFunctions σ) (b : BoardEntry)

/-- `anyio_dev_write_flash`. -/
def anyioDevWriteFlash (name : CStr) (fallbackFlag fixBootFlag sha256CheckFlag : ℤ) :
    Session σ ℤ :=
  viaPointer .write b.llio.writeFlash fun f =>
    fns.writeFlash f b name (flashAddress b.toBoard fallbackFlag) fixBootFlag sha256CheckFlag

/-- `anyio_dev_verify_flash`. -/
def anyioDevVerifyFlash (name : CStr) (fallbackFlag : ℤ) : Session σ ℤ :=
  viaPointer .verify b.llio.verifyFlash fun f =>
    fns.verifyFlash f b name (flashAddress b.toBoard fallbackFlag)

/-- `anyio_dev_backup_flash`. -/
def anyioDevBackupFlash (name : CStr) : Session σ ℤ :=
  viaPointer .backup b.llio.backupFlash fun f => fns.backupFlash f b name

/-- `anyio_dev_restore_flash`. -/
def anyioDevRestoreFlash (name : CStr) : Session σ ℤ :=
  viaPointer .restore b.llio.restoreFlash fun f => fns.restoreFlash f b name

/-- `anyio_dev_program_fpga`. -/
def anyioDevProgramFpga (name : CStr) : Session σ ℤ :=
  callAnyio .program <|
    match b.reset, b.programFpga with
    | none, _ => return einval
    | some _, none => return einval
    | some f, some g => resetAndProgram (fns.reset f b) (fns.programFpga g b name)

/-- `anyio_dev_set_remote_ip`. -/
def anyioDevSetRemoteIp (lbp16SetIpAddr : Option CStr) : Session σ ℤ :=
  viaEth .setRemoteIp b (fns.ethSetRemoteIp lbp16SetIpAddr)

/-- `anyio_dev_set_led_mode`. -/
def anyioDevSetLedMode (lbp16SetLedMode : Option CStr) : Session σ ℤ :=
  viaEth .setLedMode b (fns.ethSetLedMode lbp16SetLedMode)

/-- `anyio_dev_reload`. -/
def anyioDevReload (fallbackFlag : ℤ) : Session σ ℤ :=
  viaPointer .reload b.reload fun f => fns.reload f b fallbackFlag

/-- `anyio_dev_reset`. -/
def anyioDevReset : Session σ ℤ :=
  viaPointer .reset b.reset fun f => fns.reset f b

variable (o : Options)

/-- What `main` does with an open board. -/
def action : Action → Session σ ℤ
  | .board .setRemoteIp => fns.anyioDevSetRemoteIp b o.lbp16SetIpAddr
  | .board .setLedMode => fns.anyioDevSetLedMode b o.lbp16SetLedMode
  | .board a => do
    .emit (.act a)
    .lift (fns.act a o b)
    return 0
  | .file .write name => do
    let ret ← fns.anyioDevWriteFlash b name (o.int .fallback) (o.int .fixBoot)
      (o.int .sha256Check)
    let ret ← onSuccess ret (o.flag .autoVerify ≠ 0)
      (fns.anyioDevVerifyFlash b name (o.int .fallback))
    onSuccess ret (o.flag .reload = 1) (fns.anyioDevReload b (o.int .fallback))
  | .file .verify name => fns.anyioDevVerifyFlash b name (o.int .fallback)
  | .file .backupFlash name => fns.anyioDevBackupFlash b name
  | .file .restoreFlash name => do
    let ret ← fns.anyioDevRestoreFlash b name
    onSuccess ret (o.flag .autoVerify ≠ 0) (fns.anyioDevVerifyFlash b name (o.int .fallback))
  | .file .program name => fns.anyioDevProgramFpga b name
  | .file .info _ => return 0
  | .reload => do
    let _ ← fns.anyioDevReload b (o.int .fallback)
    return 0
  | .reset => do
    let _ ← fns.anyioDevReset b
    return 0
  | .printInfo => do
    let f ← .ofExcept (deref b.printInfo)
    .emit .printInfo
    .lift (fns.printInfo f b)
    return 0

/-- The part of `main` behind `anyio_get_dev`. -/
def onBoard : Session σ ℤ := do
  let f ← .ofExcept (deref b.boardOpen)
  .emit .boardOpen
  let b ← .lift (fns.boardOpen f b)
  let ret ← fns.action b o (boardAction o)
  let f ← .ofExcept (deref b.boardClose)
  .emit .boardClose
  .lift fun s => (.ok (), fns.boardClose f b s)
  return ret

/-- The part of `main` behind the choice of a board. -/
def onDevice : Session σ ℤ := do
  .emit .search
  match ← .lift fns.search with
  | .noAccess => return 1
  | .notFound => return -1
  | .board b => fns.onBoard b o

/-- `main`, and what it returns. -/
def main (args : List CStr) : Session σ ℤ :=
  if args = [] then return 0
  else do
    match ← .ofExcept (processCmdLine args) with
    | .exit status => return status
    | .ret r o =>
      if r = -1 then return -1
      else if o.fileFlag .info = 1 then return 0
      else if o.deviceFlag = 1 then fns.onDevice o
      else return 0

end DeviceFunctions

end Main

/-! ### Runs -/

section Calls

variable {σ : Type} {t t' : Trace DeviceEvent σ} {s : σ} {op : DeviceOp} {f : DeviceFn σ ℤ}
  {x : Session σ ℤ} {e : Fault} {ret : ℤ}

lemma callBoard_of_ok (h : f t.state = (.ok ret, s)) :
    (callBoard op f).run t = (.ok ret, ⟨s, t.events ++ [.reported .board op ret]⟩) :=
  Traced.run_bind_of_ok (Traced.run_lift_of_eq h)

lemma callBoard_of_error (h : f t.state = (.error e, s)) :
    (callBoard op f).run t = (.error e, ⟨s, t.events⟩) :=
  Traced.run_bind_of_error (Traced.run_lift_of_eq h)

lemma callAnyio_of_ok (h : x.run t = (.ok ret, t')) :
    (callAnyio op x).run t = (.ok ret, ⟨t'.state, t'.events ++ [.reported .anyio op ret]⟩) :=
  Traced.run_bind_of_ok h

lemma callAnyio_of_error (h : x.run t = (.error e, t')) : (callAnyio op x).run t = (.error e, t') :=
  Traced.run_bind_of_error h

end Calls

section Runs

variable {σ : Type} {fns : DeviceFunctions σ} {b : BoardEntry} {o : Options}
  {t t' : Trace DeviceEvent σ}

lemma deref_eq_ok {α : Type} {p : Option α} {a : α} : deref p = .ok a ↔ p = some a := by
  cases p <;> simp

/-- The board is opened, and closed when the action has come to its end. -/
lemma run_onBoard_eq_ok {ret : ℤ} : (fns.onBoard b o).run t = (.ok ret, t') ↔
    ∃ f b' s t₁ g, b.boardOpen = some f ∧ fns.boardOpen f b t.state = (.ok b', s) ∧
      (fns.action b' o (boardAction o)).run ⟨s, t.events ++ [.boardOpen]⟩ = (.ok ret, t₁) ∧
      b'.boardClose = some g ∧
      t' = ⟨fns.boardClose g b' t₁.state, t₁.events ++ [.boardClose]⟩ := by
  simp only [DeviceFunctions.onBoard, Traced.run_bind_eq_ok, Traced.run_ofExcept_eq_ok,
    Traced.run_emit_bind, Traced.run_lift_eq_ok, Traced.run_pure, deref_eq_ok]
  constructor
  · rintro ⟨f, _, ⟨hf, rfl⟩, b', _, ⟨s, hopen, rfl⟩, ret', t₁, haction, g, _, ⟨hg, rfl⟩, _, _,
      ⟨_, hclose, rfl⟩, h⟩
    obtain ⟨hret, rfl⟩ := Prod.mk.inj h
    obtain rfl := Except.ok.inj hret
    obtain rfl := (Prod.mk.inj hclose).2
    exact ⟨f, b', s, t₁, g, hf, hopen, haction, hg, rfl⟩
  · rintro ⟨f, b', s, t₁, g, hf, hopen, haction, hg, rfl⟩
    exact ⟨f, t, ⟨hf, rfl⟩, b', _, ⟨s, hopen, rfl⟩, ret, t₁, haction, g, t₁, ⟨hg, rfl⟩, (), _,
      ⟨_, rfl, rfl⟩, rfl⟩

/-- The status without a board is not 0. -/
lemma run_onDevice_eq_zero : (fns.onDevice o).run t = (.ok 0, t') ↔
    ∃ b s, fns.search t.state = (.ok (.board b), s) ∧
      (fns.onBoard b o).run ⟨s, t.events ++ [.search]⟩ = (.ok 0, t') := by
  simp only [DeviceFunctions.onDevice, Traced.run_bind_eq_ok, Traced.run_emit_bind,
    Traced.run_lift_eq_ok]
  constructor
  · rintro ⟨found, _, ⟨s, hsearch, rfl⟩, h⟩
    cases found with
    | noAccess => exact absurd (Except.ok.inj (Prod.mk.inj h).1) (by decide)
    | notFound => exact absurd (Except.ok.inj (Prod.mk.inj h).1) (by decide)
    | board b => exact ⟨b, s, hsearch, h⟩
  · rintro ⟨b, s, hsearch, h⟩
    exact ⟨.board b, _, ⟨s, hsearch, rfl⟩, h⟩

end Runs

/-! ### The way to the board -/

section Selects

variable {args : List CStr} {o : Options} {r : ℤ}

/-- A board is to be found. -/
structure Selects (args : List CStr) (r : ℤ) (o : Options) : Prop where
  parsed : processCmdLine args = .ok (.ret r o)
  goes_on : r ≠ -1
  no_info : o.fileFlag .info ≠ 1
  device : o.deviceFlag = 1

lemma Selects.ne_nil (h : Selects args r o) : args ≠ [] := by
  rintro rfl
  obtain ⟨-, rfl⟩ := Parsed.ret.inj (Except.ok.inj h.parsed)
  exact absurd h.device (by decide)

/-- The action on the board is the one that `main` chooses. -/
lemma Selects.main_eq (h : Selects args r o) :
    main (fun _ => .ok ()) args = .ok (.run (boardAction o)) := by
  rw [main, if_neg h.ne_nil, h.parsed, ok_bind]
  dsimp only
  rw [if_neg h.goes_on, if_neg h.no_info, if_pos h.device]
  rfl

variable {σ : Type} {fns : DeviceFunctions σ}

lemma Selects.main_eq_onDevice (h : Selects args r o) : fns.main args = fns.onDevice o := by
  rw [DeviceFunctions.main, if_neg h.ne_nil, h.parsed, Traced.ofExcept_ok_bind]
  dsimp only
  rw [if_neg h.goes_on, if_neg h.no_info, if_pos h.device]

/-- Without a board, `main` does nothing with the hardware. -/
lemma run_main_of_not_selects (fns : DeviceFunctions σ) (h : ∀ r o, ¬ Selects args r o)
    (t : Trace DeviceEvent σ) : ((fns.main args).run t).2 = t := by
  rw [DeviceFunctions.main]
  split
  · rfl
  · cases hparse : processCmdLine args with
    | error f => rfl
    | ok p =>
        rw [Traced.ofExcept_ok_bind]
        cases p with
        | exit status => rfl
        | ret r o =>
            dsimp only
            split_ifs with hr hinfo hdevice
            · rfl
            · rfl
            · exact absurd ⟨hparse, hr, hinfo, hdevice⟩ (h r o)
            · rfl

end Selects

end Mesaflash
