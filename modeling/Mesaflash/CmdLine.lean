import Mesaflash.Eeprom

/-!
The command line.

`getopt_long` splits the arguments into options, `process_cmd_line` stores them in
global variables, and `main` chooses one action by a fixed order.  `Options` is the
global variables.  Of the board that is searched for, the model knows whether it is
found.

The six options that name a file share one variable for the name, so an action
works on the file that was named last.
-/

namespace Mesaflash

open Lib

/-! ### Options -/

/-- The operations on a file, each with an option that names the file. -/
inductive FileOp where
  | write
  | verify
  | program
  | backupFlash
  | restoreFlash
  | info
deriving DecidableEq, Repr

/-- The options that set a flag. -/
inductive Flag where
  | autoVerify
  | fixBoot
  | sha256Check
  | fallback
  | recover
  | readhmid
  | printPd
  | printLio
  | reload
  | reset
  | sserial
  | epp
  | usb
  | spi
  | serial
  | enableAllMod
  | safeIo
  | xml
  | verbose
deriving DecidableEq, Repr

inductive LongOption where
  | flag (f : Flag)
  | device
  | addr
  | addrHi
  | file (op : FileOp)
  | rpo
  | wpo
  | set
  | dbname (i : Fin 6)
  | help
  | version
deriving DecidableEq, Repr

/-- Whether an option is followed by an argument. -/
def LongOption.hasArg : LongOption → Bool
  | .flag _ => false
  | .help => false
  | .version => false
  | _ => true

/-- `long_options`. -/
def longOptions : List (CStr × LongOption) := [
  (ascii "device", .device),
  (ascii "addr", .addr),
  (ascii "addr_hi", .addrHi),
  (ascii "write", .file .write),
  (ascii "no-auto-verify", .flag .autoVerify),
  (ascii "fix-boot-block", .flag .fixBoot),
  (ascii "verify", .file .verify),
  (ascii "backup-flash", .file .backupFlash),
  (ascii "restore-flash", .file .restoreFlash),
  (ascii "sha256-check", .flag .sha256Check),
  (ascii "fallback", .flag .fallback),
  (ascii "recover", .flag .recover),
  (ascii "program", .file .program),
  (ascii "readhmid", .flag .readhmid),
  (ascii "print-pd", .flag .printPd),
  (ascii "print-lio", .flag .printLio),
  (ascii "reload", .flag .reload),
  (ascii "reset", .flag .reset),
  (ascii "sserial", .flag .sserial),
  (ascii "epp", .flag .epp),
  (ascii "usb", .flag .usb),
  (ascii "spi", .flag .spi),
  (ascii "serial", .flag .serial),
  (ascii "rpo", .rpo),
  (ascii "wpo", .wpo),
  (ascii "enable-all-mod", .flag .enableAllMod),
  (ascii "safe-io", .flag .safeIo),
  (ascii "set", .set),
  (ascii "xml", .flag .xml),
  (ascii "dbname1", .dbname 0),
  (ascii "dbname2", .dbname 1),
  (ascii "dbname3", .dbname 2),
  (ascii "dbname4", .dbname 3),
  (ascii "dbname5", .dbname 4),
  (ascii "dbname6", .dbname 5),
  (ascii "info", .file .info),
  (ascii "help", .help),
  (ascii "verbose", .flag .verbose),
  (ascii "version", .version)]

/-- What a call of `getopt_long` returns, but for the end of the options. -/
inductive OptEvent where
  /-- An option and its argument, which is empty for an option without one. -/
  | opt (o : LongOption) (optarg : CStr)
  /-- An unknown or ambiguous option, a missing argument or one too many. -/
  | bad
deriving DecidableEq, Repr

/-- The option of a name, which may be abbreviated as long as it is unique. -/
def findOption (name : CStr) : Option LongOption :=
  match longOptions.find? (·.1 = name) with
  | some entry => some entry.2
  | none =>
    match longOptions.filter (fun entry => name.isPrefixOf entry.1) with
    | [entry] => some entry.2
    | _ => none

/-- The results of `getopt_long`, called until it finds an error or the end.  There are
no short options; other arguments are left for later. -/
def getoptLong : List CStr → List OptEvent
  | [] => []
  | arg :: args =>
    if arg = ascii "--" then []
    else if (ascii "--").isPrefixOf arg then
      let text := arg.drop 2
      match findOption (text.takeWhile (· != 61)) with
      | none => [.bad]
      | some o =>
        match text.dropWhile (· != 61), o.hasArg with
        | _ :: value, true => .opt o value :: getoptLong args
        | _ :: _, false => [.bad]
        | [], false => .opt o [] :: getoptLong args
        | [], true =>
          match args with
          | [] => [.bad]
          | value :: args => .opt o value :: getoptLong args
    else if (ascii "-").isPrefixOf arg ∧ arg ≠ ascii "-" then [.bad]
    else getoptLong args

/-! ### Numbers and names in arguments -/

/-- `strtol` in base 10 or 16, where `long` has 64 bits. -/
def strtol (base : ℕ) (s : CStr) : ℤ :=
  let t := s.dropWhile isSpace
  let (negative, t) := match t with
    | 43 :: t => (false, t)
    | 45 :: t => (true, t)
    | t => (false, t)
  let t := match t with
    | 48 :: c :: d :: u =>
      if base = 16 ∧ (c = 120 ∨ c = 88) ∧ (hexDigit d).isSome then d :: u else 48 :: c :: d :: u
    | t => t
  let digit := fun c => (hexDigit c).filter (·.toNat < base)
  let n : ℤ := (t.takeWhile fun c => (digit c).isSome).foldl
    (fun n c => base * n + ((digit c).getD 0).toNat) 0
  max (-2 ^ 63) (min (2 ^ 63 - 1) (if negative then -n else n))

/-- A number in an argument, hexadecimal behind `0x`. -/
def number (s : CStr) : ℤ :=
  if (ascii "0x").isPrefixOf s then strtol 16 (ascii "00" ++ s.drop 2) else strtol 10 s

def toUpper (c : UInt8) : UInt8 := if 97 ≤ c ∧ c ≤ 122 then c - 32 else c

/-- The names in `bob_names`; the value of a name is its place in the table. -/
def bobNames : List CStr := [
  ascii "7I76", ascii "7I77", ascii "7I94_0", ascii "7I94_1", ascii "7I95_0", ascii "7I95_1",
  ascii "7I96_0", ascii "7I96_1", ascii "7I96_2", ascii "7I97_0", ascii "7I97_1", ascii "7I97_2",
  ascii "7C80_0", ascii "7C80_1", ascii "7C81_0", ascii "7C81_1", ascii "7C81_2", ascii "7I74",
  ascii "7I78", ascii "7I85", ascii "7I85S", ascii "7I88", ascii "7I89", ascii "DMM4250",
  ascii "5ABOB", ascii "G540", ascii "C11", ascii "C11G", ascii "7I33TA", ascii "7I37TA",
  ascii "7I44", ascii "7I47", ascii "7I47S", ascii "7I48", ascii "7I52", ascii "7I52S",
  ascii "MX3660", ascii "MX4660-1", ascii "MX4660-2", ascii "7I75", ascii "BENEZAN",
  ascii "HDR26"]

/-- `hm2_find_bob_hint_by_name`. -/
def hm2FindBobHintByName (name : CStr) : ℕ :=
  match bobNames.findIdx? (fun bob => bob.map toUpper = name.map toUpper) with
  | some i => i + 1
  | none => 0

/-! ### process_cmd_line -/

/-- The global variables that the options set. -/
structure Options where
  deviceFlag : ℕ
  addrFlag : ℕ
  addrHiFlag : ℕ
  /-- `write_flag`, `verify_flag` and so on. -/
  fileFlag : FileOp → ℕ
  /-- The variables of the options without an argument. -/
  flag : Flag → ℕ
  rpoFlag : ℕ
  wpoFlag : ℕ
  setFlag : ℕ
  ipaddrFlag : ℕ
  ledmodeFlag : ℕ
  rpoAddr : ℕ
  wpoAddr : ℕ
  wpoData : ℕ
  lbp16SetIpAddr : Option CStr
  lbp16SetLedMode : Option CStr
  bitfileName : CStr
  bobHints : Fin 6 → ℕ
  /-- `access.device_name`, `access.dev_addr` and `access.dev_hi_addr`. -/
  deviceName : Option CStr
  devAddr : Option CStr
  devHiAddr : Option CStr
  /-- `access.type`. -/
  accessType : ℕ

/-- The initial values: automatic verification is on. -/
def Options.start : Options where
  deviceFlag := 0
  addrFlag := 0
  addrHiFlag := 0
  fileFlag _ := 0
  flag f := if f = .autoVerify then 1 else 0
  rpoFlag := 0
  wpoFlag := 0
  setFlag := 0
  ipaddrFlag := 0
  ledmodeFlag := 0
  rpoAddr := 0
  wpoAddr := 0
  wpoData := 0
  lbp16SetIpAddr := none
  lbp16SetLedMode := none
  bitfileName := []
  bobHints _ := 0
  deviceName := none
  devAddr := none
  devHiAddr := none
  accessType := 0

/-- What an option without an argument sets its variable to. -/
def Flag.value (f : Flag) : ℕ := if f = .autoVerify then 0 else 1

/-- How `process_cmd_line` ends: it returns, or the program exits. -/
inductive Parsed where
  | ret (r : ℤ) (o : Options)
  | exit (status : ℤ)

/-- `sizeof (bitfile_name)`. -/
def bitfileNameSize : ℕ := 255

/-- An option that may be given once. -/
def once (flag : ℕ) : Except (Stop Parsed) Unit := exitIf (0 < flag) (.exit (-1))

/-- An option that names a file. -/
def fileOption (op : FileOp) (optarg : CStr) (o : Options) : Except (Stop Parsed) Options := do
  once (o.fileFlag op)
  exitIf (bitfileNameSize < optarg.length + 1) (.ret 1 o)
  return { o with
    bitfileName := optarg
    fileFlag := Function.update o.fileFlag op (o.fileFlag op + 1) }

/-- `--rpo`. -/
def rpoOption (optarg : CStr) (o : Options) : Except (Stop Parsed) Options := do
  once o.rpoFlag
  return { o with rpoAddr := (number optarg % 2 ^ 16).toNat, rpoFlag := o.rpoFlag + 1 }

/-- `--wpo`, whose two numbers are used without a look at whether they are there. -/
def wpoOption (optarg : CStr) (o : Options) : Except (Stop Parsed) Options := do
  once o.wpoFlag
  match strtok 61 optarg with
  | none => .error (.fault (.undefined .nullToken))
  | some (addr, rest) =>
    match strtok 61 rest with
    | none => .error (.fault (.undefined .nullToken))
    | some (data, _) =>
      return { o with
        wpoAddr := (number addr % 2 ^ 16).toNat
        wpoData := (number data % 2 ^ 32).toNat
        wpoFlag := o.wpoFlag + 1 }

/-- `--set`. -/
def setOption (optarg : CStr) (o : Options) : Except (Stop Parsed) Options := do
  once o.setFlag
  let value := (strtok 61 optarg).bind fun t => (strtok 61 t.2).map (·.1)
  if (ascii "ip=").isPrefixOf optarg then
    return { o with lbp16SetIpAddr := value, ipaddrFlag := 1, setFlag := o.setFlag + 1 }
  else if (ascii "ledmode=").isPrefixOf optarg then
    return { o with lbp16SetLedMode := value, ledmodeFlag := 1, setFlag := o.setFlag + 1 }
  else .error (.ret (.exit (-1)))

/-- The body of the loop over the options. -/
def processOption (o : Options) : OptEvent → Except (Stop Parsed) Options
  | .bad => .error (.ret (.ret (-1) o))
  | .opt (.flag f) _ => return { o with flag := Function.update o.flag f f.value }
  | .opt .device optarg => do
    once o.deviceFlag
    return { o with deviceName := some (optarg.map toUpper), deviceFlag := o.deviceFlag + 1 }
  | .opt .addr optarg => do
    once o.addrFlag
    return { o with devAddr := some optarg, addrFlag := o.addrFlag + 1 }
  | .opt .addrHi optarg => do
    once o.addrHiFlag
    return { o with devHiAddr := some optarg, addrHiFlag := o.addrHiFlag + 1 }
  | .opt (.file op) optarg => fileOption op optarg o
  | .opt .rpo optarg => rpoOption optarg o
  | .opt .wpo optarg => wpoOption optarg o
  | .opt .set optarg => setOption optarg o
  | .opt (.dbname i) optarg => do
    exitIf (hm2FindBobHintByName optarg = 0) (.exit (-1))
    return { o with bobHints := Function.update o.bobHints i (hm2FindBobHintByName optarg) }
  | .opt .help _ => .error (.ret (.exit 0))
  | .opt .version _ => .error (.ret (.exit 0))

/-- The value of `access.type` at the end. -/
def accessType (o : Options) : ℕ :=
  match o.flag .epp, o.flag .usb, o.flag .spi, o.flag .serial with
  | 1, 0, 0, 0 => 2 ^ 3
  | 0, 1, 0, 0 => 2 ^ 4
  | 0, 0, 1, 0 => 2 ^ 5
  | 0, 0, 0, 1 => 2 ^ 6
  | _, _, _, _ => 0

/-- `process_cmd_line`. -/
def processCmdLine (args : List CStr) : Except Fault Parsed := body do
  let o ← (getoptLong args).foldlM processOption .start
  return .ret 0 { o with accessType := accessType o }

/-! ### main -/

/-- The actions on an open board that `main` prefers to those on a file. -/
inductive BoardAction where
  | readhmid
  | printPd
  | printLio
  | sserial
  | rpo
  | wpo
  | setRemoteIp
  | setLedMode
  | enableAllMod
  | safeIo
deriving DecidableEq, Repr

/-- The variable that an action depends on. -/
def Options.boardFlag (o : Options) : BoardAction → ℕ
  | .readhmid => o.flag .readhmid
  | .printPd => o.flag .printPd
  | .printLio => o.flag .printLio
  | .sserial => o.flag .sserial
  | .rpo => o.rpoFlag
  | .wpo => o.wpoFlag
  | .setRemoteIp => o.ipaddrFlag
  | .setLedMode => o.ledmodeFlag
  | .enableAllMod => o.flag .enableAllMod
  | .safeIo => o.flag .safeIo

/-- The actions in the order in which `main` asks for them. -/
def boardActions : List BoardAction :=
  [.readhmid, .printPd, .printLio, .sserial, .rpo, .wpo, .setRemoteIp, .setLedMode,
    .enableAllMod, .safeIo]

/-- The operations on an open board and a file, in the order in which `main` asks for
them. -/
def fileOps : List FileOp := [.write, .verify, .backupFlash, .restoreFlash, .program]

inductive Action where
  | board (a : BoardAction)
  | file (op : FileOp) (name : CStr)
  | reload
  | reset
  | printInfo
deriving DecidableEq, Repr

/-- What `main` does with an open board. -/
def boardAction (o : Options) : Action :=
  match boardActions.find? (o.boardFlag · = 1) with
  | some a => .board a
  | none =>
    match fileOps.find? (o.fileFlag · = 1) with
    | some op => .file op o.bitfileName
    | none =>
      if o.flag .reload = 1 then .reload
      else if o.flag .reset = 1 then .reset
      else .printInfo

inductive MainEnd where
  /-- The program ends before it does anything. -/
  | exit (status : ℤ)
  | run (a : Action)
deriving DecidableEq, Repr

/-- `main`, where `findDev` fails with the exit status when there is no such board. -/
def main (findDev : Options → Except ℤ Unit) (args : List CStr) : Except Fault MainEnd :=
  if args = [] then .ok (.exit 0)
  else do
    match ← processCmdLine args with
    | .exit status => return .exit status
    | .ret r o =>
      if r = -1 then return .exit (-1)
      else if o.fileFlag .info = 1 then return .run (.file .info o.bitfileName)
      else if o.deviceFlag = 1 then
        match findDev o with
        | .error status => return .exit status
        | .ok () => return .run (boardAction o)
      else return .exit 0

example : main (fun _ => .ok ()) [ascii "--device", ascii "7i98", ascii "--ver=a.bit"] =
    .ok (.exit (-1)) := by decide +kernel

example : main (fun _ => .ok ()) [ascii "--device", ascii "7i98", ascii "--veri=a.bit"] =
    .ok (.run (.file .verify (ascii "a.bit"))) := by decide +kernel

end Mesaflash
