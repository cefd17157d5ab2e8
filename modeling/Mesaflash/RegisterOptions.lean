import Mesaflash.Numeral
import Mesaflash.SserialAccess

/-!
Registers on the command line.

`--rpo` names a register that `main` reads, and `--wpo` one that it writes and the value.  The
arguments go through `strtol` and `strtok`, whose results are used as they are, and then into
variables of 16 and 32 bits.  So what is not a number names a register all the same, and how a
large value is written depends on the size of a `long`.
-/

namespace Mesaflash

open Lib

/-! ### The options -/

section Options

variable (size : LongSize)

/-- A number in an argument, hexadecimal behind `0x`. -/
def numberOn (s : CStr) : ℤ :=
  if (ascii "0x").isPrefixOf s then strtolOn size 16 (ascii "00" ++ s.drop 2)
  else strtolOn size 10 s

/-- `--rpo`. -/
def rpoOptionOn (optarg : CStr) (o : Options) : Except (Stop Parsed) Options := do
  once o.rpoFlag
  return { o with rpoAddr := (numberOn size optarg % 2 ^ 16).toNat, rpoFlag := o.rpoFlag + 1 }

/-- `--wpo`, whose two numbers are used without a look at whether they are there. -/
def wpoOptionOn (optarg : CStr) (o : Options) : Except (Stop Parsed) Options := do
  once o.wpoFlag
  match strtok 61 optarg with
  | none => .error (.fault (.undefined .nullToken))
  | some (addr, rest) =>
    match strtok 61 rest with
    | none => .error (.fault (.undefined .nullToken))
    | some (data, _) =>
      return { o with
        wpoAddr := (numberOn size addr % 2 ^ 16).toNat
        wpoData := (numberOn size data % 2 ^ 32).toNat
        wpoFlag := o.wpoFlag + 1 }

/-- The body of the loop over the options. -/
def processOptionOn (o : Options) (e : OptEvent) : Except (Stop Parsed) Options :=
  match e with
  | .opt .rpo optarg => rpoOptionOn size optarg o
  | .opt .wpo optarg => wpoOptionOn size optarg o
  | e => processOption o e

/-- `process_cmd_line`. -/
def processCmdLineOn (args : List CStr) : Except Fault Parsed := body do
  let o ← (getoptLong args).foldlM (processOptionOn size) .start
  return .ret 0 { o with accessType := accessType o }

/-- The accesses to registers that `main` makes itself. -/
def directAccesses (o : Options) : List RegisterAccess :=
  match boardAction o with
  | .board .rpo => [.read o.rpoAddr]
  | .board .wpo => [.write o.wpoAddr o.wpoData]
  | _ => []

/-- `main`, with its accesses to registers. -/
def mainOn (findDev : Options → Except ℤ Unit) (args : List CStr) :
    Except Fault (MainEnd × List RegisterAccess) :=
  if args = [] then .ok (.exit 0, [])
  else do
    match ← processCmdLineOn size args with
    | .exit status => return (.exit status, [])
    | .ret r o =>
      if r = -1 then return (.exit (-1), [])
      else if o.fileFlag .info = 1 then return (.run (.file .info o.bitfileName), [])
      else if o.deviceFlag = 1 then
        match findDev o with
        | .error status => return (.exit status, [])
        | .ok () => return (.run (boardAction o), directAccesses o)
      else return (.exit 0, [])

end Options

/-! ### With a `long` of 64 bits -/

lemma numberOn_long64 : numberOn .long64 = number := by
  funext s
  rw [numberOn, number, strtolOn_long64]

lemma processOptionOn_long64 : processOptionOn .long64 = processOption := by
  funext o e
  cases e with
  | bad => rfl
  | opt l optarg =>
      cases l with
      | rpo =>
          change rpoOptionOn .long64 optarg o = rpoOption optarg o
          rw [rpoOptionOn, rpoOption, numberOn_long64]
      | wpo =>
          change wpoOptionOn .long64 optarg o = wpoOption optarg o
          rw [wpoOptionOn, numberOn_long64]
          rfl
      | _ => rfl

lemma processCmdLineOn_long64 : processCmdLineOn .long64 = processCmdLine := by
  funext args
  rw [processCmdLineOn, processOptionOn_long64]
  rfl

/-! ### What the arguments should be -/

/-- A numeral for a number: decimal, or hexadecimal behind `0x`. -/
def Denotes (p : CStr) (n : ℕ) : Prop :=
  (IsNumeral 10 p ∧ numeralValue 10 p = n) ∨
    ∃ q, p = ascii "0x" ++ q ∧ IsNumeral 16 q ∧ numeralValue 16 q = n

/-- A numeral for a register, and one for a value. -/
def Assigns (s : CStr) (a v : ℕ) : Prop :=
  ∃ p q, s = p ++ ascii "=" ++ q ∧ Denotes p a ∧ Denotes q v

section Numerals

variable {size : LongSize} {p : CStr} {n : ℕ}

/-- A numeral is read as its number, if that fits into a `long`. -/
lemma numberOn_of_denotes (h : Denotes p n) : numberOn size p = min size.max n := by
  rcases h with ⟨hp, rfl⟩ | ⟨q, rfl, hq, rfl⟩
  · have hstarts : ¬ (ascii "0x").isPrefixOf p = true := by
      intro hbegins
      have hmem : (120 : UInt8) ∈ p := (List.isPrefixOf_iff_prefix.1 hbegins).subset (by decide)
      exact (le_of_isDigitIn (hp.2 120 hmem)).2.2.2 rfl
    rw [numberOn, if_neg hstarts]
    exact strtolOn_numeral hp
  · have hzero : IsNumeral 16 (48 :: 48 :: q) := by
      refine ⟨List.cons_ne_nil _ _, List.forall_mem_cons.2 ⟨rfl, ?_⟩⟩
      exact List.forall_mem_cons.2 ⟨rfl, hq.2⟩
    have hnumber : strtolOn size 16 (48 :: 48 :: q) = _ := strtolOn_numeral hzero
    rw [numeralValue_zero_cons, numeralValue_zero_cons] at hnumber
    exact hnumber

/-- A numeral is a token. -/
lemma Denotes.token (h : Denotes p n) : p ≠ [] ∧ ∀ c ∈ p, c ≠ 61 := by
  rcases h with ⟨hp, -⟩ | ⟨q, rfl, hq, -⟩
  · exact ⟨hp.1, fun c hc => (le_of_isDigitIn (hp.2 c hc)).2.1⟩
  · refine ⟨List.append_ne_nil_of_left_ne_nil (by decide +kernel) q, fun c hc => ?_⟩
    rcases List.mem_append.1 hc with hc | hc
    · have hall : ∀ c ∈ ascii "0x", c ≠ 61 := by decide +kernel
      exact hall c hc
    · exact (le_of_isDigitIn (hq.2 c hc)).2.1

end Numerals

/-! ### Runs -/

/-- An option with its argument behind it. -/
lemma getoptLong_opt {name : CStr} {o : LongOption} (hne : name ≠ []) (hname : ∀ c ∈ name, c ≠ 61)
    (hfind : findOption name = some o) (harg : o.hasArg = true) (value : CStr) (args : List CStr) :
    getoptLong ((ascii "--" ++ name) :: value :: args) = .opt o value :: getoptLong args := by
  have hpos : ∀ c ∈ name, (c != 61) = true := fun c hc => bne_iff_ne.2 (hname c hc)
  have htake : name.takeWhile (· != 61) = name := List.takeWhile_eq_self_iff.2 hpos
  have hdrop : name.dropWhile (· != 61) = [] := List.dropWhile_eq_nil_iff.2 hpos
  have hend : ascii "--" ++ name ≠ ascii "--" := by simpa using hne
  have hstarts : (ascii "--").isPrefixOf (ascii "--" ++ name) = true :=
    List.isPrefixOf_iff_prefix.2 (List.prefix_append _ _)
  have htext : (ascii "--" ++ name).drop 2 = name := rfl
  rw [getoptLong, if_neg hend, if_pos hstarts]
  simp only [htext, htake, hdrop, hfind, harg]

/-- The command line with a device and one more option. -/
def optionLine (d name s : CStr) : List CStr := [ascii "--device", d, ascii "--" ++ name, s]

/-- The variables after `--device`. -/
def withDevice (d : CStr) : Options :=
  { Options.start with deviceName := some (d.map toUpper), deviceFlag := 1 }

/-- What `main` does on a host, if the device is found. -/
abbrev directRun (size : LongSize) (d name s : CStr) :
    Except Fault (MainEnd × List RegisterAccess) :=
  mainOn size (fun _ => .ok ()) (optionLine d name s)

section Runs

variable (size : LongSize) (d s : CStr)

lemma getoptLong_optionLine {name : CStr} {o : LongOption} (hne : name ≠ [])
    (hname : ∀ c ∈ name, c ≠ 61) (hfind : findOption name = some o) (harg : o.hasArg = true) :
    getoptLong (optionLine d name s) = [.opt .device d, .opt o s] := by
  rw [optionLine]
  change getoptLong ((ascii "--" ++ ascii "device") :: d :: _) = _
  rw [getoptLong_opt (by decide +kernel) (by decide +kernel)
    (show findOption (ascii "device") = some .device by decide +kernel) rfl,
    getoptLong_opt hne hname hfind harg, getoptLong]

lemma processCmdLineOn_optionLine {name : CStr} {e : OptEvent}
    (hargs : getoptLong (optionLine d name s) = [.opt .device d, e]) :
    processCmdLineOn size (optionLine d name s) = body do
      let o ← processOptionOn size (withDevice d) e
      return .ret 0 { o with accessType := accessType o } := by
  have hfold : [OptEvent.opt .device d, e].foldlM (processOptionOn size) .start =
      processOptionOn size (withDevice d) e := by
    change (processOptionOn size (withDevice d) e >>= pure) = _
    exact bind_pure _
  rw [processCmdLineOn, hargs, hfold]

variable {size d s} {name : CStr} {e : OptEvent}
  (hargs : getoptLong (optionLine d name s) = [.opt .device d, e])

include hargs

/-- The second option is accepted. -/
lemma directRun_of_ok {o : Options} (hoption : processOptionOn size (withDevice d) e = .ok o)
    (hinfo : o.fileFlag .info = 0) (hdevice : o.deviceFlag = 1) :
    directRun size d name s = .ok (.run (boardAction o), directAccesses o) := by
  have hne : optionLine d name s ≠ [] := List.cons_ne_nil _ _
  have hparsed : processCmdLineOn size (optionLine d name s) =
      .ok (.ret 0 { o with accessType := accessType o }) := by
    rw [processCmdLineOn_optionLine size d s hargs, hoption]
    rfl
  rw [directRun, mainOn, if_neg hne, hparsed, ok_bind]
  simp only [hinfo, hdevice]
  rfl

/-- The second option does something undefined. -/
lemma directRun_of_fault {f : Fault}
    (hoption : processOptionOn size (withDevice d) e = .error (.fault f)) :
    directRun size d name s = .error f := by
  have hne : optionLine d name s ≠ [] := List.cons_ne_nil _ _
  rw [directRun, mainOn, if_neg hne, processCmdLineOn_optionLine size d s hargs, hoption]
  rfl

end Runs

section Accesses

variable (size : LongSize) (d s : CStr)

lemma getoptLong_rpo : getoptLong (optionLine d (ascii "rpo") s) = [.opt .device d, .opt .rpo s] :=
  getoptLong_optionLine d s (by decide +kernel) (by decide +kernel) (by decide +kernel) rfl

lemma getoptLong_wpo : getoptLong (optionLine d (ascii "wpo") s) = [.opt .device d, .opt .wpo s] :=
  getoptLong_optionLine d s (by decide +kernel) (by decide +kernel) (by decide +kernel) rfl

/-- Whatever the argument is, a register is read. -/
lemma directRun_rpo : directRun size d (ascii "rpo") s =
    .ok (.run (.board .rpo), [.read (numberOn size s % 2 ^ 16).toNat]) :=
  directRun_of_ok (getoptLong_rpo d s) (show _ = Except.ok _ from rfl) rfl rfl

variable {s}

/-- What `strtok` finds is written, whatever it is. -/
lemma directRun_wpo {addr data rest rest' : CStr} (haddr : strtok 61 s = some (addr, rest))
    (hdata : strtok 61 rest = some (data, rest')) :
    directRun size d (ascii "wpo") s = .ok (.run (.board .wpo),
      [.write (numberOn size addr % 2 ^ 16).toNat (numberOn size data % 2 ^ 32).toNat]) := by
  have hoption : processOptionOn size (withDevice d) (.opt .wpo s) =
      .ok { withDevice d with
        wpoAddr := (numberOn size addr % 2 ^ 16).toNat
        wpoData := (numberOn size data % 2 ^ 32).toNat
        wpoFlag := 1 } := by
    change wpoOptionOn size s (withDevice d) = _
    rw [wpoOptionOn, haddr]
    simp only [hdata]
    rfl
  exact directRun_of_ok (getoptLong_wpo d s) hoption rfl rfl

/-- Without both parts a null pointer is compared with `0x`. -/
lemma directRun_wpo_missing (h : (strtok 61 s).bind (fun t => strtok 61 t.2) = none) :
    directRun size d (ascii "wpo") s = .error (.undefined .nullToken) := by
  refine directRun_of_fault (getoptLong_wpo d s) ?_
  change wpoOptionOn size s (withDevice d) = _
  rw [wpoOptionOn]
  rcases haddr : strtok 61 s with _ | ⟨addr, rest⟩
  · rfl
  · rw [haddr, Option.bind_some] at h
    simp only [h]
    rfl

end Accesses

/-! ### When the options are exact -/

/-- The program ends with a status before it accesses a register. -/
def Rejects (r : Except Fault (MainEnd × List RegisterAccess)) : Prop :=
  ∃ status, r = .ok (.exit status, [])

/-- `--rpo` reads the register that its argument is a numeral for, or is rejected. -/
def RpoExact (size : LongSize) (d s : CStr) : Prop :=
  (∃ a, Denotes s a ∧ a < 2 ^ 16 ∧
    directRun size d (ascii "rpo") s = .ok (.run (.board .rpo), [.read a])) ∨
  Rejects (directRun size d (ascii "rpo") s)

/-- `--wpo` writes the value that its argument assigns, or is rejected. -/
def WpoExact (size : LongSize) (d s : CStr) : Prop :=
  (∃ a v, Assigns s a v ∧ a < 2 ^ 16 ∧ v < 2 ^ 32 ∧
    directRun size d (ascii "wpo") s = .ok (.run (.board .wpo), [.write a v])) ∨
  Rejects (directRun size d (ascii "wpo") s)

section Exact

variable {size : LongSize} {d s p : CStr} {n a v : ℕ}

/-- A register that fits into 16 bits. -/
lemma register_of_denotes (h : Denotes p n) (hn : n < 2 ^ 16) :
    (numberOn size p % 2 ^ 16).toNat = n := by
  rw [numberOn_of_denotes h]
  cases size with
  | long32 =>
      simp only [LongSize.max]
      omega
  | long64 =>
      simp only [LongSize.max]
      omega

/-- A value that fits into 32 bits, but not into a `long`, is not the one that is written. -/
lemma value_of_denotes (h : Denotes p n) (hn : n < 2 ^ 32) :
    (numberOn size p % 2 ^ 32).toNat = n ↔ (size = .long32 → n < 2 ^ 31) := by
  rw [numberOn_of_denotes h]
  cases size with
  | long32 =>
      simp only [LongSize.max, true_implies]
      omega
  | long64 =>
      simp only [LongSize.max, reduceCtorEq, false_implies, iff_true]
      omega

lemma rpoExact_iff : RpoExact size d s ↔ ∃ a, Denotes s a ∧ a < 2 ^ 16 := by
  rw [RpoExact, directRun_rpo]
  constructor
  · rintro (⟨a, hs, ha, -⟩ | ⟨status, h⟩)
    · exact ⟨a, hs, ha⟩
    · exact nomatch (Prod.mk.inj (Except.ok.inj h)).1
  · rintro ⟨a, hs, ha⟩
    exact .inl ⟨a, hs, ha, by rw [register_of_denotes hs ha]⟩

/-- The first token of an assignment. -/
lemma strtok_assigns (hp : Denotes p a) (q : CStr) :
    strtok 61 (p ++ ascii "=" ++ q) = some (p, q) := by
  rw [List.append_assoc]
  exact strtok_append hp.token.1 hp.token.2 q

/-- What is written for an assignment. -/
lemma directRun_assigns {q : CStr} (hp : Denotes p a) (hq : Denotes q v) (ha : a < 2 ^ 16) :
    directRun size d (ascii "wpo") (p ++ ascii "=" ++ q) =
      .ok (.run (.board .wpo), [.write a (numberOn size q % 2 ^ 32).toNat]) := by
  have haddr : strtok 61 (p ++ ascii "=" ++ q) = some (p, q) := strtok_assigns hp q
  have hdata : strtok 61 q = some (q, []) := strtok_last hq.token.1 hq.token.2
  rw [directRun_wpo size d haddr hdata, register_of_denotes hp ha]

/-- The option is never rejected. -/
lemma not_rejects_wpo : ¬ Rejects (directRun size d (ascii "wpo") s) := by
  rintro ⟨status, h⟩
  rcases haddr : strtok 61 s with _ | ⟨addr, rest⟩
  · rw [directRun_wpo_missing size d (by rw [haddr]; rfl)] at h
    exact nomatch h
  · rcases hdata : strtok 61 rest with _ | ⟨data, rest'⟩
    · rw [directRun_wpo_missing size d (by rw [haddr]; exact hdata)] at h
      exact nomatch h
    · rw [directRun_wpo size d haddr hdata] at h
      exact nomatch (Prod.mk.inj (Except.ok.inj h)).1

lemma wpoExact_iff : WpoExact size d s ↔
    ∃ a v, Assigns s a v ∧ a < 2 ^ 16 ∧ v < 2 ^ 32 ∧ (size = .long32 → v < 2 ^ 31) := by
  constructor
  · rintro (⟨a, v, ⟨p, q, rfl, hp, hq⟩, ha, hv, hrun⟩ | h)
    · rw [directRun_assigns hp hq ha] at hrun
      have hvalue : (numberOn size q % 2 ^ 32).toNat = v :=
        (RegisterAccess.write.inj (List.cons.inj (Prod.mk.inj (Except.ok.inj hrun)).2).1).2
      exact ⟨a, v, ⟨p, q, rfl, hp, hq⟩, ha, hv, (value_of_denotes hq hv).1 hvalue⟩
    · exact absurd h not_rejects_wpo
  · rintro ⟨a, v, ⟨p, q, rfl, hp, hq⟩, ha, hv, hfits⟩
    refine .inl ⟨a, v, ⟨p, q, rfl, hp, hq⟩, ha, hv, ?_⟩
    rw [directRun_assigns hp hq ha, (value_of_denotes hq hv).2 hfits]

end Exact

/-- **The options for registers are exact only for numerals that fit**: nothing else is
rejected, and a value has to fit into a `long`. -/
theorem registerOptions_exact_iff (size : LongSize) (d s : CStr) :
    (WpoExact size d s ↔
      ∃ a v, Assigns s a v ∧ a < 2 ^ 16 ∧ v < 2 ^ 32 ∧ (size = .long32 → v < 2 ^ 31)) ∧
    (RpoExact size d s ↔ ∃ a, Denotes s a ∧ a < 2 ^ 16) :=
  ⟨wpoExact_iff, rpoExact_iff⟩

example : numberOn .long32 (ascii "0xFFFFFFFF") = 0x7FFFFFFF := by decide

/-! ### Arguments that are not numerals -/

/-- How a numeral starts. -/
lemma Denotes.isNumeral_or {p : CStr} {n : ℕ} (h : Denotes p n) :
    IsNumeral 10 p ∨ (ascii "0x").isPrefixOf p = true := by
  rcases h with ⟨hp, -⟩ | ⟨q, rfl, -, -⟩
  · exact .inl hp
  · exact .inr (List.isPrefixOf_iff_prefix.2 (List.prefix_append _ _))

/-- The parts of an assignment are the tokens. -/
lemma Assigns.tokens {s : CStr} {a v : ℕ} (h : Assigns s a v) :
    ∃ p q, strtok 61 s = some (p, q) ∧ Denotes p a ∧ Denotes q v := by
  obtain ⟨p, q, rfl, hp, hq⟩ := h
  exact ⟨p, q, strtok_assigns hp q, hp, hq⟩

/-- A word reads register 0, and a value with something behind it is written. -/
theorem registerOptions_notExact :
    (directRun .long64 (ascii "7i92") (ascii "rpo") (ascii "abc") =
        .ok (.run (.board .rpo), [.read 0]) ∧
      ¬ RpoExact .long64 (ascii "7i92") (ascii "abc")) ∧
    directRun .long64 (ascii "7i92") (ascii "wpo") (ascii "16=12x") =
        .ok (.run (.board .wpo), [.write 16 12]) ∧
      ¬ WpoExact .long64 (ascii "7i92") (ascii "16=12x") := by
  have hword : ¬ (IsNumeral 10 (ascii "abc") ∨ (ascii "0x").isPrefixOf (ascii "abc") = true) := by
    decide +kernel
  have hbehind : ¬ (IsNumeral 10 (ascii "12x") ∨ (ascii "0x").isPrefixOf (ascii "12x") = true) := by
    decide +kernel
  have htokens : strtok 61 (ascii "16=12x") = some (ascii "16", ascii "12x") := by decide +kernel
  have hlast : strtok 61 (ascii "12x") = some (ascii "12x", []) := by decide +kernel
  have hread : (numberOn .long64 (ascii "abc") % 2 ^ 16).toNat = 0 := by decide +kernel
  have haddr : (numberOn .long64 (ascii "16") % 2 ^ 16).toNat = 16 := by decide +kernel
  have hdata : (numberOn .long64 (ascii "12x") % 2 ^ 32).toNat = 12 := by decide +kernel
  refine ⟨⟨by rw [directRun_rpo, hread], fun h => ?_⟩,
    by rw [directRun_wpo _ _ htokens hlast, haddr, hdata], fun h => ?_⟩
  · obtain ⟨a, ha, -⟩ := rpoExact_iff.1 h
    exact hword ha.isNumeral_or
  · obtain ⟨a, v, hs, -⟩ := wpoExact_iff.1 h
    obtain ⟨p, q, hpq, -, hq⟩ := hs.tokens
    obtain ⟨rfl, rfl⟩ := Prod.mk.inj (Option.some.inj (htokens.symm.trans hpq))
    exact hbehind hq.isNumeral_or

end Mesaflash
