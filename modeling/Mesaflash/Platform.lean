import Mesaflash.Lib.Stdio
import Mathlib.Algebra.Group.Int.Defs
import Mathlib.Algebra.Group.Nat.Defs

/-!
What the program runs on: outcomes of a run, C arithmetic, files, and the
SHA-256 library.

Text written to the standard output and the times shown with it are not part of
the model.
-/

namespace Mesaflash

open Lib

/-- What an operation without defined behaviour does wrong. -/
inductive Undefined where
  /-- More bytes are asked for than the buffer holds. -/
  | bufferOverflow
  /-- A string is read beyond the bytes that were stored. -/
  | stringOverread
  /-- A string is copied into a buffer that is too small for it. -/
  | partNameOverflow
  /-- The pointer of an absent token is used. -/
  | nullToken
  /-- The element before the first one is used. -/
  | indexUnderflow
  /-- A null pointer is used. -/
  | nullPointer
  /-- The value of an uninitialised object decides the result. -/
  | indeterminate
  /-- An element behind the last one is used. -/
  | outOfBounds
  /-- A null pointer is printed as a string. -/
  | nullString
  /-- A number is shifted by its width or more. -/
  | oversizedShift
deriving DecidableEq, Repr

/-- How a run can fail to return. -/
inductive Fault where
  | undefined (cause : Undefined)
  /-- A loop or a blocking call that never ends. -/
  | hang
  /-- A call of `abort`. -/
  | abort
deriving DecidableEq, Repr

/-- How the body of a function can end early: by `return` or by a fault. -/
inductive Stop (ρ : Type) where
  | ret (r : ρ)
  | fault (f : Fault)

variable {α ρ : Type}

/-- `if (c) return r;`. -/
def exitIf (c : Prop) [Decidable c] (r : ρ) : Except (Stop ρ) Unit :=
  if c then .error (.ret r) else .ok ()

/-- The value that a call delivered, or `return r` where it delivered none. -/
def orExit (o : Option α) (r : ρ) : Except (Stop ρ) α :=
  match o with
  | some a => .ok a
  | none => .error (.ret r)

/-- A call inside the body of another function. -/
def call (x : Except Fault α) : Except (Stop ρ) α :=
  match x with
  | .ok a => .ok a
  | .error f => .error (.fault f)

/-- The outcome of a function with the given body. -/
def body (x : Except (Stop ρ) ρ) : Except Fault ρ :=
  match x with
  | .ok r => .ok r
  | .error (.ret r) => .ok r
  | .error (.fault f) => .error f

@[simp] lemma call_ok (a : α) : call (.ok a : Except Fault α) = (.ok a : Except (Stop ρ) α) := rfl

@[simp] lemma call_error (f : Fault) :
    call (.error f : Except Fault α) = (.error (.fault f) : Except (Stop ρ) α) := rfl

@[simp] lemma body_ok (r : ρ) : body (.ok r) = .ok r := rfl

@[simp] lemma body_ret (r : ρ) : body (.error (.ret r)) = .ok r := rfl

@[simp] lemma body_fault (f : Fault) :
    body (.error (.fault f) : Except (Stop ρ) ρ) = .error f := rfl

@[simp] lemma orExit_some (a : α) (r : ρ) : orExit (some a) r = .ok a := rfl

@[simp] lemma orExit_none (r : ρ) : orExit (none : Option α) r = .error (.ret r) := rfl

lemma exitIf_pos {c : Prop} [Decidable c] (h : c) (r : ρ) : exitIf c r = .error (.ret r) :=
  if_pos h

lemma exitIf_neg {c : Prop} [Decidable c] (h : ¬ c) (r : ρ) : exitIf c r = .ok () := if_neg h

lemma exitIf_eq_ok {c : Prop} [Decidable c] {r : ρ} {u : Unit} : exitIf c r = .ok u ↔ ¬ c := by
  unfold exitIf
  split <;> simp [*]

lemma orExit_eq_ok {o : Option α} {r : ρ} {a : α} : orExit o r = .ok a ↔ o = some a := by
  cases o <;> simp

lemma call_eq_ok {x : Except Fault α} {a : α} :
    (call x : Except (Stop ρ) α) = .ok a ↔ x = .ok a := by
  cases x <;> simp

lemma call_ne_ret {x : Except Fault α} {r : ρ} : call x ≠ .error (.ret r) := by
  cases x <;> simp

/-- A function returns where its body ends or returns early. -/
lemma body_eq_ok {x : Except (Stop ρ) ρ} {r : ρ} :
    body x = .ok r ↔ x = .ok r ∨ x = .error (.ret r) := by
  rcases x with (r' | f) | r' <;> simp

/-- Every early return of a body satisfies `P`. -/
def EarlyRet (P : ρ → Prop) (x : Except (Stop ρ) α) : Prop := ∀ r, x = .error (.ret r) → P r

namespace EarlyRet

variable {β : Type} {P : ρ → Prop}

lemma ok (a : α) : EarlyRet P (.ok a) := fun r h => by simp at h

lemma ret {r : ρ} (h : P r) : EarlyRet P (.error (.ret r) : Except (Stop ρ) α) := fun r' h' => by
  obtain rfl : r = r' := by simpa using h'
  exact h

lemma exitIf {c : Prop} [Decidable c] {r : ρ} (h : c → P r) : EarlyRet P (exitIf c r) := by
  unfold Mesaflash.exitIf
  split
  · exact ret (h ‹_›)
  · exact ok ()

lemma orExit {o : Option α} {r : ρ} (h : P r) : EarlyRet P (orExit o r) := by
  cases o
  · exact ret h
  · exact ok _

lemma call (x : Except Fault α) : EarlyRet P (Mesaflash.call x) := fun _ h =>
  absurd h call_ne_ret

lemma bind {x : Except (Stop ρ) α} {f : α → Except (Stop ρ) β} (hx : EarlyRet P x)
    (hf : ∀ a, x = .ok a → EarlyRet P (f a)) : EarlyRet P (x >>= f) := by
  rcases x with s | a
  · exact fun r h => hx r (by simpa using h)
  · exact fun r h => hf a rfl r h

/-- A result that no early return has comes from the end of the body. -/
lemma eq_ok {x : Except (Stop ρ) ρ} (hx : EarlyRet P x) {r : ρ} (hr : ¬ P r) :
    body x = .ok r ↔ x = .ok r := by
  rw [body_eq_ok]
  exact ⟨fun h => h.resolve_right fun hret => hr (hx r hret), .inl⟩

/-- What holds of every early return and of the result at the end holds of every
result. -/
lemma body {x : Except (Stop ρ) ρ} (hx : EarlyRet P x) (hend : ∀ r, x = .ok r → P r) {r : ρ}
    (h : body x = .ok r) : P r :=
  (body_eq_ok.1 h).elim (hend r) (hx r)

end EarlyRet

/-- An early return satisfies `Q`. -/
def Returns (Q : ρ → Prop) : Stop ρ → Prop
  | .ret r => Q r
  | .fault _ => True

/-- A property of the results of a function, which may also fault. -/
abbrev Delivers (P : α → Prop) (x : Except Fault α) : Prop := Yields P (fun _ => True) x

section Delivers

variable {P : α → Prop} {Q : ρ → Prop}

lemma yields_call {x : Except Fault α} (h : Delivers P x) : Yields P (Returns Q) (call x) := by
  cases h with
  | ok h => exact .ok h
  | error _ => exact .error trivial

lemma yields_exitIf {c : Prop} [Decidable c] {r : ρ} (h : c → Q r) :
    Yields (fun _ => ¬ c) (Returns Q) (exitIf c r) := by
  unfold exitIf
  split
  · exact .error (h ‹_›)
  · exact .ok ‹_›

lemma yields_orExit {o : Option α} {r : ρ} (h : Q r) :
    Yields (fun a => o = some a) (Returns Q) (orExit o r) := by
  cases o with
  | none => exact .error h
  | some a => exact .ok rfl

/-- A function delivers what all of its returns deliver. -/
lemma delivers_body {x : Except (Stop ρ) ρ} (h : Yields Q (Returns Q) x) :
    Delivers Q (body x) := by
  cases h with
  | ok h => exact .ok h
  | @error e h =>
      cases e with
      | ret r => exact .ok h
      | fault f => exact .error trivial

end Delivers

/-- An early return satisfies `Q`, and a fault satisfies `E`. -/
def StopsWith (E : Fault → Prop) (Q : ρ → Prop) : Stop ρ → Prop
  | .ret r => Q r
  | .fault f => E f

section StopsWith

variable {E : Fault → Prop} {P : α → Prop} {Q : ρ → Prop}

lemma stops_call {x : Except Fault α} (h : Yields P E x) :
    Yields P (StopsWith E Q) (call x) := by
  cases h with
  | ok h => exact .ok h
  | error h => exact .error h

lemma stops_exitIf {c : Prop} [Decidable c] {r : ρ} (h : c → Q r) :
    Yields (fun _ => ¬ c) (StopsWith E Q) (exitIf c r) := by
  unfold exitIf
  split
  · exact .error (h ‹_›)
  · exact .ok ‹_›

lemma stops_orExit {o : Option α} {r : ρ} (h : Q r) :
    Yields (fun a => o = some a) (StopsWith E Q) (orExit o r) := by
  cases o with
  | none => exact .error h
  | some a => exact .ok rfl

lemma stops_body {x : Except (Stop ρ) ρ} (h : Yields Q (StopsWith E Q) x) :
    Yields Q E (body x) := by
  cases h with
  | ok h => exact .ok h
  | @error e h =>
      cases e with
      | ret r => exact .ok h
      | fault f => exact .error h

end StopsWith

/-! ### Integers -/

/-- Conversion to an unsigned 32-bit integer. -/
def u32 (n : ℕ) : ℕ := n % 2 ^ 32

/-- Conversion to a signed 32-bit integer.  Arithmetic on `int` is converted too:
it wraps around, as it does without optimisation. -/
def toInt (n : ℤ) : ℤ := n.bmod (2 ^ 32)

lemma toInt_of_lt {n : ℤ} (h₁ : -2 ^ 31 ≤ n) (h₂ : n < 2 ^ 31) : toInt n = n := by
  rw [toInt, Int.bmod_eq_iff (by decide)]
  omega

lemma u32_add_left (a b : ℕ) : u32 (u32 a + b) = u32 (a + b) := Nat.mod_add_mod a _ b

lemma u32_of_lt {n : ℕ} (h : n < 2 ^ 32) : u32 n = n := Nat.mod_eq_of_lt h

/-! ### Files -/

/-- A file of the file system. -/
inductive Node where
  /-- A regular file, whether it may be opened, and whether reading it ends in an
  error. -/
  | regular (data : List UInt8) (readable ioError : Bool)
  | directory (size : ℕ)

/-- The file system. -/
structure FileSystem where
  node : CStr → Option Node
  /-- Where a file may be created or overwritten. -/
  writable : CStr → Bool

namespace FileSystem

/-- `st_size`, where `stat` succeeds. -/
def stSize (fs : FileSystem) (path : CStr) : Option ℕ :=
  match fs.node path with
  | none => none
  | some (.regular data _ _) => some data.length
  | some (.directory size) => some size

/-- `fopen (path, "rb")`.  A directory can be opened, but not read. -/
def fopen (fs : FileSystem) (path : CStr) : Option File :=
  match fs.node path with
  | some (.regular data true ioError) => some (.start data ioError)
  | some (.directory _) => some (.start [] true)
  | _ => none

/-- The file system after a file was written and closed. -/
def put (fs : FileSystem) (path : CStr) (data : List UInt8) : FileSystem :=
  { fs with node := Function.update fs.node path (some (.regular data true false)) }

/-- A file system without files. -/
def empty : FileSystem := ⟨fun _ => none, fun _ => true⟩

@[simp] lemma node_put_self (fs : FileSystem) (path : CStr) (data : List UInt8) :
    (fs.put path data).node path = some (.regular data true false) := by
  simp [put]

lemma node_put_of_ne (fs : FileSystem) {path path' : CStr} (h : path' ≠ path)
    (data : List UInt8) : (fs.put path data).node path' = fs.node path' := by
  simp [put, h]

@[simp] lemma writable_put (fs : FileSystem) (path : CStr) (data : List UInt8) :
    (fs.put path data).writable = fs.writable := rfl

lemma stSize_of_node {fs : FileSystem} {path : CStr} {data : List UInt8} {r e : Bool}
    (h : fs.node path = some (.regular data r e)) : fs.stSize path = some data.length := by
  simp [stSize, h]

lemma fopen_of_node {fs : FileSystem} {path : CStr} {data : List UInt8} {e : Bool}
    (h : fs.node path = some (.regular data true e)) : fs.fopen path = some (.start data e) := by
  simp [fopen, h]

end FileSystem

/-- How many bytes the `k`-th write of a program has stored in the end, when its file is
closed, of the `n` that are asked for. -/
abbrev WriteIo : Type := ℕ → ℕ → ℕ

/-- Every write stores all of its bytes. -/
def WriteIo.faultFree : WriteIo := fun _ n => n

/-! ### SHA-256 -/

/-- The SHA-256 library: `SHA256_Init`, `SHA256_Update` and `SHA256_Final`. -/
structure Sha256 where
  Ctx : Type
  init : Ctx
  update : Ctx → List UInt8 → Ctx
  final : Ctx → Fin 32 → UInt8

/-- The digest depends on the bytes and not on how they are split. -/
def Sha256.SplitInvariant (sha : Sha256) : Prop :=
  ∀ l l' : List (List UInt8), l.flatten = l'.flatten →
    sha.final (l.foldl sha.update sha.init) = sha.final (l'.foldl sha.update sha.init)

/-- A checksum library that knows one digest. -/
def Sha256.constant (digest : Fin 32 → UInt8) : Sha256 where
  Ctx := Unit
  init := ()
  update _ _ := ()
  final _ := digest

lemma Sha256.splitInvariant_constant (digest : Fin 32 → UInt8) :
    (Sha256.constant digest).SplitInvariant := fun _ _ _ => rfl

end Mesaflash
