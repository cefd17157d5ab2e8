import Mesaflash.Platform
import Mesaflash.Lib.Fuel
import Mathlib.Data.List.FinRange

/-!
The HostMot2 firmware of a board: the descriptors of its modules and pins, and the access
to its registers.

The descriptors are read from the board, so nothing is known about their contents.  The
arrays that hold them have fixed lengths, and an index is checked where it is used.
-/

namespace Mesaflash

open Lib

def hm2MaxModules : ℕ := 32
def hm2MaxPins : ℕ := 144

def hm2CookieReg : ℕ := 0x0100
def hm2ConfigName : ℕ := 0x0104
def hm2IdromAddr : ℕ := 0x010C
def hm2ConfigNameLen : ℕ := 8
def hm2Cookie : ℕ := 0x55AACAFE

def hm2GtagIoport : UInt8 := 0x03
def hm2GtagSserial : UInt8 := 0xC1

def hm2ModOffsGpioDdr : ℕ := 0x0100
def hm2ModOffsGpioAltSource : ℕ := 0x0200

/-- `hm2_idrom_desc_t`. -/
structure IdromDesc where
  ioPorts : ℕ
  ioWidth : ℕ
  portWidth : ℕ
  instanceStride0 : ℕ
  instanceStride1 : ℕ

/-- `hm2_module_desc_t`. -/
structure ModuleDesc where
  gtag : UInt8
  baseAddress : UInt16
  strides : UInt8

/-- `hm2_pin_desc_t`. -/
structure PinDesc where
  secPin : UInt8
  secTag : UInt8
  secChan : UInt8
  gtag : UInt8

/-- `hostmot2_t`. -/
structure Hostmot2 where
  idrom : IdromDesc
  modules : Fin hm2MaxModules → ModuleDesc
  pins : Fin hm2MaxPins → PinDesc

/-- `hm2_find_module`. -/
def hm2FindModule (hm2 : Hostmot2) (gtag : UInt8) : Option ModuleDesc :=
  ((List.finRange hm2MaxModules).map hm2.modules).find? fun md => md.gtag == gtag

/-- `llio->read` and `llio->write`, with single registers. -/
structure RegisterBus (σ : Type) where
  read : ℕ → σ → ℕ × σ
  write : ℕ → ℕ → σ → σ

section Access

variable {σ : Type}

/-- The index of an element of an array of `n` elements. -/
def elementOf (n i : ℕ) : Prog Fault σ (Fin n) :=
  if h : i < n then pure ⟨i, h⟩ else throw (.undefined .outOfBounds)

lemma elementOf_eq {n i : ℕ} (h : i < n) (s : σ) : elementOf n i s = .ok (⟨i, h⟩, s) := by
  rw [elementOf, dif_pos h]
  rfl

lemma elementOf_eq_error {n i : ℕ} (h : ¬ i < n) (s : σ) :
    elementOf n i s = .error (.undefined .outOfBounds) := by
  rw [elementOf, dif_neg h]
  rfl

/-- The place of an element is no access. -/
lemma elementOf_state {n i : ℕ} {a : Fin n} {s t : σ} (h : elementOf n i s = .ok (a, t)) :
    t = s := by
  by_cases hi : i < n
  · rw [elementOf_eq hi] at h
    exact (Prod.mk.inj (Except.ok.inj h)).2.symm
  · rw [elementOf_eq_error hi] at h
    cases h

/-- The module that a pointer points to. -/
def moduleAt (md : Option ModuleDesc) : Prog Fault σ ModuleDesc :=
  match md with
  | some md => pure md
  | none => throw (.undefined .nullPointer)

end Access

end Mesaflash
