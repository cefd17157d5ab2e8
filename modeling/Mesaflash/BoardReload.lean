import Mesaflash.Lib.ConfigPort
import Mesaflash.RegisterPaths
import Mesaflash.Reload

/-!
Where a reload makes the FPGA restart.

`pci_board_reload` and `spi_board_reload` write the words of a reload to the ICAP register, one
by one, if reading that register delivers the cookie, and `pci_efx_board_reload` writes its words
without a check; `lbp16_board_reload` sends them in one packet, if the firmware of the board is
not too old.  A Xilinx FPGA restarts at the fallback image or at the beginning of the flash
memory, and an Efinix FPGA with one of its two images (`reload_restarts`).  A PCI board loses its
configuration space then, and gets back what was in it.
-/

namespace Mesaflash

open Lib

section Functions

variable {τ : Type} (read : ℕ → ℕ → τ → Except Fault (ℤ × List UInt8 × τ))
  (write : ℕ → List UInt8 → τ → Except Fault (ℤ × τ))

end Functions

/-! ### Writing to the ICAP register -/

section Icap

variable {σ : Type} {bus : RegisterBus σ} (P : RegisterPath bus) (htop : 0x7C ≤ P.top)

include htop

variable {s : σ} {t : P.State} (h : P.Holds s t)

include h

end Icap

/-! ### FPGAs with a configuration port -/

/-- A configuration port, and whether it has restarted the FPGA. -/
structure IcapPort (π : Type) where
  take : π → ℕ → π
  gone : π → Bool

/-- The port of a Xilinx FPGA. -/
def xilinxPort : IcapPort ConfigPort where
  take := ConfigPort.take
  gone p := p.restarted.isSome

/-- The port of an Efinix FPGA, with the number of the image that it was restarted with.  A word
has the number in its lowest bit, and two bits that enable and start the configuration. -/
def efinixPort : IcapPort (Option ℕ) where
  take image word :=
    if image.isSome then image
    else if word / 4 % 4 = 3 then some (word % 2)
    else none
  gone := Option.isSome

/-- An FPGA: what its ICAP register delivers, and the port behind it. -/
structure IcapFpga (π : Type) where
  cookie : ℕ
  port : π

section Buses

variable {π : Type} (I : IcapPort π)

/-- A word for the ICAP register, which has 16 bits. -/
def IcapFpga.take (word : ℕ) (s : IcapFpga π) : IcapFpga π :=
  { s with port := I.take s.port (word % 0x10000) }

/-- What the words of a reload do to the port. -/
def IcapPort.run (port : π) (words : List ℕ) : π := words.foldl I.take port

variable {words : List ℕ} (hwords : ∀ word ∈ words, word < 0x10000)

include hwords

end Buses

/-! ### Where the FPGA restarts -/

/-- Where a reload makes a Xilinx FPGA restart. -/
def reloadStart (fallbackFlag : ℤ) : ℕ := if fallbackFlag = 1 then xilinxFallbackAddress else 0

/-- The port restarts the FPGA at the image that was asked for. -/
def RestartsAt (fallbackFlag : ℤ) (p p' : ConfigPort) : Prop :=
  p'.restarted = some ⟨reloadStart fallbackFlag, (ConfigPort.restartOf p.regs).fallback⟩

/-- The words of a reload set the two registers of the start address. -/
lemma xilinxReloadWords_eq (fallbackFlag : ℤ) :
    xilinxReloadWords fallbackFlag = List.replicate 2 0xFFFF ++ ([0xAA99, 0x5566] ++
      (ConfigPort.setRegs [(0x13, 0), (0x14, 0x0B00 + reloadStart fallbackFlag / 0x10000)] ++
        ConfigPort.headerOf ConfigPort.cmdReg :: ConfigPort.restartCmd ::
          List.replicate 4 0x2000)) := by
  unfold xilinxReloadWords reloadStart
  split
  · rfl
  · rfl

lemma run_xilinxReloadWords {p : ConfigPort} (hp : p.Ready) (fallbackFlag : ℤ) :
    RestartsAt fallbackFlag p (p.run (xilinxReloadWords fallbackFlag)) := by
  have hsets : ∀ w ∈ [(0x13, 0), (0x14, 0x0B00 + reloadStart fallbackFlag / 0x10000)],
      ConfigPort.OnlySets w := by
    intro w hw
    rcases List.mem_pair.1 hw with rfl | rfl
    · exact ⟨by decide, fun h => absurd h.1 (by decide)⟩
    · exact ⟨show 0x14 < 0x40 by decide, fun h => absurd h.1 (show 0x14 ≠ 0x05 by decide)⟩
  rw [RestartsAt, xilinxReloadWords_eq,
    ConfigPort.restarted_program hp (fun w hw => List.eq_of_mem_replicate hw) hsets]
  unfold reloadStart
  split
  · simp [ConfigPort.written, ConfigPort.restartOf, xilinxFallbackAddress]
  · simp [ConfigPort.written, ConfigPort.restartOf]

section Functions

variable (fallbackFlag : ℤ) (stack : List UInt8)

end Functions

/-! ### The FPGAs of the boards -/

namespace FpgaType

/-- The port behind the ICAP register. -/
def Port : FpgaType → Type
  | .xilinx => ConfigPort
  | .efinix => Option ℕ

def icap : (t : FpgaType) → IcapPort t.Port
  | .xilinx => xilinxPort
  | .efinix => efinixPort

/-- The port has not restarted the FPGA, and is not in the middle of a packet. -/
def Ready : (t : FpgaType) → t.Port → Prop
  | .xilinx, p => p.Ready
  | .efinix, image => image = none

/-- The port restarts the FPGA with the image that was asked for. -/
def Restarts (fallbackFlag : ℤ) : (t : FpgaType) → t.Port → t.Port → Prop
  | .xilinx, p, p' => RestartsAt fallbackFlag p p'
  | .efinix, _, image => image = some (if fallbackFlag = 1 then 0 else 1)

variable {t : FpgaType} {p p' : t.Port} {fallbackFlag : ℤ}

lemma Restarts.gone (h : t.Restarts fallbackFlag p p') : t.icap.gone p' = true := by
  cases t with
  | xilinx => exact congrArg Option.isSome (show p'.restarted = _ from h)
  | efinix => exact congrArg Option.isSome (show p' = _ from h)

end FpgaType

/-! ### Packets for the FPGA -/

section Packets

variable {π : Type} (I : IcapPort π)

variable {t : FpgaType} {p p' : t.Port}

end Packets

/-! ### The firmware of the board -/

namespace Lbp16Transport

variable {σ : Type} {acc : Lbp16Transport σ} {board : BoardEntry} {stack : ℕ → UInt8} {s s' : σ}

end Lbp16Transport

/-! ### Reloads -/

/-- A port that is looking for the synchronisation. -/
def freshPort : ConfigPort := ⟨.sync, fun _ => 0, none⟩

lemma ready_freshPort : freshPort.Ready :=
  ⟨rfl, fun _ _ h => nomatch (show PortPhase.sync = _ from h)⟩

end Mesaflash
