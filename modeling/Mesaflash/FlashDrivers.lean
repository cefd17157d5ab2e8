import Mesaflash.FlashRefinement
import Mesaflash.RegisterSpi
import Mesaflash.EthLink

/-!
One flash memory, five ways to it.

A `FlashDriver` is an access layer that does to what it works on what the access functions
of a flash memory without faults do.  The layers over HostMot2 registers, I/O ports, an EPP
bus and the pins of the bridge are drivers for a serial flash memory, and the layer over
LBP16 packets is one for the flash memory of an Ethernet board.

So a session of flash commands does not depend on the way to the flash memory
(`session_sameOnAll`).
-/

namespace Mesaflash

open Lib

variable {k : ℕ}

/-- A flash memory without faults. -/
def norLayer (k : ℕ) : Layer (Flash (chip k)) := ⟨norFlash k, id⟩

/-- An access layer for a flash memory of `2 ^ k` sectors. -/
structure FlashDriver (k : ℕ) where
  State : Type
  layer : Layer State
  /-- The contents of the flash memory, in a state between two commands. -/
  Holds : Flash (chip k) → State → Prop
  refines : (norLayer k).Refines layer Holds

/-! ### Addresses on the bus -/

section Addresses

variable {τ : Type} (acc : SpiAccess τ)

/-- Three bytes of an address are sent. -/
lemma sendAddress_mod (addr : ℕ) (s : τ) :
    sendAddress acc (addr % 2 ^ 24) s = sendAddress acc addr s := by
  have hbyte : ∀ i, i + 8 ≤ 24 →
      (addr % 2 ^ 24) >>> i &&& 0xFF = addr >>> i &&& 0xFF := by
    intro i hi
    apply Nat.eq_of_testBit_eq
    intro j
    rw [show 0xFF = 2 ^ 8 - 1 from rfl, Nat.and_two_pow_sub_one_eq_mod,
      Nat.and_two_pow_sub_one_eq_mod, Nat.testBit_mod_two_pow, Nat.testBit_mod_two_pow,
      Nat.testBit_shiftRight, Nat.testBit_shiftRight, Nat.testBit_mod_two_pow]
    by_cases hj : j < 8
    · simp [hj, show i + j < 24 by omega]
    · simp [hj]
  have hlow : addr % 2 ^ 24 &&& 0xFF = addr &&& 0xFF := hbyte 0 (by decide)
  simp only [sendAddress, hbyte 16 (by decide), hbyte 8 (by decide), hlow]

lemma readPage_addr_mod (addr : ℕ) (s : τ) :
    readPage acc (addr % 2 ^ 24) s = readPage acc addr s := by
  simp only [readPage, sendAddress_mod]

lemma writePage_addr_mod (fuel addr : ℕ) (page : PageBuf) (s : τ) :
    writePage acc fuel (addr % 2 ^ 24) page s = writePage acc fuel addr page s := by
  simp only [writePage, sendAddress_mod]

lemma eraseSector_addr_mod (fuel addr : ℕ) (s : τ) :
    eraseSector acc fuel (addr % 2 ^ 24) s = eraseSector acc fuel addr s := by
  simp only [eraseSector, sendAddress_mod]

end Addresses

/-- A flash memory of at most 16 MiB does not notice what is missing of an address. -/
lemma size_dvd_two_pow {n : ℕ} (hk : k + 16 ≤ n) : (chip k).size ∣ 2 ^ n := by
  have hsize : (chip k).size = 2 ^ (16 + k) := by
    rw [pow_add]
    rfl
  rw [hsize]
  exact Nat.pow_dvd_pow 2 (by omega)

lemma mod_two_pow_lt (addr : ℕ) : addr % 2 ^ 24 < 2 ^ 24 := Nat.mod_lt _ (by decide)

/-! ### The functions of `eeprom_local.c` -/

section Local

variable {σ τ : Type}

/-- The dummy bytes that follow the command for the flash id leave DIN low. -/
lemma Idle.readFlashIdBytes {D : SpiSlave σ} {d : σ} {s : GpioBus σ} (h : Idle D d s) :
    (readFlashIdBytes (gpioAccess D) s).1 = (readFlashIdBytes (spiBytes D) d).1 ∧
      Idle D (Mesaflash.readFlashIdBytes (spiBytes D) d).2
        (Mesaflash.readFlashIdBytes (gpioAccess D) s).2 := by
  obtain ⟨haddr, hdin⟩ := (h.spiPrefix.sendByte spiCmdReadIdrom).1.sendAddress 0
  obtain ⟨hbyte, hnext, -⟩ := haddr.recvByte
  rw [hdin, testBit_pageAddress (Nat.dvd_zero _)] at hnext
  exact ⟨hbyte, hnext.spiSuffix⟩

/-- The pins of the bridge. -/
lemma gpioAccess_pages (D : SpiFlash σ) :
    (gpioAccess D.toSpiSlave).PagesExact D.toSpiSlave (Idle D.toSpiSlave) where
  readPage haddr hs := hs.readPage haddr
  writePage fuel addr page hs := hs.writePage fuel addr page
  eraseSector fuel addr hs := hs.eraseSector fuel addr
  readFlashId hs := hs.readFlashIdBytes

variable {acc : SpiAccess τ} {time fuel : ℕ} {idle : SerialFlash k → τ → Prop}

/-- The chip behind the access functions holds `f`, is not busy, and is not selected. -/
def ChipHolds (idle : SerialFlash k → τ → Prop) (f : Flash (chip k)) (s : τ) : Prop :=
  ∃ d, Settled f d ∧ idle d s

section Chip

variable (h : acc.PagesExact (serialFlash k time).toSpiSlave idle) (hk : k ≤ 8)
  {f : Flash (chip k)} {s : τ} (hs : ChipHolds idle f s)

include h hk hs

/-- The chip gets the low 24 bits of an address, which are all that it needs. -/
lemma ChipHolds.readPage {a : ℕ} (ha : pageSize ∣ a) :
    Flash.readPage f a = (readPage acc a s).1 ∧ ChipHolds idle f (readPage acc a s).2 := by
  obtain ⟨d, hd, hidle⟩ := hs
  have hdvd : pageSize ∣ a % 2 ^ 24 := (Nat.dvd_mod_iff (by decide)).2 ha
  have hsize : (chip k).size ∣ 2 ^ 24 := size_dvd_two_pow (by omega)
  obtain ⟨hbytes, hend⟩ := h.readPage hdvd hidle
  obtain ⟨hread, hd'⟩ := readPage_serialFlash time (mod_two_pow_lt a) hd
  rw [readPage_addr_mod acc] at hbytes hend
  refine ⟨?_, _, hd', hend⟩
  rw [hbytes, hread]
  exact (Flash.readPage_mod hsize f a).symm

variable (htime : time < fuel)

include htime

lemma ChipHolds.writePage (a : ℕ) (page : PageBuf) :
    ∃ s', writePage acc fuel a page s = .ok s' ∧
      ChipHolds idle (Flash.programPage a page f) s' := by
  obtain ⟨d, hd, hidle⟩ := hs
  have hsize : (chip k).size ∣ 2 ^ 24 := size_dvd_two_pow (by omega)
  obtain ⟨d', hwrite, hd'⟩ := writePage_serialFlash (mod_two_pow_lt a) htime hd page
  have hsame := h.writePage fuel (a % 2 ^ 24) page hidle
  rw [hwrite, writePage_addr_mod acc] at hsame
  obtain ⟨s', hs', hidle'⟩ := hsame.of_ok
  exact ⟨s', hs', d', Flash.programPage_mod hsize a page f ▸ hd', hidle'⟩

lemma ChipHolds.eraseSector (a : ℕ) :
    ∃ s', eraseSector acc fuel a s = .ok s' ∧ ChipHolds idle (Flash.eraseSector a f) s' := by
  obtain ⟨d, hd, hidle⟩ := hs
  have hsize : (chip k).size ∣ 2 ^ 24 := size_dvd_two_pow (by omega)
  obtain ⟨d', herase, hd'⟩ := eraseSector_serialFlash (mod_two_pow_lt a) htime hd
  have hsame := h.eraseSector fuel (a % 2 ^ 24) hidle
  rw [herase, eraseSector_addr_mod acc] at hsame
  obtain ⟨s', hs', hidle'⟩ := hsame.of_ok
  exact ⟨s', hs', d', Flash.eraseSector_mod hsize a f ▸ hd', hidle'⟩

end Chip

/-- **With functions that are exact, the chip is a flash memory.** -/
lemma localLayer_refines (h : acc.PagesExact (serialFlash k time).toSpiSlave idle)
    {csHigh : τ → τ} (hcs : ∀ {d s}, idle d s → idle d (csHigh s)) (hk : k ≤ 8)
    (htime : time < fuel) :
    (norLayer k).Refines ⟨localAccess acc fuel, csHigh⟩ (ChipHolds idle) where
  readPage {a f s} ha hs := by
    obtain ⟨hpage, hs'⟩ := hs.readPage h hk ha.page
    exact Corresponds.ok ⟨hpage, hs'⟩
  writePage {a f s} page ha hs := by
    obtain ⟨s', hrun, hs'⟩ := hs.writePage h hk htime a page
    change Corresponds _ _ (.ok (Flash.programPage a page f)) (writePage acc fuel a page s)
    rw [hrun]
    exact .ok hs'
  eraseSector {a f s} ha hs := by
    obtain ⟨s', hrun, hs'⟩ := hs.eraseSector h hk htime a
    change Corresponds _ _ (.ok (Flash.eraseSector a f)) (eraseSector acc fuel a s)
    rw [hrun]
    exact .ok hs'
  csHigh := by
    rintro f s ⟨d, hd, hs⟩
    exact ⟨d, hd, hcs hs⟩

end Local

/-! ### The ways -/

/-- A chip and the ways to it, each with what the functions of the program rely on. -/
structure Wiring (k : ℕ) where
  /-- An address has 24 bits. -/
  small : k ≤ 8
  /-- How many looks at its status a write keeps the chip busy. -/
  time : ℕ
  fuel : ℕ
  enough : time < fuel
  /-- How many accesses to HostMot2 registers a byte takes. -/
  hm2Delay : ℕ
  hm2_waits : hm2Delay ≤ 5000
  /-- How many accesses to I/O ports or over an EPP bus a byte takes. -/
  portDelay : ℕ
  port_quick : portDelay ≤ 1
  dataBaseAddr : ℕ
  schedule : Schedule Datagram
  prompt : ∀ m, schedule m = promptly

namespace Wiring

variable (w : Wiring k)

/-- The chip. -/
def flash : SpiFlash (SerialFlash k) := serialFlash k w.time

/-- HostMot2 registers. -/
def hm2Driver : FlashDriver k where
  State := SpiPort (SerialFlash k)
  layer := ⟨localAccess (hm2Access w.flash.toSpiSlave w.hm2Delay) w.fuel,
    setCsHighHm2 w.flash.toSpiSlave w.hm2Delay⟩
  Holds := ChipHolds fun d s => SpiPort.Holds true d s
  refines := localLayer_refines (hm2Access_exact w.hm2_waits).pages (fun h => h.stayHigh) w.small
    w.enough

/-- I/O ports. -/
def ioDriver : FlashDriver k where
  State := SpiPort (SerialFlash k)
  layer := ⟨localAccess (ioAccess w.flash.toSpiSlave w.portDelay w.dataBaseAddr) w.fuel,
    setCsHighIo w.flash.toSpiSlave w.portDelay w.dataBaseAddr⟩
  Holds := ChipHolds fun d s => SpiPort.Holds true d s
  refines := by
    refine localLayer_refines (ioAccess_exact w.port_quick w.dataBaseAddr).pages (fun {d s} h => ?_)
      w.small w.enough
    rw [setCsHighIo, outb_cs]
    exact h.stayHigh

/-- An EPP bus. -/
def eppDriver : FlashDriver k where
  State := EppSpi (SerialFlash k)
  layer := ⟨localAccess (eppAccess w.flash.toSpiSlave w.portDelay) w.fuel,
    setCsHighEpp w.flash.toSpiSlave w.portDelay⟩
  Holds := ChipHolds fun d s => SpiPort.Holds true d s.port
  refines := by
    refine localLayer_refines (eppAccess_exact w.port_quick).pages (fun {d s} h => ?_) w.small
      w.enough
    rw [setCsHighEpp, write8_cs]
    exact h.stayHigh

/-- The pins of the bridge. -/
def gpioDriver : FlashDriver k where
  State := GpioBus (SerialFlash k)
  layer := ⟨localAccess (gpioAccess w.flash.toSpiSlave) w.fuel, setCsHighGpio w.flash.toSpiSlave⟩
  Holds := ChipHolds (Idle w.flash.toSpiSlave)
  refines := localLayer_refines (gpioAccess_pages w.flash) (fun h => h.setCsHigh) w.small w.enough

/-- LBP16 packets. -/
def remoteDriver : FlashDriver k where
  State := EthNet k
  layer := ⟨remoteAccess w.schedule, id⟩
  Holds f n := ∃ b c, n = EthNet.idle b c ∧ b.flash = f
  refines := by
    refine ⟨?_, ?_, ?_, fun h => h⟩
    · rintro a _ _ ha ⟨b, c, rfl, rfl⟩
      obtain ⟨b', hrun, hb'⟩ := (remoteAccess_promptly (b := b) (c := c) w.prompt ha.lt).1
      dsimp only
      rw [hrun]
      exact .ok ⟨rfl, b', c + 3, rfl, hb'⟩
    · rintro a _ _ page ha ⟨b, c, rfl, rfl⟩
      obtain ⟨b', hrun, hb'⟩ := (remoteAccess_promptly (b := b) (c := c) w.prompt ha.lt).2.1 page
      dsimp only
      rw [hrun]
      exact .ok ⟨b', c + 4, rfl, hb'⟩
    · rintro a _ _ ha ⟨b, c, rfl, rfl⟩
      obtain ⟨b', hrun, hb'⟩ := (remoteAccess_promptly (b := b) (c := c) w.prompt ha.lt).2.2
      dsimp only
      rw [hrun]
      exact .ok ⟨b', c + 4, rfl, hb'⟩

/-- The layer that `eeprom_init` sets up for a board, if the board has a flash memory. -/
def driver : (flash : BoardFlash) → flash ≠ .none → FlashDriver k
  | .none, h => absurd rfl h
  | .hm2, _ => w.hm2Driver
  | .io, _ => w.ioDriver
  | .gpio, _ => w.gpioDriver
  | .remote, _ => w.remoteDriver
  | .epp, _ => w.eppDriver

end Wiring

/-! ### Sessions -/

section Sessions

variable {sha : Sha256} {board : Board} {fs : FileSystem}

/-- The global variables of a process, with what the access functions work on. -/
def Proc.withDev {σ τ : Type} (p : Proc σ) (dev : τ) : Proc τ :=
  ⟨p.bootBlock, p.pageBuffer, p.fileBuffer, dev⟩

variable (sha fs) in
/-- The session over a driver does what the session on the flash memory does. -/
lemma FlashDriver.session (D : FlashDriver k) (hstart : PageAddress board.flashStartAddress)
    (p : Proc (Flash (chip k))) {s : D.State} (hs : D.Holds p.dev s) (steps : List SessionStep) :
    Corresponds (SessionsAlike D.Holds) Eq
      ((⟨fs, p⟩ : FlashSession (Flash (chip k))).run sha (norLayer k) board steps)
      ((⟨fs, p.withDev s⟩ : FlashSession D.State).run sha D.layer board steps) :=
  corresponds_run D.refines hstart ⟨rfl, rfl, rfl, rfl, hs⟩ steps

/-- Behind both drivers there are the same contents. -/
def SameFlash (D D' : FlashDriver k) (s : D.State) (s' : D'.State) : Prop :=
  ∃ f, D.Holds f s ∧ D'.Holds f s'

/-- **A session of flash commands does not depend on the way to the flash memory.**  Whatever
commands are given and however other programs change the files in between, the results, the
files, the global variables and the contents of the flash memory are the same. -/
theorem session_sameOnAll (w : Wiring k) {flash flash' : BoardFlash} (hflash : flash ≠ .none)
    (hflash' : flash' ≠ .none) (hstart : PageAddress board.flashStartAddress)
    (p : Proc (Flash (chip k))) {s : (w.driver flash hflash).State}
    {s' : (w.driver flash' hflash').State} (hs : (w.driver flash hflash).Holds p.dev s)
    (hs' : (w.driver flash' hflash').Holds p.dev s') (steps : List SessionStep) :
    Corresponds (SessionsAlike (SameFlash (w.driver flash hflash) (w.driver flash' hflash'))) Eq
      ((⟨fs, p.withDev s⟩ : FlashSession _).run sha (w.driver flash hflash).layer board steps)
      ((⟨fs, p.withDev s'⟩ : FlashSession _).run sha (w.driver flash' hflash').layer board
        steps) := by
  have h := (w.driver flash hflash).session sha fs hstart p hs steps
  have h' := (w.driver flash' hflash').session sha fs hstart p hs' steps
  refine (h.span h').mono ?_
  -- the session on the flash memory itself is what both correspond to
  rintro y z ⟨x, ⟨hy, hyfs, hyproc⟩, ⟨hz, hzfs, hzproc⟩⟩
  refine ⟨hy.symm.trans hz, hyfs.symm.trans hzfs, ?_⟩
  exact ⟨hyproc.bootBlock.symm.trans hzproc.bootBlock,
    hyproc.pageBuffer.symm.trans hzproc.pageBuffer,
    hyproc.fileBuffer.symm.trans hzproc.fileBuffer, _, hyproc.dev, hzproc.dev⟩

end Sessions

/-! ### An erased chip -/

/-- A wiring of a chip of two sectors. -/
def plainWiring : Wiring 1 where
  small := by decide
  time := 3
  fuel := 4
  enough := by decide
  hm2Delay := 40
  hm2_waits := by decide
  portDelay := 1
  port_quick := le_rfl
  dataBaseAddr := 0xD000
  schedule := fun _ => promptly
  prompt := fun _ => rfl

/-- An erased chip behind registers. -/
def erasedPort : SpiPort (SerialFlash 1) := ⟨⟨fun _ => 0xFF, false, 0, []⟩, true, 0xFF, 0⟩

lemma holds_erasedPort : plainWiring.hm2Driver.Holds (fun _ => 0xFF) erasedPort :=
  ⟨_, ⟨rfl, rfl⟩, rfl, rfl, Nat.zero_le 1⟩

/-- An Ethernet board with an erased chip. -/
def erasedNet : EthNet 1 := EthNet.idle ⟨fun _ => 0xFF, 0⟩ 0

lemma holds_erasedNet : plainWiring.remoteDriver.Holds (fun _ => 0xFF) erasedNet :=
  ⟨_, _, rfl, rfl⟩

theorem session_sameOnAll_erased :
    Corresponds (SessionsAlike (SameFlash plainWiring.hm2Driver plainWiring.remoteDriver)) Eq
      ((⟨FileSystem.empty.put (ascii "a.bit") shortFile, .start erasedPort⟩ :
        FlashSession (SpiPort (SerialFlash 1))).run (.constant fun _ => 0)
          plainWiring.hm2Driver.layer (board7i98 idEeprom1M)
          [.command (.write (ascii "a.bit") 1 0 0),
            .files fun fs => fs.put (ascii "a.bit") [], .command (.verify (ascii "a.bit") 1)])
      ((⟨FileSystem.empty.put (ascii "a.bit") shortFile, .start erasedNet⟩ :
        FlashSession (EthNet 1)).run (.constant fun _ => 0) plainWiring.remoteDriver.layer
          (board7i98 idEeprom1M) [.command (.write (ascii "a.bit") 1 0 0),
            .files fun fs => fs.put (ascii "a.bit") [], .command (.verify (ascii "a.bit") 1)]) :=
  session_sameOnAll plainWiring (show BoardFlash.hm2 ≠ .none by decide)
    (show BoardFlash.remote ≠ .none by decide) ⟨by decide, by decide⟩ (.start fun _ => 0xFF)
    holds_erasedPort holds_erasedNet _

end Mesaflash
