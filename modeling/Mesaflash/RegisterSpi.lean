import Mesaflash.SerialFlash

/-!
Flash memories behind a register.

Most firmwares have an SPI interface of their own: a control register with the chip select
line and a bit that says that a byte is through, and a data register that exchanges a byte
with the flash memory.  `eeprom_local.c` reaches these registers in three ways: as HostMot2
registers, as I/O ports of the bridge, and over an EPP bus whose device has an address
register of its own.

The interface needs some time for a byte.  As long as the functions that exchange bytes
leave it that time, the functions for pages and sectors do to the flash memory what they
do to it byte by byte (`registers_refine`).  Only the HostMot2 functions wait until a byte
that was sent is through.
-/

namespace Mesaflash

open Lib

variable {σ τ : Type}

/-! ### Functions for bytes -/

def spiCmdReadIdrom : UInt8 := 0xAB

/-- `read_flash_id` of `eeprom_local.c`. -/
def readFlashIdBytes (acc : SpiAccess τ) (s : τ) : UInt8 × τ :=
  let (ret, s) := acc.recvByte (sendAddress acc 0 (acc.sendByte spiCmdReadIdrom (acc.spiPrefix s)))
  (ret, acc.spiSuffix s)

/-- The functions of `eeprom_local.c` do to the slave what they do to it byte by byte. -/
structure SpiAccess.PagesExact (acc : SpiAccess τ) (D : SpiSlave σ) (idle : σ → τ → Prop) :
    Prop where
  readPage : ∀ {addr : ℕ} {d : σ} {s : τ}, pageSize ∣ addr → idle d s →
    (readPage acc addr s).1 = (readPage (spiBytes D) addr d).1 ∧
      idle (Mesaflash.readPage (spiBytes D) addr d).2 (Mesaflash.readPage acc addr s).2
  writePage : ∀ {d : σ} {s : τ} (fuel addr : ℕ) (page : PageBuf), idle d s →
    SameOutcome idle (writePage (spiBytes D) fuel addr page d) (writePage acc fuel addr page s)
  eraseSector : ∀ {d : σ} {s : τ} (fuel addr : ℕ), idle d s →
    SameOutcome idle (eraseSector (spiBytes D) fuel addr d) (eraseSector acc fuel addr s)
  readFlashId : ∀ {d : σ} {s : τ}, idle d s →
    (readFlashIdBytes acc s).1 = (readFlashIdBytes (spiBytes D) d).1 ∧
      idle (Mesaflash.readFlashIdBytes (spiBytes D) d).2 (Mesaflash.readFlashIdBytes acc s).2

/-- The functions exchange bytes with the slave as a controller does.  The slave is `d` and
not selected in the states `idle d`, and it is `d` and between two bytes in the states
`between d`. -/
structure SpiAccess.Exact (acc : SpiAccess τ) (D : SpiSlave σ) (idle between : σ → τ → Prop) :
    Prop where
  spiPrefix : ∀ {d s}, idle d s → between (D.select d) (acc.spiPrefix s)
  spiSuffix : ∀ {d s}, between d s → idle (D.deselect d) (acc.spiSuffix s)
  sendByte : ∀ {d s} (x : UInt8), between d s → between (D.exchange x d) (acc.sendByte x s)
  recvByte : ∀ {d s}, between d s →
    (acc.recvByte s).1 = D.out d ∧ between (D.exchange 0 d) (acc.recvByte s).2

namespace SpiAccess.Exact

variable {acc : SpiAccess τ} {D : SpiSlave σ} {idle between : σ → τ → Prop} {d : σ} {s : τ}

lemma sendAddress (h : acc.Exact D idle between) (hs : between d s) (addr : ℕ) :
    between (sendAddress (spiBytes D) addr d) (sendAddress acc addr s) :=
  h.sendByte _ (h.sendByte _ (h.sendByte _ hs))

lemma sendBytes (h : acc.Exact D idle between) (bytes : List UInt8) : ∀ {d : σ} {s : τ},
    between d s → between (sendBytes (spiBytes D) bytes d) (sendBytes acc bytes s) := by
  induction bytes with
  | nil => exact fun hs => hs
  | cons x bytes ih => exact fun hs => ih (h.sendByte x hs)

lemma recvBytes (h : acc.Exact D idle between) (n : ℕ) : ∀ {d : σ} {s : τ}, between d s →
    (recvBytes acc n s).1 = (recvBytes (spiBytes D) n d).1 ∧
      between (Mesaflash.recvBytes (spiBytes D) n d).2 (Mesaflash.recvBytes acc n s).2 := by
  induction n with
  | zero => exact fun hs => ⟨rfl, hs⟩
  | succ n ih =>
      intro d s hs
      obtain ⟨hbyte, hnext⟩ := h.recvByte hs
      obtain ⟨hbytes, hend⟩ := ih hnext
      exact ⟨congrArg₂ List.cons hbyte hbytes, hend⟩

lemma writeEnable (h : acc.Exact D idle between) (hs : idle d s) :
    idle (writeEnable (spiBytes D) d) (writeEnable acc s) :=
  h.spiSuffix (h.sendByte _ (h.spiPrefix hs))

lemma readStatus (h : acc.Exact D idle between) (hs : idle d s) :
    (readStatus acc s).1 = (readStatus (spiBytes D) d).1 ∧
      idle (Mesaflash.readStatus (spiBytes D) d).2 (Mesaflash.readStatus acc s).2 := by
  obtain ⟨hbyte, hnext⟩ := h.recvByte (h.sendByte spiCmdReadStatus (h.spiPrefix hs))
  exact ⟨hbyte, h.spiSuffix hnext⟩

lemma readFlashIdBytes (h : acc.Exact D idle between) (hs : idle d s) :
    (readFlashIdBytes acc s).1 = (readFlashIdBytes (spiBytes D) d).1 ∧
      idle (Mesaflash.readFlashIdBytes (spiBytes D) d).2 (Mesaflash.readFlashIdBytes acc s).2 := by
  obtain ⟨hbyte, hnext⟩ :=
    h.recvByte (h.sendAddress (h.sendByte spiCmdReadIdrom (h.spiPrefix hs)) 0)
  exact ⟨hbyte, h.spiSuffix hnext⟩

lemma waitForWrite (h : acc.Exact D idle between) (fuel : ℕ) (hs : idle d s) :
    SameOutcome idle (waitForWrite (spiBytes D) fuel d) (waitForWrite acc fuel s) := by
  refine (sameOutcome_whileM (R := fun x y => x.1 = y.1 ∧ idle x.2 y.2) _ ?_ ?_ fuel _ _ ?_).bind ?_
  · rintro x y ⟨hstat, -⟩
    rw [hstat]
  · rintro x y ⟨-, hidle⟩
    exact .ok ⟨(h.readStatus hidle).1.symm, (h.readStatus hidle).2⟩
  · exact ⟨(h.readStatus hs).1.symm, (h.readStatus hs).2⟩
  · rintro x y ⟨-, hidle⟩
    exact .ok hidle

lemma readPage (h : acc.Exact D idle between) (addr : ℕ) (hs : idle d s) :
    (readPage acc addr s).1 = (readPage (spiBytes D) addr d).1 ∧
      idle (Mesaflash.readPage (spiBytes D) addr d).2 (Mesaflash.readPage acc addr s).2 := by
  obtain ⟨hbytes, hend⟩ :=
    h.recvBytes pageSize (h.sendAddress (h.sendByte spiCmdRead (h.spiPrefix hs)) addr)
  exact ⟨congrArg (fun bytes (i : Fin pageSize) => bytes.getD i 0) hbytes, h.spiSuffix hend⟩

lemma writePage (h : acc.Exact D idle between) (fuel addr : ℕ) (page : PageBuf) (hs : idle d s) :
    SameOutcome idle (writePage (spiBytes D) fuel addr page d)
      (writePage acc fuel addr page s) := by
  have hcmd := h.sendByte spiCmdPageWrite (h.spiPrefix (h.writeEnable hs))
  have hdata := h.sendBytes (List.ofFn page) (h.sendAddress hcmd addr)
  exact h.waitForWrite fuel (h.spiSuffix hdata)

lemma eraseSector (h : acc.Exact D idle between) (fuel addr : ℕ) (hs : idle d s) :
    SameOutcome idle (eraseSector (spiBytes D) fuel addr d) (eraseSector acc fuel addr s) := by
  have hcmd := h.sendByte spiCmdSectorErase (h.spiPrefix (h.writeEnable hs))
  exact h.waitForWrite fuel (h.spiSuffix (h.sendAddress hcmd addr))

lemma pages (h : acc.Exact D idle between) : acc.PagesExact D idle where
  readPage _ hs := h.readPage _ hs
  writePage fuel addr page hs := h.writePage fuel addr page hs
  eraseSector fuel addr hs := h.eraseSector fuel addr hs
  readFlashId hs := h.readFlashIdBytes hs

end SpiAccess.Exact

/-! ### The interface -/

def spiDavMask : UInt8 := 0x04

/-- An SPI interface with a slave on it. -/
structure SpiPort (σ : Type) where
  dev : σ
  /-- The level of the chip select line. -/
  cs : Bool
  /-- The byte that came in exchange for the last one. -/
  shifted : UInt8
  /-- How many more accesses it takes until the last byte is through. -/
  pending : ℕ

namespace SpiPort

/-- An access takes time. -/
def tick (s : SpiPort σ) : SpiPort σ := { s with pending := s.pending - 1 }

section Registers

variable (D : SpiSlave σ) (time : ℕ)

/-- A write to the control register moves the chip select line.  While a byte is under way,
the interface takes no write. -/
def writeCtrl (v : UInt8) (s : SpiPort σ) : SpiPort σ :=
  let cs := v.toNat.testBit 0
  if s.tick.pending ≠ 0 ∨ s.cs = cs then s.tick
  else if cs then { s.tick with cs, dev := D.deselect s.dev }
  else { s.tick with cs, dev := D.select s.dev }

/-- A write to the data register exchanges a byte, which then is under way for `time`
accesses. -/
def writeData (x : UInt8) (s : SpiPort σ) : SpiPort σ :=
  if s.tick.pending ≠ 0 then s.tick
  else if s.cs then { s with shifted := 0xFF, pending := time }
  else { s with dev := D.exchange x s.dev, shifted := D.out s.dev, pending := time }

/-- The control register says whether the last byte is through. -/
def readCtrl (s : SpiPort σ) : UInt8 × SpiPort σ :=
  ((if s.tick.pending = 0 then spiDavMask else 0) ||| (if s.cs then 1 else 0), s.tick)

/-- The data register has the byte that came in exchange. -/
def readData (s : SpiPort σ) : UInt8 × SpiPort σ :=
  (if s.tick.pending = 0 then s.shifted else 0, s.tick)

end Registers

/-! #### States -/

/-- The slave is `d`, the chip select line has the level `cs`, and the interface takes the
next write. -/
structure Holds (cs : Bool) (d : σ) (s : SpiPort σ) : Prop where
  dev : s.dev = d
  cs : s.cs = cs
  ready : s.pending ≤ 1

variable {D : SpiSlave σ} {time : ℕ} {d : σ} {s : SpiPort σ}

lemma Holds.tick {cs : Bool} (h : s.Holds cs d) : s.tick.pending = 0 :=
  Nat.sub_eq_zero_of_le h.ready

lemma Holds.select (h : s.Holds true d) : (s.writeCtrl D 0).Holds false (D.select d) := by
  have hcs : (0 : UInt8).toNat.testBit 0 = false := rfl
  rw [writeCtrl, hcs, h.tick, h.cs, if_neg (by simp), if_neg (by simp), h.dev]
  exact ⟨rfl, rfl, h.tick.le.trans (by decide)⟩

lemma Holds.deselect (h : s.Holds false d) : (s.writeCtrl D 1).Holds true (D.deselect d) := by
  have hcs : (1 : UInt8).toNat.testBit 0 = true := rfl
  rw [writeCtrl, hcs, h.tick, h.cs, if_neg (by simp), if_pos rfl, h.dev]
  exact ⟨rfl, rfl, h.tick.le.trans (by decide)⟩

/-- A high chip select line stays high. -/
lemma Holds.stayHigh (h : s.Holds true d) : (s.writeCtrl D 1).Holds true d := by
  have hcs : (1 : UInt8).toNat.testBit 0 = true := rfl
  rw [writeCtrl, hcs, if_pos (.inr h.cs)]
  exact ⟨h.dev, h.cs, h.tick.le.trans (by decide)⟩

/-- A byte is exchanged. -/
lemma Holds.writeData (h : s.Holds false d) (x : UInt8) : s.writeData D time x =
    { s with dev := D.exchange x d, shifted := D.out d, pending := time } := by
  rw [SpiPort.writeData, if_neg (by rw [h.tick]; simp), if_neg (by rw [h.cs]; simp), h.dev]

/-- The control register tells whether the byte is through. -/
lemma and_spiDavMask_eq_zero (s : SpiPort σ) :
    s.readCtrl.1 &&& spiDavMask = 0 ↔ s.tick.pending ≠ 0 := by
  have hbits : ∀ done cs : Bool,
      ((if done then spiDavMask else 0) ||| (if cs then 1 else 0)) &&& spiDavMask = 0 ↔
        done = false := by decide
  have hctrl := hbits (decide (s.tick.pending = 0)) s.cs
  simpa only [readCtrl, decide_eq_true_eq, decide_eq_false_iff_not] using hctrl

end SpiPort

/-! ### Waiting -/

/-- The loops that wait for data: at most `n` looks at the control register. -/
def waitForData (look : τ → UInt8 × τ) : ℕ → τ → τ
  | 0, s => s
  | n + 1, s =>
    if (look s).1 &&& spiDavMask = 0 then waitForData look n (look s).2 else (look s).2

/-- A byte that is through within `n` accesses has been waited for. -/
lemma waitForData_readCtrl : ∀ {n : ℕ} {s : SpiPort σ}, 0 < n → s.pending ≤ n →
    waitForData SpiPort.readCtrl n s = { s with pending := 0 } := by
  intro n
  induction n with
  | zero => exact fun hn => absurd hn (lt_irrefl 0)
  | succ n ih =>
      intro s _ hs
      rw [waitForData]
      by_cases hdone : s.tick.pending = 0
      · rw [if_neg (by rw [SpiPort.and_spiDavMask_eq_zero, hdone]; simp)]
        exact congrArg (SpiPort.mk s.dev s.cs s.shifted) hdone
      · have hpending : s.tick.pending = s.pending - 1 := rfl
        rw [if_pos ((SpiPort.and_spiDavMask_eq_zero s).2 hdone)]
        exact ih (s := s.tick) (by omega) (by omega)

/-- Waiting is the same through a view of the interface. -/
lemma waitForData_view {υ : Type} {look : υ → UInt8 × υ} {look' : τ → UInt8 × τ} {view : τ → υ}
    (h : ∀ s, look (view s) = ((look' s).1, view (look' s).2)) (n : ℕ) (s : τ) :
    waitForData look n (view s) = view (waitForData look' n s) := by
  induction n generalizing s with
  | zero => rfl
  | succ n ih =>
      rw [waitForData, waitForData, h]
      dsimp only
      split
      · exact ih _
      · rfl

/-! ### HostMot2 registers -/

def hm2SpiCtrlReg : ℕ := 0x0070
def hm2SpiDataReg : ℕ := 0x0074

section Hm2

variable (D : SpiSlave σ) (time : ℕ)

/-- `llio.write` of a register. -/
def SpiPort.regWrite (addr : ℕ) (data : BitVec 32) (s : SpiPort σ) : SpiPort σ :=
  if addr = hm2SpiCtrlReg then s.writeCtrl D (UInt8.ofNat data.toNat)
  else if addr = hm2SpiDataReg then s.writeData D time (UInt8.ofNat data.toNat)
  else s

/-- `llio.read` of a register. -/
def SpiPort.regRead (addr : ℕ) (s : SpiPort σ) : BitVec 32 × SpiPort σ :=
  if addr = hm2SpiCtrlReg then (BitVec.ofNat 32 s.readCtrl.1.toNat, s.readCtrl.2)
  else if addr = hm2SpiDataReg then (BitVec.ofNat 32 s.readData.1.toNat, s.readData.2)
  else (0, s)

/-- `wait_for_data_hm2`. -/
def waitForDataHm2 (s : SpiPort σ) : SpiPort σ :=
  waitForData (fun s => ((s.regRead hm2SpiCtrlReg).1.toNat.toUInt8, (s.regRead hm2SpiCtrlReg).2))
    5000 s

def setCsHighHm2 (s : SpiPort σ) : SpiPort σ := s.regWrite D time hm2SpiCtrlReg 1

def setCsLowHm2 (s : SpiPort σ) : SpiPort σ := s.regWrite D time hm2SpiCtrlReg 0

/-- `send_byte_hm2`. -/
def sendByteHm2 (byte : UInt8) (s : SpiPort σ) : SpiPort σ :=
  waitForDataHm2 (s.regWrite D time hm2SpiDataReg (BitVec.ofNat 32 byte.toNat))

/-- `recv_byte_hm2`. -/
def recvByteHm2 (s : SpiPort σ) : UInt8 × SpiPort σ :=
  let s := waitForDataHm2 (s.regWrite D time hm2SpiDataReg 0)
  let (recv, s) := s.regRead hm2SpiDataReg
  ((recv.toNat &&& 0xFF).toUInt8, s)

/-- Access by HostMot2 registers. -/
def hm2Access : SpiAccess (SpiPort σ) where
  spiPrefix := setCsLowHm2 D time
  spiSuffix := setCsHighHm2 D time
  sendByte := sendByteHm2 D time
  recvByte := recvByteHm2 D time

end Hm2

/-! ### I/O ports -/

def ioSpiSregOffset : ℕ := 0x40
def ioSpiCsOffset : ℕ := 0x44

section Io

variable (D : SpiSlave σ) (time dataBaseAddr : ℕ)

/-- `outb` to an I/O port of the board. -/
def SpiPort.outb (v : UInt8) (port : ℕ) (s : SpiPort σ) : SpiPort σ :=
  if port = dataBaseAddr + ioSpiCsOffset then s.writeCtrl D v
  else if port = dataBaseAddr + ioSpiSregOffset then s.writeData D time v
  else s

/-- `inb` from an I/O port of the board. -/
def SpiPort.inb (port : ℕ) (s : SpiPort σ) : UInt8 × SpiPort σ :=
  if port = dataBaseAddr + ioSpiCsOffset then s.readCtrl
  else if port = dataBaseAddr + ioSpiSregOffset then s.readData
  else (0xFF, s)

@[simp] lemma outb_cs (v : UInt8) (s : SpiPort σ) :
    s.outb D time dataBaseAddr v (dataBaseAddr + ioSpiCsOffset) = s.writeCtrl D v := if_pos rfl

@[simp] lemma outb_sreg (v : UInt8) (s : SpiPort σ) :
    s.outb D time dataBaseAddr v (dataBaseAddr + ioSpiSregOffset) = s.writeData D time v := by
  rw [SpiPort.outb, if_neg (by simp [ioSpiSregOffset, ioSpiCsOffset]), if_pos rfl]

@[simp] lemma inb_cs (s : SpiPort σ) :
    s.inb dataBaseAddr (dataBaseAddr + ioSpiCsOffset) = s.readCtrl := if_pos rfl

@[simp] lemma inb_sreg (s : SpiPort σ) :
    s.inb dataBaseAddr (dataBaseAddr + ioSpiSregOffset) = s.readData := by
  rw [SpiPort.inb, if_neg (by simp [ioSpiSregOffset, ioSpiCsOffset]), if_pos rfl]

/-- `wait_for_data_io`. -/
def waitForDataIo (s : SpiPort σ) : SpiPort σ :=
  waitForData (SpiPort.inb dataBaseAddr (dataBaseAddr + ioSpiCsOffset)) 5000 s

def setCsHighIo (s : SpiPort σ) : SpiPort σ :=
  s.outb D time dataBaseAddr 1 (dataBaseAddr + ioSpiCsOffset)

def setCsLowIo (s : SpiPort σ) : SpiPort σ :=
  s.outb D time dataBaseAddr 0 (dataBaseAddr + ioSpiCsOffset)

/-- `send_byte_io`, which does not wait. -/
def sendByteIo (byte : UInt8) (s : SpiPort σ) : SpiPort σ :=
  s.outb D time dataBaseAddr byte (dataBaseAddr + ioSpiSregOffset)

/-- `recv_byte_io`. -/
def recvByteIo (s : SpiPort σ) : UInt8 × SpiPort σ :=
  let s := s.outb D time dataBaseAddr 0 (dataBaseAddr + ioSpiSregOffset)
  (waitForDataIo dataBaseAddr s).inb dataBaseAddr (dataBaseAddr + ioSpiSregOffset)

/-- Access by I/O ports. -/
def ioAccess : SpiAccess (SpiPort σ) where
  spiPrefix := setCsLowIo D time dataBaseAddr
  spiSuffix := setCsHighIo D time dataBaseAddr
  sendByte := sendByteIo D time dataBaseAddr
  recvByte := recvByteIo D time dataBaseAddr

end Io

/-! ### An EPP bus -/

def eppSpiCsReg : UInt8 := 0x7D
def eppSpiSregReg : UInt8 := 0x7E

/-- A device on an EPP bus, with its address register. -/
structure EppSpi (σ : Type) where
  addr : UInt8
  port : SpiPort σ

section Epp

variable (D : SpiSlave σ) (time : ℕ)

/-- `epp_addr8`, an address cycle. -/
def EppSpi.addr8 (addr : UInt8) (s : EppSpi σ) : EppSpi σ := { s with addr }

/-- `epp_write8`, a data cycle. -/
def EppSpi.write8 (v : UInt8) (s : EppSpi σ) : EppSpi σ :=
  if s.addr = eppSpiCsReg then { s with port := s.port.writeCtrl D v }
  else if s.addr = eppSpiSregReg then { s with port := s.port.writeData D time v }
  else s

/-- `epp_read8`, a data cycle. -/
def EppSpi.read8 (s : EppSpi σ) : UInt8 × EppSpi σ :=
  if s.addr = eppSpiCsReg then (s.port.readCtrl.1, { s with port := s.port.readCtrl.2 })
  else if s.addr = eppSpiSregReg then (s.port.readData.1, { s with port := s.port.readData.2 })
  else (0xFF, s)

@[simp] lemma write8_cs (v : UInt8) (s : EppSpi σ) : (s.addr8 eppSpiCsReg).write8 D time v =
    ⟨eppSpiCsReg, s.port.writeCtrl D v⟩ := by
  rw [EppSpi.write8, EppSpi.addr8, if_pos rfl]

@[simp] lemma write8_sreg (v : UInt8) (s : EppSpi σ) : (s.addr8 eppSpiSregReg).write8 D time v =
    ⟨eppSpiSregReg, s.port.writeData D time v⟩ := by
  have hne : eppSpiSregReg ≠ eppSpiCsReg := by decide
  rw [EppSpi.write8, EppSpi.addr8, if_neg hne, if_pos rfl]

@[simp] lemma read8_cs (port : SpiPort σ) : EppSpi.read8 ⟨eppSpiCsReg, port⟩ =
    (port.readCtrl.1, ⟨eppSpiCsReg, port.readCtrl.2⟩) := if_pos rfl

@[simp] lemma read8_sreg (s : EppSpi σ) : (s.addr8 eppSpiSregReg).read8 =
    (s.port.readData.1, ⟨eppSpiSregReg, s.port.readData.2⟩) := by
  have hne : eppSpiSregReg ≠ eppSpiCsReg := by decide
  rw [EppSpi.read8, EppSpi.addr8, if_neg hne, if_pos rfl]

/-- `wait_for_data_epp`. -/
def waitForDataEpp (s : EppSpi σ) : EppSpi σ :=
  waitForData EppSpi.read8 100 (s.addr8 eppSpiCsReg)

def setCsHighEpp (s : EppSpi σ) : EppSpi σ := (s.addr8 eppSpiCsReg).write8 D time 1

def setCsLowEpp (s : EppSpi σ) : EppSpi σ := (s.addr8 eppSpiCsReg).write8 D time 0

/-- `send_byte_epp`, which does not wait. -/
def sendByteEpp (byte : UInt8) (s : EppSpi σ) : EppSpi σ :=
  (s.addr8 eppSpiSregReg).write8 D time byte

/-- `recv_byte_epp`. -/
def recvByteEpp (s : EppSpi σ) : UInt8 × EppSpi σ :=
  let s := waitForDataEpp ((s.addr8 eppSpiSregReg).write8 D time 0)
  (s.addr8 eppSpiSregReg).read8

/-- Access over an EPP bus. -/
def eppAccess : SpiAccess (EppSpi σ) where
  spiPrefix := setCsLowEpp D time
  spiSuffix := setCsHighEpp D time
  sendByte := sendByteEpp D time
  recvByte := recvByteEpp D time

end Epp

/-! ### The three ways -/

section Ways

variable {D : SpiSlave σ} {time : ℕ} {d : σ} {s : SpiPort σ}

/-- A byte was exchanged, and is through. -/
lemma SpiPort.Holds.exchanged (h : s.Holds false d) (x : UInt8) {n : ℕ} (hn : n ≤ 1) :
    SpiPort.Holds false (D.exchange x d)
      { s with dev := D.exchange x d, shifted := D.out d, pending := n } := ⟨rfl, h.cs, hn⟩

/-- A byte that is through is in the data register. -/
lemma readData_exchanged (h : s.Holds false d) (x : UInt8) :
    (SpiPort.readData { s with dev := D.exchange x d, shifted := D.out d, pending := 0 }).1 =
        D.out d ∧
      (SpiPort.readData
        { s with dev := D.exchange x d, shifted := D.out d, pending := 0 }).2.Holds false
          (D.exchange x d) :=
  ⟨rfl, rfl, h.cs, Nat.zero_le 1⟩

lemma toUInt8_ofNat (x : UInt8) : UInt8.ofNat (BitVec.ofNat 32 x.toNat).toNat = x := by
  have hlt : x.toNat < 2 ^ 32 := x.toNat_lt.trans (by decide)
  rw [BitVec.toNat_ofNat, Nat.mod_eq_of_lt hlt, UInt8.ofNat_toNat]

/-- The wait loop for HostMot2 registers looks at the control register. -/
lemma waitForDataHm2_eq (s : SpiPort σ) :
    waitForDataHm2 s = waitForData SpiPort.readCtrl 5000 s := by
  have hlook : (fun s : SpiPort σ => ((s.regRead hm2SpiCtrlReg).1.toNat.toUInt8,
      (s.regRead hm2SpiCtrlReg).2)) = SpiPort.readCtrl := by
    funext s
    exact Prod.ext (toUInt8_ofNat _) rfl
  rw [waitForDataHm2, hlook]

/-- **HostMot2 registers: the functions wait until a byte is through.** -/
lemma hm2Access_exact (htime : time ≤ 5000) :
    (hm2Access D time).Exact D (fun d s => SpiPort.Holds true d s)
      (fun d s => SpiPort.Holds false d s) where
  spiPrefix h := h.select
  spiSuffix h := h.deselect
  sendByte {d s} x h := by
    have hwrite : s.regWrite D time hm2SpiDataReg (BitVec.ofNat 32 x.toNat) =
        s.writeData D time x := congrArg (s.writeData D time) (toUInt8_ofNat x)
    have hsend : sendByteHm2 D time x s =
        { s with dev := D.exchange x d, shifted := D.out d, pending := 0 } := by
      rw [sendByteHm2, hwrite, h.writeData, waitForDataHm2_eq,
        waitForData_readCtrl (by decide) htime]
    change SpiPort.Holds false _ (sendByteHm2 D time x s)
    rw [hsend]
    exact h.exchanged x (Nat.zero_le 1)
  recvByte {d s} h := by
    have hrecv : waitForDataHm2 (s.regWrite D time hm2SpiDataReg 0) =
        { s with dev := D.exchange 0 d, shifted := D.out d, pending := 0 } := by
      have hwrite : s.regWrite D time hm2SpiDataReg 0 = s.writeData D time 0 := rfl
      rw [hwrite, h.writeData, waitForDataHm2_eq, waitForData_readCtrl (by decide) htime]
    obtain ⟨hbyte, hnext⟩ := readData_exchanged (D := D) h 0
    have hrun : (hm2Access D time).recvByte s =
        (((BitVec.ofNat 32 (SpiPort.readData (waitForDataHm2
          (s.regWrite D time hm2SpiDataReg 0))).1.toNat).toNat &&& 0xFF).toUInt8,
          (SpiPort.readData (waitForDataHm2 (s.regWrite D time hm2SpiDataReg 0))).2) := rfl
    rw [hrun, hrecv]
    refine ⟨?_, hnext⟩
    rw [hbyte, toUInt8_and]
    exact toUInt8_ofNat _

/-- I/O ports: a byte has to be through at the next access. -/
lemma ioAccess_exact (htime : time ≤ 1) (dataBaseAddr : ℕ) :
    (ioAccess D time dataBaseAddr).Exact D (fun d s => SpiPort.Holds true d s)
      (fun d s => SpiPort.Holds false d s) where
  spiPrefix {d s} h := by
    change SpiPort.Holds false _ (s.outb D time dataBaseAddr 0 _)
    rw [outb_cs]
    exact h.select
  spiSuffix {d s} h := by
    change SpiPort.Holds true _ (s.outb D time dataBaseAddr 1 _)
    rw [outb_cs]
    exact h.deselect
  sendByte {d s} x h := by
    change SpiPort.Holds false _ (s.outb D time dataBaseAddr x _)
    rw [outb_sreg, h.writeData]
    exact h.exchanged x htime
  recvByte {d s} h := by
    have hlook : SpiPort.inb (σ := σ) dataBaseAddr (dataBaseAddr + ioSpiCsOffset) =
        SpiPort.readCtrl := funext fun s => inb_cs dataBaseAddr s
    have hrecv : (ioAccess D time dataBaseAddr).recvByte s =
        SpiPort.readData { s with dev := D.exchange 0 d, shifted := D.out d, pending := 0 } := by
      change SpiPort.inb _ _ (waitForDataIo _ (s.outb D time dataBaseAddr 0 _)) = _
      rw [inb_sreg, outb_sreg, h.writeData, waitForDataIo, hlook,
        waitForData_readCtrl (by decide) (htime.trans (by decide))]
    rw [hrecv]
    exact readData_exchanged h 0

lemma waitForDataEpp_eq (s : EppSpi σ) :
    waitForDataEpp s = ⟨eppSpiCsReg, waitForData SpiPort.readCtrl 100 s.port⟩ :=
  waitForData_view read8_cs 100 s.port

/-- An EPP bus: the same holds of the data cycles. -/
lemma eppAccess_exact (htime : time ≤ 1) :
    (eppAccess D time).Exact D (fun d s => SpiPort.Holds true d s.port)
      (fun d s => SpiPort.Holds false d s.port) where
  spiPrefix {d s} h := by
    change SpiPort.Holds false _ ((s.addr8 eppSpiCsReg).write8 D time 0).port
    rw [write8_cs]
    exact h.select
  spiSuffix {d s} h := by
    change SpiPort.Holds true _ ((s.addr8 eppSpiCsReg).write8 D time 1).port
    rw [write8_cs]
    exact h.deselect
  sendByte {d s} x h := by
    change SpiPort.Holds false _ ((s.addr8 eppSpiSregReg).write8 D time x).port
    rw [write8_sreg, h.writeData]
    exact h.exchanged x htime
  recvByte {d s} h := by
    have hrecv : (eppAccess D time).recvByte s =
        ((waitForDataEpp ((s.addr8 eppSpiSregReg).write8 D time 0)).addr8
          eppSpiSregReg).read8 := rfl
    rw [hrecv, read8_sreg, waitForDataEpp_eq, write8_sreg, h.writeData,
      waitForData_readCtrl (by decide) (htime.trans (by decide))]
    exact readData_exchanged h 0

variable (D) in
/-- **Registers are as good as a controller.**  Whatever slave there is, reading and writing a
page, erasing a sector and reading the flash id do to it over HostMot2 registers, I/O ports
and an EPP bus what they do to it byte by byte. -/
theorem registers_refine {hm2Delay portDelay : ℕ} (hhm2 : hm2Delay ≤ 5000) (hport : portDelay ≤ 1)
    (dataBaseAddr : ℕ) :
    (hm2Access D hm2Delay).PagesExact D (fun d s => SpiPort.Holds true d s) ∧
      (ioAccess D portDelay dataBaseAddr).PagesExact D (fun d s => SpiPort.Holds true d s) ∧
      (eppAccess D portDelay).PagesExact D (fun d s => SpiPort.Holds true d s.port) :=
  ⟨(hm2Access_exact hhm2).pages, (ioAccess_exact hport dataBaseAddr).pages,
    (eppAccess_exact hport).pages⟩

end Ways

theorem registers_refine_serialFlash :
    (hm2Access (serialFlash 5 3).toSpiSlave 40).PagesExact (serialFlash 5 3).toSpiSlave
        (fun d s => SpiPort.Holds true d s) ∧
      (ioAccess (serialFlash 5 3).toSpiSlave 1 0xD000).PagesExact (serialFlash 5 3).toSpiSlave
        (fun d s => SpiPort.Holds true d s) ∧
      (eppAccess (serialFlash 5 3).toSpiSlave 1).PagesExact (serialFlash 5 3).toSpiSlave
        (fun d s => SpiPort.Holds true d s.port) :=
  registers_refine _ (by decide) le_rfl 0xD000

end Mesaflash
