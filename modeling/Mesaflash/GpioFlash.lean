import Mesaflash.EepromLocal

/-!
The pins of the bridge as a controller.

Between two calls the flash memory is not selected, and `GPIO_reg_val` is what the
register holds (`Idle`); between two bytes the bus is in the state `Between`.  Each of
the four functions for bytes leads from one such state to the other, and does to the
flash memory what the function for whole bytes does.  So do the functions for pages and
sectors (`gpio_refines`).
-/

namespace Mesaflash

open Lib

variable {σ : Type} {D : SpiSlave σ} {d : σ} {s : GpioBus σ}

/-! ### Register values -/

section Register

variable (v : BitVec 16)

lemma pinsOf_cs_high : pinsOf (v ||| 0x2) = { pinsOf v with cs := true } := by
  simp [pinsOf]

lemma pinsOf_cs_low : pinsOf (v &&& ~~~0x2) = { pinsOf v with cs := false } := by
  simp [pinsOf]

lemma pinsOf_din_high : pinsOf (v ||| 0x8) = { pinsOf v with din := true } := by
  simp [pinsOf]

lemma pinsOf_din_low : pinsOf (v &&& ~~~0x8) = { pinsOf v with din := false } := by
  simp [pinsOf]

lemma pinsOf_clock_high : pinsOf (v ||| 0x10) = { pinsOf v with clk := true } := by
  simp [pinsOf]

lemma pinsOf_clock_low : pinsOf (v &&& ~~~0x10) = { pinsOf v with clk := false } := by
  simp [pinsOf]

end Register

/-- `GPIO_reg_val` is the last value that was written to the register, and the pins have
its levels. -/
structure Synced (s : GpioBus σ) : Prop where
  shadow : s.gpioRegVal = s.reg
  pins : s.wire.pins = pinsOf s.reg

/-- A write to the register drives the pins. -/
lemma Synced.write (h : Synced s) {v : BitVec 16} {f : SpiPins → SpiPins}
    (hv : pinsOf v = f (pinsOf s.gpioRegVal)) :
    Synced (writeGpio D v s) ∧ (writeGpio D v s).wire = s.wire.drive D (f s.wire.pins) := by
  rw [h.shadow, ← h.pins] at hv
  exact ⟨⟨rfl, pins_drive _ _⟩, congrArg (s.wire.drive D) hv⟩

lemma Synced.setCsHigh (h : Synced s) : Synced (setCsHighGpio D s) ∧
    (setCsHighGpio D s).wire = s.wire.setCs D true :=
  h.write (f := fun pins => { pins with cs := true }) (pinsOf_cs_high _)

lemma Synced.setCsLow (h : Synced s) : Synced (setCsLowGpio D s) ∧
    (setCsLowGpio D s).wire = s.wire.setCs D false :=
  h.write (f := fun pins => { pins with cs := false }) (pinsOf_cs_low _)

lemma Synced.setDinHigh (h : Synced s) : Synced (setDinHighGpio D s) ∧
    (setDinHighGpio D s).wire = s.wire.setDin D true :=
  h.write (f := fun pins => { pins with din := true }) (pinsOf_din_high _)

lemma Synced.setDinLow (h : Synced s) : Synced (setDinLowGpio D s) ∧
    (setDinLowGpio D s).wire = s.wire.setDin D false :=
  h.write (f := fun pins => { pins with din := false }) (pinsOf_din_low _)

lemma Synced.setClockHigh (h : Synced s) : Synced (setClockHighGpio D s) ∧
    (setClockHighGpio D s).wire = s.wire.setClk D true :=
  h.write (f := fun pins => { pins with clk := true }) (pinsOf_clock_high _)

lemma Synced.setClockLow (h : Synced s) : Synced (setClockLowGpio D s) ∧
    (setClockLowGpio D s).wire = s.wire.setClk D false :=
  h.write (f := fun pins => { pins with clk := false }) (pinsOf_clock_low _)

/-- A pulse on the clock line. -/
lemma Synced.cycle (h : Synced s) : Synced (setClockLowGpio D (setClockHighGpio D s)) ∧
    (setClockLowGpio D (setClockHighGpio D s)).wire = s.wire.cycle D := by
  obtain ⟨hsync, hwire⟩ := h.setClockHigh (D := D)
  obtain ⟨hsync', hwire'⟩ := hsync.setClockLow (D := D)
  exact ⟨hsync', by rw [hwire', hwire, SpiWire.cycle]⟩

/-! ### Between calls and between bytes -/

/-- The chip select line is high, and the flash memory is `d`. -/
structure Idle (D : SpiSlave σ) (d : σ) (s : GpioBus σ) : Prop extends Synced s where
  unselected : Unselected d s.wire

/-- The flash memory is selected, it is `d`, and the next byte has not begun. -/
structure Between (D : SpiSlave σ) (d : σ) (s : GpioBus σ) : Prop extends Synced s where
  inByte : InByte D d 0 0 s.wire

/-- `init_gpio` makes the chip select line high, whatever was selected before. -/
lemma idle_initGpio (s : GpioBus σ) : Idle D (initGpio D s).wire.dev (initGpio D s) := by
  have hpins : (initGpio D s).wire.pins = pinsOf 0x0003 := pins_drive _ _
  exact ⟨⟨rfl, hpins⟩, by rw [hpins]; rfl, rfl⟩

/-- `set_cs_high_gpio` changes nothing between two calls. -/
lemma Idle.setCsHigh (h : Idle D d s) : Idle D d (setCsHighGpio D s) := by
  obtain ⟨hsync, hwire⟩ := h.toSynced.setCsHigh (D := D)
  exact ⟨hsync, by rw [hwire]; exact h.unselected.drive rfl⟩

/-- `prefix_gpio` selects the flash memory. -/
lemma Idle.spiPrefix (h : Idle D d s) : Between D (D.select d) (prefixGpio D s) := by
  obtain ⟨hsync₁, hwire₁⟩ := h.toSynced.setCsHigh (D := D)
  obtain ⟨hsync₂, hwire₂⟩ := hsync₁.setDinLow (D := D)
  obtain ⟨hsync₃, hwire₃⟩ := hsync₂.setClockLow (D := D)
  obtain ⟨hsync₄, hwire₄⟩ := hsync₃.setCsLow (D := D)
  refine ⟨hsync₄, ?_⟩
  have h₁ : Unselected d (setCsHighGpio D s).wire := by
    rw [hwire₁]
    exact h.unselected.drive rfl
  have h₂ : Unselected d (setDinLowGpio D (setCsHighGpio D s)).wire := by
    rw [hwire₂]
    exact h₁.drive h₁.cs
  have h₃ : Unselected d (setClockLowGpio D (setDinLowGpio D (setCsHighGpio D s))).wire := by
    rw [hwire₃]
    exact h₂.drive h₂.cs
  have hclk : (setClockLowGpio D (setDinLowGpio D (setCsHighGpio D s))).wire.pins.clk = false := by
    rw [hwire₃, SpiWire.setClk, pins_drive]
  rw [prefixGpio, hwire₄]
  exact h₃.select hclk 0

/-- `suffix_gpio` lets it act. -/
lemma Between.spiSuffix (h : Between D d s) : Idle D (D.deselect d) (suffixGpio D s) := by
  obtain ⟨hsync₁, hwire₁⟩ := h.toSynced.setCsHigh (D := D)
  obtain ⟨hsync₂, hwire₂⟩ := hsync₁.setDinLow (D := D)
  refine ⟨hsync₂, ?_⟩
  have h₁ : Unselected (D.deselect d) (setCsHighGpio D s).wire := by
    rw [hwire₁]
    exact h.inByte.deselect
  rw [suffixGpio, hwire₂]
  exact h₁.drive h₁.cs

/-! ### Sending a byte -/

lemma mask_eq {k : ℕ} (hk : k < 8) : dataMask >>> k = 2 ^ (7 - k) := by
  have hall : ∀ k : Fin 8, dataMask >>> (k : ℕ) = 2 ^ (7 - (k : ℕ)) := by decide
  exact hall ⟨k, hk⟩

/-- The mask picks the next bit. -/
lemma mask_and_eq_zero {k : ℕ} (hk : k < 8) (n : ℕ) :
    (dataMask >>> k) &&& n = 0 ↔ n.testBit (7 - k) = false := by
  rw [mask_eq hk, Nat.and_comm, Nat.and_two_pow]
  cases n.testBit (7 - k) with
  | false => simp
  | true => simp

/-- One round of `send_byte_gpio` puts the next bit on DIN and moves the clock. -/
lemma sendBitGpio_wire (h : Synced s) {k : ℕ} (hk : k < 8) (x : UInt8) :
    ∃ bus, sendBitGpio D x (dataMask >>> k, s) = (dataMask >>> (k + 1), bus) ∧ Synced bus ∧
      bus.wire = (s.wire.setDin D (x.toNat.testBit (7 - k))).cycle D := by
  have hset : ∃ s', (if (dataMask >>> k) &&& x.toNat = 0 then setDinLowGpio D s
      else setDinHighGpio D s) = s' ∧ Synced s' ∧
        s'.wire = s.wire.setDin D (x.toNat.testBit (7 - k)) := by
    refine ⟨_, rfl, ?_⟩
    cases hbit : x.toNat.testBit (7 - k) with
    | false =>
        rw [if_pos ((mask_and_eq_zero hk _).2 hbit)]
        exact h.setDinLow
    | true =>
        rw [if_neg (by rw [mask_and_eq_zero hk, hbit]; decide)]
        exact h.setDinHigh
  obtain ⟨s', hs', hsync, hwire⟩ := hset
  refine ⟨_, by rw [sendBitGpio, hs']; rfl, ?_⟩
  rw [← hwire]
  exact hsync.cycle

/-- After `k` rounds, `k` bits are sent. -/
lemma sendBits_partial (h : Between D d s) (x : UInt8) : ∀ k < 8,
    ∃ bus, (sendBitGpio D x)^[k] (dataMask, s) = (dataMask >>> k, bus) ∧ Synced bus ∧
      InByte D d x k bus.wire := by
  intro k
  induction k with
  | zero => exact fun _ => ⟨s, rfl, h.toSynced, h.inByte.start x⟩
  | succ k ih =>
      intro hk
      obtain ⟨bus, hrun, hsync, hbyte⟩ := ih (by omega)
      obtain ⟨bus', hround, hsync', hwire⟩ := sendBitGpio_wire (D := D) hsync (by omega : k < 8) x
      refine ⟨bus', by rw [Function.iterate_succ_apply', hrun, hround], hsync', ?_⟩
      rw [hwire]
      exact (hbyte.setDin _).cycle (by omega) (by rw [SpiWire.setDin, pins_drive])

/-- `send_byte_gpio` sends the byte; DIN keeps its last bit. -/
lemma Between.sendByte (h : Between D d s) (x : UInt8) :
    Between D (D.exchange x d) (sendByteGpio D x s) ∧
      (sendByteGpio D x s).wire.pins.din = x.toNat.testBit 0 := by
  obtain ⟨bus, hrun, hsync, hbyte⟩ := sendBits_partial h x 7 (by omega)
  obtain ⟨bus', hround, hsync', hwire⟩ := sendBitGpio_wire (D := D) hsync (by omega : 7 < 8) x
  have hsend : sendByteGpio D x s = bus' := by
    rw [sendByteGpio, cmdLen, Function.iterate_succ_apply', hrun, hround]
  have hdin : (bus.wire.setDin D (x.toNat.testBit (7 - 7))).pins.din = x.toNat.testBit 0 := by
    rw [SpiWire.setDin, pins_drive]
  rw [hsend]
  refine ⟨⟨hsync', ?_⟩, ?_⟩
  · rw [hwire]
    exact (hbyte.setDin _).cycle_last hdin 0
  · rw [hwire, pins_cycle]
    exact hdin

/-! ### Receiving a byte -/

/-- `get_bit_gpio` reads DOUT. -/
lemma getBitGpio_eq (s : GpioBus σ) : getBitGpio s = s.wire.dout.toNat := by
  have hbit : ∀ v : BitVec 16, v &&& 0x4 = if v.getLsbD 2 then 0x4 else 0 := by
    intro v
    exact BitVec.and_twoPow v 2
  rw [getBitGpio, hbit, pciReadWord]
  cases s.wire.dout with
  | false => simp
  | true => simp

/-- The byte that the slave takes while DIN does not move. -/
def dummyByte (din : Bool) : UInt8 := if din then 0xFF else 0

lemma testBit_dummyByte (din : Bool) {k : ℕ} (hk : k < 8) :
    (dummyByte din).toNat.testBit (7 - k) = din := by
  have hall : ∀ din, ∀ k : Fin 8, (dummyByte din).toNat.testBit (7 - (k : ℕ)) = din := by decide
  exact hall din ⟨k, hk⟩

/-- `data` has the bits of `n` from bit `m` on. -/
def HasBitsFrom (m n data : ℕ) : Prop := ∀ j, data.testBit j = (decide (m ≤ j) && n.testBit j)

/-- The bit below is added. -/
lemma HasBitsFrom.add {m n data : ℕ} (h : HasBitsFrom (m + 1) n data) :
    HasBitsFrom m n (if n.testBit m then data ||| 2 ^ m else data) := by
  intro j
  have hdata : (if n.testBit m then data ||| 2 ^ m else data).testBit j =
      (data.testBit j || (n.testBit m && decide (m = j))) := by
    cases n.testBit m with
    | false => simp
    | true => simp [Nat.testBit_two_pow]
  rw [hdata, h j]
  rcases Nat.lt_trichotomy m j with hlt | rfl | hgt
  · simp [hlt.ne, hlt.le, Nat.succ_le_of_lt hlt]
  · simp
  · have h₁ : ¬ m + 1 ≤ j := by omega
    have h₂ : ¬ m ≤ j := by omega
    simp [h₁, h₂, hgt.ne']

/-- One round of `recv_byte_gpio` takes the bit on DOUT and moves the clock. -/
lemma recvBitGpio_wire {x : UInt8} {k data : ℕ} (hsync : Synced s)
    (hbyte : InByte D d x k s.wire) (hk : k < 8)
    (hdata : HasBitsFrom (8 - k) (D.out d).toNat data) :
    ∃ data' bus, recvBitGpio D (dataMask >>> k, data, s) = (dataMask >>> (k + 1), data', bus) ∧
      HasBitsFrom (8 - (k + 1)) (D.out d).toNat data' ∧ Synced bus ∧
      bus.wire = s.wire.cycle D := by
  have hbit : getBitGpio s = 1 ↔ (D.out d).toNat.testBit (7 - k) = true := by
    rw [getBitGpio_eq, hbyte.dout, SpiSlave.bit, Bool.toNat_eq_one]
  rw [show 8 - k = 7 - k + 1 by omega] at hdata
  have hmask := mask_eq hk
  refine ⟨_, _, rfl, ?_, hsync.cycle⟩
  simp only [hbit, hmask]
  rw [show 8 - (k + 1) = 7 - k by omega]
  exact hdata.add

/-- After `k` rounds of `recv_byte_gpio`, `k` bits of the byte are there. -/
lemma recvBits_partial (h : Between D d s) : ∀ k < 8,
    ∃ data bus, (recvBitGpio D)^[k] (dataMask, 0, s) = (dataMask >>> k, data, bus) ∧
      HasBitsFrom (8 - k) (D.out d).toNat data ∧ Synced bus ∧
      InByte D d (dummyByte s.wire.pins.din) k bus.wire ∧
      bus.wire.pins.din = s.wire.pins.din := by
  intro k
  induction k with
  | zero =>
      intro _
      refine ⟨0, s, rfl, fun j => ?_, h.toSynced, h.inByte.start _, rfl⟩
      rw [Nat.zero_testBit, eq_comm, Bool.and_eq_false_iff, decide_eq_false_iff_not]
      rcases Nat.lt_or_ge j 8 with hj | hj
      · exact .inl (by omega)
      · exact .inr (Nat.testBit_lt_two_pow (lt_of_lt_of_le (D.out d).toNat_lt
          (Nat.pow_le_pow_right (by decide) hj)))
  | succ k ih =>
      intro hk
      obtain ⟨data, bus, hrun, hdata, hsync, hbyte, hdin⟩ := ih (by omega)
      obtain ⟨data', bus', hround, hdata', hsync', hwire⟩ :=
        recvBitGpio_wire hsync hbyte (by omega) hdata
      refine ⟨data', bus', by rw [Function.iterate_succ_apply', hrun, hround], hdata', hsync',
        ?_, ?_⟩
      · rw [hwire]
        exact hbyte.cycle (by omega) (by rw [hdin, testBit_dummyByte _ (by omega)])
      · rw [hwire, pins_cycle]
        exact hdin

/-- `recv_byte_gpio` delivers the byte that the flash memory shifts out.  It gets a dummy
byte in exchange, and DIN does not move. -/
lemma Between.recvByte (h : Between D d s) :
    (recvByteGpio D s).1 = D.out d ∧
      Between D (D.exchange (dummyByte s.wire.pins.din) d) (recvByteGpio D s).2 ∧
      (recvByteGpio D s).2.wire.pins.din = s.wire.pins.din := by
  obtain ⟨data, bus, hrun, hdata, hsync, hbyte, hdin⟩ := recvBits_partial h 7 (by omega)
  obtain ⟨data', bus', hround, hdata', hsync', hwire⟩ :=
    recvBitGpio_wire hsync hbyte (by omega) hdata
  have hrecv : recvByteGpio D s = (data'.toUInt8, bus') := by
    rw [recvByteGpio, dataLen, Function.iterate_succ_apply', hrun, hround]
  have hbyte' : data' = (D.out d).toNat := by
    refine Nat.eq_of_testBit_eq fun j => ?_
    rw [hdata' j]
    simp
  rw [hrecv]
  refine ⟨?_, ⟨hsync', ?_⟩, ?_⟩
  · rw [hbyte']
    exact UInt8.ofNat_toNat
  · rw [hwire]
    exact hbyte.cycle_last (hdin.trans (testBit_dummyByte _ (by omega : 7 < 8)).symm) 0
  · rw [hwire, pins_cycle]
    exact hdin

/-! ### Pages and sectors -/

section Pages

lemma Between.sendAddress (h : Between D d s) (addr : ℕ) :
    Between D (sendAddress (spiBytes D) addr d) (sendAddress (gpioAccess D) addr s) ∧
      (Mesaflash.sendAddress (gpioAccess D) addr s).wire.pins.din
        = (addr &&& 0xFF).toUInt8.toNat.testBit 0 :=
  (((h.sendByte _).1.sendByte _).1).sendByte _

lemma Between.sendBytes (h : Between D d s) (bytes : List UInt8) :
    Between D (sendBytes (spiBytes D) bytes d) (sendBytes (gpioAccess D) bytes s) := by
  induction bytes generalizing d s with
  | nil => exact h
  | cons x bytes ih => exact ih (h.sendByte x).1

/-- While DIN is low, a dummy byte is the 0 that a controller would send. -/
lemma Between.recvBytes (n : ℕ) : ∀ {d : σ} {s : GpioBus σ}, Between D d s →
    s.wire.pins.din = false →
    (recvBytes (gpioAccess D) n s).1 = (recvBytes (spiBytes D) n d).1 ∧
      Between D (Mesaflash.recvBytes (spiBytes D) n d).2
        (Mesaflash.recvBytes (gpioAccess D) n s).2 := by
  induction n with
  | zero => exact fun h _ => ⟨rfl, h⟩
  | succ n ih =>
      intro d s h hdin
      obtain ⟨hbyte, hnext, hdin'⟩ := h.recvByte
      rw [hdin] at hnext hdin'
      obtain ⟨hbytes, hend⟩ := ih hnext hdin'
      exact ⟨congrArg₂ List.cons hbyte hbytes, hend⟩

lemma Idle.writeEnable (h : Idle D d s) :
    Idle D (writeEnable (spiBytes D) d) (writeEnable (gpioAccess D) s) :=
  (h.spiPrefix.sendByte _).1.spiSuffix

end Pages

/-- A flash memory: it does not listen while it shifts out its status. -/
structure SpiFlash (σ : Type) extends SpiSlave σ where
  status_deaf : ∀ d, toSpiSlave.Deaf (exchange spiCmdReadStatus (select d))

section Flash

variable {D : SpiFlash σ}

lemma Idle.readStatus (h : Idle D.toSpiSlave d s) :
    (readStatus (gpioAccess D.toSpiSlave) s).1 = (readStatus (spiBytes D.toSpiSlave) d).1 ∧
      Idle D.toSpiSlave (Mesaflash.readStatus (spiBytes D.toSpiSlave) d).2
        (Mesaflash.readStatus (gpioAccess D.toSpiSlave) s).2 := by
  obtain ⟨hbyte, hnext, -⟩ := (h.spiPrefix.sendByte spiCmdReadStatus).1.recvByte
  rw [D.status_deaf d _ 0] at hnext
  exact ⟨hbyte, hnext.spiSuffix⟩

lemma Idle.waitForWrite (fuel : ℕ) (h : Idle D.toSpiSlave d s) :
    SameOutcome (Idle D.toSpiSlave) (waitForWrite (spiBytes D.toSpiSlave) fuel d)
      (waitForWrite (gpioAccess D.toSpiSlave) fuel s) := by
  refine (sameOutcome_whileM (R := fun x y => x.1 = y.1 ∧ Idle D.toSpiSlave x.2 y.2) _ ?_ ?_ fuel
    _ _ ?_).bind ?_
  · rintro x y ⟨hstat, -⟩
    rw [hstat]
  · rintro x y ⟨-, hidle⟩
    exact .ok ⟨hidle.readStatus.1.symm, hidle.readStatus.2⟩
  · exact ⟨h.readStatus.1.symm, h.readStatus.2⟩
  · rintro x y ⟨-, hidle⟩
    exact .ok hidle

lemma Idle.writePage (fuel addr : ℕ) (page : PageBuf) (h : Idle D.toSpiSlave d s) :
    SameOutcome (Idle D.toSpiSlave) (writePage (spiBytes D.toSpiSlave) fuel addr page d)
      (writePage (gpioAccess D.toSpiSlave) fuel addr page s) := by
  have hcmd := (h.writeEnable.spiPrefix.sendByte spiCmdPageWrite).1
  have hdata := (hcmd.sendAddress addr).1.sendBytes (List.ofFn page)
  exact hdata.spiSuffix.waitForWrite fuel

lemma Idle.eraseSector (fuel addr : ℕ) (h : Idle D.toSpiSlave d s) :
    SameOutcome (Idle D.toSpiSlave) (eraseSector (spiBytes D.toSpiSlave) fuel addr d)
      (eraseSector (gpioAccess D.toSpiSlave) fuel addr s) := by
  have hcmd := (h.writeEnable.spiPrefix.sendByte spiCmdSectorErase).1
  exact (hcmd.sendAddress addr).1.spiSuffix.waitForWrite fuel

/-- The low byte of a page address leaves DIN low. -/
lemma testBit_pageAddress {addr : ℕ} (h : pageSize ∣ addr) :
    (addr &&& 0xFF).toUInt8.toNat.testBit 0 = false := by
  have hlow : addr &&& 0xFF = 0 := by
    rw [show 0xFF = 2 ^ 8 - 1 from rfl, Nat.and_two_pow_sub_one_eq_mod]
    exact Nat.mod_eq_zero_of_dvd h
  rw [hlow]
  rfl

lemma Idle.readPage {addr : ℕ} (haddr : pageSize ∣ addr) (h : Idle D.toSpiSlave d s) :
    (readPage (gpioAccess D.toSpiSlave) addr s).1 = (readPage (spiBytes D.toSpiSlave) addr d).1 ∧
      Idle D.toSpiSlave (Mesaflash.readPage (spiBytes D.toSpiSlave) addr d).2
        (Mesaflash.readPage (gpioAccess D.toSpiSlave) addr s).2 := by
  obtain ⟨hcmd, hdin⟩ := (h.spiPrefix.sendByte spiCmdRead).1.sendAddress addr
  rw [testBit_pageAddress haddr] at hdin
  obtain ⟨hbytes, hend⟩ := Between.recvBytes pageSize hcmd hdin
  exact ⟨congrArg (fun bytes (i : Fin pageSize) => bytes.getD i 0) hbytes, hend.spiSuffix⟩

end Flash

/-! ### The bytes of a command -/

section Bytes

/-- The bytes of an address, the most significant one first. -/
def addressBytes (addr : ℕ) : List UInt8 :=
  [(addr / 0x10000).toUInt8, (addr / 0x100).toUInt8, addr.toUInt8]

lemma toUInt8_and (n : ℕ) : (n &&& 0xFF).toUInt8 = n.toUInt8 := by
  rw [show 0xFF = 2 ^ 8 - 1 from rfl, Nat.and_two_pow_sub_one_eq_mod]
  exact UInt8.toNat_inj.1 (by simp)

lemma sendAddress_spiBytes (addr : ℕ) (d : σ) :
    sendAddress (spiBytes D) addr d = D.send (addressBytes addr) d := by
  simp only [sendAddress, toUInt8_and, Nat.shiftRight_eq_div_pow]
  rfl

lemma recvBytes_spiBytes (n : ℕ) (d : σ) : recvBytes (spiBytes D) n d = D.shiftOut n d := by
  induction n generalizing d with
  | zero => rfl
  | succ n ih => rw [recvBytes, SpiSlave.shiftOut, ← ih]; rfl

lemma readPage_spiBytes {addr : ℕ} {bytes : List UInt8} {d d' : σ}
    (h : D.shiftOut pageSize (D.send (spiCmdRead :: addressBytes addr) (D.select d))
      = (bytes, d')) :
    readPage (spiBytes D) addr d = (fun i : Fin pageSize => bytes.getD i 0, D.deselect d') := by
  have hsend : sendAddress (spiBytes D) addr (D.exchange spiCmdRead (D.select d)) =
      D.send (spiCmdRead :: addressBytes addr) (D.select d) := sendAddress_spiBytes addr _
  have hread : recvBytes (spiBytes D) pageSize
      (sendAddress (spiBytes D) addr (D.exchange spiCmdRead (D.select d))) = (bytes, d') := by
    rw [hsend, recvBytes_spiBytes, h]
  exact congrArg (fun buff : List UInt8 × σ =>
    (fun i : Fin pageSize => buff.1.getD i 0, D.deselect buff.2)) hread

lemma writePage_spiBytes (fuel addr : ℕ) (page : PageBuf) (d : σ) :
    writePage (spiBytes D) fuel addr page d = waitForWrite (spiBytes D) fuel
      (D.window (spiCmdPageWrite :: (addressBytes addr ++ List.ofFn page))
        (D.window [spiCmdWriteEnable] d)) := by
  rw [SpiSlave.window, SpiSlave.send, List.foldl_cons, List.foldl_append, writePage,
    sendAddress_spiBytes]
  rfl

lemma eraseSector_spiBytes (fuel addr : ℕ) (d : σ) :
    eraseSector (spiBytes D) fuel addr d = waitForWrite (spiBytes D) fuel
      (D.window (spiCmdSectorErase :: addressBytes addr) (D.window [spiCmdWriteEnable] d)) := by
  rw [eraseSector, sendAddress_spiBytes]
  rfl

end Bytes

end Mesaflash
