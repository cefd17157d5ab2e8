import Mesaflash.GpioFlash

/-!
A serial flash memory on the bus.

`SerialFlash` is the chip behind the pins: it collects the bytes that it gets while it
is selected, shifts out its status or its contents when it is asked for them, and acts
on a write when the chip select line rises.  A write has to be enabled first, and keeps
the chip busy for a while.

With the functions of `eeprom_local.c`, byte by byte, a chip that is not busy is the memory that
the flash commands work on.  Bit by bit, over the pins of the bridge, they do the same to any
slave (`gpio_refines`).
-/

namespace Mesaflash

open Lib

/-! ### The chip -/

/-- A serial flash memory of `2 ^ k` sectors. -/
structure SerialFlash (k : ℕ) where
  mem : Flash (chip k)
  writeEnabled : Bool
  /-- How many more times the chip will say that a write is in progress. -/
  busy : ℕ
  /-- The bytes since the chip was selected. -/
  got : List UInt8

namespace SerialFlash

variable {k : ℕ} (d : SerialFlash k)

/-- The address in the bytes behind a command. -/
def address (bytes : List UInt8) : ℕ :=
  (bytes.getD 0 0).toNat * 0x10000 + (bytes.getD 1 0).toNat * 0x100 + (bytes.getD 2 0).toNat

/-- Whether the chip was asked for something, so that it does not listen. -/
def answers : Bool :=
  match d.got with
  | [] => false
  | cmd :: bytes => cmd == spiCmdReadStatus || (cmd == spiCmdRead && decide (3 ≤ bytes.length))

/-- The status register. -/
def status : UInt8 := if d.busy = 0 then 0 else writeInProgressMask

/-- The byte that the chip shifts out next. -/
def out : UInt8 :=
  match d.got with
  | [] => 0xFF
  | cmd :: bytes =>
    if cmd = spiCmdReadStatus then d.status
    else if cmd = spiCmdRead ∧ 3 ≤ bytes.length ∧ d.busy = 0 then
      d.mem (Flash.cell _ (address bytes + (bytes.length - 3)))
    else 0xFF

/-- The chip gets a byte. -/
def exchange (x : UInt8) : SerialFlash k :=
  { d with got := d.got ++ [if d.answers then 0 else x] }

/-- The chip acts on what it got.  A write keeps it busy for `time` looks at its status. -/
def act (time : ℕ) : SerialFlash k :=
  match d.got with
  | [] => d
  | cmd :: bytes =>
    if cmd = spiCmdReadStatus then { d with busy := d.busy - 1 }
    else if d.busy ≠ 0 then d
    else if cmd = spiCmdWriteEnable then { d with writeEnabled := true }
    else if cmd = spiCmdPageWrite ∧ bytes.length = 3 + pageSize ∧ d.writeEnabled then
      { d with
        mem := Flash.programPage (address bytes) (fun i => bytes.getD (3 + i) 0) d.mem
        writeEnabled := false
        busy := time }
    else if cmd = spiCmdSectorErase ∧ bytes.length = 3 ∧ d.writeEnabled then
      { d with
        mem := Flash.eraseSector (address bytes) d.mem
        writeEnabled := false
        busy := time }
    else d

end SerialFlash

/-- The chip as a slave on the bus. -/
def serialFlash (k time : ℕ) : SpiFlash (SerialFlash k) where
  select d := { d with got := [] }
  deselect d := d.act time
  out d := d.out
  exchange x d := d.exchange x
  status_deaf _ _ _ := rfl

/-! ### Whole bytes -/

section Bytes

variable {k time : ℕ} {d : SerialFlash k}

lemma address_addressBytes {addr : ℕ} (h : addr < 2 ^ 24) (l : List UInt8) :
    SerialFlash.address (addressBytes addr ++ l) = addr := by
  simp only [SerialFlash.address, addressBytes, List.cons_append, List.getD_cons_zero,
    List.getD_cons_succ, Nat.toUInt8, UInt8.toNat_ofNat']
  omega

variable (time) in
/-- A command that asks for nothing is collected. -/
lemma send_serialFlash {cmd : UInt8} (hstatus : cmd ≠ spiCmdReadStatus) (hread : cmd ≠ spiCmdRead)
    (bytes : List UInt8) : ∀ l, (serialFlash k time).send bytes { d with got := cmd :: l } =
      { d with got := cmd :: (l ++ bytes) } := by
  induction bytes with
  | nil =>
      intro l
      rw [List.append_nil]
      rfl
  | cons x bytes ih =>
      intro l
      have hdeaf : ({ d with got := cmd :: l } : SerialFlash k).answers = false := by
        simp [SerialFlash.answers, hstatus, hread]
      have hnext : (serialFlash k time).exchange x { d with got := cmd :: l } =
          { d with got := cmd :: (l ++ [x]) } := by
        simp only [serialFlash, SerialFlash.exchange, hdeaf]
        rfl
      rw [SpiSlave.send, List.foldl_cons, hnext]
      have hrest := ih (l ++ [x])
      rw [List.append_assoc] at hrest
      exact hrest

/-- A command in a select window of its own. -/
lemma window_serialFlash {cmd : UInt8} (hstatus : cmd ≠ spiCmdReadStatus)
    (hread : cmd ≠ spiCmdRead) (bytes : List UInt8) :
    (serialFlash k time).window (cmd :: bytes) d
      = ({ d with got := cmd :: bytes } : SerialFlash k).act time := by
  have hsend := send_serialFlash time (d := d) hstatus hread bytes []
  rw [List.nil_append] at hsend
  rw [SpiSlave.window, ← hsend]
  rfl

variable (time) in
/-- While the chip shifts out its contents, its address counter goes up. -/
lemma shiftOut_serialFlash (hready : d.busy = 0) {addr : ℕ} (haddr : addr < 2 ^ 24) (n : ℕ) :
    ∀ l, ∃ l', (serialFlash k time).shiftOut n
        { d with got := spiCmdRead :: (addressBytes addr ++ l) } =
      ((List.range n).map fun i => d.mem (Flash.cell _ (addr + (l.length + i))),
        { d with got := spiCmdRead :: (addressBytes addr ++ l') }) := by
  induction n with
  | zero => exact fun l => ⟨l, rfl⟩
  | succ n ih =>
      intro l
      obtain ⟨l', hrest⟩ := ih (l ++ [0])
      have hlen : (addressBytes addr ++ l).length = 3 + l.length := by
        rw [List.length_append]
        rfl
      have hout : (serialFlash k time).out
          { d with got := spiCmdRead :: (addressBytes addr ++ l) } =
            d.mem (Flash.cell _ (addr + l.length)) := by
        have hne : spiCmdRead ≠ spiCmdReadStatus := by decide
        simp only [serialFlash, SerialFlash.out, if_neg hne, hlen, hready,
          address_addressBytes haddr, Nat.add_sub_cancel_left]
        rw [if_pos ⟨trivial, Nat.le_add_right _ _, trivial⟩]
      have hnext : (serialFlash k time).exchange 0
          { d with got := spiCmdRead :: (addressBytes addr ++ l) } =
            { d with got := spiCmdRead :: (addressBytes addr ++ (l ++ [0])) } := by
        simp only [serialFlash, SerialFlash.exchange, ite_self]
        rw [← List.append_assoc]
        rfl
      have hindex : ∀ i, (l ++ [0]).length + i = l.length + (i + 1) := by
        intro i
        rw [List.length_append, Nat.add_assoc, Nat.add_comm i]
        rfl
      refine ⟨l', ?_⟩
      rw [SpiSlave.shiftOut, hnext, hrest, hout, List.range_succ_eq_map, List.map_cons,
        List.map_map, Nat.add_zero]
      simp only [hindex]
      rfl

/-! ### Waiting -/

section Wait

variable {τ : Type} {acc : SpiAccess τ} {s : τ}

lemma waitForWrite_done (h : (readStatus acc s).1 &&& writeInProgressMask = 0) (fuel : ℕ) :
    waitForWrite acc (fuel + 1) s = .ok (readStatus acc s).2 := by
  rw [waitForWrite, whileM_done (by simpa using h), ok_bind]
  rfl

lemma waitForWrite_busy (h : (readStatus acc s).1 &&& writeInProgressMask ≠ 0) (fuel : ℕ) :
    waitForWrite acc (fuel + 1) s = waitForWrite acc fuel (readStatus acc s).2 := by
  rw [waitForWrite, whileM_round (by simpa using h), ok_bind]
  rfl

end Wait

/-- A look at the status register. -/
lemma readStatus_serialFlash (d : SerialFlash k) :
    readStatus (spiBytes (serialFlash k time).toSpiSlave) d =
      (d.status, { d with busy := d.busy - 1, got := [spiCmdReadStatus, 0] }) := rfl

/-- The chip is not busy any more, and holds `f`. -/
structure Settled (f : Flash (chip k)) (d : SerialFlash k) : Prop where
  mem : d.mem = f
  ready : d.busy = 0

/-- The chip has finished its write when it says so. -/
lemma waitForWrite_serialFlash (n : ℕ) : ∀ {fuel : ℕ} {d : SerialFlash k}, d.busy = n → n < fuel →
    ∃ d', waitForWrite (spiBytes (serialFlash k time).toSpiSlave) fuel d = .ok d' ∧
      Settled d.mem d' := by
  induction n with
  | zero =>
      intro fuel d hbusy hfuel
      obtain ⟨fuel, rfl⟩ := Nat.exists_eq_succ_of_ne_zero hfuel.ne'
      have hstatus : (readStatus (spiBytes (serialFlash k time).toSpiSlave) d).1 &&&
          writeInProgressMask = 0 := by
        rw [readStatus_serialFlash, SerialFlash.status, if_pos hbusy]
        dsimp only
        decide
      refine ⟨_, waitForWrite_done hstatus fuel, rfl, ?_⟩
      rw [readStatus_serialFlash]
      exact congrArg (· - 1) hbusy
  | succ n ih =>
      intro fuel d hbusy hfuel
      obtain ⟨fuel, rfl⟩ := Nat.exists_eq_succ_of_ne_zero (Nat.ne_zero_of_lt hfuel)
      have hstatus : (readStatus (spiBytes (serialFlash k time).toSpiSlave) d).1 &&&
          writeInProgressMask ≠ 0 := by
        rw [readStatus_serialFlash, SerialFlash.status, if_neg (by omega)]
        dsimp only
        decide
      have hnext : (readStatus (spiBytes (serialFlash k time).toSpiSlave) d).2.busy = n :=
        congrArg (· - 1) hbusy
      obtain ⟨d', hwait, hsettled⟩ := ih hnext (Nat.lt_of_succ_lt_succ hfuel)
      exact ⟨d', (waitForWrite_busy hstatus fuel).trans hwait, hsettled⟩

/-! ### Pages and sectors -/

/-- The chip after a write was enabled. -/
lemma window_writeEnable (hready : d.busy = 0) :
    (serialFlash k time).window [spiCmdWriteEnable] d =
      { d with writeEnabled := true, got := [spiCmdWriteEnable] } := by
  rw [window_serialFlash (by decide) (by decide)]
  simp only [SerialFlash.act, hready]
  rfl

variable (time) in
/-- The chip does not act on a read command. -/
lemma act_read (hready : d.busy = 0) (l : List UInt8) :
    ({ d with got := spiCmdRead :: l } : SerialFlash k).act time =
      { d with got := spiCmdRead :: l } := by
  simp only [SerialFlash.act, hready]
  rfl

variable (time) in
lemma readPage_serialFlash {addr : ℕ} (haddr : addr < 2 ^ 24) {f : Flash (chip k)}
    (h : Settled f d) :
    (readPage (spiBytes (serialFlash k time).toSpiSlave) addr d).1 = Flash.readPage f addr ∧
      Settled f (readPage (spiBytes (serialFlash k time).toSpiSlave) addr d).2 := by
  obtain ⟨rfl, hready⟩ := h
  have hcmd : (serialFlash k time).send (spiCmdRead :: addressBytes addr)
      ((serialFlash k time).select d) = { d with got := spiCmdRead :: (addressBytes addr ++ []) } :=
    rfl
  obtain ⟨l', hread⟩ := shiftOut_serialFlash time hready haddr pageSize []
  have hend : (serialFlash k time).deselect
      { d with got := spiCmdRead :: (addressBytes addr ++ l') } =
        { d with got := spiCmdRead :: (addressBytes addr ++ l') } := act_read time hready _
  rw [readPage_spiBytes (by rw [hcmd, hread])]
  dsimp only
  constructor
  · funext i
    have hi : (i : ℕ) < ((List.range pageSize).map fun j =>
        d.mem (Flash.cell _ (addr + (([] : List UInt8).length + j)))).length := by
      rw [List.length_map, List.length_range]
      exact i.isLt
    rw [List.getD_eq_getElem _ _ hi, List.getElem_map, List.getElem_range, List.length_nil,
      Nat.zero_add]
    rfl
  · rw [hend]
    exact ⟨rfl, hready⟩

/-- The bytes of a page behind an address. -/
lemma getD_addressBytes (addr : ℕ) (page : PageBuf) (i : Fin pageSize) :
    (addressBytes addr ++ List.ofFn page).getD (3 + i) 0 = page i := by
  have hlen : (addressBytes addr).length = 3 := rfl
  rw [List.getD_append_right _ _ _ _ (by omega), hlen, Nat.add_sub_cancel_left,
    List.getD_eq_getElem _ _ (by rw [List.length_ofFn]; exact i.isLt), List.getElem_ofFn]

variable (time) in
/-- The chip acts on a page write. -/
lemma act_pageWrite {addr : ℕ} (haddr : addr < 2 ^ 24) (hready : d.busy = 0)
    (henabled : d.writeEnabled = true) (page : PageBuf) :
    ({ d with got := spiCmdPageWrite :: (addressBytes addr ++ List.ofFn page) } :
        SerialFlash k).act time =
      { mem := Flash.programPage addr page d.mem
        writeEnabled := false
        busy := time
        got := spiCmdPageWrite :: (addressBytes addr ++ List.ofFn page) } := by
  have hlen : (addressBytes addr ++ List.ofFn page).length = 3 + pageSize := by
    rw [List.length_append, List.length_ofFn]
    rfl
  have hstatus : spiCmdPageWrite ≠ spiCmdReadStatus := by decide
  have henable : spiCmdPageWrite ≠ spiCmdWriteEnable := by decide
  simp only [SerialFlash.act, if_neg hstatus, hready, ne_eq, not_true_eq_false, if_false,
    if_neg henable, hlen, henabled, and_self, if_true, address_addressBytes haddr,
    getD_addressBytes]

variable (time) in
/-- The chip acts on the erasure of a sector. -/
lemma act_sectorErase {addr : ℕ} (haddr : addr < 2 ^ 24) (hready : d.busy = 0)
    (henabled : d.writeEnabled = true) :
    ({ d with got := spiCmdSectorErase :: addressBytes addr } : SerialFlash k).act time =
      { mem := Flash.eraseSector addr d.mem
        writeEnabled := false
        busy := time
        got := spiCmdSectorErase :: addressBytes addr } := by
  have hlen : (addressBytes addr).length = 3 := rfl
  have haddress : SerialFlash.address (addressBytes addr) = addr := address_addressBytes haddr []
  have hstatus : spiCmdSectorErase ≠ spiCmdReadStatus := by decide
  have henable : spiCmdSectorErase ≠ spiCmdWriteEnable := by decide
  have hwrite : spiCmdSectorErase ≠ spiCmdPageWrite := by decide
  simp only [SerialFlash.act, if_neg hstatus, hready, ne_eq, not_true_eq_false, if_false,
    if_neg henable, hwrite, false_and, hlen, henabled, and_self, if_true, haddress]

lemma writePage_serialFlash {addr fuel : ℕ} (haddr : addr < 2 ^ 24) (htime : time < fuel)
    {f : Flash (chip k)} (h : Settled f d) (page : PageBuf) :
    ∃ d', writePage (spiBytes (serialFlash k time).toSpiSlave) fuel addr page d = .ok d' ∧
      Settled (Flash.programPage addr page f) d' := by
  obtain ⟨rfl, hready⟩ := h
  rw [writePage_spiBytes, window_writeEnable hready, window_serialFlash (by decide) (by decide)]
  have hact := act_pageWrite time
    (d := { d with writeEnabled := true, got := [spiCmdWriteEnable] }) haddr hready rfl page
  rw [hact]
  exact waitForWrite_serialFlash time rfl htime

lemma eraseSector_serialFlash {addr fuel : ℕ} (haddr : addr < 2 ^ 24) (htime : time < fuel)
    {f : Flash (chip k)} (h : Settled f d) :
    ∃ d', eraseSector (spiBytes (serialFlash k time).toSpiSlave) fuel addr d = .ok d' ∧
      Settled (Flash.eraseSector addr f) d' := by
  obtain ⟨rfl, hready⟩ := h
  rw [eraseSector_spiBytes, window_writeEnable hready, window_serialFlash (by decide) (by decide)]
  have hact := act_sectorErase time
    (d := { d with writeEnabled := true, got := [spiCmdWriteEnable] }) haddr hready rfl
  rw [hact]
  exact waitForWrite_serialFlash time rfl htime

end Bytes

/-! ### Single bits -/

section Pins

/-- **The pins of the bridge are as good as a controller.**  Over the pins, the functions for
pages and sectors do to the flash memory what they do to it byte by byte, and deliver the
bytes that it shifts out; afterwards `GPIO_reg_val` is what the register holds, and the chip
select line is high.  Byte by byte, a write is a window for the write enable command, a
window for the command with its address and its data, and looks at the status register. -/
theorem gpio_refines {σ : Type} (D : SpiFlash σ) {d : σ} {s : GpioBus σ}
    (h : Idle D.toSpiSlave d s) (fuel addr : ℕ) (page : PageBuf) :
    (pageSize ∣ addr → ∃ s', readPage (gpioAccess D.toSpiSlave) addr s =
        ((readPage (spiBytes D.toSpiSlave) addr d).1, s') ∧
      Idle D.toSpiSlave (readPage (spiBytes D.toSpiSlave) addr d).2 s') ∧
    SameOutcome (Idle D.toSpiSlave) (writePage (spiBytes D.toSpiSlave) fuel addr page d)
      (writePage (gpioAccess D.toSpiSlave) fuel addr page s) ∧
    SameOutcome (Idle D.toSpiSlave) (eraseSector (spiBytes D.toSpiSlave) fuel addr d)
      (eraseSector (gpioAccess D.toSpiSlave) fuel addr s) ∧
    (∀ bytes d', D.shiftOut pageSize (D.send (spiCmdRead :: addressBytes addr) (D.select d))
        = (bytes, d') →
      readPage (spiBytes D.toSpiSlave) addr d =
        (fun i : Fin pageSize => bytes.getD i 0, D.deselect d')) ∧
    writePage (spiBytes D.toSpiSlave) fuel addr page d =
      waitForWrite (spiBytes D.toSpiSlave) fuel
        (D.window (spiCmdPageWrite :: (addressBytes addr ++ List.ofFn page))
          (D.window [spiCmdWriteEnable] d)) ∧
    eraseSector (spiBytes D.toSpiSlave) fuel addr d =
      waitForWrite (spiBytes D.toSpiSlave) fuel
        (D.window (spiCmdSectorErase :: addressBytes addr) (D.window [spiCmdWriteEnable] d)) := by
  refine ⟨?_, h.writePage fuel addr page, h.eraseSector fuel addr, fun _ _ => readPage_spiBytes,
    writePage_spiBytes fuel addr page d, eraseSector_spiBytes fuel addr d⟩
  intro haddr
  obtain ⟨hbytes, hend⟩ := h.readPage haddr
  exact ⟨_, Prod.ext hbytes rfl, hend⟩

/-- A chip that is erased. -/
def erasedChip : SerialFlash 1 := ⟨fun _ => 0xFF, false, 0, []⟩

/-- The bus behind `init_gpio`, with an erased chip on it. -/
def erasedBus : GpioBus (SerialFlash 1) :=
  initGpio (serialFlash 1 3).toSpiSlave ⟨0, 0, ⟨pinsOf 0, erasedChip, 0, 0, false⟩⟩

lemma idle_erasedBus : Idle (serialFlash 1 3).toSpiSlave erasedChip erasedBus := by
  have hdev : erasedBus.wire.dev = erasedChip := rfl
  rw [← hdev]
  exact idle_initGpio _

theorem gpio_refines_erasedBus :
    ∃ s', readPage (gpioAccess (serialFlash 1 3).toSpiSlave) 0x100 erasedBus =
      (fun _ => 0xFF, s') ∧ s'.wire.pins.cs = true := by
  obtain ⟨s', hread, hidle⟩ :=
    (gpio_refines (serialFlash 1 3) idle_erasedBus 0 0x100 fun _ => 0).1 (Dvd.intro 1 rfl)
  have hsettled : Settled (fun _ => 0xFF) erasedChip := ⟨rfl, rfl⟩
  obtain ⟨hpage, -⟩ := readPage_serialFlash 3 (by decide : 0x100 < 2 ^ 24) hsettled
  rw [hpage] at hread
  exact ⟨s', hread, hidle.unselected.cs⟩

end Pins

end Mesaflash
