import Mesaflash.Hostmot2
import Mesaflash.Lib.BitOrder
import Mesaflash.Lib.ImageCopy
import Mesaflash.Lib.Stdio

/-!
Reading the descriptors of a board.

`hm2_read_idrom` copies the registers with the descriptors into the fields of `hostmot2_t`,
which lie one behind the other in `llio_struct`, and `ss_interface` behind the last of them.
Here that structure is its bytes.  A pin is fetched with the size of a module, so that each
fetch runs into the next pins.  That does no harm in the table (all fetches copy from one
image), but the last two run over its end.
-/

namespace Mesaflash

open Lib

/-! ### The fields -/

/-- `sizeof (hm2_idrom_desc_t)`. -/
def sizeofIdromDesc : ℕ := 64

/-- `sizeof (hm2_module_desc_t)`. -/
def sizeofModuleDesc : ℕ := 12

/-- `sizeof (hm2_pin_desc_t)`. -/
def sizeofPinDesc : ℕ := 4

section Fields

variable (base : ℕ)

/-- The offset of `idrom`, where `base` is that of `config_name`. -/
def idromAt : ℕ := base + hm2ConfigNameLen

def modulesAt : ℕ := idromAt base + sizeofIdromDesc

def pinsAt : ℕ := modulesAt base + hm2MaxModules * sizeofModuleDesc

/-- The offset of `ss_interface`, which is directly behind the pins. -/
def ssInterfaceAt : ℕ := pinsAt base + hm2MaxPins * sizeofPinDesc

/-- The offsets of `offset_to_modules` and `offset_to_pins`. -/
def offsetToModulesAt : ℕ := idromAt base + 4

def offsetToPinsAt : ℕ := idromAt base + 8

lemma fields_eq : idromAt base = base + 8 ∧ modulesAt base = base + 72 ∧
    pinsAt base = base + 456 ∧ ssInterfaceAt base = base + 1032 := ⟨rfl, rfl, rfl, rfl⟩

end Fields

/-! ### Reading -/

section Read

variable (regs : ℕ → UInt8)

/-- `llio->read` of a board with these registers. -/
def readRegs (addr dst size : ℕ) (m : ℕ → UInt8) : ℕ → UInt8 :=
  copyFrom (fun a => regs (u32 (addr + (a - dst)))) (Window dst size) m

/-- The loops of `hm2_read_idrom`, which fetch the elements of a table at distances of
`stride`, each with `size` bytes.  The offset of the table is read in each round. -/
def fetchTable (idromAddr offsetAt dst stride size n : ℕ) (m : ℕ → UInt8) : ℕ → UInt8 :=
  (List.range n).foldl (fun m i =>
    readRegs regs (u32 (idromAddr + leWord m offsetAt 4 + i * stride)) (dst + stride * i) size m) m

/-- `hm2_read_idrom`. -/
def hm2ReadIdrom (base : ℕ) (m : ℕ → UInt8) : ℕ → UInt8 :=
  if leWord regs hm2CookieReg 4 ≠ hm2Cookie then m
  else if (List.range 8).map (fun k => m (base + k)) = ascii "HOSTMOT2" then m
  else
    let m := readRegs regs hm2ConfigName base hm2ConfigNameLen m
    let idromAddr := leWord regs hm2IdromAddr 4
    let m := readRegs regs idromAddr (idromAt base) sizeofIdromDesc m
    let m := fetchTable regs idromAddr (offsetToModulesAt base) (modulesAt base) sizeofModuleDesc
      sizeofModuleDesc hm2MaxModules m
    fetchTable regs idromAddr (offsetToPinsAt base) (pinsAt base) sizeofPinDesc sizeofModuleDesc
      hm2MaxPins m

/-! ### Tables -/

variable {regs}

/-- Fetches at equal distances copy from one image. -/
lemma foldl_readRegs {addr dst stride size : ℕ} (hs : 0 < stride) (hz : stride ≤ size) (n : ℕ)
    (m : ℕ → UInt8) :
    (List.range (n + 1)).foldl (fun m i =>
        readRegs regs (u32 (addr + i * stride)) (dst + stride * i) size m) m =
      readRegs regs addr dst (stride * n + size) m := by
  have himage : ∀ (m : ℕ → UInt8) (i : ℕ),
      readRegs regs (u32 (addr + i * stride)) (dst + stride * i) size m =
        copyFrom (fun a => regs (u32 (addr + (a - dst)))) (Window (dst + stride * i) size) m := by
    intro m i
    refine copyFrom_congr fun a ha => ?_
    have hge : dst + stride * i ≤ a := ha.1
    rw [Nat.mul_comm i stride]
    congr 1
    simp only [u32]
    omega
  simp only [himage]
  funext a
  have hfold := foldl_copyFrom (fun a => regs (u32 (addr + (a - dst))))
    (fun i => Window (dst + stride * i) size) a (List.range (n + 1)) m
  rw [exists_window_iff hs hz] at hfold
  rw [readRegs]
  by_cases ha : Window dst (stride * n + size) a
  · rw [hfold.1 ha, copyFrom_of_mem ha]
  · rw [hfold.2 ha, copyFrom_of_not_mem ha]

/-- What is read is stored from the destination on. -/
lemma readRegs_add {addr dst size k : ℕ} {m : ℕ → UInt8} (h : k < size) :
    readRegs regs addr dst size m (dst + k) = regs (u32 (addr + k)) := by
  rw [readRegs, copyFrom_of_mem ⟨Nat.le_add_right _ _, Nat.add_lt_add_left h _⟩,
    Nat.add_sub_cancel_left]

/-- Nothing else changes. -/
lemma readRegs_outside {addr dst size a : ℕ} {m : ℕ → UInt8} (h : a < dst ∨ dst + size ≤ a) :
    readRegs regs addr dst size m a = m a := by
  refine copyFrom_of_not_mem fun hw => ?_
  obtain ⟨hge, hlt⟩ := hw
  omega

lemma leWord_readRegs {addr dst size : ℕ} {m : ℕ → UInt8} {a : ℕ} (h : a + 4 ≤ dst) :
    leWord (readRegs regs addr dst size m) a 4 = leWord m a 4 := by
  exact leWord_congr fun i hi => readRegs_outside (.inl (by omega))

/-- The offset of the table stays the same while the table is fetched. -/
lemma fetchTable_eq {idromAddr offsetAt dst stride size n : ℕ} (hoffset : offsetAt + 4 ≤ dst)
    (hs : 0 < stride) (hz : stride ≤ size) (m : ℕ → UInt8) :
    fetchTable regs idromAddr offsetAt dst stride size (n + 1) m =
      readRegs regs (idromAddr + leWord m offsetAt 4) dst (stride * n + size) m := by
  have hconst : ∀ (l : List ℕ) (m' : ℕ → UInt8), leWord m' offsetAt 4 = leWord m offsetAt 4 →
      l.foldl (fun m i => readRegs regs (u32 (idromAddr + leWord m offsetAt 4 + i * stride))
        (dst + stride * i) size m) m' =
      l.foldl (fun m' i => readRegs regs (u32 (idromAddr + leWord m offsetAt 4 + i * stride))
        (dst + stride * i) size m') m' := by
    intro l
    induction l with
    | nil => exact fun _ _ => rfl
    | cons i l ih =>
        intro m' hm'
        rw [List.foldl_cons, List.foldl_cons, hm']
        exact ih _ ((leWord_readRegs (hoffset.trans (Nat.le_add_right _ _))).trans hm')
  rw [fetchTable, hconst _ m rfl, foldl_readRegs hs hz]

end Read

/-! ### What is read -/

section Addresses

variable (regs : ℕ → UInt8)

/-- The address of the IDROM. -/
def idromAddr : ℕ := leWord regs hm2IdromAddr 4

/-- The number in the IDROM at an offset. -/
def idromWord (offset : ℕ) : ℕ := leWord (fun k => regs (u32 (idromAddr regs + k))) offset 4

/-- The address of the module descriptors. -/
def modulesAddr : ℕ := idromAddr regs + idromWord regs 4

/-- The address of the pin descriptors. -/
def pinsAddr : ℕ := idromAddr regs + idromWord regs 8

end Addresses

/-- The fields hold the bytes at their register addresses, and no other byte has changed. -/
structure ReadsExactly (regs : ℕ → UInt8) (base : ℕ) (m m' : ℕ → UInt8) : Prop where
  configName : ∀ k < hm2ConfigNameLen, m' (base + k) = regs (hm2ConfigName + k)
  idrom : ∀ k < sizeofIdromDesc, m' (idromAt base + k) = regs (u32 (idromAddr regs + k))
  modules : ∀ i < hm2MaxModules, ∀ k < sizeofModuleDesc,
    m' (modulesAt base + (12 * i + k)) = regs (u32 (modulesAddr regs + (12 * i + k)))
  pins : ∀ i < hm2MaxPins, ∀ k < sizeofPinDesc,
    m' (pinsAt base + (4 * i + k)) = regs (u32 (pinsAddr regs + (4 * i + k)))
  confined : ∀ a, a < base ∨ ssInterfaceAt base ≤ a → m' a = m a

/-- A board with the firmware whose descriptors were not read yet. -/
structure NotYetRead (regs : ℕ → UInt8) (base : ℕ) (m : ℕ → UInt8) : Prop where
  cookie : leWord regs hm2CookieReg 4 = hm2Cookie
  fresh : (List.range 8).map (fun k => m (base + k)) ≠ ascii "HOSTMOT2"

section Result

variable {regs : ℕ → UInt8} {base : ℕ} {m : ℕ → UInt8}

/-- The memory after the name and the IDROM were read. -/
def idromRead (regs : ℕ → UInt8) (base : ℕ) (m : ℕ → UInt8) : ℕ → UInt8 :=
  readRegs regs (idromAddr regs) (idromAt base) sizeofIdromDesc
    (readRegs regs hm2ConfigName base hm2ConfigNameLen m)

/-- A number of the IDROM that was read. -/
lemma leWord_idromRead {offset : ℕ} (h : offset + 4 ≤ sizeofIdromDesc) :
    leWord (idromRead regs base m) (idromAt base + offset) 4 = idromWord regs offset := by
  have hshift : ∀ (f : ℕ → UInt8) (k : ℕ), leWord f (idromAt base + offset) k =
      leWord (fun a => f (idromAt base + a)) offset k := by
    intro f k
    generalize offset = o
    induction k generalizing o with
    | zero => rfl
    | succ k ih =>
        rw [leWord, leWord, Nat.add_assoc, ih]
  rw [hshift, idromWord]
  refine leWord_congr fun i hi => ?_
  exact readRegs_add (by omega)

/-- The function makes four copies, and the last one is eight bytes too long. -/
lemma hm2ReadIdrom_eq (h : NotYetRead regs base m) :
    hm2ReadIdrom regs base m =
      readRegs regs (pinsAddr regs) (pinsAt base) 584
        (readRegs regs (modulesAddr regs) (modulesAt base) 384 (idromRead regs base m)) := by
  have hmodules : fetchTable regs (idromAddr regs) (offsetToModulesAt base) (modulesAt base)
      sizeofModuleDesc sizeofModuleDesc hm2MaxModules (idromRead regs base m) =
      readRegs regs (modulesAddr regs) (modulesAt base) 384 (idromRead regs base m) := by
    have hoffset : offsetToModulesAt base + 4 ≤ modulesAt base := by
      change base + 8 + 4 + 4 ≤ base + 8 + 64
      omega
    refine (fetchTable_eq (n := 31) hoffset (by decide) le_rfl _).trans ?_
    rw [offsetToModulesAt, leWord_idromRead (by decide)]
    rfl
  have hpins : ∀ m' : ℕ → UInt8, leWord m' (offsetToPinsAt base) 4 = idromWord regs 8 →
      fetchTable regs (idromAddr regs) (offsetToPinsAt base) (pinsAt base) sizeofPinDesc
        sizeofModuleDesc hm2MaxPins m' = readRegs regs (pinsAddr regs) (pinsAt base) 584 m' := by
    intro m' hm'
    have hoffset : offsetToPinsAt base + 4 ≤ pinsAt base := by
      change base + 8 + 8 + 4 ≤ base + 8 + 64 + 384
      omega
    refine (fetchTable_eq (n := 143) hoffset (by decide) (by decide) _).trans ?_
    rw [hm']
    rfl
  -- the offset of the pins is not among the modules that were read over it
  have hbefore : offsetToPinsAt base + 4 ≤ modulesAt base := by
    change base + 8 + 8 + 4 ≤ base + 8 + 64
    omega
  rw [hm2ReadIdrom, if_neg (not_not_intro h.cookie), if_neg h.fresh]
  change fetchTable _ _ _ _ _ _ _ (fetchTable _ _ _ _ _ _ _ (idromRead regs base m)) = _
  rw [show leWord regs hm2IdromAddr 4 = idromAddr regs from rfl, hmodules]
  exact hpins _ ((leWord_readRegs hbefore).trans (leWord_idromRead (by decide)))

/-- The table of pins, and the eight bytes behind it, are the bytes at their addresses. -/
lemma hm2ReadIdrom_pins (h : NotYetRead regs base m) {k : ℕ} (hk : k < 584) :
    hm2ReadIdrom regs base m (pinsAt base + k) = regs (u32 (pinsAddr regs + k)) := by
  rw [hm2ReadIdrom_eq h, readRegs_add hk]

lemma hm2ReadIdrom_modules (h : NotYetRead regs base m) {k : ℕ} (hk : k < 384) :
    hm2ReadIdrom regs base m (modulesAt base + k) = regs (u32 (modulesAddr regs + k)) := by
  obtain ⟨hidrom, hmodules, hpins, hss⟩ := fields_eq base
  rw [hm2ReadIdrom_eq h, readRegs_outside (by omega), readRegs_add hk]

lemma hm2ReadIdrom_idrom (h : NotYetRead regs base m) {k : ℕ} (hk : k < sizeofIdromDesc) :
    hm2ReadIdrom regs base m (idromAt base + k) = regs (u32 (idromAddr regs + k)) := by
  obtain ⟨hidrom, hmodules, hpins, hss⟩ := fields_eq base
  have hlen : sizeofIdromDesc = 64 := rfl
  rw [hm2ReadIdrom_eq h, readRegs_outside (by omega), readRegs_outside (by omega), idromRead,
    readRegs_add hk]

lemma hm2ReadIdrom_name (h : NotYetRead regs base m) {k : ℕ} (hk : k < hm2ConfigNameLen) :
    hm2ReadIdrom regs base m (base + k) = regs (hm2ConfigName + k) := by
  obtain ⟨hidrom, hmodules, hpins, hss⟩ := fields_eq base
  have hlen : hm2ConfigNameLen = 8 := rfl
  rw [hm2ReadIdrom_eq h, readRegs_outside (by omega), readRegs_outside (by omega), idromRead,
    readRegs_outside (by omega), readRegs_add hk, u32, Nat.mod_eq_of_lt]
  simp only [hm2ConfigName]
  omega

lemma hm2ReadIdrom_outside (h : NotYetRead regs base m) {a : ℕ}
    (ha : a < base ∨ ssInterfaceAt base + 8 ≤ a) : hm2ReadIdrom regs base m a = m a := by
  obtain ⟨hidrom, hmodules, hpins, hss⟩ := fields_eq base
  have hlen : hm2ConfigNameLen = 8 ∧ sizeofIdromDesc = 64 := ⟨rfl, rfl⟩
  rw [hm2ReadIdrom_eq h, readRegs_outside (by omega), readRegs_outside (by omega), idromRead,
    readRegs_outside (by omega), readRegs_outside (by omega)]

/-- **The descriptors are read exactly, and nothing else changes, where the eight bytes
behind the table of pins are those that `ss_interface` begins with.** -/
theorem hm2ReadIdrom_exact_iff (h : NotYetRead regs base m) :
    ReadsExactly regs base m (hm2ReadIdrom regs base m) ↔
      ∀ j < 8, regs (u32 (pinsAddr regs + (576 + j))) = m (ssInterfaceAt base + j) := by
  obtain ⟨hidrom, hmodules, hpins, hss⟩ := fields_eq base
  constructor
  · intro hexact j hj
    rw [← hm2ReadIdrom_pins h (show 576 + j < 584 by omega),
      show pinsAt base + (576 + j) = ssInterfaceAt base + j by omega]
    exact hexact.confined _ (.inr (Nat.le_add_right _ _))
  · intro hbehind
    refine ⟨fun k hk => hm2ReadIdrom_name h hk, fun k hk => hm2ReadIdrom_idrom h hk, ?_, ?_, ?_⟩
    · intro i hi k hk
      have hlen : hm2MaxModules = 32 ∧ sizeofModuleDesc = 12 := ⟨rfl, rfl⟩
      exact hm2ReadIdrom_modules h (by omega)
    · intro i hi k hk
      have hlen : hm2MaxPins = 144 ∧ sizeofPinDesc = 4 := ⟨rfl, rfl⟩
      exact hm2ReadIdrom_pins h (by omega)
    · intro a ha
      by_cases hover : Window (ssInterfaceAt base) 8 a
      · -- the eight bytes that the last two pins bring along
        obtain ⟨hge, hlt⟩ := hover
        obtain ⟨j, rfl⟩ := Nat.exists_eq_add_of_le hge
        rw [← hbehind j (by omega), ← hm2ReadIdrom_pins h (show 576 + j < 584 by omega),
          show pinsAt base + (576 + j) = ssInterfaceAt base + j by omega]
      · refine hm2ReadIdrom_outside h ?_
        rcases ha with ha | ha
        · exact .inl ha
        · exact .inr (Nat.le_of_not_lt fun hlt => hover ⟨ha, hlt⟩)

end Result

/-! ### A board with a small IDROM -/

/-- An IDROM at `0x400`, with the modules at `0x440` and the pins at `0x600`. -/
def smallIdrom : List (ℕ × UInt8) :=
  [(0x100, 0xFE), (0x101, 0xCA), (0x102, 0xAA), (0x103, 0x55), (0x10D, 0x04), (0x404, 0x40),
    (0x409, 0x02)]

/-- The registers with some of their bytes, where all others are 0. -/
def regsOf (bytes : List (ℕ × UInt8)) (a : ℕ) : UInt8 := (bytes.lookup a).getD 0

/-- Where the registers behind the pins are 0 and `ss_interface` is clear, nothing is changed. -/
theorem hm2ReadIdrom_exact_iff_smallIdrom :
    ReadsExactly (regsOf smallIdrom) 208 (fun _ => 0)
      (hm2ReadIdrom (regsOf smallIdrom) 208 fun _ => 0) :=
  (hm2ReadIdrom_exact_iff ⟨by decide, by decide⟩).2 (by decide)

/-- **A register behind the pins is copied into `ss_interface`.** -/
theorem smallIdrom_overrun :
    NotYetRead (regsOf ((0x840, 1) :: smallIdrom)) 208 (fun _ => 0) ∧
      ¬ ReadsExactly (regsOf ((0x840, 1) :: smallIdrom)) 208 (fun _ => 0)
        (hm2ReadIdrom (regsOf ((0x840, 1) :: smallIdrom)) 208 fun _ => 0) := by
  have hnot : NotYetRead (regsOf ((0x840, 1) :: smallIdrom)) 208 (fun _ => 0) :=
    ⟨by decide, by decide⟩
  refine ⟨hnot, fun hexact => ?_⟩
  have hzero := hexact.confined (ssInterfaceAt 208) (.inr le_rfl)
  rw [show ssInterfaceAt 208 = pinsAt 208 + 576 from rfl,
    hm2ReadIdrom_pins hnot (by decide)] at hzero
  exact absurd hzero (by decide)

/-! ### The descriptors as values -/

/-- The descriptors in the bytes of the three fields. -/
def Hostmot2.decode (idrom modules pins : ℕ → UInt8) : Hostmot2 where
  idrom := {
    ioPorts := leWord idrom 28 4
    ioWidth := leWord idrom 32 4
    portWidth := leWord idrom 36 4
    instanceStride0 := leWord idrom 48 4
    instanceStride1 := leWord idrom 52 4 }
  modules i := {
    gtag := modules (12 * i)
    baseAddress := (leWord modules (12 * i + 4) 2).toUInt16
    strides := modules (12 * i + 7) }
  pins i := {
    secPin := pins (4 * i)
    secTag := pins (4 * i + 1)
    secChan := pins (4 * i + 2)
    gtag := pins (4 * i + 3) }

/-- The descriptors in the memory of the program. -/
def Hostmot2.inMemory (base : ℕ) (m : ℕ → UInt8) : Hostmot2 :=
  .decode (fun k => m (idromAt base + k)) (fun k => m (modulesAt base + k))
    fun k => m (pinsAt base + k)

/-- The descriptors in the registers of a board. -/
def Hostmot2.inRegisters (regs : ℕ → UInt8) : Hostmot2 :=
  .decode (fun k => regs (u32 (idromAddr regs + k))) (fun k => regs (u32 (modulesAddr regs + k)))
    fun k => regs (u32 (pinsAddr regs + k))

/-- Only the bytes of the fields matter. -/
lemma Hostmot2.decode_congr {idrom idrom' modules modules' pins pins' : ℕ → UInt8}
    (hidrom : ∀ k < 64, idrom k = idrom' k) (hmodules : ∀ k < 384, modules k = modules' k)
    (hpins : ∀ k < 576, pins k = pins' k) :
    Hostmot2.decode idrom modules pins = Hostmot2.decode idrom' modules' pins' := by
  have hword : ∀ o, o + 4 ≤ 64 → leWord idrom o 4 = leWord idrom' o 4 := fun o ho =>
    leWord_congr fun i hi => hidrom _ (by omega)
  have hmodule : ∀ i : Fin hm2MaxModules, ∀ k < 12, modules (12 * i + k) = modules' (12 * i + k) :=
    fun i k hk => hmodules _ (by have hi : i.val < 32 := i.isLt; omega)
  have hpin : ∀ i : Fin hm2MaxPins, ∀ k < 4, pins (4 * i + k) = pins' (4 * i + k) :=
    fun i k hk => hpins _ (by have hi : i.val < 144 := i.isLt; omega)
  have haddr : ∀ i : Fin hm2MaxModules,
      leWord modules (12 * i + 4) 2 = leWord modules' (12 * i + 4) 2 := fun i =>
    leWord_congr fun k hk => by
      rw [Nat.add_assoc]
      exact hmodule i _ (by omega)
  rw [decode, decode, mk.injEq]
  refine ⟨?_, ?_, ?_⟩
  · rw [hword 28 (by decide), hword 32 (by decide), hword 36 (by decide), hword 48 (by decide),
      hword 52 (by decide)]
  · funext i
    rw [haddr i, hmodule i 7 (by decide), ← Nat.add_zero (12 * i.val), hmodule i 0 (by decide)]
  · funext i
    rw [hpin i 1 (by decide), hpin i 2 (by decide), hpin i 3 (by decide),
      ← Nat.add_zero (4 * i.val), hpin i 0 (by decide)]

/-- The descriptors that the other functions work with are those in the registers, also where
the bytes behind the table of pins are not. -/
theorem inMemory_hm2ReadIdrom {regs : ℕ → UInt8} {base : ℕ} {m : ℕ → UInt8}
    (h : NotYetRead regs base m) :
    Hostmot2.inMemory base (hm2ReadIdrom regs base m) = Hostmot2.inRegisters regs :=
  Hostmot2.decode_congr (fun _ hk => hm2ReadIdrom_idrom h hk)
    (fun _ hk => hm2ReadIdrom_modules h hk)
    fun _ hk => hm2ReadIdrom_pins h (hk.trans (by decide))

/-- Only the registers matter that the IDROM and its pointer are in. -/
lemma Hostmot2.inRegisters_congr {regs regs' : ℕ → UInt8} {lo hi : ℕ} (hhi : hi ≤ 2 ^ 32)
    (h : ∀ a, lo ≤ a → a < hi → regs a = regs' a)
    (hpointer : lo ≤ hm2IdromAddr ∧ hm2IdromAddr + 4 ≤ hi)
    (hidrom : lo ≤ idromAddr regs' ∧ idromAddr regs' + 64 ≤ hi)
    (hmodules : lo ≤ modulesAddr regs' ∧ modulesAddr regs' + 384 ≤ hi)
    (hpins : lo ≤ pinsAddr regs' ∧ pinsAddr regs' + 576 ≤ hi) :
    Hostmot2.inRegisters regs = Hostmot2.inRegisters regs' := by
  have hbyte : ∀ a n, lo ≤ a ∧ a + n ≤ hi → ∀ k < n, regs (u32 (a + k)) = regs' (u32 (a + k)) := by
    intro a n ha k hk
    rw [u32_of_lt (by omega)]
    exact h _ (by omega) (by omega)
  have haddr : idromAddr regs = idromAddr regs' :=
    leWord_congr fun i hi => h _ (by omega) (by omega)
  have hword : ∀ offset, offset + 4 ≤ 64 → idromWord regs offset = idromWord regs' offset := by
    intro offset hoffset
    rw [idromWord, idromWord, haddr]
    exact leWord_congr fun i hi => hbyte _ 64 hidrom _ (by omega)
  have hmod : modulesAddr regs = modulesAddr regs' := by
    rw [modulesAddr, modulesAddr, haddr, hword 4 (by decide)]
  have hpin : pinsAddr regs = pinsAddr regs' := by
    rw [pinsAddr, pinsAddr, haddr, hword 8 (by decide)]
  rw [inRegisters, inRegisters, haddr, hmod, hpin]
  exact Hostmot2.decode_congr (hbyte _ 64 hidrom) (hbyte _ 384 hmodules) (hbyte _ 576 hpins)

end Mesaflash
