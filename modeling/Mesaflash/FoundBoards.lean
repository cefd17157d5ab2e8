import Mesaflash.Registry

/-!
What the boards that are found have.

A scan that finds a board registers one of a few kinds of entries.  All of them have functions
that open and close the board, that print information and that access registers, but for the
boards that this file singles out: the 7I64 on USB has no function at all, the 5I71, boards in
recover mode and the 7I43 without firmware have none for their registers, and the 7I43 with
the EPPIO firmware has functions for a flash memory but no part number to compare files with.
-/

namespace Mesaflash

open Lib

namespace BoardEntry

/-! ### Kinds of boards -/

variable (b : BoardEntry)

/-- The 7I64 on USB. -/
def Is7i64 : Prop := b.type = .usb ∧ b.llio.boardName = ascii "7I64"

/-- The 5I71, boards in recover mode, and the 7I43 without firmware. -/
def NoRegisters : Prop :=
  b.llio.boardName = ascii "5I71" ∨ b.llio.boardName = ascii "RECOVER" ∨
    (b.llio.boardName = ascii "7I43" ∧ b.mode = .cpld)

/-- The 7I43 with the EPPIO firmware. -/
def IsEppio : Prop := b.llio.boardName = ascii "7I43" ∧ b.flash = .epp

instance : Decidable b.Is7i64 := inferInstanceAs (Decidable (_ ∧ _))

instance : Decidable b.NoRegisters := inferInstanceAs (Decidable (_ ∨ _))

instance : Decidable b.IsEppio := inferInstanceAs (Decidable (_ ∧ _))

/-- The names of the boards above. -/
def partialNames : List CStr := [ascii "5I71", ascii "RECOVER", ascii "7I43", ascii "7I64"]

/-- What the scans assign to a board. -/
structure Sound : Prop where
  unset : b.Is7i64 → b.boardOpen = none
  functions : ¬ b.Is7i64 → b.boardOpen = some b.type ∧ b.boardClose = some b.type ∧
    b.printInfo = some b.type
  registers : ¬ b.Is7i64 → ¬ b.NoRegisters → b.read = some b.type ∧ b.write = some b.type
  noRegisters : b.NoRegisters → b.read = none ∧ b.write = none
  noRegisters_flash : b.NoRegisters → b.memBase = 0 ∧ b.flash ≠ .hm2
  registered : b.Registered
  verifyFlash : b.llio.verifyFlash = b.llio.writeFlash
  partNumber : b.llio.writeFlash.isSome → ¬ b.IsEppio → b.llio.fpgaPartNumber.isSome
  eppio : b.IsEppio → b.type = .epp ∧ b.mode = .fpga ∧ b.fallbackSupport = 0 ∧ b.recover = 0
  eppio_flash : b.IsEppio → b.llio.writeFlash.isSome ∧ b.llio.restoreFlash = none ∧
    b.llio.fpgaPartNumber = none

variable {b}

/-- A board of another name has all functions. -/
lemma sound_of_name (hname : b.llio.boardName ∉ partialNames)
    (hfunctions : b.boardOpen = some b.type ∧ b.boardClose = some b.type ∧
      b.printInfo = some b.type)
    (hregisters : b.read = some b.type ∧ b.write = some b.type) (hregistered : b.Registered)
    (hverify : b.llio.verifyFlash = b.llio.writeFlash)
    (hpart : b.llio.writeFlash.isSome → b.llio.fpgaPartNumber.isSome) : b.Sound := by
  simp only [partialNames, List.mem_cons, List.not_mem_nil, or_false, not_or] at hname
  obtain ⟨h5i71, hrecover, h7i43, h7i64⟩ := hname
  have h₁ : ¬ b.Is7i64 := fun h => h7i64 h.2
  have h₂ : ¬ b.NoRegisters := by
    rintro (h | h | ⟨h, -⟩)
    · exact h5i71 h
    · exact hrecover h
    · exact h7i43 h
  have h₃ : ¬ b.IsEppio := fun h => h7i43 h.1
  exact
    { unset := fun h => absurd h h₁
      functions := fun _ => hfunctions
      registers := fun _ _ => hregisters
      noRegisters := fun h => absurd h h₂
      noRegisters_flash := fun h => absurd h h₂
      registered := hregistered
      verifyFlash := hverify
      partNumber := fun h _ => hpart h
      eppio := fun h => absurd h h₃
      eppio_flash := fun h => absurd h h₃ }

/-- A board without functions for registers. -/
lemma sound_of_noRegisters (hno : b.NoRegisters) (htype : ¬ b.Is7i64)
    (hfunctions : b.boardOpen = some b.type ∧ b.boardClose = some b.type ∧
      b.printInfo = some b.type)
    (hregisters : b.read = none ∧ b.write = none) (hbase : b.memBase = 0)
    (hhm2 : b.flash ≠ .hm2) (hepp : b.flash ≠ .epp) (hregistered : b.Registered)
    (hverify : b.llio.verifyFlash = b.llio.writeFlash)
    (hpart : b.llio.writeFlash.isSome → b.llio.fpgaPartNumber.isSome) : b.Sound where
  unset := fun h => absurd h htype
  functions := fun _ => hfunctions
  registers := fun _ h => absurd hno h
  noRegisters := fun _ => hregisters
  noRegisters_flash := fun _ => ⟨hbase, hhm2⟩
  registered := hregistered
  verifyFlash := hverify
  partNumber := fun h _ => hpart h
  eppio := fun h => absurd h.2 hepp
  eppio_flash := fun h => absurd h.2 hepp

end BoardEntry

open BoardEntry

section Option

variable {c : Prop} [Decidable c] {b : BoardEntry} {x y : Option BoardEntry}

lemma sound_ite (hx : ∀ b ∈ x, b.Sound) (hy : ∀ b ∈ y, b.Sound) :
    ∀ b ∈ if c then x else y, b.Sound := by
  split
  · exact hx
  · exact hy

lemma sound_some (hb : b.Sound) : ∀ b' ∈ some b, b'.Sound := by
  intro b' hb'
  obtain rfl := Option.mem_some_iff.mp hb'
  exact hb

lemma sound_none : ∀ b ∈ (none : Option BoardEntry), b.Sound := fun b hb =>
  absurd hb (Option.not_mem_none b)

end Option

/-! ### PCI -/

section Pci

variable {access : BoardAccess} {dev : PciDev}

lemma recoverEntry_sound : (recoverEntry access dev).Sound :=
  sound_of_noRegisters (.inr (.inl rfl)) (fun h => nomatch h.1) ⟨rfl, rfl, rfl⟩ ⟨rfl, rfl⟩ rfl
    nofun nofun trivial rfl fun _ => rfl

lemma mesaEntry_sound {name part : String} {fpgaType : FpgaType} {reload : Option Reload}
    (hname : ascii name ∉ partialNames) :
    (mesaEntry access dev name part fpgaType reload).Sound :=
  sound_of_name hname ⟨rfl, rfl, rfl⟩ ⟨rfl, rfl⟩ trivial rfl fun _ => rfl

lemma plxEntry_sound {name part : String} {memory : ℕ} {program : ProgramFpga}
    {reset : Reset} (hname : ascii name ∉ partialNames) :
    (plxEntry access dev name part memory program reset).Sound :=
  sound_of_name hname ⟨rfl, rfl, rfl⟩ ⟨rfl, rfl⟩ ⟨rfl, rfl, rfl, rfl⟩ rfl fun _ => rfl

lemma mesa3x20Entry_sound {part : String} : (mesa3x20Entry access dev part).Sound :=
  sound_of_name (show ascii "3X20" ∉ partialNames by decide) ⟨rfl, rfl, rfl⟩ ⟨rfl, rfl⟩ trivial
    rfl fun _ => rfl

lemma mesa5i71Entry_sound : (mesa5i71Entry access dev).Sound :=
  sound_of_noRegisters (.inl rfl) (fun h => nomatch h.1) ⟨rfl, rfl, rfl⟩ ⟨rfl, rfl⟩ rfl nofun
    nofun ⟨rfl, rfl, rfl, rfl⟩ rfl nofun

/-- Every device that is a board is one that has what it should. -/
lemma pciEntry_sound : ∀ b ∈ pciEntry access dev, b.Sound := by
  unfold pciEntry
  refine sound_ite ?_ (sound_ite ?_ sound_none)
  · exact sound_ite (sound_some (mesaEntry_sound (by decide)))
      (sound_ite (sound_some (mesaEntry_sound (by decide)))
      (sound_ite (sound_some (mesaEntry_sound (by decide)))
      (sound_ite (sound_some (mesaEntry_sound (by decide)))
      (sound_ite (sound_some (mesaEntry_sound (by decide)))
      (sound_ite (sound_some (mesaEntry_sound (by decide))) sound_none)))))
  · refine sound_ite ?_ (sound_ite ?_ (sound_ite ?_ ?_))
    · exact sound_ite (sound_some (plxEntry_sound (by decide)))
        (sound_ite (sound_some (plxEntry_sound (by decide))) sound_none)
    · exact sound_ite (sound_some (plxEntry_sound (by decide)))
        (sound_ite (sound_some (plxEntry_sound (by decide)))
        (sound_ite (sound_some (plxEntry_sound (by decide)))
        (sound_ite (sound_some (plxEntry_sound (by decide)))
        (sound_ite (sound_some (plxEntry_sound (by decide)))
        (sound_ite (sound_some (plxEntry_sound (by decide)))
        (sound_ite (sound_some (plxEntry_sound (by decide))) sound_none))))))
    · exact sound_ite (sound_some mesa3x20Entry_sound)
        (sound_ite (sound_some mesa3x20Entry_sound)
        (sound_ite (sound_some mesa3x20Entry_sound) sound_none))
    · exact sound_ite (sound_some mesa5i71Entry_sound) sound_none

end Pci

/-! ### EPP -/

section Epp

variable {access : BoardAccess} {addr : CStr} {baseLo : ℕ}

lemma epp7i90Entry_sound : (epp7i90Entry access addr baseLo).Sound :=
  sound_of_name (show ascii "7I90HD" ∉ partialNames by decide) ⟨rfl, rfl, rfl⟩ ⟨rfl, rfl⟩
    trivial rfl fun _ => rfl

lemma epp7c81Entry_sound {devAddr : CStr} :
    BoardEntry.Sound { epp7c81Entry access addr baseLo with devAddr := devAddr } :=
  sound_of_name (show ascii "7C81" ∉ partialNames by decide) ⟨rfl, rfl, rfl⟩ ⟨rfl, rfl⟩
    trivial rfl fun _ => rfl

lemma eppCpldEntry_sound : (eppCpldEntry access addr baseLo).Sound :=
  sound_of_noRegisters (.inr (.inr ⟨rfl, rfl⟩)) (fun h => nomatch h.1) ⟨rfl, rfl, rfl⟩
    ⟨rfl, rfl⟩ rfl nofun nofun ⟨rfl, rfl, rfl, rfl⟩ rfl nofun

/-- No other board is named like a 7I43 with firmware. -/
lemma not_noRegisters_7i43 {b : BoardEntry} (hname : b.llio.boardName = ascii "7I43")
    (hmode : b.mode = .fpga) : ¬ b.NoRegisters := by
  rintro (h | h | ⟨-, h⟩)
  · exact absurd (hname.symm.trans h) (by decide)
  · exact absurd (hname.symm.trans h) (by decide)
  · exact absurd (hmode.symm.trans h) nofun

lemma epp7i43Entry_sound : (epp7i43Entry access addr baseLo).Sound where
  unset h := nomatch h.1
  functions _ := ⟨rfl, rfl, rfl⟩
  registers _ _ := ⟨rfl, rfl⟩
  noRegisters h := absurd h (not_noRegisters_7i43 rfl rfl)
  noRegisters_flash h := absurd h (not_noRegisters_7i43 rfl rfl)
  registered := trivial
  verifyFlash := rfl
  partNumber := nofun
  eppio h := nomatch h.2
  eppio_flash h := nomatch h.2

lemma eppioEntry_sound : (eppioEntry access addr baseLo).Sound where
  unset h := nomatch h.1
  functions _ := ⟨rfl, rfl, rfl⟩
  registers _ _ := ⟨rfl, rfl⟩
  noRegisters h := absurd h (not_noRegisters_7i43 rfl rfl)
  noRegisters_flash h := absurd h (not_noRegisters_7i43 rfl rfl)
  registered := trivial
  verifyFlash := rfl
  partNumber _ h := absurd ⟨rfl, rfl⟩ h
  eppio _ := ⟨rfl, rfl, rfl, rfl⟩
  eppio_flash _ := ⟨rfl, rfl, rfl⟩

end Epp

/-! ### USB -/

section Usb

variable {access : BoardAccess} {devAddr : CStr}

lemma usb7i64Entry_sound : (usb7i64Entry access devAddr).Sound where
  unset _ := rfl
  functions h := absurd ⟨rfl, rfl⟩ h
  registers h := absurd ⟨rfl, rfl⟩ h
  noRegisters _ := ⟨rfl, rfl⟩
  noRegisters_flash _ := ⟨rfl, nofun⟩
  registered := ⟨rfl, rfl, rfl, rfl⟩
  verifyFlash := rfl
  partNumber := nofun
  eppio h := nomatch h.2
  eppio_flash h := nomatch h.2

/-- A 7I43 on USB with HostMot2, whether its part number is known or not. -/
lemma sound_of_usb7i43 {b : BoardEntry} (hname : b.llio.boardName = ascii "7I43")
    (hmode : b.mode = .fpga) (hflash : b.flash = .none)
    (hfunctions : b.boardOpen = some b.type ∧ b.boardClose = some b.type ∧
      b.printInfo = some b.type)
    (hregisters : b.read = some b.type ∧ b.write = some b.type) (hregistered : b.Registered)
    (hverify : b.llio.verifyFlash = none) (hwrite : b.llio.writeFlash = none) : b.Sound where
  unset h := absurd (hname.symm.trans h.2) (by decide)
  functions _ := hfunctions
  registers _ _ := hregisters
  noRegisters h := absurd h (not_noRegisters_7i43 hname hmode)
  noRegisters_flash h := absurd h (not_noRegisters_7i43 hname hmode)
  registered := hregistered
  verifyFlash := hverify.trans hwrite.symm
  partNumber h := by simp [hwrite] at h
  eppio h := absurd (hflash.symm.trans h.2) nofun
  eppio_flash h := absurd (hflash.symm.trans h.2) nofun

lemma usb7i43Entry_sound {read : ℕ → ℕ} : (usb7i43Entry access read devAddr).Sound := by
  unfold usb7i43Entry
  dsimp only
  split
  · split
    · exact sound_of_usb7i43 rfl rfl rfl ⟨rfl, rfl, rfl⟩ ⟨rfl, rfl⟩ ⟨rfl, rfl, rfl, rfl⟩ rfl rfl
    · exact sound_of_usb7i43 rfl rfl rfl ⟨rfl, rfl, rfl⟩ ⟨rfl, rfl⟩ ⟨rfl, rfl, rfl, rfl⟩ rfl rfl
  · exact sound_of_usb7i43 rfl rfl rfl ⟨rfl, rfl, rfl⟩ ⟨rfl, rfl⟩ ⟨rfl, rfl, rfl, rfl⟩ rfl rfl

lemma usbCpldEntry_sound {size : UInt8} : (usbCpldEntry access size devAddr).Sound :=
  sound_of_noRegisters (.inr (.inr ⟨rfl, rfl⟩))
    (fun h => absurd h.2 (show ascii "7I43" ≠ ascii "7I64" by decide)) ⟨rfl, rfl, rfl⟩
    ⟨rfl, rfl⟩ rfl nofun nofun ⟨rfl, rfl, rfl, rfl⟩ rfl nofun

end Usb

/-! ### SPI and LBP16 -/

section Lbp16

variable {access : BoardAccess} {devAddr : CStr}

lemma spiEntry_sound {name : String} (hname : ascii name ∉ partialNames) :
    (spiEntry access name devAddr).Sound :=
  sound_of_name hname ⟨rfl, rfl, rfl⟩ ⟨rfl, rfl⟩ trivial rfl fun _ => rfl

lemma ethEntry_sound {name srcIp : CStr} {part : String} {fpgaType : FpgaType}
    (hname : name ∉ partialNames) : (ethEntry access name part fpgaType srcIp).Sound :=
  sound_of_name hname ⟨rfl, rfl, rfl⟩ ⟨rfl, rfl⟩ trivial rfl fun _ => rfl

lemma serialEntry_sound {name : CStr} {part : String} (hname : name ∉ partialNames) :
    (lbp16Entry access .ser name part devAddr).Sound :=
  sound_of_name hname ⟨rfl, rfl, rfl⟩ ⟨rfl, rfl⟩ trivial rfl fun _ => rfl

/-- Every Ethernet board is one that has what it should. -/
lemma ethNamed_sound {name srcIp : CStr} : ∀ b ∈ ethNamed access name srcIp, b.Sound := by
  have hnames : ∀ row ∈ ethBoards, (ascii row.1).take row.2.1 ∉ partialNames := by
    decide
  unfold ethNamed
  split
  · rename_i row letters part fpgaType hrow
    exact sound_some (ethEntry_sound (hnames _ (List.mem_of_find?_eq_some hrow)))
  · exact sound_ite (sound_some (ethEntry_sound (by decide))) sound_none

/-- The name of a serial board is not one of the names above. -/
lemma serialName_notMem {info : List UInt8} (h : (ascii "7I90HD").isPrefixOf info) :
    cstr info ∉ partialNames := by
  have hnames : ∀ name ∈ partialNames, name.take 6 ≠ ascii "7I90HD" := by decide
  obtain ⟨rest, rfl⟩ := List.isPrefixOf_iff_prefix.mp h
  intro hmem
  refine hnames _ hmem ?_
  rw [cstr_of_not_mem (by decide)]
  exact List.take_left' rfl

end Lbp16

/-! ### Scans -/

/-- Every board has what it should. -/
def AllSound (boards : List BoardEntry) : Prop := ∀ b ∈ boards, b.Sound

section Scans

variable {access : BoardAccess} {boards : List BoardEntry} (h : AllSound boards)

include h

lemma AllSound.append_option {o : Option BoardEntry} (ho : ∀ b ∈ o, b.Sound) :
    AllSound (boards ++ o.toList) := by
  intro b hb
  rcases List.mem_append.mp hb with hb | hb
  · exact h b hb
  · exact ho b (Option.mem_toList.mp hb)

lemma AllSound.append {b : BoardEntry} (hb : b.Sound) : AllSound (boards ++ [b]) :=
  h.append_option (sound_some hb)

lemma pciRecover_sound (devs : List PciDev) :
    Delivers AllSound (pciRecover access boards devs) := by
  induction devs with
  | nil => exact .ok h
  | cons dev devs ih =>
      exact .bind (yields_true _) fun _ _ => .ite (fun _ => .ok (h.append recoverEntry_sound))
        fun _ => ih

lemma pciBoardsScan_sound (devs : List PciDev) :
    Delivers AllSound (pciBoardsScan access devs boards) :=
  .ite (fun _ => pciRecover_sound h devs) fun _ =>
    yields_foldlM (fun _ _ _ hboards => .bind (yields_true _) fun _ _ =>
      .ok (AllSound.append_option hboards pciEntry_sound)) h

omit h in
lemma eppFound_sound (read : ℕ → ℕ) (addr : CStr) (baseLo : ℕ) :
    Delivers (fun o => ∀ b ∈ o, b.Sound) (eppFound access read addr baseLo) := by
  unfold eppFound
  refine .ite (fun _ => .ite (fun _ => .ok (sound_some epp7i90Entry_sound)) fun _ =>
    .ite (fun _ => .ok (sound_some epp7i43Entry_sound)) fun _ => .ite (fun _ => ?_) fun _ =>
    .ok sound_none) fun _ => ?_
  · exact .bind (yields_true _) fun _ _ => .ok (sound_some epp7c81Entry_sound)
  · exact .ite (fun _ => .ok (sound_some eppioEntry_sound)) fun _ =>
      .ok (sound_some eppCpldEntry_sound)

lemma eppBoardsScan_sound (read : Bool → ℕ → ℕ) :
    Delivers AllSound (eppBoardsScan access read boards) := by
  refine .bind (yields_true _) fun _ _ => .bind (yields_true _) ?_
  rintro ⟨addr, eppAddr⟩ -
  exact .ite (fun _ => .ok h) fun _ => .bind (eppFound_sound _ addr eppAddr) fun _ hb =>
    .ok (h.append_option hb)

lemma usbBoardsScan_sound (usb : UsbReplies) :
    Delivers AllSound (usbBoardsScan access usb boards) := by
  refine .bind (yields_true _) fun _ _ => .ite (fun _ => .ite (fun _ => ?_) fun _ =>
    .ite (fun _ => ?_) fun _ => .ok h) fun _ => .ite (fun _ => ?_) fun _ => .ok h
  · exact .bind (yields_true _) fun _ _ => .bind (yields_true _) fun _ _ =>
      .ok (h.append usb7i64Entry_sound)
  · exact .bind (yields_true _) fun _ _ => .bind (yields_true _) fun _ _ =>
      .ok (h.append usb7i43Entry_sound)
  · exact .bind (yields_true _) fun _ _ => .bind (yields_true _) fun _ _ =>
      .ok (h.append usbCpldEntry_sound)

omit h in
lemma spiName_notMem {ident : List UInt8} {name : String} (hname : spiName ident = some name) :
    ascii name ∉ partialNames := by
  unfold spiName at hname
  split_ifs at hname <;> obtain rfl := Option.some.inj hname <;> decide

lemma spiBoardsScan_sound (read : ℕ → ℕ → Option (List UInt8)) :
    Delivers AllSound (spiBoardsScan access read boards) := by
  refine .bind (yields_true _) fun _ _ => ?_
  split
  · exact .ok h
  · refine .ite (fun _ => .ok h) fun _ => ?_
    split
    · exact .ok h
    · split
      · exact .ok h
      · rename_i name hname
        exact .bind (yields_true _) fun _ _ => .bind (yields_true _) fun _ _ =>
          .ok (h.append (spiEntry_sound (spiName_notMem hname)))

lemma serialBoardsScan_sound (info : List UInt8) :
    Delivers AllSound (serialBoardsScan access info boards) := by
  refine .ite (fun hinfo => .bind (yields_true _) fun _ _ => .bind (yields_true _) fun _ _ => ?_)
    fun _ => .ok h
  exact .ok (h.append (serialEntry_sound (serialName_notMem hinfo)))

lemma ethScanOneAddr_sound (devices : Devices) :
    Delivers (fun r => AllSound r.2) (ethScanOneAddr access devices boards) := by
  unfold ethScanOneAddr
  split
  · exact .error trivial
  · refine .ite (fun _ => .bind (yields_true _) fun _ _ => ?_) fun _ => .ok h
    split
    · rename_i b hb
      exact .ok (h.append (ethNamed_sound b hb))
    · exact .ok h

lemma ethBoardsScan_sound (devices : Devices) :
    Delivers (fun r => AllSound r.2) (ethBoardsScan access devices boards) :=
  .ite (fun _ => .ok h) fun _ => .bind (yields_true _) fun _ _ => .ite (fun _ => .ok h) fun _ =>
    .ite (fun _ => ethScanOneAddr_sound h devices) fun _ => .ok h

end Scans

/-! ### The search -/

section Find

variable {access : BoardAccess} {devices : Devices} {r : Registry}

/-- A part of `anyio_find_dev` that leaves only boards that have what they should. -/
abbrev FindsSound (x : Finds) : Prop :=
  Yields (fun r => AllSound r.boards) (Returns fun s => AllSound s.2.boards) x

variable (h : AllSound r.boards)

include h

lemma scanIf_sound {type bit : ℕ} {scan : List BoardEntry → Except Fault (List BoardEntry)}
    (hscan : Delivers AllSound (scan r.boards)) : FindsSound (scanIf type bit scan r) :=
  .ite (fun _ => .bind (yields_call hscan) fun _ hboards => .ok hboards) fun _ => .ok h

lemma initScanIf_sound {ready : Bool} {type bit : ℕ}
    {scan : List BoardEntry → Except Fault (List BoardEntry)}
    (hscan : Delivers AllSound (scan r.boards)) :
    FindsSound (initScanIf ready type bit scan r) :=
  .bind (yields_exitIf fun _ => h) fun _ _ => scanIf_sound h hscan

lemma ethScanIf_sound (type : ℕ) (named : Bool) :
    FindsSound (ethScanIf access devices type named r) := by
  refine .ite (fun _ => .bind (yields_call (ethBoardsScan_sound h devices)) ?_) fun _ => .ok h
  rintro ⟨ret, boards⟩ hboards
  exact .bind (yields_exitIf fun _ => hboards) fun _ _ => .ok hboards

/-- The scans of the interfaces. -/
lemma scanTypes_sound (type : ℕ) (named : Bool) :
    FindsSound (scanTypes access devices type named r) :=
  .bind (ethScanIf_sound h type named) fun _ h =>
    .bind (initScanIf_sound h (pciBoardsScan_sound h _)) fun _ h =>
    .bind (initScanIf_sound h (eppBoardsScan_sound h _)) fun _ h =>
    .bind (scanIf_sound h (usbBoardsScan_sound h _)) fun _ h =>
    .bind (scanIf_sound h (spiBoardsScan_sound h _)) fun _ h =>
    scanIf_sound h (serialBoardsScan_sound h _)

/-- One search. -/
lemma anyioFindDev_sound :
    Delivers (fun s => AllSound s.2.boards) (anyioFindDev access devices r) := by
  refine delivers_body (.bind (yields_orExit h) fun row _ => ?_)
  have hr : AllSound (Registry.boards ⟨r.boards, row.2 &&& boardWildcard⟩) := h
  refine .ite (fun _ => .bind (yields_exitIf fun _ => h) fun _ _ => ?_) fun _ => ?_
  · exact .bind (scanTypes_sound hr row.2 true) fun _ hr' => .ok hr'
  · exact .bind (scanTypes_sound hr access.type false) fun _ hr' => .ok hr'

end Find

/-- **Every board that is found has what the scans assign to its kind.** -/
theorem Registry.Reachable.sound {r : Registry} (hr : r.Reachable) : AllSound r.boards := by
  induction hr with
  | empty => exact fun b hb => absurd hb List.not_mem_nil
  | find _ hfind ih => exact (anyioFindDev_sound ih).of_eq_ok hfind

end Mesaflash
