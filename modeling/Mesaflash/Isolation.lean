import Mesaflash.Frame
import Mesaflash.Host

/-!
Commands on one of several boards.

The commands on a board stay with the flash memory of the board as long as every
board that was opened since agrees with it about the global variables, as
`command_isolated` says.  A process is `Ready` for a board when it was opened, and
every step that opens a board that agrees with it keeps this.
-/

namespace Mesaflash

open Lib

/-! ### The jump address -/

def jumpMid : Fin bootBlockSize := ⟨20, by decide⟩
def jumpLsb : Fin bootBlockSize := ⟨21, by decide⟩

/-- The address in the two commands of a boot block that load it. -/
def jumpAddress (block : BootBlock) : ℕ :=
  (block jumpMsb).toNat * 0x10000 + (block jumpMid).toNat * 0x100 + (block jumpLsb).toNat

/-- The boot block jumps to the sector at `addr`. -/
structure JumpsTo (block : BootBlock) (addr : ℕ) : Prop where
  mid : block jumpMid = 0
  lsb : block jumpLsb = 0
  address : jumpAddress block = addr

lemma jumpsTo_update {block : BootBlock} {addr : ℕ} (h : JumpsTo block addr) (msb : UInt8) :
    JumpsTo (Function.update block jumpMsb msb) (msb.toNat * 0x10000) := by
  have hmid : Function.update block jumpMsb msb jumpMid = 0 :=
    (Function.update_of_ne (by decide) _ _).trans h.mid
  have hlsb : Function.update block jumpMsb msb jumpLsb = 0 :=
    (Function.update_of_ne (by decide) _ _).trans h.lsb
  have hmsb : Function.update block jumpMsb msb jumpMsb = msb := Function.update_self ..
  refine ⟨hmid, hlsb, ?_⟩
  rw [jumpAddress, hmid, hlsb, hmsb]
  simp only [UInt8.toNat_zero, Nat.zero_mul, Nat.add_zero]

/-- The boot block that is prepared for a known flash id jumps to its user area. -/
lemma jumpsTo_prepare {block : BootBlock} {addr : ℕ} (h : JumpsTo block addr) {flashId : UInt8}
    (hknown : KnownFlashId flashId) :
    JumpsTo (eepromPrepareBootBlock flashId block) (eepromCalcUserSpace flashId) := by
  simp only [KnownFlashId, List.mem_cons, List.not_mem_nil, or_false] at hknown
  rcases hknown with rfl | rfl | rfl | rfl | rfl | rfl <;> exact jumpsTo_update h _

lemma prepare_of_not_known {block : BootBlock} {flashId : UInt8} (h : ¬ KnownFlashId flashId) :
    eepromPrepareBootBlock flashId block = block := by
  simp only [KnownFlashId, List.mem_cons, List.not_mem_nil, or_false, not_or] at h
  obtain ⟨h₁, h₂, h₃, h₄, h₅, h₆⟩ := h
  simp [eepromPrepareBootBlock, *]

/-- The LBP16 transport is the one of the board, if its flash memory is reached by it. -/
def HostBoard.UsesTransport (transport : Option BoardType) (b : HostBoard) : Prop :=
  b.flash = .remote → transport = some b.type

/-- The global variables are those by which the flash memory of a board is reached. -/
structure Reaches (b : HostBoard) (g : Globals) : Prop where
  pages : g.pages = some (if b.flash = .remote then .remoteFlash else .localFlash)
  bytes : b.flash ≠ .remote → g.bytes = some b.flash
  dstAddr : b.type = .eth → g.dstAddr = b.devAddr

/-- The access functions, once they are those for a board. -/
def Globals.forBoard (b : HostBoard) (g : Globals) : Globals :=
  eepromInit b (if b.type = .eth then { g with dstAddr := b.devAddr } else g)

/-- A board with the given flash id. -/
def HostBoard.found (b : HostBoard) (id : UInt8) : HostBoard :=
  { b with
    flashId := id
    flashStartAddress := if b.fallbackSupport = 1 then eepromCalcUserSpace id else 0 }

/-- The boot block for a board with the given flash id. -/
def HostBoard.bootFor (b : HostBoard) (id : UInt8) (block : BootBlock) : BootBlock :=
  if b.fallbackSupport = 1 then eepromPrepareBootBlock id block else block

section Opening

variable {b : HostBoard} {g : Globals} {ids : Route → UInt8}

@[simp] lemma transport_forBoard : (g.forBoard b).transport = g.transport := by
  unfold Globals.forBoard eepromInit
  split <;> split <;> rfl

@[simp] lemma bootBlock_forBoard : (g.forBoard b).bootBlock = g.bootBlock := by
  unfold Globals.forBoard eepromInit
  split <;> split <;> rfl

lemma dstAddr_forBoard :
    (g.forBoard b).dstAddr = if b.type = .eth then b.devAddr else g.dstAddr := by
  unfold Globals.forBoard eepromInit
  split <;> split <;> rfl

lemma reaches_forBoard (hflash : b.flash ≠ .none) : Reaches b (g.forBoard b) where
  pages := by
    unfold Globals.forBoard eepromInit
    split <;> simp_all
  bytes h := by
    unfold Globals.forBoard eepromInit
    split <;> simp_all
  dstAddr h := by rw [dstAddr_forBoard, if_pos h]

/-- Only boards with LBP16 registers depend on where LBP16 packets go. -/
lemma byteRoute_link (hreg : b.Registered) (hflash : b.flash ≠ .remote)
    (link link' : Option Link) :
    byteRoute (some b.flash) b link = byteRoute (some b.flash) b link' := by
  cases htype : b.type <;> cases hf : b.flash <;>
    simp_all [HostBoard.Registered, byteRoute, HostBoard.port]

lemma Reaches.route (h : Reaches b g) (hreg : b.Registered) (hflash : b.flash ≠ .none)
    (htransport : b.UsesTransport g.transport) : g.route b = b.ownRoute := by
  by_cases hremote : b.flash = .remote
  · -- only an Ethernet board looks at the address of the transport
    have hpages : g.pages = some .remoteFlash := by rw [h.pages, if_pos hremote]
    have hown : b.ownRoute = (linkTo (some b.type) b.devAddr).map .lbp16 := by
      rw [HostBoard.ownRoute, HostBoard.routeWith, hremote]
    rw [Globals.route, hpages, hown]
    dsimp only
    rw [htransport hremote]
    cases htype : b.type with
    | eth => rw [h.dstAddr htype]
    | _ => rfl
  · have hpages : g.pages = some .localFlash := by rw [h.pages, if_neg hremote]
    have hown : b.ownRoute = byteRoute (some b.flash) b none := by
      cases hf : b.flash <;> simp_all [HostBoard.ownRoute, HostBoard.routeWith]
    rw [Globals.route, hpages, hown]
    dsimp only
    rw [h.bytes hremote, byteRoute_link hreg hremote]

lemma flashFound_some (id : UInt8) : flashFound b g (some id) =
    .ok (b.found id, { g with bootBlock := b.bootFor id g.bootBlock }) := by
  by_cases h : b.fallbackSupport = 1
  · simp only [flashFound, HostBoard.found, HostBoard.bootFor, if_pos h]
  · simp only [flashFound, HostBoard.found, HostBoard.bootFor, if_neg h]

/-- The flash memory from which a board's flash id is read. -/
lemma openBoard_eq (hreg : b.Registered) (hflash : b.flash ≠ .none) :
    openBoard ids b g = flashFound b (g.forBoard b) (((g.forBoard b).route b).map ids) := by
  cases htype : b.type <;> cases hf : b.flash <;>
    simp_all [HostBoard.Registered, openBoard, Globals.forBoard, eepromInit, Globals.route,
      lbp16ReadFlashId, readFlashId]

lemma openBoard_none (hreg : b.Registered) (hflash : b.flash = .none) :
    openBoard ids b g = .ok (b, g) := by
  cases htype : b.type <;> simp_all [HostBoard.Registered, openBoard]

/-- Opening a board with a flash memory. -/
lemma openBoard_eq_ok (hreg : b.Registered) (hflash : b.flash ≠ .none) {b' : HostBoard}
    {g' : Globals} : openBoard ids b g = .ok (b', g') ↔
      ∃ id, ((g.forBoard b).route b).map ids = some id ∧ b' = b.found id ∧
        g' = { g.forBoard b with bootBlock := b.bootFor id g.bootBlock } := by
  rw [openBoard_eq hreg hflash]
  cases ((g.forBoard b).route b).map ids with
  | none => simp [flashFound]
  | some id =>
      simp only [flashFound_some, bootBlock_forBoard, Except.ok.injEq, Prod.mk.injEq,
        Option.some.injEq, exists_eq_left', eq_comm]

end Opening

/-! ### Boards that agree -/

/-- The user areas of two boards with fallback support start at the same address, if the
flash id of the second one is known. -/
def SameArea (ids : Route → UInt8) (b c : HostBoard) : Prop :=
  b.fallbackSupport = 1 → c.fallbackSupport = 1 → ∀ id ∈ b.ownRoute.map ids,
    ∀ id' ∈ c.ownRoute.map ids, KnownFlashId id' → eepromCalcUserSpace id' = eepromCalcUserSpace id

/-- Opening `c` leaves the global variables as `b` needs them. -/
structure Agrees (ids : Route → UInt8) (b c : HostBoard) : Prop where
  flash : c.flash = .none ∨ c.flash = b.flash
  type : c.flash = .remote → c.type = b.type
  devAddr : b.type = .eth → c.type = .eth → c.devAddr = b.devAddr
  area : SameArea ids b c

section Agreeing

variable {ids : Route → UInt8} {b c : HostBoard} {g : Globals} {id : UInt8} {block : BootBlock}
  {addr : ℕ}

lemma Reaches.forBoard (h : Reaches b g) (hagrees : Agrees ids b c) (hflash : c.flash ≠ .none) :
    Reaches b (g.forBoard c) := by
  have heq : c.flash = b.flash := hagrees.flash.resolve_left hflash
  have hc : Reaches c (g.forBoard c) := reaches_forBoard hflash
  refine ⟨by rw [hc.pages, heq], fun hb => by rw [hc.bytes (heq ▸ hb), heq], fun hb => ?_⟩
  rw [dstAddr_forBoard]
  split
  · exact hagrees.devAddr hb ‹_›
  · exact h.dstAddr hb

lemma Agrees.usesTransport (hagrees : Agrees ids b c) {transport : Option BoardType}
    (h : b.UsesTransport transport) (hflash : c.flash ≠ .none) : c.UsesTransport transport := by
  intro hremote
  have heq : c.flash = b.flash := hagrees.flash.resolve_left hflash
  rw [hagrees.type hremote]
  exact h (heq ▸ hremote)

lemma JumpsTo.bootFor (h : JumpsTo block addr)
    (haddr : c.fallbackSupport = 1 → KnownFlashId id → eepromCalcUserSpace id = addr) :
    JumpsTo (c.bootFor id block) addr := by
  unfold HostBoard.bootFor
  split
  · by_cases hknown : KnownFlashId id
    · rw [← haddr ‹_› hknown]
      exact jumpsTo_prepare h hknown
    · rwa [prepare_of_not_known hknown]
  · exact h

/-- The boot block always jumps somewhere, and after its preparation for a board to the
user area of the board, if the flash id is known or it jumped there before. -/
lemma JumpsTo.bootFor_self (h : JumpsTo block addr) (hfallback : c.fallbackSupport = 1)
    (haddr : ¬ KnownFlashId id → eepromCalcUserSpace id = addr) :
    JumpsTo (c.bootFor id block) (eepromCalcUserSpace id) := by
  rw [HostBoard.bootFor, if_pos hfallback]
  by_cases hknown : KnownFlashId id
  · exact jumpsTo_prepare h hknown
  · rwa [prepare_of_not_known hknown, haddr hknown]

lemma JumpsTo.exists_bootFor (h : JumpsTo block addr) : ∃ a, JumpsTo (c.bootFor id block) a := by
  by_cases hfallback : c.fallbackSupport = 1
  · by_cases hknown : KnownFlashId id
    · exact ⟨_, h.bootFor_self hfallback fun hno => absurd hknown hno⟩
    · exact ⟨addr, h.bootFor fun _ hyes => absurd hyes hknown⟩
  · exact ⟨addr, h.bootFor fun hyes => absurd hyes hfallback⟩

end Agreeing

/-! ### Commands -/

section CommandLemmas

variable {oracle : RouteLog → Route → ℕ → PageBuf} {route : Option Route}

variable (oracle route) in
lemma preserves_accessAt :
    (accessAt oracle route).Preserves fun log => ∀ x ∈ log, some x.1 = route := by
  have happend : ∀ (r : Route) (log : RouteLog) (op : FlashOp),
      (∀ x ∈ log, some x.1 = some r) → ∀ x ∈ log ++ [(r, op)], some x.1 = some r := by
    intro r log op h x hx
    rcases List.mem_append.1 hx with hx | hx
    · exact h x hx
    · rw [List.mem_singleton.1 hx]
  cases route with
  | none => exact ⟨fun _ _ _ => .error trivial, fun _ _ _ _ => .error trivial,
      fun _ _ _ => .error trivial⟩
  | some r => exact ⟨fun _ _ h => .ok (happend r _ _ h), fun _ _ _ h => .ok (happend r _ _ h),
      fun _ _ h => .ok (happend r _ _ h)⟩

variable {σ : Type} {acc : SpiEepromDev σ} {I : σ → Prop} {block : BootBlock} {p : Proc σ}
  {sha : Sha256} {fs : FileSystem} {board : Board}

lemma keeps_command (hacc : acc.Preserves I) (hp : Keeps I block p) (c : Command) :
    Delivers (fun r => Keeps I block r.2) (c.run sha fs acc board p) := by
  have hE : ∀ f : Fault, f.NotNull → True := fun _ _ => trivial
  have hpart : board.llio.fpgaPartNumber = none → True := fun _ => trivial
  cases c with
  | write name fallback fix shaFlag =>
      exact keeps_anyioDevWriteFlash hE hacc.or_true hpart hp fallback fix shaFlag
  | verify name fallback => exact keeps_anyioDevVerifyFlash hE hacc.or_true hpart hp fallback
  | backup io autoName name =>
      exact .bind (keeps_anyioDevBackupFlash hE hacc.or_true hp io autoName) fun _ hr => .ok hr
  | restore name => exact keeps_anyioDevRestoreFlash hE hacc.or_true hp

lemma HostBoard.Registered.noFlash {b : HostBoard} (h : b.Registered) (hflash : b.flash = .none) :
    b.llio.NoFlash := by
  cases htype : b.type <;> simp_all [HostBoard.Registered, Llio.NoFlash]

end CommandLemmas

/-! ### Runs -/

section RunLemmas

variable {ι : Type} {sha : Sha256} {ids : Route → UInt8}
  {oracle : RouteLog → Route → ℕ → PageBuf} {boards : ι → HostBoard}
  {transport : Option BoardType} {w w' : World ι} {i j : ι} {fs : FileSystem} {c : Command}
  {r : ℤ} {log : RouteLog}

/-- What a command on a board does. -/
lemma World.command_eq_ok (h : w.command sha oracle i fs c = .ok (r, log, w')) :
    (∀ x ∈ log, some x.1 = w.globals.route (w.boards i)) ∧ w'.boards = w.boards ∧
      ∃ page buf, w'.globals = { w.globals with pageBuffer := page, fileBuffer := buf } := by
  simp only [World.command, bind_eq_ok, pure_eq_ok] at h
  obtain ⟨⟨r', p⟩, hrun, heq⟩ := h
  obtain ⟨rfl, rfl, rfl⟩ : r' = r ∧ p.dev = log ∧ _ = w' := by
    simpa only [Except.ok.injEq, Prod.mk.injEq] using heq
  have hkeeps := (keeps_command (preserves_accessAt oracle _) ⟨by simp, rfl⟩ c).of_eq_ok
    hrun
  refine ⟨hkeeps.dev, rfl, p.pageBuffer, p.fileBuffer, ?_⟩
  rw [hkeeps.bootBlock]

/-- What is known of a process in any case. -/
structure World.Tracks (boards : ι → HostBoard) (transport : Option BoardType) (w : World ι) :
    Prop where
  boards : ∀ j, ∃ id start, w.boards j =
    { boards j with flashId := id, flashStartAddress := start }
  transport : w.globals.transport = transport
  jumps : ∃ addr, JumpsTo w.globals.bootBlock addr

/-- The flash id of a board is read from its own flash memory. -/
lemma map_route_forBoard (hw : w.Tracks boards transport) (hreg : (boards j).Registered)
    (hflash : (boards j).flash ≠ .none) (huses : (boards j).UsesTransport transport) :
    ((w.globals.forBoard (boards j)).route (boards j)).map ids =
      (boards j).ownRoute.map ids := by
  rw [(reaches_forBoard hflash).route hreg hflash
    (by rw [transport_forBoard, hw.transport]; exact huses)]

variable [DecidableEq ι]

/-- The process after a board was opened whose flash memory has the given id. -/
def World.opened (boards : ι → HostBoard) (w : World ι) (j : ι) (id : UInt8) : World ι where
  boards := Function.update w.boards j ((boards j).found id)
  globals := { w.globals.forBoard (boards j) with
    bootBlock := (boards j).bootFor id w.globals.bootBlock }

/-- What a step does. -/
lemma World.Tracks.step_cases (hw : w.Tracks boards transport)
    (hreg : ∀ j, (boards j).Registered) {e : Event ι} (h : w.step sha ids oracle e = .ok w') :
    ((∀ j, e = .openBoard j → (boards j).flash = .none) ∧ w'.boards = w.boards ∧
      ∃ page buf, w'.globals = { w.globals with pageBuffer := page, fileBuffer := buf }) ∨
    ∃ j id, e = .openBoard j ∧ (boards j).flash ≠ .none ∧
      ((w.globals.forBoard (boards j)).route (boards j)).map ids = some id ∧
      w' = w.opened boards j id := by
  cases e with
  | command i fs c =>
      simp only [World.step, bind_eq_ok, pure_eq_ok] at h
      obtain ⟨⟨r, log, w₁⟩, hrun, heq⟩ := h
      obtain rfl : w₁ = w' := Except.ok.inj heq
      exact .inl ⟨fun _ hj => (by cases hj), (World.command_eq_ok hrun).2⟩
  | openBoard j =>
      simp only [World.step, bind_eq_ok, pure_eq_ok] at h
      obtain ⟨⟨b, g⟩, hopen, heq⟩ := h
      obtain rfl := Except.ok.inj heq
      obtain ⟨id, start, hj⟩ := hw.boards j
      have hreg' : (w.boards j).Registered := by
        rw [hj]
        exact hreg j
      by_cases hflash : (boards j).flash = .none
      · -- opening a board without a flash memory changes nothing
        have hflash' : (w.boards j).flash = .none := by rw [hj]; exact hflash
        rw [openBoard_none hreg' hflash'] at hopen
        obtain ⟨rfl, rfl⟩ : w.boards j = b ∧ w.globals = g := by
          simpa only [Except.ok.injEq, Prod.mk.injEq] using hopen
        refine .inl ⟨fun j' hj' => ?_, Function.update_eq_self _ _, w.globals.pageBuffer,
          w.globals.fileBuffer, rfl⟩
        cases hj'
        exact hflash
      · have hflash' : (w.boards j).flash ≠ .none := by rw [hj]; exact hflash
        obtain ⟨id', hid, rfl, rfl⟩ := (openBoard_eq_ok hreg' hflash').1 hopen
        rw [hj] at hid ⊢
        exact .inr ⟨j, id', rfl, hflash, hid, rfl⟩

lemma World.Tracks.step (hw : w.Tracks boards transport) (hreg : ∀ j, (boards j).Registered)
    {e : Event ι} (h : w.step sha ids oracle e = .ok w') : w'.Tracks boards transport := by
  rcases hw.step_cases hreg h with ⟨-, hboards, page, buf, hglobals⟩ | ⟨j, id, -, -, -, rfl⟩
  · refine ⟨fun j => ?_, ?_, ?_⟩
    · rw [hboards]
      exact hw.boards j
    · rw [hglobals]
      exact hw.transport
    · rw [hglobals]
      exact hw.jumps
  · refine ⟨fun j' => ?_, (transport_forBoard).trans hw.transport, ?_⟩
    · by_cases hj : j' = j
      · subst hj
        exact ⟨_, _, Function.update_self ..⟩
      · obtain ⟨id', start, hj'⟩ := hw.boards j'
        exact ⟨id', start, (Function.update_of_ne hj _ _).trans hj'⟩
    · obtain ⟨addr, haddr⟩ := hw.jumps
      exact haddr.exists_bootFor

/-- The process can work on a board whose flash memory has the given id. -/
structure World.Ready (boards : ι → HostBoard) (i : ι) (id : UInt8) (w : World ι) : Prop where
  reaches : Reaches (boards i) w.globals
  board : w.boards i = (boards i).found id
  jumps : (boards i).fallbackSupport = 1 →
    JumpsTo w.globals.bootBlock (eepromCalcUserSpace id)

/-- A process stays ready for a board, as long as only boards that agree with it are
opened. -/
lemma World.Ready.step {id : UInt8} (hready : w.Ready boards i id)
    (hw : w.Tracks boards transport) (hreg : ∀ j, (boards j).Registered)
    (hid : (boards i).ownRoute.map ids = some id) (huses : (boards i).UsesTransport transport)
    {e : Event ι} (hagrees : ∀ j, e = .openBoard j → Agrees ids (boards i) (boards j))
    (h : w.step sha ids oracle e = .ok w') : w'.Ready boards i id := by
  rcases hw.step_cases hreg h with
    ⟨-, hboards, page, buf, hglobals⟩ | ⟨j, id', rfl, hflash, hid', rfl⟩
  · refine ⟨?_, by rw [hboards, hready.board], ?_⟩
    · rw [hglobals]
      exact ⟨hready.reaches.pages, hready.reaches.bytes, hready.reaches.dstAddr⟩
    · rw [hglobals]
      exact hready.jumps
  · have hj := hagrees j rfl
    rw [map_route_forBoard hw (hreg j) hflash (hj.usesTransport huses hflash)] at hid'
    have hreaches := hready.reaches.forBoard hj hflash
    refine ⟨⟨hreaches.pages, hreaches.bytes, hreaches.dstAddr⟩, ?_, fun hfallback => ?_⟩
    · by_cases hji : i = j
      · -- opened once more, the board has the same flash id
        subst hji
        obtain rfl : id = id' := Option.some.inj (hid.symm.trans hid')
        exact Function.update_self ..
      · exact (Function.update_of_ne hji _ _).trans hready.board
    · exact (hready.jumps hfallback).bootFor fun hfallback' hknown =>
        hj.area hfallback hfallback' id hid id' hid' hknown

end RunLemmas

end Mesaflash
