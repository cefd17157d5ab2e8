import Mesaflash.EthAddress
import Mesaflash.Lib.Client

/-!
The settings of an Ethernet board.

Besides the address, the EEPROM of a board keeps the mode of its LEDs, and what the board is.
A program that sets addresses and modes and has them shown finds the board to be a store of two
settings, which do not touch each other nor the rest (`ethSettings_refine`).
-/

namespace Mesaflash

open Lib

/-! ### The mode of the LEDs -/

def ethEepromLedModeReg : ℕ := 0x0028

/-- `CMD_WRITE_ETH_EEPROM_ADDR16`. -/
def cmdWriteEthEepromAddr16 (size : ℕ) : ℕ :=
  lbp16Write ||| lbp16Addr ||| lbp16Args16Bit ||| lbp16SpaceEthEeprom |||
    (size &&& lbp16MaxPacketDataSize)

/-- `atoi`: the result of `strtol` is made an `int`. -/
def atoi (s : CStr) : ℤ := (strtol 10 s).bmod (2 ^ 32)

/-- `write_led_pck`. -/
def writeLedPck (mode : ℕ) : Datagram :=
  initPacket6 (cmdWriteCommCtrlAddr16 1) commCtrlWriteEnaReg 0x5A02 ++
    initPacket6 (cmdWriteEthEepromAddr16 1) ethEepromLedModeReg mode

/-- `mode` of `eth_set_led_mode`. -/
def ledModeOf (ledMode : CStr) : ℕ := (atoi ledMode % 2 ^ 16).toNat

/-- `eth_set_led_mode`. -/
def ethSetLedMode {σ : Type} (acc : Lbp16Transport σ) (ledMode : CStr) (s : σ) :
    Except Fault (ℤ × σ) := do
  let (_, s) ← acc.sendPacket (writeLedPck (ledModeOf ledMode)) s
  return (0, s)

/-! ### A store of settings -/

/-- What can be asked of a board. -/
inductive EthRequest where
  | setRemoteIp (ipAddr : CStr)
  | setLedMode (ledMode : CStr)
  | printInfo (verbose : Bool)
deriving DecidableEq, Repr

/-- What is returned, and what is printed of the EEPROM. -/
structure EthReply where
  ret : ℤ
  lines : List CStr
deriving DecidableEq, Repr

/-- A request is carried out on a board. -/
def ethExecute {σ : Type} (acc : Lbp16Transport σ) : EthRequest → σ → Except Fault (EthReply × σ)
  | .setRemoteIp ipAddr, s => do
    let (ret, s) ← ethSetRemoteIp acc ipAddr s
    return (⟨ret, []⟩, s)
  | .setLedMode ledMode, s => do
    let (ret, s) ← ethSetLedMode acc ledMode s
    return (⟨ret, []⟩, s)
  | .printInfo verbose, s =>
    if verbose then do
      let (area, s) ← readEthArea acc s
      return (⟨0, ethEepromLines area⟩, s)
    -- `eth_print_info` returns early
    else return (⟨0, []⟩, s)

/-- The two settings. -/
structure EthSettings where
  address : UInt8 × UInt8 × UInt8 × UInt8
  ledMode : ℕ

/-- What is shown of a board with these settings. -/
def EthSettings.lines (identity : LbpEthEepromArea) (x : EthSettings) : List CStr :=
  let (a, b, c, d) := x.address
  [ascii "  [space 2] Ethernet eeprom:",
    ((ethEepromLines identity)[1]?).getD [],
    ascii "    ip address: " ++
      List.intercalate (ascii ".") ([a, b, c, d].map fun x => decimal x.toNat),
    ((ethEepromLines identity)[3]?).getD [],
    ascii "    user leds: " ++ ledDebugType x.ledMode]

/-- The four numbers of an address. -/
def addressOf (ipAddr : CStr) : Option (UInt8 × UInt8 × UInt8 × UInt8) :=
  match inetPton ipAddr with
  | some [a, b, c, d] => some (a, b, c, d)
  | _ => none

/-- A request is carried out on the store. -/
def EthSettings.execute (identity : LbpEthEepromArea) :
    EthRequest → EthSettings → Except Fault (EthReply × EthSettings)
  | .setRemoteIp ipAddr, x =>
    match addressOf ipAddr with
    | none => .ok (⟨einval, []⟩, x)
    | some address => .ok (⟨0, []⟩, { x with address := address })
  | .setLedMode ledMode, x => .ok (⟨0, []⟩, { x with ledMode := ledModeOf ledMode })
  | .printInfo verbose, x => .ok (⟨0, if verbose then x.lines identity else []⟩, x)

/-- The settings in an EEPROM. -/
def settingsOf (m : EthEeprom) : EthSettings where
  address := (hiByte (m 0x22).toNat, loByte (m 0x22).toNat, hiByte (m 0x20).toNat,
    loByte (m 0x20).toNat)
  ledMode := (m 0x28).toNat

/-! ### The board is one -/

/-- A board that has received its replies, and whose EEPROM holds the settings.  The other words
are as they were. -/
structure HoldsSettings (m₀ : EthEeprom) (s : EthEeprom × List Datagram) (x : EthSettings) :
    Prop where
  settings : settingsOf s.1 = x
  others : ∀ a, a ≠ 0x20 → a ≠ 0x22 → a ≠ 0x28 → s.1 a = m₀ a
  quiet : s.2 = []

lemma commands_writeLedPck (mode : ℕ) : (writeLedPck mode).commands =
    [⟨cmdWriteCommCtrlAddr16 1, commCtrlWriteEnaReg, word16 0x5A02⟩,
      ⟨cmdWriteEthEepromAddr16 1, ethEepromLedModeReg, word16 mode⟩] := by
  have hsecond := commandsOf_initPacket4 (show cmdWriteEthEepromAddr16 1 < 0x10000 by decide)
    (show ethEepromLedModeReg < 0x10000 by decide) (word16 mode) rfl [] 10
  rw [commandsOf_nil, List.append_nil] at hsecond
  have hlen : (writeLedPck mode).length = 11 + 1 := rfl
  rw [Datagram.commands, hlen, writeLedPck, initPacket6, List.append_assoc,
    commandsOf_initPacket4 (by decide) (by decide) _ (by decide)]
  rw [initPacket6, hsecond]

/-- The word of the mode is written, and no other. -/
lemma serve_writeLedPck (m : EthEeprom) (mode : ℕ) :
    ethEepromServe (writeLedPck mode) m =
      (Function.update m 0x28 (wordOf (word16 mode)).toUInt16, []) := by
  have henable : EthEepromExec.command ⟨m, false, []⟩
      ⟨cmdWriteCommCtrlAddr16 1, commCtrlWriteEnaReg, word16 0x5A02⟩ = ⟨m, true, []⟩ := rfl
  have hwrite : EthEepromExec.command ⟨m, true, []⟩
      ⟨cmdWriteEthEepromAddr16 1, ethEepromLedModeReg, word16 mode⟩ =
        ⟨EthEeprom.write 0 0x28 (word16 mode) m, true, []⟩ := by
    have hne : ¬ (cmdWriteEthEepromAddr16 1 = cmdWriteCommCtrlAddr16 1 ∧
      ethEepromLedModeReg = commCtrlWriteEnaReg) := by decide
    have hkind : cmdWriteEthEepromAddr16 1 / 0x100 =
      cmdWriteEthEepromAddr16Incr 0 / 0x100 := by decide
    have hstep : addrStep (cmdWriteEthEepromAddr16 1) = 0 := by decide
    rw [EthEepromExec.command, if_neg hne, if_pos ⟨hkind, rfl⟩, hstep]
    rfl
  rw [ethEepromServe, commands_writeLedPck, List.foldl_cons, List.foldl_cons, List.foldl_nil,
    henable, hwrite]
  simp [word16, EthEeprom.write]

/-- An address has four numbers. -/
lemma inetPton_cases (ipAddr : CStr) :
    inetPton ipAddr = none ∧ addressOf ipAddr = none ∨
      ∃ a b c d, inetPton ipAddr = some [a, b, c, d] ∧ addressOf ipAddr = some (a, b, c, d) := by
  cases h : inetPton ipAddr with
  | none => exact .inl ⟨rfl, by rw [addressOf, h]⟩
  | some bytes =>
      obtain ⟨p, q, r, t, -, -, rfl⟩ := exists_of_inetPton h
      exact .inr ⟨_, _, _, _, rfl, by rw [addressOf, h]; rfl⟩

lemma settingsOf_withAddress (m : EthEeprom) (a b c d : UInt8) :
    settingsOf (withAddress m a b c d) = { settingsOf m with address := (a, b, c, d) } := by
  have hlo : (withAddress m a b c d 0x20).toNat = wordOf [d, c] := toNat_wordOf d c
  have hhi : (withAddress m a b c d 0x22).toNat = wordOf [b, a] := toNat_wordOf b a
  have hled : withAddress m a b c d 0x28 = m 0x28 :=
    withAddress_of_ne m a b c d (by decide) (by decide)
  have hdc := word16_wordOf d c
  have hba := word16_wordOf b a
  simp only [word16, List.cons.injEq, and_true] at hdc hba
  simp only [settingsOf, hlo, hhi, hled, hdc.1, hdc.2, hba.1, hba.2]

/-- The mode has sixteen bits. -/
lemma ledModeOf_lt (ledMode : CStr) : ledModeOf ledMode < 0x10000 := by
  have hmod := Int.emod_lt_of_pos (atoi ledMode) (show (0 : ℤ) < 2 ^ 16 by decide)
  rw [ledModeOf]
  omega

lemma settingsOf_withLedMode (m : EthEeprom) (ledMode : CStr) :
    settingsOf (Function.update m 0x28 (wordOf (word16 (ledModeOf ledMode))).toUInt16) =
      { settingsOf m with ledMode := ledModeOf ledMode } := by
  have hmode : (wordOf (word16 (ledModeOf ledMode))).toUInt16.toNat = ledModeOf ledMode := by
    rw [wordOf_word16 (ledModeOf_lt ledMode)]
    exact Nat.mod_eq_of_lt (ledModeOf_lt ledMode)
  simp [settingsOf, hmode]

/-- What is shown are the settings, and what the board was from the start. -/
lemma lines_settingsOf {m₀ m : EthEeprom}
    (h : ∀ a, a ≠ 0x20 → a ≠ 0x22 → a ≠ 0x28 → m a = m₀ a) :
    ethEepromLines (areaOf m) = (settingsOf m).lines (areaOf m₀) := by
  have hname : (areaOf m).name = (areaOf m₀).name := by
    simp only [areaOf]
    refine List.flatMap_congr fun i hi => ?_
    have hlt := List.mem_range.1 hi
    rw [h _ (by omega) (by omega) (by omega)]
  have hhi : m 0x06 = m₀ 0x06 := h _ (by decide) (by decide) (by decide)
  have hmid : m 0x04 = m₀ 0x04 := h _ (by decide) (by decide) (by decide)
  have hlo : m 0x02 = m₀ 0x02 := h _ (by decide) (by decide) (by decide)
  have hmac : (ethEepromLines (areaOf m))[1]? = (ethEepromLines (areaOf m₀))[1]? := by
    simp only [ethEepromLines, areaOf, hhi, hmid, hlo]
    rfl
  have hboard : (ethEepromLines (areaOf m))[3]? = (ethEepromLines (areaOf m₀))[3]? := by
    simp only [ethEepromLines, hname]
    rfl
  rw [EthSettings.lines, ← hmac, ← hboard]
  rfl

/-- A request is carried out. -/
lemma ethExecute_corresponds (m₀ : EthEeprom) (request : EthRequest)
    {s : EthEeprom × List Datagram} {x : EthSettings} (h : HoldsSettings m₀ s x) :
    Corresponds (fun r r' => r.1 = r'.1 ∧ HoldsSettings m₀ r.2 r'.2) Eq
      (ethExecute ethEepromTransport request s) (EthSettings.execute (areaOf m₀) request x) := by
  obtain ⟨m, replies⟩ := s
  obtain ⟨rfl, hothers, hquiet⟩ := h
  obtain rfl : replies = [] := hquiet
  cases request with
  | setRemoteIp ipAddr =>
      rcases inetPton_cases ipAddr with ⟨hbytes, haddr⟩ | ⟨a, b, c, d, hbytes, haddr⟩
      · rw [ethExecute, ethSetRemoteIp_rejected _ hbytes, EthSettings.execute, haddr]
        exact .ok ⟨rfl, rfl, hothers, rfl⟩
      · have hset : ethSetRemoteIp ethEepromTransport ipAddr (m, []) =
            .ok (0, (withAddress m a b c d, [])) := by
          rw [ethSetRemoteIp, hbytes]
          simp only [ethEepromTransport, serve_address]
          rfl
        rw [ethExecute, hset, EthSettings.execute, haddr]
        refine .ok ⟨rfl, settingsOf_withAddress m a b c d, fun x hlo hhi hled => ?_, rfl⟩
        exact (withAddress_of_ne m a b c d hlo hhi).trans (hothers x hlo hhi hled)
  | setLedMode ledMode =>
      have hset : ethSetLedMode ethEepromTransport ledMode (m, []) = .ok (0,
          (Function.update m 0x28 (wordOf (word16 (ledModeOf ledMode))).toUInt16, [])) := by
        simp only [ethSetLedMode, ethEepromTransport, serve_writeLedPck]
        rfl
      rw [ethExecute, hset]
      refine .ok ⟨rfl, settingsOf_withLedMode m ledMode, fun x hlo hhi hled => ?_, rfl⟩
      exact (Function.update_of_ne hled _ m).trans (hothers x hlo hhi hled)
  | printInfo verbose =>
      cases verbose with
      | false => exact .ok ⟨rfl, rfl, hothers, rfl⟩
      | true =>
          rw [ethExecute, if_pos rfl, readEthArea_eq]
          exact .ok ⟨congrArg (EthReply.mk 0) (lines_settingsOf hothers), rfl, hothers, rfl⟩

/-- **A board is a store of two settings**, for a program that sets them and has them shown as the
replies suggest. -/
theorem ethSettings_refine {α : Type} (program : Client EthRequest EthReply α) (m : EthEeprom) :
    Corresponds (fun r r' => r.1 = r'.1 ∧ HoldsSettings m r.2 r'.2) Eq
      (program.run (ethExecute ethEepromTransport) (m, []))
      (program.run (EthSettings.execute (areaOf m)) (settingsOf m)) := by
  have hall : program.Asks fun _ => True := by
    induction program with
    | done a => exact .done a
    | ask q next ih => exact .ask trivial ih
  exact Client.corresponds_run (fun q _ _ _ h => ethExecute_corresponds m q h) hall
    ⟨rfl, fun _ _ _ _ => rfl, rfl⟩

end Mesaflash
