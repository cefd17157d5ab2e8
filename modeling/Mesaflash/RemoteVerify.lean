import Mesaflash.EthLink
import Mesaflash.Programming

/-!
Verifying over a lossy network.

A verify command that succeeds says that every page that it received was the right
one.  Over a network in order with nothing else under way, the pages that are
received are those of the flash memory, so that the payload is there, whatever the
network did while it was written: `remoteVerify_holds`.  Without that a page can be
taken for another one with the same contents.
-/

namespace Mesaflash

open Lib

variable {σ : Type} {k : ℕ} {acc : SpiEepromDev σ} {I : σ → Prop} {f : Flash (chip k)}
  {board : Board} {fs : FileSystem} {name : CStr} {data : List UInt8} {start : ℕ} {p : Proc σ}

/-! ### Access functions that show a flash memory -/

/-- While `I` holds, the pages that are read are those of `f`. -/
def SpiEepromDev.Shows (acc : SpiEepromDev σ) (I : σ → Prop) (f : Flash (chip k)) : Prop :=
  ∀ addr s, I s → Delivers (fun r => r.1 = Flash.readPage f addr ∧ I r.2) (acc.readPage addr s)

/-- An early return with a result other than 0. -/
abbrev Fails : Stop (ℤ × Proc σ) → Prop := Returns fun r => r.1 ≠ 0

section Shows

variable (hacc : acc.Shows I f)

include hacc

lemma shows_verifyPage (buf : ℕ → UInt8) (addr : ℕ) (page : PageBuf) {s : PageBuf × σ}
    (hs : I s.2) :
    Yields (fun t => I t.2 ∧ Flash.readPage f addr = page) Fails
      (verifyPage acc p buf addr page s) := by
  unfold verifyPage
  refine .bind (yields_call (hacc addr s.2 hs)) fun r hr => .ite (fun heq => ?_) fun _ => ?_
  · exact .ok ⟨hr.2, by rw [← hr.1]; exact (funext heq).symm⟩
  · exact .error (show (-1 : ℤ) ≠ 0 by decide)

/-- The verify loop ends where all pages of the file are in the flash memory. -/
lemma shows_verifyLoop {fp : File} (hfp : fp.Sound) (addr : ℕ) (hp : I p.dev) :
    Yields (fun r => I r.2.dev ∧
        ∀ x ∈ programmed p.fileBuffer fp.rest addr, Flash.readPage f x.1 = x.2) Fails
      (verifyLoop acc fp addr p) := by
  rw [verifyLoop_eq acc hfp]
  refine .bind (yields_foldlM_forall (I := fun s : PageBuf × σ => I s.2)
    (fun j _ s hs => shows_verifyPage hacc _ _ _ hs) hp) fun s hs => .ok ⟨hs.1, ?_⟩
  simpa [programmed] using hs.2

lemma shows_checkBoot (hp : I p.dev) :
    Delivers (fun r => I r.2.dev ∧ r.2.fileBuffer = p.fileBuffer) (checkBoot acc p) := by
  unfold checkBoot
  exact .bind (hacc 0 p.dev hp) fun r hr => .ite (fun _ => .ok ⟨hr.2, rfl⟩) fun _ => .ok ⟨hr.2, rfl⟩

/-- The checks leave the payload. -/
lemma shows_verifyChecks (hp : I p.dev) :
    Yields (fun r => I r.2.dev ∧ r.2.fileBuffer = p.fileBuffer ∧ r.1.Sound ∧
        r.1.rest = payload data) Fails
      (verifyChecks acc board (.start data false) p) := by
  have hfail : (-1 : ℤ) ≠ 0 := by decide
  unfold verifyChecks
  cases hhead : printBitfileHeader (.start data false) with
  | error e => exact .error trivial
  | ok r =>
      obtain ⟨ret, part, fp⟩ := r
      have hreads := printBitfileHeader_reads hhead
      have hsound : fp.Sound := ⟨hreads.ioError, hreads.consistent (File.consistent_start _ _)⟩
      have hrest : fp.rest = payload data := by rw [payload, hhead]
      rw [call_ok, ok_bind]
      refine .bind (yields_exitIf fun _ => hfail) fun _ _ => .bind (yields_call (yields_true _))
        fun right _ => .bind (yields_exitIf fun _ => hfail) fun _ _ => .ite (fun _ => ?_) fun _ =>
        .ok ⟨hp, rfl, hsound, hrest⟩
      exact .bind (yields_call (shows_checkBoot hacc hp)) fun r hr =>
        .bind (yields_exitIf fun _ => hfail) fun _ _ => .ok ⟨hr.1, hr.2, hsound, hrest⟩

variable (board start) in
/-- What a verify command that returns 0 says about the flash memory. -/
lemma shows_eepromVerify (hk : k ≤ 8) (hnode : fs.node name = some (.regular data true false))
    (hp : I p.dev) :
    Delivers (fun r => r.1 = 0 → I r.2.dev ∧
        (data.length ≠ eepromGetFlashSize board.flashId → Holds f (payload data) start) ∧
        (data.length = eepromGetFlashSize board.flashId → Holds f data 0))
      (eepromVerify fs acc board name start p) := by
  have hfails : ∀ {P : ℤ × Proc σ → Prop} (e : Stop (ℤ × Proc σ)), Fails e →
      Returns (fun r => r.1 = 0 → P r) e := by
    rintro P (r | e) h
    · exact fun h0 => absurd h0 h
    · trivial
  rw [eepromVerify, FileSystem.stSize_of_node hnode, FileSystem.fopen_of_node hnode, orExit_some,
    ok_bind, orExit_some, ok_bind]
  refine delivers_body (.ite (fun hsize => ?_) fun hsize => ?_)
  · refine .bind ((shows_verifyChecks hacc hp).mono_error hfails) ?_
    rintro ⟨fp, p₁⟩ ⟨hp₁, hbuf, hsound, hrest⟩
    refine ((shows_verifyLoop hacc hsound start hp₁).mono_error hfails).mono
      fun r hr _ => ⟨hr.1, fun _ => ?_, fun h => absurd h hsize⟩
    rw [← hrest]
    exact ((pages_match_iff hk _ _ _ _).1 hr.2).1
  · refine ((shows_verifyLoop hacc (sound_start data) 0 hp).mono_error hfails).mono
      fun r hr _ => ⟨hr.1, fun h => absurd (not_not.1 hsize) h, fun _ => ?_⟩
    exact ((pages_match_iff hk _ _ _ _).1 hr.2).1

end Shows

/-! ### Ethernet boards -/

/-- `remote_write_flash`. -/
def remoteWriteFlash (schedule : Schedule Datagram) (sha : Sha256) (fs : FileSystem) (board : Board)
    (name : CStr) (start : ℕ) (fix shaFlag : ℤ) (p : Proc (EthNet k)) :
    Except Fault (ℤ × Proc (EthNet k)) :=
  eepromWrite sha fs (remoteAccess schedule) board name start fix shaFlag p

/-- `remote_verify_flash`. -/
def remoteVerifyFlash (schedule : Schedule Datagram) (fs : FileSystem) (board : Board)
    (name : CStr) (start : ℕ) (p : Proc (EthNet k)) : Except Fault (ℤ × Proc (EthNet k)) :=
  eepromVerify fs (remoteAccess schedule) board name start p

/-- Both commands on a file return 0.  The second one starts in `p₁`, after the network has
gone on for a while, and ends in `p₂`. -/
structure BothSucceed (schedule : Schedule Datagram) (sha : Sha256) (fs : FileSystem)
    (board : Board) (name : CStr) (start : ℕ) (fix shaFlag : ℤ) (p p₁ p₂ : Proc (EthNet k)) :
    Prop where
  write : ∃ p₀ between, remoteWriteFlash schedule sha fs board name start fix shaFlag p =
      .ok (0, p₀) ∧ p₁ = { p₀ with dev := p₀.dev.events ethServe between }
  verify : remoteVerifyFlash schedule fs board name start p₁ = .ok (0, p₂)

/-- **Whatever the network does while a file is written, a verify command that succeeds
means that the payload is in the flash memory, if from its start on the network is in
order, and nothing is under way that changes the flash memory or brings a page.** -/
theorem remoteVerify_holds {schedule : Schedule Datagram} {sha : Sha256} {fix shaFlag : ℤ}
    {p p₁ p₂ : Proc (EthNet k)} (hk : k ≤ 8)
    (hnode : fs.node name = some (.regular data true false))
    (hrun : BothSucceed schedule sha fs board name start fix shaFlag p p₁ p₂)
    (hquiet : p₁.dev.Quiet) (horder : p₁.dev.InOrder schedule) :
    (data.length ≠ eepromGetFlashSize board.flashId →
        Holds p₂.dev.server.flash (payload data) start) ∧
      (data.length = eepromGetFlashSize board.flashId → Holds p₂.dev.server.flash data 0) := by
  have hholding : p₁.dev.Holding schedule p₁.dev.server.flash := ⟨rfl, hquiet.requests, horder⟩
  have hshows : (remoteAccess schedule).Shows
      (fun n : EthNet k => n.Holding schedule p₁.dev.server.flash ∧ n.Quiet)
      p₁.dev.server.flash := fun addr n hn => readPage_remoteAccess hk hn.1 hn.2 addr
  obtain ⟨⟨hflash, -⟩, himage, hfull⟩ :=
    (shows_eepromVerify board start hshows hk hnode ⟨hholding, hquiet⟩).of_eq_ok hrun.verify rfl
  rw [hflash.flash]
  exact ⟨himage, hfull⟩

/-! ### Two lost datagrams -/

/-- The 7I92T card, open. -/
def board7i92t (flashId : UInt8) : Board where
  fpgaType := .efinix
  flash := .remote
  flashId := flashId
  flashStartAddress := eepromCalcUserSpace flashId
  fallbackSupport := 1
  recover := 0
  llio :=
    { writeFlash := some .remoteFlash
      verifyFlash := some .remoteFlash
      backupFlash := some .remoteFlash
      restoreFlash := some .remoteFlash
      fpgaPartNumber := some (ascii "T20F256")
      boardName := ascii "7I92T" }

/-- The header lines of a file for a 7I92T. -/
def efinixLines : List UInt8 :=
  ascii "Version: 2023.1\nCompiler\nDate\nProject\nPath\nFamily: Trion\nDevice: T20F256\n" ++
    ascii "Width\nMode\nPadded\n"

/-- A file with two equal pages. -/
def twoPages : List UInt8 := efinixLines ++ List.replicate (2 * pageSize) 0x55

/-- Each of the two pages. -/
def equalPage : PageBuf := fun _ => 0x55

/-- A board with erased memory and nothing under way, and a new process. -/
def remoteStart : Proc (EthNet 5) := Proc.start (EthNet.idle ⟨fun _ => 0xFF, 0⟩ 0)

lemma printBitfileHeader_twoPages : printBitfileHeader (.start twoPages false) =
    .ok (105, some (ascii "T20F256"), ⟨twoPages, efinixLines.length, false, false⟩) := by
  decide +kernel

lemma payload_twoPages : payload twoPages = List.replicate (2 * pageSize) 0x55 := by
  rw [payload, printBitfileHeader_twoPages]
  exact List.drop_left

lemma filePage_twoPages (buf : ℕ → UInt8) {j : ℕ} (hj : j < 2) :
    filePage buf (List.replicate (2 * pageSize) 0x55) j = equalPage := by
  funext i
  have hi : (i : ℕ) < pageSize := i.isLt
  have hmul := Nat.mul_le_mul_left pageSize (Nat.succ_le_of_lt hj)
  have hlt : pageSize * j + i < 2 * pageSize := by
    rw [Nat.mul_succ] at hmul
    omega
  rw [filePage, pageAt, image_of_lt (by rwa [List.length_replicate]), equalPage,
    List.getD_eq_getElem _ _ (by rwa [List.length_replicate]), List.getElem_replicate]

lemma sound_twoPages : File.Sound ⟨twoPages, efinixLines.length, false, false⟩ :=
  ⟨rfl, fun h => absurd h (by decide)⟩

lemma rest_twoPages : File.rest ⟨twoPages, efinixLines.length, false, false⟩ =
    List.replicate (2 * pageSize) 0x55 := List.drop_left

lemma filePages_twoPages : filePages (List.replicate (2 * pageSize) 0x55) = 2 := by
  rw [filePages, List.length_replicate]
  decide

lemma nextPage_twoPages : nextPage^[1] 0x100000 = 0x100100 := by decide

section Two

variable {σ : Type} {acc : SpiEepromDev σ} {p : Proc σ} {d₁ d₂ d₃ : σ}

/-- Writing `twoPages` erases one sector and writes the two pages. -/
lemma exists_eepromWrite_twoPages (sha : Sha256)
    (herase : acc.eraseSector 0x100000 p.dev = .ok d₁)
    (hfirst : acc.writePage 0x100000 equalPage d₁ = .ok d₂)
    (hsecond : acc.writePage 0x100100 equalPage d₂ = .ok d₃) :
    ∃ p', eepromWrite sha (FileSystem.empty.put [] twoPages) acc (board7i92t idEeprom16M) []
      0x100000 0 0 p = .ok (0, p') ∧ p'.dev = d₃ := by
  have hsectors : (eSectors (toInt (twoPages.length : ℕ)) + 1).toNat = 1 := by decide +kernel
  have hstart : startProgramming acc (board7i92t idEeprom16M) 0x100000
      (toInt (twoPages.length : ℕ)) p = .ok (0, { p with dev := d₁ }) := by
    rw [startProgramming_eq, if_neg (by decide +kernel), hsectors, List.range_one,
      List.foldlM_cons, Function.iterate_zero_apply, herase]
    rfl
  have hloop := programLoop_eq acc sound_twoPages 0x100000 { p with dev := d₁ }
  rw [rest_twoPages, filePages_twoPages, show List.range 2 = [0, 1] from rfl, List.foldlM_cons,
    filePage_twoPages _ (by decide), Function.iterate_zero_apply, hfirst, ok_bind,
    List.foldlM_cons, filePage_twoPages _ (by decide), nextPage_twoPages, hsecond, ok_bind,
    List.foldlM_nil, pure_eq_ok, ok_bind] at hloop
  exact ⟨_, eepromWrite_eq_zero_iff.2 ⟨p, _, _, _, _, _, p, 0, _, rfl,
    FileSystem.stSize_of_node (FileSystem.node_put_self _ _ _),
    FileSystem.fopen_of_node (FileSystem.node_put_self _ _ _), printBitfileHeader_twoPages,
    by decide, fun _ => by decide, rfl, hstart, by decide, hloop⟩, rfl⟩

/-- Verifying `twoPages` reads the two pages. -/
lemma exists_eepromVerify_twoPages (hfirst : acc.readPage 0x100000 p.dev = .ok (equalPage, d₁))
    (hsecond : acc.readPage 0x100100 d₁ = .ok (equalPage, d₂)) :
    ∃ p', eepromVerify (FileSystem.empty.put [] twoPages) acc (board7i92t idEeprom16M) []
      0x100000 p = .ok (0, p') ∧ p'.dev = d₂ := by
  have hchecks : verifyChecks acc (board7i92t idEeprom16M) (.start twoPages false) p =
      .ok (⟨twoPages, efinixLines.length, false, false⟩, p) := by
    rw [verifyChecks, printBitfileHeader_twoPages]
    rfl
  have hpage : ∀ {buf addr s d}, acc.readPage addr s.2 = .ok (equalPage, d) →
      verifyPage acc p buf addr equalPage s = .ok (equalPage, d) := by
    intro buf addr s d h
    rw [verifyPage, h, call_ok, ok_bind]
    exact if_pos fun _ => rfl
  have hloop := verifyLoop_eq acc sound_twoPages 0x100000 p
  rw [rest_twoPages, filePages_twoPages, show List.range 2 = [0, 1] from rfl, List.foldlM_cons,
    filePage_twoPages _ (by decide), Function.iterate_zero_apply, hpage hfirst, ok_bind,
    List.foldlM_cons, filePage_twoPages _ (by decide), nextPage_twoPages, hpage hsecond, ok_bind,
    List.foldlM_nil, pure_eq_ok, ok_bind] at hloop
  refine ⟨{ p with
    pageBuffer := equalPage
    fileBuffer := drained chunkSize p.fileBuffer (List.replicate (2 * pageSize) 0x55)
    dev := d₂ }, ?_, rfl⟩
  rw [eepromVerify, FileSystem.stSize_of_node (FileSystem.node_put_self _ _ _),
    FileSystem.fopen_of_node (FileSystem.node_put_self _ _ _), orExit_some, ok_bind, orExit_some,
    ok_bind, if_pos (by decide +kernel), hchecks, ok_bind]
  dsimp only
  rw [hloop, body_ok]

end Two

/-- Erased memory, after the page was written to the given addresses. -/
def equalFlash (w : List ℕ) : Flash (chip 5) :=
  Flash.programAll (w.map fun a => (a, equalPage)) (Flash.eraseSector 0x100000 fun _ => 0xFF)

/-- What was written is read back. -/
lemma readPage_equalFlash {w : List ℕ} (haligned : ∀ a ∈ w, pageSize ∣ a) {a : ℕ} (ha : a ∈ w) :
    Flash.readPage (equalFlash w) a = equalPage := by
  have herased : (Flash.eraseSector 0x100000 fun _ => 0xFF : Flash (chip 5)) = fun _ => 0xFF :=
    funext fun _ => ite_self _
  rw [equalFlash, herased]
  refine (Flash.readback_iff (G := chip 5) ?_ _).2 ⟨?_, ?_⟩ (a, equalPage)
    (List.mem_map.2 ⟨a, ha, rfl⟩)
  · intro x hx
    obtain ⟨a', ha', rfl⟩ := List.mem_map.1 hx
    exact haligned a' ha'
  · intro x hx i
    obtain ⟨a', -, rfl⟩ := List.mem_map.1 hx
    exact (by decide : Flash.Clears 0xFF 0x55)
  · rintro x hx y hy -
    obtain ⟨_, -, rfl⟩ := List.mem_map.1 hx
    obtain ⟨_, -, rfl⟩ := List.mem_map.1 hy
    rfl

section Remote

variable {schedule : Schedule Datagram} {w : List ℕ} {a r c : ℕ}

lemma eraseSector_equalFlash (h₁ : schedule 1 = promptly) (h₂ : schedule 2 = promptly)
    (h₃ : schedule 3 = promptly) :
    (remoteAccess schedule).eraseSector 0x100000 remoteStart.dev =
      .ok (EthNet.idle ⟨equalFlash [], 0x100000⟩ 4) :=
  eraseSector_idle (await_address h₁ (by decide)) (await_sent h₂ (ethServe_sectorErasePck _)) h₃

lemma writePage_equalFlash (ha : a < 2 ^ 32) (h₁ : schedule (c + 1) = promptly)
    (h₂ : schedule (c + 2) = promptly) (h₃ : schedule (c + 3) = promptly) :
    (remoteAccess schedule).writePage a equalPage (EthNet.idle ⟨equalFlash w, r⟩ c) =
      .ok (EthNet.idle ⟨equalFlash (w ++ [a]), a⟩ (c + 4)) := by
  have happend : equalFlash (w ++ [a]) = Flash.programPage a equalPage (equalFlash w) := by
    rw [equalFlash, List.map_append, Flash.programAll, List.foldl_append]
    rfl
  rw [happend]
  exact writePage_idle (await_address h₁ ha) (await_sent h₂ (ethServe_writePagePck _ _)) h₃

lemma readPage_equalFlash_idle (haligned : ∀ a ∈ w, pageSize ∣ a) (ha : a ∈ w)
    (hlt : a < 2 ^ 32) (h₁ : schedule (c + 1) = promptly) (h₂ : schedule (c + 2) = promptly) :
    (remoteAccess schedule).readPage a (EthNet.idle ⟨equalFlash w, r⟩ c) =
      .ok (equalPage, EthNet.idle ⟨equalFlash w, a⟩ (c + 3)) := by
  rw [readPage_idle (await_address h₁ hlt) h₂, readPage_equalFlash haligned ha]

end Remote

/-- A network that loses the second page when it is written, and the address of the second
page when it is verified. -/
def twoLosses : Schedule Datagram := fun m =>
  if m = 10 then [.lose (writePagePck equalPage)]
  else if m = 16 then [.lose (writeAddrPck 0x100100)]
  else promptly

/-- Two lost datagrams are enough for both commands to succeed without the second page. -/
theorem not_remoteVerify_twoLosses : ∃ p₁ p₂,
    BothSucceed twoLosses (.constant fun _ => 0) (FileSystem.empty.put [] twoPages)
      (board7i92t idEeprom16M) [] 0x100000 0 0 remoteStart p₁ p₂ ∧
    ¬ Holds p₂.dev.server.flash (payload twoPages) 0x100000 := by
  have hfirst : (remoteAccess twoLosses).writePage 0x100000 equalPage
      (EthNet.idle ⟨equalFlash [], 0x100000⟩ 4) =
      .ok (EthNet.idle ⟨equalFlash [0x100000], 0x100000⟩ 8) :=
    writePage_equalFlash (by decide) rfl rfl rfl
  have hsecond : (remoteAccess twoLosses).writePage 0x100100 equalPage
      (EthNet.idle ⟨equalFlash [0x100000], 0x100000⟩ 8) =
      .ok (EthNet.idle ⟨equalFlash [0x100000], 0x100100⟩ 12) :=
    writePage_idle (await_address rfl (by decide)) (await_lost (if_pos rfl)) rfl
  have hread : (remoteAccess twoLosses).readPage 0x100000
      (EthNet.idle ⟨equalFlash [0x100000], 0x100100⟩ 12) =
      .ok (equalPage, EthNet.idle ⟨equalFlash [0x100000], 0x100000⟩ 15) :=
    readPage_equalFlash_idle (by decide) (by simp) (by decide) rfl rfl
  -- the second page is read at the address of the first one
  have hagain : (remoteAccess twoLosses).readPage 0x100100
      (EthNet.idle ⟨equalFlash [0x100000], 0x100000⟩ 15) =
      .ok (equalPage, EthNet.idle ⟨equalFlash [0x100000], 0x100000⟩ 18) := by
    rw [readPage_idle (await_lost rfl) rfl, readPage_equalFlash (by decide) (by simp)]
  obtain ⟨p₁, hwrite, hp₁⟩ := exists_eepromWrite_twoPages (.constant fun _ => 0)
    (p := remoteStart) (eraseSector_equalFlash rfl rfl rfl) hfirst hsecond
  obtain ⟨p₂, hverify, hp₂⟩ := exists_eepromVerify_twoPages (p := p₁)
    (by rw [hp₁]; exact hread) hagain
  refine ⟨p₁, p₂, ⟨⟨p₁, [], hwrite, rfl⟩, hverify⟩, fun h => ?_⟩
  rw [hp₂, payload_twoPages] at h
  exact absurd (h pageSize (by rw [List.length_replicate]; decide)) (by decide)

theorem remoteVerify_holds_promptly : ∃ p₁ p₂,
    BothSucceed (fun _ => promptly) (.constant fun _ => 0) (FileSystem.empty.put [] twoPages)
      (board7i92t idEeprom16M) [] 0x100000 0 0 remoteStart p₁ p₂ ∧
    Holds p₂.dev.server.flash (payload twoPages) 0x100000 := by
  have hfirst : (remoteAccess fun _ => promptly).writePage 0x100000 equalPage
      (EthNet.idle ⟨equalFlash [], 0x100000⟩ 4) =
      .ok (EthNet.idle ⟨equalFlash [0x100000], 0x100000⟩ 8) :=
    writePage_equalFlash (by decide) rfl rfl rfl
  have hsecond : (remoteAccess fun _ => promptly).writePage 0x100100 equalPage
      (EthNet.idle ⟨equalFlash [0x100000], 0x100000⟩ 8) =
      .ok (EthNet.idle ⟨equalFlash [0x100000, 0x100100], 0x100100⟩ 12) :=
    writePage_equalFlash (by decide) rfl rfl rfl
  obtain ⟨p₁, hwrite, hp₁⟩ := exists_eepromWrite_twoPages (.constant fun _ => 0)
    (p := remoteStart) (eraseSector_equalFlash rfl rfl rfl) hfirst hsecond
  have hread : (remoteAccess fun _ => promptly).readPage 0x100000 p₁.dev =
      .ok (equalPage, EthNet.idle ⟨equalFlash [0x100000, 0x100100], 0x100000⟩ 15) := by
    rw [hp₁]
    exact readPage_equalFlash_idle (by decide) (by simp) (by decide) rfl rfl
  obtain ⟨p₂, hverify, -⟩ := exists_eepromVerify_twoPages hread
    (readPage_equalFlash_idle (by decide) (by simp) (by decide) rfl rfl)
  have hrun : BothSucceed (fun _ => promptly) (.constant fun _ => 0)
      (FileSystem.empty.put [] twoPages) (board7i92t idEeprom16M) [] 0x100000 0 0 remoteStart
      p₁ p₂ := ⟨⟨p₁, [], hwrite, rfl⟩, hverify⟩
  have hquiet : p₁.dev.Quiet := by
    rw [hp₁]
    exact ⟨fun _ hd => absurd hd List.not_mem_nil, fun _ hx => absurd hx List.not_mem_nil⟩
  have horder : p₁.dev.InOrder fun _ => promptly := by
    intro m _ e he
    simp only [promptly, List.mem_cons, List.not_mem_nil, or_false] at he
    rcases he with rfl | rfl
    · rfl
    · trivial
  exact ⟨p₁, p₂, hrun, (remoteVerify_holds (by decide) (FileSystem.node_put_self _ _ _) hrun
    hquiet horder).1 (by decide +kernel)⟩

end Mesaflash
