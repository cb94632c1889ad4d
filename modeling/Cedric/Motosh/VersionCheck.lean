import Cedric.Motosh.Crc32

/-!
# The version check

`stm_versionCheck` compares the version string and the CRC of the firmware file
with those of the sensor hub. The boot command erases and reflashes the hub on a
mismatch. A read that fails in the version string empties the string; in the CRC
loop it ends the file early, and the check goes on with the wrong CRC.
-/

namespace Cedric.Motosh

open ByteStream

structure Module where
  FLASH_SIZE : ℕ
  FLASH_FILL : BitVec 8
  STM_MAX_PACKET_LENGTH : ℕ
  packet_pos : 0 < STM_MAX_PACKET_LENGTH
  packet_words : 8 ∣ STM_MAX_PACKET_LENGTH

def MODULE_stml0xx : Module := ⟨0x00ffFF, 0x00, 256, by decide, by decide⟩
def MODULE_motosh : Module := ⟨0x0FffFF, 0xff, 248, by decide, by decide⟩

inductive FirmwareType
  | FW_STOCK | FW_APK
  deriving DecidableEq

inductive VersionResult
  | STM_VERSION_MISMATCH | STM_VERSION_MATCH
  deriving DecidableEq

inductive VmmID
  | FW_VERSION_LEN | FW_VERSION_STR | FW_CRC
  deriving DecidableEq

/-- The hub driver; `read` is the answer to `SH_IOCTL_READ_REG`, `none` an error. -/
structure SensorHub where
  fd : ℤ
  maxRx : ℕ
  read : VmmID → ℕ → Option (ℕ → BitVec 8)

namespace SensorHub

variable (hub : SensorHub)

def readReg (vmmId : VmmID) (size : ℕ) : Option (ℕ → BitVec 8) :=
  if hub.fd < 0 ∨ hub.maxRx < size then none else hub.read vmmId size

def getVersionStr : List (BitVec 8) :=
  match hub.readReg .FW_VERSION_LEN 1 with
  | none => []
  | some buff =>
    let strLen := min (buff 0).toNat hub.maxRx
    if strLen = 0 then []
    else
      match hub.readReg .FW_VERSION_STR strLen with
      | none => []
      | some verStr => (List.range strLen).map verStr

/-- The register is little endian; 0 stands for an error too. -/
def getFlashCrc : BitVec 32 :=
  match hub.readReg .FW_CRC 4 with
  | none => 0
  | some buff => buff 3 ++ buff 2 ++ buff 1 ++ buff 0

end SensorHub

def isspace (c : BitVec 8) : Bool := decide (c ∈ [0x20, 0x09, 0x0a, 0x0b, 0x0c, 0x0d])

def hexDigit (c : BitVec 8) : Option ℤ :=
  if 0x30 ≤ c ∧ c ≤ 0x39 then some (c.toNat - 0x30)
  else if 0x41 ≤ c ∧ c ≤ 0x46 then some (c.toNat - 0x41 + 10)
  else if 0x61 ≤ c ∧ c ≤ 0x66 then some (c.toNat - 0x61 + 10)
  else none

/-- `sscanf` with `%02x`: blanks, then at most two characters, a sign being one of them. -/
def scanByte (s : List (BitVec 8)) : Option ℤ :=
  match (s.takeWhile (· ≠ 0)).dropWhile isspace with
  | [] => none
  | c :: rest =>
    let second := rest.head?.bind hexDigit
    if c = 0x2b then second
    else if c = 0x2d then second.map Neg.neg
    else
      (hexDigit c).map fun x =>
        match second with
        | some y => 16 * x + y
        | none => x

/-- The pairs from position `i` on; `fuel` bounds their number. -/
def convertFrom (input : List (BitVec 8)) (inlen : ℕ) : ℕ → ℕ → List (BitVec 8)
  | 0, _ => []
  | fuel + 1, i =>
    if i < inlen then
      match scanByte (input.drop i) with
      | none => []
      | some x => BitVec.ofInt 8 x :: convertFrom input inlen fuel (i + 2)
    else []

def stmConvertAsciiToHex (input : List (BitVec 8)) (inlen : ℕ) : List (BitVec 8) :=
  convertFrom input inlen inlen 0

/-- The firmware files, if they can be read, and what else the check depends on. -/
structure World where
  file : FirmwareType → Option (List (BitVec 8))
  versionAccess : FileAccess
  crcAccess : FileAccess
  hub : SensorHub
  FW_VERSION_STR_MAX_LEN : ℕ
  /-- Memory nothing has been stored in: behind `offsetStr`, and in `offsetHex`. -/
  afterOffset : List (BitVec 8)
  offsetHex : ℕ → BitVec 8

def fread (fails : ℕ → Bool) : ℕ → Stream (BitVec 8) → List (BitVec 8) × Stream (BitVec 8)
  | 0, f => ([], f)
  | n + 1, f =>
    match fgetc fails f with
    | (none, g) => ([], g)
    | (some b, g) =>
      let r := fread fails n g
      (b :: r.1, r.2)

/-- The loop over the version string, with `room` bytes left in the buffer. The second
component is the last character read. -/
def readVersion (fails : ℕ → Bool) : ℕ → Stream (BitVec 8) →
    List (BitVec 8) × Option (BitVec 8)
  | room, f =>
    match fgetc fails f with
    | (none, _) => ([], none)
    | (some c, g) =>
      if c = 0 then ([], some c)
      else
        match room with
        | 0 => ([], some c)
        | room + 1 =>
          let r := readVersion fails room g
          (c :: r.1, r.2)

namespace World

variable (w : World) (m : Module)

def fwFileOf (type : FirmwareType) : Except ℤ (List (BitVec 8)) :=
  match w.file type with
  | none => .error (-3)
  | some content => .ok content

def stmGetFwFile : Except ℤ (List (BitVec 8)) :=
  match w.fwFileOf .FW_APK with
  | .ok content => .ok content
  | .error _ => w.fwFileOf .FW_STOCK

/-- The address of the version string: the first byte is that of the flash. -/
def versionOffset (offsetStr : List (BitVec 8)) : ℕ :=
  let hex := stmConvertAsciiToHex (offsetStr ++ w.afterOffset) 8
  let offsetHex := fun i => hex.getD i (w.offsetHex i)
  (offsetHex 1).toNat * 2 ^ 16 + (offsetHex 2).toNat * 2 ^ 8 + (offsetHex 3).toNat

def stmGetFwVersionFromFile : List (BitVec 8) :=
  match w.stmGetFwFile with
  | .error _ => []
  | .ok content =>
    if !w.versionAccess.opens then []
    else if !w.versionAccess.seekEnd || content.length < 9 then []
    else
      let fails := w.versionAccess.fails
      let offsetStr := fread fails 8 ⟨content.drop (content.length - 9), 0, false⟩
      if offsetStr.1.length ≠ 8 then []
      else if !w.versionAccess.seekSet then []
      else
        let f : Stream (BitVec 8) :=
          ⟨content.drop (w.versionOffset offsetStr.1), offsetStr.2.calls, false⟩
        let r := readVersion fails w.FW_VERSION_STR_MAX_LEN f
        if r.2 = none ∨ w.FW_VERSION_STR_MAX_LEN - 1 ≤ r.1.length then [] else r.1

def stmCalcFwFileCrc : Except ℤ (BitVec 32) :=
  match w.stmGetFwFile with
  | .error _ => .error (-1)
  | .ok content => calculateFileCrc32 w.crcAccess content m.FLASH_SIZE m.FLASH_FILL

def stmVersionCheck : VersionResult :=
  let fileVersion := w.stmGetFwVersionFromFile
  if fileVersion = [] then .STM_VERSION_MATCH
  else
    match w.stmCalcFwFileCrc m with
    | .error _ => .STM_VERSION_MATCH
    | .ok fileCrc =>
      let hwVersion := w.hub.getVersionStr
      if hwVersion = [] then .STM_VERSION_MISMATCH
      else
        let hwCrc := w.hub.getFlashCrc
        if hwCrc = 0 then .STM_VERSION_MISMATCH
        else if hwVersion = fileVersion ∧ fileCrc = hwCrc then .STM_VERSION_MATCH
        else .STM_VERSION_MISMATCH

structure CrcRead (content : List (BitVec 8)) : Prop where
  version : w.stmGetFwVersionFromFile ≠ []
  file : w.stmGetFwFile = .ok content
  opens : w.crcAccess.opens = true

/-- A mismatch is found only over a file that was read to its end, and a read error of the
CRC loop is an error of the CRC and so a match. -/
structure ReportsErrors : Prop where
  complete : w.stmVersionCheck m = .STM_VERSION_MISMATCH → ∃ content, w.CrcRead content ∧
    ((opened content).drain w.crcAccess.fails).2.feof = true
  reported : ∀ content, w.CrcRead content → ¬ Sound w.crcAccess.fails (opened content) →
    (∃ e < 0, w.stmCalcFwFileCrc m = .error e) ∧
      w.stmVersionCheck m = .STM_VERSION_MATCH

variable {w m}

theorem calcFwFileCrc_of_read {content : List (BitVec 8)} (h : w.CrcRead content) :
    ∃ crc, w.stmCalcFwFileCrc m = .ok crc := by
  rw [stmCalcFwFileCrc, h.file]
  exact ⟨_, calculateFileCrc32_opens h.opens content m.FLASH_SIZE m.FLASH_FILL⟩

theorem crcRead_of_mismatch (h : w.stmVersionCheck m = .STM_VERSION_MISMATCH) :
    ∃ content, w.CrcRead content := by
  simp only [stmVersionCheck] at h
  by_cases hversion : w.stmGetFwVersionFromFile = []
  · rw [if_pos hversion] at h
    cases h
  rw [if_neg hversion] at h
  cases hfile : w.stmGetFwFile with
  | error e =>
    rw [stmCalcFwFileCrc, hfile] at h
    cases h
  | ok content =>
    refine ⟨content, hversion, hfile, ?_⟩
    by_contra hclosed
    have herror : w.stmCalcFwFileCrc m = .error (-1) := by
      rw [stmCalcFwFileCrc, hfile]
      exact if_pos (by rw [Bool.eq_false_of_not_eq_true hclosed]; rfl)
    rw [herror] at h
    cases h

end World

/-- Read errors are reported exactly if the check meets none in the CRC loop. -/
theorem reportsErrors_iff (w : World) (m : Module) :
    w.ReportsErrors m ↔
      ∀ content, w.CrcRead content → Sound w.crcAccess.fails (opened content) := by
  constructor
  · intro h content hread
    by_contra hfails
    obtain ⟨⟨e, -, herror⟩, -⟩ := h.reported content hread hfails
    obtain ⟨crc, hok⟩ := World.calcFwFileCrc_of_read (m := m) hread
    rw [hok] at herror
    cases herror
  · intro h
    refine ⟨fun hmismatch => ?_, fun content hread hfails => ?_⟩
    · obtain ⟨content, hread⟩ := World.crcRead_of_mismatch hmismatch
      exact ⟨content, hread, (drain_feof_iff _ rfl).mpr (h content hread)⟩
    · exact absurd (h content hread) hfails

def versionFile : List (BitVec 8) := [0x76, 0, 0x30, 0x38, 0x30, 0x30, 0x30, 0x30, 0x30, 0x30, 0x0a]

/-- The first read of the CRC loop fails, and the hub reports another version. -/
def truncatedCrc : World where
  file _ := some versionFile
  versionAccess := ⟨true, true, true, fun _ => false⟩
  crcAccess := ⟨true, true, true, fun n => decide (n = 0)⟩
  hub := ⟨3, 16, fun _ _ => some fun _ => 1⟩
  FW_VERSION_STR_MAX_LEN := 20
  afterOffset := []
  offsetHex _ := 0

theorem truncated_crc_counts_as_mismatch :
    ¬ truncatedCrc.ReportsErrors MODULE_stml0xx := by
  intro h
  obtain ⟨content, hread, hend⟩ := h.complete (by decide +kernel)
  have hfile : content = versionFile := (Except.ok.inj hread.file).symm
  rw [hfile] at hend
  exact absurd hend (by decide)

end Cedric.Motosh
