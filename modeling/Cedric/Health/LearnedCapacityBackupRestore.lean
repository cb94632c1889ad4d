import Cedric.Health.Files
import Mathlib

/-!
# `LearnedCapacityBackupRestore`

The learned capacity is kept in a file and in the fuel gauge; zero stands for none. Each
call brings the higher of the two copies down to the lower one, which in the order of
`known` is the greater.
-/

namespace Cedric.Health

open DecimalText

/-- `storage` and `sram` are the files `kSysCFPersistFile` and `kChgFullFile`. -/
structure LearnedCapacityBackupRestore where
  swCap : CInt
  hwCap : CInt
  storage : Option Text
  sram : Option Text

namespace LearnedCapacityBackupRestore

def start (storage sram : Option Text) : LearnedCapacityBackupRestore := ⟨0, 0, storage, sram⟩

def text (capacity : CInt) : Text := snprintf (print capacity.1)

variable (s : LearnedCapacityBackupRestore) (calls : FileCalls)

def storageRead : Option CInt :=
  (assigned 1 (readFileToString s.storage calls.readsStorage)).head?

def readFromStorage : LearnedCapacityBackupRestore :=
  { s with swCap := (s.storageRead calls).getD s.swCap }

def sramRead : Option CInt :=
  (assigned 1 ((readFileToString s.sram calls.readsSRAM).map trim)).head?

def readFromSRAM : LearnedCapacityBackupRestore :=
  { s with hwCap := (s.sramRead calls).getD s.hwCap }

def saveToSRAM : LearnedCapacityBackupRestore :=
  { s with sram := writeStringToFile (text s.hwCap) calls.savesToSRAM }

def saveToStorage : LearnedCapacityBackupRestore :=
  { s with storage := writeStringToFile (text s.swCap) calls.savesToStorage }

/-- At most one of the flags `backup` and `restore` is set. -/
def updateAndSave : LearnedCapacityBackupRestore :=
  if s.hwCap = 0 then s
  else if s.hwCap < s.swCap ∨ s.swCap = 0 then
    { s with swCap := s.hwCap }.saveToStorage calls
  else if s.hwCap > s.swCap then { s with hwCap := s.swCap }.saveToSRAM calls
  else s

def restore : LearnedCapacityBackupRestore :=
  ((s.readFromStorage calls).readFromSRAM calls).updateAndSave calls

def backup : LearnedCapacityBackupRestore := (s.readFromSRAM calls).updateAndSave calls

inductive Event
  | fuelGauge (sram : Option Text)
  | restore (calls : FileCalls)
  | backup (calls : FileCalls)

def step : Event → LearnedCapacityBackupRestore
  | .fuelGauge sram => { s with sram := sram }
  | .restore calls => s.restore calls
  | .backup calls => s.backup calls

end LearnedCapacityBackupRestore

/-- Zero is no capacity, and of two others the lower one goes before. -/
def known (capacity : CInt) : WithBot CIntᵒᵈ :=
  if capacity = 0 then ⊥ else (OrderDual.toDual capacity : CIntᵒᵈ)

theorem known_zero : known 0 = ⊥ := if_pos rfl

theorem known_le_iff {a b : CInt} : known a ≤ known b ↔ a = 0 ∨ b ≠ 0 ∧ b ≤ a := by
  rw [known, known]
  split_ifs with ha hb hb
  · exact iff_of_true le_rfl (Or.inl ha)
  · exact iff_of_true bot_le (Or.inl ha)
  · refine iff_of_false (fun h => ?_) fun h => h.elim ha fun h => h.1 hb
    exact WithBot.coe_ne_bot (le_bot_iff.mp h)
  · rw [WithBot.coe_le_coe, OrderDual.toDual_le_toDual]
    exact ⟨fun h => Or.inr ⟨hb, h⟩, fun h => h.elim (fun hzero => absurd hzero ha) And.right⟩

theorem known_injective : Function.Injective known := by
  intro a b h
  have hab := known_le_iff.mp h.le
  have hba := known_le_iff.mp h.ge
  rcases hab with rfl | ⟨hb, hle⟩
  · rcases hba with rfl | ⟨hne, -⟩
    · rfl
    · exact absurd rfl hne
  · rcases hba with rfl | ⟨-, hge⟩
    · exact absurd rfl hb
    · exact le_antisymm hge hle

namespace LearnedCapacityBackupRestore

variable (s : LearnedCapacityBackupRestore) (calls : FileCalls)

theorem updateAndSave_eq :
    known (s.updateAndSave calls).swCap = max (known s.swCap) (known s.hwCap) ∧
      known (s.updateAndSave calls).hwCap ≤ known (s.updateAndSave calls).swCap ∧
      (known s.hwCap ≤ known s.swCap → (s.updateAndSave calls).storage = s.storage) ∧
      (¬ known s.hwCap ≤ known s.swCap → (s.updateAndSave calls).storage =
        writeStringToFile (text (s.updateAndSave calls).swCap) calls.savesToStorage) := by
  rw [updateAndSave]
  split_ifs with hzero hlower hhigher
  · have hle : known s.hwCap ≤ known s.swCap := known_le_iff.mpr (Or.inl hzero)
    exact ⟨(max_eq_left hle).symm, hle, fun _ => rfl, fun hnot => absurd hle hnot⟩
  · have hnot : ¬ known s.hwCap ≤ known s.swCap := by
      rw [known_le_iff]
      rintro (hz | ⟨hne, hle⟩)
      · exact hzero hz
      · exact hlower.elim (fun hlt => absurd hle (not_le_of_gt hlt)) hne
    exact ⟨(max_eq_right (le_of_not_ge hnot)).symm, le_rfl, fun hle => absurd hle hnot, fun _ => rfl⟩
  · have hne : s.swCap ≠ 0 := fun hz => hlower (Or.inr hz)
    have hle : known s.hwCap ≤ known s.swCap :=
      known_le_iff.mpr (Or.inr ⟨hne, le_of_lt hhigher⟩)
    exact ⟨(max_eq_left hle).symm, le_rfl, fun _ => rfl, fun hnot => absurd hle hnot⟩
  · have hne : s.swCap ≠ 0 := fun hz => hlower (Or.inr hz)
    have hle : known s.hwCap ≤ known s.swCap :=
      known_le_iff.mpr (Or.inr ⟨hne, le_of_not_gt fun hlt => hlower (Or.inl hlt)⟩)
    exact ⟨(max_eq_left hle).symm, hle, fun _ => rfl, fun hnot => absurd hle hnot⟩

end LearnedCapacityBackupRestore
end Cedric.Health
