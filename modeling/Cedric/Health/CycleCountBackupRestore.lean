import Cedric.Health.Files
import Cedric.Lib.Runs
import Mathlib.Data.Fintype.Pi
import Mathlib.Order.Fin.Basic

/-!
# `CycleCountBackupRestore`

The cycle counts are kept in a file and in the fuel gauge, and each call brings the
lower copy of every bin up to the higher one.
-/

namespace Cedric.Health

open DecimalText Runs

abbrev kBucketCount : ℕ := 8

abbrev Bins := Fin kBucketCount → CInt

/-- `storage` and `sram` are the files `kSysPersistFile` and `kCycCntFile`. -/
structure CycleCountBackupRestore where
  swBins : Bins
  hwBins : Bins
  storage : Option Text
  sram : Option Text

/-- `sscanf` assigns the fields in order. -/
def Bins.assign (bins : Bins) (ns : List CInt) : Bins := fun i => (ns[i.1]?).getD (bins i)

def Bins.text (bins : Bins) : Text := snprintf (printAll (List.ofFn bins))

structure Update where
  sw : Bins
  hw : Bins
  backup : Bool
  restore : Bool

def Update.bucket (u : Update) (i : Fin kBucketCount) : Update :=
  if u.hw i < u.sw i then { u with hw := Function.update u.hw i (u.sw i), restore := true }
  else if u.hw i > u.sw i then { u with sw := Function.update u.sw i (u.hw i), backup := true }
  else u

def Update.run (sw hw : Bins) : Update :=
  (List.finRange kBucketCount).foldl Update.bucket ⟨sw, hw, false, false⟩

namespace CycleCountBackupRestore

def start (storage sram : Option Text) : CycleCountBackupRestore := ⟨0, 0, storage, sram⟩

variable (s : CycleCountBackupRestore) (calls : FileCalls)

def storageRead : List CInt := assigned kBucketCount (readFileToString s.storage calls.readsStorage)

def readFromStorage : CycleCountBackupRestore :=
  { s with swBins := s.swBins.assign (s.storageRead calls) }

def sramRead : List CInt :=
  assigned kBucketCount ((readFileToString s.sram calls.readsSRAM).map trim)

def readFromSRAM : CycleCountBackupRestore :=
  { s with hwBins := s.hwBins.assign (s.sramRead calls) }

def saveToSRAM : CycleCountBackupRestore :=
  { s with sram := writeStringToFile s.hwBins.text calls.savesToSRAM }

def saveToStorage : CycleCountBackupRestore :=
  { s with storage := writeStringToFile s.swBins.text calls.savesToStorage }

def updateAndSave : CycleCountBackupRestore :=
  let u := Update.run s.swBins s.hwBins
  let s := { s with swBins := u.sw, hwBins := u.hw }
  let s := if u.restore then s.saveToSRAM calls else s
  if u.backup then s.saveToStorage calls else s

def restore : CycleCountBackupRestore :=
  ((s.readFromStorage calls).readFromSRAM calls).updateAndSave calls

def backup : CycleCountBackupRestore := (s.readFromSRAM calls).updateAndSave calls

inductive Event
  | fuelGauge (sram : Option Text)
  | restore (calls : FileCalls)
  | backup (calls : FileCalls)

def step : Event → CycleCountBackupRestore
  | .fuelGauge sram => { s with sram := sram }
  | .restore calls => s.restore calls
  | .backup calls => s.backup calls

end CycleCountBackupRestore

namespace Update

theorem bucket_eq (u : Update) (i : Fin kBucketCount) : u.bucket i =
    ⟨Function.update u.sw i (max (u.sw i) (u.hw i)), Function.update u.hw i (max (u.sw i) (u.hw i)),
      u.backup || decide (u.sw i < u.hw i), u.restore || decide (u.hw i < u.sw i)⟩ := by
  rw [bucket]
  rcases lt_trichotomy (u.hw i) (u.sw i) with hlt | heq | hgt
  · rw [if_pos hlt, max_eq_left hlt.le, Function.update_eq_self, decide_eq_true hlt,
      decide_eq_false (not_lt_of_gt hlt), Bool.or_true, Bool.or_false]
  · rw [if_neg heq.not_lt, if_neg heq.not_gt, heq, max_self, decide_eq_false (lt_irrefl _),
      Bool.or_false, Bool.or_false, Function.update_eq_self, ← heq, Function.update_eq_self]
  · rw [if_neg (not_lt_of_gt hgt), if_pos hgt, max_eq_right hgt.le, Function.update_eq_self,
      decide_eq_true hgt, decide_eq_false (not_lt_of_gt hgt), Bool.or_true, Bool.or_false]

structure Merged (sw hw : Bins) (done : List (Fin kBucketCount)) (u : Update) : Prop where
  behind : ∀ i ∈ done, u.sw i = max (sw i) (hw i) ∧ u.hw i = max (sw i) (hw i)
  ahead : ∀ i, i ∉ done → u.sw i = sw i ∧ u.hw i = hw i
  backup : u.backup = true ↔ ∃ i ∈ done, sw i < hw i
  restore : u.restore = true ↔ ∃ i ∈ done, hw i < sw i

theorem exists_mem_concat {P : Fin kBucketCount → Prop} {done : List (Fin kBucketCount)}
    {i : Fin kBucketCount} : (∃ j ∈ done ++ [i], P j) ↔ (∃ j ∈ done, P j) ∨ P i := by
  simp only [List.mem_append, List.mem_singleton, or_and_right, exists_or, exists_eq_left]

theorem Merged.flag_iff {sw hw : Bins} {done : List (Fin kBucketCount)} {u : Update}
    (h : u.Merged sw hw done) (i : Fin kBucketCount) {R : CInt → CInt → Prop}
    (hR : ∀ n, ¬ R n n) :
    (∃ j ∈ done, R (sw j) (hw j)) ∨ R (u.sw i) (u.hw i) ↔
      (∃ j ∈ done, R (sw j) (hw j)) ∨ R (sw i) (hw i) := by
  by_cases hi : i ∈ done
  · have hnot : ¬ R (u.sw i) (u.hw i) := by
      rw [(h.behind i hi).1, (h.behind i hi).2]
      exact hR _
    exact ⟨fun hor => Or.inl (hor.resolve_right hnot),
      fun hor => Or.inl (hor.elim id fun hnew => ⟨i, hi, hnew⟩)⟩
  · rw [(h.ahead i hi).1, (h.ahead i hi).2]

theorem Merged.bucket {sw hw : Bins} {done : List (Fin kBucketCount)} {u : Update}
    (h : u.Merged sw hw done) (i : Fin kBucketCount) :
    (u.bucket i).Merged sw hw (done ++ [i]) := by
  have hmax : max (u.sw i) (u.hw i) = max (sw i) (hw i) := by
    by_cases hi : i ∈ done
    · rw [(h.behind i hi).1, (h.behind i hi).2, max_self]
    · rw [(h.ahead i hi).1, (h.ahead i hi).2]
  rw [bucket_eq, hmax]
  refine ⟨fun j hj => ?_, fun j hj => ?_, ?_, ?_⟩
  · by_cases hji : j = i
    · subst hji
      exact ⟨Function.update_self .., Function.update_self ..⟩
    · have hdone : j ∈ done :=
        (List.mem_append.mp hj).resolve_right fun hlast => hji (List.mem_singleton.mp hlast)
      simp only [Function.update_of_ne hji]
      exact h.behind j hdone
  · have hji : j ≠ i := fun hji => hj (List.mem_append_right done (List.mem_singleton.mpr hji))
    simp only [Function.update_of_ne hji]
    exact h.ahead j fun hdone => hj (List.mem_append_left [i] hdone)
  · rw [Bool.or_eq_true, decide_eq_true_eq, h.backup, exists_mem_concat]
    exact h.flag_iff i (R := (· < ·)) lt_irrefl
  · rw [Bool.or_eq_true, decide_eq_true_eq, h.restore, exists_mem_concat]
    exact h.flag_iff i (R := fun m n => n < m) lt_irrefl

theorem run_merged (sw hw : Bins) : (run sw hw).Merged sw hw (List.finRange kBucketCount) := by
  refine history_induction (P := fun done (u : Update) => u.Merged sw hw done) ?_
    (fun done i u h => h.bucket i) _
  exact ⟨nofun, fun _ _ => ⟨rfl, rfl⟩, iff_of_false nofun nofun, iff_of_false nofun nofun⟩

/-- Both copies end at the higher value of each bin, and each place is saved that was lower in
some. -/
theorem run_eq (sw hw : Bins) : (run sw hw).sw = sw ⊔ hw ∧ (run sw hw).hw = sw ⊔ hw ∧
    ((run sw hw).backup = true ↔ ¬ hw ≤ sw) ∧ ((run sw hw).restore = true ↔ ¬ sw ≤ hw) := by
  obtain ⟨hbehind, -, hbackup, hrestore⟩ := run_merged sw hw
  refine ⟨funext fun i => (hbehind i (List.mem_finRange i)).1,
    funext fun i => (hbehind i (List.mem_finRange i)).2, ?_, ?_⟩
  · rw [hbackup, Pi.le_def, not_forall]
    simp only [List.mem_finRange, true_and, not_le]
  · rw [hrestore, Pi.le_def, not_forall]
    simp only [List.mem_finRange, true_and, not_le]

end Update

def Shows (file : Option Text) (bins : Bins) : Prop := assigned kBucketCount file = List.ofFn bins

theorem Shows.unique {file : Option Text} {a b : Bins} (ha : Shows file a) (hb : Shows file b) :
    a = b := List.ofFn_injective (ha.symm.trans hb)

namespace Bins

variable (bins : Bins)

theorem text_eq : bins.text = printAll (List.ofFn bins) := by
  refine List.take_of_length_le ((length_printAll_le _).trans ?_)
  rw [List.length_ofFn]
  decide

theorem shows_text : Shows (some bins.text) bins := by
  have hscan := scanAll_printAll (List.ofFn bins)
  rw [List.length_ofFn] at hscan
  rw [text_eq]
  exact hscan

theorem shows_trim_text : Shows ((some bins.text).map trim) bins := by
  have htrim : trim bins.text = bins.text := by
    rw [text_eq]
    exact (solid_printAll _).trim
  rw [Option.map_some, htrim]
  exact shows_text bins

theorem assign_ofFn (other : Bins) : other.assign (List.ofFn bins) = bins := by
  funext i
  rw [assign, List.getElem?_ofFn, dif_pos i.2]
  rfl

end Bins

namespace CycleCountBackupRestore

variable (s : CycleCountBackupRestore) (calls : FileCalls)

theorem updateAndSave_bins : (s.updateAndSave calls).swBins = s.swBins ⊔ s.hwBins ∧
    (s.updateAndSave calls).hwBins = s.swBins ⊔ s.hwBins := by
  obtain ⟨hsw, hhw, -⟩ := Update.run_eq s.swBins s.hwBins
  rw [updateAndSave]
  split_ifs <;> exact ⟨hsw, hhw⟩

theorem updateAndSave_storage :
    (s.hwBins ≤ s.swBins → (s.updateAndSave calls).storage = s.storage) ∧
      (¬ s.hwBins ≤ s.swBins → (s.updateAndSave calls).storage =
        writeStringToFile (s.swBins ⊔ s.hwBins : Bins).text calls.savesToStorage) := by
  obtain ⟨hsw, -, hbackup, -⟩ := Update.run_eq s.swBins s.hwBins
  constructor
  · intro hle
    have hoff : ¬ (Update.run s.swBins s.hwBins).backup = true := fun hon => hbackup.mp hon hle
    rw [updateAndSave]
    rw [if_neg hoff]
    split_ifs <;> rfl
  · intro hlt
    rw [updateAndSave]
    rw [if_pos (hbackup.mpr hlt), ← hsw]
    split_ifs <;> rfl

theorem updateAndSave_sram :
    (s.swBins ≤ s.hwBins → (s.updateAndSave calls).sram = s.sram) ∧
      (¬ s.swBins ≤ s.hwBins → (s.updateAndSave calls).sram =
        writeStringToFile (s.swBins ⊔ s.hwBins : Bins).text calls.savesToSRAM) := by
  obtain ⟨-, hhw, -, hrestore⟩ := Update.run_eq s.swBins s.hwBins
  constructor
  · intro hle
    have hoff : ¬ (Update.run s.swBins s.hwBins).restore = true := fun hon =>
      hrestore.mp hon hle
    rw [updateAndSave]
    rw [if_neg hoff]
    split_ifs <;> rfl
  · intro hlt
    rw [updateAndSave]
    rw [if_pos (hrestore.mpr hlt), ← hhw]
    split_ifs <;> rfl

variable {s calls}

theorem shows_storage (hsaves : calls.savesToStorage = none)
    (hbehind : s.hwBins ≤ s.swBins → Shows s.storage s.swBins) :
    Shows (s.updateAndSave calls).storage (s.swBins ⊔ s.hwBins) := by
  obtain ⟨hkept, hsaved⟩ := s.updateAndSave_storage calls
  by_cases hle : s.hwBins ≤ s.swBins
  · rw [hkept hle, sup_eq_left.mpr hle]
    exact hbehind hle
  · rw [hsaved hle, hsaves]
    exact Bins.shows_text _

theorem shows_sram (hsaves : calls.savesToSRAM = none)
    (hbehind : s.swBins ≤ s.hwBins → Shows (s.sram.map trim) s.hwBins) :
    Shows ((s.updateAndSave calls).sram.map trim) (s.swBins ⊔ s.hwBins) := by
  obtain ⟨hkept, hsaved⟩ := s.updateAndSave_sram calls
  by_cases hle : s.swBins ≤ s.hwBins
  · rw [hkept hle, sup_eq_right.mpr hle]
    exact hbehind hle
  · rw [hsaved hle, hsaves]
    exact Bins.shows_trim_text _

end CycleCountBackupRestore
end Cedric.Health
