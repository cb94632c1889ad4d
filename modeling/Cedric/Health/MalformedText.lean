import Cedric.Health.CycleCountBackupRestore

/-!
# Texts that are not eight integers

`sscanf` assigns the fields in front of the place where a text breaks off, and the count it
returns is only logged. A text is rejected if the call does what it would do without it.
-/

namespace Cedric.Health

open DecimalText

/-- The text is `fields` integers between blanks. -/
def isIntegers : ℕ → Text → Bool
  | 0, cs => cs.all isSpace
  | fields + 1, cs =>
    match scan cs with
    | some (_, rest) => rest.head?.all isSpace && isIntegers fields rest
    | none => false

example : isIntegers 3 " 1 -2 3\n".toList = true ∧ isIntegers 3 "1 2".toList = false ∧
    isIntegers 3 "1 2 x".toList = false ∧ isIntegers 3 "1 2 3 4".toList = false := by decide

def Malformed (file : Option Text) : Prop := ∃ text ∈ file, isIntegers kBucketCount text = false

theorem malformed_of_not_all {file : Option Text}
    (h : ¬ file.all (isIntegers kBucketCount) = true) : Malformed file := by
  cases file with
  | none => exact absurd rfl h
  | some text => exact ⟨text, rfl, Bool.eq_false_iff.mpr h⟩

def Bins.Agrees (bins : Bins) (fields : List CInt) : Prop :=
  ∀ i : Fin kBucketCount, ∀ n ∈ fields[i.1]?, n = bins i

theorem Bins.assign_eq_iff (bins : Bins) (fields : List CInt) :
    bins.assign fields = bins ↔ bins.Agrees fields := by
  rw [funext_iff]
  refine forall_congr' fun i => ?_
  rw [Bins.assign]
  cases fields[i.1]? with
  | none => exact iff_of_true rfl fun n hn => absurd hn (Option.not_mem_none n)
  | some n =>
    rw [Option.getD_some]
    refine ⟨fun h m hm => ?_, fun h => h n (Option.mem_some_self n)⟩
    rw [← Option.some.inj hm]
    exact h

theorem Bins.agrees_of_no_number (bins : Bins) (fields : ℕ) {text : Text} (h : scan text = none) :
    bins.Agrees (scanAll fields text) := by
  have hnothing : scanAll fields text = [] := by
    cases fields with
    | zero => rfl
    | succ fields => rw [scanAll, h]
  intro i n hn
  rw [hnothing] at hn
  exact absurd hn (Option.not_mem_none n)

namespace CycleCountBackupRestore

variable (s : CycleCountBackupRestore) (calls : FileCalls)

/-- The same calls, with the reads of malformed texts failing. -/
def screen : FileCalls :=
  { calls with
    readsStorage := calls.readsStorage && s.storage.all (isIntegers kBucketCount)
    readsSRAM := calls.readsSRAM && s.sram.all (isIntegers kBucketCount) }

/-- A read of a malformed text leaves the bins, and the call ends as if it had failed. -/
structure RestoreRejects : Prop where
  storage : Malformed s.storage → (s.readFromStorage calls).swBins = s.swBins
  sram : Malformed s.sram → ((s.readFromStorage calls).readFromSRAM calls).hwBins = s.hwBins
  result : s.restore calls = s.restore (s.screen calls)

structure BackupRejects : Prop where
  sram : Malformed s.sram → (s.readFromSRAM calls).hwBins = s.hwBins
  result : s.backup calls = s.backup (s.screen calls)

variable {s calls}

theorem readFromStorage_screen (h : Malformed s.storage → s.swBins.Agrees (s.storageRead calls)) :
    s.readFromStorage calls = s.readFromStorage (s.screen calls) := by
  by_cases hform : s.storage.all (isIntegers kBucketCount) = true
  · rw [readFromStorage, readFromStorage, storageRead, storageRead, screen, hform, Bool.and_true]
  · have hmalformed := malformed_of_not_all hform
    have hnone : s.storageRead (s.screen calls) = [] := by
      rw [storageRead, screen, Bool.eq_false_iff.mpr hform, Bool.and_false]
      rfl
    rw [readFromStorage, readFromStorage, hnone, (Bins.assign_eq_iff _ _).mpr (h hmalformed)]
    rfl

theorem readFromSRAM_screen (h : Malformed s.sram → s.hwBins.Agrees (s.sramRead calls)) :
    s.readFromSRAM calls = s.readFromSRAM (s.screen calls) := by
  by_cases hform : s.sram.all (isIntegers kBucketCount) = true
  · rw [readFromSRAM, readFromSRAM, sramRead, sramRead, screen, hform, Bool.and_true]
  · have hmalformed := malformed_of_not_all hform
    have hnone : s.sramRead (s.screen calls) = [] := by
      rw [sramRead, screen, Bool.eq_false_iff.mpr hform, Bool.and_false]
      rfl
    rw [readFromSRAM, readFromSRAM, hnone, (Bins.assign_eq_iff _ _).mpr (h hmalformed)]
    rfl

end CycleCountBackupRestore

/-- A call rejects the malformed texts it reads exactly if the fields `sscanf` assigns from them
are the values the bins have already. -/
theorem malformed_rejected_iff (s : CycleCountBackupRestore) (calls : FileCalls) :
    (s.RestoreRejects calls ↔
      (Malformed s.storage → s.swBins.Agrees (s.storageRead calls)) ∧
        (Malformed s.sram → s.hwBins.Agrees (s.sramRead calls))) ∧
    (s.BackupRejects calls ↔ (Malformed s.sram → s.hwBins.Agrees (s.sramRead calls))) := by
  constructor
  · constructor
    · intro h
      exact ⟨fun hm => (Bins.assign_eq_iff _ _).mp (h.storage hm),
        fun hm => (Bins.assign_eq_iff _ _).mp (h.sram hm)⟩
    · rintro ⟨hstorage, hsram⟩
      refine ⟨fun hm => (Bins.assign_eq_iff _ _).mpr (hstorage hm),
        fun hm => (Bins.assign_eq_iff _ _).mpr (hsram hm), ?_⟩
      have hreads : (s.readFromStorage calls).readFromSRAM calls =
          (s.readFromStorage (s.screen calls)).readFromSRAM (s.screen calls) := by
        rw [← CycleCountBackupRestore.readFromStorage_screen hstorage]
        exact CycleCountBackupRestore.readFromSRAM_screen (s := s.readFromStorage calls) hsram
      rw [CycleCountBackupRestore.restore, CycleCountBackupRestore.restore, hreads]
      rfl
  · constructor
    · intro h hm
      exact (Bins.assign_eq_iff _ _).mp (h.sram hm)
    · intro hsram
      refine ⟨fun hm => (Bins.assign_eq_iff _ _).mpr (hsram hm), ?_⟩
      rw [CycleCountBackupRestore.backup, CycleCountBackupRestore.backup,
        ← CycleCountBackupRestore.readFromSRAM_screen hsram]
      rfl

/-- Two fields in front of the break reach the fuel gauge. -/
theorem broken_line_reaches_gauge :
    ¬ (CycleCountBackupRestore.start (some "9 9 x".toList)
      (some (0 : Bins).text)).RestoreRejects .succeed := by
  intro h
  have hgauge := congrArg CycleCountBackupRestore.sram h.result
  exact absurd hgauge (by decide +kernel)

end Cedric.Health
