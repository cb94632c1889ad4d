import Cedric.Health.CycleCounts
import Cedric.Health.LearnedCapacities

/-!
# Saves that fail

Both classes write the storage only when the memory changes. After a write that failed the
storage stays behind until the fuel gauge shows something new.
-/

namespace Cedric.Health

open DecimalText Runs

/-- As long as no `Restore` loses what is in memory, the saves that failed are made up exactly if
each `Backup` that completes and finds nothing new finds the memory in the storage. -/
theorem saves_made_up (sysPersist cycCnt sysCFPersist chgFull : Option Text)
    (counts : List CycleCountBackupRestore.Event)
    (capacities : List LearnedCapacityBackupRestore.Event)
    (hcounts : Along CycleCounts.step CycleCounts.Keeping (.start sysPersist cycCnt) counts)
    (hcapacities : Along LearnedCapacities.step LearnedCapacities.Keeping
      (.start sysCFPersist chgFull) capacities) :
    (Along CycleCounts.step CycleCounts.MadeUp (.start sysPersist cycCnt) counts ↔
      Along CycleCounts.step CycleCounts.Stored (.start sysPersist cycCnt) counts) ∧
    (Along LearnedCapacities.step LearnedCapacities.MadeUp
        (.start sysCFPersist chgFull) capacities ↔
      Along LearnedCapacities.step LearnedCapacities.Stored
        (.start sysCFPersist chgFull) capacities) :=
  ⟨CycleCounts.madeUp_along _ _ _ hcounts, LearnedCapacities.madeUp_along _ _ _ hcapacities⟩

def FileCalls.unsaved (storage : Option Text) : FileCalls :=
  { FileCalls.succeed with savesToStorage := some storage }

def CycleCounts.unsaved : List CycleCountBackupRestore.Event :=
  [.restore .succeed, .fuelGauge (some worn.text), .backup (.unsaved (some (0 : Bins).text)),
    .backup .succeed]

def LearnedCapacities.unsaved : List LearnedCapacityBackupRestore.Event :=
  [.restore .succeed, .fuelGauge (some (print 3)), .backup (.unsaved (some (print 5))),
    .backup .succeed]

theorem unsaved_behind :
    ¬ Along CycleCounts.step CycleCounts.MadeUp
        (.start (some (0 : Bins).text) (some (0 : Bins).text)) CycleCounts.unsaved ∧
      ¬ Along LearnedCapacities.step LearnedCapacities.MadeUp
        (.start (some (print 5)) (some (print 5))) LearnedCapacities.unsaved := by
  constructor
  · intro h
    obtain ⟨-, -, -, hlast, -⟩ := h
    have hreads : ∀ i : Fin kBucketCount,
        let reads := (CycleCounts.unsaved.foldl CycleCounts.step
          (.start (some (0 : Bins).text) (some (0 : Bins).text))).reads
        (∃ ns ∈ reads, ns[i.1]? = some (CycleCounts.worn i)) ∧
          ∀ ns ∈ reads, ∀ m ∈ ns[i.1]?, m ≤ CycleCounts.worn i := by
      decide +kernel
    have hshows := hlast ⟨by decide +kernel, rfl, rfl⟩ CycleCounts.worn fun i =>
      CycleCounts.isGreatest_valuesAt (hreads i).1 (hreads i).2
    rw [Shows] at hshows
    exact absurd hshows (by decide +kernel)
  · intro h
    obtain ⟨-, -, -, hlast, -⟩ := h
    have hreads : ∀ c ∈ (LearnedCapacities.unsaved.foldl LearnedCapacities.step
        (.start (some (print 5)) (some (print 5)))).reads, c ≠ 0 → CInt.wrap 3 ≤ c := by
      decide +kernel
    have hshows := hlast ⟨by decide +kernel, rfl, rfl⟩ (CInt.wrap 3)
      ⟨⟨by decide +kernel, by decide +kernel⟩, fun c hc => hreads c hc.1 hc.2⟩
    rw [ShowsCapacity] at hshows
    exact absurd hshows (by decide +kernel)

theorem saves_made_up_unsaved :
    (Along CycleCounts.step CycleCounts.MadeUp
        (.start (some (0 : Bins).text) (some (0 : Bins).text)) CycleCounts.unsaved ↔
      Along CycleCounts.step CycleCounts.Stored
        (.start (some (0 : Bins).text) (some (0 : Bins).text)) CycleCounts.unsaved) ∧
    (Along LearnedCapacities.step LearnedCapacities.MadeUp
        (.start (some (print 5)) (some (print 5))) LearnedCapacities.unsaved ↔
      Along LearnedCapacities.step LearnedCapacities.Stored
        (.start (some (print 5)) (some (print 5))) LearnedCapacities.unsaved) := by
  refine saves_made_up _ _ _ _ _ _ ?_ ?_
  · refine ⟨⟨by decide +kernel, by decide +kernel, ?_⟩, trivial, ?_, ?_, trivial⟩
    · rw [Pi.le_def]
      decide +kernel
    · rw [CycleCounts.Keeping]
      decide +kernel
    · rw [CycleCounts.Keeping]
      decide +kernel
  · exact ⟨known_zero.trans_le bot_le, trivial, trivial, trivial, trivial⟩

end Cedric.Health
