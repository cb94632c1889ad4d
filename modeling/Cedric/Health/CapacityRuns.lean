import Cedric.Health.LearnedCapacities

/-!
# Runs in which the learned capacity is always saved

After a `Restore` the memory and the storage agree, and every later call leaves them
and the gauge at the lowest capacity read so far. A gauge that shows zero is left alone.
-/

namespace Cedric.Health

open DecimalText Runs

theorem showsCapacity_trim_text (capacity : CInt) :
    ShowsCapacity ((some (LearnedCapacityBackupRestore.text capacity)).map trim) capacity := by
  have htrim : trim (LearnedCapacityBackupRestore.text capacity) =
      LearnedCapacityBackupRestore.text capacity := by
    rw [LearnedCapacityBackupRestore.text_eq]
    exact (solid_printAll [capacity]).trim
  rw [Option.map_some, htrim]
  exact showsCapacity_text capacity

namespace LearnedCapacityBackupRestore

def Event.saving (sram storage : Option (Option Text)) : Event → Event
  | .fuelGauge text => .fuelGauge text
  | .restore calls => .restore { calls with savesToSRAM := sram, savesToStorage := storage }
  | .backup calls => .backup { calls with savesToSRAM := sram, savesToStorage := storage }

variable {s : LearnedCapacityBackupRestore}

theorem updateAndSave_zero (hzero : s.hwCap = 0) (calls : FileCalls) :
    s.updateAndSave calls = s := if_pos hzero

theorem updateAndSave_shows (hne : s.hwCap ≠ 0) (hstorage : ShowsCapacity s.storage s.swCap)
    (hsram : ShowsCapacity (s.sram.map trim) s.hwCap) :
    ShowsCapacity (s.updateAndSave .succeed).storage (s.updateAndSave .succeed).swCap ∧
      ShowsCapacity ((s.updateAndSave .succeed).sram.map trim)
        (s.updateAndSave .succeed).swCap := by
  rw [updateAndSave, if_neg hne]
  split_ifs with hlower hhigher
  · exact ⟨showsCapacity_text s.hwCap, hsram⟩
  · exact ⟨hstorage, showsCapacity_trim_text s.swCap⟩
  · have hsame : s.hwCap = s.swCap := by
      rw [not_or, not_lt] at hlower
      exact le_antisymm (not_lt.mp hhigher) hlower.1
    rw [hsame] at hsram
    exact ⟨hstorage, hsram⟩

end LearnedCapacityBackupRestore

namespace LearnedCapacities

open LearnedCapacityBackupRestore

def Readable (file : Option Text) : Prop := ∃ capacity, ShowsCapacity file capacity

def Succeeds : Event → Prop
  | .fuelGauge sram => Readable (sram.map trim)
  | .restore calls => calls = .succeed
  | .backup calls => calls = .succeed

/-- Storage and gauge show the lowest capacity read so far that is not zero, which is not
above the one that was stored. -/
structure Lowered (w : LearnedCapacities) (e : Event) (capacity : CInt) : Prop where
  storage : ShowsCapacity (w.step e).storage capacity
  sram : ShowsCapacity ((w.step e).sram.map trim) capacity
  least : IsLeast {c | c ∈ (w.step e).reads ∧ c ≠ 0} capacity
  falls : ∀ before, ShowsCapacity w.storage before → before ≠ 0 → capacity ≤ before

/-- Nothing is written: however the writes would end, both files stay what they were. -/
def Untouched (w : LearnedCapacities) (e : Event) : Prop :=
  ∀ sram storage, (w.step (e.saving sram storage)).storage = w.storage ∧
    (w.step (e.saving sram storage)).sram = w.sram

/-- What a call does, by the capacity that it reads from the gauge. -/
def Right (w : LearnedCapacities) : Event → Prop
  | .fuelGauge _ => True
  | e =>
      (∀ gauge, w.sramRead .succeed = some gauge → gauge ≠ 0 → ∃ capacity, w.Lowered e capacity) ∧
      (w.sramRead .succeed = some 0 → w.Untouched e)

structure Settled (w : LearnedCapacities) : Prop where
  level : w.Level
  storage : ShowsCapacity w.storage w.swCap
  sram : Readable (w.sram.map trim)

variable {w : LearnedCapacities}

theorem sramRead_succeed {gauge : CInt} (h : ShowsCapacity (w.sram.map trim) gauge) :
    w.sramRead .succeed = some gauge := h

theorem storageRead_succeed {stored : CInt} (h : ShowsCapacity w.storage stored) :
    w.storageRead .succeed = some stored := h

theorem untouched_of_zero (h : w.sramRead .succeed = some 0) :
    w.Untouched (.restore .succeed) ∧ w.Untouched (.backup .succeed) := by
  have hread (calls : FileCalls) (hcalls : calls.readsSRAM = true)
      (s : LearnedCapacityBackupRestore) (hs : s.sram = w.sram) :
      (s.readFromSRAM calls).updateAndSave calls = s.readFromSRAM calls := by
    refine updateAndSave_zero ?_ calls
    have hzero : s.sramRead calls = some 0 := by
      rw [LearnedCapacityBackupRestore.sramRead, hs, hcalls]
      exact h
    rw [readFromSRAM, hzero]
    rfl
  constructor
  · intro sram storage
    have hsame := hread ⟨true, true, sram, storage⟩ rfl
      (w.readFromStorage ⟨true, true, sram, storage⟩) rfl
    have hstorage := congrArg LearnedCapacityBackupRestore.storage hsame
    have hsram := congrArg LearnedCapacityBackupRestore.sram hsame
    exact ⟨hstorage, hsram⟩
  · intro sram storage
    have hsame := hread ⟨true, true, sram, storage⟩ rfl w.toLearnedCapacityBackupRestore rfl
    have hstorage := congrArg LearnedCapacityBackupRestore.storage hsame
    have hsram := congrArg LearnedCapacityBackupRestore.sram hsame
    exact ⟨hstorage, hsram⟩

theorem settled_of_update {s : LearnedCapacityBackupRestore} {reads : List CInt}
    (hstorage : ShowsCapacity s.storage s.swCap)
    (hsram : ShowsCapacity (s.sram.map trim) s.hwCap)
    (hlevel : Level ⟨s.updateAndSave .succeed, reads⟩) :
    Settled ⟨s.updateAndSave .succeed, reads⟩ := by
  by_cases hzero : s.hwCap = 0
  · have hsame := updateAndSave_zero hzero .succeed
    rw [hsame] at hlevel ⊢
    exact ⟨hlevel, hstorage, s.hwCap, hsram⟩
  · obtain ⟨hstorage', hsram'⟩ := updateAndSave_shows hzero hstorage hsram
    exact ⟨hlevel, hstorage', _, hsram'⟩

theorem lowered_of_update {s : LearnedCapacityBackupRestore} {reads : List CInt} {e : Event}
    (hstep : w.step e = ⟨s.updateAndSave .succeed, reads⟩) (hkept : s.storage = w.storage)
    (hstorage : ShowsCapacity s.storage s.swCap)
    (hsram : ShowsCapacity (s.sram.map trim) s.hwCap)
    (hlevel : Level ⟨s.updateAndSave .succeed, reads⟩) (hne : s.hwCap ≠ 0) :
    w.Lowered e (s.updateAndSave .succeed).swCap := by
  obtain ⟨hstorage', hsram'⟩ := updateAndSave_shows hne hstorage hsram
  obtain ⟨hmerged, -⟩ := s.updateAndSave_eq .succeed
  have hhw : known s.hwCap ≤ known (s.updateAndSave .succeed).swCap :=
    (le_max_right _ _).trans hmerged.ge
  have hsw : known s.swCap ≤ known (s.updateAndSave .succeed).swCap :=
    (le_max_left _ _).trans hmerged.ge
  have hset : (s.updateAndSave .succeed).swCap ≠ 0 :=
    ((known_le_iff.mp hhw).resolve_left hne).1
  refine ⟨?_, ?_, ?_, fun before hbefore hbeforeNe => ?_⟩
  · rw [hstep]
    exact hstorage'
  · rw [hstep]
    exact hsram'
  · rw [hstep]
    exact (hlevel.isLeast_iff _).mpr ⟨hset, rfl⟩
  · have hsame : before = s.swCap := by
      rw [hkept] at hstorage
      exact Option.some.inj (hbefore.symm.trans hstorage)
    rw [hsame] at hbeforeNe ⊢
    exact ((known_le_iff.mp hsw).resolve_left hbeforeNe).2

theorem backup_settled (h : w.Settled) :
    (w.step (.backup .succeed)).Settled ∧ w.Right (.backup .succeed) := by
  obtain ⟨hlevel, hstorage, gauge, hgauge⟩ := h
  have hhw : (w.readFromSRAM .succeed).hwCap = gauge := by
    rw [readFromSRAM, sramRead_succeed hgauge]
    rfl
  have hsram : ShowsCapacity ((w.readFromSRAM .succeed).sram.map trim)
      (w.readFromSRAM .succeed).hwCap := by
    rw [hhw]
    exact hgauge
  have hlevel' : (w.step (.backup .succeed)).Level := hlevel.backup .succeed
  refine ⟨settled_of_update hstorage hsram hlevel', fun gauge' hgauge' hne => ?_,
    fun hzero => (untouched_of_zero hzero).2⟩
  have hsame : gauge' = gauge := Option.some.inj (hgauge'.symm.trans (sramRead_succeed hgauge))
  exact ⟨_, lowered_of_update rfl rfl hstorage hsram hlevel' (by rwa [hhw, ← hsame])⟩

theorem restore_settled (hlevel : w.Level) {stored : CInt}
    (hstored : ShowsCapacity w.storage stored) (hkeeps : known w.swCap ≤ known stored)
    (hsram : Readable (w.sram.map trim)) :
    (w.step (.restore .succeed)).Settled ∧ w.Right (.restore .succeed) := by
  obtain ⟨gauge, hgauge⟩ := hsram
  have hsw : (w.restored .succeed).swCap = stored := by
    change (w.storageRead .succeed).getD w.swCap = stored
    rw [storageRead_succeed hstored, Option.getD_some]
  have hhw : (w.restored .succeed).hwCap = gauge := by
    change (w.sramRead .succeed).getD w.hwCap = gauge
    rw [sramRead_succeed hgauge, Option.getD_some]
  have hstorage' : ShowsCapacity (w.restored .succeed).storage (w.restored .succeed).swCap := by
    rw [hsw]
    exact hstored
  have hsram' : ShowsCapacity ((w.restored .succeed).sram.map trim)
      (w.restored .succeed).hwCap := by
    rw [hhw]
    exact hgauge
  have hlevel' : (w.step (.restore .succeed)).Level := by
    refine hlevel.restore ?_
    rw [Keeping, hsw]
    exact hkeeps.trans (le_max_left _ _)
  refine ⟨settled_of_update hstorage' hsram' hlevel', fun gauge' hgauge' hne => ?_,
    fun hzero => (untouched_of_zero hzero).1⟩
  have hsame : gauge' = gauge := Option.some.inj (hgauge'.symm.trans (sramRead_succeed hgauge))
  have hne' : (w.restored .succeed).hwCap ≠ 0 := by rwa [hhw, ← hsame]
  exact ⟨_, lowered_of_update rfl rfl hstorage' hsram' hlevel' hne'⟩

theorem Settled.step (h : w.Settled) {e : Event} (he : Succeeds e) :
    (w.step e).Settled ∧ w.Right e := by
  cases e with
  | fuelGauge sram => exact ⟨⟨⟨h.level.mark, h.level.below⟩, h.storage, he⟩, trivial⟩
  | restore calls =>
    cases he
    exact restore_settled h.level h.storage le_rfl h.sram
  | backup calls =>
    cases he
    exact backup_settled h

/-- After a `Restore` and any further calls, all of which succeed, storage and gauge show the
lowest capacity read so far, unless the gauge shows none. -/
theorem capacities_agree (storage sram : Option Text) (hstorage : Readable storage)
    (hsram : Readable (sram.map trim)) (events : List Event) (hevents : ∀ e ∈ events, Succeeds e) :
    Along step Right (start storage sram) (.restore .succeed :: events) := by
  obtain ⟨stored, hstored⟩ := hstorage
  have hnone : known (start storage sram).swCap ≤ known stored := by
    rw [show (start storage sram).swCap = 0 from rfl, known_zero]
    exact bot_le
  obtain ⟨hsettled, hright⟩ := restore_settled (level_start storage sram) hstored hnone hsram
  exact ⟨hright, along_mono Settled (fun _ _ h he => (h.step he).1) (fun _ _ h he => (h.step he).2)
    hsettled events (along_of_mem _ hevents)⟩

theorem capacities_agree_replaced :
    Along step Right (start (some (text ⟨2500, by decide⟩)) (some (text ⟨2400, by decide⟩)))
      [.restore .succeed, .fuelGauge (some (text 0)), .backup .succeed] := by
  refine capacities_agree _ _ ⟨_, showsCapacity_text _⟩ ⟨_, showsCapacity_trim_text _⟩ _ ?_
  simp only [List.forall_mem_cons]
  exact ⟨⟨_, showsCapacity_trim_text _⟩, rfl, nofun⟩

end LearnedCapacities
end Cedric.Health
