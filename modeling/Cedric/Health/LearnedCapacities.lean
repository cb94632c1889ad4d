import Cedric.Health.LearnedCapacityBackupRestore
import Cedric.Lib.HighWater
import Cedric.Lib.Runs

/-!
# The learned capacity over a run

`LearnedCapacities` runs the class beside the capacities it has read. The memory is at the
lowest of them, as long as no `Restore` loses it.
-/

namespace Cedric.Health

open DecimalText HighWater Runs

structure LearnedCapacities extends LearnedCapacityBackupRestore where
  reads : List CInt

def ShowsCapacity (file : Option Text) (capacity : CInt) : Prop :=
  (assigned 1 file).head? = some capacity

theorem LearnedCapacityBackupRestore.text_eq (capacity : CInt) :
    text capacity = print capacity.1 := by
  refine List.take_of_length_le ((length_print_le capacity).trans ?_)
  decide

theorem showsCapacity_text (capacity : CInt) :
    ShowsCapacity (some (LearnedCapacityBackupRestore.text capacity)) capacity := by
  have hscan : scanAll 1 (print capacity.1) = [capacity] := scanAll_printAll [capacity]
  rw [ShowsCapacity, LearnedCapacityBackupRestore.text_eq]
  exact congrArg List.head? hscan

def capacities (reads : List CInt) : Set CInt := {c | c ∈ reads}

theorem known_capacities_append (o : Option CInt) (reads : List CInt) :
    known '' capacities (o.toList ++ reads) =
      {b | o.map known = some b} ∪ known '' capacities reads := by
  ext b
  cases o with
  | none => simp [capacities]
  | some c =>
    simp only [capacities, Option.toList_some, List.cons_append, List.nil_append, List.mem_cons,
      Set.mem_image, Set.mem_ofPred_eq, Set.mem_union, Option.map_some, Option.some.injEq,
      exists_eq_or_imp]

namespace LearnedCapacities

open LearnedCapacityBackupRestore

def start (storage sram : Option Text) : LearnedCapacities := ⟨.start storage sram, []⟩

variable (w : LearnedCapacities)

def step (e : Event) : LearnedCapacities :=
  let s := w.toLearnedCapacityBackupRestore.step e
  match e with
  | .fuelGauge _ => ⟨s, w.reads⟩
  | .restore calls => ⟨s, (w.storageRead calls).toList ++ ((w.sramRead calls).toList ++ w.reads)⟩
  | .backup calls => ⟨s, (w.sramRead calls).toList ++ w.reads⟩

structure Level : Prop where
  mark : Mark ⊥ (known '' capacities w.reads) (known w.swCap)
  below : known w.hwCap ≤ known w.swCap

def restored (calls : FileCalls) : LearnedCapacityBackupRestore :=
  (w.readFromStorage calls).readFromSRAM calls

def Completes (calls : FileCalls) : Prop :=
  (w.sramRead calls).isSome = true ∧ calls.savesToSRAM = none ∧ calls.savesToStorage = none

/-- A `Backup` that completes brings the storage to the lowest capacity read that is not zero. -/
def MadeUp : Event → Prop
  | .backup calls => w.Completes calls → ∀ capacity,
      IsLeast {c | c ∈ (w.step (.backup calls)).reads ∧ c ≠ 0} capacity →
        ShowsCapacity (w.step (.backup calls)).storage capacity
  | _ => True

/-- A `Restore` loses nothing: what it merges is no less, as `known`, than what the memory holds. -/
def Keeping : Event → Prop
  | .restore calls => known w.swCap ≤
      max (known (w.restored calls).swCap) (known (w.restored calls).hwCap)
  | _ => True

/-- A `Backup` that completes and reads nothing lower than the memory finds it in the storage. -/
def Stored : Event → Prop
  | .backup calls => w.Completes calls → known (w.readFromSRAM calls).hwCap ≤ known w.swCap →
      w.swCap ≠ 0 → ShowsCapacity w.storage w.swCap
  | _ => True

variable {w}

theorem level_start (storage sram : Option Text) : (start storage sram).Level := by
  refine ⟨?_, le_rfl⟩
  have hnone : known '' capacities [] = ∅ := by simp [capacities]
  change Mark ⊥ (known '' capacities []) (known 0)
  rw [hnone, known_zero]
  exact mark_empty ⊥

theorem known_getD (o : Option CInt) (c : CInt) :
    known (o.getD c) = (o.map known).getD (known c) := by
  cases o <;> rfl

theorem Level.backup (h : w.Level) (calls : FileCalls) : (w.step (.backup calls)).Level := by
  obtain ⟨hsw, hhw, -⟩ := (w.readFromSRAM calls).updateAndSave_eq calls
  refine ⟨?_, hhw⟩
  have hmerged : known (w.step (.backup calls)).swCap =
      max (known w.swCap) (((w.sramRead calls).map known).getD (known w.hwCap)) := by
    rw [← known_getD]
    exact hsw
  rw [hmerged, max_kept h.mark.floor_le h.below]
  change Mark ⊥ (known '' capacities ((w.sramRead calls).toList ++ w.reads)) _
  rw [known_capacities_append]
  exact h.mark.report _

theorem Level.restore (h : w.Level) {calls : FileCalls} (hkeeps : w.Keeping (.restore calls)) :
    (w.step (.restore calls)).Level := by
  obtain ⟨hsw, hhw, -⟩ := (w.restored calls).updateAndSave_eq calls
  refine ⟨?_, hhw⟩
  have hmerged : max (known (w.restored calls).swCap) (known (w.restored calls).hwCap) =
      max (((w.storageRead calls).map known).getD (known w.swCap))
        (((w.sramRead calls).map known).getD (known w.hwCap)) := by
    rw [← known_getD, ← known_getD]
    rfl
  rw [Keeping, hmerged] at hkeeps
  rw [show known (w.step (.restore calls)).swCap = _ from hsw, hmerged,
    max_replaced h.mark.floor_le h.below _ _ hkeeps]
  change Mark ⊥ (known '' capacities
    ((w.storageRead calls).toList ++ ((w.sramRead calls).toList ++ w.reads))) _
  rw [known_capacities_append, known_capacities_append]
  exact (h.mark.report _).report _

theorem Level.step (h : w.Level) {e : Event} (hkeeping : w.Keeping e) : (w.step e).Level := by
  cases e with
  | fuelGauge sram => exact ⟨h.mark, h.below⟩
  | restore calls => exact h.restore hkeeping
  | backup calls => exact h.backup calls

theorem Level.isLeast_iff (h : w.Level) (capacity : CInt) :
    IsLeast {c | c ∈ w.reads ∧ c ≠ 0} capacity ↔ w.swCap ≠ 0 ∧ w.swCap = capacity := by
  have hlower : ∀ c ∈ w.reads, c ≠ 0 → w.swCap ≠ 0 ∧ w.swCap ≤ c := by
    intro c hc hne
    have hle : known c ≤ known w.swCap :=
      h.mark.2 (Set.mem_insert_of_mem ⊥ (Set.mem_image_of_mem known hc))
    exact (known_le_iff.mp hle).resolve_left hne
  have hread : w.swCap ≠ 0 → w.swCap ∈ w.reads := by
    intro hne
    rcases h.mark.1 with hbot | ⟨c, hc, hsame⟩
    · exact absurd (known_injective (hbot.trans known_zero.symm)) hne
    · exact known_injective hsame ▸ hc
  constructor
  · rintro ⟨⟨hc, hne⟩, hleast⟩
    obtain ⟨hsw, hle⟩ := hlower capacity hc hne
    exact ⟨hsw, le_antisymm hle (hleast ⟨hread hsw, hsw⟩)⟩
  · rintro ⟨hne, rfl⟩
    exact ⟨⟨hread hne, hne⟩, fun c hc => (hlower c hc.1 hc.2).2⟩

theorem madeUp_iff_stored (h : w.Level) (e : Event) : w.MadeUp e ↔ w.Stored e := by
  cases e with
  | fuelGauge sram => exact Iff.rfl
  | restore calls => exact Iff.rfl
  | backup calls =>
    refine forall_congr' fun hcompletes => ?_
    obtain ⟨hsw, -, hkept, hsaved⟩ := (w.readFromSRAM calls).updateAndSave_eq calls
    have hleast := (h.backup calls).isLeast_iff
    have hshows : (∀ capacity, IsLeast {c | c ∈ (w.step (.backup calls)).reads ∧ c ≠ 0} capacity →
          ShowsCapacity (w.step (.backup calls)).storage capacity) ↔
        ((w.step (.backup calls)).swCap ≠ 0 →
          ShowsCapacity (w.step (.backup calls)).storage (w.step (.backup calls)).swCap) := by
      constructor
      · intro hall hne
        exact hall _ ((hleast _).mpr ⟨hne, rfl⟩)
      · intro hmemory capacity hcapacity
        obtain ⟨hne, rfl⟩ := (hleast capacity).mp hcapacity
        exact hmemory hne
    rw [hshows]
    by_cases hle : known (w.readFromSRAM calls).hwCap ≤ known w.swCap
    · have hsame : (w.step (.backup calls)).swCap = w.swCap :=
        known_injective (hsw.trans (max_eq_left hle))
      have hstorage : (w.step (.backup calls)).storage = w.storage := hkept hle
      rw [hsame, hstorage]
      exact ⟨fun hmemory _ => hmemory, fun hstored => hstored hle⟩
    · have hstorage : (w.step (.backup calls)).storage =
          some (text (w.step (.backup calls)).swCap) := by
        refine (hsaved hle).trans ?_
        rw [hcompletes.2.2]
        rfl
      rw [hstorage]
      exact iff_of_true (fun _ => showsCapacity_text _) fun hle' => absurd hle' hle

theorem madeUp_along (storage sram : Option Text) (events : List Event)
    (hkeeping : Along step Keeping (start storage sram) events) :
    Along step MadeUp (start storage sram) events ↔ Along step Stored (start storage sram) events :=
  along_congr_on Level (fun _ _ h he => h.step he) (fun _ e h _ => madeUp_iff_stored h e)
    (level_start storage sram) events hkeeping

end LearnedCapacities
end Cedric.Health
