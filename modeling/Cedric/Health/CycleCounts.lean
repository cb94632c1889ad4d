import Cedric.Health.CycleCountBackupRestore
import Cedric.Lib.HighWater

/-!
# The cycle counts over a run

`CycleCounts` runs the class beside what it has read. Every bin in memory is at the
highest value read of it, zero included, as long as no `Restore` loses one.
-/

namespace Cedric.Health

open DecimalText HighWater Runs

/-- `reads`: what each reading of a file assigned. -/
structure CycleCounts extends CycleCountBackupRestore where
  reads : List (List CInt)

def valuesAt (reads : List (List CInt)) (i : Fin kBucketCount) : Set CInt :=
  {n | ∃ ns ∈ reads, ns[i.1]? = some n}

theorem valuesAt_cons (ns : List CInt) (reads : List (List CInt)) (i : Fin kBucketCount) :
    valuesAt (ns :: reads) i = {n | ns[i.1]? = some n} ∪ valuesAt reads i := by
  ext n
  simp only [valuesAt, List.mem_cons, exists_eq_or_imp, Set.mem_union, Set.mem_ofPred_eq]

namespace CycleCounts

open CycleCountBackupRestore

def start (storage sram : Option Text) : CycleCounts := ⟨.start storage sram, []⟩

variable (w : CycleCounts)

def step (e : Event) : CycleCounts :=
  let s := w.toCycleCountBackupRestore.step e
  match e with
  | .fuelGauge _ => ⟨s, w.reads⟩
  | .restore calls => ⟨s, w.storageRead calls :: w.sramRead calls :: w.reads⟩
  | .backup calls => ⟨s, w.sramRead calls :: w.reads⟩

structure Level : Prop where
  mark : ∀ i, Mark 0 (valuesAt w.reads i) (w.swBins i)
  below : w.hwBins ≤ w.swBins
  counts : ∀ ns ∈ w.reads, ∀ n ∈ ns, 0 ≤ n

def restored (calls : FileCalls) : CycleCountBackupRestore :=
  (w.readFromStorage calls).readFromSRAM calls

variable {w}

theorem level_start (storage sram : Option Text) : (start storage sram).Level := by
  refine ⟨fun i => ?_, fun _ => le_rfl, nofun⟩
  have hnone : valuesAt [] i = ∅ := by
    ext n
    simp only [valuesAt, List.not_mem_nil, false_and, exists_false, Set.ofPred_false]
  change Mark 0 (valuesAt [] i) 0
  rw [hnone]
  exact mark_empty 0

theorem Level.backup (h : w.Level) {calls : FileCalls} (hcounts : ∀ n ∈ w.sramRead calls, 0 ≤ n) :
    (w.step (.backup calls)).Level := by
  obtain ⟨hsw, hhw⟩ := (w.readFromSRAM calls).updateAndSave_bins calls
  refine ⟨fun i => ?_, (hhw.trans hsw.symm).le, List.forall_mem_cons.mpr ⟨hcounts, h.counts⟩⟩
  have hmerged : (w.step (.backup calls)).swBins i =
      max (w.swBins i) (((w.sramRead calls)[i.1]?).getD (w.hwBins i)) := congrFun hsw i
  rw [hmerged, max_kept (h.mark i).floor_le (h.below i)]
  change Mark 0 (valuesAt (w.sramRead calls :: w.reads) i) _
  rw [valuesAt_cons]
  exact (h.mark i).report _

theorem Level.restore (h : w.Level) {calls : FileCalls}
    (hstorage : ∀ n ∈ w.storageRead calls, 0 ≤ n) (hsram : ∀ n ∈ w.sramRead calls, 0 ≤ n)
    (hkeeps : w.swBins ≤ (w.restored calls).swBins ⊔ (w.restored calls).hwBins) :
    (w.step (.restore calls)).Level := by
  obtain ⟨hsw, hhw⟩ := (w.restored calls).updateAndSave_bins calls
  refine ⟨fun i => ?_, (hhw.trans hsw.symm).le,
    List.forall_mem_cons.mpr ⟨hstorage, List.forall_mem_cons.mpr ⟨hsram, h.counts⟩⟩⟩
  have hmerged : (w.step (.restore calls)).swBins i =
      max (((w.storageRead calls)[i.1]?).getD (w.swBins i))
        (((w.sramRead calls)[i.1]?).getD (w.hwBins i)) := congrFun hsw i
  rw [hmerged, max_replaced (h.mark i).floor_le (h.below i) ((w.storageRead calls)[i.1]?)
    ((w.sramRead calls)[i.1]?) (hkeeps i)]
  change Mark 0 (valuesAt (w.storageRead calls :: w.sramRead calls :: w.reads) i) _
  rw [valuesAt_cons, valuesAt_cons]
  exact ((h.mark i).report _).report _

theorem Level.values_nonneg (h : w.Level) {i : Fin kBucketCount} :
    ∀ n ∈ valuesAt w.reads i, 0 ≤ n := by
  rintro n ⟨ns, hns, hn⟩
  exact h.counts ns hns n (List.mem_of_getElem? hn)

theorem Level.isGreatest (h : w.Level) {ns : List CInt} (hns : ns ∈ w.reads)
    (hfull : ns.length = kBucketCount) (i : Fin kBucketCount) :
    IsGreatest (valuesAt w.reads i) (w.swBins i) := by
  have hlt : i.1 < ns.length := by
    rw [hfull]
    exact i.2
  exact (h.mark i).isGreatest h.values_nonneg ⟨ns[i.1], ns, hns, List.getElem?_eq_getElem hlt⟩

def Counts (file : Option Text) : Prop := ∃ bins, Shows file bins ∧ 0 ≤ bins

/-- Both files show the highest value read of every bin, and no bin of the storage is lower than
before the call. -/
def Right (w : CycleCounts) : Event → Prop
  | .fuelGauge _ => True
  | e => ∃ bins, Shows (w.step e).storage bins ∧ Shows ((w.step e).sram.map trim) bins ∧
      (∀ i, IsGreatest (valuesAt (w.step e).reads i) (bins i)) ∧
      ∀ before, Shows w.storage before → before ≤ bins

def Succeeds : Event → Prop
  | .fuelGauge sram => Counts (sram.map trim)
  | .restore calls => calls = .succeed
  | .backup calls => calls = .succeed

structure Settled (w : CycleCounts) : Prop where
  level : w.Level
  storage : Shows w.storage w.swBins
  sram : Counts (w.sram.map trim)

theorem nonneg_of_shows {file : Option Text} {bins : Bins} (h : Shows file bins) (hbins : 0 ≤ bins) :
    ∀ n ∈ assigned kBucketCount file, 0 ≤ n := by
  intro n hn
  rw [h, List.mem_ofFn] at hn
  obtain ⟨i, rfl⟩ := hn
  exact hbins i

theorem sramRead_succeed {sram : Bins} (h : Shows (w.sram.map trim) sram) :
    w.sramRead .succeed = List.ofFn sram := h

theorem storageRead_succeed {storage : Bins} (h : Shows w.storage storage) :
    w.storageRead .succeed = List.ofFn storage := h

theorem settled_of_update {s : CycleCountBackupRestore} {reads : List (List CInt)}
    (hstorage : Shows s.storage s.swBins) (hsram : Shows (s.sram.map trim) s.hwBins)
    (hlevel : Level ⟨s.updateAndSave .succeed, reads⟩) :
    Settled ⟨s.updateAndSave .succeed, reads⟩ := by
  have hmerged := (s.updateAndSave_bins .succeed).1
  have hstorage' : Shows (s.updateAndSave .succeed).storage (s.swBins ⊔ s.hwBins) :=
    shows_storage rfl fun _ => hstorage
  have hsram' : Shows ((s.updateAndSave .succeed).sram.map trim) (s.swBins ⊔ s.hwBins) :=
    shows_sram rfl fun _ => hsram
  refine ⟨hlevel, ?_, s.swBins ⊔ s.hwBins, hsram', fun i => ?_⟩
  · rw [hmerged]
    exact hstorage'
  · rw [← hmerged]
    exact (hlevel.mark i).floor_le

theorem right_of_update {s : CycleCountBackupRestore} {reads : List (List CInt)}
    (hstorage : Shows s.storage s.swBins) (hsram : Shows (s.sram.map trim) s.hwBins)
    (hlevel : Level ⟨s.updateAndSave .succeed, reads⟩) {ns : List CInt} (hns : ns ∈ reads)
    (hfull : ns.length = kBucketCount) :
    ∃ bins, Shows (s.updateAndSave .succeed).storage bins ∧
      Shows ((s.updateAndSave .succeed).sram.map trim) bins ∧
      (∀ i, IsGreatest (valuesAt reads i) (bins i)) ∧
      ∀ before, Shows s.storage before → before ≤ bins := by
  refine ⟨s.swBins ⊔ s.hwBins, shows_storage rfl fun _ => hstorage,
    shows_sram rfl fun _ => hsram, fun i => ?_, fun before hbefore => ?_⟩
  · rw [← (s.updateAndSave_bins .succeed).1]
    exact hlevel.isGreatest hns hfull i
  · rw [hbefore.unique hstorage]
    exact le_sup_left

theorem backup_settled (h : w.Settled) :
    (w.step (.backup .succeed)).Settled ∧ w.Right (.backup .succeed) := by
  obtain ⟨hlevel, hstorage, sram, hsram, hcounts⟩ := h
  have hread := sramRead_succeed hsram
  have hsram' : Shows ((w.readFromSRAM .succeed).sram.map trim)
      (w.readFromSRAM .succeed).hwBins := by
    change Shows _ (w.hwBins.assign (w.sramRead .succeed))
    rw [hread, Bins.assign_ofFn]
    exact hsram
  have hlevel' : (w.step (.backup .succeed)).Level := hlevel.backup (nonneg_of_shows hsram hcounts)
  refine ⟨settled_of_update hstorage hsram' hlevel', ?_⟩
  refine right_of_update hstorage hsram' hlevel' List.mem_cons_self ?_
  rw [hread, List.length_ofFn]

theorem restore_settled (hlevel : w.Level) {storage : Bins} (hstorage : Shows w.storage storage)
    (hnonneg : 0 ≤ storage) (hkeeps : w.swBins ≤ storage) (hsram : Counts (w.sram.map trim)) :
    (w.step (.restore .succeed)).Settled ∧ w.Right (.restore .succeed) := by
  obtain ⟨sram, hsram, hcounts⟩ := hsram
  have hsw : (w.restored .succeed).swBins = storage := by
    change w.swBins.assign (w.storageRead .succeed) = storage
    rw [storageRead_succeed hstorage, Bins.assign_ofFn]
  have hhw : (w.restored .succeed).hwBins = sram := by
    change w.hwBins.assign (w.sramRead .succeed) = sram
    rw [sramRead_succeed hsram, Bins.assign_ofFn]
  have hstorage' : Shows (w.restored .succeed).storage (w.restored .succeed).swBins := by
    rw [hsw]
    exact hstorage
  have hsram' : Shows ((w.restored .succeed).sram.map trim) (w.restored .succeed).hwBins := by
    rw [hhw]
    exact hsram
  have hlevel' : (w.step (.restore .succeed)).Level := by
    refine hlevel.restore (nonneg_of_shows hstorage hnonneg) (nonneg_of_shows hsram hcounts) ?_
    rw [hsw]
    exact hkeeps.trans le_sup_left
  refine ⟨settled_of_update hstorage' hsram' hlevel', ?_⟩
  refine right_of_update hstorage' hsram' hlevel' List.mem_cons_self ?_
  rw [storageRead_succeed hstorage, List.length_ofFn]

theorem Settled.step (h : w.Settled) {e : Event} (he : Succeeds e) :
    (w.step e).Settled ∧ w.Right e := by
  cases e with
  | fuelGauge sram => exact ⟨⟨⟨h.level.mark, h.level.below, h.level.counts⟩, h.storage, he⟩, trivial⟩
  | restore calls =>
    cases he
    exact restore_settled h.level h.storage (fun i => (h.level.mark i).floor_le) le_rfl h.sram
  | backup calls =>
    cases he
    exact backup_settled h

/-- After a `Restore` and any further calls, all of which succeed, storage and gauge show the
highest value read so far of every bin. -/
theorem counts_agree (storage sram : Option Text) (hstorage : Counts storage)
    (hsram : Counts (sram.map trim)) (events : List Event) (hevents : ∀ e ∈ events, Succeeds e) :
    Along step Right (start storage sram) (.restore .succeed :: events) := by
  obtain ⟨bins, hbins, hnonneg⟩ := hstorage
  obtain ⟨hsettled, hright⟩ := restore_settled (level_start storage sram) hbins hnonneg hnonneg hsram
  exact ⟨hright, along_mono Settled (fun _ _ h he => (h.step he).1) (fun _ _ h he => (h.step he).2)
    hsettled events (along_of_mem _ hevents)⟩

def worn : Bins := fun i => if i = 0 then ⟨9, by decide⟩ else 0

def fresh : Bins := fun i => if i = 0 then 0 else ⟨4, by decide⟩

theorem counts_text (bins : Bins) (h : 0 ≤ bins) :
    Counts (some bins.text) ∧ Counts ((some bins.text).map trim) :=
  ⟨⟨bins, bins.shows_text, h⟩, bins, bins.shows_trim_text, h⟩

theorem worn_nonneg : 0 ≤ worn := by
  rw [Pi.le_def]
  decide

theorem fresh_nonneg : 0 ≤ fresh := by
  rw [Pi.le_def]
  decide

theorem counts_agree_reset : Along step Right (start (some worn.text) (some fresh.text))
    [.restore .succeed, .fuelGauge (some (0 : Bins).text), .backup .succeed] := by
  refine counts_agree _ _ (counts_text _ worn_nonneg).1 (counts_text _ fresh_nonneg).2 _ ?_
  simp only [List.forall_mem_cons]
  exact ⟨(counts_text _ le_rfl).2, rfl, nofun⟩

def Completes (w : CycleCounts) (calls : FileCalls) : Prop :=
  (w.sramRead calls).length = kBucketCount ∧ calls.savesToSRAM = none ∧ calls.savesToStorage = none

/-- A `Backup` that completes brings the storage to the highest value read of every bin. -/
def MadeUp (w : CycleCounts) : Event → Prop
  | .backup calls => w.Completes calls → ∀ bins : Bins,
      (∀ i, IsGreatest (valuesAt (w.step (.backup calls)).reads i) (bins i)) →
        Shows (w.step (.backup calls)).storage bins
  | _ => True

/-- No count is negative, and a `Restore` reads no less than the memory holds. -/
def Keeping (w : CycleCounts) : Event → Prop
  | .fuelGauge _ => True
  | .restore calls =>
    (∀ n ∈ w.storageRead calls, 0 ≤ n) ∧ (∀ n ∈ w.sramRead calls, 0 ≤ n) ∧
      w.swBins ≤ (w.restored calls).swBins ⊔ (w.restored calls).hwBins
  | .backup calls => ∀ n ∈ w.sramRead calls, 0 ≤ n

/-- A `Backup` that completes and reads nothing above the memory finds it in the storage. -/
def Stored (w : CycleCounts) : Event → Prop
  | .backup calls => w.Completes calls → (w.readFromSRAM calls).hwBins ≤ w.swBins →
      Shows w.storage w.swBins
  | _ => True

theorem Level.step (h : w.Level) {e : Event} (hkeeping : w.Keeping e) : (w.step e).Level := by
  cases e with
  | fuelGauge sram => exact ⟨h.mark, h.below, h.counts⟩
  | restore calls => exact h.restore hkeeping.1 hkeeping.2.1 hkeeping.2.2
  | backup calls => exact h.backup hkeeping

theorem madeUp_iff_stored (h : w.Level) {e : Event} (hkeeping : w.Keeping e) :
    w.MadeUp e ↔ w.Stored e := by
  cases e with
  | fuelGauge sram => exact Iff.rfl
  | restore calls => exact Iff.rfl
  | backup calls =>
    refine forall_congr' fun hcompletes => ?_
    have hgreatest := (h.backup hkeeping).isGreatest List.mem_cons_self hcompletes.1
    have hmerged := ((w.readFromSRAM calls).updateAndSave_bins calls).1
    have hunique : (∀ bins : Bins,
        (∀ i, IsGreatest (valuesAt (w.step (.backup calls)).reads i) (bins i)) →
          Shows (w.step (.backup calls)).storage bins) ↔
        Shows (w.step (.backup calls)).storage (w.step (.backup calls)).swBins := by
      refine ⟨fun hshows => hshows _ hgreatest, fun hshows bins hbins => ?_⟩
      have hsame : bins = (w.step (.backup calls)).swBins :=
        funext fun i => (hbins i).unique (hgreatest i)
      exact hsame ▸ hshows
    rw [hunique, show (w.step (.backup calls)).swBins = _ from hmerged]
    refine ⟨fun hshows hle => ?_, fun hstored => shows_storage hcompletes.2.2 hstored⟩
    have hkept := ((w.readFromSRAM calls).updateAndSave_storage calls).1 hle
    have hmax : (w.readFromSRAM calls).swBins ⊔ (w.readFromSRAM calls).hwBins =
        w.swBins := sup_eq_left.mpr hle
    rw [show (w.step (.backup calls)).storage = w.storage from hkept, hmax] at hshows
    exact hshows

theorem madeUp_along (storage sram : Option Text) (events : List Event)
    (hkeeping : Along step Keeping (start storage sram) events) :
    Along step MadeUp (start storage sram) events ↔ Along step Stored (start storage sram) events :=
  along_congr_on Level (fun _ _ h he => h.step he) (fun _ _ h he => madeUp_iff_stored h he)
    (level_start storage sram) events hkeeping

theorem isGreatest_valuesAt {reads : List (List CInt)} {i : Fin kBucketCount} {n : CInt}
    (hread : ∃ ns ∈ reads, ns[i.1]? = some n) (hle : ∀ ns ∈ reads, ∀ m ∈ ns[i.1]?, m ≤ n) :
    IsGreatest (valuesAt reads i) n := by
  refine ⟨hread, ?_⟩
  rintro m ⟨ns, hns, hm⟩
  exact hle ns hns m hm

end CycleCounts
end Cedric.Health
