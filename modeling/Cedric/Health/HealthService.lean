import Cedric.Health.CycleCounts
import Cedric.Health.LearnedCapacityBackupRestore

/-!
# The health service

`healthd` calls `healthd_board_init` when it starts and `healthd_board_battery_update` at every
change of the battery. The cycle counts are backed up only after the level has risen by
`kBackupTrigger` points in all, so that the storage may lag behind the fuel gauge.
-/

namespace Cedric.Health

open DecimalText

def kBackupTrigger : ℤ := 20

structure HealthService where
  savedSoc : CInt
  socInc : CInt
  isFirst : Bool
  ccBackupRestore : CycleCountBackupRestore
  lcBackupRestore : LearnedCapacityBackupRestore

structure BothCalls where
  cc : FileCalls
  lc : FileCalls

def BothCalls.succeed : BothCalls := ⟨.succeed, .succeed⟩

namespace HealthService

variable (w : HealthService)

/-- `soc_inc += battery_level - saved_soc` where the level has risen. -/
def raised (batteryLevel : CInt) : CInt :=
  if batteryLevel > w.savedSoc then
    .wrap (w.socInc.1 + (CInt.wrap (batteryLevel.1 - w.savedSoc.1)).1)
  else w.socInc

def cycleCountBackup (batteryLevel : CInt) (calls : FileCalls) : HealthService :=
  if w.isFirst then { w with isFirst := false, savedSoc := batteryLevel }
  else
    let w := { w with socInc := w.raised batteryLevel, savedSoc := batteryLevel }
    if kBackupTrigger ≤ w.socInc.1 then
      { w with ccBackupRestore := w.ccBackupRestore.backup calls, socInc := 0 }
    else w

def healthdBoardInit (calls : BothCalls) : HealthService :=
  { w with
    ccBackupRestore := w.ccBackupRestore.restore calls.cc
    lcBackupRestore := w.lcBackupRestore.restore calls.lc }

def healthdBoardBatteryUpdate (batteryLevel : CInt) (calls : BothCalls) : HealthService :=
  let w := w.cycleCountBackup batteryLevel calls.cc
  { w with lcBackupRestore := w.lcBackupRestore.backup calls.lc }

def start (sysPersist cycCnt sysCFPersist chgFull : Option Text) : HealthService :=
  ⟨0, 0, true, .start sysPersist cycCnt, .start sysCFPersist chgFull⟩

/-- The process starts, also after one before it ended; the battery changes; the fuel gauge
shows something new. -/
inductive Event
  | started (calls : BothCalls)
  | updated (batteryLevel : CInt) (calls : BothCalls)
  | fuelGauge (cycCnt chgFull : Option Text)

def step : Event → HealthService
  | .started calls =>
    (start w.ccBackupRestore.storage w.ccBackupRestore.sram w.lcBackupRestore.storage
      w.lcBackupRestore.sram).healthdBoardInit calls
  | .updated batteryLevel calls => w.healthdBoardBatteryUpdate batteryLevel calls
  | .fuelGauge cycCnt chgFull =>
    { w with
      ccBackupRestore := { w.ccBackupRestore with sram := cycCnt }
      lcBackupRestore := { w.lcBackupRestore with sram := chgFull } }

def soc : Option ℤ := if w.isFirst then none else some w.savedSoc.1

/-- By how much the level rises in all over the updates, from the level `soc` on. -/
def rise : Option ℤ → List Event → ℤ
  | _, [] => 0
  | none, .updated level _ :: es => rise (some level.1) es
  | some soc, .updated level _ :: es => max 0 (level.1 - soc) + rise (some level.1) es
  | soc, _ :: es => rise soc es

/-- The file calls succeed, the gauge shows counts, and a level is a percentage. -/
def Regular : Event → Prop
  | .started calls => calls.cc = .succeed
  | .updated level calls => calls.cc = .succeed ∧ 0 ≤ level.1 ∧ level.1 ≤ 100
  | .fuelGauge cycCnt _ => CycleCounts.Counts (cycCnt.map trim)

/-- What the gauge shows is nowhere less than `bins`. -/
def AtLeast (bins : Bins) : Event → Prop
  | .fuelGauge cycCnt _ => ∀ shown, Shows (cycCnt.map trim) shown → bins ≤ shown
  | _ => True

structure Orderly : Prop where
  settled : ∃ reads, CycleCounts.Settled ⟨w.ccBackupRestore, reads⟩
  low : 0 ≤ w.socInc.1 ∧ w.socInc.1 < kBackupTrigger
  level : 0 ≤ w.savedSoc.1 ∧ w.savedSoc.1 ≤ 100

def Stored (bins : Bins) : Prop := ∃ saved, Shows w.ccBackupRestore.storage saved ∧ bins ≤ saved

def Shown (bins : Bins) : Prop :=
  ∀ shown, Shows (w.ccBackupRestore.sram.map trim) shown → bins ≤ shown

def Saved (s s' : CycleCountBackupRestore) : Prop :=
  ∃ bins, Shows s'.storage bins ∧ Shows (s'.sram.map trim) bins ∧
    (∀ shown, Shows (s.sram.map trim) shown → shown ≤ bins) ∧
    ∀ before, Shows s.storage before → before ≤ bins

theorem le_of_isGreatest {reads : List (List CInt)} {bins shown : Bins}
    (hgreatest : ∀ i, IsGreatest (valuesAt reads i) (bins i)) (hread : List.ofFn shown ∈ reads) :
    shown ≤ bins := by
  intro i
  refine (hgreatest i).2 ⟨List.ofFn shown, hread, ?_⟩
  rw [List.getElem?_ofFn, dif_pos i.2]

variable {s : CycleCountBackupRestore} {reads : List (List CInt)}

theorem saved_backup (h : CycleCounts.Settled ⟨s, reads⟩) :
    (∃ reads', CycleCounts.Settled ⟨s.backup .succeed, reads'⟩) ∧ Saved s (s.backup .succeed) := by
  obtain ⟨hsettled, bins, hstorage, hsram, hgreatest, hbefore⟩ := CycleCounts.backup_settled h
  refine ⟨⟨_, hsettled⟩, bins, hstorage, hsram, fun shown hshown => ?_, hbefore⟩
  refine le_of_isGreatest hgreatest ?_
  rw [← CycleCounts.sramRead_succeed (w := ⟨s, reads⟩) hshown]
  exact List.mem_cons_self

theorem saved_restart (hstorage : CycleCounts.Counts s.storage)
    (hsram : CycleCounts.Counts (s.sram.map trim)) :
    (∃ reads', CycleCounts.Settled
        ⟨(CycleCountBackupRestore.start s.storage s.sram).restore .succeed, reads'⟩) ∧
      Saved s ((CycleCountBackupRestore.start s.storage s.sram).restore .succeed) := by
  obtain ⟨storage, hshows, hnonneg⟩ := hstorage
  obtain ⟨hsettled, bins, hstored, hgauge, hgreatest, hbefore⟩ :=
    CycleCounts.restore_settled (CycleCounts.level_start s.storage s.sram) hshows hnonneg hnonneg
      hsram
  refine ⟨⟨_, hsettled⟩, bins, hstored, hgauge, fun shown hshown => ?_, hbefore⟩
  refine le_of_isGreatest hgreatest ?_
  have hread := CycleCounts.sramRead_succeed (w := .start s.storage s.sram) hshown
  exact List.mem_cons_of_mem _ (hread ▸ List.mem_cons_self)

theorem Saved.stored {s' : CycleCountBackupRestore} (h : Saved s s') {bins saved : Bins}
    (hsaved : Shows s.storage saved) (hle : bins ≤ saved) :
    ∃ saved', Shows s'.storage saved' ∧ bins ≤ saved' := by
  obtain ⟨after, hstorage, -, -, hbefore⟩ := h
  exact ⟨after, hstorage, hle.trans (hbefore saved hsaved)⟩

theorem Saved.stores {s' : CycleCountBackupRestore} (h : Saved s s') {bins : Bins}
    (hcounts : CycleCounts.Counts (s.sram.map trim))
    (hshown : ∀ shown, Shows (s.sram.map trim) shown → bins ≤ shown) :
    (∃ saved', Shows s'.storage saved' ∧ bins ≤ saved') ∧
      ∀ shown, Shows (s'.sram.map trim) shown → bins ≤ shown := by
  obtain ⟨after, hstorage, hsram, hread, -⟩ := h
  obtain ⟨shown, hshows, -⟩ := hcounts
  have hle := (hshown shown hshows).trans (hread shown hshows)
  exact ⟨⟨after, hstorage, hle⟩, fun shown' hshown' => hshown'.unique hsram ▸ hle⟩

variable {w} {bins : Bins}

theorem Orderly.storage_counts (h : w.Orderly) :
    CycleCounts.Counts w.ccBackupRestore.storage := by
  obtain ⟨reads, hsettled⟩ := h.settled
  exact ⟨_, hsettled.storage, fun i => (hsettled.level.mark i).floor_le⟩

theorem Orderly.sram_counts (h : w.Orderly) :
    CycleCounts.Counts (w.ccBackupRestore.sram.map trim) := by
  obtain ⟨reads, hsettled⟩ := h.settled
  exact hsettled.sram

theorem orderly_started {calls : BothCalls} (hcalls : calls.cc = .succeed)
    (hstorage : CycleCounts.Counts w.ccBackupRestore.storage)
    (hsram : CycleCounts.Counts (w.ccBackupRestore.sram.map trim)) :
    (w.step (.started calls)).Orderly ∧
      Saved w.ccBackupRestore (w.step (.started calls)).ccBackupRestore := by
  obtain ⟨hsettled, hsaved⟩ := saved_restart hstorage hsram
  have hcc : (w.step (.started calls)).ccBackupRestore =
      (CycleCountBackupRestore.start w.ccBackupRestore.storage w.ccBackupRestore.sram).restore
        .succeed := by
    rw [← hcalls]
    rfl
  have hlow : 0 ≤ (0 : CInt).1 ∧ (0 : CInt).1 < kBackupTrigger := by decide
  have hlevel : 0 ≤ (0 : CInt).1 ∧ (0 : CInt).1 ≤ 100 := by decide
  exact ⟨⟨hcc ▸ hsettled, hlow, hlevel⟩, hcc ▸ hsaved⟩

theorem raised_val (h : w.Orderly) {level : CInt} (hlevel : 0 ≤ level.1 ∧ level.1 ≤ 100) :
    (w.raised level).1 = w.socInc.1 + max 0 (level.1 - w.savedSoc.1) := by
  have hlow : 0 ≤ w.socInc.1 ∧ w.socInc.1 < 20 := h.low
  have hsoc := h.level
  rw [raised]
  split_ifs with hup
  · have hlt : w.savedSoc.1 < level.1 := hup
    have hdiff : (CInt.wrap (level.1 - w.savedSoc.1)).1 = level.1 - w.savedSoc.1 :=
      congrArg Subtype.val (CInt.wrap_val ⟨level.1 - w.savedSoc.1, by omega, by omega⟩)
    rw [hdiff]
    have hsum : (CInt.wrap (w.socInc.1 + (level.1 - w.savedSoc.1))).1 =
        w.socInc.1 + (level.1 - w.savedSoc.1) := congrArg Subtype.val
      (CInt.wrap_val ⟨w.socInc.1 + (level.1 - w.savedSoc.1), by omega, by omega⟩)
    rw [hsum]
    omega
  · have hle : ¬ w.savedSoc.1 < level.1 := hup
    omega

/-- An update leaves the counts alone below the trigger, and saves them from it on. -/
inductive Counted (w : HealthService) (level : CInt) (w' : HealthService) : Prop where
  | first (hfirst : w.isFirst = true) (hinc : w'.socInc = w.socInc)
      (hcc : w'.ccBackupRestore = w.ccBackupRestore)
  | below (hfirst : w.isFirst = false) (hinc : w'.socInc = w.raised level)
      (hlow : (w.raised level).1 < kBackupTrigger) (hcc : w'.ccBackupRestore = w.ccBackupRestore)
  | saved (hfirst : w.isFirst = false) (hinc : w'.socInc = 0)
      (hhigh : kBackupTrigger ≤ (w.raised level).1)
      (hcc : w'.ccBackupRestore = w.ccBackupRestore.backup .succeed)

theorem counted_updated (w : HealthService) (level : CInt) {calls : BothCalls}
    (hcalls : calls.cc = .succeed) :
    Counted w level (w.step (.updated level calls)) ∧
      (w.step (.updated level calls)).savedSoc = level ∧
      (w.step (.updated level calls)).isFirst = false := by
  simp only [step, healthdBoardBatteryUpdate, cycleCountBackup]
  split_ifs with hfirst hhigh
  · exact ⟨.first hfirst rfl rfl, rfl, rfl⟩
  · exact ⟨.saved (Bool.eq_false_iff.mpr hfirst) rfl hhigh (by rw [hcalls]), rfl,
      Bool.eq_false_iff.mpr hfirst⟩
  · exact ⟨.below (Bool.eq_false_iff.mpr hfirst) rfl (not_le.mp hhigh) rfl, rfl,
      Bool.eq_false_iff.mpr hfirst⟩

theorem orderly_updated (h : w.Orderly) {level : CInt} {calls : BothCalls}
    (hregular : Regular (.updated level calls)) : (w.step (.updated level calls)).Orderly := by
  obtain ⟨hcalls, hlevel⟩ := hregular
  obtain ⟨hcounted, hsoc, -⟩ := counted_updated w level hcalls
  have hraised := raised_val h hlevel
  have hlow := h.low
  refine ⟨?_, ?_, by rwa [hsoc]⟩
  · cases hcounted with
    | first _ _ hcc | below _ _ _ hcc => exact hcc ▸ h.settled
    | saved _ _ _ hcc =>
      obtain ⟨reads, hsettled⟩ := h.settled
      exact hcc ▸ (saved_backup hsettled).1
  · cases hcounted with
    | first _ hinc => exact hinc ▸ h.low
    | below _ hinc hbelow =>
      rw [hinc]
      exact ⟨by omega, hbelow⟩
    | saved _ hinc =>
      rw [hinc]
      decide

theorem Orderly.step (h : w.Orderly) {e : Event} (hregular : Regular e) : (w.step e).Orderly := by
  cases e with
  | started calls => exact (orderly_started hregular h.storage_counts h.sram_counts).1
  | updated level calls => exact orderly_updated h hregular
  | fuelGauge cycCnt chgFull =>
    obtain ⟨reads, hsettled⟩ := h.settled
    have hshown := hsettled.step (e := .fuelGauge cycCnt) hregular
    exact ⟨⟨reads, hshown.1⟩, h.low, h.level⟩

theorem Stored.step (hstored : w.Stored bins) (h : w.Orderly) {e : Event} (hregular : Regular e) :
    (w.step e).Stored bins := by
  obtain ⟨saved, hsaved, hle⟩ := hstored
  cases e with
  | started calls =>
    exact (orderly_started hregular h.storage_counts h.sram_counts).2.stored hsaved hle
  | updated level calls =>
    obtain ⟨hcounted, -⟩ := counted_updated w level hregular.1
    rw [Stored]
    cases hcounted with
    | first _ _ hcc | below _ _ _ hcc => exact hcc ▸ ⟨saved, hsaved, hle⟩
    | saved _ _ _ hcc =>
      obtain ⟨reads, hsettled⟩ := h.settled
      exact hcc ▸ (saved_backup hsettled).2.stored hsaved hle
  | fuelGauge cycCnt chgFull => exact ⟨saved, hsaved, hle⟩

theorem Stored.run (es : List Event) (hstored : w.Stored bins) (h : w.Orderly)
    (hregular : ∀ e ∈ es, Regular e) : (es.foldl HealthService.step w).Stored bins := by
  induction es generalizing w with
  | nil => exact hstored
  | cons e es ih =>
    have he := hregular e List.mem_cons_self
    exact ih (hstored.step h he) (h.step he) fun e' he' => hregular e' (List.mem_cons_of_mem e he')

theorem stored_of_rise (es : List Event) (h : w.Orderly) (hshown : w.Shown bins)
    (hregular : ∀ e ∈ es, Regular e) (hatLeast : ∀ e ∈ es, AtLeast bins e)
    (hrise : (∃ calls, .started calls ∈ es) ∨ kBackupTrigger ≤ w.socInc.1 + rise w.soc es) :
    (es.foldl HealthService.step w).Stored bins := by
  induction es generalizing w with
  | nil =>
    obtain ⟨calls, hcalls⟩ | hrise := hrise
    · exact absurd hcalls List.not_mem_nil
    · rw [rise, add_zero] at hrise
      exact absurd h.low.2 (not_lt.mpr hrise)
  | cons e es ih =>
    have he := hregular e List.mem_cons_self
    have hregular' : ∀ e' ∈ es, Regular e' := fun e' he' => hregular e' (List.mem_cons_of_mem e he')
    have hatLeast' : ∀ e' ∈ es, AtLeast bins e' :=
      fun e' he' => hatLeast e' (List.mem_cons_of_mem e he')
    have horderly := h.step he
    cases e with
    | started calls =>
      have hsaved := (orderly_started he h.storage_counts h.sram_counts).2
      exact Stored.run es (hsaved.stores h.sram_counts hshown).1 horderly hregular'
    | fuelGauge cycCnt chgFull =>
      refine ih horderly (hatLeast _ List.mem_cons_self) hregular' hatLeast' ?_
      refine hrise.imp_left fun ⟨calls, hcalls⟩ => ⟨calls, ?_⟩
      exact (List.mem_cons.mp hcalls).resolve_left Event.noConfusion
    | updated level calls =>
      obtain ⟨hcounted, hsoc, hfirst'⟩ := counted_updated w level he.1
      have hraised := raised_val h he.2
      have hnext : (w.step (.updated level calls)).soc = some level.1 := by
        rw [soc, hfirst', hsoc]
        rfl
      have hrest : (∃ calls', .started calls' ∈ es) ∨
          kBackupTrigger ≤ w.socInc.1 + rise w.soc (.updated level calls :: es) :=
        hrise.imp_left fun ⟨calls', hcalls⟩ =>
          ⟨calls', (List.mem_cons.mp hcalls).resolve_left Event.noConfusion⟩
      cases hcounted with
      | first hfirst hinc hcc =>
        refine ih horderly (by rw [Shown, hcc]; exact hshown) hregular' hatLeast' ?_
        rw [hinc, hnext]
        rwa [soc, hfirst] at hrest
      | below hfirst hinc _ hcc =>
        refine ih horderly (by rw [Shown, hcc]; exact hshown) hregular' hatLeast' ?_
        rw [hinc, hnext, hraised]
        rw [soc, hfirst] at hrest
        rwa [add_assoc]
      | saved _ _ _ hcc =>
        obtain ⟨reads, hsettled⟩ := h.settled
        have hstores := (saved_backup hsettled).2.stores h.sram_counts hshown
        refine Stored.run es ?_ horderly hregular'
        rw [Stored, hcc]
        exact hstores.1

theorem Orderly.run (es : List Event) (h : w.Orderly) (hregular : ∀ e ∈ es, Regular e) :
    (es.foldl HealthService.step w).Orderly := by
  induction es generalizing w with
  | nil => exact h
  | cons e es ih =>
    exact ih (h.step (hregular e List.mem_cons_self))
      fun e' he' => hregular e' (List.mem_cons_of_mem e he')

/-- Counts that the fuel gauge shows at any time, and does not fall below until the level has
risen by twenty points in all or the service was started again, are in the storage then and
stay there, also when the gauge is reset. -/
theorem counts_stored (sysPersist cycCnt sysCFPersist chgFull : Option Text) (calls : BothCalls)
    (hstorage : CycleCounts.Counts sysPersist) (hsram : CycleCounts.Counts (cycCnt.map trim))
    (hcalls : calls.cc = .succeed) (past later rest : List Event)
    (hregular : ∀ e ∈ past ++ later ++ rest, Regular e) (hshown :
      (past.foldl HealthService.step
        ((start sysPersist cycCnt sysCFPersist chgFull).step (.started calls))).Shown bins)
    (hatLeast : ∀ e ∈ later, AtLeast bins e)
    (hrise : (∃ calls', .started calls' ∈ later) ∨
      kBackupTrigger ≤ rise (past.foldl HealthService.step
        ((start sysPersist cycCnt sysCFPersist chgFull).step (.started calls))).soc later) :
    ((past ++ later ++ rest).foldl HealthService.step
      ((start sysPersist cycCnt sysCFPersist chgFull).step (.started calls))).Stored bins := by
  obtain ⟨hfirst, -⟩ := orderly_started (w := start sysPersist cycCnt sysCFPersist chgFull)
    hcalls hstorage hsram
  have hbefore : ∀ e ∈ past ++ later, Regular e :=
    fun e he => hregular e (List.mem_append_left rest he)
  have hlater : ∀ e ∈ later, Regular e := fun e he => hbefore e (List.mem_append_right past he)
  have hpast := hfirst.run past fun e he => hbefore e (List.mem_append_left later he)
  rw [List.foldl_append, List.foldl_append]
  refine Stored.run rest ?_ (hpast.run later hlater)
    fun e he => hregular e (List.mem_append_right _ he)
  refine stored_of_rise later hpast hshown hlater hatLeast (hrise.imp_right fun h => ?_)
  have hlow := hpast.low.1
  omega

def cycleCounted : List Event :=
  [.updated (.wrap 50) .succeed, .fuelGauge (some CycleCounts.worn.text) none]

def charged : List Event :=
  [.updated (.wrap 60) .succeed, .updated (.wrap 55) .succeed, .updated (.wrap 65) .succeed]

/-- The gauge loses its counts, and the service is started again. -/
def gaugeReset : List Event :=
  [.fuelGauge (some (0 : Bins).text) none, .updated (.wrap 40) .succeed, .started .succeed]

def unworn : HealthService :=
  (start (some (0 : Bins).text) (some (0 : Bins).text) none none).step (.started .succeed)

theorem regular_charged : ∀ e ∈ cycleCounted ++ charged ++ gaugeReset, Regular e := by
  have hworn := (CycleCounts.counts_text CycleCounts.worn CycleCounts.worn_nonneg).2
  have hnone := (CycleCounts.counts_text 0 le_rfl).2
  have hlevels : ∀ level ∈ [50, 60, 55, 65, 40], Regular (.updated (.wrap level) .succeed) := by
    intro level hlevel
    refine ⟨rfl, ?_⟩
    revert level
    decide
  simp only [List.forall_mem_cons] at hlevels
  obtain ⟨h50, h60, h55, h65, h40, -⟩ := hlevels
  simp only [cycleCounted, charged, gaugeReset, List.cons_append, List.nil_append,
    List.forall_mem_cons]
  exact ⟨h50, hworn, h60, h55, h65, hnone, h40, rfl, fun _ h => absurd h List.not_mem_nil⟩

theorem fuelGauge_sram (w : HealthService) (cycCnt chgFull : Option Text) :
    (w.step (.fuelGauge cycCnt chgFull)).ccBackupRestore.sram = cycCnt := rfl

theorem shown_cycleCounted :
    (cycleCounted.foldl HealthService.step unworn).Shown CycleCounts.worn := by
  intro shown hshown
  rw [cycleCounted, List.foldl_cons, List.foldl_cons, List.foldl_nil, fuelGauge_sram] at hshown
  exact (hshown.unique CycleCounts.worn.shows_trim_text).ge

theorem counts_stored_charged :
    ((cycleCounted ++ charged ++ gaugeReset).foldl HealthService.step unworn).Stored
      CycleCounts.worn := by
  refine counts_stored _ _ none none .succeed (CycleCounts.counts_text 0 le_rfl).1
    (CycleCounts.counts_text 0 le_rfl).2 rfl cycleCounted charged gaugeReset regular_charged
    shown_cycleCounted ?_ (Or.inr ?_)
  · simp only [charged, List.forall_mem_cons]
    exact ⟨trivial, trivial, trivial, fun _ h => absurd h List.not_mem_nil⟩
  · decide +kernel

end HealthService
end Cedric.Health
