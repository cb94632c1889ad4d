import Cedric.Hub.RateArbitration

/-!
# Requested periods

`setDelay` narrows the period in milliseconds to an `unsigned short` before it clamps it, so
a period past the range of that type comes back as a short one. The clamp reads the sensor
list of every handle, also where its maximum is 0, and then only the minimum is left.
-/

namespace Cedric.Hub

variable {F : Type}

/-- The clamp of the period, computed without the narrowing. -/
def SensorT.exactDelay (e : SensorT) (ns : ℤ) : ℤ :=
  max (e.minDelay / 1000) (min (e.maxDelay / 1000) (ns / 1000000))

/-- The period fits an `unsigned short`, or wraps to one at or above the maximum, or the
limits of the entry leave no choice. -/
def SensorT.Unwrapped (e : SensorT) (ns : ℤ) : Prop :=
  ns / 1000000 < 65536 ∨ e.maxDelay / 1000 ≤ ns / 1000000 % 65536 ∨
    e.maxDelay / 1000 ≤ e.minDelay / 1000

structure SensorT.Limits (e : SensorT) : Prop where
  min_nonneg : 0 ≤ e.minDelay
  ordered : e.minDelay ≤ e.maxDelay
  max_lt : e.maxDelay / 1000 < 65536

theorem sSensorList_limits (eCompass : Bool) :
    ∀ e ∈ sSensorList eCompass, 0 < e.maxDelay → e.Limits := by
  have hlimits : ∀ e ∈ sSensorList eCompass, 0 < e.maxDelay →
      0 ≤ e.minDelay ∧ e.minDelay ≤ e.maxDelay ∧ e.maxDelay / 1000 < 65536 := by
    cases eCompass <;> decide
  intro e he hmax
  obtain ⟨hmin, hordered, hlt⟩ := hlimits e he hmax
  exact ⟨hmin, hordered, hlt⟩

theorem sSensorList_find (eCompass : Bool) : ∀ e ∈ sSensorList eCompass,
    (sSensorList eCompass).find? (fun e' => decide (e'.handle = e.handle)) = some e := by
  cases eCompass <;> decide

namespace SensorT

variable {e : SensorT} {ns : ℤ}

theorem Limits.clamp_wrapped (h : e.Limits) (delay : ℕ) :
    (toUShort (max (min (delay : ℤ) (e.maxDelay.tdiv 1000)) (e.minDelay.tdiv 1000)) : ℤ) =
      max (e.minDelay / 1000) (min (e.maxDelay / 1000) delay) := by
  obtain ⟨hmin, hordered, hlt⟩ := h
  rw [Int.tdiv_eq_ediv_of_nonneg hmin, Int.tdiv_eq_ediv_of_nonneg (hmin.trans hordered), toUShort]
  omega

theorem Limits.wrapped_iff (h : e.Limits) (hns : 0 ≤ ns) :
    max (e.minDelay / 1000) (min (e.maxDelay / 1000) (toUShort (ns / 1000000) : ℤ)) =
      e.exactDelay ns ↔ e.Unwrapped ns := by
  obtain ⟨hmin, hordered, hlt⟩ := h
  rw [exactDelay, Unwrapped, toUShort]
  omega

theorem exactDelay_mono (e : SensorT) {ns' : ℤ} (hle : ns ≤ ns') :
    e.exactDelay ns ≤ e.exactDelay ns' := by
  have hms : ns / 1000000 ≤ ns' / 1000000 := Int.ediv_le_ediv (by decide) hle
  exact max_le_max_left _ (min_le_min_left _ hms)

end SensorT

namespace HubSensors

variable {s : HubSensors F} {K : Kernel}

theorem setDelay_stored {list : List SensorT} {handle : SensorHandle} {i : FusionEnum}
    (hi : handle.fusionIndex = some i) {ns : ℤ} (hns : 0 ≤ ns) :
    ((s.setDelay K list handle ns).2.mFusionSensors i).delay =
      clampDelay list handle (toUShort (ns / 1000000)) := by
  rw [(setDelay_rates K list handle (not_lt.mpr hns)).mFusionSensors, delaySwitch_table, hi]
  simp

theorem setDelay_stored_entry {eCompass : Bool} {e : SensorT} (he : e ∈ sSensorList eCompass)
    (hmax : 0 < e.maxDelay) {i : FusionEnum} (hi : e.handle.fusionIndex = some i) {ns : ℤ}
    (hns : 0 ≤ ns) :
    (((s.setDelay K (sSensorList eCompass) e.handle ns).2.mFusionSensors i).delay : ℤ) =
      max (e.minDelay / 1000) (min (e.maxDelay / 1000) (toUShort (ns / 1000000) : ℤ)) := by
  rw [setDelay_stored hi hns, clampDelay, sSensorList_find eCompass e he]
  exact (sSensorList_limits eCompass e he hmax).clamp_wrapped _

end HubSensors

/-- The stored delay is the clamped period exactly if the narrowing does not show, and among
such periods a longer one is never stored as a shorter delay. -/
theorem delay_clamped_iff (s : HubSensors F) (K : Kernel) {eCompass : Bool} {e : SensorT}
    (he : e ∈ sSensorList eCompass) (hmax : 0 < e.maxDelay) {i : FusionEnum}
    (hi : e.handle.fusionIndex = some i) {ns : ℤ} (hns : 0 ≤ ns) :
    ((((s.setDelay K (sSensorList eCompass) e.handle ns).2.mFusionSensors i).delay : ℤ) =
        e.exactDelay ns ↔ e.Unwrapped ns) ∧
      ∀ ns', ns ≤ ns' → e.Unwrapped ns → e.Unwrapped ns' →
        ((s.setDelay K (sSensorList eCompass) e.handle ns).2.mFusionSensors i).delay ≤
          ((s.setDelay K (sSensorList eCompass) e.handle ns').2.mFusionSensors i).delay := by
  have hlimits := sSensorList_limits eCompass e he hmax
  have hiff {ns : ℤ} (hns : 0 ≤ ns) :
      (((s.setDelay K (sSensorList eCompass) e.handle ns).2.mFusionSensors i).delay : ℤ) =
        e.exactDelay ns ↔ e.Unwrapped ns := by
    rw [HubSensors.setDelay_stored_entry he hmax hi hns]
    exact hlimits.wrapped_iff hns
  refine ⟨hiff hns, fun ns' hle hw hw' => ?_⟩
  have hexact := (hiff hns).mpr hw
  have hexact' := (hiff (hns.trans hle)).mpr hw'
  have hmono := e.exactDelay_mono hle
  omega

theorem delay_clamped_accel :
    ((((HubSensors.start none none : HubSensors ℚ).setDelay acceptAll (sSensorList true) .ID_A
        20000000).2.mFusionSensors .ACCEL).delay : ℤ) =
        SensorT.exactDelay ⟨.ID_A, ACCEL_MIN_DELAY_US, ACCEL_MAX_DELAY_US⟩ 20000000 ↔
      SensorT.Unwrapped ⟨.ID_A, ACCEL_MIN_DELAY_US, ACCEL_MAX_DELAY_US⟩ 20000000 :=
  (delay_clamped_iff (HubSensors.start none none : HubSensors ℚ) acceptAll
    (show ⟨.ID_A, ACCEL_MIN_DELAY_US, ACCEL_MAX_DELAY_US⟩ ∈ sSensorList true by decide)
    (by decide) rfl (by decide)).1

/-- A period of 65.546 s is stored as 10 ms. -/
theorem long_period_stored_short :
    ¬ ((((HubSensors.start none none : HubSensors ℚ).setDelay acceptAll (sSensorList true) .ID_A
        65546000000).2.mFusionSensors .ACCEL).delay : ℤ) =
      SensorT.exactDelay ⟨.ID_A, ACCEL_MIN_DELAY_US, ACCEL_MAX_DELAY_US⟩ 65546000000 := by
  decide

def Sys.stepPeriod : Sys → Option ℕ
  | .setStepCounterDelay s => some s
  | _ => none

def stepPeriods (log : Log) : List ℕ := log.filterMap fun e => e.1.stepPeriod

namespace HubSensors

variable {s : HubSensors F} {K : Kernel}

theorem updateRateOf_stepPeriods (k : RateSensor) :
    stepPeriods (s.updateRateOf K k).2.log = stepPeriods s.log := by
  obtain ⟨store, hstore, heq⟩ := updateRateOf_eq (s := s) (K := K) k
  rw [heq, updateRate]
  split_ifs
  · dsimp only
    rw [(hstore _ _).1]
    cases k <;> rfl
  · rfl

theorem rateCalls_stepPeriods (skipped : HubSensors F → RateSensor → Bool) (ks : List RateSensor) :
    stepPeriods (rateCalls K skipped ks s).2.log = stepPeriods s.log :=
  (rateCalls_invariant (P := fun t => stepPeriods t.log = stepPeriods s.log)
    (fun _ k ht => (updateRateOf_stepPeriods k).trans ht) skipped ks rfl).1

theorem clampDelay_stepCounter (eCompass : Bool) (delay : ℕ) :
    clampDelay (sSensorList eCompass) .ID_STEP_COUNTER delay = 1000 := by
  have hfind : (sSensorList eCompass).find? (fun e => decide (e.handle = .ID_STEP_COUNTER)) =
      some ⟨.ID_STEP_COUNTER, STEP_MIN_DELAY_US, STEP_MAX_DELAY_US⟩ := by
    cases eCompass <;> decide
  rw [clampDelay, hfind]
  have hmin : min (delay : ℤ) ((STEP_MAX_DELAY_US : ℤ).tdiv 1000) = 0 :=
    min_eq_right (Int.natCast_nonneg delay)
  dsimp only
  rw [hmin]
  rfl

theorem setDelay_stepPeriods (eCompass : Bool) {ns : ℤ} (hns : 0 ≤ ns) :
    stepPeriods (s.setDelay K (sSensorList eCompass) .ID_STEP_COUNTER ns).2.log =
      1 :: stepPeriods s.log := by
  rw [setDelay_eq_rateCalls _ _ (not_lt.mpr hns), rateCalls_stepPeriods, clampDelay_stepCounter]
  rfl

end HubSensors

/-- The step counter is programmed with the requested seconds exactly for periods below two
seconds: the period sent is always one second. -/
theorem step_period_iff (s : HubSensors F) (K : Kernel) (eCompass : Bool) {ns : ℤ} (hns : 0 ≤ ns) :
    (∃ sec : ℕ, stepPeriods (s.setDelay K (sSensorList eCompass) .ID_STEP_COUNTER ns).2.log =
        sec :: stepPeriods s.log ∧ (sec : ℤ) = max 1 (min 3600 (ns / 1000000000))) ↔
      ns < 2000000000 := by
  rw [HubSensors.setDelay_stepPeriods eCompass hns]
  constructor
  · rintro ⟨sec, hsec, hexact⟩
    obtain ⟨rfl, -⟩ := List.cons.inj hsec
    omega
  · intro hlt
    exact ⟨1, rfl, by omega⟩

theorem step_period_one :
    (∃ sec : ℕ, stepPeriods ((HubSensors.start none none : HubSensors ℚ).setDelay acceptAll
        (sSensorList true) .ID_STEP_COUNTER 1000000000).2.log =
          sec :: stepPeriods (HubSensors.start none none : HubSensors ℚ).log ∧
        (sec : ℤ) = max 1 (min 3600 (1000000000 / 1000000000))) ↔
      (1000000000 : ℤ) < 2000000000 :=
  step_period_iff (HubSensors.start none none : HubSensors ℚ) acceptAll true (by decide)

/-- A minute is asked for and a second is sent. -/
theorem minute_sent_as_second :
    ¬ ∃ sec : ℕ, stepPeriods ((HubSensors.start none none : HubSensors ℚ).setDelay acceptAll
        (sSensorList true) .ID_STEP_COUNTER 60000000000).2.log =
          sec :: stepPeriods (HubSensors.start none none : HubSensors ℚ).log ∧
        (sec : ℤ) = max 1 (min 3600 (60000000000 / 1000000000)) := by
  rintro ⟨sec, hsec, hexact⟩
  have hone : stepPeriods ((HubSensors.start none none : HubSensors ℚ).setDelay acceptAll
      (sSensorList true) .ID_STEP_COUNTER 60000000000).2.log = [1] := by rfl
  rw [hone] at hsec
  obtain ⟨rfl, -⟩ := List.cons.inj hsec
  exact absurd hexact (by decide)

end Cedric.Hub
