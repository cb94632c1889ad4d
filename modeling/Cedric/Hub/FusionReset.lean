import Cedric.Hub.FusionRuns
import Cedric.Hub.Operations

/-!
# The resets at the end of `setEnable`

The reset block runs for every handle of the non-wake switch. It spares the
six-axis algorithm while any of its sensors runs, but resets the nine-axis one
whenever GEOMAG_RV itself is off, also under a running ROTATION_VECT.
-/

namespace Cedric.Hub

open Runs

variable {F : Type}

def SensorHandle.isRotation : SensorHandle → Bool
  | .ID_GEOMAG_RV | .ID_RV | .ID_GAME_RV | .ID_LA | .ID_GRAVITY => true
  | _ => false

theorem GeoMagRotationVector.State.reset_eq_self_iff (st : GeoMagRotationVector.State F) :
    st.reset = st ↔ st.initialized = false ∧ st.magCnt = MAG_COUNTS := by
  constructor
  · intro h
    rw [← h]
    exact ⟨rfl, rfl⟩
  · intro h
    rw [State.reset, ← h.1, ← h.2]

namespace HubSensors

variable {s t u : HubSensors F}

theorem nonWakeSwitch_rotation {H : Stml0xxHeader} {newState : Bool} {h : SensorHandle}
    {m : BitVec 32} (hf : s.nonWakeSwitch H newState h = some (t, m)) (hh : h.isRotation = false)
    (i : FusionEnum) (hi : i ∈ rotationSensors) : t.enabled i = s.enabled i := by
  have hflag (j : FusionEnum) (hj : j ∉ rotationSensors) :
      (s.setFusion j newState).enabled i = s.enabled i := by
    have hne : i ≠ j := by
      intro heq
      exact hj (heq ▸ hi)
    simp only [HubSensors.enabled, setFusion, Function.update_of_ne hne]
  cases h with
  | ID_GAME_RV | ID_LA | ID_GRAVITY | ID_GEOMAG_RV | ID_RV => cases hh
  | ID_L | ID_DR | ID_STEP_COUNTER | ID_STEP_DETECTOR =>
    obtain ⟨rfl, -⟩ := Prod.mk.inj (Option.some.inj hf)
    rfl
  | ID_A | ID_G | ID_UNCALIB_GYRO | ID_M | ID_UM | ID_OR =>
    obtain ⟨rfl, -⟩ := Prod.mk.inj (Option.some.inj hf)
    exact hflag _ (by decide)
  | _ => cases hf

theorem SameFusion.refl : SameFusion s s :=
  ⟨fun _ _ => rfl, rfl, rfl, rfl, fun _ => ⟨rfl, rfl⟩,
    fun _ => ⟨rfl, rfl, rfl⟩, fun _ => ⟨rfl, rfl⟩⟩

theorem SameFusion.found {H : Stml0xxHeader} {newState : Bool} {h : SensorHandle}
    {m : BitVec 32} (hf : s.nonWakeSwitch H newState h = some (t, m)) (hh : h.isRotation = false) :
    SameFusion s t := by
  have hflags := nonWakeSwitch_rotation hf hh
  obtain rfl | ⟨i, rfl⟩ := nonWakeSwitch_found hf
  · exact SameFusion.refl
  · exact ⟨hflags, rfl, rfl, rfl, fun _ => ⟨rfl, rfl⟩,
      fun _ => ⟨rfl, rfl, rfl⟩, fun _ => ⟨rfl, rfl⟩⟩

theorem SameFusion.checks (h : SameFusion s t) (H : Stml0xxHeader) (K : Kernel) (m : BitVec 32) :
    SameFusion s (applySensors K (checkSensors H K ⟨0, m, t⟩)).hub := by
  obtain ⟨hrates, -⟩ := checkSensors_spec H K ⟨0, m, t⟩
  have hcore : SameFusion s (checkSensors H K ⟨0, m, t⟩).hub.core := by
    rw [hrates.1]
    exact ⟨h.enabled, h.accel, h.gyro, h.mag, h.nine, h.rotation, h.six⟩
  simp only [applySensors]
  split_ifs <;> exact ⟨hcore.enabled, hcore.accel, hcore.gyro, hcore.mag, hcore.nine,
    hcore.rotation, hcore.six⟩

section Reset
variable [FloatOps F]

theorem SameFusion.resetNineAxis (h : SameFusion s u)
    (hspare : s.enabled .ROTATION_VECT = true → s.enabled .GEOMAG_RV = false →
      u.mGeomagRV.reset = u.mGeomagRV) : SameFusion s u.resetNineAxis := by
  rw [HubSensors.resetNineAxis]
  rw [h.geomag, h.rv]
  cases hg : s.enabled .GEOMAG_RV with
  | false =>
    refine ⟨h.enabled, h.accel, h.gyro, h.mag, fun hrun => ?_, h.rotation, h.six⟩
    have hrv : s.enabled .ROTATION_VECT = true := by
      simpa [HubSensors.nineAxisRunning, hg] using hrun
    obtain ⟨hstate, hrot⟩ := h.nine hrun
    exact ⟨(hspare hrv hg).trans hstate, hrot⟩
  | true =>
    cases hrv : s.enabled .ROTATION_VECT with
    | false =>
      refine ⟨h.enabled, h.accel, h.gyro, h.mag, h.nine, fun hrun => ?_, h.six⟩
      rw [hrv] at hrun
      cases hrun
    | true => exact h

theorem SameFusion.resetSixAxis (h : SameFusion s u) : SameFusion s u.resetSixAxis := by
  rw [HubSensors.resetSixAxis]
  rw [h.game, h.la, h.gravity]
  split_ifs with hoff
  · refine ⟨h.enabled, h.accel, h.gyro, h.mag, h.nine, h.rotation, fun hrun => ?_⟩
    simp [HubSensors.sixAxisRunning] at hrun hoff
    grind
  · exact h

theorem resetSixAxis_geomag : u.resetSixAxis.mGeomagRV = u.mGeomagRV := by
  rw [resetSixAxis]
  split_ifs <;> rfl

theorem setEnable_signal (H : Stml0xxHeader) (K : Kernel) (h : SensorHandle) (en : ℤ) :
    (s.setEnable H K h en).2.signal = (s.nonWake H K (decide (en ≠ 0)) h).2.signal :=
  wake_signal H K (decide (en ≠ 0)) h (s.nonWake H K (decide (en ≠ 0)) h).1

/-- The call runs the reset block, which resets a `GeoMagRotationVector` in use that is
not in its reset state already. -/
def ResetsGeomag (s : HubSensors F) (h : SensorHandle) : Prop :=
  h.isNonWake = true ∧ s.enabled .ROTATION_VECT = true ∧ s.enabled .GEOMAG_RV = false ∧
    (s.mGeomagRV.initialized = true ∨
      s.mGeomagRV.magCnt ≠ GeoMagRotationVector.MAG_COUNTS)

theorem sameFusion_setEnable (H : Stml0xxHeader) (K : Kernel) {h : SensorHandle}
    (hh : h.isRotation = false) (en : ℤ) (hspare : ¬ s.ResetsGeomag h) :
    SameFusion s (s.setEnable H K h en).2 := by
  refine SameFusion.of_signal (s := s) (t := (s.nonWake H K (decide (en ≠ 0)) h).2) ?_ (rfl)
    (setEnable_signal H K h en)
  cases hf : s.nonWakeSwitch H (decide (en ≠ 0)) h with
  | none =>
    rw [nonWake_none K hf]
    exact SameFusion.refl
  | some found =>
    obtain ⟨t, m⟩ := found
    have hchecks := (SameFusion.found hf hh).checks H K m
    rw [nonWake, hf]
    refine (hchecks.resetNineAxis fun hrv hg => ?_).resetSixAxis
    have hnon : h.isNonWake = true := by
      rw [← nonWakeSwitch_isSome (s := s) (H := H) (decide (en ≠ 0)) h, hf]
      rfl
    obtain ⟨hstate, -⟩ := hchecks.nine (by rw [HubSensors.nineAxisRunning, hrv, Bool.or_true])
    rw [hstate, GeoMagRotationVector.State.reset_eq_self_iff]
    have hclean : ¬ (s.mGeomagRV.initialized = true ∨
        s.mGeomagRV.magCnt ≠ GeoMagRotationVector.MAG_COUNTS) :=
      fun hdirty => hspare ⟨hnon, hrv, hg, hdirty⟩
    rw [not_or, Bool.not_eq_true, not_not] at hclean
    exact hclean

theorem setEnable_geomag_reset (H : Stml0xxHeader) (K : Kernel) {h : SensorHandle}
    (hh : h.isRotation = false) (en : ℤ) (hreset : s.ResetsGeomag h) :
    (s.setEnable H K h en).2.mGeomagRV = s.mGeomagRV.reset := by
  obtain ⟨hnon, hrv, hg, -⟩ := hreset
  rw [← nonWakeSwitch_isSome (s := s) (H := H) (decide (en ≠ 0)) h] at hnon
  obtain ⟨⟨t, m⟩, hf⟩ := Option.isSome_iff_exists.mp hnon
  have hchecks := (SameFusion.found hf hh).checks H K m
  obtain ⟨hstate, -⟩ := hchecks.nine (by rw [HubSensors.nineAxisRunning, hrv, Bool.or_true])
  have hsignal := congrArg (fun u => u.mGeomagRV) (setEnable_signal (s := s) H K h en)
  refine Eq.trans hsignal ?_
  change (s.nonWake H K (decide (en ≠ 0)) h).2.mGeomagRV = s.mGeomagRV.reset
  rw [nonWake, hf]
  change (applySensors K (checkSensors H K ⟨0, m, t⟩)).hub.resetNineAxis.resetSixAxis.mGeomagRV =
    s.mGeomagRV.reset
  rw [resetSixAxis_geomag, resetNineAxis, hchecks.geomag, hg]
  change (applySensors K (checkSensors H K ⟨0, m, t⟩)).hub.mGeomagRV.reset = s.mGeomagRV.reset
  rw [hstate]

end Reset
end HubSensors

/-- The call leaves the algorithms of the running rotation sensors alone, and with them
all rotation events of any later records. -/
structure KeepsFusion [FloatOps F] (H : Stml0xxHeader) (K : Kernel) (s : HubSensors F)
    (h : SensorHandle) (en : ℤ) : Prop where
  geomag : s.nineAxisRunning = true → (s.setEnable H K h en).2.mGeomagRV = s.mGeomagRV
  rotation : s.enabled .ROTATION_VECT = true →
    (s.setEnable H K h en).2.mRotationVect = s.mRotationVect
  game : s.sixAxisRunning = true → (s.setEnable H K h en).2.mGameRV = s.mGameRV
  outputs : ∀ (K₁ K₂ : Kernel) (records : List SensorData),
    (transduce (fun u b => u.handleRecord H K₁ b) s records).2.filter Event.isRotation =
      (transduce (fun u b => u.handleRecord H K₂ b) (s.setEnable H K h en).2 records).2.filter
        Event.isRotation

theorem keepsFusion_iff [FloatOps F] (H : Stml0xxHeader) (K : Kernel) (s : HubSensors F)
    {h : SensorHandle} (hh : h.isRotation = false) (en : ℤ) :
    KeepsFusion H K s h en ↔ ¬ s.ResetsGeomag h := by
  constructor
  · intro hkeeps hreset
    obtain ⟨-, hrv, -, hdirty⟩ := id hreset
    have hgeomag := hkeeps.geomag (by rw [HubSensors.nineAxisRunning, hrv, Bool.or_true])
    rw [HubSensors.setEnable_geomag_reset H K hh en hreset,
      GeoMagRotationVector.State.reset_eq_self_iff] at hgeomag
    obtain ⟨hinit, hcnt⟩ := hgeomag
    rcases hdirty with h' | h'
    · rw [hinit] at h'
      cases h'
    · exact h' hcnt
  · intro hspare
    have hsame := HubSensors.sameFusion_setEnable H K hh en hspare
    exact ⟨fun hrun => (hsame.nine hrun).1, fun hrun => (hsame.rotation hrun).1,
      fun hrun => (hsame.six hrun).1, fun K₁ K₂ records => hsame.outputs H K₁ K₂ records⟩

theorem keepsFusion_light_start :
    KeepsFusion .numbered (fun _ _ => 0)
      ((HubSensors.start none none : HubSensors ℚ).enableAll .numbered (fun _ _ => 0) [.ID_RV])
      .ID_L 1 :=
  (keepsFusion_iff .numbered (fun _ _ => 0) _ (by decide) 1).mpr fun h => by
    obtain ⟨-, -, -, hdirty⟩ := h
    exact absurd hdirty (by decide +kernel)

/-- ROTATION_VECT alone is on and has counted one new magnetometer sample. -/
def countingWorld : HubSensors ℚ :=
  (HubSensors.start none none).run .numbered (fun _ _ => 0) (sSensorList true)
    [.setEnable .ID_RV 1, .readEvents (.blank (.other 0)) 16
      [.full ⟨0, .DT_MAG, 0, fun _ => 1⟩, .full (.blank .DT_ACCEL)]]

theorem light_resets_running_rotation :
    ¬ KeepsFusion .numbered (fun _ _ => 0) countingWorld .ID_L 1 := by
  intro h
  have hgeomag := congrArg (fun st => st.magCnt) (h.geomag (by decide +kernel))
  exact absurd hgeomag (by decide +kernel)
end Cedric.Hub
