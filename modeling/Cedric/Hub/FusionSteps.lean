import Cedric.Hub.FusionReset
import Cedric.Hub.Trace

/-!
# What a step does to the fusion algorithms

`algo` is what the algorithms depend on: the enabled flags, the fusion data and
their own state. A step leaves it alone, or switches a flag and runs the reset
block, or decodes a sample; `next_algo` says which, and the invariants of the
algorithms rest on it.
-/

namespace Cedric.Hub

open Runs

variable {F : Type}

def SensorHandle.fusionIndex : SensorHandle → Option FusionEnum
  | .ID_A => some .ACCEL
  | .ID_G => some .GYRO
  | .ID_UNCALIB_GYRO => some .UNCALIB_GYRO
  | .ID_GAME_RV => some .GAME_RV
  | .ID_LA => some .LINEAR_ACCEL
  | .ID_GRAVITY => some .GRAVITY
  | .ID_M => some .MAG
  | .ID_UM => some .UNCALIB_MAG
  | .ID_OR => some .ORIENTATION
  | .ID_GEOMAG_RV => some .GEOMAG_RV
  | .ID_RV => some .ROTATION_VECT
  | _ => none

def Input.movesAlgo : Input → Bool
  | .setEnable x _ => x.isNonWake
  | .record b => decide (b.type ∈ [.DT_ACCEL, .DT_GYRO, .DT_MAG, .DT_GLANCE])
  | _ => false

namespace HubSensors

variable {s t u : HubSensors F}

def algo (s : HubSensors F) : HubSensors F :=
  { s.core.signal with
    mFusionSensors := fun i => ⟨s.enabled i, false, false, false, 0⟩
    lastStepcount := 0
    stepOffset := 0 }

def setFlag (s : HubSensors F) (h : SensorHandle) (newState : Bool) : HubSensors F :=
  match h.fusionIndex with
  | some i => s.setFusion i newState
  | none => s

theorem algo_of_signal (h : t.signal = s.signal) : t.algo = s.algo :=
  congrArg (fun u => u.algo) h

theorem setFlag_enabled (h : SensorHandle) (newState : Bool) (i : FusionEnum) :
    (s.setFlag h newState).enabled i =
      if h.fusionIndex = some i then newState else s.enabled i := by
  rw [setFlag]
  cases hi : h.fusionIndex with
  | none => rfl
  | some j =>
    by_cases hij : j = i
    · subst hij
      simp [enabled, setFusion]
    · have hne : i ≠ j := fun h => hij h.symm
      simp [enabled, setFusion, hij, Function.update_of_ne hne]

theorem nonWakeSwitch_setFlag {H : Stml0xxHeader} {newState : Bool} {h : SensorHandle}
    {m : BitVec 32} (hf : s.nonWakeSwitch H newState h = some (t, m)) :
    t = s.setFlag h newState := by
  have ht : (s.nonWakeSwitch H newState h).map Prod.fst = some t := congrArg (Option.map Prod.fst) hf
  cases h with
  | _ => first | exact (Option.some.inj ht).symm | cases ht

theorem checks_algo (H : Stml0xxHeader) (K : Kernel) (m : BitVec 32) :
    (applySensors K (checkSensors H K ⟨0, m, t⟩)).hub.algo = t.algo := by
  obtain ⟨hrates, -⟩ := checkSensors_spec H K ⟨0, m, t⟩
  have hcore : (checkSensors H K ⟨0, m, t⟩).hub.algo = t.algo :=
    congrArg (fun u => u.algo) hrates.1
  rw [← hcore, applySensors]
  split_ifs <;> rfl

variable [FloatOps F]

theorem algo_resets : s.resetNineAxis.resetSixAxis.algo = s.algo.resetNineAxis.resetSixAxis := by
  have hnine : s.resetNineAxis.algo = s.algo.resetNineAxis := by
    rw [resetNineAxis, resetNineAxis]
    change _ = if !s.enabled .GEOMAG_RV then _ else if !s.enabled .ROTATION_VECT then _ else _
    split_ifs <;> rfl
  have hsix : s.resetNineAxis.resetSixAxis.algo = s.resetNineAxis.algo.resetSixAxis := by
    rw [resetSixAxis, resetSixAxis]
    change _ = if !s.resetNineAxis.enabled .GAME_RV && !s.resetNineAxis.enabled .LINEAR_ACCEL &&
      !s.resetNineAxis.enabled .GRAVITY then _ else _
    split_ifs <;> rfl
  rw [hsix, hnine]

theorem setEnable_algo (H : Stml0xxHeader) (K : Kernel) (h : SensorHandle) (en : ℤ) :
    (s.setEnable H K h en).2.algo =
      if h.isNonWake then (s.setFlag h (decide (en ≠ 0))).resetNineAxis.resetSixAxis.algo
      else s.algo := by
  rw [algo_of_signal (setEnable_signal H K h en)]
  cases hf : s.nonWakeSwitch H (decide (en ≠ 0)) h with
  | none =>
    have hnon : h.isNonWake = false := by
      rw [← nonWakeSwitch_isSome (s := s) (H := H) (decide (en ≠ 0)) h, hf]
      rfl
    rw [nonWake_none K hf, hnon]
    rfl
  | some found =>
    obtain ⟨t, m⟩ := found
    have hnon : h.isNonWake = true := by
      rw [← nonWakeSwitch_isSome (s := s) (H := H) (decide (en ≠ 0)) h, hf]
      rfl
    rw [nonWake, hf, if_pos hnon, ← nonWakeSwitch_setFlag hf, algo_resets]
    dsimp only
    rw [algo_resets, checks_algo]

theorem onAccel_state (b : SensorData) : (s.onAccel b).1 =
    if s.nineAxisRunning then (s.storeAccel b).fuseGeomag else s.storeAccel b := by
  simp only [onAccel]
  change (if s.nineAxisRunning then _ else _ : HubSensors F × List (Event F)).1 = _
  split_ifs <;> rfl

theorem gyroGame_nine : s.gyroGame.1.mRotationVect = s.mRotationVect ∧
    s.gyroGame.1.mFusionData.geoMagRotation = s.mFusionData.geoMagRotation ∧
    s.gyroGame.1.mFusionData.rotationVector = s.mFusionData.rotationVector ∧
    s.gyroGame.1.mFusionData.gyro = s.mFusionData.gyro ∧
    s.gyroGame.1.mGeomagRVReady = s.mGeomagRVReady ∧ s.gyroGame.1.enabled = s.enabled := by
  simp only [gyroGame]
  split_ifs <;> exact ⟨rfl, rfl, rfl, rfl, rfl, rfl⟩

omit [FloatOps F] in
theorem storeDelay_algo (i : FusionEnum) (delay : ℕ) : (s.storeDelay i delay).2.algo = s.algo := by
  have henabled : (s.storeDelay i delay).2.enabled = s.enabled := by
    funext j
    by_cases hj : j = i
    · subst hj
      simp [enabled, storeDelay]
    · simp [enabled, storeDelay, Function.update_of_ne hj]
  simp only [algo, henabled]
  rfl

omit [FloatOps F] in
theorem delaySwitch_algo (K : Kernel) (delay : ℕ) (h : SensorHandle) :
    (s.delaySwitch K delay h).2.algo = s.algo := by
  cases h with
  | _ => first | exact storeDelay_algo _ delay | rfl

omit [FloatOps F] in
theorem setDelay_algo (K : Kernel) (list : List SensorT) (h : SensorHandle) (ns : ℤ) :
    (s.setDelay K list h ns).2.algo = s.algo := by
  by_cases hns : ns < 0
  · rw [setDelay, if_pos hns]
  · have hrates := setDelay_rates (s := s) K list h hns
    rw [← delaySwitch_algo (s := s) K (clampDelay list h (toUShort (ns / 1000000))) h]
    exact congrArg (fun u => u.algo) hrates.1

/-- A step, by what it does to the algorithms. -/
inductive AlgoStep (s t : HubSensors F) : Input → Prop
  | idle {i : Input} (hi : i.movesAlgo = false) (h : t.algo = s.algo) : AlgoStep s t i
  | enable {x : SensorHandle} {en : ℤ} (hx : x.isNonWake = true)
      (h : t.algo = (s.setFlag x (decide (en ≠ 0))).resetNineAxis.resetSixAxis.algo) :
      AlgoStep s t (.setEnable x en)
  | accel {b : SensorData} (hb : b.type = .DT_ACCEL) (h : t = (s.onAccel b).1) :
      AlgoStep s t (.record b)
  | gyro {b : SensorData} (hb : b.type = .DT_GYRO) (h : t = (s.onGyro b).1) :
      AlgoStep s t (.record b)
  | mag {b : SensorData} (hb : b.type = .DT_MAG ∨ b.type = .DT_GLANCE)
      (h : t = s.storeMag b) : AlgoStep s t (.record b)

theorem next_algo (H : Stml0xxHeader) (K : Kernel) (list : List SensorT) (i : Input) :
    AlgoStep s (s.next H K list i) i := by
  cases i with
  | setEnable x en =>
    have h := setEnable_algo (s := s) H K x en
    cases hx : x.isNonWake with
    | true =>
      rw [if_pos hx] at h
      exact .enable hx h
    | false =>
      rw [hx, if_neg (by decide)] at h
      exact .idle hx h
  | setDelay x ns => exact .idle rfl (setDelay_algo K list x ns)
  | readEnd type => exact .idle rfl (algo_of_signal (s.pendingDump_books H K type).signal)
  | record b =>
    rw [next, feed]
    cases hs : b.type.isSample with
    | false =>
      refine .idle ?_ (algo_of_signal (handleRecord_signal H K b hs))
      rw [Input.movesAlgo]
      generalize b.type = type at hs
      cases type <;> first | rfl | cases hs
    | true =>
      rw [handleRecord]
      cases ht : b.type with
      | DT_ACCEL => exact .accel ht rfl
      | DT_GYRO => exact .gyro ht rfl
      | DT_MAG => exact .mag (Or.inl ht) rfl
      | DT_GLANCE => exact .mag (Or.inr ht) rfl
      | DT_STEP_COUNTER => exact .idle (by rw [Input.movesAlgo, ht]; rfl) rfl
      | _ =>
        rw [ht] at hs
        cases hs

end HubSensors
end Cedric.Hub
