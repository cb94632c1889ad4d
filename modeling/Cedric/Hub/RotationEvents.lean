import Cedric.Hub.FusionNorms

/-!
# The quaternions of rotation events

A rotation event is stored for its record whatever the fusion step did. What is
stored is close to unit norm whenever the step was not one of those that stop
early; the 9-axis step stops exactly while the geomagnetic one has never got
through.
-/

namespace Cedric.Hub

open Runs

namespace HubSensors

section Events
variable {F : Type} [FloatOps F] (s : HubSensors F) (b : SensorData)

def gameFusion : GameRotationVector.State F × QuatData F × Bool :=
  GameRotationVector.fuse s.mGameRV s.mFusionData.accel (b.cart 0 CONVERT_G)
    s.mFusionData.gameRotation false

def geomagFusion : GeoMagRotationVector.State F × QuatData F × Bool :=
  GeoMagRotationVector.fuse s.mGeomagRV (b.cart 0 CONVERT_A) s.mFusionData.mag
    s.mFusionData.geoMagRotation false

def rotationFusion : GyroIntegration.State F × QuatData F :=
  RotationVector.fuse s.mRotationVect (b.cart 0 CONVERT_G) s.mFusionData.geoMagRotation
    s.mFusionData.rotationVector (!s.mGeomagRVReady)

variable {s b}

omit [FloatOps F] in
theorem mem_emit {flag : Bool} {e e' : Event F} : e ∈ emit flag e' ↔ flag = true ∧ e = e' := by
  cases flag <;> simp [emit]

theorem onAccel_geomag (e : Event F) (he : e.type = .GEOMAGNETIC_ROTATION_VECTOR) :
    e ∈ (s.onAccel b).2 ↔ s.enabled .GEOMAG_RV = true ∧
      e = (s.geomagFusion b).2.1.event .ID_GEOMAG_RV .GEOMAGNETIC_ROTATION_VECTOR := by
  have haccel (v : CartData F) : e ≠ v.event .ID_A .ACCELEROMETER SENSOR_STATUS_ACCURACY_HIGH := by
    intro heq
    rw [heq] at he
    cases he
  simp only [onAccel]
  split_ifs with hrun
  · rw [List.mem_append, mem_emit, mem_emit]
    exact or_iff_right fun h => haccel _ h.2
  · rw [mem_emit]
    refine iff_of_false (fun h => haccel _ h.2) fun h => hrun ?_
    exact Bool.or_eq_true_iff.mpr (Or.inl h.1)

theorem gyroGame_game_events (e : Event F) (he : e.type = .GAME_ROTATION_VECTOR) :
    e ∈ s.gyroGame.2 ↔ s.enabled .GAME_RV = true ∧
      e = s.fuseGame.mFusionData.gameRotation.event .ID_GAME_RV .GAME_ROTATION_VECTOR := by
  have hvec (v : CartData F) (x : SensorHandle) (type : SensorType) (status : BitVec 8)
      (ht : type ≠ .GAME_ROTATION_VECTOR) : e ≠ v.event x type status := by
    intro heq
    rw [heq] at he
    exact ht he
  simp only [gyroGame]
  split_ifs with hrun hlag
  · rw [List.mem_append, List.mem_append, mem_emit, mem_emit, mem_emit]
    have hla := hvec s.fuseGame.fuseLAGravity.mFusionData.linearAccel .ID_LA .LINEAR_ACCELERATION
      SENSOR_STATUS_ACCURACY_HIGH (by decide)
    have hgravity := hvec s.fuseGame.fuseLAGravity.mFusionData.gravity .ID_GRAVITY .GRAVITY
      SENSOR_STATUS_ACCURACY_HIGH (by decide)
    rw [or_iff_left fun h => hgravity h.2, or_iff_left fun h => hla h.2]
    rfl
  · rw [mem_emit]
    rfl
  · refine iff_of_false List.not_mem_nil fun h => hrun ?_
    rw [h.1]
    rfl

theorem gyroGame_no_rotation (e : Event F) (he : e.type = .ROTATION_VECTOR) : e ∉ s.gyroGame.2 := by
  intro hmem
  simp only [gyroGame] at hmem
  split_ifs at hmem
  · simp only [List.mem_append, mem_emit] at hmem
    rcases hmem with (h | h) | h <;> (rw [h.2] at he; cases he)
  · rw [mem_emit] at hmem
    rw [hmem.2] at he
    cases he
  · exact List.not_mem_nil hmem

theorem gyroRotation_events (e : Event F) :
    e ∈ s.gyroRotation.2 ↔ s.enabled .ROTATION_VECT = true ∧
      e = s.fuseRotation.mFusionData.rotationVector.event .ID_RV .ROTATION_VECTOR := by
  simp only [gyroRotation]
  split_ifs with hrun
  · rw [List.mem_singleton]
    exact (and_iff_right hrun).symm
  · exact iff_of_false List.not_mem_nil fun h => hrun h.1

theorem gyro_not_stored (e : Event F) (he : e.type ≠ .GYROSCOPE) :
    e ∉ emit ((s.storeGyro b).enabled .GYRO)
      ((s.storeGyro b).mFusionData.gyro.event .ID_G .GYROSCOPE SENSOR_STATUS_ACCURACY_HIGH) := by
  intro h
  rw [(mem_emit.mp h).2] at he
  exact he rfl

theorem onGyro_game_events (e : Event F) (he : e.type = .GAME_ROTATION_VECTOR) :
    e ∈ (s.onGyro b).2 ↔ s.enabled .GAME_RV = true ∧
      e = (s.gameFusion b).2.1.event .ID_GAME_RV .GAME_ROTATION_VECTOR := by
  have hgyro := gyro_not_stored (s := s) (b := b) e (by rw [he]; decide)
  have hrot : e ∉ (s.storeGyro b).gyroGame.1.gyroRotation.2 := by
    intro h
    rw [((gyroRotation_events e).mp h).2] at he
    cases he
  simp only [onGyro, List.mem_append]
  rw [or_iff_left hrot, or_iff_right hgyro, gyroGame_game_events e he]
  rfl

theorem onGyro_rotation_events (e : Event F) (he : e.type = .ROTATION_VECTOR) :
    e ∈ (s.onGyro b).2 ↔ s.enabled .ROTATION_VECT = true ∧
      e = (s.rotationFusion b).2.event .ID_RV .ROTATION_VECTOR := by
  have hgyro := gyro_not_stored (s := s) (b := b) e (by rw [he]; decide)
  obtain ⟨hgis, hgeo, hvec, hsample, hready, henabled⟩ := gyroGame_nine (s := s.storeGyro b)
  have hfuse : ((s.storeGyro b).gyroGame.1.fuseRotation).mFusionData.rotationVector =
      (s.rotationFusion b).2 := by
    simp only [fuseRotation, RotationVector.processFusion, hgis, hgeo, hvec, hsample, hready]
    rfl
  simp only [onGyro, List.mem_append]
  rw [or_iff_right fun h => h.elim hgyro (gyroGame_no_rotation e he), gyroRotation_events, henabled,
    hfuse]
  rfl

end Events

section Exact
variable {F : Type} [RootField F] {s : HubSensors F}

/-- A rotation event stored for the record carries the output of a step that got through,
and its squared norm is within the tolerance of 1. -/
structure SoundEvent (s : HubSensors F) (b : SensorData) (e : Event F) : Prop where
  game : e.type = .GAME_ROTATION_VECTOR →
    e = (s.gameFusion b).2.1.event .ID_GAME_RV .GAME_ROTATION_VECTOR ∧
      (s.gameFusion b).2.2 = true ∧ (s.gameFusion b).1.gis.initialized = true ∧
      (s.gameFusion b).2.1.NearUnit
  geomag : e.type = .GEOMAGNETIC_ROTATION_VECTOR →
    e = (s.geomagFusion b).2.1.event .ID_GEOMAG_RV .GEOMAGNETIC_ROTATION_VECTOR ∧
      s.mGeomagRV.Computes (b.cart 0 CONVERT_A) s.mFusionData.mag ∧
      (s.geomagFusion b).2.1.NearUnit
  rotation : e.type = .ROTATION_VECTOR →
    e = (s.rotationFusion b).2.event .ID_RV .ROTATION_VECTOR ∧
      (s.rotationFusion b).1.initialized = true ∧ (s.rotationFusion b).2.NearUnit

def SoundEvents (H : Stml0xxHeader) (K : Kernel) (s : HubSensors F) : Input → Prop
  | .record b => ∀ e ∈ (s.handleRecord H K b).2, SoundEvent s b e
  | _ => True

/-- The samples of the record do not stop a step whose event it stores; for the 9-axis step
the geomagnetic quaternion was computed before. -/
def Fusible (p : HubSensors F × Prop) : Input → Prop
  | .record b =>
    (b.type = .DT_ACCEL → p.1.enabled .GEOMAG_RV = true →
      p.1.mGeomagRV.Computes (b.cart 0 CONVERT_A) p.1.mFusionData.mag) ∧
    (b.type = .DT_GYRO → p.1.enabled .GAME_RV = true →
      p.1.mGameRV.Aligns p.1.mFusionData.accel.vec) ∧
    (b.type = .DT_GYRO → p.1.enabled .ROTATION_VECT = true → p.2)
  | _ => True

theorem soundEvents_accel {b : SensorData} (hb : b.type = .DT_ACCEL) (H : Stml0xxHeader)
    (K : Kernel) (computed : Prop) :
    SoundEvents H K s (.record b) ↔ Fusible (s, computed) (.record b) := by
  have hrec : s.handleRecord H K b = s.onAccel b := by simp only [handleRecord, hb]
  simp only [SoundEvents, Fusible, hrec, hb, reduceCtorEq, false_implies, and_true, forall_const]
  constructor
  · intro h hon
    have hmem := (onAccel_geomag (s := s) (b := b) _ rfl).mpr ⟨hon, rfl⟩
    exact ((h _ hmem).geomag rfl).2.1
  · intro h e he
    have htypes := onAccel_typed b e he
    refine ⟨fun ht => ?_, fun ht => ?_, fun ht => ?_⟩
    · rw [ht] at htypes
      exact absurd htypes (by decide)
    · obtain ⟨hon, heq⟩ := (onAccel_geomag e ht).mp he
      exact ⟨heq, h hon, Quaternion.nearUnit_of_normSq _
        (GeoMagRotationVector.fuse_computed (h hon) _)⟩
    · rw [ht] at htypes
      exact absurd htypes (by decide)

theorem soundEvents_gyro {b : SensorData} (hb : b.type = .DT_GYRO) (H : Stml0xxHeader)
    (K : Kernel) {computed : Prop} (hinv : s.FusionInv computed) :
    SoundEvents H K s (.record b) ↔ Fusible (s, computed) (.record b) := by
  have hrec : s.handleRecord H K b = s.onGyro b := by simp only [handleRecord, hb]
  obtain ⟨-, hgame⟩ := GameRotationVector.fuse_good hinv.game s.mFusionData.accel
    (b.cart 0 CONVERT_G) s.mFusionData.gameRotation false
  have hready := GameRotationVector.fuse_ready_iff s.mGameRV s.mFusionData.accel
    (b.cart 0 CONVERT_G) s.mFusionData.gameRotation false
  obtain ⟨-, hstart, hnear⟩ := RotationVector.fuse_good hinv.rotation hinv.geomag
    (b.cart 0 CONVERT_G) s.mFusionData.rotationVector (!s.mGeomagRVReady)
  rw [hinv.unit_iff] at hstart
  simp only [SoundEvents, Fusible, hrec, hb, reduceCtorEq, false_implies, true_and, forall_const]
  constructor
  · intro h
    refine ⟨fun hon => ?_, fun hon => ?_⟩
    · have hmem := (onGyro_game_events (s := s) (b := b) _ rfl).mpr ⟨hon, rfl⟩
      exact hready.mp ((h _ hmem).game rfl).2.1
    · have hmem := (onGyro_rotation_events (s := s) (b := b) _ rfl).mpr ⟨hon, rfl⟩
      rcases hstart.mp ((h _ hmem).rotation rfl).2.1 with hold | hcomputed
      · exact hinv.started hold.2
      · exact hcomputed
  · intro h e he
    have htypes := onGyro_typed b e he
    refine ⟨fun ht => ?_, fun ht => ?_, fun ht => ?_⟩
    · obtain ⟨hon, heq⟩ := (onGyro_game_events e ht).mp he
      exact ⟨heq, hgame (h.1 hon)⟩
    · rw [ht] at htypes
      exact absurd htypes (by decide)
    · obtain ⟨hon, heq⟩ := (onGyro_rotation_events e ht).mp he
      have hinit := hstart.mpr (Or.inr (h.2 hon))
      exact ⟨heq, hinit, hnear hinit⟩

theorem soundEvents_iff (H : Stml0xxHeader) (K : Kernel) {computed : Prop}
    (hinv : s.FusionInv computed) (i : Input) :
    SoundEvents H K s i ↔ Fusible (s, computed) i := by
  cases i with
  | record b =>
    by_cases ha : b.type = .DT_ACCEL
    · exact soundEvents_accel ha H K computed
    by_cases hg : b.type = .DT_GYRO
    · exact soundEvents_gyro hg H K hinv
    refine iff_of_true (fun e he => ?_)
      ⟨fun h => absurd h ha, fun h => absurd h hg, fun h => absurd h hg⟩
    have hout := eventTypes_not_rotation ha hg e.type (handleRecord_typed H K b e he)
    refine ⟨fun ht => ?_, fun ht => ?_, fun ht => ?_⟩
    all_goals
      rw [ht] at hout
      exact absurd (by decide) hout
  | _ => exact Iff.rfl

end Exact
end HubSensors

/-- Every rotation event of a run is the near-unit output of a step that got through
exactly if no record that stores one meets samples that stop the step. -/
theorem rotation_events_iff {F : Type} [RootField F] (H : Stml0xxHeader) (K : Kernel)
    (list : List SensorT) (flags16 : Option (BitVec 16)) (flags24 : Option (BitVec 32))
    (is : List Input) :
    Along (fun s i => s.next H K list i) (HubSensors.SoundEvents H K)
        (HubSensors.start flags16 flags24 : HubSensors F) is ↔
      Along (fun p i => (p.1.next H K list i, p.1.computedAfter p.2 i)) HubSensors.Fusible
        ((HubSensors.start flags16 flags24 : HubSensors F), False) is := by
  rw [← along_ghost (fun s computed i => s.computedAfter computed i) _ False]
  exact along_congr (fun p => p.1.FusionInv p.2) (fun p i h => HubSensors.soundEvents_iff H K h i)
    (fun p i h _ => h.step (p.1.next_nine H K list i) (p.1.next_game H K list i))
    (HubSensors.fusionInv_start _ _) is

/-- The first gyro record after GAME_RV was enabled stores the zero quaternion. -/
theorem game_event_before_fusion :
    ¬ Along (fun s i => s.next .numbered (fun _ _ => 0) (sSensorList true) i)
      (HubSensors.SoundEvents .numbered (fun _ _ => 0)) (HubSensors.start none none : HubSensors ℝ)
      [.setEnable .ID_GAME_RV 1, .record (.blank .DT_GYRO)] := by
  intro h
  have hinv := (HubSensors.fusionInv_start (F := ℝ) none none).step (i := .setEnable .ID_GAME_RV 1)
    (HubSensors.next_nine .numbered (fun _ _ => 0) (sSensorList true) _)
    (HubSensors.next_game .numbered (fun _ _ => 0) (sSensorList true) _)
  have haligns := ((HubSensors.soundEvents_iff .numbered (fun _ _ => 0) hinv _).mp h.2.1).2.1 rfl rfl
  exact (GameRotationVector.State.aligns_iff rfl _).mp haligns GameRotationVector.freeFall_zero

end Cedric.Hub
