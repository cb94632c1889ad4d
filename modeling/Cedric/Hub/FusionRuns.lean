import Cedric.Hub.RecordFrames

/-!
# Two runs of the fusion algorithms

`SameFusion` relates two states that agree on everything the running rotation
sensors read. It is kept by every record, and related states report the same
rotation events, so it fixes the rotation outputs on any record stream.
-/

namespace Cedric.Hub

open Runs

variable {F : Type}

def rotationTypes : List SensorType :=
  [.GEOMAGNETIC_ROTATION_VECTOR, .ROTATION_VECTOR, .GAME_ROTATION_VECTOR, .LINEAR_ACCELERATION,
    .GRAVITY]

def Event.isRotation (e : Event F) : Bool := decide (e.type ∈ rotationTypes)

def rotationSensors : List FusionEnum :=
  [.GEOMAG_RV, .ROTATION_VECT, .GAME_RV, .LINEAR_ACCEL, .GRAVITY]

namespace HubSensors

def nineAxisRunning (s : HubSensors F) : Bool := s.enabled .GEOMAG_RV || s.enabled .ROTATION_VECT

def sixAxisRunning (s : HubSensors F) : Bool :=
  s.enabled .GAME_RV || s.enabled .LINEAR_ACCEL || s.enabled .GRAVITY

structure SameFusion (s t : HubSensors F) : Prop where
  enabled : ∀ i ∈ rotationSensors, t.enabled i = s.enabled i
  accel : t.mFusionData.accel = s.mFusionData.accel
  gyro : t.mFusionData.gyro = s.mFusionData.gyro
  mag : t.mFusionData.mag = s.mFusionData.mag
  nine : s.nineAxisRunning = true →
    t.mGeomagRV = s.mGeomagRV ∧ t.mFusionData.geoMagRotation = s.mFusionData.geoMagRotation
  rotation : s.enabled .ROTATION_VECT = true →
    t.mRotationVect = s.mRotationVect ∧ t.mGeomagRVReady = s.mGeomagRVReady ∧
      t.mFusionData.rotationVector = s.mFusionData.rotationVector
  six : s.sixAxisRunning = true →
    t.mGameRV = s.mGameRV ∧ t.mFusionData.gameRotation = s.mFusionData.gameRotation

variable {s t s' t' : HubSensors F}

theorem SameFusion.of_signal (h : SameFusion s t) (hs : s'.signal = s.signal)
    (ht : t'.signal = t.signal) : SameFusion s' t' := by
  have hsignal : SameFusion s'.signal t'.signal := by
    rw [hs, ht]
    exact ⟨h.enabled, h.accel, h.gyro, h.mag, h.nine, h.rotation, h.six⟩
  exact ⟨hsignal.enabled, hsignal.accel, hsignal.gyro, hsignal.mag, hsignal.nine,
    hsignal.rotation, hsignal.six⟩

theorem SameFusion.geomag (h : SameFusion s t) : t.enabled .GEOMAG_RV = s.enabled .GEOMAG_RV :=
  h.enabled .GEOMAG_RV (by decide)

theorem SameFusion.rv (h : SameFusion s t) :
    t.enabled .ROTATION_VECT = s.enabled .ROTATION_VECT :=
  h.enabled .ROTATION_VECT (by decide)

theorem SameFusion.game (h : SameFusion s t) : t.enabled .GAME_RV = s.enabled .GAME_RV :=
  h.enabled .GAME_RV (by decide)

theorem SameFusion.la (h : SameFusion s t) : t.enabled .LINEAR_ACCEL = s.enabled .LINEAR_ACCEL :=
  h.enabled .LINEAR_ACCEL (by decide)

theorem SameFusion.gravity (h : SameFusion s t) : t.enabled .GRAVITY = s.enabled .GRAVITY :=
  h.enabled .GRAVITY (by decide)

theorem SameFusion.nineAxisRunning (h : SameFusion s t) :
    t.nineAxisRunning = s.nineAxisRunning := by
  rw [HubSensors.nineAxisRunning, HubSensors.nineAxisRunning, h.geomag, h.rv]

theorem SameFusion.sixAxisRunning (h : SameFusion s t) :
    t.sixAxisRunning = s.sixAxisRunning := by
  rw [HubSensors.sixAxisRunning, HubSensors.sixAxisRunning, h.game, h.la, h.gravity]

theorem filter_typed {ts : List SensorType} {es : List (Event F)} (h : Typed ts es)
    (hts : ∀ type ∈ ts, type ∉ rotationTypes) : es.filter Event.isRotation = [] := by
  apply List.filter_eq_nil_iff.mpr
  intro e he hrot
  exact hts e.type (h e he) (of_decide_eq_true hrot)

theorem eventTypes_not_rotation {d : DataType} (ha : d ≠ .DT_ACCEL) (hg : d ≠ .DT_GYRO) :
    ∀ type ∈ d.eventTypes, type ∉ rotationTypes := by
  cases d <;> simp_all [DataType.eventTypes, rotationTypes]

section Step
variable [FloatOps F] (b : SensorData)

theorem SameFusion.storeAccel (h : SameFusion s t) :
    SameFusion (s.storeAccel b) (t.storeAccel b) :=
  ⟨h.enabled, rfl, h.gyro, h.mag, h.nine, h.rotation, h.six⟩

theorem SameFusion.storeGyro (h : SameFusion s t) : SameFusion (s.storeGyro b) (t.storeGyro b) :=
  ⟨h.enabled, h.accel, rfl, h.mag, h.nine, h.rotation, h.six⟩

theorem SameFusion.storeMag (h : SameFusion s t) : SameFusion (s.storeMag b) (t.storeMag b) :=
  ⟨h.enabled, h.accel, h.gyro, rfl, h.nine, h.rotation, h.six⟩

theorem SameFusion.fuseGeomag (h : SameFusion s t) (hrun : s.nineAxisRunning = true) :
    SameFusion s.fuseGeomag t.fuseGeomag := by
  obtain ⟨hstate, hrot⟩ := h.nine hrun
  have hfuse : GeoMagRotationVector.fuse t.mGeomagRV t.mFusionData.accel t.mFusionData.mag
      t.mFusionData.geoMagRotation false =
    GeoMagRotationVector.fuse s.mGeomagRV s.mFusionData.accel s.mFusionData.mag
      s.mFusionData.geoMagRotation false := by
    rw [hstate, hrot, h.accel, h.mag]
  refine ⟨h.enabled, h.accel, h.gyro, h.mag, fun _ => ?_, fun hrv => ?_, h.six⟩
  · exact ⟨congrArg (fun r => r.1) hfuse, congrArg (fun r => r.2.1) hfuse⟩
  · obtain ⟨hgis, -, hvec⟩ := h.rotation hrv
    exact ⟨hgis, congrArg (fun r => r.2.2) hfuse, hvec⟩

theorem SameFusion.fuseGame (h : SameFusion s t) (hrun : s.sixAxisRunning = true) :
    SameFusion s.fuseGame t.fuseGame := by
  obtain ⟨hstate, hrot⟩ := h.six hrun
  have hfuse : GameRotationVector.fuse t.mGameRV t.mFusionData.accel t.mFusionData.gyro
      t.mFusionData.gameRotation false =
    GameRotationVector.fuse s.mGameRV s.mFusionData.accel s.mFusionData.gyro
      s.mFusionData.gameRotation false := by
    rw [hstate, hrot, h.accel, h.gyro]
  refine ⟨h.enabled, h.accel, h.gyro, h.mag, h.nine, h.rotation, fun _ => ?_⟩
  exact ⟨congrArg (fun r => r.1) hfuse, congrArg (fun r => r.2.1) hfuse⟩

theorem SameFusion.fuseLAGravity (h : SameFusion s t) (hrun : s.sixAxisRunning = true) :
    SameFusion s.fuseLAGravity t.fuseLAGravity ∧
      t.fuseLAGravity.mFusionData.gravity = s.fuseLAGravity.mFusionData.gravity ∧
      t.fuseLAGravity.mFusionData.linearAccel = s.fuseLAGravity.mFusionData.linearAccel := by
  obtain ⟨-, hrot⟩ := h.six hrun
  have hfuse : LinearAccelGravity.fuse t.mFusionData.accel t.mFusionData.gameRotation =
      LinearAccelGravity.fuse s.mFusionData.accel s.mFusionData.gameRotation := by
    rw [hrot, h.accel]
  exact ⟨⟨h.enabled, h.accel, h.gyro, h.mag, h.nine, h.rotation, h.six⟩,
    congrArg (fun r => r.1) hfuse, congrArg (fun r => r.2) hfuse⟩

theorem SameFusion.fuseRotation (h : SameFusion s t) (hrun : s.enabled .ROTATION_VECT = true) :
    SameFusion s.fuseRotation t.fuseRotation ∧
      t.fuseRotation.mFusionData.rotationVector = s.fuseRotation.mFusionData.rotationVector := by
  obtain ⟨hgis, hready, hvec⟩ := h.rotation hrun
  obtain ⟨-, hgeomag⟩ := h.nine (by rw [HubSensors.nineAxisRunning, hrun, Bool.or_true])
  have hfuse : RotationVector.fuse t.mRotationVect t.mFusionData.gyro
      t.mFusionData.geoMagRotation t.mFusionData.rotationVector (!t.mGeomagRVReady) =
    RotationVector.fuse s.mRotationVect s.mFusionData.gyro
      s.mFusionData.geoMagRotation s.mFusionData.rotationVector (!s.mGeomagRVReady) := by
    rw [hgis, hready, hvec, hgeomag, h.gyro]
  have hout : t.fuseRotation.mFusionData.rotationVector =
      s.fuseRotation.mFusionData.rotationVector := congrArg (fun r => r.2) hfuse
  refine ⟨⟨h.enabled, h.accel, h.gyro, h.mag, h.nine, fun _ => ?_, h.six⟩, hout⟩
  exact ⟨congrArg (fun r => r.1) hfuse, hready, hout⟩

theorem SameFusion.onAccel (h : SameFusion s t) :
    SameFusion (s.onAccel b).1 (t.onAccel b).1 ∧
      (s.onAccel b).2.filter Event.isRotation = (t.onAccel b).2.filter Event.isRotation := by
  have hstore := h.storeAccel b
  have hnone (u : HubSensors F) (e : Event F) (he : e.type = .ACCELEROMETER) :
      (emit (u.enabled .ACCEL) e).filter Event.isRotation = [] :=
    filter_typed (typed_emit (he ▸ List.mem_cons_self : e.type ∈ [.ACCELEROMETER])) (by decide)
  have hrunning := hstore.nineAxisRunning
  simp only [HubSensors.onAccel]
  rw [HubSensors.nineAxisRunning, HubSensors.nineAxisRunning] at hrunning
  rw [hrunning]
  split_ifs with hrun
  · have hfused := hstore.fuseGeomag hrun
    refine ⟨hfused, ?_⟩
    rw [List.filter_append, List.filter_append, hnone _ _ rfl, hnone _ _ rfl, hfused.geomag,
      (hfused.nine hrun).2]
  · exact ⟨hstore, by rw [hnone _ _ rfl, hnone _ _ rfl]⟩

theorem SameFusion.gyroGame (h : SameFusion s t) :
    SameFusion s.gyroGame.1 t.gyroGame.1 ∧
      s.gyroGame.2.filter Event.isRotation = t.gyroGame.2.filter Event.isRotation := by
  have hrunning := h.sixAxisRunning
  rw [HubSensors.sixAxisRunning, HubSensors.sixAxisRunning] at hrunning
  simp only [HubSensors.gyroGame]
  rw [hrunning]
  split_ifs with hrun hlag hlag' hlag'
  · have hfused := h.fuseGame hrun
    obtain ⟨hla, hgravity, hlinear⟩ := hfused.fuseLAGravity hrun
    refine ⟨hla, ?_⟩
    rw [hfused.game, (hfused.six hrun).2, hla.la, hlinear, hla.gravity, hgravity]
  · have hfused := h.fuseGame hrun
    rw [hfused.la, hfused.gravity] at hlag'
    exact absurd hlag hlag'
  · have hfused := h.fuseGame hrun
    rw [hfused.la, hfused.gravity] at hlag'
    exact absurd hlag' hlag
  · have hfused := h.fuseGame hrun
    exact ⟨hfused, by rw [hfused.game, (hfused.six hrun).2]⟩
  · exact ⟨h, rfl⟩

theorem SameFusion.gyroRotation (h : SameFusion s t) :
    SameFusion s.gyroRotation.1 t.gyroRotation.1 ∧
      s.gyroRotation.2.filter Event.isRotation = t.gyroRotation.2.filter Event.isRotation := by
  rw [HubSensors.gyroRotation, HubSensors.gyroRotation, h.rv]
  split_ifs with hrun
  · obtain ⟨hfused, hout⟩ := h.fuseRotation hrun
    refine ⟨hfused, ?_⟩
    dsimp only
    rw [hout]
  · exact ⟨h, rfl⟩

theorem SameFusion.onGyro (h : SameFusion s t) :
    SameFusion (s.onGyro b).1 (t.onGyro b).1 ∧
      (s.onGyro b).2.filter Event.isRotation = (t.onGyro b).2.filter Event.isRotation := by
  have hstore := h.storeGyro b
  obtain ⟨hgame, hgameOut⟩ := hstore.gyroGame
  obtain ⟨hrot, hrotOut⟩ := hgame.gyroRotation
  have hnone (u : HubSensors F) (e : Event F) (he : e.type = .GYROSCOPE) :
      (emit (u.enabled .GYRO) e).filter Event.isRotation = [] :=
    filter_typed (typed_emit (he ▸ List.mem_cons_self : e.type ∈ [.GYROSCOPE])) (by decide)
  refine ⟨hrot, ?_⟩
  simp only [HubSensors.onGyro, List.filter_append, hgameOut, hrotOut]
  rw [hnone _ _ rfl, hnone _ _ rfl]

theorem SameFusion.handleRecord (h : SameFusion s t) (H : Stml0xxHeader) (K K' : Kernel) :
    SameFusion (s.handleRecord H K b).1 (t.handleRecord H K' b).1 ∧
      (s.handleRecord H K b).2.filter Event.isRotation =
        (t.handleRecord H K' b).2.filter Event.isRotation := by
  by_cases ha : b.type = .DT_ACCEL
  · have hs : s.handleRecord H K b = s.onAccel b := by simp only [HubSensors.handleRecord, ha]
    have ht : t.handleRecord H K' b = t.onAccel b := by simp only [HubSensors.handleRecord, ha]
    rw [hs, ht]
    exact h.onAccel b
  by_cases hg : b.type = .DT_GYRO
  · have hs : s.handleRecord H K b = s.onGyro b := by simp only [HubSensors.handleRecord, hg]
    have ht : t.handleRecord H K' b = t.onGyro b := by simp only [HubSensors.handleRecord, hg]
    rw [hs, ht]
    exact h.onGyro b
  have hout := eventTypes_not_rotation ha hg
  have hnone : (s.handleRecord H K b).2.filter Event.isRotation =
      (t.handleRecord H K' b).2.filter Event.isRotation := by
    rw [filter_typed (handleRecord_typed H K b) hout,
      filter_typed (handleRecord_typed H K' b) hout]
  refine ⟨?_, hnone⟩
  cases hs : b.type.isSample with
  | false => exact h.of_signal (handleRecord_signal H K b hs) (handleRecord_signal H K' b hs)
  | true =>
    rw [HubSensors.handleRecord, HubSensors.handleRecord]
    cases ht : b.type with
    | DT_ACCEL => exact absurd ht ha
    | DT_GYRO => exact absurd ht hg
    | DT_GLANCE => exact h.storeMag b
    | DT_MAG => exact h.storeMag b
    | DT_STEP_COUNTER => exact ⟨h.enabled, h.accel, h.gyro, h.mag, h.nine, h.rotation, h.six⟩
    | _ =>
      rw [ht] at hs
      cases hs

end Step

theorem SameFusion.outputs [FloatOps F] (h : SameFusion s t) (H : Stml0xxHeader) (K K' : Kernel)
    (records : List SensorData) :
    (transduce (fun u b => u.handleRecord H K b) s records).2.filter Event.isRotation =
      (transduce (fun u b => u.handleRecord H K' b) t records).2.filter Event.isRotation :=
  transduce_related (R := SameFusion) (fun _ _ b hr => hr.handleRecord b H K K') h records

end HubSensors
end Cedric.Hub
