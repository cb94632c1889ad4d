import Cedric.Hub.State

/-!
# Enabling sensors and programming rates

`setEnable` switches twice on the handle. A handle of the first switch updates
the fusion table or a bit of `mEnabled`, reprograms the three shared sensors and
resets idle fusion algorithms; a handle of the second updates a bit of
`mWakeEnabled`. The handle mask is written in every case.

The rate statics and the call log change often and matter to few results, so
`core` hides them: a function that touches nothing else preserves it.
-/

namespace Cedric.Hub

open BitFlags

def ACCEL_MAX_DELAY_US : ℕ := 200000
def ACCEL_MIN_DELAY_US : ℕ := 10000
def MAG_MAX_DELAY_US : ℕ := 200000
def MAG_MIN_DELAY_US : ℕ := 20000
def FUSION_MAX_DELAY_US : ℕ := 10000

namespace HubSensors

variable {F : Type} (s t : HubSensors F)

def core : HubSensors F :=
  { s with accelPrevDelay := 0, gyroPrevDelay := 0, magPrevDelay := 0, log := [] }

def delayFor (uses : FusionSensor → Bool) (maxUs minUs : ℕ) : ℕ :=
  let delay := FusionEnum.all.foldl (fun delay i =>
    let f := s.mFusionSensors i
    if uses f && f.enabled && decide (f.delay < delay) then
      if s.isRotationVectorRunning then min f.delay (FUSION_MAX_DELAY_US / 1000) else f.delay
    else delay) (maxUs / 1000)
  max delay (minUs / 1000)

/-- The common end of the three rate functions: the ioctl is issued only for a
delay other than the last one, which is then remembered whatever the answer. -/
def updateRate (K : Kernel) (delay prevDelay : ℕ) (call : ℕ → Sys)
    (store : ℕ → HubSensors F → HubSensors F) : ℤ × HubSensors F :=
  if delay ≠ prevDelay then
    let r := s.syscall K (call delay)
    (r.1, store delay r.2)
  else (0, s)

def updateAccelRate (K : Kernel) : ℤ × HubSensors F :=
  s.updateRate K (s.delayFor FusionSensor.usesAccel ACCEL_MAX_DELAY_US ACCEL_MIN_DELAY_US)
    s.accelPrevDelay .setAccDelay (fun d t => { t with accelPrevDelay := d })

def updateGyroRate (K : Kernel) : ℤ × HubSensors F :=
  s.updateRate K (s.delayFor FusionSensor.usesGyro GYRO_MAX_DELAY_US GYRO_MIN_DELAY_US)
    s.gyroPrevDelay .setGyroDelay (fun d t => { t with gyroPrevDelay := d })

def updateMagRate (K : Kernel) : ℤ × HubSensors F :=
  s.updateRate K (s.delayFor FusionSensor.usesMag MAG_MAX_DELAY_US MAG_MIN_DELAY_US)
    s.magPrevDelay .setMagDelay (fun d t => { t with magPrevDelay := d })

theorem core_updateRate (K : Kernel) (d p : ℕ) (call : ℕ → Sys)
    {store : ℕ → HubSensors F → HubSensors F} (hstore : ∀ d t, (store d t).core = t.core) :
    (s.updateRate K d p call store).2.core = s.core := by
  rw [updateRate]
  split_ifs
  · exact hstore _ _
  · rfl

@[simp] theorem core_updateAccelRate (K : Kernel) : (s.updateAccelRate K).2.core = s.core :=
  s.core_updateRate K _ _ _ fun _ _ => rfl

@[simp] theorem core_updateGyroRate (K : Kernel) : (s.updateGyroRate K).2.core = s.core :=
  s.core_updateRate K _ _ _ fun _ _ => rfl

@[simp] theorem core_updateMagRate (K : Kernel) : (s.updateMagRate K).2.core = s.core :=
  s.core_updateRate K _ _ _ fun _ _ => rfl

def setFusion (i : FusionEnum) (newState : Bool) : HubSensors F :=
  { s with mFusionSensors :=
      Function.update s.mFusionSensors i { s.mFusionSensors i with enabled := newState } }

def nonWakeSwitch (H : Stml0xxHeader) (newState : Bool) :
    SensorHandle → Option (HubSensors F × BitVec 32)
  | .ID_A => some (s.setFusion .ACCEL newState, s.mEnabled)
  | .ID_G => some (s.setFusion .GYRO newState, s.mEnabled)
  | .ID_UNCALIB_GYRO => some (s.setFusion .UNCALIB_GYRO newState,
      assign s.mEnabled (H.sensorBit .M_UNCALIB_GYRO) newState)
  | .ID_GAME_RV => some (s.setFusion .GAME_RV newState, s.mEnabled)
  | .ID_LA => some (s.setFusion .LINEAR_ACCEL newState, s.mEnabled)
  | .ID_GRAVITY => some (s.setFusion .GRAVITY newState, s.mEnabled)
  | .ID_L => some (s, assign s.mEnabled (H.sensorBit .M_ALS) newState)
  | .ID_DR => some (s, assign s.mEnabled (H.sensorBit .M_DISP_ROTATE) newState)
  | .ID_STEP_COUNTER => some (s, clearSet s.mEnabled (H.sensorBit .M_STEP_COUNTER) newState)
  | .ID_STEP_DETECTOR => some (s, clearSet s.mEnabled (H.sensorBit .M_STEP_DETECTOR) newState)
  | .ID_M => some (s.setFusion .MAG newState, s.mEnabled)
  | .ID_UM => some (s.setFusion .UNCALIB_MAG newState, s.mEnabled)
  | .ID_OR => some (s.setFusion .ORIENTATION newState, s.mEnabled)
  | .ID_GEOMAG_RV => some (s.setFusion .GEOMAG_RV newState, s.mEnabled)
  | .ID_RV => some (s.setFusion .ROTATION_VECT newState, s.mEnabled)
  | _ => none

structure Pending (F : Type) where
  err : ℤ
  newEnabled : BitVec 32
  hub : HubSensors F

def checkSensor (needed : HubSensors F → Bool) (bit : Fin 32)
    (update : HubSensors F → ℤ × HubSensors F) (c : Pending F) : Pending F :=
  if needed c.hub then
    let r := update c.hub
    ⟨r.1, c.newEnabled ||| flag bit, r.2⟩
  else { c with newEnabled := c.newEnabled &&& ~~~flag bit }

def checkSensors (H : Stml0xxHeader) (K : Kernel) (c : Pending F) : Pending F :=
  let c := checkSensor isAccelNeeded (H.sensorBit .M_ACCEL) (updateAccelRate · K) c
  let c := checkSensor isGyroNeeded (H.sensorBit .M_GYRO) (updateGyroRate · K) c
  checkSensor isMagNeeded (H.sensorBit .M_ECOMPASS) (updateMagRate · K) c

/-- The error of `SET_SENSORS` is dropped and the mask kept. -/
def applySensors (K : Kernel) (c : Pending F) : Pending F :=
  if c.newEnabled ≠ c.hub.mEnabled then
    let r := c.hub.syscall K (.setSensors c.newEnabled)
    ⟨0, c.newEnabled, { r.2 with mEnabled := c.newEnabled }⟩
  else c

theorem checkSensor_newEnabled (needed : HubSensors F → Bool) (bit : Fin 32)
    (update : HubSensors F → ℤ × HubSensors F) (c : Pending F) :
    (checkSensor needed bit update c).newEnabled =
      assign c.newEnabled bit (needed c.hub) := by
  unfold checkSensor assign
  split_ifs <;> rfl

section Reset
variable [FloatOps F]

def resetGeomag : HubSensors F :=
  let r := GeoMagRotationVector.processFusion s.mGeomagRV s.mFusionData true
  { s with mGeomagRV := r.1, mFusionData := r.2.1 }

def resetRotationVect : HubSensors F :=
  let r := RotationVector.processFusion s.mRotationVect s.mFusionData true
  { s with mRotationVect := r.1, mFusionData := r.2 }

def resetGameRV : HubSensors F :=
  let r := GameRotationVector.processFusion s.mGameRV s.mFusionData true
  { s with mGameRV := r.1, mFusionData := r.2.1 }

def resetNineAxis : HubSensors F :=
  if !s.enabled .GEOMAG_RV then s.resetGeomag
  else if !s.enabled .ROTATION_VECT then s.resetRotationVect
  else s

def resetSixAxis : HubSensors F :=
  if !s.enabled .GAME_RV && !s.enabled .LINEAR_ACCEL && !s.enabled .GRAVITY then s.resetGameRV
  else s

def nonWake (H : Stml0xxHeader) (K : Kernel) (newState : Bool) (handle : SensorHandle) :
    ℤ × HubSensors F :=
  match s.nonWakeSwitch H newState handle with
  | some found =>
    let c := applySensors K (checkSensors H K ⟨0, found.2, found.1⟩)
    (c.err, c.hub.resetNineAxis.resetSixAxis)
  | none => (0, s)

end Reset

def wakeSwitch (H : Stml0xxHeader) (newState : Bool) : SensorHandle → Option (BitVec 32)
  | .ID_P => some (assign s.mWakeEnabled (H.wakeBit .M_PROXIMITY) newState)
  | .ID_FU => some (assign s.mWakeEnabled (H.wakeBit .M_FLATUP) newState)
  | .ID_FD => some (assign s.mWakeEnabled (H.wakeBit .M_FLATDOWN) newState)
  | .ID_S => some (assign s.mWakeEnabled (H.wakeBit .M_STOWED) newState)
  | .ID_CA => some (assign s.mWakeEnabled (H.wakeBit .M_CAMERA_GESTURE) newState)
  | .ID_LF => some (assign s.mWakeEnabled (H.wakeBit .M_LIFT) newState)
  | .ID_CC => some (assign s.mWakeEnabled (H.wakeBit .M_CHOPCHOP) newState)
  | .ID_GLANCE_GESTURE =>
    if !s.isHandleEnabled .ID_MOTO_GLANCE_GESTURE then
      some (clearSet s.mWakeEnabled (H.wakeBit .M_GLANCE) newState)
    else none
  | .ID_MOTO_GLANCE_GESTURE =>
    if !s.isHandleEnabled .ID_GLANCE_GESTURE then
      some (clearSet s.mWakeEnabled (H.wakeBit .M_GLANCE) newState)
    else none
  | .ID_MOTION_DETECT => some (assign s.mWakeEnabled (H.wakeBit .M_MOTION_DETECT) newState)
  | .ID_STATIONARY_DETECT =>
    some (assign s.mWakeEnabled (H.wakeBit .M_STATIONARY_DETECT) newState)
  | _ => none

def wake (H : Stml0xxHeader) (K : Kernel) (newState : Bool) (handle : SensorHandle) (err : ℤ) :
    ℤ × HubSensors F :=
  match s.wakeSwitch H newState handle with
  | some newEnabled =>
    if newEnabled ≠ s.mWakeEnabled then
      let r := s.syscall K (.setWakeSensors newEnabled)
      (0, { r.2 with mWakeEnabled := newEnabled })
    else (err, s)
  | none => (err, s)

variable [FloatOps F]

def setEnable (H : Stml0xxHeader) (K : Kernel) (handle : SensorHandle) (en : ℤ) :
    ℤ × HubSensors F :=
  let newState := decide (en ≠ 0)
  let r := s.nonWake H K newState handle
  let r := r.2.wake H K newState handle r.1
  (r.1, r.2.recordHandle handle newState)

def enableAll (H : Stml0xxHeader) (K : Kernel) (handles : List SensorHandle) : HubSensors F :=
  handles.foldl (fun t h => (t.setEnable H K h 1).2) s

end HubSensors
end Cedric.Hub
