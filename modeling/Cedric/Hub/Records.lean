import Cedric.Hub.SetEnable
import Cedric.Lib.Runs

/-!
# Decoding a hub record

`handleRecord` is the switch of `HubSensors::readEvents`: the state after one
record and the events stored for it, in order. `logAlsEvent`, which only
writes to the system log, is left out, and so are the bytes of the calibration
files.
-/

namespace Cedric.Hub

open Runs

structure SensorData where
  timestamp : ℤ
  type : DataType
  status : BitVec 8
  data : ℕ → BitVec 8

def SensorData.blank (type : DataType) : SensorData := ⟨0, type, 0, fun _ => 0⟩

inductive SensorType
  | META_DATA | ACCELEROMETER | GEOMAGNETIC_ROTATION_VECTOR | GYROSCOPE | GAME_ROTATION_VECTOR
  | LINEAR_ACCELERATION | GRAVITY | ROTATION_VECTOR | GYROSCOPE_UNCALIBRATED | LIGHT
  | DISPLAY_ROTATE | PROXIMITY | FLAT_UP | FLAT_DOWN | STOWED | CAMERA_ACTIVATE | LIFT_GESTURE
  | CHOPCHOP_GESTURE | STEP_COUNTER | STEP_DETECTOR | MOTO_GLANCE_GESTURE | GLANCE_GESTURE
  | MAGNETIC_FIELD | MAGNETIC_FIELD_UNCALIBRATED | ORIENTATION | MOTION_DETECT
  | STATIONARY_DETECT
  deriving DecidableEq, Repr

inductive EventVersion
  | SENSORS_EVENT_T_SIZE | META_DATA_VERSION
  deriving DecidableEq, Repr

inductive Payload (F : Type)
  | vector (x y z : F) (status : BitVec 8)
  | data (xs : List F)
  | uncalibrated (x y z xBias yBias zBias : F)
  | light (lux : F)
  | distance (d : F)
  | stepCounter (n : BitVec 64)
  | flushComplete (sensor : ℤ)

structure Event (F : Type) where
  version : EventVersion
  sensor : SensorHandle
  type : SensorType
  payload : Payload F
  timestamp : ℤ

def STM16TOH (d : ℕ → BitVec 8) (p : ℕ) : ℤ := (d p ++ d (p + 1)).toInt

def STM32TOH (d : ℕ → BitVec 8) (p : ℕ) : ℤ :=
  (d p ++ d (p + 1) ++ d (p + 2) ++ d (p + 3)).toInt

def SENSOR_STATUS_ACCURACY_HIGH : BitVec 8 := 3
def DISP_FLAT : BitVec 8 := 0x10

variable {F : Type} [FloatOps F]

def ofInt (n : ℤ) : F := ofRat n

def CONVERT_A : F := GRAVITY_EARTH / ofRat 2048
def CONVERT_G : F := ofRat 2000 / ofRat 32767 * ofRat (3.14159265358979323846 / 180)
def CONVERT_M : F := ofRat 1 / ofRat 16
def CONVERT_O : F := ofRat 1 / ofRat 64

def SensorData.cart (b : SensorData) (p : ℕ) (scale : F) : CartData F :=
  ⟨ofInt (STM16TOH b.data p) * scale, ofInt (STM16TOH b.data (p + 2)) * scale,
    ofInt (STM16TOH b.data (p + 4)) * scale, b.timestamp⟩

def CartData.event (v : CartData F) (sensor : SensorHandle) (type : SensorType)
    (status : BitVec 8) : Event F :=
  ⟨.SENSORS_EVENT_T_SIZE, sensor, type, .vector v.x v.y v.z status, v.timestamp⟩

def QuatData.event (q : QuatData F) (sensor : SensorHandle) (type : SensorType) : Event F :=
  ⟨.SENSORS_EVENT_T_SIZE, sensor, type, .data [q.a, q.b, q.c, q.d, q.accuracy], q.timestamp⟩

omit [FloatOps F] in
@[simp] theorem CartData.event_type (v : CartData F) (sensor : SensorHandle) (type : SensorType)
    (status : BitVec 8) : (v.event sensor type status).type = type := rfl

omit [FloatOps F] in
@[simp] theorem QuatData.event_type (q : QuatData F) (sensor : SensorHandle) (type : SensorType) :
    (q.event sensor type).type = type := rfl

namespace SensorData

variable (b : SensorData)

def event (sensor : SensorHandle) (type : SensorType) (payload : Payload F) : Event F :=
  ⟨.SENSORS_EVENT_T_SIZE, sensor, type, payload, b.timestamp⟩

def flushEvent : Event F :=
  ⟨.META_DATA_VERSION, .MIN_SENSOR_ID, .META_DATA, .flushComplete (STM32TOH b.data 0), 0⟩

def uncalibrated (sensor : SensorHandle) (type : SensorType) (scale : F) : Event F :=
  let v := b.cart 0 scale
  let bias := b.cart 6 scale
  b.event sensor type (.uncalibrated v.x v.y v.z bias.x bias.y bias.z)

def lightEvent : Event F :=
  b.event .ID_L .LIGHT (.light (ofInt (b.data 0 ++ b.data 1).toNat))

def dispRotateEvent : Event F :=
  b.event .ID_DR .DISPLAY_ROTATE
    (.data [if b.data 0 = DISP_FLAT then ofRat (-1) else ofInt (b.data 0).toNat])

def proxEvent : Event F :=
  b.event .ID_P .PROXIMITY (.distance
    (if b.data 0 = 0 then ofRat 100 else if b.data 0 = 1 then ofRat 3 else ofRat 1))

def flatEvent (sensor : SensorHandle) (type : SensorType) (detected : BitVec 8) : Event F :=
  b.event sensor type (.data [if b.data 0 = detected then ofRat 1 else ofRat 0])

def byteEvent (sensor : SensorHandle) (type : SensorType) : Event F :=
  b.event sensor type (.data [ofInt (b.data 0).toNat])

def cameraEvent (H : Stml0xxHeader) : Event F :=
  b.event .ID_CA .CAMERA_ACTIVATE
    (.data [ofInt H.STML0XX_CAMERA_DATA, ofInt (STM16TOH b.data 0)])

def liftEvent : Event F :=
  b.event .ID_LF .LIFT_GESTURE
    (.data [ofInt (STM32TOH b.data 0), ofInt (STM32TOH b.data 4), ofInt (STM32TOH b.data 8)])

def chopchopEvent : Event F :=
  b.event .ID_CC .CHOPCHOP_GESTURE (.data [ofInt (STM16TOH b.data 0)])

def orientEvent : Event F :=
  (b.cart 0 CONVERT_O).event .ID_OR .ORIENTATION b.status

def oneShotEvent (sensor : SensorHandle) (type : SensorType) : Event F :=
  b.event sensor type (.data [ofRat 1])

def motoGlanceEvent : Event F :=
  b.event .ID_MOTO_GLANCE_GESTURE .MOTO_GLANCE_GESTURE
    (.data [ofInt (STM16TOH b.data 0), ofRat 0, ofRat 0])

def glanceEvent : Event F :=
  b.event .ID_GLANCE_GESTURE .GLANCE_GESTURE
    (.data [ofRat 1, ofInt (STM16TOH b.data 0), ofRat 0])

def stepcount : BitVec 32 := b.data 0 ++ b.data 1 ++ b.data 2 ++ b.data 3

end SensorData

namespace HubSensors

variable (H : Stml0xxHeader) (K : Kernel) (b : SensorData) (s : HubSensors F)

def emit (flag : Bool) (e : Event F) : List (Event F) := if flag then [e] else []

omit [FloatOps F] in
@[simp] theorem emit_length (flag : Bool) (e : Event F) :
    (emit flag e).length = flag.toNat := by
  cases flag <;> rfl

def fuseGeomag : HubSensors F :=
  let r := GeoMagRotationVector.processFusion s.mGeomagRV s.mFusionData false
  { s with mGeomagRV := r.1, mFusionData := r.2.1, mGeomagRVReady := r.2.2 }

def storeAccel : HubSensors F :=
  { s with mFusionData := { s.mFusionData with accel := b.cart 0 CONVERT_A } }

def storeGyro : HubSensors F :=
  { s with mFusionData := { s.mFusionData with gyro := b.cart 0 CONVERT_G } }

def storeMag : HubSensors F :=
  { s with mFusionData := { s.mFusionData with mag := b.cart 0 CONVERT_M } }

def onAccel : HubSensors F × List (Event F) :=
  let s := s.storeAccel b
  let accel := emit (s.enabled .ACCEL)
    (s.mFusionData.accel.event .ID_A .ACCELEROMETER SENSOR_STATUS_ACCURACY_HIGH)
  if s.enabled .GEOMAG_RV || s.enabled .ROTATION_VECT then
    let s := s.fuseGeomag
    (s, accel ++ emit (s.enabled .GEOMAG_RV)
      (s.mFusionData.geoMagRotation.event .ID_GEOMAG_RV .GEOMAGNETIC_ROTATION_VECTOR))
  else (s, accel)

def fuseGame : HubSensors F :=
  let r := GameRotationVector.processFusion s.mGameRV s.mFusionData false
  { s with mGameRV := r.1, mFusionData := r.2.1 }

def fuseLAGravity : HubSensors F :=
  { s with mFusionData := LinearAccelGravity.processFusion s.mFusionData }

def fuseRotation : HubSensors F :=
  let r := RotationVector.processFusion s.mRotationVect s.mFusionData (!s.mGeomagRVReady)
  { s with mRotationVect := r.1, mFusionData := r.2 }

def gyroGame : HubSensors F × List (Event F) :=
  if s.enabled .GAME_RV || s.enabled .LINEAR_ACCEL || s.enabled .GRAVITY then
    let s := s.fuseGame
    let game := emit (s.enabled .GAME_RV)
      (s.mFusionData.gameRotation.event .ID_GAME_RV .GAME_ROTATION_VECTOR)
    if s.enabled .LINEAR_ACCEL || s.enabled .GRAVITY then
      let s := s.fuseLAGravity
      (s, game ++ emit (s.enabled .LINEAR_ACCEL)
          (s.mFusionData.linearAccel.event .ID_LA .LINEAR_ACCELERATION SENSOR_STATUS_ACCURACY_HIGH)
        ++ emit (s.enabled .GRAVITY)
          (s.mFusionData.gravity.event .ID_GRAVITY .GRAVITY SENSOR_STATUS_ACCURACY_HIGH))
    else (s, game)
  else (s, [])

def gyroRotation : HubSensors F × List (Event F) :=
  if s.enabled .ROTATION_VECT then
    let s := s.fuseRotation
    (s, [s.mFusionData.rotationVector.event .ID_RV .ROTATION_VECTOR])
  else (s, [])

def onGyro : HubSensors F × List (Event F) :=
  let s := s.storeGyro b
  let gyro := emit (s.enabled .GYRO)
    (s.mFusionData.gyro.event .ID_G .GYROSCOPE SENSOR_STATUS_ACCURACY_HIGH)
  let game := s.gyroGame
  let rotation := game.1.gyroRotation
  (rotation.1, gyro ++ game.2 ++ rotation.2)

def onMag : HubSensors F × List (Event F) :=
  let s := s.storeMag b
  (s, emit (s.enabled .MAG) (s.mFusionData.mag.event .ID_M .MAGNETIC_FIELD b.status))

/-- The `DT_GLANCE` case ends without a `break`: control goes on into `DT_MAG`. -/
def onGlance : HubSensors F × List (Event F) :=
  let mag := s.onMag b
  (mag.1, emit (s.isHandleEnabled .ID_MOTO_GLANCE_GESTURE) b.motoGlanceEvent
    ++ emit (s.isHandleEnabled .ID_GLANCE_GESTURE) b.glanceEvent ++ mag.2)

omit [FloatOps F] in
/-- `capture_dump`: the counters are written and cleared if the file opens. -/
def captureDump (now : ℤ) (id : DataType) : HubSensors F :=
  let r := s.syscall K .gzopen
  if r.1 = 0 then r.2
  else
    let counts := (List.range (H.RESET_REASON_MAX_CODE + 1)).map r.2.mErrorCnt
    { (r.2.syscall K (.dump now id counts)).2 with mErrorCnt := fun _ => 0 }

omit [FloatOps F] in
def bug2go (now : ℤ) (id : DataType) : HubSensors F :=
  let ptm := s.syscall K (.localtime now)
  let t := if ptm.1 ≠ 0 then ptm.2.captureDump H K now id else ptm.2
  { t with sentBug2goSec := now }

omit [FloatOps F] in
def onReset : HubSensors F :=
  let now := s.syscall K .time
  let s := now.2
  let reason := (b.data 0).toNat
  let s :=
    if reason ≤ H.RESET_REASON_MAX_CODE then
      { s with mErrorCnt := Function.update s.mErrorCnt reason (s.mErrorCnt reason + 1) }
    else s
  if s.sentBug2goSec = 0 ∨ now.1 - s.sentBug2goSec > 24 * 60 * 60 then
    s.bug2go H K now.1 b.type
  else { s with mPendingBug2go := true }

omit [FloatOps F] in
def onCal (get save : Sys) : HubSensors F :=
  let r := s.syscall K get
  if r.1 < 0 then r.2 else (r.2.syscall K save).2

omit [FloatOps F] in
def onStepCounter : HubSensors F × List (Event F) :=
  let stepOffset :=
    if b.stepcount + s.stepOffset < s.lastStepcount then s.lastStepcount else s.stepOffset
  let lastStepcount := b.stepcount + stepOffset
  ({ s with stepOffset := stepOffset, lastStepcount := lastStepcount },
    [b.event .ID_STEP_COUNTER .STEP_COUNTER (.stepCounter (lastStepcount.setWidth 64))])

def onOneShot (handle : SensorHandle) (type : SensorType) : HubSensors F × List (Event F) :=
  ((s.setEnable H K handle 0).2, [b.oneShotEvent handle type])

def handleRecord : HubSensors F × List (Event F) :=
  match b.type with
  | .DT_FLUSH => (s, [b.flushEvent])
  | .DT_ACCEL => s.onAccel b
  | .DT_GYRO => s.onGyro b
  | .DT_UNCALIB_GYRO => (s, [b.uncalibrated .ID_UNCALIB_GYRO .GYROSCOPE_UNCALIBRATED CONVERT_G])
  | .DT_ALS => (s, [b.lightEvent])
  | .DT_DISP_ROTATE => (s, [b.dispRotateEvent])
  | .DT_PROX => (s, [b.proxEvent])
  | .DT_FLAT_UP => (s, [b.flatEvent .ID_FU .FLAT_UP 0x01])
  | .DT_FLAT_DOWN => (s, [b.flatEvent .ID_FD .FLAT_DOWN 0x02])
  | .DT_STOWED => (s, [b.byteEvent .ID_S .STOWED])
  | .DT_CAMERA_ACT => (s, [b.cameraEvent H])
  | .DT_GYRO_CAL => (s.onCal K .getGyroCal .saveGyroCal, [])
  | .DT_ACCEL_CAL => (s.onCal K .getAccelCal .saveAccelCal, [])
  | .DT_RESET => (s.onReset H K b, [])
  | .DT_LIFT => (s, [b.liftEvent])
  | .DT_CHOPCHOP => (s, [b.chopchopEvent])
  | .DT_STEP_COUNTER => s.onStepCounter b
  | .DT_STEP_DETECTOR => (s, [b.byteEvent .ID_STEP_DETECTOR .STEP_DETECTOR])
  | .DT_GLANCE => s.onGlance b
  | .DT_MAG => s.onMag b
  | .DT_UNCALIB_MAG => (s, [b.uncalibrated .ID_UM .MAGNETIC_FIELD_UNCALIBRATED CONVERT_M])
  | .DT_ORIENT => (s, [b.orientEvent])
  | .DT_MOTION_DETECT => s.onOneShot H K b .ID_MOTION_DETECT .MOTION_DETECT
  | .DT_STATIONARY_DETECT => s.onOneShot H K b .ID_STATIONARY_DETECT .STATIONARY_DETECT
  | .other _ => (s, [])

end HubSensors
end Cedric.Hub
