import Cedric.Hub.Records
import Cedric.Hub.SetDelay

/-!
# Handles, masks and events of the motosh HAL

The enumerations and masks come from a kernel header that is not part of the
tree. A `MotoshHeader` supplies distinct handle values and distinct single bits;
a `Build` says which of the optional sensors are compiled in.
-/

namespace Cedric.MotoshHal

open BitFlags Hub

structure Build where
  _ENABLE_PEDO : Bool
  _ENABLE_LA : Bool
  _ENABLE_GR : Bool
  _ENABLE_IR : Bool
  _ENABLE_RAW_IR_DATA : Bool
  _ENABLE_CHOPCHOP : Bool
  _ENABLE_LIFT : Bool
  _ENABLE_ULTRASOUND : Bool
  _CAMFSYNC : Bool
  _ENABLE_REARPROX : Bool

def Build.all : Build := ⟨true, true, true, true, true, true, true, true, true, true⟩

inductive SensorHandle
  | ID_A | ID_G | ID_PR | ID_M | ID_O | ID_T | ID_L | ID_LA | ID_GRAVITY | ID_DR | ID_P | ID_FU
  | ID_FD | ID_S | ID_CA | ID_IR_GESTURE | ID_IR_RAW | ID_IR_OBJECT | ID_SIM | ID_UNCALIB_GYRO
  | ID_UNCALIB_MAG | ID_STEP_COUNTER | ID_STEP_DETECTOR | ID_QUAT_6AXIS | ID_QUAT_9AXIS
  | ID_GAME_RV | ID_CHOPCHOP_GESTURE | ID_LIFT_GESTURE | ID_GLANCE_GESTURE
  | ID_MOTO_GLANCE_GESTURE | ID_MOTO_MOD_CURRENT_DRAIN | ID_SENSOR_SYNC | ID_ULTRASOUND_GESTURE
  | ID_MOTION_DETECT | ID_STATIONARY_DETECT | ID_RP
  deriving DecidableEq, Repr

inductive SensorMask
  | M_ACCEL | M_GYRO | M_PRESSURE | M_ECOMPASS | M_ALS | M_LIN_ACCEL | M_GRAVITY | M_DISP_ROTATE
  | M_IR_GESTURE | M_IR_RAW | M_IR_OBJECT | M_UNCALIB_GYRO | M_UNCALIB_MAG | M_STEP_COUNTER
  | M_STEP_DETECTOR | M_QUAT_6AXIS | M_QUAT_9AXIS | M_GAME_RV | M_MOTO_MOD_CURRENT_DRAIN
  | M_SENSOR_SYNC
  deriving DecidableEq, Repr

inductive WakeMask
  | M_PROXIMITY | M_FLATUP | M_FLATDOWN | M_STOWED | M_CAMERA_ACT | M_SIM | M_CHOPCHOP | M_LIFT
  | M_GLANCE | M_MOTION_DETECT | M_STATIONARY_DETECT
  deriving DecidableEq, Repr

structure MotoshHeader where
  value : SensorHandle → Fin 64
  value_injective : Function.Injective value
  sensorBit : SensorMask → Fin 32
  sensorBit_injective : Function.Injective sensorBit
  wakeBit : WakeMask → Fin 32
  wakeBit_injective : Function.Injective wakeBit
  MOTOSH_CAMERA_DATA : ℤ

theorem SensorHandle.ctorIdx_lt (h : SensorHandle) : h.ctorIdx < 64 := by
  cases h <;> decide

theorem SensorMask.ctorIdx_lt (m : SensorMask) : m.ctorIdx < 32 := by
  cases m <;> decide

theorem WakeMask.ctorIdx_lt (m : WakeMask) : m.ctorIdx < 32 := by
  cases m <;> decide

def MotoshHeader.numbered : MotoshHeader where
  value h := ⟨h.ctorIdx, h.ctorIdx_lt⟩
  value_injective := by
    intro a b h
    have he := congrArg SensorHandle.ofNat (congrArg Fin.val h)
    simpa only [SensorHandle.ofNat_ctorIdx] using he
  sensorBit m := ⟨m.ctorIdx, m.ctorIdx_lt⟩
  sensorBit_injective := by
    intro a b h
    have he := congrArg SensorMask.ofNat (congrArg Fin.val h)
    simpa only [SensorMask.ofNat_ctorIdx] using he
  wakeBit m := ⟨m.ctorIdx, m.ctorIdx_lt⟩
  wakeBit_injective := by
    intro a b h
    have he := congrArg WakeMask.ofNat (congrArg Fin.val h)
    simpa only [WakeMask.ofNat_ctorIdx] using he
  MOTOSH_CAMERA_DATA := 0

def mIdToSensor (B : Build) : SensorHandle → Bool
  | .ID_PR | .ID_T | .ID_RP => false
  | .ID_IR_GESTURE | .ID_IR_OBJECT => B._ENABLE_IR
  | .ID_IR_RAW => B._ENABLE_IR && B._ENABLE_RAW_IR_DATA
  | .ID_STEP_COUNTER | .ID_STEP_DETECTOR => B._ENABLE_PEDO
  | .ID_CHOPCHOP_GESTURE => B._ENABLE_CHOPCHOP
  | .ID_LIFT_GESTURE => B._ENABLE_LIFT
  | .ID_GRAVITY => B._ENABLE_GR
  | .ID_LA => B._ENABLE_LA
  | .ID_SENSOR_SYNC => B._CAMFSYNC
  | .ID_ULTRASOUND_GESTURE => B._ENABLE_ULTRASOUND
  | _ => true

/-- The record types; codes that no case knows are `other`. -/
inductive DataType
  | DT_FLUSH | DT_ACCEL | DT_GYRO | DT_UNCALIB_GYRO | DT_UNCALIB_MAG | DT_QUAT_6AXIS
  | DT_QUAT_9AXIS | DT_GAME_RV | DT_STEP_COUNTER | DT_STEP_DETECTOR | DT_PRESSURE | DT_MAG
  | DT_ORIENT | DT_TEMP | DT_ALS | DT_LIN_ACCEL | DT_GRAVITY | DT_DISP_ROTATE | DT_DOCK | DT_PROX
  | DT_FLAT_UP | DT_FLAT_DOWN | DT_STOWED | DT_CAMERA_ACT | DT_NFC | DT_IR_GESTURE | DT_IR_RAW
  | DT_IR_OBJECT | DT_SIM | DT_CHOPCHOP | DT_LIFT | DT_GLANCE | DT_GYRO_CAL | DT_ACCEL_CAL
  | DT_MOTION_DETECT | DT_STATIONARY_DETECT | DT_RESET | other (code : ℕ)
  deriving DecidableEq, Repr

inductive SensorType
  | META_DATA | ACCELEROMETER | GYROSCOPE | GYROSCOPE_UNCALIBRATED | MAGNETIC_FIELD_UNCALIBRATED
  | GEOMAGNETIC_ROTATION_VECTOR | ROTATION_VECTOR | GAME_ROTATION_VECTOR | STEP_COUNTER
  | STEP_DETECTOR | MAGNETIC_FIELD | ORIENTATION | LIGHT | LINEAR_ACCELERATION | GRAVITY
  | DISPLAY_ROTATE | PROXIMITY | FLAT_UP | FLAT_DOWN | STOWED | CAMERA_ACTIVATE | IR_GESTURE
  | IR_RAW | IR_OBJECT | SIGNIFICANT_MOTION | CHOPCHOP_GESTURE | LIFT_GESTURE
  | MOTO_GLANCE_GESTURE | GLANCE_GESTURE | MOTION_DETECT | STATIONARY_DETECT
  deriving DecidableEq, Repr

inductive Payload (F : Type)
  | vector (x y z : F)
  | status (x y z : F) (status : BitVec 8)
  | uncalibrated (x y z xBias yBias zBias : F)
  | data (xs : List F)
  | light (lux : F)
  | distance (d : F)
  | stepCounter (n : BitVec 64)
  | irGesture (eventId gestureId direction magnitude motion : BitVec 8)
  | irRaw (xs : List ℤ)
  | flushComplete (sensor : ℤ)
  deriving DecidableEq

/-- `sensor` is `none` for 0, which a meta data event carries. -/
structure SensorsEvent (F : Type) where
  version : EventVersion
  sensor : Option SensorHandle
  type : SensorType
  payload : Payload F
  timestamp : ℤ
  deriving DecidableEq

end Cedric.MotoshHal
