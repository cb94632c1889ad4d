import Cedric.Lib.BitFlags

/-!
# Handles, fusion table indices and masks

The enumerations of `Sensors.h` and `HubSensors.h` as this board compiles them:
gyroscope, magnetometer, pedometer, chopchop, lift and both rear proximity
sensors, without the secondary accelerometer and the capacitive sensor. The
masks come from a kernel header that is not part of the tree; a
`Stml0xxHeader` supplies them as distinct single bits.
-/

namespace Cedric.Hub

open BitFlags

inductive SensorHandle
  | MIN_SENSOR_ID | ID_A | ID_G | ID_UNCALIB_GYRO | ID_GAME_RV | ID_GRAVITY | ID_LA | ID_L
  | ID_P | ID_DR | ID_FU | ID_FD | ID_S | ID_CA | ID_A2 | ID_M | ID_UM | ID_OR | ID_GEOMAG_RV
  | ID_RV | ID_CC | ID_LF | ID_RP | ID_RP_2 | ID_STEP_DETECTOR | ID_STEP_COUNTER
  | ID_GLANCE_GESTURE | ID_MOTO_GLANCE_GESTURE | ID_MOTION_DETECT | ID_STATIONARY_DETECT
  | MAX_SENSOR_ID
  deriving DecidableEq, Repr

/-- The C enumerator: its position in the declaration. -/
def SensorHandle.value (h : SensorHandle) : ℕ := h.ctorIdx

theorem SensorHandle.value_injective : Function.Injective SensorHandle.value := by
  intro a b h
  have he := congrArg SensorHandle.ofNat h
  simpa only [SensorHandle.value, SensorHandle.ofNat_ctorIdx] using he

theorem SensorHandle.value_lt (h : SensorHandle) : h.value < 64 := by
  cases h <;> decide

def SensorHandle.pos (h : SensorHandle) : Fin 64 := ⟨h.value, h.value_lt⟩

theorem SensorHandle.pos_inj {a b : SensorHandle} : a.pos = b.pos ↔ a = b := by
  constructor
  · intro h
    exact SensorHandle.value_injective (congrArg Fin.val h)
  · intro h
    rw [h]

inductive FusionEnum
  | ACCEL | GYRO | UNCALIB_GYRO | GAME_RV | LINEAR_ACCEL | GRAVITY | MAG | UNCALIB_MAG
  | ORIENTATION | GEOMAG_RV | ROTATION_VECT
  deriving DecidableEq, Repr

def FusionEnum.all : List FusionEnum :=
  [.ACCEL, .GYRO, .UNCALIB_GYRO, .GAME_RV, .LINEAR_ACCEL, .GRAVITY, .MAG, .UNCALIB_MAG,
    .ORIENTATION, .GEOMAG_RV, .ROTATION_VECT]

theorem FusionEnum.mem_all (i : FusionEnum) : i ∈ FusionEnum.all := by
  cases i <;> decide

inductive SensorMask
  | M_ACCEL | M_GYRO | M_ECOMPASS | M_UNCALIB_GYRO | M_ALS | M_DISP_ROTATE | M_STEP_COUNTER
  | M_STEP_DETECTOR
  deriving DecidableEq, Repr

inductive WakeMask
  | M_PROXIMITY | M_FLATUP | M_FLATDOWN | M_STOWED | M_CAMERA_GESTURE | M_LIFT | M_CHOPCHOP
  | M_GLANCE | M_MOTION_DETECT | M_STATIONARY_DETECT
  deriving DecidableEq, Repr

/-- What the code takes from `linux/stml0xx.h`. -/
structure Stml0xxHeader where
  sensorBit : SensorMask → Fin 32
  sensorBit_injective : Function.Injective sensorBit
  wakeBit : WakeMask → Fin 32
  wakeBit_injective : Function.Injective wakeBit
  RESET_REASON_MAX_CODE : ℕ
  STML0XX_CAMERA_DATA : ℤ

theorem SensorMask.ctorIdx_lt (m : SensorMask) : m.ctorIdx < 32 := by
  cases m <;> decide

theorem WakeMask.ctorIdx_lt (m : WakeMask) : m.ctorIdx < 32 := by
  cases m <;> decide

def Stml0xxHeader.numbered : Stml0xxHeader where
  sensorBit m := ⟨m.ctorIdx, m.ctorIdx_lt⟩
  sensorBit_injective := by
    intro a b h
    have he := congrArg SensorMask.ofNat (congrArg Fin.val h)
    simpa only [SensorMask.ofNat_ctorIdx] using he
  wakeBit m := ⟨m.ctorIdx, m.ctorIdx_lt⟩
  wakeBit_injective := by
    intro a b h
    have he := congrArg WakeMask.ofNat (congrArg Fin.val h)
    simpa only [WakeMask.ofNat_ctorIdx] using he
  RESET_REASON_MAX_CODE := 15
  STML0XX_CAMERA_DATA := 0

structure FusionSensor where
  enabled : Bool
  usesAccel : Bool
  usesGyro : Bool
  usesMag : Bool
  delay : ℕ
  deriving DecidableEq

def USHRT_MAX : ℕ := 65535

def fusionTable : FusionEnum → FusionSensor
  | .ACCEL => ⟨false, true, false, false, USHRT_MAX⟩
  | .GYRO | .UNCALIB_GYRO => ⟨false, false, true, false, USHRT_MAX⟩
  | .GAME_RV | .LINEAR_ACCEL | .GRAVITY => ⟨false, true, true, false, USHRT_MAX⟩
  | .MAG | .UNCALIB_MAG | .ORIENTATION | .GEOMAG_RV => ⟨false, true, false, true, USHRT_MAX⟩
  | .ROTATION_VECT => ⟨false, true, true, true, USHRT_MAX⟩

end Cedric.Hub
