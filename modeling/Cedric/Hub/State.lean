import Cedric.Hub.Fusion
import Cedric.Hub.Handles

/-!
# The state of `HubSensors` and its environment

`HubSensors` holds the members of the class and the statics of its functions.
Every call into the system is answered by a `Kernel`, an arbitrary function of
the calls made before; the calls and their answers stay in `log`, latest first.
-/

namespace Cedric.Hub

open BitFlags

/-- The record types; codes this board does not decode are `other`. -/
inductive DataType
  | DT_FLUSH | DT_ACCEL | DT_GYRO | DT_UNCALIB_GYRO | DT_ALS | DT_DISP_ROTATE | DT_PROX
  | DT_FLAT_UP | DT_FLAT_DOWN | DT_STOWED | DT_CAMERA_ACT | DT_GYRO_CAL | DT_ACCEL_CAL | DT_RESET
  | DT_LIFT | DT_CHOPCHOP | DT_STEP_COUNTER | DT_STEP_DETECTOR | DT_GLANCE | DT_MAG
  | DT_UNCALIB_MAG | DT_ORIENT | DT_MOTION_DETECT | DT_STATIONARY_DETECT | other (code : ℕ)
  deriving DecidableEq, Repr

inductive Sys
  | setSensors (mask : BitVec 32)
  | setWakeSensors (mask : BitVec 32)
  | setAccDelay (ms : ℕ)
  | setGyroDelay (ms : ℕ)
  | setMagDelay (ms : ℕ)
  | setAlsDelay (ms : ℕ)
  | setStepCounterDelay (s : ℕ)
  | getGyroCal
  | getAccelCal
  | saveGyroCal
  | saveAccelCal
  | time
  | localtime (sec : ℤ)
  | gzopen
  | dump (sec : ℤ) (id : DataType) (counts : List (BitVec 8))
  deriving DecidableEq

abbrev Log := List (Sys × ℤ)

/-- The answer to a call, given the calls and answers before it. -/
abbrev Kernel := Log → Sys → ℤ

structure HubSensors (F : Type) where
  mFusionSensors : FusionEnum → FusionSensor
  mEnabled : BitVec 32
  mWakeEnabled : BitVec 32
  mEnabledHandles : BitVec 64
  mPendingBug2go : Bool
  mFusionData : FusionData F
  mGeomagRVReady : Bool
  mErrorCnt : ℕ → BitVec 8
  mGameRV : GameRotationVector.State F
  mGeomagRV : GeoMagRotationVector.State F
  mRotationVect : GyroIntegration.State F
  accelPrevDelay : ℕ
  gyroPrevDelay : ℕ
  magPrevDelay : ℕ
  lastStepcount : BitVec 32
  stepOffset : BitVec 32
  sentBug2goSec : ℤ
  log : Log

variable {F : Type} [FloatOps F]

/-- The constructor. The arguments are what `GET_SENSORS` and `GET_WAKESENSORS`
give, `none` when the ioctl fails; the first is read as a `short`. -/
def HubSensors.start (flags16 : Option (BitVec 16)) (flags24 : Option (BitVec 32)) :
    HubSensors F where
  mFusionSensors := fusionTable
  mEnabled := (flags16.map (BitVec.signExtend 32)).getD 0
  mWakeEnabled := flags24.getD 0
  mEnabledHandles := 0
  mPendingBug2go := false
  mFusionData := .zero
  mGeomagRVReady := false
  mErrorCnt := fun _ => 0
  mGameRV := .start
  mGeomagRV := .start
  mRotationVect := .start
  accelPrevDelay := 0
  gyroPrevDelay := 0
  magPrevDelay := 0
  lastStepcount := 0
  stepOffset := 0
  sentBug2goSec := 0
  log := []

namespace HubSensors

omit [FloatOps F]
variable (s : HubSensors F)

def syscall (K : Kernel) (c : Sys) : ℤ × HubSensors F :=
  (K s.log c, { s with log := (c, K s.log c) :: s.log })

def enabled (i : FusionEnum) : Bool := (s.mFusionSensors i).enabled

def isHandleEnabled (h : SensorHandle) : Bool :=
  decide (s.mEnabledHandles &&& flag h.pos ≠ 0#64)

theorem isHandleEnabled_eq (h : SensorHandle) :
    s.isHandleEnabled h = has s.mEnabledHandles h.pos := by
  apply Bool.eq_iff_iff.mpr
  rw [isHandleEnabled, decide_eq_true_iff]
  exact and_flag_ne_zero _ _

def recordHandle (h : SensorHandle) (newState : Bool) : HubSensors F :=
  { s with mEnabledHandles := assign s.mEnabledHandles h.pos newState }

def isAccelNeeded : Bool :=
  FusionEnum.all.any fun i => (s.mFusionSensors i).usesAccel && (s.mFusionSensors i).enabled

def isGyroNeeded : Bool :=
  FusionEnum.all.any fun i => (s.mFusionSensors i).usesGyro && (s.mFusionSensors i).enabled

def isMagNeeded : Bool :=
  FusionEnum.all.any fun i => (s.mFusionSensors i).usesMag && (s.mFusionSensors i).enabled

def isRotationVectorRunning : Bool :=
  s.enabled .GEOMAG_RV || s.enabled .ROTATION_VECT || s.enabled .GAME_RV ||
    s.enabled .LINEAR_ACCEL || s.enabled .GRAVITY

theorem isAccelNeeded_iff :
    s.isAccelNeeded = true ↔
      ∃ i, (s.mFusionSensors i).enabled ∧ (s.mFusionSensors i).usesAccel := by
  simp [isAccelNeeded, List.any_eq_true, FusionEnum.mem_all, and_comm]

theorem isGyroNeeded_iff :
    s.isGyroNeeded = true ↔
      ∃ i, (s.mFusionSensors i).enabled ∧ (s.mFusionSensors i).usesGyro := by
  simp [isGyroNeeded, List.any_eq_true, FusionEnum.mem_all, and_comm]

theorem isMagNeeded_iff :
    s.isMagNeeded = true ↔
      ∃ i, (s.mFusionSensors i).enabled ∧ (s.mFusionSensors i).usesMag := by
  simp [isMagNeeded, List.any_eq_true, FusionEnum.mem_all, and_comm]

end HubSensors
end Cedric.Hub
