import Cedric.Hub.SetEnable

/-!
# The sensor list and requested delays

`setDelay` clamps the requested period to the limits of the sensor list, stores
or sends it, and reprograms the three shared sensors. The five magnetometer
entries are appended to the list at start unless a property turns them off.
-/

namespace Cedric.Hub

def EINVAL : ℤ := 22
def EIO : ℤ := 5

structure SensorT where
  handle : SensorHandle
  minDelay : ℤ
  maxDelay : ℤ
  deriving DecidableEq

def STEP_MIN_DELAY_US : ℕ := 1000000
def STEP_MAX_DELAY_US : ℕ := 0

def sSensorList (eCompass : Bool) : List SensorT :=
  [⟨.ID_A, ACCEL_MIN_DELAY_US, ACCEL_MAX_DELAY_US⟩, ⟨.ID_G, GYRO_MIN_DELAY_US, GYRO_MAX_DELAY_US⟩,
    ⟨.ID_UNCALIB_GYRO, GYRO_MIN_DELAY_US, GYRO_MAX_DELAY_US⟩,
    ⟨.ID_GAME_RV, GYRO_MIN_DELAY_US, FUSION_MAX_DELAY_US⟩,
    ⟨.ID_GRAVITY, ACCEL_MIN_DELAY_US, FUSION_MAX_DELAY_US⟩,
    ⟨.ID_LA, ACCEL_MIN_DELAY_US, FUSION_MAX_DELAY_US⟩, ⟨.ID_STEP_DETECTOR, 0, 0⟩,
    ⟨.ID_STEP_COUNTER, STEP_MIN_DELAY_US, STEP_MAX_DELAY_US⟩, ⟨.ID_L, 0, 0⟩, ⟨.ID_P, 0, 0⟩,
    ⟨.ID_DR, 0, 0⟩, ⟨.ID_FU, 0, 0⟩, ⟨.ID_FD, 0, 0⟩, ⟨.ID_S, 0, 0⟩, ⟨.ID_CA, 0, 0⟩, ⟨.ID_CC, 0, 0⟩,
    ⟨.ID_LF, 0, 0⟩, ⟨.ID_RP, 0, 10000000⟩, ⟨.ID_RP_2, 0, 10000000⟩, ⟨.ID_GLANCE_GESTURE, 0, 0⟩,
    ⟨.ID_MOTO_GLANCE_GESTURE, 0, 0⟩, ⟨.ID_MOTION_DETECT, -1, 0⟩, ⟨.ID_STATIONARY_DETECT, -1, 0⟩]
  ++ if eCompass then
    [⟨.ID_M, MAG_MIN_DELAY_US, MAG_MAX_DELAY_US⟩, ⟨.ID_UM, MAG_MIN_DELAY_US, MAG_MAX_DELAY_US⟩,
      ⟨.ID_OR, MAG_MIN_DELAY_US, MAG_MAX_DELAY_US⟩, ⟨.ID_GEOMAG_RV, ACCEL_MIN_DELAY_US, 0⟩,
      ⟨.ID_RV, GYRO_MIN_DELAY_US, 0⟩]
  else []

def toUShort (x : ℤ) : ℕ := (x % 65536).toNat

/-- `delay` after the loop over the list: the first entry of the handle clamps it. -/
def clampDelay (list : List SensorT) (handle : SensorHandle) (delay : ℕ) : ℕ :=
  match list.find? (fun e => decide (e.handle = handle)) with
  | some e => toUShort (max (min (delay : ℤ) (e.maxDelay.tdiv 1000)) (e.minDelay.tdiv 1000))
  | none => delay

namespace HubSensors

variable {F : Type} (s : HubSensors F)

def storeDelay (i : FusionEnum) (delay : ℕ) : ℤ × HubSensors F :=
  (0, { s with mFusionSensors :=
      Function.update s.mFusionSensors i { s.mFusionSensors i with delay := delay } })

def stepSeconds (delay : ℕ) : ℕ :=
  let delay := delay / 1000
  if delay = 0 then 1 else if delay > 3600 then 3600 else delay

def delaySwitch (K : Kernel) (delay : ℕ) : SensorHandle → ℤ × HubSensors F
  | .ID_A => s.storeDelay .ACCEL delay
  | .ID_G => s.storeDelay .GYRO delay
  | .ID_UNCALIB_GYRO => s.storeDelay .UNCALIB_GYRO delay
  | .ID_GAME_RV => s.storeDelay .GAME_RV delay
  | .ID_LA => s.storeDelay .LINEAR_ACCEL delay
  | .ID_GRAVITY => s.storeDelay .GRAVITY delay
  | .ID_L => s.syscall K (.setAlsDelay delay)
  | .ID_DR | .ID_P | .ID_FU | .ID_FD | .ID_S | .ID_CA | .ID_GLANCE_GESTURE
  | .ID_MOTO_GLANCE_GESTURE | .ID_LF | .ID_CC => (0, s)
  | .ID_M => s.storeDelay .MAG delay
  | .ID_UM => s.storeDelay .UNCALIB_MAG delay
  | .ID_OR => s.storeDelay .ORIENTATION delay
  | .ID_GEOMAG_RV => s.storeDelay .GEOMAG_RV delay
  | .ID_RV => s.storeDelay .ROTATION_VECT delay
  | .ID_STEP_COUNTER => s.syscall K (.setStepCounterDelay (stepSeconds delay))
  | .ID_STEP_DETECTOR | .ID_MOTION_DETECT | .ID_STATIONARY_DETECT => (0, s)
  | _ => (-EINVAL, s)

/-- Each later rate update overwrites the error of the one before. -/
def setDelay (K : Kernel) (list : List SensorT) (handle : SensorHandle) (ns : ℤ) :
    ℤ × HubSensors F :=
  if ns < 0 then (-EINVAL, s)
  else
    let delay := clampDelay list handle (toUShort (ns / 1000000))
    let r := s.delaySwitch K delay handle
    let r := r.2.updateAccelRate K
    let r := r.2.updateGyroRate K
    let r := r.2.updateMagRate K
    (if r.1 = - EIO then 0 else r.1, r.2)

end HubSensors
end Cedric.Hub
