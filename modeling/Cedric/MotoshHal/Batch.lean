import Cedric.MotoshHal.SetEnable

/-!
# `batch` of the motosh HAL

The rates of gyroscope and ecompass are shared, so their requests are only kept and
the rate functions send the smallest. Every other sensor has its own rate.
-/

namespace Cedric.MotoshHal

open Hub

namespace HubSensors

variable {F : Type} (s : HubSensors F) (B : Build) (K : Kernel)

def writeRateAttr (attr : RateAttr) (delay : ℕ) : ℤ × HubSensors F :=
  let fd := s.syscall K (.openRate attr)
  if fd.1 < 0 then fd
  else
    let w := fd.2.syscall K (.writeRate attr (delay % 2 ^ 8))
    (if w.1 = 1 then 0 else w.1, (w.2.syscall K (.closeRate attr)).2)

/-- Step counter rates are in seconds, an hour at most. -/
def stepCounterDelay (delay : ℕ) : ℕ :=
  let sec := delay / 1000
  if sec = 0 then 1 else if 3600 < sec then 3600 else sec

/-- The switch over the handle; a handle without a case keeps the status. -/
def batchSwitch (delay timeoutms : ℕ) : SensorHandle → ℤ × HubSensors F
  | .ID_A => s.syscall K (.setAccDelay delay timeoutms)
  | .ID_G => (-EINVAL, { s with mGyroReqDelay := delay })
  | .ID_PR => s.syscall K (.setPresDelay delay)
  | .ID_M => (-EINVAL, { s with mMagReqDelay := delay })
  | .ID_O => (-EINVAL, { s with mOrientReqDelay := delay })
  | .ID_T => (0, s)
  | .ID_L => s.syscall K (.setAlsDelay delay)
  | .ID_LA =>
    if B._ENABLE_LA then s.writeRateAttr K .LINEAR_ACCEL_RATE_ATTR_NAME delay else (-EINVAL, s)
  | .ID_GRAVITY =>
    if B._ENABLE_GR then s.writeRateAttr K .GRAVITY_RATE_ATTR_NAME delay else (-EINVAL, s)
  | .ID_DR | .ID_P | .ID_FU | .ID_FD | .ID_S | .ID_CA => (0, s)
  | .ID_IR_GESTURE =>
    if B._ENABLE_IR then s.syscall K (.setIrGestureDelay delay) else (-EINVAL, s)
  | .ID_IR_RAW => if B._ENABLE_IR then s.syscall K (.setIrRawDelay delay) else (-EINVAL, s)
  | .ID_IR_OBJECT => if B._ENABLE_IR then (0, s) else (-EINVAL, s)
  | .ID_SIM => (0, s)
  | .ID_UNCALIB_GYRO => (-EINVAL, { s with mUncalGyroReqDelay := delay })
  | .ID_UNCALIB_MAG => (-EINVAL, { s with mUncalMagReqDelay := delay })
  | .ID_STEP_COUNTER =>
    if B._ENABLE_PEDO then s.syscall K (.setStepCounterDelay (stepCounterDelay delay))
    else (-EINVAL, s)
  | .ID_STEP_DETECTOR => if B._ENABLE_PEDO then (0, s) else (-EINVAL, s)
  | .ID_CHOPCHOP_GESTURE => if B._ENABLE_CHOPCHOP then (0, s) else (-EINVAL, s)
  | .ID_LIFT_GESTURE => if B._ENABLE_LIFT then (0, s) else (-EINVAL, s)
  | .ID_GLANCE_GESTURE | .ID_MOTO_GLANCE_GESTURE | .ID_MOTO_MOD_CURRENT_DRAIN => (0, s)
  | .ID_QUAT_6AXIS => s.writeRateAttr K .QUAT_6AXIS_RATE_ATTR_NAME delay
  | .ID_QUAT_9AXIS => s.writeRateAttr K .QUAT_9AXIS_RATE_ATTR_NAME delay
  | .ID_GAME_RV => s.writeRateAttr K .GAME_RV_RATE_ATTR_NAME delay
  | .ID_SENSOR_SYNC => if B._CAMFSYNC then (0, s) else (-EINVAL, s)
  | .ID_MOTION_DETECT | .ID_STATIONARY_DETECT => (0, s)
  | .ID_ULTRASOUND_GESTURE | .ID_RP => (-EINVAL, s)

def batchDelay (ns : ℤ) : ℕ := (ns / 1000000).toNat % 2 ^ 16

/-- The rates follow the switch, and their status replaces its own. -/
def batchRates (handle : SensorHandle) (r : ℤ × HubSensors F) : ℤ × HubSensors F :=
  if handle = .ID_M ∨ handle = .ID_O ∨ handle = .ID_UNCALIB_MAG then r.2.updateEcompassRate K
  else if handle = .ID_G ∨ handle = .ID_UNCALIB_GYRO then r.2.updateGyroRate K
  else r

def batch (handle : SensorHandle) (ns timeout : ℤ) : ℤ × HubSensors F :=
  if ns < 0 then (-EINVAL, s)
  else if !mIdToSensor B handle then (-EINVAL, s)
  else
    let timeoutms := ((timeout.tdiv 1000000) % 2 ^ 32).toNat
    let r := batchRates K handle (s.batchSwitch B K (batchDelay ns) timeoutms handle)
    (if r.1 = - Hub.EIO then 0 else r.1, r.2)

end HubSensors
end Cedric.MotoshHal
