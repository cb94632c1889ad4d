import Cedric.Hub.ReaderLoop

/-!
# The time-of-flight rear proximity sensor

A distance at or below the low threshold is close, one at or above the high
threshold is far. `handleSARprocess` weighs the distances on one side; when there
are enough it puts the other crossing into the sensor's configuration and has a
report sent at the next `EV_SYN`. Which crossing is configured is noted in
`mDetectMode`, and only if the attribute could be opened.
-/

namespace Cedric.Tof

open Hub

def ID_RP : ℤ := 0xFE
def EIO : ℤ := 5

def ABS_GAS : ℕ := 0x09
def ABS_HAT0Y : ℕ := 0x11
def ABS_HAT1X : ℕ := 0x12

def MODE_SAR_RESUME : Char := '2'
def MODE_SAR_ON : Char := '1'
def MODE_SAR_OFF : Char := '0'

def DETECT_MODE_CROSS_LOW : ℕ := 0
def DETECT_MODE_CROSS_HIGH : ℕ := 1
def DETECT_WEIGHT_CEILING : ℕ := 2
def DETECT_DEFAULT_INTERVAL_MS : ℤ := 500
def DETECT_DEFAULT_LOW_THRESHOLD_MM : ℕ := 70
def DETECT_DEFAULT_HIGH_THRESHOLD_MM : ℕ := 75
def DETECT_DISTANCE_CLOSE : ℕ := 1
def DETECT_DISTANCE_FAR : ℕ := 10

/-- An attribute and what is written to it if it opens. -/
inductive SysfsWrite
  | enableSar (enable : Char)
  | autonomousConfig (interval : ℤ) (intrNotarget mode high low : ℕ)
  | setDelayMs (delay : ℤ)
  | doFlush
  deriving DecidableEq

abbrev SysfsLog := List (SysfsWrite × Bool)

/-- Whether an attribute opens, given the attempts before. -/
abbrev Sysfs := SysfsLog → SysfsWrite → Bool

structure ProximityEvent where
  sensor : ℤ
  distance : ℕ
  deriving DecidableEq

inductive SensorsEvent
  | META_DATA_FLUSH_COMPLETE (sensor : ℤ)
  | proximity (e : ProximityEvent)
  deriving DecidableEq

structure RearProxSensor where
  mEnabled : ℤ
  mFlushEnabled : ℕ
  mDetectInterval : ℤ
  mDetectDistance : ℕ
  mDetectWeight : ℕ
  mDetectMode : ℕ
  mCurrentDistance : ℤ
  mTimestampUpdated : Bool
  mSendData : Bool
  mInputReader : InputEventCircularReader
  mPendingEvents : ProximityEvent
  dataFd : InputFd
  log : SysfsLog

namespace RearProxSensor

/-- The constructor; `distance` is what `new` leaves in the pending event. -/
def start (memory : ℕ → InputEvent) (distance : ℕ) : RearProxSensor where
  mEnabled := 0
  mFlushEnabled := 0
  mDetectInterval := DETECT_DEFAULT_INTERVAL_MS
  mDetectDistance := DETECT_DISTANCE_CLOSE
  mDetectWeight := 0
  mDetectMode := DETECT_MODE_CROSS_HIGH
  mCurrentDistance := 0
  mTimestampUpdated := false
  mSendData := false
  mInputReader := .start 8 memory
  mPendingEvents := ⟨ID_RP, distance⟩
  dataFd := ⟨[], none, []⟩
  log := []

variable (O : Sysfs) (s : RearProxSensor)

def openWrite (w : SysfsWrite) : Bool × RearProxSensor :=
  (O s.log w, { s with log := (w, O s.log w) :: s.log })

/-- `intrNotarget` is set for any mode but 0. -/
def autonomousConfig (mode : ℕ) : SysfsWrite :=
  .autonomousConfig s.mDetectInterval (if mode ≠ 0 then 1 else 0) mode
    DETECT_DEFAULT_HIGH_THRESHOLD_MM DETECT_DEFAULT_LOW_THRESHOLD_MM

def setSARConfig (mode : ℕ) : ℤ × RearProxSensor :=
  if mode ≠ DETECT_MODE_CROSS_HIGH ∧ mode ≠ DETECT_MODE_CROSS_LOW then (-EINVAL, s)
  else
    let r := s.openWrite O (s.autonomousConfig mode)
    if r.1 then (0, { r.2 with mDetectMode := mode }) else (- EIO, r.2)

def enableSAR (enable : Char) : ℤ × RearProxSensor :=
  let r := s.openWrite O (.enableSar enable)
  (if r.1 then 0 else - EIO, r.2)

/-- `interval` is the property's value, if it is set. -/
def setEnable (handle en : ℤ) (interval : Option ℤ) : ℤ × RearProxSensor :=
  let newState := if en ≠ 0 then MODE_SAR_ON else MODE_SAR_OFF
  let s := { s with mDetectInterval := interval.getD s.mDetectInterval }
  if handle = ID_RP then
    let s := { s with mEnabled := en }
    let s :=
      if s.mEnabled ≠ 0 then
        (setSARConfig O { s with mDetectDistance := DETECT_DISTANCE_CLOSE }
          DETECT_MODE_CROSS_HIGH).2
      else s
    (0, (s.enableSAR O newState).2)
  else (-EINVAL, s)

def batch (handle samplingPeriodNs : ℤ) : ℤ × RearProxSensor :=
  if samplingPeriodNs < 0 then (-EINVAL, s)
  else if handle = ID_RP then
    let r := s.openWrite O
      (.setDelayMs (BitVec.ofInt 32 (samplingPeriodNs / 1000000)).toInt)
    (if r.1 then 0 else - EIO, r.2)
  else (-EINVAL, s)

def flush (handle : ℤ) : ℤ × RearProxSensor :=
  if handle = ID_RP then
    let r := s.openWrite O .doFlush
    (if r.1 then 0 else - EIO, r.2)
  else (-EINVAL, s)

def weigh (distance : ℤ) : RearProxSensor :=
  if distance ≤ DETECT_DEFAULT_LOW_THRESHOLD_MM then
    let s :=
      if s.mDetectDistance = DETECT_DISTANCE_FAR then
        { s with mDetectDistance := DETECT_DISTANCE_CLOSE, mDetectWeight := 0 }
      else s
    { s with mDetectWeight := (s.mDetectWeight + 1) % 2 ^ 32 }
  else if distance ≥ DETECT_DEFAULT_HIGH_THRESHOLD_MM then
    let s :=
      if s.mDetectDistance = DETECT_DISTANCE_CLOSE then
        { s with mDetectDistance := DETECT_DISTANCE_FAR, mDetectWeight := 0 }
      else s
    { s with mDetectWeight := (s.mDetectWeight + 1) % 2 ^ 32 }
  else s

def wantedMode : ℕ :=
  if s.mDetectDistance = DETECT_DISTANCE_CLOSE then DETECT_MODE_CROSS_HIGH
  else DETECT_MODE_CROSS_LOW

def handleSARprocess (distance : ℤ) : RearProxSensor :=
  let s := s.weigh distance
  if s.mDetectWeight ≥ DETECT_WEIGHT_CEILING then
    let mode := s.wantedMode
    let s := { s with mPendingEvents := { s.mPendingEvents with distance := s.mDetectDistance } }
    if s.mDetectMode ≠ mode then
      let s := (s.enableSAR O MODE_SAR_OFF).2
      let s := (s.setSARConfig O mode).2
      let s := (s.enableSAR O MODE_SAR_RESUME).2
      { s with mSendData := true }
    else s
  else s

def processEvent (code : ℕ) (value : ℤ) : RearProxSensor :=
  if code = ABS_HAT1X then
    let s := if !s.mTimestampUpdated then s.handleSARprocess O value else s
    { s with mCurrentDistance := value }
  else if code = ABS_HAT0Y then { s with mTimestampUpdated := true }
  else if code = ABS_GAS then { s with mFlushEnabled := 1 }
  else s

def handleEvent (event : InputEvent) : RearProxSensor × List SensorsEvent :=
  if event.type = EV_ABS then
    (if s.mEnabled = 1 then s.processEvent O event.code event.value else s, [])
  else if event.type = EV_SYN then
    if s.mFlushEnabled = 1 then
      ({ s with mFlushEnabled := 0 }, [.META_DATA_FLUSH_COMPLETE ID_RP])
    else
      let s :=
        if s.mTimestampUpdated then
          { s.handleSARprocess O s.mCurrentDistance with mTimestampUpdated := false }
        else s
      if s.mSendData then ({ s with mSendData := false }, [.proximity s.mPendingEvents])
      else (s, [])
  else (s, [])

def readEvents (count : ℤ) : RearProxSensor × List SensorsEvent :=
  if count < 1 then (s, [])
  else
    let r := InputEventCircularReader.readInput (handleEvent O) count s.mInputReader s.dataFd s
    ({ r.state with mInputReader := r.reader, dataFd := r.dataFd }, r.data)

def brought (event : InputEvent) : Option ℤ :=
  if event.type = EV_ABS ∧ event.code = ABS_HAT1X then some event.value else none

def weighed (event : InputEvent) : Option ℤ :=
  if event.type = EV_ABS then
    if s.mEnabled = 1 ∧ event.code = ABS_HAT1X ∧ s.mTimestampUpdated = false then
      some event.value
    else none
  else if event.type = EV_SYN ∧ s.mFlushEnabled ≠ 1 ∧ s.mTimestampUpdated = true then
    some s.mCurrentDistance
  else none

inductive Op
  | setEnable (handle en : ℤ) (interval : Option ℤ)
  | batch (handle samplingPeriodNs : ℤ)
  | flush (handle : ℤ)
  | readEvents (count : ℤ)
  | arrive (es : List InputEvent)
  | fault (f : ReadFault)

def step : Op → RearProxSensor
  | .setEnable handle en interval => (s.setEnable O handle en interval).2
  | .batch handle ns => (s.batch O handle ns).2
  | .flush handle => (s.flush O handle).2
  | .readEvents count => (s.readEvents O count).1
  | .arrive es => { s with dataFd := { s.dataFd with queue := s.dataFd.queue ++ es } }
  | .fault f => { s with dataFd := { s.dataFd with fault := some f } }

def handled (count : ℤ) : List InputEvent :=
  if count < 1 then []
  else (InputEventCircularReader.readInput (handleEvent O) count s.mInputReader s.dataFd s).handled

end RearProxSensor
end Cedric.Tof
