import Cedric.MotoshHal.SetEnable

/-!
# Decoding a record of the motosh hub

`handleRecord` is the body of the loop of `HubSensors::readEvents` after a
successful read. Its argument `free` is the room in the caller's array. A glance
record is the only one that may yield two events; the second goes into
`pendingEvents` when the first has taken the last place. `decode` is the same
record with room for both.
-/

namespace Cedric.MotoshHal

open Hub

structure SensorData where
  timestamp : ℤ
  type : DataType
  status : BitVec 8
  data : ℕ → BitVec 8

def SensorData.blank (type : DataType) : SensorData := ⟨0, type, 0, fun _ => 0⟩

def ERROR_TYPES : ℕ := 9

variable {F : Type} [FloatOps F]

def CONVERT_GRAVITY : F := GRAVITY_EARTH / ofRat 32767
def CONVERT_M : F := ofRat 1 / ofRat 8
def CONVERT_RV : F := ofRat 1 / ofRat 32767

namespace SensorData

variable (b : SensorData)

def event (sensor : SensorHandle) (type : SensorType) (payload : Payload F) : SensorsEvent F :=
  ⟨.SENSORS_EVENT_T_SIZE, some sensor, type, payload, b.timestamp⟩

def scaled (p : ℕ) (scale : F) : F := ofInt (STM16TOH b.data p) * scale

def vectorEvent (sensor : SensorHandle) (type : SensorType) (scale : F) : SensorsEvent F :=
  b.event sensor type (.vector (b.scaled 0 scale) (b.scaled 2 scale) (b.scaled 4 scale))

def statusEvent (sensor : SensorHandle) (type : SensorType) (scale : F) (status : BitVec 8) :
    SensorsEvent F :=
  b.event sensor type (.status (b.scaled 0 scale) (b.scaled 2 scale) (b.scaled 4 scale) status)

def uncalibratedEvent (sensor : SensorHandle) (type : SensorType) (scale : F) : SensorsEvent F :=
  b.event sensor type (.uncalibrated (b.scaled 0 scale) (b.scaled 2 scale) (b.scaled 4 scale)
    (b.scaled 6 scale) (b.scaled 8 scale) (b.scaled 10 scale))

def quaternionEvent (sensor : SensorHandle) (type : SensorType) : SensorsEvent F :=
  b.event sensor type (.data [b.scaled 0 CONVERT_RV, b.scaled 2 CONVERT_RV, b.scaled 4 CONVERT_RV,
    b.scaled 6 CONVERT_RV, ofRat 5 * (ofRat (314159 / 100000) / ofRat 180)])

def byteEvent (sensor : SensorHandle) (type : SensorType) : SensorsEvent F :=
  b.event sensor type (.data [ofInt (b.data 0).toNat])

def flatEvent (sensor : SensorHandle) (type : SensorType) (detected : BitVec 8) : SensorsEvent F :=
  b.event sensor type (.data [if b.data 0 = detected then ofRat 1 else ofRat 0])

def oneShotEvent (sensor : SensorHandle) (type : SensorType) : SensorsEvent F :=
  b.event sensor type (.data [ofRat 1])

def lightEvent : SensorsEvent F :=
  b.event .ID_L .LIGHT (.light (ofInt (b.data 0 ++ b.data 1).toNat))

def dispRotateEvent : SensorsEvent F :=
  b.event .ID_DR .DISPLAY_ROTATE
    (.data [if b.data 0 = DISP_FLAT then ofRat (-1) else ofInt (b.data 0).toNat])

def proxEvent : SensorsEvent F :=
  b.event .ID_P .PROXIMITY (.distance
    (if b.data 0 = 0 then ofRat 100 else if b.data 0 = 1 then ofRat 3 else ofRat 1))

def cameraEvent (H : MotoshHeader) : SensorsEvent F :=
  b.event .ID_CA .CAMERA_ACTIVATE
    (.data [ofInt H.MOTOSH_CAMERA_DATA, ofInt (STM16TOH b.data 0)])

def irGestureEvent : SensorsEvent F :=
  b.event .ID_IR_GESTURE .IR_GESTURE
    (.irGesture (b.data 0) (b.data 1) (b.data 2 &&& 0x0F) (b.data 2 >>> 4) (b.data 3))

def irRawEvent : SensorsEvent F :=
  b.event .ID_IR_RAW .IR_RAW (.irRaw ((List.range 10).map fun k => STM16TOH b.data (2 * k)))

def irObjectEvent : SensorsEvent F :=
  b.event .ID_IR_OBJECT .IR_OBJECT (.data [ofInt (b.data 0 >>> 2 &&& 0x01).toNat])

def chopchopEvent : SensorsEvent F :=
  b.event .ID_CHOPCHOP_GESTURE .CHOPCHOP_GESTURE (.data [ofInt (STM16TOH b.data 0)])

def liftEvent : SensorsEvent F :=
  b.event .ID_LIFT_GESTURE .LIFT_GESTURE
    (.data [ofInt (STM32TOH b.data 0), ofInt (STM32TOH b.data 4), ofInt (STM32TOH b.data 8)])

def motoGlanceEvent : SensorsEvent F :=
  b.event .ID_MOTO_GLANCE_GESTURE .MOTO_GLANCE_GESTURE
    (.data [ofInt (STM16TOH b.data 0), ofRat 0, ofRat 0])

def glanceEvent : SensorsEvent F :=
  b.event .ID_GLANCE_GESTURE .GLANCE_GESTURE
    (.data [ofRat 1, ofInt (STM16TOH b.data 0), ofRat 0])

def stepcount : BitVec 32 := b.data 0 ++ b.data 1 ++ b.data 2 ++ b.data 3

end SensorData

def SensorHandle.all : List SensorHandle :=
  [.ID_A, .ID_G, .ID_PR, .ID_M, .ID_O, .ID_T, .ID_L, .ID_LA, .ID_GRAVITY, .ID_DR, .ID_P, .ID_FU,
    .ID_FD, .ID_S, .ID_CA, .ID_IR_GESTURE, .ID_IR_RAW, .ID_IR_OBJECT, .ID_SIM, .ID_UNCALIB_GYRO,
    .ID_UNCALIB_MAG, .ID_STEP_COUNTER, .ID_STEP_DETECTOR, .ID_QUAT_6AXIS, .ID_QUAT_9AXIS,
    .ID_GAME_RV, .ID_CHOPCHOP_GESTURE, .ID_LIFT_GESTURE, .ID_GLANCE_GESTURE,
    .ID_MOTO_GLANCE_GESTURE, .ID_MOTO_MOD_CURRENT_DRAIN, .ID_SENSOR_SYNC, .ID_ULTRASOUND_GESTURE,
    .ID_MOTION_DETECT, .ID_STATIONARY_DETECT, .ID_RP]

def listed (H : MotoshHeader) (B : Build) (sensorId : ℤ) : Bool :=
  SensorHandle.all.any fun h => mIdToSensor B h && decide (((H.value h : ℕ) : ℤ) = sensorId)

def fanOut (H : MotoshHeader) (B : Build) (moto glance : Bool) (b : SensorData) : ℕ :=
  match b.type with
  | .DT_PRESSURE | .DT_TEMP | .DT_DOCK | .DT_NFC | .DT_RESET | .DT_GYRO_CAL | .DT_ACCEL_CAL
  | .other _ => 0
  | .DT_FLUSH => (listed H B (STM32TOH b.data 0)).toNat
  | .DT_STEP_COUNTER | .DT_STEP_DETECTOR => B._ENABLE_PEDO.toNat
  | .DT_LIN_ACCEL => B._ENABLE_LA.toNat
  | .DT_GRAVITY => B._ENABLE_GR.toNat
  | .DT_IR_GESTURE | .DT_IR_RAW | .DT_IR_OBJECT => B._ENABLE_IR.toNat
  | .DT_CHOPCHOP => B._ENABLE_CHOPCHOP.toNat
  | .DT_LIFT => B._ENABLE_LIFT.toNat
  | .DT_GLANCE => moto.toNat + glance.toNat
  | _ => 1

def SensorData.flushEvent (b : SensorData) : SensorsEvent F :=
  ⟨.META_DATA_VERSION, none, .META_DATA, .flushComplete (STM32TOH b.data 0), 0⟩

namespace HubSensors

variable (s t : HubSensors F) (H : MotoshHeader) (B : Build) (K : Kernel) (b : SensorData)

/-- The counters are written and cleared if the file opens. -/
def captureDump (now : ℤ) (id : DataType) : HubSensors F :=
  let r := s.syscall K .gzopen
  if r.1 = 0 then r.2
  else
    let counts := (List.range (ERROR_TYPES + 1)).map r.2.mErrorCnt
    { (r.2.syscall K (.dump now id counts)).2 with mErrorCnt := fun _ => 0 }

def bug2go (now : ℤ) (id : DataType) : HubSensors F :=
  let ptm := s.syscall K (.localtime now)
  { if ptm.1 ≠ 0 then ptm.2.captureDump K now id else ptm.2 with sentBug2goSec := now }

/-- Which of the counters a record increments; 0 is for the sensors not supported. -/
def errorIndex : Option ℕ :=
  if b.type = .DT_RESET then
    if 1 ≤ (b.data 0).toNat ∧ (b.data 0).toNat ≤ ERROR_TYPES then some (b.data 0).toNat else none
  else some 0

def onUnsupported : HubSensors F :=
  let s :=
    match errorIndex b with
    | some k => { s with mErrorCnt := Function.update s.mErrorCnt k (s.mErrorCnt k + 1) }
    | none => s
  let now := s.syscall K .time
  if now.2.sentBug2goSec = 0 ∨ now.1 - now.2.sentBug2goSec > 24 * 60 * 60 then
    now.2.bug2go K now.1 b.type
  else now.2

def onStepCounter : HubSensors F × List (SensorsEvent F) :=
  let stepOffset :=
    if b.stepcount + s.stepOffset < s.lastStepcount then s.lastStepcount else s.stepOffset
  let lastStepcount := b.stepcount + stepOffset
  ({ s with stepOffset := stepOffset, lastStepcount := lastStepcount },
    [b.event .ID_STEP_COUNTER .STEP_COUNTER (.stepCounter (lastStepcount.setWidth 64))])

def onCal (get save : Sys) : HubSensors F :=
  let r := s.syscall K get
  if r.1 < 0 then r.2 else (r.2.syscall K save).2

def onOneShot (handle : SensorHandle) (e : SensorsEvent F) : HubSensors F × List (SensorsEvent F) :=
  ((s.setEnable H B K handle 0).2, [e])

/-- The event of the moto glance takes a place without a test, that of the glance is parked
when there is none left. -/
def onGlance (free : ℕ) : HubSensors F × List (SensorsEvent F) :=
  let moto := s.isHandleEnabled H .ID_MOTO_GLANCE_GESTURE
  let data := if moto then [b.motoGlanceEvent] else []
  let s := if moto then (s.setEnable H B K .ID_MOTO_GLANCE_GESTURE 0).2 else s
  if s.isHandleEnabled H .ID_GLANCE_GESTURE then
    let placed :=
      if data.length < free then (s, data ++ [b.glanceEvent])
      else ({ s with pendingEvents := s.pendingEvents ++ [b.glanceEvent] }, data)
    ((placed.1.setEnable H B K .ID_GLANCE_GESTURE 0).2, placed.2)
  else (s, data)

/-- An event that is stored if a flag of the build is set, or the flushed sensor is listed. -/
def compiled (flag : Bool) (e : SensorsEvent F) : List (SensorsEvent F) := if flag then [e] else []

def handleRecord (free : ℕ) : HubSensors F × List (SensorsEvent F) :=
  match b.type with
  | .DT_PRESSURE | .DT_TEMP | .DT_DOCK | .DT_NFC | .DT_RESET => (s.onUnsupported K b, [])
  | .DT_FLUSH => (s, compiled (listed H B (STM32TOH b.data 0)) b.flushEvent)
  | .DT_ACCEL =>
    (s, [b.statusEvent .ID_A .ACCELEROMETER CONVERT_A SENSOR_STATUS_ACCURACY_HIGH])
  | .DT_GYRO => (s, [b.vectorEvent .ID_G .GYROSCOPE CONVERT_G])
  | .DT_UNCALIB_GYRO =>
    (s, [b.uncalibratedEvent .ID_UNCALIB_GYRO .GYROSCOPE_UNCALIBRATED CONVERT_G])
  | .DT_UNCALIB_MAG =>
    (s, [b.uncalibratedEvent .ID_UNCALIB_MAG .MAGNETIC_FIELD_UNCALIBRATED CONVERT_M])
  | .DT_QUAT_6AXIS => (s, [b.quaternionEvent .ID_QUAT_6AXIS .GEOMAGNETIC_ROTATION_VECTOR])
  | .DT_QUAT_9AXIS => (s, [b.quaternionEvent .ID_QUAT_9AXIS .ROTATION_VECTOR])
  | .DT_GAME_RV => (s, [b.quaternionEvent .ID_GAME_RV .GAME_ROTATION_VECTOR])
  | .DT_STEP_COUNTER => if B._ENABLE_PEDO then s.onStepCounter b else (s, [])
  | .DT_STEP_DETECTOR => (s, compiled B._ENABLE_PEDO (b.byteEvent .ID_STEP_DETECTOR .STEP_DETECTOR))
  | .DT_MAG => (s, [b.statusEvent .ID_M .MAGNETIC_FIELD CONVERT_M b.status])
  | .DT_ORIENT => (s, [b.statusEvent .ID_O .ORIENTATION CONVERT_O b.status])
  | .DT_ALS => (s, [b.lightEvent])
  | .DT_LIN_ACCEL =>
    (s, compiled B._ENABLE_LA
      (b.statusEvent .ID_LA .LINEAR_ACCELERATION CONVERT_A SENSOR_STATUS_ACCURACY_HIGH))
  | .DT_GRAVITY =>
    (s, compiled B._ENABLE_GR
      (b.statusEvent .ID_GRAVITY .GRAVITY CONVERT_GRAVITY SENSOR_STATUS_ACCURACY_HIGH))
  | .DT_DISP_ROTATE => (s, [b.dispRotateEvent])
  | .DT_PROX => (s, [b.proxEvent])
  | .DT_FLAT_UP => (s, [b.flatEvent .ID_FU .FLAT_UP 0x01])
  | .DT_FLAT_DOWN => (s, [b.flatEvent .ID_FD .FLAT_DOWN 0x02])
  | .DT_STOWED => (s, [b.byteEvent .ID_S .STOWED])
  | .DT_CAMERA_ACT => (s, [b.cameraEvent H])
  | .DT_IR_GESTURE => (s, compiled B._ENABLE_IR b.irGestureEvent)
  | .DT_IR_RAW => (s, compiled B._ENABLE_IR b.irRawEvent)
  | .DT_IR_OBJECT =>
    if B._ENABLE_IR then s.onOneShot H B K .ID_IR_OBJECT b.irObjectEvent else (s, [])
  | .DT_SIM => s.onOneShot H B K .ID_SIM (b.oneShotEvent .ID_SIM .SIGNIFICANT_MOTION)
  | .DT_CHOPCHOP => (s, compiled B._ENABLE_CHOPCHOP b.chopchopEvent)
  | .DT_LIFT => (s, compiled B._ENABLE_LIFT b.liftEvent)
  | .DT_GLANCE => s.onGlance H B K b free
  | .DT_GYRO_CAL => (s.onCal K .getGyroCal .saveGyroCal, [])
  | .DT_ACCEL_CAL => (s.onCal K .getAccelCal .saveAccelCal, [])
  | .DT_MOTION_DETECT =>
    s.onOneShot H B K .ID_MOTION_DETECT (b.oneShotEvent .ID_MOTION_DETECT .MOTION_DETECT)
  | .DT_STATIONARY_DETECT =>
    s.onOneShot H B K .ID_STATIONARY_DETECT
      (b.oneShotEvent .ID_STATIONARY_DETECT .STATIONARY_DETECT)
  | .other _ => (s, [])

def decode : HubSensors F × List (SensorsEvent F) := s.handleRecord H B K b 2

variable {s t H B K b}

structure SameQueue (s t : HubSensors F) : Prop where
  pending : t.pendingEvents = s.pendingEvents
  next : t.nextPendingEvent = s.nextPendingEvent

omit [FloatOps F] in
theorem SameQueue.trans {u : HubSensors F} (h : SameQueue s t) (h' : SameQueue t u) :
    SameQueue s u :=
  ⟨h'.pending.trans h.pending, h'.next.trans h.next⟩

structure Calm (s t : HubSensors F) : Prop extends SameQueue s t where
  handles : t.mEnabledHandles = s.mEnabledHandles

omit [FloatOps F] in
theorem Calm.refl : Calm s s := ⟨⟨rfl, rfl⟩, rfl⟩

omit [FloatOps F] in
theorem Calm.trans {u : HubSensors F} (h : Calm s t) (h' : Calm t u) : Calm s u :=
  ⟨h.toSameQueue.trans h'.toSameQueue, h'.handles.trans h.handles⟩

omit [FloatOps F] in
theorem Calm.isHandleEnabled (h : Calm s t) (handle : SensorHandle) :
    t.isHandleEnabled H handle = s.isHandleEnabled H handle := by
  rw [isHandleEnabled_eq, isHandleEnabled_eq, h.handles]

omit [FloatOps F] in
theorem captureDump_calm (now : ℤ) (id : DataType) : Calm s (s.captureDump K now id) := by
  rw [captureDump]
  split_ifs <;> exact ⟨⟨rfl, rfl⟩, rfl⟩

omit [FloatOps F] in
theorem bug2go_calm (now : ℤ) (id : DataType) : Calm s (s.bug2go K now id) := by
  have hlocal : Calm s (s.syscall K (.localtime now)).2 := ⟨⟨rfl, rfl⟩, rfl⟩
  have hdump := hlocal.trans (captureDump_calm (K := K) now id)
  simp only [bug2go]
  split_ifs
  · exact hdump.trans ⟨⟨rfl, rfl⟩, rfl⟩
  · exact hlocal.trans ⟨⟨rfl, rfl⟩, rfl⟩

omit [FloatOps F] in
theorem onUnsupported_calm : Calm s (s.onUnsupported K b) := by
  rw [onUnsupported]
  set t := match errorIndex b with
    | some k => { s with mErrorCnt := Function.update s.mErrorCnt k (s.mErrorCnt k + 1) }
    | none => s with ht
  have hcount : Calm s t := by
    rw [ht]
    cases errorIndex b <;> exact ⟨⟨rfl, rfl⟩, rfl⟩
  have htime : Calm s (t.syscall K .time).2 := hcount.trans ⟨⟨rfl, rfl⟩, rfl⟩
  split_ifs
  · exact htime.trans (bug2go_calm _ _)
  · exact htime

omit [FloatOps F] in
theorem onCal_calm (get save : Sys) : Calm s (s.onCal K get save) := by
  rw [onCal]
  split_ifs <;> exact ⟨⟨rfl, rfl⟩, rfl⟩

omit [FloatOps F] in
theorem applyWake_queue {newState : Bool} {handle : SensorHandle} {err : ℤ} :
    SameQueue s (s.applyWake H B K newState handle err).2 := by
  rw [applyWake]
  cases s.wakeSwitch H B newState handle with
  | none => exact ⟨rfl, rfl⟩
  | some newEnabled =>
    dsimp only
    split_ifs <;> exact ⟨rfl, rfl⟩

omit [FloatOps F] in
theorem setEnable_queue (handle : SensorHandle) (en : ℤ) :
    SameQueue s (s.setEnable H B K handle en).2 := by
  cases hlisted : mIdToSensor B handle with
  | false =>
    rw [setEnable_unlisted hlisted]
    exact ⟨rfl, rfl⟩
  | true =>
    have hrest := sameRest_nonWake (H := H) (B := B) (K := K) s (decide (en ≠ 0)) handle
    have hwake : SameQueue s ((s.nonWake H B K (decide (en ≠ 0)) handle).hub.applyWake H B K
        (decide (en ≠ 0)) handle (s.nonWake H B K (decide (en ≠ 0)) handle).err).2 := by
      refine SameQueue.trans ⟨hrest.pending, hrest.next⟩ ?_
      exact applyWake_queue
    rw [setEnable, hlisted]
    exact ⟨hwake.pending, hwake.next⟩

/-- A record in `free` places: its first events are stored, the others parked, and with
room for all of them it does not matter how much room there is. -/
structure Placed (s : HubSensors F) (H : MotoshHeader) (B : Build) (K : Kernel) (b : SensorData)
    (free : ℕ) : Prop where
  stored : (s.handleRecord H B K b free).2 = (s.decode H B K b).2.take free
  parked : (s.handleRecord H B K b free).1.pendingEvents =
    s.pendingEvents ++ (s.decode H B K b).2.drop free
  next : (s.handleRecord H B K b free).1.nextPendingEvent = s.nextPendingEvent
  fits : (s.decode H B K b).2.length ≤ free → s.handleRecord H B K b free = s.decode H B K b

theorem Placed.of_fits {free : ℕ} (hrecord : s.handleRecord H B K b free = s.decode H B K b)
    (hfits : (s.decode H B K b).2.length ≤ free) (hqueue : SameQueue s (s.decode H B K b).1) :
    s.Placed H B K b free := by
  refine ⟨?_, ?_, ?_, fun _ => hrecord⟩
  · rw [hrecord, List.take_of_length_le hfits]
  · rw [hrecord, List.drop_of_length_le hfits, List.append_nil]
    exact hqueue.pending
  · rw [hrecord]
    exact hqueue.next

theorem handleRecord_plain (hglance : b.type ≠ .DT_GLANCE) (free : ℕ) :
    s.handleRecord H B K b free = s.decode H B K b := by
  obtain ⟨timestamp, type, status, data⟩ := b
  cases type with
  | DT_GLANCE => exact absurd rfl hglance
  | _ => rfl

structure Plain (s : HubSensors F) (H : MotoshHeader) (B : Build) (K : Kernel) (b : SensorData) :
    Prop where
  queue : SameQueue s (s.decode H B K b).1
  glance : (s.decode H B K b).1.isHandleEnabled H .ID_GLANCE_GESTURE =
    s.isHandleEnabled H .ID_GLANCE_GESTURE
  moto : (s.decode H B K b).1.isHandleEnabled H .ID_MOTO_GLANCE_GESTURE =
    s.isHandleEnabled H .ID_MOTO_GLANCE_GESTURE
  count : ∀ moto glance, (s.decode H B K b).2.length = fanOut H B moto glance b
  one : (s.decode H B K b).2.length ≤ 1

theorem Plain.of_calm (h : Calm s (s.decode H B K b).1)
    (hcount : ∀ moto glance, (s.decode H B K b).2.length = fanOut H B moto glance b)
    (hone : (s.decode H B K b).2.length ≤ 1) : s.Plain H B K b :=
  ⟨h.toSameQueue, h.isHandleEnabled _, h.isHandleEnabled _, hcount, hone⟩

theorem Plain.of_oneShot {handle : SensorHandle} {e : SensorsEvent F}
    (h : s.decode H B K b = s.onOneShot H B K handle e) (hglance : handle ≠ .ID_GLANCE_GESTURE)
    (hmoto : handle ≠ .ID_MOTO_GLANCE_GESTURE)
    (hcount : ∀ moto glance, fanOut H B moto glance b = 1) : s.Plain H B K b := by
  refine ⟨?_, ?_, ?_, fun moto glance => ?_, ?_⟩
  all_goals rw [h, onOneShot]
  · exact setEnable_queue handle 0
  · rw [setEnable_isHandleEnabled, if_neg fun heq => hglance heq.2]
  · rw [setEnable_isHandleEnabled, if_neg fun heq => hmoto heq.2]
  · exact (hcount moto glance).symm
  · exact le_rfl

theorem Plain.of_compiled {flag : Bool} {e : SensorsEvent F}
    (h : s.decode H B K b = (s, compiled flag e))
    (hcount : ∀ moto glance, fanOut H B moto glance b = flag.toNat) : s.Plain H B K b := by
  have hlen : (compiled flag e).length = flag.toNat := by cases flag <;> rfl
  refine .of_calm (by rw [h]; exact .refl) (fun moto glance => ?_) ?_
  · rw [h, hcount, hlen]
  · rw [h, hlen]
    exact Bool.toNat_le flag

theorem Plain.of_skipped (h : s.decode H B K b = (s, []))
    (hcount : ∀ moto glance, fanOut H B moto glance b = 0) : s.Plain H B K b := by
  refine .of_calm (by rw [h]; exact .refl) (fun moto glance => ?_) ?_
  · rw [h, hcount]
    rfl
  · rw [h]
    exact Nat.zero_le 1

theorem decode_plain (hglance : b.type ≠ .DT_GLANCE) : s.Plain H B K b := by
  have hunsupported := onUnsupported_calm (s := s) (K := K) (b := b)
  obtain ⟨timestamp, type, status, data⟩ := b
  cases type with
  | DT_GLANCE => exact absurd rfl hglance
  | DT_PRESSURE | DT_TEMP | DT_DOCK | DT_NFC | DT_RESET =>
    exact .of_calm hunsupported (fun _ _ => rfl) (Nat.zero_le 1)
  | DT_GYRO_CAL | DT_ACCEL_CAL => exact .of_calm (onCal_calm _ _) (fun _ _ => rfl) (Nat.zero_le 1)
  | DT_FLUSH => exact .of_compiled rfl fun _ _ => rfl
  | DT_STEP_DETECTOR | DT_LIN_ACCEL | DT_GRAVITY | DT_IR_GESTURE | DT_IR_RAW | DT_CHOPCHOP
  | DT_LIFT => exact .of_compiled rfl fun _ _ => rfl
  | DT_STEP_COUNTER =>
    cases hbuild : B._ENABLE_PEDO with
    | false =>
      refine .of_skipped ?_ fun _ _ => by rw [fanOut, hbuild]; rfl
      simp only [decode, handleRecord, hbuild, Bool.false_eq_true, ↓reduceIte]
    | true =>
      have hsteps : s.decode H B K ⟨timestamp, .DT_STEP_COUNTER, status, data⟩ =
          s.onStepCounter ⟨timestamp, .DT_STEP_COUNTER, status, data⟩ := by
        simp only [decode, handleRecord, hbuild, ↓reduceIte]
      refine .of_calm ?_ (fun _ _ => ?_) ?_
      · rw [hsteps]
        exact ⟨⟨rfl, rfl⟩, rfl⟩
      · rw [hsteps, fanOut, hbuild]
        rfl
      · rw [hsteps]
        exact le_rfl
  | DT_IR_OBJECT =>
    cases hbuild : B._ENABLE_IR with
    | false =>
      refine .of_skipped ?_ fun _ _ => by rw [fanOut, hbuild]; rfl
      simp only [decode, handleRecord, hbuild, Bool.false_eq_true, ↓reduceIte]
    | true =>
      have hshot : s.decode H B K ⟨timestamp, .DT_IR_OBJECT, status, data⟩ =
          s.onOneShot H B K .ID_IR_OBJECT
            (SensorData.irObjectEvent ⟨timestamp, .DT_IR_OBJECT, status, data⟩) := by
        simp only [decode, handleRecord, hbuild, ↓reduceIte]
      exact .of_oneShot hshot (by decide) (by decide) fun _ _ => by rw [fanOut, hbuild]; rfl
  | DT_SIM | DT_MOTION_DETECT | DT_STATIONARY_DETECT =>
    exact .of_oneShot rfl (by decide) (by decide) fun _ _ => rfl
  | other code => exact .of_calm .refl (fun _ _ => rfl) (Nat.zero_le 1)
  | _ => exact .of_calm .refl (fun _ _ => rfl) le_rfl

omit [FloatOps F] in
theorem motoGlance_queue (s : HubSensors F) (moto : Bool) :
    SameQueue s (if moto then (s.setEnable H B K .ID_MOTO_GLANCE_GESTURE 0).2 else s) := by
  split_ifs
  · exact setEnable_queue _ _
  · exact ⟨rfl, rfl⟩

theorem decode_glance (hglance : b.type = .DT_GLANCE) :
    (s.decode H B K b).2.length = (s.isHandleEnabled H .ID_MOTO_GLANCE_GESTURE).toNat +
        (s.isHandleEnabled H .ID_GLANCE_GESTURE).toNat ∧
      (s.decode H B K b).1.isHandleEnabled H .ID_MOTO_GLANCE_GESTURE = false ∧
      (s.decode H B K b).1.isHandleEnabled H .ID_GLANCE_GESTURE = false := by
  rw [decode, handleRecord, hglance]
  cases hmoto : s.isHandleEnabled H .ID_MOTO_GLANCE_GESTURE <;>
    cases hother : s.isHandleEnabled H .ID_GLANCE_GESTURE <;>
    simp [onGlance, setEnable_isHandleEnabled, mIdToSensor, hmoto, hother]

theorem onGlance_placed (hglance : b.type = .DT_GLANCE) {free : ℕ} (hfree : 1 ≤ free) :
    s.Placed H B K b free := by
  have hrecord (n : ℕ) : s.handleRecord H B K b n = s.onGlance H B K b n := by
    rw [handleRecord, hglance]
  have hdecode : s.decode H B K b = s.onGlance H B K b 2 := hrecord 2
  have hqueue := motoGlance_queue (H := H) (B := B) (K := K) s
    (s.isHandleEnabled H .ID_MOTO_GLANCE_GESTURE)
  simp only [onGlance] at hrecord hdecode
  set data : List (SensorsEvent F) :=
    if s.isHandleEnabled H .ID_MOTO_GLANCE_GESTURE then [b.motoGlanceEvent] else [] with hdata
  set t := if s.isHandleEnabled H .ID_MOTO_GLANCE_GESTURE then
    (s.setEnable H B K .ID_MOTO_GLANCE_GESTURE 0).2 else s
  have hone : data.length ≤ 1 := by
    rw [hdata]
    split_ifs
    · exact le_rfl
    · exact Nat.zero_le 1
  rw [if_pos (show data.length < 2 by omega)] at hdecode
  cases hother : t.isHandleEnabled H .ID_GLANCE_GESTURE with
  | false =>
    simp only [hother, Bool.false_eq_true, ↓reduceIte] at hrecord hdecode
    refine .of_fits ((hrecord free).trans hdecode.symm) ?_ ?_
    · rw [hdecode]
      exact hone.trans hfree
    · rw [hdecode]
      exact hqueue
  | true =>
    simp only [hother, ↓reduceIte] at hrecord hdecode
    have hlen : (data ++ [b.glanceEvent]).length = data.length + 1 := by simp
    by_cases hroom : data.length < free
    · have hafter := hqueue.trans
        (setEnable_queue (s := t) (H := H) (B := B) (K := K) .ID_GLANCE_GESTURE 0)
      refine .of_fits ?_ ?_ ?_
      · rw [hrecord, if_pos hroom, hdecode]
      · rw [hdecode]
        exact hlen.le.trans hroom
      · rw [hdecode]
        exact hafter
    · -- The moto glance has taken the only place.
      have hfull : free = data.length := by omega
      have hafter := setEnable_queue (H := H) (B := B) (K := K) .ID_GLANCE_GESTURE 0
        (s := { t with pendingEvents := t.pendingEvents ++ [b.glanceEvent] })
      have hkept := (hrecord free).trans (by rw [if_neg hroom])
      refine ⟨?_, ?_, ?_, ?_⟩
      · rw [hkept, hdecode, hfull, List.take_left]
      · rw [hkept, hdecode, hfull, List.drop_left, ← hqueue.pending]
        exact hafter.pending
      · rw [hkept, ← hqueue.next]
        exact hafter.next
      · intro hle
        rw [hdecode] at hle
        have hle : (data ++ [b.glanceEvent]).length ≤ free := hle
        omega

theorem handleRecord_placed {free : ℕ} (hfree : 1 ≤ free) : s.Placed H B K b free := by
  by_cases hglance : b.type = .DT_GLANCE
  · exact onGlance_placed hglance hfree
  · have hplain := decode_plain (s := s) (H := H) (B := B) (K := K) hglance
    exact .of_fits (handleRecord_plain hglance free) (hplain.one.trans hfree) hplain.queue

end HubSensors
end Cedric.MotoshHal
