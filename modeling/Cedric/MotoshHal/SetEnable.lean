import Cedric.MotoshHal.Sensors

/-!
# The hub driver and `setEnable`

`setEnable` switches twice on the handle: for a bit of `mEnabled` and for a bit
of `mWakeEnabled`. Magnetometer and orientation share one bit and one rate, and so
do the gyroscopes share a rate. In the second switch the case of
`ID_MOTO_GLANCE_GESTURE` has no `break`.
-/

namespace Cedric.MotoshHal

open BitFlags Hub

inductive RateAttr
  | LINEAR_ACCEL_RATE_ATTR_NAME | GRAVITY_RATE_ATTR_NAME | QUAT_6AXIS_RATE_ATTR_NAME
  | QUAT_9AXIS_RATE_ATTR_NAME | GAME_RV_RATE_ATTR_NAME
  deriving DecidableEq

inductive Sys
  | setSensors (mask : BitVec 32)
  | setWakeSensors (mask : BitVec 32)
  | setMagDelay (ms : ℕ)
  | setGyroDelay (ms : ℕ)
  | setAccDelay (ms timeout : ℕ)
  | setPresDelay (ms : ℕ)
  | setAlsDelay (ms : ℕ)
  | setIrGestureDelay (ms : ℕ)
  | setIrRawDelay (ms : ℕ)
  | setStepCounterDelay (sec : ℕ)
  | openRate (attr : RateAttr)
  | writeRate (attr : RateAttr) (byte : ℕ)
  | closeRate (attr : RateAttr)
  | getMagCal
  | saveMagCal
  | getGyroCal
  | saveGyroCal
  | getAccelCal
  | saveAccelCal
  | time
  | localtime (sec : ℤ)
  | gzopen
  | dump (sec : ℤ) (id : DataType) (counts : List (BitVec 8))
  deriving DecidableEq

abbrev Log := List (Sys × ℤ)

/-- The answer to a call, given the calls and answers before it. -/
abbrev Kernel := Log → Sys → ℤ

structure HubSensors (F : Type) where
  mEnabled : BitVec 32
  mWakeEnabled : BitVec 32
  mEnabledHandles : BitVec 64
  mGyroEnabled : Bool
  mUncalGyroEnabled : Bool
  mOrientEnabled : Bool
  mMagEnabled : Bool
  mUncalMagEnabled : Bool
  mGyroReqDelay : ℕ
  mUncalGyroReqDelay : ℕ
  mMagReqDelay : ℕ
  mUncalMagReqDelay : ℕ
  mOrientReqDelay : ℕ
  mGyroDelay : ℕ
  mEcompassDelay : ℕ
  mErrorCnt : ℕ → BitVec 8
  pendingEvents : List (SensorsEvent F)
  nextPendingEvent : ℕ
  lastStepcount : BitVec 32
  stepOffset : BitVec 32
  sentBug2goSec : ℤ
  log : Log

namespace HubSensors

variable {F : Type}

/-- The constructor; the arguments are what `GET_SENSORS` and `GET_WAKESENSORS` give, `none`
when the ioctl fails. -/
def start (flags wakeFlags : Option (BitVec 32)) : HubSensors F where
  mEnabled := flags.getD 0
  mWakeEnabled := wakeFlags.getD 0
  mEnabledHandles := 0
  mGyroEnabled := false
  mUncalGyroEnabled := false
  mOrientEnabled := false
  mMagEnabled := false
  mUncalMagEnabled := false
  mGyroReqDelay := USHRT_MAX
  mUncalGyroReqDelay := USHRT_MAX
  mMagReqDelay := USHRT_MAX
  mUncalMagReqDelay := USHRT_MAX
  mOrientReqDelay := USHRT_MAX
  mGyroDelay := USHRT_MAX
  mEcompassDelay := USHRT_MAX
  mErrorCnt := fun _ => 0
  pendingEvents := []
  nextPendingEvent := 0
  lastStepcount := 0
  stepOffset := 0
  sentBug2goSec := 0
  log := []

variable (s t : HubSensors F) (H : MotoshHeader) (B : Build) (K : Kernel)

def syscall (c : Sys) : ℤ × HubSensors F :=
  (K s.log c, { s with log := (c, K s.log c) :: s.log })

def isHandleEnabled (h : SensorHandle) : Bool :=
  decide (s.mEnabledHandles &&& flag (H.value h) ≠ 0#64)

theorem isHandleEnabled_eq (h : SensorHandle) :
    s.isHandleEnabled H h = has s.mEnabledHandles (H.value h) := by
  apply Bool.eq_iff_iff.mpr
  rw [isHandleEnabled, decide_eq_true_iff]
  exact and_flag_ne_zero _ _

def minReqDelay (reqDelays : List ℕ) : ℕ := reqDelays.foldl min USHRT_MAX

def updateEcompassRate : ℤ × HubSensors F :=
  let minReqDelay := minReqDelay [if s.mMagEnabled then s.mMagReqDelay else USHRT_MAX,
    if s.mOrientEnabled then s.mOrientReqDelay else USHRT_MAX,
    if s.mUncalMagEnabled then s.mUncalMagReqDelay else USHRT_MAX]
  if minReqDelay = USHRT_MAX then (0, { s with mEcompassDelay := USHRT_MAX })
  else if s.mEcompassDelay ≠ minReqDelay then
    { s with mEcompassDelay := minReqDelay }.syscall K (.setMagDelay minReqDelay)
  else (0, s)

def updateGyroRate : ℤ × HubSensors F :=
  let minReqDelay := minReqDelay [if s.mGyroEnabled then s.mGyroReqDelay else USHRT_MAX,
    if s.mUncalGyroEnabled then s.mUncalGyroReqDelay else USHRT_MAX]
  if minReqDelay = USHRT_MAX then (0, { s with mGyroDelay := USHRT_MAX })
  else if s.mGyroDelay ≠ minReqDelay then
    { s with mGyroDelay := minReqDelay }.syscall K (.setGyroDelay minReqDelay)
  else (0, s)

def ownBit (m : SensorMask) (newState : Bool) : Option (HubSensors F × BitVec 32) :=
  some (s, clearSet s.mEnabled (H.sensorBit m) newState)

/-- The members and `new_enabled`, where the handle is found. -/
def enableSwitch (newState : Bool) : SensorHandle → Option (HubSensors F × BitVec 32)
  | .ID_A => s.ownBit H .M_ACCEL newState
  | .ID_G =>
    ownBit { s with
      mGyroEnabled := newState
      mGyroReqDelay := if newState then s.mGyroReqDelay else USHRT_MAX } H .M_GYRO newState
  | .ID_PR => s.ownBit H .M_PRESSURE newState
  | .ID_M => some ({ s with
      mMagEnabled := newState
      mMagReqDelay := if newState then s.mMagReqDelay else USHRT_MAX }, s.mEnabled)
  | .ID_O => some ({ s with
      mOrientEnabled := newState
      mOrientReqDelay := if newState then s.mOrientReqDelay else USHRT_MAX }, s.mEnabled)
  | .ID_L => s.ownBit H .M_ALS newState
  | .ID_LA => if B._ENABLE_LA then s.ownBit H .M_LIN_ACCEL newState else none
  | .ID_GRAVITY => if B._ENABLE_GR then s.ownBit H .M_GRAVITY newState else none
  | .ID_DR => s.ownBit H .M_DISP_ROTATE newState
  | .ID_IR_GESTURE => if B._ENABLE_IR then s.ownBit H .M_IR_GESTURE newState else none
  | .ID_IR_RAW => if B._ENABLE_IR then s.ownBit H .M_IR_RAW newState else none
  | .ID_IR_OBJECT => if B._ENABLE_IR then s.ownBit H .M_IR_OBJECT newState else none
  | .ID_UNCALIB_GYRO =>
    ownBit { s with
      mUncalGyroEnabled := newState
      mUncalGyroReqDelay := if newState then s.mUncalGyroReqDelay else USHRT_MAX }
      H .M_UNCALIB_GYRO newState
  | .ID_UNCALIB_MAG =>
    ownBit { s with
      mUncalMagEnabled := newState
      mUncalMagReqDelay := if newState then s.mUncalMagReqDelay else USHRT_MAX }
      H .M_UNCALIB_MAG newState
  | .ID_STEP_COUNTER => if B._ENABLE_PEDO then s.ownBit H .M_STEP_COUNTER newState else none
  | .ID_STEP_DETECTOR => if B._ENABLE_PEDO then s.ownBit H .M_STEP_DETECTOR newState else none
  | .ID_QUAT_6AXIS => s.ownBit H .M_QUAT_6AXIS newState
  | .ID_QUAT_9AXIS => s.ownBit H .M_QUAT_9AXIS newState
  | .ID_GAME_RV => s.ownBit H .M_GAME_RV newState
  | .ID_MOTO_MOD_CURRENT_DRAIN => s.ownBit H .M_MOTO_MOD_CURRENT_DRAIN newState
  | .ID_SENSOR_SYNC => if B._CAMFSYNC then s.ownBit H .M_SENSOR_SYNC newState else none
  | _ => none

structure Pending (F : Type) where
  err : ℤ
  newEnabled : BitVec 32
  hub : HubSensors F

/-- The ecompass is turned off with the last of magnetometer and orientation, and its
calibration is read. -/
def checkEcompass (handle : SensorHandle) (c : Pending F) : Pending F :=
  if handle = .ID_M ∨ handle = .ID_O ∨ handle = .ID_UNCALIB_MAG then
    let s := (c.hub.updateEcompassRate K).2
    if !s.mMagEnabled && !s.mOrientEnabled then
      let r := s.syscall K .getMagCal
      ⟨r.1, c.newEnabled &&& ~~~flag (H.sensorBit .M_ECOMPASS),
        if r.1 < 0 then r.2 else (r.2.syscall K .saveMagCal).2⟩
    else ⟨c.err, c.newEnabled ||| flag (H.sensorBit .M_ECOMPASS), s⟩
  else c

def checkGyro (handle : SensorHandle) (c : Pending F) : Pending F :=
  if handle = .ID_G ∨ handle = .ID_UNCALIB_GYRO then { c with hub := (c.hub.updateGyroRate K).2 }
  else c

/-- The error of `SET_SENSORS` is dropped and the mask kept. -/
def applySensors (found : Bool) (c : Pending F) : Pending F :=
  if found && decide (c.newEnabled ≠ c.hub.mEnabled) then
    let r := c.hub.syscall K (.setSensors c.newEnabled)
    ⟨0, c.newEnabled, { r.2 with mEnabled := c.newEnabled }⟩
  else c

def motionCase (newState : Bool) (newEnabled : BitVec 32) : Option (BitVec 32) :=
  some (assign newEnabled (H.wakeBit .M_MOTION_DETECT) newState)

def wakeBitOf (m : WakeMask) (newState : Bool) : Option (BitVec 32) :=
  some (clearSet s.mWakeEnabled (H.wakeBit m) newState)

def wakeSwitch (newState : Bool) : SensorHandle → Option (BitVec 32)
  | .ID_P => s.wakeBitOf H .M_PROXIMITY newState
  | .ID_FU => s.wakeBitOf H .M_FLATUP newState
  | .ID_FD => s.wakeBitOf H .M_FLATDOWN newState
  | .ID_S => s.wakeBitOf H .M_STOWED newState
  | .ID_CA => s.wakeBitOf H .M_CAMERA_ACT newState
  | .ID_SIM => s.wakeBitOf H .M_SIM newState
  | .ID_CHOPCHOP_GESTURE =>
    if B._ENABLE_CHOPCHOP then s.wakeBitOf H .M_CHOPCHOP newState else none
  | .ID_LIFT_GESTURE => if B._ENABLE_LIFT then s.wakeBitOf H .M_LIFT newState else none
  | .ID_GLANCE_GESTURE =>
    if !s.isHandleEnabled H .ID_MOTO_GLANCE_GESTURE then s.wakeBitOf H .M_GLANCE newState
    else none
  | .ID_MOTO_GLANCE_GESTURE =>
    -- no break: the next case runs too
    if !s.isHandleEnabled H .ID_GLANCE_GESTURE then
      motionCase H newState (clearSet s.mWakeEnabled (H.wakeBit .M_GLANCE) newState)
    else motionCase H newState s.mWakeEnabled
  | .ID_MOTION_DETECT => motionCase H newState s.mWakeEnabled
  | .ID_STATIONARY_DETECT =>
    some (assign s.mWakeEnabled (H.wakeBit .M_STATIONARY_DETECT) newState)
  | _ => none

def applyWake (newState : Bool) (handle : SensorHandle) (err : ℤ) : ℤ × HubSensors F :=
  match s.wakeSwitch H B newState handle with
  | some newEnabled =>
    if newEnabled ≠ s.mWakeEnabled then
      let r := s.syscall K (.setWakeSensors newEnabled)
      (0, { r.2 with mWakeEnabled := newEnabled })
    else (err, s)
  | none => (err, s)

def recordHandle (handle : SensorHandle) (newState : Bool) : HubSensors F :=
  { s with mEnabledHandles := assign s.mEnabledHandles (H.value handle) newState }

def nonWake (newState : Bool) (handle : SensorHandle) : Pending F :=
  let found := s.enableSwitch H B newState handle
  let c : Pending F := match found with
    | some f => ⟨0, f.2, f.1⟩
    | none => ⟨0, s.mEnabled, s⟩
  applySensors K found.isSome (checkGyro K handle (checkEcompass H K handle c))

def setEnable (handle : SensorHandle) (en : ℤ) : ℤ × HubSensors F :=
  if !mIdToSensor B handle then (-EINVAL, s)
  else
    let newState := decide (en ≠ 0)
    let c := s.nonWake H B K newState handle
    let r := c.hub.applyWake H B K newState handle c.err
    (r.1, r.2.recordHandle H handle newState)

structure SameRest (s t : HubSensors F) : Prop where
  wake : t.mWakeEnabled = s.mWakeEnabled
  handles : t.mEnabledHandles = s.mEnabledHandles
  errors : t.mErrorCnt = s.mErrorCnt
  pending : t.pendingEvents = s.pendingEvents
  next : t.nextPendingEvent = s.nextPendingEvent
  stepcount : t.lastStepcount = s.lastStepcount
  offset : t.stepOffset = s.stepOffset
  bug2go : t.sentBug2goSec = s.sentBug2goSec

variable {s t} {H B K}

theorem SameRest.refl (s : HubSensors F) : SameRest s s := ⟨rfl, rfl, rfl, rfl, rfl, rfl, rfl, rfl⟩

theorem SameRest.trans {u : HubSensors F} (h : SameRest s t) (h' : SameRest t u) : SameRest s u :=
  ⟨h'.wake.trans h.wake, h'.handles.trans h.handles, h'.errors.trans h.errors,
    h'.pending.trans h.pending, h'.next.trans h.next, h'.stepcount.trans h.stepcount,
    h'.offset.trans h.offset, h'.bug2go.trans h.bug2go⟩

theorem sameRest_syscall (s : HubSensors F) (K : Kernel) (c : Sys) :
    SameRest s (s.syscall K c).2 := ⟨rfl, rfl, rfl, rfl, rfl, rfl, rfl, rfl⟩

theorem sameRest_updateEcompassRate (s : HubSensors F) (K : Kernel) :
    SameRest s (s.updateEcompassRate K).2 := by
  rw [updateEcompassRate]
  generalize minReqDelay _ = minReq
  split_ifs
  · exact ⟨rfl, rfl, rfl, rfl, rfl, rfl, rfl, rfl⟩
  · exact ⟨rfl, rfl, rfl, rfl, rfl, rfl, rfl, rfl⟩
  · exact .refl s

theorem sameRest_updateGyroRate (s : HubSensors F) (K : Kernel) :
    SameRest s (s.updateGyroRate K).2 := by
  rw [updateGyroRate]
  generalize minReqDelay _ = minReq
  split_ifs
  · exact ⟨rfl, rfl, rfl, rfl, rfl, rfl, rfl, rfl⟩
  · exact ⟨rfl, rfl, rfl, rfl, rfl, rfl, rfl, rfl⟩
  · exact .refl s

theorem sameRest_enableSwitch {newState : Bool} {handle : SensorHandle}
    {found : HubSensors F × BitVec 32} (h : s.enableSwitch H B newState handle = some found) :
    SameRest s found.1 := by
  cases handle
  all_goals simp only [enableSwitch, ownBit, Option.ite_none_right_eq_some, Option.some.injEq,
    reduceCtorEq] at h
  all_goals first
    | (rw [← h]; exact ⟨rfl, rfl, rfl, rfl, rfl, rfl, rfl, rfl⟩)
    | (rw [← h.2]; exact ⟨rfl, rfl, rfl, rfl, rfl, rfl, rfl, rfl⟩)

theorem sameRest_checkEcompass (handle : SensorHandle) (c : Pending F) :
    SameRest c.hub (checkEcompass H K handle c).hub := by
  have hrate := sameRest_updateEcompassRate c.hub K
  simp only [checkEcompass]
  split_ifs
  · exact hrate.trans (sameRest_syscall _ K _)
  · exact (hrate.trans (sameRest_syscall _ K _)).trans (sameRest_syscall _ K _)
  · exact hrate
  · exact .refl c.hub

theorem sameRest_nonWake (s : HubSensors F) (newState : Bool) (handle : SensorHandle) :
    SameRest s (s.nonWake H B K newState handle).hub := by
  rw [nonWake]
  set c : Pending F := match s.enableSwitch H B newState handle with
    | some f => ⟨0, f.2, f.1⟩
    | none => ⟨0, s.mEnabled, s⟩ with hc
  have hstart : SameRest s c.hub := by
    cases hfound : s.enableSwitch H B newState handle with
    | none => rw [hc, hfound]; exact .refl s
    | some f => rw [hc, hfound]; exact sameRest_enableSwitch hfound
  have hgyro : SameRest s (checkGyro K handle (checkEcompass H K handle c)).hub := by
    have hecompass := hstart.trans (sameRest_checkEcompass (H := H) (K := K) handle c)
    rw [checkGyro]
    split_ifs
    · exact hecompass.trans (sameRest_updateGyroRate _ K)
    · exact hecompass
  rw [applySensors]
  split_ifs
  · exact hgyro.trans ⟨rfl, rfl, rfl, rfl, rfl, rfl, rfl, rfl⟩
  · exact hgyro

theorem wakeSwitch_congr (hrest : SameRest s t) (newState : Bool) (handle : SensorHandle) :
    t.wakeSwitch H B newState handle = s.wakeSwitch H B newState handle := by
  cases handle <;>
    simp only [wakeSwitch, wakeBitOf, isHandleEnabled_eq, hrest.wake, hrest.handles]

theorem applyWake_masks (newState : Bool) (handle : SensorHandle) (err : ℤ) :
    (s.applyWake H B K newState handle err).2.mWakeEnabled =
        (s.wakeSwitch H B newState handle).getD s.mWakeEnabled ∧
      (s.applyWake H B K newState handle err).2.mEnabledHandles = s.mEnabledHandles := by
  rw [applyWake]
  cases hfound : s.wakeSwitch H B newState handle with
  | none => exact ⟨rfl, rfl⟩
  | some newEnabled =>
    dsimp only [Option.getD_some]
    split_ifs with hsame
    · exact ⟨rfl, rfl⟩
    · exact ⟨(not_not.mp hsame).symm, rfl⟩

theorem setEnable_masks {handle : SensorHandle} (h : mIdToSensor B handle = true) (s : HubSensors F)
    (H : MotoshHeader) (K : Kernel) (en : ℤ) :
    (s.setEnable H B K handle en).2.mWakeEnabled =
        (s.wakeSwitch H B (decide (en ≠ 0)) handle).getD s.mWakeEnabled ∧
      (s.setEnable H B K handle en).2.mEnabledHandles =
        assign s.mEnabledHandles (H.value handle) (decide (en ≠ 0)) := by
  have hrest := sameRest_nonWake (H := H) (B := B) (K := K) s (decide (en ≠ 0)) handle
  obtain ⟨hwake, hhandles⟩ := applyWake_masks (s := (s.nonWake H B K (decide (en ≠ 0)) handle).hub)
    (H := H) (B := B) (K := K) (decide (en ≠ 0)) handle
    (s.nonWake H B K (decide (en ≠ 0)) handle).err
  rw [wakeSwitch_congr hrest, hrest.wake] at hwake
  rw [hrest.handles] at hhandles
  rw [setEnable, h]
  exact ⟨hwake, congrArg (fun x => assign x (H.value handle) (decide (en ≠ 0))) hhandles⟩

theorem setEnable_unlisted {handle : SensorHandle} (h : mIdToSensor B handle = false)
    (s : HubSensors F) (H : MotoshHeader) (K : Kernel) (en : ℤ) :
    s.setEnable H B K handle en = (-EINVAL, s) := by
  rw [setEnable, h]
  rfl

theorem setEnable_isHandleEnabled (handle : SensorHandle) (en : ℤ) (h : SensorHandle) :
    (s.setEnable H B K handle en).2.isHandleEnabled H h =
      if mIdToSensor B handle = true ∧ handle = h then decide (en ≠ 0)
      else s.isHandleEnabled H h := by
  cases hlisted : mIdToSensor B handle with
  | false =>
    rw [setEnable_unlisted hlisted]
    simp
  | true =>
    rw [isHandleEnabled_eq, isHandleEnabled_eq, (setEnable_masks hlisted s H K en).2, has_assign]
    simp only [H.value_injective.eq_iff, true_and]

end HubSensors
end Cedric.MotoshHal
