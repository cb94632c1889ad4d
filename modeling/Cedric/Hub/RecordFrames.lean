import Cedric.Hub.Records

/-!
# What a record leaves alone

Each handler with side effects is described once by the fields it may write.
From these descriptions no record changes the fusion table, the sensor mask or
a handle other than the two one-shot handles, so the number of events a record
yields, `fanOut`, is decided by the enable state before the first record.
-/

namespace Cedric.Hub

open BitFlags

def DataType.isSample : DataType → Bool
  | .DT_ACCEL | .DT_GYRO | .DT_GLANCE | .DT_MAG | .DT_STEP_COUNTER => true
  | _ => false

def DataType.eventTypes : DataType → List SensorType
  | .DT_FLUSH => [.META_DATA]
  | .DT_ACCEL => [.ACCELEROMETER, .GEOMAGNETIC_ROTATION_VECTOR]
  | .DT_GYRO => [.GYROSCOPE, .GAME_ROTATION_VECTOR, .LINEAR_ACCELERATION, .GRAVITY,
      .ROTATION_VECTOR]
  | .DT_UNCALIB_GYRO => [.GYROSCOPE_UNCALIBRATED]
  | .DT_ALS => [.LIGHT]
  | .DT_DISP_ROTATE => [.DISPLAY_ROTATE]
  | .DT_PROX => [.PROXIMITY]
  | .DT_FLAT_UP => [.FLAT_UP]
  | .DT_FLAT_DOWN => [.FLAT_DOWN]
  | .DT_STOWED => [.STOWED]
  | .DT_CAMERA_ACT => [.CAMERA_ACTIVATE]
  | .DT_LIFT => [.LIFT_GESTURE]
  | .DT_CHOPCHOP => [.CHOPCHOP_GESTURE]
  | .DT_STEP_COUNTER => [.STEP_COUNTER]
  | .DT_STEP_DETECTOR => [.STEP_DETECTOR]
  | .DT_GLANCE => [.MOTO_GLANCE_GESTURE, .GLANCE_GESTURE, .MAGNETIC_FIELD]
  | .DT_MAG => [.MAGNETIC_FIELD]
  | .DT_UNCALIB_MAG => [.MAGNETIC_FIELD_UNCALIBRATED]
  | .DT_ORIENT => [.ORIENTATION]
  | .DT_MOTION_DETECT => [.MOTION_DETECT]
  | .DT_STATIONARY_DETECT => [.STATIONARY_DETECT]
  | .DT_GYRO_CAL | .DT_ACCEL_CAL | .DT_RESET | .other _ => []

def Sys.sensorMask : Sys → Option (BitVec 32)
  | .setSensors m => some m
  | _ => none

def lastSetSensors (log : Log) : Option (BitVec 32) := log.findSome? fun e => e.1.sensorMask

theorem lastSetSensors_cons {c : Sys} (h : c.sensorMask = none) (r : ℤ) (log : Log) :
    lastSetSensors ((c, r) :: log) = lastSetSensors log := by
  simp [lastSetSensors, h]

namespace HubSensors

variable {F : Type} {s t u : HubSensors F}

/-- The enable state of `s` is that of `t`, the one-shot handles apart. -/
structure SameSetup (s t : HubSensors F) : Prop where
  table : t.mFusionSensors = s.mFusionSensors
  mask : t.mEnabled = s.mEnabled
  sensors : lastSetSensors t.log = lastSetSensors s.log
  handles : ∀ h : SensorHandle, h ≠ .ID_MOTION_DETECT → h ≠ .ID_STATIONARY_DETECT →
    has t.mEnabledHandles h.pos = has s.mEnabledHandles h.pos

theorem SameSetup.refl : SameSetup s s := ⟨rfl, rfl, rfl, fun _ _ _ => rfl⟩

theorem SameSetup.trans (h : SameSetup s t) (h' : SameSetup t u) : SameSetup s u where
  table := h'.table.trans h.table
  mask := h'.mask.trans h.mask
  sensors := h'.sensors.trans h.sensors
  handles := fun x hm hs => (h'.handles x hm hs).trans (h.handles x hm hs)

theorem SameSetup.enabled (h : SameSetup s t) (i : FusionEnum) : t.enabled i = s.enabled i := by
  rw [HubSensors.enabled, HubSensors.enabled, h.table]

def Books (s t : HubSensors F) : Prop :=
  ∃ pending errors sent log, lastSetSensors log = lastSetSensors s.log ∧
    t = { s with mPendingBug2go := pending, mErrorCnt := errors, sentBug2goSec := sent, log := log }

def Fuses (s t : HubSensors F) : Prop :=
  ∃ data ready geomag game rotation,
    t = { s with mFusionData := data, mGeomagRVReady := ready, mGeomagRV := geomag,
                 mGameRV := game, mRotationVect := rotation }

theorem Books.refl : Books s s := ⟨_, _, _, _, rfl, rfl⟩

theorem Books.trans (h : Books s t) (h' : Books t u) : Books s u := by
  obtain ⟨pending, errors, sent, log, hlog, rfl⟩ := h
  obtain ⟨pending', errors', sent', log', hlog', rfl⟩ := h'
  exact ⟨pending', errors', sent', log', hlog'.trans hlog, rfl⟩

theorem Fuses.trans (h : Fuses s t) (h' : Fuses t u) : Fuses s u := by
  obtain ⟨data, ready, geomag, game, rotation, rfl⟩ := h
  obtain ⟨data', ready', geomag', game', rotation', rfl⟩ := h'
  exact ⟨data', ready', geomag', game', rotation', rfl⟩

theorem Books.setup (h : Books s t) : SameSetup s t := by
  obtain ⟨pending, errors, sent, log, hlog, rfl⟩ := h
  exact ⟨rfl, rfl, hlog, fun _ _ _ => rfl⟩

theorem Fuses.setup (h : Fuses s t) : SameSetup s t := by
  obtain ⟨data, ready, geomag, game, rotation, rfl⟩ := h
  exact ⟨rfl, rfl, rfl, fun _ _ _ => rfl⟩

theorem books_syscall (K : Kernel) {c : Sys} (hc : c.sensorMask = none) :
    Books s (s.syscall K c).2 :=
  ⟨_, _, _, _, lastSetSensors_cons hc _ _, rfl⟩

theorem captureDump_books (H : Stml0xxHeader) (K : Kernel) (now : ℤ) (id : DataType) :
    Books s (s.captureDump H K now id) := by
  have hopen : Books s (s.syscall K .gzopen).2 := books_syscall K rfl
  simp only [captureDump]
  split_ifs
  · exact hopen
  · exact (hopen.trans (books_syscall K rfl)).trans ⟨_, _, _, _, rfl, rfl⟩

theorem bug2go_books (H : Stml0xxHeader) (K : Kernel) (now : ℤ) (id : DataType) :
    Books s (s.bug2go H K now id) := by
  have hlocal : Books s (s.syscall K (.localtime now)).2 := books_syscall K rfl
  have hsent (t : HubSensors F) : Books t { t with sentBug2goSec := now } :=
    ⟨_, _, _, _, rfl, rfl⟩
  simp only [bug2go]
  split_ifs
  · exact (hlocal.trans (captureDump_books H K now id)).trans (hsent _)
  · exact hlocal.trans (hsent _)

theorem onReset_books (H : Stml0xxHeader) (K : Kernel) (b : SensorData) :
    Books s (s.onReset H K b) := by
  have htime : Books s (s.syscall K .time).2 := books_syscall K rfl
  unfold onReset
  extract_lets now s' reason s''
  have hcount : Books s' s'' := by
    unfold s''
    split_ifs
    · exact ⟨_, _, _, _, rfl, rfl⟩
    · exact Books.refl
  split_ifs
  · exact (htime.trans hcount).trans (bug2go_books H K _ _)
  · exact (htime.trans hcount).trans ⟨_, _, _, _, rfl, rfl⟩

theorem onCal_books (K : Kernel) {get save : Sys} (hg : get.sensorMask = none)
    (hs : save.sensorMask = none) : Books s (s.onCal K get save) := by
  have hget : Books s (s.syscall K get).2 := books_syscall K hg
  simp only [onCal]
  split_ifs
  · exact hget
  · exact hget.trans (books_syscall K hs)

def signal (s : HubSensors F) : HubSensors F :=
  { s with mEnabled := 0, mWakeEnabled := 0, mEnabledHandles := 0, mPendingBug2go := false,
           mErrorCnt := fun _ => 0, sentBug2goSec := 0, log := [] }

theorem Books.signal (h : Books s t) : t.signal = s.signal := by
  obtain ⟨pending, errors, sent, log, hlog, rfl⟩ := h
  rfl

theorem wake_signal (H : Stml0xxHeader) (K : Kernel) (newState : Bool) (h : SensorHandle) (err : ℤ) :
    (s.wake H K newState h err).2.signal = s.signal := by
  rw [wake]
  cases s.wakeSwitch H newState h with
  | none => rfl
  | some m =>
    dsimp only
    split_ifs <;> rfl

theorem wake_setup (H : Stml0xxHeader) (K : Kernel) (newState : Bool) (h : SensorHandle) (err : ℤ) :
    SameSetup s (s.wake H K newState h err).2 := by
  rw [wake]
  cases s.wakeSwitch H newState h with
  | none => exact .refl
  | some m =>
    dsimp only
    split_ifs
    · exact ⟨rfl, rfl, lastSetSensors_cons (c := .setWakeSensors m) rfl _ _,
        fun _ _ _ => rfl⟩
    · exact .refl

theorem recordHandle_setup {h : SensorHandle} (b : Bool)
    (hh : h = .ID_MOTION_DETECT ∨ h = .ID_STATIONARY_DETECT) :
    SameSetup s (s.recordHandle h b) := by
  refine ⟨rfl, rfl, rfl, fun x hm hs => ?_⟩
  have hne : h.pos ≠ x.pos := by
    intro he
    rw [SensorHandle.pos_inj] at he
    rcases hh with rfl | rfl
    · exact hm he.symm
    · exact hs he.symm
  simp [recordHandle, hne]

section Records
variable [FloatOps F] (H : Stml0xxHeader) (K : Kernel) (b : SensorData)

theorem setEnable_oneShot {h : SensorHandle}
    (hh : h = .ID_MOTION_DETECT ∨ h = .ID_STATIONARY_DETECT) :
    (s.setEnable H K h 0).2 = (s.wake H K false h 0).2.recordHandle h false := by
  rcases hh with rfl | rfl <;> rfl

theorem setEnable_oneShot_setup {h : SensorHandle}
    (hh : h = .ID_MOTION_DETECT ∨ h = .ID_STATIONARY_DETECT) :
    SameSetup s (s.setEnable H K h 0).2 := by
  rw [setEnable_oneShot H K hh]
  exact (wake_setup H K false h 0).trans (recordHandle_setup false hh)

theorem setEnable_oneShot_signal {h : SensorHandle}
    (hh : h = .ID_MOTION_DETECT ∨ h = .ID_STATIONARY_DETECT) :
    (s.setEnable H K h 0).2.signal = s.signal := by
  rw [setEnable_oneShot H K hh]
  exact wake_signal H K false h 0

theorem gyroGame_fuses : Fuses s s.gyroGame.1 := by
  simp only [gyroGame]
  split_ifs <;> exact ⟨_, _, _, _, _, rfl⟩

theorem gyroRotation_fuses : Fuses s s.gyroRotation.1 := by
  simp only [gyroRotation]
  split_ifs <;> exact ⟨_, _, _, _, _, rfl⟩

theorem onGyro_fuses : Fuses s (s.onGyro b).1 := by
  have hstore : Fuses s (s.storeGyro b) := ⟨_, _, _, _, _, rfl⟩
  exact (hstore.trans gyroGame_fuses).trans gyroRotation_fuses

theorem onAccel_fuses : Fuses s (s.onAccel b).1 := by
  simp only [onAccel]
  split_ifs <;> exact ⟨_, _, _, _, _, rfl⟩

/-- The state after a record: bookkeeping, fusion, the step counter or a one-shot disable. -/
inductive Effect (old : HubSensors F) : HubSensors F → Prop
  | books {new : HubSensors F} (h : Books old new) : Effect old new
  | fuses {new : HubSensors F} (h : Fuses old new) : Effect old new
  | steps {new : HubSensors F} (ht : b.type = .DT_STEP_COUNTER)
      (h : new = (old.onStepCounter b).1) : Effect old new
  | oneShot {new : HubSensors F} {x : SensorHandle}
      (hx : x = .ID_MOTION_DETECT ∨ x = .ID_STATIONARY_DETECT)
      (h : new = (old.setEnable H K x 0).2) : Effect old new

theorem handleRecord_effect : Effect H K b s (s.handleRecord H K b).1 := by
  rw [handleRecord]
  cases ht : b.type with
  | DT_ACCEL => exact .fuses (onAccel_fuses b)
  | DT_GYRO => exact .fuses (onGyro_fuses b)
  | DT_GLANCE => exact .fuses ⟨_, _, _, _, _, rfl⟩
  | DT_MAG => exact .fuses ⟨_, _, _, _, _, rfl⟩
  | DT_STEP_COUNTER => exact .steps ht rfl
  | DT_GYRO_CAL => exact .books (onCal_books K rfl rfl)
  | DT_ACCEL_CAL => exact .books (onCal_books K rfl rfl)
  | DT_RESET => exact .books (onReset_books H K b)
  | DT_MOTION_DETECT => exact .oneShot (Or.inl rfl) rfl
  | DT_STATIONARY_DETECT => exact .oneShot (Or.inr rfl) rfl
  | _ => exact .books Books.refl

theorem handleRecord_setup : SameSetup s (s.handleRecord H K b).1 := by
  cases handleRecord_effect (s := s) H K b with
  | books h => exact h.setup
  | fuses h => exact h.setup
  | steps _ h =>
    rw [h]
    exact ⟨rfl, rfl, rfl, fun _ _ _ => rfl⟩
  | oneShot hx h =>
    rw [h]
    exact setEnable_oneShot_setup H K hx

theorem handleRecord_signal (hb : b.type.isSample = false) :
    (s.handleRecord H K b).1.signal = s.signal := by
  rw [handleRecord]
  cases ht : b.type with
  | DT_ACCEL | DT_GYRO | DT_GLANCE | DT_MAG | DT_STEP_COUNTER =>
    rw [ht] at hb
    cases hb
  | DT_GYRO_CAL => exact (onCal_books K rfl rfl).signal
  | DT_ACCEL_CAL => exact (onCal_books K rfl rfl).signal
  | DT_RESET => exact (onReset_books H K b).signal
  | DT_MOTION_DETECT => exact setEnable_oneShot_signal H K (Or.inl rfl)
  | DT_STATIONARY_DETECT => exact setEnable_oneShot_signal H K (Or.inr rfl)
  | _ => rfl

end Records

variable [FloatOps F]

omit [FloatOps F] in
def Typed (ts : List SensorType) (es : List (Event F)) : Prop := ∀ e ∈ es, e.type ∈ ts

omit [FloatOps F] in
theorem typed_nil (ts : List SensorType) : Typed ts ([] : List (Event F)) := by
  intro e he
  cases he

omit [FloatOps F] in
theorem typed_append {ts : List SensorType} {es es' : List (Event F)} (h : Typed ts es)
    (h' : Typed ts es') : Typed ts (es ++ es') := by
  intro e he
  rcases List.mem_append.mp he with he | he
  · exact h e he
  · exact h' e he

omit [FloatOps F] in
theorem typed_single {ts : List SensorType} {e : Event F} (h : e.type ∈ ts) : Typed ts [e] := by
  intro e' he
  rw [List.mem_singleton.mp he]
  exact h

omit [FloatOps F] in
theorem typed_emit {ts : List SensorType} {flag : Bool} {e : Event F} (h : e.type ∈ ts) :
    Typed ts (emit flag e) := by
  cases flag with
  | false => exact typed_nil ts
  | true => exact typed_single h

theorem onAccel_typed (b : SensorData) : Typed (DataType.eventTypes .DT_ACCEL) (s.onAccel b).2 := by
  simp only [onAccel]
  split_ifs
  · exact typed_append (typed_emit (by simp [DataType.eventTypes]))
      (typed_emit (by simp [DataType.eventTypes]))
  · exact typed_emit (by simp [DataType.eventTypes])

theorem gyroGame_typed : Typed (DataType.eventTypes .DT_GYRO) s.gyroGame.2 := by
  simp only [gyroGame]
  split_ifs
  · exact typed_append (typed_append (typed_emit (by simp [DataType.eventTypes]))
      (typed_emit (by simp [DataType.eventTypes]))) (typed_emit (by simp [DataType.eventTypes]))
  · exact typed_emit (by simp [DataType.eventTypes])
  · exact typed_nil _

theorem gyroRotation_typed : Typed (DataType.eventTypes .DT_GYRO) s.gyroRotation.2 := by
  simp only [gyroRotation]
  split_ifs
  · exact typed_single (by simp [DataType.eventTypes])
  · exact typed_nil _

theorem onGyro_typed (b : SensorData) : Typed (DataType.eventTypes .DT_GYRO) (s.onGyro b).2 :=
  typed_append (typed_append (typed_emit (by simp [DataType.eventTypes])) gyroGame_typed)
    gyroRotation_typed

theorem onGlance_typed (b : SensorData) :
    Typed (DataType.eventTypes .DT_GLANCE) (s.onGlance b).2 := by
  have hmag : Typed (DataType.eventTypes .DT_GLANCE) (s.onMag b).2 :=
    typed_emit (by simp [DataType.eventTypes])
  exact typed_append (typed_append (typed_emit List.mem_cons_self)
    (typed_emit (List.mem_cons_of_mem _ List.mem_cons_self))) hmag

theorem handleRecord_typed (H : Stml0xxHeader) (K : Kernel) (b : SensorData) :
    Typed b.type.eventTypes (s.handleRecord H K b).2 := by
  rw [handleRecord]
  cases b.type with
  | DT_ACCEL => exact onAccel_typed b
  | DT_GYRO => exact onGyro_typed b
  | DT_GLANCE => exact onGlance_typed b
  | DT_MAG => exact typed_emit (by simp [DataType.eventTypes])
  | DT_GYRO_CAL => exact typed_nil _
  | DT_ACCEL_CAL => exact typed_nil _
  | DT_RESET => exact typed_nil _
  | other code => exact typed_nil _
  | _ => exact typed_single List.mem_cons_self

omit [FloatOps F] in
def fanOut (s : HubSensors F) : DataType → ℕ
  | .DT_ACCEL => (s.enabled .ACCEL).toNat + (s.enabled .GEOMAG_RV).toNat
  | .DT_GYRO => (s.enabled .GYRO).toNat + (s.enabled .GAME_RV).toNat +
      (s.enabled .LINEAR_ACCEL).toNat + (s.enabled .GRAVITY).toNat +
      (s.enabled .ROTATION_VECT).toNat
  | .DT_GLANCE => (s.isHandleEnabled .ID_MOTO_GLANCE_GESTURE).toNat +
      (s.isHandleEnabled .ID_GLANCE_GESTURE).toNat + (s.enabled .MAG).toNat
  | .DT_MAG => (s.enabled .MAG).toNat
  | .DT_GYRO_CAL | .DT_ACCEL_CAL | .DT_RESET | .other _ => 0
  | _ => 1

omit [FloatOps F] in
theorem SameSetup.fanOut (h : SameSetup s t) (d : DataType) : t.fanOut d = s.fanOut d := by
  have hmoto := h.handles .ID_MOTO_GLANCE_GESTURE (by decide) (by decide)
  have hglance := h.handles .ID_GLANCE_GESTURE (by decide) (by decide)
  cases d <;> simp only [HubSensors.fanOut, h.enabled, isHandleEnabled_eq, hmoto, hglance]

theorem gyroGame_length :
    s.gyroGame.2.length = (s.enabled .GAME_RV).toNat + (s.enabled .LINEAR_ACCEL).toNat +
      (s.enabled .GRAVITY).toNat := by
  have hgame (i : FusionEnum) : s.fuseGame.enabled i = s.enabled i := rfl
  have hla (i : FusionEnum) : s.fuseGame.fuseLAGravity.enabled i = s.enabled i := rfl
  rw [gyroGame]
  cases hg : s.enabled .GAME_RV <;> cases hl : s.enabled .LINEAR_ACCEL <;>
    cases hr : s.enabled .GRAVITY <;> simp [hgame, hla, hg, hl, hr]

theorem onGyro_length (b : SensorData) : (s.onGyro b).2.length = s.fanOut .DT_GYRO := by
  unfold onGyro
  extract_lets t gyro game rotation
  have ht (i : FusionEnum) : t.enabled i = s.enabled i := rfl
  have hrot : rotation.2.length = (s.enabled .ROTATION_VECT).toNat := by
    have he : game.1.enabled .ROTATION_VECT = s.enabled .ROTATION_VECT :=
      gyroGame_fuses.setup.enabled _
    unfold rotation gyroRotation
    rw [he]
    cases s.enabled .ROTATION_VECT <;> rfl
  have hgame : game.2.length = _ := gyroGame_length
  simp only [List.length_append, hrot, hgame, gyro, emit_length, ht, fanOut]
  omega

theorem onAccel_length (b : SensorData) : (s.onAccel b).2.length = s.fanOut .DT_ACCEL := by
  have ht (i : FusionEnum) : (s.storeAccel b).enabled i = s.enabled i := rfl
  have hf (i : FusionEnum) : (s.storeAccel b).fuseGeomag.enabled i = s.enabled i := rfl
  simp only [onAccel]
  cases hg : s.enabled .GEOMAG_RV <;> cases hr : s.enabled .ROTATION_VECT <;>
    simp [fanOut, ht, hf, hg, hr]

theorem handleRecord_length (H : Stml0xxHeader) (K : Kernel) (b : SensorData) :
    (s.handleRecord H K b).2.length = s.fanOut b.type := by
  rw [handleRecord]
  cases b.type with
  | DT_ACCEL => exact onAccel_length b
  | DT_GYRO => exact onGyro_length b
  | DT_GLANCE =>
    have hm : (s.onMag b).2.length = (s.enabled .MAG).toNat := emit_length _ _
    simp only [onGlance, List.length_append, emit_length, hm, fanOut]
  | DT_MAG => exact emit_length _ _
  | _ => rfl

end HubSensors
end Cedric.Hub
