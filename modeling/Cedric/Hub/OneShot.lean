import Cedric.Hub.Trace
import Cedric.Hub.WakeMask

/-!
# The one-shot sensors

Motion and stationary detection disable themselves after an event. The bit in
`mEnabledHandles` is the armed flag of such a sensor, but unlike `DT_GLANCE` the
two record types are reported without looking at it.
-/

namespace Cedric.Hub

open BitFlags OneShot Runs

variable {F : Type}

inductive OneShotSensor
  | MOTION_DETECT | STATIONARY_DETECT
  deriving DecidableEq

namespace OneShotSensor

def handle : OneShotSensor → SensorHandle
  | .MOTION_DETECT => .ID_MOTION_DETECT
  | .STATIONARY_DETECT => .ID_STATIONARY_DETECT

def dataType : OneShotSensor → DataType
  | .MOTION_DETECT => .DT_MOTION_DETECT
  | .STATIONARY_DETECT => .DT_STATIONARY_DETECT

def eventType : OneShotSensor → SensorType
  | .MOTION_DETECT => .MOTION_DETECT
  | .STATIONARY_DETECT => .STATIONARY_DETECT

variable (x : OneShotSensor)

def mark : Observation F → Mark
  | .request handle en =>
    if handle = x.handle then (if en ≠ 0 then .arm else .disarm) else .other
  | .event e => if e.type = x.eventType then .fire else .other

def Expected (s : HubSensors F) : Input → Prop
  | .record b => b.type = x.dataType → s.isHandleEnabled x.handle = true
  | _ => True

theorem mark_events {es : List (Event F)} (h : ∀ e ∈ es, e.type ≠ x.eventType) (b : Bool) :
    armed x.mark b (es.map Observation.event) = b ∧
      Guarded x.mark b (es.map Observation.event) := by
  induction es generalizing b with
  | nil => exact ⟨rfl, trivial⟩
  | cons e es ih =>
    have hmark : x.mark (.event e) = .other := if_neg (h e List.mem_cons_self)
    have hstep : armedStep x.mark b (.event e) = b := by rw [armedStep, hmark]
    obtain ⟨harmed, hguard⟩ := ih (fun e' he' => h e' (List.mem_cons_of_mem e he')) b
    simp only [List.map_cons, Guarded, armed, List.foldl_cons, hstep, hmark]
    exact ⟨harmed, fun h' => absurd h' (by decide), hguard⟩

theorem eventType_not_mem {d : DataType} (h : d ≠ x.dataType) : x.eventType ∉ d.eventTypes := by
  cases x <;> cases d <;> simp_all [eventType, dataType, DataType.eventTypes]

end OneShotSensor

namespace HubSensors

variable {s t : HubSensors F} (x : OneShotSensor)

theorem isHandleEnabled_congr (h : t.mEnabledHandles = s.mEnabledHandles) (k : SensorHandle) :
    t.isHandleEnabled k = s.isHandleEnabled k := by
  rw [isHandleEnabled, isHandleEnabled, h]

theorem Books.handles (h : Books s t) : t.mEnabledHandles = s.mEnabledHandles := by
  obtain ⟨pending, errors, sent, log, -, rfl⟩ := h
  rfl

theorem Fuses.handles (h : Fuses s t) : t.mEnabledHandles = s.mEnabledHandles := by
  obtain ⟨data, ready, geomag, game, rotation, rfl⟩ := h
  rfl

variable [FloatOps F] {H : Stml0xxHeader} {K : Kernel}

theorem setEnable_isHandleEnabled (h k : SensorHandle) (en : ℤ) :
    (s.setEnable H K h en).2.isHandleEnabled k =
      if h = k then decide (en ≠ 0) else s.isHandleEnabled k := by
  obtain ⟨-, hh⟩ := setEnable_wake (s := s) (H := H) K h en
  simp only [isHandleEnabled_eq, hh, has_assign, SensorHandle.pos_inj]

theorem handleRecord_oneShot {b : SensorData} (hb : b.type = x.dataType) :
    s.handleRecord H K b =
      ((s.setEnable H K x.handle 0).2, [b.oneShotEvent x.handle x.eventType]) := by
  cases x with
  | MOTION_DETECT => simp only [handleRecord, hb, OneShotSensor.dataType]; rfl
  | STATIONARY_DETECT => simp only [handleRecord, hb, OneShotSensor.dataType]; rfl

theorem handleRecord_isHandleEnabled {b : SensorData} (hb : b.type ≠ x.dataType) :
    (s.handleRecord H K b).1.isHandleEnabled x.handle = s.isHandleEnabled x.handle := by
  by_cases ho : ∃ y : OneShotSensor, b.type = y.dataType
  · obtain ⟨y, hy⟩ := ho
    have hne : y.handle ≠ x.handle := by
      rw [hy] at hb
      cases x <;> cases y <;> first | exact absurd rfl hb | decide
    rw [handleRecord_oneShot y hy]
    dsimp only
    rw [setEnable_isHandleEnabled, if_neg hne]
  · have hm : b.type ≠ .DT_MOTION_DETECT := fun h => ho ⟨.MOTION_DETECT, h⟩
    have hs : b.type ≠ .DT_STATIONARY_DETECT := fun h => ho ⟨.STATIONARY_DETECT, h⟩
    apply isHandleEnabled_congr
    rw [handleRecord]
    cases ht : b.type with
    | DT_MOTION_DETECT => exact absurd ht hm
    | DT_STATIONARY_DETECT => exact absurd ht hs
    | DT_ACCEL => exact (onAccel_fuses b).handles
    | DT_GYRO => exact (onGyro_fuses b).handles
    | DT_GYRO_CAL => exact (onCal_books K rfl rfl).handles
    | DT_ACCEL_CAL => exact (onCal_books K rfl rfl).handles
    | DT_RESET => exact (onReset_books H K b).handles
    | _ => rfl

theorem feed_armed (list : List SensorT) (i : Input) :
    armed x.mark (s.isHandleEnabled x.handle) (s.feed H K list i).2 =
      (s.feed H K list i).1.isHandleEnabled x.handle := by
  cases i with
  | setEnable h en =>
    change armedStep x.mark (s.isHandleEnabled x.handle) (.request h en) =
      (s.setEnable H K h en).2.isHandleEnabled x.handle
    rw [setEnable_isHandleEnabled, armedStep, OneShotSensor.mark]
    by_cases hh : h = x.handle
    · by_cases hen : en = 0 <;> simp [hh, hen]
    · simp only [hh, ↓reduceIte]
  | setDelay h ns =>
    obtain ⟨-, -, hh, -⟩ := setDelay_masks (s := s) K list h ns
    exact (isHandleEnabled_congr hh x.handle).symm
  | readEnd type => exact (isHandleEnabled_congr (s.pendingDump_books H K type).handles _).symm
  | record b =>
    by_cases hb : b.type = x.dataType
    · simp only [feed]
      rw [handleRecord_oneShot x hb]
      dsimp only
      rw [setEnable_isHandleEnabled, if_pos rfl]
      simp [armed, armedStep, OneShotSensor.mark, SensorData.oneShotEvent, SensorData.event]
    · simp only [feed]
      rw [handleRecord_isHandleEnabled x hb]
      refine (x.mark_events (fun e he htype => ?_) _).1
      have hmem := handleRecord_typed H K b e he
      rw [htype] at hmem
      exact x.eventType_not_mem hb hmem

theorem feed_guarded_iff (list : List SensorT) (i : Input) :
    Guarded x.mark (s.isHandleEnabled x.handle) (s.feed H K list i).2 ↔ x.Expected s i := by
  cases i with
  | setEnable h en =>
    refine iff_of_true ⟨fun hfire => ?_, trivial⟩ trivial
    rw [OneShotSensor.mark] at hfire
    split_ifs at hfire
  | setDelay h ns => exact Iff.rfl
  | readEnd type => exact Iff.rfl
  | record b =>
    by_cases hb : b.type = x.dataType
    · simp only [feed]
      rw [handleRecord_oneShot x hb]
      simp [Guarded, OneShotSensor.mark, OneShotSensor.Expected, SensorData.oneShotEvent,
        SensorData.event, hb]
    · refine iff_of_true (x.mark_events (fun e he htype => ?_) _).2 fun h => absurd h hb
      have hmem := handleRecord_typed H K b e he
      rw [htype] at hmem
      exact x.eventType_not_mem hb hmem

theorem trace_guarded_iff (list : List SensorT) (ops : List Op) :
    Guarded x.mark (s.isHandleEnabled x.handle) (transduce (operate H K list) s ops).2 ↔
      Along (fun t i => t.next H K list i) x.Expected s (s.trace H K list ops) := by
  rw [← transduce_trace]
  exact guarded_transduce (fun t => t.isHandleEnabled x.handle)
    (fun t i => t.feed_armed x list i) (fun t i => t.feed_guarded_iff x list i) s _

end HubSensors

/-- Both sensors obey the one-shot law in a run exactly if each record of theirs is
decoded while its handle is enabled. -/
theorem oneShot_firesOnce_iff [FloatOps F] (H : Stml0xxHeader) (K : Kernel)
    (list : List SensorT) (flags16 : Option (BitVec 16)) (flags24 : Option (BitVec 32))
    (ops : List Op) :
    (∀ x : OneShotSensor, FiresOnce x.mark
        (transduce (HubSensors.operate H K list)
          (HubSensors.start flags16 flags24 : HubSensors F) ops).2) ↔
      ∀ x : OneShotSensor, Along (fun t i => t.next H K list i) x.Expected
        (HubSensors.start flags16 flags24 : HubSensors F)
        ((HubSensors.start flags16 flags24 : HubSensors F).trace H K list ops) := by
  refine forall_congr' fun x => ?_
  have hoff : (HubSensors.start flags16 flags24 : HubSensors F).isHandleEnabled x.handle = false := by
    rw [HubSensors.isHandleEnabled_eq]
    simp [HubSensors.start]
  rw [firesOnce_iff, ← HubSensors.trace_guarded_iff, hoff]

/-- Two motion records that were queued after one activation are both reported. -/
theorem queued_motion_fires_twice :
    ¬ ∀ x : OneShotSensor, FiresOnce x.mark
      (transduce (HubSensors.operate .numbered (fun _ _ => 0) (sSensorList true))
        (HubSensors.start none none : HubSensors ℚ)
        [.setEnable .ID_MOTION_DETECT 1, .readEvents (.blank (.other 0)) 16
          [.full (.blank .DT_MOTION_DETECT), .full (.blank .DT_MOTION_DETECT)]]).2 := by
  intro h
  have honce := (h .MOTION_DETECT).once _ (List.prefix_refl _)
  exact absurd honce (by decide +kernel)

end Cedric.Hub
