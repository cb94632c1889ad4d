import Cedric.Hub.GameRestart
import Cedric.Hub.GravityMagnitude

/-!
# Two runs across a reset of the six-axis sensors

`history` carries what the last reset found stored. After it, and until one of
the sensors is enabled again, the algorithm and its output stay as the reset
left them. Two histories whose resets found the same things lead to the same
events; the reset keeps the old output in free fall and fuses the stored
samples otherwise, so other histories need not.
-/

namespace Cedric.Hub

open Runs GameRotationVector

variable {F : Type}

def sixAxisHandles : List SensorHandle := [.ID_GAME_RV, .ID_LA, .ID_GRAVITY]

def sixAxisSensors : List FusionEnum := [.GAME_RV, .LINEAR_ACCEL, .GRAVITY]

def sixAxisTypes : List SensorType := [.GAME_ROTATION_VECTOR, .LINEAR_ACCELERATION, .GRAVITY]

def Observation.isSixAxis : Observation F → Bool
  | .event e => decide (e.type ∈ sixAxisTypes)
  | .request _ _ => false

theorem filter_sixAxis_typed {ts : List SensorType} {es : List (Event F)}
    (h : HubSensors.Typed ts es)
    (hts : ∀ type ∈ ts, type ∉ sixAxisTypes) :
    (es.map Observation.event).filter Observation.isSixAxis = [] := by
  rw [List.filter_eq_nil_iff]
  intro o ho hsix
  obtain ⟨e, he, heq⟩ := List.mem_map.mp ho
  rw [← heq] at hsix
  exact hts e.type (h e he) (of_decide_eq_true hsix)

namespace HubSensors

variable {s t : HubSensors F}

def flagged (s : HubSensors F) : Input → HubSensors F
  | .setEnable x en => s.setFlag x (decide (en ≠ 0))
  | _ => s

def accelAfter [FloatOps F] (s : HubSensors F) : Input → CartData F
  | .record b => if b.type = .DT_ACCEL then b.cart 0 CONVERT_A else s.mFusionData.accel
  | _ => s.mFusionData.accel

/-- The two states agree on what the six-axis sensors carry over to later samples. -/
structure SameSix (s t : HubSensors F) : Prop where
  enabled : ∀ i ∈ sixAxisSensors, s.enabled i = t.enabled i
  state : s.mGameRV.Same t.mGameRV
  rot : s.mFusionData.gameRotation.Same t.mFusionData.gameRotation

theorem SameSix.running (h : SameSix s t) : s.sixAxisRunning = t.sixAxisRunning := by
  rw [sixAxisRunning, sixAxisRunning, h.enabled .GAME_RV (by decide),
    h.enabled .LINEAR_ACCEL (by decide), h.enabled .GRAVITY (by decide)]

section Step
variable [FloatOps F] (H : Stml0xxHeader) (K : Kernel) (list : List SensorT)

theorem onGyro_enabled (b : SensorData) : (s.onGyro b).1.enabled = s.enabled := by
  obtain ⟨-, -, -, -, -, hgame⟩ := gyroGame_nine (s := s.storeGyro b)
  have hrot (u : HubSensors F) : u.gyroRotation.1.enabled = u.enabled := by
    simp only [gyroRotation]
    split_ifs <;> rfl
  exact (hrot _).trans hgame

theorem next_enabled (i : Input) : (s.next H K list i).enabled = (s.flagged i).enabled := by
  have hstep := next_algo (s := s) H K list i
  generalize s.next H K list i = t at hstep ⊢
  cases hstep with
  | idle hi h =>
    have halgo : t.enabled = s.enabled := congrArg (fun u => u.enabled) h
    rw [halgo]
    cases i with
    | setEnable x en =>
      have hnone : x.fusionIndex = none := by
        cases x <;> first | rfl | cases hi
      rw [flagged, setFlag, hnone]
    | _ => rfl
  | enable hx h =>
    have halgo := congrArg (fun u => u.enabled) h
    refine Eq.trans halgo ?_
    obtain ⟨-, -, -, -, hnine⟩ := resetNineAxis_game (s := s.flagged (.setEnable _ _))
    refine Eq.trans ?_ hnine
    change HubSensors.enabled (resetSixAxis _) = _
    rw [resetSixAxis]
    split_ifs <;> rfl
  | accel hb h =>
    rw [h, onAccel_state]
    split_ifs <;> rfl
  | gyro hb h =>
    rw [h, onGyro_enabled]
    rfl
  | mag hb h =>
    rw [h]
    rfl

theorem resets_accel : s.resetNineAxis.resetSixAxis.mFusionData.accel = s.mFusionData.accel := by
  obtain ⟨-, haccel, -⟩ := resetNineAxis_game (s := s)
  rw [← haccel, resetSixAxis]
  split_ifs <;> rfl

theorem next_accel (i : Input) :
    (s.next H K list i).mFusionData.accel = s.accelAfter i := by
  have hstep := next_algo (s := s) H K list i
  generalize s.next H K list i = t at hstep ⊢
  cases hstep with
  | idle hi h =>
    have halgo : t.mFusionData = s.mFusionData := congrArg (fun u => u.mFusionData) h
    rw [halgo]
    cases i with
    | record b =>
      have hb : b.type ≠ .DT_ACCEL := by
        intro hb
        rw [Input.movesAlgo, hb] at hi
        cases hi
      rw [accelAfter, if_neg hb]
    | _ => rfl
  | @enable x en hx h =>
    have halgo : t.mFusionData = _ := congrArg (fun u => u.mFusionData) h
    have hdata := (setFlag_data (s := s) x (decide (en ≠ 0))).2
    rw [halgo]
    exact (resets_accel (s := s.setFlag x (decide (en ≠ 0)))).trans
      (congrArg (fun d => d.accel) hdata)
  | accel hb h =>
    rw [h, onAccel_state, accelAfter, if_pos hb]
    split_ifs <;> rfl
  | gyro hb h =>
    rw [h, accelAfter, if_neg (by rw [hb]; decide)]
    simp only [onGyro, gyroGame, gyroRotation]
    split_ifs <;> rfl
  | mag hb h =>
    rw [h, accelAfter, if_neg (by rcases hb with hb | hb <;> rw [hb] <;> decide)]
    rfl

omit [FloatOps F] in
theorem SameSix.flagged (h : SameSix s t) (i : Input) :
    ∀ j ∈ sixAxisSensors, (s.flagged i).enabled j = (t.flagged i).enabled j := by
  intro j hj
  cases i with
  | setEnable x en =>
    simp only [HubSensors.flagged, setFlag_enabled, h.enabled j hj]
  | _ => exact h.enabled j hj

end Step

section Exact
variable [RootField F] (H : Stml0xxHeader) (K K' : Kernel) (list : List SensorT)

theorem SameSix.next (h : SameSix s t) {i : Input} (hcall : s.gameCall i = t.gameCall i)
    (hfed : s.gameCall i = none ∨ s.mFusionData.accel = t.mFusionData.accel) :
    SameSix (s.next H K list i) (t.next H K' list i) := by
  have hstep := next_game (s := s) H K list i
  have hstep' := next_game (s := t) H K' list i
  have hflags (j : FusionEnum) (hj : j ∈ sixAxisSensors) :
      (s.next H K list i).enabled j = (t.next H K' list i).enabled j := by
    rw [next_enabled, next_enabled]
    exact h.flagged i j hj
  rw [← hcall] at hstep'
  cases hc : s.gameCall i with
  | none =>
    rw [hc] at hstep hstep'
    refine ⟨hflags, ?_, ?_⟩
    · rw [hstep.1, hstep'.1]
      exact h.state
    · rw [hstep.2, hstep'.2]
      exact h.rot
  | some call =>
    have haccel := hfed.resolve_left (by rw [hc]; exact Option.some_ne_none call)
    rw [hc] at hstep hstep'
    obtain ⟨hstate, hout⟩ := fuse_same h.state h.rot s.mFusionData.accel call.1 call.2
    refine ⟨hflags, ?_, ?_⟩
    · rw [hstep.1, hstep'.1, ← haccel]
      exact hstate
    · rw [hstep.2, hstep'.2, ← haccel, hout]
      exact ⟨rfl, rfl, rfl, rfl, rfl⟩

end Exact

section Events
variable [FloatOps F]

/-- The six-axis events of a gyro record, by the flags and the samples they are made of. -/
def sixAxisEvents (game la gravity : Bool) (accel : CartData F) (rot : QuatData F) :
    List (Event F) :=
  emit game (rot.event .ID_GAME_RV .GAME_ROTATION_VECTOR) ++
    emit la ((LinearAccelGravity.fuse accel rot).2.event .ID_LA .LINEAR_ACCELERATION
      SENSOR_STATUS_ACCURACY_HIGH) ++
    emit gravity ((LinearAccelGravity.fuse accel rot).1.event .ID_GRAVITY .GRAVITY
      SENSOR_STATUS_ACCURACY_HIGH)

theorem gyroGame_sixAxis : s.gyroGame.2 =
    sixAxisEvents (s.enabled .GAME_RV) (s.enabled .LINEAR_ACCEL) (s.enabled .GRAVITY)
      s.mFusionData.accel s.fuseGame.mFusionData.gameRotation := by
  simp only [gyroGame]
  split_ifs with hrun hlag
  · rfl
  · have hoff := (Bool.or_eq_false_iff).mp (Bool.eq_false_of_not_eq_true hlag)
    have hla : s.enabled .LINEAR_ACCEL = false := hoff.1
    have hgravity : s.enabled .GRAVITY = false := hoff.2
    rw [hla, hgravity, sixAxisEvents]
    exact ((List.append_nil _).trans (List.append_nil _)).symm
  · have hoff := (Bool.or_eq_false_iff).mp (Bool.eq_false_of_not_eq_true hrun)
    obtain ⟨hgame, hla⟩ := (Bool.or_eq_false_iff).mp hoff.1
    rw [hgame, hla, hoff.2]
    rfl

theorem sixAxisEvents_filter (game la gravity : Bool) (accel : CartData F) (rot : QuatData F) :
    ((sixAxisEvents game la gravity accel rot).map Observation.event).filter
      Observation.isSixAxis = (sixAxisEvents game la gravity accel rot).map .event := by
  cases game <;> cases la <;> cases gravity <;> rfl

variable (H : Stml0xxHeader) (K : Kernel) (list : List SensorT)

theorem feed_gyro {b : SensorData} (hb : b.type = .DT_GYRO) :
    (s.feed H K list (.record b)).2.filter Observation.isSixAxis =
      (s.storeGyro b).gyroGame.2.map .event := by
  have hrec : s.handleRecord H K b = s.onGyro b := by simp only [handleRecord, hb]
  have hemit : Typed [.GYROSCOPE] (emit (s.enabled .GYRO)
      ((s.storeGyro b).mFusionData.gyro.event .ID_G .GYROSCOPE SENSOR_STATUS_ACCURACY_HIGH)) :=
    typed_emit (by simp)
  have hgyro := filter_sixAxis_typed hemit (by decide)
  have hrot (u : HubSensors F) :
      (u.gyroRotation.2.map Observation.event).filter Observation.isSixAxis = [] := by
    have htyped : Typed [.ROTATION_VECTOR] u.gyroRotation.2 := by
      simp only [gyroRotation]
      split_ifs
      · exact typed_single (by simp)
      · exact typed_nil _
    exact filter_sixAxis_typed htyped (by decide)
  simp only [feed, hrec, onGyro, List.map_append, List.filter_append]
  rw [hrot, List.append_nil]
  refine (congrArg (· ++ _) hgyro).trans ?_
  rw [List.nil_append, gyroGame_sixAxis, sixAxisEvents_filter]

theorem feed_other {b : SensorData} (hb : b.type ≠ .DT_GYRO) :
    (s.feed H K list (.record b)).2.filter Observation.isSixAxis = [] := by
  refine filter_sixAxis_typed (handleRecord_typed H K b) ?_
  generalize b.type = d at hb
  cases d with
  | DT_GYRO => exact absurd rfl hb
  | other code =>
    intro type htype
    cases htype
  | _ => decide

end Events

section Exact
variable [RootField F] (H : Stml0xxHeader) (K K' : Kernel) (list : List SensorT)

def SameInput (s t : HubSensors F) : Prop :=
  SameSix s t ∧ s.mFusionData.accel = t.mFusionData.accel

theorem SameSix.gameCall_record (h : SameSix s t) (b : SensorData) :
    s.gameCall (.record b) = t.gameCall (.record b) := by
  rw [gameCall, gameCall, h.running]

theorem SameSix.record (h : SameSix s t) (b : SensorData)
    (hfed : b.type ≠ .DT_GYRO ∨ s.mFusionData.accel = t.mFusionData.accel) :
    SameSix (s.next H K list (.record b)) (t.next H K' list (.record b)) :=
  h.next H K K' list (h.gameCall_record b) (hfed.imp_left fun hb => if_neg fun hc => hb hc.1)

theorem SameInput.record (h : SameInput s t) (b : SensorData) :
    SameInput (s.next H K list (.record b)) (t.next H K' list (.record b)) ∧
      (s.feed H K list (.record b)).2.filter Observation.isSixAxis =
        (t.feed H K' list (.record b)).2.filter Observation.isSixAxis := by
  obtain ⟨hsix, haccel⟩ := h
  refine ⟨⟨hsix.record H K K' list b (Or.inr haccel), ?_⟩, ?_⟩
  · rw [next_accel, next_accel, accelAfter, accelAfter, haccel]
  by_cases hb : b.type = .DT_GYRO
  · have hout := (fuse_same hsix.state hsix.rot s.mFusionData.accel (b.cart 0 CONVERT_G) false).2
    have hrot : (s.storeGyro b).fuseGame.mFusionData.gameRotation =
        (t.storeGyro b).fuseGame.mFusionData.gameRotation := by
      refine (congrArg (fun r => r.1) hout).trans ?_
      rw [haccel]
      rfl
    have hfields : (s.storeGyro b).mFusionData.accel = (t.storeGyro b).mFusionData.accel := haccel
    rw [feed_gyro H K list hb, feed_gyro H K' list hb, gyroGame_sixAxis, gyroGame_sixAxis, hrot,
      hfields]
    change (sixAxisEvents (s.enabled .GAME_RV) (s.enabled .LINEAR_ACCEL) (s.enabled .GRAVITY)
      _ _).map _ = _
    rw [hsix.enabled .GAME_RV (by decide), hsix.enabled .LINEAR_ACCEL (by decide),
      hsix.enabled .GRAVITY (by decide)]
    rfl
  · rw [feed_other H K list hb, feed_other H K' list hb]

theorem SameInput.records (h : SameInput s t) (records : List SensorData) :
    (transduce (feed H K list) s (records.map .record)).2.filter Observation.isSixAxis =
      (transduce (feed H K' list) t (records.map .record)).2.filter Observation.isSixAxis := by
  induction records generalizing s t with
  | nil => simp only [List.map_nil, transduce, List.filter_nil]
  | cons b records ih =>
    obtain ⟨hnext, hout⟩ := h.record H K K' list b
    simp only [List.map_cons, transduce, List.filter_append, hout]
    exact congrArg _ (ih hnext)

omit [RootField F] in
theorem setFlag_running {x : SensorHandle} (hx : x ∈ sixAxisHandles) :
    (s.setFlag x true).sixAxisRunning = true := by
  simp only [sixAxisRunning, setFlag_enabled]
  simp only [sixAxisHandles, List.mem_cons, List.not_mem_nil, or_false] at hx
  rcases hx with hx | hx | hx <;> rw [hx] <;> simp [SensorHandle.fusionIndex]

theorem gameCall_enable {x : SensorHandle} (hx : x ∈ sixAxisHandles) :
    s.gameCall (.setEnable x 1) = none := by
  refine if_neg fun h => ?_
  have hon := setFlag_running (s := s) hx
  rw [show (true : Bool) = decide ((1 : ℤ) ≠ 0) by decide, h.2] at hon
  cases hon

def enables (xs : List SensorHandle) : List Input := xs.map fun x => .setEnable x 1

theorem SameSix.enables (h : SameSix s t) (xs : List SensorHandle)
    (hxs : ∀ x ∈ xs, x ∈ sixAxisHandles) :
    SameSix (transduce (feed H K list) s (enables xs)).1
        (transduce (feed H K' list) t (enables xs)).1 ∧
      (transduce (feed H K list) s (enables xs)).2.filter Observation.isSixAxis =
        (transduce (feed H K' list) t (enables xs)).2.filter Observation.isSixAxis := by
  induction xs generalizing s t with
  | nil =>
    simp only [HubSensors.enables, List.map_nil, transduce, List.filter_nil, and_true]
    exact h
  | cons x xs ih =>
    have hx := hxs x List.mem_cons_self
    have hnext := h.next H K K' list (i := .setEnable x 1)
      ((gameCall_enable hx).trans (gameCall_enable hx).symm) (Or.inl (gameCall_enable hx))
    exact ih hnext fun y hy => hxs y (List.mem_cons_of_mem x hy)

/-- The later events are the same: the sensors are enabled again, the next record is an
accel sample, and any records follow. -/
def ResumesAlike (s t : HubSensors F) : Prop :=
  ∀ (xs : List SensorHandle) (first : SensorData) (records : List SensorData),
    (∀ x ∈ xs, x ∈ sixAxisHandles) → first.type = .DT_ACCEL →
    (transduce (feed H K list) s
        (HubSensors.enables xs ++ .record first :: records.map .record)).2.filter
        Observation.isSixAxis =
      (transduce (feed H K' list) t
        (HubSensors.enables xs ++ .record first :: records.map .record)).2.filter
        Observation.isSixAxis

theorem SameSix.resumesAlike (h : SameSix s t) : ResumesAlike H K K' list s t := by
  intro xs first records hxs hfirst
  obtain ⟨hsix, hout⟩ := h.enables H K K' list xs hxs
  have hgyro : first.type ≠ .DT_GYRO := by
    rw [hfirst]
    decide
  simp only [transduce_append, List.filter_append, hout]
  generalize (transduce (feed H K list) s (HubSensors.enables xs)).1 = u at hsix ⊢
  generalize (transduce (feed H K' list) t (HubSensors.enables xs)).1 = v at hsix ⊢
  have hinput : SameInput (u.next H K list (.record first)) (v.next H K' list (.record first)) := by
    refine ⟨hsix.record H K K' list first (Or.inl hgyro), ?_⟩
    rw [next_accel, next_accel, accelAfter, accelAfter, if_pos hfirst, if_pos hfirst]
  simp only [transduce, List.filter_append]
  rw [feed_other H K list hgyro, feed_other H K' list hgyro]
  exact congrArg _ (hinput.records H K K' list records)

def resetAfter (s : HubSensors F) (last : Option (Stored F)) (i : Input) : Option (Stored F) :=
  match s.gameCall i with
  | some (gyro, true) => some ⟨s.mFusionData.accel, gyro, s.mFusionData.gameRotation⟩
  | _ => last

def history (flags16 : Option (BitVec 16)) (flags24 : Option (BitVec 32)) (is : List Input) :
    HubSensors F × Option (Stored F) :=
  is.foldl (fun p i => (p.1.next H K list i, p.1.resetAfter p.2 i)) (start flags16 flags24, none)

/-- The history ends with the three sensors disabled, and `r` is what the reset found. -/
structure EndsOff (p : HubSensors F × Option (Stored F)) (r : Stored F) : Prop where
  off : p.1.sixAxisRunning = false
  reset : p.2 = some r

structure ResetInv (p : HubSensors F × Option (Stored F)) : Prop where
  quat : p.1.mGameRV.gis.quatGyro.accuracy = ofRat 0
  rot : p.1.mFusionData.gameRotation.accuracy = ofRat 0
  left : ∀ r, EndsOff p r → ∃ st : State F, st.gis.quatGyro.accuracy = ofRat 0 ∧
    p.1.mGameRV = (fuse st r.accel r.gyro r.rot true).1 ∧
    p.1.mFusionData.gameRotation = (fuse st r.accel r.gyro r.rot true).2.1

theorem next_running (i : Input) :
    (s.next H K list i).sixAxisRunning = (s.flagged i).sixAxisRunning := by
  rw [sixAxisRunning, sixAxisRunning, next_enabled]

theorem off_of_idle {i : Input} (hc : s.gameCall i = none)
    (hoff : (s.flagged i).sixAxisRunning = false) : s.sixAxisRunning = false := by
  cases i with
  | setEnable x en =>
    cases hx : x.isNonWake with
    | true =>
      have hcall : s.gameCall (.setEnable x en) = some (s.mFusionData.gyro, true) :=
        if_pos ⟨hx, hoff⟩
      rw [hcall] at hc
      cases hc
    | false =>
      have hnone : x.fusionIndex = none := by
        cases x <;> first | rfl | cases hx
      rw [flagged, setFlag, hnone] at hoff
      exact hoff
  | _ => exact hoff

theorem on_of_plain {i : Input} {gyro : CartData F} (hc : s.gameCall i = some (gyro, false)) :
    (s.flagged i).sixAxisRunning = true := by
  cases i with
  | setEnable x en =>
    rw [gameCall] at hc
    split_ifs at hc
    cases hc
  | record b =>
    by_cases hb : b.type = .DT_GYRO ∧ s.sixAxisRunning = true
    · exact hb.2
    · rw [gameCall, if_neg hb] at hc
      cases hc
  | _ => cases hc

theorem endsOff_reset {p : HubSensors F × Option (Stored F)} {i : Input} {gyro : CartData F}
    (hc : p.1.gameCall i = some (gyro, true)) :
    EndsOff (p.1.next H K list i, p.1.resetAfter p.2 i)
      ⟨p.1.mFusionData.accel, gyro, p.1.mFusionData.gameRotation⟩ := by
  refine ⟨?_, by simp only [resetAfter, hc]⟩
  rw [next_running]
  cases i with
  | setEnable x en =>
    rw [gameCall] at hc
    split_ifs at hc with hoff
    exact hoff.2
  | record b =>
    rw [gameCall] at hc
    split_ifs at hc
    cases hc
  | _ => cases hc

theorem resetInv_start (flags16 : Option (BitVec 16)) (flags24 : Option (BitVec 32)) :
    ResetInv ((start flags16 flags24 : HubSensors F), none) :=
  ⟨rfl, rfl, fun _ h => nomatch h.reset⟩

theorem ResetInv.step {p : HubSensors F × Option (Stored F)} (h : ResetInv p) (i : Input) :
    ResetInv (p.1.next H K list i, p.1.resetAfter p.2 i) := by
  obtain ⟨s, last⟩ := p
  have hstep := next_game (s := s) H K list i
  rw [resetAfter]
  cases hc : s.gameCall i with
  | none =>
    rw [hc] at hstep
    obtain ⟨hstate, hout⟩ := hstep
    refine ⟨?_, ?_, fun r hr => ?_⟩
    · rw [hstate]
      exact h.quat
    · rw [hout]
      exact h.rot
    · have hoff : s.sixAxisRunning = false :=
        off_of_idle hc ((next_running H K list i).symm.trans hr.off)
      rw [hstate, hout]
      exact h.left r ⟨hoff, hr.reset⟩
  | some call =>
    obtain ⟨gyro, reset⟩ := call
    rw [hc] at hstep
    obtain ⟨hstate, hout⟩ := hstep
    obtain ⟨hquat, hrot⟩ := fuse_accuracy h.quat h.rot s.mFusionData.accel gyro reset
    refine ⟨?_, ?_, fun r hr => ?_⟩
    · rw [hstate]
      exact hquat
    · rw [hout]
      exact hrot
    · cases reset with
      | false =>
        have hon := (next_running H K list i).trans (on_of_plain hc)
        rw [hr.off] at hon
        cases hon
      | true =>
        have hr' := Option.some.inj hr.reset
        rw [← hr']
        exact ⟨s.mGameRV, h.quat, hstate, hout⟩

theorem resetInv_history (flags16 : Option (BitVec 16)) (flags24 : Option (BitVec 32))
    (is : List Input) : ResetInv (history H K list flags16 flags24 is : HubSensors F × _) :=
  history_induction (P := fun _ p => ResetInv p) (resetInv_start flags16 flags24)
    (fun _ i _ h => h.step H K list i) is

omit [RootField F] in
theorem enabled_of_off (hoff : s.sixAxisRunning = false) :
    ∀ i ∈ sixAxisSensors, s.enabled i = false := by
  simp only [sixAxisRunning, Bool.or_eq_false_iff] at hoff
  obtain ⟨⟨hgame, hla⟩, hgravity⟩ := hoff
  intro i hi
  simp only [sixAxisSensors, List.mem_cons, List.not_mem_nil, or_false] at hi
  rcases hi with hi | hi | hi <;> rw [hi] <;> assumption

theorem ResetInv.sameSix {p p' : HubSensors F × Option (Stored F)} (h : ResetInv p)
    (h' : ResetInv p') {r r' : Stored F} (hr : EndsOff p r) (hr' : EndsOff p' r')
    (halike : r.Alike r') : SameSix p.1 p'.1 := by
  obtain ⟨st, hst, hstate, hout⟩ := h.left r hr
  obtain ⟨st', hst', hstate', hout'⟩ := h'.left r' hr'
  obtain ⟨hsame, hrot⟩ := fuse_alike halike (hst.trans hst'.symm)
  refine ⟨fun i hi => ?_, ?_, ?_⟩
  · rw [enabled_of_off hr.off i hi, enabled_of_off hr'.off i hi]
  · rw [hstate, hstate']
    exact hsame
  · rw [hout, hout']
    exact hrot

theorem gameCall_disable (hla : s.enabled .LINEAR_ACCEL = false)
    (hgravity : s.enabled .GRAVITY = false) :
    s.gameCall (.setEnable .ID_GAME_RV 0) = some (s.mFusionData.gyro, true) := by
  refine if_pos ⟨rfl, ?_⟩
  simp [sixAxisRunning, setFlag_enabled, SensorHandle.fusionIndex, hla, hgravity]

def probe : List Input :=
  HubSensors.enables [.ID_GAME_RV] ++ .record (.blank .DT_ACCEL) ::
    [SensorData.blank .DT_GYRO].map .record

theorem freeFall_blank : FreeFall ((SensorData.blank .DT_ACCEL).cart 0 CONVERT_A : CartData F) := by
  apply freeFall_of_vec_eq_zero
  intro i
  fin_cases i <;> simp [CartData.vec, SensorData.cart, SensorData.blank, STM16TOH, ofInt]

theorem probe_events (hoff : s.sixAxisRunning = false) :
    (transduce (feed H K list) s probe).2.filter Observation.isSixAxis =
      [.event ((fuse s.mGameRV ((SensorData.blank .DT_ACCEL).cart 0 CONVERT_A)
        ((SensorData.blank .DT_GYRO).cart 0 CONVERT_G) s.mFusionData.gameRotation
        false).2.1.event .ID_GAME_RV .GAME_ROTATION_VECTOR)] := by
  have hflags := enabled_of_off hoff
  have hgyro : (SensorData.blank .DT_GYRO).type = .DT_GYRO := rfl
  have haccel : (SensorData.blank .DT_ACCEL).type = .DT_ACCEL := rfl
  have hne : (SensorData.blank .DT_ACCEL).type ≠ .DT_GYRO := by
    rw [haccel]
    decide
  have hcall : s.gameCall (.setEnable .ID_GAME_RV 1) = none := gameCall_enable (by decide)
  let t := s.next H K list (.setEnable .ID_GAME_RV 1)
  let u := t.next H K list (.record (.blank .DT_ACCEL))
  obtain ⟨hgame, hout⟩ : GameStep s t none := hcall ▸ next_game H K list (.setEnable .ID_GAME_RV 1)
  have hcall' : t.gameCall (.record (.blank .DT_ACCEL)) = none := by
    rw [gameCall, if_neg fun h => hne h.1]
  obtain ⟨hgame', hout'⟩ : GameStep t u none :=
    hcall' ▸ next_game H K list (.record (.blank .DT_ACCEL))
  have henabled (i : FusionEnum) : u.enabled i =
      if SensorHandle.fusionIndex .ID_GAME_RV = some i then true else s.enabled i := by
    rw [next_enabled]
    change t.enabled i = _
    rw [next_enabled, flagged, setFlag_enabled]
    rfl
  have hsplit : (transduce (feed H K list) s probe).2.filter Observation.isSixAxis =
      (t.feed H K list (.record (.blank .DT_ACCEL))).2.filter Observation.isSixAxis ++
        ((u.feed H K list (.record (.blank .DT_GYRO))).2 ++ []).filter Observation.isSixAxis := by
    rw [← List.filter_append]
    rfl
  have hsample : u.mFusionData.accel = (SensorData.blank .DT_ACCEL).cart 0 CONVERT_A := by
    rw [next_accel, accelAfter, if_pos haccel]
  rw [hsplit, feed_other H K list hne, List.nil_append, List.append_nil, feed_gyro H K list hgyro,
    gyroGame_sixAxis]
  clear_value t u
  have hgameOn : (u.storeGyro (.blank .DT_GYRO)).enabled .GAME_RV = true := henabled .GAME_RV
  have hlaOff : (u.storeGyro (.blank .DT_GYRO)).enabled .LINEAR_ACCEL = false :=
    (henabled .LINEAR_ACCEL).trans (hflags .LINEAR_ACCEL (by decide))
  have hgravityOff : (u.storeGyro (.blank .DT_GYRO)).enabled .GRAVITY = false :=
    (henabled .GRAVITY).trans (hflags .GRAVITY (by decide))
  have hfused : (u.storeGyro (.blank .DT_GYRO)).fuseGame.mFusionData.gameRotation =
      (fuse u.mGameRV u.mFusionData.accel ((SensorData.blank .DT_GYRO).cart 0 CONVERT_G)
        u.mFusionData.gameRotation false).2.1 := rfl
  rw [hgameOn, hlaOff, hgravityOff, hfused, hgame', hgame, hout', hout, hsample]
  rfl

theorem ResumesAlike.probe (hlaw : ResumesAlike H K K' list s t) (hoff : s.sixAxisRunning = false)
    (hoff' : t.sixAxisRunning = false) :
    (fuse s.mGameRV ((SensorData.blank .DT_ACCEL).cart 0 CONVERT_A)
        ((SensorData.blank .DT_GYRO).cart 0 CONVERT_G) s.mFusionData.gameRotation false).2.1.Same
      (fuse t.mGameRV ((SensorData.blank .DT_ACCEL).cart 0 CONVERT_A)
        ((SensorData.blank .DT_GYRO).cart 0 CONVERT_G) t.mFusionData.gameRotation false).2.1 := by
  have hevents := hlaw [.ID_GAME_RV] (.blank .DT_ACCEL) [.blank .DT_GYRO] (by decide) rfl
  have hsame := ((probe_events H K list hoff).symm.trans hevents).trans
    (probe_events H K' list hoff')
  simp only [List.cons.injEq, Observation.event.injEq, QuatData.event, Event.mk.injEq,
    Payload.data.injEq, and_true, true_and] at hsame
  obtain ⟨⟨ha, hb, hc, hd, hacc⟩, -⟩ := hsame
  exact ⟨ha, hb, hc, hd, hacc⟩

theorem ResetInv.probe {p : HubSensors F × Option (Stored F)} (h : ResetInv p) {r : Stored F}
    (hr : EndsOff p r) (hfall : FreeFall r.accel) (accel gyro : CartData F)
    (haccel : FreeFall accel) :
    (fuse p.1.mGameRV accel gyro p.1.mFusionData.gameRotation false).2.1 =
      { r.rot with timestamp := gyro.timestamp } := by
  obtain ⟨st, -, hstate, hout⟩ := h.left r hr
  obtain ⟨hrot, hinit, -⟩ := fuse_freeFall hfall st
  rw [← hstate] at hinit
  have hna : ¬ (p.1.mGameRV.cleared false).Aligns accel.vec :=
    fun ha => (State.aligns_iff hinit accel).mp ha haccel
  rw [(fuse_not_aligned hna gyro _).1, hout, hrot]

theorem not_resumesAlike {seeded seeded' : Prop} (hs : s.SeedInv seeded) (ht : t.SeedInv seeded')
    (hoff : s.sixAxisRunning = false) (hoff' : t.sixAxisRunning = false) (hnot : ¬ seeded)
    (hseeded : seeded') : ¬ ResumesAlike H K K' list s t := by
  intro hlaw
  have hsame := hlaw.probe H K K' list hoff hoff'
  obtain ⟨hzero, -⟩ := fuse_seed hs.fresh ((SensorData.blank .DT_ACCEL).cart 0 CONVERT_A)
    ((SensorData.blank .DT_GYRO).cart 0 CONVERT_G) false
  obtain ⟨hpos, -⟩ := fuse_seed ht.fresh ((SensorData.blank .DT_ACCEL).cart 0 CONVERT_A)
    ((SensorData.blank .DT_GYRO).cart 0 CONVERT_G) false
  have hout := hpos.mpr (Or.inl (ht.nonzero.mpr hseeded))
  rw [QuatData.normSq, ← hsame.a, ← hsame.b, ← hsame.c, ← hsame.d] at hout
  rcases hzero.mp hout with hrot | hfall
  · exact hnot (hs.nonzero.mp hrot)
  · exact hfall freeFall_blank

end Exact
end HubSensors

section Exact
variable [RootField F]

/-- Histories whose last resets are alike lead to the same six-axis events; after two resets
in free fall the events are the same only then. -/
theorem sixAxis_reset_law (H : Stml0xxHeader) (K₁ K₂ : Kernel) (list : List SensorT)
    (flags16 : Option (BitVec 16)) (flags24 : Option (BitVec 32)) (is₁ is₂ : List Input)
    {r₁ r₂ : Stored F}
    (h₁ : HubSensors.EndsOff (HubSensors.history (F := F) H K₁ list flags16 flags24 is₁) r₁)
    (h₂ : HubSensors.EndsOff (HubSensors.history (F := F) H K₂ list flags16 flags24 is₂) r₂) :
    (r₁.Alike r₂ → HubSensors.ResumesAlike H K₁ K₂ list
      (HubSensors.history (F := F) H K₁ list flags16 flags24 is₁).1
      (HubSensors.history (F := F) H K₂ list flags16 flags24 is₂).1) ∧
    (FreeFall r₁.accel → FreeFall r₂.accel → HubSensors.ResumesAlike H K₁ K₂ list
      (HubSensors.history (F := F) H K₁ list flags16 flags24 is₁).1
      (HubSensors.history (F := F) H K₂ list flags16 flags24 is₂).1 → r₁.rot.Same r₂.rot) := by
  have hinv₁ := HubSensors.resetInv_history (F := F) H K₁ list flags16 flags24 is₁
  have hinv₂ := HubSensors.resetInv_history (F := F) H K₂ list flags16 flags24 is₂
  refine ⟨fun halike => ?_, fun hf₁ hf₂ hlaw => ?_⟩
  · exact (hinv₁.sameSix hinv₂ h₁ h₂ halike).resumesAlike H K₁ K₂ list
  · have hsame := hlaw.probe H K₁ K₂ list h₁.off h₂.off
    rw [hinv₁.probe h₁ hf₁ _ _ HubSensors.freeFall_blank,
      hinv₂.probe h₂ hf₂ _ _ HubSensors.freeFall_blank] at hsame
    exact ⟨hsame.a, hsame.b, hsame.c, hsame.d, hsame.accuracy⟩

end Exact

theorem sixAxis_reset_law_start :
    HubSensors.ResumesAlike .numbered (fun _ _ => 0) (fun _ _ => 0) (sSensorList true)
      (HubSensors.history (F := ℝ) .numbered (fun _ _ => 0) (sSensorList true) none none
        [.setEnable .ID_GAME_RV 0]).1
      (HubSensors.history (F := ℝ) .numbered (fun _ _ => 0) (sSensorList true) none none
        [.setEnable .ID_LA 0]).1 :=
  (sixAxis_reset_law .numbered (fun _ _ => 0) (fun _ _ => 0) (sSensorList true) none none
    [.setEnable .ID_GAME_RV 0] [.setEnable .ID_LA 0]
    (⟨rfl, rfl⟩ : HubSensors.EndsOff _ ⟨.zero, .zero, .zero⟩)
    (⟨rfl, rfl⟩ : HubSensors.EndsOff _ ⟨.zero, .zero, .zero⟩)).1
    (Or.inl ⟨freeFall_zero, freeFall_zero, ⟨rfl, rfl, rfl, rfl, rfl⟩⟩)

def steadyAccel : SensorData := ⟨0, .DT_ACCEL, 0, fun _ => 1⟩

/-- GAME_RV was on before the reset, with an accel sample in one history and none in the
other; afterwards it is enabled again and the samples are zero. -/
theorem reset_fuses_stored_sample :
    let p₁ := HubSensors.history (F := ℝ) .numbered (fun _ _ => 0) (sSensorList true) none none
      [.setEnable .ID_GAME_RV 1, .setEnable .ID_GAME_RV 0]
    let p₂ := HubSensors.history (F := ℝ) .numbered (fun _ _ => 0) (sSensorList true) none none
      [.setEnable .ID_GAME_RV 1, .record steadyAccel, .setEnable .ID_GAME_RV 0]
    (∃ r, HubSensors.EndsOff p₁ r) ∧ (∃ r, HubSensors.EndsOff p₂ r) ∧
      ¬ HubSensors.ResumesAlike .numbered (fun _ _ => 0) (fun _ _ => 0) (sSensorList true)
        p₁.1 p₂.1 := by
  simp only [HubSensors.history, List.foldl_cons, List.foldl_nil]
  have hstep (s : HubSensors ℝ) (i : Input) :=
    s.next_game .numbered (fun _ _ => 0) (sSensorList true) i
  have hstart := HubSensors.seedInv_start (F := ℝ) none none
  have hla : (HubSensors.start none none : HubSensors ℝ).enabled .LINEAR_ACCEL = false := rfl
  have hgravity : (HubSensors.start none none : HubSensors ℝ).enabled .GRAVITY = false := rfl
  have hfall : FreeFall (HubSensors.start none none : HubSensors ℝ).mFusionData.accel :=
    freeFall_zero
  generalize (HubSensors.start none none : HubSensors ℝ) = s₀ at hstart hla hgravity hfall ⊢
  have hinv₁ := hstart.step (.setEnable .ID_GAME_RV 1) (hstep s₀ _)
  have hflags₁ := s₀.next_enabled .numbered (fun _ _ => 0) (sSensorList true)
    (.setEnable .ID_GAME_RV 1)
  have haccel₁ := s₀.next_accel .numbered (fun _ _ => 0) (sSensorList true)
    (.setEnable .ID_GAME_RV 1)
  generalize s₀.next .numbered (fun _ _ => 0) (sSensorList true) (.setEnable .ID_GAME_RV 1) = s₁
    at hinv₁ hflags₁ haccel₁ ⊢
  generalize s₀.resetAfter none (.setEnable .ID_GAME_RV 1) = r₁
  have hinv₂ := hinv₁.step (.record steadyAccel) (hstep s₁ _)
  have hflags₂ := s₁.next_enabled .numbered (fun _ _ => 0) (sSensorList true)
    (.record steadyAccel)
  have haccel₂ := s₁.next_accel .numbered (fun _ _ => 0) (sSensorList true) (.record steadyAccel)
  generalize s₁.next .numbered (fun _ _ => 0) (sSensorList true) (.record steadyAccel) = s₂
    at hinv₂ hflags₂ haccel₂ ⊢
  generalize s₁.resetAfter r₁ (.record steadyAccel) = r₂
  have hoff (i : FusionEnum) (hi : SensorHandle.fusionIndex .ID_GAME_RV ≠ some i)
      (hs : s₀.enabled i = false) : s₁.enabled i = false := by
    rw [hflags₁, HubSensors.flagged, HubSensors.setFlag_enabled, if_neg hi, hs]
  have hcall₁ : s₁.gameCall (.setEnable .ID_GAME_RV 0) = some (s₁.mFusionData.gyro, true) :=
    HubSensors.gameCall_disable (hoff _ (by decide) hla) (hoff _ (by decide) hgravity)
  have hcall₂ : s₂.gameCall (.setEnable .ID_GAME_RV 0) = some (s₂.mFusionData.gyro, true) :=
    HubSensors.gameCall_disable (by rw [hflags₂]; exact hoff _ (by decide) hla)
      (by rw [hflags₂]; exact hoff _ (by decide) hgravity)
  have hend₁ := HubSensors.endsOff_reset .numbered (fun _ _ => 0) (sSensorList true)
    (p := (s₁, r₁)) hcall₁
  have hend₂ := HubSensors.endsOff_reset .numbered (fun _ _ => 0) (sSensorList true)
    (p := (s₂, r₂)) hcall₂
  refine ⟨⟨_, hend₁⟩, ⟨_, hend₂⟩, HubSensors.not_resumesAlike _ _ _ _
    (hinv₁.step _ (hstep s₁ _)) (hinv₂.step _ (hstep s₂ _)) hend₁.off hend₂.off ?_ ?_⟩
  · have hfall₁ : FreeFall s₁.mFusionData.accel := haccel₁ ▸ hfall
    refine fun h => ?_
    rcases h with (h | h) | h
    · exact h
    · exact h.2 hfall
    · exact h.2 hfall₁
  · have htype : steadyAccel.type = .DT_ACCEL := rfl
    refine Or.inr ⟨by rw [hcall₂]; rfl, fun hfall₂ => ?_⟩
    rw [haccel₂, HubSensors.accelAfter, if_pos htype] at hfall₂
    have hx := hfall₂ 0
    have hbits : ((1 : BitVec 8) ++ (1 : BitVec 8)).toInt = 257 := by decide
    simp only [CartData.vec, SensorData.cart, steadyAccel, CONVERT_A, GRAVITY_EARTH, FLT_EPSILON,
      STM16TOH, ofInt, ofRat_eq, hbits] at hx
    norm_num at hx

end Cedric.Hub
