import Cedric.Lib.Calls
import Cedric.Lib.Runs
import Cedric.LineageActions.DozeSensors

/-!
# `GlanceSensor`

A trigger sensor fires once for each request, and its listener asks again every time.
`request` is what `SensorManager.requestTriggerSensor` makes of the requests the listener has
outstanding; `none` is a request that is refused.
-/

namespace Cedric.LineageActions

open Calls Call Runs

/-- `queued` counts the triggers on their way for an outstanding request, `stale` those whose
request was cancelled meanwhile. -/
structure GlanceSensor where
  mEnabled : Bool
  requests : ℕ
  queued : ℕ
  stale : ℕ
  deriving DecidableEq

namespace GlanceSensor

def start : GlanceSensor := ⟨false, 0, 0, 0⟩

variable (request : ℕ → Option ℕ)

/-- `SensorHelper` throws if the request is refused. -/
def requestTriggerSensor : Call GlanceSensor Unit := do
  let requests ← deref (request (← get requests))
  update fun s => { s with requests := requests }

def cancelTriggerSensor : Call GlanceSensor Unit :=
  update fun s => { s with requests := 0, queued := 0, stale := s.stale + s.queued }

def screenTurnedOn : Call GlanceSensor Unit := do
  if ← get mEnabled then
    cancelTriggerSensor
    update fun s => { s with mEnabled := false }

def screenTurnedOff (settings : LineageActionsSettings) : Call GlanceSensor Unit := do
  if settings.isPickUpEnabled && !(← get mEnabled) then
    requestTriggerSensor request
    update fun s => { s with mEnabled := true }

/-- `onTrigger` of `mGlanceListener`; what the action does is left out. -/
def onTrigger : Call GlanceSensor Unit := requestTriggerSensor request

/-- The screen turns off under some settings; `trigger` is the sensor firing, `deliver` the
delivery of the oldest trigger. -/
inductive Event
  | screenTurnedOn
  | screenTurnedOff (settings : LineageActionsSettings)
  | trigger
  | deliver

variable (s : GlanceSensor)

/-- A delivered trigger uses up its request, if that is not cancelled. -/
def step : Event → GlanceSensor
  | .screenTurnedOn => (screenTurnedOn s).1
  | .screenTurnedOff settings => (screenTurnedOff request settings s).1
  | .trigger => if s.queued < s.requests then { s with queued := s.queued + 1 } else s
  | .deliver =>
    if 0 < s.stale then (onTrigger request { s with stale := s.stale - 1 }).1
    else if 0 < s.queued then
      (onTrigger request { s with queued := s.queued - 1, requests := s.requests - 1 }).1
    else s

/-- The sensor is armed exactly while enabled, by one request. -/
def Right : Prop := (0 < s.requests ↔ s.mEnabled = true) ∧ s.requests ≤ 1

/-- A trigger whose request was cancelled is delivered only to a sensor enabled again, and its
listener's request then makes no second one. -/
def Orderly : Event → Prop
  | .deliver => 0 < s.stale → s.mEnabled = true ∧ ∀ n, request 1 = some n → n = 1
  | _ => True

structure Inv : Prop where
  right : s.Right
  queued : s.queued ≤ s.requests

variable {request s}

theorem inv_start : start.Inv :=
  ⟨⟨iff_of_false (Nat.not_lt_zero 0) nofun, Nat.zero_le 1⟩, Nat.le_refl 0⟩

theorem Right.requests_eq (h : s.Right) : s.requests = if s.mEnabled then 1 else 0 := by
  obtain ⟨harmed, hone⟩ := h
  split_ifs with henabled
  · have := harmed.mpr henabled
    omega
  · have := mt harmed.mp henabled
    omega

theorem requestTriggerSensor_granted {n : ℕ} (h : request s.requests = some n) :
    requestTriggerSensor request s = ({ s with requests := n }, some ()) := by
  rw [requestTriggerSensor, get_bind, h]
  rfl

theorem requestTriggerSensor_refused (h : request s.requests = none) :
    requestTriggerSensor request s = (s, none) := by
  rw [requestTriggerSensor, get_bind, h]
  rfl

theorem screenTurnedOn_eq : (screenTurnedOn s).2 = some () ∧
    (screenTurnedOn s).1 = if s.mEnabled then ⟨false, 0, 0, s.stale + s.queued⟩ else s := by
  rw [screenTurnedOn, get_bind]
  split_ifs <;> exact ⟨rfl, rfl⟩

theorem screenTurnedOff_eq (hrequest : request 0 = some 1) (h : s.Right)
    (settings : LineageActionsSettings) : screenTurnedOff request settings s =
      (if settings.isPickUpEnabled && !s.mEnabled then { s with mEnabled := true, requests := 1 }
        else s, some ()) := by
  rw [screenTurnedOff, get_bind]
  split_ifs with hoff
  · have hzero : s.requests = 0 := by
      rw [h.requests_eq, if_neg]
      have hdisabled := ((Bool.and_eq_true _ _).mp hoff).2
      rw [Bool.not_eq_true'] at hdisabled
      exact Bool.eq_false_iff.mp hdisabled
    have hgranted := requestTriggerSensor_granted (s := s) ((congrArg request hzero).trans hrequest)
    rw [bind_returned (congrArg Prod.snd hgranted), hgranted]
    rfl
  · rfl

theorem right_zero (queued stale : ℕ) : Right ⟨false, 0, queued, stale⟩ :=
  ⟨iff_of_false (Nat.not_lt_zero 0) nofun, Nat.zero_le 1⟩

theorem right_one (queued stale : ℕ) : Right ⟨true, 1, queued, stale⟩ :=
  ⟨iff_of_true Nat.one_pos rfl, Nat.le_refl 1⟩

theorem screenTurnedOn_flags (h : s.Right) :
    (GlanceSensor.screenTurnedOn s).1.Right ∧ (GlanceSensor.screenTurnedOn s).1.mEnabled = false := by
  rw [screenTurnedOn_eq.2]
  split_ifs with henabled
  · exact ⟨right_zero _ _, rfl⟩
  · exact ⟨h, Bool.eq_false_iff.mpr henabled⟩

theorem screenTurnedOff_flags (hrequest : request 0 = some 1) (h : s.Right)
    (settings : LineageActionsSettings) :
    (GlanceSensor.screenTurnedOff request settings s).1.Right ∧
      (GlanceSensor.screenTurnedOff request settings s).1.mEnabled =
        (s.mEnabled || settings.isPickUpEnabled) := by
  rw [screenTurnedOff_eq hrequest h]
  split_ifs with hoff
  · have hpickUp := ((Bool.and_eq_true _ _).mp hoff).1
    refine ⟨right_one _ _, ?_⟩
    rw [hpickUp, Bool.or_true]
  · refine ⟨h, ?_⟩
    cases henabled : s.mEnabled with
    | true => rfl
    | false =>
      rw [henabled, Bool.not_false, Bool.and_true] at hoff
      exact (Bool.eq_false_iff.mpr hoff).symm

theorem Inv.screenTurnedOn (h : s.Inv) : (step request s .screenTurnedOn).Inv := by
  rw [step, screenTurnedOn_eq.2]
  split_ifs
  · exact ⟨right_zero _ _, Nat.le_refl 0⟩
  · exact h

theorem Inv.screenTurnedOff (hrequest : request 0 = some 1) (h : s.Inv)
    (settings : LineageActionsSettings) : (step request s (.screenTurnedOff settings)).Inv := by
  rw [step, screenTurnedOff_eq hrequest h.right]
  split_ifs
  · exact ⟨right_one _ _, Nat.le_trans h.queued h.right.2⟩
  · exact h

theorem Inv.trigger (h : s.Inv) : (step request s .trigger).Inv := by
  rw [step]
  split_ifs with hfree
  · exact ⟨h.right, hfree⟩
  · exact h

theorem Inv.deliver (hrequest : request 0 = some 1) (h : s.Inv) (hfresh : ¬ 0 < s.stale) :
    (step request s .deliver).Inv := by
  rw [step, if_neg hfresh]
  split_ifs with hqueued
  · have hone : s.requests = 1 := Nat.le_antisymm h.right.2 (Nat.lt_of_lt_of_le hqueued h.queued)
    have henabled : s.mEnabled = true := h.right.1.mp (Nat.lt_of_lt_of_le hqueued h.queued)
    have hgranted : onTrigger request ⟨s.mEnabled, s.requests - 1, s.queued - 1, s.stale⟩ =
        (⟨s.mEnabled, 1, s.queued - 1, s.stale⟩, some ()) :=
      requestTriggerSensor_granted (by rw [hone]; exact hrequest)
    rw [hgranted, henabled]
    refine ⟨right_one _ _, ?_⟩
    have := h.queued
    change s.queued - 1 ≤ 1
    omega
  · exact h

theorem right_stale_iff (hrequest : request 0 = some 1) (h : s.Inv) (hstale : 0 < s.stale) :
    (step request s .deliver).Right ↔ s.Orderly request .deliver := by
  have horderly : s.Orderly request .deliver ↔
      s.mEnabled = true ∧ ∀ n, request 1 = some n → n = 1 := forall_prop_of_true hstale
  rw [horderly, step, if_pos hstale]
  have hrequests := h.right.requests_eq
  cases henabled : s.mEnabled with
  | false =>
    rw [henabled, if_neg Bool.false_ne_true] at hrequests
    have hgranted : onTrigger request ⟨s.mEnabled, s.requests, s.queued, s.stale - 1⟩ =
        (⟨s.mEnabled, 1, s.queued, s.stale - 1⟩, some ()) :=
      requestTriggerSensor_granted (by rw [hrequests]; exact hrequest)
    rw [← henabled, hgranted, henabled]
    refine iff_of_false (fun hright => ?_) fun h => Bool.false_ne_true h.1
    exact Bool.false_ne_true (hright.1.mp Nat.one_pos)
  | true =>
    rw [henabled, if_pos rfl] at hrequests
    cases hsecond : request 1 with
    | none =>
      have hrefused : onTrigger request ⟨s.mEnabled, s.requests, s.queued, s.stale - 1⟩ =
          (⟨s.mEnabled, s.requests, s.queued, s.stale - 1⟩, none) :=
        requestTriggerSensor_refused (by rw [hrequests]; exact hsecond)
      rw [← henabled, hrefused, henabled, hrequests]
      exact iff_of_true (right_one _ _) ⟨rfl, nofun⟩
    | some n =>
      have hgranted : onTrigger request ⟨s.mEnabled, s.requests, s.queued, s.stale - 1⟩ =
          (⟨s.mEnabled, n, s.queued, s.stale - 1⟩, some ()) :=
        requestTriggerSensor_granted (by rw [hrequests]; exact hsecond)
      rw [← henabled, hgranted, henabled]
      simp only [Right, iff_true, true_and, Option.some.injEq, forall_eq']
      omega

theorem right_step_iff (hrequest : request 0 = some 1) (h : s.Inv) (e : Event) :
    (step request s e).Right ↔ s.Orderly request e := by
  cases e with
  | screenTurnedOn => exact iff_of_true h.screenTurnedOn.right trivial
  | screenTurnedOff settings => exact iff_of_true (h.screenTurnedOff hrequest settings).right trivial
  | trigger => exact iff_of_true h.trigger.right trivial
  | deliver =>
    by_cases hstale : 0 < s.stale
    · exact right_stale_iff hrequest h hstale
    · exact iff_of_true (h.deliver hrequest hstale).right fun hpos => absurd hpos hstale

theorem keeps_requestTriggerSensor (request : ℕ → Option ℕ) :
    Keeps (fun s : GlanceSensor => (s.mEnabled, s.queued)) (requestTriggerSensor request) :=
  Keeps.bind (keeps_get _) fun _ => Keeps.bind (keeps_deref _) fun _ => keeps_update fun _ => rfl

theorem Inv.stale (h : s.Inv) (hstale : 0 < s.stale) (hright : (step request s .deliver).Right) :
    (step request s .deliver).Inv := by
  refine ⟨hright, ?_⟩
  have hrequests := hright.requests_eq
  rw [step, if_pos hstale] at hrequests ⊢
  obtain ⟨henabled, hqueued⟩ := Prod.ext_iff.mp
    (keeps_requestTriggerSensor request { s with stale := s.stale - 1 })
  rw [show (onTrigger request _).1.mEnabled = s.mEnabled from henabled, ← h.right.requests_eq]
    at hrequests
  rw [hrequests, show (onTrigger request _).1.queued = s.queued from hqueued]
  exact h.queued

theorem Inv.step (hrequest : request 0 = some 1) (h : s.Inv) (e : Event)
    (hright : (step request s e).Right) : (step request s e).Inv := by
  cases e with
  | screenTurnedOn => exact h.screenTurnedOn
  | screenTurnedOff settings => exact h.screenTurnedOff hrequest settings
  | trigger => exact h.trigger
  | deliver =>
    by_cases hstale : 0 < s.stale
    · exact h.stale hstale hright
    · exact h.deliver hrequest hstale

/-- The sensor is armed as it should exactly along the runs in which a trigger whose request was
cancelled comes only to a sensor enabled again that does not get a second request. -/
theorem armed_iff (hrequest : request 0 = some 1) (events : List Event) :
    Along (step request) (fun s e => (step request s e).Right) start events ↔
      Along (step request) (fun s e => s.Orderly request e) start events :=
  along_congr Inv (fun _ e h => right_step_iff hrequest h e) (fun _ e h => h.step hrequest e)
    inv_start events

def single (requests : ℕ) : Option ℕ := if requests = 0 then some 1 else none

theorem armed_iff_single :
    Along (step single) (fun s e => (step single s e).Right) start
        [.screenTurnedOff ⟨true, true, false⟩, .trigger, .deliver] ↔
      Along (step single) (fun s e => s.Orderly single e) start
        [.screenTurnedOff ⟨true, true, false⟩, .trigger, .deliver] :=
  armed_iff rfl _

/-- The trigger crosses the cancellation, and its listener arms the disabled sensor. -/
def crossing : List Event :=
  [.screenTurnedOff ⟨true, true, false⟩, .trigger, .screenTurnedOn, .deliver]

theorem crossing_armed :
    ¬ Along (step single) (fun s e => (step single s e).Right) start crossing := by
  intro h
  obtain ⟨-, -, -, ⟨harmed, -⟩, -⟩ := h
  exact Bool.false_ne_true (harmed.mp (by decide))

end GlanceSensor
end Cedric.LineageActions
