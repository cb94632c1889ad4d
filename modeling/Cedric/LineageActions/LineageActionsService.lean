import Cedric.LineageActions.GlanceSensor

/-!
# `LineageActionsService`

The service tells the doze sensors when the screen turns on or off, and again when a
preference changes. A sensor that is enabled stays so until the screen turns on.
-/

namespace Cedric.LineageActions

open Calls Call Runs

inductive DozePreference
  | GESTURE_PICK_UP_KEY | GESTURE_IR_WAKEUP_KEY

open DozePreference

def LineageActionsSettings.onSharedPreferenceChanged (settings : LineageActionsSettings)
    (key : DozePreference) (value : Bool) : LineageActionsSettings :=
  match key with
  | GESTURE_PICK_UP_KEY => { settings with mPickUpGestureEnabled := value }
  | GESTURE_IR_WAKEUP_KEY => { settings with mIrWakeUpEnabled := value }

/-- `mWakeLock`: it is held; `mLastDoze` is that of the `DozePulseAction`. -/
structure LineageActionsService where
  settings : LineageActionsSettings
  mWakeLock : Bool
  mLastDoze : ℤ
  glance : GlanceSensor
  proximity : ProximitySensor
  stow : StowSensor

namespace LineageActionsService

def start (settings : LineageActionsSettings) : LineageActionsService :=
  ⟨settings, false, 0, .start, .start, .start⟩

/-- The doze sensors are told in this order; an exception of the first keeps it from the others. -/
def notifyScreenState (glance : Call GlanceSensor Unit)
    (proximity : ProximitySensor → ProximitySensor) (stow : StowSensor → StowSensor) :
    Call LineageActionsService Unit := do
  within LineageActionsService.glance (fun g s => { s with glance := g }) glance
  update fun s => { s with proximity := proximity s.proximity }
  update fun s => { s with stow := stow s.stow }

variable (request : ℕ → Option ℕ)

def screenTurnedOn : Call LineageActionsService Unit := do
  if !(← get mWakeLock) then
    update fun s => { s with mWakeLock := true }
  notifyScreenState GlanceSensor.screenTurnedOn ProximitySensor.screenTurnedOn
    StowSensor.screenTurnedOn

def screenTurnedOff (now : ℤ) : Call LineageActionsService Unit := do
  if ← get mWakeLock then
    update fun s => { s with mWakeLock := false }
  update fun s => { s with mLastDoze := now }
  let settings ← get settings
  notifyScreenState (GlanceSensor.screenTurnedOff request settings)
    (ProximitySensor.screenTurnedOff · settings) (StowSensor.screenTurnedOff · settings)

/-- What the call then tells the other gestures is left out. -/
def updateState (isInteractive : Bool) (now : ℤ) : Call LineageActionsService Unit :=
  if isInteractive then screenTurnedOn else screenTurnedOff request now

/-- A preference that changes is followed by `updateState`, the secure setting by no call. -/
inductive Event
  | screenTurnedOn
  | screenTurnedOff (now : ℤ)
  | updateState (isInteractive : Bool) (now : ℤ)
  | preferenceChanged (key : DozePreference) (value isInteractive : Bool) (now : ℤ)
  | dozeEnabledChanged (value : Bool)

variable (s : LineageActionsService)

def withSettings (settings : LineageActionsSettings) : LineageActionsService :=
  { s with settings := settings }

def step : Event → LineageActionsService
  | .screenTurnedOn => (screenTurnedOn s).1
  | .screenTurnedOff now => (screenTurnedOff request now s).1
  | .updateState isInteractive now => (updateState request isInteractive now s).1
  | .preferenceChanged key value isInteractive now =>
    (updateState request isInteractive now
      (s.withSettings (s.settings.onSharedPreferenceChanged key value))).1
  | .dozeEnabledChanged value => s.withSettings { s.settings with isDozeEnabled := value }

def pickUpCondition (settings : LineageActionsSettings) : Bool := settings.isPickUpEnabled

def handWaveCondition (settings : LineageActionsSettings) : Bool := settings.isIrWakeupEnabled

def stowCondition (settings : LineageActionsSettings) : Bool :=
  settings.isPickUpEnabled && !settings.isIrWakeupEnabled

/-- Each sensor is registered exactly if the screen is off and its condition holds. -/
def Settled (screenOff : Bool) : Prop :=
  (0 < s.glance.requests ↔ screenOff && pickUpCondition s.settings) ∧
    (s.proximity.registered ↔ screenOff && handWaveCondition s.settings) ∧
    (s.stow.registered ↔ screenOff && stowCondition s.settings)

/-- After every call the sensors are as its screen state and the settings ask. -/
def Right (e : Event) : Prop :=
  match e with
  | .screenTurnedOn => (step request s e).Settled false
  | .screenTurnedOff _ => (step request s e).Settled true
  | .updateState isInteractive _ => (step request s e).Settled !isInteractive
  | .preferenceChanged _ _ isInteractive _ => (step request s e).Settled !isInteractive
  | .dozeEnabledChanged _ => True

def Current : Prop :=
  (s.glance.mEnabled → pickUpCondition s.settings) ∧
    (s.proximity.mEnabled → handWaveCondition s.settings) ∧
    (s.stow.mEnabled → stowCondition s.settings)

def Orderly : Event → Prop
  | .screenTurnedOff _ => s.Current
  | .updateState false _ => s.Current
  | .preferenceChanged key value false _ =>
    (s.withSettings (s.settings.onSharedPreferenceChanged key value)).Current
  | _ => True

structure Inv : Prop where
  glance : s.glance.Right
  proximity : s.proximity.registered = s.proximity.mEnabled
  stow : s.stow.registered = s.stow.mEnabled

variable {request s}

theorem inv_start (settings : LineageActionsSettings) : (start settings).Inv :=
  ⟨GlanceSensor.inv_start.right, rfl, rfl⟩

theorem Inv.withSettings (h : s.Inv) (settings : LineageActionsSettings) :
    (s.withSettings settings).Inv := ⟨h.glance, h.proximity, h.stow⟩

theorem notifyScreenState_state {glance : Call GlanceSensor Unit} (h : (glance s.glance).2 = some ())
    (proximity : ProximitySensor → ProximitySensor) (stow : StowSensor → StowSensor) :
    (notifyScreenState glance proximity stow s).1 = { s with
      glance := (glance s.glance).1
      proximity := proximity s.proximity
      stow := stow s.stow } := by
  rw [notifyScreenState, within_returned h]
  rfl

theorem screenTurnedOn_state : (screenTurnedOn s).1 = { s with
    mWakeLock := true
    glance := (GlanceSensor.screenTurnedOn s.glance).1
    proximity := s.proximity.screenTurnedOn
    stow := s.stow.screenTurnedOn } := by
  have hnotified := notifyScreenState_state (s := { s with mWakeLock := true })
    GlanceSensor.screenTurnedOn_eq.1 ProximitySensor.screenTurnedOn StowSensor.screenTurnedOn
  obtain ⟨settings, mWakeLock, mLastDoze, glance, proximity, stow⟩ := s
  cases mWakeLock <;> exact hnotified

theorem screenTurnedOff_state (hrequest : request 0 = some 1) (h : s.glance.Right) (now : ℤ) :
    (screenTurnedOff request now s).1 = { s with
      mWakeLock := false
      mLastDoze := now
      glance := (GlanceSensor.screenTurnedOff request s.settings s.glance).1
      proximity := s.proximity.screenTurnedOff s.settings
      stow := s.stow.screenTurnedOff s.settings } := by
  have hreturned : (GlanceSensor.screenTurnedOff request s.settings s.glance).2 = some () :=
    congrArg Prod.snd (GlanceSensor.screenTurnedOff_eq hrequest h s.settings)
  have hnotified := notifyScreenState_state
    (s := { s with mWakeLock := false, mLastDoze := now }) hreturned
    (ProximitySensor.screenTurnedOff · s.settings) (StowSensor.screenTurnedOff · s.settings)
  obtain ⟨settings, mWakeLock, mLastDoze, glance, proximity, stow⟩ := s
  cases mWakeLock <;> exact hnotified

theorem Inv.settled_iff (h : s.Inv) (screenOff : Bool) : s.Settled screenOff ↔
    s.glance.mEnabled = (screenOff && pickUpCondition s.settings) ∧
      s.proximity.mEnabled = (screenOff && handWaveCondition s.settings) ∧
      s.stow.mEnabled = (screenOff && stowCondition s.settings) := by
  rw [Settled, h.glance.1, h.proximity, h.stow]
  exact and_congr Bool.eq_iff_iff.symm (and_congr Bool.eq_iff_iff.symm Bool.eq_iff_iff.symm)

theorem Inv.screenTurnedOn (h : s.Inv) :
    (screenTurnedOn s).1.Inv ∧ (screenTurnedOn s).1.Settled false := by
  obtain ⟨hglance, hglance'⟩ := GlanceSensor.screenTurnedOn_flags h.glance
  obtain ⟨hproximity, hproximity'⟩ := ProximitySensor.screenTurnedOn_flags h.proximity
  obtain ⟨hstow, hstow'⟩ := StowSensor.screenTurnedOn_flags h.stow
  have hinv : (LineageActionsService.screenTurnedOn s).1.Inv := by
    rw [screenTurnedOn_state]
    exact ⟨hglance, hproximity.trans hproximity'.symm, hstow.trans hstow'.symm⟩
  refine ⟨hinv, (hinv.settled_iff false).mpr ?_⟩
  rw [screenTurnedOn_state]
  exact ⟨hglance', hproximity', hstow'⟩

theorem Inv.screenTurnedOff (hrequest : request 0 = some 1) (h : s.Inv) (now : ℤ) :
    (screenTurnedOff request now s).1.Inv ∧
      ((screenTurnedOff request now s).1.Settled true ↔ s.Current) := by
  obtain ⟨hglance, hglance'⟩ := GlanceSensor.screenTurnedOff_flags hrequest h.glance s.settings
  obtain ⟨hproximity, hproximity'⟩ :=
    ProximitySensor.screenTurnedOff_flags h.proximity s.settings
  obtain ⟨hstow, hstow'⟩ := StowSensor.screenTurnedOff_flags h.stow s.settings
  have hinv : (LineageActionsService.screenTurnedOff request now s).1.Inv := by
    rw [screenTurnedOff_state hrequest h.glance]
    exact ⟨hglance, hproximity, hstow⟩
  refine ⟨hinv, (hinv.settled_iff true).trans ?_⟩
  rw [screenTurnedOff_state hrequest h.glance]
  simp only [hglance', hproximity', hstow', Bool.true_and]
  exact and_congr Bool.or_eq_right_iff_imp
    (and_congr Bool.or_eq_right_iff_imp Bool.or_eq_right_iff_imp)

theorem Inv.updateState (hrequest : request 0 = some 1) (h : s.Inv) (isInteractive : Bool)
    (now : ℤ) : (updateState request isInteractive now s).1.Inv ∧
      ((updateState request isInteractive now s).1.Settled (!isInteractive) ↔
        (isInteractive = false → s.Current)) := by
  cases isInteractive with
  | true => exact ⟨h.screenTurnedOn.1, iff_of_true h.screenTurnedOn.2 nofun⟩
  | false =>
    obtain ⟨hinv, hsettled⟩ := h.screenTurnedOff hrequest now
    exact ⟨hinv, hsettled.trans ⟨fun hcurrent _ => hcurrent, fun hcurrent => hcurrent rfl⟩⟩

theorem Inv.step (hrequest : request 0 = some 1) (h : s.Inv) (e : Event) :
    (step request s e).Inv := by
  cases e with
  | screenTurnedOn => exact h.screenTurnedOn.1
  | screenTurnedOff now => exact (h.screenTurnedOff hrequest now).1
  | updateState isInteractive now => exact (h.updateState hrequest isInteractive now).1
  | preferenceChanged key value isInteractive now =>
    exact ((h.withSettings _).updateState hrequest isInteractive now).1
  | dozeEnabledChanged value => exact h.withSettings _

theorem right_iff_orderly (hrequest : request 0 = some 1) (h : s.Inv) (e : Event) :
    s.Right request e ↔ s.Orderly e := by
  cases e with
  | screenTurnedOn => exact iff_of_true h.screenTurnedOn.2 trivial
  | screenTurnedOff now => exact (h.screenTurnedOff hrequest now).2
  | updateState isInteractive now =>
    refine (h.updateState hrequest isInteractive now).2.trans ?_
    cases isInteractive <;> simp [Orderly]
  | preferenceChanged key value isInteractive now =>
    refine ((h.withSettings _).updateState hrequest isInteractive now).2.trans ?_
    cases isInteractive <;> simp [Orderly]
  | dozeEnabledChanged value => exact Iff.rfl

/-- The settings take effect exactly along the runs in which no call made with the screen off
finds a sensor enabled whose condition does not hold any more. -/
theorem settled_along_iff (hrequest : request 0 = some 1) (settings : LineageActionsSettings)
    (events : List Event) :
    Along (step request) (fun s e => s.Right request e) (start settings) events ↔
      Along (step request) Orderly (start settings) events :=
  along_congr Inv (fun _ e h => right_iff_orderly hrequest h e)
    (fun _ e h _ => h.step hrequest e) (inv_start settings) events

def turnedOffInDark : List Event :=
  [.updateState false 0, .preferenceChanged GESTURE_PICK_UP_KEY false false 1]

theorem settled_along_iff_dark :
    Along (step GlanceSensor.single) (fun s e => s.Right GlanceSensor.single e)
        (start ⟨true, true, false⟩) turnedOffInDark ↔
      Along (step GlanceSensor.single) Orderly (start ⟨true, true, false⟩) turnedOffInDark :=
  settled_along_iff rfl _ _

theorem turnedOffInDark_registered :
    ¬ Along (step GlanceSensor.single) (fun s e => s.Right GlanceSensor.single e)
      (start ⟨true, true, false⟩) turnedOffInDark := by
  intro h
  obtain ⟨-, ⟨hglance, -⟩, -⟩ := h
  exact absurd (hglance.mp (by decide)) (by decide)

end LineageActionsService
end Cedric.LineageActions
