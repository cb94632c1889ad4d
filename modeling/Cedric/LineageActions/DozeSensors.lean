import Cedric.Lib.Freshness
import Cedric.Lib.Runs
import Mathlib.Data.Int.Notation

/-!
# The doze sensors `StowSensor` and `ProximitySensor`

Each is registered when the screen turns off with its setting on, and wakes the
display when the phone leaves a pocket or a hand is taken away. `DozeSessions` runs
both beside what was reported since their latest registration.
-/

namespace Cedric.LineageActions

open Freshness Runs

/-- `isDozeEnabled` is read from the secure settings. -/
structure LineageActionsSettings where
  isDozeEnabled : Bool
  mPickUpGestureEnabled : Bool
  mIrWakeUpEnabled : Bool
  deriving DecidableEq

namespace LineageActionsSettings

variable (settings : LineageActionsSettings)

def isIrWakeupEnabled : Bool := settings.isDozeEnabled && settings.mIrWakeUpEnabled

def isPickUpEnabled : Bool := settings.isDozeEnabled && settings.mPickUpGestureEnabled

end LineageActionsSettings

def IN_POCKET_MIN_TIME : ℤ := 5000

/-- `registered`: the sensor listener is. -/
structure StowSensor where
  mEnabled : Bool
  mLastStowed : Bool
  isStowedTime : ℤ
  registered : Bool
  deriving DecidableEq

namespace StowSensor

def start : StowSensor := ⟨false, false, 0, false⟩

variable (s : StowSensor)

def screenTurnedOn : StowSensor :=
  if s.mEnabled then { s with registered := false, mEnabled := false } else s

def screenTurnedOff (settings : LineageActionsSettings) : StowSensor :=
  if !settings.isIrWakeupEnabled && settings.isPickUpEnabled && !s.mEnabled then
    { s with registered := true, mEnabled := true }
  else s

/-- The second result tells whether `action` is called. -/
def onSensorChanged (thisStowed : Bool) (now : ℤ) : StowSensor × Bool :=
  if thisStowed then ({ s with isStowedTime := now, mLastStowed := true }, false)
  else ({ s with mLastStowed := false },
    s.mLastStowed && decide (now - s.isStowedTime ≥ IN_POCKET_MIN_TIME))

variable {s}

theorem screenTurnedOn_flags (h : s.registered = s.mEnabled) :
    s.screenTurnedOn.registered = false ∧ s.screenTurnedOn.mEnabled = false := by
  rw [screenTurnedOn]
  split_ifs with henabled
  · exact ⟨rfl, rfl⟩
  · have hdisabled := Bool.eq_false_iff.mpr henabled
    exact ⟨h.trans hdisabled, hdisabled⟩

theorem screenTurnedOff_flags (h : s.registered = s.mEnabled) (settings : LineageActionsSettings) :
    (s.screenTurnedOff settings).registered = (s.screenTurnedOff settings).mEnabled ∧
      (s.screenTurnedOff settings).mEnabled =
        (s.mEnabled || (settings.isPickUpEnabled && !settings.isIrWakeupEnabled)) := by
  rw [screenTurnedOff]
  cases henabled : s.mEnabled <;> cases settings.isIrWakeupEnabled <;>
    cases settings.isPickUpEnabled <;> simp [h, henabled]

end StowSensor

structure ProximitySensor where
  mEnabled : Bool
  mSawNear : Bool
  registered : Bool
  deriving DecidableEq

namespace ProximitySensor

def start : ProximitySensor := ⟨false, false, false⟩

variable (s : ProximitySensor)

def screenTurnedOn : ProximitySensor :=
  if s.mEnabled then { s with registered := false, mEnabled := false } else s

def screenTurnedOff (settings : LineageActionsSettings) : ProximitySensor :=
  if settings.isIrWakeupEnabled && !s.mEnabled then
    { s with registered := true, mEnabled := true }
  else s

/-- The second result tells whether `action` is called. -/
def onSensorChanged (isNear : Bool) : ProximitySensor × Bool :=
  ({ s with mSawNear := isNear }, s.mSawNear && !isNear)

variable {s}

theorem screenTurnedOn_flags (h : s.registered = s.mEnabled) :
    s.screenTurnedOn.registered = false ∧ s.screenTurnedOn.mEnabled = false := by
  rw [screenTurnedOn]
  split_ifs with henabled
  · exact ⟨rfl, rfl⟩
  · have hdisabled := Bool.eq_false_iff.mpr henabled
    exact ⟨h.trans hdisabled, hdisabled⟩

theorem screenTurnedOff_flags (h : s.registered = s.mEnabled) (settings : LineageActionsSettings) :
    (s.screenTurnedOff settings).registered = (s.screenTurnedOff settings).mEnabled ∧
      (s.screenTurnedOff settings).mEnabled = (s.mEnabled || settings.isIrWakeupEnabled) := by
  rw [screenTurnedOff]
  cases henabled : s.mEnabled <;> cases settings.isIrWakeupEnabled <;> simp [h, henabled]

end ProximitySensor

/-- `stowed` and `near` are the last reports since the latest registration. -/
structure DozeSessions where
  stow : StowSensor
  proximity : ProximitySensor
  stowed : Option Bool
  near : Option Bool

namespace DozeSessions

def start : DozeSessions := ⟨.start, .start, none, none⟩

/-- The screen turns off under some settings; a sensor event tells whether `values[0] != 0`, or is
below `getMaximumRange()`. -/
inductive Event
  | screenTurnedOn
  | screenTurnedOff (settings : LineageActionsSettings)
  | stow (thisStowed : Bool) (now : ℤ)
  | proximity (isNear : Bool)

variable (w : DozeSessions)

def screen (stow : StowSensor) (proximity : ProximitySensor) : DozeSessions where
  stow := stow
  proximity := proximity
  stowed := if stow.registered && !w.stow.registered then none else w.stowed
  near := if proximity.registered && !w.proximity.registered then none else w.near

def step : Event → DozeSessions
  | .screenTurnedOn => w.screen w.stow.screenTurnedOn w.proximity.screenTurnedOn
  | .screenTurnedOff settings =>
    w.screen (w.stow.screenTurnedOff settings) (w.proximity.screenTurnedOff settings)
  | .stow thisStowed now =>
    if w.stow.registered then
      { w with stow := (w.stow.onSensorChanged thisStowed now).1, stowed := some thisStowed }
    else w
  | .proximity isNear =>
    if w.proximity.registered then
      { w with proximity := (w.proximity.onSensorChanged isNear).1, near := some isNear }
    else w

def acts : Event → Bool
  | .stow thisStowed now => w.stow.registered && (w.stow.onSensorChanged thisStowed now).2
  | .proximity isNear => w.proximity.registered && (w.proximity.onSensorChanged isNear).2
  | _ => false

/-- The display is lit only by a transition of which both ends were reported since the latest
registration. -/
def Right (e : Event) : Prop :=
  w.acts e = true → ((∃ now, e = .stow false now) ∧ w.stowed = some true) ∨
    e = .proximity false ∧ w.near = some true

/-- The first report after a registration finds no transition begun before it. -/
def Orderly : Event → Prop
  | .stow false now => w.stow.registered = true → w.stowed = none →
      ¬ (w.stow.mLastStowed = true ∧ now - w.stow.isStowedTime ≥ IN_POCKET_MIN_TIME)
  | .proximity false => w.proximity.registered = true → w.near = none → w.proximity.mSawNear = false
  | _ => True

structure Inv : Prop where
  stowed : (Kept.mk w.stow.mLastStowed w.stowed).Agrees
  near : (Kept.mk w.proximity.mSawNear w.near).Agrees

variable {w}

theorem inv_start : start.Inv := ⟨Kept.agrees_renew _, Kept.agrees_renew _⟩

theorem Inv.screen (h : w.Inv) {stow : StowSensor} {proximity : ProximitySensor}
    (hstow : stow.mLastStowed = w.stow.mLastStowed)
    (hproximity : proximity.mSawNear = w.proximity.mSawNear) : (w.screen stow proximity).Inv := by
  refine ⟨?_, ?_⟩
  · simp only [DozeSessions.screen, hstow]
    exact h.stowed.renew _
  · simp only [DozeSessions.screen, hproximity]
    exact h.near.renew _

theorem Inv.step (h : w.Inv) (e : Event) : (w.step e).Inv := by
  cases e with
  | screenTurnedOn =>
    refine h.screen ?_ ?_
    · rw [StowSensor.screenTurnedOn]
      split_ifs <;> rfl
    · rw [ProximitySensor.screenTurnedOn]
      split_ifs <;> rfl
  | screenTurnedOff settings =>
    refine h.screen ?_ ?_
    · rw [StowSensor.screenTurnedOff]
      split_ifs <;> rfl
    · rw [ProximitySensor.screenTurnedOff]
      split_ifs <;> rfl
  | stow thisStowed now =>
    rw [DozeSessions.step]
    split_ifs
    · have hlast : (w.stow.onSensorChanged thisStowed now).1.mLastStowed = thisStowed := by
        cases thisStowed <;> rfl
      refine ⟨?_, h.near⟩
      rw [hlast]
      exact Kept.agrees_report thisStowed
    · exact h
  | proximity isNear =>
    rw [DozeSessions.step]
    split_ifs
    · exact ⟨h.stowed, Kept.agrees_report isNear⟩
    · exact h

theorem Inv.right_stow_iff (h : w.Inv) (now : ℤ) :
    w.Right (.stow false now) ↔ w.Orderly (.stow false now) := by
  have hjustified := h.stowed.justified_iff
    (p := fun stowed => stowed = true ∧ now - w.stow.isStowedTime ≥ IN_POCKET_MIN_TIME)
  have hacts : w.acts (.stow false now) = true ↔ w.stow.registered = true ∧
      w.stow.mLastStowed = true ∧ now - w.stow.isStowedTime ≥ IN_POCKET_MIN_TIME := by
    simp only [acts, StowSensor.onSensorChanged, Bool.and_eq_true, decide_eq_true_eq,
      Bool.false_eq_true, if_false]
  have hgoal : w.Right (.stow false now) ↔
      (w.acts (.stow false now) = true → w.stowed = some true) := by
    simp only [Right, Event.stow.injEq, true_and, exists_eq', reduceCtorEq, false_and, or_false]
  rw [hgoal, hacts, Orderly]
  constructor
  · intro hright hregistered hnone hlast
    exact Option.some_ne_none _ ((hright ⟨hregistered, hlast⟩).symm.trans hnone)
  · rintro horderly ⟨hregistered, hlast⟩
    obtain ⟨stowed, hstowed, rfl, -⟩ := hjustified.mpr (horderly hregistered) hlast
    exact hstowed

theorem Inv.right_proximity_iff (h : w.Inv) :
    w.Right (.proximity false) ↔ w.Orderly (.proximity false) := by
  have hjustified := h.near.justified_iff (p := (· = true))
  have hacts : w.acts (.proximity false) = true ↔
      w.proximity.registered = true ∧ w.proximity.mSawNear = true := by
    simp only [acts, ProximitySensor.onSensorChanged, Bool.not_false, Bool.and_true,
      Bool.and_eq_true]
  have hgoal : w.Right (.proximity false) ↔
      (w.acts (.proximity false) = true → w.near = some true) := by
    simp only [Right, reduceCtorEq, exists_false, false_and, true_and, false_or]
  rw [hgoal, hacts, Orderly]
  constructor
  · intro hright hregistered hnone
    refine Bool.eq_false_iff.mpr fun hlast => ?_
    exact Option.some_ne_none _ ((hright ⟨hregistered, hlast⟩).symm.trans hnone)
  · rintro horderly ⟨hregistered, hlast⟩
    obtain ⟨near, hnear, rfl⟩ := hjustified.mpr
      (fun hnone => Bool.eq_false_iff.mp (horderly hregistered hnone)) hlast
    exact hnear

theorem right_iff_orderly (h : w.Inv) (e : Event) : w.Right e ↔ w.Orderly e := by
  match e with
  | .screenTurnedOn => exact iff_of_true nofun trivial
  | .screenTurnedOff settings => exact iff_of_true nofun trivial
  | .stow true now =>
    refine iff_of_true (fun hacts => ?_) trivial
    exact absurd ((Bool.and_eq_true _ _).mp hacts).2 Bool.false_ne_true
  | .proximity true =>
    refine iff_of_true (fun hacts => ?_) trivial
    simp [acts, ProximitySensor.onSensorChanged] at hacts
  | .stow false now => exact h.right_stow_iff now
  | .proximity false => exact h.right_proximity_iff

theorem fresh_iff (events : List Event) :
    Along step Right start events ↔ Along step Orderly start events :=
  along_congr Inv (fun _ e h => right_iff_orderly h e) (fun _ e h _ => h.step e) inv_start events

/-- The first end of a transition in one session, and the second when the screen turns off again. -/
def halves (settings : LineageActionsSettings) (first second : Event) : List Event :=
  [.screenTurnedOff settings, first, .screenTurnedOn, .screenTurnedOff settings, second]

theorem halves_act :
    ¬ Along step Right start (halves ⟨true, false, true⟩ (.proximity true) (.proximity false)) ∧
      ¬ Along step Right start (halves ⟨true, true, false⟩ (.stow true 0) (.stow false 6000)) := by
  constructor
  · intro h
    obtain ⟨-, -, -, -, hlast, -⟩ := h
    rcases hlast (by decide) with ⟨⟨now, hstow⟩, -⟩ | ⟨-, hnear⟩
    · cases hstow
    · exact absurd hnear (by decide)
  · intro h
    obtain ⟨-, -, -, -, hlast, -⟩ := h
    rcases hlast (by decide) with ⟨-, hstowed⟩ | ⟨hproximity, -⟩
    · exact absurd hstowed (by decide)
    · cases hproximity

end DozeSessions
end Cedric.LineageActions
