import Cedric.LineageActions.ProximitySilencer

/-!
# `LiftToSilence`

A phone that is lifted while it rings, and is not stowed, falls silent. `LiftRings` runs
the gesture beside what its two sensors reported in the current ring.
-/

namespace Cedric.LineageActions

open CallState Freshness Runs

/-- The last two fields tell which of its two sensor listeners are registered. -/
structure LiftToSilence where
  mIsRinging : Bool
  mIsStowed : Bool
  mLastFlatUp : Bool
  flatUpRegistered : Bool
  stowRegistered : Bool
  deriving DecidableEq

namespace LiftToSilence

def start : LiftToSilence := ⟨false, false, false, false, false⟩

variable (s : LiftToSilence)

def onCallStateChanged (state : CallState) : LiftToSilence :=
  ringingChange s.mIsRinging state
    { s with flatUpRegistered := true, stowRegistered := true, mIsRinging := true }
    { s with flatUpRegistered := false, stowRegistered := false, mIsRinging := false } s

/-- The second result tells whether `silenceRinger` is called. -/
def onSensorChanged (thisFlatUp : Bool) : LiftToSilence × Bool :=
  ({ s with mLastFlatUp := thisFlatUp }, s.mLastFlatUp && !thisFlatUp && !s.mIsStowed)

def mStowListener (stowed : Bool) : LiftToSilence := { s with mIsStowed := stowed }

/-- A sensor event tells whether `values[0] != 0`. -/
inductive Event
  | flatUp (detected : Bool)
  | stow (detected : Bool)
  | callState (state : CallState)

def step : Event → LiftToSilence
  | .flatUp detected => (s.onSensorChanged detected).1
  | .stow detected => s.mStowListener detected
  | .callState state => s.onCallStateChanged state

def silencesRinger : Event → Bool
  | .flatUp detected => (s.onSensorChanged detected).2
  | _ => false

@[simp] theorem onCallStateChanged_kept (state : CallState) :
    (s.onCallStateChanged state).mLastFlatUp = s.mLastFlatUp ∧
      (s.onCallStateChanged state).mIsStowed = s.mIsStowed :=
  ringingChange_ind
    (P := fun t : LiftToSilence => t.mLastFlatUp = s.mLastFlatUp ∧ t.mIsStowed = s.mIsStowed)
    ⟨rfl, rfl⟩ ⟨rfl, rfl⟩ ⟨rfl, rfl⟩

end LiftToSilence

/-- `flatUp` and `stow` are the last reports of the current ring. -/
structure LiftRings extends LiftToSilence where
  ringing : Bool
  flatUp : Option Bool
  stow : Option Bool

namespace LiftRings

def start : LiftRings := ⟨.start, false, none, none⟩

variable (w : LiftRings)

def step (e : LiftToSilence.Event) : LiftRings :=
  let s := w.toLiftToSilence.step e
  match e with
  | .flatUp detected => ⟨s, w.ringing, if w.ringing then some detected else none, w.stow⟩
  | .stow detected => ⟨s, w.ringing, w.flatUp, if w.ringing then some detected else none⟩
  | .callState CALL_STATE_RINGING =>
    if w.ringing then ⟨s, true, w.flatUp, w.stow⟩ else ⟨s, true, none, none⟩
  | .callState _ => ⟨s, false, none, none⟩

/-- The ringer is silenced exactly if, by the reports of this ring, the phone is lifted and not
stowed. -/
def Right (e : LiftToSilence.Event) : Prop :=
  w.silencesRinger e = true ↔
    e = .flatUp false ∧ w.flatUp = some true ∧ w.stow ≠ some true

/-- A first report of the ring finds no lift left from before it, nor does a lift in a ring
without a stow report find the phone stowed since before it. -/
def Orderly : LiftToSilence.Event → Prop
  | .flatUp false =>
    (w.flatUp = none → ¬ (w.mLastFlatUp = true ∧ w.mIsStowed = false)) ∧
      (w.flatUp = some true → w.stow = none → w.mIsStowed = false)
  | _ => True

structure Inv (w : LiftRings) : Prop where
  flatUp : (Kept.mk w.mLastFlatUp w.flatUp).Agrees
  stow : (Kept.mk w.mIsStowed w.stow).Agrees

variable {w}

theorem inv_start : start.Inv := ⟨Kept.agrees_renew _, Kept.agrees_renew _⟩

theorem agrees_reported (ringing detected : Bool) :
    (Kept.mk detected (if ringing then some detected else none)).Agrees := by
  cases ringing with
  | false => exact Kept.agrees_renew detected
  | true => exact Kept.agrees_report detected

theorem Inv.step (h : w.Inv) (e : LiftToSilence.Event) : (w.step e).Inv := by
  match e with
  | .flatUp detected => exact ⟨agrees_reported w.ringing detected, h.stow⟩
  | .stow detected => exact ⟨h.flatUp, agrees_reported w.ringing detected⟩
  | .callState state =>
    obtain ⟨hflat, hstow⟩ := w.onCallStateChanged_kept state
    have hkept : ∀ ringing, Inv ⟨w.onCallStateChanged state, ringing, w.flatUp, w.stow⟩ := by
      intro ringing
      refine ⟨?_, ?_⟩
      · rw [hflat]
        exact h.flatUp
      · rw [hstow]
        exact h.stow
    have hrenewed : ∀ ringing, Inv ⟨w.onCallStateChanged state, ringing, none, none⟩ :=
      fun _ => ⟨Kept.agrees_renew _, Kept.agrees_renew _⟩
    cases state with
    | CALL_STATE_RINGING =>
      simp only [LiftRings.step]
      split_ifs
      · exact hkept true
      · exact hrenewed true
    | CALL_STATE_IDLE => exact hrenewed false
    | CALL_STATE_OFFHOOK => exact hrenewed false

theorem right_iff_orderly (h : w.Inv) (e : LiftToSilence.Event) : w.Right e ↔ w.Orderly e := by
  match e with
  | .callState state => exact iff_of_true (iff_of_false nofun nofun) trivial
  | .stow detected => exact iff_of_true (iff_of_false nofun nofun) trivial
  | .flatUp true =>
    refine iff_of_true (iff_of_false ?_ nofun) trivial
    simp only [LiftToSilence.silencesRinger, LiftToSilence.onSensorChanged, Bool.not_true,
      Bool.and_false, Bool.false_and, Bool.false_eq_true, not_false_eq_true]
  | .flatUp false =>
    simp only [Right, Orderly, LiftToSilence.silencesRinger, LiftToSilence.onSensorChanged,
      Bool.not_false, Bool.and_true, Bool.and_eq_true, Bool.not_eq_true', true_and]
    rcases h.flatUp.eq_none_or with hflat | hflat
    · rw [show w.flatUp = none from hflat]
      simp only [reduceCtorEq, false_and, iff_false, true_imp_iff, false_imp_iff, and_true]
    · rw [show w.flatUp = some w.mLastFlatUp from hflat]
      have hstow := h.stow.decides_iff (p := (· = false)) false
      have hdecided : w.stow ≠ some true ↔ w.stow.getD false = false := by
        cases w.stow <;> simp
      cases w.mLastFlatUp with
      | false => simp
      | true => simpa [hdecided] using hstow

theorem lifts_apart_iff (events : List LiftToSilence.Event) :
    Along step Right start events ↔ Along step Orderly start events :=
  along_congr Inv (fun _ e h => right_iff_orderly h e) (fun _ e h _ => h.step e) inv_start events

/-- The phone lay flat at the end of the first call; the first report of the second ring is that it
does not any more. -/
def liftedBetween : List LiftToSilence.Event :=
  [.callState CALL_STATE_RINGING, .flatUp true, .callState CALL_STATE_IDLE,
    .callState CALL_STATE_RINGING, .flatUp false]

theorem liftedBetween_silenced : ¬ Along step Right start liftedBetween := by
  intro h
  obtain ⟨-, -, -, -, hlast, -⟩ := h
  have hflat := (hlast.mp (by decide)).2.1
  exact absurd hflat (by decide)

end LiftRings
end Cedric.LineageActions
