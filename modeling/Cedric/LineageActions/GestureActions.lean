import Cedric.LineageActions.FiredActions
import Cedric.LineageActions.TapWindows

/-!
# Null references behind gestures and their actions

A step of the handler fires at most one action, which is known from the state before it
(`fired_step`). A run follows no null reference exactly if the handler finds what it needs at
every step, and so do the calls of the action that the step fires.
-/

namespace Cedric.LineageActions

open Calls Call KeyAction Node Runs

namespace KeyHandler

variable (s : KeyHandler) (phone : Phone)

def performed (action : ℤ) : Option ℤ := if isHeldBack phone action then none else some action

def supportedAction (action : ℤ) : Option ℤ :=
  if isActionSupported phone action then performed phone action else none

def scancodeAction (scanCode : ScanCode) : Option ℤ :=
  if scanCode = FP_TAP_SCANCODE then
    if readFPNode phone FP_KEY_DBLTAP_NODE = some "0" then
      supportedAction phone (str2int (readFPNode phone FP_KEYS_NODE))
    else none
  else (swipeNode scanCode).bind fun node =>
    supportedAction phone (str2int (readFPNode phone node))

def gestureAction (scanCode : ScanCode) : Option ℤ :=
  if GesturesEnabled phone ∧ ¬ s.AsksProximity phone then scancodeAction phone scanCode else none

def fires : Event → Option ℤ
  | .key phone event => if s.Takes event then s.gestureAction phone event.scanCode else none
  | .callback phone .doubleTapRunnable =>
    if .doubleTapRunnable ∈ s.posted then supportedAction phone (windowAction phone s.fpTapCounts)
    else none
  | .message phone => s.screenOff.messages.head?.bind fun msg => scancodeAction phone msg.arg1
  | _ => none

variable {s phone}

theorem appends_perform (action : ℤ) :
    Appends fired (performed phone action).toList (perform phone action) := by
  have hfired : Appends fired [action]
      (update fun s : KeyHandler => { s with fired := s.fired ++ [action] }) := fun _ _ => rfl
  by_cases hheld : isHeldBack phone action = true
  · rw [performed, if_pos hheld, perform, if_pos hheld]
    exact Keeps.appends (keeps_pure ())
  · rw [performed, if_neg hheld, perform, if_neg hheld]
    exact Appends.ite (Appends.keeps_bind (keeps_fired.doHaptic phone true) fun _ => hfired) hfired

theorem appends_fireFPAction (action : ℤ) (isDoubleTap : Bool) :
    Appends fired (performed phone action).toList (fireFPAction phone action isDoubleTap) := by
  have hperform := @appends_perform phone action
  refine Appends.deref_bind fun enabled _ => Appends.ite (Appends.ite ?_ (Appends.ite ?_ ?_)) ?_
  · exact Appends.keeps_bind (keeps_fired.vibrate _) fun _ => hperform
  · exact Appends.keeps_bind (keeps_fired.doHaptic phone false) fun _ => hperform
  · exact hperform
  · exact hperform

theorem appends_fireSupported (action : ℤ) :
    Appends fired (supportedAction phone action).toList (fireSupported phone action) := by
  rw [supportedAction, fireSupported]
  split_ifs
  · exact appends_fireFPAction action false
  · exact Keeps.appends (keeps_pure ())

theorem keeps_detectDoubleTap : Keeps fired (detectDoubleTapOnFP phone) := by
  have hhaptic : Keeps fired (doHapticFeedbackFP phone false) := keeps_fired.doHaptic phone false
  have hpost : Keeps fired postDoubleTap := Keeps.bind (keeps_get _) fun _ =>
    Keeps.ite (fun _ => rfl) (keeps_pure _)
  exact Keeps.bind (keeps_update fun _ => rfl) fun _ => Keeps.bind (keeps_get _) fun _ =>
    Keeps.ite (Keeps.bind hhaptic fun _ => hpost) hpost

theorem supportedAction_zero : supportedAction phone 0 = none := by
  rw [supportedAction, isActionSupported]
  split_ifs with hscreen h h
  · exact absurd h (by decide)
  · rfl
  · exact absurd h (by decide)
  · rfl

theorem appends_processFPScancode (scanCode : ScanCode) :
    Appends fired (scancodeAction phone scanCode).toList (processFPScancode phone scanCode) := by
  have hreset : Keeps fired resetDoubleTapOnFP := fun _ => rfl
  rw [processFPScancode, scancodeAction]
  split_ifs with htap hline hhold hright hleft
  · refine Appends.deref_bind fun enabled henabled => ?_
    rw [isDoubleTapEnabledOnFP, isEnabledOnFP, hline] at henabled
    cases henabled
    exact Appends.keeps_bind hreset fun _ => appends_fireSupported _
  · refine Appends.deref_bind fun enabled henabled => ?_
    cases enabled with
    | true => exact keeps_detectDoubleTap.appends
    | false =>
      obtain ⟨line, hread, hzero⟩ := Option.map_eq_some_iff.mp henabled
      rw [bne_eq_false_iff_eq] at hzero
      exact absurd (hzero ▸ hread) hline
  · rw [swipeNode, if_pos hhold]
    simpa using appends_fireSupported _
  · rw [swipeNode, if_neg hhold, if_pos hright]
    simpa using appends_fireSupported _
  · rw [swipeNode, if_neg hhold, if_neg hright, if_pos hleft]
    simpa using appends_fireSupported _
  · rw [swipeNode, if_neg hhold, if_neg hright, if_neg hleft]
    have hnone := @appends_fireSupported phone 0
    rwa [supportedAction_zero] at hnone

theorem fired_processFPScreenOff (hscreen : phone.isScreenOn = false) {scanCode : ScanCode}
    (h : Returns (processFPScreenOffScancode phone scanCode) s) :
    (processFPScreenOffScancode phone scanCode s).1.fired =
      s.fired ++
        (if s.AsksProximity phone then none else scancodeAction phone scanCode).toList := by
  cases hline : readFPNode phone FP_PROXIMITY_CHECK_SCREENOFF_NODE with
  | none =>
    rw [Returns, processFPScreenOffScancode_null hline] at h
    exact absurd rfl h
  | some line =>
    have hasks : s.AsksProximity phone ↔ line ≠ "0" ∧ s.screenOff.messages = [] := by
      have hchecked : isProximityEnabledOnScreenOffGesturesFP phone = some (line != "0") :=
        congrArg (Option.map _) hline
      rw [AsksProximity, hchecked, and_iff_right hscreen, Option.some.injEq, bne_iff_ne]
    by_cases hguard : line ≠ "0" ∧ s.screenOff.messages = []
    · rw [if_pos (hasks.mpr hguard), processFPScreenOffScancode_asks hline hguard,
        Option.toList_none, List.append_nil]
      obtain ⟨g, hstate, -⟩ := register_screenOff
        (s := (sendMessage ⟨s.screenOff.gestures.length, scanCode⟩ (s.numbered scanCode)).1)
        s.screenOff.gestures.length scanCode
      have hkept := congrArg fired hstate
      exact hkept
    · rw [Returns, processFPScreenOffScancode_answers hline hguard] at h
      rw [if_neg (mt hasks.mp hguard), processFPScreenOffScancode_answers hline hguard]
      exact appends_processFPScancode scanCode _ h

theorem fired_handleGesture {home homeOff : String}
    (hhome : readOneLine phone FP_HOME_NODE = some home)
    (hoff : readOneLine phone FP_HOME_OFF_NODE = some homeOff) {event : KeyEvent}
    (h : Returns (handleGesture phone event (home == "1") (homeOff == "1")) s) :
    (handleGesture phone event (home == "1") (homeOff == "1") s).1.fired =
      s.fired ++ (s.gestureAction phone event.scanCode).toList := by
  have henabled : GesturesEnabled phone ↔
      home = "1" ∧ (phone.isScreenOn = true ∨ homeOff = "1") := by
    rw [GesturesEnabled, hhome, hoff, Option.some.injEq, Option.some.injEq]
  rw [handleGesture] at h ⊢
  by_cases hon : GesturesEnabled phone
  · obtain ⟨rfl, hscreen⟩ := henabled.mp hon
    cases hscreenOn : phone.isScreenOn with
    | true =>
      have hasks : ¬ s.AsksProximity phone := fun ha => Bool.eq_false_iff.mp ha.1 hscreenOn
      rw [if_neg (by simp [hscreenOn]), if_neg (by simp [hscreenOn])] at h
      rw [if_neg (by simp), if_neg (by simp), bind_pure_state, gestureAction, if_pos ⟨hon, hasks⟩]
      exact appends_processFPScancode event.scanCode s (returns_unit_bind_iff.mp h).1
    | false =>
      have hsecond : homeOff = "1" := hscreen.resolve_left (Bool.eq_false_iff.mp hscreenOn)
      subst hsecond
      rw [if_neg (by simp [hscreenOn]), if_pos (by simp [hscreenOn])] at h
      rw [if_neg (by simp), if_pos (by simp), bind_pure_state,
        fired_processFPScreenOff hscreenOn (returns_unit_bind_iff.mp h).1, gestureAction]
      simp only [hon, true_and, ite_not]
  · rw [if_pos (by grind), bind_pure_state, gestureAction, if_neg fun hboth => hon hboth.1,
      Option.toList_none, List.append_nil]
    rfl

theorem fired_handleKeyEvent {event : KeyEvent} (h : Returns (handleKeyEvent phone event) s) :
    (handleKeyEvent phone event s).1.fired = s.fired ++ (s.fires (.key phone event)).toList := by
  rw [fires]
  split_ifs with htaken
  · obtain ⟨home, homeOff, hhome, hoff, -⟩ := (returns_handleKeyEvent_iff event).mp h htaken.1
    have hkept : (takeGesture event s).1.fired = s.fired := by
      rw [takeGesture_apply]
      split_ifs <;> rfl
    have hsame : (takeGesture event s).1.AsksProximity phone ↔ s.AsksProximity phone := by
      rw [AsksProximity, AsksProximity, allowsTaps_screenOff.takeGesture event s]
    rw [Returns, handleKeyEvent_taken htaken hhome hoff] at h
    rw [handleKeyEvent_taken htaken hhome hoff, fired_handleGesture hhome hoff h, hkept]
    simp only [gestureAction, hsame]
  · rw [handleKeyEvent_untaken htaken, Option.toList_none, List.append_nil]

theorem tapAction_returned {action : ℤ} (h : (tapAction phone s).2 = some action) :
    tapAction phone s = (s, some (windowAction phone s.fpTapCounts)) := by
  rw [windowAction, windowNode]
  split_ifs with hcount
  · exact tapAction_many hcount
  · rw [tapAction_single hcount] at h ⊢
    obtain ⟨line, hline, -⟩ := Option.map_eq_some_iff.mp h
    rw [hline, Option.map_some]

theorem fired_doubleTapRunnable (h : Returns (doubleTapRunnable phone) s) :
    (doubleTapRunnable phone s).1.fired =
      s.fired ++ (supportedAction phone (windowAction phone s.fpTapCounts)).toList := by
  have hreset : Keeps fired resetDoubleTapOnFP := fun _ => rfl
  rw [doubleTapRunnable] at h ⊢
  obtain ⟨_, haction, -⟩ := returns_bind_iff.mp h
  have htap := tapAction_returned haction
  generalize windowAction phone s.fpTapCounts = action at htap ⊢
  have hvalue : (tapAction phone s).2 = some action := by rw [htap]
  rw [Returns, bind_returned hvalue, htap] at h
  rw [bind_returned hvalue, htap]
  revert h
  by_cases hfires : action ≠ 0 ∧ isActionSupported phone action = true
  · rw [if_pos hfires, supportedAction, if_pos hfires.2]
    intro h
    have hboth := (@appends_fireFPAction phone action true).bind fun _ => hreset.appends
    rw [List.append_nil] at hboth
    exact hboth s h
  · have hnone : supportedAction phone action = none := by
      by_cases hzero : action = 0
      · rw [hzero, supportedAction_zero]
      · rw [supportedAction, if_neg fun hsupported => hfires ⟨hzero, hsupported⟩]
    rw [if_neg hfires, hnone, Option.toList_none, List.append_nil]
    exact fun _ => rfl

theorem fired_step (hfollowed : s.Followed) {e : Event} (h : s.NoThrow e) :
    (s.step e).fired = s.fired ++ (s.fires e).toList := by
  cases e with
  | key phone event => exact fired_handleKeyEvent h
  | callback phone r =>
    rw [step]
    by_cases hr : r ∈ s.posted
    · rw [if_pos hr]
      cases r with
      | doubleTapRunnable =>
        rw [fires, if_pos hr]
        exact fired_doubleTapRunnable (h hr)
      | fpGestureRunnable => exact (List.append_nil _).symm
      | vibration longpress =>
        have hvibrates := keeps_fired.runVibration phone longpress
          { s with posted := s.posted.erase (.vibration longpress) }
        exact hvibrates.trans (List.append_nil _).symm
    · have hnone : s.fires (.callback phone r) = none := by
        cases r with
        | doubleTapRunnable => rw [fires, if_neg hr]
        | fpGestureRunnable => rfl
        | vibration longpress => rfl
      rw [if_neg hr, hnone, Option.toList_none, List.append_nil]
  | message phone =>
    rw [NoThrow] at h
    rw [step, fires]
    cases hmessages : s.screenOff.messages with
    | nil => exact (List.append_nil _).symm
    | cons msg messages =>
      rw [hmessages] at h
      simp only [List.head?_cons, Option.bind_some]
      exact appends_processFPScancode msg.arg1 _ (returns_unit_bind_iff.mp h).2
  | reading listener far =>
    rw [step]
    split_ifs with hl
    · rw [onSensorChanged_ready (hfollowed.listener listener hl)]
      exact (List.append_nil _).symm
    · exact (List.append_nil _).symm

end KeyHandler

structure GestureActions extends KeyHandler where
  actions : Actions

namespace GestureActions

def start (s : KeyHandler) : GestureActions := ⟨s, ⟨none, [], []⟩⟩

def callAll (answers : Answers) : List ℤ → Call Actions Unit
  | [] => pure ()
  | action :: actions => do
    Actions.call answers action
    callAll answers actions

variable (w : GestureActions)

def firedBy (e : KeyHandler.Event) : List ℤ := (w.toKeyHandler.step e).fired.drop w.fired.length

def step (e : KeyHandler.Event × Answers) : GestureActions :=
  ⟨w.toKeyHandler.step e.1, (callAll e.2 (w.firedBy e.1) w.actions).1⟩

def NoThrow (e : KeyHandler.Event × Answers) : Prop :=
  w.toKeyHandler.NoThrow e.1 ∧ Returns (callAll e.2 (w.firedBy e.1)) w.actions

/-- The handler finds what it needs, and so does the action that the step fires. -/
def Safe (e : KeyHandler.Event × Answers) : Prop :=
  w.toKeyHandler.Safe e.1 ∧ ∀ action ∈ w.fires e.1, w.actions.CallSafe e.2 action

variable {w}

theorem noThrow_iff (h : w.Followed) (e : KeyHandler.Event × Answers) :
    w.NoThrow e ↔ w.Safe e := by
  rw [NoThrow, Safe, ← KeyHandler.noThrow_iff h]
  refine and_congr_right fun hreturns => ?_
  have hfired : w.firedBy e.1 = (w.fires e.1).toList := by
    rw [firedBy, KeyHandler.fired_step h hreturns, List.drop_left]
  rw [hfired]
  cases w.fires e.1 with
  | none => exact iff_of_true (returns_pure _) nofun
  | some action =>
    simp only [Option.mem_some_iff, forall_eq']
    exact returns_unit_bind_iff.trans
      ((and_iff_left (returns_pure _)).trans (Actions.returns_call_iff action))

/-- A run never follows a null reference exactly if each of its steps finds what it needs. -/
theorem never_throws_iff
    (mVibrator mProximityWakeLock mSensorManager mProximitySensor : Bool)
    (events : List (KeyHandler.Event × Answers)) :
    Along step NoThrow
        (start (.start mVibrator mProximityWakeLock mSensorManager mProximitySensor)) events ↔
      Along step Safe
        (start (.start mVibrator mProximityWakeLock mSensorManager mProximitySensor)) events :=
  along_congr (fun w : GestureActions => w.Followed) (fun _ e h => noThrow_iff h e)
    (fun _ e h _ => h.step e.1) (KeyHandler.followed_start _ _ _ _) events

/-- The system finds no launcher, and the other answers are there. -/
def noLauncher : Answers := ⟨false, "device", none, some [], [], fun _ => none, fun _ => []⟩

/-- A screen that is on, where a hold brings back the last application. -/
def lastAppOn : Phone :=
  ⟨true, false, fun node => some [if node = FP_KEY_HOLD_NODE then "121" else "1"]⟩

/-- `KeyHandler` never assigns the objects of the proximity check, an empty node is read as `null`,
and so is a launcher that is not found. -/
theorem gestures_throw :
    ¬ Along step NoThrow (start (.start true false false false))
        [(.key ⟨false, false, fun _ => some ["1"]⟩ ⟨ACTION_UP, FP_HOLD_SCANCODE⟩, noLauncher)] ∧
      ¬ Along step NoThrow (start (.start true false false false))
        [(.key ⟨true, false, fun _ => some []⟩ ⟨ACTION_DOWN, FP_TAP_SCANCODE⟩, noLauncher)] ∧
      ¬ Along step NoThrow (start (.start true false false false))
        [(.key lastAppOn ⟨ACTION_UP, FP_HOLD_SCANCODE⟩, noLauncher)] := by
  refine ⟨fun h => ?_, fun h => ?_, fun h => ?_⟩
  · exact h.1.1 (by decide)
  · exact h.1.1 (by decide)
  · exact h.1.2 (by decide)

end GestureActions
end Cedric.LineageActions
