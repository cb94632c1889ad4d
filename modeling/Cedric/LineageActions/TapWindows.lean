import Cedric.LineageActions.KeyStream
import Cedric.LineageActions.NullSafety

/-!
# Tap windows of the fingerprint sensor

A window counts the taps taken while double tap is enabled. It is open while
`doubleTapRunnable` waits, and ends when that runs, at another gesture, or at a tap that
is not counted.
-/

namespace Cedric.LineageActions

open Calls Call KeyAction Node Runs

/-- What a step does to the window; the middle three end it. -/
inductive TapMark
  | count | reject | interrupt | expire | pass
  deriving DecidableEq

def TapMark.after (taps : ℕ) : TapMark → ℕ
  | count => taps + 1
  | pass => taps
  | _ => 0

def TapMark.Ends (m : TapMark) : Prop := m = reject ∨ m = interrupt ∨ m = expire

namespace KeyHandler

variable (s : KeyHandler) (phone : Phone)

def AsksProximity : Prop :=
  phone.isScreenOn = false ∧ isProximityEnabledOnScreenOffGesturesFP phone = some true ∧
    s.screenOff.messages = []

instance : Decidable (GesturesEnabled phone) := inferInstanceAs (Decidable (_ ∧ _))

instance : Decidable (s.AsksProximity phone) := inferInstanceAs (Decidable (_ ∧ _ ∧ _))

/-- A tap that is answered: counted if double tap is enabled. -/
def tapMark : TapMark :=
  if isDoubleTapEnabledOnFP phone = some true then .count else .reject

def answerMark (scanCode : ScanCode) : TapMark :=
  if scanCode = FP_TAP_SCANCODE then tapMark phone else .pass

def gestureMark (scanCode : ScanCode) : TapMark :=
  if scanCode ≠ FP_TAP_SCANCODE then .interrupt
  else if ¬ GesturesEnabled phone then .reject
  else if s.AsksProximity phone then .pass
  else tapMark phone

def mark : Event → TapMark
  | .key phone event =>
    if s.Takes event then s.gestureMark phone event.scanCode else .pass
  | .callback _ .doubleTapRunnable =>
    if .doubleTapRunnable ∈ s.posted then .expire else .pass
  | .message phone =>
    (s.screenOff.messages.head?.map fun msg => answerMark phone msg.arg1).getD .pass
  | _ => .pass

/-- Every node has a line. -/
def Readable : Event → Prop
  | .key phone _ | .callback phone _ | .message phone => ∀ node, readOneLine phone node ≠ none
  | .reading _ _ => True

/-- The timers are those of a window with so many taps, and of a gesture that is pending
or not. -/
structure Timed (taps : ℕ) (gesture : Bool) : Prop where
  counts : s.fpTapCounts = taps
  tapPending : s.fpTapPending = true ↔ 0 < taps
  tapPosted : .doubleTapRunnable ∈ s.posted ↔ 0 < taps
  gesturePending : s.fpGesturePending = gesture
  gesturePosted : .fpGestureRunnable ∈ s.posted ↔ gesture = true

structure SameTimers (s t : KeyHandler) : Prop where
  counts : t.fpTapCounts = s.fpTapCounts
  tapPending : t.fpTapPending = s.fpTapPending
  tapPosted : .doubleTapRunnable ∈ t.posted ↔ .doubleTapRunnable ∈ s.posted
  gesturePending : t.fpGesturePending = s.fpGesturePending
  gesturePosted : .fpGestureRunnable ∈ t.posted ↔ .fpGestureRunnable ∈ s.posted

variable {s phone} {t : KeyHandler} {taps : ℕ} {gesture : Bool}

theorem SameTimers.timed (h : SameTimers s t) (hs : s.Timed taps gesture) :
    t.Timed taps gesture where
  counts := h.counts.trans hs.counts
  tapPending := by rw [h.tapPending, hs.tapPending]
  tapPosted := h.tapPosted.trans hs.tapPosted
  gesturePending := h.gesturePending.trans hs.gesturePending
  gesturePosted := h.gesturePosted.trans hs.gesturePosted

theorem allowsActions_sameTimers : AllowsActions SameTimers where
  refl _ := ⟨rfl, rfl, Iff.rfl, rfl, Iff.rfl⟩
  trans _ _ _ hst htu := ⟨htu.counts.trans hst.counts, htu.tapPending.trans hst.tapPending,
    htu.tapPosted.trans hst.tapPosted, htu.gesturePending.trans hst.gesturePending,
    htu.gesturePosted.trans hst.gesturePosted⟩
  vibrated _ _ := ⟨rfl, rfl, Iff.rfl, rfl, Iff.rfl⟩
  vibration _ _ _ := ⟨rfl, rfl, by simp, rfl, by simp⟩
  fired _ _ := ⟨rfl, rfl, Iff.rfl, rfl, Iff.rfl⟩

theorem Timed.onScreenOff (h : s.Timed taps gesture) (screenOff : ScreenOffGestures) :
    Timed { s with screenOff := screenOff } taps gesture :=
  ⟨h.counts, h.tapPending, h.tapPosted, h.gesturePending, h.gesturePosted⟩

theorem timed_resetDoubleTap (hpending : s.fpGesturePending = gesture)
    (hposted : .fpGestureRunnable ∈ s.posted ↔ gesture = true) :
    (resetDoubleTapOnFP s).1.Timed 0 gesture where
  counts := rfl
  tapPending := by simp [resetDoubleTapOnFP, removeCallbacks]
  tapPosted := by simp [resetDoubleTapOnFP, removeCallbacks]
  gesturePending := hpending
  gesturePosted := by
    rw [← hposted]
    simp [resetDoubleTapOnFP, removeCallbacks]

theorem Timed.resetDoubleTap (h : s.Timed taps gesture) :
    (resetDoubleTapOnFP s).1.Timed 0 gesture :=
  timed_resetDoubleTap h.gesturePending h.gesturePosted

theorem timed_resetGestureDelay (hcounts : s.fpTapCounts = taps)
    (hpending : s.fpTapPending = true ↔ 0 < taps)
    (hposted : .doubleTapRunnable ∈ s.posted ↔ 0 < taps) :
    (resetFPGestureDelay s).1.Timed taps false where
  counts := hcounts
  tapPending := hpending
  tapPosted := by
    rw [← hposted]
    simp [resetFPGestureDelay, removeCallbacks]
  gesturePending := rfl
  gesturePosted := by simp [resetFPGestureDelay, removeCallbacks]

theorem Timed.taken (h : s.Timed taps gesture) : s.taken.Timed taps true where
  counts := h.counts
  tapPending := h.tapPending
  tapPosted := by
    rw [← h.tapPosted]
    simp [KeyHandler.taken]
  gesturePending := rfl
  gesturePosted := by simp [KeyHandler.taken]

theorem Timed.takeGesture (h : s.Timed taps gesture) (event : KeyEvent) :
    (takeGesture event s).1.Timed (if event.scanCode = FP_TAP_SCANCODE then taps else 0) true := by
  rw [takeGesture_apply]
  split_ifs
  · exact h.taken
  · exact h.taken.resetDoubleTap

theorem Timed.postDoubleTap (h : s.Timed taps gesture)
    (ht : SameTimers { s with fpTapCounts := s.fpTapCounts + 1 } t) :
    (postDoubleTap t).1.Timed (taps + 1) gesture := by
  have hcounts : t.fpTapCounts = taps + 1 := ht.counts.trans (congrArg (· + 1) h.counts)
  rw [KeyHandler.postDoubleTap, get_bind]
  split_ifs with hpending
  · refine ⟨hcounts, iff_of_true rfl (Nat.succ_pos taps), iff_of_true ?_ (Nat.succ_pos taps),
      ht.gesturePending.trans h.gesturePending, ?_⟩
    · exact List.mem_append_right _ (List.mem_singleton_self _)
    · rw [← h.gesturePosted, ← ht.gesturePosted]
      simp [postDelayed]
  · have htrue : t.fpTapPending = true := by simpa using hpending
    have hpos : 0 < taps := h.tapPending.mp (ht.tapPending.symm.trans htrue)
    exact ⟨hcounts, iff_of_true htrue (Nat.succ_pos taps),
      iff_of_true (ht.tapPosted.mpr (h.tapPosted.mpr hpos)) (Nat.succ_pos taps),
      ht.gesturePending.trans h.gesturePending, ht.gesturePosted.trans h.gesturePosted⟩

theorem Timed.detectDoubleTap (h : s.Timed taps gesture)
    (hhaptic : readFPNode phone FP_HAPTIC_NODE ≠ none) :
    (detectDoubleTapOnFP phone s).1.Timed (taps + 1) gesture := by
  rw [detectDoubleTapOnFP, update_bind, get_bind]
  split_ifs
  · have hreturns : Returns (doHapticFeedbackFP phone false)
        { s with fpTapCounts := s.fpTapCounts + 1 } :=
      (returns_doHaptic_iff false).mpr fun _ => hhaptic
    obtain ⟨_, ha⟩ := Option.ne_none_iff_exists'.mp hreturns
    rw [bind_returned ha]
    exact h.postDoubleTap (allowsActions_sameTimers.doHaptic phone false _)
  · exact h.postDoubleTap (allowsActions_sameTimers.refl _)

theorem Timed.fireSupported (h : s.Timed taps gesture) (action : ℤ) :
    (fireSupported phone action s).1.Timed taps gesture :=
  (allowsActions_sameTimers.fireSupported phone action s).timed h

theorem Timed.processScancode (h : s.Timed taps gesture)
    (hread : ∀ node, readOneLine phone node ≠ none) (scanCode : ScanCode) :
    (processFPScancode phone scanCode s).1.Timed ((answerMark phone scanCode).after taps)
      gesture := by
  rw [processFPScancode, answerMark]
  split_ifs with htap hhold hright hleft
  · rw [tapMark]
    cases henabled : isDoubleTapEnabledOnFP phone with
    | none => exact absurd henabled (isEnabledOnFP_ne_none_iff.mpr (hread _))
    | some enabled =>
      rw [deref_some_bind]
      cases enabled with
      | false => exact h.resetDoubleTap.fireSupported _
      | true => exact h.detectDoubleTap (hread _)
  · exact h.fireSupported _
  · exact h.fireSupported _
  · exact h.fireSupported _
  · exact h.fireSupported _

theorem Timed.register (h : s.Timed taps gesture) (number : ℕ) (scanCode : ScanCode) :
    (registerFPScreenOffListener number scanCode s).1.Timed taps gesture := by
  obtain ⟨g, hstate, -⟩ := register_screenOff (s := s) number scanCode
  rw [hstate]
  exact h.onScreenOff g

theorem Timed.processScreenOff (h : s.Timed taps gesture)
    (hread : ∀ node, readOneLine phone node ≠ none) (hscreen : phone.isScreenOn = false)
    (scanCode : ScanCode) :
    (processFPScreenOffScancode phone scanCode s).1.Timed
      ((if s.AsksProximity phone then .pass else answerMark phone scanCode : TapMark).after taps)
      gesture := by
  obtain ⟨line, hline⟩ := Option.ne_none_iff_exists'.mp
    (hread (getFPNodeBasedOnScreenState phone FP_PROXIMITY_CHECK_SCREENOFF_NODE))
  have hasks : s.AsksProximity phone ↔ line ≠ "0" ∧ s.screenOff.messages = [] := by
    have hchecked : isProximityEnabledOnScreenOffGesturesFP phone = some (line != "0") :=
      congrArg (Option.map _) hline
    rw [AsksProximity, hchecked, and_iff_right hscreen, Option.some.injEq, bne_iff_ne]
  by_cases h' : line ≠ "0" ∧ s.screenOff.messages = []
  · rw [if_pos (hasks.mpr h'), processFPScreenOffScancode_asks hline h']
    exact Timed.register ((h.onScreenOff _).onScreenOff _) _ scanCode
  · rw [if_neg (mt hasks.mp h'), processFPScreenOffScancode_answers hline h']
    exact Timed.processScancode ((h.onScreenOff _).onScreenOff _) hread scanCode

def handleMark (s : KeyHandler) (phone : Phone) (scanCode : ScanCode) : TapMark :=
  if ¬ GesturesEnabled phone then .reject
  else if s.AsksProximity phone then .pass
  else answerMark phone scanCode

theorem Timed.handleGesture (h : s.Timed taps gesture)
    (hread : ∀ node, readOneLine phone node ≠ none) {home homeOff : String}
    (hhome : readOneLine phone FP_HOME_NODE = some home)
    (hoff : readOneLine phone FP_HOME_OFF_NODE = some homeOff) (event : KeyEvent) :
    (handleGesture phone event (home == "1") (homeOff == "1") s).1.Timed
      ((s.handleMark phone event.scanCode).after taps) gesture := by
  have henabled : GesturesEnabled phone ↔
      home = "1" ∧ (phone.isScreenOn = true ∨ homeOff = "1") := by
    rw [GesturesEnabled, hhome, hoff, Option.some.injEq, Option.some.injEq]
  rw [handleMark, KeyHandler.handleGesture]
  by_cases hon : GesturesEnabled phone
  · rw [if_neg (not_not_intro hon)]
    obtain ⟨rfl, hscreen⟩ := henabled.mp hon
    cases hscreenOn : phone.isScreenOn with
    | true =>
      have hasks : ¬ s.AsksProximity phone := fun ha => Bool.eq_false_iff.mp ha.1 hscreenOn
      rw [if_neg hasks, if_neg (by simp), if_neg (by simp), bind_pure_state]
      exact h.processScancode hread event.scanCode
    | false =>
      have hsecond : homeOff = "1" := hscreen.resolve_left (Bool.eq_false_iff.mp hscreenOn)
      rw [hsecond, if_neg (by simp), if_pos (by simp), bind_pure_state]
      exact h.processScreenOff hread hscreenOn event.scanCode
  · rw [if_pos hon, if_pos (by grind), bind_pure_state]
    exact h.resetDoubleTap

theorem handleMark_takeGesture (event : KeyEvent) :
    ((takeGesture event s).1.handleMark phone event.scanCode).after
        (if event.scanCode = FP_TAP_SCANCODE then taps else 0) =
      (s.gestureMark phone event.scanCode).after taps := by
  have hasks : (takeGesture event s).1.AsksProximity phone ↔ s.AsksProximity phone := by
    rw [AsksProximity, AsksProximity, allowsTaps_screenOff.takeGesture event s]
  rw [handleMark, gestureMark, answerMark]
  by_cases htap : event.scanCode = FP_TAP_SCANCODE
  · simp only [htap, hasks, if_true, ne_eq, not_true_eq_false, if_false]
  · rw [if_neg htap, if_neg htap, if_pos htap]
    split_ifs <;> rfl

theorem Timed.handleKeyEvent (h : s.Timed taps gesture)
    (hread : ∀ node, readOneLine phone node ≠ none) (event : KeyEvent) :
    ∃ gesture', (handleKeyEvent phone event s).1.Timed
      ((s.mark (.key phone event)).after taps) gesture' := by
  rw [mark]
  split_ifs with htaken
  · obtain ⟨home, hhome⟩ := Option.ne_none_iff_exists'.mp (hread FP_HOME_NODE)
    obtain ⟨homeOff, hoff⟩ := Option.ne_none_iff_exists'.mp (hread FP_HOME_OFF_NODE)
    refine ⟨true, ?_⟩
    rw [handleKeyEvent_taken htaken hhome hoff, ← handleMark_takeGesture]
    exact (h.takeGesture event).handleGesture hread hhome hoff event
  · rw [handleKeyEvent_untaken htaken]
    exact ⟨gesture, h⟩

def windowNode (taps : ℕ) : Node := if 2 ≤ taps then FP_KEY_DBLTAP_NODE else FP_KEYS_NODE

def windowAction (phone : Phone) (taps : ℕ) : ℤ := str2int (readFPNode phone (windowNode taps))

theorem tapAction_apply (hread : ∀ node, readOneLine phone node ≠ none) :
    tapAction phone s = (s, some (windowAction phone s.fpTapCounts)) := by
  rw [windowAction, windowNode]
  split_ifs with hcount
  · exact tapAction_many hcount
  · obtain ⟨line, hline⟩ := Option.ne_none_iff_exists'.mp
      (hread (getFPNodeBasedOnScreenState phone FP_KEYS_NODE))
    have hnode : readFPNode phone FP_KEYS_NODE = some line := hline
    rw [tapAction_single hcount, hnode, Option.map_some]

theorem doubleTapRunnable_apply (hread : ∀ node, readOneLine phone node ≠ none) :
    doubleTapRunnable phone s = resetDoubleTapOnFP
      (if windowAction phone s.fpTapCounts ≠ 0 ∧
          isActionSupported phone (windowAction phone s.fpTapCounts) then
        (fireFPAction phone (windowAction phone s.fpTapCounts) true s).1 else s) := by
  have haction : (tapAction phone s).2 = some (windowAction phone s.fpTapCounts) := by
    rw [tapAction_apply hread]
  rw [doubleTapRunnable, bind_returned haction, tapAction_apply hread]
  split_ifs
  · obtain ⟨_, hfired⟩ := Option.ne_none_iff_exists'.mp
      ((returns_fireFPAction_iff (s := s) (windowAction phone s.fpTapCounts) true).mpr (hread _))
    rw [bind_returned hfired]
  · rfl

theorem keeps_fired : AllowsHaptics fun s t => t.fired = s.fired where
  toIsPreorder := isPreorder_keeps fired
  vibrated _ _ := rfl
  vibration _ _ _ := rfl

theorem fires_perform (phone : Phone) (action : ℤ) :
    Moves (fun s t => t.fired = s.fired ∨ t.fired = s.fired ++ [action])
      (perform phone action) := by
  have hfired : Moves (fun s t => t.fired = s.fired ∨ t.fired = s.fired ++ [action])
      (update fun s : KeyHandler => { s with fired := s.fired ++ [action] }) :=
    moves_update fun _ => Or.inr rfl
  refine Moves.ite (fun _ => Or.inl rfl) (Moves.ite ?_ hfired)
  exact (keeps_fired.doHaptic phone true).comp (fun _ => hfired) Or.inl fun hst htu => hst ▸ htu

theorem fires_fireFPAction (phone : Phone) (action : ℤ) (isDoubleTap : Bool) :
    Moves (fun s t => t.fired = s.fired ∨ t.fired = s.fired ++ [action])
      (fireFPAction phone action isDoubleTap) := by
  have hperform := fires_perform phone action
  have hafter : ∀ {s t u : KeyHandler}, t.fired = s.fired →
      (u.fired = t.fired ∨ u.fired = t.fired ++ [action]) →
        (u.fired = s.fired ∨ u.fired = s.fired ++ [action]) := fun hst htu => hst ▸ htu
  refine Moves.comp (R := fun s t => t.fired = s.fired) (fun _ => rfl)
    (fun enabled => Moves.ite (Moves.ite ?_ (Moves.ite ?_ ?_)) ?_) Or.inl hafter
  · exact (keeps_fired.vibrate _).comp (fun _ => hperform) Or.inl hafter
  · exact (keeps_fired.doHaptic phone false).comp (fun _ => hperform) Or.inl hafter
  · exact hperform
  · exact hperform

theorem doubleTapRunnable_fires (hread : ∀ node, readOneLine phone node ≠ none) :
    (doubleTapRunnable phone s).1.fired = s.fired ∨
      (doubleTapRunnable phone s).1.fired = s.fired ++ [windowAction phone s.fpTapCounts] := by
  rw [doubleTapRunnable_apply hread]
  split_ifs
  · exact fires_fireFPAction phone _ true s
  · exact Or.inl rfl

theorem sameTimers_fired (hread : ∀ node, readOneLine phone node ≠ none) :
    ∃ t, SameTimers s t ∧ doubleTapRunnable phone s = resetDoubleTapOnFP t := by
  refine ⟨_, ?_, doubleTapRunnable_apply hread⟩
  split_ifs
  · exact allowsActions_sameTimers.fireFPAction phone _ true s
  · exact allowsActions_sameTimers.refl s

theorem Timed.run (h : s.Timed taps gesture)
    (hread : ∀ node, readOneLine phone node ≠ none) {r : Runnable} (hr : r ∈ s.posted) :
    ∃ gesture', (run phone r { s with posted := s.posted.erase r }).1.Timed
      ((s.mark (.callback phone r)).after taps) gesture' := by
  cases r with
  | doubleTapRunnable =>
    obtain ⟨t, ht, hrun⟩ := sameTimers_fired (s := { s with
      posted := s.posted.erase .doubleTapRunnable }) hread
    refine ⟨gesture, ?_⟩
    rw [KeyHandler.run, hrun, mark, if_pos hr]
    refine timed_resetDoubleTap (ht.gesturePending.trans h.gesturePending) ?_
    rw [ht.gesturePosted, ← h.gesturePosted]
    exact List.mem_erase_of_ne (by simp)
  | fpGestureRunnable =>
    have hkept : .doubleTapRunnable ∈ s.posted.erase .fpGestureRunnable ↔
        .doubleTapRunnable ∈ s.posted := List.mem_erase_of_ne (by simp)
    exact ⟨false, timed_resetGestureDelay h.counts h.tapPending (hkept.trans h.tapPosted)⟩
  | vibration longpress =>
    have herased : SameTimers s { s with posted := s.posted.erase (.vibration longpress) } :=
      ⟨rfl, rfl, List.mem_erase_of_ne (by simp), rfl, List.mem_erase_of_ne (by simp)⟩
    have hrun := allowsActions_sameTimers.runVibration phone longpress
      { s with posted := s.posted.erase (.vibration longpress) }
    exact ⟨gesture, hrun.timed (herased.timed h)⟩

theorem Timed.step (h : s.Timed taps gesture) (hfollowed : s.Followed) {e : Event}
    (hread : Readable e) :
    ∃ gesture', (s.step e).Timed ((s.mark e).after taps) gesture' := by
  cases e with
  | key phone event => exact h.handleKeyEvent hread event
  | callback phone r =>
    rw [KeyHandler.step]
    split_ifs with hr
    · exact h.run hread hr
    · refine ⟨gesture, ?_⟩
      cases r with
      | doubleTapRunnable =>
        rw [mark, if_neg hr]
        exact h
      | fpGestureRunnable => exact h
      | vibration longpress => exact h
  | message phone =>
    rw [KeyHandler.step, mark]
    cases s.screenOff.messages with
    | nil => exact ⟨gesture, h⟩
    | cons msg messages =>
      exact ⟨gesture, ((h.onScreenOff _).onScreenOff _).processScancode hread msg.arg1⟩
  | reading listener far =>
    rw [KeyHandler.step]
    split_ifs with hl
    · rw [onSensorChanged_ready (hfollowed.listener listener hl)]
      exact ⟨gesture, h.onScreenOff _⟩
    · exact ⟨gesture, h⟩

end KeyHandler

/-- The handler beside the number of taps counted since a window was last closed. -/
structure TapWindow extends KeyHandler where
  taps : ℕ

namespace TapWindow

open KeyHandler

def start (s : KeyHandler) : TapWindow := ⟨s, 0⟩

variable (w : TapWindow)

def step (e : Event) : TapWindow := ⟨w.toKeyHandler.step e, (w.mark e).after w.taps⟩

/-- The flags and the callbacks after the step agree, an open window is closed by its end only,
and the callback that ends it fires at most the action for the taps of this window. -/
structure Right (w : TapWindow) (e : Event) : Prop where
  tap : (w.step e).fpTapPending = true ↔ .doubleTapRunnable ∈ (w.step e).posted
  counted : 0 < (w.step e).fpTapCounts ↔ (w.step e).fpTapPending = true
  gesture : (w.step e).fpGesturePending = true ↔ .fpGestureRunnable ∈ (w.step e).posted
  window : (w.step e).fpTapCounts = (w.step e).taps
  ends : w.fpTapPending = true → ((w.step e).fpTapPending = false ↔ (w.mark e).Ends)
  fires : ∀ phone, e = .callback phone .doubleTapRunnable → .doubleTapRunnable ∈ w.posted →
    0 < w.taps ∧ ((w.step e).fired = w.fired ∨
      (w.step e).fired = w.fired ++ [windowAction phone w.taps])

def Inv (w : TapWindow) : Prop := w.Followed ∧ ∃ gesture, w.Timed w.taps gesture

variable {w}

theorem inv_start (mVibrator mProximityWakeLock mSensorManager mProximitySensor : Bool) :
    (start (.start mVibrator mProximityWakeLock mSensorManager mProximitySensor)).Inv :=
  ⟨followed_start _ _ _ _, false, rfl, iff_of_false nofun (Nat.lt_irrefl 0),
    iff_of_false nofun (Nat.lt_irrefl 0), rfl, iff_of_false nofun nofun⟩

theorem Inv.step (h : w.Inv) {e : Event} (hread : Readable e) : (w.step e).Inv := by
  obtain ⟨hfollowed, gesture, htimed⟩ := h
  exact ⟨hfollowed.step e, htimed.step hfollowed hread⟩

theorem Inv.ends (h : w.Inv) {e : Event} (hread : Readable e) (hopen : w.fpTapPending = true) :
    (w.step e).fpTapPending = false ↔ (w.mark e).Ends := by
  obtain ⟨-, gesture, htimed⟩ := h.step hread
  obtain ⟨-, gesture', hbefore⟩ := h
  have hpos : 0 < w.taps := hbefore.tapPending.mp hopen
  rw [← Bool.not_eq_true, htimed.tapPending, TapMark.Ends]
  change ¬ 0 < (w.mark e).after w.taps ↔ _
  cases w.mark e <;> simp [TapMark.after, hpos]

theorem Inv.fires (h : w.Inv) {phone : Phone} (hread : ∀ node, readOneLine phone node ≠ none)
    (hposted : .doubleTapRunnable ∈ w.posted) :
    0 < w.taps ∧ ((w.step (.callback phone .doubleTapRunnable)).fired = w.fired ∨
      (w.step (.callback phone .doubleTapRunnable)).fired =
        w.fired ++ [windowAction phone w.taps]) := by
  obtain ⟨-, gesture, htimed⟩ := h
  refine ⟨htimed.tapPosted.mp hposted, ?_⟩
  have hfires := doubleTapRunnable_fires (s := { w.toKeyHandler with
    posted := w.posted.erase .doubleTapRunnable }) hread
  rw [htimed.counts] at hfires
  rw [TapWindow.step, KeyHandler.step, if_pos hposted]
  exact hfires

theorem Inv.right (h : w.Inv) {e : Event} (hread : Readable e) : w.Right e where
  tap := by
    obtain ⟨-, gesture, htimed⟩ := h.step hread
    rw [htimed.tapPending, htimed.tapPosted]
  counted := by
    obtain ⟨-, gesture, htimed⟩ := h.step hread
    rw [htimed.tapPending, htimed.counts]
  gesture := by
    obtain ⟨-, gesture, htimed⟩ := h.step hread
    rw [htimed.gesturePending, htimed.gesturePosted]
  window := by
    obtain ⟨-, gesture, htimed⟩ := h.step hread
    exact htimed.counts
  ends := h.ends hread
  fires := by
    rintro phone rfl hposted
    exact h.fires hread hposted

theorem windows_right (mVibrator mProximityWakeLock mSensorManager mProximitySensor : Bool)
    (events : List Event) (hread : ∀ e ∈ events, Readable e) :
    Along step Right
      (start (.start mVibrator mProximityWakeLock mSensorManager mProximitySensor)) events :=
  along_mono (P := fun _ e => Readable e) Inv (fun _ _ h he => h.step he)
    (fun _ _ h he => h.right he) (inv_start _ _ _ _) events (along_of_mem _ hread)

def homeOn : Phone := ⟨true, false, fun node => some [if node = FP_HOME_NODE then "1" else "100"]⟩

def doubleTap : List Event :=
  [.key homeOn ⟨ACTION_UP, FP_TAP_SCANCODE⟩, .callback homeOn .fpGestureRunnable,
    .key homeOn ⟨ACTION_UP, FP_TAP_SCANCODE⟩, .callback homeOn .fpGestureRunnable,
    .callback homeOn .doubleTapRunnable]

example : (doubleTap.foldl step (start (.start true false false false))).fired = [ACTION_HOME] := by
  decide

theorem windows_right_doubleTap :
    Along step Right (start (.start true false false false)) doubleTap := by
  refine windows_right true false false false doubleTap ?_
  simp only [doubleTap, List.forall_mem_cons]
  exact ⟨fun _ => Option.some_ne_none _, fun _ => Option.some_ne_none _,
    fun _ => Option.some_ne_none _, fun _ => Option.some_ne_none _,
    fun _ => Option.some_ne_none _, nofun⟩

end TapWindow
end Cedric.LineageActions
