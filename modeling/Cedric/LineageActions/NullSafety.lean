import Cedric.LineageActions.ProximityGate

/-!
# Null references behind the fingerprint gestures

Which lines of the settings nodes, and which objects, a step follows: it throws
exactly if one of them is `null`. What a posted vibration and a registered listener
follow was there when they were posted and registered.
-/

namespace Cedric.LineageActions.KeyHandler

open Calls Call KeyAction Node Runs

variable (s : KeyHandler) (phone : Phone)

def NoThrow : Event → Prop
  | .key phone event => Returns (handleKeyEvent phone event) s
  | .callback phone r =>
    r ∈ s.posted → Returns (run phone r) { s with posted := s.posted.erase r }
  | .message phone =>
    match s.screenOff.messages with
    | [] => True
    | msg :: messages => Returns (handleMessage phone msg)
        { s with screenOff := { s.screenOff with messages := messages } }
  | .reading listener far =>
    listener ∈ s.screenOff.listeners → Returns (onSensorChanged listener far) s

/-- An action that is fired asks whether there is haptic feedback. -/
def ActionSafe (action : ℤ) : Prop :=
  isActionSupported phone action = true → readFPNode phone FP_HAPTIC_NODE ≠ none

def TapSafe : Prop :=
  ∃ line, readFPNode phone FP_KEY_DBLTAP_NODE = some line ∧
    if line = "0" then ActionSafe phone (str2int (readFPNode phone FP_KEYS_NODE))
    else s.mVibrator = true → s.fpTapCounts < 2 → readFPNode phone FP_HAPTIC_NODE ≠ none

def swipeNode (scanCode : ScanCode) : Option Node :=
  if scanCode = FP_HOLD_SCANCODE then some FP_KEY_HOLD_NODE
  else if scanCode = FP_RIGHT_SCANCODE then some FP_KEY_RIGHT_NODE
  else if scanCode = FP_LEFT_SCANCODE then some FP_KEY_LEFT_NODE
  else none

def ScancodeSafe (scanCode : ScanCode) : Prop :=
  if scanCode = FP_TAP_SCANCODE then s.TapSafe phone
  else ∀ node ∈ swipeNode scanCode, ActionSafe phone (str2int (readFPNode phone node))

def ScreenOffSafe (scanCode : ScanCode) : Prop :=
  ∃ line, readFPNode phone FP_PROXIMITY_CHECK_SCREENOFF_NODE = some line ∧
    if line ≠ "0" ∧ s.screenOff.messages = [] then
      s.screenOff.mProximityWakeLock = true ∧ s.screenOff.mSensorManager = true
    else s.ScancodeSafe phone scanCode

def KeySafe (event : KeyEvent) : Prop :=
  event.scanCode ∈ sSupportedFPGestures →
    ∃ home homeOff, readOneLine phone FP_HOME_NODE = some home ∧
      readOneLine phone FP_HOME_OFF_NODE = some homeOff ∧
      (event.action = ACTION_UP → s.fpGesturePending = false → home = "1" →
        if phone.isScreenOn then s.ScancodeSafe phone event.scanCode
        else homeOff = "1" → s.ScreenOffSafe phone event.scanCode)

def RunSafe : Runnable → Prop
  | .doubleTapRunnable =>
    if s.fpTapCounts > 1 then ActionSafe phone (str2int (readFPNode phone FP_KEY_DBLTAP_NODE))
    else readFPNode phone FP_KEYS_NODE ≠ none ∧
      ActionSafe phone (str2int (readFPNode phone FP_KEYS_NODE))
  | _ => True

def Safe : Event → Prop
  | .key phone event => s.KeySafe phone event
  | .callback phone r => r ∈ s.posted → s.RunSafe phone r
  | .message phone => ∀ msg ∈ s.screenOff.messages.head?, s.ScancodeSafe phone msg.arg1
  | .reading _ _ => True

variable {s phone}

theorem isEnabledOnFP_ne_none_iff {node : Node} :
    isEnabledOnFP phone node ≠ none ↔ readFPNode phone node ≠ none := by
  rw [isEnabledOnFP, Ne, Option.map_eq_none_iff]

theorem actionSafe_zero : ActionSafe phone 0 := by
  intro h
  rw [isActionSupported] at h
  split_ifs at h <;> exact absurd h (by decide)

theorem returns_doHaptic_iff (longpress : Bool) :
    Returns (doHapticFeedbackFP phone longpress) s ↔
      (s.mVibrator = true → readFPNode phone FP_HAPTIC_NODE ≠ none) := by
  rw [doHapticFeedbackFP, Returns, get_bind]
  split_ifs with hvibrator
  · rw [← Returns, returns_deref_bind_iff, forall_prop_of_true hvibrator,
      ← isEnabledOnFP_ne_none_iff, Option.ne_none_iff_exists']
    exact exists_congr fun enabled => and_iff_left (Returns.ite (returns_update _) (returns_pure _))
  · exact iff_of_true (returns_pure _) fun h => absurd h hvibrator

theorem returns_vibrate (intensity : ℕ) : Returns (vibrate intensity) s := by
  rw [vibrate, Returns, get_bind]
  exact Returns.ite (returns_update _) (returns_pure _)

theorem returns_perform (h : readFPNode phone FP_HAPTIC_NODE ≠ none) (action : ℤ) :
    Returns (perform phone action) s := by
  refine Returns.ite (returns_pure _) (Returns.ite ?_ (returns_update _))
  exact Returns.bind ((returns_doHaptic_iff true).mpr fun _ => h) fun _ => returns_update _

theorem returns_fireFPAction_iff (action : ℤ) (isDoubleTap : Bool) :
    Returns (fireFPAction phone action isDoubleTap) s ↔
      readFPNode phone FP_HAPTIC_NODE ≠ none := by
  rw [fireFPAction, returns_deref_bind_iff, ← isEnabledOnFP_ne_none_iff,
    Option.ne_none_iff_exists']
  refine exists_congr fun enabled => and_iff_left_of_imp fun henabled => ?_
  have hnode : readFPNode phone FP_HAPTIC_NODE ≠ none :=
    isEnabledOnFP_ne_none_iff.mp (Option.ne_none_iff_exists'.mpr ⟨enabled, henabled⟩)
  refine Returns.ite (Returns.ite ?_ (Returns.ite ?_ ?_)) ?_
  · exact Returns.bind (returns_vibrate _) fun _ => returns_perform hnode action
  · exact Returns.bind ((returns_doHaptic_iff false).mpr fun _ => hnode) fun _ =>
      returns_perform hnode action
  · exact returns_perform hnode action
  · exact returns_perform hnode action

theorem returns_fireSupported_iff (action : ℤ) :
    Returns (fireSupported phone action) s ↔ ActionSafe phone action := by
  rw [fireSupported, ActionSafe]
  split_ifs with h
  · exact (returns_fireFPAction_iff action false).trans ⟨fun hn _ => hn, fun hn => hn h⟩
  · exact iff_of_true (returns_pure _) fun hs => absurd hs h

theorem returns_resetDoubleTap : Returns resetDoubleTapOnFP s :=
  Returns.bind (returns_update _) fun _ => returns_update _

theorem returns_postDoubleTap : Returns postDoubleTap s :=
  Returns.bind (Option.some_ne_none _) fun _ => Returns.ite
    (Returns.bind (returns_update _) fun _ => returns_update _) (returns_pure _)

theorem returns_detectDoubleTap_iff :
    Returns (detectDoubleTapOnFP phone) s ↔
      (s.mVibrator = true → s.fpTapCounts < 2 → readFPNode phone FP_HAPTIC_NODE ≠ none) := by
  have hfew : s.fpTapCounts + 1 = 1 ∨ s.fpTapCounts + 1 = 2 ↔ s.fpTapCounts < 2 := by omega
  rw [detectDoubleTapOnFP, Returns, update_bind, get_bind]
  split_ifs with hcount
  · refine returns_unit_bind_iff.trans ((and_iff_left returns_postDoubleTap).trans
      ((returns_doHaptic_iff false).trans ?_))
    exact ⟨fun h hvibrator _ => h hvibrator, fun h hvibrator => h hvibrator (hfew.mp hcount)⟩
  · exact iff_of_true returns_postDoubleTap fun _ hlt => absurd (hfew.mpr hlt) hcount

theorem tapAction_many (h : s.fpTapCounts > 1) :
    tapAction phone s = (s, some (str2int (readFPNode phone FP_KEY_DBLTAP_NODE))) := by
  rw [tapAction, get_bind, if_pos h]
  rfl

theorem tapAction_single (h : ¬ s.fpTapCounts > 1) :
    tapAction phone s =
      (s, (readFPNode phone FP_KEYS_NODE).map fun line => str2int (some line)) := by
  rw [tapAction, get_bind, if_neg h, isSingleTapEnabledOnFP, isEnabledOnFP]
  cases readFPNode phone FP_KEYS_NODE with
  | none => rfl
  | some line =>
    rw [Option.map_some, deref_some_bind]
    split_ifs with hline
    · rfl
    · rw [bne_iff_ne, not_not] at hline
      rw [hline]
      rfl

theorem returns_fireTap_iff (action : ℤ) :
    Returns (do
      if action ≠ 0 ∧ isActionSupported phone action then
        fireFPAction phone action true
      resetDoubleTapOnFP) s ↔ ActionSafe phone action := by
  rw [ActionSafe]
  split_ifs with h
  · rw [returns_unit_bind_iff, and_iff_left returns_resetDoubleTap, returns_fireFPAction_iff,
      forall_prop_of_true h.2]
  · refine iff_of_true returns_resetDoubleTap ?_
    by_cases hzero : action = 0
    · rw [hzero]
      exact actionSafe_zero
    · exact fun hsupported => absurd ⟨hzero, hsupported⟩ h

theorem returns_doubleTapRunnable_iff :
    Returns (doubleTapRunnable phone) s ↔ s.RunSafe phone .doubleTapRunnable := by
  rw [doubleTapRunnable, returns_bind_iff, RunSafe]
  split_ifs with h
  · rw [tapAction_many h]
    simp only [Option.some.injEq, exists_eq_left']
    exact returns_fireTap_iff _
  · rw [tapAction_single h]
    cases readFPNode phone FP_KEYS_NODE with
    | none =>
      refine iff_of_false ?_ fun hnode => hnode.1 rfl
      rintro ⟨_, ⟨⟩, _⟩
    | some line =>
      simp only [Option.map_some, Option.some.injEq, exists_eq_left', ne_eq, reduceCtorEq,
        not_false_eq_true, true_and]
      exact returns_fireTap_iff _

theorem returns_processFPScancode_iff (scanCode : ScanCode) :
    Returns (processFPScancode phone scanCode) s ↔ s.ScancodeSafe phone scanCode := by
  rw [processFPScancode, ScancodeSafe]
  split_ifs with htap hhold hright hleft
  · rw [returns_deref_bind_iff, isDoubleTapEnabledOnFP, isEnabledOnFP, TapSafe]
    cases readFPNode phone FP_KEY_DBLTAP_NODE with
    | none =>
      refine iff_of_false ?_ ?_
      · rintro ⟨_, ⟨⟩, _⟩
      · rintro ⟨_, ⟨⟩, _⟩
    | some line =>
      simp only [Option.map_some, Option.some.injEq, exists_eq_left']
      by_cases hline : line = "0"
      · rw [if_pos hline, if_neg (by rw [hline]; decide), returns_unit_bind_iff,
          and_iff_right returns_resetDoubleTap]
        exact returns_fireSupported_iff _
      · rw [if_neg hline, if_pos (bne_iff_ne.mpr hline)]
        exact returns_detectDoubleTap_iff
  · simp only [swipeNode, if_pos hhold, Option.mem_some_iff, forall_eq']
    exact returns_fireSupported_iff _
  · simp only [swipeNode, if_neg hhold, if_pos hright, Option.mem_some_iff, forall_eq']
    exact returns_fireSupported_iff _
  · simp only [swipeNode, if_neg hhold, if_neg hright, if_pos hleft, Option.mem_some_iff,
      forall_eq']
    exact returns_fireSupported_iff _
  · simp only [swipeNode, if_neg hhold, if_neg hright, if_neg hleft]
    refine iff_of_true ((returns_fireSupported_iff 0).mpr actionSafe_zero) ?_
    rintro node ⟨⟩

theorem returns_register_iff (gesture : ℕ) (scanCode : ScanCode) :
    Returns (registerFPScreenOffListener gesture scanCode) s ↔
      s.screenOff.mProximityWakeLock = true ∧ s.screenOff.mSensorManager = true := by
  rw [Returns]
  cases hlock : s.screenOff.mProximityWakeLock with
  | false => simp [registerFPScreenOffListener, hlock]
  | true =>
    cases hmanager : s.screenOff.mSensorManager with
    | false => simp [registerFPScreenOffListener, onScreenOff, hlock, hmanager]
    | true =>
      simp only [registerFPScreenOffListener, onScreenOff, get_bind, update_bind, hlock, hmanager,
        Bool.not_true, Bool.false_eq_true, if_false, and_self, iff_true]
      exact Returns.ite (returns_update _) (returns_pure _)

theorem returns_processGesture_iff (gesture : ℕ) (scanCode : ScanCode) :
    Returns (processGesture phone gesture scanCode) s ↔ s.ScancodeSafe phone scanCode :=
  returns_unit_bind_iff.trans ((and_iff_right (returns_update _)).trans
    (returns_processFPScancode_iff scanCode))

theorem returns_processFPScreenOff_iff (scanCode : ScanCode) :
    Returns (processFPScreenOffScancode phone scanCode) s ↔ s.ScreenOffSafe phone scanCode := by
  rw [ScreenOffSafe]
  cases hline : readFPNode phone FP_PROXIMITY_CHECK_SCREENOFF_NODE with
  | none =>
    rw [Returns, processFPScreenOffScancode_null hline]
    refine iff_of_false (fun h => h rfl) ?_
    rintro ⟨_, ⟨⟩, _⟩
  | some line =>
    simp only [Option.some.injEq, exists_eq_left']
    by_cases h : line ≠ "0" ∧ s.screenOff.messages = []
    · rw [if_pos h, Returns, processFPScreenOffScancode_asks hline h, ← Returns]
      exact returns_unit_bind_iff.trans ((and_iff_right (returns_update _)).trans
        (returns_register_iff _ scanCode))
    · rw [if_neg h, Returns, processFPScreenOffScancode_answers hline h, ← Returns]
      exact returns_processGesture_iff _ scanCode

theorem returns_handleGesture_iff (event : KeyEvent) (enabled enabledOff : Bool) :
    Returns (handleGesture phone event enabled enabledOff) s ↔
      (enabled = true → if phone.isScreenOn then s.ScancodeSafe phone event.scanCode
        else enabledOff = true → s.ScreenOffSafe phone event.scanCode) := by
  have hreset : Returns (do resetDoubleTapOnFP; pure (some event)) s :=
    Returns.bind returns_resetDoubleTap fun _ => returns_pure _
  rw [handleGesture]
  cases enabled with
  | false => exact iff_of_true hreset fun h => absurd h Bool.false_ne_true
  | true =>
    rw [forall_prop_of_true rfl]
    cases phone.isScreenOn with
    | true =>
      rw [if_pos rfl]
      exact returns_unit_bind_iff.trans ((and_iff_left (returns_pure _)).trans
        (returns_processFPScancode_iff _))
    | false =>
      rw [if_neg Bool.false_ne_true]
      cases enabledOff with
      | false => exact iff_of_true hreset fun h => absurd h Bool.false_ne_true
      | true =>
        rw [forall_prop_of_true rfl]
        exact returns_unit_bind_iff.trans ((and_iff_left (returns_pure _)).trans
          (returns_processFPScreenOff_iff _))

theorem scancodeSafe_takeGesture (event : KeyEvent) :
    (takeGesture event s).1.ScancodeSafe phone event.scanCode ↔
      s.ScancodeSafe phone event.scanCode := by
  rw [ScancodeSafe, ScancodeSafe]
  split_ifs with htap
  · rw [takeGesture_apply, if_pos htap]
    rfl
  · rfl

theorem screenOffSafe_takeGesture (event : KeyEvent) :
    (takeGesture event s).1.ScreenOffSafe phone event.scanCode ↔
      s.ScreenOffSafe phone event.scanCode := by
  rw [ScreenOffSafe, ScreenOffSafe, allowsTaps_screenOff.takeGesture event s]
  simp only [scancodeSafe_takeGesture]

theorem returns_handleKeyEvent_iff (event : KeyEvent) :
    Returns (handleKeyEvent phone event) s ↔ s.KeySafe phone event := by
  rw [handleKeyEvent, KeySafe]
  by_cases hfp : event.scanCode ∈ sSupportedFPGestures
  · rw [if_neg (not_not_intro hfp), returns_deref_bind_iff, forall_prop_of_true hfp]
    refine exists_congr fun home => ?_
    rw [returns_deref_bind_iff, ← exists_and_left]
    refine exists_congr fun homeOff => and_congr_right fun _ => and_congr_right fun _ => ?_
    by_cases hup : event.action = ACTION_UP
    · rw [if_neg (not_not_intro hup), forall_prop_of_true hup, Returns, get_bind]
      cases s.fpGesturePending with
      | true => exact iff_of_true (returns_pure _) fun h => absurd h.symm Bool.false_ne_true
      | false =>
        rw [if_neg Bool.false_ne_true, forall_prop_of_true rfl,
          bind_returned (s.takeGesture_returns event), ← Returns, returns_handleGesture_iff]
        simp only [beq_iff_eq, scancodeSafe_takeGesture, screenOffSafe_takeGesture]
    · rw [if_pos hup]
      exact iff_of_true (returns_pure _) fun h => absurd h hup
  · rw [if_pos hfp]
    exact iff_of_true (returns_pure _) fun h => absurd h hfp

/-- A posted vibration has a vibrator, and a registered listener its objects. -/
structure Followed (s : KeyHandler) : Prop where
  vibration : ∀ longpress, .vibration longpress ∈ s.posted → s.mVibrator = true
  listener : ∀ l ∈ s.screenOff.listeners, s.screenOff.Ready

theorem Followed.post {r : Runnable} (h : s.Followed)
    (hr : ∀ longpress, r = .vibration longpress → s.mVibrator = true) :
    Followed { s with posted := s.posted ++ [r] } where
  vibration longpress hmem := by
    rcases List.mem_append.mp hmem with hold | hnew
    · exact h.vibration longpress hold
    · exact hr longpress (List.mem_singleton.mp hnew).symm
  listener := h.listener

theorem allowsTaps_followed : AllowsTaps fun s t => s.Followed → t.Followed where
  refl _ h := h
  trans _ _ _ hst htu h := htu (hst h)
  vibrated _ _ h := ⟨h.vibration, h.listener⟩
  vibration _ _ hvibrator h := h.post fun _ _ => hvibrator
  fired _ _ h := ⟨h.vibration, h.listener⟩
  counted _ _ h := ⟨h.vibration, h.listener⟩
  tapPending _ _ h := ⟨h.vibration, h.listener⟩
  gesturePending _ _ h := ⟨h.vibration, h.listener⟩
  tapPosted _ h := h.post nofun
  gesturePosted _ h := h.post nofun
  removed _ _ h := ⟨fun longpress hmem => h.vibration longpress (List.mem_of_mem_filter hmem),
    h.listener⟩

theorem register_screenOff (gesture : ℕ) (scanCode : ScanCode) :
    ∃ g : ScreenOffGestures,
      (registerFPScreenOffListener gesture scanCode s).1 = { s with screenOff := g } ∧
        (s.screenOff.Ready → g.Ready) ∧
          (g.listeners = s.screenOff.listeners ∨ s.screenOff.Ready) := by
  cases hlock : s.screenOff.mProximityWakeLock with
  | false =>
    exact ⟨s.screenOff, by simp [registerFPScreenOffListener, hlock], id, Or.inl rfl⟩
  | true =>
    cases hmanager : s.screenOff.mSensorManager with
    | false =>
      refine ⟨{ s.screenOff with acquired := s.screenOff.acquired ++ [gesture] }, ?_, id,
        Or.inl rfl⟩
      simp [registerFPScreenOffListener, onScreenOff, hlock, hmanager]
    | true =>
      cases hsensor : s.screenOff.mProximitySensor with
      | false =>
        refine ⟨{ s.screenOff with acquired := s.screenOff.acquired ++ [gesture] }, ?_, id,
          Or.inl rfl⟩
        simp [registerFPScreenOffListener, onScreenOff, hlock, hmanager, hsensor]
      | true =>
        refine ⟨{ s.screenOff with
          acquired := s.screenOff.acquired ++ [gesture]
          listeners := s.screenOff.listeners ++ [⟨gesture, scanCode⟩] }, ?_, id,
            Or.inr ⟨hlock, hmanager, hsensor⟩⟩
        simp [registerFPScreenOffListener, onScreenOff, hlock, hmanager, hsensor]

theorem Followed.register (h : s.Followed) (gesture : ℕ) (scanCode : ScanCode) :
    (registerFPScreenOffListener gesture scanCode s).1.Followed := by
  obtain ⟨g, hstate, hready, hlisteners⟩ := s.register_screenOff gesture scanCode
  rw [hstate]
  refine ⟨h.vibration, fun l hl => ?_⟩
  rcases hlisteners with hsame | hall
  · exact hready (h.listener l (hsame ▸ hl))
  · exact hready hall

theorem Followed.processScreenOff (h : s.Followed) (scanCode : ScanCode) :
    (processFPScreenOffScancode phone scanCode s).1.Followed := by
  have hnumbered : (s.numbered scanCode).Followed := ⟨h.vibration, h.listener⟩
  cases hline : readFPNode phone FP_PROXIMITY_CHECK_SCREENOFF_NODE with
  | none =>
    rw [processFPScreenOffScancode_null hline]
    exact hnumbered
  | some line =>
    by_cases hasks : line ≠ "0" ∧ s.screenOff.messages = []
    · rw [processFPScreenOffScancode_asks hline hasks]
      refine Followed.register ?_ _ scanCode
      exact ⟨h.vibration, h.listener⟩
    · rw [processFPScreenOffScancode_answers hline hasks]
      exact allowsTaps_followed.processFPScancode phone scanCode _ ⟨h.vibration, h.listener⟩

theorem followed_handleGesture (event : KeyEvent) (enabled enabledOff : Bool) :
    Moves (fun s t => s.Followed → t.Followed)
      (handleGesture phone event enabled enabledOff) := by
  have hR := allowsTaps_followed.toIsPreorder
  refine Moves.ite ?_ (Moves.ite ?_ ?_)
  · exact Moves.bind hR allowsTaps_followed.resetDoubleTap fun _ => moves_pure hR _
  · exact Moves.bind hR (fun _ ht => ht.processScreenOff event.scanCode) fun _ => moves_pure hR _
  · exact Moves.bind hR (allowsTaps_followed.processFPScancode phone event.scanCode) fun _ =>
      moves_pure hR _

theorem followed_handleKeyEvent (event : KeyEvent) :
    Moves (fun s t => s.Followed → t.Followed) (handleKeyEvent phone event) := by
  have hR := allowsTaps_followed.toIsPreorder
  refine Moves.ite (moves_pure hR _) (Moves.bind hR (moves_deref hR _) fun home =>
    Moves.bind hR (moves_deref hR _) fun homeOff => Moves.ite (moves_pure hR _)
      (Moves.bind hR (moves_get hR _) fun pending => Moves.ite (moves_pure hR _) ?_))
  exact Moves.bind hR (allowsTaps_followed.takeGesture event) fun _ =>
    followed_handleGesture event _ _

theorem Followed.step (h : s.Followed) (e : Event) : (s.step e).Followed := by
  cases e with
  | key phone event => exact followed_handleKeyEvent event s h
  | callback phone r =>
    rw [KeyHandler.step]
    split_ifs with hposted
    · refine allowsTaps_followed.run phone r _ ⟨fun longpress hmem => ?_, h.listener⟩
      exact h.vibration longpress (List.mem_of_mem_erase hmem)
    · exact h
  | message phone =>
    rw [KeyHandler.step]
    cases s.screenOff.messages with
    | nil => exact h
    | cons msg messages =>
      exact allowsTaps_followed.processFPScancode phone msg.arg1 _ ⟨h.vibration, h.listener⟩
  | reading listener far =>
    rw [KeyHandler.step]
    split_ifs with hl
    · have hready := h.listener listener hl
      rw [onSensorChanged_ready hready]
      exact ⟨h.vibration, fun _ _ => hready⟩
    · exact h

theorem returns_run_iff (h : s.Followed) {r : Runnable} (hr : r ∈ s.posted) :
    Returns (run phone r) { s with posted := s.posted.erase r } ↔ s.RunSafe phone r := by
  cases r with
  | doubleTapRunnable => exact returns_doubleTapRunnable_iff
  | fpGestureRunnable =>
    exact iff_of_true (Returns.bind (returns_update _) fun _ => returns_update _) trivial
  | vibration longpress =>
    refine iff_of_true ?_ trivial
    rw [run, Returns, get_bind, h.vibration longpress hr]
    exact returns_update _

theorem noThrow_iff (h : s.Followed) (e : Event) : s.NoThrow e ↔ s.Safe e := by
  cases e with
  | key phone event => exact returns_handleKeyEvent_iff event
  | callback phone r => exact forall_congr' fun hr => returns_run_iff h hr
  | message phone =>
    rw [NoThrow, Safe]
    cases s.screenOff.messages with
    | nil =>
      refine iff_of_true trivial ?_
      rintro msg ⟨⟩
    | cons msg messages =>
      simp only [List.head?_cons, Option.mem_some_iff, forall_eq']
      exact returns_processGesture_iff _ _
  | reading listener far =>
    refine iff_of_true (fun hl => ?_) trivial
    rw [Returns, onSensorChanged_ready (h.listener listener hl)]
    exact Option.some_ne_none _

theorem followed_start (mVibrator mProximityWakeLock mSensorManager mProximitySensor : Bool) :
    (start mVibrator mProximityWakeLock mSensorManager mProximitySensor).Followed :=
  ⟨nofun, nofun⟩

end Cedric.LineageActions.KeyHandler
