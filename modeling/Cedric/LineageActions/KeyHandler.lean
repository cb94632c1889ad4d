import Cedric.Lib.Calls
import Mathlib.Data.Int.Notation
import Mathlib.Data.List.Basic

/-!
# `KeyHandler`

The fingerprint gestures: the two halves of a press come as key events, and an
`ACTION_UP` is answered by the action its settings node names. While the screen is off a
gesture first asks the proximity sensor. Everything runs on one state, in calls
that may throw; `step` takes a key event, a callback of `mHandler`, a message of the
`FPScreenOffGesturesHandler` or a reading of the proximity sensor.
-/

namespace Cedric.LineageActions

open Calls Call

inductive Node
  | FP_HOME_NODE | FP_HOME_OFF_NODE | FP_HAPTIC_NODE | FP_HAPTIC_SCREENOFF_NODE
  | FP_PROXIMITY_CHECK_SCREENOFF_NODE
  | FP_KEYS_NODE | FP_KEY_DBLTAP_NODE | FP_KEY_HOLD_NODE | FP_KEY_LEFT_NODE | FP_KEY_RIGHT_NODE
  | FP_KEYS_SCREENOFF_NODE | FP_KEY_SCREENOFF_DBLTAP_NODE | FP_KEY_SCREENOFF_HOLD_NODE
  | FP_KEY_SCREENOFF_LEFT_NODE | FP_KEY_SCREENOFF_RIGHT_NODE
  deriving DecidableEq

open Node

/-- What a call finds. A file that cannot be read is `none`, any other its lines. -/
structure Phone where
  isScreenOn : Bool
  inKeyguardRestrictedInputMode : Bool
  files : Node → Option (List String)

def readOneLine (phone : Phone) (fileName : Node) : Option String :=
  match phone.files fileName with
  | none => some "0"
  | some lines => lines.head?

def getFPNodeBasedOnScreenState (phone : Phone) (node : Node) : Node :=
  if phone.isScreenOn then node
  else match node with
    | FP_KEYS_NODE => FP_KEYS_SCREENOFF_NODE
    | FP_HAPTIC_NODE => FP_HAPTIC_SCREENOFF_NODE
    | FP_KEY_DBLTAP_NODE => FP_KEY_SCREENOFF_DBLTAP_NODE
    | FP_KEY_HOLD_NODE => FP_KEY_SCREENOFF_HOLD_NODE
    | FP_KEY_RIGHT_NODE => FP_KEY_SCREENOFF_RIGHT_NODE
    | FP_KEY_LEFT_NODE => FP_KEY_SCREENOFF_LEFT_NODE
    | node => node

def readFPNode (phone : Phone) (node : Node) : Option String :=
  readOneLine phone (getFPNodeBasedOnScreenState phone node)

def isEnabledOnFP (phone : Phone) (node : Node) : Option Bool :=
  (readFPNode phone node).map fun line => line != "0"

def isSingleTapEnabledOnFP (phone : Phone) : Option Bool := isEnabledOnFP phone FP_KEYS_NODE

def isDoubleTapEnabledOnFP (phone : Phone) : Option Bool := isEnabledOnFP phone FP_KEY_DBLTAP_NODE

def isHapticFeedbackEnabledOnFP (phone : Phone) : Option Bool := isEnabledOnFP phone FP_HAPTIC_NODE

def isProximityEnabledOnScreenOffGesturesFP (phone : Phone) : Option Bool :=
  isEnabledOnFP phone FP_PROXIMITY_CHECK_SCREENOFF_NODE

/-- The zeros of the decimal digits that are one `char` each; the other nine follow. -/
def zeros : List ℕ :=
  [0x0030, 0x0660, 0x06F0, 0x07C0, 0x0966, 0x09E6, 0x0A66, 0x0AE6, 0x0B66, 0x0BE6, 0x0C66, 0x0CE6,
    0x0D66, 0x0DE6, 0x0E50, 0x0ED0, 0x0F20, 0x1040, 0x1090, 0x17E0, 0x1810, 0x1946, 0x19D0, 0x1A80,
    0x1A90, 0x1B50, 0x1BB0, 0x1C40, 0x1C50, 0xA620, 0xA8D0, 0xA900, 0xA9D0, 0xA9F0, 0xAA50, 0xABF0,
    0xFF10]

def digit? (c : Char) : Option ℤ :=
  (zeros.find? fun n => n ≤ c.toNat && c.toNat < n + 10).map fun n => c.toNat - n

def digits? (cs : List Char) : Option ℤ :=
  if cs = [] then none
  else cs.foldl (fun n c => do return 10 * (← n) + (← digit? c)) (some 0)

def valueOf (str : String) : Option ℤ := do
  let n ← match str.toList with
    | '-' :: cs => (digits? cs).map fun n => -n
    | '+' :: cs => digits? cs
    | cs => digits? cs
  if -2147483648 ≤ n ∧ n < 2147483648 then some n else none

def str2int (str : Option String) : ℤ :=
  match str with
  | none => 0
  | some str => (valueOf str).getD 0

abbrev ScanCode := ℕ

def FP_TAP_SCANCODE : ScanCode := 616
def FP_HOLD_SCANCODE : ScanCode := 617
def FP_LEFT_SCANCODE : ScanCode := 620
def FP_RIGHT_SCANCODE : ScanCode := 621

def sSupportedFPGestures : List ScanCode :=
  [FP_TAP_SCANCODE, FP_HOLD_SCANCODE, FP_RIGHT_SCANCODE, FP_LEFT_SCANCODE]

inductive KeyAction
  | ACTION_DOWN | ACTION_UP | ACTION_MULTIPLE
  deriving DecidableEq

open KeyAction

structure KeyEvent where
  action : KeyAction
  scanCode : ScanCode
  deriving DecidableEq

def ACTION_HOME : ℤ := 100
def ACTION_POWER : ℤ := 101
def ACTION_BACK : ℤ := 102
def ACTION_RECENTS : ℤ := 103
def ACTION_VOLUME_UP : ℤ := 104
def ACTION_VOLUME_DOWN : ℤ := 105
def ACTION_VOICE_ASSISTANT : ℤ := 106
def ACTION_PLAY_PAUSE : ℤ := 107
def ACTION_PREVIOUS_TRACK : ℤ := 108
def ACTION_NEXT_TRACK : ℤ := 109
def ACTION_FLASHLIGHT : ℤ := 110
def ACTION_CAMERA : ℤ := 111
def ACTION_SCREENSHOT : ℤ := 112
def ACTION_LAST_APP : ℤ := 121

def sFPSupportedActions : List ℤ :=
  [ACTION_HOME, ACTION_POWER, ACTION_BACK, ACTION_RECENTS, ACTION_VOLUME_UP, ACTION_VOLUME_DOWN,
    ACTION_VOICE_ASSISTANT, ACTION_PLAY_PAUSE, ACTION_PREVIOUS_TRACK, ACTION_NEXT_TRACK,
    ACTION_FLASHLIGHT, ACTION_CAMERA, ACTION_SCREENSHOT, ACTION_LAST_APP]

def sFPSupportedActionsScreenOff : List ℤ :=
  [ACTION_POWER, ACTION_VOLUME_UP, ACTION_VOLUME_DOWN, ACTION_PLAY_PAUSE, ACTION_PREVIOUS_TRACK,
    ACTION_NEXT_TRACK, ACTION_FLASHLIGHT, ACTION_CAMERA]

def isActionSupported (phone : Phone) (action : ℤ) : Bool :=
  (if phone.isScreenOn then sFPSupportedActions else sFPSupportedActionsScreenOff).contains action

/-- What is posted to `mHandler`; the last is the vibration of `doHapticFeedbackFP`. -/
inductive Runnable
  | doubleTapRunnable
  | fpGestureRunnable
  | vibration (longpress : Bool)
  deriving DecidableEq

/-- A message `FP_ACTION_REQUEST`. Here and below the gestures made with the screen off are
numbered, for the specification only. -/
structure Message where
  gesture : ℕ
  arg1 : ScanCode
  deriving DecidableEq

structure Listener where
  gesture : ℕ
  scanCode : ScanCode
  deriving DecidableEq

/-- The gestures made with the screen off. The first three fields tell whether the object is
there; the last four are kept for the specification: the scan code of every gesture, the calls
of `processFPScancode`, and the gestures for which `mProximityWakeLock` was taken and released. -/
structure ScreenOffGestures where
  mProximityWakeLock : Bool
  mSensorManager : Bool
  mProximitySensor : Bool
  messages : List Message
  listeners : List Listener
  gestures : List ScanCode
  processed : List (ℕ × ScanCode)
  acquired : List ℕ
  released : List ℕ
  deriving DecidableEq

def ScreenOffGestures.hasMessages (g : ScreenOffGestures) : Bool := !g.messages.isEmpty

structure KeyHandler where
  mVibrator : Bool
  fpTapCounts : ℕ
  fpTapPending : Bool
  fpGesturePending : Bool
  posted : List Runnable
  vibrated : List ℕ
  fired : List ℤ
  screenOff : ScreenOffGestures

namespace KeyHandler

abbrev OnHandler := Call KeyHandler

def postDelayed (r : Runnable) : OnHandler Unit :=
  update fun s => { s with posted := s.posted ++ [r] }

def removeCallbacks (r : Runnable) : OnHandler Unit :=
  update fun s => { s with posted := s.posted.filter (· ≠ r) }

def vibrate (intensity : ℕ) : OnHandler Unit := do
  if ← get mVibrator then
    update fun s => { s with vibrated := s.vibrated ++ [intensity] }

def doHapticFeedbackFP (phone : Phone) (longpress : Bool) : OnHandler Unit := do
  if ← get mVibrator then
    if ← deref (isHapticFeedbackEnabledOnFP phone) then
      postDelayed (.vibration longpress)

def isHeldBack (phone : Phone) (action : ℤ) : Bool :=
  [ACTION_HOME, ACTION_RECENTS, ACTION_VOICE_ASSISTANT, ACTION_LAST_APP].contains action &&
    phone.inKeyguardRestrictedInputMode

/-- The `switch`, up to the calls for the action, which are `Actions.call`. -/
def perform (phone : Phone) (action : ℤ) : OnHandler Unit :=
  if isHeldBack phone action then pure ()
  else do
    if action = ACTION_VOICE_ASSISTANT then
      doHapticFeedbackFP phone true
    update fun s => { s with fired := s.fired ++ [action] }

def fireFPAction (phone : Phone) (action : ℤ) (isDoubleTap : Bool) : OnHandler Unit := do
  let enabled ← deref (isHapticFeedbackEnabledOnFP phone)
  if enabled && !(isDoubleTap && action != ACTION_CAMERA && action != ACTION_FLASHLIGHT) then
    if action = ACTION_CAMERA ∨ action = ACTION_FLASHLIGHT then
      vibrate (if action = ACTION_CAMERA then 500 else 250)
    else if action ≠ ACTION_VOICE_ASSISTANT then
      doHapticFeedbackFP phone false
  perform phone action

def resetDoubleTapOnFP : OnHandler Unit := do
  update fun s => { s with fpTapCounts := 0, fpTapPending := false }
  removeCallbacks .doubleTapRunnable

def detectDoubleTapOnFP (phone : Phone) : OnHandler Unit := do
  update fun s => { s with fpTapCounts := s.fpTapCounts + 1 }
  let fpTapCounts ← get fpTapCounts
  if fpTapCounts = 1 ∨ fpTapCounts = 2 then
    doHapticFeedbackFP phone false
  if !(← get fpTapPending) then
    update fun s => { s with fpTapPending := true }
    postDelayed .doubleTapRunnable

def postDoubleTap : OnHandler Unit := do
  if !(← get fpTapPending) then
    update fun s => { s with fpTapPending := true }
    postDelayed .doubleTapRunnable

def tapAction (phone : Phone) : OnHandler ℤ := do
  if (← get fpTapCounts) > 1 then pure (str2int (readFPNode phone FP_KEY_DBLTAP_NODE))
  else if ← deref (isSingleTapEnabledOnFP phone) then
    pure (str2int (readFPNode phone FP_KEYS_NODE))
  else pure 0

def doubleTapRunnable (phone : Phone) : OnHandler Unit := do
  let action ← tapAction phone
  if action ≠ 0 ∧ isActionSupported phone action then
    fireFPAction phone action true
  resetDoubleTapOnFP

def fireSupported (phone : Phone) (action : ℤ) : OnHandler Unit :=
  if isActionSupported phone action then fireFPAction phone action false else pure ()

def processFPScancode (phone : Phone) (scanCode : ScanCode) : OnHandler Unit :=
  if scanCode = FP_TAP_SCANCODE then do
    if ← deref (isDoubleTapEnabledOnFP phone) then
      detectDoubleTapOnFP phone
    else do
      resetDoubleTapOnFP
      fireSupported phone (str2int (readFPNode phone FP_KEYS_NODE))
  else if scanCode = FP_HOLD_SCANCODE then
    fireSupported phone (str2int (readFPNode phone FP_KEY_HOLD_NODE))
  else if scanCode = FP_RIGHT_SCANCODE then
    fireSupported phone (str2int (readFPNode phone FP_KEY_RIGHT_NODE))
  else if scanCode = FP_LEFT_SCANCODE then
    fireSupported phone (str2int (readFPNode phone FP_KEY_LEFT_NODE))
  else
    fireSupported phone 0

def onScreenOff (f : ScreenOffGestures → ScreenOffGestures) : OnHandler Unit :=
  update fun s => { s with screenOff := f s.screenOff }

def sendMessage (msg : Message) : OnHandler Unit :=
  onScreenOff fun g => { g with messages := g.messages ++ [msg] }

def registerFPScreenOffListener (gesture : ℕ) (scanCode : ScanCode) : OnHandler Unit := do
  if !(← get (·.screenOff.mProximityWakeLock)) then
    deref none
  onScreenOff fun g => { g with acquired := g.acquired ++ [gesture] }
  if !(← get (·.screenOff.mSensorManager)) then
    deref none
  if ← get (·.screenOff.mProximitySensor) then
    onScreenOff fun g => { g with listeners := g.listeners ++ [⟨gesture, scanCode⟩] }

def processGesture (phone : Phone) (gesture : ℕ) (scanCode : ScanCode) : OnHandler Unit := do
  onScreenOff fun g => { g with processed := g.processed ++ [(gesture, scanCode)] }
  processFPScancode phone scanCode

def processFPScreenOffScancode (phone : Phone) (scanCode : ScanCode) : OnHandler Unit := do
  let gesture ← get (·.screenOff.gestures.length)
  onScreenOff fun g => { g with gestures := g.gestures ++ [scanCode] }
  let checked ← deref (isProximityEnabledOnScreenOffGesturesFP phone)
  if checked && !(← get (·.screenOff.hasMessages)) then
    sendMessage ⟨gesture, scanCode⟩
    registerFPScreenOffListener gesture scanCode
  else
    processGesture phone gesture scanCode

/-- `far`: the reading is `mProximitySensor.getMaximumRange()`. -/
def onSensorChanged (listener : Listener) (far : Bool) : OnHandler Unit := do
  if !(← get (·.screenOff.mProximityWakeLock)) then
    deref none
  onScreenOff fun g => { g with released := g.released ++ [listener.gesture] }
  if !(← get (·.screenOff.mSensorManager)) then
    deref none
  onScreenOff fun g => { g with listeners := g.listeners.erase listener }
  if ← get (·.screenOff.hasMessages) then
    onScreenOff fun g => { g with messages := [] }
    if !(← get (·.screenOff.mProximitySensor)) then
      deref none
    if far then
      sendMessage ⟨listener.gesture, listener.scanCode⟩

def handleMessage (phone : Phone) (msg : Message) : OnHandler Unit :=
  processGesture phone msg.gesture msg.arg1

def resetFPGestureDelay : OnHandler Unit := do
  update fun s => { s with fpGesturePending := false }
  removeCallbacks .fpGestureRunnable

def fpGestureRunnable : OnHandler Unit := resetFPGestureDelay

/-- An `ACTION_UP` that finds no gesture pending makes it so, and ends a tap unless it is one. -/
def takeGesture (event : KeyEvent) : OnHandler Unit := do
  resetFPGestureDelay
  update fun s => { s with fpGesturePending := true }
  postDelayed .fpGestureRunnable
  if event.scanCode ≠ FP_TAP_SCANCODE then
    resetDoubleTapOnFP

def handleGesture (phone : Phone) (event : KeyEvent)
    (isFPGestureEnabled isFPGestureEnabledOnScreenOff : Bool) : OnHandler (Option KeyEvent) :=
  if !isFPGestureEnabled || (!phone.isScreenOn && !isFPGestureEnabledOnScreenOff) then do
    resetDoubleTapOnFP
    pure (some event)
  else do
    if !phone.isScreenOn && isFPGestureEnabledOnScreenOff then
      processFPScreenOffScancode phone event.scanCode
    else
      processFPScancode phone event.scanCode
    pure none

/-- `none` is the `null` of a consumed event. -/
def handleKeyEvent (phone : Phone) (event : KeyEvent) : OnHandler (Option KeyEvent) :=
  if event.scanCode ∉ sSupportedFPGestures then pure (some event)
  else do
    let home ← deref (readOneLine phone FP_HOME_NODE)
    let homeOff ← deref (readOneLine phone FP_HOME_OFF_NODE)
    if event.action ≠ ACTION_UP then pure none
    else if ← get fpGesturePending then pure (some event)
    else do
      takeGesture event
      handleGesture phone event (home == "1") (homeOff == "1")

inductive Event
  | key (phone : Phone) (event : KeyEvent)
  | callback (phone : Phone) (r : Runnable)
  | message (phone : Phone)
  | reading (listener : Listener) (far : Bool)

def run (phone : Phone) : Runnable → OnHandler Unit
  | .doubleTapRunnable => doubleTapRunnable phone
  | .fpGestureRunnable => fpGestureRunnable
  | .vibration longpress => do
    if !(← get mVibrator) then
      deref none
    update fun s => { s with vibrated := s.vibrated ++ [if longpress then 50 else 40] }

variable (s : KeyHandler)

/-- A callback runs only if it is posted, and a listener is called only if it is registered. -/
def step : Event → KeyHandler
  | .key phone event => (handleKeyEvent phone event s).1
  | .callback phone r =>
    if r ∈ s.posted then (run phone r { s with posted := s.posted.erase r }).1 else s
  | .message phone =>
    match s.screenOff.messages with
    | [] => s
    | msg :: messages =>
      (handleMessage phone msg
        { s with screenOff := { s.screenOff with messages := messages } }).1
  | .reading listener far =>
    if listener ∈ s.screenOff.listeners then (onSensorChanged listener far s).1 else s

/-- The constructor; the objects of the proximity check are given. -/
def start (mVibrator mProximityWakeLock mSensorManager mProximitySensor : Bool) : KeyHandler where
  mVibrator := mVibrator
  fpTapCounts := 0
  fpTapPending := false
  fpGesturePending := false
  posted := []
  vibrated := []
  fired := []
  screenOff := ⟨mProximityWakeLock, mSensorManager, mProximitySensor, [], [], [], [], [], []⟩

def PassesOn (phone : Phone) (event : KeyEvent) : Prop :=
  (handleKeyEvent phone event s).2 = some (some event)

instance (phone : Phone) (event : KeyEvent) : Decidable (s.PassesOn phone event) :=
  inferInstanceAs (Decidable (_ = _))

def taken : KeyHandler :=
  { s with
    fpGesturePending := true
    posted := s.posted.filter (· ≠ .fpGestureRunnable) ++ [.fpGestureRunnable] }

theorem takeGesture_apply (event : KeyEvent) :
    takeGesture event s =
      if event.scanCode = FP_TAP_SCANCODE then (s.taken, some ())
      else resetDoubleTapOnFP s.taken := by
  simp only [takeGesture, resetFPGestureDelay, removeCallbacks, postDelayed, bind_assoc,
    update_bind, ne_eq, ite_not]
  split_ifs <;> rfl

theorem takeGesture_returns (event : KeyEvent) : (takeGesture event s).2 = some () := by
  rw [takeGesture_apply]
  split_ifs <;> rfl

def Takes (event : KeyEvent) : Prop :=
  event.scanCode ∈ sSupportedFPGestures ∧ event.action = ACTION_UP ∧ s.fpGesturePending = false

instance (event : KeyEvent) : Decidable (s.Takes event) :=
  inferInstanceAs (Decidable (_ ∧ _ ∧ _))

section Gesture

variable {s} {phone : Phone} {event : KeyEvent}

theorem handleKeyEvent_taken (h : s.Takes event) {home homeOff : String}
    (hhome : readOneLine phone FP_HOME_NODE = some home)
    (hoff : readOneLine phone FP_HOME_OFF_NODE = some homeOff) :
    handleKeyEvent phone event s =
      handleGesture phone event (home == "1") (homeOff == "1") (takeGesture event s).1 := by
  obtain ⟨hfp, hup, hpending⟩ := h
  rw [handleKeyEvent, if_neg (not_not_intro hfp), hhome, hoff, deref_some_bind, deref_some_bind,
    if_neg (not_not_intro hup), get_bind, hpending, if_neg Bool.false_ne_true,
    bind_returned (s.takeGesture_returns event)]

theorem handleKeyEvent_null
    (h : readOneLine phone FP_HOME_NODE = none ∨ readOneLine phone FP_HOME_OFF_NODE = none) :
    (handleKeyEvent phone event s).1 = s := by
  by_cases hfp : event.scanCode ∉ sSupportedFPGestures
  · rw [handleKeyEvent, if_pos hfp]
    rfl
  · rw [handleKeyEvent, if_neg hfp]
    cases hhome : readOneLine phone FP_HOME_NODE with
    | none => rfl
    | some home =>
      rw [deref_some_bind, h.resolve_left (by rw [hhome]; exact Option.some_ne_none _)]
      rfl

theorem handleKeyEvent_untaken (h : ¬ s.Takes event) :
    (handleKeyEvent phone event s).1 = s := by
  by_cases hnull : readOneLine phone FP_HOME_NODE = none ∨ readOneLine phone FP_HOME_OFF_NODE = none
  · exact handleKeyEvent_null hnull
  · obtain ⟨hhome, hoff⟩ := not_or.mp hnull
    obtain ⟨home, hhome⟩ := Option.ne_none_iff_exists'.mp hhome
    obtain ⟨homeOff, hoff⟩ := Option.ne_none_iff_exists'.mp hoff
    rw [handleKeyEvent, hhome, hoff]
    by_cases hfp : event.scanCode ∉ sSupportedFPGestures
    · rw [if_pos hfp]
      rfl
    · rw [if_neg hfp, deref_some_bind, deref_some_bind]
      by_cases hup : event.action ≠ ACTION_UP
      · rw [if_pos hup]
        rfl
      · rw [if_neg hup, get_bind]
        cases hpending : s.fpGesturePending with
        | true => rfl
        | false => exact absurd ⟨not_not.mp hfp, not_not.mp hup, hpending⟩ h

end Gesture

def numbered (scanCode : ScanCode) : KeyHandler :=
  { s with screenOff := { s.screenOff with gestures := s.screenOff.gestures ++ [scanCode] } }

section ScreenOff

variable {s} {phone : Phone} {scanCode : ScanCode}

theorem processFPScreenOffScancode_null
    (h : readFPNode phone FP_PROXIMITY_CHECK_SCREENOFF_NODE = none) :
    processFPScreenOffScancode phone scanCode s = (s.numbered scanCode, none) := by
  simp only [processFPScreenOffScancode, onScreenOff, get_bind, update_bind,
    isProximityEnabledOnScreenOffGesturesFP, isEnabledOnFP, h, Option.map_none, deref_none_bind]
  rfl

variable {line : String} (hline : readFPNode phone FP_PROXIMITY_CHECK_SCREENOFF_NODE = some line)
include hline

theorem processFPScreenOffScancode_asks (h : line ≠ "0" ∧ s.screenOff.messages = []) :
    processFPScreenOffScancode phone scanCode s = (do
      sendMessage ⟨s.screenOff.gestures.length, scanCode⟩
      registerFPScreenOffListener s.screenOff.gestures.length scanCode) (s.numbered scanCode) := by
  have hguard : (line != "0" && !s.screenOff.hasMessages) = true := by
    simpa [ScreenOffGestures.hasMessages] using h
  simp only [processFPScreenOffScancode, onScreenOff, get_bind, update_bind,
    isProximityEnabledOnScreenOffGesturesFP, isEnabledOnFP, hline, Option.map_some,
    deref_some_bind]
  exact congrFun (if_pos hguard) _

theorem processFPScreenOffScancode_answers (h : ¬ (line ≠ "0" ∧ s.screenOff.messages = [])) :
    processFPScreenOffScancode phone scanCode s =
      processGesture phone s.screenOff.gestures.length scanCode (s.numbered scanCode) := by
  have hguard : (line != "0" && !s.screenOff.hasMessages) = false := by
    simpa [ScreenOffGestures.hasMessages] using h
  simp only [processFPScreenOffScancode, onScreenOff, get_bind, update_bind,
    isProximityEnabledOnScreenOffGesturesFP, isEnabledOnFP, hline, Option.map_some,
    deref_some_bind]
  exact congrFun (if_neg (ne_true_of_eq_false hguard)) _

end ScreenOff

structure AllowsHaptics (R : KeyHandler → KeyHandler → Prop) : Prop
    extends IsPreorder KeyHandler R where
  vibrated (s : KeyHandler) (intensity : ℕ) : R s { s with vibrated := s.vibrated ++ [intensity] }
  vibration (s : KeyHandler) (longpress : Bool) (h : s.mVibrator = true) :
    R s { s with posted := s.posted ++ [.vibration longpress] }

structure AllowsActions (R : KeyHandler → KeyHandler → Prop) : Prop extends AllowsHaptics R where
  fired (s : KeyHandler) (action : ℤ) : R s { s with fired := s.fired ++ [action] }

structure AllowsTaps (R : KeyHandler → KeyHandler → Prop) : Prop extends AllowsActions R where
  counted (s : KeyHandler) (n : ℕ) : R s { s with fpTapCounts := n }
  tapPending (s : KeyHandler) (b : Bool) : R s { s with fpTapPending := b }
  gesturePending (s : KeyHandler) (b : Bool) : R s { s with fpGesturePending := b }
  tapPosted (s : KeyHandler) : R s { s with posted := s.posted ++ [.doubleTapRunnable] }
  gesturePosted (s : KeyHandler) : R s { s with posted := s.posted ++ [.fpGestureRunnable] }
  removed (s : KeyHandler) (r : Runnable) : R s { s with posted := s.posted.filter (· ≠ r) }

section Moves

variable {R : KeyHandler → KeyHandler → Prop} (phone : Phone)

theorem AllowsHaptics.vibrate (hR : AllowsHaptics R) (intensity : ℕ) :
    Moves R (vibrate intensity) :=
  Moves.bind hR.toIsPreorder (moves_get hR.toIsPreorder _) fun _ =>
    Moves.ite (moves_update fun s => hR.vibrated s intensity) (moves_pure hR.toIsPreorder _)

theorem AllowsHaptics.doHaptic (hR : AllowsHaptics R) (longpress : Bool) :
    Moves R (doHapticFeedbackFP phone longpress) := by
  intro s
  rw [doHapticFeedbackFP, get_bind]
  split_ifs with hvibrator
  · cases isHapticFeedbackEnabledOnFP phone with
    | none => exact hR.refl s
    | some enabled =>
      rw [deref_some_bind]
      split_ifs
      · exact hR.vibration s longpress hvibrator
      · exact hR.refl s
  · exact hR.refl s

theorem AllowsHaptics.tapAction (hR : AllowsHaptics R) : Moves R (tapAction phone) :=
  Moves.bind hR.toIsPreorder (moves_get hR.toIsPreorder _) fun _ =>
    Moves.ite (moves_pure hR.toIsPreorder _)
      (Moves.bind hR.toIsPreorder (moves_deref hR.toIsPreorder _) fun _ =>
        Moves.ite (moves_pure hR.toIsPreorder _) (moves_pure hR.toIsPreorder _))

theorem AllowsActions.perform (hR : AllowsActions R) (action : ℤ) :
    Moves R (perform phone action) :=
  have hfired : Moves R (update fun s : KeyHandler => { s with fired := s.fired ++ [action] }) :=
    moves_update fun s => hR.fired s action
  Moves.ite (moves_pure hR.toIsPreorder _)
    (Moves.ite (Moves.bind hR.toIsPreorder (hR.doHaptic phone true) fun _ => hfired) hfired)

theorem AllowsActions.fireFPAction (hR : AllowsActions R) (action : ℤ) (isDoubleTap : Bool) :
    Moves R (fireFPAction phone action isDoubleTap) := by
  have hperform := hR.perform phone action
  refine Moves.bind hR.toIsPreorder (moves_deref hR.toIsPreorder _) fun enabled =>
    Moves.ite (Moves.ite ?_ (Moves.ite ?_ ?_)) ?_
  · exact Moves.bind hR.toIsPreorder (hR.vibrate _) fun _ => hperform
  · exact Moves.bind hR.toIsPreorder (hR.doHaptic phone false) fun _ => hperform
  · exact hperform
  · exact hperform

theorem AllowsActions.fireSupported (hR : AllowsActions R) (action : ℤ) :
    Moves R (fireSupported phone action) :=
  Moves.ite (hR.fireFPAction phone action false) (moves_pure hR.toIsPreorder _)

theorem AllowsTaps.resetDoubleTap (hR : AllowsTaps R) : Moves R resetDoubleTapOnFP :=
  Moves.bind hR.toIsPreorder
    (moves_update fun s => hR.trans _ _ _ (hR.counted s 0) (hR.tapPending _ false)) fun _ =>
      moves_update fun s => hR.removed s .doubleTapRunnable

theorem AllowsTaps.postDoubleTap (hR : AllowsTaps R) : Moves R postDoubleTap :=
  Moves.bind hR.toIsPreorder (moves_get hR.toIsPreorder _) fun _ => Moves.ite
    (Moves.bind hR.toIsPreorder (moves_update fun s => hR.tapPending s true) fun _ =>
      moves_update hR.tapPosted) (moves_pure hR.toIsPreorder _)

theorem AllowsTaps.detectDoubleTap (hR : AllowsTaps R) : Moves R (detectDoubleTapOnFP phone) :=
  Moves.bind hR.toIsPreorder (moves_update fun s => hR.counted s _) fun _ =>
    Moves.bind hR.toIsPreorder (moves_get hR.toIsPreorder _) fun _ => Moves.ite
      (Moves.bind hR.toIsPreorder (hR.doHaptic phone false) fun _ => hR.postDoubleTap)
      hR.postDoubleTap

theorem AllowsTaps.doubleTapRunnable (hR : AllowsTaps R) : Moves R (doubleTapRunnable phone) :=
  Moves.bind hR.toIsPreorder (hR.tapAction phone) fun action => Moves.ite
    (Moves.bind hR.toIsPreorder (hR.fireFPAction phone action true) fun _ => hR.resetDoubleTap)
    hR.resetDoubleTap

theorem AllowsTaps.processFPScancode (hR : AllowsTaps R) (scanCode : ScanCode) :
    Moves R (processFPScancode phone scanCode) := by
  refine Moves.ite ?_ (Moves.ite ?_ (Moves.ite ?_ (Moves.ite ?_ ?_)))
  · exact Moves.bind hR.toIsPreorder (moves_deref hR.toIsPreorder _) fun _ =>
      Moves.ite (hR.detectDoubleTap phone)
        (Moves.bind hR.toIsPreorder hR.resetDoubleTap fun _ => hR.fireSupported phone _)
  · exact hR.fireSupported phone _
  · exact hR.fireSupported phone _
  · exact hR.fireSupported phone _
  · exact hR.fireSupported phone _

theorem AllowsTaps.resetGestureDelay (hR : AllowsTaps R) : Moves R resetFPGestureDelay :=
  Moves.bind hR.toIsPreorder (moves_update fun s => hR.gesturePending s false) fun _ =>
    moves_update fun s => hR.removed s .fpGestureRunnable

theorem AllowsTaps.takeGesture (hR : AllowsTaps R) (event : KeyEvent) :
    Moves R (takeGesture event) :=
  Moves.bind hR.toIsPreorder hR.resetGestureDelay fun _ =>
    Moves.bind hR.toIsPreorder (moves_update fun s => hR.gesturePending s true) fun _ =>
      Moves.bind hR.toIsPreorder (moves_update hR.gesturePosted) fun _ =>
        Moves.ite hR.resetDoubleTap (moves_pure hR.toIsPreorder _)

theorem AllowsHaptics.runVibration (hR : AllowsHaptics R) (longpress : Bool) :
    Moves R (run phone (.vibration longpress)) :=
  have hvibrated : Moves R (update fun s : KeyHandler =>
      { s with vibrated := s.vibrated ++ [if longpress then 50 else 40] }) :=
    moves_update fun s => hR.vibrated s _
  Moves.bind hR.toIsPreorder (moves_get hR.toIsPreorder _) fun _ => Moves.ite
    (Moves.bind hR.toIsPreorder (moves_deref hR.toIsPreorder _) fun _ => hvibrated) hvibrated

theorem AllowsTaps.run (hR : AllowsTaps R) (r : Runnable) : Moves R (run phone r) := by
  cases r with
  | doubleTapRunnable => exact hR.doubleTapRunnable phone
  | fpGestureRunnable => exact hR.resetGestureDelay
  | vibration longpress => exact hR.runVibration phone longpress

end Moves

theorem allowsTaps_screenOff : AllowsTaps fun s t => t.screenOff = s.screenOff where
  toIsPreorder := isPreorder_keeps screenOff
  vibrated _ _ := rfl
  vibration _ _ _ := rfl
  fired _ _ := rfl
  counted _ _ := rfl
  tapPending _ _ := rfl
  gesturePending _ _ := rfl
  tapPosted _ := rfl
  gesturePosted _ := rfl
  removed _ _ := rfl

end KeyHandler
end Cedric.LineageActions
