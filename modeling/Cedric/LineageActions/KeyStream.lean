import Cedric.Lib.Runs
import Cedric.LineageActions.KeyHandler
import Mathlib.Logic.Function.Basic

/-!
# The key stream behind `KeyHandler`

Whether both halves of a press are passed on to the system, or neither.
-/

namespace Cedric.LineageActions

open Calls Call KeyAction Runs

/-- `down`: of the scan codes that are down, whether their `ACTION_DOWN` was passed on. -/
structure KeyStream extends KeyHandler where
  down : ScanCode → Option Bool

namespace KeyStream

def start (s : KeyHandler) : KeyStream := ⟨s, fun _ => none⟩

variable (w : KeyStream)

def downAfter : KeyHandler.Event → ScanCode → Option Bool
  | .key phone ⟨ACTION_DOWN, scanCode⟩ =>
    Function.update w.down scanCode (some (w.PassesOn phone ⟨ACTION_DOWN, scanCode⟩))
  | .key _ ⟨ACTION_UP, scanCode⟩ => Function.update w.down scanCode none
  | _ => w.down

def step (e : KeyHandler.Event) : KeyStream := ⟨w.toKeyHandler.step e, w.downAfter e⟩

def WellFormed : KeyHandler.Event → Prop
  | .key _ ⟨ACTION_UP, scanCode⟩ => w.down scanCode ≠ none
  | _ => True

/-- An `ACTION_UP` is passed on if its `ACTION_DOWN` was, and only then. -/
def Paired : KeyHandler.Event → Prop
  | .key phone ⟨ACTION_UP, scanCode⟩ =>
    w.PassesOn phone ⟨ACTION_UP, scanCode⟩ ↔ w.down scanCode = some true
  | _ => True

end KeyStream

namespace KeyHandler

def GesturesEnabled (phone : Phone) : Prop :=
  readOneLine phone .FP_HOME_NODE = some "1" ∧
    (phone.isScreenOn = true ∨ readOneLine phone .FP_HOME_OFF_NODE = some "1")

/-- No gesture is pending and the gestures are enabled, or the line of a node is `null`. -/
def TakesUp (s : KeyHandler) (phone : Phone) : Prop :=
  (s.fpGesturePending = false ∧ GesturesEnabled phone) ∨
    readOneLine phone .FP_HOME_NODE = none ∨ readOneLine phone .FP_HOME_OFF_NODE = none

variable (s : KeyHandler) (phone : Phone) {event : KeyEvent}

theorem passesOn_unsupported (h : event.scanCode ∉ sSupportedFPGestures) :
    s.PassesOn phone event := by
  rw [PassesOn, handleKeyEvent, if_pos h]
  rfl

theorem not_passesOn_down (h : event.scanCode ∈ sSupportedFPGestures)
    (hdown : event.action ≠ ACTION_UP) : ¬ s.PassesOn phone event := by
  rw [PassesOn, handleKeyEvent, if_neg (not_not_intro h)]
  cases readOneLine phone .FP_HOME_NODE with
  | none => exact (Option.some_ne_none _).symm
  | some home =>
    rw [deref_some_bind]
    cases readOneLine phone .FP_HOME_OFF_NODE with
    | none => exact (Option.some_ne_none _).symm
    | some homeOff =>
      rw [deref_some_bind, if_pos hdown]
      exact fun h => Option.some_ne_none _ (Option.some.inj h).symm

theorem handleGesture_passes_iff (enabled enabledOff : Bool) :
    (handleGesture phone event enabled enabledOff s).2 = some (some event) ↔
      ¬ (enabled = true ∧ (phone.isScreenOn = true ∨ enabledOff = true)) := by
  have hguard : (!enabled || (!phone.isScreenOn && !enabledOff)) =
      !(enabled && (phone.isScreenOn || enabledOff)) := by
    simp only [Bool.not_and, Bool.not_or]
  rw [handleGesture, hguard, ← Bool.or_eq_true, ← Bool.and_eq_true]
  cases enabled && (phone.isScreenOn || enabledOff) with
  | false => exact iff_of_true rfl Bool.false_ne_true
  | true =>
    refine iff_of_false (fun hsome => ?_) (not_not_intro rfl)
    rw [if_neg (by decide)] at hsome
    split_ifs at hsome <;> cases bind_pure_returns hsome

theorem passesOn_up_iff (h : event.scanCode ∈ sSupportedFPGestures)
    (hup : event.action = ACTION_UP) : s.PassesOn phone event ↔ ¬ s.TakesUp phone := by
  rw [PassesOn, handleKeyEvent, if_neg (not_not_intro h), TakesUp, GesturesEnabled]
  cases hhome : readOneLine phone .FP_HOME_NODE with
  | none => exact iff_of_false (Option.some_ne_none _).symm (not_not_intro (Or.inr (Or.inl rfl)))
  | some home =>
    rw [deref_some_bind]
    cases hoff : readOneLine phone .FP_HOME_OFF_NODE with
    | none => exact iff_of_false (Option.some_ne_none _).symm (not_not_intro (Or.inr (Or.inr rfl)))
    | some homeOff =>
      rw [deref_some_bind, if_neg (not_not_intro hup), get_bind]
      cases hpending : s.fpGesturePending with
      | true =>
        refine iff_of_true rfl ?_
        simp
      | false =>
        rw [if_neg Bool.false_ne_true, bind_returned (s.takeGesture_returns event),
          handleGesture_passes_iff]
        simp

end KeyHandler

namespace KeyStream

variable {w : KeyStream}

def Taken (w : KeyStream) : KeyHandler.Event → Prop
  | .key phone ⟨ACTION_UP, scanCode⟩ =>
    scanCode ∈ sSupportedFPGestures → w.toKeyHandler.TakesUp phone
  | _ => True

/-- Of the scan codes that are down, those of fingerprint gestures were not passed on. -/
def Inv (w : KeyStream) : Prop :=
  ∀ scanCode passed, w.down scanCode = some passed →
    passed = decide (scanCode ∉ sSupportedFPGestures)

theorem passesOn_down_iff (s : KeyHandler) (phone : Phone) (scanCode : ScanCode) :
    s.PassesOn phone ⟨ACTION_DOWN, scanCode⟩ ↔ scanCode ∉ sSupportedFPGestures := by
  by_cases h : scanCode ∈ sSupportedFPGestures
  · exact iff_of_false (s.not_passesOn_down phone h KeyAction.noConfusion) (not_not_intro h)
  · exact iff_of_true (s.passesOn_unsupported phone h) h

theorem Inv.step (h : w.Inv) (e : KeyHandler.Event) : (w.step e).Inv := by
  intro scanCode passed hdown
  match e with
  | .key phone ⟨ACTION_DOWN, code⟩ =>
    change Function.update w.down code _ scanCode = some passed at hdown
    by_cases hsame : scanCode = code
    · subst hsame
      rw [Function.update_self] at hdown
      rw [← Option.some.inj hdown]
      exact decide_eq_decide.mpr (passesOn_down_iff _ phone scanCode)
    · rw [Function.update_of_ne hsame] at hdown
      exact h scanCode passed hdown
  | .key phone ⟨ACTION_UP, code⟩ =>
    change Function.update w.down code none scanCode = some passed at hdown
    by_cases hsame : scanCode = code
    · subst hsame
      rw [Function.update_self] at hdown
      cases hdown
    · rw [Function.update_of_ne hsame] at hdown
      exact h scanCode passed hdown
  | .key phone ⟨ACTION_MULTIPLE, code⟩ => exact h scanCode passed hdown
  | .callback phone r => exact h scanCode passed hdown
  | .message phone => exact h scanCode passed hdown
  | .reading listener far => exact h scanCode passed hdown

theorem paired_iff_of_wellFormed (hinv : w.Inv) {e : KeyHandler.Event} (hwell : w.WellFormed e) :
    w.Paired e ↔ w.Taken e := by
  match e with
  | .key phone ⟨ACTION_UP, scanCode⟩ =>
    obtain ⟨passed, hdown⟩ := Option.ne_none_iff_exists'.mp hwell
    have hpassed := hinv scanCode passed hdown
    rw [Paired, Taken, hdown, Option.some.injEq, hpassed, decide_eq_true_iff]
    by_cases h : scanCode ∈ sSupportedFPGestures
    · rw [w.passesOn_up_iff phone h rfl]
      simp only [h, not_true_eq_false, iff_false, not_not, true_imp_iff]
    · exact iff_of_true (iff_of_true (w.passesOn_unsupported phone h) h) fun hin => absurd hin h
  | .key phone ⟨ACTION_DOWN, scanCode⟩ => exact Iff.rfl
  | .key phone ⟨ACTION_MULTIPLE, scanCode⟩ => exact Iff.rfl
  | .callback phone r => exact Iff.rfl
  | .message phone => exact Iff.rfl
  | .reading listener far => exact Iff.rfl

theorem inv_start (s : KeyHandler) : (start s).Inv := by
  intro scanCode passed hdown
  cases hdown

/-- In a well-formed sequence the two halves of every press go the same way exactly if every
`ACTION_UP` of a fingerprint gesture is taken. -/
theorem paired_iff (s : KeyHandler) (events : List KeyHandler.Event)
    (hwell : Along step WellFormed (start s) events) :
    Along step Paired (start s) events ↔ Along step Taken (start s) events :=
  along_congr_on Inv (fun _ e h _ => h.step e) (fun _ _ hinv h => paired_iff_of_wellFormed hinv h)
    (inv_start s) events hwell

def press (phone : Phone) (scanCode : ScanCode) : List KeyHandler.Event :=
  [.key phone ⟨ACTION_DOWN, scanCode⟩, .key phone ⟨ACTION_UP, scanCode⟩]

theorem wellFormed_press (s : KeyHandler) (phone : Phone) (scanCode : ScanCode) :
    Along step WellFormed (start s) (press phone scanCode) := by
  refine ⟨trivial, ?_, trivial⟩
  have hdown : ((start s).step (.key phone ⟨ACTION_DOWN, scanCode⟩)).down scanCode = some _ :=
    Function.update_self scanCode _ _
  exact (Option.ne_none_iff_exists'.mpr ⟨_, hdown⟩)

theorem paired_iff_tap :
    Along step Paired (start (.start true false false false))
        (press ⟨true, false, fun _ => some ["1"]⟩ FP_TAP_SCANCODE) ↔
      Along step Taken (start (.start true false false false))
        (press ⟨true, false, fun _ => some ["1"]⟩ FP_TAP_SCANCODE) :=
  paired_iff _ _ (wellFormed_press _ _ _)

/-- With the gestures disabled only the second half is passed on. -/
theorem up_without_down :
    Along step WellFormed (start (.start true false false false))
        (press ⟨true, false, fun _ => none⟩ FP_TAP_SCANCODE) ∧
      ¬ Along step Paired (start (.start true false false false))
        (press ⟨true, false, fun _ => none⟩ FP_TAP_SCANCODE) := by
  refine ⟨wellFormed_press _ _ _, ?_⟩
  intro h
  obtain ⟨-, hup, -⟩ := h
  exact absurd (hup.mp (by decide)) (by decide)

end KeyStream
end Cedric.LineageActions
