import Cedric.Power.HintHandles

/-!
# Locks under a hint id

`perform_hint_action` takes an indefinite lock and puts it in front of a list under a hint id;
`undo_hint_action` gives back the first lock under an id. The locks of the client that were
taken and not given back are `held`.
-/

namespace Cedric.Power

open DecimalText

structure HintData where
  hintId : CInt
  perflockHandle : CInt
  deriving DecidableEq

inductive LockCall
  | perfLockAcq (list : List (BitVec 32)) (result : CInt)
  | perfLockRel (handle : CInt)

def FAILED : CInt := ⟨-1, by decide⟩

/-- What `perf_lock_acq` would return, and whether the two allocations succeed. -/
structure Acquisition where
  result : CInt
  hintAllocated : Bool
  nodeAllocated : Bool

variable (client : PerfClient)

/-- The list of active hints after the call, first node first, and the calls of the client. -/
def performHintAction (hintId : CInt) (resourceValues : List (BitVec 32)) (a : Acquisition)
    (active : List HintData) : List HintData × List LockCall :=
  if client.perfLockAcq then
    let acquired := LockCall.perfLockAcq resourceValues a.result
    if a.result = FAILED then (active, [acquired])
    else if a.hintAllocated && a.nodeAllocated then (⟨hintId, a.result⟩ :: active, [acquired])
    else if client.perfLockRel then (active, [acquired, .perfLockRel a.result])
    else (active, [acquired])
  else (active, [])

def undoHintAction (hintId : CInt) (active : List HintData) : List HintData × List LockCall :=
  if client.perfLockRel then
    match active.find? fun d => decide (d.hintId = hintId) with
    | some found =>
      (active.eraseP fun d => decide (d.hintId = hintId), [.perfLockRel found.perflockHandle])
    | none => (active, [])
  else (active, [])

/-- A call that gives a lock back is taken to succeed. -/
def LockCall.holds (held : List CInt) : LockCall → List CInt
  | .perfLockAcq _ result => if result = FAILED then held else result :: held
  | .perfLockRel handle => held.erase handle

def heldAfter (held : List CInt) (calls : List LockCall) : List CInt :=
  calls.foldl LockCall.holds held

def Acquisition.acquires (a : Acquisition) : Bool :=
  client.perfLockAcq && decide (a.result ≠ FAILED) && a.hintAllocated && a.nodeAllocated

theorem perform_acquires {a : Acquisition} (h : a.acquires client = true) (hintId : CInt)
    (resourceValues : List (BitVec 32)) (active : List HintData) :
    performHintAction client hintId resourceValues a active =
      (⟨hintId, a.result⟩ :: active, [.perfLockAcq resourceValues a.result]) ∧
      a.result ≠ FAILED := by
  simp only [Acquisition.acquires, Bool.and_eq_true, decide_eq_true_eq] at h
  obtain ⟨⟨⟨hacq, hresult⟩, hhint⟩, hnode⟩ := h
  refine ⟨?_, hresult⟩
  rw [performHintAction, if_pos hacq, if_neg hresult, hhint, hnode]
  rfl

def Acquisition.stays (a : Acquisition) : Bool :=
  client.perfLockAcq && decide (a.result ≠ FAILED) &&
    (a.hintAllocated && a.nodeAllocated || !client.perfLockRel)

def undoFrees (hintId : CInt) (active : List HintData) (held : List CInt) : Bool :=
  client.perfLockRel && (active.find? fun d => decide (d.hintId = hintId)).any
    fun d => decide (held.erase d.perflockHandle = [])

theorem held_perform (hintId : CInt) (resourceValues : List (BitVec 32)) (a : Acquisition)
    (active : List HintData) (held : List CInt) :
    heldAfter held (performHintAction client hintId resourceValues a active).2 ≠ [] ↔
      held ≠ [] ∨ a.stays client = true := by
  rw [performHintAction, Acquisition.stays]
  by_cases hacq : client.perfLockAcq = true
  · by_cases hfailed : a.result = FAILED
    · simp [hacq, hfailed, heldAfter, LockCall.holds]
    · by_cases hkept : (a.hintAllocated && a.nodeAllocated) = true
      · simp [hacq, hfailed, hkept, heldAfter, LockCall.holds]
      · by_cases hrel : client.perfLockRel = true
        · simp [hacq, hfailed, hkept, hrel, heldAfter, LockCall.holds]
        · simp [hacq, hfailed, hkept, hrel, heldAfter, LockCall.holds]
  · simp [hacq, heldAfter]

theorem held_undo (hintId : CInt) (active : List HintData) (held : List CInt) :
    heldAfter held (undoHintAction client hintId active).2 ≠ [] ↔
      held ≠ [] ∧ undoFrees client hintId active held = false := by
  rw [undoHintAction, undoFrees]
  by_cases hrel : client.perfLockRel = true
  · cases hfind : active.find? fun d => decide (d.hintId = hintId) with
    | none => simp [hrel, heldAfter]
    | some found =>
      have hempty : held = [] → held.erase found.perflockHandle = [] := by
        rintro rfl
        rfl
      simp only [hrel, ↓reduceIte, heldAfter, List.foldl_cons, List.foldl_nil, LockCall.holds,
        Bool.true_and, Option.any_some, decide_eq_false_iff_not, ne_eq]
      exact ⟨fun h => ⟨fun hnil => h (hempty hnil), h⟩, fun h => h.2⟩
  · simp [hrel, heldAfter]

end Cedric.Power
