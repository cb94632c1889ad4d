import Cedric.Lib.Runs
import Cedric.Power.VideoEncodeHint

/-!
# The lock for a display that is off

`set_interactive_override` takes a lock when the display goes off and gives it back when
it comes on, each time under the interactive governor only. The flag says that the lock
was asked for; `held` are the locks that the client gave and did not take back.
-/

namespace Cedric.Power

open DecimalText Runs

def DISPLAY_STATE_HINT_ID : CInt := ⟨0x0C00, by decide⟩

structure DisplayState where
  displayHintSent : Bool
  active : List HintData
  initInteractiveHint : Bool
  displayFd : ℤ

def DisplayState.boot : DisplayState := ⟨false, [], false, 0⟩

/-- A call: what the files say, what the client would answer, and what `open` would give for the
node of the display. -/
structure InteractiveCall where
  on : CInt
  sys : Sysfs
  acquisition : Acquisition
  displayFd : ℤ

def Sysfs.firstGovernor (sys : Sysfs) : Option Text :=
  (List.finRange 4).findSome? fun core =>
    getScalingGovernorCheckCores (sys.scalingGovernor core) 80

namespace DisplayState

variable (client : PerfClient) (c : InteractiveCall) (s : DisplayState)

def hint (governor : Text) : DisplayState × List LockCall :=
  if c.on.1 = 0 then
    if governor = INTERACTIVE_GOVERNOR then
      if s.displayHintSent then (s, [])
      else
        let r := performHintAction client DISPLAY_STATE_HINT_ID [0x41424000, 0x28] c.acquisition
          s.active
        ({ s with active := r.1, displayHintSent := true }, r.2)
    else (s, [])
  else if governor = INTERACTIVE_GOVERNOR then
    let r := undoHintAction client DISPLAY_STATE_HINT_ID s.active
    ({ s with active := r.1, displayHintSent := false }, r.2)
  else (s, [])

/-- The part that tells the display, from the call after the one that opens the node. -/
def displayPwr : DisplayState × List (ℤ × Text) :=
  if s.initInteractiveHint then
    (s, [(s.displayFd, if c.on.1 = 0 then "0".toList else "1".toList)])
  else
    ({ s with
      displayFd := c.displayFd
      initInteractiveHint := decide (0 ≤ c.displayFd) }, [])

def setInteractiveOverride : DisplayState × List LockCall × List (ℤ × Text) :=
  match c.sys.firstGovernor with
  | none => (s, [], [])
  | some governor =>
    let r := s.hint client c governor
    let w := r.1.displayPwr c
    (w.1, r.2, w.2)

@[simp] theorem displayPwr_sent : (s.displayPwr c).1.displayHintSent = s.displayHintSent := by
  unfold displayPwr
  split <;> rfl

@[simp] theorem displayPwr_active : (s.displayPwr c).1.active = s.active := by
  unfold displayPwr
  split <;> rfl

end DisplayState

structure DisplayWorld where
  state : DisplayState
  held : List CInt

namespace DisplayWorld

def boot : DisplayWorld := ⟨.boot, []⟩

variable (client : PerfClient) (w : DisplayWorld) (c : InteractiveCall)

def lockCalls : List LockCall := (w.state.setInteractiveOverride client c).2.1

def step : DisplayWorld :=
  ⟨(w.state.setInteractiveOverride client c).1, heldAfter w.held (w.lockCalls client c)⟩

/-- At most one lock is held at a time, and none after a call that puts the display on. -/
def Released : Prop :=
  Along LockCall.holds (fun held call => (call.holds held).length ≤ 1) w.held
      (w.lockCalls client c) ∧
    (c.on.1 ≠ 0 → c.sys.firstGovernor ≠ none → (w.step client c).held = [])

instance : Decidable (w.Released client c) := inferInstanceAs (Decidable (_ ∧ _))

/-- A call that puts the display on finds no lock, or the governor under which it is given back. -/
def Releasable : Prop :=
  c.on.1 ≠ 0 → c.sys.firstGovernor ≠ none →
    w.held = [] ∨ c.sys.firstGovernor = some INTERACTIVE_GOVERNOR ∧ client.perfLockRel = true

structure Inv : Prop where
  unsent : w.state.displayHintSent = false → w.held = []
  single : w.held.length ≤ 1
  listed : client.perfLockRel = true → w.held = w.state.active.map HintData.perflockHandle
  ids : ∀ d ∈ w.state.active, d.hintId = DISPLAY_STATE_HINT_ID

variable {client w c}

theorem inv_boot : boot.Inv client where
  unsent _ := rfl
  single := Nat.zero_le 1
  listed _ := rfl
  ids _ hd := absurd hd List.not_mem_nil

theorem step_cases (client : PerfClient) (w : DisplayWorld) (c : InteractiveCall) :
    (w.lockCalls client c = [] ∧ (w.step client c).held = w.held ∧
      (w.step client c).state.displayHintSent = w.state.displayHintSent ∧
      (w.step client c).state.active = w.state.active ∧
      (c.on.1 ≠ 0 → c.sys.firstGovernor ≠ some INTERACTIVE_GOVERNOR)) ∨
    (c.on.1 = 0 ∧ w.state.displayHintSent = false ∧
      (w.step client c).state.displayHintSent = true ∧
      ((w.step client c).state.active, w.lockCalls client c) =
        performHintAction client DISPLAY_STATE_HINT_ID [0x41424000, 0x28] c.acquisition
          w.state.active) ∨
    (c.on.1 ≠ 0 ∧ c.sys.firstGovernor = some INTERACTIVE_GOVERNOR ∧
      (w.step client c).state.displayHintSent = false ∧
      ((w.step client c).state.active, w.lockCalls client c) =
        undoHintAction client DISPLAY_STATE_HINT_ID w.state.active) := by
  unfold step lockCalls DisplayState.setInteractiveOverride
  cases hgovernor : c.sys.firstGovernor with
  | none =>
    left
    simp [heldAfter]
  | some governor =>
    by_cases hinteractive : governor = INTERACTIVE_GOVERNOR
    · by_cases hon : c.on.1 = 0
      · cases hsent : w.state.displayHintSent with
        | true =>
          left
          simp [DisplayState.hint, hon, hinteractive, hsent, heldAfter]
        | false =>
          right
          left
          simp [DisplayState.hint, hon, hinteractive, hsent]
      · right
        right
        simp [DisplayState.hint, hon, hinteractive]
    · left
      simp [DisplayState.hint, hinteractive, heldAfter]

theorem held_eq (w : DisplayWorld) :
    (w.step client c).held = heldAfter w.held (w.lockCalls client c) := rfl

theorem perform_held (client : PerfClient) (a : Acquisition) (hintId : CInt)
    (resourceValues : List (BitVec 32)) (active : List HintData) :
    let r := performHintAction client hintId resourceValues a active
    Along LockCall.holds (fun held call => (call.holds held).length ≤ 1) [] r.2 ∧
      (heldAfter [] r.2).length ≤ 1 ∧
      (client.perfLockRel = true → active = [] →
        heldAfter [] r.2 = r.1.map HintData.perflockHandle) := by
  dsimp only
  unfold performHintAction
  by_cases hacq : client.perfLockAcq = true
  · by_cases hfailed : a.result = FAILED
    · simp +contextual [hacq, hfailed, Along, heldAfter, LockCall.holds]
    · by_cases hkept : (a.hintAllocated && a.nodeAllocated) = true
      · simp +contextual [hacq, hfailed, hkept, Along, heldAfter, LockCall.holds]
      · by_cases hrel : client.perfLockRel = true
        · simp +contextual [hacq, hfailed, hkept, hrel, Along, heldAfter, LockCall.holds]
        · simp [hacq, hfailed, hkept, hrel, Along, heldAfter, LockCall.holds]
  · simp +contextual [hacq, Along, heldAfter]

theorem perform_ids (a : Acquisition) (hintId : CInt) (resourceValues : List (BitVec 32))
    {active : List HintData} (h : ∀ d ∈ active, d.hintId = hintId) :
    ∀ d ∈ (performHintAction client hintId resourceValues a active).1, d.hintId = hintId := by
  unfold performHintAction
  dsimp only
  split_ifs with hacq hfailed hkept hrel
  · exact h
  · exact List.forall_mem_cons.mpr ⟨rfl, h⟩
  · exact h
  · exact h
  · exact h

theorem undo_held (hrel : client.perfLockRel = true) {hintId : CInt} {active : List HintData}
    (hids : ∀ d ∈ active, d.hintId = hintId) (hsingle : active.length ≤ 1) :
    let r := undoHintAction client hintId active
    let held := active.map HintData.perflockHandle
    Along LockCall.holds (fun held call => (call.holds held).length ≤ 1) held r.2 ∧
      heldAfter held r.2 = [] ∧ r.1 = [] := by
  match active with
  | [] => simp [undoHintAction, Along, heldAfter]
  | [d] => simp [undoHintAction, hrel, hids d, Along, heldAfter, LockCall.holds]
  | d :: d' :: rest => simp at hsingle

theorem Inv.step (h : w.Inv client) (hc : w.Releasable client c) :
    w.Released client c ∧ (w.step client c).Inv client := by
  obtain ⟨hcalls, hheld, hsent, hactive, hother⟩ | ⟨hoff, hsent, hset, hperform⟩ |
    ⟨hon, hgovernor, hcleared, hundo⟩ := step_cases client w c
  · refine ⟨⟨?_, fun hon hread => ?_⟩, ?_, ?_, ?_, ?_⟩
    · rw [hcalls]
      trivial
    · rw [hheld]
      exact (hc hon hread).resolve_right fun hboth => hother hon hboth.1
    · rw [hsent, hheld]
      exact h.unsent
    · rw [hheld]
      exact h.single
    · rw [hheld, hactive]
      exact h.listed
    · rw [hactive]
      exact h.ids
  · -- the lock is asked for with none held
    have hnone := h.unsent hsent
    obtain ⟨hactive, hcalls⟩ := Prod.ext_iff.mp hperform
    dsimp only at hactive hcalls
    obtain ⟨hone, hsingle, hlisted⟩ := perform_held client c.acquisition
      DISPLAY_STATE_HINT_ID [0x41424000, 0x28] w.state.active
    rw [← hcalls, ← hactive] at hlisted
    rw [← hcalls] at hone hsingle
    refine ⟨⟨?_, fun hon => absurd hoff hon⟩, ?_, ?_, fun hrel => ?_, ?_⟩
    · rw [hnone]
      exact hone
    · rw [hset]
      exact fun hno => absurd hno (Bool.false_ne_true ∘ Eq.symm)
    · rw [held_eq, hnone]
      exact hsingle
    · have hempty : w.state.active = [] := by
        have hmap := h.listed hrel
        rw [hnone] at hmap
        exact List.map_eq_nil_iff.mp hmap.symm
      rw [held_eq, hnone]
      exact hlisted hrel hempty
    · rw [hactive]
      exact perform_ids _ _ _ h.ids
  · obtain ⟨hactive, hcalls⟩ := Prod.ext_iff.mp hundo
    dsimp only at hactive hcalls
    have hread : c.sys.firstGovernor ≠ none := by
      rw [hgovernor]
      exact Option.some_ne_none _
    have hreleased : Along LockCall.holds (fun held call => (call.holds held).length ≤ 1) w.held
        (w.lockCalls client c) ∧ (w.step client c).held = [] ∧
        (client.perfLockRel = true → (w.step client c).state.active = []) ∧
        ∀ d ∈ (w.step client c).state.active, d.hintId = DISPLAY_STATE_HINT_ID := by
      rw [held_eq, hactive, hcalls]
      cases hrel : client.perfLockRel with
      | true =>
        have hlisted := h.listed hrel
        have hlength : w.state.active.length ≤ 1 := by
          have hsingle := h.single
          rwa [hlisted, List.length_map] at hsingle
        obtain ⟨hone, hnone, hempty⟩ := undo_held hrel h.ids hlength
        rw [hlisted, hempty]
        exact ⟨hone, hnone, fun _ => rfl, fun d hd => absurd hd List.not_mem_nil⟩
      | false =>
        have hnone := (hc hon hread).resolve_right fun hboth => by simp [hrel] at hboth
        have hidle : undoHintAction client DISPLAY_STATE_HINT_ID w.state.active =
            (w.state.active, []) := by
          simp [undoHintAction, hrel]
        rw [hidle, hnone]
        exact ⟨trivial, rfl, fun hno => absurd hno Bool.false_ne_true, h.ids⟩
    obtain ⟨hone, hnone, hempty, hids⟩ := hreleased
    refine ⟨⟨hone, fun _ _ => hnone⟩, fun _ => hnone, ?_, fun hrel => ?_, hids⟩
    · rw [hnone]
      exact Nat.zero_le 1
    · rw [hnone, hempty hrel]
      rfl

theorem releasable_of_released (hc : w.Released client c) :
    w.Releasable client c := by
  intro hon hread
  have hreleased := hc.2 hon hread
  obtain ⟨-, hheld, -⟩ | ⟨hoff, -⟩ | ⟨-, hgovernor, -, hundo⟩ :=
    step_cases client w c
  · exact Or.inl (hheld ▸ hreleased)
  · exact absurd hoff hon
  · cases hrel : client.perfLockRel with
    | true => exact Or.inr ⟨hgovernor, rfl⟩
    | false =>
      have hcalls : w.lockCalls client c = [] := by
        refine (congrArg Prod.snd hundo).trans ?_
        simp [undoHintAction, hrel]
      rw [held_eq, hcalls] at hreleased
      exact Or.inl hreleased

end DisplayWorld

/-- In every run the lock is released exactly if every call that puts the display on can
release it. -/
theorem display_released_iff (client : PerfClient) (calls : List InteractiveCall) :
    Along (DisplayWorld.step client) (DisplayWorld.Released client) .boot calls ↔
      Along (DisplayWorld.step client) (DisplayWorld.Releasable client) .boot calls :=
  along_congr (DisplayWorld.Inv client)
    (fun _ _ h => ⟨DisplayWorld.releasable_of_released, fun hc => (h.step hc).1⟩)
    (fun _ _ h hc => (h.step (DisplayWorld.releasable_of_released hc)).2) DisplayWorld.inv_boot
    calls

/-- The display goes off under one governor and comes on under another. -/
theorem display_lock_kept :
    ¬ Along (DisplayWorld.step ⟨true, true, true⟩) (DisplayWorld.Released ⟨true, true, true⟩) .boot
      [⟨0, ⟨fun _ => some (literal "interactive"), none⟩, ⟨five, true, true⟩, 7⟩,
        ⟨five, ⟨fun _ => some (literal "performance"), none⟩, ⟨five, true, true⟩, 7⟩] := by
  decide +kernel

end Cedric.Power
