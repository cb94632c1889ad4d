import Cedric.Lib.Runs

/-!
# `FlipToMute`

The gesture sets the interruption filter to priority when the phone lies face down
in the dark, and puts back a saved filter whenever it is not face down. The filter
is saved when a change is broadcast, unless one of the two sensors is active.
`Watched` runs it beside what it should do: whether it has muted, and the filter
last chosen by anyone else.
-/

namespace Cedric.LineageActions

open Runs

inductive InterruptionFilter
  | INTERRUPTION_FILTER_ALL | INTERRUPTION_FILTER_PRIORITY | INTERRUPTION_FILTER_NONE
  | INTERRUPTION_FILTER_ALARMS
  deriving DecidableEq, Repr

open InterruptionFilter

/-- The gesture and the system's filter. `broadcasts` counts the changes whose broadcast
its receiver has yet to get. -/
structure FlipToMute where
  mIsEnabled : Bool
  mIsFlatDown : Bool
  mIsStowed : Bool
  mFilter : InterruptionFilter
  currentInterruptionFilter : InterruptionFilter
  broadcasts : ℕ

namespace FlipToMute

def start (current : InterruptionFilter) : FlipToMute where
  mIsEnabled := false
  mIsFlatDown := false
  mIsStowed := false
  mFilter := current
  currentInterruptionFilter := current
  broadcasts := 0

variable (s : FlipToMute)

/-- A change is broadcast; without a receiver nobody here gets it. -/
def setInterruptionFilter (filter : InterruptionFilter) : FlipToMute :=
  if filter = s.currentInterruptionFilter then s
  else { s with
    currentInterruptionFilter := filter
    broadcasts := if s.mIsEnabled then s.broadcasts + 1 else s.broadcasts }

def onReceive : FlipToMute :=
  if !s.mIsFlatDown && !s.mIsStowed then { s with mFilter := s.currentInterruptionFilter } else s

def withFlags (mIsFlatDown mIsStowed : Bool) : FlipToMute :=
  { s with mIsFlatDown := mIsFlatDown, mIsStowed := mIsStowed }

def sensorChange : FlipToMute :=
  if s.mIsFlatDown && s.mIsStowed then s.setInterruptionFilter INTERRUPTION_FILTER_PRIORITY
  else if !s.mIsFlatDown then s.setInterruptionFilter s.mFilter
  else s

/-- With the receiver the broadcasts on their way to it are gone. -/
def updateState (isFlipToMuteEnabled : Bool) : FlipToMute :=
  if isFlipToMuteEnabled && !s.mIsEnabled then { s with mIsEnabled := true }
  else if !isFlipToMuteEnabled && s.mIsEnabled then { s with mIsEnabled := false, broadcasts := 0 }
  else s

/-- What can happen. A sensor event tells whether `values[0] != 0`; `chosen` is a change by
someone else, `broadcast` the delivery of a broadcast. -/
inductive Event
  | flatDown (detected : Bool)
  | stow (detected : Bool)
  | chosen (filter : InterruptionFilter)
  | broadcast
  | updateState (isFlipToMuteEnabled : Bool)

/-- The change by someone else is delivered at once, behind the broadcasts before it. -/
def chooseFilter (filter : InterruptionFilter) : FlipToMute :=
  if filter = s.currentInterruptionFilter then s
  else
    let s := s.setInterruptionFilter filter
    if s.mIsEnabled then { s.onReceive with broadcasts := 0 } else s

def step : Event → FlipToMute
  | .flatDown detected =>
    if s.mIsEnabled then (s.withFlags detected s.mIsStowed).sensorChange else s
  | .stow detected =>
    if s.mIsEnabled then (s.withFlags s.mIsFlatDown detected).sensorChange else s
  | .chosen filter => s.chooseFilter filter
  | .broadcast => if s.broadcasts = 0 then s else { s.onReceive with broadcasts := s.broadcasts - 1 }
  | .updateState isFlipToMuteEnabled => s.updateState isFlipToMuteEnabled

end FlipToMute

/-- `muted`: enabled, flat-down and stowed seen, and flat-down not ended since. -/
structure Watched extends FlipToMute where
  muted : Bool
  lastChosen : InterruptionFilter

namespace Watched

def start (current : InterruptionFilter) : Watched := ⟨.start current, false, current⟩

def mutedAfter (muted flatDown stowed : Bool) : Bool := flatDown && (stowed || muted)

def step (w : Watched) (e : FlipToMute.Event) : Watched :=
  let s := w.toFlipToMute.step e
  match e with
  | .flatDown _ | .stow _ =>
    ⟨s, if w.mIsEnabled then mutedAfter w.muted s.mIsFlatDown s.mIsStowed else w.muted,
      w.lastChosen⟩
  | .chosen filter => ⟨s, w.muted, filter⟩
  | .broadcast => ⟨s, w.muted, w.lastChosen⟩
  | .updateState _ => ⟨s, w.muted && s.mIsEnabled, w.lastChosen⟩

/-- The filter is priority while muted, and otherwise the one last chosen. -/
def Right (w : Watched) : Prop :=
  w.currentInterruptionFilter = if w.muted then INTERRUPTION_FILTER_PRIORITY else w.lastChosen

instance (w : Watched) : Decidable w.Right := inferInstanceAs (Decidable (_ = _))

/-- The saved filter is put back only if it is the one last chosen; while muted nobody chooses
another filter than priority, and the gesture is disabled only if priority was chosen. -/
def Orderly (w : Watched) : FlipToMute.Event → Prop
  | .flatDown detected => w.mIsEnabled = true → detected = false → w.mFilter = w.lastChosen
  | .stow _ => w.mIsEnabled = true → w.mIsFlatDown = false → w.mFilter = w.lastChosen
  | .chosen filter => w.muted = true → filter = INTERRUPTION_FILTER_PRIORITY
  | .broadcast => True
  | .updateState isFlipToMuteEnabled =>
    isFlipToMuteEnabled = false → w.muted = true → w.lastChosen = INTERRUPTION_FILTER_PRIORITY

def Inv (w : Watched) : Prop := w.muted = true → w.mIsEnabled = true ∧ w.mIsFlatDown = true

end Watched

namespace FlipToMute

variable (s : FlipToMute)

@[simp] theorem setInterruptionFilter_current (filter : InterruptionFilter) :
    (s.setInterruptionFilter filter).currentInterruptionFilter = filter := by
  rw [setInterruptionFilter]
  by_cases h : filter = s.currentInterruptionFilter
  · rw [if_pos h]
    exact h.symm
  · rw [if_neg h]

@[simp] theorem setInterruptionFilter_flags (filter : InterruptionFilter) :
    (s.setInterruptionFilter filter).mIsEnabled = s.mIsEnabled ∧
      (s.setInterruptionFilter filter).mIsFlatDown = s.mIsFlatDown ∧
      (s.setInterruptionFilter filter).mIsStowed = s.mIsStowed := by
  rw [setInterruptionFilter]
  split_ifs <;> exact ⟨rfl, rfl, rfl⟩

theorem onReceive_flags : s.onReceive.mIsEnabled = s.mIsEnabled ∧
    s.onReceive.mIsFlatDown = s.mIsFlatDown ∧
    s.onReceive.currentInterruptionFilter = s.currentInterruptionFilter := by
  rw [onReceive]
  split_ifs <;> exact ⟨rfl, rfl, rfl⟩

theorem sensorChange_flags : s.sensorChange.mIsEnabled = s.mIsEnabled ∧
    s.sensorChange.mIsFlatDown = s.mIsFlatDown ∧ s.sensorChange.mIsStowed = s.mIsStowed := by
  rw [sensorChange]
  split_ifs
  · exact s.setInterruptionFilter_flags _
  · exact s.setInterruptionFilter_flags _
  · exact ⟨rfl, rfl, rfl⟩

theorem sensorChange_current : s.sensorChange.currentInterruptionFilter =
    if s.mIsFlatDown && s.mIsStowed then INTERRUPTION_FILTER_PRIORITY
    else if !s.mIsFlatDown then s.mFilter else s.currentInterruptionFilter := by
  rw [sensorChange]
  split_ifs
  · exact s.setInterruptionFilter_current _
  · exact s.setInterruptionFilter_current _
  · rfl

theorem setInterruptionFilter_mFilter (filter : InterruptionFilter) :
    (s.setInterruptionFilter filter).mFilter = s.mFilter := by
  rw [setInterruptionFilter]
  split_ifs <;> rfl

theorem sensorChange_mFilter : s.sensorChange.mFilter = s.mFilter := by
  rw [sensorChange]
  split_ifs
  · exact s.setInterruptionFilter_mFilter _
  · exact s.setInterruptionFilter_mFilter _
  · rfl

theorem onReceive_mFilter : s.onReceive.mFilter =
    if !s.mIsFlatDown && !s.mIsStowed then s.currentInterruptionFilter else s.mFilter := by
  rw [onReceive]
  split_ifs <;> rfl

theorem chooseFilter_flags (filter : InterruptionFilter) :
    (s.chooseFilter filter).mIsEnabled = s.mIsEnabled ∧
      (s.chooseFilter filter).mIsFlatDown = s.mIsFlatDown ∧
      (s.chooseFilter filter).currentInterruptionFilter = filter := by
  obtain ⟨henabled, hflat, -⟩ := s.setInterruptionFilter_flags filter
  obtain ⟨henabled', hflat', hcurrent⟩ := (s.setInterruptionFilter filter).onReceive_flags
  rw [chooseFilter]
  split_ifs with hsame
  · exact ⟨rfl, rfl, hsame.symm⟩
  · dsimp only
    split_ifs
    · exact ⟨henabled'.trans henabled, hflat'.trans hflat,
        hcurrent.trans (s.setInterruptionFilter_current filter)⟩
    · exact ⟨henabled, hflat, s.setInterruptionFilter_current filter⟩

theorem updateState_flags (isFlipToMuteEnabled : Bool) :
    (s.updateState isFlipToMuteEnabled).mIsEnabled = isFlipToMuteEnabled ∧
      (s.updateState isFlipToMuteEnabled).mIsFlatDown = s.mIsFlatDown ∧
      (s.updateState isFlipToMuteEnabled).currentInterruptionFilter =
        s.currentInterruptionFilter := by
  rw [updateState]
  cases isFlipToMuteEnabled <;> cases henabled : s.mIsEnabled <;> simp [henabled]

theorem chooseFilter_mFilter {s : FlipToMute} {filter : InterruptionFilter}
    (henabled : s.mIsEnabled = true) (hflat : s.mIsFlatDown = false)
    (hstowed : s.mIsStowed = false) (hsaved : s.mFilter = s.currentInterruptionFilter) :
    (s.chooseFilter filter).mFilter = filter := by
  obtain ⟨-, hflat', hstowed'⟩ := s.setInterruptionFilter_flags filter
  rw [chooseFilter]
  split_ifs with hsame
  · exact hsaved.trans hsame.symm
  · change (if _ then _ else _ : FlipToMute).mFilter = filter
    rw [if_pos ((s.setInterruptionFilter_flags filter).1.trans henabled)]
    change (s.setInterruptionFilter filter).onReceive.mFilter = filter
    rw [onReceive_mFilter, hflat', hstowed', hflat, hstowed]
    exact s.setInterruptionFilter_current filter

end FlipToMute

namespace Watched

variable {w : Watched}

theorem inv_start (current : InterruptionFilter) : (start current).Inv := by
  intro hmuted
  cases hmuted

theorem right_sensed_iff (hright : w.Right) (flatDown stowed : Bool) :
    Right ⟨(w.withFlags flatDown stowed).sensorChange,
        mutedAfter w.muted flatDown stowed, w.lastChosen⟩ ↔
      (flatDown = false → w.mFilter = w.lastChosen) := by
  simp only [Right, FlipToMute.sensorChange_current, mutedAfter, FlipToMute.withFlags]
  rw [Right] at hright
  cases flatDown with
  | false => simp
  | true =>
    cases stowed with
    | false => simpa using hright
    | true => simp

theorem step_flatDown (w : Watched) (detected : Bool) (henabled : w.mIsEnabled = true) :
    w.step (.flatDown detected) =
      ⟨(w.withFlags detected w.mIsStowed).sensorChange,
        mutedAfter w.muted detected w.mIsStowed, w.lastChosen⟩ := by
  obtain ⟨-, hflat, hstowed⟩ :=
    (w.withFlags detected w.mIsStowed).sensorChange_flags
  simp only [step, FlipToMute.step, if_pos henabled]
  rw [hflat, hstowed]
  rfl

theorem step_stow (w : Watched) (detected : Bool) (henabled : w.mIsEnabled = true) :
    w.step (.stow detected) =
      ⟨(w.withFlags w.mIsFlatDown detected).sensorChange,
        mutedAfter w.muted w.mIsFlatDown detected, w.lastChosen⟩ := by
  obtain ⟨-, hflat, hstowed⟩ :=
    (w.withFlags w.mIsFlatDown detected).sensorChange_flags
  simp only [step, FlipToMute.step, if_pos henabled]
  rw [hflat, hstowed]
  rfl

theorem step_disabled {e : FlipToMute.Event} (henabled : ¬ w.mIsEnabled = true)
    (h : (∃ detected, e = .flatDown detected) ∨ ∃ detected, e = .stow detected) :
    w.step e = w := by
  rcases h with ⟨detected, rfl⟩ | ⟨detected, rfl⟩ <;>
    simp only [step, FlipToMute.step, henabled, Bool.false_eq_true, ↓reduceIte]

theorem inv_sensed (henabled : w.mIsEnabled = true) (flatDown stowed : Bool) :
    Inv ⟨(w.withFlags flatDown stowed).sensorChange,
      mutedAfter w.muted flatDown stowed, w.lastChosen⟩ := by
  intro hmuted
  obtain ⟨hon, hflat, -⟩ :=
    (w.withFlags flatDown stowed).sensorChange_flags
  exact ⟨hon.trans henabled, hflat.trans ((Bool.and_eq_true _ _).mp hmuted).1⟩

theorem Inv.step (h : w.Inv) (e : FlipToMute.Event) : (w.step e).Inv := by
  cases e with
  | flatDown detected =>
    by_cases henabled : w.mIsEnabled = true
    · rw [step_flatDown w detected henabled]
      exact inv_sensed henabled _ _
    · rw [step_disabled henabled (Or.inl ⟨detected, rfl⟩)]
      exact h
  | stow detected =>
    by_cases henabled : w.mIsEnabled = true
    · rw [step_stow w detected henabled]
      exact inv_sensed henabled _ _
    · rw [step_disabled henabled (Or.inr ⟨detected, rfl⟩)]
      exact h
  | chosen filter =>
    intro hmuted
    obtain ⟨henabled, hflat, -⟩ := w.chooseFilter_flags filter
    exact ⟨henabled.trans (h hmuted).1, hflat.trans (h hmuted).2⟩
  | broadcast =>
    intro hmuted
    obtain ⟨henabled, hflat, -⟩ := w.onReceive_flags
    simp only [Watched.step, FlipToMute.step] at hmuted ⊢
    split_ifs
    · exact h hmuted
    · exact ⟨henabled.trans (h hmuted).1, hflat.trans (h hmuted).2⟩
  | updateState isFlipToMuteEnabled =>
    intro hmuted
    obtain ⟨hmuted, henabled⟩ := (Bool.and_eq_true _ _).mp hmuted
    have hflat := (w.updateState_flags isFlipToMuteEnabled).2.1
    exact ⟨henabled, hflat.trans (h hmuted).2⟩

theorem right_step_iff (hright : w.Right) (e : FlipToMute.Event) :
    (w.step e).Right ↔ w.Orderly e := by
  cases e with
  | flatDown detected =>
    by_cases henabled : w.mIsEnabled = true
    · rw [step_flatDown w detected henabled, right_sensed_iff hright]
      simp only [Orderly, henabled, true_imp_iff]
    · rw [step_disabled henabled (Or.inl ⟨detected, rfl⟩)]
      exact iff_of_true hright fun hon => absurd hon henabled
  | stow detected =>
    by_cases henabled : w.mIsEnabled = true
    · rw [step_stow w detected henabled, right_sensed_iff hright]
      simp only [Orderly, henabled, true_imp_iff]
    · rw [step_disabled henabled (Or.inr ⟨detected, rfl⟩)]
      exact iff_of_true hright fun hon => absurd hon henabled
  | chosen filter =>
    have hcurrent : (w.step (.chosen filter)).currentInterruptionFilter = filter :=
      (w.chooseFilter_flags filter).2.2
    rw [Right, hcurrent, Orderly]
    change (filter = if w.muted then INTERRUPTION_FILTER_PRIORITY else filter) ↔ _
    cases w.muted <;> simp
  | broadcast =>
    have hcurrent : (w.step .broadcast).currentInterruptionFilter =
        w.currentInterruptionFilter := by
      have hreceive := w.onReceive_flags.2.2
      simp only [Watched.step, FlipToMute.step]
      split_ifs
      · rfl
      · exact hreceive
    exact iff_of_true (hcurrent.trans hright) trivial
  | updateState isFlipToMuteEnabled =>
    obtain ⟨henabled, -, hcurrent⟩ := w.updateState_flags isFlipToMuteEnabled
    rw [Right] at hright
    have hafter : (w.step (.updateState isFlipToMuteEnabled)).Right ↔
        w.currentInterruptionFilter = if w.muted && isFlipToMuteEnabled then
          INTERRUPTION_FILTER_PRIORITY else w.lastChosen := by
      simp only [Right, Watched.step, FlipToMute.step, henabled, hcurrent]
    rw [hafter, hright, Orderly]
    cases isFlipToMuteEnabled <;> cases w.muted <;> simp [eq_comm]

/-- Along every run the filter is right exactly if every step is orderly. -/
theorem right_iff (current : InterruptionFilter) (events : List FlipToMute.Event) :
    Along step (fun w e => (w.step e).Right) (start current) events ↔
      Along step Orderly (start current) events :=
  along_congr Right (fun _ e h => right_step_iff h e) (fun _ _ _ hright => hright)
    (show (start current).Right from rfl) events

/-- Others choose while the gesture is enabled and neither sensor is active, and it is not
disabled while it mutes. -/
def Calm (w : Watched) : FlipToMute.Event → Prop
  | .chosen _ => w.mIsEnabled = true ∧ w.mIsFlatDown = false ∧ w.mIsStowed = false
  | .updateState isFlipToMuteEnabled => isFlipToMuteEnabled = false → w.muted = false
  | _ => True

/-- The filter last chosen is the saved one. -/
structure Saved (w : Watched) : Prop where
  inv : w.Inv
  right : w.Right
  saved : w.mFilter = w.lastChosen

theorem Saved.current (h : w.Saved) (hflat : w.mIsFlatDown = false) :
    w.currentInterruptionFilter = w.lastChosen := by
  have hright := h.right
  have hmuted : w.muted = false := Bool.eq_false_iff.mpr fun hmuted =>
    Bool.false_ne_true (hflat.symm.trans (h.inv hmuted).2)
  rwa [Right, hmuted, if_neg Bool.false_ne_true] at hright

theorem Saved.orderly (h : w.Saved) {e : FlipToMute.Event} (hcalm : w.Calm e) : w.Orderly e := by
  cases e with
  | flatDown detected => exact fun _ _ => h.saved
  | stow detected => exact fun _ _ => h.saved
  | chosen filter =>
    intro hmuted
    exact absurd (hcalm.2.1.symm.trans (h.inv hmuted).2) Bool.false_ne_true
  | broadcast => trivial
  | updateState isFlipToMuteEnabled =>
    intro hdisabled hmuted
    exact absurd ((hcalm hdisabled).symm.trans hmuted) Bool.false_ne_true

theorem Saved.step_mFilter (h : w.Saved) {e : FlipToMute.Event} (hcalm : w.Calm e) :
    (w.step e).mFilter = (w.step e).lastChosen := by
  cases e with
  | flatDown detected =>
    simp only [step, FlipToMute.step]
    split_ifs
    · exact (FlipToMute.sensorChange_mFilter _).trans h.saved
    · exact h.saved
  | stow detected =>
    simp only [step, FlipToMute.step]
    split_ifs
    · exact (FlipToMute.sensorChange_mFilter _).trans h.saved
    · exact h.saved
  | chosen filter =>
    obtain ⟨henabled, hflat, hstowed⟩ := hcalm
    exact FlipToMute.chooseFilter_mFilter henabled hflat hstowed
      (h.saved.trans (h.current hflat).symm)
  | broadcast =>
    simp only [step, FlipToMute.step]
    split_ifs
    · exact h.saved
    · change w.onReceive.mFilter = w.lastChosen
      rw [FlipToMute.onReceive_mFilter]
      split_ifs with hneither
      · exact h.current (by simpa using ((Bool.and_eq_true _ _).mp hneither).1)
      · exact h.saved
  | updateState isFlipToMuteEnabled =>
    change (w.updateState isFlipToMuteEnabled).mFilter = w.lastChosen
    rw [FlipToMute.updateState]
    split_ifs <;> exact h.saved

theorem Saved.step (h : w.Saved) {e : FlipToMute.Event} (hcalm : w.Calm e) : (w.step e).Saved :=
  ⟨h.inv.step e, (right_step_iff h.right e).mpr (h.orderly hcalm), h.step_mFilter hcalm⟩

theorem saved_of_calm (current : InterruptionFilter) (events : List FlipToMute.Event)
    (h : Along step Calm (start current) events) :
    Along step (fun w e => (w.step e).Saved) (start current) events :=
  along_mono Saved (fun _ _ hsaved hcalm => hsaved.step hcalm)
    (fun _ _ hsaved hcalm => hsaved.step hcalm) ⟨inv_start current, rfl, rfl⟩ events h

/-- Nothing is put back when the gesture is disabled while it mutes. -/
theorem disabled_while_muted :
    ¬ Along step (fun w e => (w.step e).Right) (start INTERRUPTION_FILTER_ALL)
      [.updateState true, .stow true, .flatDown true, .updateState false] := by
  intro h
  obtain ⟨-, -, -, hlast, -⟩ := h
  have hright : Right _ := hlast
  exact absurd hright (by decide)

end Watched
end Cedric.LineageActions
