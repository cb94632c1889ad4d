import Cedric.LineageActions.LiftToSilence

/-!
# The listeners of a ringing phone

`ProximitySilencer` and `LiftToSilence` register their sensor listeners while the phone
rings, and hear of call states only while their setting is on. What both do is stated of a
`RingingListener`, and a `Subscription` runs one beside its setting.
-/

namespace Cedric.LineageActions

open CallState Runs

/-- A phone state listener, and whether each of its sensor listeners is registered. -/
structure RingingListener (σ : Type) where
  onCallStateChanged : σ → CallState → ℤ → σ
  mIsRinging : σ → Bool
  registered : σ → List Bool

def proximitySilencer : RingingListener ProximitySilencer where
  onCallStateChanged := ProximitySilencer.onCallStateChanged
  mIsRinging := ProximitySilencer.mIsRinging
  registered s := [s.registered]

def liftToSilence : RingingListener LiftToSilence where
  onCallStateChanged s state _ := s.onCallStateChanged state
  mIsRinging := LiftToSilence.mIsRinging
  registered s := [s.flatUpRegistered, s.stowRegistered]

namespace RingingListener

variable {σ : Type}

def Together (f : RingingListener σ) (s : σ) : Prop := ∀ r ∈ f.registered s, r = f.mIsRinging s

structure Lawful (f : RingingListener σ) : Prop where
  ringing : ∀ s state now,
    f.mIsRinging (f.onCallStateChanged s state now) = true ↔ state = CALL_STATE_RINGING
  together : ∀ s state now, f.Together s → f.Together (f.onCallStateChanged s state now)
  registers : ∀ s, f.registered s ≠ []

end RingingListener

theorem proximitySilencer_lawful : proximitySilencer.Lawful where
  ringing _ _ _ := ringingChange_ringing (r := ProximitySilencer.mIsRinging) rfl rfl rfl
  together _ _ _ h :=
    ringingChange_ind (P := proximitySilencer.Together) (List.forall_mem_singleton.mpr rfl)
      (List.forall_mem_singleton.mpr rfl) h
  registers _ := List.cons_ne_nil _ _

theorem liftToSilence_lawful : liftToSilence.Lawful where
  ringing _ _ _ := ringingChange_ringing (r := LiftToSilence.mIsRinging) rfl rfl rfl
  together _ _ _ h := by
    have hboth : ∀ ringing kept stowed, liftToSilence.Together ⟨ringing, stowed, kept, ringing,
        ringing⟩ := fun _ _ _ => List.forall_mem_cons.mpr ⟨rfl, List.forall_mem_singleton.mpr rfl⟩
    exact ringingChange_ind (P := liftToSilence.Together) (hboth _ _ _) (hboth _ _ _) h
  registers _ := List.cons_ne_nil _ _

/-- A listener with its setting, what it last asked `TelephonyManager.listen` for, and the call
state last delivered to it. -/
structure Subscription (σ : Type) where
  listener : σ
  enabled : Bool
  listening : Bool
  delivered : Option CallState

namespace Subscription

variable {σ : Type} (f : RingingListener σ) (a : Subscription σ)

def updateState (enabled : Bool) : Subscription σ :=
  { a with enabled := enabled, listening := enabled }

def callState (state : CallState) (now : ℤ) : Subscription σ :=
  if a.listening then
    { a with listener := f.onCallStateChanged a.listener state now, delivered := some state }
  else a

/-- Nothing is registered while the feature is disabled, and while it is enabled what is
registered follows the call state last delivered. -/
def Right : Prop := ∀ r ∈ f.registered a.listener,
  (r = true → a.enabled = true) ∧
    (a.enabled = true → ∀ state, a.delivered = some state → (r = true ↔ state = CALL_STATE_RINGING))

structure Inv : Prop where
  listening : a.listening = a.enabled
  together : f.Together a.listener
  ringing : f.mIsRinging a.listener = true ↔ a.delivered = some CALL_STATE_RINGING
  right : a.Right f

variable {f a}

theorem right_of_enabled (htogether : f.Together a.listener)
    (hringing : f.mIsRinging a.listener = true ↔ a.delivered = some CALL_STATE_RINGING)
    (henabled : a.enabled = true) : a.Right f := by
  intro r hr
  rw [htogether r hr]
  refine ⟨fun _ => henabled, fun _ state hstate => ?_⟩
  rw [hringing, hstate]
  exact Option.some_inj

theorem right_iff_of_disabled (hf : f.Lawful) (htogether : f.Together a.listener)
    (henabled : a.enabled = false) : a.Right f ↔ f.mIsRinging a.listener = false := by
  constructor
  · intro hright
    obtain ⟨r, hr⟩ := List.exists_mem_of_ne_nil _ (hf.registers a.listener)
    rw [← htogether r hr]
    refine Bool.eq_false_iff.mpr fun hon => ?_
    exact Bool.false_ne_true (henabled.symm.trans ((hright r hr).1 hon))
  · intro hquiet r hr
    rw [htogether r hr, hquiet]
    exact ⟨nofun, fun hon => absurd (henabled.symm.trans hon) Bool.false_ne_true⟩

theorem updateState_right_iff (h : a.Inv f) (hf : f.Lawful) (enabled : Bool) :
    (a.updateState enabled).Right f ↔ (enabled = false → f.mIsRinging a.listener = false) := by
  cases enabled with
  | true => exact iff_of_true (right_of_enabled h.together h.ringing rfl) nofun
  | false =>
    have hdisabled := right_iff_of_disabled (a := a.updateState false) hf h.together rfl
    exact hdisabled.trans ⟨fun hquiet _ => hquiet, fun hquiet => hquiet rfl⟩

theorem Inv.updateState (h : a.Inv f) {enabled : Bool} (hright : (a.updateState enabled).Right f) :
    (a.updateState enabled).Inv f := ⟨rfl, h.together, h.ringing, hright⟩

theorem Inv.callState (h : a.Inv f) (hf : f.Lawful) (state : CallState) (now : ℤ) :
    (a.callState f state now).Inv f := by
  rw [Subscription.callState]
  split_ifs with hlistening
  · have htogether := hf.together a.listener state now h.together
    have hringing := (hf.ringing a.listener state now).trans
      (Option.some_inj (a := state) (b := CALL_STATE_RINGING)).symm
    exact ⟨h.listening, htogether, hringing,
      right_of_enabled htogether hringing (h.listening.symm.trans hlistening)⟩
  · exact h

end Subscription

structure RingingListeners where
  silencer : Subscription ProximitySilencer
  lift : Subscription LiftToSilence

namespace RingingListeners

def start : RingingListeners where
  silencer := ⟨.start, false, false, none⟩
  lift := ⟨.start, false, false, none⟩

/-- `updateState` comes with the settings it finds. -/
inductive Event
  | updateState (isIrSilencerEnabled isLiftToSilenceEnabled : Bool)
  | callState (state : CallState) (now : ℤ)

variable (w : RingingListeners)

def step : Event → RingingListeners
  | .updateState isIrSilencerEnabled isLiftToSilenceEnabled =>
    ⟨w.silencer.updateState isIrSilencerEnabled, w.lift.updateState isLiftToSilenceEnabled⟩
  | .callState state now =>
    ⟨w.silencer.callState proximitySilencer state now, w.lift.callState liftToSilence state now⟩

def Right : Prop := w.silencer.Right proximitySilencer ∧ w.lift.Right liftToSilence

/-- A feature is turned off only while its listener is not ringing. -/
def Orderly : Event → Prop
  | .updateState isIrSilencerEnabled isLiftToSilenceEnabled =>
    (isIrSilencerEnabled = false → w.silencer.listener.mIsRinging = false) ∧
      (isLiftToSilenceEnabled = false → w.lift.listener.mIsRinging = false)
  | .callState _ _ => True

structure Inv : Prop where
  silencer : w.silencer.Inv proximitySilencer
  lift : w.lift.Inv liftToSilence

variable {w}

theorem inv_start : start.Inv where
  silencer := by
    have htogether : proximitySilencer.Together .start := List.forall_mem_singleton.mpr rfl
    exact ⟨rfl, htogether, iff_of_false nofun nofun,
      (Subscription.right_iff_of_disabled proximitySilencer_lawful htogether rfl).mpr rfl⟩
  lift := by
    have htogether : liftToSilence.Together .start :=
      List.forall_mem_cons.mpr ⟨rfl, List.forall_mem_singleton.mpr rfl⟩
    exact ⟨rfl, htogether, iff_of_false nofun nofun,
      (Subscription.right_iff_of_disabled liftToSilence_lawful htogether rfl).mpr rfl⟩

theorem Inv.right (h : w.Inv) : w.Right := ⟨h.silencer.right, h.lift.right⟩

theorem right_step_iff (h : w.Inv) (e : Event) : (w.step e).Right ↔ w.Orderly e := by
  cases e with
  | updateState isIrSilencerEnabled isLiftToSilenceEnabled =>
    exact and_congr (Subscription.updateState_right_iff h.silencer proximitySilencer_lawful _)
      (Subscription.updateState_right_iff h.lift liftToSilence_lawful _)
  | callState state now =>
    have hafter : (w.step (.callState state now)).Inv :=
      ⟨h.silencer.callState proximitySilencer_lawful state now,
        h.lift.callState liftToSilence_lawful state now⟩
    exact iff_of_true hafter.right trivial

theorem Inv.step (h : w.Inv) (e : Event) (hright : (w.step e).Right) : (w.step e).Inv := by
  cases e with
  | updateState isIrSilencerEnabled isLiftToSilenceEnabled =>
    exact ⟨h.silencer.updateState hright.1, h.lift.updateState hright.2⟩
  | callState state now =>
    exact ⟨h.silencer.callState proximitySilencer_lawful state now,
      h.lift.callState liftToSilence_lawful state now⟩

/-- No listener leaks exactly along the runs in which a feature is turned off only while its
listener is not ringing. -/
theorem no_leak_iff (events : List Event) :
    Along step (fun w e => (w.step e).Right) start events ↔ Along step Orderly start events :=
  along_congr Inv (fun _ e h => right_step_iff h e) (fun _ e h => h.step e) inv_start events

def turnedOff : List Event :=
  [.updateState true true, .callState CALL_STATE_RINGING 0, .updateState false false]

theorem turnedOff_leaks : ¬ Along step (fun w e => (w.step e).Right) start turnedOff := by
  intro h
  obtain ⟨-, -, ⟨hsilencer, -⟩, -⟩ := h
  have henabled := (hsilencer true List.mem_cons_self).1 rfl
  exact Bool.false_ne_true henabled

end RingingListeners
end Cedric.LineageActions
