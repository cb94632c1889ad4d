import Cedric.Lib.Freshness
import Cedric.Lib.Runs
import Mathlib.Data.Int.Notation
import Mathlib.Tactic.SplitIfs

/-!
# `ProximitySilencer`

While the phone rings a far event silences it, if the sensor was covered late enough
before. `ProximityRings` runs the silencer beside the ring it is in: when it
started and the proximity events since.
-/

namespace Cedric.LineageActions

open Freshness Runs

inductive CallState
  | CALL_STATE_IDLE | CALL_STATE_RINGING | CALL_STATE_OFFHOOK
  deriving DecidableEq

open CallState

def ringingChange {σ : Type} (mIsRinging : Bool) (state : CallState) (started stopped s : σ) : σ :=
  if state = CALL_STATE_RINGING ∧ mIsRinging = false then started
  else if state ≠ CALL_STATE_RINGING ∧ mIsRinging = true then stopped
  else s

section

variable {σ : Type} {mIsRinging : Bool} {state : CallState} {started stopped s : σ}

theorem ringingChange_ind {P : σ → Prop} (hstarted : P started) (hstopped : P stopped) (hs : P s) :
    P (ringingChange mIsRinging state started stopped s) := by
  rw [ringingChange]
  split_ifs
  · exact hstarted
  · exact hstopped
  · exact hs

theorem ringingChange_ringing {r : σ → Bool} (hstarted : r started = true)
    (hstopped : r stopped = false) (hs : r s = mIsRinging) :
    r (ringingChange mIsRinging state started stopped s) = true ↔ state = CALL_STATE_RINGING := by
  subst hs
  rw [ringingChange]
  split_ifs with hnew hend
  · exact iff_of_true hstarted hnew.1
  · exact iff_of_false (Bool.eq_false_iff.mp hstopped) hend.1
  · by_cases hstate : state = CALL_STATE_RINGING
    · exact iff_of_true (Bool.not_eq_false _ ▸ fun hoff => hnew ⟨hstate, hoff⟩) hstate
    · exact iff_of_false (fun hon => hend ⟨hstate, hon⟩) hstate

end

def SILENCE_DELAY_MS : ℤ := 500

/-- `registered`: the sensor listener is. -/
structure ProximitySilencer where
  mIsRinging : Bool
  mRingStartedMs : ℤ
  mCoveredRinging : Bool
  registered : Bool
  deriving DecidableEq

namespace ProximitySilencer

def start : ProximitySilencer := ⟨false, 0, false, false⟩

variable (s : ProximitySilencer)

/-- The second result tells whether `silenceRinger` is called. -/
def onSensorChanged (isNear : Bool) (now : ℤ) : ProximitySilencer × Bool :=
  if isNear then
    if s.mIsRinging = true ∧ now - s.mRingStartedMs ≥ SILENCE_DELAY_MS then
      ({ s with mCoveredRinging := true }, false)
    else ({ s with mCoveredRinging := false }, false)
  else if s.mIsRinging then ({ s with mCoveredRinging := false }, s.mCoveredRinging)
  else (s, false)

def onCallStateChanged (state : CallState) (now : ℤ) : ProximitySilencer :=
  ringingChange s.mIsRinging state
    { s with registered := true, mIsRinging := true, mRingStartedMs := now }
    { s with registered := false, mIsRinging := false } s

/-- The events, with the time of the call; `isNear`: `values[0]` is below `getMaximumRange()`. -/
inductive Event
  | proximity (isNear : Bool) (now : ℤ)
  | callState (state : CallState) (now : ℤ)

def step : Event → ProximitySilencer
  | .proximity isNear now => (s.onSensorChanged isNear now).1
  | .callState state now => s.onCallStateChanged state now

def silencesRinger : Event → Bool
  | .proximity isNear now => (s.onSensorChanged isNear now).2
  | .callState _ _ => false

end ProximitySilencer

/-- A ring; the last proximity event comes first. -/
structure Ring where
  started : ℤ
  readings : List (Bool × ℤ)

namespace Ring

/-- A near event was late enough in the ring, and no far event came after it. -/
def Covered (r : Ring) : Prop :=
  ∃ since t before, r.readings = since ++ (true, t) :: before ∧
    (∀ reading ∈ since, reading.1 = true) ∧ t - r.started ≥ SILENCE_DELAY_MS

def latest (r : Ring) : Option Bool :=
  r.readings.head?.map fun reading =>
    reading.1 && decide (reading.2 - r.started ≥ SILENCE_DELAY_MS)

def report (r : Ring) (isNear : Bool) (now : ℤ) : Ring :=
  { r with readings := (isNear, now) :: r.readings }

variable {r : Ring}

theorem latest_eq_none : r.latest = none ↔ r.readings = [] := by
  rw [latest, Option.map_eq_none_iff, List.head?_eq_none_iff]

theorem not_covered (h : r.readings = []) : ¬ r.Covered := by
  rintro ⟨since, t, before, hreadings, -⟩
  rw [h] at hreadings
  exact List.append_ne_nil_of_right_ne_nil since (List.cons_ne_nil _ _) hreadings.symm

theorem covered_of_latest (h : r.latest = some true) : r.Covered := by
  obtain ⟨reading, hhead, hlate⟩ := Option.map_eq_some_iff.mp h
  obtain ⟨hnear, hlate⟩ := (Bool.and_eq_true _ _).mp hlate
  obtain ⟨isNear, t⟩ := reading
  obtain ⟨before, hreadings⟩ := List.head?_eq_some_iff.mp hhead
  subst hnear
  exact ⟨[], t, before, hreadings, nofun, of_decide_eq_true hlate⟩

end Ring

structure ProximityRings extends ProximitySilencer where
  ring : Option Ring

namespace ProximityRings

def start : ProximityRings := ⟨.start, none⟩

/-- A ring lasts from its first ringing state to the next other state. -/
def ringAfter (ring : Option Ring) : ProximitySilencer.Event → Option Ring
  | .proximity isNear now => ring.map fun r => r.report isNear now
  | .callState CALL_STATE_RINGING now => some (ring.getD ⟨now, []⟩)
  | .callState _ _ => none

def step (w : ProximityRings) (e : ProximitySilencer.Event) : ProximityRings :=
  ⟨w.toProximitySilencer.step e, ringAfter w.ring e⟩

/-- The ringer is silenced only on a far event that uncovers the sensor in a ring. -/
def Right (w : ProximityRings) (e : ProximitySilencer.Event) : Prop :=
  w.silencesRinger e = true →
    (∃ now, e = .proximity false now) ∧ ∃ r, w.ring = some r ∧ r.Covered

/-- A far event that is the first of its ring finds nothing covered. -/
def Orderly (w : ProximityRings) : ProximitySilencer.Event → Prop
  | .proximity false _ => ∀ r, w.ring = some r → r.readings = [] → w.mCoveredRinging = false
  | _ => True

structure Inv (w : ProximityRings) : Prop where
  ringing : w.mIsRinging = w.ring.isSome
  started : ∀ r, w.ring = some r → w.mRingStartedMs = r.started
  kept : ∀ r, w.ring = some r → (Kept.mk w.mCoveredRinging r.latest).Agrees

variable {w : ProximityRings}

theorem inv_start : start.Inv := ⟨rfl, nofun, nofun⟩

theorem Inv.proximity (h : w.Inv) (isNear : Bool) (now : ℤ) :
    (w.step (.proximity isNear now)).Inv := by
  obtain ⟨hringing, hstarted, hkept⟩ := h
  simp only [step, ProximitySilencer.step, ProximitySilencer.onSensorChanged, ringAfter]
  cases hring : w.ring with
  | none =>
    rw [hring] at hringing
    split_ifs <;> exact ⟨hringing, nofun, nofun⟩
  | some r =>
    rw [hring] at hringing
    have hstart := hstarted r hring
    have hreported : ∀ covered, covered = (isNear && decide (now - r.started ≥ SILENCE_DELAY_MS)) →
        Inv ⟨{ w.toProximitySilencer with mCoveredRinging := covered },
          some (r.report isNear now)⟩ := by
      intro covered hcovered
      refine ⟨hringing, ?_, ?_⟩
      · rintro _ ⟨⟩
        exact hstart
      · rintro _ ⟨⟩
        rw [hcovered]
        exact Kept.agrees_report _
    rw [Option.map_some]
    split_ifs with hnear hlate hring'
    · refine hreported true ?_
      rw [hnear, ← hstart, decide_eq_true hlate.2]
      rfl
    · refine hreported false ?_
      have hearly : ¬ now - r.started ≥ SILENCE_DELAY_MS := by
        rw [← hstart]
        exact fun hlate' => hlate ⟨hringing, hlate'⟩
      rw [hnear, decide_eq_false hearly]
      rfl
    · refine hreported false ?_
      rw [Bool.eq_false_iff.mpr hnear, Bool.false_and]
    · exact absurd hringing hring'

theorem Inv.callState (h : w.Inv) (state : CallState) (now : ℤ) :
    (w.step (.callState state now)).Inv := by
  obtain ⟨hringing, hstarted, hkept⟩ := h
  simp only [step, ProximitySilencer.step, ProximitySilencer.onCallStateChanged, ringingChange]
  by_cases hstate : state = CALL_STATE_RINGING
  · subst hstate
    cases hring : w.ring with
    | none =>
      rw [hring] at hringing
      rw [if_pos ⟨rfl, hringing⟩]
      refine ⟨rfl, ?_, ?_⟩
      · rintro _ ⟨⟩
        rfl
      · rintro _ ⟨⟩
        exact Kept.agrees_renew _
    | some r =>
      rw [hring] at hringing
      rw [if_neg fun hnew => Bool.false_ne_true (hnew.2.symm.trans hringing),
        if_neg fun hend => hend.1 rfl]
      exact ⟨hringing, fun q hq => hstarted q (hring.trans hq), fun q hq => hkept q (hring.trans hq)⟩
  · have hafter : ringAfter w.ring (.callState state now) = none := by
      cases state with
      | CALL_STATE_RINGING => exact absurd rfl hstate
      | CALL_STATE_IDLE => rfl
      | CALL_STATE_OFFHOOK => rfl
    rw [hafter, if_neg fun hnew => hstate hnew.1]
    split_ifs with hend
    · exact ⟨rfl, nofun, nofun⟩
    · exact ⟨Bool.eq_false_iff.mpr fun hon => hend ⟨hstate, hon⟩, nofun, nofun⟩

theorem Inv.step (h : w.Inv) (e : ProximitySilencer.Event) : (w.step e).Inv := by
  cases e with
  | proximity isNear now => exact h.proximity isNear now
  | callState state now => exact h.callState state now

theorem right_iff_orderly (h : w.Inv) (e : ProximitySilencer.Event) : w.Right e ↔ w.Orderly e := by
  match e with
  | .callState state now => exact iff_of_true nofun trivial
  | .proximity true now =>
    refine iff_of_true (fun hsilences => ?_) trivial
    simp only [ProximitySilencer.silencesRinger, ProximitySilencer.onSensorChanged, if_true]
      at hsilences
    split_ifs at hsilences
  | .proximity false now =>
    obtain ⟨hringing, -, hkept⟩ := h
    simp only [Right, Orderly, ProximitySilencer.silencesRinger, ProximitySilencer.onSensorChanged,
      Bool.false_eq_true, if_false]
    cases hring : w.ring with
    | none =>
      rw [hring] at hringing
      rw [if_neg (Bool.eq_false_iff.mp hringing)]
      exact iff_of_true nofun nofun
    | some r =>
      have hon : w.mIsRinging = true := by rw [hringing, hring, Option.isSome_some]
      have hjustified := (hkept r hring).justified_iff (p := (· = true))
      rw [if_pos hon]
      simp only [Option.some.injEq, forall_eq', exists_eq_left']
      constructor
      · intro hright hnone
        have huncovered : ¬ r.Covered := Ring.not_covered hnone
        exact Bool.eq_false_iff.mpr fun hcovered => huncovered (hright hcovered).2
      · intro horderly hcovered
        obtain ⟨covered, hlatest, rfl⟩ := hjustified.mpr
          (fun hnone => Bool.eq_false_iff.mp (horderly (Ring.latest_eq_none.mp hnone))) hcovered
        exact ⟨⟨now, rfl⟩, Ring.covered_of_latest hlatest⟩

/-- The ringer is silenced only as it should exactly along the runs in which every far event that
is the first of its ring finds nothing covered. -/
theorem rings_apart_iff (events : List ProximitySilencer.Event) :
    Along step Right start events ↔ Along step Orderly start events :=
  along_congr Inv (fun _ e h => right_iff_orderly h e) (fun _ e h _ => h.step e) inv_start events

/-- The second call is silenced by the first far event, for the near one of the first call. -/
def carriedOver : List ProximitySilencer.Event :=
  [.callState CALL_STATE_RINGING 0, .proximity true 600, .callState CALL_STATE_IDLE 1000,
    .callState CALL_STATE_RINGING 5000, .proximity false 5001]

theorem carriedOver_silenced : ¬ Along step Right start carriedOver := by
  intro h
  obtain ⟨-, -, -, -, hlast, -⟩ := h
  obtain ⟨-, r, hring, hcovered⟩ := hlast (by decide)
  refine Ring.not_covered ?_ hcovered
  rw [← Option.some.inj hring]
  rfl

end ProximityRings
end Cedric.LineageActions
