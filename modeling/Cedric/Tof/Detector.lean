import Cedric.Lib.Debounce
import Cedric.Tof.RearProxSensor

/-!
# The detector of the time-of-flight sensor

The members that `handleSARprocess` weighs with are those of a debounced detector
of the distances brought so far. A distance that comes after a time stamp waits
for its sync to be weighed; the detector counts it already.
-/

namespace Cedric.Tof

open Hub Debounce

def side (distance : ℕ) : Side := if distance = DETECT_DISTANCE_CLOSE then .near else .far

def onSide : Side → ℤ → Bool
  | .near, d => decide (d ≤ DETECT_DEFAULT_LOW_THRESHOLD_MM)
  | .far, d => decide (d ≥ DETECT_DEFAULT_HIGH_THRESHOLD_MM)

namespace RearProxSensor

variable (O : Sysfs) (s : RearProxSensor)

def Switches (distance : ℤ) : Prop :=
  (s.weigh distance).mDetectWeight ≥ DETECT_WEIGHT_CEILING ∧
    s.mDetectMode ≠ (s.weigh distance).wantedMode

/-- The configuration opens if the distance changes the crossing. -/
def Opens (distance : ℤ) : Prop :=
  s.Switches distance →
    O ((.enableSar MODE_SAR_OFF, O s.log (.enableSar MODE_SAR_OFF)) :: s.log)
      (s.autonomousConfig (s.weigh distance).wantedMode) = true

/-- The side whose crossing is behind the sensor. -/
def announced : Side := if s.mDetectMode = DETECT_MODE_CROSS_HIGH then .near else .far

def settled (waits : Bool) : RearProxSensor := if waits then s.weigh s.mCurrentDistance else s

def Counted : Prop :=
  s.mDetectDistance = DETECT_DISTANCE_CLOSE ∨ s.mDetectDistance = DETECT_DISTANCE_FAR

def value : Side → ℕ
  | .near => DETECT_DISTANCE_CLOSE
  | .far => DETECT_DISTANCE_FAR

def modeOf : Side → ℕ
  | .near => DETECT_MODE_CROSS_HIGH
  | .far => DETECT_MODE_CROSS_LOW

variable {O s} {t : RearProxSensor} {marks : List (Mark ℤ)} {a c : Side} {d : ℤ} {waits : Bool}

theorem side_value (c : Side) : side (value c) = c := by
  cases c <;> rfl

theorem value_cases (c : Side) :
    value c = DETECT_DISTANCE_CLOSE ∨ value c = DETECT_DISTANCE_FAR := by
  cases c
  · exact Or.inl rfl
  · exact Or.inr rfl

theorem Counted.eq_value (h : s.Counted) : s.mDetectDistance = value (side s.mDetectDistance) := by
  rcases h with h | h <;> rw [h] <;> rfl

theorem modeOf_ne_iff (a c : Side) : modeOf a ≠ modeOf c ↔ c ≠ a := by
  cases a <;> cases c <;> decide

theorem announced_of_mode (h : s.mDetectMode = modeOf a) : s.announced = a := by
  rw [announced, h]
  cases a <;> rfl

theorem Counted.wantedMode_eq (h : s.Counted) : s.wantedMode = modeOf (side s.mDetectDistance) := by
  rcases h with h | h <;> rw [wantedMode, h] <;> rfl

theorem other_of_ne (h : c ≠ a) : c = a.other := by
  cases a <;> cases c <;> trivial

theorem not_both (c : Side) (d : ℤ) (h : onSide c d = true) : onSide c.other d = false := by
  have hgap : DETECT_DEFAULT_LOW_THRESHOLD_MM < DETECT_DEFAULT_HIGH_THRESHOLD_MM := by decide
  cases c with
  | near =>
    have hlow : d ≤ DETECT_DEFAULT_LOW_THRESHOLD_MM := of_decide_eq_true h
    exact decide_eq_false (by omega)
  | far =>
    have hhigh : d ≥ DETECT_DEFAULT_HIGH_THRESHOLD_MM := of_decide_eq_true h
    exact decide_eq_false (by omega)

theorem weigh_cases (h : s.mDetectDistance = value c) (d : ℤ) :
    (onSide c d = true ∧
        s.weigh d = { s with mDetectWeight := (s.mDetectWeight + 1) % 2 ^ 32 }) ∨
      (onSide c.other d = true ∧
        s.weigh d = { s with mDetectDistance := value c.other, mDetectWeight := 1 }) ∨
      (onSide c d = false ∧ onSide c.other d = false ∧ s.weigh d = s) := by
  rw [weigh]
  cases c with
  | near =>
    have hnotFar : s.mDetectDistance ≠ DETECT_DISTANCE_FAR := by rw [h]; decide
    have hclose : s.mDetectDistance = DETECT_DISTANCE_CLOSE := h
    split_ifs with hlow hhigh
    · exact Or.inl ⟨decide_eq_true hlow, rfl⟩
    · exact Or.inr (Or.inl ⟨decide_eq_true hhigh, rfl⟩)
    · exact Or.inr (Or.inr ⟨decide_eq_false hlow, decide_eq_false hhigh, rfl⟩)
  | far =>
    have hfar : s.mDetectDistance = DETECT_DISTANCE_FAR := h
    have hnotClose : s.mDetectDistance ≠ DETECT_DISTANCE_CLOSE := by rw [h]; decide
    split_ifs with hlow hhigh
    · exact Or.inr (Or.inl ⟨decide_eq_true hlow, rfl⟩)
    · exact Or.inl ⟨decide_eq_true hhigh, rfl⟩
    · exact Or.inr (Or.inr ⟨decide_eq_false hhigh, decide_eq_false hlow, rfl⟩)

theorem weigh_frame (s : RearProxSensor) (d : ℤ) :
    ∃ distance weight,
      s.weigh d = { s with mDetectDistance := distance, mDetectWeight := weight } := by
  rw [weigh]
  split_ifs
  all_goals exact ⟨_, _, rfl⟩

theorem weigh_congr (hdistance : t.mDetectDistance = s.mDetectDistance)
    (hweight : t.mDetectWeight = s.mDetectWeight) (d : ℤ) :
    (t.weigh d).mDetectDistance = (s.weigh d).mDetectDistance ∧
      (t.weigh d).mDetectWeight = (s.weigh d).mDetectWeight := by
  simp only [RearProxSensor.weigh, hdistance]
  split_ifs <;> exact ⟨by simp only [hdistance], by simp only [hweight]⟩

theorem Counted.weigh (h : s.Counted) (d : ℤ) : (s.weigh d).Counted := by
  rcases weigh_cases h.eq_value d with ⟨-, hweigh⟩ | ⟨-, hweigh⟩ | ⟨-, -, hweigh⟩
  · rw [hweigh]
    exact h
  · rw [hweigh]
    exact value_cases _
  · rw [hweigh]
    exact h

theorem side_weigh (h : s.Counted) (d : ℤ) :
    side (s.weigh d).mDetectDistance = side s.mDetectDistance ∨
      onSide (side (s.weigh d).mDetectDistance) d = true := by
  rcases weigh_cases h.eq_value d with ⟨-, hweigh⟩ | ⟨hon, hweigh⟩ | ⟨-, -, hweigh⟩
  · exact Or.inl (by rw [hweigh])
  · right
    rw [hweigh, side_value]
    exact hon
  · exact Or.inl (by rw [hweigh])

theorem side_weigh_of_on (h : s.Counted) (hon : onSide c d = true) :
    side (s.weigh d).mDetectDistance = c := by
  rcases weigh_cases h.eq_value d with ⟨hon', hweigh⟩ | ⟨hon', hweigh⟩ | ⟨hoff, hoff', -⟩
  · rw [hweigh]
    by_contra hne
    rw [other_of_ne hne] at hon'
    exact Bool.false_ne_true ((not_both c d hon).symm.trans hon')
  · rw [hweigh, side_value]
    by_contra hne
    rw [other_of_ne hne] at hon'
    exact Bool.false_ne_true ((not_both c d hon).symm.trans hon')
  · by_cases hc : c = side s.mDetectDistance
    · rw [← hc] at hoff
      exact absurd (hoff.symm.trans hon) Bool.false_ne_true
    · rw [← other_of_ne hc] at hoff'
      exact absurd (hoff'.symm.trans hon) Bool.false_ne_true

theorem weigh_pos (h : s.Counted) (hon : onSide c d = true)
    (hbelow : side s.mDetectDistance ≠ c.other → s.mDetectWeight < DETECT_WEIGHT_CEILING) :
    1 ≤ (s.weigh d).mDetectWeight := by
  have hside := side_weigh_of_on h hon
  rcases weigh_cases h.eq_value d with ⟨hon', hweigh⟩ | ⟨-, hweigh⟩ | ⟨hoff, -, hweigh⟩
  · rw [hweigh] at hside ⊢
    have hless : s.mDetectWeight < 2 := hbelow (by rw [hside]; cases c <;> decide)
    change 1 ≤ (s.mDetectWeight + 1) % 2 ^ 32
    omega
  · rw [hweigh]
  · rw [hweigh] at hside
    rw [hside] at hoff
    exact absurd (hoff.symm.trans hon) Bool.false_ne_true

theorem evidence_weigh (h : s.Counted)
    (hold : side (s.weigh d).mDetectDistance = side s.mDetectDistance →
      Evidence onSide s.mDetectWeight (side s.mDetectDistance) marks) :
    Evidence onSide (s.weigh d).mDetectWeight (side (s.weigh d).mDetectDistance)
      (marks ++ [.sample d]) := by
  rcases weigh_cases h.eq_value d with ⟨hon, hweigh⟩ | ⟨hon, hweigh⟩ | ⟨hoff, hoff', hweigh⟩
  · rw [hweigh] at hold ⊢
    have hmore := (hold rfl).sample (not_both _ d hon)
    rw [if_pos hon] at hmore
    exact hmore.mono (Nat.mod_le _ _)
  · rw [hweigh, side_value]
    exact evidence_first hon (not_both _ d hon)
  · rw [hweigh] at hold ⊢
    have hkeep := (hold rfl).sample hoff'
    rwa [if_neg (by rw [hoff]; exact Bool.false_ne_true)] at hkeep

theorem wantedMode_valid (s : RearProxSensor) :
    ¬ (s.wantedMode ≠ DETECT_MODE_CROSS_HIGH ∧ s.wantedMode ≠ DETECT_MODE_CROSS_LOW) := by
  rw [wantedMode]
  split_ifs
  · exact fun h => h.1 rfl
  · exact fun h => h.2 rfl

theorem enableSAR_snd (O : Sysfs) (s : RearProxSensor) (enable : Char) :
    (s.enableSAR O enable).2 =
      { s with log := (.enableSar enable, O s.log (.enableSar enable)) :: s.log } := rfl

theorem setSARConfig_snd (O : Sysfs) (s : RearProxSensor) {mode : ℕ}
    (hmode : ¬ (mode ≠ DETECT_MODE_CROSS_HIGH ∧ mode ≠ DETECT_MODE_CROSS_LOW)) :
    (s.setSARConfig O mode).2 = { s with
      mDetectMode := if O s.log (s.autonomousConfig mode) = true then mode else s.mDetectMode
      log := (s.autonomousConfig mode, O s.log (s.autonomousConfig mode)) :: s.log } := by
  rw [setSARConfig, if_neg hmode]
  by_cases hopens : O s.log (s.autonomousConfig mode) = true
  · simp only [openWrite, hopens, ↓reduceIte]
  · simp only [openWrite, hopens, Bool.false_eq_true, ↓reduceIte]

theorem handleSARprocess_cases (O : Sysfs) (s : RearProxSensor) (d : ℤ) :
    (¬ s.Switches d ∧ ∃ pending,
        s.handleSARprocess O d = { s.weigh d with mPendingEvents := pending } ∧
        (pending = s.mPendingEvents ∨ pending.distance = (s.weigh d).mDetectDistance)) ∨
      (s.Switches d ∧ ∃ mode log, s.handleSARprocess O d = { s.weigh d with
          mPendingEvents := ⟨s.mPendingEvents.sensor, (s.weigh d).mDetectDistance⟩
          mDetectMode := mode
          mSendData := true
          log := log } ∧
        (s.Opens O d → mode = (s.weigh d).wantedMode)) := by
  obtain ⟨distance, weight, hweigh⟩ := weigh_frame s d
  rw [handleSARprocess, Opens, Switches, hweigh]
  by_cases hweight : weight ≥ DETECT_WEIGHT_CEILING
  swap
  · exact Or.inl ⟨fun h => hweight h.1, s.mPendingEvents, if_neg hweight, Or.inl rfl⟩
  set t : RearProxSensor := { s with mDetectDistance := distance, mDetectWeight := weight } with ht
  dsimp only
  rw [if_pos hweight]
  by_cases hmode : s.mDetectMode = t.wantedMode
  · refine Or.inl ⟨fun h => h.2 hmode, ⟨s.mPendingEvents.sensor, distance⟩, ?_, Or.inr rfl⟩
    rw [if_neg (not_not.mpr hmode)]
  · refine Or.inr ⟨⟨hweight, hmode⟩, ?_⟩
    rw [if_pos hmode, enableSAR_snd, setSARConfig_snd O _ t.wantedMode_valid, enableSAR_snd]
    refine ⟨_, _, rfl, fun hopens => ?_⟩
    exact if_pos (hopens ⟨hweight, hmode⟩)

/-- The members of the sensor are those of a detector that has seen the marks. -/
structure Detects (s : RearProxSensor) (marks : List (Mark ℤ)) (a : Side) : Prop where
  mode : s.mDetectMode = modeOf a
  kept : Kept onSide DETECT_WEIGHT_CEILING marks a (side s.mDetectDistance) s.mDetectWeight
    s.mSendData
  pending : s.mSendData = true → s.mPendingEvents.distance = value a

/-- The detector counts the distance that may wait, and enough weight has been reported. -/
structure Tracks (s : RearProxSensor) (waits : Bool) (marks : List (Mark ℤ)) (a : Side) :
    Prop where
  settled : Detects (s.settled waits) marks a
  below : side s.mDetectDistance ≠ a → s.mDetectWeight < DETECT_WEIGHT_CEILING

theorem settled_frame (s : RearProxSensor) (waits : Bool) :
    ∃ distance weight,
      s.settled waits = { s with mDetectDistance := distance, mDetectWeight := weight } := by
  cases waits with
  | false => exact ⟨_, _, rfl⟩
  | true => exact weigh_frame s _

theorem Tracks.mode (h : Tracks s waits marks a) : s.mDetectMode = modeOf a := by
  obtain ⟨_, _, hframe⟩ := settled_frame s waits
  have hmode := h.settled.mode
  rwa [hframe] at hmode

theorem Tracks.pending (h : Tracks s waits marks a) (hsend : s.mSendData = true) :
    s.mPendingEvents.distance = value a := by
  obtain ⟨_, _, hframe⟩ := settled_frame s waits
  have hpending := h.settled.pending
  rw [hframe] at hpending
  exact hpending hsend

theorem Tracks.kept (h : Tracks s waits marks a) :
    Kept onSide DETECT_WEIGHT_CEILING marks a (side (s.settled waits).mDetectDistance)
      (s.settled waits).mDetectWeight s.mSendData := by
  obtain ⟨_, _, hframe⟩ := settled_frame s waits
  have hkept := h.settled.kept
  rw [hframe] at hkept ⊢
  exact hkept

theorem Tracks.weigh {marks' : List (Mark ℤ)} (h : Tracks s waits marks a)
    (hkept : ∀ {candidate weight}, Kept onSide DETECT_WEIGHT_CEILING marks a candidate weight
        s.mSendData →
      Kept onSide DETECT_WEIGHT_CEILING marks' a (side (s.weigh d).mDetectDistance)
        (s.weigh d).mDetectWeight s.mSendData) : Detects (s.weigh d) marks' a := by
  obtain ⟨_, _, hframe⟩ := weigh_frame s d
  have hnew := hkept h.kept
  rw [hframe] at hnew ⊢
  exact ⟨h.mode, hnew, h.pending⟩

theorem Tracks.counts (h : Tracks s waits marks a) (hc : s.Counted)
    (hne : side s.mDetectDistance ≠ a)
    (hlost : waits = true → onSide a s.mCurrentDistance = false) :
    s.mSendData = false ∧ Evidence onSide s.mDetectWeight (side s.mDetectDistance) marks := by
  have hkept := h.kept
  cases waits with
  | false => exact hkept.counts hne
  | true =>
    simp only [RearProxSensor.settled, ↓reduceIte] at hkept
    rcases weigh_cases hc.eq_value s.mCurrentDistance with
      ⟨-, hweigh⟩ | ⟨hon, -⟩ | ⟨-, -, hweigh⟩
    · rw [hweigh] at hkept
      obtain ⟨hidle, hevidence⟩ := hkept.counts hne
      have hbelow : s.mDetectWeight < 2 := h.below hne
      have hless : s.mDetectWeight ≤ (s.mDetectWeight + 1) % 2 ^ 32 := by omega
      exact ⟨hidle, hevidence.mono hless⟩
    · rw [← other_of_ne (Ne.symm hne)] at hon
      exact absurd ((hlost rfl).symm.trans hon) Bool.false_ne_true
    · rw [hweigh] at hkept
      exact hkept.counts hne

theorem Tracks.brought (h : Tracks s waits marks a) (hc : s.Counted)
    (hquiet : s.mSendData = true → onSide a.other d = false)
    (hlost : waits = true → onSide a s.mCurrentDistance = true →
      side s.mDetectDistance = a ∨ onSide a d = true) :
    Detects (s.weigh d) (marks ++ [.sample d]) a := by
  refine h.weigh fun hkept => ?_
  by_cases hback : onSide a d = true
  · have hside := side_weigh_of_on hc hback
    exact hkept.sample (fun hp => ⟨hside, hquiet hp⟩) fun hne => absurd hside hne
  by_cases hsame : side s.mDetectDistance = a
  · refine hkept.sample (fun hp => ⟨?_, hquiet hp⟩) fun hne => evidence_weigh hc fun hold => ?_
    · rcases side_weigh hc d with hold | hon
      · exact hold.trans hsame
      · by_contra hne
        rw [other_of_ne hne] at hon
        exact Bool.false_ne_true ((hquiet hp).symm.trans hon)
    · exact absurd (hold.trans hsame) hne
  · have hneither (hw : waits = true) : onSide a s.mCurrentDistance = false :=
      Bool.eq_false_iff.mpr fun hon => (hlost hw hon).elim hsame hback
    obtain ⟨hidle, hevidence⟩ := h.counts hc hsame hneither
    refine hkept.sample (fun hp => absurd (hidle.symm.trans hp) Bool.false_ne_true) fun _ => ?_
    exact evidence_weigh hc fun _ => hevidence

theorem Tracks.wait (h : Tracks s waits marks a) {marks' : List (Mark ℤ)}
    (hweighed : Detects (s.weigh d) marks' a) :
    Tracks { s with mCurrentDistance := d } true marks' a := by
  refine ⟨?_, h.below⟩
  have hcurrent : { s with mCurrentDistance := d }.settled true =
      { s.weigh d with mCurrentDistance := d } := by
    simp only [RearProxSensor.settled, RearProxSensor.weigh, ↓reduceIte]
    split_ifs <;> rfl
  rw [hcurrent]
  exact ⟨hweighed.mode, hweighed.kept, hweighed.pending⟩

theorem Tracks.reweigh (h : Tracks s false marks a) (hc : s.Counted)
    (hother : onSide a.other d = false) : Detects (s.weigh d) marks a := by
  have hcounts := h.settled.kept.counts
  have hstays (hne : side (s.weigh d).mDetectDistance ≠ a) : s.weigh d = s := by
    rcases weigh_cases hc.eq_value d with ⟨hon, hweigh⟩ | ⟨hon, hweigh⟩ | ⟨-, -, hweigh⟩
    · rw [hweigh] at hne
      rw [other_of_ne hne] at hon
      exact absurd (hother.symm.trans hon) Bool.false_ne_true
    · rw [hweigh, side_value] at hne
      rw [other_of_ne hne] at hon
      exact absurd (hother.symm.trans hon) Bool.false_ne_true
    · exact hweigh
  refine h.weigh fun hkept => hkept.recount (fun hp => ?_) fun hne => ?_
  · by_contra hne
    have hsame := hstays hne
    rw [hsame] at hne
    exact Bool.false_ne_true ((hcounts hne).1.symm.trans hp)
  · have hsame := hstays hne
    rw [hsame] at hne ⊢
    exact (hcounts hne).2

theorem Tracks.next (h : Tracks s false marks a) (distance : ℤ) (stamp : Bool) :
    Tracks { s with mCurrentDistance := distance, mTimestampUpdated := stamp } false marks a :=
  ⟨⟨h.settled.mode, h.settled.kept, h.settled.pending⟩, h.below⟩

theorem Detects.cross (h : Detects (s.weigh d) marks a) (hc : s.Counted) (hopens : s.Opens O d) :
    ∃ b, Tracks (s.handleSARprocess O d) false marks b := by
  have hwanted := (hc.weigh d).wantedMode_eq
  obtain ⟨distance, weight, hframe⟩ := weigh_frame s d
  have hmode : s.mDetectMode = modeOf a := by
    have hmode := h.mode
    rwa [hframe] at hmode
  rcases handleSARprocess_cases O s d with
    ⟨hstays, pending, hstate, hpending⟩ | ⟨hswitch, mode, log, hstate, hnew⟩
  · refine ⟨a, ?_⟩
    rw [hstate]
    refine ⟨⟨h.mode, h.kept, fun hp => ?_⟩, fun hne => ?_⟩
    · rcases hpending with hsame | hnew
      · have hold := h.pending hp
        rw [hframe] at hold
        rw [hsame]
        exact hold
      · change pending.distance = value a
        rw [hnew, (hc.weigh d).eq_value, (h.kept.waits hp).1]
    · by_contra hweight
      refine hstays ⟨not_lt.mp hweight, ?_⟩
      rw [hmode, hwanted, modeOf_ne_iff]
      exact hne
  · have hne : side (s.weigh d).mDetectDistance ≠ a := by
      rw [← modeOf_ne_iff, ← hmode, ← hwanted]
      exact hswitch.2
    refine ⟨side (s.weigh d).mDetectDistance, ?_⟩
    rw [hstate, hnew hopens]
    exact ⟨⟨hwanted, h.kept.switch hne hswitch.1, fun _ => (hc.weigh d).eq_value⟩,
      fun hself => absurd rfl hself⟩

theorem Tracks.restart (h : Tracks s waits marks .near) (hc : s.Counted) :
    Tracks { s with mDetectDistance := DETECT_DISTANCE_CLOSE } waits marks .near := by
  set t : RearProxSensor := { s with mDetectDistance := DETECT_DISTANCE_CLOSE } with ht
  refine ⟨?_, fun hne => absurd rfl hne⟩
  have hnear {weight : ℕ} : Detects { t with mDetectWeight := weight } marks .near :=
    ⟨h.mode, h.kept.recount (fun _ => rfl) fun hne => absurd rfl hne, h.pending⟩
  cases waits with
  | false => exact hnear
  | true =>
    change Detects (t.weigh s.mCurrentDistance) marks .near
    rcases weigh_cases (c := .near) (s := t) rfl s.mCurrentDistance with
      ⟨-, hweigh⟩ | ⟨hfar, hweigh⟩ | ⟨-, -, hweigh⟩
    · rw [hweigh]
      exact hnear
    · -- the distance that waits is far already, and nothing else is counted
      have hkept := h.kept
      have hcounts : s.mSendData = false ∧
          Evidence onSide (s.settled true).mDetectWeight .far marks := by
        have hside : side (s.settled true).mDetectDistance = .far := side_weigh_of_on hc hfar
        rw [hside] at hkept
        exact hkept.counts (by decide)
      have hweight : 1 ≤ (s.settled true).mDetectWeight := weigh_pos hc hfar h.below
      rw [hweigh]
      refine ⟨h.mode, hkept.recount (fun hp => ?_) fun _ => hcounts.2.mono hweight, h.pending⟩
      exact absurd (hcounts.1.symm.trans hp) Bool.false_ne_true
    · rw [hweigh]
      exact hnear

theorem settled_send (s : RearProxSensor) (waits send : Bool) :
    { s with mSendData := send }.settled waits =
      { s.settled waits with mSendData := send } := by
  cases waits with
  | false => rfl
  | true =>
    simp only [RearProxSensor.settled, RearProxSensor.weigh, ↓reduceIte]
    split_ifs <;> rfl

theorem Tracks.sent (h : Tracks s waits marks a) (hsend : s.mSendData = true) :
    Tracks { s with mSendData := false } waits
      (marks ++ [.report (side s.mPendingEvents.distance)]) a := by
  have hkept := h.kept
  rw [hsend] at hkept
  refine ⟨?_, h.below⟩
  rw [settled_send, h.pending hsend, side_value]
  exact ⟨h.settled.mode, hkept.report, fun hp => absurd hp Bool.false_ne_true⟩

structure SameDetection (t u : RearProxSensor) : Prop where
  enabled : t.mEnabled = u.mEnabled
  distance : t.mDetectDistance = u.mDetectDistance
  weight : t.mDetectWeight = u.mDetectWeight
  mode : t.mDetectMode = u.mDetectMode
  current : t.mCurrentDistance = u.mCurrentDistance
  send : t.mSendData = u.mSendData
  pending : t.mPendingEvents = u.mPendingEvents

theorem SameDetection.refl (t : RearProxSensor) : SameDetection t t :=
  ⟨rfl, rfl, rfl, rfl, rfl, rfl, rfl⟩

theorem Detects.same (h : Detects s marks a) (hsame : SameDetection t s) : Detects t marks a := by
  refine ⟨hsame.mode.trans h.mode, ?_, fun hp => ?_⟩
  · rw [hsame.distance, hsame.weight, hsame.send]
    exact h.kept
  · rw [hsame.pending]
    exact h.pending (hsame.send ▸ hp)

theorem SameDetection.settled (h : SameDetection t s) (waits : Bool) :
    SameDetection (t.settled waits) (s.settled waits) := by
  cases waits with
  | false => exact h
  | true =>
    obtain ⟨_, _, hframe⟩ := weigh_frame t t.mCurrentDistance
    obtain ⟨_, _, hframe'⟩ := weigh_frame s t.mCurrentDistance
    obtain ⟨hdistance, hweight⟩ := weigh_congr h.distance h.weight t.mCurrentDistance
    change SameDetection (t.weigh t.mCurrentDistance) (s.weigh s.mCurrentDistance)
    rw [← h.current]
    rw [hframe, hframe'] at hdistance hweight ⊢
    exact ⟨h.enabled, hdistance, hweight, h.mode, h.current, h.send, h.pending⟩

theorem Tracks.same (h : Tracks s waits marks a) (hsame : SameDetection t s) :
    Tracks t waits marks a := by
  refine ⟨h.settled.same (hsame.settled waits), ?_⟩
  rw [hsame.distance, hsame.weight]
  exact h.below

end RearProxSensor
end Cedric.Tof
