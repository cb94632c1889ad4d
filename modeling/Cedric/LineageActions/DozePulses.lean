import Cedric.Lib.Pacing
import Cedric.LineageActions.LineageActionsService

/-!
# The pulses of `DozePulseAction`

Every doze sensor asks the one `DozePulseAction` to light the display. It sends a pulse only
some time after the one before, and after the service was last told that the screen is off.
-/

namespace Cedric.LineageActions

open Calls Call Runs Pacing

def DELAY_BETWEEN_DOZES_IN_MS : ℤ := 1500

/-- `mLastDoze` after the call at `now`, and whether it allows a pulse. -/
def mayDoze (mLastDoze now : ℤ) : ℤ × Bool :=
  if now - mLastDoze > DELAY_BETWEEN_DOZES_IN_MS then (now, true) else (mLastDoze, false)

/-- A pulse may be sent at `now` after what happened at `before`. -/
def Far (before now : ℤ) : Prop := now - before > DELAY_BETWEEN_DOZES_IN_MS

theorem mayDoze_denied {mLastDoze now : ℤ} (h : (mayDoze mLastDoze now).2 = false) :
    (mayDoze mLastDoze now).1 = mLastDoze := by
  revert h
  rw [mayDoze]
  split_ifs
  · exact False.elim
  · exact fun _ => rfl

theorem mayDoze_allowed {mLastDoze now : ℤ} (h : (mayDoze mLastDoze now).2 = true) :
    (mayDoze mLastDoze now).1 = now := by
  revert h
  rw [mayDoze]
  split_ifs
  · exact fun _ => rfl
  · exact False.elim

theorem mayDoze_iff (mLastDoze now : ℤ) : (mayDoze mLastDoze now).2 = true ↔ Far mLastDoze now := by
  rw [mayDoze, Far]
  split_ifs with hfar
  · exact iff_of_true rfl hfar
  · exact iff_of_false id hfar

theorem far_of_le (s s' t : ℤ) (hle : s ≤ s') (hfar : Far s' t) : Far s t := by
  rw [Far] at *
  omega

/-- What the service gets to do; `now` is the clock that `mayDoze` reads, `measured` the one that
the stow sensor reads before it. -/
inductive Report
  | service (e : LineageActionsService.Event)
  | trigger
  | deliver (now : ℤ)
  | proximity (isNear : Bool) (now : ℤ)
  | stow (thisStowed : Bool) (measured now : ℤ)

namespace LineageActionsService

/-- When `screenTurnedOff` is called. -/
def Event.toldOff : Event → Option ℤ
  | .screenTurnedOff now => some now
  | .updateState false now => some now
  | .preferenceChanged _ _ false now => some now
  | _ => none

variable (request : ℕ → Option ℕ) (s : LineageActionsService)

def action (now : ℤ) : LineageActionsService × List (Mark ℤ) :=
  ({ s with mLastDoze := (mayDoze s.mLastDoze now).1 }, [.request now (mayDoze s.mLastDoze now).2])

def sensed (acts : Bool) (now : ℤ) : LineageActionsService × List (Mark ℤ) :=
  if acts then s.action now else (s, [])

/-- A trigger that is delivered calls `action`; a listener that is not registered hears nothing. -/
def report : Report → LineageActionsService × List (Mark ℤ)
  | .service e => (s.step request e, e.toldOff.toList.map .bar)
  | .trigger => ({ s with glance := s.glance.step request .trigger }, [])
  | .deliver now =>
    sensed { s with glance := s.glance.step request .deliver }
      (decide (0 < s.glance.stale) || decide (0 < s.glance.queued)) now
  | .proximity isNear now =>
    if s.proximity.registered then
      sensed { s with proximity := (s.proximity.onSensorChanged isNear).1 }
        (s.proximity.onSensorChanged isNear).2 now
    else (s, [])
  | .stow thisStowed measured now =>
    if s.stow.registered then
      sensed { s with stow := (s.stow.onSensorChanged thisStowed measured).1 }
        (s.stow.onSensorChanged thisStowed measured).2 now
    else (s, [])

/-- Each call of `action` with whether it sends a pulse, and each `screenTurnedOff`. -/
def marks (settings : LineageActionsSettings) (reports : List Report) : List (Mark ℤ) :=
  (transduce (report request) (start settings) reports).2

theorem keeps_notifyScreenState (glance : Call GlanceSensor Unit)
    (proximity : ProximitySensor → ProximitySensor) (stow : StowSensor → StowSensor) :
    Keeps LineageActionsService.mLastDoze (notifyScreenState glance proximity stow) :=
  Keeps.bind (fun _ => rfl) fun _ =>
    Keeps.bind (keeps_update fun _ => rfl) fun _ => keeps_update fun _ => rfl

theorem mLastDoze_screenTurnedOn : (screenTurnedOn s).1.mLastDoze = s.mLastDoze := by
  have hkeeps := keeps_notifyScreenState GlanceSensor.screenTurnedOn ProximitySensor.screenTurnedOn
    StowSensor.screenTurnedOn
  obtain ⟨settings, mWakeLock, mLastDoze, glance, proximity, stow⟩ := s
  cases mWakeLock
  · exact hkeeps ⟨settings, true, mLastDoze, glance, proximity, stow⟩
  · exact hkeeps ⟨settings, true, mLastDoze, glance, proximity, stow⟩

theorem mLastDoze_screenTurnedOff (now : ℤ) :
    (screenTurnedOff request now s).1.mLastDoze = now := by
  have hkeeps := keeps_notifyScreenState (GlanceSensor.screenTurnedOff request s.settings)
    (ProximitySensor.screenTurnedOff · s.settings) (StowSensor.screenTurnedOff · s.settings)
  obtain ⟨settings, mWakeLock, mLastDoze, glance, proximity, stow⟩ := s
  cases mWakeLock
  · exact hkeeps ⟨settings, false, now, glance, proximity, stow⟩
  · exact hkeeps ⟨settings, false, now, glance, proximity, stow⟩

theorem mLastDoze_step (e : Event) : (s.step request e).mLastDoze = e.toldOff.getD s.mLastDoze := by
  cases e with
  | screenTurnedOn => exact mLastDoze_screenTurnedOn s
  | screenTurnedOff now => exact mLastDoze_screenTurnedOff request s now
  | updateState isInteractive now =>
    cases isInteractive with
    | true => exact mLastDoze_screenTurnedOn s
    | false => exact mLastDoze_screenTurnedOff request s now
  | preferenceChanged key value isInteractive now =>
    cases isInteractive with
    | true => exact mLastDoze_screenTurnedOn _
    | false => exact mLastDoze_screenTurnedOff request _ now
  | dozeEnabledChanged value => rfl

/-- A report leaves the action alone, is a `screenTurnedOff`, or calls it. -/
inductive Paces (s : LineageActionsService) : LineageActionsService × List (Mark ℤ) → Prop
  | silent (s' : LineageActionsService) (h : s'.mLastDoze = s.mLastDoze) : Paces s (s', [])
  | told (s' : LineageActionsService) (now : ℤ) (h : s'.mLastDoze = now) : Paces s (s', [.bar now])
  | acted (s' : LineageActionsService) (now : ℤ)
      (h : s'.mLastDoze = (mayDoze s.mLastDoze now).1) :
      Paces s (s', [.request now (mayDoze s.mLastDoze now).2])

variable {s} in
theorem paces_sensed {s' : LineageActionsService} (h : s'.mLastDoze = s.mLastDoze) (acts : Bool)
    (now : ℤ) : Paces s (s'.sensed acts now) := by
  rw [sensed]
  split_ifs
  · rw [action, h]
    exact .acted _ now rfl
  · exact .silent s' h

theorem paces_report (r : Report) : Paces s (s.report request r) := by
  cases r with
  | service e =>
    have hlast := mLastDoze_step request s e
    rw [report]
    cases htold : e.toldOff with
    | none =>
      rw [htold] at hlast
      exact .silent _ hlast
    | some now =>
      rw [htold] at hlast
      exact .told _ now hlast
  | trigger => exact .silent _ rfl
  | deliver now =>
    rw [report]
    refine paces_sensed ?_ _ now
    rfl
  | proximity isNear now =>
    rw [report]
    split_ifs
    · refine paces_sensed ?_ _ now
      rfl
    · exact .silent s rfl
  | stow thisStowed measured now =>
    rw [report]
    split_ifs
    · refine paces_sensed ?_ _ now
      rfl
    · exact .silent s rfl

variable {request} {settings : LineageActionsSettings}

theorem marks_concat (settings : LineageActionsSettings) (past : List Report) (r : Report) :
    marks request settings (past ++ [r]) = marks request settings past ++
      ((transduce (report request) (start settings) past).1.report request r).2 := by
  rw [marks, transduce_append]
  simp only [transduce, List.append_nil]
  rfl

theorem state_concat (settings : LineageActionsSettings) (past : List Report) (r : Report) :
    (transduce (report request) (start settings) (past ++ [r])).1 =
      ((transduce (report request) (start settings) past).1.report request r).1 := by
  rw [transduce_append]
  rfl

theorem prompt_marks (reports : List Report)
    (hclock : (marks request settings reports).Pairwise fun m m' => m.time ≤ m'.time)
    (hepoch : ∀ m ∈ marks request settings reports, DELAY_BETWEEN_DOZES_IN_MS < m.time) :
    Latest Far (DELAY_BETWEEN_DOZES_IN_MS < ·) (marks request settings reports)
        (transduce (report request) (start settings) reports).1.mLastDoze ∧
      Prompt Far (marks request settings reports) := by
  induction reports using List.reverseRecOn with
  | nil =>
    refine ⟨latest_nil fun t ht => ?_, prompt_nil⟩
    rw [Far]
    exact lt_of_lt_of_eq ht (Int.sub_zero t).symm
  | append_singleton past r ih =>
    rw [marks_concat] at hclock hepoch ⊢
    rw [state_concat]
    obtain ⟨hpast, -, hle⟩ := List.pairwise_append.mp hclock
    obtain ⟨hlatest, hprompt⟩ := ih hpast fun m hm => hepoch m (List.mem_append_left _ hm)
    have hpaces := paces_report request (transduce (report request) (start settings) past).1 r
    generalize (transduce (report request) (start settings) past).1.report request r = reported at *
    cases hpaces with
    | silent s' h =>
      rw [List.append_nil, h]
      exact ⟨hlatest, hprompt⟩
    | told s' now h =>
      rw [h]
      exact ⟨.counted Int.le_refl (m := .bar now) (fun m hm => hle m hm _ List.mem_cons_self) rfl,
        hprompt.bar now⟩
    | acted s' now h =>
      have hnow := hepoch (.request now _) (List.mem_append_right _ List.mem_cons_self)
      have hbefore : ∀ m ∈ marks request settings past, m.time ≤ now :=
        fun m hm => hle m hm (.request now _) List.mem_cons_self
      refine ⟨?_, hprompt.request ((mayDoze_iff _ now).trans (hlatest.far_iff far_of_le hnow))⟩
      rw [h]
      cases hallowed : (mayDoze (transduce (report request) (start settings) past).1.mLastDoze
        now).2 with
      | false =>
        rw [mayDoze_denied hallowed]
        exact hlatest.denied now
      | true =>
        rw [mayDoze_allowed hallowed]
        exact .counted Int.le_refl (m := .request now true) hbefore rfl

/-- Pulses keep their distance from each other and from every time the screen turned off, and no
other choice among the calls of `action` that does so sends more of them. -/
theorem pulses_paced (request : ℕ → Option ℕ) (settings : LineageActionsSettings)
    (reports : List Report)
    (hclock : (marks request settings reports).Pairwise fun m m' => m.time ≤ m'.time)
    (hepoch : ∀ m ∈ marks request settings reports, DELAY_BETWEEN_DOZES_IN_MS < m.time) :
    Paced Far (marks request settings reports) ∧
      ∀ other, other.map Mark.asked = (marks request settings reports).map Mark.asked →
        Paced Far other → grants other ≤ grants (marks request settings reports) := by
  have hprompt := (prompt_marks reports hclock hepoch).2
  exact ⟨hprompt.paced, fun other hasked hpaced =>
    prompt_most Int.le_refl far_of_le hclock hprompt hpaced hasked⟩

/-- The phone is waved at three times after the screen turned off. -/
def waves : List Report :=
  [.service (.screenTurnedOff 10000), .proximity true 11000, .proximity false 11400,
    .proximity true 11900, .proximity false 12000, .proximity true 12500, .proximity false 13000]

theorem pulses_paced_waves : Paced Far (marks GlanceSensor.single ⟨true, false, true⟩ waves) ∧
    ∀ other, other.map Mark.asked =
        (marks GlanceSensor.single ⟨true, false, true⟩ waves).map Mark.asked →
      Paced Far other →
        grants other ≤ grants (marks GlanceSensor.single ⟨true, false, true⟩ waves) :=
  pulses_paced _ _ _ (by decide) (by decide)

end LineageActionsService

def Report.toldScreen : Report → Option Bool
  | .service .screenTurnedOn => some false
  | .service (.screenTurnedOff _) => some true
  | .service (.updateState isInteractive _) => some !isInteractive
  | .service (.preferenceChanged _ _ isInteractive _) => some !isInteractive
  | _ => none

namespace LineageActionsService

def tell (request : ℕ → Option ℕ) (w : LineageActionsService × Bool) (r : Report) :
    LineageActionsService × Bool := ((w.1.report request r).1, r.toldScreen.getD w.2)

def Fresh (s : LineageActionsService) : Report → Prop
  | .deliver _ => s.glance.stale = 0
  | _ => True

/-- If the sensor calls `action`, the screen is off. -/
def Dark (request : ℕ → Option ℕ) (w : LineageActionsService × Bool) (r : Report) : Prop :=
  ∀ now granted, .request now granted ∈ (w.1.report request r).2 → w.2 = true

structure Silent (s : LineageActionsService) : Prop where
  glance : s.glance.mEnabled = false → s.glance.requests = 0 ∧ s.glance.queued = 0
  proximity : s.proximity.registered = s.proximity.mEnabled
  stow : s.stow.registered = s.stow.mEnabled

structure Disabled (s : LineageActionsService) : Prop where
  glance : s.glance.mEnabled = false
  proximity : s.proximity.mEnabled = false
  stow : s.stow.mEnabled = false

variable {request : ℕ → Option ℕ} {s : LineageActionsService}

theorem silent_start (settings : LineageActionsSettings) : (start settings).Silent :=
  ⟨fun _ => ⟨rfl, rfl⟩, rfl, rfl⟩

theorem disabled_start (settings : LineageActionsSettings) : (start settings).Disabled :=
  ⟨rfl, rfl, rfl⟩

theorem Silent.screenTurnedOn (h : s.Silent) :
    (screenTurnedOn s).1.Silent ∧ (screenTurnedOn s).1.Disabled := by
  obtain ⟨hproximity, hproximity'⟩ := ProximitySensor.screenTurnedOn_flags h.proximity
  obtain ⟨hstow, hstow'⟩ := StowSensor.screenTurnedOn_flags h.stow
  have hglance : (GlanceSensor.screenTurnedOn s.glance).1.mEnabled = false ∧
      (GlanceSensor.screenTurnedOn s.glance).1.requests = 0 ∧
        (GlanceSensor.screenTurnedOn s.glance).1.queued = 0 := by
    rw [GlanceSensor.screenTurnedOn_eq.2]
    split_ifs with henabled
    · exact ⟨rfl, rfl, rfl⟩
    · have hdisabled := Bool.eq_false_iff.mpr henabled
      exact ⟨hdisabled, h.glance hdisabled⟩
  rw [screenTurnedOn_state]
  exact ⟨⟨fun _ => hglance.2, hproximity.trans hproximity'.symm, hstow.trans hstow'.symm⟩,
    ⟨hglance.1, hproximity', hstow'⟩⟩

theorem isPreorder_silent :
    IsPreorder LineageActionsService fun s t => s.Silent → t.Silent where
  refl _ h := h
  trans _ _ _ hst htu h := htu (hst h)

theorem silent_glance_screenTurnedOff (settings : LineageActionsSettings) {glance : GlanceSensor}
    (h : glance.mEnabled = false → glance.requests = 0 ∧ glance.queued = 0) :
    (GlanceSensor.screenTurnedOff request settings glance).1.mEnabled = false →
      (GlanceSensor.screenTurnedOff request settings glance).1.requests = 0 ∧
        (GlanceSensor.screenTurnedOff request settings glance).1.queued = 0 := by
  rw [GlanceSensor.screenTurnedOff, get_bind]
  split_ifs
  · cases hrequest : request glance.requests with
    | none =>
      have hrefused := GlanceSensor.requestTriggerSensor_refused (s := glance) hrequest
      rw [bind_threw (congrArg Prod.snd hrefused), hrefused]
      exact h
    | some n =>
      have hgranted := GlanceSensor.requestTriggerSensor_granted (s := glance) hrequest
      rw [bind_returned (congrArg Prod.snd hgranted), hgranted]
      exact fun henabled => absurd henabled.symm Bool.false_ne_true
  · exact h

variable (request) in
theorem silent_notifyScreenState (settings : LineageActionsSettings) :
    Moves (fun s t => s.Silent → t.Silent)
      (notifyScreenState (GlanceSensor.screenTurnedOff request settings)
        (ProximitySensor.screenTurnedOff · settings) (StowSensor.screenTurnedOff · settings)) := by
  refine Moves.bind isPreorder_silent (fun s h => ?_) fun _ =>
    Moves.bind isPreorder_silent (moves_update fun s h => ?_) fun _ => moves_update fun s h => ?_
  · exact ⟨silent_glance_screenTurnedOff settings h.glance, h.proximity, h.stow⟩
  · exact ⟨h.glance, (ProximitySensor.screenTurnedOff_flags h.proximity settings).1, h.stow⟩
  · exact ⟨h.glance, h.proximity, (StowSensor.screenTurnedOff_flags h.stow settings).1⟩

theorem Silent.screenTurnedOff (h : s.Silent) (now : ℤ) :
    (screenTurnedOff request now s).1.Silent := by
  have hmoves := silent_notifyScreenState request s.settings
  obtain ⟨settings, mWakeLock, mLastDoze, glance, proximity, stow⟩ := s
  cases mWakeLock
  · exact hmoves ⟨settings, false, now, glance, proximity, stow⟩ ⟨h.glance, h.proximity, h.stow⟩
  · exact hmoves ⟨settings, false, now, glance, proximity, stow⟩ ⟨h.glance, h.proximity, h.stow⟩

def Dozing (w : LineageActionsService × Bool) : Prop :=
  w.1.Silent ∧ (w.2 = false → w.1.Disabled)

variable (request) in
theorem dozing_updateState (h : s.Silent) (isInteractive : Bool) (now : ℤ) :
    Dozing ((updateState request isInteractive now s).1, !isInteractive) := by
  cases isInteractive with
  | true =>
    obtain ⟨hsilent, hdisabled⟩ := h.screenTurnedOn
    exact ⟨hsilent, fun _ => hdisabled⟩
  | false => exact ⟨h.screenTurnedOff now, fun hon => absurd hon.symm Bool.false_ne_true⟩

theorem silent_withSettings (h : s.Silent) (settings : LineageActionsSettings) :
    (s.withSettings settings).Silent := ⟨h.glance, h.proximity, h.stow⟩

theorem Dozing.keep {off : Bool} (h : Dozing (s, off)) {s' : LineageActionsService}
    (hglance : s'.glance = s.glance)
    (hproximity : s'.proximity.registered = s.proximity.registered ∧
      s'.proximity.mEnabled = s.proximity.mEnabled)
    (hstow : s'.stow.registered = s.stow.registered ∧ s'.stow.mEnabled = s.stow.mEnabled) :
    Dozing (s', off) := by
  obtain ⟨hsilent, hdisabled⟩ := h
  refine ⟨⟨hglance ▸ hsilent.glance, ?_, ?_⟩, fun hon => ⟨?_, ?_, ?_⟩⟩
  · exact hproximity.1.trans (hsilent.proximity.trans hproximity.2.symm)
  · exact hstow.1.trans (hsilent.stow.trans hstow.2.symm)
  · exact hglance ▸ (hdisabled hon).glance
  · exact hproximity.2.trans (hdisabled hon).proximity
  · exact hstow.2.trans (hdisabled hon).stow

theorem dozing_sensed {off : Bool} (h : Dozing (s, off)) (acts : Bool) (now : ℤ) :
    Dozing ((s.sensed acts now).1, off) := by
  rw [sensed]
  split_ifs
  · exact h.keep rfl ⟨rfl, rfl⟩ ⟨rfl, rfl⟩
  · exact h

theorem Silent.trigger (h : s.Silent) : (s.glance.step request .trigger).mEnabled =
      s.glance.mEnabled ∧ ((s.glance.step request .trigger).mEnabled = false →
        (s.glance.step request .trigger).requests = 0 ∧
          (s.glance.step request .trigger).queued = 0) := by
  rw [GlanceSensor.step]
  split_ifs with hfree
  · refine ⟨rfl, fun henabled => ?_⟩
    obtain ⟨hrequests, -⟩ := h.glance henabled
    exact absurd hfree (by rw [hrequests]; exact Nat.not_lt_zero _)
  · exact ⟨rfl, h.glance⟩

theorem Silent.deliver (h : s.Silent) (hstale : s.glance.stale = 0) :
    (s.glance.step request .deliver).mEnabled = s.glance.mEnabled ∧
      ((s.glance.step request .deliver).mEnabled = false →
        (s.glance.step request .deliver).requests = 0 ∧
          (s.glance.step request .deliver).queued = 0) := by
  rw [GlanceSensor.step, if_neg (by rw [hstale]; exact Nat.not_lt_zero _)]
  split_ifs with hqueued
  · obtain ⟨henabled, -⟩ := Prod.ext_iff.mp (GlanceSensor.keeps_requestTriggerSensor request
      { s.glance with queued := s.glance.queued - 1, requests := s.glance.requests - 1 })
    refine ⟨henabled, fun hdisabled => ?_⟩
    obtain ⟨-, hnone⟩ := h.glance (henabled.symm.trans hdisabled)
    exact absurd hqueued (by rw [hnone]; exact Nat.not_lt_zero _)
  · exact ⟨rfl, h.glance⟩

theorem Dozing.glance {off : Bool} (h : Dozing (s, off)) {glance : GlanceSensor}
    (hglance : glance.mEnabled = s.glance.mEnabled ∧
      (glance.mEnabled = false → glance.requests = 0 ∧ glance.queued = 0)) :
    Dozing ({ s with glance := glance }, off) :=
  ⟨⟨hglance.2, h.1.proximity, h.1.stow⟩, fun hon =>
    ⟨hglance.1.trans (h.2 hon).glance, (h.2 hon).proximity, (h.2 hon).stow⟩⟩

theorem Dozing.tell {w : LineageActionsService × Bool} (h : Dozing w) {r : Report}
    (hfresh : Fresh w.1 r) : Dozing (tell request w r) := by
  obtain ⟨s, off⟩ := w
  cases r with
  | service e =>
    cases e with
    | screenTurnedOn => exact dozing_updateState request h.1 true 0
    | screenTurnedOff now => exact dozing_updateState request h.1 false now
    | updateState isInteractive now => exact dozing_updateState request h.1 isInteractive now
    | preferenceChanged key value isInteractive now =>
      exact dozing_updateState request (silent_withSettings h.1 _) isInteractive now
    | dozeEnabledChanged value =>
      exact h.keep rfl ⟨rfl, rfl⟩ ⟨rfl, rfl⟩
  | trigger => exact h.glance h.1.trigger
  | deliver now => exact dozing_sensed (h.glance (h.1.deliver hfresh)) _ now
  | proximity isNear now =>
    rw [LineageActionsService.tell, report]
    split_ifs
    · refine dozing_sensed ?_ _ now
      exact h.keep rfl ⟨rfl, rfl⟩ ⟨rfl, rfl⟩
    · exact h
  | stow thisStowed measured now =>
    have hkept : (s.stow.onSensorChanged thisStowed measured).1.registered = s.stow.registered ∧
        (s.stow.onSensorChanged thisStowed measured).1.mEnabled = s.stow.mEnabled := by
      cases thisStowed <;> exact ⟨rfl, rfl⟩
    rw [LineageActionsService.tell, report]
    split_ifs
    · refine dozing_sensed ?_ _ now
      exact h.keep rfl ⟨rfl, rfl⟩ hkept
    · exact h

theorem acts_of_mem_sensed {acts : Bool} {now : ℤ} {m : Mark ℤ} (h : m ∈ (s.sensed acts now).2) :
    acts = true := by
  rw [sensed] at h
  split_ifs at h with hacts
  · exact hacts
  · exact absurd h List.not_mem_nil

theorem Dozing.dark {w : LineageActionsService × Bool} (h : Dozing w) {r : Report}
    (hfresh : Fresh w.1 r) : Dark request w r := by
  obtain ⟨s, off⟩ := w
  intro now granted hacts
  by_contra hon
  have hdisabled : s.Disabled := h.2 (Bool.eq_false_iff.mpr hon)
  cases r with
  | service e =>
    obtain ⟨told, -, hbar⟩ := List.mem_map.mp hacts
    cases hbar
  | trigger => exact absurd hacts List.not_mem_nil
  | deliver now' =>
    obtain ⟨-, hqueued⟩ := h.1.glance hdisabled.glance
    have hstale : s.glance.stale = 0 := hfresh
    have hdelivered := acts_of_mem_sensed hacts
    rw [hqueued, hstale] at hdelivered
    exact absurd hdelivered (by decide)
  | proximity isNear now' =>
    have hunregistered := h.1.proximity.trans hdisabled.proximity
    rw [report, if_neg (by rw [hunregistered]; exact Bool.false_ne_true)] at hacts
    exact absurd hacts List.not_mem_nil
  | stow thisStowed measured now' =>
    have hunregistered := h.1.stow.trans hdisabled.stow
    rw [report, if_neg (by rw [hunregistered]; exact Bool.false_ne_true)] at hacts
    exact absurd hacts List.not_mem_nil

/-- Where no trigger of a cancelled request is delivered, the sensors act only while the screen
is off. -/
theorem acts_dark (request : ℕ → Option ℕ) (settings : LineageActionsSettings)
    (reports : List Report)
    (hfresh : Along (fun s r => (s.report request r).1) Fresh (start settings) reports) :
    Along (tell request) (Dark request) (start settings, false) reports := by
  have hghost : Along (tell request) (fun w r => Fresh w.1 r) (start settings, false) reports :=
    (along_ghost (fun (_ : LineageActionsService) off (r : Report) => r.toldScreen.getD off)
      (start settings) false reports).mpr hfresh
  exact along_mono Dozing (fun _ _ h hfresh => h.tell hfresh) (fun _ _ h hfresh => h.dark hfresh)
    ⟨silent_start settings, fun _ => disabled_start settings⟩ reports hghost

/-- The sensor fires twice in the dark, and its request is cancelled when the screen turns on. -/
def glances : List Report :=
  [.service (.screenTurnedOff 10000), .trigger, .deliver 12000, .trigger, .deliver 12500,
    .service .screenTurnedOn]

theorem acts_dark_glances : Along (tell GlanceSensor.single) (Dark GlanceSensor.single)
    (start ⟨true, true, false⟩, false) glances :=
  acts_dark _ _ _ ⟨trivial, trivial, rfl, trivial, rfl, trivial, trivial⟩

end LineageActionsService
end Cedric.LineageActions
