import Cedric.Tof.Detector

/-!
# Reports of a session

A session starts when the sensor is enabled and lasts until it is disabled. Its
samples are the distances that the input device sends. Its reports are debounced,
if each distance is weighed once where that matters, the configuration opens
whenever the crossing changes and no report is left over when a session starts or
a distance is on the other side.
-/

namespace Cedric.Tof

open Hub Debounce Runs

/-- What a run shows: requests for the sensor, distances brought and distances reported. -/
inductive Obs
  | enable (en : ℤ)
  | sample (distance : ℤ)
  | report (distance : ℕ)
  deriving DecidableEq

def Obs.after (session : Option (List (Mark ℤ))) : Obs → Option (List (Mark ℤ))
  | .enable en => if en = 1 then some (session.getD []) else if en = 0 then none else session
  | .sample d => session.map (· ++ [.sample d])
  | .report d => session.map (· ++ [.report (side d)])

def session (T : List Obs) : Option (List (Mark ℤ)) := T.foldl Obs.after none

/-- Only the two distances are reported, and every session is debounced at every moment. -/
structure Reported (T : List Obs) : Prop where
  values : ∀ d, .report d ∈ T → d = DETECT_DISTANCE_CLOSE ∨ d = DETECT_DISTANCE_FAR
  sessions : ∀ past, past <+: T → ∀ marks, session past = some marks →
    Debounced onSide DETECT_WEIGHT_CEILING marks

namespace RearProxSensor

variable (O : Sysfs) (s : RearProxSensor)

def reported : SensorsEvent → Option Obs
  | .META_DATA_FLUSH_COMPLETE _ => none
  | .proximity e => some (.report e.distance)

def observe (event : InputEvent) : List Obs :=
  (brought event).toList.map .sample ++ (s.handleEvent O event).2.filterMap reported

def observations : Op → List Obs
  | .setEnable handle en _ => if handle = ID_RP then [.enable en] else []
  | .readEvents count =>
    (transduce (fun t e => ((t.handleEvent O e).1, t.observe O e)) s (s.handled O count)).2
  | _ => []

def run (ops : List Op) : RearProxSensor × List Obs :=
  ops.foldl (fun p op => (p.1.step O op, p.2 ++ p.1.observations O op)) (s, [])

def Obs.isReport : Obs → Bool
  | .report _ => true
  | _ => false

theorem observe_reports (event : InputEvent) :
    (s.observe O event).filter Obs.isReport = (s.handleEvent O event).2.filterMap reported := by
  have hsamples (l : List ℤ) : (l.map Obs.sample).filter Obs.isReport = [] := by
    simp [Obs.isReport]
  rw [observe, List.filter_append, hsamples, List.nil_append]
  refine List.filter_eq_self.mpr fun o ho => ?_
  obtain ⟨e, -, he⟩ := List.mem_filterMap.mp ho
  cases e with
  | META_DATA_FLUSH_COMPLETE => cases he
  | proximity e => exact Option.some.inj he ▸ rfl

theorem observations_reports (hwf : s.mInputReader.Wf) (count : ℤ) :
    (s.observations O (.readEvents count)).filter Obs.isReport =
      (s.readEvents O count).2.filterMap reported := by
  have hrun (t : RearProxSensor) (es : List InputEvent) :
      (transduce (fun t e => ((t.handleEvent O e).1, t.observe O e)) t es).2.filter Obs.isReport =
        (transduce (handleEvent O) t es).2.filterMap reported := by
    induction es generalizing t with
    | nil => rfl
    | cons e es ih =>
      simp only [transduce, List.filter_append, List.filterMap_append, observe_reports, ih]
  rw [observations, hrun, handled, readEvents]
  split_ifs with hcount
  · rfl
  · obtain ⟨es, hread⟩ := InputEventCircularReader.readInput_spec (handleEvent O) hwf count
      s.dataFd s
    rw [hread.runs]

end RearProxSensor

/-- The sensor, and whether the distance brought last waits to be weighed; one from before
the session does not. -/
structure Watched where
  sensor : RearProxSensor
  waits : Bool

namespace Watched

open RearProxSensor (brought)

variable (O : Sysfs) (w : Watched)

def handleEvent (event : InputEvent) : Watched where
  sensor := (w.sensor.handleEvent O event).1
  waits :=
    if event.type = EV_ABS then
      if w.sensor.mEnabled = 1 ∧ event.code = ABS_HAT1X then w.sensor.mTimestampUpdated
      else w.waits
    else if (w.sensor.weighed event).isSome then false
    else w.waits

def step (op : RearProxSensor.Op) : Watched where
  sensor := w.sensor.step O op
  waits :=
    match op with
    | .setEnable handle en _ =>
      if handle = ID_RP ∧ en = 1 ∧ w.sensor.mEnabled ≠ 1 then false else w.waits
    | .readEvents count => ((w.sensor.handled O count).foldl (handleEvent O) w).waits
    | _ => w.waits

/-- In a session no distance comes while a report of the other side waits, none replaces one
that speaks for the announced side, and none is weighed a second time for the other side. -/
structure EventOk (event : InputEvent) : Prop where
  quiet : ∀ d, brought event = some d → w.sensor.mSendData = true →
    onSide w.sensor.announced.other d = false
  keeps : ∀ d, brought event = some d → w.waits = true →
    onSide w.sensor.announced w.sensor.mCurrentDistance = true →
    side w.sensor.mDetectDistance = w.sensor.announced ∨ onSide w.sensor.announced d = true
  once : event.type = EV_SYN → w.waits = false → ∀ d, w.sensor.weighed event = some d →
    onSide w.sensor.announced.other d = false
  opens : ∀ d, w.sensor.weighed event = some d → w.sensor.Opens O d

/-- A session starts with no report left over and with the first crossing configured, or the
configuration opens. In a session the sensor may be disabled, or enabled again before the
crossing has changed. -/
structure EnableOk (en : ℤ) (interval : Option ℤ) : Prop where
  quiet : w.sensor.mEnabled ≠ 1 → en = 1 → w.sensor.mSendData = false
  opens : w.sensor.mEnabled ≠ 1 → en = 1 → w.sensor.mDetectMode ≠ DETECT_MODE_CROSS_HIGH →
    O w.sensor.log ({ w.sensor with
      mDetectInterval := interval.getD w.sensor.mDetectInterval }.autonomousConfig
        DETECT_MODE_CROSS_HIGH) = true
  again : w.sensor.mEnabled = 1 → en ≠ 0 → en = 1 ∧ w.sensor.mDetectMode = DETECT_MODE_CROSS_HIGH

def Meets : RearProxSensor.Op → Prop
  | .setEnable handle en interval => handle = ID_RP → w.EnableOk O en interval
  | .readEvents count =>
    Along (handleEvent O) (fun w e => w.sensor.mEnabled = 1 → w.EventOk O e) w
      (w.sensor.handled O count)
  | _ => True

open RearProxSensor (Tracks SameDetection handleSARprocess_cases)

/-- The sensor after the observations `T`. -/
structure Observed (w : Watched) (T : List Obs) : Prop where
  counted : w.sensor.Counted
  pending : w.sensor.mSendData = true →
    w.sensor.mPendingEvents.distance = DETECT_DISTANCE_CLOSE ∨
      w.sensor.mPendingEvents.distance = DETECT_DISTANCE_FAR
  reported : Reported T
  enabled : w.sensor.mEnabled = 1 ↔ (session T).isSome = true
  current : ∀ marks, session T = some marks → ∃ a, Tracks w.sensor w.waits marks a

variable {O : Sysfs} {w t : Watched} {T : List Obs} {d : ℤ}

theorem session_append (T obs : List Obs) : session (T ++ obs) = obs.foldl Obs.after (session T) :=
  List.foldl_append

theorem reported_snoc {o : Obs} (h : Reported T)
    (hvalue : ∀ d, o = .report d → d = DETECT_DISTANCE_CLOSE ∨ d = DETECT_DISTANCE_FAR)
    (hsession : ∀ marks, session (T ++ [o]) = some marks →
      Debounced onSide DETECT_WEIGHT_CEILING marks) : Reported (T ++ [o]) := by
  refine ⟨fun d hd => ?_, fun past hpast marks hmarks => ?_⟩
  · rcases List.mem_append.mp hd with hd | hd
    · exact h.values d hd
    · exact hvalue d (List.mem_singleton.mp hd).symm
  · rcases List.prefix_concat_iff.mp hpast with rfl | hpast
    · exact hsession marks hmarks
    · exact h.sessions past hpast marks hmarks

theorem Observed.same (h : Observed w T) (hsame : SameDetection t.sensor w.sensor)
    (hwaits : t.waits = w.waits) : Observed t T := by
  refine ⟨?_, fun hp => ?_, h.reported, ?_, fun marks hmarks => ?_⟩
  · rw [RearProxSensor.Counted, hsame.distance]
    exact h.counted
  · rw [hsame.pending]
    exact h.pending (hsame.send ▸ hp)
  · rw [hsame.enabled]
    exact h.enabled
  · obtain ⟨a, htracks⟩ := h.current marks hmarks
    exact ⟨a, hwaits ▸ htracks.same hsame⟩

theorem Observed.of_session (h : Observed w T) {marks : List (Mark ℤ)}
    (hmarks : session T = some marks) : w.sensor.mEnabled = 1 :=
  h.enabled.mpr (by rw [hmarks]; rfl)

theorem Observed.mark (h : Observed w T) {o : Obs} {mark : Mark ℤ}
    (ho : ∀ current, Obs.after current o = current.map (· ++ [mark]))
    (hvalue : ∀ d, o = .report d → d = DETECT_DISTANCE_CLOSE ∨ d = DETECT_DISTANCE_FAR)
    (hcounted : t.sensor.Counted)
    (hpending : t.sensor.mSendData = true →
      t.sensor.mPendingEvents.distance = DETECT_DISTANCE_CLOSE ∨
        t.sensor.mPendingEvents.distance = DETECT_DISTANCE_FAR)
    (henabled : t.sensor.mEnabled = w.sensor.mEnabled)
    (hcurrent : ∀ marks, session T = some marks →
      ∃ a, Tracks t.sensor t.waits (marks ++ [mark]) a) :
    Observed t (T ++ [o]) := by
  have hsession : session (T ++ [o]) = (session T).map (· ++ [mark]) :=
    (session_append T _).trans (ho _)
  have hnew (marks : List (Mark ℤ)) (hmarks : session (T ++ [o]) = some marks) :
      ∃ a, Tracks t.sensor t.waits marks a := by
    rw [hsession] at hmarks
    obtain ⟨old, hold, rfl⟩ := Option.map_eq_some_iff.mp hmarks
    exact hcurrent old hold
  refine ⟨hcounted, hpending, reported_snoc h.reported hvalue ?_, ?_, hnew⟩
  · intro marks hmarks
    obtain ⟨a, htracks⟩ := hnew marks hmarks
    exact htracks.kept.toDebounced
  · rw [henabled, hsession, Option.isSome_map]
    exact h.enabled

theorem Observed.processed (h : Observed w T) (O : Sysfs) (d : ℤ) :
    (w.sensor.handleSARprocess O d).Counted ∧
      (w.sensor.handleSARprocess O d).mEnabled = w.sensor.mEnabled ∧
      ((w.sensor.handleSARprocess O d).mSendData = true →
        (w.sensor.handleSARprocess O d).mPendingEvents.distance = DETECT_DISTANCE_CLOSE ∨
          (w.sensor.handleSARprocess O d).mPendingEvents.distance = DETECT_DISTANCE_FAR) := by
  have hcounted := h.counted.weigh d
  obtain ⟨distance, weight, hframe⟩ := RearProxSensor.weigh_frame w.sensor d
  rcases handleSARprocess_cases O w.sensor d with
    ⟨-, pending, hstate, hpending⟩ | ⟨-, mode, log, hstate, -⟩
  · rw [hstate]
    refine ⟨hcounted, by rw [hframe], fun hp => ?_⟩
    rcases hpending with rfl | hnew
    · rw [hframe] at hp
      exact h.pending hp
    · change pending.distance = _ ∨ pending.distance = _
      rw [hnew]
      exact hcounted
  · rw [hstate]
    exact ⟨hcounted, by rw [hframe], fun _ => hcounted⟩

theorem Observed.brings (h : Observed w T) {event : InputEvent}
    (hok : w.sensor.mEnabled = 1 → w.EventOk O event) (habs : event.type = EV_ABS)
    (hcode : event.code = ABS_HAT1X) (henabled : w.sensor.mEnabled = 1) :
    Observed ⟨w.sensor.processEvent O event.code event.value, w.sensor.mTimestampUpdated⟩
      (T ++ [.sample event.value]) := by
  have hbrought : brought event = some event.value := if_pos ⟨habs, hcode⟩
  have hdetects {marks : List (Mark ℤ)} {a : Side} (htracks : Tracks w.sensor w.waits marks a) :
      RearProxSensor.Detects (w.sensor.weigh event.value) (marks ++ [.sample event.value]) a := by
    have hannounced := RearProxSensor.announced_of_mode htracks.mode
    have hquiet := (hok henabled).quiet event.value hbrought
    have hkeeps := (hok henabled).keeps event.value hbrought
    rw [hannounced] at hquiet hkeeps
    exact htracks.brought h.counted hquiet hkeeps
  rw [RearProxSensor.processEvent, if_pos hcode]
  cases hstamp : w.sensor.mTimestampUpdated with
  | true =>
    refine h.mark (fun _ => rfl) (fun _ hd => nomatch hd) h.counted h.pending rfl ?_
    intro marks hmarks
    obtain ⟨a, htracks⟩ := h.current marks hmarks
    exact ⟨a, htracks.wait (hdetects htracks)⟩
  | false =>
    have hweighed : w.sensor.weighed event = some event.value := by
      rw [RearProxSensor.weighed, if_pos habs, if_pos ⟨henabled, hcode, hstamp⟩]
    obtain ⟨hcounted, hsame, hpending⟩ := h.processed O event.value
    refine h.mark (fun _ => rfl) (fun _ hd => nomatch hd) hcounted hpending hsame ?_
    intro marks hmarks
    obtain ⟨a, htracks⟩ := h.current marks hmarks
    obtain ⟨b, hcrossed⟩ := (hdetects htracks).cross h.counted ((hok henabled).opens _ hweighed)
    exact ⟨b, hcrossed.next _ _⟩

theorem Observed.weighs (h : Observed w T) {event : InputEvent}
    (hok : w.sensor.mEnabled = 1 → w.EventOk O event) (hsyn : event.type = EV_SYN)
    (hweighed : w.sensor.weighed event = some w.sensor.mCurrentDistance) :
    Observed ⟨{ w.sensor.handleSARprocess O w.sensor.mCurrentDistance with
      mTimestampUpdated := false }, false⟩ T := by
  obtain ⟨hcounted, hsame, hpending⟩ := h.processed O w.sensor.mCurrentDistance
  refine ⟨hcounted, hpending, h.reported, ?_, fun marks hmarks => ?_⟩
  · change (w.sensor.handleSARprocess O w.sensor.mCurrentDistance).mEnabled = 1 ↔ _
    rw [hsame]
    exact h.enabled
  · have henabled := h.of_session hmarks
    obtain ⟨a, htracks⟩ := h.current marks hmarks
    have hannounced := RearProxSensor.announced_of_mode htracks.mode
    have hdetects : RearProxSensor.Detects (w.sensor.weigh w.sensor.mCurrentDistance) marks a := by
      cases hwaits : w.waits with
      | true =>
        rw [hwaits] at htracks
        exact htracks.settled
      | false =>
        rw [hwaits] at htracks
        have hother := (hok henabled).once hsyn hwaits _ hweighed
        rw [hannounced] at hother
        exact htracks.reweigh h.counted hother
    obtain ⟨b, hcrossed⟩ := hdetects.cross h.counted ((hok henabled).opens _ hweighed)
    exact ⟨b, hcrossed.next _ _⟩

theorem Observed.report (h : Observed w T) (hsend : w.sensor.mSendData = true) :
    Observed ⟨{ w.sensor with mSendData := false }, w.waits⟩
      (T ++ [.report w.sensor.mPendingEvents.distance]) := by
  refine h.mark (fun _ => rfl) (fun d hd => ?_) h.counted (fun hp => absurd hp Bool.false_ne_true)
    rfl fun marks hmarks => ?_
  · rw [← Obs.report.inj hd]
    exact h.pending hsend
  · obtain ⟨a, htracks⟩ := h.current marks hmarks
    exact ⟨a, htracks.sent hsend⟩

theorem Observed.sends (h : Observed w T) {r : RearProxSensor × List SensorsEvent}
    (hr : r = if w.sensor.mSendData then
        ({ w.sensor with mSendData := false }, [.proximity w.sensor.mPendingEvents])
      else (w.sensor, [])) :
    Observed ⟨r.1, w.waits⟩ (T ++ r.2.filterMap RearProxSensor.reported) := by
  subst hr
  cases hsend : w.sensor.mSendData with
  | true => exact h.report hsend
  | false =>
    rw [if_neg Bool.false_ne_true, List.filterMap_nil, List.append_nil]
    exact h

theorem processEvent_other {s : RearProxSensor} {code : ℕ} (hcode : code ≠ ABS_HAT1X) (O : Sysfs)
    (value : ℤ) : SameDetection (s.processEvent O code value) s := by
  rw [RearProxSensor.processEvent, if_neg hcode]
  split_ifs
  · exact ⟨rfl, rfl, rfl, rfl, rfl, rfl, rfl⟩
  · exact ⟨rfl, rfl, rfl, rfl, rfl, rfl, rfl⟩
  · exact .refl s

theorem Observed.abs (h : Observed w T) {event : InputEvent} (habs : event.type = EV_ABS)
    (hok : w.sensor.mEnabled = 1 → w.EventOk O event) :
    Observed (w.handleEvent O event) (T ++ w.sensor.observe O event) := by
  rw [Watched.handleEvent, RearProxSensor.observe, RearProxSensor.handleEvent, if_pos habs,
    if_pos habs, List.filterMap_nil, List.append_nil]
  by_cases hcode : event.code = ABS_HAT1X
  · have hbrought : (brought event).toList.map Obs.sample = [.sample event.value] := by
      rw [brought, if_pos ⟨habs, hcode⟩]
      rfl
    rw [hbrought]
    by_cases henabled : w.sensor.mEnabled = 1
    · rw [if_pos henabled, if_pos ⟨henabled, hcode⟩]
      exact h.brings hok habs hcode henabled
    · rw [if_neg henabled, if_neg fun hboth => henabled hboth.1]
      exact h.mark (fun _ => rfl) (fun _ hd => nomatch hd) h.counted h.pending rfl
        fun marks hmarks => absurd (h.of_session hmarks) henabled
  · have hnone : (brought event).toList.map Obs.sample = [] := by
      rw [brought, if_neg fun hboth => hcode hboth.2]
      rfl
    rw [hnone, List.append_nil]
    refine h.same ?_ (if_neg fun hboth => hcode hboth.2)
    by_cases henabled : w.sensor.mEnabled = 1
    · rw [if_pos henabled]
      exact processEvent_other hcode O event.value
    · rw [if_neg henabled]
      exact .refl _

theorem Observed.sync (h : Observed w T) {event : InputEvent} (hsyn : event.type = EV_SYN)
    (hok : w.sensor.mEnabled = 1 → w.EventOk O event) :
    Observed (w.handleEvent O event) (T ++ w.sensor.observe O event) := by
  have habs : event.type ≠ EV_ABS := by
    rw [hsyn]
    decide
  have hnone : (brought event).toList.map Obs.sample = [] := by
    rw [brought, if_neg fun hboth => habs hboth.1]
    rfl
  rw [Watched.handleEvent, RearProxSensor.observe, RearProxSensor.handleEvent, if_neg habs,
    if_neg habs, if_pos hsyn, hnone, List.nil_append]
  by_cases hflush : w.sensor.mFlushEnabled = 1
  · have hweighed : w.sensor.weighed event = none := by
      rw [RearProxSensor.weighed, if_neg habs, if_neg fun hall => hall.2.1 hflush]
    rw [if_pos hflush, hweighed]
    exact (List.append_nil T).symm ▸ h.same ⟨rfl, rfl, rfl, rfl, rfl, rfl, rfl⟩ rfl
  rw [if_neg hflush]
  cases hstamp : w.sensor.mTimestampUpdated with
  | false =>
    have hweighed : w.sensor.weighed event = none := by
      rw [RearProxSensor.weighed, if_neg habs,
        if_neg fun hall => Bool.false_ne_true (hstamp.symm.trans hall.2.2)]
    rw [hweighed]
    exact h.sends rfl
  | true =>
    have hweighed : w.sensor.weighed event = some w.sensor.mCurrentDistance := by
      rw [RearProxSensor.weighed, if_neg habs, if_pos ⟨hsyn, hflush, hstamp⟩]
    have hsends := (h.weighs hok hsyn hweighed).sends rfl
    rw [hweighed]
    exact hsends

theorem Observed.handleEvent (h : Observed w T) (event : InputEvent)
    (hok : w.sensor.mEnabled = 1 → w.EventOk O event) :
    Observed (w.handleEvent O event) (T ++ w.sensor.observe O event) := by
  by_cases habs : event.type = EV_ABS
  · exact h.abs habs hok
  by_cases hsyn : event.type = EV_SYN
  · exact h.sync hsyn hok
  have hnone : w.sensor.observe O event = [] := by
    rw [RearProxSensor.observe, RearProxSensor.handleEvent, if_neg habs, if_neg hsyn, brought,
      if_neg fun hboth => habs hboth.1]
    rfl
  have hweighed : w.sensor.weighed event = none := by
    rw [RearProxSensor.weighed, if_neg habs, if_neg fun hall => hsyn hall.1]
  rw [hnone, List.append_nil]
  refine h.same ?_ ?_
  · rw [Watched.handleEvent, RearProxSensor.handleEvent, if_neg habs, if_neg hsyn]
    exact .refl _
  · rw [Watched.handleEvent, if_neg habs, hweighed]
    rfl

theorem Observed.events (h : Observed w T) {es : List InputEvent}
    (hok : Along (Watched.handleEvent O) (fun w e => w.sensor.mEnabled = 1 → w.EventOk O e) w es) :
    Observed (es.foldl (Watched.handleEvent O) w)
        (T ++ (transduce (fun s e => ((s.handleEvent O e).1, s.observe O e)) w.sensor es).2) ∧
      (es.foldl (Watched.handleEvent O) w).sensor =
        (transduce (RearProxSensor.handleEvent O) w.sensor es).1 := by
  induction es generalizing w T with
  | nil =>
    rw [transduce, List.append_nil]
    exact ⟨h, rfl⟩
  | cons e es ih =>
    have hrest := ih (h.handleEvent e hok.1) hok.2
    rw [List.append_assoc] at hrest
    exact hrest

theorem setEnable_other {handle : ℤ} (h : handle ≠ ID_RP) (O : Sysfs) (s : RearProxSensor)
    (en : ℤ) (interval : Option ℤ) :
    SameDetection (s.setEnable O handle en interval).2 s := by
  rw [RearProxSensor.setEnable, if_neg h]
  exact ⟨rfl, rfl, rfl, rfl, rfl, rfl, rfl⟩

theorem setEnable_disabled (O : Sysfs) (s : RearProxSensor) (interval : Option ℤ) :
    SameDetection (s.setEnable O ID_RP 0 interval).2 { s with mEnabled := 0 } :=
  ⟨rfl, rfl, rfl, rfl, rfl, rfl, rfl⟩

theorem setEnable_enabled (O : Sysfs) (s : RearProxSensor) {en : ℤ} (hen : en ≠ 0)
    (interval : Option ℤ) :
    SameDetection (s.setEnable O ID_RP en interval).2 { s with
      mEnabled := en
      mDetectDistance := DETECT_DISTANCE_CLOSE
      mDetectMode :=
        if O s.log ({ s with mDetectInterval := interval.getD s.mDetectInterval }.autonomousConfig
          DETECT_MODE_CROSS_HIGH) = true then DETECT_MODE_CROSS_HIGH else s.mDetectMode } := by
  rw [RearProxSensor.setEnable, if_pos rfl]
  dsimp only
  rw [if_pos hen, RearProxSensor.enableSAR_snd,
    RearProxSensor.setSARConfig_snd O _ (fun h => h.1 rfl)]
  exact ⟨rfl, rfl, rfl, rfl, rfl, rfl, rfl⟩

theorem Observed.starts (h : Observed w T) (interval : Option ℤ) (hok : w.EnableOk O 1 interval)
    (hidle : w.sensor.mEnabled ≠ 1) :
    Observed ⟨(w.sensor.setEnable O ID_RP 1 interval).2, false⟩ (T ++ [.enable 1]) := by
  have hnone : session T = none :=
    Option.not_isSome_iff_eq_none.mp fun hsome => hidle (h.enabled.mpr hsome)
  have hsession : session (T ++ [.enable 1]) = some [] := by
    rw [session_append, hnone]
    rfl
  have hquiet := hok.quiet hidle rfl
  refine Observed.same (w := ⟨_, false⟩) ?_ (setEnable_enabled O w.sensor (by decide) interval) rfl
  refine ⟨Or.inl rfl, h.pending, reported_snoc h.reported (fun _ hd => nomatch hd) ?_, ?_, ?_⟩
  · intro marks hmarks
    rw [hsession] at hmarks
    rw [← Option.some.inj hmarks]
    exact (Kept.start _ .near 0).toDebounced
  · rw [hsession]
    exact iff_of_true rfl rfl
  · intro marks hmarks
    rw [hsession] at hmarks
    rw [← Option.some.inj hmarks]
    refine ⟨.near, ⟨?_, ?_, fun hp => absurd (hquiet.symm.trans hp) Bool.false_ne_true⟩,
      fun hne => absurd rfl hne⟩
    · change (if _ then _ else _) = _
      split_ifs with hopens
      · rfl
      · by_contra hmode
        exact hopens (hok.opens hidle rfl hmode)
    · change Kept _ _ _ _ _ w.sensor.mDetectWeight w.sensor.mSendData
      rw [hquiet]
      exact Kept.start _ _ _

theorem Observed.again (h : Observed w T) (interval : Option ℤ) (hok : w.EnableOk O 1 interval)
    (henabled : w.sensor.mEnabled = 1) :
    Observed ⟨(w.sensor.setEnable O ID_RP 1 interval).2, w.waits⟩ (T ++ [.enable 1]) := by
  obtain ⟨marks, hmarks⟩ := Option.isSome_iff_exists.mp (h.enabled.mp henabled)
  have hsession : session (T ++ [.enable 1]) = session T := by
    rw [session_append, hmarks]
    rfl
  have hmode := (hok.again henabled (by decide)).2
  refine Observed.same (w := ⟨_, w.waits⟩) ?_
    (setEnable_enabled O w.sensor (by decide) interval) rfl
  rw [hmode, ite_self]
  refine ⟨Or.inl rfl, h.pending, reported_snoc h.reported (fun _ hd => nomatch hd) ?_, ?_, ?_⟩
  · intro marks hmarks
    rw [hsession] at hmarks
    exact h.reported.sessions T (List.prefix_refl T) marks hmarks
  · rw [hsession, ← h.enabled]
    exact iff_of_true rfl henabled
  · intro marks hmarks
    rw [hsession] at hmarks
    obtain ⟨a, htracks⟩ := h.current marks hmarks
    have hnear : a = .near := by
      rw [← RearProxSensor.announced_of_mode htracks.mode]
      exact if_pos hmode
    subst hnear
    have hrestart := htracks.restart h.counted
    exact ⟨.near, hrestart.same ⟨henabled.symm, rfl, rfl, hmode.symm, rfl, rfl, rfl⟩⟩

theorem Observed.ends (h : Observed w T) {en : ℤ} (hen : en ≠ 1) (interval : Option ℤ)
    (hok : w.EnableOk O en interval) :
    Observed ⟨(w.sensor.setEnable O ID_RP en interval).2, w.waits⟩ (T ++ [.enable en]) := by
  have hsession : session (T ++ [.enable en]) = none := by
    rw [session_append, List.foldl_cons, Obs.after, if_neg hen]
    split_ifs with hzero
    · rfl
    · exact Option.not_isSome_iff_eq_none.mp fun hsome =>
        hen (hok.again (h.enabled.mpr hsome) hzero).1
  have hreported : Reported (T ++ [.enable en]) :=
    reported_snoc h.reported (fun _ hd => nomatch hd) fun marks hmarks => by
      rw [hsession] at hmarks
      cases hmarks
  have hcurrent (marks : List (Mark ℤ)) (hmarks : session (T ++ [.enable en]) = some marks) :
      False := by
    rw [hsession] at hmarks
    cases hmarks
  have hoff : en = 1 ↔ (session (T ++ [.enable en])).isSome = true := by
    rw [hsession]
    exact iff_of_false hen Bool.false_ne_true
  by_cases hzero : en = 0
  · subst hzero
    refine Observed.same (w := ⟨_, w.waits⟩) ?_ (setEnable_disabled O w.sensor interval) rfl
    exact ⟨h.counted, h.pending, hreported, hoff, fun marks hmarks => (hcurrent marks hmarks).elim⟩
  · refine Observed.same (w := ⟨_, w.waits⟩) ?_ (setEnable_enabled O w.sensor hzero interval) rfl
    exact ⟨Or.inl rfl, h.pending, hreported, hoff, fun marks hmarks => (hcurrent marks hmarks).elim⟩

theorem setEnable_reader (O : Sysfs) (s : RearProxSensor) (handle en : ℤ) (interval : Option ℤ) :
    (s.setEnable O handle en interval).2.mInputReader = s.mInputReader := by
  rw [RearProxSensor.setEnable]
  by_cases hhandle : handle = ID_RP
  swap
  · rw [if_neg hhandle]
  rw [if_pos hhandle]
  dsimp only
  by_cases hen : en ≠ 0
  · rw [if_pos hen, RearProxSensor.enableSAR_snd,
      RearProxSensor.setSARConfig_snd O _ (fun h => h.1 rfl)]
  · rw [if_neg hen, RearProxSensor.enableSAR_snd]

theorem batch_same (O : Sysfs) (s : RearProxSensor) (handle ns : ℤ) :
    SameDetection (s.batch O handle ns).2 s ∧
      (s.batch O handle ns).2.mInputReader = s.mInputReader := by
  rw [RearProxSensor.batch]
  split_ifs
  · exact ⟨.refl s, rfl⟩
  · exact ⟨⟨rfl, rfl, rfl, rfl, rfl, rfl, rfl⟩, rfl⟩
  · exact ⟨.refl s, rfl⟩

theorem flush_same (O : Sysfs) (s : RearProxSensor) (handle : ℤ) :
    SameDetection (s.flush O handle).2 s ∧
      (s.flush O handle).2.mInputReader = s.mInputReader := by
  rw [RearProxSensor.flush]
  split_ifs
  · exact ⟨⟨rfl, rfl, rfl, rfl, rfl, rfl, rfl⟩, rfl⟩
  · exact ⟨.refl s, rfl⟩

theorem Observed.setEnable (h : Observed w T) (en : ℤ) (interval : Option ℤ)
    (hok : w.EnableOk O en interval) :
    Observed (w.step O (.setEnable ID_RP en interval)) (T ++ [.enable en]) := by
  rw [Watched.step]
  by_cases hen : en = 1
  swap
  · simp only [hen, false_and, and_false, ↓reduceIte]
    exact h.ends hen interval hok
  subst hen
  by_cases henabled : w.sensor.mEnabled = 1
  · simp only [henabled, ne_eq, not_true_eq_false, and_false, ↓reduceIte]
    exact h.again interval hok henabled
  · simp only [henabled, ne_eq, not_false_eq_true, and_self, ↓reduceIte]
    exact h.starts interval hok henabled

theorem observed_step (hwf : w.sensor.mInputReader.Wf) (h : Observed w T)
    {op : RearProxSensor.Op} (hok : w.Meets O op) :
    (w.step O op).sensor.mInputReader.Wf ∧
      Observed (w.step O op) (T ++ w.sensor.observations O op) := by
  cases op with
  | setEnable handle en interval =>
    refine ⟨(setEnable_reader O w.sensor handle en interval).symm ▸ hwf, ?_⟩
    by_cases hhandle : handle = ID_RP
    · subst hhandle
      exact h.setEnable en interval (hok rfl)
    · rw [RearProxSensor.observations, if_neg hhandle, List.append_nil]
      exact h.same (setEnable_other hhandle O w.sensor en interval)
        (if_neg fun hall => hhandle hall.1)
  | batch handle ns =>
    obtain ⟨hsame, hreader⟩ := batch_same O w.sensor handle ns
    exact ⟨hreader.symm ▸ hwf, (List.append_nil T).symm ▸ h.same hsame rfl⟩
  | flush handle =>
    obtain ⟨hsame, hreader⟩ := flush_same O w.sensor handle
    exact ⟨hreader.symm ▸ hwf, (List.append_nil T).symm ▸ h.same hsame rfl⟩
  | readEvents count =>
    obtain ⟨hevents, hsensor⟩ := h.events hok
    simp only [Watched.step, RearProxSensor.step, RearProxSensor.observations,
      RearProxSensor.readEvents, RearProxSensor.handled] at hevents hsensor ⊢
    by_cases hcount : count < 1
    · simp only [if_pos hcount, transduce, List.append_nil]
      exact ⟨hwf, h⟩
    · simp only [if_neg hcount] at hevents hsensor ⊢
      obtain ⟨es, hread⟩ := InputEventCircularReader.readInput_spec
        (RearProxSensor.handleEvent O) hwf count w.sensor.dataFd w.sensor
      rw [hread.runs] at hsensor
      refine ⟨hread.wf, hevents.same ?_ rfl⟩
      rw [hsensor]
      exact ⟨rfl, rfl, rfl, rfl, rfl, rfl, rfl⟩
  | arrive es =>
    exact ⟨hwf, (List.append_nil T).symm ▸ h.same ⟨rfl, rfl, rfl, rfl, rfl, rfl, rfl⟩ rfl⟩
  | fault f =>
    exact ⟨hwf, (List.append_nil T).symm ▸ h.same ⟨rfl, rfl, rfl, rfl, rfl, rfl, rfl⟩ rfl⟩

theorem observed_run (hwf : w.sensor.mInputReader.Wf) (h : Observed w T)
    {ops : List RearProxSensor.Op} (hok : Along (step O) (Meets O) w ops) :
    Observed (ops.foldl (step O) w)
      (ops.foldl (fun p op => (p.1.step O op, p.2 ++ p.1.observations O op)) (w.sensor, T)).2 := by
  induction ops generalizing w T with
  | nil => exact h
  | cons op ops ih =>
    obtain ⟨hwf', hstep⟩ := observed_step hwf h hok.1
    exact ih hwf' hstep hok.2

theorem observed_start (memory : ℕ → InputEvent) (distance : ℕ) :
    Observed ⟨.start memory distance, false⟩ [] where
  counted := Or.inl rfl
  pending hp := absurd hp Bool.false_ne_true
  reported := ⟨fun d hd => absurd hd List.not_mem_nil, fun past hpast marks hmarks => by
    rw [List.prefix_nil.mp hpast] at hmarks
    cases hmarks⟩
  enabled := iff_of_false (zero_ne_one : (0 : ℤ) ≠ 1) Bool.false_ne_true
  current marks hmarks := nomatch hmarks

end Watched

/-- The reports of every session are debounced in every run whose steps all meet the
condition. -/
theorem sessions_debounced (O : Sysfs) (memory : ℕ → InputEvent) (distance : ℕ)
    (ops : List RearProxSensor.Op)
    (h : Along (Watched.step O) (Watched.Meets O) ⟨.start memory distance, false⟩ ops) :
    Reported (RearProxSensor.run O (.start memory distance) ops).2 :=
  (Watched.observed_run (InputEventCircularReader.start_wf (by decide) memory)
    (Watched.observed_start memory distance) h).reported

def sync : InputEvent := ⟨EV_SYN, 0, 0⟩

namespace RearProxSensor

theorem handled_all {O : Sysfs} {s : RearProxSensor} {es : List InputEvent} {count : ℤ}
    (hwf : s.mInputReader.Wf) (hempty : s.mInputReader.queued = [])
    (hqueue : s.dataFd.queue = es) (hfault : s.dataFd.fault = none)
    (hroom : es.length ≤ s.mInputReader.mFreeSpace)
    (hcount : ((transduce (handleEvent O) s es).2.length : ℤ) < count) :
    s.handled O count = es := by
  subst hqueue
  have hcount' : ((transduce (handleEvent O) s
      (s.mInputReader.queued ++ s.dataFd.queue)).2.length : ℤ) < count := by
    rw [hempty]
    exact hcount
  have hall := InputEventCircularReader.readInput_all (handleEvent O) hwf hfault hroom hcount'
  rw [handled, if_neg (by omega), hall, hempty, List.nil_append]

def opened (O : Sysfs) (es : List InputEvent) : RearProxSensor :=
  [.setEnable ID_RP 1 none, .arrive es].foldl (step O) (start (fun _ => sync) 0)

theorem run_opened {O : Sysfs} {es : List InputEvent} {obs : List Obs}
    (hhandled : (opened O es).handled O 16 = es)
    (hobs : (transduce (fun t e => ((t.handleEvent O e).1, t.observe O e)) (opened O es) es).2 =
      obs) :
    (run O (start (fun _ => sync) 0)
      [.setEnable ID_RP 1 none, .arrive es, .readEvents 16]).2 = .enable 1 :: obs := by
  have hcall : (opened O es).observations O (.readEvents 16) = obs := by
    rw [observations, hhandled, hobs]
  rw [← hcall]
  rfl

end RearProxSensor

def sampleOf (d : ℤ) : InputEvent := ⟨EV_ABS, ABS_HAT1X, d⟩

def stamp : InputEvent := ⟨EV_ABS, ABS_HAT0Y, 0⟩

def away : List InputEvent := [sampleOf 100, sync, sampleOf 100, sync, sampleOf 100, sync]

def awayAndBack : List InputEvent :=
  [sampleOf 100, sampleOf 100, sync, stamp, sampleOf 50, sync, sampleOf 50, sync]

/-- Away from the sensor and back, with everything opening. -/
theorem sessions_debounced_swing :
    Reported (RearProxSensor.run (fun _ _ => true) (.start (fun _ => sync) 0)
      [.setEnable ID_RP 1 none, .arrive awayAndBack, .readEvents 16]).2 := by
  have hhandled : (RearProxSensor.opened (fun _ _ => true) awayAndBack).handled
      (fun _ _ => true) 16 = awayAndBack :=
    RearProxSensor.handled_all (InputEventCircularReader.start_wf (by decide) _)
      (InputEventCircularReader.start_queued _ _) rfl rfl (by decide) (by decide)
  refine sessions_debounced _ _ _ _ ⟨fun _ => ⟨fun _ _ => rfl, fun _ _ _ => rfl, fun hon _ => ?_⟩,
    trivial, ?_, trivial⟩
  · exact absurd hon (zero_ne_one : (0 : ℤ) ≠ 1)
  change Along (Watched.handleEvent _) _ ⟨RearProxSensor.opened _ _, false⟩
    ((RearProxSensor.opened _ _).handled _ 16)
  rw [hhandled]
  -- no report waits at a distance, and only the distance after the time stamp waits for its sync
  have hsample {w : Watched} (hsend : w.sensor.mSendData = false) (hwaits : w.waits = false)
      (d : ℤ) :
      w.sensor.mEnabled = 1 → w.EventOk (fun _ _ => true) (sampleOf d) :=
    fun _ => ⟨fun _ _ h => absurd (hsend.symm.trans h) Bool.false_ne_true,
      fun _ _ h => absurd (hwaits.symm.trans h) Bool.false_ne_true,
      fun h => absurd h (by decide : EV_ABS ≠ EV_SYN), fun _ _ _ => rfl⟩
  have hother {w : Watched} {event : InputEvent} (hbrought : RearProxSensor.brought event = none)
      (hweighed : w.waits = false → w.sensor.weighed event = none) :
      w.sensor.mEnabled = 1 → w.EventOk (fun _ _ => true) event :=
    fun _ => ⟨fun _ h => absurd (hbrought.symm.trans h) (Option.some_ne_none _).symm,
      fun _ h => absurd (hbrought.symm.trans h) (Option.some_ne_none _).symm,
      fun _ h _ h' => absurd ((hweighed h).symm.trans h') (Option.some_ne_none _).symm,
      fun _ _ _ => rfl⟩
  exact ⟨hsample rfl rfl 100, hsample rfl rfl 100, hother rfl fun _ => rfl,
    hother rfl fun _ => rfl, hsample rfl rfl 50, hother rfl (nomatch ·), hsample rfl rfl 50,
    hother rfl fun _ => rfl, trivial⟩

def noConfig : Sysfs := fun _ w =>
  match w with
  | .autonomousConfig _ _ _ _ _ => false
  | _ => true

theorem failed_switch_reported_twice :
    ¬ Reported (RearProxSensor.run noConfig (.start (fun _ => sync) 0)
      [.setEnable ID_RP 1 none, .arrive away, .readEvents 16]).2 := by
  have hhandled : (RearProxSensor.opened noConfig away).handled noConfig 16 = away :=
    RearProxSensor.handled_all (InputEventCircularReader.start_wf (by decide) _)
      (InputEventCircularReader.start_queued _ _) rfl rfl (by decide) (by decide)
  rw [RearProxSensor.run_opened hhandled rfl]
  intro h
  have hdebounced := h.sessions _ (List.prefix_refl _) _ rfl
  exact absurd hdebounced.alternates (by decide)

end Cedric.Tof
