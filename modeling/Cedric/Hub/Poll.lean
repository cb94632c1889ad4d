import Cedric.Hub.Capacity
import Cedric.Hub.SetDelay

/-!
# `poll__poll` over the drivers

`pollEvents` waits for a descriptor and hands each ready driver the room that is
left; `poll__poll` repeats it until an event arrives. The hub driver reads a
queue of replies. The other drivers of the board are the two rear proximity
sensors, which are arbitrary here.
-/

namespace Cedric.Hub

open ReadLoop

variable {F : Type}

def EINTR : ℤ := 4

/-- The hub, what its next reads will answer, the records its stack frames hold
before they are read into, and the errors the next calls of `poll` end in. -/
structure World (F : Type) where
  hub : HubSensors F
  queue : List (Reply SensorData)
  buffs : ℕ → SensorData
  failures : List ℤ

/-- A sensor of `mSensors`; `error` is a negative result of its `readEvents`. -/
structure Driver (F : Type) where
  pollIn : World F → Bool
  hasPendingEvents : World F → Bool
  readEvents : ℤ → World F → Except ℤ (List (Event F)) × World F

/-- The drivers with their `POLLIN` bits; `count` is the room left. -/
def readDrivers : List (Option (Driver F) × Bool) → ℤ → World F → List (Event F) →
    List (Event F) × World F
  | [], _, w, data => (data, w)
  | (sensor, revents) :: rest, count, w, data =>
    if count = 0 then (data, w)
    else
      match sensor with
      | none => readDrivers rest count w data
      | some sensor =>
        if revents || sensor.hasPendingEvents w then
          match sensor.readEvents count w with
          | (.error _, w) => (data, w)
          | (.ok nb, w) => readDrivers rest (count - nb.length) w (data ++ nb)
        else readDrivers rest count w data

/-- The calls of `poll`, restarted on `EINTR`: whether the last one succeeds, with
the errors still to come. Without a ready descriptor it blocks for good. -/
def pollWait (ready : Bool) : List ℤ → Option (Bool × List ℤ)
  | [] => if ready then some (true, []) else none
  | err :: failures => if err = EINTR then pollWait ready failures else some (false, failures)

structure Polled (F : Type) where
  ret : ℤ
  data : List (Event F)
  world : World F

section Poll
variable (mSensors : List (Option (Driver F))) (data : Bool) (count : ℤ)

/-- `data` tells whether the caller's pointer is not null. -/
def pollEvents (w : World F) : Option (Polled F) :=
  if !data then some ⟨-EINVAL, [], w⟩
  else if count < 1 then some ⟨-EINVAL, [], w⟩
  else
    match pollWait (mSensors.any fun d => d.any fun d => d.pollIn w) w.failures with
    | none => none
    | some (false, failures) => some ⟨0, [], { w with failures := failures }⟩
    | some (true, failures) =>
      let fds := mSensors.map fun d => (d, d.any fun d => d.pollIn w)
      let r := readDrivers fds count { w with failures := failures } []
      some ⟨r.1.length, r.1, r.2⟩

/-- `poll__poll`, for at most `fuel` iterations. -/
def pollPoll : ℕ → World F → Option (Polled F)
  | 0, _ => none
  | fuel + 1, w =>
    match pollEvents mSensors data count w with
    | none => none
    | some r => if r.ret = 0 then pollPoll fuel r.world else some r

variable {mSensors data count} in
theorem pollPoll_of_stored (fuel : ℕ) {w : World F} {r : Polled F}
    (h : pollEvents mSensors data count w = some r) (hret : r.ret ≠ 0) :
    pollPoll mSensors data count (fuel + 1) w = some r := by
  rw [pollPoll, h]
  exact if_neg hret

inductive Iterates (w : World F) : World F → Prop
  | first : Iterates w w
  | again {w' : World F} {r : Polled F} (h : Iterates w w')
      (hr : pollEvents mSensors data count w' = some r) (hret : r.ret = 0) : Iterates w r.world

end Poll

section Hub
variable [FloatOps F] (H : Stml0xxHeader) (K : Kernel)

def hubDriver : Driver F where
  pollIn w := !w.queue.isEmpty
  hasPendingEvents _ := false
  readEvents count w :=
    let r := readEvents H K (w.buffs 0) count w.hub w.queue
    (.ok r.events, { w with hub := r.hub, queue := r.rest, buffs := fun n => w.buffs (n + 1) })

def drivers (rearprox rearprox_2 : Option (Driver F)) : List (Option (Driver F)) :=
  [some (hubDriver H K), rearprox, rearprox_2]

end Hub

def Silent (sensor : Option (Driver F)) : Prop :=
  ∀ d ∈ sensor, ∀ w, d.pollIn w = false ∧ d.hasPendingEvents w = false

theorem pollWait_ready (failures : List ℤ) :
    pollWait true failures = some (true, []) ∨
      ∃ rest, pollWait true failures = some (false, rest) ∧ rest.length < failures.length := by
  induction failures with
  | nil => exact Or.inl rfl
  | cons err failures ih =>
    by_cases herr : err = EINTR
    · rw [pollWait, if_pos herr]
      rcases ih with h | h
      · exact Or.inl h
      · obtain ⟨rest, hr, hlen⟩ := h
        exact Or.inr ⟨rest, hr, Nat.lt_succ_of_lt hlen⟩
    · rw [pollWait, if_neg herr]
      exact Or.inr ⟨failures, rfl, Nat.lt_succ_self _⟩

theorem readDrivers_silent {sensor : Option (Driver F)} (h : Silent sensor)
    (rest : List (Option (Driver F) × Bool)) (count : ℤ) (w w' : World F) (es : List (Event F))
    (hrest : ∀ count, readDrivers rest count w es = (es, w)) :
    readDrivers ((sensor, sensor.any fun d => d.pollIn w') :: rest) count w es = (es, w) := by
  simp only [readDrivers]
  split_ifs
  · rfl
  · cases sensor with
    | none => exact hrest count
    | some d =>
      have hpoll := (h d rfl w').1
      have hpending := (h d rfl w).2
      simp only [Option.any_some, hpoll, hpending, Bool.or_self, Bool.false_eq_true, ↓reduceIte]
      exact hrest count

section Progress
variable [FloatOps F] {H : Stml0xxHeader} {K : Kernel} {rearprox rearprox_2 : Option (Driver F)}
variable {count : ℤ}

def hubRead (H : Stml0xxHeader) (K : Kernel) (count : ℤ) (w : World F) : ReadResult F :=
  readEvents H K (w.buffs 0) count w.hub w.queue

/-- An iteration over a readable hub ends in a failed `poll` or hands over what the
hub reads. -/
theorem pollEvents_cases (hcount : 1 ≤ count) (hrp : Silent rearprox) (hrp2 : Silent rearprox_2)
    {w : World F} (hw : w.queue ≠ []) :
    (∃ rest, rest.length < w.failures.length ∧ pollWait true w.failures = some (false, rest) ∧
      pollEvents (drivers H K rearprox rearprox_2) true count w =
        some ⟨0, [], { w with failures := rest }⟩) ∨
    (∃ w', w'.queue = (hubRead H K count w).rest ∧ pollWait true w.failures = some (true, []) ∧
      pollEvents (drivers H K rearprox rearprox_2) true count w =
        some ⟨(hubRead H K count w).events.length, (hubRead H K count w).events, w'⟩) := by
  have hin : (hubDriver H K).pollIn w = true := by
    simp only [hubDriver, Bool.not_eq_true', List.isEmpty_eq_false_iff]
    exact hw
  have hready : ((drivers H K rearprox rearprox_2).any fun d => d.any fun d => d.pollIn w) =
      true := by
    simp only [drivers, List.any_cons, Option.any_some, hin, Bool.true_or]
  have hpos : ¬ count < 1 := by omega
  rcases pollWait_ready w.failures with h | h
  · right
    let w' : World F := { w with
      failures := [], hub := (hubRead H K count w).hub, queue := (hubRead H K count w).rest,
      buffs := fun n => w.buffs (n + 1) }
    refine ⟨w', rfl, h, ?_⟩
    have hnil (count : ℤ) : readDrivers [] count w' (hubRead H K count w).events =
        ((hubRead H K count w).events, w') := rfl
    have hreads : readDrivers
        ((drivers H K rearprox rearprox_2).map fun d => (d, d.any fun d => d.pollIn w)) count
          { w with failures := [] } [] = ((hubRead H K count w).events, w') := by
      have hrest := readDrivers_silent hrp [(rearprox_2, rearprox_2.any fun d => d.pollIn w)]
        (count - (hubRead H K count w).events.length) w' w (hubRead H K count w).events
        (fun c => readDrivers_silent hrp2 [] c w' w _ (fun _ => rfl))
      simp only [drivers, List.map_cons, List.map_nil, Option.any_some, hin]
      rw [readDrivers, if_neg (by omega)]
      exact hrest
    simp only [pollEvents, hready, h, hreads, Bool.not_true, Bool.false_eq_true, ↓reduceIte, hpos]
  · left
    obtain ⟨rest, hr, hlen⟩ := h
    refine ⟨rest, hlen, hr, ?_⟩
    simp only [pollEvents, hready, hr, Bool.not_true, Bool.false_eq_true, ↓reduceIte, hpos]

theorem pollPoll_of_events (hcount : 1 ≤ count) (hrp : Silent rearprox) (hrp2 : Silent rearprox_2)
    (n : ℕ) {w : World F} (hn : w.failures.length ≤ n) (hw : w.queue ≠ [])
    (hev : (hubRead H K count w).events ≠ []) :
    ∃ r, pollPoll (drivers H K rearprox rearprox_2) true count (n + 1) w = some r ∧
      r.ret = (hubRead H K count w).events.length := by
  induction n generalizing w with
  | zero =>
    rcases pollEvents_cases (H := H) (K := K) hcount hrp hrp2 hw with h | h
    · obtain ⟨rest, hlen, -, -⟩ := h
      omega
    · obtain ⟨w', -, -, he⟩ := h
      exact ⟨_, pollPoll_of_stored 0 he (by simpa using hev), rfl⟩
  | succ n ih =>
    rcases pollEvents_cases (H := H) (K := K) hcount hrp hrp2 hw with h | h
    · obtain ⟨rest, hlen, -, he⟩ := h
      obtain ⟨r, hr, hret⟩ := ih (w := { w with failures := rest }) (by
        change rest.length ≤ n
        omega) hw hev
      refine ⟨r, ?_, hret⟩
      rw [pollPoll, he]
      exact hr
    · obtain ⟨w', -, -, he⟩ := h
      exact ⟨_, pollPoll_of_stored (n + 1) he (by simpa using hev), rfl⟩

theorem pollPoll_ret (hcount : 1 ≤ count) (hrp : Silent rearprox) (hrp2 : Silent rearprox_2)
    (fuel : ℕ) {w : World F} {r : Polled F} (hw : w.queue ≠ [])
    (hev : (hubRead H K count w).events ≠ [])
    (h : pollPoll (drivers H K rearprox rearprox_2) true count fuel w = some r) :
    r.ret = (hubRead H K count w).events.length := by
  induction fuel generalizing w with
  | zero => cases h
  | succ fuel ih =>
    rw [pollPoll] at h
    rcases pollEvents_cases (H := H) (K := K) hcount hrp hrp2 hw with hc | hc
    · obtain ⟨rest, -, -, he⟩ := hc
      rw [he] at h
      exact ih (w := { w with failures := rest }) hw hev h
    · obtain ⟨w', -, -, he⟩ := hc
      rw [he] at h
      simp only [Int.natCast_eq_zero, List.length_eq_zero_iff, hev, ↓reduceIte] at h
      rw [← Option.some.inj h]

theorem iterates_spec (hcount : 1 ≤ count) (hrp : Silent rearprox) (hrp2 : Silent rearprox_2)
    {w w' : World F} (hw : w.queue ≠ []) (hev : (hubRead H K count w).events ≠ [])
    (h : Iterates (drivers H K rearprox rearprox_2) true count w w') :
    w'.queue = w.queue ∧ hubRead H K count w' = hubRead H K count w := by
  induction h with
  | first => exact ⟨rfl, rfl⟩
  | @again w' r _ hr hret ih =>
    obtain ⟨hq, hread⟩ := ih
    have hw' : w'.queue ≠ [] := by rwa [hq]
    rcases pollEvents_cases (H := H) (K := K) hcount hrp hrp2 hw' with hc | hc
    · obtain ⟨rest, -, -, he⟩ := hc
      rw [he] at hr
      rw [← Option.some.inj hr]
      exact ⟨hq, hread⟩
    · obtain ⟨u, -, -, he⟩ := hc
      rw [he] at hr
      rw [← Option.some.inj hr, hread] at hret
      exact absurd hret (by simpa using hev)

theorem pollPoll_of_lt_four (hcount : 1 ≤ count) (hlt : count < 4) (hrp : Silent rearprox)
    (hrp2 : Silent rearprox_2) (fuel : ℕ) {w : World F} (hw : w.queue ≠ []) :
    pollPoll (drivers H K rearprox rearprox_2) true count fuel w = none := by
  induction fuel generalizing w with
  | zero => rfl
  | succ fuel ih =>
    rw [pollPoll]
    rcases pollEvents_cases (H := H) (K := K) hcount hrp hrp2 hw with h | h
    · obtain ⟨rest, -, -, he⟩ := h
      rw [he]
      exact ih (w := { w with failures := rest }) hw
    · obtain ⟨w', hq, -, he⟩ := h
      obtain ⟨hnil, hrest⟩ :=
        readEvents_of_lt_four H K (w.buffs 0) hcount hlt w.hub w.queue
      have hevents : (hubRead H K count w).events = [] := hnil
      rw [he, hevents]
      exact ih (by rw [hq, hubRead, hrest]; exact hw)

end Progress

/-- The poll returns between 1 and `count` events, and every iteration whose `poll`
finds the hub readable consumes a record. -/
structure Progresses (mSensors : List (Option (Driver F))) (count : ℤ) (w : World F) : Prop where
  returns : ∃ fuel r, pollPoll mSensors true count fuel w = some r ∧ 1 ≤ r.ret ∧ r.ret ≤ count
  consumes : ∀ w' r rest, Iterates mSensors true count w w' → w'.queue ≠ [] →
    pollWait true w'.failures = some (true, rest) →
      pollEvents mSensors true count w' = some r → r.world.queue.length < w'.queue.length

theorem progresses_iff [FloatOps F] (H : Stml0xxHeader) (K : Kernel)
    {rearprox rearprox_2 : Option (Driver F)} (hrp : Silent rearprox) (hrp2 : Silent rearprox_2)
    {count : ℤ} (hcount : 1 ≤ count) {w : World F} {records : List SensorData}
    (hqueue : w.queue = records.map .full) (hprod : ∃ b ∈ records, 0 < w.hub.fanOut b.type) :
    Progresses (drivers H K rearprox rearprox_2) count w ↔
      4 ≤ count ∧ ¬ Overrun w.hub count records := by
  have hw : w.queue ≠ [] := by
    obtain ⟨b, hb, -⟩ := hprod
    rw [hqueue]
    simpa using List.ne_nil_of_mem hb
  by_cases hfour : 4 ≤ count
  · obtain ⟨hev, hrest⟩ := readEvents_of_four_le H K (w.buffs 0) hfour w.hub hprod
    rw [← hqueue] at hev hrest
    have hlen := readEvents_length H K (w.buffs 0) hcount w.hub records
    rw [← hqueue] at hlen
    constructor
    · intro h
      obtain ⟨fuel, r, hr, -, hle⟩ := h.returns
      rw [pollPoll_ret hcount hrp hrp2 fuel hw hev hr] at hle
      exact ⟨hfour, hlen.mp hle⟩
    · intro h
      obtain ⟨r, hr, hret⟩ := pollPoll_of_events hcount hrp hrp2 _ le_rfl hw hev
      have hone : 0 < (hubRead H K count w).events.length := List.length_pos_iff.mpr hev
      refine ⟨⟨_, r, hr, by omega, ?_⟩, ?_⟩
      · rw [hret]
        exact hlen.mpr h.2
      · intro w' r rest hit hw' hwait hr
        obtain ⟨hq, hread⟩ := iterates_spec hcount hrp hrp2 hw hev hit
        rcases pollEvents_cases (H := H) (K := K) hcount hrp hrp2 hw' with hc | hc
        · obtain ⟨_, -, hfail, -⟩ := hc
          rw [hwait] at hfail
          cases hfail
        · obtain ⟨u, hu, -, he⟩ := hc
          rw [he] at hr
          rw [← Option.some.inj hr, hu, hread, hq, hqueue, List.length_map]
          exact hrest
  · refine iff_of_false (fun h => ?_) (fun h => hfour h.1)
    obtain ⟨fuel, r, hr, -, -⟩ := h.returns
    rw [pollPoll_of_lt_four hcount (by omega) hrp hrp2 fuel hw] at hr
    cases hr

theorem silent_none : Silent (none : Option (Driver F)) := by
  intro d hd
  cases hd

def lightWorld : World ℚ :=
  ⟨.start none none, [.full (.blank .DT_ALS)], fun _ => .blank (.other 0), []⟩

theorem progresses_with_four_slots :
    Progresses (drivers .numbered (fun _ _ => 0) none none) 4 lightWorld :=
  (progresses_iff .numbered (fun _ _ => 0) silent_none silent_none (by decide)
    (show lightWorld.queue = [SensorData.blank .DT_ALS].map .full from rfl)
    ⟨.blank .DT_ALS, List.mem_singleton.mpr rfl, by decide⟩).mpr
      ⟨by decide, fun h => absurd h.1 (by decide)⟩

theorem poll_never_returns_with_three_slots :
    0 < lightWorld.hub.fanOut .DT_ALS ∧
      ¬ Progresses (drivers .numbered (fun _ _ => 0) none none) 3 lightWorld := by
  refine ⟨by decide, fun h => ?_⟩
  obtain ⟨fuel, r, hr, -, -⟩ := h.returns
  rw [pollPoll_of_lt_four (by decide) (by decide) silent_none silent_none fuel (by decide)] at hr
  cases hr

end Cedric.Hub
