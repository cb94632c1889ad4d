import Cedric.Hub.RearProx

/-!
# What `RearProxSensor` makes of its input

An event is the last distance noted before its `EV_SYN`, however the input is cut
into reads and calls. Its time is computed from the `EV_SYN` and dropped; the
event leaves with the time stamp that the constructor left in `mPendingEvents`.
-/

namespace Cedric.Hub.RearProxSensor

open Runs

variable {F : Type} [FloatOps F]

structure Timeval where
  tvSec : ℤ
  tvUsec : ℤ

def timevalToNano (t : Timeval) : ℤ := t.tvSec * 1000000000 + t.tvUsec * 1000

/-- Input arrives, the next `read` meets a fault, or `readEvents` is called. -/
inductive Action
  | arrive (es : List InputEvent)
  | fault (f : ReadFault)
  | readEvents (count : ℤ)

def act (s : RearProxSensor F) : Action → RearProxSensor F × List (Event F)
  | .arrive es => ({ s with dataFd := { s.dataFd with queue := s.dataFd.queue ++ es } }, [])
  | .fault f => ({ s with dataFd := { s.dataFd with fault := some f } }, [])
  | .readEvents count => ((s.readEvents count).2, (s.readEvents count).1)

def syns (es : List InputEvent) : List ℕ :=
  (List.range es.length).filter fun i => decide ((es[i]?.map InputEvent.type) = some EV_SYN)

def isDistance (e : InputEvent) : Bool :=
  decide (e.type = EV_ABS ∧ e.code = ABS_DISTANCE ∧ e.value ≠ -1)

def lastDistance (distance : F) (es : List InputEvent) : F :=
  ((es.filter isDistance).getLast?.map fun e => ofInt e.value).getD distance

def eventAt (first : Event F) (distance : F) (before : List InputEvent) (timestamp : ℤ) : Event F :=
  { first with payload := .distance (lastDistance distance before), timestamp := timestamp }

/-- The `k`-th event returned is the one for the `k`-th `EV_SYN` delivered, `stamps` being the
times of the inputs delivered. -/
def Decodes (first : Event F) (distance : F) (stamps : ℕ → Timeval) (s : RearProxSensor F)
    (out : List (Event F)) : Prop :=
  out <+: (syns s.dataFd.delivered).map fun i =>
    eventAt first distance (s.dataFd.delivered.take i) (timevalToNano (stamps i))

/-- Each `EV_SYN` that an event was returned for came at the time the constructor left. -/
def StampsKept (timestamp : ℤ) (stamps : ℕ → Timeval) (s : RearProxSensor F)
    (out : List (Event F)) : Prop :=
  ∀ i ∈ (syns s.dataFd.delivered).take out.length, timevalToNano (stamps i) = timestamp

section Syns
variable {es : List InputEvent} {i : ℕ}

theorem lt_of_mem_syns (hi : i ∈ syns es) : i < es.length :=
  List.mem_range.mp (List.mem_filter.mp hi).1

theorem syns_concat (es : List InputEvent) (e : InputEvent) :
    syns (es ++ [e]) = syns es ++ if e.type = EV_SYN then [es.length] else [] := by
  have hold : (List.range es.length).filter (fun i =>
      decide (((es ++ [e])[i]?.map InputEvent.type) = some EV_SYN)) = syns es := by
    refine List.filter_congr fun i hi => ?_
    rw [List.getElem?_append_left (List.mem_range.mp hi)]
  rw [syns, List.length_append, List.length_singleton, List.range_succ, List.filter_append, hold,
    List.filter_singleton]
  simp

theorem syns_append (es rest : List InputEvent) : syns es <+: syns (es ++ rest) := by
  induction rest using List.reverseRecOn with
  | nil => rw [List.append_nil]
  | append_singleton rest e ih =>
    rw [← List.append_assoc, syns_concat]
    exact ih.trans (List.prefix_append _ _)

theorem lastDistance_concat (distance : F) (es : List InputEvent) (e : InputEvent) :
    lastDistance distance (es ++ [e]) =
      if isDistance e then ofInt e.value else lastDistance distance es := by
  rw [lastDistance, List.filter_append, List.filter_singleton]
  cases isDistance e with
  | false => simp [lastDistance]
  | true => simp

end Syns

theorem handleEvent_eq (first : Event F) (distance : F) (es : List InputEvent) (e : InputEvent) :
    handleEvent (eventAt first distance es first.timestamp) e =
      (eventAt first distance (es ++ [e]) first.timestamp,
        if e.type = EV_SYN then [eventAt first distance es first.timestamp] else []) := by
  have hnext : eventAt first distance (es ++ [e]) first.timestamp =
      if isDistance e then { eventAt first distance es first.timestamp with
        payload := .distance (ofInt e.value) } else eventAt first distance es first.timestamp := by
    rw [eventAt, lastDistance_concat]
    split_ifs <;> rfl
  rw [hnext, handleEvent, processEvent]
  by_cases habs : e.type = EV_ABS
  · have hsyn : ¬ EV_ABS = EV_SYN := by decide
    by_cases hvalue : e.value = -1
    · simp [isDistance, habs, hsyn, hvalue]
    · by_cases hcode : e.code = ABS_DISTANCE
      · simp [isDistance, habs, hsyn, hvalue, hcode]
      · simp [isDistance, habs, hsyn, hvalue, hcode]
  · simp only [isDistance, habs, false_and, ↓reduceIte, decide_false, Bool.false_eq_true]
    split_ifs <;> rfl

theorem transduce_handleEvent {first : Event F} {distance : F}
    (hfirst : first.payload = .distance distance) (es : List InputEvent) :
    transduce handleEvent first es = (eventAt first distance es first.timestamp,
      (syns es).map fun i => eventAt first distance (es.take i) first.timestamp) := by
  induction es using List.reverseRecOn with
  | nil =>
    obtain ⟨version, sensor, type, payload, timestamp⟩ := first
    cases hfirst
    rfl
  | append_singleton es e ih =>
    have htake : (syns es).map (fun i => eventAt first distance ((es ++ [e]).take i)
        first.timestamp) = (syns es).map fun i => eventAt first distance (es.take i)
        first.timestamp := by
      refine List.map_congr_left fun i hi => ?_
      rw [List.take_append_of_le_length (lt_of_mem_syns hi).le]
    rw [transduce_append, ih, syns_concat, List.map_append, htake]
    simp only [transduce, handleEvent_eq, List.append_nil]
    split_ifs <;> simp

theorem Accounts.act {first : Event F} {s : RearProxSensor F} {out : List (Event F)}
    (h : Accounts first s out) (a : Action) :
    Accounts first (s.act a).1 (out ++ (s.act a).2) := by
  cases a with
  | arrive es => exact (List.append_nil out).symm ▸ h.arrive rfl
  | fault f => exact (List.append_nil out).symm ▸ h.arrive rfl
  | readEvents count => exact h.readEvents count

theorem Accounts.run {first : Event F} {s : RearProxSensor F} {out : List (Event F)}
    (h : Accounts first s out) (actions : List Action) :
    Accounts first (transduce RearProxSensor.act s actions).1
      (out ++ (transduce RearProxSensor.act s actions).2) := by
  induction actions generalizing s out with
  | nil => exact (List.append_nil out).symm ▸ h
  | cons a actions ih =>
    rw [transduce, ← List.append_assoc]
    exact ih (h.act a)

/-- In every run an event carries the distance and the time of its `EV_SYN` exactly if every
`EV_SYN` returned came at the time the constructor left in the event. -/
theorem decodes_iff (n : RearProx) (memory : ℕ → InputEvent) (distance : F) (timestamp : ℤ)
    (actions : List Action) (stamps : ℕ → Timeval) :
    let first := (start n memory distance timestamp).mPendingEvents
    let r := transduce act (start n memory distance timestamp) actions
    Decodes first distance stamps r.1 r.2 ↔ StampsKept timestamp stamps r.1 r.2 := by
  intro first r
  have hbooks := (accounts_start n memory distance timestamp).run actions
  obtain ⟨past, hdelivered, hpast⟩ := hbooks.handled
  rw [transduce_handleEvent rfl, List.nil_append] at hpast
  have hout : r.2 = (syns past).map fun i => eventAt first distance (past.take i) timestamp :=
    (congrArg Prod.snd hpast).symm
  have hlength : r.2.length = (syns past).length := by rw [hout, List.length_map]
  have hsyns : (syns r.1.dataFd.delivered).take r.2.length = syns past := by
    have hprefix := syns_append past r.1.mInputReader.queued
    rw [hlength, hdelivered]
    exact (List.prefix_iff_eq_take.mp hprefix).symm
  have htake {i : ℕ} (hi : i ∈ syns past) : r.1.dataFd.delivered.take i = past.take i := by
    rw [hdelivered, List.take_append_of_le_length (lt_of_mem_syns hi).le]
  rw [Decodes, StampsKept, List.prefix_iff_eq_take, ← List.map_take, hsyns]
  nth_rewrite 1 [hout]
  rw [List.map_inj_left]
  refine forall₂_congr fun i hi => ?_
  rw [htake hi]
  constructor
  · intro heq
    exact (congrArg Event.timestamp heq).symm
  · intro heq
    rw [heq]

/-- The time of the `EV_SYN` does not reach the event. -/
theorem rearProx_time_dropped :
    let r := transduce act (start .rearprox (fun _ => ⟨0, 0, 0⟩) (0 : ℚ) 0)
      [.arrive [⟨EV_ABS, ABS_DISTANCE, 3⟩, ⟨EV_SYN, 0, 0⟩], .readEvents 1]
    ¬ Decodes (start .rearprox (fun _ => ⟨0, 0, 0⟩) (0 : ℚ) 0).mPendingEvents 0
      (fun _ => ⟨1, 0⟩) r.1 r.2 := by
  intro r h
  exact absurd (h.map Event.timestamp) (by decide +kernel)

end Cedric.Hub.RearProxSensor
