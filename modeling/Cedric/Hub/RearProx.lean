import Cedric.Hub.ReaderLoop
import Cedric.Hub.Records

/-!
# `RearProxSensor`

`readEvents` fills the circular reader and handles the queued input events while
the caller has room: a distance is noted in `mPendingEvents`, an `EV_SYN` puts
the noted event into the caller's array. `handleEvent` is that body as a
transducer; `Accounts` says that the events returned are what it makes of the
input delivered, as far as the input is handled.
-/

namespace Cedric.Hub

open Runs

/-- The enumerators of `mSensors` after `sensor_hub`. -/
inductive RearProx
  | rearprox | rearprox_2
  deriving DecidableEq

def RearProx.index : RearProx → ℕ
  | .rearprox => 1
  | .rearprox_2 => 2

/-- The members that reading uses; `data_fd` stands for the open descriptor. -/
structure RearProxSensor (F : Type) where
  mInputReader : InputEventCircularReader
  mPendingEvents : Event F
  dataFd : InputFd

namespace RearProxSensor

def handle : RearProx → SensorHandle
  | .rearprox => .ID_RP
  | .rearprox_2 => .ID_RP_2

variable {F : Type}

/-- The constructor. `distance` and `timestamp` are what `new` leaves in the event,
unless the `near` attribute sets the distance. -/
def start (n : RearProx) (memory : ℕ → InputEvent) (distance : F) (timestamp : ℤ) :
    RearProxSensor F where
  mInputReader := .start 8 memory
  mPendingEvents := ⟨.SENSORS_EVENT_T_SIZE, handle n, .PROXIMITY, .distance distance, timestamp⟩
  dataFd := ⟨[], none, []⟩

variable [FloatOps F]

def processEvent (pending : Event F) (code : ℕ) (value : ℤ) : Event F :=
  if code = ABS_DISTANCE then { pending with payload := .distance (ofInt value) } else pending

structure Drained (F : Type) where
  data : List (Event F)
  mInputReader : InputEventCircularReader
  mPendingEvents : Event F

def drain (count : ℤ) (r : InputEventCircularReader) (pending : Event F) : Drained F :=
  if count = 0 then ⟨[], r, pending⟩
  else
    match h : r.readEvent with
    | none => ⟨[], r, pending⟩
    | some event =>
      if event.type = EV_ABS ∧ event.value ≠ -1 then
        drain count r.next (processEvent pending event.code event.value)
      else if event.type = EV_SYN then
        let d := drain (count - 1) r.next pending
        { d with data := pending :: d.data }
      else drain count r.next pending
  termination_by r.available
  decreasing_by all_goals exact InputEventCircularReader.next_available_lt h

def readEvents (count : ℤ) (s : RearProxSensor F) : List (Event F) × RearProxSensor F :=
  if count < 1 then ([], s)
  else
    match s.mInputReader.fill s.dataFd with
    | (.error _, r, fd) => ([], { s with mInputReader := r, dataFd := fd })
    | (.ok _, r, fd) =>
      let d := drain count r s.mPendingEvents
      (d.data, ⟨d.mInputReader, d.mPendingEvents, fd⟩)

def handleEvent (pending : Event F) (event : InputEvent) : Event F × List (Event F) :=
  if event.type = EV_ABS ∧ event.value ≠ -1 then
    (processEvent pending event.code event.value, [])
  else if event.type = EV_SYN then (pending, [pending])
  else (pending, [])

def reports (pending : Event F) (inputs : List InputEvent) : List (Event F) :=
  (transduce handleEvent pending inputs).2

/-- What the `EV_SYN`s in the reader are still to become. -/
def owed (s : RearProxSensor F) : List (Event F) :=
  reports s.mPendingEvents s.mInputReader.queued

theorem reports_append (pending : Event F) (done rest : List InputEvent) :
    reports pending (done ++ rest) =
      reports pending done ++ reports (transduce handleEvent pending done).1 rest := by
  rw [reports, transduce_append]
  rfl

theorem reports_mono (pending : Event F) {done inputs : List InputEvent}
    (h : done <+: inputs) : reports pending done <+: reports pending inputs := by
  obtain ⟨rest, hrest⟩ := h
  rw [← hrest, reports_append]
  exact List.prefix_append _ _

def Drained.after (es : List (Event F)) (d : Drained F) : Drained F :=
  { d with data := es ++ d.data }

section Drain
variable {r : InputEventCircularReader} {event : InputEvent}

theorem drain_of_empty (h : r.readEvent = none) (count : ℤ) (pending : Event F) :
    drain count r pending = ⟨[], r, pending⟩ := by
  rw [drain]
  split_ifs
  · rfl
  · split
    · rfl
    · rename_i event he
      rw [h] at he
      cases he

theorem drain_of_event (h : r.readEvent = some event) {count : ℤ} (hcount : count ≠ 0)
    (pending : Event F) :
    drain count r pending = .after (handleEvent pending event).2
      (drain (count - (handleEvent pending event).2.length) r.next
        (handleEvent pending event).1) := by
  rw [drain, if_neg hcount]
  split
  · rename_i hnone
    rw [h] at hnone
    cases hnone
  · rename_i event' he
    rw [h] at he
    cases he
    rw [handleEvent]
    split_ifs
    · rw [List.length_nil, Int.natCast_zero, sub_zero]
      rfl
    · rfl
    · rw [List.length_nil, Int.natCast_zero, sub_zero]
      rfl

theorem drain_eq (count : ℤ) (r : InputEventCircularReader) (pending : Event F) :
    drain count r pending =
      ⟨(InputEventCircularReader.drain handleEvent count r pending).data,
        (InputEventCircularReader.drain handleEvent count r pending).reader,
        (InputEventCircularReader.drain handleEvent count r pending).state⟩ := by
  induction count, r, pending using
    InputEventCircularReader.drain.induct (handleEvent (F := F)) with
  | case1 r pending =>
    rw [drain, if_pos rfl, InputEventCircularReader.drain, if_pos rfl]
  | case2 count r pending hcount hnone =>
    rw [drain_of_empty hnone, InputEventCircularReader.drain_of_empty handleEvent hnone]
  | case3 count r pending hcount event hsome ih =>
    rw [drain_of_event hsome hcount, ih,
      InputEventCircularReader.drain_of_event handleEvent hsome hcount]
    rfl

/-- The loop handles the queue from the front, until it is empty or the room is
used up. -/
theorem drain_spec (h : r.Wf) (count : ℤ) (pending : Event F) :
    (drain count r pending).mInputReader.Wf ∧
      (drain count r pending).mInputReader.mBufferEnd = r.mBufferEnd ∧
      ∃ done, r.queued = done ++ (drain count r pending).mInputReader.queued ∧
        transduce handleEvent pending done =
          ((drain count r pending).mPendingEvents, (drain count r pending).data) ∧
        ((drain count r pending).mInputReader.queued = [] ∨
          ((drain count r pending).data.length : ℤ) = count) := by
  rw [drain_eq]
  have hloop := InputEventCircularReader.drain_spec handleEvent h count pending
  exact ⟨hloop.wf, hloop.size, _, hloop.split, hloop.runs, hloop.stops⟩

end Drain

section ReadEvents
variable {count : ℤ} {s : RearProxSensor F}

theorem readEvents_of_pos (hcount : 1 ≤ count) {n : ℕ} {r : InputEventCircularReader}
    {fd : InputFd} (hfill : s.mInputReader.fill s.dataFd = (.ok n, r, fd)) :
    s.readEvents count =
      ((drain count r s.mPendingEvents).data, ⟨(drain count r s.mPendingEvents).mInputReader,
        (drain count r s.mPendingEvents).mPendingEvents, fd⟩) := by
  rw [readEvents, if_neg (by omega), hfill]

theorem readEvents_of_error (hcount : 1 ≤ count) {err : ℤ} {r : InputEventCircularReader}
    {fd : InputFd} (hfill : s.mInputReader.fill s.dataFd = (.error err, r, fd)) :
    s.readEvents count = ([], { s with mInputReader := r, dataFd := fd }) := by
  rw [readEvents, if_neg (by omega), hfill]

theorem readEvents_of_not_pos (hcount : count < 1) : s.readEvents count = ([], s) := by
  rw [readEvents, if_pos hcount]

/-- A call that handles input: `es` came in, `done` was handled, the rest stays queued. -/
structure Handles (count : ℤ) (s : RearProxSensor F) (es done : List InputEvent) : Prop where
  wf : (s.readEvents count).2.mInputReader.Wf
  size : (s.readEvents count).2.mInputReader.mBufferEnd = s.mInputReader.mBufferEnd
  delivered : (s.readEvents count).2.dataFd.delivered = s.dataFd.delivered ++ es
  fits : (s.mInputReader.queued ++ es).length ≤ s.mInputReader.mBufferEnd
  split : s.mInputReader.queued ++ es = done ++ (s.readEvents count).2.mInputReader.queued
  handled : transduce handleEvent s.mPendingEvents done =
    ((s.readEvents count).2.mPendingEvents, (s.readEvents count).1)
  stops : (s.readEvents count).2.mInputReader.queued = [] ∨
    ((s.readEvents count).1.length : ℤ) = count

theorem readEvents_cases (h : s.mInputReader.Wf) (count : ℤ) :
    ((count < 1 ∨ s.mInputReader.mFreeSpace ≠ 0 ∧ s.dataFd.fault ≠ none) ∧
        ∃ fd, fd.delivered = s.dataFd.delivered ∧
          s.readEvents count = ([], { s with dataFd := fd })) ∨
      (1 ≤ count ∧ (s.mInputReader.mFreeSpace = 0 ∨ s.dataFd.fault = none) ∧
        ∃ es done, Handles count s es done) := by
  by_cases hcount : count < 1
  · exact Or.inl ⟨Or.inl hcount, s.dataFd, rfl, readEvents_of_not_pos hcount⟩
  · rw [not_lt] at hcount
    rcases InputEventCircularReader.fill_cases h s.dataFd with hbad | hgood
    · obtain ⟨hfree, hfault, err, fd, herr, hsame⟩ := hbad
      exact Or.inl ⟨Or.inr ⟨hfree, hfault⟩, fd, hsame, readEvents_of_error hcount herr⟩
    · obtain ⟨hread, n, r, fd, hok, hwf, hsize, es, hmore, hqueue⟩ := hgood
      obtain ⟨hwf', hsize', done, hsplit, hrun, hstop⟩ := drain_spec hwf count s.mPendingEvents
      have hcall := readEvents_of_pos hcount hok
      refine Or.inr ⟨hcount, hread, es, done, ?_, ?_, ?_, ?_, ?_, ?_, ?_⟩
      · rw [hcall]
        exact hwf'
      · rw [hcall]
        exact hsize'.trans hsize
      · rw [hcall]
        exact hmore
      · rw [← hqueue, InputEventCircularReader.length_queued, ← hsize]
        exact Nat.sub_le _ _
      · rw [hcall, ← hqueue]
        exact hsplit
      · rw [hcall]
        exact hrun
      · rw [hcall]
        exact hstop

theorem readEvents_returns (h : s.mInputReader.Wf) (hcount : 1 ≤ count)
    (hfill : s.mInputReader.mFreeSpace = 0 ∨ s.dataFd.fault = none) :
    s.owed.take count.toNat <+: (s.readEvents count).1 := by
  rcases readEvents_cases h count with ⟨hbad, -⟩ | ⟨-, -, es, done, hcall⟩
  · rcases hbad with hless | hfault
    · omega
    · exact absurd hfill (not_or.mpr hfault)
  · have hdone : reports s.mPendingEvents done = (s.readEvents count).1 :=
      congrArg Prod.snd hcall.handled
    have hdata : (s.readEvents count).1 <+:
        reports s.mPendingEvents (s.mInputReader.queued ++ es) := by
      rw [← hdone]
      exact reports_mono _ ⟨_, hcall.split.symm⟩
    have howed : s.owed.take count.toNat <+:
        reports s.mPendingEvents (s.mInputReader.queued ++ es) :=
      (List.take_prefix _ _).trans (reports_mono _ (List.prefix_append _ _))
    apply List.prefix_of_prefix_length_le howed hdata
    rcases hcall.stops with hempty | hfull
    · have hall := hcall.split
      rw [hempty, List.append_nil] at hall
      rw [← hdone, ← hall]
      exact howed.length_le
    · rw [List.length_take]
      omega

theorem readEvents_fault (h : s.mInputReader.Wf) (hfree : s.mInputReader.mFreeSpace ≠ 0)
    (hfault : s.dataFd.fault ≠ none) : (s.readEvents count).1 = [] := by
  rcases readEvents_cases h count with ⟨-, fd, -, hcall⟩ | ⟨-, hgood, -⟩
  · rw [hcall]
  · exact absurd hgood (not_or.mpr ⟨hfree, hfault⟩)

end ReadEvents

/-- The events returned so far, `out`, are what the inputs handled so far become;
the inputs that were delivered and not handled are in the reader. -/
structure Accounts (first : Event F) (s : RearProxSensor F) (out : List (Event F)) : Prop where
  wf : s.mInputReader.Wf
  handled : ∃ past, s.dataFd.delivered = past ++ s.mInputReader.queued ∧
    transduce handleEvent first past = (s.mPendingEvents, out)

section Accounts
variable {first : Event F} {s : RearProxSensor F} {out : List (Event F)}

theorem Accounts.owed_eq (h : Accounts first s out) :
    reports first s.dataFd.delivered = out ++ s.owed := by
  obtain ⟨past, hdelivered, hpast⟩ := h.handled
  rw [hdelivered, reports_append, reports, hpast]
  rfl

theorem Accounts.arrive (h : Accounts first s out) {fd : InputFd}
    (hfd : fd.delivered = s.dataFd.delivered) : Accounts first { s with dataFd := fd } out := by
  obtain ⟨past, hdelivered, hpast⟩ := h.handled
  exact ⟨h.wf, past, hfd.trans hdelivered, hpast⟩

theorem Accounts.readEvents (h : Accounts first s out) (count : ℤ) :
    Accounts first (s.readEvents count).2 (out ++ (s.readEvents count).1) := by
  rcases readEvents_cases h.wf count with ⟨-, fd, hsame, hcall⟩ | ⟨-, -, es, done, hcall⟩
  · rw [hcall, List.append_nil]
    exact h.arrive hsame
  · obtain ⟨past, hdelivered, hpast⟩ := h.handled
    refine ⟨hcall.wf, past ++ done, ?_, ?_⟩
    · rw [hcall.delivered, hdelivered, List.append_assoc, hcall.split, List.append_assoc]
    · rw [transduce_append, hpast, hcall.handled]

theorem accounts_start (n : RearProx) (memory : ℕ → InputEvent) (distance : F) (timestamp : ℤ) :
    Accounts (start n memory distance timestamp).mPendingEvents
      (start n memory distance timestamp) [] :=
  ⟨InputEventCircularReader.start_wf (by decide) memory, [],
    (InputEventCircularReader.start_queued 8 memory).symm, rfl⟩

end Accounts

def Labelled (n : RearProx) (e : Event F) : Prop := e.type = .PROXIMITY ∧ e.sensor = handle n

instance (n : RearProx) (e : Event F) : Decidable (Labelled n e) := instDecidableAnd

structure Sound (n : RearProx) (s : RearProxSensor F) : Prop where
  wf : s.mInputReader.Wf
  size : s.mInputReader.mBufferEnd = 8
  label : Labelled n s.mPendingEvents

section Labels
variable {n : RearProx}

theorem handleEvent_labelled {pending : Event F} (h : Labelled n pending) (event : InputEvent) :
    Labelled n (handleEvent pending event).1 ∧
      ∀ e ∈ (handleEvent pending event).2, Labelled n e := by
  rw [handleEvent]
  split_ifs
  · refine ⟨?_, fun e he => absurd he List.not_mem_nil⟩
    rw [processEvent]
    split_ifs <;> exact h
  · refine ⟨h, fun e he => ?_⟩
    rw [List.mem_singleton.mp he]
    exact h
  · exact ⟨h, fun e he => absurd he List.not_mem_nil⟩

theorem transduce_labelled {pending : Event F} (h : Labelled n pending)
    (inputs : List InputEvent) :
    Labelled n (transduce handleEvent pending inputs).1 ∧
      ∀ e ∈ (transduce handleEvent pending inputs).2, Labelled n e := by
  induction inputs generalizing pending with
  | nil => exact ⟨h, fun e he => absurd he List.not_mem_nil⟩
  | cons event inputs ih =>
    obtain ⟨hnext, hnow⟩ := handleEvent_labelled h event
    obtain ⟨hlast, hlater⟩ := ih hnext
    refine ⟨hlast, fun e he => ?_⟩
    rcases List.mem_append.mp he with he | he
    · exact hnow e he
    · exact hlater e he

omit [FloatOps F] in
theorem start_sound (n : RearProx) (memory : ℕ → InputEvent) (distance : F) (timestamp : ℤ) :
    Sound n (start n memory distance timestamp) :=
  ⟨InputEventCircularReader.start_wf (by decide) memory, rfl, rfl, rfl⟩

theorem readEvents_sound {s : RearProxSensor F} (h : Sound n s) (count : ℤ) :
    Sound n (s.readEvents count).2 ∧ ∀ e ∈ (s.readEvents count).1, Labelled n e := by
  rcases readEvents_cases h.wf count with ⟨-, fd, -, hcall⟩ | ⟨-, -, es, done, hcall⟩
  · rw [hcall]
    exact ⟨⟨h.wf, h.size, h.label⟩, fun e he => absurd he List.not_mem_nil⟩
  · obtain ⟨hlast, hall⟩ := transduce_labelled h.label done
    rw [hcall.handled] at hlast hall
    exact ⟨⟨hcall.wf, hcall.size.trans h.size, hlast⟩, hall⟩

end Labels

theorem handleEvent_length (pending : Event F) (event : InputEvent) :
    (handleEvent pending event).2.length ≤ 1 := by
  rw [handleEvent]
  split_ifs <;> simp

theorem reports_length_le (inputs : List InputEvent) (pending : Event F) :
    (reports pending inputs).length ≤ inputs.length := by
  induction inputs generalizing pending with
  | nil => exact le_rfl
  | cons event inputs ih =>
    have hone := handleEvent_length pending event
    have hrest := ih (handleEvent pending event).1
    have hcons : reports pending (event :: inputs) =
        (handleEvent pending event).2 ++ reports (handleEvent pending event).1 inputs := rfl
    rw [hcons, List.length_append, List.length_cons]
    omega

theorem readEvents_clears {n : RearProx} {s : RearProxSensor F} (h : Sound n s)
    (hnone : s.owed = []) {count : ℤ} (hcount : 8 ≤ count) :
    (s.readEvents count).2.owed = [] := by
  rcases readEvents_cases h.wf count with ⟨-, fd, -, hcall⟩ | ⟨-, -, es, done, hcall⟩
  · rw [hcall]
    exact hnone
  · have hempty : (s.readEvents count).2.mInputReader.queued = [] := by
      rcases hcall.stops with hempty | hfull
      · exact hempty
      · have hdone := reports_length_le done s.mPendingEvents
        rw [reports, hcall.handled] at hdone
        have hcap := hcall.fits
        rw [hcall.split, List.length_append, h.size] at hcap
        dsimp only at hdone
        exact List.length_eq_zero_iff.mp (by omega)
    rw [owed, hempty]
    rfl

theorem owed_ne_nil_iff (s : RearProxSensor F) :
    s.owed ≠ [] ↔ ∃ event ∈ s.mInputReader.queued, event.type = EV_SYN := by
  rw [owed]
  generalize s.mInputReader.queued = q
  generalize s.mPendingEvents = pending
  induction q generalizing pending with
  | nil => simp [reports, transduce]
  | cons event q ih =>
    have hcons : reports pending (event :: q) =
        (handleEvent pending event).2 ++ reports (handleEvent pending event).1 q := rfl
    rw [hcons]
    by_cases hsyn : event.type = EV_SYN
    · have habs : ¬ (event.type = EV_ABS ∧ event.value ≠ -1) := by
        rw [hsyn]
        exact fun h => absurd h.1 (by decide)
      rw [handleEvent, if_neg habs, if_pos hsyn]
      simp [hsyn]
    · have hnone : (handleEvent pending event).2 = [] := by
        rw [handleEvent, if_neg hsyn]
        split_ifs <;> rfl
      rw [hnone, List.nil_append, ih]
      simp [hsyn]

end RearProxSensor
end Cedric.Hub
