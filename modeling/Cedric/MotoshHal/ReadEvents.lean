import Cedric.Lib.ReadLoop
import Cedric.MotoshHal.Records

/-!
# `HubSensors::readEvents` of the motosh HAL

The parked events are copied first, then records are read while there is room. A
failing `read` makes the function return its error, whatever has been stored by then.
`decoded` keeps the events of the records read. How many events a call stores and
how it ends is decided by the records that come before the next failure or end of
data: `avail` counts their events.
-/

namespace Cedric.MotoshHal

open Hub ReadLoop

variable {F : Type}

/-- A call of a driver's `readEvents`: its result and what it stored in the array. -/
structure ReadResult (F : Type) where
  ret : ℤ
  data : List (SensorsEvent F)
  decoded : List (SensorsEvent F)

/-- The loop over the records; `err` is the `errno` of a failing `read`. -/
structure LoopResult (F : Type) where
  err : Option ℕ
  data : List (SensorsEvent F)
  decoded : List (SensorsEvent F)
  hub : HubSensors F
  rest : List (Reply SensorData)

def LoopResult.after (data decoded : List (SensorsEvent F)) (r : LoopResult F) : LoopResult F :=
  { r with data := data ++ r.data, decoded := decoded ++ r.decoded }

def LoopResult.readResult (copied : List (SensorsEvent F)) (r : LoopResult F) : ReadResult F :=
  let ret : ℤ :=
    match r.err with
    | some errno => -errno
    | none => (copied ++ r.data).length
  ⟨ret, copied ++ r.data, r.decoded⟩

namespace HubSensors

variable (s : HubSensors F) (H : MotoshHeader) (B : Build) (K : Kernel)

def hasPendingEvents : Bool := !s.pendingEvents.isEmpty

def parked : List (SensorsEvent F) := s.pendingEvents.drop s.nextPendingEvent

/-- The cursor moves on, and the queue is cleared behind its last event. -/
def passPending : HubSensors F :=
  let nextPendingEvent := s.nextPendingEvent + 1
  if nextPendingEvent = s.pendingEvents.length then
    { s with pendingEvents := [], nextPendingEvent := 0 }
  else { s with nextPendingEvent := nextPendingEvent }

def copyPending (s : HubSensors F) : ℕ → HubSensors F × List (SensorsEvent F)
  | 0 => (s, [])
  | free + 1 =>
    match s.pendingEvents[s.nextPendingEvent]? with
    | none => (s, [])
    | some e =>
      let r := s.passPending.copyPending free
      (r.1, e :: r.2)

def copyParked (free : ℕ) : HubSensors F × List (SensorsEvent F) :=
  if s.hasPendingEvents then s.copyPending free else (s, [])

variable [FloatOps F]

def readLoop (s : HubSensors F) (free : ℕ) : List (Reply SensorData) → LoopResult F
  | [] => ⟨none, [], [], s, []⟩
  | r :: rs =>
    if free = 0 then ⟨none, [], [], s, r :: rs⟩
    else
      match r with
      | .full b =>
        let t := s.handleRecord H B K b free
        .after t.2 (s.decode H B K b).2 (t.1.readLoop (free - t.2.length) rs)
      | .eof => ⟨none, [], [], s, rs⟩
      | .error errno => ⟨some errno, [], [], s, rs⟩

def readEvents (dLen : ℤ) (replies : List (Reply SensorData)) :
    ReadResult F × HubSensors F × List (Reply SensorData) :=
  if dLen < 1 then (⟨-EINVAL, [], []⟩, s, replies)
  else
    let p := s.copyParked dLen.toNat
    let r := p.1.readLoop H B K (dLen.toNat - p.2.length) replies
    (r.readResult p.2, r.hub, r.rest)

end HubSensors

/-- The events in the records before the next failure or end of data. A glance record
disables the glance handles. -/
def avail (H : MotoshHeader) (B : Build) : Bool → Bool → List (Reply SensorData) → ℕ
  | moto, glance, .full b :: rs =>
    fanOut H B moto glance b +
      (if b.type = .DT_GLANCE then avail H B false false rs else avail H B moto glance rs)
  | _, _, _ => 0

def failing : List (Reply SensorData) → Bool
  | .full _ :: rs => failing rs
  | .error _ :: _ => true
  | _ => false

namespace HubSensors

variable (s : HubSensors F) (H : MotoshHeader) (B : Build) (K : Kernel)

def avail (replies : List (Reply SensorData)) : ℕ :=
  MotoshHal.avail H B (s.isHandleEnabled H .ID_MOTO_GLANCE_GESTURE)
    (s.isHandleEnabled H .ID_GLANCE_GESTURE) replies

/-- The cursor is inside the queue, or the queue is empty. -/
def QueueWf : Prop :=
  s.nextPendingEvent < s.pendingEvents.length ∨ s.pendingEvents = [] ∧ s.nextPendingEvent = 0

variable {s H B K} {t : HubSensors F}

theorem QueueWf.next_le (h : s.QueueWf) : s.nextPendingEvent ≤ s.pendingEvents.length := by
  rcases h with h | h
  · exact h.le
  · rw [h.2]
    exact Nat.zero_le _

theorem QueueWf.hasPendingEvents_iff (hwf : s.QueueWf) :
    s.hasPendingEvents = true ↔ s.parked ≠ [] := by
  simp only [hasPendingEvents, parked, Bool.not_eq_true', List.isEmpty_eq_false_iff, ne_eq,
    List.drop_eq_nil_iff]
  rcases hwf with hlt | hnil
  · exact iff_of_true (List.length_pos_iff.mp (Nat.zero_lt_of_lt hlt)) (Nat.not_le.mpr hlt)
  · simp [hnil.1]

theorem passPending_spec {e : SensorsEvent F}
    (he : s.pendingEvents[s.nextPendingEvent]? = some e) :
    s.passPending.QueueWf ∧ s.parked = e :: s.passPending.parked := by
  obtain ⟨hlt, hget⟩ := List.getElem?_eq_some_iff.mp he
  have hparked : s.parked = e :: s.pendingEvents.drop (s.nextPendingEvent + 1) := by
    rw [parked, List.drop_eq_getElem_cons hlt, hget]
  rw [hparked, passPending]
  split_ifs with hlast
  · refine ⟨Or.inr ⟨rfl, rfl⟩, ?_⟩
    rw [hlast, List.drop_length]
    rfl
  · exact ⟨Or.inl (by change s.nextPendingEvent + 1 < s.pendingEvents.length; omega), rfl⟩

theorem passPending_handles : s.passPending.mEnabledHandles = s.mEnabledHandles := by
  rw [passPending]
  split_ifs <;> rfl

/-- `p` is the state after `free` of the parked events were copied, and the copies. -/
structure Copied (s : HubSensors F) (free : ℕ) (p : HubSensors F × List (SensorsEvent F)) : Prop where
  wf : p.1.QueueWf
  data : p.2 = s.parked.take free
  left : p.1.parked = s.parked.drop free
  handles : p.1.mEnabledHandles = s.mEnabledHandles

theorem Copied.of_nil (h : s.QueueWf) (hnil : s.parked = []) (free : ℕ) : s.Copied free (s, []) :=
  ⟨h, by rw [hnil, List.take_nil], by rw [hnil, List.drop_nil], rfl⟩

theorem QueueWf.copyPending (h : s.QueueWf) (free : ℕ) : s.Copied free (s.copyPending free) := by
  induction free generalizing s with
  | zero => exact ⟨h, rfl, rfl, rfl⟩
  | succ free ih =>
    cases he : s.pendingEvents[s.nextPendingEvent]? with
    | none =>
      have hstop : s.copyPending (free + 1) = (s, []) := by rw [HubSensors.copyPending, he]
      rw [hstop]
      exact .of_nil h (List.drop_eq_nil_iff.mpr (List.getElem?_eq_none_iff.mp he)) _
    | some e =>
      obtain ⟨hwf, hparked⟩ := passPending_spec he
      have hrest := ih hwf
      have hcopy : s.copyPending (free + 1) =
          ((s.passPending.copyPending free).1, e :: (s.passPending.copyPending free).2) := by
        rw [HubSensors.copyPending, he]
      rw [hcopy]
      refine ⟨hrest.wf, ?_, ?_, hrest.handles.trans passPending_handles⟩
      · rw [hparked, List.take_succ_cons, hrest.data]
      · rw [hparked, List.drop_succ_cons, ← hrest.left]

theorem QueueWf.copyParked (h : s.QueueWf) (free : ℕ) : s.Copied free (s.copyParked free) := by
  rw [HubSensors.copyParked]
  split_ifs with hpending
  · exact h.copyPending free
  · exact .of_nil h (not_not.mp (mt h.hasPendingEvents_iff.mpr hpending)) free

theorem QueueWf.park (h : s.QueueWf) {more : List (SensorsEvent F)}
    (hpending : t.pendingEvents = s.pendingEvents ++ more)
    (hnext : t.nextPendingEvent = s.nextPendingEvent) :
    t.QueueWf ∧ t.parked = s.parked ++ more := by
  have hle := h.next_le
  constructor
  · rw [QueueWf, hpending, hnext, List.length_append]
    rcases h with h | ⟨hnil, hzero⟩
    · exact Or.inl (by omega)
    · cases more with
      | nil => exact Or.inr ⟨by rw [hnil]; rfl, hzero⟩
      | cons e more =>
        left
        rw [hzero, hnil]
        simp
  · rw [parked, parked, hpending, hnext, List.drop_append_of_le_length hle]

theorem QueueWf.same (h : s.QueueWf) (hqueue : SameQueue s t) : t.QueueWf ∧ t.parked = s.parked := by
  obtain ⟨hwf, hparked⟩ := h.park (hqueue.pending.trans (List.append_nil _).symm) hqueue.next
  exact ⟨hwf, hparked.trans (List.append_nil _)⟩

variable [FloatOps F]

theorem avail_full (b : SensorData) (rs : List (Reply SensorData)) :
    s.avail H B (.full b :: rs) =
      (s.decode H B K b).2.length + (s.decode H B K b).1.avail H B rs := by
  by_cases hglance : b.type = .DT_GLANCE
  · obtain ⟨hlen, hmoto, hother⟩ := decode_glance (s := s) (H := H) (B := B) (K := K) hglance
    rw [avail, avail, MotoshHal.avail, if_pos hglance, hlen, hmoto, hother, fanOut, hglance]
  · have hplain := decode_plain (s := s) (H := H) (B := B) (K := K) hglance
    rw [avail, avail, MotoshHal.avail, if_neg hglance, hplain.count, hplain.moto, hplain.glance]

/-- The loop with `free` places: it stores what the records yield as far as there is room,
parks the rest of the last record, and fails if a failing `read` finds room. -/
structure LoopSpec (s : HubSensors F) (H : MotoshHeader) (B : Build) (K : Kernel) (free : ℕ)
    (replies : List (Reply SensorData)) : Prop where
  wf : (s.readLoop H B K free replies).hub.QueueWf
  stored : (s.readLoop H B K free replies).data.length = min (s.avail H B replies) free
  ledger : ∃ more, (s.readLoop H B K free replies).decoded =
      (s.readLoop H B K free replies).data ++ more ∧
    (s.readLoop H B K free replies).hub.parked = s.parked ++ more
  err : (s.readLoop H B K free replies).err.isSome =
    (failing replies && decide (s.avail H B replies < free))

theorem LoopSpec.stop (h : s.QueueWf) {free : ℕ} {replies rest : List (Reply SensorData)}
    {err : Option ℕ} (hloop : s.readLoop H B K free replies = ⟨err, [], [], s, rest⟩)
    (hstored : min (s.avail H B replies) free = 0)
    (herr : err.isSome = (failing replies && decide (s.avail H B replies < free))) :
    s.LoopSpec H B K free replies := by
  refine ⟨?_, ?_, ⟨[], ?_⟩, ?_⟩
  all_goals rw [hloop]
  · exact h
  · exact hstored.symm
  · exact ⟨rfl, (List.append_nil _).symm⟩
  · exact herr

theorem readLoop_zero (replies : List (Reply SensorData)) :
    s.readLoop H B K 0 replies = ⟨none, [], [], s, replies⟩ := by
  cases replies with
  | nil => rfl
  | cons r rs => simp only [readLoop, ↓reduceIte]

theorem readLoop_eof {free : ℕ} (hfree : free ≠ 0) (rs : List (Reply SensorData)) :
    s.readLoop H B K free (.eof :: rs) = ⟨none, [], [], s, rs⟩ := by
  simp only [readLoop, hfree, ↓reduceIte]

theorem readLoop_error {free : ℕ} (hfree : free ≠ 0) (errno : ℕ) (rs : List (Reply SensorData)) :
    s.readLoop H B K free (.error errno :: rs) = ⟨some errno, [], [], s, rs⟩ := by
  simp only [readLoop, hfree, ↓reduceIte]

theorem readLoop_full {free : ℕ} (hfree : free ≠ 0) (b : SensorData)
    (rs : List (Reply SensorData)) :
    s.readLoop H B K free (.full b :: rs) =
      .after (s.handleRecord H B K b free).2 (s.decode H B K b).2
        ((s.handleRecord H B K b free).1.readLoop H B K
          (free - (s.handleRecord H B K b free).2.length) rs) := by
  simp only [readLoop, hfree, ↓reduceIte]

theorem LoopSpec.next {free : ℕ} {rs : List (Reply SensorData)}
    (hloop : s.readLoop H B K free (.full b :: rs) =
      .after (s.decode H B K b).2 (s.decode H B K b).2
        ((s.decode H B K b).1.readLoop H B K (free - (s.decode H B K b).2.length) rs))
    (hroom : (s.decode H B K b).2.length < free)
    (hparked : (s.decode H B K b).1.parked = s.parked)
    (hrest : (s.decode H B K b).1.LoopSpec H B K (free - (s.decode H B K b).2.length) rs) :
    s.LoopSpec H B K free (.full b :: rs) := by
  have havail := avail_full (s := s) (H := H) (B := B) (K := K) b rs
  obtain ⟨more, hdecoded, hleft⟩ := hrest.ledger
  refine ⟨?_, ?_, ⟨more, ?_, ?_⟩, ?_⟩
  all_goals rw [hloop]
  · exact hrest.wf
  · simp only [LoopResult.after, List.length_append, hrest.stored, havail]
    omega
  · simp only [LoopResult.after, hdecoded, List.append_assoc]
  · rw [← hparked]
    exact hleft
  · simp only [LoopResult.after, hrest.err, failing, havail]
    congr 2
    rw [eq_iff_iff]
    omega

theorem LoopSpec.filled {free : ℕ} {rs : List (Reply SensorData)} {t : HubSensors F}
    (hloop : s.readLoop H B K free (.full b :: rs) =
      .after ((s.decode H B K b).2.take free) (s.decode H B K b).2 ⟨none, [], [], t, rs⟩)
    (hroom : free ≤ (s.decode H B K b).2.length) (hwf : t.QueueWf)
    (hparked : t.parked = s.parked ++ (s.decode H B K b).2.drop free) :
    s.LoopSpec H B K free (.full b :: rs) := by
  have havail := avail_full (s := s) (H := H) (B := B) (K := K) b rs
  refine ⟨?_, ?_, ⟨(s.decode H B K b).2.drop free, ?_, ?_⟩, ?_⟩
  all_goals rw [hloop]
  · exact hwf
  · simp only [LoopResult.after, List.append_nil, List.length_take, havail]
    omega
  · simp only [LoopResult.after, List.append_nil, List.take_append_drop]
  · exact hparked
  · have hnot : ¬ s.avail H B (.full b :: rs) < free := by omega
    simp [LoopResult.after, hnot]

theorem QueueWf.loop (h : s.QueueWf) (free : ℕ) (replies : List (Reply SensorData)) :
    s.LoopSpec H B K free replies := by
  induction replies generalizing s free with
  | nil => exact .stop h rfl (Nat.zero_min free) rfl
  | cons r rs ih =>
    by_cases hfree : free = 0
    · subst hfree
      refine .stop h (readLoop_zero _) (Nat.min_zero _) ?_
      simp
    · cases r with
      | eof =>
        exact .stop h (readLoop_eof hfree rs) (Nat.zero_min free) rfl
      | error errno =>
        have hnone : s.avail H B (.error errno :: rs) = 0 := rfl
        refine .stop h (readLoop_error hfree errno rs) (Nat.zero_min free) ?_
        rw [hnone]
        simp [failing, Nat.pos_of_ne_zero hfree]
      | full b =>
        have hplaced := handleRecord_placed (s := s) (H := H) (B := B) (K := K) (b := b)
          (Nat.pos_of_ne_zero hfree)
        obtain ⟨hwf, hparked⟩ := h.park hplaced.parked hplaced.next
        have hloop := readLoop_full (s := s) (H := H) (B := B) (K := K) hfree b rs
        by_cases hroom : (s.decode H B K b).2.length < free
        · rw [hplaced.fits hroom.le] at hloop hwf hparked
          rw [List.drop_of_length_le hroom.le, List.append_nil] at hparked
          exact .next hloop hroom hparked (ih hwf _)
        · have hfull : free ≤ (s.decode H B K b).2.length := not_lt.mp hroom
          rw [hplaced.stored, List.length_take, Nat.min_eq_left hfull, Nat.sub_self,
            readLoop_zero] at hloop
          exact .filled hloop hfull hwf hparked

structure ReadSpec (s : HubSensors F) (H : MotoshHeader) (B : Build) (K : Kernel) (dLen : ℤ)
    (replies : List (Reply SensorData)) : Prop where
  wf : (s.readEvents H B K dLen replies).2.1.QueueWf
  stored : (s.readEvents H B K dLen replies).1.data.length =
    min (s.parked.length + s.avail H B replies) dLen.toNat
  ledger : s.parked ++ (s.readEvents H B K dLen replies).1.decoded =
    (s.readEvents H B K dLen replies).1.data ++ (s.readEvents H B K dLen replies).2.1.parked
  failed : failing replies = true → ((s.parked.length + s.avail H B replies : ℕ) : ℤ) < dLen →
    (s.readEvents H B K dLen replies).1.ret ≤ 0
  delivered : 1 ≤ dLen →
    ¬ (failing replies = true ∧ ((s.parked.length + s.avail H B replies : ℕ) : ℤ) < dLen) →
    (s.readEvents H B K dLen replies).1.ret = (s.readEvents H B K dLen replies).1.data.length

theorem ReadSpec.refused {dLen : ℤ} (hdLen : dLen < 1) (h : s.QueueWf)
    (replies : List (Reply SensorData)) : s.ReadSpec H B K dLen replies := by
  have hread : s.readEvents H B K dLen replies = (⟨-EINVAL, [], []⟩, s, replies) := by
    rw [readEvents, if_pos hdLen]
  refine ⟨?_, ?_, ?_, fun _ hlt => ?_, fun hle => ?_⟩
  · rw [hread]
    exact h
  · rw [hread, Int.toNat_of_nonpos (by omega), Nat.min_zero]
    rfl
  · rw [hread]
    exact List.append_nil _
  · omega
  · omega

theorem readEvents_of_le {dLen : ℤ} (h : 1 ≤ dLen) (replies : List (Reply SensorData)) :
    s.readEvents H B K dLen replies =
      (((s.copyParked dLen.toNat).1.readLoop H B K
          (dLen.toNat - (s.copyParked dLen.toNat).2.length) replies).readResult
          (s.copyParked dLen.toNat).2,
        ((s.copyParked dLen.toNat).1.readLoop H B K
          (dLen.toNat - (s.copyParked dLen.toNat).2.length) replies).hub,
        ((s.copyParked dLen.toNat).1.readLoop H B K
          (dLen.toNat - (s.copyParked dLen.toNat).2.length) replies).rest) := by
  rw [readEvents, if_neg (by omega)]

theorem QueueWf.read (h : s.QueueWf) (dLen : ℤ) (replies : List (Reply SensorData)) :
    s.ReadSpec H B K dLen replies := by
  by_cases hdLen : dLen < 1
  · exact .refused hdLen h replies
  · obtain ⟨hwf, hcopy, hleft, hhandles⟩ := h.copyParked dLen.toNat
    have havail : (s.copyParked dLen.toNat).1.avail H B replies = s.avail H B replies := by
      simp only [avail, isHandleEnabled_eq, hhandles]
    obtain ⟨hend, hstored, ⟨more, hdecoded, hparked⟩, herr⟩ := hwf.loop (H := H) (B := B) (K := K)
      (dLen.toNat - (s.copyParked dLen.toNat).2.length) replies
    have hpos : 1 ≤ dLen := Int.not_lt.mp hdLen
    have hread := readEvents_of_le (s := s) (H := H) (B := B) (K := K) hpos replies
    rw [havail] at hstored herr
    generalize s.copyParked dLen.toNat = p at *
    generalize p.1.readLoop H B K (dLen.toNat - p.2.length) replies = r at *
    have hlen : p.2.length = min dLen.toNat s.parked.length := by rw [hcopy, List.length_take]
    have hfailed : r.err.isSome = true ↔
        failing replies = true ∧ ((s.parked.length + s.avail H B replies : ℕ) : ℤ) < dLen := by
      rw [herr, Bool.and_eq_true, decide_eq_true_iff]
      refine and_congr_right fun _ => ?_
      omega
    refine ⟨?_, ?_, ?_, fun hfail hlt => ?_, fun _ hnot => ?_⟩
    all_goals rw [hread]
    · exact hend
    · simp only [LoopResult.readResult, List.length_append, hstored, hlen]
      omega
    · -- The loop stores something only if everything parked was copied.
      have hsplit := List.take_append_drop dLen.toNat s.parked
      have horder : s.parked.drop dLen.toNat = [] ∨ r.data = [] := by
        by_cases hall : s.parked.length ≤ dLen.toNat
        · exact Or.inl (List.drop_of_length_le hall)
        · exact Or.inr (List.length_eq_zero_iff.mp (by omega))
      simp only [LoopResult.readResult, hdecoded, hparked, hcopy, hleft]
      rcases horder with hnil | hnil
      · rw [hnil, List.append_nil] at hsplit
        rw [hnil, hsplit, List.nil_append, List.append_assoc]
      · rw [hnil, List.nil_append, List.append_nil, ← List.append_assoc, hsplit]
    · obtain ⟨errno, herrno⟩ := Option.isSome_iff_exists.mp (hfailed.mpr ⟨hfail, hlt⟩)
      simp only [LoopResult.readResult, herrno]
      omega
    · have hnone : r.err = none := Option.not_isSome_iff_eq_none.mp (mt hfailed.mp hnot)
      simp only [LoopResult.readResult, hnone]

theorem readEvents_ret_cases (dLen : ℤ) (replies : List (Reply SensorData)) :
    (s.readEvents H B K dLen replies).1.ret ≤ 0 ∨
      (s.readEvents H B K dLen replies).1.ret =
        (s.readEvents H B K dLen replies).1.data.length := by
  by_cases hdLen : dLen < 1
  · left
    rw [readEvents, if_pos hdLen]
    exact (by decide : -EINVAL ≤ 0)
  · rw [readEvents_of_le (Int.not_lt.mp hdLen)]
    simp only [LoopResult.readResult]
    split
    · left
      omega
    · exact Or.inr rfl

end HubSensors
end Cedric.MotoshHal
