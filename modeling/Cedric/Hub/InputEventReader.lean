import Cedric.Hub.SetDelay
import Cedric.Lib.RingBuffer

/-!
# `InputEventCircularReader`

The reader takes input events from a descriptor in blocks and hands them out one
by one. Its pointers are positions in `mBuffer`, which has room for two rings.
`queued` is the queue the reader stands for: `fill` appends what `read` gave,
`readEvent` looks at its first event and `next` drops it.
-/

namespace Cedric.Hub

open Overlay RingBuffer

/-- `input_event` without its time stamp, which no code here uses. -/
structure InputEvent where
  type : ℕ
  code : ℕ
  value : ℤ
  deriving DecidableEq, Repr

def EV_SYN : ℕ := 0
def EV_ABS : ℕ := 3
def ABS_DISTANCE : ℕ := 0x19

/-- A `read` that fails, or that stops inside an event after `lost` whole ones. -/
inductive ReadFault
  | errno (err : ℤ)
  | torn (lost : ℕ)

/-- The input descriptor: the events that wait in the kernel, what the next `read`
meets instead of them, and all events handed over so far. -/
structure InputFd where
  queue : List InputEvent
  fault : Option ReadFault
  delivered : List InputEvent

inductive Nread
  | error (err : ℤ)
  | torn
  | events (es : List InputEvent)

def InputFd.read (fd : InputFd) (n : ℕ) : Nread × InputFd :=
  match fd.fault with
  | some (.errno err) => (.error err, { fd with fault := none })
  | some (.torn lost) => (.torn, { fd with queue := fd.queue.drop lost, fault := none })
  | none =>
    (.events (fd.queue.take n),
      { fd with queue := fd.queue.drop n, delivered := fd.delivered ++ fd.queue.take n })

structure InputEventCircularReader where
  mBuffer : ℕ → InputEvent
  mBufferEnd : ℕ
  mHead : ℕ
  mCurr : ℕ
  mFreeSpace : ℕ

namespace InputEventCircularReader

/-- The constructor; `memory` is what `new` leaves in the buffer. -/
def start (numEvents : ℕ) (memory : ℕ → InputEvent) : InputEventCircularReader :=
  ⟨memory, numEvents, 0, 0, numEvents⟩

variable (r : InputEventCircularReader)

def take (es : List InputEvent) : InputEventCircularReader :=
  if es.length ≠ 0 then
    let mBuffer := lay r.mBuffer r.mHead es
    let mHead := r.mHead + es.length
    let mFreeSpace := r.mFreeSpace - es.length
    if r.mBufferEnd < mHead then
      let s := mHead - r.mBufferEnd
      { r with mBuffer := copy mBuffer r.mBufferEnd s, mHead := s, mFreeSpace := mFreeSpace }
    else { r with mBuffer := mBuffer, mHead := mHead, mFreeSpace := mFreeSpace }
  else r

def fill (fd : InputFd) : Except ℤ ℕ × InputEventCircularReader × InputFd :=
  if r.mFreeSpace ≠ 0 then
    match fd.read r.mFreeSpace with
    | (.error err, fd) => (.error (-err), r, fd)
    | (.torn, fd) => (.error (-EINVAL), r, fd)
    | (.events es, fd) => (.ok es.length, r.take es, fd)
  else (.ok 0, r, fd)

def available : ℕ := r.mBufferEnd - r.mFreeSpace

def readEvent : Option InputEvent :=
  if r.available ≠ 0 then some (r.mBuffer r.mCurr) else none

def next : InputEventCircularReader :=
  { r with
    mCurr := if r.mBufferEnd ≤ r.mCurr + 1 then 0 else r.mCurr + 1
    mFreeSpace := r.mFreeSpace + 1 }

def queued : List InputEvent := window r.mBufferEnd r.mBuffer r.mCurr r.available

structure Wf : Prop where
  free_le : r.mFreeSpace ≤ r.mBufferEnd
  placed : Placed r.mBufferEnd r.mCurr r.available r.mHead

theorem read_in_bounds (h : r.Wf) : r.mHead + r.mFreeSpace ≤ 2 * r.mBufferEnd := by
  have hhead := h.placed.head_le
  have hfree := h.free_le
  omega

theorem length_queued : r.queued.length = r.available := length_window _ _ _ _

theorem start_wf {numEvents : ℕ} (h : 0 < numEvents) (memory : ℕ → InputEvent) :
    (start numEvents memory).Wf := by
  refine ⟨le_rfl, ?_⟩
  have hnone : (start numEvents memory).available = 0 := Nat.sub_self numEvents
  rw [hnone]
  exact placed_empty h

theorem start_queued (numEvents : ℕ) (memory : ℕ → InputEvent) :
    (start numEvents memory).queued = [] := by
  have hnone : (start numEvents memory).available = 0 := Nat.sub_self numEvents
  rw [queued, hnone, window_zero]

section Take
variable {r} {es : List InputEvent}

theorem take_eq (r : InputEventCircularReader) (es : List InputEvent) (hes : es.length ≠ 0) :
    (r.take es).mBuffer = written r.mBufferEnd r.mBuffer r.mHead es ∧
      (r.take es).mHead =
        (if r.mBufferEnd < r.mHead + es.length then r.mHead + es.length - r.mBufferEnd
          else r.mHead + es.length) ∧
      (r.take es).mFreeSpace = r.mFreeSpace - es.length := by
  rw [take, if_pos hes]
  by_cases hover : r.mBufferEnd < r.mHead + es.length
  · simp only [hover, ↓reduceIte, and_self, and_true]
    rfl
  · simp only [hover, ↓reduceIte, and_self, and_true]
    funext k
    rw [written, copy, Nat.sub_eq_zero_of_le (by omega), if_neg (Nat.not_lt_zero k)]

theorem take_frame (r : InputEventCircularReader) (es : List InputEvent) :
    (r.take es).mBufferEnd = r.mBufferEnd ∧ (r.take es).mCurr = r.mCurr := by
  by_cases hes : es.length ≠ 0
  · by_cases hover : r.mBufferEnd < r.mHead + es.length
    · simp only [take, hes, hover, ne_eq, not_false_eq_true, ↓reduceIte, and_self]
    · simp only [take, hes, hover, ne_eq, not_false_eq_true, ↓reduceIte, and_self]
  · simp only [take, hes, ↓reduceIte, and_self]

theorem take_nil (r : InputEventCircularReader) : r.take [] = r := by
  rw [take, if_neg (by simp)]

theorem take_available (h : r.Wf) (hroom : es.length ≤ r.mFreeSpace) (hes : es.length ≠ 0) :
    (r.take es).available = r.available + es.length := by
  have hfree := h.free_le
  rw [available, available, (take_frame r es).1, (take_eq r es hes).2.2]
  omega

theorem take_wf (h : r.Wf) (hroom : es.length ≤ r.mFreeSpace) : (r.take es).Wf := by
  by_cases hes : es.length = 0
  · rw [List.length_eq_zero_iff.mp hes, take_nil]
    exact h
  · have hfree := h.free_le
    have hsize := (take_frame r es).1
    refine ⟨?_, ?_⟩
    · rw [hsize, (take_eq r es hes).2.2]
      omega
    · rw [take_available h hroom hes, hsize, (take_frame r es).2, (take_eq r es hes).2.1]
      apply h.placed.written
      rw [available]
      omega

theorem take_queued (h : r.Wf) (hroom : es.length ≤ r.mFreeSpace) :
    (r.take es).queued = r.queued ++ es := by
  by_cases hes : es.length = 0
  · rw [List.length_eq_zero_iff.mp hes, take_nil, List.append_nil]
  · have hfree := h.free_le
    rw [queued, take_available h hroom hes, (take_frame r es).1, (take_frame r es).2,
      (take_eq r es hes).1]
    apply window_written r.mBuffer h.placed
    rw [available]
    omega

end Take

section Next
variable {r}

theorem readEvent_eq_head (h : r.Wf) : r.readEvent = r.queued.head? := by
  rw [readEvent, queued]
  split_ifs with hsome
  · obtain ⟨n, hn⟩ := Nat.exists_eq_succ_of_ne_zero hsome
    have hle : r.available ≤ r.mBufferEnd := Nat.sub_le _ _
    rw [hn, window_cons _ h.placed.curr_lt (by omega), List.head?_cons]
  · rw [not_not.mp hsome, window_zero, List.head?_nil]

theorem next_available_lt {event : InputEvent} (h : r.readEvent = some event) :
    r.next.available < r.available := by
  rw [readEvent] at h
  split_ifs at h with hsome
  rw [available] at hsome
  simp only [available, next]
  omega

theorem next_available (h : r.Wf) {n : ℕ} (hn : r.available = n + 1) : r.next.available = n := by
  have hfree := h.free_le
  rw [available] at hn ⊢
  simp only [next]
  omega

theorem next_wf (h : r.Wf) {n : ℕ} (hn : r.available = n + 1) : r.next.Wf := by
  have hle : r.available ≤ r.mBufferEnd := Nat.sub_le _ _
  refine ⟨?_, ?_⟩
  · rw [available] at hn
    simp only [next]
    omega
  · have hplaced := h.placed
    rw [hn] at hplaced
    rw [next_available h hn]
    exact hplaced.advance (by omega)

theorem next_queued (h : r.Wf) {n : ℕ} (hn : r.available = n + 1) :
    r.queued = r.mBuffer r.mCurr :: r.next.queued := by
  have hle : r.available ≤ r.mBufferEnd := Nat.sub_le _ _
  rw [queued, queued, hn, next_available h hn, window_cons _ h.placed.curr_lt (by omega)]
  rfl

end Next

section Fill
variable {r} {fd : InputFd}

/-- What `fill` can do: fail and leave the queue, or append what the descriptor
hands over. -/
theorem fill_cases (h : r.Wf) (fd : InputFd) :
    (r.mFreeSpace ≠ 0 ∧ fd.fault ≠ none ∧ ∃ err fd', r.fill fd = (.error err, r, fd') ∧
        fd'.delivered = fd.delivered) ∨
      ((r.mFreeSpace = 0 ∨ fd.fault = none) ∧ ∃ n r' fd', r.fill fd = (.ok n, r', fd') ∧ r'.Wf ∧
        r'.mBufferEnd = r.mBufferEnd ∧
        ∃ es, fd'.delivered = fd.delivered ++ es ∧ r'.queued = r.queued ++ es) := by
  rw [fill]
  split_ifs with hfree
  · rcases hfault : fd.fault with - | f
    · right
      have hroom : (fd.queue.take r.mFreeSpace).length ≤ r.mFreeSpace := List.length_take_le _ _
      refine ⟨Or.inr rfl, (fd.queue.take r.mFreeSpace).length, r.take (fd.queue.take r.mFreeSpace),
        (fd.read r.mFreeSpace).2, ?_, take_wf h hroom, (take_frame _ _).1,
        fd.queue.take r.mFreeSpace, ?_, take_queued h hroom⟩
      · simp only [InputFd.read, hfault]
      · simp only [InputFd.read, hfault]
    · left
      refine ⟨hfree, by simp, ?_⟩
      cases f with
      | errno err =>
        refine ⟨-err, { fd with fault := none }, ?_, rfl⟩
        simp only [InputFd.read, hfault]
      | torn lost =>
        refine ⟨-EINVAL, { fd with queue := fd.queue.drop lost, fault := none }, ?_, rfl⟩
        simp only [InputFd.read, hfault]
  · right
    refine ⟨Or.inl (not_not.mp hfree), 0, r, fd, rfl, h, rfl, [], ?_, ?_⟩
    · rw [List.append_nil]
    · rw [List.append_nil]

end Fill
end InputEventCircularReader
end Cedric.Hub
