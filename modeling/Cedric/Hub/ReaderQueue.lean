import Cedric.Hub.InputEventReader
import Cedric.Lib.Fifo

/-!
# The reader as a queue

`InputEventCircularReader` is a queue of its capacity over every run of its methods, whatever
`read` replies. Its accesses stay in `mBuffer`, and what it writes is no cell of an event that
waits.
-/

namespace Cedric.Hub

open Fifo Overlay RingBuffer Runs

/-- What `read` replies. A torn block stops inside an event; it has written these cells. -/
inductive ReadReply
  | error (err : ℤ)
  | torn (cells : List InputEvent)
  | events (es : List InputEvent)
  deriving DecidableEq

/-- The reply of a descriptor that hands over what waits in the kernel. -/
def InputFd.reply (fd : InputFd) (n : ℕ) : ReadReply :=
  match fd.fault with
  | some (.errno err) => .error err
  | some (.torn _) => .torn []
  | none => .events (fd.queue.take n)

inductive ReaderOp
  | fill (reply : ReadReply)
  | readEvent
  | next
  deriving DecidableEq

namespace ReaderOp

def received : ReaderOp → List InputEvent
  | .fill (.events es) => es
  | _ => []

def toFifo : ReaderOp → QueueOp InputEvent
  | .fill (.events es) => .push es
  | .next => .pop
  | _ => .peek

theorem received_eq (op : ReaderOp) : op.received = op.toFifo.taken := by
  match op with
  | .fill (.events es) => rfl
  | .fill (.error err) => rfl
  | .fill (.torn cells) => rfl
  | .readEvent => rfl
  | .next => rfl

end ReaderOp

namespace InputEventCircularReader

variable (r : InputEventCircularReader)

/-- `fill` where `read` replies this, if it is called. -/
def fillWith (reply : ReadReply) : Except ℤ ℕ × InputEventCircularReader :=
  if r.mFreeSpace ≠ 0 then
    match reply with
    | .error err => (.error (-err), r)
    | .torn cells => (.error (-EINVAL), { r with mBuffer := lay r.mBuffer r.mHead cells })
    | .events es => (.ok es.length, r.take es)
  else (.ok 0, r)

theorem fill_eq (fd : InputFd) :
    ((r.fill fd).1, (r.fill fd).2.1) = r.fillWith (fd.reply r.mFreeSpace) := by
  unfold fill fillWith
  split_ifs
  · rcases hfault : fd.fault with - | err | lost
    · simp [InputFd.read, InputFd.reply, hfault]
    · simp [InputFd.read, InputFd.reply, hfault]
    · simp [InputFd.read, InputFd.reply, hfault, lay_nil]
  · rfl

def unreadCells : List ℕ :=
  (List.range r.available).map fun i => slot r.mBufferEnd (r.mCurr + i)

def copied (es : List InputEvent) : ℕ := r.mHead + es.length - r.mBufferEnd

def writes : ReaderOp → List ℕ
  | .fill (.events es) => List.range' r.mHead r.mFreeSpace ++ List.range (r.copied es)
  | .fill _ => List.range' r.mHead r.mFreeSpace
  | .readEvent => []
  | .next => []

def reads : ReaderOp → List ℕ
  | .fill (.events es) => List.range' r.mBufferEnd (r.copied es)
  | .fill _ => []
  | .readEvent => if r.available ≠ 0 then [r.mCurr] else []
  | .next => []

def Fits : ReaderOp → Prop
  | .fill (.events es) => es.length ≤ r.mFreeSpace
  | .fill (.torn cells) => cells.length ≤ r.mFreeSpace
  | _ => True

instance (op : ReaderOp) : Decidable (r.Fits op) :=
  match op with
  | .fill (.events es) => inferInstanceAs (Decidable (es.length ≤ r.mFreeSpace))
  | .fill (.torn cells) => inferInstanceAs (Decidable (cells.length ≤ r.mFreeSpace))
  | .fill (.error _) => inferInstanceAs (Decidable True)
  | .readEvent => inferInstanceAs (Decidable True)
  | .next => inferInstanceAs (Decidable True)

section Cells
variable {r} {op : ReaderOp}

theorem available_add (h : r.Wf) : r.available + r.mFreeSpace = r.mBufferEnd :=
  Nat.sub_add_cancel h.free_le

theorem writes_cases (hfits : r.Fits op) {c : ℕ} (hc : c ∈ r.writes op) :
    (r.mHead ≤ c ∧ c < r.mHead + r.mFreeSpace) ∨ c < r.mHead + r.mFreeSpace - r.mBufferEnd := by
  match op with
  | .fill (.events es) =>
    rcases List.mem_append.mp hc with hc | hc
    · exact Or.inl (List.mem_range'_1.mp hc)
    · have hcopied := List.mem_range.mp hc
      have hroom : es.length ≤ r.mFreeSpace := hfits
      rw [copied] at hcopied
      exact Or.inr (by omega)
  | .fill (.error err) => exact Or.inl (List.mem_range'_1.mp hc)
  | .fill (.torn cells) => exact Or.inl (List.mem_range'_1.mp hc)
  | .readEvent => exact absurd hc List.not_mem_nil
  | .next => exact absurd hc List.not_mem_nil

theorem reads_lt (h : r.Wf) (hfits : r.Fits op) {c : ℕ} (hc : c ∈ r.reads op) :
    c < 2 * r.mBufferEnd := by
  have hblock := r.read_in_bounds h
  have hcurr := h.placed.curr_lt
  match op with
  | .fill (.events es) =>
    have hcopied := List.mem_range'_1.mp hc
    have hroom : es.length ≤ r.mFreeSpace := hfits
    rw [copied] at hcopied
    omega
  | .fill (.error err) => exact absurd hc List.not_mem_nil
  | .fill (.torn cells) => exact absurd hc List.not_mem_nil
  | .readEvent =>
    simp only [reads] at hc
    split_ifs at hc
    · rw [List.mem_singleton.mp hc]
      omega
    · exact absurd hc List.not_mem_nil
  | .next => exact absurd hc List.not_mem_nil

theorem cells_inside (h : r.Wf) (hfits : r.Fits op) :
    ∀ c ∈ r.writes op ++ r.reads op, c < 2 * r.mBufferEnd := by
  intro c hc
  have hblock := r.read_in_bounds h
  have hcurr := h.placed.curr_lt
  rcases List.mem_append.mp hc with hc | hc
  · rcases writes_cases hfits hc with ⟨-, hlt⟩ | hlt
    · omega
    · omega
  · exact reads_lt h hfits hc

theorem writes_unread (h : r.Wf) (hfits : r.Fits op) : ∀ c ∈ r.writes op, c ∉ r.unreadCells := by
  intro c hc hunread
  obtain ⟨i, hi, rfl⟩ := List.mem_map.mp hunread
  obtain ⟨hblock, hcopy⟩ := slot_outside h.placed (available_add h).le (List.mem_range.mp hi)
  rcases writes_cases hfits hc with ⟨hle, hlt⟩ | hlt
  · omega
  · omega

theorem take_outside {es : List InputEvent} (hfits : es.length ≤ r.mFreeSpace) {c : ℕ}
    (hc : c ∉ r.writes (.fill (.events es))) : (r.take es).mBuffer c = r.mBuffer c := by
  have hblock : c < r.mHead ∨ r.mHead + es.length ≤ c := by
    by_contra hin
    refine hc (List.mem_append_left _ (List.mem_range'_1.mpr ?_))
    omega
  have hcopy : ¬ c < r.copied es := fun hlt => hc (List.mem_append_right _ (List.mem_range.mpr hlt))
  rw [take]
  dsimp only
  split_ifs with hsome hwrap
  · have hkept : copy (lay r.mBuffer r.mHead es) r.mBufferEnd (r.copied es) c =
        lay r.mBuffer r.mHead es c := if_neg hcopy
    exact hkept.trans (lay_other r.mBuffer hblock)
  · exact lay_other r.mBuffer hblock
  · rfl

theorem fillWith_outside {reply : ReadReply} (hfits : r.Fits (.fill reply)) {c : ℕ}
    (hc : c ∉ r.writes (.fill reply)) : (r.fillWith reply).2.mBuffer c = r.mBuffer c := by
  unfold fillWith
  split_ifs
  swap
  · rfl
  match reply with
  | .error err => rfl
  | .torn cells =>
    have hroom : cells.length ≤ r.mFreeSpace := hfits
    refine lay_other r.mBuffer ?_
    by_contra hin
    refine hc (List.mem_range'_1.mpr ?_)
    omega
  | .events es => exact take_outside hfits hc

end Cells

section Queue
variable {r}

theorem fillWith_queue (h : r.Wf) {reply : ReadReply} (hfits : r.Fits (.fill reply)) :
    (r.fillWith reply).2.Wf ∧ (r.fillWith reply).2.mBufferEnd = r.mBufferEnd ∧
      (r.fillWith reply).2.queued = r.queued ++ (ReaderOp.fill reply).received := by
  unfold fillWith
  by_cases hfree : r.mFreeSpace = 0
  · have hnone : (ReaderOp.fill reply).received = [] := by
      match reply with
      | .error err => rfl
      | .torn cells => rfl
      | .events es => exact List.length_eq_zero_iff.mp (Nat.le_zero.mp (hfree ▸ hfits))
    rw [if_neg (not_not.mpr hfree), hnone, List.append_nil]
    exact ⟨h, rfl, rfl⟩
  · rw [if_pos hfree]
    match reply with
    | .error err => exact ⟨h, rfl, (List.append_nil _).symm⟩
    | .torn cells =>
      refine ⟨⟨h.free_le, h.placed⟩, rfl, ?_⟩
      have hroom : r.available + cells.length ≤ r.mBufferEnd :=
        (Nat.add_le_add_left hfits _).trans (available_add h).le
      exact (window_lay r.mBuffer h.placed hroom).trans (List.append_nil _).symm
    | .events es => exact ⟨take_wf h hfits, (take_frame r es).1, take_queued h hfits⟩

theorem next_queue (h : r.Wf) {event : InputEvent} (hhead : r.queued.head? = some event) :
    r.next.Wf ∧ r.next.queued = r.queued.tail := by
  have hsome : r.available ≠ 0 := by
    intro hnone
    have hnil := r.length_queued.trans hnone
    rw [List.length_eq_zero_iff.mp hnil] at hhead
    cases hhead
  obtain ⟨n, hn⟩ := Nat.exists_eq_succ_of_ne_zero hsome
  refine ⟨next_wf h hn, ?_⟩
  rw [next_queued h hn, List.tail_cons]

end Queue
end InputEventCircularReader

/-- `shown` is what the latest `readEvent` gave that no `next` has followed. -/
structure ReaderRun where
  reader : InputEventCircularReader
  shown : Option InputEvent

namespace ReaderRun

def start (numEvents : ℕ) (memory : ℕ → InputEvent) : ReaderRun := ⟨.start numEvents memory, none⟩

variable (w : ReaderRun)

def step : ReaderOp → ReaderRun
  | .fill reply => { w with reader := (w.reader.fillWith reply).2 }
  | .readEvent => { w with shown := w.reader.readEvent }
  | .next => ⟨w.reader.next, none⟩

def given : ReaderOp → List InputEvent
  | .next => w.shown.toList
  | _ => []

def Valid (op : ReaderOp) : Prop := w.reader.Fits op ∧ (op = .next → w.shown ≠ none)

instance (op : ReaderOp) : Decidable (w.Valid op) := inferInstanceAs (Decidable (_ ∧ _))

/-- The call is that of a queue of `n` events, and its accesses are safe. -/
structure Refines (n : ℕ) (op : ReaderOp) : Prop where
  inside : ∀ c ∈ w.reader.writes op ++ w.reader.reads op, c < 2 * n
  unread : ∀ c ∈ w.reader.writes op, c ∉ w.reader.unreadCells
  frame : ∀ c, c ∉ w.reader.writes op → (w.step op).reader.mBuffer c = w.reader.mBuffer c
  queued : (w.step op).reader.queued = Fifo.step w.reader.queued op.toFifo
  given : w.given op = op.toFifo.given w.reader.queued
  shown : op = .readEvent → (w.step op).shown = w.reader.queued.head?
  free : (w.step op).reader.mFreeSpace + (w.step op).reader.queued.length = n

structure Inv (n : ℕ) : Prop where
  wf : w.reader.Wf
  capacity : w.reader.mBufferEnd = n
  shown : ∀ event ∈ w.shown, w.reader.queued.head? = some event

variable {w} {n : ℕ} {op : ReaderOp}

theorem inv_start (hn : 0 < n) (memory : ℕ → InputEvent) : (start n memory).Inv n where
  wf := InputEventCircularReader.start_wf hn memory
  capacity := rfl
  shown _ hnone := absurd hnone (Option.not_mem_none _)

theorem fifo_fill (queue : List InputEvent) (reply : ReadReply) :
    Fifo.step queue (ReaderOp.fill reply).toFifo = queue ++ (ReaderOp.fill reply).received := by
  match reply with
  | .error err => exact (List.append_nil queue).symm
  | .torn cells => exact (List.append_nil queue).symm
  | .events es => rfl

theorem Inv.step (h : w.Inv n) (hv : w.Valid op) :
    (w.step op).Inv n ∧ (w.step op).reader.queued = Fifo.step w.reader.queued op.toFifo := by
  obtain ⟨hfits, hnext⟩ := hv
  cases op with
  | fill reply =>
    obtain ⟨hwf, hcapacity, hqueued⟩ := InputEventCircularReader.fillWith_queue h.wf hfits
    refine ⟨⟨hwf, hcapacity.trans h.capacity, fun event hevent => ?_⟩, ?_⟩
    · have hhead := h.shown event hevent
      refine (congrArg List.head? hqueued).trans ?_
      rw [List.head?_append, hhead]
      rfl
    · exact hqueued.trans (fifo_fill w.reader.queued reply).symm
  | readEvent =>
    refine ⟨⟨h.wf, h.capacity, fun event hevent => ?_⟩, rfl⟩
    exact (InputEventCircularReader.readEvent_eq_head h.wf).symm.trans hevent
  | next =>
    obtain ⟨event, hevent⟩ := Option.ne_none_iff_exists'.mp (hnext rfl)
    obtain ⟨hwf, hqueued⟩ := InputEventCircularReader.next_queue h.wf (h.shown event hevent)
    exact ⟨⟨hwf, h.capacity, fun _ hnone => absurd hnone (Option.not_mem_none _)⟩, hqueued⟩

theorem Inv.given (h : w.Inv n) (hv : w.Valid op) :
    w.given op = op.toFifo.given w.reader.queued := by
  match op with
  | .fill (.events es) => rfl
  | .fill (.error err) => rfl
  | .fill (.torn cells) => rfl
  | .readEvent => rfl
  | .next =>
    obtain ⟨event, hevent⟩ := Option.ne_none_iff_exists'.mp (hv.2 rfl)
    have hhead := h.shown event hevent
    simp only [ReaderRun.given, ReaderOp.toFifo, QueueOp.given, hevent, hhead]

theorem Inv.refines (h : w.Inv n) (hv : w.Valid op) : w.Refines n op := by
  obtain ⟨hnext, hqueued⟩ := h.step hv
  refine ⟨?_, InputEventCircularReader.writes_unread h.wf hv.1, fun c hc => ?_, hqueued,
    h.given hv, ?_, ?_⟩
  · rw [← h.capacity]
    exact InputEventCircularReader.cells_inside h.wf hv.1
  · cases op with
    | fill reply => exact InputEventCircularReader.fillWith_outside hv.1 hc
    | readEvent => rfl
    | next => rfl
  · rintro rfl
    exact InputEventCircularReader.readEvent_eq_head h.wf
  · rw [InputEventCircularReader.length_queued, Nat.add_comm, ← hnext.capacity]
    exact InputEventCircularReader.available_add hnext.wf

theorem Refines.conserves (h : w.Refines n op) :
    w.reader.queued ++ op.received = w.given op ++ (w.step op).reader.queued := by
  rw [op.received_eq, step_conserves, h.given, h.queued]

end ReaderRun

/-- In every run each call is that of a queue, and the events that were read are those that were
given out and those that wait, in order. -/
theorem reader_refines_fifo {n : ℕ} (hn : 0 < n) (memory : ℕ → InputEvent) (ops : List ReaderOp)
    (hvalid : Along ReaderRun.step ReaderRun.Valid (.start n memory) ops) :
    Along ReaderRun.step (fun w op => w.Refines n op) (.start n memory) ops ∧
      ops.flatMap ReaderOp.received =
        (transduce (fun w op => (ReaderRun.step w op, w.given op)) (.start n memory) ops).2 ++
          (ops.foldl ReaderRun.step (.start n memory)).reader.queued := by
  have hrefines : Along ReaderRun.step (fun w op => w.Refines n op) (.start n memory) ops :=
    along_mono (fun w => w.Inv n) (fun _ _ h hv => (h.step hv).1) (fun _ _ h hv => h.refines hv)
      (ReaderRun.inv_start hn memory) ops hvalid
  refine ⟨hrefines, ?_⟩
  have hconserves := along_mono (fun _ => True) (fun _ _ _ _ => trivial)
    (fun _ _ _ h => ReaderRun.Refines.conserves h) trivial ops hrefines
  have hall := conserved ReaderOp.received ReaderRun.given (fun w => w.reader.queued) hconserves
  have hnone : (ReaderRun.start n memory).reader.queued = [] :=
    InputEventCircularReader.start_queued n memory
  rw [hnone] at hall
  exact hall

def threeThroughTwo : List ReaderOp :=
  [.fill (.events [⟨EV_ABS, ABS_DISTANCE, 1⟩, ⟨EV_SYN, 0, 0⟩]), .readEvent, .next,
    .fill (.events [⟨EV_ABS, ABS_DISTANCE, 2⟩]), .readEvent, .next, .readEvent, .next]

theorem reader_refines_fifo_wrapped :
    Along ReaderRun.step (fun w op => w.Refines 2 op) (.start 2 fun _ => ⟨0, 0, 0⟩)
      threeThroughTwo :=
  (reader_refines_fifo (n := 2) (by decide) (fun _ => ⟨0, 0, 0⟩) threeThroughTwo
    (by decide +kernel)).1

end Cedric.Hub
