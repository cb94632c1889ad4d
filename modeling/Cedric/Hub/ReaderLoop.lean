import Cedric.Hub.InputEventReader
import Cedric.Lib.Runs

/-!
# Reading a sensor through the circular reader

The loop `while (count && mInputReader.readEvent(&event))` handles the queued
events from the front while the caller has room. `drain` is that loop for an
arbitrary body, and `readInput` is `fill` and the loop; `handled` keeps the
events that the loop took off the queue.
-/

namespace Cedric.Hub.InputEventCircularReader

open Runs

variable {σ ε : Type*}

structure Drained (σ ε : Type*) where
  data : List ε
  reader : InputEventCircularReader
  state : σ
  handled : List InputEvent

def Drained.after (event : InputEvent) (es : List ε) (d : Drained σ ε) : Drained σ ε :=
  { d with data := es ++ d.data, handled := event :: d.handled }

/-- `handle` is the body of the loop: what becomes of the sensor and what it stores. -/
def drain (handle : σ → InputEvent → σ × List ε) (count : ℤ) (r : InputEventCircularReader)
    (s : σ) : Drained σ ε :=
  if count = 0 then ⟨[], r, s, []⟩
  else
    match _ : r.readEvent with
    | none => ⟨[], r, s, []⟩
    | some event =>
      .after event (handle s event).2
        (drain handle (count - (handle s event).2.length) r.next (handle s event).1)
  termination_by r.available
  decreasing_by exact next_available_lt ‹_›

variable (handle : σ → InputEvent → σ × List ε) {r : InputEventCircularReader} {s : σ} {count : ℤ}

theorem drain_of_empty (h : r.readEvent = none) (count : ℤ) (s : σ) :
    drain handle count r s = ⟨[], r, s, []⟩ := by
  rw [drain]
  split_ifs
  · rfl
  · split
    · rfl
    · rename_i event he
      rw [h] at he
      cases he

theorem drain_of_event {event : InputEvent} (h : r.readEvent = some event) (hcount : count ≠ 0)
    (s : σ) :
    drain handle count r s = .after event (handle s event).2
      (drain handle (count - (handle s event).2.length) r.next (handle s event).1) := by
  rw [drain, if_neg hcount]
  split
  · rename_i hnone
    rw [h] at hnone
    cases hnone
  · rename_i event' he
    rw [h] at he
    cases he
    rfl

theorem drain_bounded (hone : ∀ s e, (handle s e).2.length ≤ 1) (hcount : 0 ≤ count)
    (r : InputEventCircularReader) (s : σ) :
    ((drain handle count r s).data.length : ℤ) ≤ count := by
  induction count, r, s using drain.induct handle with
  | case1 r s =>
    rw [drain, if_pos rfl]
    exact le_rfl
  | case2 count r s hne hnone =>
    rw [drain_of_empty handle hnone]
    exact hcount
  | case3 count r s hne event hsome ih =>
    have hlen := hone s event
    have hrest := ih (by omega)
    rw [drain_of_event handle hsome hne]
    simp only [Drained.after, List.length_append, Nat.cast_add]
    omega

structure DrainSpec (handle : σ → InputEvent → σ × List ε) (count : ℤ)
    (r : InputEventCircularReader) (s : σ) : Prop where
  wf : (drain handle count r s).reader.Wf
  size : (drain handle count r s).reader.mBufferEnd = r.mBufferEnd
  split : r.queued = (drain handle count r s).handled ++ (drain handle count r s).reader.queued
  runs : transduce handle s (drain handle count r s).handled =
    ((drain handle count r s).state, (drain handle count r s).data)
  stops : (drain handle count r s).reader.queued = [] ∨
    ((drain handle count r s).data.length : ℤ) = count

theorem drain_spec (h : r.Wf) (count : ℤ) (s : σ) : DrainSpec handle count r s := by
  generalize hq : r.queued = q
  induction q generalizing r count s with
  | nil =>
    have hnone : r.readEvent = none := by
      rw [readEvent_eq_head h, hq, List.head?_nil]
    have hdrain := drain_of_empty handle hnone count s
    refine ⟨?_, ?_, ?_, ?_, Or.inl ?_⟩
    all_goals rw [hdrain]
    · exact h
    · rfl
    · rfl
    · exact hq
  | cons event q ih =>
    by_cases hcount : count = 0
    · have hdrain : drain handle count r s = ⟨[], r, s, []⟩ := by rw [drain, if_pos hcount]
      refine ⟨?_, ?_, ?_, ?_, Or.inr ?_⟩
      all_goals rw [hdrain]
      · exact h
      · rfl
      · rfl
      · exact hcount.symm
    · have hsome : r.readEvent = some event := by
        rw [readEvent_eq_head h, hq, List.head?_cons]
      have hlen : r.available = q.length + 1 := by
        rw [← length_queued, hq, List.length_cons]
      have hnext := next_queued h hlen
      rw [hq] at hnext
      have hrest := ih (next_wf h hlen) (count - (handle s event).2.length)
        (handle s event).1 (List.cons.inj hnext).2.symm
      have hdrain := drain_of_event handle hsome hcount s
      refine ⟨?_, ?_, ?_, ?_, ?_⟩
      all_goals rw [hdrain]
      · exact hrest.wf
      · exact hrest.size
      · rw [hq]
        refine congrArg (event :: ·) ?_
        rw [(List.cons.inj hnext).2]
        exact hrest.split
      · simp only [Drained.after, transduce, hrest.runs]
      · rcases hrest.stops with hempty | hfull
        · exact Or.inl hempty
        · right
          simp only [Drained.after, List.length_append, Nat.cast_add]
          omega

structure Reading (σ ε : Type*) extends Drained σ ε where
  dataFd : InputFd

def readInput (handle : σ → InputEvent → σ × List ε) (count : ℤ) (r : InputEventCircularReader)
    (fd : InputFd) (s : σ) : Reading σ ε :=
  match r.fill fd with
  | (.error _, r, fd) => ⟨⟨[], r, s, []⟩, fd⟩
  | (.ok _, r, fd) => ⟨drain handle count r s, fd⟩

/-- A call takes `handled` off the queue, once `es` came in. -/
structure ReadSpec (handle : σ → InputEvent → σ × List ε) (count : ℤ)
    (r : InputEventCircularReader) (fd : InputFd) (s : σ) (es : List InputEvent) : Prop where
  wf : (readInput handle count r fd s).reader.Wf
  size : (readInput handle count r fd s).reader.mBufferEnd = r.mBufferEnd
  delivered : (readInput handle count r fd s).dataFd.delivered = fd.delivered ++ es
  split : r.queued ++ es = (readInput handle count r fd s).handled ++
    (readInput handle count r fd s).reader.queued
  runs : transduce handle s (readInput handle count r fd s).handled =
    ((readInput handle count r fd s).state, (readInput handle count r fd s).data)
  stops : (readInput handle count r fd s).reader.queued = [] ∨
    ((readInput handle count r fd s).data.length : ℤ) = count ∨ r.mFreeSpace ≠ 0 ∧ fd.fault ≠ none

variable {fd : InputFd}

theorem readInput_spec (h : r.Wf) (count : ℤ) (fd : InputFd) (s : σ) :
    ∃ es, ReadSpec handle count r fd s es := by
  rcases fill_cases h fd with ⟨hfree, hfault, err, fd', hfill, hsame⟩ |
    ⟨-, n, r', fd', hfill, hwf, hsize, es, hmore, hqueue⟩
  · have hread : readInput handle count r fd s = ⟨⟨[], r, s, []⟩, fd'⟩ := by
      rw [readInput, hfill]
    refine ⟨[], ?_, ?_, ?_, ?_, ?_, Or.inr (Or.inr ⟨hfree, hfault⟩)⟩
    all_goals rw [hread]
    · exact h
    · rw [List.append_nil]
      exact hsame
    · exact List.append_nil _
    · rfl
  · have hloop := drain_spec handle hwf count s
    have hread : readInput handle count r fd s = ⟨drain handle count r' s, fd'⟩ := by
      rw [readInput, hfill]
    refine ⟨es, ?_, ?_, ?_, ?_, ?_, ?_⟩
    all_goals rw [hread]
    · exact hloop.wf
    · exact hloop.size.trans hsize
    · exact hmore
    · rw [← hqueue]
      exact hloop.split
    · exact hloop.runs
    · exact hloop.stops.imp_right Or.inl

theorem readInput_delivered (hgood : r.mFreeSpace = 0 ∨ fd.fault = none) (count : ℤ) (s : σ) :
    (readInput handle count r fd s).dataFd.delivered =
      fd.delivered ++ fd.queue.take r.mFreeSpace := by
  rw [readInput, fill]
  split_ifs with hfree
  · simp only [InputFd.read, hgood.resolve_left hfree]
  · rw [not_not.mp hfree, List.take_zero, List.append_nil]

theorem readInput_failed (hfree : r.mFreeSpace ≠ 0) (hfault : fd.fault ≠ none) (count : ℤ) (s : σ) :
    (readInput handle count r fd s).data = [] := by
  cases hf : fd.fault with
  | none => exact absurd hf hfault
  | some f => cases f <;> simp [readInput, fill, InputFd.read, hfree, hf]

theorem ReadSpec.eq_take {es : List InputEvent} (h : ReadSpec handle count r fd s es)
    (hgood : r.mFreeSpace = 0 ∨ fd.fault = none) : es = fd.queue.take r.mFreeSpace :=
  List.append_cancel_left (h.delivered.symm.trans (readInput_delivered handle hgood count s))

theorem readInput_bounded (hone : ∀ s e, (handle s e).2.length ≤ 1) (hcount : 0 ≤ count)
    (fd : InputFd) (s : σ) : ((readInput handle count r fd s).data.length : ℤ) ≤ count := by
  rw [readInput]
  split
  · exact hcount
  · exact drain_bounded handle hone hcount _ s

/-- A call stores nothing exactly if `fill` fails, or no event that is queued then yields
anything. -/
theorem readInput_data_nil_iff {yields : InputEvent → Prop}
    (hyields : ∀ s e, (handle s e).2 = [] ↔ ¬ yields e) (h : r.Wf) (hcount : 1 ≤ count)
    (fd : InputFd) (s : σ) :
    (readInput handle count r fd s).data = [] ↔
      ¬ ((r.mFreeSpace = 0 ∨ fd.fault = none) ∧
        ∃ e ∈ r.queued ++ fd.queue.take r.mFreeSpace, yields e) := by
  by_cases hbad : r.mFreeSpace ≠ 0 ∧ fd.fault ≠ none
  · refine iff_of_true (readInput_failed handle hbad.1 hbad.2 count s) fun hboth => ?_
    rcases hboth.1 with hzero | hnone
    · exact hbad.1 hzero
    · exact hbad.2 hnone
  · have hgood : r.mFreeSpace = 0 ∨ fd.fault = none := by
      by_cases hzero : r.mFreeSpace = 0
      · exact Or.inl hzero
      · exact Or.inr (not_not.mp fun hf => hbad ⟨hzero, hf⟩)
    obtain ⟨es, hread⟩ := readInput_spec handle h count fd s
    have hes : es = fd.queue.take r.mFreeSpace := hread.eq_take handle hgood
    have hdata : (readInput handle count r fd s).data =
        (transduce handle s (readInput handle count r fd s).handled).2 := by rw [hread.runs]
    have hsplit := hread.split
    rw [hes] at hsplit
    rw [hsplit, hdata, transduce_nil_iff hyields]
    constructor
    · intro hsilent hex
      obtain ⟨-, e, he, hy⟩ := hex
      rw [← transduce_nil_iff hyields s, ← hdata] at hsilent
      -- Nothing stored leaves room, so the loop ended with the queue.
      have hempty : (readInput handle count r fd s).reader.queued = [] := by
        rcases hread.stops with hempty | hfull | hfault
        · exact hempty
        · rw [hsilent] at hfull
          exact absurd hfull (by simp; omega)
        · exact absurd hfault hbad
      rw [hempty, List.append_nil] at he
      rw [hdata, transduce_nil_iff hyields] at hsilent
      exact hsilent e he hy
    · intro hnot e he hy
      exact hnot ⟨hgood, e, List.mem_append_left _ he, hy⟩

theorem readInput_all (h : r.Wf) (hfault : fd.fault = none)
    (hroom : fd.queue.length ≤ r.mFreeSpace)
    (hcount : ((transduce handle s (r.queued ++ fd.queue)).2.length : ℤ) < count) :
    (readInput handle count r fd s).handled = r.queued ++ fd.queue := by
  obtain ⟨es, hread⟩ := readInput_spec handle h count fd s
  have hes : es = fd.queue := by
    rw [hread.eq_take handle (Or.inr hfault), List.take_of_length_le hroom]
  rw [hes] at hread
  rcases hread.stops with hempty | hfull | hbad
  · have hsplit := hread.split
    rw [hempty, List.append_nil] at hsplit
    exact hsplit.symm
  · rw [hread.split, transduce_append, hread.runs, List.length_append] at hcount
    dsimp only at hcount
    omega
  · exact absurd hfault hbad.2

end Cedric.Hub.InputEventCircularReader
