import Cedric.Lib.Runs
import Cedric.Power.VideoEncodeHint

/-!
# Sessions of the video hint

A session is open from a start to the stop that names it. Beside the state of the hint, a run
keeps the locks held and the open sessions, with what each could have had. `KeepsPace` is the
condition on a step under which the locks follow the sessions.
-/

namespace Cedric.Power

open DecimalText Runs

structure Session where
  id : ℕ
  /-- A start under a governor that the hint knows, when the client would give a lock. -/
  boosted : Bool

inductive SessionHint
  | start (id : ℕ) (call : EncodeCall)
  | stop (id : ℕ) (call : EncodeCall)

structure Sessions where
  state : VideoEncode
  held : List CInt
  opened : List Session

def Sessions.boot : Sessions := ⟨.off, [], []⟩

variable (client : PerfClient)

def EncodeCall.boosts (c : EncodeCall) : Bool := c.sys.capable && c.acquisition.acquires client

def Sessions.step (s : Sessions) : SessionHint → Sessions
  | .start id c =>
    let r := processVideoEncodeHint client c s.state
    ⟨r.1, heldAfter s.held r.2, ⟨id, c.boosts client⟩ :: s.opened⟩
  | .stop id c =>
    let r := processVideoEncodeHint client c s.state
    ⟨r.1, heldAfter s.held r.2, s.opened.filter fun x => decide (x.id ≠ id)⟩

/-- The metadata says what the hint is, a start is new and a stop has its start. -/
def Sessions.Valid (s : Sessions) : SessionHint → Prop
  | .start id c => (∃ md ∈ c.parsed, md.state.1 = 1) ∧ ∀ x ∈ s.opened, x.id ≠ id
  | .stop id c => (∃ md ∈ c.parsed, md.state.1 = 0) ∧ ∃ x ∈ s.opened, x.id = id

/-- A lock is held exactly while a boosted session is open. -/
def Sessions.Follows (s : Sessions) : Prop := s.held ≠ [] ↔ ∃ x ∈ s.opened, x.boosted = true

/-- The start asks for a lock, which stays. -/
def Sessions.takes (s : Sessions) (c : EncodeCall) : Prop :=
  c.sys.capable = true ∧ s.state.cameraHintRefCount.1 = 0 ∧
    s.state.videoEncodeHintSent = false ∧ c.acquisition.stays client = true

/-- The stop gives back the only lock held. -/
def Sessions.frees (s : Sessions) (c : EncodeCall) : Prop :=
  c.sys.capable = true ∧ s.state.cameraHintRefCount.1 = 1 ∧
    ∃ md ∈ c.parsed, undoFrees client md.hintId s.state.active s.held = true

/-- With no lock held, a start takes one exactly if its session could have one. With one held,
a stop gives it back exactly if no other session needs it. -/
def Sessions.KeepsPace (s : Sessions) : SessionHint → Prop
  | .start _ c => s.held = [] → (s.takes client c ↔ c.boosts client = true)
  | .stop id c => s.held ≠ [] → (s.frees client c ↔ ∀ x ∈ s.opened, x.boosted = true → x.id = id)

instance (s : Sessions) : DecidablePred s.Valid
  | .start id c =>
    inferInstanceAs (Decidable ((∃ md ∈ c.parsed, md.state.1 = 1) ∧ ∀ x ∈ s.opened, x.id ≠ id))
  | .stop id c =>
    inferInstanceAs (Decidable ((∃ md ∈ c.parsed, md.state.1 = 0) ∧ ∃ x ∈ s.opened, x.id = id))

instance (s : Sessions) : Decidable s.Follows :=
  inferInstanceAs (Decidable (s.held ≠ [] ↔ ∃ x ∈ s.opened, x.boosted = true))

instance (s : Sessions) : DecidablePred (s.takes client) :=
  fun _ => inferInstanceAs (Decidable (_ ∧ _ ∧ _ ∧ _))

instance (s : Sessions) : DecidablePred (s.frees client) :=
  fun c => inferInstanceAs (Decidable (_ ∧ _ ∧ ∃ md ∈ c.parsed, _))

instance (s : Sessions) : DecidablePred (s.KeepsPace client)
  | .start _ _ => inferInstanceAs (Decidable (s.held = [] → (_ ↔ _)))
  | .stop _ _ => inferInstanceAs (Decidable (s.held ≠ [] → (_ ↔ ∀ x ∈ s.opened, _)))

section Step
variable {client} {s : Sessions} {id : ℕ} {c : EncodeCall}

theorem start_held (hv : s.Valid (.start id c)) :
    (s.step client (.start id c)).held ≠ [] ↔ s.held ≠ [] ∨ s.takes client c := by
  obtain ⟨⟨md, hmd, hstate⟩, -⟩ := hv
  rw [Sessions.step, Sessions.takes]
  dsimp only
  cases hcapable : c.sys.capable with
  | false =>
    rw [process_incapable client hcapable]
    simp only [heldAfter, List.foldl_nil, Bool.false_eq_true, false_and, or_false]
  | true =>
    obtain ⟨resources, hcall⟩ := process_start client hcapable hmd hstate s.state
    rw [hcall, held_start]
    simp only [true_and]

theorem stop_held (hv : s.Valid (.stop id c)) :
    (s.step client (.stop id c)).held ≠ [] ↔ s.held ≠ [] ∧ ¬ s.frees client c := by
  obtain ⟨⟨md, hmd, hstate⟩, -⟩ := hv
  rw [Sessions.step, Sessions.frees]
  dsimp only
  cases hcapable : c.sys.capable with
  | false =>
    rw [process_incapable client hcapable]
    simp only [heldAfter, List.foldl_nil, Bool.false_eq_true, false_and, not_false_eq_true,
      and_true]
  | true =>
    rw [process_stop client hcapable hmd hstate, held_stop, Option.mem_def.mp hmd]
    simp only [true_and, Option.mem_def, Option.some.injEq, exists_eq_left']

theorem follows_start (hs : s.Follows) (hv : s.Valid (.start id c)) :
    (s.step client (.start id c)).Follows ↔ s.KeepsPace client (.start id c) := by
  have hopened : (∃ x ∈ (s.step client (.start id c)).opened, x.boosted = true) ↔
      c.boosts client = true ∨ s.held ≠ [] := by
    rw [Sessions.Follows] at hs
    rw [hs]
    exact List.exists_mem_cons_iff ..
  rw [Sessions.Follows, start_held hv, hopened, Sessions.KeepsPace]
  by_cases hheld : s.held = []
  · simp only [hheld, ne_eq, not_true_eq_false, false_or, or_false, true_implies]
  · simp only [hheld, ne_eq, not_false_eq_true, true_or, or_true, false_implies]

theorem follows_stop (hs : s.Follows) (hv : s.Valid (.stop id c)) :
    (s.step client (.stop id c)).Follows ↔ s.KeepsPace client (.stop id c) := by
  have hopened : (∃ x ∈ (s.step client (.stop id c)).opened, x.boosted = true) ↔
      ¬ ∀ x ∈ s.opened, x.boosted = true → x.id = id := by
    simp only [Sessions.step, List.mem_filter, decide_eq_true_eq, not_forall, exists_prop,
      and_assoc, and_comm]
  rw [Sessions.Follows, stop_held hv, hopened, Sessions.KeepsPace]
  by_cases hheld : s.held = []
  · have hnone : ∀ x ∈ s.opened, x.boosted = true → x.id = id := by
      intro x hx hboosted
      exact absurd hheld (hs.mpr ⟨x, hx, hboosted⟩)
    refine iff_of_true ?_ fun h => absurd hheld h
    exact iff_of_false (fun h => h.1 hheld) (not_not.mpr hnone)
  · simp only [hheld, ne_eq, not_false_eq_true, true_and, true_implies]
    exact not_iff_not

theorem follows_step (client : PerfClient) (hs : s.Follows) {hint : SessionHint}
    (hv : s.Valid hint) :
    (s.step client hint).Follows ↔ s.KeepsPace client hint := by
  cases hint with
  | start id c => exact follows_start hs hv
  | stop id c => exact follows_stop hs hv

end Step

/-- The governor is known, the client would give a lock, and the hint id is the one of all. -/
def SessionHint.Steady (hintId : CInt) : SessionHint → Prop
  | .start _ c => c.boosts client = true ∧ ∀ md ∈ c.parsed, md.hintId = hintId
  | .stop _ c => c.sys.capable = true ∧ ∀ md ∈ c.parsed, md.hintId = hintId

/-- The count is the number of open sessions, and they share the one lock in the list. -/
structure Sessions.Counted (hintId : CInt) (s : Sessions) : Prop where
  count : s.state.cameraHintRefCount.1 = s.opened.length
  sent : s.state.videoEncodeHintSent = true ↔ s.opened ≠ []
  nodup : (s.opened.map Session.id).Nodup
  boosted : ∀ x ∈ s.opened, x.boosted = true
  idle : s.opened = [] → s.held = [] ∧ s.state.active = []
  lock : s.opened ≠ [] → ∃ handle, s.held = [handle] ∧ s.state.active = [⟨hintId, handle⟩]

section Steady
variable {client} {s : Sessions} {hintId : CInt}

theorem Sessions.Counted.follows (h : s.Counted hintId) : s.Follows := by
  constructor
  · intro hheld
    have hopened : s.opened ≠ [] := fun hnil => hheld (h.idle hnil).1
    obtain ⟨x, hx⟩ := List.exists_mem_of_ne_nil _ hopened
    exact ⟨x, hx, h.boosted x hx⟩
  · rintro ⟨x, hx, -⟩
    obtain ⟨handle, hheld, -⟩ := h.lock (List.ne_nil_of_mem hx)
    rw [hheld]
    exact List.cons_ne_nil handle []

theorem boot_counted : Sessions.boot.Counted hintId where
  count := rfl
  sent := iff_of_false Bool.false_ne_true (not_not.mpr rfl)
  nodup := List.nodup_nil
  boosted := fun _ hx => absurd hx List.not_mem_nil
  idle := fun _ => ⟨rfl, rfl⟩
  lock := fun h => absurd rfl h

theorem Sessions.Counted.start (h : s.Counted hintId) {id : ℕ} {c : EncodeCall}
    (hv : s.Valid (.start id c)) (hs : (SessionHint.start id c).Steady client hintId)
    (hroom : s.opened.length < 2147483647) :
    (s.step client (.start id c)).Counted hintId := by
  obtain ⟨⟨md, hmd, hstate⟩, hnew⟩ := hv
  obtain ⟨hboosts, hid⟩ := hs
  obtain ⟨hcapable, hacquires⟩ := Bool.and_eq_true_iff.mp hboosts
  obtain ⟨resources, hcall⟩ := process_start client hcapable hmd hstate s.state
  have hnodup : ((⟨id, true⟩ :: s.opened).map Session.id).Nodup := by
    refine List.nodup_cons.mpr ⟨fun hmem => ?_, h.nodup⟩
    obtain ⟨x, hx, hsame⟩ := List.mem_map.mp hmem
    exact hnew x hx hsame
  have hboosted : ∀ x ∈ (⟨id, true⟩ : Session) :: s.opened, x.boosted = true :=
    List.forall_mem_cons.mpr ⟨rfl, h.boosted⟩
  rw [Sessions.step, hcall, hboosts, hid md hmd]
  by_cases hopened : s.opened = []
  · obtain ⟨hheld, hactive⟩ := h.idle hopened
    have hcount : s.state.cameraHintRefCount.1 = 0 := by
      rw [h.count, hopened]
      rfl
    have hsent : s.state.videoEncodeHintSent = false :=
      Bool.eq_false_iff.mpr fun hset => h.sent.mp hset hopened
    obtain ⟨hperform, hresult⟩ := perform_acquires client hacquires hintId resources []
    rw [start_first client hintId resources c.acquisition hcount hsent, hactive, hperform]
    refine ⟨?_, iff_of_true rfl (List.cons_ne_nil _ _), hnodup, hboosted,
      fun hnil => absurd hnil (List.cons_ne_nil _ _), fun _ => ?_⟩
    · rw [hopened]
      rfl
    · refine ⟨c.acquisition.result, ?_, rfl⟩
      rw [hheld]
      exact if_neg hresult
  · have hlength := List.length_pos_iff.mpr hopened
    have hcount : s.state.cameraHintRefCount.1 ≠ 0 := by
      rw [h.count]
      omega
    rw [start_other client hintId resources c.acquisition (Or.inl hcount)]
    refine ⟨?_, iff_of_true (h.sent.mpr hopened) (List.cons_ne_nil _ _), hnodup, hboosted,
      fun hnil => absurd hnil (List.cons_ne_nil _ _), fun _ => h.lock hopened⟩
    dsimp only
    rw [h.count, HintHandles.wrap_small (by omega) (by omega), List.length_cons]
    push_cast
    rfl

theorem closed_ids {opened : List Session} (h : (opened.map Session.id).Nodup) (id : ℕ) :
    (opened.filter fun x => decide (x.id ≠ id)).map Session.id =
      (opened.map Session.id).erase id := by
  rw [h.erase_eq_filter, List.filter_map]
  refine congrArg (List.map Session.id) (List.filter_congr fun x _ => ?_)
  exact (decide_not (p := x.id = id)).trans rfl

theorem closed_length {opened : List Session} (h : (opened.map Session.id).Nodup) {id : ℕ}
    (hid : id ∈ opened.map Session.id) :
    (opened.filter fun x => decide (x.id ≠ id)).length = opened.length - 1 := by
  have hcard := congrArg List.length (closed_ids h id)
  rwa [List.length_map, List.length_erase_of_mem hid, List.length_map] at hcard

theorem Sessions.Counted.stop (hrel : client.perfLockRel = true) (h : s.Counted hintId) {id : ℕ}
    {c : EncodeCall} (hv : s.Valid (.stop id c))
    (hs : (SessionHint.stop id c).Steady client hintId) :
    (s.step client (.stop id c)).Counted hintId := by
  obtain ⟨⟨md, hmd, hstate⟩, x, hx, hsame⟩ := hv
  obtain ⟨hcapable, hid⟩ := hs
  obtain ⟨handle, hheld, hactive⟩ := h.lock (List.ne_nil_of_mem hx)
  have hlength := closed_length h.nodup (List.mem_map.mpr ⟨x, hx, hsame⟩)
  have hpos := List.length_pos_of_mem hx
  have hnodup : ((s.opened.filter fun x => decide (x.id ≠ id)).map Session.id).Nodup := by
    rw [closed_ids h.nodup id]
    exact h.nodup.erase id
  have hboosted : ∀ x ∈ s.opened.filter fun x => decide (x.id ≠ id), x.boosted = true :=
    fun x hx => h.boosted x (List.mem_of_mem_filter hx)
  rw [Sessions.step, process_stop client hcapable hmd hstate, hid md hmd]
  generalize (s.opened.filter fun x => decide (x.id ≠ id)) = rest at *
  by_cases hcount : s.state.cameraHintRefCount.1 = 1
  · have hrest : rest = [] := by
      refine List.length_eq_zero_iff.mp ?_
      have := h.count
      omega
    have hundo : undoHintAction client hintId [⟨hintId, handle⟩] =
        ([], [.perfLockRel handle]) := by
      rw [undoHintAction, if_pos hrel]
      simp
    rw [stop_last client hintId hcount, hactive, hundo, hheld, hrest]
    refine ⟨rfl, iff_of_false Bool.false_ne_true (not_not.mpr rfl), List.nodup_nil,
      fun x hx => absurd hx List.not_mem_nil, fun _ => ⟨?_, rfl⟩, fun h => absurd rfl h⟩
    exact List.erase_cons_head (a := handle) (l := [])
  · have hrest : rest ≠ [] := by
      refine List.length_pos_iff.mp ?_
      have := h.count
      omega
    rw [stop_other client hintId hcount]
    refine ⟨?_, iff_of_true (h.sent.mpr (List.ne_nil_of_mem hx)) hrest, hnodup, hboosted,
      fun hnil => absurd hnil hrest, fun _ => ⟨handle, hheld, hactive⟩⟩
    dsimp only
    have hrange := s.state.cameraHintRefCount.2
    have := h.count
    rw [HintHandles.wrap_small (by omega) (by omega)]
    omega

/-- Under governors that the hint knows, with one hint id and a client that gives and takes back
locks, a lock is held exactly while a session is open. -/
theorem steady_follows (hrel : client.perfLockRel = true) (hints : List SessionHint)
    (hvalid : Along (Sessions.step client) Sessions.Valid .boot hints)
    (hsteady : ∀ hint ∈ hints, hint.Steady client hintId)
    (hroom : Along (Sessions.step client) (fun s _ => s.opened.length < 2147483647) .boot hints) :
    Along (Sessions.step client) (fun s hint => (s.step client hint).Follows) .boot hints := by
  have hkeeps (s : Sessions) (hint : SessionHint) (h : s.Counted hintId)
      (hw : (s.Valid hint ∧ s.opened.length < 2147483647) ∧ hint.Steady client hintId) :
      (s.step client hint).Counted hintId := by
    obtain ⟨⟨hv, hlength⟩, hs⟩ := hw
    cases hint with
    | start id c => exact h.start hv hs hlength
    | stop id c => exact h.stop hrel hv hs
  have hall := ((along_and _ _).mpr ⟨hvalid, hroom⟩).and_mem hsteady
  exact along_mono (Sessions.Counted hintId) hkeeps
    (fun s hint h hw => (hkeeps s hint h hw).follows) boot_counted hints hall

end Steady
/-- In a run of sessions the locks follow the sessions exactly if each step keeps pace, which
every step of a steady run does. -/
theorem boost_follows_iff (client : PerfClient) (hints : List SessionHint)
    (hvalid : Along (Sessions.step client) Sessions.Valid .boot hints) :
    (Along (Sessions.step client) (fun s hint => (s.step client hint).Follows) .boot hints ↔
        Along (Sessions.step client) (Sessions.KeepsPace client) .boot hints) ∧
      ∀ hintId, client.perfLockRel = true → (∀ hint ∈ hints, hint.Steady client hintId) →
        Along (Sessions.step client) (fun s _ => s.opened.length < 2147483647) .boot hints →
        Along (Sessions.step client) (Sessions.KeepsPace client) .boot hints := by
  have hboot : Sessions.boot.Follows := iff_of_false (fun h => h rfl) (by simp [Sessions.boot])
  have hboth := along_congr Sessions.Follows
    (fun s hint hs => and_congr_right fun hv : s.Valid hint => follows_step client hs hv)
    (fun s hint _ h => h.2) hboot hints
  rw [along_and, along_and] at hboth
  refine ⟨⟨fun h => (hboth.mp ⟨hvalid, h⟩).2, fun h => (hboth.mpr ⟨hvalid, h⟩).2⟩, ?_⟩
  intro hintId hrel hsteady hroom
  exact (hboth.mp ⟨hvalid, steady_follows hrel hints hvalid hsteady hroom⟩).2

def callUnder (governor metadata : String) : EncodeCall :=
  ⟨some (literal metadata ++ [0]), ⟨fun _ => some (literal governor), none⟩, ⟨five, true, true⟩⟩

/-- Two sessions that overlap, and one after them. -/
theorem boost_follows_schedutil :
    Along (Sessions.step ⟨true, true, true⟩)
      (fun s hint => (s.step ⟨true, true, true⟩ hint).Follows) .boot
      [.start 0 (callUnder "schedutil" "state=1"), .start 1 (callUnder "schedutil" "state=1"),
        .stop 0 (callUnder "schedutil" "state=0"), .stop 1 (callUnder "schedutil" "state=0"),
        .start 2 (callUnder "schedutil" "state=1"), .stop 2 (callUnder "schedutil" "state=0")] := by
  refine (boost_follows_iff ⟨true, true, true⟩ _ ?_).1.mpr ?_
  · decide +kernel
  · decide +kernel

/-- A stop under another governor is not counted, and nothing gives the lock back. -/
theorem boost_outlives_session :
    ¬ Along (Sessions.step ⟨true, true, true⟩)
      (fun s hint => (s.step ⟨true, true, true⟩ hint).Follows) .boot
      [.start 0 (callUnder "schedutil" "state=1"),
        .stop 0 (callUnder "performance" "state=0")] := by
  decide +kernel

end Cedric.Power
