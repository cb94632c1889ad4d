import Cedric.Power.HintList
import Mathlib.Data.List.MinMax

/-!
# Which locks the list of active hints accounts for

The entries are those of the calls that could keep track of their lock, and a hint
is undone by its latest entry. The list in memory is these entries over every run, and
the locks that are held are theirs, unless the client gives locks and takes none back.
-/

namespace Cedric.Power

open DecimalText HintList Runs

inductive HintCall
  | perform (hintId : CInt) (resourceValues : List (BitVec 32)) (grant : Grant)
  | undo (hintId : CInt)

/-- The call on the records of the list, without its nodes. -/
def HintCall.onRecords (client : PerfClient) :
    HintCall → List HintData → List HintData × List LockCall
  | .perform hintId resourceValues g =>
    Power.performHintAction client hintId resourceValues g.acquisition
  | .undo hintId => Power.undoHintAction client hintId

def latest (entries : List HintEntry) (hintId : CInt) : Option HintEntry :=
  (entries.filter (HintEntry.hasId hintId)).argmax HintEntry.time

/-- `clock` numbers the calls; `held` are the locks the client gave and did not take back. -/
structure HintWorld where
  list : HintList
  entries : List HintEntry
  clock : ℕ
  held : List CInt

namespace HintWorld

def start : HintWorld := ⟨initListHead, [], 0, []⟩

variable (client : PerfClient) (w : HintWorld)

def added (hintId : CInt) (g : Grant) : Option HintEntry :=
  if client.perfLockAcq ∧ g.result ≠ FAILED then
    g.newHint.bind fun d => g.newNode.map fun a => ⟨w.clock, a, d, hintId, g.result⟩
  else none

def entriesAfter : HintCall → List HintEntry
  | .perform hintId _ g => (w.added client hintId g).toList ++ w.entries
  | .undo hintId => (latest w.entries hintId).elim w.entries w.entries.erase

/-- A lock that is not kept is given back at once; an undo gives back the latest of its id. -/
def lockCalls : HintCall → List LockCall
  | .perform hintId resourceValues g =>
    if client.perfLockAcq then
      .perfLockAcq resourceValues g.result ::
        if g.result = FAILED ∨ (w.added client hintId g).isSome then []
        else [.perfLockRel g.result]
    else []
  | .undo hintId => (latest w.entries hintId).toList.map fun e =>
      .perfLockRel e.hint.perflockHandle

def run : HintCall → Option (HintList × List LockCall)
  | .perform hintId resourceValues g =>
    some (w.list.performHintAction client hintId resourceValues g)
  | .undo hintId => w.list.undoHintAction client hintId

def step (call : HintCall) : HintWorld :=
  let r := (w.run client call).getD (w.list, [])
  ⟨r.1, w.entriesAfter client call, w.clock + 1, heldAfter w.held r.2⟩

def Valid : HintCall → Prop
  | .perform _ _ g => g.result ∉ w.held ∧ (∀ d ∈ g.newHint, w.list.hint d = none) ∧
      ∀ a ∈ g.newNode, w.list.node a = none
  | .undo _ => True

def Owned (held : List CInt) : LockCall → Prop
  | .perfLockAcq _ result => result ∉ held
  | .perfLockRel handle => handle ∈ held

/-- The call ends with the list made of the entries, makes the calls that they ask for, and
leaves their locks held, each once. -/
structure Tracked (call : HintCall) : Prop where
  runs : ∃ list, w.run client call = some (list, w.lockCalls client call) ∧
    list.Represents (w.entriesAfter client call)
  owned : Along LockCall.holds Owned w.held (w.lockCalls client call)
  held : (heldAfter w.held (w.lockCalls client call)).Perm
    ((w.entriesAfter client call).map fun e => e.hint.perflockHandle)
  nodup : (heldAfter w.held (w.lockCalls client call)).Nodup

variable {client w}

structure Inv (client : PerfClient) (w : HintWorld) : Prop where
  list : w.list.Represents w.entries
  sorted : w.entries.Pairwise fun e e' => e'.time < e.time
  past : ∀ e ∈ w.entries, e.time < w.clock
  held : w.held.Perm (w.entries.map fun e => e.hint.perflockHandle)
  nodup : w.held.Nodup
  taken : client.perfLockAcq = false → w.entries = []

theorem inv_start : Inv client start where
  list := represents_init
  sorted := List.Pairwise.nil
  past _ he := absurd he List.not_mem_nil
  held := List.Perm.refl _
  nodup := List.nodup_nil
  taken _ := rfl

theorem latest_eq_find {es : List HintEntry} (h : es.Pairwise fun e e' => e'.time < e.time)
    (hintId : CInt) : latest es hintId = es.find? (HintEntry.hasId hintId) := by
  rw [latest]
  induction es with
  | nil => rfl
  | cons e es ih =>
    obtain ⟨hfirst, hrest⟩ := List.pairwise_cons.mp h
    cases hid : e.hasId hintId with
    | true =>
      rw [List.filter_cons_of_pos hid, List.find?_cons_of_pos hid, List.argmax_cons]
      cases hbest : (es.filter (HintEntry.hasId hintId)).argmax HintEntry.time with
      | none => rfl
      | some c =>
        have hmem := List.mem_of_mem_filter (List.argmax_mem hbest)
        exact if_neg (not_lt.mpr (hfirst c hmem).le)
    | false =>
      rw [List.filter_cons_of_neg (by simp [hid]), List.find?_cons_of_neg (by simp [hid])]
      exact ih hrest

theorem run_perform (hclient : client.perfLockAcq = true → client.perfLockRel = true)
    (h : w.Inv client) (hintId : CInt) (resourceValues : List (BitVec 32)) {g : Grant}
    (hv : w.Valid (.perform hintId resourceValues g)) :
    (w.list.performHintAction client hintId resourceValues g).2 =
        w.lockCalls client (.perform hintId resourceValues g) ∧
      (w.list.performHintAction client hintId resourceValues g).1.Represents
        (w.entriesAfter client (.perform hintId resourceValues g)) := by
  obtain ⟨result, newHint, newNode⟩ := g
  obtain ⟨-, hhint, hnode⟩ := hv
  by_cases hacq : client.perfLockAcq = true
  · by_cases hfailed : result = FAILED
    · subst hfailed
      have hadded : w.added client hintId ⟨FAILED, newHint, newNode⟩ = none := by
        simp [added]
      simp [HintList.performHintAction, lockCalls, entriesAfter, hacq, hadded, h.list]
    · cases newHint with
      | none =>
        have hadded : w.added client hintId ⟨result, none, newNode⟩ = none := by
          simp [added]
        simp [HintList.performHintAction, lockCalls, entriesAfter, hacq, hfailed, hclient hacq,
          hadded, h.list]
      | some d =>
        cases newNode with
        | none =>
          have hadded : w.added client hintId ⟨result, some d, none⟩ = none := by
            simp [added]
          have hsame := h.list.unchanged ⟨hintId, result⟩ (hhint d rfl)
          simp only [HintList.performHintAction, lockCalls, entriesAfter, hacq, hfailed,
            hclient hacq, hadded, ↓reduceIte, addListNode, Option.isSome_none, Bool.false_eq_true, or_self,
            Option.toList_none, List.nil_append, true_and]
          exact hsame
        | some a =>
          have hadded : w.added client hintId ⟨result, some d, some a⟩ =
              some ⟨w.clock, a, d, hintId, result⟩ := by
            simp [added, hacq, hfailed]
          have hnew := h.list.add w.clock ⟨hintId, result⟩ (hnode a rfl) (hhint d rfl)
          simp only [HintList.performHintAction, lockCalls, entriesAfter, hacq, hfailed, hadded,
            ↓reduceIte, addListNode, Option.isSome_some, or_true, Option.toList_some,
            List.singleton_append, true_and]
          exact hnew
  · have hadded : w.added client hintId ⟨result, newHint, newNode⟩ = none := by
      simp [added, hacq]
    simp [HintList.performHintAction, lockCalls, entriesAfter, hacq, hadded, h.list]

theorem added_eq_some {hintId : CInt} {g : Grant} {e : HintEntry}
    (h : w.added client hintId g = some e) :
    client.perfLockAcq = true ∧ g.result ≠ FAILED ∧ e.hint.perflockHandle = g.result ∧
      e.time = w.clock := by
  simp only [added] at h
  split at h
  case isTrue hgiven =>
    simp only [Option.bind_eq_some_iff, Option.map_eq_some_iff] at h
    obtain ⟨d, -, a, -, rfl⟩ := h
    exact ⟨hgiven.1, hgiven.2, rfl, rfl⟩
  case isFalse => cases h

theorem held_perform (h : w.Inv client) (hintId : CInt) (resourceValues : List (BitVec 32))
    {g : Grant} (hfresh : g.result ∉ w.held) :
    Along LockCall.holds Owned w.held
        (w.lockCalls client (.perform hintId resourceValues g)) ∧
      (heldAfter w.held (w.lockCalls client (.perform hintId resourceValues g))).Perm
        ((w.entriesAfter client (.perform hintId resourceValues g)).map
          fun e => e.hint.perflockHandle) ∧
      (heldAfter w.held (w.lockCalls client (.perform hintId resourceValues g))).Nodup := by
  cases hadded : w.added client hintId g with
  | some e =>
    obtain ⟨hacq, hgiven, hhandle, -⟩ := added_eq_some hadded
    simp only [lockCalls, entriesAfter, hacq, hadded, ↓reduceIte, Option.isSome_some, or_true,
      Along, Owned, heldAfter, List.foldl_cons, List.foldl_nil, LockCall.holds, if_neg hgiven,
      Option.toList_some, List.singleton_append, List.map_cons, hhandle, and_true]
    exact ⟨hfresh, h.held.cons _, List.nodup_cons.mpr ⟨hfresh, h.nodup⟩⟩
  | none =>
    have hheld : w.held.Perm (w.entries.map fun e => e.hint.perflockHandle) := h.held
    by_cases hacq : client.perfLockAcq = true
    · by_cases hfailed : g.result = FAILED
      · simp only [lockCalls, entriesAfter, hacq, hadded, hfailed, ↓reduceIte, true_or, Along,
          Owned, heldAfter, List.foldl_cons, List.foldl_nil, LockCall.holds, Option.toList_none,
          List.nil_append, and_true]
        exact ⟨hfailed ▸ hfresh, hheld, h.nodup⟩
      · simp only [lockCalls, entriesAfter, hacq, hadded, hfailed, ↓reduceIte,
          Option.isSome_none, Bool.false_eq_true, or_self, Along, Owned, heldAfter,
          List.foldl_cons, List.foldl_nil, LockCall.holds, Option.toList_none, List.nil_append,
          List.erase_cons_head, List.mem_cons_self, and_true]
        exact ⟨hfresh, hheld, h.nodup⟩
    · simp only [lockCalls, entriesAfter, hacq, hadded, Bool.false_eq_true, ↓reduceIte, Along,
        heldAfter, List.foldl_nil, Option.toList_none, List.nil_append, true_and]
      exact ⟨hheld, h.nodup⟩

theorem tracked_perform (hclient : client.perfLockAcq = true → client.perfLockRel = true)
    (h : w.Inv client) (hintId : CInt) (resourceValues : List (BitVec 32)) {g : Grant}
    (hv : w.Valid (.perform hintId resourceValues g)) :
    w.Tracked client (.perform hintId resourceValues g) := by
  obtain ⟨hcalls, hlist⟩ := run_perform hclient h hintId resourceValues hv
  obtain ⟨howned, hheld, hnodup⟩ := held_perform h hintId resourceValues hv.1
  exact ⟨⟨_, congrArg some (Prod.ext rfl hcalls), hlist⟩, howned, hheld, hnodup⟩

theorem erase_of_find {es : List HintEntry} {p : HintEntry → Bool} {e : HintEntry}
    (hfind : es.find? p = some e) :
    ∃ pre post, es = pre ++ e :: post ∧ es.erase e = pre ++ post ∧ es.eraseP p = pre ++ post := by
  obtain ⟨htaken, pre, post, rfl, hother⟩ := List.find?_eq_some_iff_append.mp hfind
  have hleft : ∀ e' ∈ pre, ¬ p e' = true := fun e' he' htrue => by
    simpa [htrue] using hother e' he'
  refine ⟨pre, post, rfl, ?_, ?_⟩
  · rw [List.erase_append_right _ fun hmem => hleft e hmem htaken, List.erase_cons_head]
  · rw [List.eraseP_append_right _ hleft, List.eraseP_cons_of_pos htaken]

theorem run_undo (hrel : client.perfLockRel = true) (h : w.Inv client) (hintId : CInt) :
    ∃ list, w.run client (.undo hintId) = some (list, w.lockCalls client (.undo hintId)) ∧
      list.Represents (w.entriesAfter client (.undo hintId)) := by
  have hlatest := latest_eq_find h.sorted hintId
  cases hfind : w.entries.find? (HintEntry.hasId hintId) with
  | none =>
    simp only [run, HintList.undoHintAction, hrel, ↓reduceIte, h.list.find, hfind,
      lockCalls, entriesAfter, hlatest, Option.map_none, Option.bind_some, Option.toList_none,
      List.map_nil, Option.elim_none, Option.some.injEq, Prod.mk.injEq, and_true, exists_eq_left']
    exact h.list
  | some e =>
    obtain ⟨pre, post, hsplit, herase, -⟩ := erase_of_find hfind
    obtain ⟨list, hremoved, hlist⟩ := h.list.remove hsplit
    have hlive : w.list.hint e.data = some e.hint :=
      h.list.hints e (List.mem_of_find?_eq_some hfind)
    refine ⟨list, ?_, ?_⟩
    · simp only [run, HintList.undoHintAction, hrel, ↓reduceIte, h.list.find, hfind,
        lockCalls, hlatest, HintEntry.cell, Option.map_some, Option.bind_some, hlive, hremoved,
        Option.toList_some, List.map_cons, List.map_nil]
    · simp only [entriesAfter, hlatest, hfind, Option.elim_some, herase]
      exact hlist

theorem held_undo (h : w.Inv client) (hintId : CInt) :
    Along LockCall.holds Owned w.held (w.lockCalls client (.undo hintId)) ∧
      (heldAfter w.held (w.lockCalls client (.undo hintId))).Perm
        ((w.entriesAfter client (.undo hintId)).map fun e => e.hint.perflockHandle) ∧
      (heldAfter w.held (w.lockCalls client (.undo hintId))).Nodup := by
  cases hlatest : latest w.entries hintId with
  | none =>
    simp only [lockCalls, entriesAfter, hlatest, Option.toList_none, List.map_nil, Along,
      heldAfter, List.foldl_nil, Option.elim_none, true_and]
    exact ⟨h.held, h.nodup⟩
  | some e =>
    have hmem : e ∈ w.entries := List.mem_of_mem_filter (List.argmax_mem hlatest)
    have herased : (w.held.erase e.hint.perflockHandle).Perm
        ((w.entries.erase e).map fun e => e.hint.perflockHandle) := by
      have hentries := (List.perm_cons_erase hmem).map fun e => e.hint.perflockHandle
      have hheld := (h.held.trans hentries).erase e.hint.perflockHandle
      rwa [List.map_cons, List.erase_cons_head] at hheld
    simp only [lockCalls, entriesAfter, hlatest, Option.toList_some, List.map_cons, List.map_nil,
      Along, Owned, heldAfter, List.foldl_cons, List.foldl_nil, LockCall.holds, Option.elim_some,
      and_true]
    refine ⟨?_, herased, h.nodup.erase _⟩
    exact h.held.mem_iff.mpr (List.mem_map_of_mem hmem)

theorem Inv.untaken (h : w.Inv client)
    (hclient : client.perfLockAcq = true → client.perfLockRel = true)
    (hrel : ¬ client.perfLockRel = true) : w.entries = [] := by
  refine h.taken ?_
  cases hacq : client.perfLockAcq with
  | false => rfl
  | true => exact absurd (hclient hacq) hrel

theorem tracked_undo (hclient : client.perfLockAcq = true → client.perfLockRel = true)
    (h : w.Inv client) (hintId : CInt) : w.Tracked client (.undo hintId) := by
  obtain ⟨howned, hheld, hnodup⟩ := held_undo h hintId
  refine ⟨?_, howned, hheld, hnodup⟩
  by_cases hrel : client.perfLockRel = true
  · exact run_undo hrel h hintId
  · have hempty : w.entries = [] := h.untaken hclient hrel
    refine ⟨w.list, ?_, ?_⟩
    · simp [run, HintList.undoHintAction, hrel, lockCalls, latest, hempty]
    · have hlist := h.list
      rw [hempty] at hlist
      simpa [entriesAfter, latest, hempty] using hlist

theorem ordered_after (h : w.Inv client) (call : HintCall) :
    ((w.entriesAfter client call).Pairwise fun e e' => e'.time < e.time) ∧
      (∀ e ∈ w.entriesAfter client call, e.time < w.clock + 1) ∧
      (client.perfLockAcq = false → w.entriesAfter client call = []) := by
  have hpast : ∀ e ∈ w.entries, e.time < w.clock + 1 := fun e he =>
    Nat.lt_succ_of_lt (h.past e he)
  cases call with
  | perform hintId resourceValues g =>
    cases hadded : w.added client hintId g with
    | none =>
      simp only [entriesAfter, hadded, Option.toList_none, List.nil_append]
      exact ⟨h.sorted, hpast, h.taken⟩
    | some e =>
      obtain ⟨hacq, -, -, htime⟩ := added_eq_some hadded
      simp only [entriesAfter, hadded, Option.toList_some, List.singleton_append]
      refine ⟨List.pairwise_cons.mpr ⟨fun e' he' => ?_, h.sorted⟩, ?_, fun hno => ?_⟩
      · rw [htime]
        exact h.past e' he'
      · refine List.forall_mem_cons.mpr ⟨?_, hpast⟩
        rw [htime]
        exact Nat.lt_succ_self _
      · rw [hacq] at hno
        cases hno
  | undo hintId =>
    cases hlatest : latest w.entries hintId with
    | none =>
      simp only [entriesAfter, hlatest, Option.elim_none]
      exact ⟨h.sorted, hpast, h.taken⟩
    | some e =>
      simp only [entriesAfter, hlatest, Option.elim_some]
      refine ⟨h.sorted.sublist List.erase_sublist, fun e' he' => ?_, fun hno => ?_⟩
      · exact hpast e' (List.mem_of_mem_erase he')
      · rw [h.taken hno]
        rfl

theorem records_after (hclient : client.perfLockAcq = true → client.perfLockRel = true)
    (h : w.Inv client) (call : HintCall) :
    call.onRecords client (w.entries.map HintEntry.hint) =
      ((w.entriesAfter client call).map HintEntry.hint, w.lockCalls client call) := by
  cases call with
  | perform hintId resourceValues g =>
    obtain ⟨result, newHint, newNode⟩ := g
    by_cases hacq : client.perfLockAcq = true
    · by_cases hfailed : result = FAILED
      · simp [HintCall.onRecords, Power.performHintAction, Grant.acquisition, entriesAfter,
          lockCalls, added, hacq, hfailed]
      · have hrel := hclient hacq
        cases newHint with
        | none =>
          simp [HintCall.onRecords, Power.performHintAction, Grant.acquisition, entriesAfter,
            lockCalls, added, hacq, hfailed, hrel]
        | some d =>
          cases newNode with
          | none =>
            simp [HintCall.onRecords, Power.performHintAction, Grant.acquisition, entriesAfter,
              lockCalls, added, hacq, hfailed, hrel]
          | some a =>
            simp [HintCall.onRecords, Power.performHintAction, Grant.acquisition, entriesAfter,
              lockCalls, added, hacq, hfailed]
    · simp [HintCall.onRecords, Power.performHintAction, entriesAfter, lockCalls, added, hacq]
  | undo hintId =>
    have hlatest := latest_eq_find h.sorted hintId
    by_cases hrel : client.perfLockRel = true
    · have hfind : (w.entries.map HintEntry.hint).find? (fun d => decide (d.hintId = hintId)) =
          (w.entries.find? (HintEntry.hasId hintId)).map HintEntry.hint := List.find?_map
      have herase : (w.entries.map HintEntry.hint).eraseP (fun d => decide (d.hintId = hintId)) =
          (w.entries.eraseP (HintEntry.hasId hintId)).map HintEntry.hint := List.eraseP_map
      simp only [HintCall.onRecords, Power.undoHintAction, hrel, ↓reduceIte, hfind, herase,
        entriesAfter, lockCalls, hlatest]
      cases hfirst : w.entries.find? (HintEntry.hasId hintId) with
      | none => rfl
      | some e =>
        obtain ⟨pre, post, -, hsame, hrest⟩ := erase_of_find hfirst
        simp [hsame, hrest]
    · have hempty : w.entries = [] := h.untaken hclient hrel
      simp [HintCall.onRecords, Power.undoHintAction, entriesAfter, lockCalls, latest, hempty,
        hrel]

theorem Inv.tracked (hclient : client.perfLockAcq = true → client.perfLockRel = true)
    (h : w.Inv client) {call : HintCall} (hv : w.Valid call) : w.Tracked client call := by
  cases call with
  | perform hintId resourceValues g => exact tracked_perform hclient h hintId resourceValues hv
  | undo hintId => exact tracked_undo hclient h hintId

theorem Inv.step (h : w.Inv client) {call : HintCall} (ht : w.Tracked client call) :
    (w.step client call).Inv client := by
  obtain ⟨list, hrun, hlist⟩ := ht.runs
  have hstep : w.step client call =
      ⟨list, w.entriesAfter client call, w.clock + 1,
        heldAfter w.held (w.lockCalls client call)⟩ := by
    simp only [HintWorld.step, hrun, Option.getD_some]
  obtain ⟨hsorted, hpast, htaken⟩ := ordered_after h call
  rw [hstep]
  exact ⟨hlist, hsorted, hpast, ht.held, ht.nodup, htaken⟩

end HintWorld

/-- Over every run the list accounts for the locks. -/
def HintsTracked (client : PerfClient) : Prop :=
  ∀ calls, Along (HintWorld.step client) HintWorld.Valid .start calls →
    Along (HintWorld.step client) (HintWorld.Tracked client) .start calls

theorem untracked_of_no_release {client : PerfClient} (hacq : client.perfLockAcq = true)
    (hrel : client.perfLockRel = false) (hintId result : CInt) (hgiven : result ≠ FAILED) :
    ¬ HintWorld.start.Tracked client (.perform hintId [] ⟨result, none, none⟩) := by
  intro h
  obtain ⟨list, hrun, -⟩ := h.runs
  have hcalls := congrArg Prod.snd (Option.some.inj hrun)
  simp [HintList.performHintAction, hacq, hrel, hgiven, HintWorld.lockCalls,
    HintWorld.added] at hcalls

theorem not_hintsTracked {client : PerfClient} (hacq : client.perfLockAcq = true)
    (hrel : client.perfLockRel = false) : ¬ HintsTracked client := by
  intro h
  have hvalid : Along (HintWorld.step client) HintWorld.Valid .start
      [.perform ⟨0, by decide⟩ [] ⟨⟨5, by decide⟩, none, none⟩] := by
    simp [Along, HintWorld.Valid, HintWorld.start]
  exact untracked_of_no_release hacq hrel _ _ (by decide) (h _ hvalid).1

theorem hintsTracked_iff (client : PerfClient) :
    HintsTracked client ↔ (client.perfLockAcq = true → client.perfLockRel = true) := by
  constructor
  · intro h hacq
    cases hrel : client.perfLockRel with
    | true => rfl
    | false => exact absurd h (not_hintsTracked hacq hrel)
  · intro hclient calls hvalid
    exact along_mono (HintWorld.Inv client) (fun w call h hv => h.step (h.tracked hclient hv))
      (fun w call h hv => h.tracked hclient hv) HintWorld.inv_start calls hvalid

/-- A client library without `perf_lock_rel`. -/
theorem hint_lock_leaked : ¬ HintsTracked ⟨true, false, true⟩ := not_hintsTracked rfl rfl

end Cedric.Power
