import Cedric.Lib.LinkedList
import Cedric.Power.HintActions
import Mathlib.Data.List.Find

/-!
# The list of active hints in memory

A lock is owned by the client, by a `hint_data` record and by a node of the list in
turn. `HintList` is the list as it lies in memory, with the blocks that `malloc` has
given out; every block belongs to an entry of the list, and the functions on
pointers do to the entries what `HintActions` says.
-/

namespace Cedric.Power

open DecimalText LinkedList

abbrev Addr := ℕ

/-- `compare` tells whether the function pointer is set. -/
structure NodeData where
  data : Option Addr
  compare : Bool

/-- `next` and `compare` are members of `active_hint_list_head`. `nodes` counts the nodes given
out and not freed, which bounds the loops over the list. -/
structure HintList where
  next : Option Addr
  compare : Bool
  node : Heap Addr NodeData
  hint : Addr → Option HintData
  nodes : ℕ

namespace HintList

def initListHead : HintList := ⟨none, false, fun _ => none, fun _ => none, 0⟩

variable (s : HintList)

/-- `new_node` is what `malloc` gives. -/
def addListNode (newNode : Option Addr) (data : Addr) : HintList × Option Addr :=
  match newNode with
  | none => (s, none)
  | some a =>
    ({ s with
      node := Function.update s.node a (some ⟨s.next, some data, s.compare⟩)
      next := some a
      nodes := s.nodes + 1 }, some a)

/-- The test of `hint_compare` against a record with this id, made where `compare` is set. -/
def matchesId (hintId : CInt) (d : NodeData) : Option Bool :=
  if d.compare then
    match d.data with
    | none => some false
    | some a => (s.hint a).map fun h => decide (h.hintId = hintId)
  else some false

/-- `none` is a fault or a loop that does not end. -/
def findNode (hintId : CInt) : Option (Option (Addr × NodeData)) :=
  find (s.matchesId hintId) s.node (s.nodes + 1) s.next

/-- A node that is not found is not freed. -/
def removeListNode (delNode : Addr) : Option HintList :=
  (walk s.node delNode (s.nodes + 1) none s.next).map fun
    | none => s
    | some (saved, next) =>
      let r := redirect s.next s.node saved next
      { s with next := r.1, node := Function.update r.2 delNode none, nodes := s.nodes - 1 }

def freeHint (a : Addr) : HintList := { s with hint := Function.update s.hint a none }

structure Grant where
  result : CInt
  newHint : Option Addr
  newNode : Option Addr

def Grant.acquisition (g : Grant) : Acquisition := ⟨g.result, g.newHint.isSome, g.newNode.isSome⟩

variable (client : PerfClient)

def performHintAction (hintId : CInt) (resourceValues : List (BitVec 32)) (g : Grant) :
    HintList × List LockCall :=
  if client.perfLockAcq then
    let acquired := LockCall.perfLockAcq resourceValues g.result
    let released := if client.perfLockRel then [LockCall.perfLockRel g.result] else []
    if g.result = FAILED then (s, [acquired])
    else
      match g.newHint with
      | none => (s, acquired :: released)
      | some d =>
        let s := { s with
          compare := true, hint := Function.update s.hint d (some ⟨hintId, g.result⟩) }
        match s.addListNode g.newNode d with
        | (s, none) => (s.freeHint d, acquired :: released)
        | (s, some _) => (s, [acquired])
  else (s, [])

def undoHintAction (hintId : CInt) : Option (HintList × List LockCall) :=
  if client.perfLockRel then
    (s.findNode hintId).bind fun
      | none => some (s, [])
      | some (found, node) =>
        match node.data with
        | none => (s.removeListNode found).map fun s => (s, [])
        | some d => (s.hint d).bind fun h =>
          ((s.freeHint d).removeListNode found).map fun s => (s, [.perfLockRel h.perflockHandle])
  else some (s, [])

end HintList

/-- An entry of the list with its two blocks, and the number of the call that added it. -/
structure HintEntry where
  time : ℕ
  node : Addr
  data : Addr
  hint : HintData
  deriving DecidableEq

def HintEntry.hasId (hintId : CInt) (e : HintEntry) : Bool := decide (e.hint.hintId = hintId)

def HintEntry.cell (e : HintEntry) : Addr × NodeData := (e.node, ⟨some e.data, true⟩)

namespace HintList

/-- The list in memory is made of these entries, and nothing else was given out. -/
structure Represents (s : HintList) (es : List HintEntry) : Prop where
  path : Seg s.node s.next (es.map HintEntry.cell) none
  hints : ∀ e ∈ es, s.hint e.data = some e.hint
  nodes_nodup : (es.map HintEntry.node).Nodup
  hints_nodup : (es.map HintEntry.data).Nodup
  node_owned : ∀ a, s.node a ≠ none → a ∈ es.map HintEntry.node
  hint_owned : ∀ d, s.hint d ≠ none → d ∈ es.map HintEntry.data
  count : s.nodes = es.length

theorem represents_init : initListHead.Represents [] where
  path := rfl
  hints _ he := absurd he List.not_mem_nil
  nodes_nodup := List.nodup_nil
  hints_nodup := List.nodup_nil
  node_owned _ h := absurd rfl h
  hint_owned _ h := absurd rfl h
  count := rfl

variable {s : HintList} {es : List HintEntry}

theorem Represents.node_live (h : s.Represents es) {e : HintEntry} (he : e ∈ es) :
    ∃ next, s.node e.node = some ⟨next, some e.data, true⟩ :=
  h.path.cell_of_mem (List.mem_map_of_mem he)

theorem Represents.node_fresh (h : s.Represents es) {a : Addr} (ha : s.node a = none) :
    a ∉ es.map HintEntry.node := by
  intro hmem
  obtain ⟨e, he, rfl⟩ := List.mem_map.mp hmem
  obtain ⟨next, hlive⟩ := h.node_live he
  rw [hlive] at ha
  cases ha

theorem Represents.hint_fresh (h : s.Represents es) {d : Addr} (hd : s.hint d = none) :
    d ∉ es.map HintEntry.data := by
  intro hmem
  obtain ⟨e, he, rfl⟩ := List.mem_map.mp hmem
  rw [h.hints e he] at hd
  cases hd

theorem Represents.add (h : s.Represents es) (t : ℕ) {a d : Addr} (x : HintData)
    (ha : s.node a = none) (hd : s.hint d = none) :
    ({ s with compare := true, hint := Function.update s.hint d (some x) }.addListNode
      (some a) d).1.Represents (⟨t, a, d, x⟩ :: es) := by
  have haFresh := h.node_fresh ha
  have hdFresh := h.hint_fresh hd
  refine ⟨?_, ?_, ?_, ?_, ?_, ?_, ?_⟩
  · refine ⟨rfl, s.next, Function.update_self _ _ _, h.path.frame fun y hy => ?_⟩
    obtain ⟨e, he, rfl⟩ := List.mem_map.mp hy
    refine Function.update_of_ne ?_ _ _
    rintro rfl
    exact haFresh (List.mem_map_of_mem he)
  · refine List.forall_mem_cons.mpr ⟨Function.update_self _ _ _, fun e he => ?_⟩
    refine (Function.update_of_ne ?_ _ _).trans (h.hints e he)
    rintro rfl
    exact hdFresh (List.mem_map_of_mem he)
  · exact List.nodup_cons.mpr ⟨haFresh, h.nodes_nodup⟩
  · exact List.nodup_cons.mpr ⟨hdFresh, h.hints_nodup⟩
  · intro b hb
    by_cases hba : b = a
    · exact List.mem_cons.mpr (Or.inl hba)
    · refine List.mem_cons_of_mem _ (h.node_owned b ?_)
      rwa [← Function.update_of_ne hba (some ⟨s.next, some d, true⟩) s.node]
  · intro b hb
    by_cases hbd : b = d
    · exact List.mem_cons.mpr (Or.inl hbd)
    · refine List.mem_cons_of_mem _ (h.hint_owned b ?_)
      rwa [← Function.update_of_ne hbd (some x) s.hint]
  · exact congrArg (· + 1) h.count

theorem Represents.find (h : s.Represents es) (hintId : CInt) :
    s.findNode hintId =
      some ((es.find? (HintEntry.hasId hintId)).map HintEntry.cell) := by
  have hmatch : ∀ e ∈ es, s.matchesId hintId e.cell.2 = some (e.hasId hintId) := by
    intro e he
    simp only [matchesId, HintEntry.cell, HintEntry.hasId, ↓reduceIte, h.hints e he,
      Option.map_some]
  have htest : ∀ x ∈ es.map HintEntry.cell,
      s.matchesId hintId x.2 = some ((s.matchesId hintId x.2).getD false) := by
    intro x hx
    obtain ⟨e, he, rfl⟩ := List.mem_map.mp hx
    rw [hmatch e he]
    rfl
  have hfuel : (es.map HintEntry.cell).length < s.nodes + 1 := by
    rw [List.length_map, h.count]
    exact Nat.lt_succ_self _
  have hsame : es.find? ((fun x => (s.matchesId hintId x.2).getD false) ∘ HintEntry.cell) =
      es.find? (HintEntry.hasId hintId) := by
    refine List.find?_congr fun e he => ?_
    simp only [Function.comp_apply, hmatch e he, Option.getD_some]
  rw [findNode, find_seg h.path htest hfuel, List.find?_map, hsame]

theorem Represents.unchanged (h : s.Represents es) {d : Addr} (x : HintData)
    (hd : s.hint d = none) :
    (freeHint { s with compare := true, hint := Function.update s.hint d (some x) } d).Represents
      es := by
  have hsame : Function.update (Function.update s.hint d (some x)) d none = s.hint := by
    rw [Function.update_idem, ← hd, Function.update_eq_self]
  refine ⟨h.path, fun e he => ?_, h.nodes_nodup, h.hints_nodup, h.node_owned, fun b hb => ?_,
    h.count⟩
  · exact (congrFun hsame e.data).trans (h.hints e he)
  · exact h.hint_owned b fun hnone => hb ((congrFun hsame b).trans hnone)

theorem Represents.remove (h : s.Represents es) {pre post : List HintEntry} {e : HintEntry}
    (hsplit : es = pre ++ e :: post) :
    ∃ s', (s.freeHint e.data).removeListNode e.node = some s' ∧
      s'.Represents (pre ++ post) := by
  subst hsplit
  have hnodes := h.nodes_nodup
  have hdatas := h.hints_nodup
  rw [List.map_append, List.map_cons, List.nodup_middle, ← List.map_append] at hnodes hdatas
  obtain ⟨hnodeNew, hnodesRest⟩ := List.nodup_cons.mp hnodes
  obtain ⟨hdataNew, hdatasRest⟩ := List.nodup_cons.mp hdatas
  have hpath := h.path
  rw [List.map_append, List.map_cons] at hpath
  obtain ⟨next, hpre, hcell, hpost⟩ := seg_cons_of_split hpath
  have hfst (es : List HintEntry) :
      (es.map HintEntry.cell).map Prod.fst = es.map HintEntry.node := by
    rw [List.map_map]
    rfl
  have hfresh : e.node ∉ (pre.map HintEntry.cell).map Prod.fst := by
    rw [hfst]
    intro hmem
    rw [List.map_append] at hnodeNew
    exact hnodeNew (List.mem_append_left _ hmem)
  have hfuel : (pre.map HintEntry.cell).length < s.nodes + 1 := by
    rw [List.length_map, h.count, List.length_append]
    omega
  have hwalk := walk_seg hpre hcell hfresh none hfuel
  have hunlinked := redirect_seg hpre hpost (by
    rw [← List.map_append, hfst]
    exact hnodesRest)
  rw [← List.map_append] at hunlinked
  refine ⟨_, by rw [removeListNode, freeHint, hwalk]; rfl, ?_⟩
  rw [Option.or_none]
  refine ⟨hunlinked.frame fun x hx => ?_, fun e' he' => ?_, hnodesRest, hdatasRest,
    fun a ha => ?_, fun d hd => ?_, ?_⟩
  · obtain ⟨e', he', rfl⟩ := List.mem_map.mp hx
    refine Function.update_of_ne ?_ _ _
    rintro heq
    exact hnodeNew (heq ▸ List.mem_map_of_mem he')
  · refine (Function.update_of_ne ?_ _ _).trans (h.hints e' ?_)
    · rintro heq
      exact hdataNew (heq ▸ List.mem_map_of_mem he')
    · exact (List.perm_middle.mem_iff).mpr (List.mem_cons_of_mem _ he')
  · have hother : a ≠ e.node := by
      rintro rfl
      exact ha (Function.update_self _ _ _)
    have hlive : s.node a ≠ none := fun hnone =>
      ha ((Function.update_of_ne hother _ _).trans ((redirect_eq_none _ _ _ _ a).mpr hnone))
    have howned := h.node_owned a hlive
    rw [List.map_append, List.map_cons, List.perm_middle.mem_iff, ← List.map_append] at howned
    exact (List.mem_cons.mp howned).resolve_left hother
  · have hother : d ≠ e.data := by
      rintro rfl
      exact hd (Function.update_self _ _ _)
    have hlive : s.hint d ≠ none := fun hnone =>
      hd ((Function.update_of_ne hother _ _).trans hnone)
    have howned := h.hint_owned d hlive
    rw [List.map_append, List.map_cons, List.perm_middle.mem_iff, ← List.map_append] at howned
    exact (List.mem_cons.mp howned).resolve_left hother
  · change s.nodes - 1 = (pre ++ post).length
    rw [h.count, List.length_append, List.length_append, List.length_cons]
    omega

end HintList
end Cedric.Power
