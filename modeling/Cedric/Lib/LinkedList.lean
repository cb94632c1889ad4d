import Mathlib.Data.List.Nodup
import Mathlib.Logic.Function.Basic

/-!
# Singly linked lists in a heap

A heap maps addresses to cells with a pointer to the next one. `Seg` is the path
from one pointer to another. The loops over a list take fuel, of which a path needs
no more than its length; a read of an address without a cell faults.
-/

namespace Cedric.LinkedList

variable {α γ : Type*}

structure Cell (α γ : Type*) where
  next : Option α
  content : γ

abbrev Heap (α γ : Type*) := α → Option (Cell α γ)

/-- The path from `p` over the cells of the list ends at `q`. -/
def Seg (h : Heap α γ) : Option α → List (α × γ) → Option α → Prop
  | p, [], q => p = q
  | p, x :: xs, q => p = some x.1 ∧ ∃ next, h x.1 = some ⟨next, x.2⟩ ∧ Seg h next xs q

section Paths
variable {h h' : Heap α γ} {p q : Option α} {xs ys : List (α × γ)}

theorem seg_append : Seg h p (xs ++ ys) q ↔ ∃ r, Seg h p xs r ∧ Seg h r ys q := by
  induction xs generalizing p with
  | nil => simp [Seg]
  | cons x xs ih =>
    simp only [List.cons_append, Seg, ih]
    constructor
    · rintro ⟨hp, next, hx, r, hxs, hys⟩
      exact ⟨r, ⟨hp, next, hx, hxs⟩, hys⟩
    · rintro ⟨r, ⟨hp, next, hx, hxs⟩, hys⟩
      exact ⟨hp, next, hx, r, hxs, hys⟩

theorem Seg.cell_of_mem (hseg : Seg h p xs q) {x : α × γ} (hx : x ∈ xs) :
    ∃ next, h x.1 = some ⟨next, x.2⟩ := by
  induction xs generalizing p with
  | nil => exact absurd hx List.not_mem_nil
  | cons y ys ih =>
    obtain ⟨-, next, hy, hys⟩ := hseg
    obtain rfl | hx := List.mem_cons.mp hx
    · exact ⟨next, hy⟩
    · exact ih hys hx

theorem Seg.frame (hseg : Seg h p xs q) (hsame : ∀ x ∈ xs, h' x.1 = h x.1) : Seg h' p xs q := by
  induction xs generalizing p with
  | nil => exact hseg
  | cons x xs ih =>
    obtain ⟨hp, next, hx, hxs⟩ := hseg
    obtain ⟨hfirst, hrest⟩ := List.forall_mem_cons.mp hsame
    exact ⟨hp, next, hfirst.trans hx, ih hxs hrest⟩

end Paths

/-- The first cell that the test takes; `none` is a fault, also one of the test. -/
def find (test : γ → Option Bool) (h : Heap α γ) : ℕ → Option α → Option (Option (α × γ))
  | 0, _ => none
  | _ + 1, none => some none
  | fuel + 1, some a =>
    (h a).bind fun cell => (test cell.content).bind fun
      | true => some (some (a, cell.content))
      | false => find test h fuel cell.next

theorem find_seg {test : γ → Option Bool} {takes : α × γ → Bool} {h : Heap α γ} {p : Option α}
    {xs : List (α × γ)} (hseg : Seg h p xs none)
    (htest : ∀ x ∈ xs, test x.2 = some (takes x)) {fuel : ℕ} (hfuel : xs.length < fuel) :
    find test h fuel p = some (xs.find? takes) := by
  induction xs generalizing p fuel with
  | nil =>
    obtain ⟨fuel, rfl⟩ := Nat.exists_eq_add_one.mpr hfuel
    rw [show p = none from hseg]
    rfl
  | cons x xs ih =>
    obtain ⟨fuel, rfl⟩ := Nat.exists_eq_add_one.mpr (Nat.zero_lt_of_lt hfuel)
    obtain ⟨rfl, next, hx, hxs⟩ := hseg
    obtain ⟨hfirst, hrest⟩ := List.forall_mem_cons.mp htest
    simp only [find, hx, Option.bind_some, hfirst]
    cases htakes : takes x with
    | true => rw [List.find?_cons_of_pos htakes]
    | false =>
      rw [List.find?_cons_of_neg (by simp [htakes])]
      exact ih hxs hrest (Nat.lt_of_succ_lt_succ hfuel)

variable [DecidableEq α]

/-- Where the link to `del` is, with what `del` links to: `saved` is the cell behind which the
walk is, `none` the head. The inner `none` is the end of the list. -/
def walk (h : Heap α γ) (del : α) :
    ℕ → Option α → Option α → Option (Option (Option α × Option α))
  | 0, _, _ => none
  | _ + 1, _, none => some none
  | fuel + 1, saved, some a =>
    (h a).bind fun cell =>
      if a = del then some (some (saved, cell.next)) else walk h del fuel (some a) cell.next

def redirect (head : Option α) (h : Heap α γ) (saved next : Option α) : Option α × Heap α γ :=
  match saved with
  | none => (next, h)
  | some b => (head, Function.update h b ((h b).map fun cell => { cell with next := next }))

section Unlink
variable {h : Heap α γ} {p : Option α} {pre post : List (α × γ)} {a : α} {c : γ}

omit [DecidableEq α] in
theorem seg_cons_of_split (hseg : Seg h p (pre ++ (a, c) :: post) none) :
    ∃ next, Seg h p pre (some a) ∧ h a = some ⟨next, c⟩ ∧ Seg h next post none := by
  obtain ⟨r, hpre, rfl, next, ha, hpost⟩ := seg_append.mp hseg
  exact ⟨next, hpre, ha, hpost⟩

theorem walk_seg {next : Option α} (hpre : Seg h p pre (some a)) (ha : h a = some ⟨next, c⟩)
    (hfresh : a ∉ pre.map Prod.fst) (saved : Option α) {fuel : ℕ} (hfuel : pre.length < fuel) :
    walk h a fuel saved p = some (some ((pre.getLast?.map Prod.fst).or saved, next)) := by
  induction pre generalizing p saved fuel with
  | nil =>
    obtain ⟨fuel, rfl⟩ := Nat.exists_eq_add_one.mpr hfuel
    rw [show p = some a from hpre]
    simp [walk, ha]
  | cons x pre ih =>
    obtain ⟨fuel, rfl⟩ := Nat.exists_eq_add_one.mpr (Nat.zero_lt_of_lt hfuel)
    obtain ⟨rfl, r, hx, hrest⟩ := hpre
    rw [List.map_cons, List.mem_cons, not_or] at hfresh
    simp only [walk, hx, Option.bind_some, if_neg (Ne.symm hfresh.1)]
    rw [ih hrest hfresh.2 (some x.1) (Nat.lt_of_succ_lt_succ hfuel)]
    cases pre with
    | nil => simp
    | cons y pre => simp [List.getLast?_cons]

theorem redirect_eq_none (head : Option α) (h : Heap α γ) (saved next : Option α) (b : α) :
    (redirect head h saved next).2 b = none ↔ h b = none := by
  cases saved with
  | none => rfl
  | some d =>
    unfold redirect
    dsimp only
    by_cases hbd : b = d
    · rw [hbd, Function.update_self, Option.map_eq_none_iff]
    · rw [Function.update_of_ne hbd]

/-- With the link to `a` set past it, the list is the same without `a`. -/
theorem redirect_seg {next : Option α} (hpre : Seg h p pre (some a))
    (hpost : Seg h next post none) (hnodup : ((pre ++ post).map Prod.fst).Nodup) :
    let r := redirect p h (pre.getLast?.map Prod.fst) next
    Seg r.2 r.1 (pre ++ post) none := by
  rcases List.eq_nil_or_concat pre with rfl | ⟨init, b, rfl⟩
  · exact hpost
  · rw [List.concat_eq_append] at hpre hnodup ⊢
    obtain ⟨r, hinit, rfl, _, hb, -⟩ := seg_append.mp hpre
    have hlast : (init ++ [b]).getLast?.map Prod.fst = some b.1 := by simp
    have hfresh : b.1 ∉ init.map Prod.fst ++ post.map Prod.fst := by
      rw [List.map_append, List.map_append, List.append_assoc, List.map_singleton,
        List.singleton_append, List.nodup_middle] at hnodup
      exact (List.nodup_cons.mp hnodup).1
    have hframe (v : Option (Cell α γ)) :
        ∀ x ∈ init ++ post, Function.update h b.1 v x.1 = h x.1 := by
      intro x hx
      refine Function.update_of_ne ?_ _ _
      rintro heq
      rw [← List.map_append, ← heq] at hfresh
      exact hfresh (List.mem_map_of_mem hx)
    rw [hlast, redirect, hb]
    dsimp only [Option.map_some]
    rw [List.append_assoc, List.singleton_append]
    refine seg_append.mpr ⟨some b.1, hinit.frame fun x hx => ?_, rfl, next, ?_, hpost.frame ?_⟩
    · exact hframe _ x (List.mem_append_left _ hx)
    · exact Function.update_self _ _ _
    · intro x hx
      exact hframe _ x (List.mem_append_right _ hx)

end Unlink
end Cedric.LinkedList
