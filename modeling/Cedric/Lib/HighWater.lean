import Mathlib.Order.Bounds.Basic

/-!
# High-water marks

`Mark floor S m`: the greatest of the values seen so far, or the floor if none is
above it. A report raises the mark. A program that merges what it has just read with what it
kept, or with another copy of it, is at the mark as long as it loses nothing.
-/

namespace Cedric.HighWater

variable {β : Type*} [LinearOrder β] {floor m k : β} {S : Set β}

def Mark (floor : β) (S : Set β) (m : β) : Prop := IsGreatest (insert floor S) m

theorem mark_empty (floor : β) : Mark floor ∅ floor := by
  rw [Mark, insert_empty_eq]
  exact isGreatest_singleton

theorem Mark.floor_le (h : Mark floor S m) : floor ≤ m := h.2 (Set.mem_insert floor S)

theorem Mark.report (h : Mark floor S m) (o : Option β) :
    Mark floor ({b | o = some b} ∪ S) (max m (o.getD floor)) := by
  cases o with
  | none =>
    have hsame : ({b | none = some b} ∪ S : Set β) = S := by
      simp only [reduceCtorEq, Set.ofPred_false, Set.empty_union]
    rw [hsame, Option.getD_none, max_eq_left h.floor_le]
    exact h
  | some b =>
    have hinsert : insert floor ({c | some b = some c} ∪ S) = insert b (insert floor S) := by
      ext c
      simp only [Option.some.injEq, Set.mem_insert_iff, Set.mem_union, Set.mem_ofPred_eq]
      tauto
    rw [Mark, hinsert, Option.getD_some, max_comm]
    exact IsGreatest.insert b h

theorem Mark.isGreatest (h : Mark floor S m) (hfloor : ∀ b ∈ S, floor ≤ b) (hne : S.Nonempty) :
    IsGreatest S m := by
  refine ⟨?_, fun b hb => h.2 (Set.mem_insert_of_mem floor hb)⟩
  rcases h.1 with hm | hm
  · obtain ⟨b, hb⟩ := hne
    have hle : b ≤ m := h.2 (Set.mem_insert_of_mem floor hb)
    have hsame : b = m := le_antisymm hle (hm.le.trans (hfloor b hb))
    exact hsame ▸ hb
  · exact hm

theorem max_kept (hfloor : floor ≤ m) (hk : k ≤ m) (o : Option β) :
    max m (o.getD k) = max m (o.getD floor) := by
  cases o with
  | none => exact (max_eq_left hk).trans (max_eq_left hfloor).symm
  | some b => rfl

theorem max_replaced (hfloor : floor ≤ m) (hk : k ≤ m) (o p : Option β)
    (hkeeps : m ≤ max (o.getD m) (p.getD k)) :
    max (o.getD m) (p.getD k) = max (max m (p.getD floor)) (o.getD floor) := by
  rw [← max_kept hfloor hk]
  cases o with
  | none =>
    have hle : floor ≤ max m (p.getD k) := hfloor.trans (le_max_left m _)
    exact (max_eq_left hle).symm
  | some b =>
    refine le_antisymm (max_le (le_max_right _ _) ((le_max_right m _).trans (le_max_left _ _))) ?_
    exact max_le (max_le hkeeps (le_max_right _ _)) (le_max_left _ _)

end Cedric.HighWater
