import Cedric.Lib.Overlay
import Cedric.Lib.Runs
import Mathlib.Algebra.BigOperators.Ring.Finset
import Mathlib.Data.Fintype.BigOperators

/-!
# Items on their way from sources to a caller

A source decodes items, holds some of them back and stores the others in the
caller's array, which the caller then gets in part. `Books` lists per source what was
decoded and what was returned so far, and `Balanced` says that what was not returned
is still held. They stay balanced along a run exactly if every step returns
what it stores (`balanced_along_iff`). Cells of the array carry their source; `of`
selects the items of one.
-/

namespace Cedric.Custody

open Overlay Runs

variable {σ ι δ ε : Type*}

structure Flow (δ ε : Type*) where
  decoded : δ → List ε
  stored : δ → List ε
  returned : δ → List ε

structure Books (δ ε : Type*) where
  decoded : δ → List ε
  returned : δ → List ε

def Books.blank : Books δ ε := ⟨fun _ => [], fun _ => []⟩

def Books.post (b : Books δ ε) (f : Flow δ ε) : Books δ ε :=
  ⟨fun d => b.decoded d ++ f.decoded d, fun d => b.returned d ++ f.returned d⟩

def Books.Balanced (b : Books δ ε) (held : δ → List ε) : Prop :=
  ∀ d, b.returned d ++ held d = b.decoded d

/-- What a source held and decoded is what it stored and holds now. -/
def Flow.Conserves (f : Flow δ ε) (held held' : δ → List ε) : Prop :=
  ∀ d, held d ++ f.decoded d = f.stored d ++ held' d

theorem Books.Balanced.post_iff {b : Books δ ε} {f : Flow δ ε} {held held' : δ → List ε}
    (hb : b.Balanced held) (hf : f.Conserves held held') :
    (b.post f).Balanced held' ↔ ∀ d, f.returned d = f.stored d := by
  refine forall_congr' fun d => ?_
  have hdecoded : b.decoded d ++ f.decoded d = b.returned d ++ (f.stored d ++ held' d) := by
    rw [← hb d, List.append_assoc, hf d]
  simp only [post, hdecoded, List.append_assoc, List.append_cancel_left_eq,
    List.append_cancel_right_eq]

/-- The books are balanced after every step exactly if every step returns what it stores. -/
theorem balanced_along_iff (step : σ → ι → σ) (flow : σ → ι → Flow δ ε) (held : σ → δ → List ε)
    (Inv : σ → Prop) (keeps : ∀ s i, Inv s → Inv (step s i))
    (conserves : ∀ s i, Inv s → (flow s i).Conserves (held s) (held (step s i))) {s : σ}
    (hs : Inv s) {b : Books δ ε} (hb : b.Balanced (held s)) (is : List ι) :
    Along (fun (p : σ × Books δ ε) i => (step p.1 i, p.2.post (flow p.1 i)))
        (fun p i => (p.2.post (flow p.1 i)).Balanced (held (step p.1 i))) (s, b) is ↔
      Along step (fun s i => ∀ d, (flow s i).returned d = (flow s i).stored d) s is := by
  rw [← along_ghost (fun s (b : Books δ ε) i => b.post (flow s i)) s b is]
  refine along_congr (fun (p : σ × Books δ ε) => Inv p.1 ∧ p.2.Balanced (held p.1)) (fun p i hp => ?_)
    (fun p i hp hi => ⟨keeps p.1 i hp.1, hi⟩) ⟨hs, hb⟩ is
  exact hp.2.post_iff (conserves p.1 i hp.1)

section Cells
variable [DecidableEq δ]

def of (d : δ) (cells : List (δ × ε)) : List ε :=
  cells.filterMap fun c => if c.1 = d then some c.2 else none

@[simp] theorem of_nil (d : δ) : of d ([] : List (δ × ε)) = [] := rfl

@[simp] theorem of_append (d : δ) (xs ys : List (δ × ε)) : of d (xs ++ ys) = of d xs ++ of d ys :=
  List.filterMap_append

theorem of_map (d d' : δ) (es : List ε) : of d (es.map (d', ·)) = if d' = d then es else [] := by
  induction es with
  | nil => split_ifs <;> rfl
  | cons e es ih =>
    rw [List.map_cons, of, List.filterMap_cons]
    rw [of] at ih
    split_ifs at ih ⊢ with h
    · simp only [ih]
    · exact ih

theorem length_eq_sum [Fintype δ] (cells : List (δ × ε)) :
    cells.length = ∑ d, (of d cells).length := by
  induction cells with
  | nil => simp
  | cons c cells ih =>
    have hone (d : δ) : (of d (c :: cells)).length =
        (if c.1 = d then 1 else 0) + (of d cells).length := by
      rw [of, List.filterMap_cons]
      split_ifs
      · rw [List.length_cons, Nat.add_comm]
        rfl
      · rw [Nat.zero_add]
        rfl
    simp only [hone, Finset.sum_add_distrib, Finset.sum_ite_eq, Finset.mem_univ, ↓reduceIte,
      List.length_cons, ← ih]
    omega

theorem length_eq_of_of_eq [Fintype δ] {xs ys : List (δ × ε)} (h : ∀ d, of d xs = of d ys) :
    xs.length = ys.length := by
  rw [length_eq_sum xs, length_eq_sum ys]
  simp only [h]

end Cells

variable {α : Type*}

def front (memory : ℕ → α) (n : ℕ) : List α := (List.range n).map memory

theorem front_length (memory : ℕ → α) (n : ℕ) : (front memory n).length = n := by
  rw [front, List.length_map, List.length_range]

theorem front_lay (memory : ℕ → α) (n : ℕ) (chunk : List α) :
    front (lay memory n chunk) (n + chunk.length) = front memory n ++ chunk := by
  rw [front, List.range_add, List.map_append, List.map_map]
  congr 1
  · refine List.map_congr_left fun k hk => ?_
    exact lay_other memory (Or.inl (List.mem_range.mp hk))
  · refine List.ext_get (by simp) fun k hk hk' => ?_
    simp only [List.get_eq_getElem, List.getElem_map, List.getElem_range, Function.comp_apply]
    exact lay_at memory n hk'

end Cedric.Custody
