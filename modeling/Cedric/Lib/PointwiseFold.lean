import Mathlib.Data.List.Basic
import Mathlib.Logic.Basic

/-!
# Folds whose steps work at one place each

A loop over places changes at each of them what is seen there. What is seen after the
loop is what the place's own step made of it; a fact `Inv` that the steps keep may tell
what they do.
-/

namespace Cedric.PointwiseFold

variable {σ ι ρ : Type*}

/-- A step at `i` makes `f i` of what is seen at `i` and leaves the other places alone. -/
structure Pointwise (Inv : σ → Prop) (step : σ → ι → σ) (see : σ → ι → ρ) (f : ι → ρ → ρ) :
    Prop where
  keeps : ∀ s i, Inv s → Inv (step s i)
  own : ∀ s i, Inv s → see (step s i) i = f i (see s i)
  other : ∀ s i j, Inv s → j ≠ i → see (step s i) j = see s j

variable {Inv : σ → Prop} {step : σ → ι → σ} {see : σ → ι → ρ} {f : ι → ρ → ρ}

theorem Pointwise.foldl_keeps (h : Pointwise Inv step see f) {s : σ} (hs : Inv s) (is : List ι) :
    Inv (is.foldl step s) := by
  induction is generalizing s with
  | nil => exact hs
  | cons i is ih => exact ih (h.keeps s i hs)

theorem Pointwise.foldl_not_mem (h : Pointwise Inv step see f) {s : σ} (hs : Inv s) {is : List ι}
    {j : ι} (hj : j ∉ is) : see (is.foldl step s) j = see s j := by
  induction is generalizing s with
  | nil => rfl
  | cons i is ih =>
    obtain ⟨hne, hrest⟩ := not_or.mp (hj ∘ List.mem_cons.mpr)
    exact (ih (h.keeps s i hs) hrest).trans (h.other s i j hs hne)

theorem Pointwise.foldl_mem (h : Pointwise Inv step see f) {s : σ} (hs : Inv s) {is : List ι}
    (hnodup : is.Nodup) {j : ι} (hj : j ∈ is) : see (is.foldl step s) j = f j (see s j) := by
  induction is generalizing s with
  | nil => exact absurd hj List.not_mem_nil
  | cons i is ih =>
    obtain ⟨hi, hrest⟩ := List.nodup_cons.mp hnodup
    rcases List.mem_cons.mp hj with rfl | hj
    · exact (h.foldl_not_mem (h.keeps s j hs) hi).trans (h.own s j hs)
    · have hne : j ≠ i := fun heq => hi (heq ▸ hj)
      exact (ih (h.keeps s i hs) hrest hj).trans (congrArg (f j) (h.other s i j hs hne))

end Cedric.PointwiseFold
