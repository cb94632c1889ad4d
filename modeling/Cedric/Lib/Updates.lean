import Mathlib.Data.Set.Basic

/-!
# Which cells an update overwrites

An update sets some cells of a state to values that do not depend on the state and
keeps the others. What a reader of the result sees depends on the old state exactly
if the reader looks at a cell that was kept.
-/

namespace Cedric.Updates

variable {σ ι V : Type*} {cell : ι → σ → V} {S T R : Set ι} {g g' : σ → σ}

/-- The cells in `S` are set, the others are kept. -/
def Overwrites (cell : ι → σ → V) (S : Set ι) (g : σ → σ) : Prop :=
  ∀ i, (i ∈ S → ∀ s s', cell i (g s) = cell i (g s')) ∧ (i ∉ S → ∀ s, cell i (g s) = cell i s)

theorem overwrites_empty (h : ∀ i s, cell i (g s) = cell i s) : Overwrites cell ∅ g :=
  fun i => ⟨fun hi => absurd hi (Set.notMem_empty i), fun _ s => h i s⟩

theorem Overwrites.comp (hg : Overwrites cell S g) (hg' : Overwrites cell T g') :
    Overwrites cell (S ∪ T) (g' ∘ g) := by
  intro i
  constructor
  · intro hi s s'
    by_cases hT : i ∈ T
    · exact (hg' i).1 hT (g s) (g s')
    · have hS : i ∈ S := hi.resolve_right hT
      calc cell i (g' (g s)) = cell i (g s) := (hg' i).2 hT (g s)
        _ = cell i (g s') := (hg i).1 hS s s'
        _ = cell i (g' (g s')) := ((hg' i).2 hT (g s')).symm
  · intro hi s
    rw [Set.mem_union, not_or] at hi
    exact ((hg' i).2 hi.2 (g s)).trans ((hg i).2 hi.1 s)

/-- The cells of `R` do not depend on the old state if and only if they are all set. -/
theorem Overwrites.determined_iff (h : Overwrites cell S g)
    (hfree : ∀ i, ∃ s s', cell i s ≠ cell i s') :
    (∀ s s', ∀ i ∈ R, cell i (g s) = cell i (g s')) ↔ R ⊆ S := by
  constructor
  · intro hdet i hi
    by_contra hS
    obtain ⟨s, s', hne⟩ := hfree i
    have hkept := (h i).2 hS
    exact hne ((hkept s).symm.trans ((hdet s s' i hi).trans (hkept s')))
  · intro hsub s s' i hi
    exact (h i).1 (hsub hi) s s'

end Cedric.Updates
