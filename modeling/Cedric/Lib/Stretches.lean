import Mathlib.Data.List.Induction

/-!
# Stretches

A history may end with a stretch of entries of one kind. `Stretch` says that it does, with the
entries at which the longest such stretch begins and ends.
-/

namespace Cedric.Stretches

variable {α : Type*} {kind : α → Prop} {past : List α} {first last x : α}

def Stretch (kind : α → Prop) (past : List α) (first last : α) : Prop :=
  ∃ before stretch, past = before ++ stretch ∧ stretch.head? = some first ∧
    stretch.getLast? = some last ∧ (∀ x ∈ stretch, kind x) ∧ ∀ x ∈ before.getLast?, ¬ kind x

theorem stretch_single (hpast : ∀ y ∈ past.getLast?, ¬ kind y) (hx : kind x) :
    Stretch kind (past ++ [x]) x x :=
  ⟨past, [x], rfl, rfl, rfl, fun _ hy => List.mem_singleton.mp hy ▸ hx, hpast⟩

theorem Stretch.extend (h : Stretch kind past first last) (hx : kind x) :
    Stretch kind (past ++ [x]) first x := by
  obtain ⟨before, stretch, rfl, hfirst, -, hkind, hbefore⟩ := h
  refine ⟨before, stretch ++ [x], List.append_assoc .., ?_, List.getLast?_concat, ?_, hbefore⟩
  · rw [List.head?_append, hfirst]
    rfl
  · intro y hy
    rcases List.mem_append.mp hy with hy | hy
    · exact hkind y hy
    · exact List.mem_singleton.mp hy ▸ hx

theorem exists_stretch (past : List α) (hx : kind x) :
    ∃ first, Stretch kind (past ++ [x]) first x := by
  induction past using List.reverseRecOn generalizing x with
  | nil =>
    refine ⟨x, stretch_single (fun y hy => ?_) hx⟩
    exact absurd (List.mem_of_mem_getLast? hy) List.not_mem_nil
  | append_singleton past y ih =>
    by_cases hy : kind y
    · obtain ⟨first, hstretch⟩ := ih hy
      exact ⟨first, hstretch.extend hx⟩
    · refine ⟨x, stretch_single (fun z hz => ?_) hx⟩
      rw [List.getLast?_concat, Option.mem_some_iff] at hz
      exact hz ▸ hy

theorem Stretch.last_kind (h : Stretch kind past first last) :
    kind last ∧ ∃ init, past = init ++ [last] := by
  obtain ⟨before, stretch, rfl, -, hlast, hkind, -⟩ := h
  obtain ⟨init, rfl⟩ := List.getLast?_eq_some_iff.mp hlast
  exact ⟨hkind last (List.mem_append_right init List.mem_cons_self), before ++ init,
    (List.append_assoc ..).symm⟩

theorem Stretch.related {R : α → α → Prop} (h : Stretch kind past first last)
    (hrefl : ∀ x, R x x) (hpast : past.Pairwise R) : R first last := by
  obtain ⟨before, stretch, rfl, hfirst, hlast, -, -⟩ := h
  have hstretch := (List.pairwise_append.mp hpast).2.1
  cases stretch with
  | nil => cases hfirst
  | cons x rest =>
    obtain rfl : x = first := Option.some.inj hfirst
    cases rest with
    | nil =>
      obtain rfl : x = last := Option.some.inj hlast
      exact hrefl x
    | cons y rest =>
      rw [List.getLast?_cons_cons] at hlast
      exact (List.pairwise_cons.mp hstretch).1 last (List.mem_of_mem_getLast? hlast)

end Cedric.Stretches
