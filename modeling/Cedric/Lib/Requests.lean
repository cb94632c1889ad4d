import Mathlib.Data.List.Nodup
import Mathlib.Data.List.Range

/-!
# Numbered requests and leases

Requests are numbered as they are made; at most one is open, and it ends answered or
refused. `Docket.Sound` is what the answers may look like, with a rule for each way on.
`Leases` lists what was taken for a request and given back.
-/

namespace Cedric.Requests

variable {α : Type*}

structure Docket (α : Type*) where
  made : List α
  opened : List ℕ
  answered : List (ℕ × α)
  refused : List ℕ

namespace Docket

def answeredIds (d : Docket α) : List ℕ := d.answered.map Prod.fst

/-- Every request is answered at most once and with its own content, and none that was refused. -/
structure Sound (d : Docket α) : Prop where
  once : d.answeredIds.Nodup
  own : ∀ p ∈ d.answered, d.made[p.1]? = some p.2
  unanswered : ∀ i ∈ d.refused, i < d.made.length ∧ i ∉ d.answeredIds
  waiting : ∀ i ∈ d.opened, i < d.made.length ∧ i ∉ d.answeredIds ∧ i ∉ d.refused

def ask (d : Docket α) (a : α) : Docket α :=
  { d with made := d.made ++ [a], opened := [d.made.length] }

def answer (d : Docket α) (i : ℕ) (a : α) : Docket α :=
  { d with opened := [], answered := d.answered ++ [(i, a)] }

def refuse (d : Docket α) (i : ℕ) : Docket α :=
  { d with opened := [], refused := d.refused ++ [i] }

variable {d : Docket α} {i : ℕ} {a : α}

theorem Sound.answered_lt (h : d.Sound) (hi : i ∈ d.answeredIds) : i < d.made.length := by
  obtain ⟨p, hp, rfl⟩ := List.mem_map.mp hi
  exact (List.getElem?_eq_some_iff.mp (h.own p hp)).1

theorem Sound.ask (h : d.Sound) (a : α) : (d.ask a).Sound where
  once := h.once
  own p hp := by
    have hlt := h.answered_lt (List.mem_map_of_mem hp)
    exact (List.getElem?_append_left hlt).trans (h.own p hp)
  unanswered i hi := by
    obtain ⟨hlt, hnot⟩ := h.unanswered i hi
    refine ⟨?_, hnot⟩
    rw [Docket.ask, List.length_append]
    omega
  waiting i hi := by
    rw [List.mem_singleton.mp hi]
    refine ⟨?_, fun hin => ?_, fun hin => ?_⟩
    · rw [Docket.ask, List.length_append]
      exact Nat.lt_succ_self _
    · exact absurd (h.answered_lt hin) (Nat.lt_irrefl _)
    · exact absurd (h.unanswered _ hin).1 (Nat.lt_irrefl _)

theorem Sound.answer (h : d.Sound) (hopen : i ∈ d.opened) (hown : d.made[i]? = some a) :
    (d.answer i a).Sound := by
  obtain ⟨-, hnot, hkept⟩ := h.waiting i hopen
  have hids : (d.answer i a).answeredIds = d.answeredIds ++ [i] := List.map_append ..
  refine ⟨?_, fun p hp => ?_, fun j hj => ?_, fun j hj => absurd hj List.not_mem_nil⟩
  · rw [hids, ← List.concat_eq_append]
    exact h.once.concat hnot
  · rcases List.mem_append.mp hp with hp | hp
    · exact h.own p hp
    · rw [List.mem_singleton.mp hp]
      exact hown
  · obtain ⟨hlt, hj'⟩ := h.unanswered j hj
    refine ⟨hlt, fun hin => ?_⟩
    rw [hids] at hin
    rcases List.mem_append.mp hin with hin | hin
    · exact hj' hin
    · rw [List.mem_singleton.mp hin] at hj
      exact hkept hj

theorem Sound.refuse (h : d.Sound) (hopen : i ∈ d.opened) : (d.refuse i).Sound where
  once := h.once
  own := h.own
  unanswered j hj := by
    rcases List.mem_append.mp hj with hj | hj
    · exact h.unanswered j hj
    · rw [List.mem_singleton.mp hj]
      exact ⟨(h.waiting i hopen).1, (h.waiting i hopen).2.1⟩
  waiting j hj := absurd hj List.not_mem_nil

end Docket

/-- The numbers for which a lease was taken and given back, and those that hold one. -/
structure Leases where
  taken : List ℕ
  given : List ℕ
  held : List ℕ

namespace Leases

structure Sound (l : Leases) : Prop where
  once : l.taken.Nodup
  kept : (l.given ++ l.held).Perm l.taken

variable {l : Leases} {i : ℕ} {rest : List ℕ}

theorem Sound.take (h : l.Sound) (hnew : i ∉ l.taken) :
    Sound ⟨l.taken ++ [i], l.given, l.held ++ [i]⟩ where
  once := by
    rw [← List.concat_eq_append]
    exact h.once.concat hnew
  kept := by
    rw [← List.append_assoc]
    exact h.kept.append_right [i]

theorem Sound.give (h : l.Sound) (hheld : l.held.Perm (i :: rest)) :
    Sound ⟨l.taken, l.given ++ [i], rest⟩ where
  once := h.once
  kept := by
    rw [List.append_assoc]
    exact (hheld.symm.append_left l.given).trans h.kept

theorem Sound.given_nodup (h : l.Sound) : l.given.Nodup :=
  (List.nodup_append.mp (h.kept.nodup_iff.mpr h.once)).1

end Leases
end Cedric.Requests
