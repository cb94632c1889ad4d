import Mathlib.Order.Lattice

/-!
# A minimum found by one pass

A loop keeps the best value so far, starting from a ceiling, and looks at a value only
if it beats the one kept. What it keeps then is the value itself, or the value after a
further cap; in the second case the cap acts only if some value was kept at all.
-/

namespace Cedric.RunningMinimum

variable {ι α : Type*} [LinearOrder α] {takes : ι → Bool} {w g : ι → α} {ceiling bound x : α}

def scan (takes : ι → Bool) (w g : ι → α) (ceiling : α) (is : List ι) : α :=
  is.foldl (fun best i => if takes i && decide (w i < best) then g i else best) ceiling

theorem scan_cons (i : ι) (is : List ι) : scan takes w g ceiling (i :: is) =
    scan takes w g (if takes i && decide (w i < ceiling) then g i else ceiling) is := rfl

theorem le_scan_iff (is : List ι) :
    x ≤ scan takes w w ceiling is ↔ x ≤ ceiling ∧ ∀ i ∈ is, takes i → x ≤ w i := by
  induction is generalizing ceiling with
  | nil =>
    have hnone : ∀ i ∈ ([] : List ι), takes i → x ≤ w i := fun i hi => absurd hi List.not_mem_nil
    exact (and_iff_left hnone).symm
  | cons i is ih =>
    rw [scan_cons, ih, List.forall_mem_cons, ← and_assoc]
    refine and_congr_left fun _ => ?_
    by_cases htake : takes i
    · by_cases hbeats : w i < ceiling
      · rw [if_pos (by simp [htake, hbeats])]
        exact ⟨fun hx => ⟨hx.trans hbeats.le, fun _ => hx⟩, fun hx => hx.2 htake⟩
      · rw [if_neg (by simp [hbeats])]
        exact ⟨fun hx => ⟨hx, fun _ => hx.trans (not_lt.mp hbeats)⟩, fun hx => hx.1⟩
    · rw [if_neg (by simp [htake])]
      exact ⟨fun hx => ⟨hx, fun h => absurd h htake⟩, fun hx => hx.1⟩

theorem scan_le_ceiling (hg : ∀ i, g i ≤ w i) (is : List ι) :
    scan takes w g ceiling is ≤ ceiling := by
  induction is generalizing ceiling with
  | nil => exact le_refl ceiling
  | cons i is ih =>
    rw [scan_cons]
    split_ifs with htake
    · have hbeats : w i < ceiling := of_decide_eq_true (Bool.and_eq_true_iff.mp htake).2
      exact ih.trans ((hg i).trans hbeats.le)
    · exact ih

/-- Where nothing beats the ceiling the cap is never applied. -/
theorem scan_eq_ceiling {is : List ι} (h : ∀ i ∈ is, takes i → ceiling ≤ w i) :
    scan takes w g ceiling is = ceiling := by
  induction is with
  | nil => rfl
  | cons i is ih =>
    obtain ⟨hi, his⟩ := List.forall_mem_cons.mp h
    rw [scan_cons, if_neg]
    · exact ih his
    · intro htake
      obtain ⟨htake, hbeats⟩ := Bool.and_eq_true_iff.mp htake
      exact absurd (of_decide_eq_true hbeats) (not_lt.mpr (hi htake))

theorem scan_le_bound (hg : ∀ i, g i ≤ w i) (hbound : ∀ i, g i ≤ bound) {is : List ι} {i : ι}
    (hi : i ∈ is) (htake : takes i) (hbeats : w i < ceiling) :
    scan takes w g ceiling is ≤ bound := by
  induction is generalizing ceiling with
  | nil => exact absurd hi List.not_mem_nil
  | cons j is ih =>
    rw [scan_cons]
    split_ifs with hj
    · exact (scan_le_ceiling hg is).trans (hbound j)
    · rcases List.mem_cons.mp hi with rfl | hi
      · exact absurd (by simp [htake, hbeats]) hj
      · exact ih hi hbeats

/-- The cap holds of the value kept exactly if some value beats the ceiling, or the ceiling
is below it already. -/
theorem scan_le_bound_iff (hg : ∀ i, g i ≤ w i) (hbound : ∀ i, g i ≤ bound)
    (hceiling : bound < ceiling) (is : List ι) :
    scan takes w g ceiling is ≤ bound ↔ ∃ i ∈ is, takes i ∧ w i < ceiling := by
  constructor
  · intro hle
    by_contra hnone
    have hkept : scan takes w g ceiling is = ceiling := by
      refine scan_eq_ceiling fun i hi htake => ?_
      by_contra hbeats
      exact hnone ⟨i, hi, htake, not_le.mp hbeats⟩
    rw [hkept] at hle
    exact absurd hle (not_le.mpr hceiling)
  · rintro ⟨i, hi, htake, hbeats⟩
    exact scan_le_bound hg hbound hi htake hbeats

end Cedric.RunningMinimum
