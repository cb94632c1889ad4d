import Mathlib.Algebra.Order.Group.Int

/-!
# Settings behind a cache

A value is sent to a device only if it differs from the last one sent. The cache
does not ask whether the device took that one, so a later call may report success
for a value the device refused. The history of the values sent decides which calls do.
-/

namespace Cedric.Setter

variable {α : Type*}

/-- The values sent with their answers, latest first; a negative answer refuses. -/
abbrev History (α : Type*) := List (α × ℤ)

def sent (h : History α) : Option α := h.head?.map Prod.fst

def accepted (h : History α) : Option α := (h.find? fun e => decide (0 ≤ e.2)).map Prod.fst

theorem accepted_cons_of_nonneg (x : α) {answer : ℤ} (h : History α) (ha : 0 ≤ answer) :
    accepted ((x, answer) :: h) = some x := by
  simp [accepted, ha]

theorem accepted_cons_of_neg (x : α) {answer : ℤ} (h : History α) (ha : answer < 0) :
    accepted ((x, answer) :: h) = accepted h := by
  simp [accepted, ha]

/-- `x` was the last value sent, the device refused it and holds another. -/
def Stale (x : α) (h : History α) : Prop :=
  ∃ answer rest, h = (x, answer) :: rest ∧ answer < 0 ∧ accepted rest ≠ some x

variable [DecidableEq α]

/-- The result of setting `x`, which the device would answer with `answer`. -/
def write (answer : ℤ) (x : α) (h : History α) : ℤ × History α :=
  if sent h = some x then (0, h) else (answer, (x, answer) :: h)

/-- The result 0 means that the device holds `x`. -/
def Truthful (answer : ℤ) (x : α) (h : History α) : Prop :=
  (write answer x h).1 = 0 → accepted (write answer x h).2 = some x

theorem sent_write (answer : ℤ) (x : α) (h : History α) : sent (write answer x h).2 = some x := by
  unfold write
  split_ifs with hsent
  · exact hsent
  · rfl

theorem truthful_of_new (answer : ℤ) {x : α} {h : History α} (hsent : sent h ≠ some x) :
    Truthful answer x h := by
  unfold Truthful write
  rw [if_neg hsent]
  intro hzero
  exact accepted_cons_of_nonneg x h hzero.ge

theorem truthful_iff (answer : ℤ) (x : α) (h : History α) :
    Truthful answer x h ↔ ¬ Stale x h := by
  by_cases hsent : sent h = some x
  · obtain ⟨⟨y, last⟩, rest, rfl⟩ : ∃ e rest, h = e :: rest := by
      cases h with
      | nil => cases hsent
      | cons e rest => exact ⟨e, rest, rfl⟩
    obtain rfl : y = x := Option.some.inj hsent
    have hset : write answer y ((y, last) :: rest) = (0, (y, last) :: rest) := if_pos hsent
    unfold Truthful
    rw [hset]
    constructor
    · rintro htrue ⟨last', rest', heq, hneg, hother⟩
      obtain ⟨hhead, rfl⟩ := List.cons.inj heq
      obtain rfl : last = last' := congrArg Prod.snd hhead
      have hheld := htrue rfl
      rw [accepted_cons_of_neg y rest hneg] at hheld
      exact hother hheld
    · intro hfresh _
      by_cases hlast : 0 ≤ last
      · exact accepted_cons_of_nonneg y rest hlast
      · rw [not_le] at hlast
        rw [accepted_cons_of_neg y rest hlast]
        by_contra hother
        exact hfresh ⟨last, rest, rfl, hlast, hother⟩
  · refine iff_of_true (truthful_of_new answer hsent) ?_
    rintro ⟨last, rest, rfl, -⟩
    exact hsent rfl

end Cedric.Setter
