import Mathlib.Order.Basic
import Mathlib.Tactic.SplitIfs

/-!
# A value kept across sessions

A program keeps the last value reported to it for ever, while its specification forgets
what was reported before the current session. What the program decides from the kept
value is justified by the session's own reports, or the session has none yet.
-/

namespace Cedric.Freshness

variable {α : Type*}

/-- `fresh` is the last report of the current session, if it has one. -/
structure Kept (α : Type*) where
  last : α
  fresh : Option α

namespace Kept

variable {k : Kept α} {p : α → Prop}

def Agrees (k : Kept α) : Prop := ∀ a, k.fresh = some a → k.last = a

theorem agrees_report (a : α) : Agrees ⟨a, some a⟩ := by
  intro b h
  exact Option.some.inj h

theorem agrees_renew (a : α) : Agrees ⟨a, none⟩ := nofun

theorem Agrees.renew {a : α} {fresh : Option α} (h : Agrees ⟨a, fresh⟩) (c : Prop) [Decidable c] :
    Agrees ⟨a, if c then none else fresh⟩ := by
  split_ifs
  · exact agrees_renew a
  · exact h

theorem Agrees.eq_none_or (h : k.Agrees) : k.fresh = none ∨ k.fresh = some k.last := by
  cases hfresh : k.fresh with
  | none => exact Or.inl rfl
  | some a => exact Or.inr (congrArg some (h a hfresh).symm)

/-- What holds of the kept value holds of one reported in this session, unless it comes before
the session's first report. -/
theorem Agrees.justified_iff (h : k.Agrees) :
    (p k.last → ∃ a, k.fresh = some a ∧ p a) ↔ (k.fresh = none → ¬ p k.last) := by
  rcases h.eq_none_or with hnone | hsome
  · simp only [hnone, reduceCtorEq, false_and, exists_false, true_imp_iff]
  · simp only [hsome, Option.some.injEq, exists_eq_left', imp_self, reduceCtorEq, false_imp_iff]

/-- A decision on the kept value is the one on the session's reports, if a default that decides
the same stands in for a session without one. -/
theorem Agrees.decides_iff (h : k.Agrees) (a : α) :
    (p k.last ↔ p (k.fresh.getD a)) ↔ (k.fresh = none → (p k.last ↔ p a)) := by
  rcases h.eq_none_or with hnone | hsome
  · simp only [hnone, Option.getD_none, true_imp_iff]
  · simp only [hsome, Option.getD_some, reduceCtorEq, false_imp_iff]

end Kept
end Cedric.Freshness
