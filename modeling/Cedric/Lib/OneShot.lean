import Cedric.Lib.Runs

/-!
# One-shot alarms

The entries of a history arm an alarm, disarm it or report that it fired.
`FiresOnce` is the law of a one-shot alarm; it asks that the alarm is `armed`
whenever it fires, and `guarded_transduce` checks that along a run whose state
stores the flag.
-/

namespace Cedric.OneShot

open Runs

inductive Mark
  | arm | disarm | fire | other
  deriving DecidableEq

variable {α σ ι : Type*} (mark : α → Mark)

def activeStep (b : Bool) (x : α) : Bool :=
  match mark x with
  | .arm => true
  | .disarm => false
  | _ => b

def firedStep (n : ℕ) (x : α) : ℕ :=
  match mark x with
  | .arm => 0
  | .fire => n + 1
  | _ => n

def armedStep (b : Bool) (x : α) : Bool :=
  match mark x with
  | .arm => true
  | .disarm | .fire => false
  | .other => b

def active (past : List α) : Bool := past.foldl (activeStep mark) false

def fired (past : List α) : ℕ := past.foldl (firedStep mark) 0

structure FiresOnce (xs : List α) : Prop where
  once : ∀ past, past <+: xs → fired mark past ≤ 1
  idle : ∀ past x, past ++ [x] <+: xs → mark x = .fire → active mark past = true

def armed (b : Bool) (past : List α) : Bool := past.foldl (armedStep mark) b

/-- Started with the flag `b`, the alarm fires only while the flag is set. -/
def Guarded : Bool → List α → Prop
  | _, [] => True
  | b, x :: xs => (mark x = .fire → b = true) ∧ Guarded (armedStep mark b x) xs

variable {mark}

theorem armed_eq (past : List α) :
    armed mark false past = (active mark past && decide (fired mark past = 0)) := by
  induction past using List.reverseRecOn with
  | nil => rfl
  | append_singleton past x ih =>
    simp only [armed, active, fired, List.foldl_append, List.foldl_cons, List.foldl_nil] at ih ⊢
    rw [ih, armedStep, activeStep, firedStep]
    cases mark x with
    | arm => rfl
    | disarm => rfl
    | fire => exact (Bool.and_false _).symm
    | other => rfl

theorem guarded_append (b : Bool) (xs ys : List α) :
    Guarded mark b (xs ++ ys) ↔ Guarded mark b xs ∧ Guarded mark (armed mark b xs) ys := by
  induction xs generalizing b with
  | nil => exact (iff_of_eq (true_and _)).symm
  | cons x xs ih =>
    have htail := ih (armedStep mark b x)
    simp only [List.cons_append, Guarded, and_assoc]
    rw [htail]
    rfl

theorem guarded_iff (b : Bool) (xs : List α) :
    Guarded mark b xs ↔
      ∀ past x, past ++ [x] <+: xs → mark x = .fire → armed mark b past = true := by
  induction xs using List.reverseRecOn with
  | nil =>
    refine iff_of_true trivial fun past x h => ?_
    exact absurd (List.prefix_nil.mp h) (by simp)
  | append_singleton xs y ih =>
    rw [guarded_append, ih]
    constructor
    · intro h past x hpre hfire
      obtain ⟨hxs, hlast, -⟩ := h
      rcases List.prefix_concat_iff.mp hpre with heq | hpre
      · obtain ⟨rfl, hx⟩ := List.append_inj' heq rfl
        obtain rfl := List.singleton_inj.mp hx
        exact hlast hfire
      · exact hxs past x hpre hfire
    · intro h
      refine ⟨fun past x hpre => h past x (hpre.trans (List.prefix_append xs [y])), ?_, trivial⟩
      exact h xs y (List.prefix_refl _)

/-- The law is that the alarm is armed whenever it fires. -/
theorem firesOnce_iff (xs : List α) : FiresOnce mark xs ↔ Guarded mark false xs := by
  rw [guarded_iff]
  constructor
  · intro h past x hpre hfire
    have honce := h.once _ hpre
    rw [fired, List.foldl_append] at honce
    change firedStep mark (fired mark past) x ≤ 1 at honce
    rw [firedStep, hfire] at honce
    rw [armed_eq, h.idle past x hpre hfire, Bool.true_and, decide_eq_true_iff]
    exact Nat.le_zero.mp (Nat.le_of_succ_le_succ honce)
  · intro h
    have hsplit (past : List α) (x : α) (hpre : past ++ [x] <+: xs) (hfire : mark x = .fire) :
        active mark past = true ∧ fired mark past = 0 := by
      have harmed := h past x hpre hfire
      rw [armed_eq, Bool.and_eq_true, decide_eq_true_iff] at harmed
      exact harmed
    refine ⟨fun past => ?_, fun past x hpre hfire => (hsplit past x hpre hfire).1⟩
    induction past using List.reverseRecOn with
    | nil => exact fun _ => Nat.zero_le 1
    | append_singleton past x ih =>
      intro hpre
      have hold := ih ((List.prefix_append past [x]).trans hpre)
      rw [fired, List.foldl_append]
      change firedStep mark (fired mark past) x ≤ 1
      rw [firedStep]
      cases hm : mark x with
      | fire => exact Nat.le_of_eq (congrArg (· + 1) (hsplit past x hpre hm).2)
      | arm => exact Nat.zero_le 1
      | disarm => exact hold
      | other => exact hold

/-- Where the state of a run stores the flag, the outputs are guarded exactly if
every input meets the condition of its own outputs. -/
theorem guarded_transduce {step : σ → ι → σ × List α} (flag : σ → Bool) {P : σ → ι → Prop}
    (keeps : ∀ s i, armed mark (flag s) (step s i).2 = flag (step s i).1)
    (local_iff : ∀ s i, Guarded mark (flag s) (step s i).2 ↔ P s i) (s : σ) (is : List ι) :
    Guarded mark (flag s) (transduce step s is).2 ↔ Along (fun t i => (step t i).1) P s is := by
  induction is generalizing s with
  | nil => exact Iff.rfl
  | cons i is ih =>
    simp only [transduce, Along]
    rw [guarded_append, local_iff, keeps, ih]

end Cedric.OneShot
