import Cedric.Lib.Runs
import Mathlib.Data.Nat.Notation

/-!
# What comes in, goes out, is held or is lost

A machine takes things in, holds them, gives them out and loses some; what it takes in and
gives out shows in its outputs. If every step balances, so does every run.
-/

namespace Cedric.Balance

open Runs

variable {σ ι ο : Type*}

def total (weight : ο → ℕ) : List ο → ℕ
  | [] => 0
  | o :: os => weight o + total weight os

@[simp] theorem total_nil (weight : ο → ℕ) : total weight [] = 0 := rfl

@[simp] theorem total_singleton (weight : ο → ℕ) (o : ο) : total weight [o] = weight o := by
  simp [total]

theorem total_append (weight : ο → ℕ) (os os' : List ο) :
    total weight (os ++ os') = total weight os + total weight os' := by
  induction os with
  | nil => exact (Nat.zero_add _).symm
  | cons o os ih => rw [List.cons_append, total, total, ih, Nat.add_assoc]

def losses (step : σ → ι → σ × List ο) (lost : σ → ι → ℕ) : σ → List ι → ℕ
  | _, [] => 0
  | s, i :: is => lost s i + losses step lost (step s i).1 is

def Balances (step : σ → ι → σ × List ο) (held : σ → ℕ) (incoming outgoing : ο → ℕ)
    (lost : σ → ι → ℕ) (s : σ) (i : ι) : Prop :=
  total outgoing (step s i).2 + held (step s i).1 + lost s i = held s + total incoming (step s i).2

theorem balanced_run {step : σ → ι → σ × List ο} {held : σ → ℕ} {incoming outgoing : ο → ℕ}
    {lost : σ → ι → ℕ} (h : ∀ s i, Balances step held incoming outgoing lost s i) (s : σ)
    (is : List ι) :
    total outgoing (transduce step s is).2 + held (transduce step s is).1 +
        losses step lost s is =
      held s + total incoming (transduce step s is).2 := by
  induction is generalizing s with
  | nil => simp [transduce, losses]
  | cons i is ih =>
    have hstep := h s i
    have hrest := ih (step s i).1
    simp only [transduce, losses, total_append]
    rw [Balances] at hstep
    omega

end Cedric.Balance
