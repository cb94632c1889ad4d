import Cedric.Lib.Runs

/-!
# Queues

A queue takes elements at its end and gives out its first. A step of a queue conserves
them: what it held and takes is what it gives and holds then. `conserved` carries this to the
runs of a system with such steps.
-/

namespace Cedric.Fifo

open Runs

variable {α σ ι : Type*}

inductive QueueOp (α : Type*)
  | push (xs : List α)
  | peek
  | pop

def QueueOp.taken : QueueOp α → List α
  | .push xs => xs
  | .peek => []
  | .pop => []

def QueueOp.given (queue : List α) : QueueOp α → List α
  | .push _ => []
  | .peek => []
  | .pop => queue.head?.toList

def step (queue : List α) : QueueOp α → List α
  | .push xs => queue ++ xs
  | .peek => queue
  | .pop => queue.tail

theorem step_conserves (queue : List α) (op : QueueOp α) :
    queue ++ op.taken = op.given queue ++ step queue op := by
  cases op with
  | push xs => rfl
  | peek => exact List.append_nil queue
  | pop =>
    rw [QueueOp.taken, List.append_nil]
    cases queue with
    | nil => rfl
    | cons x queue => rfl

theorem conserved {step : σ → ι → σ} (taken : ι → List α) (given : σ → ι → List α)
    (contents : σ → List α) {s : σ} {is : List ι}
    (h : Along step (fun s i => contents s ++ taken i = given s i ++ contents (step s i)) s is) :
    contents s ++ is.flatMap taken =
      (transduce (fun s i => (step s i, given s i)) s is).2 ++ contents (is.foldl step s) := by
  induction is generalizing s with
  | nil => exact List.append_nil _
  | cons i is ih =>
    obtain ⟨hi, hrest⟩ := h
    rw [List.flatMap_cons, ← List.append_assoc, hi, List.append_assoc, ih hrest, transduce,
      List.foldl_cons, List.append_assoc]

end Cedric.Fifo
