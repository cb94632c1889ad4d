import Cedric.Lib.Runs
import Mathlib.Data.Nat.Notation

/-!
# Leases shared by counted users

The first of several users obtains a lease, the last one gives it back. A `Lease` cannot be
held without a user. What was obtained along a run is what was released and what is held,
in this order, so nothing is released twice and nothing is lost.
-/

namespace Cedric.CountedLease

open Runs

variable {α σ ι : Type*}

/-- A lease held for `others + 1` users. -/
inductive Lease (α : Type*)
  | free
  | held (a : α) (others : ℕ)

inductive Act (α : Type*)
  | obtain (a : α)
  | release (a : α)

def Act.obtained : Act α → Option α
  | .obtain a => some a
  | .release _ => none

def Act.released : Act α → Option α
  | .obtain _ => none
  | .release a => some a

def obtained (acts : List (Act α)) : List α := acts.filterMap Act.obtained

def released (acts : List (Act α)) : List α := acts.filterMap Act.released

namespace Lease

def holding : Lease α → List α
  | free => []
  | held a _ => [a]

def users : Lease α → ℕ
  | free => 0
  | held _ others => others + 1

def enable (answer : Option α) : Lease α → Lease α × List (Act α)
  | free =>
    match answer with
    | some a => (held a 0, [.obtain a])
    | none => (free, [])
  | held a others => (held a (others + 1), [])

def disable : Lease α → Lease α × List (Act α)
  | free => (free, [])
  | held a 0 => (free, [.release a])
  | held a (others + 1) => (held a others, [])

structure Step (old : Lease α) (new : Lease α × List (Act α)) : Prop where
  ledger : old.holding ++ obtained new.2 = released new.2 ++ new.1.holding
  alone : obtained new.2 ≠ [] → old.users = 0
  last : released new.2 = if new.1.users = 0 then old.holding else []

theorem step_same (l : Lease α) : l.Step (l, []) where
  ledger := List.append_nil _
  alone := fun h => absurd rfl h
  last := by cases l <;> rfl

theorem step_enable (answer : Option α) (l : Lease α) : l.Step (l.enable answer) := by
  cases l with
  | free =>
    cases answer with
    | none => exact step_same free
    | some a => exact ⟨rfl, fun _ => rfl, rfl⟩
  | held a others => exact ⟨rfl, fun h => absurd rfl h, rfl⟩

theorem step_disable (l : Lease α) : l.Step l.disable := by
  cases l with
  | free => exact step_same free
  | held a others =>
    cases others with
    | zero => exact ⟨rfl, fun h => absurd rfl h, rfl⟩
    | succ n => exact ⟨rfl, fun h => absurd rfl h, rfl⟩

end Lease

/-- Along a run whose steps keep the books of a lease, all that was obtained was released once,
in order, but for what is held. -/
theorem run_ledger {step : σ → ι → σ × List (Act α)} {Inv : σ → Lease α → Prop}
    {W : σ → ι → Prop}
    (keeps : ∀ s i l, Inv s l → W s i → ∃ l', Inv (step s i).1 l' ∧ l.Step (l', (step s i).2))
    {s : σ} {l : Lease α} (hs : Inv s l) (is : List ι)
    (hw : Along (fun s i => (step s i).1) W s is) :
    ∃ l', Inv (transduce step s is).1 l' ∧
      l.holding ++ obtained (transduce step s is).2 =
        released (transduce step s is).2 ++ l'.holding := by
  induction is generalizing s l with
  | nil => exact ⟨l, hs, List.append_nil _⟩
  | cons i is ih =>
    obtain ⟨hi, hrest⟩ := hw
    obtain ⟨m, hm, hstep⟩ := keeps s i l hs hi
    obtain ⟨l', hl', hledger⟩ := ih hm hrest
    refine ⟨l', hl', ?_⟩
    have hfirst := hstep.ledger
    simp only [transduce, obtained, released, List.filterMap_append] at hledger hfirst ⊢
    rw [← List.append_assoc, hfirst, List.append_assoc, hledger, List.append_assoc]

end Cedric.CountedLease
