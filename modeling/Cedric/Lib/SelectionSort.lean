import Mathlib.Data.List.FinRange
import Mathlib.Data.ZMod.IntUnitsPower
import Mathlib.GroupTheory.Perm.Sign

/-!
# Selection sort and the permutation it finds

Step `i` exchanges entry `i` with one whose key is largest from `i` on. What is
kept is the permutation of the indices and the number of exchanges of two
different entries. After step `i` the first `i + 1` keys are in descending order
and no later key exceeds them, and every counted exchange changes the sign.
-/

namespace Cedric.SelectionSort

open Equiv

/-- The loop rule for `for (i = 0; i < n; ++i)`. -/
theorem foldl_finRange {σ : Type*} {n : ℕ} {P : ℕ → σ → Prop} {step : σ → Fin n → σ} {s : σ}
    (start : P 0 s) (closed : ∀ (i : Fin n) t, P i t → P (i + 1) (step t i)) :
    P n ((List.finRange n).foldl step s) := by
  induction n with
  | zero => exact start
  | succ n ih =>
    rw [List.finRange_succ_last, List.foldl_append, List.foldl_map]
    exact closed (Fin.last n) _ (ih fun i t => closed i.castSucc t)

variable {n : ℕ} {κ : Type*} [Preorder κ] {key : Fin n → κ} {i k : Fin n}

def Selects (key : Fin n → κ) (i k : Fin n) : Prop := i ≤ k ∧ ∀ j, i ≤ j → key j ≤ key k

def SortedTo (key : Fin n → κ) (m : ℕ) : Prop := ∀ i j : Fin n, i.1 < m → i ≤ j → key j ≤ key i

theorem sortedTo_zero (key : Fin n → κ) : SortedTo key 0 := fun i _ hi => absurd hi i.1.not_lt_zero

theorem SortedTo.antitone (h : SortedTo key n) : Antitone key := fun i j hij => h i j i.2 hij

theorem le_swap {a b : Fin n} (hai : a ≤ i) (hik : i ≤ k) (hab : a ≤ b) : a ≤ swap i k b := by
  rw [swap_apply_def]
  split_ifs
  · exact hai.trans hik
  · exact hai
  · exact hab

theorem SortedTo.exchange (h : SortedTo key i) (hk : Selects key i k) :
    SortedTo (key ∘ swap i k) (i + 1) := by
  intro a b ha hab
  have hai : a ≤ i := Nat.le_of_lt_succ ha
  have hb : a ≤ swap i k b := le_swap hai hk.1 hab
  rw [Function.comp_apply, Function.comp_apply]
  rcases hai.lt_or_eq with hlt | rfl
  · rw [swap_apply_of_ne_of_ne hlt.ne (hlt.trans_le hk.1).ne]
    exact h a _ hlt hb
  · rw [swap_apply_left]
    exact hk.2 _ hb

structure Sorting (n : ℕ) where
  perm : Perm (Fin n)
  exchanges : ℕ

namespace Sorting

def start : Sorting n := ⟨1, 0⟩

def exchange (s : Sorting n) (i k : Fin n) : Sorting n :=
  ⟨s.perm * swap i k, s.exchanges + if i = k then 0 else 1⟩

variable {s : Sorting n}

theorem sign_exchange (i k : Fin n) (h : Perm.sign s.perm = (-1) ^ s.exchanges) :
    Perm.sign (s.exchange i k).perm = (-1) ^ (s.exchange i k).exchanges := by
  rw [exchange, Perm.sign_mul, h]
  by_cases hik : i = k
  · rw [if_pos hik, hik, swap_self]
    simp
  · rw [if_neg hik, Perm.sign_swap hik, pow_succ]

structure Inv (key : Fin n → κ) (m : ℕ) (s : Sorting n) : Prop where
  sorted : SortedTo (key ∘ s.perm) m
  sign : Perm.sign s.perm = (-1) ^ s.exchanges

theorem inv_start (key : Fin n → κ) : Inv key 0 (start : Sorting n) where
  sorted := sortedTo_zero _
  sign := by simp [start]

theorem Inv.exchange (h : Inv key i s) (hk : Selects (key ∘ s.perm) i k) :
    Inv key (i + 1) (s.exchange i k) where
  sorted := h.sorted.exchange hk
  sign := sign_exchange i k h.sign
end Sorting

def sort (select : Perm (Fin n) → Fin n → Fin n) : Sorting n :=
  (List.finRange n).foldl (fun s i => s.exchange i (select s.perm i)) .start

theorem sort_inv {select : Perm (Fin n) → Fin n → Fin n}
    (hselect : ∀ (σ : Perm (Fin n)) i, Selects (key ∘ σ) i (select σ i)) :
    (sort select).Inv key n :=
  foldl_finRange (Sorting.inv_start key) fun i s h => h.exchange (hselect s.perm i)

end Cedric.SelectionSort
