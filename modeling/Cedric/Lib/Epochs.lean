import Cedric.Lib.Runs
import Mathlib.Algebra.GroupWithZero.Nat
import Mathlib.Algebra.Order.BigOperators.Group.List
import Mathlib.Algebra.Order.Group.Nat
import Mathlib.Data.List.Chain

/-!
# Counters that restart

A device counts up and now and then starts over from a smaller value. An epoch
is one nonempty nondecreasing stretch of its samples. `cumulative` is the count
over all epochs, and `Counter` computes it from the samples alone: a sample below
the one before it opens a new epoch.
-/

namespace Cedric.Epochs

open Runs

structure Epoch where
  first : ℕ
  rest : List ℕ
  sorted : (first :: rest).Pairwise (· ≤ ·)

def Epoch.samples (e : Epoch) : List ℕ := e.first :: e.rest

def Epoch.last (e : Epoch) : ℕ := e.rest.getLastD e.first

/-- Each epoch but the first starts below the last sample before it. -/
def Linked (es : List Epoch) : Prop := es.IsChain fun e e' => e'.first < e.last

def total (es : List Epoch) : ℕ := (es.map Epoch.last).sum

/-- Every sample plus the last samples of all epochs before its own. -/
def cumulative : ℕ → List Epoch → List ℕ
  | _, [] => []
  | base, e :: es => e.samples.map (base + ·) ++ cumulative (base + e.last) es

theorem le_getLastD {x : ℕ} {xs : List ℕ} (h : (x :: xs).Pairwise (· ≤ ·)) :
    ∀ y ∈ x :: xs, y ≤ xs.getLastD x := by
  induction xs generalizing x with
  | nil =>
    intro y hy
    rw [List.mem_singleton.mp hy]
    exact le_rfl
  | cons z zs ih =>
    obtain ⟨hx, hz⟩ := List.pairwise_cons.mp h
    intro y hy
    rw [List.getLastD_cons]
    rcases List.mem_cons.mp hy with rfl | hy
    · exact (hx z List.mem_cons_self).trans (ih hz z List.mem_cons_self)
    · exact ih hz y hy

theorem Epoch.le_last (e : Epoch) {x : ℕ} (h : x ∈ e.samples) : x ≤ e.last :=
  le_getLastD e.sorted x h

theorem le_of_mem_cumulative {base x : ℕ} {es : List Epoch} (h : x ∈ cumulative base es) :
    base ≤ x := by
  induction es generalizing base with
  | nil => cases h
  | cons e es ih =>
    rcases List.mem_append.mp h with h | h
    · obtain ⟨y, -, rfl⟩ := List.mem_map.mp h
      exact Nat.le_add_right _ _
    · exact (Nat.le_add_right _ _).trans (ih h)

theorem le_total_of_mem_cumulative {base x : ℕ} {es : List Epoch} (h : x ∈ cumulative base es) :
    x ≤ base + total es := by
  induction es generalizing base with
  | nil => cases h
  | cons e es ih =>
    have ht : total (e :: es) = e.last + total es := List.sum_cons
    rcases List.mem_append.mp h with h | h
    · obtain ⟨y, hy, rfl⟩ := List.mem_map.mp h
      have hle := e.le_last hy
      omega
    · have hle := ih h
      omega

theorem cumulative_sorted (base : ℕ) (es : List Epoch) :
    (cumulative base es).Pairwise (· ≤ ·) := by
  induction es generalizing base with
  | nil => exact List.Pairwise.nil
  | cons e es ih =>
    refine List.pairwise_append.mpr ⟨?_, ih _, ?_⟩
    · exact e.sorted.map _ fun a b hab => Nat.add_le_add_left hab base
    · intro x hx y hy
      obtain ⟨z, hz, rfl⟩ := List.mem_map.mp hx
      have hlast := e.le_last hz
      have hbase := le_of_mem_cumulative hy
      omega

/-- The count of the epochs before and the last sample. -/
structure Counter where
  base : ℕ
  prev : ℕ

def Counter.step (c : Counter) (raw : ℕ) : Counter × List ℕ :=
  let c' : Counter := if raw < c.prev then ⟨c.base + c.prev, raw⟩ else ⟨c.base, raw⟩
  (c', [c'.base + c'.prev])

theorem Counter.run_sorted (base prev : ℕ) (raws : List ℕ)
    (h : (prev :: raws).Pairwise (· ≤ ·)) :
    transduce Counter.step ⟨base, prev⟩ raws =
      (⟨base, raws.getLastD prev⟩, raws.map (base + ·)) := by
  induction raws generalizing prev with
  | nil => rfl
  | cons raw raws ih =>
    obtain ⟨hprev, hraws⟩ := List.pairwise_cons.mp h
    have hle := hprev raw List.mem_cons_self
    have hstep : Counter.step ⟨base, prev⟩ raw = (⟨base, raw⟩, [base + raw]) := by
      simp [Counter.step, Nat.not_lt.mpr hle]
    simp only [transduce, hstep, ih raw hraws, List.getLastD_cons, List.map_cons,
      List.singleton_append]

theorem Counter.run_epoch (c : Counter) (e : Epoch) (h : e.first < c.prev) :
    transduce Counter.step c e.samples =
      (⟨c.base + c.prev, e.last⟩, e.samples.map (c.base + c.prev + ·)) := by
  have hstep : Counter.step c e.first =
      (⟨c.base + c.prev, e.first⟩, [c.base + c.prev + e.first]) := by
    simp [Counter.step, h]
  have hrest := Counter.run_sorted (c.base + c.prev) e.first e.rest e.sorted
  simp only [Epoch.samples, transduce, hstep, hrest, List.map_cons, List.singleton_append]
  rfl

theorem Counter.run_linked (c : Counter) (es : List Epoch) (h : Linked es)
    (hfirst : ∀ e ∈ es.head?, e.first < c.prev) :
    (transduce Counter.step c (es.flatMap Epoch.samples)).2 = cumulative (c.base + c.prev) es := by
  induction es generalizing c with
  | nil => rfl
  | cons e es ih =>
    obtain ⟨hhead, htail⟩ := List.isChain_cons.mp h
    rw [List.flatMap_cons, transduce_append, c.run_epoch e (hfirst e rfl), ih _ htail hhead]
    rfl

theorem Counter.run_eq_cumulative (es : List Epoch) (h : Linked es) :
    (transduce Counter.step ⟨0, 0⟩ (es.flatMap Epoch.samples)).2 = cumulative 0 es := by
  cases es with
  | nil => rfl
  | cons e es =>
    have hsorted : (0 :: e.samples).Pairwise (· ≤ ·) :=
      List.pairwise_cons.mpr ⟨fun _ _ => Nat.zero_le _, e.sorted⟩
    have hlast : e.samples.getLastD 0 = e.last := List.getLastD_cons
    obtain ⟨hhead, htail⟩ := List.isChain_cons.mp h
    rw [List.flatMap_cons, transduce_append, Counter.run_sorted 0 0 e.samples hsorted, hlast,
      Counter.run_linked _ es htail hhead]
    rfl

end Cedric.Epochs
