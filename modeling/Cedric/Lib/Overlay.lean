import Mathlib.Data.List.GetD
import Mathlib.Tactic.SplitIfs

/-!
# Laying chunks over a memory

A chunk changes the cells it is laid over and no others. Chunks written one behind the
other are one chunk (`layAll_eq`), and a memory of one value
reads back as the chunk and the value behind it (`lay_const`).
-/

namespace Cedric.Overlay

variable {α : Type*}

def lay (memory : ℕ → α) (base : ℕ) (chunk : List α) : ℕ → α := fun a =>
  if base ≤ a then chunk.getD (a - base) (memory a) else memory a

def layAll (memory : ℕ → α) : ℕ → List (List α) → ℕ → α
  | _, [] => memory
  | base, chunk :: chunks => layAll (lay memory base chunk) (base + chunk.length) chunks

theorem lay_nil (memory : ℕ → α) (base : ℕ) : lay memory base [] = memory := by
  funext a
  simp [lay]

theorem lay_append (memory : ℕ → α) (base : ℕ) (chunk chunk' : List α) :
    lay (lay memory base chunk) (base + chunk.length) chunk' =
      lay memory base (chunk ++ chunk') := by
  funext a
  simp only [lay, List.getD_eq_getElem?_getD]
  by_cases ha : base ≤ a
  · rw [if_pos ha, if_pos ha]
    by_cases hb : base + chunk.length ≤ a
    · have hout : chunk[a - base]? = none := List.getElem?_eq_none (by omega)
      rw [if_pos hb, List.getElem?_append_right (by omega), hout, Nat.sub_sub]
      rfl
    · rw [if_neg hb, List.getElem?_append_left (by omega)]
  · rw [if_neg ha, if_neg ha, if_neg (by omega)]

theorem lay_at (memory : ℕ → α) (base : ℕ) {chunk : List α} {j : ℕ} (hj : j < chunk.length) :
    lay memory base chunk (base + j) = chunk.get ⟨j, hj⟩ := by
  rw [lay, if_pos (Nat.le_add_right base j), Nat.add_sub_cancel_left,
    List.getD_eq_getElem _ _ hj]
  rfl

theorem lay_other (memory : ℕ → α) {base k : ℕ} {chunk : List α}
    (hk : k < base ∨ base + chunk.length ≤ k) : lay memory base chunk k = memory k := by
  rw [lay]
  split_ifs with hle
  · exact List.getD_eq_default _ _ (by omega)
  · rfl

theorem layAll_eq (memory : ℕ → α) (base : ℕ) (chunks : List (List α)) :
    layAll memory base chunks = lay memory base chunks.flatten := by
  induction chunks generalizing memory base with
  | nil => exact (lay_nil memory base).symm
  | cons chunk chunks ih => rw [layAll, ih, lay_append, List.flatten_cons]

theorem lay_const (x : α) (chunk : List α) (n : ℕ) :
    (List.range n).map (lay (fun _ => x) 0 chunk) =
      chunk.take n ++ List.replicate (n - chunk.length) x := by
  induction n generalizing chunk with
  | zero => simp
  | succ n ih =>
    rw [List.range_succ_eq_map, List.map_cons, List.map_map]
    cases chunk with
    | nil =>
      have htail : lay (fun _ => x) 0 [] ∘ Nat.succ = lay (fun _ => x) 0 [] := by
        rw [lay_nil]
        rfl
      rw [htail, ih]
      simp [lay_nil, List.replicate_succ]
    | cons c chunk =>
      have htail : lay (fun _ => x) 0 (c :: chunk) ∘ Nat.succ = lay (fun _ => x) 0 chunk := by
        funext a
        simp [lay]
      rw [htail, ih]
      simp [lay]

end Cedric.Overlay
