import Cedric.Lib.Overlay
import Mathlib.Data.List.Range

/-!
# The contents of a circular buffer

A buffer of `2 * N` cells is used as a ring of `N`: a block is written at the
head without a break, and what falls beyond the ring is copied to its start.
`window` reads the queued elements off the cells. The head of an empty or a full
ring may stand at the end of the ring or at its start.
-/

namespace Cedric.RingBuffer

open Overlay

variable {α : Type*}

/-- The cell of position `i`, counted from the start of the ring over at most two laps. -/
def slot (N i : ℕ) : ℕ := if i < N then i else i - N

def window (N : ℕ) (buf : ℕ → α) (curr len : ℕ) : List α :=
  (List.range len).map fun i => buf (slot N (curr + i))

def copy (buf : ℕ → α) (src n k : ℕ) : α := if k < n then buf (src + k) else buf k

def advance (N curr : ℕ) : ℕ := if N ≤ curr + 1 then 0 else curr + 1

/-- The head of a ring of `N` cells, `len` of them queued from `curr` on. -/
structure Placed (N curr len head : ℕ) : Prop where
  curr_lt : curr < N
  head_le : head ≤ N
  meets : head = curr + len ∨ head + N = curr + len ∨ head = curr + len + N

theorem length_window (N : ℕ) (buf : ℕ → α) (curr len : ℕ) :
    (window N buf curr len).length = len := by
  rw [window, List.length_map, List.length_range]

theorem window_zero (N : ℕ) (buf : ℕ → α) (curr : ℕ) : window N buf curr 0 = [] := rfl

theorem slot_advance {N curr i : ℕ} (hcurr : curr < N) (hi : i < N) :
    slot N (advance N curr + i) = slot N (curr + (i + 1)) := by
  rw [slot, slot, advance]
  split_ifs <;> omega

theorem window_cons {N curr len : ℕ} (buf : ℕ → α) (hcurr : curr < N) (hlen : len < N) :
    window N buf curr (len + 1) = buf curr :: window N buf (advance N curr) len := by
  rw [window, List.range_succ_eq_map, List.map_cons, List.map_map]
  congr 1
  · rw [slot, if_pos (by omega), Nat.add_zero]
  · apply List.map_congr_left
    intro i hi
    rw [List.mem_range] at hi
    exact congrArg buf (slot_advance hcurr (hi.trans hlen)).symm

theorem window_append {N curr len : ℕ} {buf buf' : ℕ → α} {xs : List α}
    (keeps : ∀ i < len, buf' (slot N (curr + i)) = buf (slot N (curr + i)))
    (lands : ∀ j (hj : j < xs.length), buf' (slot N (curr + (len + j))) = xs.get ⟨j, hj⟩) :
    window N buf' curr (len + xs.length) = window N buf curr len ++ xs := by
  rw [window, List.range_add, List.map_append, List.map_map]
  congr 1
  · apply List.map_congr_left
    intro i hi
    exact keeps i (List.mem_range.mp hi)
  · apply List.ext_get
    · rw [List.length_map, List.length_range]
    · intro j _ hj
      simp only [List.get_eq_getElem, List.getElem_map, List.getElem_range, Function.comp_apply]
      exact lands j hj

section Block
variable {N curr len head : ℕ} (buf : ℕ → α) {xs : List α}

def written (N : ℕ) (buf : ℕ → α) (head : ℕ) (xs : List α) : ℕ → α :=
  copy (lay buf head xs) N (head + xs.length - N)

theorem written_lands (h : Placed N curr len head) (hroom : len + xs.length ≤ N) {j : ℕ}
    (hj : j < xs.length) : written N buf head xs (slot N (curr + (len + j))) = xs.get ⟨j, hj⟩ := by
  have hcurr := h.curr_lt
  have hhead := h.head_le
  have hmeets := h.meets
  rw [written, copy, ← lay_at buf head hj]
  by_cases hover : N ≤ head + j
  · have hslot : slot N (curr + (len + j)) = head + j - N := by
      rw [slot]
      split_ifs <;> omega
    rw [hslot, if_pos (by omega)]
    congr 1
    omega
  · have hslot : slot N (curr + (len + j)) = head + j := by
      rw [slot]
      split_ifs <;> omega
    rw [hslot, if_neg (by omega)]

/-- A block that fits covers no queued cell, and neither does its copy. -/
theorem slot_outside (h : Placed N curr len head) {n : ℕ} (hroom : len + n ≤ N) {i : ℕ}
    (hi : i < len) :
    (slot N (curr + i) < head ∨ head + n ≤ slot N (curr + i)) ∧
      head + n - N ≤ slot N (curr + i) := by
  have hcurr := h.curr_lt
  have hhead := h.head_le
  have hmeets := h.meets
  rw [slot]
  split_ifs <;> omega

theorem written_keeps (h : Placed N curr len head) (hroom : len + xs.length ≤ N) {i : ℕ}
    (hi : i < len) : written N buf head xs (slot N (curr + i)) = buf (slot N (curr + i)) := by
  obtain ⟨hblock, hcopy⟩ := slot_outside h hroom hi
  rw [written, copy, if_neg (Nat.not_lt.mpr hcopy)]
  exact lay_other buf hblock

theorem window_lay (h : Placed N curr len head) (hroom : len + xs.length ≤ N) :
    window N (lay buf head xs) curr len = window N buf curr len := by
  refine List.map_congr_left fun i hi => ?_
  exact lay_other buf (slot_outside h hroom (List.mem_range.mp hi)).1

theorem window_written (h : Placed N curr len head) (hroom : len + xs.length ≤ N) :
    window N (written N buf head xs) curr (len + xs.length) = window N buf curr len ++ xs :=
  window_append (fun _ hi => written_keeps buf h hroom hi)
    (fun _ hj => written_lands buf h hroom hj)

end Block

section Placed
variable {N curr len head : ℕ}

theorem placed_empty {N : ℕ} (hN : 0 < N) : Placed N 0 0 0 := ⟨hN, Nat.zero_le N, Or.inl rfl⟩

theorem Placed.written (h : Placed N curr len head) {n : ℕ} (hroom : len + n ≤ N) :
    Placed N curr (len + n) (if N < head + n then head + n - N else head + n) := by
  have hcurr := h.curr_lt
  have hhead := h.head_le
  have hmeets := h.meets
  refine ⟨hcurr, ?_, ?_⟩
  · split_ifs <;> omega
  · split_ifs <;> omega

theorem Placed.advance (h : Placed N curr (len + 1) head) (hlen : len < N) :
    Placed N (RingBuffer.advance N curr) len head := by
  have hcurr := h.curr_lt
  have hhead := h.head_le
  have hmeets := h.meets
  rw [RingBuffer.advance]
  refine ⟨?_, hhead, ?_⟩
  · split_ifs <;> omega
  · split_ifs <;> omega

end Placed
end Cedric.RingBuffer
