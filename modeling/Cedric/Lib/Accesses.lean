import Cedric.Lib.Overlay
import Cedric.Lib.Runs
import Mathlib.Logic.Function.Basic

/-!
# Memory accesses of a program

A program run is a list of accesses to numbered cells of named buffers. A store
has to lie inside its buffer, and a load has to read a cell that was stored to.
What else a program does is an event with a condition of its own on the memory.
-/

namespace Cedric.Accesses

open Overlay Runs

variable {β α ε : Type*}

inductive Access (β α ε : Type*)
  | alloc (b : β) (n : ℕ)
  | store (b : β) (o : ℕ) (x : α)
  | load (b : β) (o : ℕ)
  | event (e : ε)

/-- The size of a buffer, 0 if it was not allocated, and what was stored in its cells. -/
structure Memory (β α : Type*) where
  size : β → ℕ
  cell : β → ℕ → Option α

def stores (b : β) : ℕ → List α → List (Access β α ε)
  | _, [] => []
  | o, x :: xs => .store b o x :: stores b (o + 1) xs

def loads (b : β) : ℕ → ℕ → List (Access β α ε)
  | _, 0 => []
  | o, n + 1 => .load b o :: loads b (o + 1) n

def fills (b : β) (xs : ℕ → Option α) : ℕ → List (Access β α ε)
  | 0 => []
  | n + 1 => fills b xs n ++ (xs n).toList.map (.store b n)

variable [DecidableEq β]

namespace Memory

variable (m : Memory β α)

def after (m : Memory β α) : Access β α ε → Memory β α
  | .alloc b n => ⟨Function.update m.size b n, Function.update m.cell b fun _ => none⟩
  | .store b o x => ⟨m.size, Function.update m.cell b (Function.update (m.cell b) o (some x))⟩
  | .load _ _ => m
  | .event _ => m

def lay (b : β) (o : ℕ) (xs : List α) : Memory β α :=
  ⟨m.size, Function.update m.cell b (Overlay.lay (m.cell b) o (xs.map some))⟩

end Memory

omit [DecidableEq β] in
def Access.Safe (ok : Memory β α → ε → Prop) (m : Memory β α) : Access β α ε → Prop
  | .alloc _ _ => True
  | .store b o _ => o < m.size b
  | .load b o => o < m.size b ∧ (m.cell b o).isSome
  | .event e => ok m e

/-- Every access is safe in the memory that the ones before it leave. -/
def SafeRun (ok : Memory β α → ε → Prop) (m : Memory β α) (accesses : List (Access β α ε)) :
    Prop :=
  Along Memory.after (Access.Safe ok) m accesses

variable {ok : Memory β α → ε → Prop} {m : Memory β α} {b : β}

theorem safeRun_append (accesses accesses' : List (Access β α ε)) :
    SafeRun ok m (accesses ++ accesses') ↔
      SafeRun ok m accesses ∧ SafeRun ok (accesses.foldl Memory.after m) accesses' :=
  along_append m accesses accesses'

theorem safeRun_event (e : ε) (accesses : List (Access β α ε)) :
    SafeRun ok m (.event e :: accesses) ↔ ok m e ∧ SafeRun ok m accesses := Iff.rfl

theorem foldl_stores (o : ℕ) (xs : List α) :
    (stores b o xs : List (Access β α ε)).foldl Memory.after m = m.lay b o xs := by
  induction xs generalizing o m with
  | nil =>
    rw [Memory.lay, List.map_nil, lay_nil, Function.update_eq_self]
    rfl
  | cons x xs ih =>
    have hfirst : Function.update (m.cell b) o (some x) = Overlay.lay (m.cell b) o [some x] := by
      funext a
      by_cases ha : a = o
      · rw [ha, Function.update_self]
        exact (lay_at (m.cell b) o (List.length_pos_of_mem (List.mem_singleton_self (some x)))).symm
      · rw [Function.update_of_ne ha]
        refine (lay_other (m.cell b) ?_).symm
        rw [List.length_singleton]
        omega
    have hlay : Overlay.lay (m.cell b) o ((x :: xs).map some) =
        Overlay.lay (Overlay.lay (m.cell b) o [some x]) (o + 1) (xs.map some) :=
      (lay_append (m.cell b) o [some x] (xs.map some)).symm
    rw [stores, List.foldl_cons, ih, Memory.lay, Memory.lay, hlay]
    simp only [Memory.after, Function.update_self, Function.update_idem, hfirst]

theorem lay_lay (o : ℕ) (xs ys : List α) :
    (m.lay b o xs).lay b (o + xs.length) ys = m.lay b o (xs ++ ys) := by
  simp only [Memory.lay, Function.update_self, Function.update_idem]
  rw [List.map_append, ← lay_append, List.length_map]

theorem foldl_loads (o n : ℕ) :
    (loads b o n : List (Access β α ε)).foldl Memory.after m = m := by
  induction n generalizing o with
  | zero => rfl
  | succ n ih => exact ih (o + 1)

theorem safeRun_stores (o : ℕ) (xs : List α) :
    SafeRun ok m (stores b o xs) ↔ xs = [] ∨ o + xs.length ≤ m.size b := by
  induction xs generalizing o m with
  | nil => exact iff_of_true trivial (Or.inl rfl)
  | cons x xs ih =>
    have htail := ih (m := m.after (.store b o x : Access β α ε)) (o + 1)
    have hsafe : SafeRun ok m (stores b o (x :: xs)) ↔ o < m.size b ∧
        SafeRun ok (m.after (.store b o x : Access β α ε)) (stores b (o + 1) xs) := Iff.rfl
    rw [hsafe, htail]
    simp only [Memory.after, reduceCtorEq, false_or, List.length_cons]
    constructor
    · rintro ⟨ho, hxs | hxs⟩
      · rw [hxs, List.length_nil]
        exact ho
      · omega
    · intro h
      exact ⟨by omega, Or.inr (by omega)⟩

theorem safeRun_loads (o n : ℕ) :
    SafeRun ok m (loads b o n) ↔
      ∀ i < n, o + i < m.size b ∧ (m.cell b (o + i)).isSome := by
  induction n generalizing o with
  | zero => exact iff_of_true trivial fun i hi => absurd hi (Nat.not_lt_zero i)
  | succ n ih =>
    have hsafe : SafeRun ok m (loads b o (n + 1)) ↔
        (o < m.size b ∧ (m.cell b o).isSome) ∧ SafeRun ok m (loads b (o + 1) n) := Iff.rfl
    rw [hsafe, ih]
    constructor
    · rintro ⟨hfirst, hrest⟩ i hi
      cases i with
      | zero => exact hfirst
      | succ i =>
        have hi' := hrest i (Nat.lt_of_succ_lt_succ hi)
        rwa [Nat.add_assoc, Nat.add_comm 1] at hi'
    · intro h
      refine ⟨h 0 (Nat.succ_pos n), fun i hi => ?_⟩
      have hi' := h (i + 1) (Nat.succ_lt_succ hi)
      rwa [Nat.add_assoc, Nat.add_comm 1]

theorem cell_lay {o i : ℕ} {xs : List α} (hi : i < xs.length) :
    (m.lay b o xs).cell b (o + i) = some xs[i] := by
  have hlen : i < (xs.map some).length := by rwa [List.length_map]
  simp only [Memory.lay, Function.update_self]
  rw [lay_at (m.cell b) o hlen]
  simp

theorem cell_lay_other {b' : β} {o i : ℕ} {xs : List α} (h : b' ≠ b ∨ i < o ∨ o + xs.length ≤ i) :
    (m.lay b o xs).cell b' i = m.cell b' i := by
  simp only [Memory.lay]
  by_cases hb : b' = b
  · subst hb
    rw [Function.update_self]
    refine lay_other (m.cell b') ?_
    rw [List.length_map]
    exact h.resolve_left fun hne => hne rfl
  · rw [Function.update_of_ne hb]

theorem cell_lay_zero {i : ℕ} {xs : List α} (hi : i < xs.length) :
    (m.lay b 0 xs).cell b i = some xs[i] := by
  simpa only [Nat.zero_add] using cell_lay (m := m) (b := b) (o := 0) hi

theorem isSome_lay {b' : β} {i : ℕ} (o : ℕ) (xs : List α) (h : (m.cell b' i).isSome) :
    ((m.lay b o xs).cell b' i).isSome := by
  by_cases hother : b' ≠ b ∨ i < o ∨ o + xs.length ≤ i
  · rw [cell_lay_other hother]
    exact h
  · simp only [not_or, not_not, Nat.not_lt, Nat.not_le] at hother
    obtain ⟨rfl, hle, hlt⟩ := hother
    obtain ⟨k, rfl⟩ := Nat.exists_eq_add_of_le hle
    have hk : k < xs.length := by omega
    rw [cell_lay hk]
    rfl

theorem safeRun_fills {xs : ℕ → Option α} {n : ℕ} (hn : n ≤ m.size b) :
    SafeRun ok m (fills b xs n) ∧
      ((fills b xs n : List (Access β α ε)).foldl Memory.after m).size = m.size ∧
      ∀ i, (((fills b xs n : List (Access β α ε)).foldl Memory.after m).cell b i).isSome ↔
        (m.cell b i).isSome ∨ i < n ∧ (xs i).isSome := by
  induction n with
  | zero => exact ⟨trivial, rfl, fun i => by simp [fills]⟩
  | succ n ih =>
    obtain ⟨hsafe, hsize, hcells⟩ := ih (Nat.le_of_succ_le hn)
    rw [fills, safeRun_append, List.foldl_append]
    generalize (fills b xs n : List (Access β α ε)).foldl Memory.after m = m' at hsize hcells
    cases hx : xs n with
    | none =>
      refine ⟨⟨hsafe, trivial⟩, hsize, fun i => (hcells i).trans (or_congr_right ?_)⟩
      rw [Nat.lt_succ_iff_lt_or_eq, or_and_right]
      refine (or_iff_left ?_).symm
      rintro ⟨rfl, hi⟩
      rw [hx] at hi
      cases hi
    | some x =>
      have hin : n < m'.size b := by rw [hsize]; exact hn
      refine ⟨⟨hsafe, hin, trivial⟩, hsize, fun i => ?_⟩
      simp only [Option.toList_some, List.map_cons, List.map_nil, List.foldl_cons, List.foldl_nil,
        Memory.after, Function.update_self]
      by_cases hi : i = n
      · rw [hi, Function.update_self]
        exact iff_of_true rfl (Or.inr ⟨Nat.lt_succ_self n, hx ▸ rfl⟩)
      · rw [Function.update_of_ne hi, hcells]
        refine or_congr_right (and_congr_left fun _ => ?_)
        omega

theorem safeRun_loads_lay {n : ℕ} {xs : List α} (hxs : n ≤ xs.length) (hsize : n ≤ m.size b) :
    SafeRun ok (m.lay b 0 xs) (loads b 0 n) := by
  refine (safeRun_loads _ _).mpr fun k hk => ?_
  rw [Nat.zero_add, cell_lay_zero (Nat.lt_of_lt_of_le hk hxs)]
  exact ⟨Nat.lt_of_lt_of_le hk hsize, rfl⟩

end Cedric.Accesses
