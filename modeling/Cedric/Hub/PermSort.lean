import Cedric.Hub.SinglePrecision
import Cedric.Lib.DecimalText
import Cedric.Lib.Runs
import Cedric.Lib.SelectionSort

/-!
# Sorting by absolute value

`permSort` is a selection sort that exchanges the entries of `p` and `a`
together. Whatever the comparisons answer, `p` is a permutation, `a` holds the
input in its order and the swaps give its sign. The entries come out in
descending order where the absolute values are ordered and above `-FLT_MAX`,
as those of finite floats are.
-/

namespace Cedric.Hub.GameRotationVector

open SelectionSort

variable {F : Type} [FloatOps F] {len : ℕ}

theorem swapAt_eq {α : Type} (f : Fin len → α) (i k : Fin len) :
    swapAt f i k = f ∘ Equiv.swap i k := by
  funext j
  rw [swapAt, Function.comp_apply, Equiv.swap_apply_def]
  split_ifs <;> rfl

/-- The entry that a step exchanges, for an input and the permutation so far. -/
def largestOf (n : Fin len → F) (σ : Equiv.Perm (Fin len)) (i : Fin len) : Fin len :=
  largestFrom (n ∘ σ) i

def PermSort.ofSorting (n : Fin len → F) (t : Sorting len) : PermSort F len :=
  ⟨t.perm, n ∘ t.perm, t.exchanges⟩

theorem PermSort.step_ofSorting (n : Fin len → F) (t : Sorting len) (i : Fin len) :
    (PermSort.ofSorting n t).step i = .ofSorting n (t.exchange i (largestOf n t.perm i)) := by
  simp only [PermSort.step, PermSort.ofSorting, Sorting.exchange, swapAt_eq, largestOf]
  rfl

theorem permSort_eq (n : Fin len → F) : permSort n = .ofSorting n (sort (largestOf n)) := by
  have hstart : (⟨id, n, 0⟩ : PermSort F len) = .ofSorting n .start := rfl
  rw [permSort, sort, hstart]
  exact List.foldl_hom (PermSort.ofSorting n) (PermSort.step_ofSorting n)

/-- The permutation and the sorted copy agree, and no index is lost. -/
structure PermSort.Sorts (s : PermSort F len) (n : Fin len → F) : Prop where
  copy : s.a = n ∘ s.p
  injective : Function.Injective s.p

theorem permSort_sorts (n : Fin len → F) : (permSort n).Sorts n := by
  rw [permSort_eq]
  exact ⟨rfl, Equiv.injective _⟩

theorem permSort_injective (n : Fin len → F) : Function.Injective (permSort n).p :=
  (permSort_sorts n).injective

/-- How far from zero the finite numbers are, as the comparisons see it. -/
structure Magnitude (F κ : Type) [FloatOps F] [LinearOrder κ] where
  Finite : F → Prop
  of : F → κ
  lt_fabs : ∀ {x y}, Finite x → Finite y → (FloatOps.lt (fabs x) (fabs y) = true ↔ of x < of y)
  FLT_MAX_lt : ∀ {x}, Finite x → FloatOps.lt (-FLT_MAX) (fabs x) = true

namespace Magnitude

variable {κ : Type} [LinearOrder κ] (M : Magnitude F κ) {n : Fin len → F}

def better (a : Fin len → F) (best : Fin len × F) (j : Fin len) : Fin len × F :=
  if FloatOps.lt best.2 (fabs (a j)) then (j, fabs (a j)) else best

structure Scanned (a : Fin len → F) (past : List (Fin len)) (best : Fin len × F) : Prop where
  mem : best.1 ∈ past
  value : best.2 = fabs (a best.1)
  largest : ∀ j ∈ past, M.of (a j) ≤ M.of (a best.1)

variable {M}

theorem Scanned.better {a : Fin len → F} (hfinite : ∀ j, M.Finite (a j)) {past : List (Fin len)}
    {best : Fin len × F} (h : M.Scanned a past best) (j : Fin len) :
    M.Scanned a (past ++ [j]) (better a best j) := by
  have hcase : FloatOps.lt best.2 (fabs (a j)) = true ↔
      M.of (a best.1) < M.of (a j) := by
    rw [h.value]
    exact M.lt_fabs (hfinite _) (hfinite j)
  rw [Magnitude.better]
  split_ifs with hlt
  · refine ⟨by simp, rfl, fun k hk => ?_⟩
    rcases List.mem_append.mp hk with hk | hk
    · exact (h.largest k hk).trans (hcase.mp hlt).le
    · rw [List.mem_singleton.mp hk]
  · refine ⟨List.mem_append_left _ h.mem, h.value, fun k hk => ?_⟩
    rcases List.mem_append.mp hk with hk | hk
    · exact h.largest k hk
    · rw [List.mem_singleton.mp hk]
      exact not_lt.mp fun hless => hlt (hcase.mpr hless)

theorem scanned_scan {a : Fin len → F} (hfinite : ∀ j, M.Finite (a j)) (i : Fin len)
    (js : List (Fin len)) (hjs : js ≠ []) :
    M.Scanned a js (js.foldl (Magnitude.better a) (i, -FLT_MAX)) := by
  have hscan : js = [] ∧ js.foldl (Magnitude.better a) (i, -FLT_MAX) = (i, -FLT_MAX) ∨
      M.Scanned a js (js.foldl (Magnitude.better a) (i, -FLT_MAX)) := by
    refine Runs.history_induction (P := fun past best =>
      past = [] ∧ best = (i, -FLT_MAX) ∨ M.Scanned a past best) (Or.inl ⟨rfl, rfl⟩) ?_ js
    rintro past j best (⟨rfl, rfl⟩ | h)
    · refine Or.inr ?_
      rw [Magnitude.better, if_pos (M.FLT_MAX_lt (hfinite j))]
      exact ⟨by simp, rfl, by simp⟩
    · exact Or.inr (h.better hfinite j)
  exact hscan.resolve_left fun h => hjs h.1

theorem selects (hfinite : ∀ i, M.Finite (n i)) (σ : Equiv.Perm (Fin len)) (i : Fin len) :
    Selects ((M.of ∘ n) ∘ σ) i (largestOf n σ i) := by
  have hmem (j : Fin len) : j ∈ (List.finRange len).filter (i ≤ ·) ↔ i ≤ j := by
    simp [List.mem_filter]
  have hscan := scanned_scan (M := M) (a := n ∘ σ) (fun j => hfinite (σ j)) i
    ((List.finRange len).filter (i ≤ ·)) (List.ne_nil_of_mem ((hmem i).mpr le_rfl))
  exact ⟨(hmem _).mp hscan.mem, fun j hj => hscan.largest j ((hmem j).mpr hj)⟩

theorem sort_inv (hfinite : ∀ i, M.Finite (n i)) : (sort (largestOf n)).Inv (M.of ∘ n) len :=
  SelectionSort.sort_inv (selects hfinite)

theorem permSort_antitone (hfinite : ∀ i, M.Finite (n i)) :
    Antitone fun i => M.of ((permSort n).a i) := by
  rw [permSort_eq]
  exact (sort_inv hfinite).sorted.antitone

theorem permSort_largest (hfinite : ∀ i, M.Finite (n i)) (first i : Fin len)
    (hfirst : ∀ j, first ≤ j) : M.of (n i) ≤ M.of (n ((permSort n).p first)) := by
  obtain ⟨j, rfl⟩ := Finite.injective_iff_surjective.mp (permSort_injective n) i
  have hle := permSort_antitone hfinite (hfirst j)
  rw [(permSort_sorts n).copy] at hle
  exact hle

/-- Finite floats, by the distance of their values from zero. -/
def single : Magnitude Float32 ℚ where
  Finite x := x.isFinite = true
  of x := |Binary32.toRat x|
  lt_fabs := by
    intro x y hx hy
    rw [← Binary32.toRat_abs hx, ← Binary32.toRat_abs hy]
    exact Binary32.lt_iff (Binary32.abs_isFinite hx) (Binary32.abs_isFinite hy)
  FLT_MAX_lt := by
    intro x hx
    have hlow : (-FLT_MAX : Float32).isFinite = true ∧ Binary32.value (-FLT_MAX : Float32) < 0 := by
      decide +kernel
    have habs : 0 ≤ Binary32.value x.abs := by
      rw [Binary32.value_abs hx]
      exact abs_nonneg _
    exact (Binary32.lt_iff_value hlow.1 (Binary32.abs_isFinite hx)).mpr (hlow.2.trans_le habs)

end Magnitude

/-- What `permSort` returns: the counter is an `int`, and wrapping keeps its parity. -/
def PermSort.returned (s : PermSort F len) : ℤ :=
  if (DecimalText.CInt.wrap s.swaps).1.tmod 2 ≠ 0 then -1 else 1

omit [FloatOps F] in
theorem PermSort.returned_eq_sign (s : PermSort F len) : s.returned = s.sign := by
  have hmod := DecimalText.CInt.wrap_emod s.swaps
  have hparity : (DecimalText.CInt.wrap s.swaps).1.tmod 2 ≠ 0 ↔ s.swaps % 2 = 1 := by
    rw [ne_eq, ← Int.dvd_iff_tmod_eq_zero]
    omega
  rw [PermSort.returned, PermSort.sign]
  exact if_congr hparity rfl rfl

omit [FloatOps F] in
theorem PermSort.sign_eq {s : PermSort F len} {σ : Equiv.Perm (Fin len)}
    (h : Equiv.Perm.sign σ = (-1) ^ s.swaps) : s.sign = Equiv.Perm.sign σ := by
  rw [PermSort.sign, h]
  rcases Nat.even_or_odd s.swaps with heven | hodd
  · rw [heven.neg_one_pow, if_neg (by rw [Nat.even_iff.mp heven]; decide)]
    rfl
  · rw [hodd.neg_one_pow, if_pos (Nat.odd_iff.mp hodd)]
    rfl

/-- Sorted by absolute value, by a permutation whose sign is returned. -/
theorem permSort_sorted (n : Fin len → Float32) (hfinite : ∀ i, (n i).isFinite = true) :
    ∃ σ : Equiv.Perm (Fin len),
      (∀ i, (permSort n).p i = σ i ∧ (permSort n).a i = n (σ i)) ∧
      (Antitone fun i => |Binary32.toRat ((permSort n).a i)|) ∧
      (permSort n).returned = Equiv.Perm.sign σ := by
  have hinv := Magnitude.sort_inv (M := Magnitude.single) hfinite
  refine ⟨(sort (largestOf n)).perm, fun i => ?_,
    Magnitude.permSort_antitone (M := .single) hfinite, ?_⟩
  · rw [permSort_eq]
    exact ⟨rfl, rfl⟩
  · rw [PermSort.returned_eq_sign]
    refine PermSort.sign_eq ?_
    rw [permSort_eq]
    exact hinv.sign

def fourFloats : Fin 4 → Float32 :=
  ![.ofBits 0x3f800000, .ofBits 0xc0000000, .ofBits 0x40000000, .ofBits 0x3f000000]

theorem permSort_sorted_ties :
    (permSort fourFloats).p = ![1, 2, 0, 3] ∧
      ∃ σ : Equiv.Perm (Fin 4),
        (∀ i, (permSort fourFloats).p i = σ i ∧ (permSort fourFloats).a i = fourFloats (σ i)) ∧
        (Antitone fun i => |Binary32.toRat ((permSort fourFloats).a i)|) ∧
        (permSort fourFloats).returned = Equiv.Perm.sign σ :=
  ⟨by decide +kernel, permSort_sorted fourFloats (by decide +kernel)⟩

end Cedric.Hub.GameRotationVector
