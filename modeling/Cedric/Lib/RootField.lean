import Mathlib.Algebra.Order.Field.Basic
import Mathlib.Analysis.SpecialFunctions.Trigonometric.Basic
import Mathlib.Analysis.Real.Sqrt
import Mathlib.Tactic.LinearCombination

/-!
# Exact arithmetic with square roots

A `RootField` is an ordered field with a square root of every nonnegative
element. Its sine and cosine are any two functions. The second part is about
right-handed orthonormal frames: the four signed traces of the rotation matrix
with the rows `h`, `m`, `n` are nonnegative and sum to 4, so the numbers half
their roots make a unit quaternion.
-/

namespace Cedric

class RootField (F : Type) extends Field F, LinearOrder F, IsStrictOrderedRing F where
  sqrt : F → F
  sin : F → F
  cos : F → F
  sqrt_nonneg : ∀ x, 0 ≤ sqrt x
  mul_self_sqrt : ∀ x, 0 ≤ x → sqrt x * sqrt x = x

noncomputable instance : RootField ℝ where
  sqrt := Real.sqrt
  sin := Real.sin
  cos := Real.cos
  sqrt_nonneg := Real.sqrt_nonneg
  mul_self_sqrt _ := Real.mul_self_sqrt

namespace RootField

variable {F : Type} [RootField F] {x t : F}

theorem sqrt_zero : sqrt (0 : F) = 0 := mul_self_eq_zero.mp (mul_self_sqrt 0 le_rfl)

theorem sqrt_eq_zero_iff (h : 0 ≤ x) : sqrt x = 0 ↔ x = 0 := by
  constructor
  · intro hzero
    rw [← mul_self_sqrt x h, hzero, mul_zero]
  · intro hzero
    rw [hzero, sqrt_zero]

theorem le_sqrt (ht : t * t ≤ x) : t ≤ sqrt x := by
  have hx : 0 ≤ x := (mul_self_nonneg t).trans ht
  refine le_of_not_gt fun hlt => ?_
  have hmul := mul_self_lt_mul_self (sqrt_nonneg x) hlt
  rw [mul_self_sqrt x hx] at hmul
  exact absurd ht (not_le_of_gt hmul)

end RootField

/-- The rows of a rotation matrix: `h` and `n` are orthonormal and `m` is `n × h`. -/
structure Frame {F : Type} [RootField F] (h m n : Fin 3 → F) : Prop where
  hh : h 0 * h 0 + h 1 * h 1 + h 2 * h 2 = 1
  nn : n 0 * n 0 + n 1 * n 1 + n 2 * n 2 = 1
  nh : n 0 * h 0 + n 1 * h 1 + n 2 * h 2 = 0
  m0 : m 0 = n 1 * h 2 - n 2 * h 1
  m1 : m 1 = n 2 * h 0 - n 0 * h 2
  m2 : m 2 = n 0 * h 1 - n 1 * h 0

namespace Frame

variable {F : Type} [RootField F] {h m n : Fin 3 → F} (hf : Frame h m n)
include hf

theorem mm : m 0 * m 0 + m 1 * m 1 + m 2 * m 2 = 1 := by
  rw [hf.m0, hf.m1, hf.m2]
  linear_combination (h 0 * h 0 + h 1 * h 1 + h 2 * h 2) * hf.nn + hf.hh -
    (n 0 * h 0 + n 1 * h 1 + n 2 * h 2) * hf.nh

/-- `h` is `m × n` and `n` is `h × m`, in the components used below. -/
theorem h0 : m 1 * n 2 - m 2 * n 1 = h 0 := by
  rw [hf.m1, hf.m2]
  linear_combination h 0 * hf.nn - n 0 * hf.nh

theorem n2 : h 0 * m 1 - h 1 * m 0 = n 2 := by
  rw [hf.m0, hf.m1]
  linear_combination n 2 * hf.hh - h 2 * hf.nh

theorem column0 : h 0 * h 0 + m 0 * m 0 + n 0 * n 0 = 1 := by
  rw [hf.m0]
  linear_combination (h 1 * h 1 + h 2 * h 2) * hf.nn + (1 - n 0 * n 0) * hf.hh -
    (n 1 * h 1 + n 2 * h 2 - n 0 * h 0) * hf.nh

theorem column1 : h 1 * h 1 + m 1 * m 1 + n 1 * n 1 = 1 := by
  rw [hf.m1]
  linear_combination (h 0 * h 0 + h 2 * h 2) * hf.nn + (1 - n 1 * n 1) * hf.hh -
    (n 0 * h 0 + n 2 * h 2 - n 1 * h 1) * hf.nh

theorem column2 : h 2 * h 2 + m 2 * m 2 + n 2 * n 2 = 1 := by
  rw [hf.m2]
  linear_combination (h 0 * h 0 + h 1 * h 1) * hf.nn + (1 - n 2 * n 2) * hf.hh -
    (n 0 * h 0 + n 1 * h 1 - n 2 * h 2) * hf.nh

end Frame

/-- The four signed traces of a matrix with the diagonal `x`, `y`, `z`. -/
def traces {F : Type} [RootField F] (x y z : F) : Fin 4 → F :=
  ![1 + x + y + z, 1 + x - y - z, 1 - x + y - z, 1 - x - y + z]

section Traces
variable {F : Type} [RootField F] {h m n : Fin 3 → F} (x y z : F)

theorem traces_sum : traces x y z 0 + traces x y z 1 + traces x y z 2 + traces x y z 3 = 4 := by
  simp [traces]
  ring

theorem nonneg_of_pairs {a b c d : F} (hsum : a + b + c + d = 4) (hb : 0 ≤ a * b)
    (hc : 0 ≤ a * c) (hd : 0 ≤ a * d) : 0 ≤ a := by
  refine le_of_not_gt fun ha => ?_
  have hb' := nonpos_of_mul_nonneg_right hb ha
  have hc' := nonpos_of_mul_nonneg_right hc ha
  have hd' := nonpos_of_mul_nonneg_right hd ha
  linarith

theorem Frame.traces_mul (hf : Frame h m n) :
    let t := traces (h 0) (m 1) (n 2)
    (t 0 * t 1 = (n 1 - m 2) * (n 1 - m 2) ∧ t 0 * t 2 = (h 2 - n 0) * (h 2 - n 0) ∧
        t 0 * t 3 = (m 0 - h 1) * (m 0 - h 1)) ∧
      t 1 * t 2 = (m 0 + h 1) * (m 0 + h 1) ∧ t 1 * t 3 = (h 2 + n 0) * (h 2 + n 0) ∧
        t 2 * t 3 = (m 2 + n 1) * (m 2 + n 1) := by
  simp only [traces, Matrix.cons_val]
  refine ⟨⟨?_, ?_, ?_⟩, ?_, ?_, ?_⟩
  · linear_combination hf.column0 - hf.mm - hf.nn - 2 * hf.h0
  · linear_combination hf.column1 - hf.hh - hf.nn + 2 * hf.m1
  · linear_combination hf.column2 - hf.hh - hf.mm - 2 * hf.n2
  · linear_combination hf.column2 - hf.hh - hf.mm + 2 * hf.n2
  · linear_combination hf.column1 - hf.hh - hf.nn - 2 * hf.m1
  · linear_combination hf.column0 - hf.mm - hf.nn + 2 * hf.h0

theorem nonneg_of_eq_square {a s : F} (h : a = s * s) : 0 ≤ a := h ▸ mul_self_nonneg s

theorem Frame.traces_nonneg (hf : Frame h m n) (i : Fin 4) : 0 ≤ traces (h 0) (m 1) (n 2) i := by
  obtain ⟨⟨h01, h02, h03⟩, h12, h13, h23⟩ := hf.traces_mul
  have p01 := nonneg_of_eq_square h01
  have p02 := nonneg_of_eq_square h02
  have p03 := nonneg_of_eq_square h03
  have p12 := nonneg_of_eq_square h12
  have p13 := nonneg_of_eq_square h13
  have p23 := nonneg_of_eq_square h23
  have hsum := traces_sum (h 0) (m 1) (n 2)
  match i with
  | 0 => exact nonneg_of_pairs hsum p01 p02 p03
  | 1 =>
    rw [mul_comm] at p01
    exact nonneg_of_pairs (by linear_combination hsum) p01 p12 p13
  | 2 =>
    rw [mul_comm] at p02 p12
    exact nonneg_of_pairs (by linear_combination hsum) p02 p12 p23
  | 3 =>
    rw [mul_comm] at p03 p13 p23
    exact nonneg_of_pairs (by linear_combination hsum) p03 p13 p23

theorem four_le_abs_traces : 4 ≤ |traces x y z 0| + |traces x y z 1| + |traces x y z 2| +
    |traces x y z 3| := by
  have hsum := traces_sum x y z
  linarith [le_abs_self (traces x y z 0), le_abs_self (traces x y z 1),
    le_abs_self (traces x y z 2), le_abs_self (traces x y z 3)]

theorem Frame.abs_traces (hf : Frame h m n) :
    |traces (h 0) (m 1) (n 2) 0| + |traces (h 0) (m 1) (n 2) 1| +
      |traces (h 0) (m 1) (n 2) 2| + |traces (h 0) (m 1) (n 2) 3| = 4 := by
  rw [abs_of_nonneg (hf.traces_nonneg 0), abs_of_nonneg (hf.traces_nonneg 1),
    abs_of_nonneg (hf.traces_nonneg 2), abs_of_nonneg (hf.traces_nonneg 3), traces_sum]

end Traces
end Cedric
