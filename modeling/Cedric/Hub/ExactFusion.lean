import Cedric.Hub.Fusion
import Cedric.Lib.RootField

/-!
# The fusion arithmetic over exact numbers

Over a `RootField` the squared norm of a quaternion is multiplicative, and
`renormalize` always returns a quaternion of norm close to 1. The six-axis
algorithms therefore end with a nonzero quaternion whenever they get that far.
-/

namespace Cedric.Hub

variable {F : Type} [RootField F]

instance (priority := 100) exactOps : FloatOps F where
  ofRat q := (q : F)
  sqrtf := RootField.sqrt
  sinf := RootField.sin
  cosf := RootField.cos
  fabs x := |x|
  copysignf x y := if y < 0 then -|x| else |x|
  lt x y := decide (x < y)
  le x y := decide (x ≤ y)
  ne x y := decide (x ≠ y)

@[simp] theorem ofRat_eq (q : ℚ) : (ofRat q : F) = (q : F) := rfl

@[simp] theorem fabs_eq (x : F) : fabs x = |x| := rfl

@[simp] theorem sqrtf_eq (x : F) : sqrtf x = RootField.sqrt x := rfl

@[simp] theorem lt_eq (x y : F) : FloatOps.lt x y = decide (x < y) := rfl

@[simp] theorem le_eq (x y : F) : FloatOps.le x y = decide (x ≤ y) := rfl

theorem copysignf_mul_self (x y : F) : copysignf x y * copysignf x y = x * x := by
  change (if y < 0 then -|x| else |x|) * (if y < 0 then -|x| else |x|) = x * x
  split_ifs
  · rw [neg_mul_neg, abs_mul_abs_self]
  · exact abs_mul_abs_self x

theorem sumSquares_nonneg (v : Fin 3 → F) : 0 ≤ sumSquares v := by
  have h0 := mul_self_nonneg (v 0)
  have h1 := mul_self_nonneg (v 1)
  have h2 := mul_self_nonneg (v 2)
  rw [sumSquares]
  linarith

theorem normalized {v : Fin 3 → F} (hne : sqrtf (sumSquares v) ≠ 0) :
    v 0 / sqrtf (sumSquares v) * (v 0 / sqrtf (sumSquares v)) +
      v 1 / sqrtf (sumSquares v) * (v 1 / sqrtf (sumSquares v)) +
      v 2 / sqrtf (sumSquares v) * (v 2 / sqrtf (sumSquares v)) = 1 := by
  have hsq : v 0 * v 0 + v 1 * v 1 + v 2 * v 2 = sqrtf (sumSquares v) * sqrtf (sumSquares v) :=
    (RootField.mul_self_sqrt _ (sumSquares_nonneg v)).symm
  rw [div_mul_div_comm, div_mul_div_comm, div_mul_div_comm, ← add_div, ← add_div, hsq,
    div_self (mul_ne_zero hne hne)]

namespace QuatData

def normSq (q : QuatData F) : F := q.a * q.a + q.b * q.b + q.c * q.c + q.d * q.d

/-- Within the tolerance of `renormalize`, so that it leaves the quaternion alone. -/
def NearUnit (q : QuatData F) : Prop :=
  1 - Quaternion.MAG_TOL ≤ q.normSq ∧ q.normSq ≤ 1 + Quaternion.MAG_TOL

theorem normSq_nonneg (q : QuatData F) : 0 ≤ q.normSq := by
  have ha := mul_self_nonneg q.a
  have hb := mul_self_nonneg q.b
  have hc := mul_self_nonneg q.c
  have hd := mul_self_nonneg q.d
  rw [normSq]
  linarith

theorem normSq_zero : (QuatData.zero : QuatData F).normSq = 0 := by
  simp [normSq, QuatData.zero]

end QuatData

namespace Quaternion

variable (q q1 q2 out : QuatData F)

theorem MAG_TOL_pos : (0 : F) < MAG_TOL := by
  rw [MAG_TOL, ofRat_eq]
  exact Rat.cast_pos.mpr (by norm_num)

theorem MAG_TOL_lt : (MAG_TOL : F) < 1 / 1000 := by
  rw [MAG_TOL, ofRat_eq]
  norm_num

theorem normSq_mulNoRenormalize :
    (mulNoRenormalize q q1 q2).normSq = q1.normSq * q2.normSq := by
  simp only [QuatData.normSq, mulNoRenormalize]
  ring

theorem normSq_inv : (inv out q).normSq = q.normSq := by
  simp only [QuatData.normSq, inv]
  ring

theorem nearUnit_of_normSq (h : q.normSq = 1) : q.NearUnit := by
  have htol := (MAG_TOL_pos (F := F)).le
  rw [QuatData.NearUnit, h]
  exact ⟨by linarith, by linarith⟩

variable {q q1 q2 out}

theorem NearUnit.pos (h : q.NearUnit) : 1 / 2 < q.normSq := by
  have htol := MAG_TOL_lt (F := F)
  have hlow := h.1
  linarith

theorem normSq_div (m : F) (hm : m * m = q.normSq) (hq : q.normSq ≠ 0) :
    ({ q with a := q.a / m, b := q.b / m, c := q.c / m, d := q.d / m } : QuatData F).normSq = 1 := by
  have hm0 : m ≠ 0 := by
    intro hzero
    rw [hzero, mul_zero] at hm
    exact hq hm.symm
  have hsum : ({ q with a := q.a / m, b := q.b / m, c := q.c / m, d := q.d / m } :
      QuatData F).normSq = q.normSq / (m * m) := by
    simp only [QuatData.normSq]
    field_simp
  rw [hsum, hm, div_self hq]

theorem renormalize_nearUnit (q : QuatData F) : (renormalize q).1.NearUnit := by
  simp only [renormalize]
  split_ifs with hsmall hoff
  · refine nearUnit_of_normSq _ ?_
    simp [QuatData.normSq]
  · refine nearUnit_of_normSq _ (normSq_div _ ?_ ?_)
    · rw [copysignf_mul_self]
      exact RootField.mul_self_sqrt _ q.normSq_nonneg
    · intro hzero
      apply hsmall
      change decide (q.normSq < MAG_TOL) = true
      rw [hzero]
      exact decide_eq_true MAG_TOL_pos
  · simp only [lt_eq, Bool.or_eq_true, decide_eq_true_eq, not_or, not_lt, ofRat_eq,
      Rat.cast_one] at hoff
    exact ⟨hoff.2, hoff.1⟩

theorem renormalize_ok_iff (q : QuatData F) : (renormalize q).2 = 0 ↔ MAG_TOL ≤ q.normSq := by
  simp only [renormalize]
  split_ifs with hsmall hoff
  · simp only [lt_eq, decide_eq_true_eq] at hsmall
    exact iff_of_false one_ne_zero (not_le_of_gt hsmall)
  all_goals
    simp only [lt_eq, decide_eq_true_eq, not_lt] at hsmall
    exact iff_of_true rfl hsmall

theorem mul_ok_iff (q q1 q2 : QuatData F) :
    (mul q q1 q2).2 = 0 ↔ MAG_TOL ≤ q1.normSq * q2.normSq := by
  rw [mul, renormalize_ok_iff, normSq_mulNoRenormalize]

theorem mul_ok (h1 : q1.NearUnit) (h2 : q2.NearUnit) : (mul q q1 q2).2 = 0 := by
  rw [mul_ok_iff]
  have hmul := mul_le_mul (NearUnit.pos h1).le (NearUnit.pos h2).le (by norm_num) q1.normSq_nonneg
  have htol := MAG_TOL_lt (F := F)
  linarith

theorem normSq_ofRotation (rot : QuatData F) (h m n : Fin 3 → F) :
    4 * (ofRotation rot h m n).normSq =
      |traces (h 0) (m 1) (n 2) 0| + |traces (h 0) (m 1) (n 2) 1| +
        |traces (h 0) (m 1) (n 2) 2| + |traces (h 0) (m 1) (n 2) 3| := by
  have hsq (x : F) : RootField.sqrt |x| * RootField.sqrt |x| = |x| :=
    RootField.mul_self_sqrt |x| (abs_nonneg x)
  simp only [QuatData.normSq, ofRotation, copysignf_mul_self, fabs_eq, traces, Matrix.cons_val,
    ofRat_eq, sqrtf_eq, Rat.cast_one]
  push_cast
  linear_combination hsq (1 + h 0 + m 1 + n 2) + hsq (1 + h 0 - m 1 - n 2) +
    hsq (1 - h 0 + m 1 - n 2) + hsq (1 - h 0 - m 1 + n 2)

theorem one_le_normSq_ofRotation (rot : QuatData F) (h m n : Fin 3 → F) :
    1 ≤ (ofRotation rot h m n).normSq := by
  have hsum := normSq_ofRotation rot h m n
  have htraces := four_le_abs_traces (h 0) (m 1) (n 2)
  linarith

theorem normSq_ofRotation_frame (rot : QuatData F) {h m n : Fin 3 → F} (hf : Frame h m n) :
    (ofRotation rot h m n).normSq = 1 := by
  have hsum := normSq_ofRotation rot h m n
  rw [hf.abs_traces] at hsum
  linarith

theorem linInterp_nearUnit (out q1 q2 : QuatData F) (alpha : F) :
    (linInterp out q1 q2 alpha).1.NearUnit := renormalize_nearUnit _

end Quaternion

namespace GyroIntegration

def State.base (gis : State F) (rvIn : QuatData F) : QuatData F :=
  if gis.initialized then gis.quatGyro else rvIn

/-- The product with some rotation close to unit norm is renormalizable and the filtered
product is copied out, or it is not and the output is left alone. -/
theorem integrate_cases (gis : State F) (rvOut rvIn : QuatData F) (gyro : CartData F) :
    ∃ delta : QuatData F, delta.NearUnit ∧
      (((gis.base rvIn).normSq * delta.normSq < Quaternion.MAG_TOL ∧
          (integrate gis rvOut rvIn gyro).1.initialized = false ∧
          (integrate gis rvOut rvIn gyro).2 = rvOut) ∨
        (Quaternion.MAG_TOL ≤ (gis.base rvIn).normSq * delta.normSq ∧
          (integrate gis rvOut rvIn gyro).1.initialized = true ∧
          (integrate gis rvOut rvIn gyro).1.quatGyro = (integrate gis rvOut rvIn gyro).2 ∧
          (integrate gis rvOut rvIn gyro).2.NearUnit)) := by
  unfold integrate
  extract_lets kept start dt quatGyro gyroMag moving gyroNorm gyroX gyroY gyroZ halfTheta
    sinHalfTheta quatGyroDelta product nineAxisFilter fused
  have hbase : quatGyro.normSq = (gis.base rvIn).normSq := by
    unfold quatGyro start State.base
    split_ifs <;> rfl
  have hok : product.2 = 0 ↔ Quaternion.MAG_TOL ≤ (gis.base rvIn).normSq * quatGyroDelta.normSq := by
    rw [← hbase]
    exact Quaternion.mul_ok_iff _ _ _
  refine ⟨quatGyroDelta, Quaternion.renormalize_nearUnit _, ?_⟩
  by_cases hbad : product.2 = 0
  · right
    rw [if_neg (not_not.mpr hbad)]
    exact ⟨hok.mp hbad, rfl, rfl, Quaternion.linInterp_nearUnit _ _ _ _⟩
  · left
    rw [if_pos hbad]
    exact ⟨lt_of_not_ge fun hle => hbad (hok.mpr hle), rfl, rfl⟩

end GyroIntegration
end Cedric.Hub
