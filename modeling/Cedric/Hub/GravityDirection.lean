import Cedric.Hub.GravityMagnitude
import Cedric.Lib.QuaternionRotation

/-!
# The direction of gravity

Over exact numbers the products of `Quaternion` are those of the quaternions, so
`LinearAccelGravity` rotates the z axis by the inverse of `gameRotation`. Within
the tolerance of `renormalize` its first product is left alone, sign and all.
-/

namespace Cedric.Hub

open QuaternionRotation

variable {F : Type} [RootField F]

namespace QuatData

def toQuaternion (q : QuatData F) : Quaternion F := QuaternionAlgebra.mk q.d q.a q.b q.c

@[simp] theorem re_toQuaternion (q : QuatData F) : q.toQuaternion.re = q.d := rfl

@[simp] theorem imI_toQuaternion (q : QuatData F) : q.toQuaternion.imI = q.a := rfl

@[simp] theorem imJ_toQuaternion (q : QuatData F) : q.toQuaternion.imJ = q.b := rfl

@[simp] theorem imK_toQuaternion (q : QuatData F) : q.toQuaternion.imK = q.c := rfl

theorem normSq_toQuaternion (q : QuatData F) : Quaternion.normSq q.toQuaternion = q.normSq := by
  rw [Quaternion.normSq_def', QuatData.normSq]
  simp only [re_toQuaternion, imI_toQuaternion, imJ_toQuaternion, imK_toQuaternion]
  ring

theorem toQuaternion_mulNoRenormalize (out q1 q2 : QuatData F) :
    (Quaternion.mulNoRenormalize out q1 q2).toQuaternion =
      q1.toQuaternion * q2.toQuaternion := by
  ext
  · simp [Quaternion.mulNoRenormalize]
  · simp [Quaternion.mulNoRenormalize]
  · simp [Quaternion.mulNoRenormalize]
  · simp [Quaternion.mulNoRenormalize]

theorem toQuaternion_inv (out q : QuatData F) :
    (Quaternion.inv out q).toQuaternion = star q.toQuaternion := by
  ext <;> simp [Quaternion.inv]

theorem toQuaternion_ne_zero {q : QuatData F} (hq : q.normSq ≠ 0) : q.toQuaternion ≠ 0 := by
  intro hzero
  rw [← normSq_toQuaternion, hzero, map_zero] at hq
  exact hq rfl

end QuatData

theorem Quaternion.renormalize_of_nearUnit {q : QuatData F} (h : q.NearUnit) :
    renormalize q = (q, 0) := by
  have hpos := NearUnit.pos h
  have htol := MAG_TOL_lt (F := F)
  simp only [renormalize]
  split_ifs with hsmall hoff
  · have hlt : q.normSq < MAG_TOL := of_decide_eq_true hsmall
    linarith
  · simp only [lt_eq, Bool.or_eq_true, decide_eq_true_eq, ofRat_eq, Rat.cast_one] at hoff
    exact absurd hoff (not_or.mpr ⟨not_lt.mpr h.2, not_lt.mpr h.1⟩)
  · rfl

theorem RootField.sqrt_mul_self {x : F} (hx : 0 ≤ x) : RootField.sqrt (x * x) = x := by
  have hsq := RootField.mul_self_sqrt (x * x) (mul_self_nonneg x)
  exact (mul_self_inj_of_nonneg (RootField.sqrt_nonneg _) hx).mp hsq

namespace LinearAccelGravity

variable {rot : QuatData F}

def zAxis : Fin 3 → F := ![0, 0, 1]

theorem toQuaternion_gravityQuat (h : rot.NearUnit) :
    (gravityQuat rot).toQuaternion = star rot.toQuaternion * vector zAxis * rot.toQuaternion := by
  let z : QuatData F := ⟨ofRat 0, ofRat 0, ofRat 1, ofRat 0, ofRat 0, 0⟩
  have hz : z.toQuaternion = vector zAxis := by ext <;> simp [z, zAxis]
  have hnorm : (Quaternion.mulNoRenormalize z z rot).NearUnit := by
    have hone : z.normSq = 1 := by simp [z, QuatData.normSq]
    rw [QuatData.NearUnit, Quaternion.normSq_mulNoRenormalize, hone, one_mul]
    exact h
  have hmul : (Quaternion.mul z z rot).1 = Quaternion.mulNoRenormalize z z rot := by
    rw [Quaternion.mul, Quaternion.renormalize_of_nearUnit hnorm]
  change (Quaternion.mulNoRenormalize _ (Quaternion.inv _ rot)
    (Quaternion.mul z z rot).1).toQuaternion = _
  rw [QuatData.toQuaternion_mulNoRenormalize, hmul, QuatData.toQuaternion_mulNoRenormalize,
    QuatData.toQuaternion_inv, hz, mul_assoc]

theorem magnitude_eq (h : rot.NearUnit) : magnitude rot = rot.normSq := by
  have hsq : (gravityQuat rot).normSq = rot.normSq * rot.normSq := by
    rw [← QuatData.normSq_toQuaternion, toQuaternion_gravityQuat h, map_mul, map_mul,
      Quaternion.normSq_star, normSq_vector, QuatData.normSq_toQuaternion]
    simp [zAxis]
  have hmag : magnitude rot = RootField.sqrt (gravityQuat rot).normSq := rfl
  rw [hmag, hsq, RootField.sqrt_mul_self rot.normSq_nonneg]

/-- The scalar part of `qGrav` is 0, and its vector over the magnitude is the z axis rotated by
the inverse of `gameRotation`. -/
theorem gravityQuat_direction (h : rot.NearUnit) :
    (gravityQuat rot).d = 0 ∧
      ![(gravityQuat rot).a / magnitude rot, (gravityQuat rot).b / magnitude rot,
        (gravityQuat rot).c / magnitude rot] = rotate rot.toQuaternion⁻¹ zAxis := by
  have hq := toQuaternion_gravityQuat h
  constructor
  · rw [← QuatData.re_toQuaternion, hq, re_star_mul_vector]
  · rw [rotate_inv, ← hq, QuatData.normSq_toQuaternion, magnitude_eq h, imaginary]
    simp [div_eq_inv_mul]

theorem gravity_vec (h : rot.NearUnit) (accel : CartData F) (i : Fin 3) :
    (fuse accel rot).1.vec i = GRAVITY_EARTH * rotate rot.toQuaternion⁻¹ zAxis i := by
  rw [← (gravityQuat_direction h).2, fuse_magnitude]
  fin_cases i <;> exact mul_comm _ _

theorem sumSquares_zAxis (h : rot.NearUnit) :
    sumSquares (rotate rot.toQuaternion⁻¹ zAxis) = 1 := by
  have hpos := Quaternion.NearUnit.pos h
  have hne : rot.normSq ≠ 0 := by linarith
  have hrot := rotate_normSq (inv_ne_zero (QuatData.toQuaternion_ne_zero hne)) zAxis
  rw [normSq_vector, normSq_vector] at hrot
  rw [sumSquares, ← sq, ← sq, ← sq, hrot]
  simp [zAxis]

/-- Gravity is the rotated z axis at the strength of the earth's, and what is left of the
acceleration is linear. -/
theorem gravity_decomposed (fd : FusionData F) (h : fd.gameRotation.NearUnit) :
    let up := rotate fd.gameRotation.toQuaternion⁻¹ zAxis
    let gravity := (processFusion fd).gravity.vec
    (gravityQuat fd.gameRotation).d = 0 ∧
      sqrtf (sumSquares up) = 1 ∧ (∀ i, gravity i = GRAVITY_EARTH * up i) ∧
      sqrtf (sumSquares gravity) = GRAVITY_EARTH ∧
      ∀ i, (processFusion fd).linearAccel.vec i + gravity i = fd.accel.vec i := by
  intro up gravity
  have hup : sumSquares up = 1 := sumSquares_zAxis h
  have hgravity (i : Fin 3) : gravity i = GRAVITY_EARTH * up i := gravity_vec h fd.accel i
  have hearth : (0 : F) ≤ GRAVITY_EARTH := by
    rw [GRAVITY_EARTH, ofRat_eq]
    exact Rat.cast_nonneg.mpr (by norm_num)
  have hlength : sumSquares gravity = GRAVITY_EARTH * GRAVITY_EARTH * sumSquares up := by
    simp only [sumSquares, hgravity]
    ring
  refine ⟨(gravityQuat_direction h).1, ?_, hgravity, ?_, fun i => ?_⟩
  · have hroot := RootField.sqrt_mul_self (zero_le_one (α := F))
    rw [mul_one] at hroot
    rw [hup, sqrtf_eq, hroot]
  · rw [hlength, hup, mul_one, sqrtf_eq, RootField.sqrt_mul_self hearth]
  · fin_cases i <;> exact sub_add_cancel _ _

/-- A phone that is turned about its x axis and accelerates. -/
def tilted : FusionData F :=
  { (FusionData.zero : FusionData F) with
    accel := ⟨ofRat 1, ofRat 2, ofRat 9, 0⟩
    gameRotation := ⟨ofRat (3 / 5), ofRat 0, ofRat 0, ofRat (4 / 5), ofRat 0, 0⟩ }

theorem gravity_decomposed_tilted :
    sqrtf (sumSquares (processFusion (tilted (F := ℝ))).gravity.vec) = GRAVITY_EARTH ∧
      ∀ i, (processFusion tilted).linearAccel.vec i + (processFusion tilted).gravity.vec i =
        (tilted (F := ℝ)).accel.vec i :=
  (gravity_decomposed (tilted (F := ℝ)) (Quaternion.nearUnit_of_normSq _ (by
    norm_num [tilted, QuatData.normSq]))).2.2.2

end LinearAccelGravity

end Cedric.Hub
