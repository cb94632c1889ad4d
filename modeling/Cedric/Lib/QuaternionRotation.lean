import Mathlib.Algebra.Quaternion
import Mathlib.Tactic.FieldSimp

/-!
# Rotations by quaternions

A nonzero quaternion rotates a vector by conjugating the quaternion that has the
vector for its imaginary part. Its multiples rotate in the same way, and lengths
are kept.
-/

namespace Cedric.QuaternionRotation

open Quaternion Matrix

variable {R : Type*} [Field R]

def vector (v : Fin 3 → R) : ℍ[R] :=
  QuaternionAlgebra.mk 0 (vecHead v) (vecHead (vecTail v)) (vecHead (vecTail (vecTail v)))

def imaginary (q : ℍ[R]) : Fin 3 → R := ![q.imI, q.imJ, q.imK]

@[simp] theorem re_vector (v : Fin 3 → R) : (vector v).re = 0 := rfl

@[simp] theorem imI_vector (v : Fin 3 → R) : (vector v).imI = v 0 := rfl

@[simp] theorem imJ_vector (v : Fin 3 → R) : (vector v).imJ = v 1 := rfl

@[simp] theorem imK_vector (v : Fin 3 → R) : (vector v).imK = v 2 := rfl

theorem normSq_vector (v : Fin 3 → R) : normSq (vector v) = v 0 ^ 2 + v 1 ^ 2 + v 2 ^ 2 := by
  simp [normSq_def']

theorem vector_imaginary {q : ℍ[R]} (h : q.re = 0) : vector (imaginary q) = q := by
  ext
  · exact h.symm
  · rfl
  · rfl
  · rfl

theorem re_star_mul_vector (q : ℍ[R]) (v : Fin 3 → R) : (star q * vector v * q).re = 0 := by
  simp only [re_mul, imI_mul, imJ_mul, imK_mul, re_vector, imI_vector, imJ_vector, imK_vector,
    re_star, imI_star, imJ_star, imK_star]
  ring

variable [LinearOrder R] [IsStrictOrderedRing R]

def rotate (q : ℍ[R]) (v : Fin 3 → R) : Fin 3 → R := imaginary (q * vector v * q⁻¹)

variable {q : ℍ[R]}

theorem conj_inv (q : ℍ[R]) (v : Fin 3 → R) :
    q⁻¹ * vector v * q⁻¹⁻¹ = (normSq q)⁻¹ • (star q * vector v * q) := by
  rw [inv_inv, Quaternion.inv_def, smul_mul_assoc, smul_mul_assoc]

theorem re_conj (q : ℍ[R]) (v : Fin 3 → R) : (q * vector v * q⁻¹).re = 0 := by
  have hre : (q⁻¹⁻¹ * vector v * q⁻¹⁻¹⁻¹).re = 0 := by
    rw [conj_inv, re_smul, re_star_mul_vector, smul_zero]
  rwa [inv_inv] at hre

theorem vector_rotate (q : ℍ[R]) (v : Fin 3 → R) :
    vector (rotate q v) = q * vector v * q⁻¹ := vector_imaginary (re_conj q v)

theorem rotate_normSq (hq : q ≠ 0) (v : Fin 3 → R) :
    normSq (vector (rotate q v)) = normSq (vector v) := by
  rw [vector_rotate, map_mul, map_mul, mul_comm (normSq q), mul_assoc, ← map_mul,
    mul_inv_cancel₀ hq, map_one, mul_one]

/-- The length of a quaternion has no meaning for its rotation. -/
theorem rotate_smul {c : R} (hc : c ≠ 0) (q : ℍ[R]) (v : Fin 3 → R) :
    rotate (c • q) v = rotate q v := by
  have hinv : (c • q)⁻¹ = c⁻¹ • q⁻¹ := by
    rw [Quaternion.inv_def, Quaternion.inv_def, normSq_smul, Quaternion.star_smul, smul_smul,
      smul_smul]
    congr 1
    field_simp
  rw [rotate, rotate, hinv, smul_mul_assoc, smul_mul_assoc, mul_smul_comm, smul_smul,
    mul_inv_cancel₀ hc, one_smul]

theorem rotate_inv (q : ℍ[R]) (v : Fin 3 → R) :
    rotate q⁻¹ v = imaginary ((normSq q)⁻¹ • (star q * vector v * q)) := by
  rw [rotate, conj_inv]

end Cedric.QuaternionRotation
