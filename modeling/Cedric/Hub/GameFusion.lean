import Cedric.Hub.ExactFusion
import Cedric.Hub.PermSort

/-!
# The six-axis game algorithm over exact numbers

`permSort` finds a largest component of the accel sample, so an algorithm that
is not initialized fails exactly in free fall: the seed it takes for the east
vector is orthogonal to the sample and long enough. Once the vectors are found
they form a frame, and the step ends with a quaternion of norm close to 1.
-/

namespace Cedric.Hub

variable {F : Type} [RootField F]

def FreeFall (v : CartData F) : Prop := ∀ i, |v.vec i| ≤ ofRat 2 * FLT_EPSILON

namespace GameRotationVector

theorem FLT_MAX_pos : (0 : F) < FLT_MAX := by
  rw [FLT_MAX, ofRat_eq]
  exact Rat.cast_pos.mpr (by norm_num)

def Magnitude.exact : Magnitude F F where
  Finite _ := True
  of x := |x|
  lt_fabs := by
    intro x y _ _
    rw [lt_eq, fabs_eq, fabs_eq, decide_eq_true_eq]
  FLT_MAX_lt := by
    intro x _
    rw [lt_eq, fabs_eq, decide_eq_true_eq]
    exact (neg_lt_zero.mpr FLT_MAX_pos).trans_le (abs_nonneg x)

theorem permSort_largest (n : Fin 3 → F) (i : Fin 3) : |n i| ≤ |n ((permSort n).p 0)| :=
  Magnitude.permSort_largest (M := .exact) (fun _ => trivial) 0 i Fin.zero_le

def THRESHOLD : F := ofRat 2 * FLT_EPSILON

theorem THRESHOLD_pos : (0 : F) < THRESHOLD := by
  rw [THRESHOLD, FLT_EPSILON, ofRat_eq, ofRat_eq, ← Rat.cast_mul]
  exact Rat.cast_pos.mpr (by norm_num)

theorem freeFall_of_vec_eq_zero {v : CartData F} (h : ∀ i, v.vec i = 0) : FreeFall v := by
  intro i
  rw [h i, abs_zero]
  exact THRESHOLD_pos.le

theorem freeFall_zero : FreeFall (CartData.zero : CartData F) :=
  freeFall_of_vec_eq_zero fun i => by fin_cases i <;> simp [CartData.vec, CartData.zero]

theorem THRESHOLD_lt : (THRESHOLD : F) < 1 := by
  rw [THRESHOLD, FLT_EPSILON, ofRat_eq, ofRat_eq]
  norm_num

namespace State

variable (st : State F)

def cleared (reset : Bool) : State F :=
  if reset then { st with gis := { st.gis with initialized := false }, initialized := false } else st

def up : Fin 3 → F := fun i => st.nRaw i / sqrtf (sumSquares st.nRaw)

def east : Fin 3 → F := fun i =>
  st.h i - dot3 st.h st.up * st.up i

def Aligns (n : Fin 3 → F) : Prop :=
  (st.sample n).2 = true ∧ THRESHOLD ≤ sqrtf (sumSquares (st.sample n).1.nRaw) ∧
    THRESHOLD ≤ sqrtf (sumSquares (st.sample n).1.east)

theorem sample_initialized (n : Fin 3 → F) : (st.sample n).1.initialized = (st.sample n).2 := by
  simp only [sample]
  split_ifs with hi hle
  · exact hi
  · exact Bool.eq_false_of_not_eq_true hi
  · rfl

theorem sample_gis (n : Fin 3 → F) : (st.sample n).1.gis = st.gis := by
  simp only [sample]
  split_ifs <;> rfl

variable {st}

theorem sample_freeFall_iff (hst : st.initialized = false) (v : CartData F) :
    (st.sample v.vec).2 = false ↔ FreeFall v := by
  rw [sample, hst]
  simp only [Bool.false_eq_true, ↓reduceIte, le_eq, fabs_eq, decide_eq_true_eq]
  split_ifs with hle
  · exact iff_of_true rfl fun i => (permSort_largest v.vec i).trans hle
  · exact iff_of_false (by decide) fun h => hle (h _)

theorem sample_seed (hst : st.initialized = false) {n : Fin 3 → F}
    (hok : (st.sample n).2 = true) :
    (st.sample n).1.nRaw = n ∧ THRESHOLD < |n ((permSort n).p 0)| ∧
      (st.sample n).1.h ((permSort n).p 2) = 1 ∧ (st.sample n).1.h ((permSort n).p 1) = 1 ∧
      (st.sample n).1.h ((permSort n).p 0) =
        -(n ((permSort n).p 2) + n ((permSort n).p 1)) / n ((permSort n).p 0) := by
  have hinj := permSort_injective n
  have h01 : (permSort n).p 0 ≠ (permSort n).p 1 := fun h => absurd (hinj h) (by decide)
  have h02 : (permSort n).p 0 ≠ (permSort n).p 2 := fun h => absurd (hinj h) (by decide)
  have h12 : (permSort n).p 1 ≠ (permSort n).p 2 := fun h => absurd (hinj h) (by decide)
  rw [sample, hst] at hok ⊢
  simp only [Bool.false_eq_true, ↓reduceIte, le_eq, fabs_eq, decide_eq_true_eq] at hok ⊢
  split_ifs at hok ⊢ with hle
  refine ⟨rfl, not_le.mp hle, ?_, ?_, ?_⟩
  · simp [Function.update_of_ne h02.symm, Function.update_of_ne h12.symm]
  · simp [Function.update_of_ne h01.symm]
  · simp

theorem sum_perm {p : Fin 3 → Fin 3} (hp : Function.Injective p) (f : Fin 3 → F) :
    f (p 0) + f (p 1) + f (p 2) = f 0 + f 1 + f 2 := by
  have hsum := (Equiv.ofBijective p (Finite.injective_iff_bijective.mp hp)).sum_comp f
  rw [Fin.sum_univ_three, Fin.sum_univ_three] at hsum
  exact hsum

theorem threshold_le_sqrt {x : F} (h : THRESHOLD * THRESHOLD ≤ x) : THRESHOLD ≤ sqrtf x :=
  RootField.le_sqrt h

theorem aligns_iff (hst : st.initialized = false) (v : CartData F) :
    st.Aligns v.vec ↔ ¬ FreeFall v := by
  rw [← sample_freeFall_iff hst v, Bool.not_eq_false]
  refine ⟨fun h => h.1, fun hok => ⟨hok, ?_, ?_⟩⟩
  all_goals
    obtain ⟨hraw, hlarge, h2, h1, h0⟩ := sample_seed hst hok
    have hinj := permSort_injective v.vec
    have hT := THRESHOLD_pos (F := F)
    have hT1 := THRESHOLD_lt (F := F)
    generalize (permSort v.vec).p = p at hlarge h2 h1 h0 hinj
    generalize (st.sample v.vec).1 = t at hraw h2 h1 h0 ⊢
    generalize v.vec = n at hraw hlarge h2 h1 h0
    subst hraw
    apply threshold_le_sqrt
  · have hsum := sum_perm hinj fun i => t.nRaw i * t.nRaw i
    have hsq := mul_self_lt_mul_self hT.le hlarge
    rw [abs_mul_abs_self] at hsq
    have hn1 := mul_self_nonneg (t.nRaw (p 1))
    have hn2 := mul_self_nonneg (t.nRaw (p 2))
    rw [sumSquares]
    linarith
  · have hne : t.nRaw (p 0) ≠ 0 := by
      intro hzero
      rw [hzero, abs_zero] at hlarge
      exact absurd hlarge (not_lt.mpr hT.le)
    have horth : t.h 0 * t.nRaw 0 + t.h 1 * t.nRaw 1 + t.h 2 * t.nRaw 2 = 0 := by
      rw [← sum_perm hinj fun i => t.h i * t.nRaw i, h0, h1, h2]
      field_simp
      ring
    have hproj : t.h 0 * t.up 0 + t.h 1 * t.up 1 + t.h 2 * t.up 2 = 0 := by
      simp only [up]
      rw [← mul_div_assoc, ← mul_div_assoc, ← mul_div_assoc, ← add_div, ← add_div, horth, zero_div]
    have heast : t.east = t.h := by
      funext i
      rw [east, dot3, hproj, zero_mul, sub_zero]
    have hsum := sum_perm hinj fun i => t.h i * t.h i
    rw [h1, h2] at hsum
    have hh0 := mul_self_nonneg (t.h (p 0))
    have hTT : (THRESHOLD : F) * THRESHOLD ≤ 1 * 1 := mul_self_le_mul_self hT.le hT1.le
    rw [heast, sumSquares]
    linarith

end State

def State.unitEast (t : State F) : Fin 3 → F := fun i => t.east i / sqrtf (sumSquares t.east)

theorem frame_of_norms {t : State F} (hn : THRESHOLD ≤ sqrtf (sumSquares t.nRaw))
    (he : THRESHOLD ≤ sqrtf (sumSquares t.east)) :
    Frame t.unitEast (Quaternion.cross3 t.up t.unitEast) t.up where
  hh := normalized (THRESHOLD_pos.trans_le he).ne'
  nn := normalized (THRESHOLD_pos.trans_le hn).ne'
  nh := by
    have hup : t.up 0 * t.up 0 + t.up 1 * t.up 1 + t.up 2 * t.up 2 = 1 :=
      normalized (THRESHOLD_pos.trans_le hn).ne'
    have horth : t.up 0 * t.east 0 + t.up 1 * t.east 1 + t.up 2 * t.east 2 = 0 := by
      simp only [State.east, dot3]
      linear_combination -(t.h 0 * t.up 0 + t.h 1 * t.up 1 + t.h 2 * t.up 2) * hup
    simp only [State.unitEast]
    rw [← mul_div_assoc, ← mul_div_assoc, ← mul_div_assoc, ← add_div, ← add_div, horth, zero_div]
  m0 := rfl
  m1 := rfl
  m2 := rfl

def State.framed (t : State F) (rot : QuatData F) : QuatData F :=
  Quaternion.ofRotation rot t.unitEast (Quaternion.cross3 t.up t.unitEast) t.up

def State.finish (t : State F) (gyro : CartData F) (rot : QuatData F) : State F × QuatData F × Bool :=
  let integrated := GyroIntegration.integrate t.gis (t.framed rot) (t.framed rot) gyro
  let qx : QuatData F := ⟨ofRat 1, ofRat 0, ofRat 0, ofRat 0, ofRat 0, 0⟩
  let qEast := Quaternion.inv .zero integrated.2
  let qx := (Quaternion.mul qx qx integrated.2).1
  let qEast := Quaternion.mulNoRenormalize qEast qEast qx
  ({ t with gis := integrated.1, h := ![qEast.a, qEast.b, qEast.c] }, integrated.2, true)

theorem fuse_eq (st : State F) (accel gyro : CartData F) (rot : QuatData F) (reset : Bool) :
    fuse st accel gyro rot reset =
      let sampled := (st.cleared reset).sample accel.vec
      let t := sampled.1
      let rot := { rot with timestamp := gyro.timestamp }
      if !sampled.2 then (t, rot, false)
      else if FloatOps.lt (sqrtf (sumSquares t.nRaw)) THRESHOLD then (t, rot, false)
      else if FloatOps.lt (sqrtf (sumSquares t.east)) THRESHOLD then
        ({ t with h := t.east }, rot, false)
      else t.finish gyro rot := rfl

theorem fuse_aligned {st : State F} {accel : CartData F} {reset : Bool}
    (ha : (st.cleared reset).Aligns accel.vec) (gyro : CartData F) (rot : QuatData F) :
    fuse st accel gyro rot reset = ((st.cleared reset).sample accel.vec).1.finish gyro
      { rot with timestamp := gyro.timestamp } := by
  obtain ⟨hok, hn, he⟩ := ha
  rw [fuse_eq]
  simp only [hok, lt_eq, not_lt.mpr hn, not_lt.mpr he, decide_false, Bool.not_true,
    Bool.false_eq_true, ↓reduceIte]

theorem fuse_not_aligned {st : State F} {accel : CartData F} {reset : Bool}
    (ha : ¬ (st.cleared reset).Aligns accel.vec) (gyro : CartData F) (rot : QuatData F) :
    (fuse st accel gyro rot reset).2 = ({ rot with timestamp := gyro.timestamp }, false) ∧
      (fuse st accel gyro rot reset).1.gis = (st.cleared reset).gis ∧
      (fuse st accel gyro rot reset).1.initialized =
        ((st.cleared reset).sample accel.vec).1.initialized := by
  have hgis := (st.cleared reset).sample_gis accel.vec
  rw [fuse_eq]
  dsimp only
  split_ifs with hok hn he
  · exact ⟨rfl, hgis, rfl⟩
  · exact ⟨rfl, hgis, rfl⟩
  · exact ⟨rfl, hgis, rfl⟩
  · rw [Bool.not_eq_true, Bool.not_eq_false'] at hok
    simp only [lt_eq, decide_eq_true_eq, not_lt] at hn he
    exact absurd ⟨hok, hn, he⟩ ha

theorem finish_pos (t : State F) (gyro : CartData F) (rot : QuatData F) :
    0 < (t.finish gyro rot).2.1.normSq := by
  obtain ⟨delta, -, hcase⟩ :=
    GyroIntegration.integrate_cases t.gis (t.framed rot) (t.framed rot) gyro
  rcases hcase with ⟨-, -, hout⟩ | ⟨-, -, -, hnear⟩
  · have hone := Quaternion.one_le_normSq_ofRotation rot t.unitEast
      (Quaternion.cross3 t.up t.unitEast) t.up
    change 0 < (GyroIntegration.integrate t.gis (t.framed rot) (t.framed rot) gyro).2.normSq
    rw [hout]
    exact lt_of_lt_of_le one_pos hone
  · have hhalf := Quaternion.NearUnit.pos hnear
    change 0 < (GyroIntegration.integrate t.gis (t.framed rot) (t.framed rot) gyro).2.normSq
    linarith

end GameRotationVector
end Cedric.Hub
