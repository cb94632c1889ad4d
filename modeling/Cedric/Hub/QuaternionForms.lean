import Cedric.Hub.GravityDirection

/-!
# The normal form of `renormalize`

A rotation has two unit quaternions, and `renormalize` promises the one whose
scalar part is not negative. It chooses only where it divides: a quaternion
already within the tolerance keeps its sign. `mul` and `linInterp` end with
`renormalize` and inherit this, also where their arguments are one object.
-/

namespace Cedric.Hub

open QuaternionRotation

namespace Quaternion

section Memory
variable {F ι : Type} [DecidableEq ι] (m : ι → QuatData F)

def assign (p : ι) (f : QuatData F → QuatData F) : ι → QuatData F := Function.update m p (f (m p))

variable {m} {p : ι} {f g : QuatData F → QuatData F}

theorem assign_keeps {α : Type} (e : QuatData F → α) (hf : ∀ q, e (f q) = e q) (k : ι) :
    e (assign m p f k) = e (m k) := by
  rw [assign, Function.update_apply]
  split_ifs with hk
  · rw [hf, hk]
  · rfl

theorem assign_assign : assign (assign m p f) p g = assign m p (g ∘ f) := by
  rw [assign, assign, assign, Function.update_self, Function.update_idem]
  rfl

variable [FloatOps F] (m)

def mulAt (q q1 q2 : ι) : (ι → QuatData F) × ℤ :=
  let r := mul .zero (m q1) (m q2)
  let m := assign m q fun q => { q with a := r.1.a }
  let m := assign m q fun q => { q with b := r.1.b }
  let m := assign m q fun q => { q with c := r.1.c }
  let m := assign m q fun q => { q with d := r.1.d }
  (m, r.2)

/-- The four assignments of `linInterp`. Each component is read after those before it are
written. -/
def blendAt (out q1 q2 : ι) (alpha oneMinusAlpha : F) : ι → QuatData F :=
  let m := assign m out fun q => { q with a := alpha * (m q1).a + oneMinusAlpha * (m q2).a }
  let m := assign m out fun q => { q with b := alpha * (m q1).b + oneMinusAlpha * (m q2).b }
  let m := assign m out fun q => { q with c := alpha * (m q1).c + oneMinusAlpha * (m q2).c }
  assign m out fun q => { q with d := alpha * (m q1).d + oneMinusAlpha * (m q2).d }

/-- `1 - alpha`, with the sign of the shorter way. -/
def shortWay (q1 q2 : QuatData F) (alpha : F) : F :=
  let oneMinusAlpha := ofRat 1 - alpha
  let minusQ2 := { q2 with a := -q2.a, b := -q2.b, c := -q2.c, d := -q2.d }
  if FloatOps.lt (dist q1 minusQ2) (dist q1 q2) then -oneMinusAlpha else oneMinusAlpha

def linInterpAt (out q1 q2 : ι) (alpha : F) : (ι → QuatData F) × ℤ :=
  let m := blendAt m out q1 q2 alpha (shortWay (m q1) (m q2) alpha)
  (assign m out fun q => (renormalize q).1, (renormalize (m out)).2)

theorem renormalize_fields (q : QuatData F) (accuracy : F) (timestamp : ℤ) :
    renormalize { q with accuracy := accuracy, timestamp := timestamp } =
      ({ (renormalize q).1 with accuracy := accuracy, timestamp := timestamp },
        (renormalize q).2) := by
  simp only [renormalize]
  split_ifs <;> rfl

theorem mulAt_eq (q q1 q2 : ι) :
    mulAt m q q1 q2 = (Function.update m q (mul (m q) (m q1) (m q2)).1,
      (mul (m q) (m q1) (m q2)).2) := by
  have hmul : mul (m q) (m q1) (m q2) = ({ (mul .zero (m q1) (m q2)).1 with
      accuracy := (m q).accuracy, timestamp := (m q).timestamp }, (mul .zero (m q1) (m q2)).2) :=
    renormalize_fields (mulNoRenormalize .zero (m q1) (m q2)) _ _
  rw [mulAt, hmul]
  simp only [assign_assign]
  rfl

theorem blendAt_eq (out q1 q2 : ι) (alpha beta : F) :
    blendAt m out q1 q2 alpha beta = assign m out fun q => { q with
      a := alpha * (m q1).a + beta * (m q2).a
      b := alpha * (m q1).b + beta * (m q2).b
      c := alpha * (m q1).c + beta * (m q2).c
      d := alpha * (m q1).d + beta * (m q2).d } := by
  unfold blendAt
  extract_lets ma mb mc
  -- what is written through `out` is not read again
  have ha (k : ι) : (ma k).b = (m k).b := assign_keeps (·.b) (by intro q; rfl) k
  have hb (k : ι) : (mb k).c = (m k).c :=
    (assign_keeps (·.c) (by intro q; rfl) k).trans (assign_keeps (·.c) (by intro q; rfl) k)
  have hc (k : ι) : (mc k).d = (m k).d :=
    ((assign_keeps (·.d) (by intro q; rfl) k).trans
      (assign_keeps (·.d) (by intro q; rfl) k)).trans (assign_keeps (·.d) (by intro q; rfl) k)
  have hmb : mb = assign ma out fun q => { q with b := alpha * (m q1).b + beta * (m q2).b } := by
    simp only [mb, ha]
  have hmc : mc = assign mb out fun q => { q with c := alpha * (m q1).c + beta * (m q2).c } := by
    simp only [mc, hb]
  rw [hc, hc, hmc, hmb, assign_assign, assign_assign, assign_assign]
  rfl

theorem linInterpAt_eq (out q1 q2 : ι) (alpha : F) :
    linInterpAt m out q1 q2 alpha =
      (Function.update m out (linInterp (m out) (m q1) (m q2) alpha).1,
        (linInterp (m out) (m q1) (m q2) alpha).2) := by
  rw [linInterpAt, blendAt_eq, assign_assign]
  rw [assign, assign, Function.update_self]
  rfl

end Memory
end Quaternion

variable {F : Type} [RootField F]

structure NormalForm (x : Quaternion F) (r : QuatData F) : Prop where
  sameRotation : ∀ v, rotate r.toQuaternion v = rotate x v
  nearUnit : r.NearUnit
  scalar : 0 ≤ r.d

def Normalizes (x : Quaternion F) (r : QuatData F × ℤ) : Prop := r.2 = 0 → NormalForm x r.1

def SignRight (x : Quaternion F) : Prop :=
  1 - Quaternion.MAG_TOL ≤ Quaternion.normSq x → Quaternion.normSq x ≤ 1 + Quaternion.MAG_TOL →
    0 ≤ x.re

theorem signRight_iff (q : QuatData F) : SignRight q.toQuaternion ↔ (q.NearUnit → 0 ≤ q.d) := by
  rw [SignRight, QuatData.normSq_toQuaternion]
  exact and_imp.symm

namespace Quaternion

variable {q : QuatData F}

theorem copysignf_pos_iff {x : F} (hx : 0 < x) (y : F) : 0 ≤ y / copysignf x y := by
  change 0 ≤ y / if y < 0 then -|x| else |x|
  split_ifs with hy
  · exact (div_pos_of_neg_of_neg hy (neg_neg_of_pos (abs_pos.mpr hx.ne'))).le
  · exact div_nonneg (not_lt.mp hy) (abs_nonneg x)

theorem renormalize_divides (hok : MAG_TOL ≤ q.normSq) (hfar : ¬ q.NearUnit) :
    NormalForm q.toQuaternion (renormalize q).1 := by
  have hpos : 0 < q.normSq := MAG_TOL_pos.trans_le hok
  have hroot : 0 < RootField.sqrt q.normSq :=
    lt_of_le_of_ne (RootField.sqrt_nonneg _) fun h =>
      hpos.ne' ((RootField.sqrt_eq_zero_iff hpos.le).mp h.symm)
  let mag := copysignf (RootField.sqrt q.normSq) q.d
  have hmag : mag ≠ 0 := by
    intro hzero
    have hsq := copysignf_mul_self (RootField.sqrt q.normSq) q.d
    rw [RootField.mul_self_sqrt _ hpos.le] at hsq
    have hvanishes : copysignf (RootField.sqrt q.normSq) q.d = 0 := hzero
    rw [hvanishes, mul_zero] at hsq
    exact hpos.ne hsq
  have hdivides : (renormalize q).1 =
      { q with a := q.a / mag, b := q.b / mag, c := q.c / mag, d := q.d / mag } := by
    simp only [renormalize]
    split_ifs with hsmall hoff
    · exact absurd (of_decide_eq_true hsmall : q.normSq < MAG_TOL) (not_lt.mpr hok)
    · rfl
    · simp only [lt_eq, Bool.or_eq_true, decide_eq_true_eq, not_or, not_lt, ofRat_eq,
        Rat.cast_one] at hoff
      exact absurd ⟨hoff.2, hoff.1⟩ hfar
  refine ⟨fun v => ?_, renormalize_nearUnit q, ?_⟩
  · have hscaled : (renormalize q).1.toQuaternion = mag⁻¹ • q.toQuaternion := by
      rw [hdivides]
      ext <;> simp [div_eq_inv_mul]
    rw [hscaled, rotate_smul (inv_ne_zero hmag)]
  · rw [hdivides]
    exact copysignf_pos_iff hroot q.d

theorem renormalize_normalizes_iff (q : QuatData F) :
    Normalizes q.toQuaternion (renormalize q) ↔ SignRight q.toQuaternion := by
  rw [signRight_iff, Normalizes, renormalize_ok_iff]
  by_cases hnear : q.NearUnit
  · have hok : MAG_TOL ≤ q.normSq := by
      have hpos := NearUnit.pos hnear
      have htol := MAG_TOL_lt (F := F)
      linarith
    rw [renormalize_of_nearUnit hnear]
    exact ⟨fun h _ => (h hok).scalar, fun h _ => ⟨fun _ => rfl, hnear, h hnear⟩⟩
  · exact iff_of_true (fun hok => renormalize_divides hok hnear) fun h => absurd h hnear

def blend (q1 q2 : QuatData F) (alpha : F) : Quaternion F :=
  alpha • q1.toQuaternion + shortWay q1 q2 alpha • q2.toQuaternion

theorem mul_normalizes_iff (out q1 q2 : QuatData F) :
    Normalizes (q1.toQuaternion * q2.toQuaternion) (mul out q1 q2) ↔
      SignRight (q1.toQuaternion * q2.toQuaternion) := by
  rw [← QuatData.toQuaternion_mulNoRenormalize out]
  exact renormalize_normalizes_iff _

theorem linInterp_normalizes_iff (out q1 q2 : QuatData F) (alpha : F) :
    Normalizes (blend q1 q2 alpha) (linInterp out q1 q2 alpha) ↔
      SignRight (blend q1 q2 alpha) := by
  have hblend : blend q1 q2 alpha = QuatData.toQuaternion { out with
      a := alpha * q1.a + shortWay q1 q2 alpha * q2.a
      b := alpha * q1.b + shortWay q1 q2 alpha * q2.b
      c := alpha * q1.c + shortWay q1 q2 alpha * q2.c
      d := alpha * q1.d + shortWay q1 q2 alpha * q2.d } := by
    ext <;> simp [blend]
  rw [hblend]
  exact renormalize_normalizes_iff _

/-- The three operations return the normal form whenever they return 0, whichever of their
arguments are one object, exactly if what they normalize is not already a unit quaternion with
the wrong sign. -/
theorem normalizes_iff {ι : Type} [DecidableEq ι] (q : QuatData F) (m : ι → QuatData F)
    (out q1 q2 : ι) (alpha : F) :
    (Normalizes q.toQuaternion (renormalize q) ↔ SignRight q.toQuaternion) ∧
      (Normalizes ((m q1).toQuaternion * (m q2).toQuaternion)
          ((mulAt m out q1 q2).1 out, (mulAt m out q1 q2).2) ↔
        SignRight ((m q1).toQuaternion * (m q2).toQuaternion)) ∧
      (Normalizes (blend (m q1) (m q2) alpha)
          ((linInterpAt m out q1 q2 alpha).1 out, (linInterpAt m out q1 q2 alpha).2) ↔
        SignRight (blend (m q1) (m q2) alpha)) := by
  refine ⟨renormalize_normalizes_iff q, ?_, ?_⟩
  · simp only [mulAt_eq, Function.update_self]
    exact mul_normalizes_iff _ _ _
  · simp only [linInterpAt_eq, Function.update_self]
    exact linInterp_normalizes_iff _ _ _ _

/-- The unit quaternion `-1` is returned as it is. -/
theorem minus_one_not_normalized :
    ¬ Normalizes (⟨0, 0, 0, -1, 0, 0⟩ : QuatData ℝ).toQuaternion
      (renormalize (⟨0, 0, 0, -1, 0, 0⟩ : QuatData ℝ)) := by
  rw [renormalize_normalizes_iff, signRight_iff]
  intro h
  have hnear : (⟨0, 0, 0, -1, 0, 0⟩ : QuatData ℝ).NearUnit :=
    nearUnit_of_normSq _ (by simp [QuatData.normSq])
  exact absurd (h hnear) (by norm_num)

end Quaternion
end Cedric.Hub
