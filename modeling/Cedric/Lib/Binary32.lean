import Mathlib

/-!
# The order of finite single-precision numbers

Every finite `Float32` is an integer multiple of `2^-149`. Unpacking gives a
mantissa and an exponent in canonical form, where comparing first the exponents
and then the mantissas compares the numbers. So `<` and `abs` of finite numbers
are those of the rationals, with both zeros equal.
-/

namespace Cedric.Binary32

open Float.Model (UnpackedFloat)
open Float.Model.Format (binary32)
open Float.Model.UnpackedFloat

def units : UnpackedFloat → ℤ
  | .finite s m e _ => s.apply (m * 2 ^ (e + 149).toNat : ℕ)
  | _ => 0

/-- The finite numbers as unpacking gives them, with their stored fields. -/
inductive Canonical : UnpackedFloat → Prop
  | zero (s : Sign) : Canonical (.zero s)
  | subnormal (s : Sign) (f : BitVec 23) (hpos : 0 < f.toNat) :
      Canonical (.finite s f.toNat (-149) hpos)
  | normal (s : Sign) (E : BitVec 8) (f : BitVec 23) (hlow : E.toNat ≠ 0) (hhigh : E.toNat ≠ 255)
      (hpos : 0 < 2 ^ 23 + f.toNat) : Canonical (.finite s (2 ^ 23 + f.toNat) (E.toNat - 150) hpos)

theorem toNat_implicit (f : BitVec 23) : (1#1 ++ f).toNat = 2 ^ 23 + f.toNat := by
  rw [BitVec.toNat_append, ← Nat.shiftLeft_add_eq_or_of_lt f.isLt]
  rfl

theorem finite_congr {s : Sign} {m m' : ℕ} {e e' : ℤ} (hm : m = m') (he : e = e') (hpos : 0 < m)
    (hpos' : 0 < m') : UnpackedFloat.finite s m e hpos = .finite s m' e' hpos' := by
  subst hm he
  rfl

theorem canonical_unpack {b : BitVec 32} (h : (unpack binary32 b).isFinite = true) :
    Canonical (unpack binary32 b) := by
  rw [unpack] at h ⊢
  dsimp only at h ⊢
  split_ifs at h ⊢ with htop hinf hsub hzero
  · cases h
  · cases h
  · exact .zero _
  · rw [hsub]
    exact .subnormal _ _ _
  · have hlow (h0 : (@unpackExponent binary32 b).toNat = 0) : False :=
      hsub (BitVec.eq_of_toNat_eq h0)
    have hhigh (h0 : (@unpackExponent binary32 b).toNat = 255) : False :=
      htop (BitVec.eq_of_toNat_eq h0)
    rw [finite_congr (toNat_implicit _) rfl _ (Nat.add_pos_left (by decide) _)]
    exact .normal _ _ _ hlow hhigh _

theorem not_isNaNBits_packComponents {s : Sign} {E : BitVec 8} {f : BitVec 23} (hE : E ≠ -1#8) :
    isNaNBits (packComponents binary32 s E f) = false := by
  refine decide_eq_false fun h => hE ?_
  rw [← h.1, unpackExponent_packComponents]

theorem Canonical.exists_unpack {u : UnpackedFloat} (h : Canonical u) :
    ∃ b, isNaNBits b = false ∧ unpack binary32 b = u := by
  cases h with
  | zero s => exact ⟨packedZero binary32 s, not_isNaNBits_packComponents (by decide),
      unpack_packedZero⟩
  | subnormal s f hpos =>
    have hf : f ≠ 0#23 := by
      rintro rfl
      exact absurd hpos (by decide)
    refine ⟨packComponents binary32 s 0#8 f, not_isNaNBits_packComponents (by decide), ?_⟩
    simp only [unpack, unpackMantissa_packComponents, unpackExponent_packComponents,
      unpackSign_packComponents, Sign.ofBitVec_toBitVec]
    rw [if_neg (by decide), if_pos trivial, dif_neg hf]
    rfl
  | normal s E f hlow hhigh hpos =>
    have hzero : E ≠ 0#8 := by
      rintro rfl
      exact hlow rfl
    have htop : E ≠ -1#8 := by
      rintro rfl
      exact hhigh rfl
    refine ⟨packComponents binary32 s E f, not_isNaNBits_packComponents htop, ?_⟩
    simp only [unpack, unpackMantissa_packComponents, unpackExponent_packComponents,
      unpackSign_packComponents, Sign.ofBitVec_toBitVec]
    rw [if_neg htop, if_neg hzero]
    exact finite_congr (toNat_implicit f) rfl _ _

theorem unpack_pack {u : UnpackedFloat} (h : Canonical u) :
    unpack binary32 (pack binary32 u) = u := by
  obtain ⟨b, hb, rfl⟩ := h.exists_unpack
  rw [pack_unpack, hb, if_neg Bool.false_ne_true]

theorem compare_scaled {m₁ m₂ k₁ k₂ : ℕ} (h₁ : m₁ < 2 ^ 24) (h₂ : m₂ < 2 ^ 24)
    (hn₁ : 0 < k₁ → 2 ^ 23 ≤ m₁) (hn₂ : 0 < k₂ → 2 ^ 23 ≤ m₂) :
    (compare k₁ k₂).then (compare m₁ m₂) = compare (m₁ * 2 ^ k₁) (m₂ * 2 ^ k₂) := by
  have hlt {m m' k k' : ℕ} (hm : m < 2 ^ 24) (hn : 0 < k' → 2 ^ 23 ≤ m') (hk : k < k') :
      m * 2 ^ k < m' * 2 ^ k' := by
    calc m * 2 ^ k < 2 ^ 24 * 2 ^ k := Nat.mul_lt_mul_of_pos_right hm (Nat.two_pow_pos k)
      _ = 2 ^ 23 * 2 ^ (k + 1) := by ring
      _ ≤ 2 ^ 23 * 2 ^ k' := Nat.mul_le_mul_left _ (Nat.pow_le_pow_right (by decide) hk)
      _ ≤ m' * 2 ^ k' := Nat.mul_le_mul_right _ (hn (Nat.zero_lt_of_lt hk))
  rcases lt_trichotomy k₁ k₂ with hk | rfl | hk
  · rw [compare_lt_iff_lt.mpr hk, compare_lt_iff_lt.mpr (hlt h₁ hn₂ hk)]
    rfl
  · have hpow := Nat.two_pow_pos k₁
    rw [compare_eq_iff_eq.mpr rfl]
    rcases lt_trichotomy m₁ m₂ with hm | rfl | hm
    · rw [compare_lt_iff_lt.mpr hm, compare_lt_iff_lt.mpr (Nat.mul_lt_mul_of_pos_right hm hpow)]
      rfl
    · rw [compare_eq_iff_eq.mpr rfl, compare_eq_iff_eq.mpr rfl]
      rfl
    · rw [compare_gt_iff_gt.mpr hm, compare_gt_iff_gt.mpr (Nat.mul_lt_mul_of_pos_right hm hpow)]
      rfl
  · rw [compare_gt_iff_gt.mpr hk, compare_gt_iff_gt.mpr (hlt h₂ hn₁ hk)]
    rfl

theorem Canonical.bounds {s : Sign} {m : ℕ} {e : ℤ} {hpos : 0 < m}
    (h : Canonical (.finite s m e hpos)) :
    m < 2 ^ 24 ∧ -149 ≤ e ∧ (0 < (e + 149).toNat → 2 ^ 23 ≤ m) := by
  cases h with
  | subnormal _ f =>
    have hf := f.isLt
    omega
  | normal _ E f =>
    have hf := f.isLt
    omega

theorem compare_exponents {e₁ e₂ : ℤ} (h₁ : -149 ≤ e₁) (h₂ : -149 ≤ e₂) :
    compare e₁ e₂ = compare (e₁ + 149).toNat (e₂ + 149).toNat := by
  rcases lt_trichotomy e₁ e₂ with h | rfl | h
  · rw [compare_lt_iff_lt.mpr h, compare_lt_iff_lt.mpr (by omega)]
  · rw [compare_eq_iff_eq.mpr rfl, compare_eq_iff_eq.mpr rfl]
  · rw [compare_gt_iff_gt.mpr h, compare_gt_iff_gt.mpr (by omega)]

theorem compare_magnitudes {s₁ s₂ : Sign} {m₁ m₂ : ℕ} {e₁ e₂ : ℤ} {h₁ : 0 < m₁} {h₂ : 0 < m₂}
    (hu : Canonical (.finite s₁ m₁ e₁ h₁)) (hv : Canonical (.finite s₂ m₂ e₂ h₂)) :
    (compare e₁ e₂).then (compare m₁ m₂) =
      compare ((m₁ * 2 ^ (e₁ + 149).toNat : ℕ) : ℤ) ((m₂ * 2 ^ (e₂ + 149).toNat : ℕ) : ℤ) := by
  obtain ⟨hlt₁, hlow₁, hn₁⟩ := hu.bounds
  obtain ⟨hlt₂, hlow₂, hn₂⟩ := hv.bounds
  rw [compare_exponents hlow₁ hlow₂, compare_scaled hlt₁ hlt₂ hn₁ hn₂, ← cmp_eq_compare,
    ← cmp_eq_compare]
  exact ((Nat.strictMono_cast (α := ℤ)).cmp_map_eq _ _).symm

theorem compare_neg (a b : ℤ) : compare (-a) (-b) = (compare a b).swap := by
  rw [← cmp_eq_compare, ← cmp_eq_compare, cmp_swap]
  exact StrictAnti.cmp_map_eq (f := Neg.neg) (fun _ _ h => neg_lt_neg h) a b

theorem units_sign {m : ℕ} {e : ℤ} (h : 0 < m) :
    0 < units (.finite .positive m e h) ∧ units (.finite .negative m e h) < 0 := by
  have hpos : 0 < m * 2 ^ (e + 149).toNat := Nat.mul_pos h (Nat.two_pow_pos _)
  dsimp only [units, Sign.apply]
  omega

/-- IEEE comparison of finite numbers is comparison of their values. -/
theorem Canonical.compare_eq {u v : UnpackedFloat} (hu : Canonical u) (hv : Canonical v) :
    u.compare v = some (compare (units u) (units v)) := by
  have hless {a b : ℤ} (h : a < b) : some Ordering.lt = some (compare a b) :=
    congrArg some (compare_lt_iff_lt.mpr h).symm
  have hmore {a b : ℤ} (h : b < a) : some Ordering.gt = some (compare a b) :=
    congrArg some (compare_gt_iff_gt.mpr h).symm
  rcases u with _ | _ | _ | ⟨_ | _, m₁, e₁, h₁⟩
  · cases hu
  · cases hu
  all_goals rcases v with _ | _ | _ | ⟨_ | _, m₂, e₂, h₂⟩
  all_goals first | cases hv; done | skip
  · rfl
  · exact hmore (units_sign h₂).2
  · exact hless (units_sign h₂).1
  · exact hless (units_sign h₁).2
  · refine congrArg some ?_
    rw [compare_magnitudes hu hv, ← compare_neg]
    rfl
  · exact hless ((units_sign h₁).2.trans (units_sign h₂).1)
  · exact hmore (units_sign h₁).1
  · exact hmore ((units_sign h₂).2.trans (units_sign h₁).1)
  · exact congrArg some (compare_magnitudes hu hv)

def value (x : Float32) : ℤ := units x.toModel.unpack

def toRat (x : Float32) : ℚ := value x / 2 ^ 149

variable {x y : Float32}

theorem canonical (h : x.isFinite = true) : Canonical x.toModel.unpack := canonical_unpack h

theorem Canonical.isFinite {u : UnpackedFloat} (h : Canonical u) : u.isFinite = true := by
  cases h <;> rfl

theorem lt_iff_compare : x.lt y = true ↔ x.toModel.unpack.compare y.toModel.unpack = some .lt :=
  decide_eq_true_iff.trans beq_iff_eq

theorem lt_iff_value (hx : x.isFinite = true) (hy : y.isFinite = true) :
    x.lt y = true ↔ value x < value y := by
  rw [lt_iff_compare, (canonical hx).compare_eq (canonical hy), Option.some_inj]
  exact compare_lt_iff_lt

theorem toRat_lt_toRat : toRat x < toRat y ↔ value x < value y := by
  rw [toRat, toRat, div_lt_div_iff_of_pos_right (by positivity), Int.cast_lt]

theorem lt_iff (hx : x.isFinite = true) (hy : y.isFinite = true) :
    x.lt y = true ↔ toRat x < toRat y := (lt_iff_value hx hy).trans toRat_lt_toRat.symm

theorem unpack_ofModel {u : UnpackedFloat} (h : Canonical u) :
    (Float32.ofModel (.pack u)).toModel.unpack = u := unpack_pack h

theorem Canonical.abs {u : UnpackedFloat} (h : Canonical u) : Canonical u.abs := by
  cases h with
  | zero s => exact .zero _
  | subnormal s f hpos => exact .subnormal _ f hpos
  | normal s E f hlow hhigh hpos => exact .normal _ E f hlow hhigh hpos

theorem units_abs {u : UnpackedFloat} (h : Canonical u) : units u.abs = |units u| := by
  rcases u with _ | _ | _ | ⟨_ | _, m, e, hpos⟩
  · cases h
  · cases h
  · rfl
  · exact ((abs_of_neg (units_sign hpos).2).trans (neg_neg _)).symm
  · exact (abs_of_pos (units_sign hpos).1).symm

theorem abs_isFinite (h : x.isFinite = true) : x.abs.isFinite = true := by
  change x.abs.toModel.unpack.isFinite = true
  rw [Float32.abs, Float32.Model.abs, unpack_ofModel (canonical h).abs]
  exact (canonical h).abs.isFinite

theorem value_abs (h : x.isFinite = true) : value x.abs = |value x| := by
  rw [value, Float32.abs, Float32.Model.abs, unpack_ofModel (canonical h).abs,
    units_abs (canonical h)]
  rfl

theorem toRat_abs (h : x.isFinite = true) : toRat x.abs = |toRat x| := by
  rw [toRat, value_abs h, toRat, abs_div, Int.cast_abs]
  norm_num

end Cedric.Binary32
