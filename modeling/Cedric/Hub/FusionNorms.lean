import Cedric.Hub.GravityMagnitude

/-!
# The norms of the fused quaternions

The geomagnetic quaternion is zero until its algorithm first gets through and
has norm 1 from then on. The gyro integrators keep their quaternion close to
unit norm and stop exactly if they start on the zero quaternion. `FusionInv`
says so of every state of a run.
-/

namespace Cedric.Hub

open Runs

variable {F : Type} [RootField F]

namespace GeoMagRotationVector

/-- The magnetic east vector of the filtered samples is long enough to be normalized. -/
def State.Computes (st : State F) (accel mag : CartData F) : Prop :=
  ofRat 0.1 ≤ sqrtf (sumSquares (Quaternion.cross3 (st.sample accel.vec mag.vec).mRaw
    (st.sample accel.vec mag.vec).nRaw))

theorem fuse_stopped {st : State F} {accel mag : CartData F} (hc : ¬ st.Computes accel mag)
    (rot : QuatData F) :
    (fuse st accel mag rot false).2.1 = { rot with timestamp := accel.timestamp } := by
  have hlt : FloatOps.lt (sqrtf (sumSquares (Quaternion.cross3
      (st.sample accel.vec mag.vec).mRaw (st.sample accel.vec mag.vec).nRaw))) (ofRat 0.1) = true :=
    decide_eq_true (not_le.mp hc)
  simp only [fuse, hlt, Bool.false_eq_true, ↓reduceIte]

theorem fuse_computed {st : State F} {accel mag : CartData F} (hc : st.Computes accel mag)
    (rot : QuatData F) : (fuse st accel mag rot false).2.1.normSq = 1 := by
  have hlt : FloatOps.lt (sqrtf (sumSquares (Quaternion.cross3
      (st.sample accel.vec mag.vec).mRaw (st.sample accel.vec mag.vec).nRaw))) (ofRat 0.1) = false :=
    decide_eq_false (not_lt.mpr hc)
  have hpos : (0 : F) < ofRat 0.1 := by
    rw [ofRat_eq]
    exact Rat.cast_pos.mpr (by norm_num)
  have hh := (hpos.trans_le hc).ne'
  simp only [fuse, hlt, Bool.false_eq_true, ↓reduceIte]
  refine Quaternion.normSq_ofRotation_frame _ ?_
  generalize (st.sample accel.vec mag.vec).mRaw = m at hh ⊢
  generalize (st.sample accel.vec mag.vec).nRaw = n at hh ⊢
  have hn : sqrtf (sumSquares n) ≠ 0 := by
    intro hzero
    apply hh
    have hsum := (RootField.sqrt_eq_zero_iff (sumSquares_nonneg n)).mp hzero
    have h0 := mul_self_nonneg (n 0)
    have h1 := mul_self_nonneg (n 1)
    have h2 := mul_self_nonneg (n 2)
    rw [sumSquares] at hsum
    have hn0 : n 0 = 0 := mul_self_eq_zero.mp (by linarith)
    have hn1 : n 1 = 0 := mul_self_eq_zero.mp (by linarith)
    have hn2 : n 2 = 0 := mul_self_eq_zero.mp (by linarith)
    have hcross : sumSquares (Quaternion.cross3 m n) = 0 := by
      simp [sumSquares, Quaternion.cross3, hn0, hn1, hn2]
    rw [hcross]
    exact RootField.sqrt_zero
  have horth : n 0 * Quaternion.cross3 m n 0 + n 1 * Quaternion.cross3 m n 1 +
      n 2 * Quaternion.cross3 m n 2 = 0 := by
    simp only [Quaternion.cross3, Matrix.cons_val]
    ring
  refine ⟨normalized hh, normalized hn, ?_, rfl, rfl, rfl⟩
  rw [div_mul_div_comm, div_mul_div_comm, div_mul_div_comm, ← add_div, ← add_div, horth, zero_div]

end GeoMagRotationVector

namespace GyroIntegration

/-- The stored quaternion of an initialized integrator is close to unit norm. -/
def State.Good (gis : State F) : Prop := gis.initialized = true → gis.quatGyro.NearUnit

theorem integrate_good {gis : State F} (hg : gis.Good) {rvIn : QuatData F}
    (hin : rvIn.normSq = 0 ∨ rvIn.normSq = 1) (rvOut : QuatData F) (gyro : CartData F) :
    (integrate gis rvOut rvIn gyro).1.Good ∧
      ((integrate gis rvOut rvIn gyro).1.initialized = true ↔
        gis.initialized = true ∨ rvIn.normSq = 1) ∧
      ((integrate gis rvOut rvIn gyro).1.initialized = true →
        (integrate gis rvOut rvIn gyro).2.NearUnit) := by
  obtain ⟨delta, hdelta, hcase⟩ := integrate_cases gis rvOut rvIn gyro
  have hstart : gis.initialized = true ∨ rvIn.normSq = 1 ↔ (gis.base rvIn).NearUnit := by
    rw [State.base]
    cases hi : gis.initialized with
    | true => exact iff_of_true (Or.inl rfl) (hg hi)
    | false =>
      simp only [Bool.false_eq_true, false_or, ↓reduceIte]
      constructor
      · exact Quaternion.nearUnit_of_normSq rvIn
      · intro hnear
        have hhalf := Quaternion.NearUnit.pos hnear
        rcases hin with hzero | hone
        · rw [hzero] at hhalf
          norm_num at hhalf
        · exact hone
  rw [hstart]
  rcases hcase with ⟨hsmall, hinit, hout⟩ | ⟨hlarge, hinit, hquat, hnear⟩
  · have hbad : ¬ (gis.base rvIn).NearUnit := by
      intro hb
      have hok := Quaternion.mul_ok (q := delta) hb hdelta
      rw [Quaternion.mul_ok_iff] at hok
      exact absurd hok (not_le_of_gt hsmall)
    have hfalse (h : (integrate gis rvOut rvIn gyro).1.initialized = true) : False := by
      rw [hinit] at h
      cases h
    exact ⟨fun h => (hfalse h).elim, iff_of_false hfalse hbad, fun h => (hfalse h).elim⟩
  · refine ⟨fun _ => hquat ▸ hnear, iff_of_true hinit ?_, fun _ => hnear⟩
    rw [← hstart]
    rcases hin with hzero | hone
    · left
      by_contra hoff
      have hb : gis.base rvIn = rvIn := if_neg hoff
      rw [hb, hzero, zero_mul] at hlarge
      exact absurd hlarge (not_le_of_gt Quaternion.MAG_TOL_pos)
    · exact Or.inr hone

end GyroIntegration
namespace RotationVector

theorem fuse_good {gis : GyroIntegration.State F} (hg : gis.Good) {geoMag : QuatData F}
    (hin : geoMag.normSq = 0 ∨ geoMag.normSq = 1) (gyro : CartData F) (rot : QuatData F)
    (reset : Bool) :
    (fuse gis gyro geoMag rot reset).1.Good ∧
      ((fuse gis gyro geoMag rot reset).1.initialized = true ↔
        (reset = false ∧ gis.initialized = true) ∨ geoMag.normSq = 1) ∧
      ((fuse gis gyro geoMag rot reset).1.initialized = true →
        (fuse gis gyro geoMag rot reset).2.NearUnit) := by
  cases reset with
  | false =>
    obtain ⟨hgood, hiff, hnear⟩ := GyroIntegration.integrate_good hg hin rot gyro
    refine ⟨hgood, ?_, hnear⟩
    rw [eq_self, true_and]
    exact hiff
  | true =>
    have hcleared : ({ gis with initialized := false } : GyroIntegration.State F).Good :=
      fun h => absurd h Bool.false_ne_true
    obtain ⟨hgood, hiff, hnear⟩ := GyroIntegration.integrate_good hcleared hin rot gyro
    refine ⟨hgood, ?_, hnear⟩
    exact hiff.trans (or_congr_left (by simp))

end RotationVector

namespace GameRotationVector

theorem fuse_good {st : State F} (hg : st.gis.Good) (accel gyro : CartData F) (rot : QuatData F)
    (reset : Bool) :
    (fuse st accel gyro rot reset).1.gis.Good ∧
      ((st.cleared reset).Aligns accel.vec → (fuse st accel gyro rot reset).2.2 = true ∧
        (fuse st accel gyro rot reset).1.gis.initialized = true ∧
        (fuse st accel gyro rot reset).2.1.NearUnit) := by
  have hcleared : (st.cleared reset).gis.Good := by
    rw [State.cleared]
    split_ifs
    · exact fun h => absurd h Bool.false_ne_true
    · exact hg
  by_cases ha : (st.cleared reset).Aligns accel.vec
  · obtain ⟨-, hn, he⟩ := id ha
    rw [fuse_aligned ha]
    rw [← (st.cleared reset).sample_gis accel.vec] at hcleared
    generalize ((st.cleared reset).sample accel.vec).1 = t at hn he hcleared ⊢
    have hframed : (t.framed { rot with timestamp := gyro.timestamp }).normSq = 1 :=
      Quaternion.normSq_ofRotation_frame _ (frame_of_norms hn he)
    obtain ⟨hgood, hiff, hnear⟩ := GyroIntegration.integrate_good hcleared (Or.inr hframed)
      (t.framed { rot with timestamp := gyro.timestamp }) gyro
    have hinit := hiff.mpr (Or.inr hframed)
    exact ⟨hgood, fun _ => ⟨rfl, hinit, hnear hinit⟩⟩
  · obtain ⟨-, hgis, -⟩ := fuse_not_aligned ha gyro rot
    rw [hgis]
    exact ⟨hcleared, fun h => absurd h ha⟩

theorem fuse_ready_iff (st : State F) (accel gyro : CartData F) (rot : QuatData F) (reset : Bool) :
    (fuse st accel gyro rot reset).2.2 = true ↔ (st.cleared reset).Aligns accel.vec := by
  by_cases ha : (st.cleared reset).Aligns accel.vec
  · rw [fuse_aligned ha]
    exact iff_of_true rfl ha
  · obtain ⟨hout, -, -⟩ := fuse_not_aligned ha gyro rot
    rw [hout]
    exact iff_of_false Bool.false_ne_true ha

end GameRotationVector

namespace HubSensors

variable {s t : HubSensors F}

def geomagCall (s : HubSensors F) : Input → Option (CartData F)
  | .record b =>
    if b.type = .DT_ACCEL ∧ s.nineAxisRunning = true then some (b.cart 0 CONVERT_A) else none
  | _ => none

def computedAfter (s : HubSensors F) (computed : Prop) (i : Input) : Prop :=
  computed ∨ ∃ accel, s.geomagCall i = some accel ∧ s.mGeomagRV.Computes accel s.mFusionData.mag

/-- What a step does to the quaternions and the integrators of the nine-axis algorithms. -/
structure NineStep (s t : HubSensors F) (i : Input) : Prop where
  geomag : t.mFusionData.geoMagRotation = match s.geomagCall i with
    | some accel => (GeoMagRotationVector.fuse s.mGeomagRV accel s.mFusionData.mag
        s.mFusionData.geoMagRotation false).2.1
    | none => s.mFusionData.geoMagRotation
  rotation : t.mRotationVect = s.mRotationVect ∨ ∃ gyro rot reset,
    t.mRotationVect =
      (RotationVector.fuse s.mRotationVect gyro s.mFusionData.geoMagRotation rot reset).1

theorem onGyro_nine {b : SensorData} (hb : b.type = .DT_GYRO) :
    NineStep s (s.onGyro b).1 (.record b) := by
  have hcall : s.geomagCall (.record b) = none := if_neg fun h => absurd (hb ▸ h.1) (by decide)
  obtain ⟨hrot, hgeo, -, -, -, -⟩ := gyroGame_nine (s := s.storeGyro b)
  have hstep (u : HubSensors F) : u.gyroRotation.1.mFusionData.geoMagRotation =
      u.mFusionData.geoMagRotation ∧ (u.gyroRotation.1.mRotationVect = u.mRotationVect ∨
        ∃ gyro rot reset, u.gyroRotation.1.mRotationVect =
          (RotationVector.fuse u.mRotationVect gyro u.mFusionData.geoMagRotation rot reset).1) := by
    simp only [gyroRotation]
    split_ifs
    · exact ⟨rfl, Or.inr ⟨_, _, _, rfl⟩⟩
    · exact ⟨rfl, Or.inl rfl⟩
  obtain ⟨hgeo', hrot'⟩ := hstep (s.storeGyro b).gyroGame.1
  rw [hrot, hgeo] at hrot'
  refine ⟨?_, hrot'⟩
  rw [hcall]
  exact hgeo'.trans hgeo

theorem onAccel_nine {b : SensorData} (hb : b.type = .DT_ACCEL) :
    NineStep s (s.onAccel b).1 (.record b) := by
  rw [onAccel_state]
  cases hrun : s.nineAxisRunning with
  | true =>
    have hcall : s.geomagCall (.record b) = some (b.cart 0 CONVERT_A) := if_pos ⟨hb, hrun⟩
    refine ⟨?_, Or.inl rfl⟩
    rw [hcall]
    rfl
  | false =>
    have hcall : s.geomagCall (.record b) = none :=
      if_neg fun h => absurd h.2 (by rw [hrun]; exact Bool.false_ne_true)
    refine ⟨?_, Or.inl rfl⟩
    rw [hcall]
    rfl

theorem resets_nine {x : SensorHandle} {en : ℤ}
    (h : t.algo = (s.setFlag x (decide (en ≠ 0))).resetNineAxis.resetSixAxis.algo) :
    NineStep s t (.setEnable x en) := by
  have hrot : t.mRotationVect =
      (s.setFlag x (decide (en ≠ 0))).resetNineAxis.resetSixAxis.mRotationVect :=
    congrArg (fun u => u.mRotationVect) h
  have hdata : t.mFusionData =
      (s.setFlag x (decide (en ≠ 0))).resetNineAxis.resetSixAxis.mFusionData :=
    congrArg (fun u => u.mFusionData) h
  have hflag : (s.setFlag x (decide (en ≠ 0))).mRotationVect = s.mRotationVect := by
    rw [setFlag]
    cases x.fusionIndex <;> rfl
  have hflagData := (setFlag_data (s := s) x (decide (en ≠ 0))).2
  generalize s.setFlag x (decide (en ≠ 0)) = u at hrot hdata hflag hflagData
  have hsix (v : HubSensors F) : v.resetSixAxis.mRotationVect = v.mRotationVect ∧
      v.resetSixAxis.mFusionData.geoMagRotation = v.mFusionData.geoMagRotation := by
    rw [resetSixAxis]
    split_ifs <;> exact ⟨rfl, rfl⟩
  have hnine : u.resetNineAxis.mFusionData.geoMagRotation = u.mFusionData.geoMagRotation ∧
      (u.resetNineAxis.mRotationVect = u.mRotationVect ∨ ∃ gyro rot reset,
        u.resetNineAxis.mRotationVect =
          (RotationVector.fuse u.mRotationVect gyro u.mFusionData.geoMagRotation rot reset).1) := by
    rw [resetNineAxis]
    split_ifs
    · exact ⟨rfl, Or.inl rfl⟩
    · exact ⟨rfl, Or.inr ⟨_, _, _, rfl⟩⟩
    · exact ⟨rfl, Or.inl rfl⟩
  rw [hflag, hflagData] at hnine
  rw [(hsix _).1] at hrot
  constructor
  · rw [hdata, (hsix _).2]
    exact hnine.1
  · rw [hrot]
    exact hnine.2

theorem next_nine (H : Stml0xxHeader) (K : Kernel) (list : List SensorT) (i : Input) :
    NineStep s (s.next H K list i) i := by
  have hstep := next_algo (s := s) H K list i
  generalize s.next H K list i = t at hstep ⊢
  cases hstep with
  | idle hi h =>
    refine ⟨?_, Or.inl (congrArg (fun u => u.mRotationVect) h)⟩
    have hcall : s.geomagCall i = none := by
      cases i with
      | record b =>
        refine if_neg fun hb => ?_
        rw [Input.movesAlgo, hb.1] at hi
        cases hi
      | _ => rfl
    rw [hcall]
    exact congrArg (fun u => u.mFusionData.geoMagRotation) h
  | enable hx h => exact resets_nine h
  | accel hb h => exact h ▸ onAccel_nine hb
  | gyro hb h => exact h ▸ onGyro_nine hb
  | @mag b hb h =>
    have hcall : s.geomagCall (.record b) = none := by
      refine if_neg fun ha => ?_
      rcases hb with hb | hb <;> exact absurd (hb ▸ ha.1) (by decide)
    subst h
    refine ⟨?_, Or.inl rfl⟩
    rw [hcall]
    rfl

/-- The geomagnetic quaternion is zero until it was computed and has norm 1 from then on,
and the integrators are good. -/
structure FusionInv (s : HubSensors F) (computed : Prop) : Prop where
  zero : ¬ computed → s.mFusionData.geoMagRotation.normSq = 0
  unit : computed → s.mFusionData.geoMagRotation.normSq = 1
  rotation : s.mRotationVect.Good
  started : s.mRotationVect.initialized = true → computed
  game : s.mGameRV.gis.Good

theorem FusionInv.geomag {computed : Prop} (h : s.FusionInv computed) :
    s.mFusionData.geoMagRotation.normSq = 0 ∨ s.mFusionData.geoMagRotation.normSq = 1 := by
  by_cases hc : computed
  · exact Or.inr (h.unit hc)
  · exact Or.inl (h.zero hc)

theorem FusionInv.unit_iff {computed : Prop} (h : s.FusionInv computed) :
    s.mFusionData.geoMagRotation.normSq = 1 ↔ computed := by
  refine ⟨fun hone => ?_, h.unit⟩
  by_contra hc
  rw [h.zero hc] at hone
  exact zero_ne_one hone

theorem fusionInv_start (flags16 : Option (BitVec 16)) (flags24 : Option (BitVec 32)) :
    (HubSensors.start flags16 flags24 : HubSensors F).FusionInv False where
  zero _ := QuatData.normSq_zero
  unit h := h.elim
  rotation h := absurd h Bool.false_ne_true
  started h := absurd h Bool.false_ne_true
  game h := absurd h Bool.false_ne_true

theorem FusionInv.step {computed : Prop} (h : s.FusionInv computed) {i : Input}
    (hnine : NineStep s t i) (hgame : GameStep s t (s.gameCall i)) :
    t.FusionInv (s.computedAfter computed i) := by
  have hrot : t.mRotationVect.Good ∧ (t.mRotationVect.initialized = true → computed) := by
    rcases hnine.rotation with hsame | ⟨gyro, rot, reset, hfuse⟩
    · rw [hsame]
      exact ⟨h.rotation, h.started⟩
    · obtain ⟨hgood, hiff, -⟩ := RotationVector.fuse_good h.rotation h.geomag gyro rot reset
      rw [hfuse]
      refine ⟨hgood, fun hinit => ?_⟩
      rcases hiff.mp hinit with hold | hone
      · exact h.started hold.2
      · exact h.unit_iff.mp hone
  have hgis : t.mGameRV.gis.Good := by
    cases hcall : s.gameCall i with
    | none =>
      rw [hcall] at hgame
      rw [hgame.1]
      exact h.game
    | some call =>
      rw [hcall] at hgame
      rw [hgame.1]
      exact (GameRotationVector.fuse_good h.game _ _ _ _).1
  have hgeo := hnine.geomag
  cases hcall : s.geomagCall i with
  | none =>
    rw [hcall] at hgeo
    have hsame : s.computedAfter computed i ↔ computed := by
      simp [computedAfter, hcall]
    refine ⟨fun hc => ?_, fun hc => ?_, hrot.1, fun hi => hsame.mpr (hrot.2 hi), hgis⟩
    · rw [hgeo]
      exact h.zero fun hold => hc (hsame.mpr hold)
    · rw [hgeo]
      exact h.unit (hsame.mp hc)
  | some accel =>
    rw [hcall] at hgeo
    refine ⟨fun hc => ?_, fun hc => ?_, hrot.1, fun hi => Or.inl (hrot.2 hi), hgis⟩
    · have hstop : ¬ s.mGeomagRV.Computes accel s.mFusionData.mag :=
        fun hcomp => hc (Or.inr ⟨accel, hcall, hcomp⟩)
      rw [hgeo]
      dsimp only
      rw [GeoMagRotationVector.fuse_stopped hstop]
      exact h.zero fun hold => hc (Or.inl hold)
    · rw [hgeo]
      dsimp only
      by_cases hcomp : s.mGeomagRV.Computes accel s.mFusionData.mag
      · exact GeoMagRotationVector.fuse_computed hcomp _
      · have hold : computed := by
          rcases hc with hold | ⟨accel', hcall', hcomp'⟩
          · exact hold
          · rw [hcall] at hcall'
            exact absurd (Option.some.inj hcall' ▸ hcomp') hcomp
        rw [GeoMagRotationVector.fuse_stopped hcomp]
        exact h.unit hold

end HubSensors
end Cedric.Hub
