import Cedric.Hub.GameFusion

/-!
# Two copies of the six-axis game algorithm

`State.Same` relates states that behave alike from now on: an algorithm that is
not initialized forgets its vectors, and an integrator that is not initialized
forgets its quaternion up to the accuracy, which no step writes. Related states
fuse alike. A reset forgets the state before it, but it goes on to fuse the
stored samples, and what it makes of them is all that is left afterwards.
-/

namespace Cedric.Hub

/-- Equal but for the time, which a fusion step overwrites. -/
structure QuatData.Same {F : Type} (q q' : QuatData F) : Prop where
  a : q.a = q'.a
  b : q.b = q'.b
  c : q.c = q'.c
  d : q.d = q'.d
  accuracy : q.accuracy = q'.accuracy

theorem QuatData.Same.stamped {F : Type} {q q' : QuatData F} (h : q.Same q') (t : ℤ) :
    { q with timestamp := t } = { q' with timestamp := t } := by
  rw [h.a, h.b, h.c, h.d, h.accuracy]

namespace GyroIntegration

variable {F : Type}

structure State.Same (gis gis' : State F) : Prop where
  initialized : gis.initialized = gis'.initialized
  quatGyro : gis.initialized = true → gis.quatGyro = gis'.quatGyro
  accuracy : gis.quatGyro.accuracy = gis'.quatGyro.accuracy

variable [FloatOps F]

def State.restart (gis : State F) (rvIn : QuatData F) : State F :=
  if gis.initialized then gis
  else ⟨true, { rvIn with accuracy := gis.quatGyro.accuracy }⟩

theorem integrate_restart (gis : State F) (rvOut rvIn : QuatData F) (gyro : CartData F) :
    integrate gis rvOut rvIn gyro = integrate (gis.restart rvIn) rvOut rvIn gyro := by
  obtain ⟨initialized, quatGyro⟩ := gis
  cases initialized <;> rfl

theorem integrate_same {gis gis' : State F} (h : gis.Same gis') (rvOut rvIn : QuatData F)
    (gyro : CartData F) : integrate gis rvOut rvIn gyro = integrate gis' rvOut rvIn gyro := by
  have hstart : gis.restart rvIn = gis'.restart rvIn := by
    rw [State.restart, State.restart, ← h.initialized, ← h.accuracy]
    cases hi : gis.initialized with
    | false => rfl
    | true =>
      have hq := h.quatGyro hi
      have hi' := h.initialized.symm.trans hi
      cases gis
      cases gis'
      simp_all
  rw [integrate_restart, hstart, ← integrate_restart]

theorem renormalize_accuracy (q : QuatData F) :
    (Quaternion.renormalize q).1.accuracy = q.accuracy := by
  simp only [Quaternion.renormalize]
  split_ifs <;> rfl

theorem integrate_accuracy (gis : State F) (rvOut rvIn : QuatData F) (gyro : CartData F) :
    (integrate gis rvOut rvIn gyro).1.quatGyro.accuracy = gis.quatGyro.accuracy ∧
      ((integrate gis rvOut rvIn gyro).2.accuracy = rvOut.accuracy ∨
        (integrate gis rvOut rvIn gyro).2.accuracy = gis.quatGyro.accuracy) := by
  unfold integrate
  extract_lets kept start dt quatGyro gyroMag moving gyroNorm gyroX gyroY gyroZ halfTheta
    sinHalfTheta quatGyroDelta product nineAxisFilter fused
  have hstart : quatGyro.accuracy = gis.quatGyro.accuracy := by
    unfold quatGyro start
    split_ifs <;> rfl
  have hproduct : product.1.accuracy = gis.quatGyro.accuracy :=
    (renormalize_accuracy _).trans hstart
  have hfused : fused.accuracy = gis.quatGyro.accuracy :=
    (renormalize_accuracy _).trans hproduct
  split_ifs
  · exact ⟨hproduct, Or.inl rfl⟩
  · exact ⟨hfused, Or.inr hfused⟩

end GyroIntegration

namespace GameRotationVector

variable {F : Type}

structure State.Same (st st' : State F) : Prop where
  gis : st.gis.Same st'.gis
  initialized : st.initialized = st'.initialized
  nRaw : st.initialized = true → st.nRaw = st'.nRaw
  h : st.initialized = true → st.h = st'.h

variable {st st' : State F}

theorem State.Same.cleared (hs : st.Same st') (reset : Bool) :
    (st.cleared reset).Same (st'.cleared reset) := by
  cases reset with
  | false => exact hs
  | true =>
    exact ⟨⟨rfl, fun h => absurd h Bool.false_ne_true, hs.gis.accuracy⟩, rfl,
      fun h => absurd h Bool.false_ne_true, fun h => absurd h Bool.false_ne_true⟩

variable [RootField F]

theorem State.sample_h (hst : st.initialized = false) (hst' : st'.initialized = false)
    {n : Fin 3 → F} (hok : (st.sample n).2 = true) (hok' : (st'.sample n).2 = true) :
    (st.sample n).1.h = (st'.sample n).1.h := by
  obtain ⟨-, -, h2, h1, h0⟩ := State.sample_seed hst hok
  obtain ⟨-, -, h2', h1', h0'⟩ := State.sample_seed hst' hok'
  funext i
  obtain ⟨j, hj⟩ := Finite.injective_iff_surjective.mp (permSort_injective n) i
  rw [← hj]
  fin_cases j
  · exact h0.trans h0'.symm
  · exact h1.trans h1'.symm
  · exact h2.trans h2'.symm

theorem State.Same.sample (hs : st.Same st') (n : Fin 3 → F) :
    (st.sample n).2 = (st'.sample n).2 ∧ (st.sample n).1.Same (st'.sample n).1 := by
  have hgis : (st.sample n).1.gis.Same (st'.sample n).1.gis := by
    rw [State.sample_gis, State.sample_gis]
    exact hs.gis
  cases hi : st.initialized with
  | true =>
    have hi' : st'.initialized = true := hs.initialized.symm.trans hi
    have hn := hs.nRaw hi
    have hh := hs.h hi
    simp only [State.sample, hi, hi', ↓reduceIte] at hgis ⊢
    exact ⟨trivial, hgis, rfl, fun _ => congrArg (sixAxisFilter n) hn, fun _ => hh⟩
  | false =>
    have hi' : st'.initialized = false := hs.initialized.symm.trans hi
    have hok : (st.sample n).2 = (st'.sample n).2 := by
      simp only [State.sample, hi, hi', Bool.false_eq_true, ↓reduceIte]
      split_ifs <;> rfl
    refine ⟨hok, hgis, ?_, fun h => ?_, fun h => ?_⟩
    · rw [State.sample_initialized, State.sample_initialized, hok]
    · rw [State.sample_initialized] at h
      exact (State.sample_seed hi h).1.trans (State.sample_seed hi' (hok ▸ h)).1.symm
    · rw [State.sample_initialized] at h
      exact State.sample_h hi hi' h (hok ▸ h)

theorem State.Same.finish {t t' : State F} (hs : t.Same t') (hi : t.initialized = true)
    (gyro : CartData F) {rot rot' : QuatData F} (ht : rot.timestamp = rot'.timestamp) :
    (t.finish gyro rot).1.Same (t'.finish gyro rot').1 ∧
      (t.finish gyro rot).2 = (t'.finish gyro rot').2 := by
  have hup : t.up = t'.up := by
    funext i
    rw [State.up, State.up, hs.nRaw hi]
  have heast : t.east = t'.east := by
    funext i
    rw [State.east, State.east, hs.h hi, hup]
  have hunit : t.unitEast = t'.unitEast := by
    funext i
    rw [State.unitEast, State.unitEast, heast]
  have hframed : t.framed rot = t'.framed rot' := by
    rw [State.framed, State.framed, hup, hunit]
    simp only [Quaternion.ofRotation, ht]
  have hint := GyroIntegration.integrate_same hs.gis (t.framed rot) (t.framed rot) gyro
  rw [State.finish, State.finish, ← hframed, ← hint]
  exact ⟨⟨⟨rfl, fun _ => rfl, rfl⟩, hs.initialized, hs.nRaw, fun _ => rfl⟩, rfl⟩

theorem fuse_same (hs : st.Same st') {rot rot' : QuatData F} (hrot : rot.Same rot')
    (accel gyro : CartData F) (reset : Bool) :
    (fuse st accel gyro rot reset).1.Same (fuse st' accel gyro rot' reset).1 ∧
      (fuse st accel gyro rot reset).2 = (fuse st' accel gyro rot' reset).2 := by
  obtain ⟨hok, hsample⟩ := (hs.cleared reset).sample accel.vec
  have hinit := (st.cleared reset).sample_initialized accel.vec
  rw [fuse_eq, fuse_eq, hrot.stamped]
  dsimp only
  rw [← hok]
  generalize ((st.cleared reset).sample accel.vec).2 = ok at hinit ⊢
  generalize ((st.cleared reset).sample accel.vec).1 = t at hsample hinit ⊢
  generalize ((st'.cleared reset).sample accel.vec).1 = t' at hsample ⊢
  cases ok with
  | false => exact ⟨hsample, rfl⟩
  | true =>
    have hraw := hsample.nRaw hinit
    have heast : t.east = t'.east := by
      funext i
      simp only [State.east, dot3, State.up, hraw, hsample.h hinit]
    rw [← hraw, ← heast]
    simp only [Bool.not_true, Bool.false_eq_true, ↓reduceIte]
    split_ifs
    · exact ⟨hsample, rfl⟩
    · exact ⟨⟨hsample.gis, hsample.initialized, fun _ => rfl, fun _ => rfl⟩, rfl⟩
    · exact hsample.finish hinit gyro rfl

theorem fuse_accuracy {rot : QuatData F} (hst : st.gis.quatGyro.accuracy = ofRat 0)
    (hrot : rot.accuracy = ofRat 0) (accel gyro : CartData F) (reset : Bool) :
    (fuse st accel gyro rot reset).1.gis.quatGyro.accuracy = ofRat 0 ∧
      (fuse st accel gyro rot reset).2.1.accuracy = ofRat 0 := by
  have hclear : (st.cleared reset).gis.quatGyro.accuracy = ofRat 0 := by
    cases reset <;> exact hst
  by_cases ha : (st.cleared reset).Aligns accel.vec
  · rw [fuse_aligned ha]
    rw [← (st.cleared reset).sample_gis accel.vec] at hclear
    generalize ((st.cleared reset).sample accel.vec).1 = t at hclear ⊢
    obtain ⟨hquat, hout⟩ := GyroIntegration.integrate_accuracy t.gis
      (t.framed { rot with timestamp := gyro.timestamp })
      (t.framed { rot with timestamp := gyro.timestamp }) gyro
    exact ⟨hquat.trans hclear, hout.elim id fun h => h.trans hclear⟩
  · obtain ⟨hout, hgis, -⟩ := fuse_not_aligned ha gyro rot
    rw [hout, hgis]
    exact ⟨hclear, hrot⟩

/-- What a reset finds stored: the two samples and the output so far. -/
structure Stored (F : Type) where
  accel : CartData F
  gyro : CartData F
  rot : QuatData F

/-- Two resets that leave the same behind: both fail in free fall and keep the same output,
or both fuse the same samples. -/
def Stored.Alike (r r' : Stored F) : Prop :=
  (FreeFall r.accel ∧ FreeFall r'.accel ∧ r.rot.Same r'.rot) ∨
    (¬ FreeFall r.accel ∧ r.accel.vec = r'.accel.vec ∧ r.gyro = r'.gyro)

theorem fuse_freeFall {r : Stored F} (hr : FreeFall r.accel) (st : State F) :
    (fuse st r.accel r.gyro r.rot true).2.1 = { r.rot with timestamp := r.gyro.timestamp } ∧
      (fuse st r.accel r.gyro r.rot true).1.initialized = false ∧
      (fuse st r.accel r.gyro r.rot true).1.gis = (st.cleared true).gis := by
  have hna : ¬ (st.cleared true).Aligns r.accel.vec := fun h => (State.aligns_iff rfl _).mp h hr
  obtain ⟨hout, hgis, hinit⟩ := fuse_not_aligned hna r.gyro r.rot
  refine ⟨by rw [hout], hinit.trans ?_, hgis⟩
  rw [State.sample_initialized]
  exact (State.sample_freeFall_iff rfl r.accel).mpr hr

theorem fuse_alike {r r' : Stored F} (h : r.Alike r')
    (hacc : st.gis.quatGyro.accuracy = st'.gis.quatGyro.accuracy) :
    (fuse st r.accel r.gyro r.rot true).1.Same (fuse st' r'.accel r'.gyro r'.rot true).1 ∧
      (fuse st r.accel r.gyro r.rot true).2.1.Same
        (fuse st' r'.accel r'.gyro r'.rot true).2.1 := by
  have hclear : (st.cleared true).Same (st'.cleared true) :=
    ⟨⟨rfl, fun h => absurd h Bool.false_ne_true, hacc⟩, rfl,
      fun h => absurd h Bool.false_ne_true, fun h => absurd h Bool.false_ne_true⟩
  rcases h with ⟨hr, hr', hrot⟩ | ⟨hr, hvec, hgyro⟩
  · obtain ⟨hout, hinit, hgis⟩ := fuse_freeFall hr st
    obtain ⟨hout', hinit', hgis'⟩ := fuse_freeFall hr' st'
    have hoff (h : (fuse st r.accel r.gyro r.rot true).1.initialized = true) : False := by
      rw [hinit] at h
      cases h
    refine ⟨⟨?_, hinit.trans hinit'.symm, fun h => (hoff h).elim, fun h => (hoff h).elim⟩, ?_⟩
    · rw [hgis, hgis']
      exact hclear.gis
    · rw [hout, hout']
      exact ⟨hrot.a, hrot.b, hrot.c, hrot.d, hrot.accuracy⟩
  · have hr' : ¬ FreeFall r'.accel := by
      simp only [FreeFall, hvec] at hr ⊢
      exact hr
    have hoff : (st.cleared true).initialized = false := rfl
    have hoff' : (st'.cleared true).initialized = false := rfl
    have ha := (State.aligns_iff hoff r.accel).mpr hr
    have ha' := (State.aligns_iff hoff' r'.accel).mpr hr'
    obtain ⟨-, hsample⟩ := hclear.sample r.accel.vec
    have hinit : ((st.cleared true).sample r.accel.vec).1.initialized = true := by
      rw [State.sample_initialized]
      exact ha.1
    rw [fuse_aligned ha, fuse_aligned ha', ← hvec, ← hgyro]
    have htime : ({ r.rot with timestamp := r.gyro.timestamp } : QuatData F).timestamp =
        ({ r'.rot with timestamp := r.gyro.timestamp } : QuatData F).timestamp := rfl
    obtain ⟨hstate, hout⟩ := hsample.finish hinit r.gyro htime
    rw [hout]
    exact ⟨hstate, rfl, rfl, rfl, rfl, rfl⟩

end GameRotationVector
end Cedric.Hub
