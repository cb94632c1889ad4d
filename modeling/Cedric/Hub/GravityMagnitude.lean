import Cedric.Hub.FusionSteps
import Cedric.Hub.GameFusion

/-!
# The division in `LinearAccelGravity`

Gravity is divided by the magnitude of a quaternion that is zero exactly if
`gameRotation` is. `gameRotation` starts at zero and stays there until a call of
`GameRotationVector::processFusion` finds an accel sample out of free fall; its
result is ignored, so until then gravity is divided by zero.
-/

namespace Cedric.Hub

open Runs

variable {F : Type}

namespace HubSensors

variable {s t : HubSensors F}

section
variable [FloatOps F]

/-- The gyro sample and the reset flag of the `GameRotationVector` call that the step makes. -/
def gameCall (s : HubSensors F) : Input → Option (CartData F × Bool)
  | .record b =>
    if b.type = .DT_GYRO ∧ s.sixAxisRunning = true then some (b.cart 0 CONVERT_G, false) else none
  | .setEnable x en =>
    if x.isNonWake = true ∧ (s.setFlag x (decide (en ≠ 0))).sixAxisRunning = false then
      some (s.mFusionData.gyro, true)
    else none
  | _ => none

def GameStep (s t : HubSensors F) : Option (CartData F × Bool) → Prop
  | some (gyro, reset) =>
    let r := GameRotationVector.fuse s.mGameRV s.mFusionData.accel gyro
      s.mFusionData.gameRotation reset
    t.mGameRV = r.1 ∧ t.mFusionData.gameRotation = r.2.1
  | none => t.mGameRV = s.mGameRV ∧ t.mFusionData.gameRotation = s.mFusionData.gameRotation

theorem gyroGame_game {u : HubSensors F} (hu : u.sixAxisRunning = true) :
    u.gyroGame.1.mGameRV = u.fuseGame.mGameRV ∧
      u.gyroGame.1.mFusionData.gameRotation = u.fuseGame.mFusionData.gameRotation := by
  have hrun : u.enabled .GAME_RV || u.enabled .LINEAR_ACCEL || u.enabled .GRAVITY := hu
  simp only [gyroGame]
  rw [if_pos hrun]
  split_ifs <;> exact ⟨rfl, rfl⟩

theorem gyroRotation_game : s.gyroRotation.1.mGameRV = s.mGameRV ∧
    s.gyroRotation.1.mFusionData.gameRotation = s.mFusionData.gameRotation := by
  simp only [gyroRotation]
  split_ifs <;> exact ⟨rfl, rfl⟩

theorem onGyro_game {b : SensorData} (hb : b.type = .DT_GYRO) :
    GameStep s (s.onGyro b).1 (s.gameCall (.record b)) := by
  obtain ⟨hrot, hout⟩ := gyroRotation_game (s := (s.storeGyro b).gyroGame.1)
  cases hrun : s.sixAxisRunning with
  | true =>
    have hcall : s.gameCall (.record b) = some (b.cart 0 CONVERT_G, false) := if_pos ⟨hb, hrun⟩
    obtain ⟨hgame, hgameOut⟩ := gyroGame_game (u := s.storeGyro b) hrun
    rw [hcall]
    exact ⟨hrot.trans hgame, hout.trans hgameOut⟩
  | false =>
    have hcall : s.gameCall (.record b) = none :=
      if_neg fun h => absurd h.2 (by rw [hrun]; exact Bool.false_ne_true)
    have hoff : ¬ ((s.storeGyro b).enabled .GAME_RV || (s.storeGyro b).enabled .LINEAR_ACCEL ||
        (s.storeGyro b).enabled .GRAVITY) = true := Bool.not_eq_true _ ▸ hrun
    have hskip : (s.storeGyro b).gyroGame = (s.storeGyro b, []) := by
      simp only [gyroGame]
      exact if_neg hoff
    rw [hcall]
    exact ⟨hrot.trans (by rw [hskip]; rfl), hout.trans (by rw [hskip]; rfl)⟩

theorem resetNineAxis_game : s.resetNineAxis.mGameRV = s.mGameRV ∧
    s.resetNineAxis.mFusionData.accel = s.mFusionData.accel ∧
    s.resetNineAxis.mFusionData.gyro = s.mFusionData.gyro ∧
    s.resetNineAxis.mFusionData.gameRotation = s.mFusionData.gameRotation ∧
    s.resetNineAxis.enabled = s.enabled := by
  rw [resetNineAxis]
  split_ifs <;> exact ⟨rfl, rfl, rfl, rfl, rfl⟩

omit [FloatOps F] in
theorem setFlag_data (h : SensorHandle) (newState : Bool) :
    (s.setFlag h newState).mGameRV = s.mGameRV ∧
      (s.setFlag h newState).mFusionData = s.mFusionData := by
  rw [setFlag]
  cases h.fusionIndex with
  | none => exact ⟨rfl, rfl⟩
  | some i => exact ⟨rfl, rfl⟩

theorem resets_game {x : SensorHandle} {en : ℤ} (hx : x.isNonWake = true)
    (h : t.algo = (s.setFlag x (decide (en ≠ 0))).resetNineAxis.resetSixAxis.algo) :
    GameStep s t (s.gameCall (.setEnable x en)) := by
  have hgame : t.mGameRV = (s.setFlag x (decide (en ≠ 0))).resetNineAxis.resetSixAxis.mGameRV :=
    congrArg (fun u => u.mGameRV) h
  have hout : t.mFusionData =
      (s.setFlag x (decide (en ≠ 0))).resetNineAxis.resetSixAxis.mFusionData :=
    congrArg (fun u => u.mFusionData) h
  obtain ⟨hflag, hdata⟩ := setFlag_data (s := s) x (decide (en ≠ 0))
  rw [gameCall]
  generalize s.setFlag x (decide (en ≠ 0)) = u at hgame hout hflag hdata ⊢
  obtain ⟨hnine, haccel, hgyro, hrot, henabled⟩ := resetNineAxis_game (s := u)
  rw [hflag] at hnine
  rw [hdata] at haccel hgyro hrot
  have hrunning : u.resetNineAxis.sixAxisRunning = u.sixAxisRunning := by
    rw [sixAxisRunning, sixAxisRunning, henabled]
  generalize u.resetNineAxis = v at hgame hout hnine haccel hgyro hrot hrunning
  have hguard : (!v.enabled .GAME_RV && !v.enabled .LINEAR_ACCEL && !v.enabled .GRAVITY) =
      !v.sixAxisRunning := by
    rw [sixAxisRunning, Bool.not_or, Bool.not_or]
  rw [resetSixAxis, hguard, hrunning] at hgame hout
  cases hrun : u.sixAxisRunning with
  | true =>
    rw [hrun] at hgame hout
    rw [if_neg fun h => absurd h.2 (by decide)]
    exact ⟨hgame.trans hnine, (congrArg (fun d => d.gameRotation) hout).trans hrot⟩
  | false =>
    rw [hrun] at hgame hout
    rw [if_pos ⟨hx, rfl⟩]
    have hfuse : GameRotationVector.fuse v.mGameRV v.mFusionData.accel v.mFusionData.gyro
        v.mFusionData.gameRotation true =
      GameRotationVector.fuse s.mGameRV s.mFusionData.accel s.mFusionData.gyro
        s.mFusionData.gameRotation true := by
      rw [hnine, haccel, hgyro, hrot]
    exact ⟨hgame.trans (congrArg (fun r => r.1) hfuse),
      (congrArg (fun d => d.gameRotation) hout).trans (congrArg (fun r => r.2.1) hfuse)⟩

theorem next_game (H : Stml0xxHeader) (K : Kernel) (list : List SensorT) (i : Input) :
    GameStep s (s.next H K list i) (s.gameCall i) := by
  have hstep := next_algo (s := s) H K list i
  generalize s.next H K list i = t at hstep ⊢
  have hidle (hcall : s.gameCall i = none) (hgame : t.mGameRV = s.mGameRV)
      (hout : t.mFusionData.gameRotation = s.mFusionData.gameRotation) :
      GameStep s t (s.gameCall i) := by
    rw [hcall]
    exact ⟨hgame, hout⟩
  have hrecord {b : SensorData} (hb : b.type ≠ .DT_GYRO) : s.gameCall (.record b) = none :=
    if_neg fun h => hb h.1
  cases hstep with
  | idle hi h =>
    refine hidle ?_ (congrArg (fun u => u.mGameRV) h)
      (congrArg (fun u => u.mFusionData.gameRotation) h)
    cases i with
    | setEnable x en =>
      change x.isNonWake = false at hi
      exact if_neg fun h => absurd h.1 (by rw [hi]; exact Bool.false_ne_true)
    | record b =>
      refine hrecord fun hb => ?_
      rw [Input.movesAlgo, hb] at hi
      cases hi
    | setDelay x ns => rfl
    | readEnd type => rfl
  | enable hx h => exact resets_game hx h
  | gyro hb h => exact h ▸ onGyro_game hb
  | @accel b hb h =>
    refine hidle (hrecord (by rw [hb]; decide)) ?_ ?_
    · rw [h]
      simp only [onAccel]
      split_ifs <;> rfl
    · rw [h]
      simp only [onAccel]
      split_ifs <;> rfl
  | @mag b hb h =>
    refine hidle (hrecord ?_) (by rw [h]; rfl) (by rw [h]; rfl)
    rcases hb with hb | hb
    · rw [hb]
      decide
    · rw [hb]
      decide

end
end HubSensors

namespace LinearAccelGravity

variable [FloatOps F]

def gravityQuat (rot : QuatData F) : QuatData F :=
  let qz : QuatData F := ⟨ofRat 0, ofRat 0, ofRat 1, ofRat 0, ofRat 0, 0⟩
  let qGrav : QuatData F := ⟨ofRat 0, ofRat 0, ofRat 0, ofRat 1, ofRat 0, 0⟩
  let qGrav := Quaternion.inv qGrav rot
  let qz := (Quaternion.mul qz qz rot).1
  Quaternion.mulNoRenormalize qGrav qGrav qz

def magnitude (rot : QuatData F) : F :=
  let qGrav := gravityQuat rot
  sqrtf (qGrav.a * qGrav.a + qGrav.b * qGrav.b + qGrav.c * qGrav.c + qGrav.d * qGrav.d)

theorem fuse_magnitude (accel : CartData F) (rot : QuatData F) :
    (fuse accel rot).1 = ⟨((gravityQuat rot).a / magnitude rot) * GRAVITY_EARTH,
      ((gravityQuat rot).b / magnitude rot) * GRAVITY_EARTH,
      ((gravityQuat rot).c / magnitude rot) * GRAVITY_EARTH, rot.timestamp⟩ := rfl

end LinearAccelGravity

section Exact
variable {F : Type} [RootField F]

theorem LinearAccelGravity.normSq_gravityQuat (rot : QuatData F) :
    ∃ qz : QuatData F, qz.NearUnit ∧ (gravityQuat rot).normSq = rot.normSq * qz.normSq := by
  let z : QuatData F := ⟨ofRat 0, ofRat 0, ofRat 1, ofRat 0, ofRat 0, 0⟩
  refine ⟨(Quaternion.mul z z rot).1, Quaternion.renormalize_nearUnit _, ?_⟩
  exact (Quaternion.normSq_mulNoRenormalize _ _ _).trans
    (congrArg (· * _) (Quaternion.normSq_inv rot _))

theorem LinearAccelGravity.magnitude_eq_zero_iff (rot : QuatData F) :
    magnitude rot = 0 ↔ rot.normSq = 0 := by
  obtain ⟨qz, hnear, hsq⟩ := normSq_gravityQuat rot
  have hqz : qz.normSq ≠ 0 := ((by norm_num : (0 : F) < 1 / 2).trans
    (Quaternion.NearUnit.pos hnear)).ne'
  have hmag : magnitude rot = RootField.sqrt (gravityQuat rot).normSq := rfl
  rw [hmag, RootField.sqrt_eq_zero_iff (QuatData.normSq_nonneg _), hsq, mul_eq_zero]
  exact or_iff_left hqz

/-- While the output is zero the algorithm is not initialized, and then a call makes it
nonzero exactly if the accel sample is out of free fall. -/
theorem GameRotationVector.fuse_seed {st : State F} {rot : QuatData F}
    (hinv : rot.normSq = 0 → st.initialized = false) (accel gyro : CartData F) (reset : Bool) :
    ((fuse st accel gyro rot reset).2.1.normSq ≠ 0 ↔ rot.normSq ≠ 0 ∨ ¬ FreeFall accel) ∧
      ((fuse st accel gyro rot reset).2.1.normSq = 0 →
        (fuse st accel gyro rot reset).1.initialized = false) := by
  have hcleared (hzero : rot.normSq = 0) : (st.cleared reset).initialized = false := by
    rw [State.cleared]
    split_ifs
    · rfl
    · exact hinv hzero
  by_cases ha : (st.cleared reset).Aligns accel.vec
  · have hpos := (finish_pos ((st.cleared reset).sample accel.vec).1 gyro
      { rot with timestamp := gyro.timestamp }).ne'
    rw [fuse_aligned ha]
    refine ⟨iff_of_true hpos ?_, fun h => absurd h hpos⟩
    by_cases hzero : rot.normSq = 0
    · exact Or.inr ((State.aligns_iff (hcleared hzero) accel).mp ha)
    · exact Or.inl hzero
  · obtain ⟨hout, -, hinit⟩ := fuse_not_aligned ha gyro rot
    have hsame : (fuse st accel gyro rot reset).2.1.normSq = rot.normSq := by
      rw [hout]
      rfl
    rw [hsame, hinit]
    constructor
    · refine ⟨Or.inl, fun h => h.elim id fun hfall hzero => ?_⟩
      exact ha ((State.aligns_iff (hcleared hzero) accel).mpr hfall)
    · intro hzero
      have hfall := not_not.mp fun h => ha ((State.aligns_iff (hcleared hzero) accel).mpr h)
      rw [State.sample_initialized]
      exact (State.sample_freeFall_iff (hcleared hzero) accel).mpr hfall

namespace HubSensors

variable {s : HubSensors F}

/-- Whenever the record makes `LinearAccelGravity` run, its divisor is not zero. -/
def DivisorNonzero (s : HubSensors F) : Input → Prop
  | .record b => b.type = .DT_GYRO →
      (s.enabled .LINEAR_ACCEL || s.enabled .GRAVITY) = true →
      let rot := (s.storeGyro b).fuseGame.mFusionData.gameRotation
      rot.normSq ≠ 0 ∧ LinearAccelGravity.magnitude rot ≠ 0
  | _ => True

/-- Some call of `GameRotationVector::processFusion` so far was made with a stored accel
sample out of free fall. -/
def seededAfter (s : HubSensors F) (seeded : Prop) (i : Input) : Prop :=
  seeded ∨ (s.gameCall i).isSome = true ∧ ¬ FreeFall s.mFusionData.accel

/-- `LinearAccelGravity` runs after such a call only, the call for the same record included. -/
def Seeded (p : HubSensors F × Prop) : Input → Prop
  | .record b => b.type = .DT_GYRO →
      (p.1.enabled .LINEAR_ACCEL || p.1.enabled .GRAVITY) = true →
      p.1.seededAfter p.2 (.record b)
  | _ => True

structure SeedInv (s : HubSensors F) (seeded : Prop) : Prop where
  nonzero : s.mFusionData.gameRotation.normSq ≠ 0 ↔ seeded
  fresh : s.mFusionData.gameRotation.normSq = 0 → s.mGameRV.initialized = false

theorem seedInv_start (flags16 : Option (BitVec 16)) (flags24 : Option (BitVec 32)) :
    (HubSensors.start flags16 flags24 : HubSensors F).SeedInv False :=
  ⟨iff_of_false (not_not.mpr QuatData.normSq_zero) not_false, fun _ => rfl⟩

theorem SeedInv.step {seeded : Prop} (h : s.SeedInv seeded) {t : HubSensors F} (i : Input)
    (hstep : GameStep s t (s.gameCall i)) : t.SeedInv (s.seededAfter seeded i) := by
  rw [seededAfter]
  cases hcall : s.gameCall i with
  | none =>
    rw [hcall] at hstep
    obtain ⟨hgame, hout⟩ := hstep
    refine ⟨?_, by rw [hgame, hout]; exact h.fresh⟩
    rw [hout, h.nonzero]
    simp
  | some call =>
    obtain ⟨gyro, reset⟩ := call
    rw [hcall] at hstep
    obtain ⟨hgame, hout⟩ := hstep
    obtain ⟨hiff, hfresh⟩ :=
      GameRotationVector.fuse_seed h.fresh s.mFusionData.accel gyro reset
    refine ⟨?_, by rw [hgame, hout]; exact hfresh⟩
    rw [hout, hiff, h.nonzero]
    simp

theorem SeedInv.divisor_iff {seeded : Prop} (h : s.SeedInv seeded) (i : Input) :
    s.DivisorNonzero i ↔ Seeded (s, seeded) i := by
  cases i with
  | record b =>
    refine forall_congr' fun hb => forall_congr' fun hon => ?_
    have hrun : s.sixAxisRunning = true := by
      rw [sixAxisRunning, Bool.or_assoc, hon, Bool.or_true]
    have hcall : s.gameCall (.record b) = some (b.cart 0 CONVERT_G, false) := if_pos ⟨hb, hrun⟩
    have hstep : GameStep s (s.storeGyro b).fuseGame (s.gameCall (.record b)) := by
      rw [hcall]
      exact ⟨rfl, rfl⟩
    simp only [ne_eq, LinearAccelGravity.magnitude_eq_zero_iff, and_self]
    exact (h.step _ hstep).nonzero
  | _ => exact Iff.rfl

end HubSensors

/-- `LinearAccelGravity` never divides by zero along a run exactly if, whenever it runs,
`GameRotationVector` has been called with an accel sample out of free fall. -/
theorem gravity_divisor_iff (H : Stml0xxHeader) (K : Kernel) (list : List SensorT)
    (flags16 : Option (BitVec 16)) (flags24 : Option (BitVec 32)) (is : List Input) :
    Along (fun s i => s.next H K list i) HubSensors.DivisorNonzero
        (HubSensors.start flags16 flags24 : HubSensors F) is ↔
      Along (fun p i => (p.1.next H K list i, p.1.seededAfter p.2 i)) HubSensors.Seeded
        ((HubSensors.start flags16 flags24 : HubSensors F), False) is := by
  rw [← along_ghost (fun s seeded i => s.seededAfter seeded i) _ False]
  exact along_congr (fun p => p.1.SeedInv p.2) (fun p i h => h.divisor_iff i)
    (fun p i h _ => h.step i (p.1.next_game H K list i)) (HubSensors.seedInv_start _ _) is

end Exact

/-- The first gyro record after LINEAR_ACCEL was enabled, with no accel record before it. -/
theorem gravity_divides_by_zero :
    ¬ Along (fun s i => s.next .numbered (fun _ _ => 0) (sSensorList true) i)
      HubSensors.DivisorNonzero (HubSensors.start none none : HubSensors ℝ)
      [.setEnable .ID_LA 1, .record (.blank .DT_GYRO)] := by
  intro h
  have hinv := (HubSensors.seedInv_start (F := ℝ) none none).step (.setEnable .ID_LA 1)
    (HubSensors.next_game .numbered (fun _ _ => 0) (sSensorList true) _)
  have hseeded := (hinv.divisor_iff _).mp h.2.1 rfl rfl
  rcases hseeded with hseeded | ⟨-, hout⟩
  · exact hseeded.elim id fun h => h.2 GameRotationVector.freeFall_zero
  · exact hout GameRotationVector.freeFall_zero

end Cedric.Hub
