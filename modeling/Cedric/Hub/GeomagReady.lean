import Cedric.Hub.FusionSteps

/-!
# The cached ready flag

`mGeomagRVReady` is written by the accel records that run the geomagnetic
algorithm, and a reset from `setEnable` does not clear it. `staleAfter` records
a reset of a ready algorithm until the next such accel record; the flag is right
except in between.
-/

namespace Cedric.Hub

open Runs

variable {F : Type}

namespace HubSensors

variable {s t : HubSensors F}

def geomagReset (s : HubSensors F) : Input → Bool
  | .setEnable x en => x.isNonWake && !(s.setFlag x (decide (en ≠ 0))).enabled .GEOMAG_RV
  | _ => false

def geomagFuse (s : HubSensors F) : Input → Bool
  | .record b => decide (b.type = .DT_ACCEL) && s.nineAxisRunning
  | _ => false

def staleAfter (s : HubSensors F) (stale : Bool) (i : Input) : Bool :=
  (stale || (s.mGeomagRVReady && s.geomagReset i)) && !s.geomagFuse i

def ReadyMirrors (s : HubSensors F) : Prop := s.mGeomagRVReady = s.mGeomagRV.initialized

theorem ready_of_algo (h : t.algo = s.algo) :
    t.mGeomagRV = s.mGeomagRV ∧ t.mGeomagRVReady = s.mGeomagRVReady :=
  ⟨congrArg (fun u => u.mGeomagRV) h, congrArg (fun u => u.mGeomagRVReady) h⟩

theorem ready_setFlag (h : SensorHandle) (newState : Bool) :
    (s.setFlag h newState).mGeomagRV = s.mGeomagRV ∧
      (s.setFlag h newState).mGeomagRVReady = s.mGeomagRVReady := by
  rw [setFlag]
  cases h.fusionIndex with
  | none => exact ⟨rfl, rfl⟩
  | some i => exact ⟨rfl, rfl⟩

section
variable [FloatOps F]

/-- The reset flag `RotationVector::processFusion` is given for the record is the negation of
the state of the geomagnetic algorithm at that point. -/
def ResetFlagRight (s : HubSensors F) : Input → Prop
  | .record b => b.type = .DT_GYRO → s.enabled .ROTATION_VECT = true →
      (!(s.storeGyro b).gyroGame.1.mGeomagRVReady) =
        !(s.storeGyro b).gyroGame.1.mGeomagRV.initialized
  | _ => True

theorem gyroGame_ready : s.gyroGame.1.mGeomagRV = s.mGeomagRV ∧
    s.gyroGame.1.mGeomagRVReady = s.mGeomagRVReady := by
  simp only [gyroGame]
  split_ifs <;> exact ⟨rfl, rfl⟩

theorem gyroRotation_ready : s.gyroRotation.1.mGeomagRV = s.mGeomagRV ∧
    s.gyroRotation.1.mGeomagRVReady = s.mGeomagRVReady := by
  simp only [gyroRotation]
  split_ifs <;> exact ⟨rfl, rfl⟩

theorem onGyro_ready (b : SensorData) : (s.onGyro b).1.mGeomagRV = s.mGeomagRV ∧
    (s.onGyro b).1.mGeomagRVReady = s.mGeomagRVReady := by
  obtain ⟨hgame, hgameReady⟩ := gyroGame_ready (s := s.storeGyro b)
  obtain ⟨hrot, hrotReady⟩ := gyroRotation_ready (s := (s.storeGyro b).gyroGame.1)
  exact ⟨hrot.trans hgame, hrotReady.trans hgameReady⟩

theorem fuseGeomag_mirrors : s.fuseGeomag.ReadyMirrors := by
  simp only [ReadyMirrors, fuseGeomag, GeoMagRotationVector.processFusion,
    GeoMagRotationVector.fuse]
  split_ifs <;> rfl

theorem resets_ready : s.resetNineAxis.resetSixAxis.mGeomagRVReady = s.mGeomagRVReady ∧
    s.resetNineAxis.resetSixAxis.mGeomagRV =
      if s.enabled .GEOMAG_RV then s.mGeomagRV else s.mGeomagRV.reset := by
  have hsix : s.resetNineAxis.resetSixAxis.mGeomagRVReady = s.resetNineAxis.mGeomagRVReady := by
    rw [resetSixAxis]
    split_ifs <;> rfl
  rw [hsix, resetSixAxis_geomag, resetNineAxis]
  cases hg : s.enabled .GEOMAG_RV with
  | false => exact ⟨rfl, rfl⟩
  | true =>
    cases hr : s.enabled .ROTATION_VECT with
    | false => exact ⟨rfl, rfl⟩
    | true => exact ⟨rfl, rfl⟩

inductive ReadyStep (s t : HubSensors F) (i : Input) : Prop
  | fuse (hf : s.geomagFuse i = true) (hr : s.geomagReset i = false) (h : t.ReadyMirrors)
  | keep (hf : s.geomagFuse i = false) (hready : t.mGeomagRVReady = s.mGeomagRVReady)
      (hinit : t.mGeomagRV.initialized = (s.mGeomagRV.initialized && !s.geomagReset i))

omit [FloatOps F] in
theorem ReadyStep.same {i : Input} (hf : s.geomagFuse i = false) (hr : s.geomagReset i = false)
    (h : t.mGeomagRV = s.mGeomagRV ∧ t.mGeomagRVReady = s.mGeomagRVReady) : ReadyStep s t i := by
  refine .keep hf h.2 ?_
  rw [hr, h.1]
  exact (Bool.and_true _).symm

theorem onAccel_ready {b : SensorData} (hb : b.type = .DT_ACCEL) :
    ReadyStep s (s.onAccel b).1 (.record b) := by
  rw [onAccel_state]
  cases hrun : s.nineAxisRunning with
  | true => exact .fuse (by rw [geomagFuse, hb, hrun]; rfl) rfl fuseGeomag_mirrors
  | false => exact .same (by rw [geomagFuse, hrun, Bool.and_false]) rfl ⟨rfl, rfl⟩

theorem resets_readyStep {x : SensorHandle} {en : ℤ} (hx : x.isNonWake = true)
    (h : t.algo = (s.setFlag x (decide (en ≠ 0))).resetNineAxis.resetSixAxis.algo) :
    ReadyStep s t (.setEnable x en) := by
  obtain ⟨hmag, hready⟩ := ready_of_algo h
  obtain ⟨hflag, hflagReady⟩ := ready_setFlag (s := s) x (decide (en ≠ 0))
  obtain ⟨hresetReady, hreset⟩ := resets_ready (s := s.setFlag x (decide (en ≠ 0)))
  refine .keep rfl ((hready.trans hresetReady).trans hflagReady) ?_
  rw [hmag, hreset, hflag, geomagReset, hx]
  cases (s.setFlag x (decide (en ≠ 0))).enabled .GEOMAG_RV with
  | false => exact (Bool.and_false _).symm
  | true => exact (Bool.and_true _).symm

theorem next_ready (H : Stml0xxHeader) (K : Kernel) (list : List SensorT) (i : Input) :
    ReadyStep s (s.next H K list i) i := by
  have hstep := next_algo (s := s) H K list i
  generalize s.next H K list i = t at hstep ⊢
  cases hstep with
  | idle hi h =>
    cases i with
    | setEnable x en =>
      change x.isNonWake = false at hi
      exact .same rfl (by rw [geomagReset, hi]; rfl) (ready_of_algo h)
    | record b =>
      have hb : b.type ≠ .DT_ACCEL := by
        intro hb
        rw [Input.movesAlgo, hb] at hi
        cases hi
      exact .same (by rw [geomagFuse, decide_eq_false hb]; rfl) rfl (ready_of_algo h)
    | setDelay x ns => exact .same rfl rfl (ready_of_algo h)
    | readEnd type => exact .same rfl rfl (ready_of_algo h)
  | enable hx h => exact resets_readyStep hx h
  | accel hb h => exact h ▸ onAccel_ready hb
  | @gyro b hb h => exact h ▸ .same (by rw [geomagFuse, hb]; rfl) rfl (onGyro_ready b)
  | @mag b hb h =>
    subst h
    rcases hb with hb | hb
    · exact .same (by rw [geomagFuse, hb]; rfl) rfl ⟨rfl, rfl⟩
    · exact .same (by rw [geomagFuse, hb]; rfl) rfl ⟨rfl, rfl⟩

structure ReadyInv (s : HubSensors F) (stale : Bool) : Prop where
  initialized : s.mGeomagRV.initialized = (s.mGeomagRVReady && !stale)
  ready : stale = true → s.mGeomagRVReady = true

theorem ReadyInv.next {stale : Bool} (h : s.ReadyInv stale) (H : Stml0xxHeader) (K : Kernel)
    (list : List SensorT) (i : Input) :
    (s.next H K list i).ReadyInv (s.staleAfter stale i) := by
  obtain ⟨hinit, hstale⟩ := h
  cases s.next_ready H K list i with
  | fuse hf hr h =>
    have hnew : s.staleAfter stale i = false := by rw [staleAfter, hf]; exact Bool.and_false _
    rw [hnew]
    refine ⟨?_, fun h' => absurd h' (by decide)⟩
    rw [Bool.not_false, Bool.and_true]
    exact Eq.symm h
  | keep hf hready hinit' =>
    have hnew : s.staleAfter stale i = (stale || (s.mGeomagRVReady && s.geomagReset i)) := by
      rw [staleAfter, hf]
      exact Bool.and_true _
    rw [hnew]
    constructor
    · rw [hinit', hready, hinit]
      cases s.mGeomagRVReady <;> cases stale <;> cases s.geomagReset i <;> rfl
    · intro h'
      rw [hready]
      rw [Bool.or_eq_true, Bool.and_eq_true] at h'
      rcases h' with h' | h'
      · exact hstale h'
      · exact h'.1

/-- The 9-axis fusion of a gyro record comes after the accel record that follows any reset. -/
def Refreshed (p : HubSensors F × Bool) : Input → Prop
  | .record b => b.type = .DT_GYRO → p.1.enabled .ROTATION_VECT = true → p.2 = false
  | _ => True

omit [FloatOps F] in
theorem ReadyInv.mirrors_iff {stale : Bool} (h : s.ReadyInv stale) :
    s.ReadyMirrors ↔ stale = false := by
  obtain ⟨hinit, hstale⟩ := h
  rw [ReadyMirrors, hinit]
  cases stale with
  | false => simp
  | true => simp [hstale rfl]

theorem ReadyInv.flag_iff {stale : Bool} (h : s.ReadyInv stale) (i : Input) :
    s.ResetFlagRight i ↔ Refreshed (s, stale) i := by
  cases i with
  | record b =>
    simp only [ResetFlagRight, Refreshed]
    obtain ⟨hmag, hready⟩ := gyroGame_ready (s := s.storeGyro b)
    rw [hmag, hready]
    have hright : ((!(s.storeGyro b).mGeomagRVReady) = !(s.storeGyro b).mGeomagRV.initialized) ↔
        stale = false := Bool.not_inj_iff.trans h.mirrors_iff
    rw [hright]
  | _ => exact Iff.rfl

theorem mirrors_next_iff (H : Stml0xxHeader) (K : Kernel) (list : List SensorT) (i : Input)
    (h : s.ReadyMirrors) :
    (s.next H K list i).ReadyMirrors ↔ (s.mGeomagRVReady && s.geomagReset i) = false := by
  rw [ReadyMirrors] at h
  cases s.next_ready H K list i with
  | fuse hf hr hnew => exact iff_of_true hnew (by rw [hr]; exact Bool.and_false _)
  | keep hf hready hinit =>
    rw [ReadyMirrors, hready, hinit, ← h]
    cases s.mGeomagRVReady <;> cases s.geomagReset i <;> decide

end
end HubSensors

/-- The reset flag of the 9-axis fusion is right along a run exactly if no gyro record is
fused between a reset of the ready geomagnetic algorithm and the next accel record that
runs it; the cached flag is right in every state exactly if no such reset happens. -/
theorem geomagReady_iff [FloatOps F] (H : Stml0xxHeader) (K : Kernel) (list : List SensorT)
    (flags16 : Option (BitVec 16)) (flags24 : Option (BitVec 32)) (is : List Input) :
    (Along (fun s i => s.next H K list i) HubSensors.ResetFlagRight
        (HubSensors.start flags16 flags24 : HubSensors F) is ↔
      Along (fun p i => (p.1.next H K list i, p.1.staleAfter p.2 i)) HubSensors.Refreshed
        ((HubSensors.start flags16 flags24 : HubSensors F), false) is) ∧
    (Along (fun s i => s.next H K list i) (fun s i => (s.next H K list i).ReadyMirrors)
        (HubSensors.start flags16 flags24 : HubSensors F) is ↔
      Along (fun s i => s.next H K list i)
        (fun s i => (s.mGeomagRVReady && s.geomagReset i) = false)
        (HubSensors.start flags16 flags24 : HubSensors F) is) := by
  constructor
  · rw [← along_ghost (fun s stale i => s.staleAfter stale i) _ false]
    refine along_congr (fun p => p.1.ReadyInv p.2) (fun p i h => h.flag_iff i)
      (fun p i h _ => h.next H K list i) ?_ is
    exact ⟨rfl, fun h => absurd h Bool.false_ne_true⟩
  · refine along_congr HubSensors.ReadyMirrors (fun s i h => HubSensors.mirrors_next_iff H K list i h)
      (fun s i _ h => h) ?_ is
    rfl

/-- Eleven new magnetometer samples initialise the algorithm. -/
def magWarmup : List Input :=
  .setEnable .ID_RV 1 :: (List.range 11).flatMap fun n =>
    [.record ⟨0, .DT_MAG, 0, fun _ => BitVec.ofNat 8 (n + 1)⟩, .record (.blank .DT_ACCEL)]

/-- The light sensor is enabled under a running ROTATION_VECT, and a gyro record follows. -/
theorem reset_flag_stale_after_light :
    ¬ Along (fun s i => s.next .numbered (fun _ _ => 0) (sSensorList true) i)
      HubSensors.ResetFlagRight (HubSensors.start none none : HubSensors ℚ)
      (magWarmup ++ [.setEnable .ID_L 1, .record (.blank .DT_GYRO)]) := by
  intro h
  rw [along_append] at h
  have hflag := h.2.2.1 rfl (by decide +kernel)
  exact absurd hflag (by decide +kernel)

end Cedric.Hub
