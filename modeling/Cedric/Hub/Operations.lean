import Cedric.Hub.ReadEvents
import Cedric.Hub.SetDelay

/-!
# Runs of the driver interface

A run is a list of calls of `setEnable`, `setDelay` and `readEvents`. The
lemmas say once what `setEnable` and `setDelay` do to the masks, the handles
and the last mask sent; the invariants over runs rest on them.
-/

namespace Cedric.Hub

open BitFlags ReadLoop

variable {F : Type}

inductive Op
  | setEnable (handle : SensorHandle) (en : ℤ)
  | setDelay (handle : SensorHandle) (ns : ℤ)
  | readEvents (buff : SensorData) (dLen : ℤ) (replies : List (Reply SensorData))

def SensorHandle.isNonWake : SensorHandle → Bool
  | .ID_A | .ID_G | .ID_UNCALIB_GYRO | .ID_GAME_RV | .ID_LA | .ID_GRAVITY | .ID_L | .ID_DR
  | .ID_STEP_COUNTER | .ID_STEP_DETECTOR | .ID_M | .ID_UM | .ID_OR | .ID_GEOMAG_RV | .ID_RV => true
  | _ => false

namespace HubSensors

def apply [FloatOps F] (H : Stml0xxHeader) (K : Kernel) (list : List SensorT) (s : HubSensors F) :
    Op → HubSensors F
  | .setEnable handle en => (s.setEnable H K handle en).2
  | .setDelay handle ns => (s.setDelay K list handle ns).2
  | .readEvents buff dLen replies => (Hub.readEvents H K buff dLen s replies).hub

def run [FloatOps F] (H : Stml0xxHeader) (K : Kernel) (list : List SensorT) (s : HubSensors F)
    (ops : List Op) : HubSensors F :=
  ops.foldl (apply H K list) s

variable {s t u : HubSensors F}

/-- `t` differs from `s` in the rate statics and in calls other than `SET_SENSORS`. -/
def Rates (s t : HubSensors F) : Prop :=
  t.core = s.core ∧ lastSetSensors t.log = lastSetSensors s.log

theorem Rates.refl : Rates s s := ⟨rfl, rfl⟩

theorem Rates.trans (h : Rates s t) (h' : Rates t u) : Rates s u :=
  ⟨h'.1.trans h.1, h'.2.trans h.2⟩

theorem Rates.mFusionSensors (h : Rates s t) : t.mFusionSensors = s.mFusionSensors :=
  congrArg (fun u => u.mFusionSensors) h.1

theorem Rates.mEnabled (h : Rates s t) : t.mEnabled = s.mEnabled :=
  congrArg (fun u => u.mEnabled) h.1

theorem Rates.mWakeEnabled (h : Rates s t) : t.mWakeEnabled = s.mWakeEnabled :=
  congrArg (fun u => u.mWakeEnabled) h.1

theorem Rates.mEnabledHandles (h : Rates s t) : t.mEnabledHandles = s.mEnabledHandles :=
  congrArg (fun u => u.mEnabledHandles) h.1

theorem lastSetSensors_updateRate (K : Kernel) (d p : ℕ) {call : ℕ → Sys}
    {store : ℕ → HubSensors F → HubSensors F} (hcall : ∀ n, (call n).sensorMask = none)
    (hstore : ∀ n t, (store n t).log = t.log) :
    lastSetSensors (s.updateRate K d p call store).2.log = lastSetSensors s.log := by
  rw [updateRate]
  split_ifs
  · change lastSetSensors (store d (s.syscall K (call d)).2).log = lastSetSensors s.log
    rw [hstore]
    exact lastSetSensors_cons (hcall d) _ _
  · rfl

theorem updateAccelRate_rates (K : Kernel) : Rates s (s.updateAccelRate K).2 :=
  ⟨s.core_updateAccelRate K, lastSetSensors_updateRate K _ _ (fun _ => rfl) fun _ _ => rfl⟩

theorem updateGyroRate_rates (K : Kernel) : Rates s (s.updateGyroRate K).2 :=
  ⟨s.core_updateGyroRate K, lastSetSensors_updateRate K _ _ (fun _ => rfl) fun _ _ => rfl⟩

theorem updateMagRate_rates (K : Kernel) : Rates s (s.updateMagRate K).2 :=
  ⟨s.core_updateMagRate K, lastSetSensors_updateRate K _ _ (fun _ => rfl) fun _ _ => rfl⟩

theorem delaySwitch_masks (K : Kernel) (delay : ℕ) (h : SensorHandle) :
    (s.delaySwitch K delay h).2.mEnabled = s.mEnabled ∧
      (s.delaySwitch K delay h).2.mWakeEnabled = s.mWakeEnabled ∧
      (s.delaySwitch K delay h).2.mEnabledHandles = s.mEnabledHandles ∧
      lastSetSensors (s.delaySwitch K delay h).2.log = lastSetSensors s.log := by
  cases h with
  | ID_L => exact ⟨rfl, rfl, rfl, lastSetSensors_cons (rfl) _ _⟩
  | ID_STEP_COUNTER => exact ⟨rfl, rfl, rfl, lastSetSensors_cons (rfl) _ _⟩
  | _ => exact ⟨rfl, rfl, rfl, rfl⟩

theorem setDelay_rates (K : Kernel) (list : List SensorT) (h : SensorHandle) {ns : ℤ}
    (hns : ¬ ns < 0) :
    Rates (s.delaySwitch K (clampDelay list h (toUShort (ns / 1000000))) h).2
      (s.setDelay K list h ns).2 := by
  unfold setDelay
  rw [if_neg hns]
  extract_lets delay stored accel gyro mag
  have haccel : Rates stored.2 accel.2 := updateAccelRate_rates K
  have hgyro : Rates accel.2 gyro.2 := updateGyroRate_rates K
  exact (haccel.trans hgyro).trans (updateMagRate_rates K)

theorem setDelay_masks (K : Kernel) (list : List SensorT) (h : SensorHandle) (ns : ℤ) :
    (s.setDelay K list h ns).2.mEnabled = s.mEnabled ∧
      (s.setDelay K list h ns).2.mWakeEnabled = s.mWakeEnabled ∧
      (s.setDelay K list h ns).2.mEnabledHandles = s.mEnabledHandles ∧
      lastSetSensors (s.setDelay K list h ns).2.log = lastSetSensors s.log := by
  by_cases hns : ns < 0
  · rw [setDelay, if_pos hns]
    exact ⟨rfl, rfl, rfl, rfl⟩
  · have hrates := setDelay_rates (s := s) K list h hns
    obtain ⟨he, hw, hh, hl⟩ :=
      delaySwitch_masks (s := s) K (clampDelay list h (toUShort (ns / 1000000))) h
    exact ⟨hrates.mEnabled.trans he, hrates.mWakeEnabled.trans hw,
      hrates.mEnabledHandles.trans hh, hrates.2.trans hl⟩

theorem nonWakeSwitch_isSome {H : Stml0xxHeader} (newState : Bool) (h : SensorHandle) :
    (s.nonWakeSwitch H newState h).isSome = h.isNonWake := by
  cases h <;> rfl

theorem nonWakeSwitch_found {H : Stml0xxHeader} {newState : Bool} {h : SensorHandle}
    {m : BitVec 32} (hf : s.nonWakeSwitch H newState h = some (t, m)) :
    t = s ∨ ∃ i, t = s.setFusion i newState := by
  cases h with
  | ID_L | ID_DR | ID_STEP_COUNTER | ID_STEP_DETECTOR =>
    exact Or.inl (congrArg Prod.fst (Option.some.inj hf)).symm
  | ID_A | ID_G | ID_UNCALIB_GYRO | ID_GAME_RV | ID_LA | ID_GRAVITY | ID_M | ID_UM | ID_OR
  | ID_GEOMAG_RV | ID_RV =>
    exact Or.inr ⟨_, (congrArg Prod.fst (Option.some.inj hf)).symm⟩
  | _ => cases hf

theorem checkSensor_rates {needed : HubSensors F → Bool} {bit : Fin 32}
    {update : HubSensors F → ℤ × HubSensors F} (hu : ∀ t, Rates t (update t).2) (c : Pending F) :
    Rates c.hub (checkSensor needed bit update c).hub := by
  rw [checkSensor]
  split_ifs
  · exact hu _
  · exact Rates.refl

theorem checkSensors_spec (H : Stml0xxHeader) (K : Kernel) (c : Pending F) :
    Rates c.hub (checkSensors H K c).hub ∧
      (checkSensors H K c).newEnabled =
        assign (assign (assign c.newEnabled (H.sensorBit .M_ACCEL) c.hub.isAccelNeeded)
          (H.sensorBit .M_GYRO) c.hub.isGyroNeeded) (H.sensorBit .M_ECOMPASS)
            c.hub.isMagNeeded := by
  unfold checkSensors
  extract_lets c1 c2
  have h1 : Rates c.hub c1.hub := checkSensor_rates (fun t => updateAccelRate_rates K) c
  have h2 : Rates c1.hub c2.hub := checkSensor_rates (fun t => updateGyroRate_rates K) c1
  have h3 : Rates c2.hub
      (checkSensor isMagNeeded (H.sensorBit .M_ECOMPASS) (updateMagRate · K) c2).hub :=
    checkSensor_rates (fun t => updateMagRate_rates K) c2
  have hgyro : c1.hub.isGyroNeeded = c.hub.isGyroNeeded := by
    rw [isGyroNeeded, isGyroNeeded, h1.mFusionSensors]
  have hmag : c2.hub.isMagNeeded = c.hub.isMagNeeded := by
    rw [isMagNeeded, isMagNeeded, (h1.trans h2).mFusionSensors]
  refine ⟨(h1.trans h2).trans h3, ?_⟩
  rw [checkSensor_newEnabled, hmag, checkSensor_newEnabled, hgyro, checkSensor_newEnabled]

theorem applySensors_spec (K : Kernel) (c : Pending F) :
    (applySensors K c).hub.mFusionSensors = c.hub.mFusionSensors ∧
      (applySensors K c).hub.mEnabled = c.newEnabled ∧
      (applySensors K c).hub.mWakeEnabled = c.hub.mWakeEnabled ∧
      (applySensors K c).hub.mEnabledHandles = c.hub.mEnabledHandles ∧
      (lastSetSensors (applySensors K c).hub.log = some c.newEnabled ∨
        c.hub.mEnabled = c.newEnabled ∧
          lastSetSensors (applySensors K c).hub.log = lastSetSensors c.hub.log) := by
  simp only [applySensors]
  split_ifs with hne
  · exact ⟨rfl, rfl, rfl, rfl, Or.inl (rfl)⟩
  · have heq : c.newEnabled = c.hub.mEnabled := not_not.mp hne
    exact ⟨rfl, heq.symm, rfl, rfl, Or.inr ⟨heq.symm, rfl⟩⟩

section Reset
variable [FloatOps F]

theorem resetNineAxis_fuses : Fuses s s.resetNineAxis := by
  rw [resetNineAxis]
  split_ifs <;> exact ⟨_, _, _, _, _, rfl⟩

theorem resetSixAxis_fuses : Fuses s s.resetSixAxis := by
  rw [resetSixAxis]
  split_ifs <;> exact ⟨_, _, _, _, _, rfl⟩

theorem nonWake_spec {H : Stml0xxHeader} (K : Kernel) {newState : Bool} {h : SensorHandle}
    {m : BitVec 32} (hf : s.nonWakeSwitch H newState h = some (t, m)) :
    let r := (s.nonWake H K newState h).2
    r.mFusionSensors = t.mFusionSensors ∧
      r.mEnabled = assign (assign (assign m (H.sensorBit .M_ACCEL) t.isAccelNeeded)
        (H.sensorBit .M_GYRO) t.isGyroNeeded) (H.sensorBit .M_ECOMPASS) t.isMagNeeded ∧
      r.mWakeEnabled = s.mWakeEnabled ∧ r.mEnabledHandles = s.mEnabledHandles ∧
      (lastSetSensors r.log = some r.mEnabled ∨
        r.mEnabled = s.mEnabled ∧ lastSetSensors r.log = lastSetSensors s.log) := by
  obtain ⟨hrates, hmask⟩ := checkSensors_spec H K ⟨0, m, t⟩
  obtain ⟨htable, hen, hwake, hhandles, hlog⟩ :=
    applySensors_spec K (checkSensors H K ⟨0, m, t⟩)
  have hsame : t.mEnabled = s.mEnabled ∧ t.mWakeEnabled = s.mWakeEnabled ∧
      t.mEnabledHandles = s.mEnabledHandles ∧ t.log = s.log := by
    rcases nonWakeSwitch_found hf with rfl | ⟨i, rfl⟩
    · exact ⟨rfl, rfl, rfl, rfl⟩
    · exact ⟨rfl, rfl, rfl, rfl⟩
  obtain ⟨hse, hsw, hsh, hsl⟩ := hsame
  have hnine := resetNineAxis_fuses (s := (applySensors K (checkSensors H K ⟨0, m, t⟩)).hub)
  have hreset := hnine.trans resetSixAxis_fuses
  obtain ⟨data, ready, geomag, game, rotation, hr⟩ := hreset
  rw [nonWake, hf]
  dsimp only
  rw [hr]
  refine ⟨htable.trans hrates.mFusionSensors, hen.trans hmask,
    (hwake.trans hrates.mWakeEnabled).trans hsw,
    (hhandles.trans hrates.mEnabledHandles).trans hsh, ?_⟩
  rcases hlog with hlog | hlog
  · left
    rw [hen]
    exact hlog
  · right
    refine ⟨?_, ?_⟩
    · rw [hen, ← hlog.1, hrates.mEnabled, ← hse]
    · rw [hlog.2, hrates.2, ← hsl]

theorem nonWake_none {H : Stml0xxHeader} (K : Kernel) {newState : Bool} {h : SensorHandle}
    (hf : s.nonWakeSwitch H newState h = none) : s.nonWake H K newState h = (0, s) := by
  rw [nonWake, hf]

end Reset

theorem wake_spec (H : Stml0xxHeader) (K : Kernel) (newState : Bool) (h : SensorHandle) (err : ℤ) :
    let r := (s.wake H K newState h err).2
    r.mWakeEnabled = (s.wakeSwitch H newState h).getD s.mWakeEnabled ∧
      r.mEnabledHandles = s.mEnabledHandles := by
  rw [wake]
  cases s.wakeSwitch H newState h with
  | none => exact ⟨rfl, rfl⟩
  | some m =>
    dsimp only
    split_ifs with hne
    · exact ⟨rfl, rfl⟩
    · exact ⟨(not_not.mp hne).symm, rfl⟩

end HubSensors
end Cedric.Hub
