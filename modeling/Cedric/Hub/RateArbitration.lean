import Cedric.Hub.FusionSteps
import Cedric.Hub.RateUpdates
import Cedric.Lib.RunningMinimum
import Mathlib.Data.ENat.Lattice

/-!
# Which rate the shared sensors run at

The loop of a rate function is a running minimum over the enabled users of its sensor. While
no rotation sensor is enabled it finds the true minimum; while one is, the values it keeps are
capped, but the delay it starts from is not. The static of the function and the delay the hub
took last agree as long as the ioctls succeed, whatever was called before.
-/

namespace Cedric.Hub

open Runs Setter RunningMinimum ReadLoop

variable {F : Type}

namespace RateSensor

def uses : RateSensor → FusionSensor → Bool
  | .accel => FusionSensor.usesAccel
  | .gyro => FusionSensor.usesGyro
  | .mag => FusionSensor.usesMag

def maxMs : RateSensor → ℕ
  | .accel => ACCEL_MAX_DELAY_US / 1000
  | .gyro => GYRO_MAX_DELAY_US / 1000
  | .mag => MAG_MAX_DELAY_US / 1000

def minMs : RateSensor → ℕ
  | .accel => ACCEL_MIN_DELAY_US / 1000
  | .gyro => GYRO_MIN_DELAY_US / 1000
  | .mag => MAG_MIN_DELAY_US / 1000

def users (k : RateSensor) (table : FusionEnum → FusionSensor) : Set FusionEnum :=
  {i | k.uses (table i) && (table i).enabled}

theorem cap_lt_max (k : RateSensor) : max k.minMs (FUSION_MAX_DELAY_US / 1000) < k.maxMs := by
  cases k <;> decide

end RateSensor

def Kernel.Programs (K : Kernel) (k : RateSensor) : Prop := ∀ log ms, 0 ≤ K log (k.call ms)

def Fusing (table : FusionEnum → FusionSensor) : Prop :=
  ∃ i ∈ rotationSensors, (table i).enabled

namespace HubSensors

variable {s t : HubSensors F} {K : Kernel} {k : RateSensor}

theorem isRotationVectorRunning_iff :
    s.isRotationVectorRunning = true ↔ Fusing s.mFusionSensors := by
  simp [isRotationVectorRunning, Fusing, rotationSensors, enabled, or_assoc]

def keptDelay (s : HubSensors F) (i : FusionEnum) : ℕ :=
  if s.isRotationVectorRunning then min (s.mFusionSensors i).delay (FUSION_MAX_DELAY_US / 1000)
  else (s.mFusionSensors i).delay

theorem rateDelay_eq (k : RateSensor) :
    s.rateDelay k = max (scan (fun i => k.uses (s.mFusionSensors i) && (s.mFusionSensors i).enabled)
      (fun i => (s.mFusionSensors i).delay) s.keptDelay k.maxMs FusionEnum.all) k.minMs := by
  cases k <;> rfl

theorem rateDelay_congr (h : t.mFusionSensors = s.mFusionSensors) (k : RateSensor) :
    t.rateDelay k = s.rateDelay k := by
  have hrunning : t.isRotationVectorRunning = s.isRotationVectorRunning := by
    simp only [isRotationVectorRunning, enabled, h]
  have hkept : t.keptDelay = s.keptDelay := by
    funext i
    rw [keptDelay, keptDelay, hrunning, h]
  rw [rateDelay_eq, rateDelay_eq, h, hkept]

theorem rateDelay_of_not_fusing (hrv : ¬ Fusing s.mFusionSensors) (k : RateSensor) :
    (s.rateDelay k : ℕ∞) = max (k.minMs : ℕ∞)
      (min (k.maxMs : ℕ∞) (⨅ i ∈ k.users s.mFusionSensors, ((s.mFusionSensors i).delay : ℕ∞))) := by
  have hkept : s.keptDelay = fun i => (s.mFusionSensors i).delay := by
    funext i
    rw [keptDelay, if_neg (isRotationVectorRunning_iff.not.mpr hrv)]
  rw [rateDelay_eq, hkept, max_comm, Nat.mono_cast.map_max]
  congr 1
  refine eq_of_forall_le_iff fun x => ?_
  rw [le_min_iff, le_iInf₂_iff]
  induction x using ENat.recTopCoe with
  | top => simp
  | coe x =>
    simp only [Nat.cast_le]
    rw [le_scan_iff]
    exact and_congr_right fun _ => forall_congr' fun i => forall_prop_of_true (FusionEnum.mem_all i)

/-- With fusion the delay is within the cap exactly if some user asked for less than the
slowest rate. -/
theorem rateDelay_le_iff (hrv : Fusing s.mFusionSensors) (k : RateSensor) :
    s.rateDelay k ≤ max k.minMs (FUSION_MAX_DELAY_US / 1000) ↔
      ∃ i ∈ k.users s.mFusionSensors, (s.mFusionSensors i).delay < k.maxMs := by
  have hkept (i : FusionEnum) : s.keptDelay i =
      min (s.mFusionSensors i).delay (FUSION_MAX_DELAY_US / 1000) := by
    rw [keptDelay, if_pos (isRotationVectorRunning_iff.mpr hrv)]
  have hcapped (i : FusionEnum) : s.keptDelay i ≤ max k.minMs (FUSION_MAX_DELAY_US / 1000) := by
    rw [hkept]
    exact (min_le_right _ _).trans (le_max_right _ _)
  have hbelow (i : FusionEnum) : s.keptDelay i ≤ (s.mFusionSensors i).delay := by
    rw [hkept]
    exact min_le_left _ _
  rw [rateDelay_eq, max_le_iff, and_iff_left (le_max_left _ _),
    scan_le_bound_iff hbelow hcapped k.cap_lt_max]
  simp [FusionEnum.mem_all, RateSensor.users]

def Took (k : RateSensor) (s : HubSensors F) : Prop :=
  accepted (k.history s.log) = sent (k.history s.log)

theorem Took.same (h : s.Took k) (hst : SameRates s t) : t.Took k := by
  rw [Took, (hst k).2]
  exact h

theorem Took.updateRateOf (hK : K.Programs k) (hc : s.Cached) (h : s.Took k) (k' : RateSensor) :
    (s.updateRateOf K k').2.Took k := by
  by_cases hk : k = k'
  · subst hk
    have hwrite := congrArg Prod.snd (updateRateOf_write (K := K) hc k)
    dsimp only at hwrite
    rw [Took, hwrite, sent_write, write]
    split_ifs with hsent
    · rw [← hsent]
      exact h
    · exact accepted_cons_of_nonneg _ _ (hK _ _)
  · rw [Took, (updateRateOf_others hk).2]
    exact h

theorem Took.programmed (h : s.Took k) (hc : s.Cached) (hfresh : s.prevDelay k = s.rateDelay k) :
    accepted (k.history s.log) = some (s.rateDelay k) := by
  rw [h]
  exact (hc.sent_iff k).mpr hfresh.symm

theorem updateRateOf_table (k : RateSensor) :
    (s.updateRateOf K k).2.mFusionSensors = s.mFusionSensors := by
  cases k with
  | accel => exact (updateAccelRate_rates K).mFusionSensors
  | gyro => exact (updateGyroRate_rates K).mFusionSensors
  | mag => exact (updateMagRate_rates K).mFusionSensors

def withTable (s : HubSensors F) (table : FusionEnum → FusionSensor) : HubSensors F :=
  { s with mFusionSensors := table }

theorem withTable_sameRates (table : FusionEnum → FusionSensor) :
    SameRates s (s.withTable table) := fun k => ⟨by cases k <;> rfl, rfl⟩

theorem Took.updated (hK : K.Programs k) (hc : s.Cached) (h : s.Took k) :
    accepted (k.history (s.updateRateOf K k).2.log) = some (s.rateDelay k) := by
  have hdelay := rateDelay_congr (updateRateOf_table (s := s) (K := K) k) k
  have htook := h.updateRateOf hK hc k
  rw [htook.programmed (hc.updateRateOf k) ((updateRateOf_prevDelay k).trans hdelay.symm), hdelay]

theorem bug2go_sameRates (H : Stml0xxHeader) (now : ℤ) (id : DataType) :
    SameRates s (s.bug2go H K now id) := by
  have hdump (t : HubSensors F) : SameRates t (t.captureDump H K now id) := by
    unfold captureDump
    extract_lets opened counts
    have hopen : SameRates t opened.2 := syscall_sameRates fun k => by cases k <;> rfl
    have hwrite : SameRates opened.2 (opened.2.syscall K (.dump now id counts)).2 :=
      syscall_sameRates fun k => by cases k <;> rfl
    split_ifs
    · exact hopen
    · exact (hopen.trans hwrite).trans fun k => ⟨by cases k <;> rfl, rfl⟩
  have hlocal : SameRates s (s.syscall K (.localtime now)).2 :=
    syscall_sameRates fun k => by cases k <;> rfl
  simp only [bug2go]
  split_ifs
  · exact (hlocal.trans (hdump _)).trans fun k => ⟨by cases k <;> rfl, rfl⟩
  · exact hlocal.trans fun k => ⟨by cases k <;> rfl, rfl⟩

theorem onReset_sameRates (H : Stml0xxHeader) (b : SensorData) :
    SameRates s (s.onReset H K b) := by
  have htime : SameRates s (s.syscall K .time).2 := syscall_sameRates fun k => by cases k <;> rfl
  unfold onReset
  extract_lets now s' reason s''
  have hcount : SameRates s' s'' := by
    unfold s''
    split_ifs
    · exact fun k => ⟨by cases k <;> rfl, rfl⟩
    · exact fun k => ⟨rfl, rfl⟩
  split_ifs
  · exact (htime.trans hcount).trans (bug2go_sameRates H _ _)
  · exact (htime.trans hcount).trans fun k => ⟨by cases k <;> rfl, rfl⟩

theorem pendingDump_sameRates (H : Stml0xxHeader) (type : DataType) :
    SameRates s (s.pendingDump H K type) := by
  have htime : SameRates s (s.syscall K .time).2 := syscall_sameRates fun k => by cases k <;> rfl
  simp only [pendingDump]
  split_ifs
  · exact (htime.trans (bug2go_sameRates H _ _)).trans fun k => ⟨by cases k <;> rfl, rfl⟩
  · exact htime
  · exact fun k => ⟨rfl, rfl⟩

theorem onCal_sameRates {get save : Sys} (hg : ∀ k : RateSensor, k.delayOf get = none)
    (hs : ∀ k : RateSensor, k.delayOf save = none) : SameRates s (s.onCal K get save) := by
  have hget : SameRates s (s.syscall K get).2 := syscall_sameRates hg
  simp only [onCal]
  split_ifs
  · exact hget
  · exact hget.trans (syscall_sameRates hs)

/-- A property that the rate functions keep, and every change elsewhere. -/
structure RateInvariant (K : Kernel) (P : HubSensors F → Prop) : Prop where
  same : ∀ s t, SameRates s t → P s → P t
  update : ∀ s k, P s → P (s.updateRateOf K k).2

theorem rateInvariant_took (hK : K.Programs k) :
    RateInvariant K fun s : HubSensors F => s.Cached ∧ s.Took k where
  same := fun _ _ hst h => ⟨h.1.same hst, h.2.same hst⟩
  update := fun _ k' h => ⟨h.1.updateRateOf k', h.2.updateRateOf hK h.1 k'⟩

namespace RateInvariant

variable {P : HubSensors F → Prop} (hP : RateInvariant K P)
include hP

theorem rateCalls (skipped : HubSensors F → RateSensor → Bool) (ks : List RateSensor) (h : P s) :
    P (HubSensors.rateCalls K skipped ks s).2 :=
  (rateCalls_invariant hP.update skipped ks h).1

theorem setDelay (list : List SensorT) (handle : SensorHandle) (ns : ℤ) (h : P s) :
    P (s.setDelay K list handle ns).2 := by
  by_cases hns : ns < 0
  · rw [HubSensors.setDelay, if_pos hns]
    exact h
  · rw [setDelay_eq_rateCalls list handle hns]
    exact hP.rateCalls _ _ (hP.same _ _ (delaySwitch_sameRates _ handle) h)

theorem syscall {c : Sys} (hc : ∀ k : RateSensor, k.delayOf c = none) (h : P s) :
    P (s.syscall K c).2 := hP.same _ _ (syscall_sameRates hc) h

variable [FloatOps F] {H : Stml0xxHeader}

theorem setEnable (handle : SensorHandle) (en : ℤ) (h : P s) : P (s.setEnable H K handle en).2 := by
  have hnonWake : P (s.nonWake H K (decide (en ≠ 0)) handle).2 := by
    cases hf : s.nonWakeSwitch H (decide (en ≠ 0)) handle with
    | none =>
      rw [nonWake_none K hf]
      exact h
    | some found =>
      obtain ⟨t, m⟩ := found
      have hfound : P t := hP.same _ _ (nonWakeSwitch_sameRates hf) h
      have hcheck : P (checkSensors H K ⟨0, m, t⟩).hub := by
        rw [checkSensors_eq_rateCalls]
        exact hP.rateCalls _ _ hfound
      rw [nonWake, hf]
      refine hP.same _ _ ?_ hcheck
      exact (applySensors_sameRates _).trans
        (resetNineAxis_fuses.trans resetSixAxis_fuses).sameRates
  have hwake := hP.same _ _ (wake_sameRates (K := K) H (decide (en ≠ 0)) handle
    (s.nonWake H K (decide (en ≠ 0)) handle).1) hnonWake
  exact hP.same _ _ (recordHandle_sameRates handle _) hwake

theorem record (b : SensorData) (h : P s) : P (s.handleRecord H K b).1 := by
  rw [handleRecord]
  cases b.type with
  | DT_ACCEL => exact hP.same _ _ (onAccel_fuses b).sameRates h
  | DT_GYRO => exact hP.same _ _ (onGyro_fuses b).sameRates h
  | DT_GYRO_CAL =>
    exact hP.same _ _ (onCal_sameRates (fun k => by cases k <;> rfl) fun k => by cases k <;> rfl) h
  | DT_ACCEL_CAL =>
    exact hP.same _ _ (onCal_sameRates (fun k => by cases k <;> rfl) fun k => by cases k <;> rfl) h
  | DT_RESET => exact hP.same _ _ (onReset_sameRates H b) h
  | DT_MOTION_DETECT => exact hP.setEnable .ID_MOTION_DETECT 0 h
  | DT_STATIONARY_DETECT => exact hP.setEnable .ID_STATIONARY_DETECT 0 h
  | _ => exact hP.same s _ (fun k => ⟨by cases k <;> rfl, rfl⟩) h

theorem readEvents (buff : SensorData) (dLen : ℤ) (replies : List (Reply SensorData)) (h : P s) :
    P (Hub.readEvents H K buff dLen s replies).hub := by
  rw [Hub.readEvents]
  split_ifs
  · exact h
  · refine hP.same _ _ (pendingDump_sameRates H _) ?_
    exact loop_invariant (readRoom dLen) (readBody H K) (P := fun p => P p.1)
      (fun b _ hp => hP.record b hp) buff h replies

theorem run (list : List SensorT) (ops : List Op) (h : P s) : P (s.run H K list ops) := by
  induction ops generalizing s with
  | nil => exact h
  | cons op ops ih =>
    refine ih (s := s.apply H K list op) ?_
    cases op with
    | setEnable handle en => exact hP.setEnable handle en h
    | setDelay handle ns => exact hP.setDelay list handle ns h
    | readEvents buff dLen replies => exact hP.readEvents buff dLen replies h

end RateInvariant

theorem rateCalls_table (skipped : HubSensors F → RateSensor → Bool) (ks : List RateSensor) :
    (rateCalls K skipped ks s).2.mFusionSensors = s.mFusionSensors :=
  (rateCalls_invariant (P := fun t => t.mFusionSensors = s.mFusionSensors)
    (fun _ k ht => (updateRateOf_table k).trans ht) skipped ks rfl).1

theorem rateCalls_fresh {skipped : HubSensors F → RateSensor → Bool}
    (hskip : ∀ s t, t.mFusionSensors = s.mFusionSensors → skipped t = skipped s)
    {ks : List RateSensor} (hk : k ∈ ks ∧ skipped s k = false ∨ s.prevDelay k = s.rateDelay k) :
    (rateCalls K skipped ks s).2.prevDelay k = (rateCalls K skipped ks s).2.rateDelay k := by
  induction ks generalizing s with
  | nil => exact hk.resolve_left fun h => absurd h.1 List.not_mem_nil
  | cons j ks ih =>
    have htable := updateRateOf_table (s := s) (K := K) j
    rw [rateCalls]
    split_ifs with hj
    · refine ih (hk.imp_left fun h => ⟨(List.mem_cons.mp h.1).resolve_left ?_, h.2⟩)
      rintro rfl
      rw [h.2] at hj
      exact Bool.false_ne_true hj
    · refine ih ?_
      rw [hskip _ _ htable, rateDelay_congr htable]
      by_cases hkj : k = j
      · subst hkj
        exact Or.inr (updateRateOf_prevDelay k)
      · rw [(updateRateOf_others hkj).1]
        exact hk.imp_left fun h => ⟨(List.mem_cons.mp h.1).resolve_left hkj, h.2⟩

end HubSensors

def Request.table (list : List SensorT) (table : FusionEnum → FusionSensor) :
    Request → FusionEnum → FusionSensor
  | .setEnable handle en =>
    match handle.fusionIndex with
    | some i => Function.update table i { table i with enabled := decide (en ≠ 0) }
    | none => table
  | .setDelay handle ns =>
    if ns < 0 then table
    else
      match handle.fusionIndex with
      | some i => Function.update table i
          { table i with delay := clampDelay list handle (toUShort (ns / 1000000)) }
      | none => table

namespace HubSensors

variable {s t : HubSensors F} {K : Kernel} {k : RateSensor} {list : List SensorT}

theorem delaySwitch_table (delay : ℕ) (handle : SensorHandle) :
    (s.delaySwitch K delay handle).2.mFusionSensors =
      match handle.fusionIndex with
      | some i => Function.update s.mFusionSensors i { s.mFusionSensors i with delay := delay }
      | none => s.mFusionSensors := by
  cases handle <;> rfl

theorem rateNeeded_congr (h : t.mFusionSensors = s.mFusionSensors) (k : RateSensor) :
    t.rateNeeded k = s.rateNeeded k := by
  cases k with
  | accel => simp only [rateNeeded, isAccelNeeded, h]
  | gyro => simp only [rateNeeded, isGyroNeeded, h]
  | mag => simp only [rateNeeded, isMagNeeded, h]

theorem rateNeeded_iff (k : RateSensor) :
    s.rateNeeded k = true ↔ ∃ i, i ∈ k.users s.mFusionSensors := by
  cases k with
  | accel =>
    rw [rateNeeded, isAccelNeeded_iff]
    simp [RateSensor.users, RateSensor.uses, and_comm]
  | gyro =>
    rw [rateNeeded, isGyroNeeded_iff]
    simp [RateSensor.users, RateSensor.uses, and_comm]
  | mag =>
    rw [rateNeeded, isMagNeeded_iff]
    simp [RateSensor.users, RateSensor.uses, and_comm]

/-- The statics of the needed sensors are at the delays their functions compute. -/
def Fresh (s : HubSensors F) : Prop :=
  ∀ k, s.rateNeeded k = true → s.prevDelay k = s.rateDelay k

theorem Fresh.same (h : s.Fresh) (hst : SameRates s t)
    (htable : t.mFusionSensors = s.mFusionSensors) : t.Fresh := by
  intro k hk
  rw [rateNeeded_congr htable] at hk
  rw [(hst k).1, rateDelay_congr htable]
  exact h k hk

theorem rateCalls_needed_fresh :
    (rateCalls K (fun t k => !t.rateNeeded k) RateSensor.all s).2.Fresh := by
  intro k hk
  rw [rateNeeded_congr (rateCalls_table _ _)] at hk
  refine rateCalls_fresh (fun s t h => ?_) (Or.inl ⟨?_, ?_⟩)
  · funext k
    rw [rateNeeded_congr h]
  · cases k <;> decide
  · rw [hk]
    rfl

theorem Fresh.setDelay (h : s.Fresh) (handle : SensorHandle) (ns : ℤ) :
    (s.setDelay K list handle ns).2.Fresh := by
  by_cases hns : ns < 0
  · rw [HubSensors.setDelay, if_pos hns]
    exact h
  · rw [setDelay_eq_rateCalls list handle hns]
    intro k _
    refine rateCalls_fresh (fun _ _ _ => rfl) (Or.inl ⟨?_, rfl⟩)
    cases k <;> decide

structure Programmed (s : HubSensors F) : Prop where
  cached : s.Cached
  took : ∀ k, s.Took k
  fresh : s.Fresh

theorem Programmed.programmed (h : s.Programmed) (hk : s.rateNeeded k = true) :
    accepted (k.history s.log) = some (s.rateDelay k) :=
  (h.took k).programmed h.cached (h.fresh k hk)

variable [FloatOps F] {H : Stml0xxHeader}

theorem setEnable_table (handle : SensorHandle) (en : ℤ) :
    (s.setEnable H K handle en).2.mFusionSensors =
      (Request.setEnable handle en).table list s.mFusionSensors := by
  have hwake : (s.setEnable H K handle en).2.mFusionSensors =
      (s.nonWake H K (decide (en ≠ 0)) handle).2.mFusionSensors :=
    (wake_setup (s := (s.nonWake H K (decide (en ≠ 0)) handle).2) H K (decide (en ≠ 0)) handle
      (s.nonWake H K (decide (en ≠ 0)) handle).1).table
  rw [hwake]
  cases hf : s.nonWakeSwitch H (decide (en ≠ 0)) handle with
  | none =>
    rw [nonWake_none K hf]
    cases handle with
    | ID_A | ID_G | ID_UNCALIB_GYRO | ID_GAME_RV | ID_LA | ID_GRAVITY | ID_M | ID_UM | ID_OR
    | ID_GEOMAG_RV | ID_RV => cases hf
    | _ => rfl
  | some found =>
    obtain ⟨t, m⟩ := found
    rw [(nonWake_spec K hf).1, nonWakeSwitch_setFlag hf, setFlag, Request.table]
    cases handle.fusionIndex <;> rfl

theorem Fresh.setEnable (h : s.Fresh) (handle : SensorHandle) (en : ℤ) :
    (s.setEnable H K handle en).2.Fresh := by
  have hnonWake : (s.nonWake H K (decide (en ≠ 0)) handle).2.Fresh := by
    cases hf : s.nonWakeSwitch H (decide (en ≠ 0)) handle with
    | none =>
      rw [nonWake_none K hf]
      exact h
    | some found =>
      obtain ⟨t, m⟩ := found
      have hcheck : (checkSensors H K ⟨0, m, t⟩).hub.Fresh := by
        rw [checkSensors_eq_rateCalls]
        exact rateCalls_needed_fresh
      have hreset := (resetNineAxis_fuses.trans resetSixAxis_fuses :
        Fuses (applySensors K (checkSensors H K ⟨0, m, t⟩)).hub _)
      rw [nonWake, hf]
      refine hcheck.same ((applySensors_sameRates _).trans hreset.sameRates) ?_
      exact hreset.setup.table.trans (applySensors_spec K _).1
  have hwake := wake_setup (s := (s.nonWake H K (decide (en ≠ 0)) handle).2) H K
    (decide (en ≠ 0)) handle (s.nonWake H K (decide (en ≠ 0)) handle).1
  exact hnonWake.same ((wake_sameRates H _ handle _).trans (recordHandle_sameRates handle _))
    hwake.table

theorem apply_table (r : Request) :
    (s.apply H K list r.op).mFusionSensors = r.table list s.mFusionSensors := by
  cases r with
  | setEnable handle en =>
    exact setEnable_table handle en
  | setDelay handle ns =>
    change (s.setDelay K list handle ns).2.mFusionSensors = _
    rw [Request.table]
    split_ifs with hns
    · rw [setDelay, if_pos hns]
    · rw [(setDelay_rates K list handle hns).mFusionSensors, delaySwitch_table]

theorem Programmed.request (hK : ∀ k, K.Programs k) (h : s.Programmed) (r : Request) :
    (s.apply H K list r.op).Programmed where
  cached := (h.cached.request r).1
  took := fun k => by
    have hP := rateInvariant_took (F := F) (hK k)
    cases r with
    | setEnable handle en => exact (hP.setEnable handle en ⟨h.cached, h.took k⟩).2
    | setDelay handle ns => exact (hP.setDelay list handle ns ⟨h.cached, h.took k⟩).2
  fresh := by
    cases r with
    | setEnable handle en => exact h.fresh.setEnable handle en
    | setDelay handle ns => exact h.fresh.setDelay handle ns

theorem start_took (flags16 : Option (BitVec 16)) (flags24 : Option (BitVec 32)) (k : RateSensor) :
    (HubSensors.start flags16 flags24 : HubSensors F).Took k := rfl

theorem start_programmed (flags16 : Option (BitVec 16)) (flags24 : Option (BitVec 32)) :
    (HubSensors.start flags16 flags24 : HubSensors F).Programmed where
  cached := start_cached flags16 flags24
  took := start_took flags16 flags24
  fresh := fun k hk => by cases k <;> exact absurd hk Bool.false_ne_true

end HubSensors

/-- Whatever was called before and whatever the table holds, an update without fusion leaves the
sensor at the shortest delay of its enabled users within its limits. -/
theorem rate_arbitrated [FloatOps F] (H : Stml0xxHeader) (K : Kernel) (list : List SensorT)
    (flags16 : Option (BitVec 16)) (flags24 : Option (BitVec 32)) (ops : List Op) (k : RateSensor)
    (hK : K.Programs k) (table : FusionEnum → FusionSensor) (hrv : ¬ Fusing table) :
    ∃ ms : ℕ, accepted (k.history ((((HubSensors.start flags16 flags24 : HubSensors F).run H K list
        ops).withTable table).updateRateOf K k).2.log) = some ms ∧
      (ms : ℕ∞) = max (k.minMs : ℕ∞)
        (min (k.maxMs : ℕ∞) (⨅ i ∈ k.users table, ((table i).delay : ℕ∞))) := by
  obtain ⟨hcached, htook⟩ := (HubSensors.rateInvariant_took (F := F) hK).run (H := H) list ops
    ⟨HubSensors.start_cached flags16 flags24, HubSensors.start_took flags16 flags24 k⟩
  have hsame := HubSensors.withTable_sameRates
    (s := (HubSensors.start flags16 flags24 : HubSensors F).run H K list ops) table
  exact ⟨_, (htook.same hsame).updated hK (hcached.same hsame),
    HubSensors.rateDelay_of_not_fusing hrv k⟩

def acceptAll : Kernel := fun _ _ => 0

theorem acceptAll_programs (k : RateSensor) : acceptAll.Programs k := fun _ _ => le_refl 0

def accelAtFifty : FusionEnum → FusionSensor :=
  Function.update fusionTable .ACCEL ⟨true, true, false, false, 50⟩

theorem rate_arbitrated_fifty :
    ∃ ms : ℕ, accepted (RateSensor.history .accel
        ((((HubSensors.start none none : HubSensors ℚ).run .numbered acceptAll (sSensorList true)
          [.setDelay .ID_A 20000000]).withTable accelAtFifty).updateRateOf
            acceptAll .accel).2.log) = some ms ∧
      (ms : ℕ∞) = max (RateSensor.minMs .accel : ℕ∞) (min (RateSensor.maxMs .accel : ℕ∞)
        (⨅ i ∈ RateSensor.users .accel accelAtFifty, ((accelAtFifty i).delay : ℕ∞))) := by
  refine rate_arbitrated .numbered acceptAll (sSensorList true) none none
    [.setDelay .ID_A 20000000] .accel (acceptAll_programs .accel) accelAtFifty ?_
  unfold Fusing
  decide

def FusionCapped (s : HubSensors F) : Prop :=
  Fusing s.mFusionSensors → ∀ k : RateSensor, (∃ i, i ∈ k.users s.mFusionSensors) →
    ∃ ms, accepted (k.history s.log) = some ms ∧ ms ≤ max k.minMs (FUSION_MAX_DELAY_US / 1000)

def FusionAsked (table : FusionEnum → FusionSensor) : Prop :=
  Fusing table → ∀ k : RateSensor, (∃ i, i ∈ k.users table) →
    ∃ i ∈ k.users table, (table i).delay < k.maxMs

theorem fusionCapped_iff {s : HubSensors F} (h : s.Programmed) :
    FusionCapped s ↔ FusionAsked s.mFusionSensors := by
  refine forall_congr' fun hrv => forall_congr' fun k => forall_congr' fun hk => ?_
  rw [h.programmed ((HubSensors.rateNeeded_iff k).mpr hk), ← HubSensors.rateDelay_le_iff hrv]
  constructor
  · rintro ⟨ms, hms, hle⟩
    rw [Option.some.inj hms]
    exact hle
  · intro hle
    exact ⟨_, rfl, hle⟩

/-- Along every run of requests the cap is respected as long as each request leaves some user of
each needed sensor below the slowest rate while fusion runs, and no longer. -/
theorem fusion_capped_iff [FloatOps F] (H : Stml0xxHeader) (K : Kernel) (list : List SensorT)
    (flags16 : Option (BitVec 16)) (flags24 : Option (BitVec 32)) (hK : ∀ k, K.Programs k)
    (requests : List Request) :
    Along (fun (s : HubSensors F) r => s.apply H K list r.op)
        (fun s r => FusionCapped (s.apply H K list r.op)) (.start flags16 flags24) requests ↔
      Along (fun (s : HubSensors F) r => s.apply H K list r.op)
        (fun s r => FusionAsked (r.table list s.mFusionSensors)) (.start flags16 flags24)
        requests := by
  refine along_congr HubSensors.Programmed (fun s r hs => ?_) (fun s r hs _ => hs.request hK r)
    (HubSensors.start_programmed flags16 flags24) requests
  rw [fusionCapped_iff (hs.request hK r), HubSensors.apply_table]

def gameAtTen : List Request := [.setDelay .ID_GAME_RV 10000000, .setEnable .ID_GAME_RV 1]

theorem fusion_capped_game :
    Along (fun (s : HubSensors ℚ) (r : Request) =>
          s.apply .numbered acceptAll (sSensorList true) r.op)
        (fun s (r : Request) => FusionCapped (s.apply .numbered acceptAll (sSensorList true) r.op))
        (.start none none) gameAtTen ↔
      Along (fun (s : HubSensors ℚ) (r : Request) =>
          s.apply .numbered acceptAll (sSensorList true) r.op)
        (fun s (r : Request) => FusionAsked (r.table (sSensorList true) s.mFusionSensors))
        (.start none none) gameAtTen :=
  fusion_capped_iff .numbered acceptAll (sSensorList true) none none acceptAll_programs gameAtTen

/-- Enabled before its first rate request, the game rotation vector runs at the slowest rate. -/
theorem enabled_before_delay_uncapped :
    ¬ Along (fun (s : HubSensors ℚ) (r : Request) =>
        s.apply .numbered acceptAll (sSensorList true) r.op)
      (fun s (r : Request) => FusionCapped (s.apply .numbered acceptAll (sSensorList true) r.op))
      (.start none none) [.setEnable .ID_GAME_RV 1] := by
  intro h
  obtain ⟨ms, hms, hle⟩ := h.1 ⟨.GAME_RV, by decide, by rfl⟩ .accel ⟨.GAME_RV, by rfl⟩
  have hslow : accepted (RateSensor.history .accel
      ((HubSensors.start none none : HubSensors ℚ).apply .numbered acceptAll (sSensorList true)
        (Request.setEnable .ID_GAME_RV 1).op).log) = some 200 := by rfl
  rw [hslow] at hms
  obtain rfl := Option.some.inj hms
  exact absurd hle (by decide)

end Cedric.Hub
