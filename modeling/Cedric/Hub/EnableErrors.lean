import Cedric.Hub.DelayErrors
import Cedric.Hub.Masks
import Cedric.Hub.WakeMask

/-!
# The error of `setEnable`

A registration must not fail because an ioctl does. The errors of the two masks
are dropped; that of a rate is dropped only where a mask changes as well, and
otherwise the last sensor needed decides. What a registration leaves behind does
not depend on the answers.
-/

namespace Cedric.Hub

open Answers BitFlags

variable {F : Type}

namespace HubSensors

/-- One of the three blocks of `setEnable`, without the mask. -/
def checkRate (K : Kernel) (c : ℤ × HubSensors F) (k : RateSensor) : ℤ × HubSensors F :=
  if c.2.rateNeeded k then c.2.updateRateOf K k else c

variable (s t : HubSensors F)

def needed (ks : List RateSensor) : List RateSensor := ks.filter fun k => s.rateNeeded k

def neededCalls (ks : List RateSensor) : List Sys := (s.needed ks).flatMap s.due

def neededMask (H : Stml0xxHeader) (mask : BitVec 32) : BitVec 32 :=
  assign (assign (assign mask (H.sensorBit .M_ACCEL) s.isAccelNeeded)
    (H.sensorBit .M_GYRO) s.isGyroNeeded) (H.sensorBit .M_ECOMPASS) s.isMagNeeded

def LastRateSet (K : Kernel) (ks : List RateSensor) : Prop :=
  ∀ k ∈ (s.needed ks).getLast?, ∀ e ∈ ask K s.log (s.neededCalls ks),
    (k.delayOf e.1).isSome = true → e.2 = 0

variable {s t} {K : Kernel}

theorem due_congr (htable : t.mFusionSensors = s.mFusionSensors) {k : RateSensor}
    (hprev : t.prevDelay k = s.prevDelay k) : t.due k = s.due k := by
  rw [due, due, rateDelay_congr htable, hprev]

theorem delayOf_of_mem_neededCalls {ks : List RateSensor} {k : RateSensor} (hk : k ∉ ks) {c : Sys}
    (hc : c ∈ s.neededCalls ks) : k.delayOf c = none := by
  obtain ⟨k', hk', hc⟩ := List.mem_flatMap.mp hc
  have hne : k ≠ k' := by
    rintro rfl
    exact hk (List.mem_filter.mp hk').1
  rw [due] at hc
  split_ifs at hc
  · rw [List.mem_singleton.mp hc, RateSensor.delayOf_call, if_neg hne]
  · exact absurd hc List.not_mem_nil

theorem reply_eq_zero_iff (log : Log) (k : RateSensor) :
    reply (ask K log (s.due k)) = 0 ↔
      ∀ e ∈ ask K log (s.due k), (k.delayOf e.1).isSome = true → e.2 = 0 := by
  rw [due]
  split_ifs
  · simp [ask, RateSensor.delayOf_call]
  · simp [ask]

structure Checked (K : Kernel) (s : HubSensors F) (ks : List RateSensor) (r : ℤ × HubSensors F) :
    Prop where
  asked : Asked K s.log (s.neededCalls ks) r.2.log
  table : r.2.mFusionSensors = s.mFusionSensors
  others : ∀ k ∉ ks, r.2.prevDelay k = s.prevDelay k
  result : r.1 = 0 ↔ s.LastRateSet K ks

theorem Checked.step {ks : List RateSensor} {r : ℤ × HubSensors F} (h : Checked K s ks r)
    {k : RateSensor} (hk : k ∉ ks) : Checked K s (ks ++ [k]) (checkRate K r k) := by
  rw [checkRate, rateNeeded_congr h.table]
  cases hneeded : s.rateNeeded k with
  | false =>
    have hsame : s.needed (ks ++ [k]) = s.needed ks := by simp [needed, hneeded]
    constructor
    · rw [neededCalls, hsame]
      exact h.asked
    · exact h.table
    · exact fun k' hk' => h.others k' fun hmem => hk' (List.mem_append_left _ hmem)
    · rw [LastRateSet, neededCalls, hsame]
      exact h.result
  | true =>
    have hlast : s.needed (ks ++ [k]) = s.needed ks ++ [k] := by simp [needed, hneeded]
    have hcalls : s.neededCalls (ks ++ [k]) = s.neededCalls ks ++ s.due k := by
      rw [neededCalls, hlast, List.flatMap_append, List.flatMap_singleton]
      rfl
    obtain ⟨hasked, hresult⟩ := updateRateOf_asked (s := r.2) (K := K) k
    rw [due_congr h.table (h.others k hk)] at hasked hresult
    constructor
    · rw [hcalls]
      exact h.asked.trans hasked
    · exact (updateRateOf_table k).trans h.table
    · intro k' hk'
      rw [List.mem_append, List.mem_singleton, not_or] at hk'
      exact (updateRateOf_others hk'.2).1.trans (h.others k' hk'.1)
    · rw [if_pos rfl, hresult, reply_eq_zero_iff, LastRateSet, hlast, hcalls, ask_append, h.asked]
      simp only [List.getLast?_append, List.getLast?_singleton, Option.some_or, Option.mem_some_iff,
        forall_eq', List.mem_append]
      constructor
      · rintro hzero e (he | he) hsome
        · -- an ioctl for another sensor
          rw [delayOf_of_mem_neededCalls hk (mem_of_mem_ask he)] at hsome
          cases hsome
        · exact hzero e he hsome
      · exact fun hzero e he => hzero e (.inr he)

theorem checked_foldl {ks : List RateSensor} (hks : ks.Nodup) :
    Checked K s ks (ks.foldl (checkRate K) (0, s)) := by
  induction ks using List.reverseRecOn with
  | nil => exact ⟨rfl, rfl, fun _ _ => rfl, iff_of_true rfl fun k hk => by cases hk⟩
  | append_singleton ks k ih =>
    rw [List.foldl_append, List.foldl_cons, List.foldl_nil]
    obtain ⟨hnodup, -, hne⟩ := List.nodup_append.mp hks
    exact (ih hnodup).step fun hk => hne k hk k (List.mem_singleton.mpr rfl) rfl

theorem checkSensors_eq_foldl (H : Stml0xxHeader) (K : Kernel) (c : Pending F) :
    ((checkSensors H K c).err, (checkSensors H K c).hub) =
      RateSensor.all.foldl (checkRate K) (c.err, c.hub) := by
  have hcheck (k : RateSensor) (bit : Fin 32) (c : Pending F) :
      checkRate K (c.err, c.hub) k =
        ((checkSensor (fun t => t.rateNeeded k) bit (fun t => t.updateRateOf K k) c).err,
          (checkSensor (fun t => t.rateNeeded k) bit (fun t => t.updateRateOf K k) c).hub) := by
    rw [checkRate, checkSensor]
    split_ifs <;> rfl
  rw [RateSensor.all, List.foldl_cons, hcheck .accel (H.sensorBit .M_ACCEL), List.foldl_cons,
    hcheck .gyro (H.sensorBit .M_GYRO), List.foldl_cons, hcheck .mag (H.sensorBit .M_ECOMPASS)]
  rfl

section Enable
variable [FloatOps F] {H : Stml0xxHeader}

/-- `setEnable` returns 0 and leaves the masks, the handles and the fusion table as it does when
every ioctl succeeds. -/
def NeverFails (H : Stml0xxHeader) (K : Kernel) (s : HubSensors F) (handle : SensorHandle)
    (en : ℤ) : Prop :=
  let r := s.setEnable H K handle en
  let r₀ := s.setEnable H acceptAll handle en
  (r.1 = 0 ∧ r₀.1 = 0) ∧ r.2.mEnabled = r₀.2.mEnabled ∧ r.2.mWakeEnabled = r₀.2.mWakeEnabled ∧
    r.2.mEnabledHandles = r₀.2.mEnabledHandles ∧ r.2.mFusionSensors = r₀.2.mFusionSensors

/-- A handle of the first switch changes the mask, or the last sensor needed keeps its rate or
gets its new one. -/
def RateSet (H : Stml0xxHeader) (K : Kernel) (s : HubSensors F) (handle : SensorHandle) (en : ℤ) :
    Prop :=
  ∀ found ∈ s.nonWakeSwitch H (decide (en ≠ 0)) handle,
    found.1.neededMask H found.2 ≠ s.mEnabled ∨ found.1.LastRateSet K RateSensor.all

theorem nonWake_result (K : Kernel) (newState : Bool) (handle : SensorHandle) :
    (s.nonWake H K newState handle).1 = 0 ↔
      ∀ found ∈ s.nonWakeSwitch H newState handle,
        found.1.neededMask H found.2 ≠ s.mEnabled ∨ found.1.LastRateSet K RateSensor.all := by
  rw [nonWake]
  cases hf : s.nonWakeSwitch H newState handle with
  | none => exact iff_of_true rfl fun found hfound => by cases hfound
  | some found =>
    obtain ⟨t, m⟩ := found
    obtain ⟨hrates, hmask⟩ := checkSensors_spec H K ⟨0, m, t⟩
    have hchecked := checkSensors_eq_foldl H K ⟨0, m, t⟩
    have hzero : (checkSensors H K ⟨0, m, t⟩).err = 0 ↔ t.LastRateSet K RateSensor.all := by
      have hchecks : Checked K t RateSensor.all (RateSensor.all.foldl (checkRate K) (0, t)) :=
        checked_foldl (by decide)
      have hresult := hchecks.result
      rw [← hchecked] at hresult
      exact hresult
    have hold : (checkSensors H K ⟨0, m, t⟩).hub.mEnabled = s.mEnabled := by
      rw [hrates.mEnabled]
      rcases nonWakeSwitch_found hf with rfl | ⟨i, rfl⟩ <;> rfl
    have herr : (applySensors K (checkSensors H K ⟨0, m, t⟩)).err =
        if t.neededMask H m ≠ s.mEnabled then 0 else (checkSensors H K ⟨0, m, t⟩).err := by
      rw [applySensors, hold, hmask]
      exact apply_ite Pending.err _ _ _
    simp only [Option.mem_some_iff, forall_eq']
    rw [herr]
    split_ifs with hne
    · exact iff_of_true rfl (.inl hne)
    · rw [hzero]
      exact (or_iff_right hne).symm

theorem setEnable_result (K : Kernel) (handle : SensorHandle) (en : ℤ) :
    (s.setEnable H K handle en).1 = 0 ↔ s.RateSet H K handle en := by
  rw [RateSet, ← nonWake_result]
  change ((s.nonWake H K (decide (en ≠ 0)) handle).2.wake H K (decide (en ≠ 0)) handle
    (s.nonWake H K (decide (en ≠ 0)) handle).1).1 = 0 ↔ _
  cases hf : s.nonWakeSwitch H (decide (en ≠ 0)) handle with
  | none =>
    rw [nonWake_none K hf, wake]
    refine iff_of_true ?_ rfl
    cases s.wakeSwitch H (decide (en ≠ 0)) handle with
    | none => rfl
    | some m =>
      dsimp only
      split_ifs <;> rfl
  | some found =>
    have hwake (t : HubSensors F) : t.wakeSwitch H (decide (en ≠ 0)) handle = none := by
      cases handle <;> first | rfl | cases hf
    rw [wake, hwake]

theorem setEnable_mEnabled (K : Kernel) (handle : SensorHandle) (en : ℤ) :
    (s.setEnable H K handle en).2.mEnabled =
      match s.nonWakeSwitch H (decide (en ≠ 0)) handle with
      | some found => found.1.neededMask H found.2
      | none => s.mEnabled := by
  rw [(setEnable_setup K handle en).2.1]
  cases hf : s.nonWakeSwitch H (decide (en ≠ 0)) handle with
  | none => rw [nonWake_none K hf]
  | some found => exact (nonWake_spec (t := found.1) (m := found.2) K hf).2.1

omit [FloatOps F] in
theorem rateSet_acceptAll (handle : SensorHandle) (en : ℤ) : s.RateSet H acceptAll handle en := by
  intro found _
  refine .inr fun k _ e he _ => ?_
  obtain ⟨before, hanswer⟩ := answer_of_mem_ask he
  exact hanswer

/-- A registration never fails exactly if a mask changes or the last sensor needed has its rate. -/
theorem neverFails_iff (H : Stml0xxHeader) (K : Kernel) (s : HubSensors F) (handle : SensorHandle)
    (en : ℤ) : s.NeverFails H K handle en ↔ s.RateSet H K handle en := by
  constructor
  · rintro ⟨⟨hzero, -⟩, -⟩
    exact (setEnable_result K handle en).mp hzero
  · intro hset
    have hzero := (setEnable_result K handle en).mpr hset
    have hzero' := (setEnable_result acceptAll handle en).mpr
      (rateSet_acceptAll (s := s) (H := H) handle en)
    obtain ⟨hwake, hhandles⟩ := setEnable_wake (s := s) (H := H) K handle en
    obtain ⟨hwake', hhandles'⟩ := setEnable_wake (s := s) (H := H) acceptAll handle en
    refine ⟨⟨hzero, hzero'⟩, ?_, hwake.trans hwake'.symm, hhandles.trans hhandles'.symm, ?_⟩
    · rw [setEnable_mEnabled, setEnable_mEnabled]
    · have htable (K : Kernel) : (s.setEnable H K handle en).2.mFusionSensors =
          (Request.setEnable handle en).table [] s.mFusionSensors := setEnable_table handle en
      rw [htable, htable]

end Enable
end HubSensors

def refuseGyro : Kernel := fun _ c =>
  match c with
  | .setGyroDelay _ => - EIO
  | _ => 0

/-- Both sensors run when gravity asks for a shorter period, so the mask stays. -/
def gravityAtTen : HubSensors ℚ :=
  HubSensors.run .numbered refuseGyro (sSensorList true) (.start none none)
    [.setEnable .ID_A 1, .setEnable .ID_G 1, .setDelay .ID_GRAVITY 10000000]

/-- Registering gravity fails with the gyroscope's rate. -/
theorem refused_gyro_rate_fails :
    ¬ gravityAtTen.NeverFails .numbered refuseGyro .ID_GRAVITY 1 := by
  rintro ⟨⟨hzero, -⟩, -⟩
  exact absurd hzero (by decide +kernel)

end Cedric.Hub
