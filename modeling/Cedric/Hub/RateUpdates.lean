import Cedric.Hub.Operations
import Cedric.Lib.Setter

/-!
# Refused rates

Each of the three rate functions keeps the last delay it sent in a static. Seen
through the calls of its own sensor the static is the cache of a setter, so a
result of 0 is wrong exactly for a stale delay.
-/

namespace Cedric.Hub

open Runs Setter

variable {F : Type}

inductive RateSensor
  | accel | gyro | mag
  deriving DecidableEq

namespace RateSensor

def all : List RateSensor := [.accel, .gyro, .mag]

def call : RateSensor → ℕ → Sys
  | .accel => .setAccDelay
  | .gyro => .setGyroDelay
  | .mag => .setMagDelay

def delayOf : RateSensor → Sys → Option ℕ
  | .accel, .setAccDelay ms => some ms
  | .gyro, .setGyroDelay ms => some ms
  | .mag, .setMagDelay ms => some ms
  | _, _ => none

def history (k : RateSensor) (log : Log) : History ℕ :=
  log.filterMap fun e => (k.delayOf e.1).map fun ms => (ms, e.2)

theorem delayOf_call (k k' : RateSensor) (ms : ℕ) :
    k.delayOf (k'.call ms) = if k = k' then some ms else none := by
  cases k <;> cases k' <;> rfl

theorem history_cons {k : RateSensor} {c : Sys} (h : k.delayOf c = none) (r : ℤ) (log : Log) :
    k.history ((c, r) :: log) = k.history log := by
  simp [history, h]

theorem history_call (k : RateSensor) (ms : ℕ) (r : ℤ) (log : Log) :
    k.history ((k.call ms, r) :: log) = (ms, r) :: k.history log := by
  simp [history, delayOf_call]

end RateSensor

structure RateCall (F : Type) where
  sensor : RateSensor
  hub : HubSensors F

inductive Request
  | setEnable (handle : SensorHandle) (en : ℤ)
  | setDelay (handle : SensorHandle) (ns : ℤ)

def Request.op : Request → Op
  | .setEnable handle en => .setEnable handle en
  | .setDelay handle ns => .setDelay handle ns

namespace HubSensors

variable (s t : HubSensors F)

def prevDelay : RateSensor → ℕ
  | .accel => s.accelPrevDelay
  | .gyro => s.gyroPrevDelay
  | .mag => s.magPrevDelay

def rateDelay : RateSensor → ℕ
  | .accel => s.delayFor FusionSensor.usesAccel ACCEL_MAX_DELAY_US ACCEL_MIN_DELAY_US
  | .gyro => s.delayFor FusionSensor.usesGyro GYRO_MAX_DELAY_US GYRO_MIN_DELAY_US
  | .mag => s.delayFor FusionSensor.usesMag MAG_MAX_DELAY_US MAG_MIN_DELAY_US

def rateNeeded : RateSensor → Bool
  | .accel => s.isAccelNeeded
  | .gyro => s.isGyroNeeded
  | .mag => s.isMagNeeded

def updateRateOf (K : Kernel) : RateSensor → ℤ × HubSensors F
  | .accel => s.updateAccelRate K
  | .gyro => s.updateGyroRate K
  | .mag => s.updateMagRate K

def rateCalls (K : Kernel) (skipped : HubSensors F → RateSensor → Bool) :
    List RateSensor → HubSensors F → List (RateCall F) × HubSensors F
  | [], s => ([], s)
  | k :: ks, s =>
    if skipped s k then rateCalls K skipped ks s
    else
      let r := rateCalls K skipped ks (s.updateRateOf K k).2
      (⟨k, s⟩ :: r.1, r.2)

def requestCalls (H : Stml0xxHeader) (K : Kernel) (list : List SensorT) :
    Request → List (RateCall F)
  | .setEnable handle en =>
    match s.nonWakeSwitch H (decide (en ≠ 0)) handle with
    | some found => (rateCalls K (fun t k => !t.rateNeeded k) RateSensor.all found.1).1
    | none => []
  | .setDelay handle ns =>
    if ns < 0 then []
    else
      (rateCalls K (fun _ _ => false) RateSensor.all
        (s.delaySwitch K (clampDelay list handle (toUShort (ns / 1000000))) handle).2).1

end HubSensors

namespace RateCall

variable (K : Kernel) (c : RateCall F)

/-- If the function returns 0, the last delay its ioctl succeeded for is the one it computed. -/
def Truthful : Prop :=
  (c.hub.updateRateOf K c.sensor).1 = 0 →
    accepted (c.sensor.history (c.hub.updateRateOf K c.sensor).2.log) =
      some (c.hub.rateDelay c.sensor)

/-- The computed delay is the one of the last ioctl, which failed after one for another delay
had succeeded or before any had. -/
def Stale : Prop := Setter.Stale (c.hub.rateDelay c.sensor) (c.sensor.history c.hub.log)

end RateCall

namespace HubSensors

variable {s t : HubSensors F} {K : Kernel}

theorem delayFor_pos (uses : FusionSensor → Bool) {maxUs minUs : ℕ} (h : 1000 ≤ minUs) :
    0 < s.delayFor uses maxUs minUs := by
  have hmin : 0 < minUs / 1000 := Nat.div_pos h (by decide)
  exact hmin.trans_le (le_max_right _ _)

theorem rateDelay_pos (k : RateSensor) : 0 < s.rateDelay k := by
  cases k with
  | accel => exact delayFor_pos _ (by decide)
  | gyro => exact delayFor_pos _ (by decide)
  | mag => exact delayFor_pos _ (by decide)

theorem updateRateOf_eq (k : RateSensor) :
    ∃ store : ℕ → HubSensors F → HubSensors F,
      (∀ ms t, (store ms t).log = t.log ∧ (store ms t).prevDelay k = ms ∧
        ∀ k' ≠ k, (store ms t).prevDelay k' = t.prevDelay k') ∧
      s.updateRateOf K k = s.updateRate K (s.rateDelay k) (s.prevDelay k) k.call store := by
  cases k with
  | accel =>
    refine ⟨fun d t => { t with accelPrevDelay := d }, fun ms t => ⟨rfl, rfl, ?_⟩, rfl⟩
    rintro (_ | _ | _) hk
    exacts [absurd rfl hk, rfl, rfl]
  | gyro =>
    refine ⟨fun d t => { t with gyroPrevDelay := d }, fun ms t => ⟨rfl, rfl, ?_⟩, rfl⟩
    rintro (_ | _ | _) hk
    exacts [rfl, absurd rfl hk, rfl]
  | mag =>
    refine ⟨fun d t => { t with magPrevDelay := d }, fun ms t => ⟨rfl, rfl, ?_⟩, rfl⟩
    rintro (_ | _ | _) hk
    exacts [rfl, rfl, absurd rfl hk]

/-- The statics hold the last delays sent, and 0 before the first. -/
def Cached (s : HubSensors F) : Prop :=
  ∀ k : RateSensor, s.prevDelay k = (sent (k.history s.log)).getD 0

theorem Cached.sent_iff (h : s.Cached) (k : RateSensor) :
    sent (k.history s.log) = some (s.rateDelay k) ↔ s.rateDelay k = s.prevDelay k := by
  rw [h k]
  cases hsent : sent (k.history s.log) with
  | none =>
    have hpos := rateDelay_pos (s := s) k
    simp only [reduceCtorEq, Option.getD_none, false_iff]
    exact hpos.ne'
  | some ms =>
    simp only [Option.some.injEq, Option.getD_some]
    exact eq_comm

theorem updateRateOf_write (h : s.Cached) (k : RateSensor) :
    ((s.updateRateOf K k).1, k.history (s.updateRateOf K k).2.log) =
      write (K s.log (k.call (s.rateDelay k))) (s.rateDelay k) (k.history s.log) := by
  obtain ⟨store, hstore, heq⟩ := updateRateOf_eq (s := s) (K := K) k
  rw [heq, updateRate, write]
  by_cases hsame : s.rateDelay k = s.prevDelay k
  · rw [if_neg (not_not.mpr hsame), if_pos ((h.sent_iff k).mpr hsame)]
  · rw [if_pos hsame, if_neg fun hsent => hsame ((h.sent_iff k).mp hsent)]
    dsimp only
    rw [(hstore _ _).1]
    exact congrArg _ (k.history_call _ _ _)

theorem updateRateOf_others {k k' : RateSensor} (hk : k' ≠ k) :
    (s.updateRateOf K k).2.prevDelay k' = s.prevDelay k' ∧
      k'.history (s.updateRateOf K k).2.log = k'.history s.log := by
  obtain ⟨store, hstore, heq⟩ := updateRateOf_eq (s := s) (K := K) k
  rw [heq, updateRate]
  split_ifs
  · obtain ⟨hlog, -, hprev⟩ := hstore (s.rateDelay k) (s.syscall K (k.call (s.rateDelay k))).2
    dsimp only
    rw [hlog]
    refine ⟨hprev k' hk, RateSensor.history_cons ?_ _ _⟩
    rw [RateSensor.delayOf_call, if_neg hk]
  · exact ⟨rfl, rfl⟩

theorem updateRateOf_prevDelay (k : RateSensor) :
    (s.updateRateOf K k).2.prevDelay k = s.rateDelay k := by
  obtain ⟨store, hstore, heq⟩ := updateRateOf_eq (s := s) (K := K) k
  rw [heq, updateRate]
  split_ifs with hsame
  · exact (hstore _ _).2.1
  · exact (not_not.mp hsame).symm

theorem Cached.updateRateOf (h : s.Cached) (k : RateSensor) : (s.updateRateOf K k).2.Cached := by
  intro k'
  by_cases hk : k' = k
  · have hset := congrArg Prod.snd (updateRateOf_write (K := K) h k)
    dsimp only at hset
    rw [hk, updateRateOf_prevDelay, hset, sent_write, Option.getD_some]
  · obtain ⟨hprev, hhistory⟩ := updateRateOf_others (s := s) (K := K) hk
    rw [hprev, hhistory]
    exact h k'

theorem truthful_iff (h : s.Cached) (k : RateSensor) :
    RateCall.Truthful K ⟨k, s⟩ ↔ ¬ RateCall.Stale ⟨k, s⟩ := by
  obtain ⟨hresult, hhistory⟩ := Prod.mk.inj (updateRateOf_write (K := K) h k)
  unfold RateCall.Truthful
  dsimp only
  rw [hresult, hhistory]
  exact Setter.truthful_iff _ _ _

def SameRates (s t : HubSensors F) : Prop :=
  ∀ k : RateSensor, t.prevDelay k = s.prevDelay k ∧ k.history t.log = k.history s.log

theorem Cached.same (h : s.Cached) (hst : SameRates s t) : t.Cached := by
  intro k
  rw [(hst k).1, (hst k).2]
  exact h k

theorem SameRates.trans {u : HubSensors F} (h : SameRates s t) (h' : SameRates t u) :
    SameRates s u := fun k => ⟨(h' k).1.trans (h k).1, (h' k).2.trans (h k).2⟩

theorem syscall_sameRates {c : Sys} (hc : ∀ k : RateSensor, k.delayOf c = none) :
    SameRates s (s.syscall K c).2 := fun k => ⟨by cases k <;> rfl, k.history_cons (hc k) _ _⟩

theorem rateCalls_invariant {P : HubSensors F → Prop}
    (keeps : ∀ s k, P s → P (s.updateRateOf K k).2) (skipped : HubSensors F → RateSensor → Bool)
    (ks : List RateSensor) (h : P s) :
    P (rateCalls K skipped ks s).2 ∧ ∀ c ∈ (rateCalls K skipped ks s).1, P c.hub := by
  induction ks generalizing s with
  | nil => exact ⟨h, fun c hc => absurd hc List.not_mem_nil⟩
  | cons k ks ih =>
    rw [rateCalls]
    split_ifs
    · exact ih h
    · obtain ⟨hend, hcalls⟩ := ih (keeps s k h)
      refine ⟨hend, fun c hc => ?_⟩
      rcases List.mem_cons.mp hc with rfl | hc
      · exact h
      · exact hcalls c hc

theorem rateCalls_cached (ks : List RateSensor) (h : s.Cached)
    (skipped : HubSensors F → RateSensor → Bool) :
    (rateCalls K skipped ks s).2.Cached ∧ ∀ c ∈ (rateCalls K skipped ks s).1, c.hub.Cached :=
  rateCalls_invariant (fun _ k ht => ht.updateRateOf k) skipped ks h

theorem checkSensors_eq_rateCalls (H : Stml0xxHeader) (K : Kernel) (c : Pending F) :
    (checkSensors H K c).hub =
      (rateCalls K (fun t k => !t.rateNeeded k) RateSensor.all c.hub).2 := by
  have hcheck (k : RateSensor) (bit : Fin 32) (c : Pending F) :
      (checkSensor (fun t => t.rateNeeded k) bit (fun t => t.updateRateOf K k) c).hub =
        if !c.hub.rateNeeded k then c.hub else (c.hub.updateRateOf K k).2 := by
    rw [checkSensor]
    cases c.hub.rateNeeded k <;> rfl
  have hstep (k : RateSensor) (ks : List RateSensor) (t : HubSensors F) :
      (rateCalls K (fun t k => !t.rateNeeded k) (k :: ks) t).2 =
        (rateCalls K (fun t k => !t.rateNeeded k) ks
          (if !t.rateNeeded k then t else (t.updateRateOf K k).2)).2 := by
    rw [rateCalls]
    split_ifs <;> rfl
  rw [RateSensor.all, hstep, hstep, hstep, ← hcheck .accel (H.sensorBit .M_ACCEL),
    ← hcheck .gyro (H.sensorBit .M_GYRO), ← hcheck .mag (H.sensorBit .M_ECOMPASS)]
  rfl

theorem setDelay_eq_rateCalls (list : List SensorT) (handle : SensorHandle) {ns : ℤ}
    (hns : ¬ ns < 0) :
    (s.setDelay K list handle ns).2 = (rateCalls K (fun _ _ => false) RateSensor.all
      (s.delaySwitch K (clampDelay list handle (toUShort (ns / 1000000))) handle).2).2 := by
  have hall (t : HubSensors F) : (rateCalls K (fun _ _ => false) RateSensor.all t).2 =
      (((t.updateAccelRate K).2.updateGyroRate K).2.updateMagRate K).2 := by
    simp only [RateSensor.all, rateCalls, Bool.false_eq_true, ↓reduceIte, updateRateOf]
  rw [hall, HubSensors.setDelay, if_neg hns]

theorem applySensors_sameRates (c : Pending F) : SameRates c.hub (applySensors K c).hub := by
  rw [applySensors]
  split_ifs
  · have hcall : SameRates c.hub (c.hub.syscall K (.setSensors c.newEnabled)).2 :=
      syscall_sameRates fun k => by cases k <;> rfl
    exact hcall.trans fun k => ⟨by cases k <;> rfl, rfl⟩
  · exact fun k => ⟨rfl, rfl⟩

theorem wake_sameRates (H : Stml0xxHeader) (newState : Bool) (handle : SensorHandle) (err : ℤ) :
    SameRates s (s.wake H K newState handle err).2 := by
  rw [wake]
  cases s.wakeSwitch H newState handle with
  | none => exact fun k => ⟨rfl, rfl⟩
  | some m =>
    dsimp only
    split_ifs
    · have hcall : SameRates s (s.syscall K (.setWakeSensors m)).2 :=
        syscall_sameRates fun k => by cases k <;> rfl
      exact hcall.trans fun k => ⟨by cases k <;> rfl, rfl⟩
    · exact fun k => ⟨rfl, rfl⟩

theorem delaySwitch_sameRates (delay : ℕ) (handle : SensorHandle) :
    SameRates s (s.delaySwitch K delay handle).2 := by
  cases handle with
  | ID_L => exact syscall_sameRates fun k => by cases k <;> rfl
  | ID_STEP_COUNTER => exact syscall_sameRates fun k => by cases k <;> rfl
  | _ => exact fun k => ⟨by cases k <;> rfl, rfl⟩

theorem nonWakeSwitch_sameRates {H : Stml0xxHeader} {newState : Bool} {handle : SensorHandle}
    {m : BitVec 32} (hf : s.nonWakeSwitch H newState handle = some (t, m)) : SameRates s t := by
  rcases nonWakeSwitch_found hf with rfl | ⟨i, rfl⟩
  · exact fun k => ⟨rfl, rfl⟩
  · exact fun k => ⟨by cases k <;> rfl, rfl⟩

theorem recordHandle_sameRates (handle : SensorHandle) (newState : Bool) :
    SameRates s (s.recordHandle handle newState) := fun k => ⟨by cases k <;> rfl, rfl⟩

theorem Fuses.sameRates (h : Fuses s t) : SameRates s t := by
  obtain ⟨data, ready, geomag, game, rotation, rfl⟩ := h
  exact fun k => ⟨by cases k <;> rfl, rfl⟩

section Requests
variable {H : Stml0xxHeader} {list : List SensorT}

theorem Cached.setDelay (h : s.Cached) (handle : SensorHandle) (ns : ℤ) :
    (s.setDelay K list handle ns).2.Cached ∧
      ∀ c ∈ s.requestCalls H K list (.setDelay handle ns), c.hub.Cached := by
  rw [requestCalls]
  split_ifs with hns
  · rw [HubSensors.setDelay, if_pos hns]
    exact ⟨h, fun c hc => absurd hc List.not_mem_nil⟩
  · rw [setDelay_eq_rateCalls list handle hns]
    exact rateCalls_cached RateSensor.all (h.same (delaySwitch_sameRates _ handle)) _

variable [FloatOps F]

theorem Cached.setEnable (h : s.Cached) (handle : SensorHandle) (en : ℤ) :
    (s.setEnable H K handle en).2.Cached ∧
      ∀ c ∈ s.requestCalls H K list (.setEnable handle en), c.hub.Cached := by
  have hnonWake : (s.nonWake H K (decide (en ≠ 0)) handle).2.Cached ∧
      ∀ c ∈ s.requestCalls H K list (.setEnable handle en), c.hub.Cached := by
    rw [nonWake, requestCalls]
    cases hf : s.nonWakeSwitch H (decide (en ≠ 0)) handle with
    | none => exact ⟨h, fun c hc => absurd hc List.not_mem_nil⟩
    | some found =>
      have hfound : found.1.Cached := h.same (nonWakeSwitch_sameRates (m := found.2) hf)
      have hrates := rateCalls_cached (K := K) RateSensor.all hfound
      obtain ⟨hend, hcalls⟩ := hrates fun t k => !t.rateNeeded k
      have hcheck : (checkSensors H K ⟨0, found.2, found.1⟩).hub.Cached := by
        rw [checkSensors_eq_rateCalls]
        exact hend
      refine ⟨hcheck.same ?_, hcalls⟩
      exact (applySensors_sameRates _).trans
        (resetNineAxis_fuses.trans resetSixAxis_fuses).sameRates
  have hwake := hnonWake.1.same (wake_sameRates (K := K) H (decide (en ≠ 0)) handle
    (s.nonWake H K (decide (en ≠ 0)) handle).1)
  exact ⟨hwake.same (recordHandle_sameRates handle _), hnonWake.2⟩

theorem Cached.request (h : s.Cached) (r : Request) :
    (s.apply H K list r.op).Cached ∧ ∀ c ∈ s.requestCalls H K list r, c.hub.Cached := by
  cases r with
  | setEnable handle en => exact h.setEnable handle en
  | setDelay handle ns => exact h.setDelay handle ns

theorem start_cached (flags16 : Option (BitVec 16)) (flags24 : Option (BitVec 32)) :
    (HubSensors.start flags16 flags24 : HubSensors F).Cached := by
  intro k
  cases k <;> rfl

end Requests
end HubSensors

/-- Whenever a rate function returns 0 the sensor runs at the delay it computed, exactly if
no rate function of the run computes a stale delay. -/
theorem rates_truthful_iff [FloatOps F] (H : Stml0xxHeader) (K : Kernel) (list : List SensorT)
    (flags16 : Option (BitVec 16)) (flags24 : Option (BitVec 32)) (requests : List Request) :
    Along (fun (s : HubSensors F) r => s.apply H K list r.op)
        (fun s r => ∀ c ∈ s.requestCalls H K list r, c.Truthful K)
        (.start flags16 flags24) requests ↔
      Along (fun (s : HubSensors F) r => s.apply H K list r.op)
        (fun s r => ∀ c ∈ s.requestCalls H K list r, ¬ c.Stale)
        (.start flags16 flags24) requests := by
  refine along_congr HubSensors.Cached (fun s r hs => ?_) (fun s r hs _ => (hs.request r).1)
    (HubSensors.start_cached _ _) requests
  have hcalls : ∀ c ∈ s.requestCalls H K list r, c.hub.Cached := (hs.request r).2
  refine forall₂_congr fun c hc => ?_
  exact HubSensors.truthful_iff (hcalls c hc) c.sensor

def refuseFirst : Kernel := fun log _ => if log = [] then -5 else 0

/-- The first ioctl for the accelerometer fails; the same request again sends nothing. -/
theorem refused_rate_reported_set :
    ¬ Along (fun (s : HubSensors ℚ) r => s.apply .numbered refuseFirst (sSensorList true) r.op)
      (fun s r => ∀ c ∈ s.requestCalls .numbered refuseFirst (sSensorList true) r,
        c.Truthful refuseFirst)
      (.start none none) [.setDelay .ID_A 20000000, .setDelay .ID_A 20000000] := by
  intro h
  obtain ⟨-, h, -⟩ := h
  have hfirst := h _ (List.mem_cons_self ..) (by rfl)
  exact absurd hfirst (by decide)

end Cedric.Hub
