import Cedric.Hub.RecordFrames

/-!
# Which record writes which raw sample

The raw samples of the shared fusion data belong to their own record types. The
glance case runs on into the magnetometer case, and this is the one way a record
writes another sensor's sample.
-/

namespace Cedric.Hub

open Runs

variable {F : Type} [FloatOps F]

def NoMag (es : List (Event F)) : Prop := ∀ e ∈ es, e.type ≠ .MAGNETIC_FIELD

/-- `r` is what a record leaves and emits: a raw sample changes on a record of its
own type only, and the magnetometer reports on its own records only. -/
structure RawFrame (s : HubSensors F) (b : SensorData) (r : HubSensors F × List (Event F)) :
    Prop where
  accel : b.type ≠ .DT_ACCEL → r.1.mFusionData.accel = s.mFusionData.accel
  gyro : b.type ≠ .DT_GYRO → r.1.mFusionData.gyro = s.mFusionData.gyro
  mag : b.type ≠ .DT_MAG → r.1.mFusionData.mag = s.mFusionData.mag
  events : b.type ≠ .DT_MAG → NoMag r.2

def QuietGlance (s : HubSensors F) (b : SensorData) : Prop :=
  b.type = .DT_GLANCE → s.enabled .MAG = false ∧ b.cart 0 CONVERT_M = s.mFusionData.mag

namespace HubSensors

variable (s : HubSensors F) (b : SensorData)

theorem onAccel_raw :
    (s.onAccel b).1.mFusionData.gyro = s.mFusionData.gyro ∧
      (s.onAccel b).1.mFusionData.mag = s.mFusionData.mag := by
  simp only [onAccel]
  split_ifs <;> exact ⟨rfl, rfl⟩

theorem gyroGame_raw :
    s.gyroGame.1.mFusionData.accel = s.mFusionData.accel ∧
      s.gyroGame.1.mFusionData.mag = s.mFusionData.mag := by
  simp only [gyroGame]
  split_ifs <;> exact ⟨rfl, rfl⟩

theorem gyroRotation_raw :
    s.gyroRotation.1.mFusionData.accel = s.mFusionData.accel ∧
      s.gyroRotation.1.mFusionData.mag = s.mFusionData.mag := by
  simp only [gyroRotation]
  split_ifs <;> exact ⟨rfl, rfl⟩

theorem onGyro_raw :
    (s.onGyro b).1.mFusionData.accel = s.mFusionData.accel ∧
      (s.onGyro b).1.mFusionData.mag = s.mFusionData.mag := by
  obtain ⟨ha, hm⟩ := (s.storeGyro b).gyroGame_raw
  obtain ⟨ha', hm'⟩ := (s.storeGyro b).gyroGame.1.gyroRotation_raw
  exact ⟨ha'.trans ha, hm'.trans hm⟩

theorem handleRecord_noMag (H : Stml0xxHeader) (K : Kernel)
    (hb : .MAGNETIC_FIELD ∉ b.type.eventTypes) : NoMag (s.handleRecord H K b).2 := by
  intro e he heq
  have hmem := handleRecord_typed H K b e he
  rw [heq] at hmem
  exact hb hmem

theorem onGlance_rawFrame_iff (hb : b.type = .DT_GLANCE) :
    RawFrame s b (s.onGlance b) ↔
      s.enabled .MAG = false ∧ b.cart 0 CONVERT_M = s.mFusionData.mag := by
  have hne : b.type ≠ .DT_MAG := by simp [hb]
  constructor
  · intro h
    refine ⟨?_, h.mag hne⟩
    by_contra hon
    rw [Bool.not_eq_false] at hon
    apply h.events hne ((b.cart 0 CONVERT_M).event .ID_M .MAGNETIC_FIELD b.status) _ rfl
    have hmag : (s.storeMag b).enabled .MAG = true := hon
    simp only [onGlance, onMag, hmag, emit]
    simp [storeMag]
  · intro h
    obtain ⟨hoff, hcart⟩ := h
    have hmag : (s.storeMag b).enabled .MAG = false := hoff
    have hnone : (s.onMag b).2 = [] := by
      rw [onMag, hmag]
      rfl
    have hown : Typed [.MOTO_GLANCE_GESTURE, .GLANCE_GESTURE] (s.onGlance b).2 := by
      rw [onGlance, hnone]
      exact typed_append (typed_append (typed_emit List.mem_cons_self)
        (typed_emit (List.mem_cons_of_mem _ List.mem_cons_self))) (typed_nil _)
    refine ⟨fun _ => rfl, fun _ => rfl, fun _ => hcart, fun _ e he heq => ?_⟩
    have hmem := hown e he
    rw [heq] at hmem
    exact absurd hmem (by decide)

theorem handleRecord_raw_of_signal (H : Stml0xxHeader) (K : Kernel)
    (hb : b.type.isSample = false) :
    (s.handleRecord H K b).1.mFusionData = s.mFusionData := by
  have hdata : (s.handleRecord H K b).1.signal.mFusionData = s.signal.mFusionData := by
    rw [handleRecord_signal H K b hb]
  exact hdata

theorem handleRecord_rawFrame (H : Stml0xxHeader) (K : Kernel) (hb : b.type ≠ .DT_GLANCE) :
    RawFrame s b (s.handleRecord H K b) := by
  have hevents : b.type ≠ .DT_MAG → NoMag (s.handleRecord H K b).2 := by
    intro hm
    apply s.handleRecord_noMag b H K
    generalize b.type = type at hb hm
    cases type <;> simp_all [DataType.eventTypes]
  cases hs : b.type.isSample with
  | false =>
    have hraw := s.handleRecord_raw_of_signal b H K hs
    exact ⟨fun _ => by rw [hraw], fun _ => by rw [hraw], fun _ => by rw [hraw], hevents⟩
  | true =>
    cases ht : b.type with
    | DT_ACCEL =>
      obtain ⟨hg, hm⟩ := s.onAccel_raw b
      have hrec : s.handleRecord H K b = s.onAccel b := by simp only [handleRecord, ht]
      exact ⟨fun h => absurd ht h, fun _ => hrec ▸ hg, fun _ => hrec ▸ hm, hevents⟩
    | DT_GYRO =>
      obtain ⟨ha, hm⟩ := s.onGyro_raw b
      have hrec : s.handleRecord H K b = s.onGyro b := by simp only [handleRecord, ht]
      exact ⟨fun _ => hrec ▸ ha, fun h => absurd ht h, fun _ => hrec ▸ hm, hevents⟩
    | DT_MAG =>
      have hrec : s.handleRecord H K b = s.onMag b := by simp only [handleRecord, ht]
      exact ⟨fun _ => by rw [hrec]; rfl, fun _ => by rw [hrec]; rfl, fun h => absurd ht h, hevents⟩
    | DT_STEP_COUNTER =>
      have hrec : s.handleRecord H K b = s.onStepCounter b := by simp only [handleRecord, ht]
      exact ⟨fun _ => by rw [hrec]; rfl, fun _ => by rw [hrec]; rfl, fun _ => by rw [hrec]; rfl,
        hevents⟩
    | DT_GLANCE => exact absurd ht hb
    | _ =>
      rw [ht] at hs
      cases hs

theorem handleRecord_rawFrame_iff (H : Stml0xxHeader) (K : Kernel) :
    RawFrame s b (s.handleRecord H K b) ↔ QuietGlance s b := by
  by_cases hb : b.type = .DT_GLANCE
  · have hrec : s.handleRecord H K b = s.onGlance b := by simp only [handleRecord, hb]
    rw [hrec, s.onGlance_rawFrame_iff b hb, QuietGlance]
    exact ⟨fun h _ => h, fun h => h hb⟩
  · exact iff_of_true (s.handleRecord_rawFrame b H K hb) (fun h => absurd h hb)

end HubSensors

/-- Over any stream the frame holds at every record exactly if every glance record
of the stream is quiet. -/
theorem rawFrame_along_iff (H : Stml0xxHeader) (K : Kernel) (s : HubSensors F)
    (records : List SensorData) :
    Along (fun t b => (t.handleRecord H K b).1) (fun t b => RawFrame t b (t.handleRecord H K b))
        s records ↔
      Along (fun t b => (t.handleRecord H K b).1) QuietGlance s records :=
  along_congr (fun _ => True) (fun t b _ => t.handleRecord_rawFrame_iff b H K)
    (fun _ _ _ _ => trivial) trivial records

/-- A glance record of another time than 0 moves the magnetometer's time. -/
theorem glance_record_writes_mag :
    ¬ Along (fun t b => (t.handleRecord .numbered (fun _ _ => 0) b).1)
      (fun t b => RawFrame t b (t.handleRecord .numbered (fun _ _ => 0) b))
      (HubSensors.start none none : HubSensors ℚ) [⟨7, .DT_GLANCE, 0, fun _ => 0⟩] := by
  intro h
  exact absurd (congrArg CartData.timestamp (h.1.mag (by decide))) (by decide)

end Cedric.Hub
