import Cedric.Hub.ReadEvents

/-!
# Events and the caller's buffer

`readEvents` keeps three slots back for the records that store several events,
but a gyroscope record stores five when all its sensors are enabled. The loop
leaves the buffer exactly when such a record starts in the last but three slot.
-/

namespace Cedric.Hub

open ReadLoop

variable {F : Type}

namespace HubSensors

variable (s : HubSensors F)

def gyroAllEnabled : Bool :=
  s.enabled .GYRO && s.enabled .GAME_RV && s.enabled .LINEAR_ACCEL && s.enabled .GRAVITY &&
    s.enabled .ROTATION_VECT

theorem fanOut_gyro_le : s.fanOut .DT_GYRO ≤ 5 := by
  have h1 := Bool.toNat_le (s.enabled .GYRO)
  have h2 := Bool.toNat_le (s.enabled .GAME_RV)
  have h3 := Bool.toNat_le (s.enabled .LINEAR_ACCEL)
  have h4 := Bool.toNat_le (s.enabled .GRAVITY)
  have h5 := Bool.toNat_le (s.enabled .ROTATION_VECT)
  simp only [fanOut]
  omega

theorem fanOut_gyro_eq_five_iff : s.fanOut .DT_GYRO = 5 ↔ s.gyroAllEnabled = true := by
  simp only [fanOut, gyroAllEnabled]
  cases s.enabled .GYRO <;> cases s.enabled .GAME_RV <;> cases s.enabled .LINEAR_ACCEL <;>
    cases s.enabled .GRAVITY <;> cases s.enabled .ROTATION_VECT <;> decide

theorem fanOut_le_of_ne {d : DataType} (h : d ≠ .DT_GYRO) : s.fanOut d ≤ 3 := by
  have b1 := Bool.toNat_le (s.enabled .ACCEL)
  have b2 := Bool.toNat_le (s.enabled .GEOMAG_RV)
  have b3 := Bool.toNat_le (s.enabled .MAG)
  have b4 := Bool.toNat_le (s.isHandleEnabled .ID_MOTO_GLANCE_GESTURE)
  have b5 := Bool.toNat_le (s.isHandleEnabled .ID_GLANCE_GESTURE)
  cases d <;> simp only [fanOut, ne_eq, reduceCtorEq, not_true_eq_false] at h ⊢ <;> omega

theorem five_le_fanOut_iff (d : DataType) :
    5 ≤ s.fanOut d ↔ d = .DT_GYRO ∧ s.gyroAllEnabled = true := by
  rw [← fanOut_gyro_eq_five_iff]
  constructor
  · intro h
    by_cases hd : d = .DT_GYRO
    · subst hd
      exact ⟨rfl, le_antisymm s.fanOut_gyro_le h⟩
    · have hle := s.fanOut_le_of_ne hd
      omega
  · intro h
    obtain ⟨rfl, h⟩ := h
    exact h.ge

theorem fanOut_le_five (d : DataType) : s.fanOut d ≤ 5 := by
  by_cases hd : d = .DT_GYRO
  · rw [hd]
    exact s.fanOut_gyro_le
  · have hle := s.fanOut_le_of_ne hd
    omega

end HubSensors

/-- Some gyroscope record is decoded with all its sensors enabled when exactly
four slots are left. -/
def Overrun (s : HubSensors F) (dLen : ℤ) (records : List SensorData) : Prop :=
  s.gyroAllEnabled = true ∧ ∃ before b after, records = before ++ b :: after ∧
    b.type = .DT_GYRO ∧ (total (fun b => s.fanOut b.type) before : ℤ) = dLen - 4

variable [FloatOps F]

theorem readEvents_length (H : Stml0xxHeader) (K : Kernel) (buff : SensorData) {dLen : ℤ}
    (h : 1 ≤ dLen) (s : HubSensors F) (records : List SensorData) :
    ((readEvents H K buff dLen s (records.map .full)).events.length : ℤ) ≤ dLen ↔
      ¬ Overrun s dLen records := by
  have hM := (metered H K dLen s).loop_full_le_iff (s := (s, [])) HubSensors.SameSetup.refl buff
    records (n := dLen.toNat) (Nat.zero_le _)
  have hlen : ((readEvents H K buff dLen s (records.map .full)).events.length : ℤ) ≤ dLen ↔
      (metered H K dLen s).measure
        (loop (readRoom dLen) (readBody H K) buff (s, []) (records.map .full)).state ≤
          dLen.toNat := by
    rw [readEvents_of_pos H K buff h]
    have hn : (dLen.toNat : ℤ) = dLen := Int.toNat_of_nonneg (by omega)
    change ((readLoop H K buff dLen s (records.map .full)).state.2.length : ℤ) ≤ dLen ↔
      (readLoop H K buff dLen s (records.map .full)).state.2.length ≤ dLen.toNat
    omega
  rw [hlen, hM]
  apply not_congr
  have hzero : (metered H K dLen s).measure (s, []) = 0 := rfl
  rw [hzero]
  constructor
  · intro hex
    obtain ⟨before, b, after, he, hlt, hgt⟩ := hex
    have hle := s.fanOut_le_five b.type
    have hfive : 5 ≤ s.fanOut b.type := by omega
    obtain ⟨hb, hall⟩ := (s.five_le_fanOut_iff b.type).mp hfive
    exact ⟨hall, before, b, after, he, hb, by omega⟩
  · intro hover
    obtain ⟨hall, before, b, after, he, hb, ht⟩ := hover
    have hfive := (s.five_le_fanOut_iff b.type).mpr ⟨hb, hall⟩
    exact ⟨before, b, after, he, by omega, by omega⟩

theorem readEvents_of_lt_four (H : Stml0xxHeader) (K : Kernel) (buff : SensorData) {dLen : ℤ}
    (h : 1 ≤ dLen) (hlt : dLen < 4) (s : HubSensors F) (replies : List (Reply SensorData)) :
    (readEvents H K buff dLen s replies).events = [] ∧
      (readEvents H K buff dLen s replies).rest = replies := by
  have hroom := (metered H K dLen s).room_eq_false (s := (s, [])) (by
    change dLen - 3 ≤ ((0 : ℕ) : ℤ)
    omega)
  have hloop : readLoop H K buff dLen s replies = ⟨buff, (s, []), replies⟩ :=
    loop_of_no_room _ _ hroom _ _
  rw [readEvents_of_pos H K buff h, hloop]
  exact ⟨rfl, rfl⟩

theorem readEvents_of_four_le (H : Stml0xxHeader) (K : Kernel) (buff : SensorData) {dLen : ℤ}
    (h : 4 ≤ dLen) (s : HubSensors F) {records : List SensorData}
    (hprod : ∃ b ∈ records, 0 < s.fanOut b.type) :
    (readEvents H K buff dLen s (records.map .full)).events ≠ [] ∧
      (readEvents H K buff dLen s (records.map .full)).rest.length < records.length := by
  obtain ⟨b, hb, hfan⟩ := hprod
  rw [readEvents_of_pos H K buff (by omega)]
  constructor
  · intro hnil
    have hle := le_total_of_mem (fun b => s.fanOut b.type) hb
    have hcases := (metered H K dLen s).loop_full_cases (s := (s, [])) HubSensors.SameSetup.refl
      buff records
    have hzero : (metered H K dLen s).measure
        (loop (readRoom dLen) (readBody H K) buff (s, []) (records.map .full)).state = 0 :=
      congrArg List.length hnil
    have hstart : (metered H K dLen s).measure (s, []) = 0 := rfl
    rw [hzero, hstart] at hcases
    rcases hcases with hc | hc <;> omega
  · cases records with
    | nil => cases hb
    | cons c records =>
      have hroom := ((metered H K dLen s).room_iff (s, [])).mpr (by
        change ((0 : ℕ) : ℤ) < dLen - 3
        omega)
      have hrest := rest_length_le (readRoom dLen) (readBody H K) c (readBody H K c (s, []))
        (records.map .full)
      rw [readLoop, List.map_cons, loop_full _ _ hroom]
      rw [List.length_map] at hrest
      exact Nat.lt_succ_of_le hrest

/-- Every event lies inside `d[0..dLen)` unless the five-event record overruns it. -/
theorem readEvents_inBounds_iff (H : Stml0xxHeader) (K : Kernel) (buff : SensorData) {dLen : ℤ}
    (h : 1 ≤ dLen) (s : HubSensors F) (records : List SensorData) :
    (∀ k, k < (readEvents H K buff dLen s (records.map .full)).events.length → (k : ℤ) < dLen) ↔
      ¬ Overrun s dLen records := by
  rw [← readEvents_length H K buff h]
  constructor
  · intro hk
    by_contra hgt
    have hlast := hk dLen.toNat (by omega)
    omega
  · intro hle k hk
    omega

theorem readEvents_inBounds_start :
    ¬ Overrun (HubSensors.start none none : HubSensors ℚ) 4 [.blank .DT_GYRO, .blank .DT_ALS] ∧
      ∀ k, k < (readEvents .numbered (fun _ _ => 0) (.blank (.other 0)) 4
        (HubSensors.start none none : HubSensors ℚ)
        [.full (.blank .DT_GYRO), .full (.blank .DT_ALS)]).events.length → (k : ℤ) < 4 := by
  have hover : ¬ Overrun (HubSensors.start none none : HubSensors ℚ) 4
      [.blank .DT_GYRO, .blank .DT_ALS] := fun h => absurd h.1 (by decide)
  exact ⟨hover, (readEvents_inBounds_iff .numbered (fun _ _ => 0) (.blank (.other 0)) (by decide)
    (.start none none) [.blank .DT_GYRO, .blank .DT_ALS]).mpr hover⟩

def gyroStart : HubSensors ℚ :=
  (HubSensors.start none none).enableAll .numbered (fun _ _ => 0)
    [.ID_G, .ID_GAME_RV, .ID_LA, .ID_GRAVITY, .ID_RV]

/-- One gyroscope record stores `d[4]` of a four-event buffer. -/
theorem readEvents_writes_past_four_slots :
    ¬ ∀ k, k < (readEvents .numbered (fun _ _ => 0) (.blank (.other 0)) 4 gyroStart
      [.full (.blank .DT_GYRO)]).events.length → (k : ℤ) < 4 := by
  decide +kernel

end Cedric.Hub
