import Cedric.Hub.RecordFrames
import Cedric.Lib.Epochs

/-!
# The step counter over hub resets

The hub restarts its counter at a reset and the code adds the last reported
value from then on. Over a stream of records this is the counter of restarting
epochs, as long as the total count fits in 32 bits.
-/

namespace Cedric.Hub

open Runs Epochs

variable {F : Type} [FloatOps F]

def rawSteps (records : List SensorData) : List (BitVec 32) :=
  records.filterMap fun b => if b.type = .DT_STEP_COUNTER then some b.stepcount else none

def Payload.steps : Payload F → Option (BitVec 64)
  | .stepCounter n => some n
  | _ => none

def stepReports (es : List (Event F)) : List (BitVec 64) :=
  es.filterMap fun e => if e.type = .STEP_COUNTER then e.payload.steps else none

namespace HubSensors

/-- The two statics hold the count before this epoch and the count so far. -/
structure Tracks (s : HubSensors F) (c : Counter) : Prop where
  stepOffset : s.stepOffset.toNat = c.base
  lastStepcount : s.lastStepcount.toNat = c.base + c.prev

variable {s : HubSensors F} {c : Counter}

omit [FloatOps F] in
theorem Tracks.step (h : s.Tracks c) (b : SensorData)
    (hfit : ∀ x ∈ (c.step b.stepcount.toNat).2, x < 2 ^ 32) :
    (s.onStepCounter b).1.Tracks (c.step b.stepcount.toNat).1 := by
  obtain ⟨hoff, hlast⟩ := h
  have hl := s.lastStepcount.isLt
  by_cases hlt : b.stepcount.toNat < c.prev
  · have hstep : c.step b.stepcount.toNat =
        (⟨c.base + c.prev, b.stepcount.toNat⟩, [c.base + c.prev + b.stepcount.toNat]) := by
      simp only [Counter.step, hlt, ↓reduceIte]
    rw [hstep] at hfit ⊢
    have hsum := hfit _ List.mem_cons_self
    have hreset : b.stepcount + s.stepOffset < s.lastStepcount := by
      rw [BitVec.lt_def, BitVec.toNat_add]
      omega
    have hnew : (b.stepcount + s.lastStepcount).toNat = c.base + c.prev + b.stepcount.toNat := by
      rw [BitVec.toNat_add]
      omega
    simp only [onStepCounter, hreset, ↓reduceIte]
    exact ⟨hlast, hnew⟩
  · have hstep : c.step b.stepcount.toNat =
        (⟨c.base, b.stepcount.toNat⟩, [c.base + b.stepcount.toNat]) := by
      simp only [Counter.step, hlt, ↓reduceIte]
    rw [hstep] at hfit ⊢
    have hsum := hfit _ List.mem_cons_self
    have hnew : (b.stepcount + s.stepOffset).toNat = c.base + b.stepcount.toNat := by
      rw [BitVec.toNat_add]
      omega
    have hkeep : ¬ b.stepcount + s.stepOffset < s.lastStepcount := by
      rw [BitVec.lt_def, hnew]
      omega
    simp only [onStepCounter, hkeep, ↓reduceIte]
    exact ⟨hoff, hnew⟩

omit [FloatOps F] in
theorem stepReports_onStepCounter (b : SensorData) :
    (stepReports (s.onStepCounter b).2).map BitVec.toNat =
      [(s.onStepCounter b).1.lastStepcount.toNat] := by
  have hwide : ((s.onStepCounter b).1.lastStepcount.setWidth 64).toNat =
      (s.onStepCounter b).1.lastStepcount.toNat :=
    BitVec.toNat_setWidth_of_le (by decide)
  rw [← hwide]
  rfl

theorem handleRecord_steps (H : Stml0xxHeader) (K : Kernel) (b : SensorData)
    (hb : b.type ≠ .DT_STEP_COUNTER) :
    (s.handleRecord H K b).1.stepOffset = s.stepOffset ∧
      (s.handleRecord H K b).1.lastStepcount = s.lastStepcount ∧
      stepReports (s.handleRecord H K b).2 = [] := by
  have hreports : stepReports (s.handleRecord H K b).2 = [] := by
    apply List.filterMap_eq_nil_iff.mpr
    intro e he
    rw [if_neg]
    intro htype
    have hmem := handleRecord_typed H K b e he
    rw [htype] at hmem
    generalize b.type = type at hb hmem
    cases type <;> simp_all [DataType.eventTypes]
  have hsame (t : HubSensors F) (ht : t.signal = s.signal) :
      t.stepOffset = s.stepOffset ∧ t.lastStepcount = s.lastStepcount :=
    ⟨congrArg (fun u => u.stepOffset) ht, congrArg (fun u => u.lastStepcount) ht⟩
  suffices h : (s.handleRecord H K b).1.stepOffset = s.stepOffset ∧
      (s.handleRecord H K b).1.lastStepcount = s.lastStepcount from ⟨h.1, h.2, hreports⟩
  cases handleRecord_effect (s := s) H K b with
  | books h => exact hsame _ h.signal
  | fuses h =>
    obtain ⟨data, ready, geomag, game, rotation, he⟩ := h
    rw [he]
    exact ⟨rfl, rfl⟩
  | steps h _ => exact absurd h hb
  | oneShot hx h => exact hsame _ (by rw [h, setEnable_oneShot_signal H K hx])

theorem Tracks.run (h : s.Tracks c) (H : Stml0xxHeader) (K : Kernel) (records : List SensorData)
    (hfit : ∀ x ∈ (transduce Counter.step c ((rawSteps records).map BitVec.toNat)).2,
      x < 2 ^ 32) :
    (stepReports (transduce (fun t b => t.handleRecord H K b) s records).2).map BitVec.toNat =
      (transduce Counter.step c ((rawSteps records).map BitVec.toNat)).2 := by
  induction records generalizing s c with
  | nil => rfl
  | cons b records ih =>
    have hreports (es es' : List (Event F)) :
        stepReports (es ++ es') = stepReports es ++ stepReports es' := List.filterMap_append
    by_cases hb : b.type = .DT_STEP_COUNTER
    · have hraw : (rawSteps (b :: records)).map BitVec.toNat =
          b.stepcount.toNat :: (rawSteps records).map BitVec.toNat := by
        simp [rawSteps, hb]
      have hrec : s.handleRecord H K b = s.onStepCounter b := by simp only [handleRecord, hb]
      rw [hraw] at hfit ⊢
      have htracks := h.step b fun x hx => hfit x (List.mem_append_left _ hx)
      have hrest := ih htracks fun x hx => hfit x (List.mem_append_right _ hx)
      simp only [transduce, hreports, hrec, List.map_append, hrest, stepReports_onStepCounter,
        htracks.lastStepcount]
      rfl
    · have hraw : rawSteps (b :: records) = rawSteps records := by simp [rawSteps, hb]
      obtain ⟨hoff, hlast, hnone⟩ := handleRecord_steps (s := s) H K b hb
      have htracks : (s.handleRecord H K b).1.Tracks c :=
        ⟨by rw [hoff]; exact h.stepOffset, by rw [hlast]; exact h.lastStepcount⟩
      rw [hraw] at hfit ⊢
      simp only [transduce, hreports, hnone, List.nil_append]
      exact ih htracks hfit

end HubSensors

/-- The step counter reports the last samples of all earlier epochs plus the current
sample, and its reports never decrease. -/
theorem stepReports_eq_cumulative (H : Stml0xxHeader) (K : Kernel) {s : HubSensors F}
    (hlast : s.lastStepcount = 0) (hoff : s.stepOffset = 0) {records : List SensorData}
    {epochs : List Epoch} (hraw : (rawSteps records).map BitVec.toNat = epochs.flatMap Epoch.samples)
    (hlinked : Linked epochs) (htotal : total epochs < 2 ^ 32) :
    (stepReports (transduce (fun t b => t.handleRecord H K b) s records).2).map BitVec.toNat =
        cumulative 0 epochs ∧
      ((stepReports (transduce (fun t b => t.handleRecord H K b) s records).2).map
        BitVec.toNat).Pairwise (· ≤ ·) := by
  have htracks : s.Tracks ⟨0, 0⟩ := ⟨by rw [hoff]; rfl, by rw [hlast]; rfl⟩
  have hcum := Counter.run_eq_cumulative epochs hlinked
  have hrun := htracks.run H K records (by
    intro x hx
    rw [hraw, hcum] at hx
    have hle := le_total_of_mem_cumulative hx
    omega)
  rw [hraw, hcum] at hrun
  rw [hrun]
  exact ⟨rfl, cumulative_sorted 0 epochs⟩

theorem stepReports_after_reset :
    (stepReports (transduce (fun t b => t.handleRecord .numbered (fun _ _ => 0) b)
      (HubSensors.start none none : HubSensors ℚ)
      [⟨0, .DT_STEP_COUNTER, 0, fun i => if i = 3 then 5 else 0⟩,
        ⟨0, .DT_STEP_COUNTER, 0, fun i => if i = 3 then 2 else 0⟩]).2).map BitVec.toNat = [5, 7] :=
  (stepReports_eq_cumulative .numbered (fun _ _ => 0) rfl rfl
    (by decide) (List.isChain_cons_cons.mpr ⟨by decide, List.isChain_singleton _⟩ :
      Linked [⟨5, [], List.pairwise_singleton _ _⟩, ⟨2, [], List.pairwise_singleton _ _⟩])
    (by decide)).1

end Cedric.Hub
