import Cedric.Hub.ReaderLoop
import Cedric.MotoshHal.ReadEvents

/-!
# The rear proximity sensor of the motosh HAL

The second driver of the HAL reads an input device through the circular reader. An
`EV_SYN` puts the pending event into the caller's array, a flush marker the flush
event.
-/

namespace Cedric.MotoshHal

open Hub Runs

def ABS_MISC : ℕ := 0x28
def REAR_PROX_DT_FLUSH : ℤ := 1

/-- The members that reading uses. -/
structure RearProxSensor (F : Type) where
  mInputReader : InputEventCircularReader
  mPendingEvents : SensorsEvent F
  dataFd : InputFd

namespace RearProxSensor

variable {F : Type}

/-- The constructor. `distance` and `timestamp` are what `new` leaves in the event,
unless the `near` attribute sets the distance. -/
def start (memory : ℕ → InputEvent) (distance : F) (timestamp : ℤ) : RearProxSensor F where
  mInputReader := .start 8 memory
  mPendingEvents := ⟨.SENSORS_EVENT_T_SIZE, some .ID_RP, .PROXIMITY, .distance distance, timestamp⟩
  dataFd := ⟨[], none, []⟩

def mFlushEvents (H : MotoshHeader) : SensorsEvent F :=
  ⟨.META_DATA_VERSION, none, .META_DATA, .flushComplete (H.value .ID_RP : ℕ), 0⟩

variable (H : MotoshHeader)

def Yields (event : InputEvent) : Prop :=
  event.type = EV_ABS ∧ event.code = ABS_MISC ∧ event.value = REAR_PROX_DT_FLUSH ∨
    event.type = EV_SYN

/-- `fill` does not fail, and an event that it leaves in the reader yields something. -/
def Answers (s : RearProxSensor F) : Prop :=
  (s.mInputReader.mFreeSpace = 0 ∨ s.dataFd.fault = none) ∧
    ∃ e ∈ s.mInputReader.queued ++ s.dataFd.queue.take s.mInputReader.mFreeSpace, Yields e

variable [FloatOps F]

def processEvent (mPendingEvents : SensorsEvent F) (code : ℕ) (value : ℤ) : SensorsEvent F :=
  if code = ABS_DISTANCE then { mPendingEvents with payload := .distance (ofInt value) }
  else mPendingEvents

/-- The body of the loop; the loop test implies `count > 0`. -/
def handleEvent (mPendingEvents : SensorsEvent F) (event : InputEvent) :
    SensorsEvent F × List (SensorsEvent F) :=
  if event.type = EV_ABS then
    if event.code = ABS_MISC ∧ event.value = REAR_PROX_DT_FLUSH then
      (mPendingEvents, [mFlushEvents H])
    else (processEvent mPendingEvents event.code event.value, [])
  else if event.type = EV_SYN then (mPendingEvents, [mPendingEvents])
  else (mPendingEvents, [])

/-- `decoded` is what the handled events yield. -/
def readEvents (s : RearProxSensor F) (count : ℤ) : ReadResult F × RearProxSensor F :=
  if count < 1 then (⟨0, [], []⟩, s)
  else
    let r := InputEventCircularReader.readInput (handleEvent H) count s.mInputReader s.dataFd
      s.mPendingEvents
    (⟨r.data.length, r.data, (transduce (handleEvent H) s.mPendingEvents r.handled).2⟩,
      ⟨r.reader, r.state, r.dataFd⟩)

variable {H}

theorem handleEvent_nil_iff (mPendingEvents : SensorsEvent F) (event : InputEvent) :
    (handleEvent H mPendingEvents event).2 = [] ↔ ¬ Yields event := by
  have hdiffer : EV_ABS ≠ EV_SYN := by decide
  simp only [handleEvent, Yields]
  by_cases habs : event.type = EV_ABS
  · have hsyn : event.type ≠ EV_SYN := fun h => hdiffer (habs.symm.trans h)
    by_cases hflush : event.code = ABS_MISC ∧ event.value = REAR_PROX_DT_FLUSH <;>
      simp [habs, hflush, hdiffer]
  · by_cases hsyn : event.type = EV_SYN <;> simp [habs, hsyn, hdiffer.symm]

theorem handleEvent_length (mPendingEvents : SensorsEvent F) (event : InputEvent) :
    (handleEvent H mPendingEvents event).2.length ≤ 1 := by
  simp only [handleEvent]
  split_ifs
  · exact le_rfl
  · exact Nat.zero_le 1
  · exact le_rfl
  · exact Nat.zero_le 1

structure ReadSpec (s : RearProxSensor F) (H : MotoshHeader) (count : ℤ) : Prop where
  wf : (s.readEvents H count).2.mInputReader.Wf
  decoded : (s.readEvents H count).1.decoded = (s.readEvents H count).1.data
  ret : (s.readEvents H count).1.ret = (s.readEvents H count).1.data.length
  bounded : (s.readEvents H count).1.data.length ≤ count.toNat
  nil_iff : (s.readEvents H count).1.data = [] ↔ ¬ (1 ≤ count ∧ s.Answers)

theorem read_spec {s : RearProxSensor F} (h : s.mInputReader.Wf) (count : ℤ) :
    s.ReadSpec H count := by
  by_cases hcount : count < 1
  · have hread : s.readEvents H count = (⟨0, [], []⟩, s) := by rw [readEvents, if_pos hcount]
    refine ⟨?_, ?_, ?_, ?_, ?_⟩
    all_goals rw [hread]
    · exact h
    · rfl
    · exact Nat.zero_le _
    · exact iff_of_true rfl fun hboth => by omega
  · have hpos : 1 ≤ count := Int.not_lt.mp hcount
    obtain ⟨es, hspec⟩ := InputEventCircularReader.readInput_spec (handleEvent H) h count s.dataFd
      s.mPendingEvents
    have hnil := InputEventCircularReader.readInput_data_nil_iff (handleEvent H)
      (fun p e => handleEvent_nil_iff p e) h hpos s.dataFd s.mPendingEvents
    have hroom := InputEventCircularReader.readInput_bounded (handleEvent H) (r := s.mInputReader)
      (fun p e => handleEvent_length p e) (by omega : 0 ≤ count) s.dataFd s.mPendingEvents
    refine ⟨?_, ?_, ?_, ?_, ?_⟩
    all_goals rw [readEvents, if_neg hcount]
    · exact hspec.wf
    · exact congrArg Prod.snd hspec.runs
    · dsimp only
      omega
    · refine hnil.trans (not_congr ?_)
      simp only [Answers, hpos, true_and]

end RearProxSensor
end Cedric.MotoshHal
