import Cedric.Hub.ReadEvents

/-!
# Failed reads

The loop test compares the result of `read` with 0 alone. `handled` follows the
records its body ran on through any sequence of outcomes: they are the records
read before the first failure, or that failure is met while there is room.
-/

namespace Cedric.Hub

open ReadLoop

variable {F : Type} [FloatOps F]

/-- What a call does on any outcomes of `read` it does on the records before the
first outcome that is not one, and its loop runs on nothing else. -/
structure OnlyReadRecords (H : Stml0xxHeader) (K : Kernel) (buff : SensorData) (dLen : ℤ)
    (s : HubSensors F) (replies : List (Reply SensorData)) : Prop where
  handled : (handled H K buff dLen s replies).map .full <+: replies.takeWhile Reply.isFull
  events : (readEvents H K buff dLen s replies).events =
    (readEvents H K buff dLen s (replies.takeWhile Reply.isFull)).events
  hub : (readEvents H K buff dLen s replies).hub =
    (readEvents H K buff dLen s (replies.takeWhile Reply.isFull)).hub

def FailsWithRoom (s : HubSensors F) (dLen : ℤ) (replies : List (Reply SensorData)) : Prop :=
  ∃ before errno after, replies = List.map Reply.full before ++ .error errno :: after ∧
    (total (fun b => s.fanOut b.type) before : ℤ) < dLen - 3

theorem onlyReadRecords_iff (H : Stml0xxHeader) (K : Kernel) (buff : SensorData) (dLen : ℤ)
    (s : HubSensors F) (replies : List (Reply SensorData)) :
    OnlyReadRecords H K buff dLen s replies ↔ ¬ FailsWithRoom s dLen replies := by
  by_cases hpos : 1 ≤ dLen
  · have hM := (metered H K dLen s).processed_prefix_iff (s := (s, []))
      HubSensors.SameSetup.refl buff replies
    have hfail : FailsWithRoom s dLen replies ↔ ∃ before errno after,
        replies = List.map Reply.full before ++ .error errno :: after ∧
          (((metered H K dLen s).measure (s, []) +
            total (fun b => s.fanOut b.type) before : ℕ) : ℤ) < dLen - 3 := by
      rw [show (metered H K dLen s).measure (s, []) = 0 from rfl]
      simp only [Nat.zero_add]
      rfl
    rw [← hfail] at hM
    constructor
    · intro h
      have hpre := h.handled
      rw [handled_of_pos H K buff hpos] at hpre
      exact hM.mp hpre
    · intro hnot
      have heq := ((metered H K dLen s).processed_takeWhile_iff (s := (s, []))
        HubSensors.SameSetup.refl buff replies).mpr (by rwa [← hfail])
      rw [← handled_of_pos H K buff hpos, ← handled_of_pos H K buff hpos] at heq
      obtain ⟨hevents, hhub⟩ := readEvents_eq_handled H K buff hpos s replies
      obtain ⟨hevents', hhub'⟩ :=
        readEvents_eq_handled H K buff hpos s (replies.takeWhile Reply.isFull)
      refine ⟨?_, ?_, ?_⟩
      · rw [handled_of_pos H K buff hpos]
        exact hM.mpr hnot
      · rw [hevents, hevents', heq]
      · rw [hhub, hhub', heq]
  · have hlt : dLen < 1 := Int.not_le.mp hpos
    refine iff_of_true ⟨?_, ?_, ?_⟩ ?_
    · rw [handled, if_pos hlt]
      exact List.nil_prefix
    · rw [readEvents, readEvents, if_pos hlt, if_pos hlt]
    · rw [readEvents, readEvents, if_pos hlt, if_pos hlt]
    · intro h
      obtain ⟨before, errno, after, -, hroom⟩ := h
      omega

/-- One step record and a failure: the record is reported twice. -/
theorem failed_read_repeats_record :
    ¬ OnlyReadRecords .numbered (fun _ _ => 0) (.blank (.other 0)) 6
      (HubSensors.start none none : HubSensors ℚ)
      [.full (.blank .DT_STEP_DETECTOR), .error 5] := by
  intro h
  exact absurd (congrArg List.length h.events) (by decide +kernel)

end Cedric.Hub
