import Cedric.Hub.Operations
import Cedric.Lib.OneShot

/-!
# The steps of a run

A `readEvents` call is cut into its steps: the records its loop decodes and the
end of the call. `trace` lists the steps of a run of calls and `transduce_trace`
joins them again, so a law of the calls is proved over single records. What a
client sees of a run is its own requests and the events returned.
-/

namespace Cedric.Hub

open ReadLoop Runs

variable {F : Type}

inductive Input
  | setEnable (handle : SensorHandle) (en : ℤ)
  | setDelay (handle : SensorHandle) (ns : ℤ)
  | record (b : SensorData)
  | readEnd (type : DataType)

inductive Observation (F : Type)
  | request (handle : SensorHandle) (en : ℤ)
  | event (e : Event F)

namespace HubSensors

variable [FloatOps F] (H : Stml0xxHeader) (K : Kernel) (list : List SensorT) (s : HubSensors F)

def feed : Input → HubSensors F × List (Observation F)
  | .setEnable handle en => ((s.setEnable H K handle en).2, [.request handle en])
  | .setDelay handle ns => ((s.setDelay K list handle ns).2, [])
  | .record b => ((s.handleRecord H K b).1, (s.handleRecord H K b).2.map .event)
  | .readEnd type => (s.pendingDump H K type, [])

def next (i : Input) : HubSensors F := (s.feed H K list i).1

def operate : Op → HubSensors F × List (Observation F)
  | .setEnable handle en => (s.apply H K list (.setEnable handle en), [.request handle en])
  | .setDelay handle ns => (s.apply H K list (.setDelay handle ns), [])
  | .readEvents buff dLen replies =>
    (s.apply H K list (.readEvents buff dLen replies),
      (Hub.readEvents H K buff dLen s replies).events.map .event)

def inputs : Op → List Input
  | .setEnable handle en => [.setEnable handle en]
  | .setDelay handle ns => [.setDelay handle ns]
  | .readEvents buff dLen replies =>
    if dLen < 1 then []
    else
      let records := handled H K buff dLen s replies
      records.map .record ++ [.readEnd (records.getLastD buff).type]

def trace : HubSensors F → List Op → List Input
  | _, [] => []
  | s, op :: ops => s.inputs H K op ++ trace (s.apply H K list op) ops

variable {H K list s}

theorem transduce_records (list : List SensorT) (records : List SensorData)
    (es : List (Event F)) :
    ((records.foldl (fun p b => readBody H K b p) (s, es)).1,
        (records.foldl (fun p b => readBody H K b p) (s, es)).2.map Observation.event) =
      ((transduce (feed H K list) s (records.map .record)).1,
        es.map Observation.event ++ (transduce (feed H K list) s (records.map .record)).2) := by
  induction records generalizing s es with
  | nil => simp [transduce]
  | cons b records ih =>
    simp only [List.foldl_cons, List.map_cons, transduce]
    refine (@ih (s.handleRecord H K b).1 (es ++ (s.handleRecord H K b).2)).trans ?_
    rw [List.map_append, List.append_assoc]
    rfl

theorem transduce_inputs (op : Op) :
    transduce (feed H K list) s (s.inputs H K op) = s.operate H K list op := by
  cases op with
  | setEnable handle en => rfl
  | setDelay handle ns => rfl
  | readEvents buff dLen replies =>
    by_cases h : dLen < 1
    · simp only [inputs, operate, apply, Hub.readEvents, if_pos h]
      rfl
    · obtain ⟨hevents, hhub⟩ := readEvents_eq_handled H K buff (not_lt.mp h) s replies
      obtain ⟨hstate, hout⟩ := Prod.mk.inj (transduce_records (H := H) (K := K) (s := s) list
        (handled H K buff dLen s replies) [])
      simp only [inputs, if_neg h, operate, apply]
      rw [transduce_append, hevents, hhub, hout, hstate]
      simp [transduce, feed]

theorem transduce_trace (list : List SensorT) (ops : List Op) :
    transduce (feed H K list) s (s.trace H K list ops) = transduce (operate H K list) s ops := by
  induction ops generalizing s with
  | nil => rfl
  | cons op ops ih =>
    have hcall : transduce (feed H K list) s (s.inputs H K op) = s.operate H K list op :=
      transduce_inputs op
    have hstate : (s.operate H K list op).1 = s.apply H K list op := by
      cases op <;> rfl
    rw [trace, transduce_append, hcall]
    simp only [transduce, hstate, ih]

theorem run_eq_foldl_trace (ops : List Op) :
    s.run H K list ops = (s.trace H K list ops).foldl (fun t i => t.next H K list i) s := by
  have hstate : (fun (t : HubSensors F) op => (t.operate H K list op).1) = apply H K list := by
    funext t op
    cases op <;> rfl
  have htrace := congrArg Prod.fst (transduce_trace (H := H) (K := K) (s := s) list ops)
  rw [transduce_fst, transduce_fst, hstate] at htrace
  exact htrace.symm

end HubSensors
end Cedric.Hub
