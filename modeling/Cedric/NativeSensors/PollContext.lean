import Cedric.Lib.Runs
import Cedric.NativeSensors.SensorManager

/-!
# `sensors_poll_context_t`

One thread is in `pollEvents`; the calls of the others come between any two of its steps,
each under the lock as a whole. The thread scans the sensors, reading those that are ready
or have something pending, and then waits in `poll` for a descriptor or a byte in the wake
pipe, which `activate` and `flush` write. `poll` has no timeout while nothing was read.
-/

namespace Cedric.NativeSensors

open Hub

/-- The bytes that fit into a pipe. -/
def PIPE_SIZE : ℕ := 65536

/-- Where the thread is in `pollEvents`; `data` are the cells counted by `nbEvents`. -/
inductive Thread (n : ℕ) (F : Type)
  | outside
  | scanning (i : ℕ) (count : ℤ) (data : List (SensorsEvent n F))
  | polling (count : ℤ) (data : List (SensorsEvent n F))

structure PollContext (n : ℕ) (F : Type) where
  manager : Manager n F
  revents : Fin n → Bool
  wake : ℕ
  thread : Thread n F

/-- A call of another thread, something that happens to a descriptor, or a step of the thread
in `pollEvents`. -/
inductive Step (n : ℕ)
  | activate (K : Kernel n) (handle enabled : ℤ)
  | setDelay (K : Kernel n) (handle ns : ℤ)
  | batch (K : Kernel n) (handle sampleNs latencyNs : ℤ)
  | flush (K : Kernel n) (handle : ℤ)
  | arrive (i : Fin n) (es : List InputEvent)
  | fault (i : Fin n) (f : ReadFault)
  | pollEvents (count : ℤ)
  | scan
  | poll
  | pollError (err : ℤ)

inductive Output (n : ℕ) (F : Type)
  | flushed (handle ret : ℤ)
  | returned (ret : ℤ) (data : List (SensorsEvent n F))

namespace PollContext

variable {n : ℕ} {F : Type} (B : Board n)

def start (memory : Fin n → ℕ → InputEvent) (zero : F) : PollContext n F where
  manager i := ⟨0, 0, 0, [], .start (memory i) zero⟩
  revents _ := false
  wake := 0
  thread := .outside

/-- A write of one byte into the pipe, which fails if the pipe is full. -/
def writeWake (w : PollContext n F) : PollContext n F :=
  { w with wake := min (w.wake + 1) PIPE_SIZE }

def activate (K : Kernel n) (handle enabled : ℤ) (w : PollContext n F) : PollContext n F :=
  let r := w.manager.activate B K handle enabled
  let w := { w with manager := r.2 }
  if enabled ≠ 0 ∧ r.1 = 0 then w.writeWake else w

def flush (K : Kernel n) (handle : ℤ) (w : PollContext n F) : ℤ × PollContext n F :=
  let r := w.manager.flush B K handle
  (r.1, { w with manager := r.2 }.writeWake)

def withFd (w : PollContext n F) (i : Fin n) (f : InputFd → InputFd) : PollContext n F :=
  { w with manager := w.manager.withDriver i fun d => { d with dataFd := f d.dataFd } }

def ready (w : PollContext n F) (i : Fin n) : Bool := !(w.manager i).driver.dataFd.queue.isEmpty

/-- `poll` returns unless it has no timeout and nothing is ready. -/
def poll (w : PollContext n F) : PollContext n F × List (Output n F) :=
  match w.thread with
  | .polling count data =>
    if (∃ i, w.ready i = true) ∨ w.wake ≠ 0 then
      ({ w with revents := w.ready, wake := w.wake - 1, thread := .scanning 0 count data }, [])
    else if data ≠ [] then
      ({ w with revents := w.ready, thread := .outside }, [.returned data.length data])
    else (w, [])
  | _ => (w, [])

variable [FloatOps F]

/-- One round of the loop over the sensors, or what follows it. -/
def scan (w : PollContext n F) : PollContext n F × List (Output n F) :=
  match w.thread with
  | .scanning i count data =>
    if h : count ≠ 0 ∧ i < n then
      if w.revents ⟨i, h.2⟩ || (w.manager ⟨i, h.2⟩).driver.hasPendingEvents then
        if w.manager.spins ⟨i, h.2⟩ count then (w, [])
        else
          let r := w.manager.readEvents ⟨i, h.2⟩ count
          if r.1.ret < 0 then
            ({ w with manager := r.2, thread := .outside }, [.returned r.1.ret data])
          else
            ({ w with
                manager := r.2
                revents :=
                  if r.1.ret ≤ count then Function.update w.revents ⟨i, h.2⟩ false else w.revents
                thread := .scanning (i + 1) (count - r.1.ret) (data ++ r.1.data) }, [])
      else ({ w with thread := .scanning (i + 1) count data }, [])
    else if count ≠ 0 then ({ w with thread := .polling count data }, [])
    else ({ w with thread := .outside }, [.returned data.length data])
  | _ => (w, [])

/-- The periods of `poll__batch` have 64 bits, those of `batch` 32. -/
def step (w : PollContext n F) : Step n → PollContext n F × List (Output n F)
  | .activate K handle enabled => (w.activate B K handle enabled, [])
  | .setDelay K handle ns => ({ w with manager := (w.manager.setDelay B K handle ns).2 }, [])
  | .batch K handle sampleNs latencyNs =>
    ({ w with manager := (w.manager.batch B K handle (SensorBase.toInt sampleNs)
        (SensorBase.toInt latencyNs)).2 }, [])
  | .flush K handle => let r := w.flush B K handle; (r.2, [.flushed handle r.1])
  | .arrive i es => (w.withFd i fun fd => { fd with queue := fd.queue ++ es }, [])
  | .fault i f => (w.withFd i fun fd => { fd with fault := some f }, [])
  | .pollEvents count =>
    match w.thread with
    | .outside => ({ w with thread := .scanning 0 count [] }, [])
    | _ => (w, [])
  | .scan => w.scan
  | .poll => w.poll
  | .pollError err =>
    match w.thread with
    | .polling _ data => ({ w with thread := .outside }, [.returned (-err) data])
    | _ => (w, [])

abbrev next (w : PollContext n F) (t : Step n) : PollContext n F := (w.step B t).1

end PollContext
end Cedric.NativeSensors
