import Cedric.Lib.Custody
import Cedric.MotoshHal.RearProxSensor

/-!
# `SensorsPollContext::poll`

The hub and the rear proximity sensor put their events into one array. Drivers with
pending events are read first; if they deliver nothing, the ready descriptors are
read, until one of them gives nothing. `data` is the caller's array, where a cell
also says which driver wrote it; `stored` and `decoded` list what the drivers wrote
and decoded in the call, in order.
-/

namespace Cedric.MotoshHal

open Custody Hub Overlay ReadLoop

inductive Driver
  | hub | rearProx
  deriving DecidableEq, Repr

instance : Fintype Driver where
  elems := {.hub, .rearProx}
  complete d := by cases d <;> decide

abbrev Cell (F : Type) := Driver × SensorsEvent F

/-- The drivers, with the replies that the next reads of the hub's descriptor give. -/
structure SensorsPollContext (F : Type) where
  hub : HubSensors F
  hubFd : List (Reply SensorData)
  rearProx : RearProxSensor F

/-- What `::poll` returns, `EINTR` apart; `revents` tells where `POLLIN` is set. -/
inductive PollOutcome
  | ready (revents : Driver → Bool)
  | timeout
  | error

structure Polling (F : Type) where
  context : SensorsPollContext F
  data : ℕ → Cell F
  nbEvents : ℕ
  stored : List (Cell F)
  decoded : List (Cell F)

def drivers (B : Build) : List Driver := if B._ENABLE_REARPROX then [.hub, .rearProx] else [.hub]

def pollFds (B : Build) (opened : Driver → Bool) : List Driver := (drivers B).filter opened

namespace SensorsPollContext

variable {F : Type} [FloatOps F] (H : MotoshHeader) (B : Build) (K : Kernel)
  (opened : Driver → Bool)

omit [FloatOps F] in
def hasPendingEvents (w : SensorsPollContext F) : Driver → Bool
  | .hub => w.hub.hasPendingEvents
  | .rearProx => false

def readEvents (w : SensorsPollContext F) (count : ℤ) : Driver → ReadResult F × SensorsPollContext F
  | .hub =>
    let r := w.hub.readEvents H B K count w.hubFd
    (r.1, { w with hub := r.2.1, hubFd := r.2.2 })
  | .rearProx =>
    let r := w.rearProx.readEvents H count
    (r.1, { w with rearProx := r.2 })

/-- `nb`, and the array with the driver's events behind those delivered before. A result that
is not positive leaves `nbEvents` alone. -/
def eventReader (count : ℤ) (d : Driver) (p : Polling F) : ℤ × Polling F :=
  let r := p.context.readEvents H B K (count - p.nbEvents) d
  let es := r.1.data.map (d, ·)
  (r.1.ret,
    { context := r.2
      data := lay p.data p.nbEvents es
      nbEvents := if 0 < r.1.ret then p.nbEvents + r.1.ret.toNat else p.nbEvents
      stored := p.stored ++ es
      decoded := p.decoded ++ r.1.decoded.map (d, ·) })

def readPending (count : ℤ) : List Driver → Polling F → Polling F
  | [], p => p
  | d :: ds, p =>
    readPending count ds
      (if p.context.hasPendingEvents d then (eventReader H B K count d p).2 else p)

/-- The loop over the descriptors, and what `poll` returns after it. -/
def readReady (count : ℤ) (revents : Driver → Bool) : List Driver → Polling F → ℤ × Polling F
  | [], p => (p.nbEvents, p)
  | d :: ds, p =>
    if revents d then
      let r := eventReader H B K count d p
      if r.1 ≤ 0 then (0, r.2) else readReady count revents ds r.2
    else readReady count revents ds p

def begin (w : SensorsPollContext F) (memory : ℕ → Cell F) : Polling F := ⟨w, memory, 0, [], []⟩

def poll (outcome : PollOutcome) (memory : ℕ → Cell F) (count : ℤ) (w : SensorsPollContext F) :
    ℤ × Polling F :=
  if count < 1 then (-EINVAL, w.begin memory)
  else
    let p := readPending H B K count (drivers B) (w.begin memory)
    if p.nbEvents ≠ 0 then (p.nbEvents, p)
    else
      match outcome with
      | .ready revents => readReady H B K count revents (pollFds B opened) p
      | .timeout | .error => (p.nbEvents, p)

inductive Op (F : Type)
  | poll (outcome : PollOutcome) (memory : ℕ → Cell F) (count : ℤ)
  | setEnable (handle : SensorHandle) (en : ℤ)
  | replies (rs : List (Reply SensorData))
  | arrive (es : List InputEvent)
  | fault (f : ReadFault)

def step (w : SensorsPollContext F) : Op F → SensorsPollContext F
  | .poll outcome memory count => (poll H B K opened outcome memory count w).2.context
  | .setEnable handle en => { w with hub := (w.hub.setEnable H B K handle en).2 }
  | .replies rs => { w with hubFd := w.hubFd ++ rs }
  | .arrive es =>
    { w with rearProx := { w.rearProx with dataFd :=
      { w.rearProx.dataFd with queue := w.rearProx.dataFd.queue ++ es } } }
  | .fault f =>
    { w with rearProx := { w.rearProx with dataFd := { w.rearProx.dataFd with fault := some f } } }

def start (flags wakeFlags : Option (BitVec 32)) (memory : ℕ → InputEvent) (distance : F)
    (timestamp : ℤ) : SensorsPollContext F :=
  ⟨.start flags wakeFlags, [], .start memory distance timestamp⟩

def held (w : SensorsPollContext F) : Driver → List (SensorsEvent F)
  | .hub => w.hub.parked
  | .rearProx => []

/-- What a call of `poll` decodes, stores, and returns in the first cells of the array. -/
def flow (w : SensorsPollContext F) : Op F → Flow Driver (SensorsEvent F)
  | .poll outcome memory count =>
    let r := poll H B K opened outcome memory count w
    ⟨fun d => of d r.2.decoded, fun d => of d r.2.stored,
      fun d => of d (front r.2.data r.1.toNat)⟩
  | _ => ⟨fun _ => [], fun _ => [], fun _ => []⟩

/-- A call of `poll` leaves the cells from `count` on alone and returns no more than `count`. -/
def Contained (w : SensorsPollContext F) : Op F → Prop
  | .poll outcome memory count =>
    (poll H B K opened outcome memory count w).1.toNat ≤ count.toNat ∧
      ∀ k : ℕ, count ≤ k → (poll H B K opened outcome memory count w).2.data k = memory k
  | _ => True

end SensorsPollContext
end Cedric.MotoshHal
