import Cedric.Hub.ReaderLoop
import Cedric.Hub.Poll
import Cedric.Lib.RunningMinimum

/-!
# `NativeSensorManager`

The manager of the `rearProx` HAL turns the requests for its sensors into settings of
the hardware sensors behind them. A sensor registers as a listener on each context of its
`dep_list`; a context is driven while it has listeners, at the shortest delay they ask for.
A context is an index below `n`, whose handle leads back to it.
-/

namespace Cedric.NativeSensors

open Hub RunningMinimum

def EAGAIN : ℤ := 11

inductive SensorType
  | SENSOR_TYPE_PROXIMITY | SENSOR_TYPE_MOTO_CAPSENSE
  deriving DecidableEq, Repr

/-- The system properties that turn an access of a driver off when they read `1`. -/
inductive Loopback
  | proxymity | light | capsense
  deriving DecidableEq, Repr

inductive Attribute
  | SYSFS_ENABLE | SYSFS_POLL_DELAY | SYSFS_MAXLATENCY | SYSFS_FLUSH
  deriving DecidableEq, Repr

/-- What becomes of an attribute that is opened and written. -/
inductive Access
  | unopened | short | written
  deriving DecidableEq, Repr

structure Kernel (n : ℕ) where
  loopback : Loopback → Bool
  access : Fin n → Attribute → Access

/-- What is fixed of a context once the sensors are found. -/
structure SensorInfo (n : ℕ) where
  type : SensorType
  minDelay : ℤ
  fifoMaxEventCount : ℕ
  isVirtual : Bool
  depList : List (Fin n)

/-- The contexts; a hardware sensor depends on itself. -/
structure Board (n : ℕ) where
  sensor : Fin n → SensorInfo n
  nodup : ∀ i, (sensor i).depList.Nodup
  hardware : ∀ i, (sensor i).isVirtual = false → (sensor i).depList = [i]

namespace Board

variable {n : ℕ}

def getDataInfo (type : Fin n → SensorType) (minDelay : Fin n → ℤ) (fifoMaxEventCount : Fin n → ℕ) :
    Board n where
  sensor i := ⟨type i, minDelay i, fifoMaxEventCount i, false, [i]⟩
  nodup _ := List.nodup_singleton _
  hardware _ _ := rfl

def append (B : Board n) (ctx dep : Fin n) (hctx : (B.sensor ctx).isVirtual = true)
    (hdep : dep ∉ (B.sensor ctx).depList) : Board n where
  sensor := Function.update B.sensor ctx
    { B.sensor ctx with depList := (B.sensor ctx).depList ++ [dep] }
  nodup i := by
    rcases eq_or_ne i ctx with rfl | hi
    · rw [Function.update_self]
      exact List.nodup_append.mpr ⟨B.nodup i, List.nodup_singleton dep, fun a ha b hb hab =>
        hdep (List.mem_singleton.mp hb ▸ hab ▸ ha)⟩
    · rw [Function.update_of_ne hi]
      exact B.nodup i
  hardware i hi := by
    rcases eq_or_ne i ctx with rfl | hne
    · rw [Function.update_self] at hi
      exact absurd (hctx.symm.trans hi) (Bool.false_ne_true ∘ Eq.symm)
    · rw [Function.update_of_ne hne] at hi ⊢
      exact B.hardware i hi

/-- `dep` is the context found for the handle; `none` is the null pointer, whose `sensor`
is read before the test of `dep`. -/
def addDependency (B : Board n) (ctx : Fin n) (dep : Option (Fin n)) : Option (ℤ × Board n) :=
  if hctx : (B.sensor ctx).isVirtual = true then
    dep.map fun dep =>
      if hdep : dep ∈ (B.sensor ctx).depList then (0, B) else (0, B.append ctx dep hctx hdep)
  else some (-1, B)

def needs (B : Board n) (s hw : Fin n) : Bool := decide (hw ∈ (B.sensor s).depList)

end Board

structure Attributes where
  enable : Bool
  pollDelay : Option ℤ
  maxLatency : Option ℤ
  deriving DecidableEq, Repr

/-- `SensorBase` with the members that both drivers add; `data_fd` stands for the open
descriptor, `mPendingEvent` for the distance in the pending event. -/
structure SensorBase (F : Type) where
  mEnabled : Bool
  mHasPendingEvent : Bool
  mHasPendingMetadata : ℕ
  mPendingEvent : F
  mInputReader : InputEventCircularReader
  dataFd : InputFd
  attributes : Attributes

inductive SensorsEvent (n : ℕ) (F : Type)
  | metaData (sensor : Fin n)
  | distance (sensor : Fin n) (distance : F)
  deriving DecidableEq

/-- What `readEvents` returns and what it puts into the caller's array by it. -/
structure ReadResult (n : ℕ) (F : Type) where
  ret : ℤ
  data : List (SensorsEvent n F)

namespace SensorBase

variable {n : ℕ} {F : Type}

/-- The constructor of either driver, whose `memset` clears the pending event. -/
def start (memory : ℕ → InputEvent) (zero : F) : SensorBase F where
  mEnabled := false
  mHasPendingEvent := false
  mHasPendingMetadata := 0
  mPendingEvent := zero
  mInputReader := .start 4 memory
  dataFd := ⟨[], none, []⟩
  attributes := ⟨false, none, none⟩

def hasPendingEvents (d : SensorBase F) : Bool := d.mHasPendingEvent || d.mHasPendingMetadata != 0

/-- `write` is not checked here. -/
def enable (property : Loopback) (K : Kernel n) (i : Fin n) (flags : Bool) (d : SensorBase F) :
    SensorBase F :=
  if K.loopback property then { d with mEnabled := flags }
  else if flags ≠ d.mEnabled then
    match K.access i .SYSFS_ENABLE with
    | .unopened => d
    | .short => { d with mEnabled := flags }
    | .written =>
      { d with mEnabled := flags, attributes := { d.attributes with enable := flags } }
  else if flags then { d with mHasPendingEvent := true }
  else d

def toInt (x : ℤ) : ℤ := (BitVec.ofInt 32 x).toInt

def setDelay (property : Loopback) (K : Kernel n) (i : Fin n) (ns : ℤ) (d : SensorBase F) :
    SensorBase F :=
  if K.loopback property then d
  else if K.access i .SYSFS_POLL_DELAY = .written then
    { d with attributes := { d.attributes with pollDelay := some (toInt (ns.tdiv 1000000)) } }
  else d

/-- The comparison is between unsigned values. -/
def setLatency (K : Kernel n) (i : Fin n) (latencyNs : ℤ) (d : SensorBase F) : SensorBase F :=
  if 2 ^ 31 - 1 ≤ latencyNs % 2 ^ 64 / 1000000 then d
  else if K.access i .SYSFS_MAXLATENCY = .written then
    { d with attributes :=
      { d.attributes with maxLatency := some (toInt (latencyNs.tdiv 1000000)) } }
  else d

def flush (fifoMaxEventCount : ℕ) (K : Kernel n) (i : Fin n) (d : SensorBase F) :
    ℤ × SensorBase F :=
  if !d.mEnabled then (-EINVAL, d)
  else if fifoMaxEventCount ≠ 0 ∧ K.access i .SYSFS_FLUSH ≠ .written then (-1, d)
  else (0, { d with mHasPendingMetadata := d.mHasPendingMetadata + 1 })

variable [FloatOps F]

/-- `size_t` has 64 bits. -/
def indexToValue (index : ℤ) : F := ofInt (index % 2 ^ 64)

def handleEvent (mEnabled : Bool) (pending : F) (event : InputEvent) : F × List F :=
  if event.type = EV_ABS then
    if event.code = ABS_DISTANCE ∧ event.value ≠ -1 then (indexToValue event.value, [])
    else (pending, [])
  else if event.type = EV_SYN ∧ event.code = 0 then
    (pending, if mEnabled then [pending] else [])
  else (pending, [])

/-- `fill` of a descriptor opened with `O_NONBLOCK`. -/
def fill (d : SensorBase F) : Except ℤ ℕ × InputEventCircularReader × InputFd :=
  if d.mInputReader.mFreeSpace ≠ 0 ∧ d.dataFd.fault.isNone ∧ d.dataFd.queue = [] then
    (.error (-EAGAIN), d.mInputReader, d.dataFd)
  else d.mInputReader.fill d.dataFd

def readEvents (i : Fin n) (count : ℤ) (d : SensorBase F) : ReadResult n F × SensorBase F :=
  if count < 1 then (⟨-EINVAL, []⟩, d)
  else if d.mHasPendingEvent then
    (if d.mEnabled then ⟨1, [.distance i d.mPendingEvent]⟩ else ⟨0, []⟩,
      { d with mHasPendingEvent := false })
  else if d.mHasPendingMetadata ≠ 0 then
    (if d.mEnabled then ⟨1, [.metaData i]⟩ else ⟨0, []⟩,
      { d with mHasPendingMetadata := d.mHasPendingMetadata - 1 })
  else
    match d.fill with
    | (.error err, r, fd) => (⟨err, []⟩, { d with mInputReader := r, dataFd := fd })
    | (.ok _, r, fd) =>
      let l := InputEventCircularReader.drain (handleEvent d.mEnabled) count r d.mPendingEvent
      (⟨l.data.length, l.data.map (.distance i)⟩,
        { d with mInputReader := l.reader, mPendingEvent := l.state, dataFd := fd })

end SensorBase

structure SensorContext (n : ℕ) (F : Type) where
  enable : ℤ
  delayNs : ℤ
  latencyNs : ℤ
  listener : List (Fin n)
  driver : SensorBase F

abbrev Manager (n : ℕ) (F : Type) := Fin n → SensorContext n F

def SENSORS_HANDLE_BASE : ℤ := 0

def SENSORS_HANDLE (i : ℕ) : ℤ := SENSORS_HANDLE_BASE + i + 1

def getInfoByHandle (n : ℕ) (handle : ℤ) : Option (Fin n) :=
  (List.finRange n).find? fun i => SENSORS_HANDLE i = handle

namespace Manager

variable {n : ℕ} {F : Type} (B : Board n) (K : Kernel n) (m : Manager n F)

def withDriver (i : Fin n) (f : SensorBase F → SensorBase F) : Manager n F :=
  Function.update m i { m i with driver := f (m i).driver }

def driverEnable (i : Fin n) (flags : Bool) : Manager n F :=
  match (B.sensor i).type with
  | .SENSOR_TYPE_PROXIMITY => m.withDriver i (.enable .proxymity K i flags)
  | .SENSOR_TYPE_MOTO_CAPSENSE => m.withDriver i (.enable .capsense K i flags)

/-- `driver->setDelay`; the proximity sensor reads the property of the light sensor. -/
def driverSetDelay (i : Fin n) (ns : ℤ) : Manager n F :=
  match (B.sensor i).type with
  | .SENSOR_TYPE_PROXIMITY => m.withDriver i (.setDelay .light K i ns)
  | .SENSOR_TYPE_MOTO_CAPSENSE => m.withDriver i (.setDelay .capsense K i ns)

def registerListener (hw virt : Fin n) : Manager n F :=
  if virt ∈ (m hw).listener then m
  else Function.update m hw { m hw with listener := (m hw).listener ++ [virt] }

def unregisterListener (hw virt : Fin n) : Manager n F :=
  Function.update m hw { m hw with listener := (m hw).listener.erase virt }

def listenersAfter (s : Fin n) (enable : ℤ) (listener : List (Fin n)) : List (Fin n) :=
  if enable ≠ 0 then if s ∈ listener then listener else listener ++ [s] else listener.erase s

/-- The loop of `syncDelay`, from the delay of the first listener on. -/
def shortestDelay (first : Fin n) (listener : List (Fin n)) : ℤ :=
  scan (fun s => (m s).delayNs ≠ 0) (fun s => (m s).delayNs) (fun s => (m s).delayNs)
    (m first).delayNs listener

def shortestLatency (first : Fin n) (listener : List (Fin n)) : ℤ :=
  scan (fun _ => true) (fun s => (m s).latencyNs) (fun s => (m s).latencyNs)
    (m first).latencyNs listener

def syncDelay (i : Fin n) : Manager n F :=
  match (m i).listener with
  | [] => m
  | first :: rest => m.driverSetDelay B K i (m.shortestDelay first (first :: rest))

def syncLatency (i : Fin n) : Manager n F :=
  match (m i).listener with
  | [] => m
  | first :: rest =>
    if (B.sensor i).fifoMaxEventCount ≠ 0 then
      m.withDriver i (.setLatency K i (m.shortestLatency first (first :: rest)))
    else m

def activateDep (s : Fin n) (enable : ℤ) (i : Fin n) : Manager n F :=
  if enable ≠ 0 then
    (((m.registerListener i s).syncDelay B K i).syncLatency B K i).driverEnable B K i true
  else
    let m :=
      if (m i).listener ≠ [] then
        ((m.unregisterListener i s).syncDelay B K i).syncLatency B K i
      else m
    if (m i).listener = [] then m.driverEnable B K i false else m

def activate (handle enable : ℤ) : ℤ × Manager n F :=
  match getInfoByHandle n handle with
  | none => (-EINVAL, m)
  | some s =>
    let m : Manager n F := Function.update m s { m s with enable := enable }
    let m := (B.sensor s).depList.foldl (fun m i => m.activateDep B K s enable i) m
    (0, if (B.sensor s).isVirtual then m.driverEnable B K s (enable ≠ 0) else m)

def setDelay (handle ns : ℤ) : ℤ × Manager n F :=
  match getInfoByHandle n handle with
  | none => (-EINVAL, m)
  | some s =>
    if ns = 0 then (-EINVAL, m)
    else
      let minDelay := SensorBase.toInt ((B.sensor s).minDelay * 1000)
      let delayNs := if ns < minDelay then minDelay else ns
      let m : Manager n F := Function.update m s { m s with delayNs := delayNs }
      (0, (B.sensor s).depList.foldl (fun m i => m.syncDelay B K i) m)

def batch (handle sampleNs latencyNs : ℤ) : ℤ × Manager n F :=
  if latencyNs ≠ 0 ∧ latencyNs < sampleNs then (-EINVAL, m)
  else
    match getInfoByHandle n handle with
    | none => (-EINVAL, m)
    | some s =>
      let m : Manager n F :=
        Function.update m s { m s with delayNs := sampleNs, latencyNs := latencyNs }
      (0, (B.sensor s).depList.foldl (fun m i => (m.syncDelay B K i).syncLatency B K i) m)

def driverFlush (i : Fin n) : ℤ × Manager n F :=
  let r := (m i).driver.flush (B.sensor i).fifoMaxEventCount K i
  (r.1, Function.update m i { m i with driver := r.2 })

/-- The loop of `flush`, which ends at the first driver that fails. -/
def flushAll : List (Fin n) → Manager n F → ℤ × Manager n F
  | [], m => (0, m)
  | i :: is, m =>
    let r := m.driverFlush B K i
    if r.1 ≠ 0 then r else flushAll is r.2

def flush (handle : ℤ) : ℤ × Manager n F :=
  match getInfoByHandle n handle with
  | none => (-EINVAL, m)
  | some s =>
    let r := flushAll B K (B.sensor s).depList m
    if r.1 ≠ 0 then r
    else if (B.sensor s).isVirtual then r.2.driverFlush B K s
    else (0, r.2)

variable [FloatOps F]

/-- The loop over the driver: a read that is to be repeated took the fault from the
descriptor, so that the second one is the last unless nothing is there. -/
def driverRead (i : Fin n) (count : ℤ) : ReadResult n F × SensorBase F :=
  let once := (m i).driver.readEvents i count
  if once.1.ret = -EAGAIN ∨ once.1.ret = - EINTR then once.2.readEvents i count else once

/-- The loop goes on until something arrives. -/
def spins (i : Fin n) (count : ℤ) : Bool := decide ((m.driverRead i count).1.ret = -EAGAIN)

/-- `readEvents` for the context `i`; `injectEvents` does nothing. -/
def readEvents (i : Fin n) (count : ℤ) : ReadResult n F × Manager n F :=
  let r := m.driverRead i count
  (if (m i).enable ≠ 0 then r.1 else ⟨0, []⟩, Function.update m i { m i with driver := r.2 })

end Manager
end Cedric.NativeSensors
