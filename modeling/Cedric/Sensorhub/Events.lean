import Cedric.Lib.ByteMemory
import Cedric.Sensorhub.AlgoReq

/-!
# The events of `sensorhub.c`

`sensorhub_poll` waits for a record of the driver and fills the caller's event
from it; `sensorhub_algo_query` asks for the last event of an algorithm. The
members of the event's union share twelve bytes, so writing one changes the
members that overlap it.
-/

namespace Cedric.Sensorhub

open ByteMemory

def SENSORHUB_EVENT_TRANSITION : ℕ := 0
def SENSORHUB_EVENT_ACCUM_STATE : ℕ := 1
def SENSORHUB_EVENT_ACCUM_MVMT : ℕ := 2
def SENSORHUB_EVENT_START_MOVEMENT : ℕ := 4
def SENSORHUB_EVENT_END_MOVEMENT : ℕ := 5
def SENSORHUB_EVENT_RESET : ℕ := 7

def MOVE_VALUE : ℕ := 0
def ALGO_PAST : ℕ := 0
def ALGO_CONFIDENCE : ℕ := 0
def ALGO_ID : ℕ := 0
def ALGO_TIME : ℕ := 1
def ALGO_OLDSTATE : ℕ := 1
def ALGO_NEWSTATE : ℕ := 3
def ALGO_DISTANCE : ℕ := 3
def ALGO_MS : ℕ := 5
def ALGO_ALGO : ℕ := 7

/-- The members of the union of `sensorhub_event_t`. -/
inductive Member
  | value0 | value1 | value2
  | algo | past | confidence | oldState | newState
  | accumAlgo | id
  | timeS | distance
  deriving DecidableEq

namespace Member

abbrev offset : Member → ℕ
  | value0 | algo | accumAlgo | timeS => 0
  | past | id => 2
  | confidence => 3
  | value1 | oldState | distance => 4
  | value2 | newState => 8

abbrev size : Member → ℕ
  | value0 | value1 | value2 | oldState | newState | timeS | distance => 4
  | algo | accumAlgo | id => 2
  | past | confidence => 1

def Covers (m : Member) (i : ℕ) : Prop := m.offset ≤ i ∧ i < m.offset + m.size

instance (m : Member) (i : ℕ) : Decidable (m.Covers i) :=
  inferInstanceAs (Decidable (_ ∧ _))

def Apart (m m' : Member) : Prop :=
  m.offset + m.size ≤ m'.offset ∨ m'.offset + m'.size ≤ m.offset

instance (m m' : Member) : Decidable (m.Apart m') := inferInstanceAs (Decidable (_ ∨ _))

end Member

structure Event where
  type : ℕ
  time : ℤ
  ertime : ℤ
  bytes : Memory
  deriving Inhabited

namespace Event

def get (e : Event) (m : Member) : BitVec (8 * m.size) := load e.bytes m.offset m.size

def set (e : Event) (m : Member) (v : BitVec (8 * m.size)) : Event :=
  { e with bytes := store e.bytes m.offset m.size v }

variable (e : Event) (m : Member) (v : BitVec (8 * m.size))

@[simp] theorem set_type : (e.set m v).type = e.type := rfl

@[simp] theorem set_time : (e.set m v).time = e.time := rfl

@[simp] theorem set_ertime : (e.set m v).ertime = e.ertime := rfl

theorem bytes_set (i : ℕ) :
    (e.set m v).bytes i =
      if m.Covers i then v.extractLsb' (8 * (i - m.offset)) 8 else e.bytes i := rfl

@[simp] theorem get_set_self : (e.set m v).get m = v := load_store ..

theorem get_set_of_apart {m' : Member} (h : m'.Apart m) : (e.set m v).get m' = e.get m' :=
  load_store_of_disjoint _ _ h

theorem get_eq_iff {e e' : Event} {m : Member} :
    e.get m = e'.get m ↔ ∀ i, m.Covers i → e.bytes i = e'.bytes i := load_eq_iff

end Event

/-- The record types; codes that `sensorhub_poll` has no case for are `other`. -/
inductive DataType
  | DT_MMMOVE | DT_NOMOVE | DT_ALGO_EVT | DT_GENERIC_INT | DT_RESET | other (code : ℕ)
  deriving DecidableEq

/-- `stml0xx_moto_sensor_data`. -/
structure SensorData where
  type : DataType
  data : Memory

def STMLE16TOH (p : Memory) (i : ℕ) : BitVec 16 := load p i 2

structure Clocks where
  wall : ℤ
  elapsed : ℤ
  deriving Inhabited

def SensorData.algo (b : SensorData) : BitVec 16 := (b.data ALGO_ALGO).setWidth 16

def floatBits (n : ℕ) : BitVec 32 :=
  if n = 0 then 0 else BitVec.ofNat 32 ((126 + n.log2) * 2 ^ 23 + n * 2 ^ (23 - n.log2))

def boolByte (b : Bool) : BitVec 8 := (BitVec.ofBool b).setWidth 8

def movement (type : ℕ) (b : SensorData) (event : Event) : Event :=
  { event with type := type }.set .value2 (floatBits (b.data MOVE_VALUE >>> 4).toNat)

def accumMvmt (b : SensorData) (event : Event) : Event :=
  { event with type := SENSORHUB_EVENT_ACCUM_MVMT }
    |>.set .timeS ((STMLE16TOH b.data ALGO_TIME).signExtend 32)
    |>.set .distance ((STMLE16TOH b.data ALGO_DISTANCE).signExtend 32)

def accumState (b : SensorData) (event : Event) : Event :=
  { event with type := SENSORHUB_EVENT_ACCUM_STATE }
    |>.set .accumAlgo b.algo
    |>.set .id (STMLE16TOH b.data ALGO_ID)

def transition (b : SensorData) (event : Event) : Event :=
  let elapsedMs := (STMLE16TOH b.data ALGO_MS).toInt * 1000
  { event with
    type := SENSORHUB_EVENT_TRANSITION
    time := event.time - elapsedMs
    ertime := if 0 < event.ertime then event.ertime - elapsedMs else event.ertime }
    |>.set .algo b.algo
    |>.set .past (boolByte (decide (0 < b.data ALGO_PAST &&& 0x80)))
    |>.set .confidence (b.data ALGO_CONFIDENCE &&& 0x7F : BitVec 8)
    |>.set .oldState ((STMLE16TOH b.data ALGO_OLDSTATE).signExtend 32)
    |>.set .newState ((STMLE16TOH b.data ALGO_NEWSTATE).signExtend 32)

def algoEvt (c : Clocks) (b : SensorData) (event : Event) : Event :=
  let event := { event with time := c.wall, ertime := if 0 < c.elapsed then c.elapsed else 0 }
  if b.algo.toNat = SENSORHUB_ALGO_ACCUM_MVMT then accumMvmt b event
  else if b.algo.toNat = SENSORHUB_ALGO_ACCUM_MODALITY then accumState b event
  else transition b event

def decode (c : Clocks) (b : SensorData) (event : Event) : ℤ × Event :=
  match b.type with
  | .DT_MMMOVE => (1, movement SENSORHUB_EVENT_START_MOVEMENT b event)
  | .DT_NOMOVE => (1, movement SENSORHUB_EVENT_END_MOVEMENT b event)
  | .DT_ALGO_EVT => (1, algoEvt c b event)
  | .DT_GENERIC_INT => (0, event)
  | .DT_RESET => (1, { event with type := SENSORHUB_EVENT_RESET, time := c.wall })
  | .other _ => (1, event)

def EINTR : ℤ := 4

abbrev PollReply := Option Errno

/-- The loop around `poll`; `none` while it is interrupted again and again. -/
def pollLoop : List PollReply → Option PollReply
  | [] => none
  | none :: _ => some none
  | some err :: replies => if err.val = EINTR then pollLoop replies else some (some err)

/-- What `read` does. `buff` is on the stack: where no whole record was read, it holds whatever
was there before, or a part of it. -/
inductive Read
  | failed (err : Errno) (buff : SensorData)
  | nothing
  | part (buff : SensorData)
  | record (b : SensorData)

/-- The result and the caller's event; `none` while the call waits. -/
def sensorhubPoll (replies : List PollReply) (read : Read) (c : Clocks) (event : Event) :
    Option (ℤ × Event) :=
  (pollLoop replies).map fun
    | some err => (-err.val, event)
    | none =>
      match read with
      | .nothing => (0, event)
      | .failed _ buff => decode c buff event
      | .part buff => decode c buff event
      | .record b => decode c b event

def Read.buff : Read → Option SensorData
  | .nothing => none
  | .failed _ buff | .part buff | .record buff => some buff

theorem sensorhubPoll_of_buff {replies : List PollReply} {read : Read} {b : SensorData}
    (hloop : pollLoop replies = some none) (hbuff : read.buff = some b) (c : Clocks)
    (event : Event) : sensorhubPoll replies read c event = some (decode c b event) := by
  unfold sensorhubPoll
  rw [hloop]
  cases read with
  | nothing => cases hbuff
  | failed err buff => cases hbuff; rfl
  | part buff => cases hbuff; rfl
  | record b => cases hbuff; rfl

theorem sensorhubPoll_record {replies : List PollReply} (h : pollLoop replies = some none)
    (b : SensorData) (c : Clocks) (event : Event) :
    sensorhubPoll replies (.record b) c event = some (decode c b event) :=
  sensorhubPoll_of_buff h rfl c event

theorem sensorhubPoll_one {replies : List PollReply} {read : Read} {c : Clocks}
    {event e : Event} (h : sensorhubPoll replies read c event = some (1, e)) :
    pollLoop replies = some none ∧ ∃ b, read.buff = some b ∧ decode c b event = (1, e) := by
  obtain ⟨out, hloop, hout⟩ := Option.map_eq_some_iff.mp h
  cases out with
  | some err =>
    have hneg : -err.val = 1 := congrArg Prod.fst hout
    have hpos := err.property
    omega
  | none =>
    refine ⟨hloop, ?_⟩
    cases read with
    | nothing =>
      have hzero : (0 : ℤ) = 1 := congrArg Prod.fst hout
      exact absurd hzero (by decide)
    | failed err buff => exact ⟨buff, rfl, hout⟩
    | part buff => exact ⟨buff, rfl, hout⟩
    | record b => exact ⟨b, rfl, hout⟩

def shifted (p : Memory) (i : ℕ) : BitVec 32 :=
  (p (i + 1)).setWidth 32 <<< 8 ||| (p i).setWidth 32

/-- `p_evt` is what the ioctl leaves behind the algorithm in `bytes`. -/
def sensorhubAlgoQuery (algo : BitVec 16) (reply : Option Errno) (pEvt : Memory)
    (output : Event) : ℤ × Event :=
  match reply with
  | some errno => (-errno.val, output)
  | none =>
    let output := { output with time := 0, ertime := 0 }
    if algo.toNat = SENSORHUB_ALGO_ACCUM_MVMT then
      (0, { output with type := SENSORHUB_EVENT_ACCUM_MVMT }
        |>.set .timeS (shifted pEvt 0)
        |>.set .distance (shifted pEvt 2))
    else
      (0, { output with type := SENSORHUB_EVENT_TRANSITION }
        |>.set .algo algo
        |>.set .past (boolByte (decide (0 < pEvt 0 &&& 0x80)))
        |>.set .confidence (pEvt 0 &&& 0x7F : BitVec 8)
        |>.set .oldState (shifted pEvt 1)
        |>.set .newState (shifted pEvt 3))

end Cedric.Sensorhub
