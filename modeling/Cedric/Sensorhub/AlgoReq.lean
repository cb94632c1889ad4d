import Cedric.Lib.BitFlags
import Mathlib.Data.Fin.VecNotation
import Mathlib.Data.Fintype.Basic

/-!
# The motion algorithms of `sensorhub.c`

`sensorhub_enable` and `sensorhub_algo_req` program the hub by ioctls that may
fail one by one. The tables have `SENSORHUB_NUM_ALGOS` entries and the code
indexes them with any 16-bit id, so what lies behind a table is part of the
model, and every table access of a request is listed in its result.
-/

namespace Cedric.Sensorhub

open BitFlags

def SENSORHUB_ALGO_MODALITY : ℕ := 29
def SENSORHUB_ALGO_ORIENTATION : ℕ := 36
def SENSORHUB_ALGO_STOWED : ℕ := 43
def SENSORHUB_ALGO_ACCUM_MODALITY : ℕ := 50
def SENSORHUB_ALGO_ACCUM_MVMT : ℕ := 52
def SENSORHUB_ALGO_MOVEMENT : ℕ := 5
def SENSORHUB_NUM_ALGOS : ℕ := 6
def SENSORHUB_NUM_ACCUM_REQS : BitVec 8 := 4
def SENSORHUB_NUM_MODALITIES : BitVec 8 := 6
def SENSORHUB_NUM_ORIENTATIONS : BitVec 8 := 4
def SENSORHUB_NUM_STOWED : BitVec 8 := 3

/-- The ids of the public header, the movement algorithm apart. -/
def headerIds : List ℕ :=
  [SENSORHUB_ALGO_MODALITY, SENSORHUB_ALGO_ORIENTATION, SENSORHUB_ALGO_STOWED,
    SENSORHUB_ALGO_ACCUM_MODALITY, SENSORHUB_ALGO_ACCUM_MVMT]

inductive AlgoMask
  | M_ALGO_MODALITY | M_ALGO_ORIENTATION | M_ALGO_STOWED | M_ALGO_ACCUM_MODALITY
  | M_ALGO_ACCUM_MVMT | M_MMOVEME | M_NOMMOVE
  deriving DecidableEq

/-- The masks of the kernel header, no two of which share a bit. -/
structure AlgoHeader where
  mask : AlgoMask → BitVec 16
  disjoint : ∀ m m', m ≠ m' → mask m &&& mask m' = 0#16

def AlgoHeader.numbered : AlgoHeader where
  mask m := BitVec.twoPow 16 m.ctorIdx
  disjoint := by
    intro m m' h
    cases m <;> cases m' <;> first | exact absurd rfl h | rfl

structure Tables extends AlgoHeader where
  behindNumParts : ℕ → BitVec 8
  behindAlgoBits : ℕ → BitVec 16

def numPartsTable : Fin SENSORHUB_NUM_ALGOS → BitVec 8 :=
  ![SENSORHUB_NUM_MODALITIES, SENSORHUB_NUM_ORIENTATIONS, SENSORHUB_NUM_STOWED,
    SENSORHUB_NUM_ACCUM_REQS, 0, 0]

def algoMask : Fin SENSORHUB_NUM_ALGOS → Option AlgoMask :=
  ![some .M_ALGO_MODALITY, some .M_ALGO_ORIENTATION, some .M_ALGO_STOWED,
    some .M_ALGO_ACCUM_MODALITY, some .M_ALGO_ACCUM_MVMT, none]

namespace Tables

variable (T : Tables)

def numParts (i : ℕ) : BitVec 8 :=
  if h : i < SENSORHUB_NUM_ALGOS then numPartsTable ⟨i, h⟩ else T.behindNumParts i

def algoBits (i : ℕ) : BitVec 16 :=
  if h : i < SENSORHUB_NUM_ALGOS then ((algoMask ⟨i, h⟩).map T.mask).getD 0
  else T.behindAlgoBits i

end Tables

/-- The words of `active_parts` from the sixth on are behind the array. -/
structure Context where
  activeAlgos : BitVec 16
  activeParts : ℕ → BitVec 32

def Context.opened (behind : ℕ → BitVec 32) : Context :=
  ⟨0, fun i => if i < SENSORHUB_NUM_ALGOS then 0 else behind i⟩

inductive Ioctl
  | SET_MOTION_DUR | SET_ZRMOTION_DUR | SET_ALGOS | SET_ALGO_REQ
  deriving DecidableEq

abbrev Errno := { n : ℤ // 0 < n }

abbrev Replies := Ioctl → Option Errno

def Replies.error (io : Replies) (c : Ioctl) : ℤ :=
  match io c with
  | none => 0
  | some errno => -errno.val

/-- `parameter` holds the words that the two durations convert to. -/
structure Algo where
  type : BitVec 32
  enable : BitVec 32
  parameter : Fin 2 → BitVec 32

/-- The error after the two duration ioctls, the second of which overwrites the first. -/
def durationError (io : Replies) : ℤ :=
  if io .SET_ZRMOTION_DUR = none then io.error .SET_MOTION_DUR else io.error .SET_ZRMOTION_DUR

structure Enabled where
  error : ℤ
  context : Context
  sent : List (Ioctl × BitVec 32)

/-- `data` is the variable on the stack, which only the movement case assigns. -/
def sensorhubEnable (H : AlgoHeader) (context : Context) (algo : Algo) (data : BitVec 32)
    (io : Replies) : Enabled :=
  let movement := (H.mask .M_MMOVEME ||| H.mask .M_NOMMOVE).setWidth 32
  let active := context.activeAlgos.setWidth 32
  let r : ℤ × BitVec 32 × List (Ioctl × BitVec 32) :=
    if algo.type = BitVec.ofNat 32 SENSORHUB_ALGO_MOVEMENT then
      if algo.enable ≠ 0 then
        (durationError io, active ||| movement,
          [(.SET_MOTION_DUR, algo.parameter 0), (.SET_ZRMOTION_DUR, algo.parameter 1)])
      else (0, active &&& ~~~movement, [])
    else (0, data, [])
  let error := if r.1 = 0 then io.error .SET_ALGOS else r.1
  { error := error
    context := if error = 0 then { context with activeAlgos := r.2.1.setWidth 16 } else context
    sent := r.2.2 ++ if r.1 = 0 then [(.SET_ALGOS, r.2.1)] else [] }

inductive Table
  | numParts | algoBits | activeParts
  deriving DecidableEq

/-- The result of a request: `message` is what `SET_ALGO_REQ` is handed, `algos` what
`SET_ALGOS` is, and an access in a loop is listed once. -/
structure Request where
  error : ℤ
  context : Context
  algos : BitVec 16
  reqLen : BitVec 8
  payload : List (BitVec 8)
  message : List (BitVec 8)
  accesses : List (Table × ℕ)

def leBytes {w : ℕ} (n : ℕ) (x : BitVec w) : List (BitVec 8) :=
  (List.range n).map fun i => x.extractLsb' (8 * i) 8

def SIZEOF_DURATIONS : ℕ := 4
def SIZEOF_AS_REQ : ℕ := 6
def SIZEOF_AM_REQ : ℕ := 6

section Request
variable (T : Tables) (context : Context) (algo : BitVec 16) (activeParts : BitVec 32)
variable (reqInfo : ℕ → ℕ → BitVec 8) (io : Replies)

def reqLen : BitVec 8 :=
  BitVec.ofNat 8 <|
    if algo.toNat = SENSORHUB_ALGO_ACCUM_MVMT then SIZEOF_AM_REQ
    else if algo.toNat = SENSORHUB_ALGO_ACCUM_MODALITY then
      SIZEOF_AS_REQ * (T.numParts algo.toNat).toNat
    else 4 + SIZEOF_DURATIONS * (T.numParts algo.toNat).toNat

def partBytes (n i : ℕ) : List (BitVec 8) := (List.range n).map (reqInfo i)

def payloadBytes : List (BitVec 8) :=
  if algo.toNat = SENSORHUB_ALGO_ACCUM_MVMT then partBytes reqInfo SIZEOF_AM_REQ 0
  else if algo.toNat = SENSORHUB_ALGO_ACCUM_MODALITY then
    (List.range (T.numParts algo.toNat).toNat).flatMap (partBytes reqInfo SIZEOF_AS_REQ)
  else leBytes 4 activeParts ++
    (List.range (T.numParts algo.toNat).toNat).flatMap (partBytes reqInfo SIZEOF_DURATIONS)

def nextAlgos : BitVec 16 :=
  if context.activeParts algo.toNat = 0 ∧ activeParts ≠ 0 then
    context.activeAlgos ||| T.algoBits algo.toNat
  else if context.activeParts algo.toNat ≠ 0 ∧ activeParts = 0 then
    context.activeAlgos &&& ~~~T.algoBits algo.toNat
  else context.activeAlgos

/-- The log line of the function reads `num_parts` for every id. -/
def tableAccesses : List (Table × ℕ) :=
  [(.numParts, algo.toNat), (.activeParts, algo.toNat)] ++
    (if (context.activeParts algo.toNat = 0 ↔ activeParts = 0) then []
      else [(.algoBits, algo.toNat)]) ++
    (if io .SET_ALGO_REQ = none then [(.activeParts, algo.toNat)] else [])

def sensorhubAlgoReq : Request :=
  let reqLen := reqLen T algo
  let payload := payloadBytes T algo activeParts reqInfo
  let stored := { context with
    activeParts := Function.update context.activeParts algo.toNat activeParts }
  let r : ℤ × Context :=
    if io .SET_ALGO_REQ ≠ none then (io.error .SET_ALGO_REQ, context)
    else if io .SET_ALGOS ≠ none then (io.error .SET_ALGOS, stored)
    else (0, { stored with activeAlgos := nextAlgos T context algo activeParts })
  { error := r.1, context := r.2, algos := nextAlgos T context algo activeParts
    reqLen := reqLen, payload := payload
    message := leBytes 2 algo ++ leBytes 1 reqLen ++ payload
    accesses := tableAccesses context algo activeParts io }

end Request

/-- The request stays within the tables and within the message it announces. -/
structure InBounds (r : Request) : Prop where
  index : ∀ a ∈ r.accesses, a.2 < SENSORHUB_NUM_ALGOS
  reqLen : r.payload.length = r.reqLen.toNat
  message : r.message.length = 2 + 1 + r.reqLen.toNat

@[simp] theorem leBytes_length {w : ℕ} (n : ℕ) (x : BitVec w) : (leBytes n x).length = n := by
  simp [leBytes]

theorem flatMap_partBytes_length (reqInfo : ℕ → ℕ → BitVec 8) (n k : ℕ) :
    ((List.range k).flatMap (partBytes reqInfo n)).length = n * k := by
  simp [partBytes, List.length_flatMap, Nat.mul_comm]

theorem numParts_le (T : Tables) {i : ℕ} (h : i < SENSORHUB_NUM_ALGOS) :
    (T.numParts i).toNat ≤ 6 := by
  have htable : ∀ j, (numPartsTable j).toNat ≤ 6 := by decide
  rw [Tables.numParts, dif_pos h]
  exact htable ⟨i, h⟩

theorem num_algos_le_of_mem_headerIds : ∀ id ∈ headerIds, SENSORHUB_NUM_ALGOS ≤ id := by
  decide

theorem ne_of_mem_headerIds {i : ℕ} (hi : i < SENSORHUB_NUM_ALGOS) (id : ℕ)
    (hid : id ∈ headerIds) : i ≠ id :=
  (Nat.lt_of_lt_of_le hi (num_algos_le_of_mem_headerIds id hid)).ne

theorem sensorhubAlgoReq_inBounds_iff (T : Tables) (context : Context) (algo : BitVec 16)
    (activeParts : BitVec 32) (reqInfo : ℕ → ℕ → BitVec 8) (io : Replies) :
    InBounds (sensorhubAlgoReq T context algo activeParts reqInfo io) ↔
      algo.toNat < SENSORHUB_NUM_ALGOS := by
  constructor
  · intro h
    refine h.index (.activeParts, algo.toNat) ?_
    simp [sensorhubAlgoReq, tableAccesses]
  · intro h
    have hparts := numParts_le T h
    have hmvmt := ne_of_mem_headerIds h SENSORHUB_ALGO_ACCUM_MVMT (by decide)
    have hmodality := ne_of_mem_headerIds h SENSORHUB_ALGO_ACCUM_MODALITY (by decide)
    have hlen : (payloadBytes T algo activeParts reqInfo).length = (reqLen T algo).toNat := by
      simp only [payloadBytes, reqLen, hmvmt, hmodality, ↓reduceIte, List.length_append,
        leBytes_length, flatMap_partBytes_length, BitVec.toNat_ofNat, SIZEOF_DURATIONS]
      omega
    refine ⟨?_, hlen, ?_⟩
    · intro a ha
      have hidx : a.2 = algo.toNat := by
        simp only [sensorhubAlgoReq, tableAccesses, List.mem_append] at ha
        grind
      rw [hidx]
      exact h
    · simp only [sensorhubAlgoReq, List.length_append, leBytes_length, hlen]

/-- The first id of the public header is past the tables. -/
theorem modality_id_out_of_tables :
    ¬ InBounds (sensorhubAlgoReq ⟨.numbered, fun _ => 0, fun _ => 0⟩ (.opened fun _ => 0)
      (BitVec.ofNat 16 SENSORHUB_ALGO_MODALITY) 1 (fun _ _ => 0) fun _ => none) := by
  intro h
  exact absurd (h.index (.activeParts, 29) (by decide)) (by decide)

end Cedric.Sensorhub
