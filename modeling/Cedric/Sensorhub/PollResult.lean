import Cedric.Lib.Updates
import Cedric.Sensorhub.Events

/-!
# What a result of `sensorhub_poll` says about the event

The result of `read` is only compared with 0 and the switch has no default, so a
failed read, a part of a record and a record of an unknown type all end like a
record that was decoded. A decoded record sets only some cells of the event; which
fields of an event type are meaningful is the caller's matter and a parameter here.
-/

namespace Cedric.Sensorhub

open ByteMemory Updates

inductive Field
  | time
  | ertime
  | member (m : Member)
  deriving DecidableEq

def Field.Same : Field → Event → Event → Prop
  | time, e, e' => e.time = e'.time
  | ertime, e, e' => e.ertime = e'.ertime
  | member m, e, e' => e.get m = e'.get m

inductive Cell
  | time
  | ertime
  | byte (i : ℕ)

def Cell.read : Cell → Event → ℤ
  | time, e => e.time
  | ertime, e => e.ertime
  | byte i, e => (e.bytes i).toNat

def Field.cells : Field → Set Cell
  | time => {.time}
  | ertime => {.ertime}
  | member m => {x | ∃ i, m.Covers i ∧ x = .byte i}

def cellsOf (fs : List Field) : Set Cell := {x | ∃ f ∈ fs, x ∈ f.cells}

def DataType.Handled : DataType → Prop
  | .other _ => False
  | _ => True

/-- The event type of a record with a case that returns 1. -/
def SensorData.eventType (b : SensorData) : ℕ :=
  match b.type with
  | .DT_MMMOVE => SENSORHUB_EVENT_START_MOVEMENT
  | .DT_NOMOVE => SENSORHUB_EVENT_END_MOVEMENT
  | .DT_ALGO_EVT =>
    if b.algo.toNat = SENSORHUB_ALGO_ACCUM_MVMT then SENSORHUB_EVENT_ACCUM_MVMT
    else if b.algo.toNat = SENSORHUB_ALGO_ACCUM_MODALITY then SENSORHUB_EVENT_ACCUM_STATE
    else SENSORHUB_EVENT_TRANSITION
  | _ => SENSORHUB_EVENT_RESET

def SensorData.assigned (b : SensorData) : List Field :=
  match b.type with
  | .DT_MMMOVE | .DT_NOMOVE => [.member .value2]
  | .DT_ALGO_EVT =>
    if b.algo.toNat = SENSORHUB_ALGO_ACCUM_MVMT then
      [.time, .ertime, .member .timeS, .member .distance]
    else if b.algo.toNat = SENSORHUB_ALGO_ACCUM_MODALITY then
      [.time, .ertime, .member .accumAlgo, .member .id]
    else
      [.time, .ertime, .member .algo, .member .past, .member .confidence, .member .oldState,
        .member .newState]
  | .DT_RESET => [.time]
  | .DT_GENERIC_INT | .other _ => []

inductive Setting
  | time (t : ℤ)
  | ertime (t : ℤ)
  | member (m : Member) (v : BitVec (8 * m.size))

def Setting.field : Setting → Field
  | time _ => .time
  | ertime _ => .ertime
  | member m _ => .member m

def Setting.HoldsIn (e : Event) : Setting → Prop
  | time t => e.time = t
  | ertime t => e.ertime = t
  | member m v => e.get m = v

def SensorData.settings (c : Clocks) (b : SensorData) : List Setting :=
  let ertime := max 0 c.elapsed
  let age := (STMLE16TOH b.data ALGO_MS).toInt * 1000
  match b.type with
  | .DT_MMMOVE | .DT_NOMOVE => [.member .value2 (floatBits (b.data MOVE_VALUE >>> 4).toNat)]
  | .DT_ALGO_EVT =>
    if b.algo.toNat = SENSORHUB_ALGO_ACCUM_MVMT then
      [.time c.wall, .ertime ertime,
        .member .timeS ((STMLE16TOH b.data ALGO_TIME).signExtend 32),
        .member .distance ((STMLE16TOH b.data ALGO_DISTANCE).signExtend 32)]
    else if b.algo.toNat = SENSORHUB_ALGO_ACCUM_MODALITY then
      [.time c.wall, .ertime ertime, .member .accumAlgo b.algo,
        .member .id (STMLE16TOH b.data ALGO_ID)]
    else
      [.time (c.wall - age), .ertime (if 0 < ertime then ertime - age else ertime),
        .member .algo b.algo,
        .member .past (boolByte (decide (0 < b.data ALGO_PAST &&& 0x80))),
        .member .confidence (b.data ALGO_CONFIDENCE &&& 0x7F : BitVec 8),
        .member .oldState ((STMLE16TOH b.data ALGO_OLDSTATE).signExtend 32),
        .member .newState ((STMLE16TOH b.data ALGO_NEWSTATE).signExtend 32)]
  | .DT_RESET => [.time c.wall]
  | .DT_GENERIC_INT | .other _ => []

/-- Every cell of the field holds what the record says. -/
def Field.SetFrom (c : Clocks) (b : SensorData) (e : Event) (f : Field) : Prop :=
  ∀ x ∈ f.cells, ∃ s ∈ b.settings c, x ∈ s.field.cells ∧ s.HoldsIn e

/-- Two calls that differ in the caller's old event leave the same type and the same fields. -/
def SetAlike (meaningful : ℕ → Field → Prop) (e e' : Event) : Prop :=
  e.type = e'.type ∧ ∀ f, meaningful e.type f → f.Same e e'

structure Reported (meaningful : ℕ → Field → Prop) (replies : List PollReply) (read : Read)
    (c : Clocks) : Prop where
  one : ∀ event e, sensorhubPoll replies read c event = some (1, e) →
    ∃ b, read = .record b ∧ b.type.Handled ∧ e.type = b.eventType ∧
      (∀ f, meaningful e.type f → f.SetFrom c b e) ∧
      ∀ event' e', sensorhubPoll replies read c event' = some (1, e') →
        SetAlike meaningful e e'
  failing : ∀ err buff event r e, read = .failed err buff → pollLoop replies = some none →
    sensorhubPoll replies read c event = some (r, e) → r < 0 ∧ e = event

/-- The case of the record assigns everything that is meaningful for its event. -/
def SensorData.Complete (meaningful : ℕ → Field → Prop) (b : SensorData) : Prop :=
  ∀ f, meaningful b.eventType f → f.cells ⊆ cellsOf b.assigned

def Read.WellReported (meaningful : ℕ → Field → Prop) : Read → Prop
  | .nothing => True
  | .failed _ _ => False
  | .part buff => buff.type = .DT_GENERIC_INT
  | .record b => b.type = .DT_GENERIC_INT ∨ b.type.Handled ∧ b.Complete meaningful

theorem Field.same_iff (f : Field) (e e' : Event) :
    f.Same e e' ↔ ∀ x ∈ f.cells, x.read e = x.read e' := by
  cases f with
  | time => simp [Same, cells, Cell.read]
  | ertime => simp [Same, cells, Cell.read]
  | member m =>
    rw [Same, Event.get_eq_iff]
    constructor
    · rintro h x ⟨i, hi, rfl⟩
      exact congrArg (fun byte : BitVec 8 => (byte.toNat : ℤ)) (h i hi)
    · intro h i hi
      exact BitVec.eq_of_toNat_eq (Int.natCast_inj.mp (h (.byte i) ⟨i, hi, rfl⟩))

theorem Cell.read_free (x : Cell) : ∃ e e', x.read e ≠ x.read e' := by
  refine ⟨⟨0, 0, 0, fun _ => 0⟩, ⟨0, 1, 1, fun _ => 1⟩, ?_⟩
  cases x <;> simp [read]

theorem cellsOf_append (fs gs : List Field) : cellsOf (fs ++ gs) = cellsOf fs ∪ cellsOf gs := by
  ext x
  simp [cellsOf, or_and_right, exists_or]

theorem overwrites_set (m : Member) (v : BitVec (8 * m.size)) :
    Overwrites Cell.read (cellsOf [.member m]) (fun e => e.set m v) := by
  have hmem (x : Cell) : x ∈ cellsOf [.member m] ↔ ∃ i, m.Covers i ∧ x = .byte i := by
    simp [cellsOf, Field.cells]
  intro x
  rw [hmem]
  cases x with
  | time => exact ⟨by simp, fun _ _ => rfl⟩
  | ertime => exact ⟨by simp, fun _ _ => rfl⟩
  | byte i =>
    simp only [Cell.byte.injEq, exists_eq_right', Cell.read, Event.bytes_set]
    exact ⟨fun h _ _ => by rw [if_pos h, if_pos h], fun h _ => by rw [if_neg h]⟩

theorem overwrites_then_set {fs : List Field} {g : Event → Event}
    (h : Overwrites Cell.read (cellsOf fs) g) (m : Member) (v : BitVec (8 * m.size)) :
    Overwrites Cell.read (cellsOf (fs ++ [.member m])) (fun e => (g e).set m v) := by
  rw [cellsOf_append]
  exact h.comp (overwrites_set m v)

theorem overwrites_nothing (g : Event → Event) (h : ∀ e x, Cell.read x (g e) = Cell.read x e) :
    Overwrites Cell.read (cellsOf []) g := by
  have hempty : cellsOf [] = ∅ := by simp [cellsOf]
  rw [hempty]
  exact overwrites_empty fun x e => h e x

theorem overwrites_type (t : ℕ) :
    Overwrites Cell.read (cellsOf []) (fun e => { e with type := t }) :=
  overwrites_nothing _ fun e x => by cases x <;> rfl

theorem overwrites_time (t : ℕ) (time : ℤ) :
    Overwrites Cell.read (cellsOf [.time]) (fun e => { e with type := t, time := time }) := by
  intro x
  cases x <;> simp [cellsOf, Field.cells, Cell.read]

theorem overwrites_clocks (t : ℕ) (time ertime : ℤ) :
    Overwrites Cell.read (cellsOf [.time, .ertime])
      (fun e => { e with type := t, time := time, ertime := ertime }) := by
  intro x
  cases x <;> simp [cellsOf, Field.cells, Cell.read]

theorem overwrites_accumMvmt (b : SensorData) (time ertime : ℤ) :
    Overwrites Cell.read (cellsOf [.time, .ertime, .member .timeS, .member .distance])
      (fun e => accumMvmt b { e with time := time, ertime := ertime }) :=
  have hclocks := overwrites_clocks SENSORHUB_EVENT_ACCUM_MVMT time ertime
  overwrites_then_set (overwrites_then_set hclocks .timeS _) .distance _

theorem overwrites_accumState (b : SensorData) (time ertime : ℤ) :
    Overwrites Cell.read (cellsOf [.time, .ertime, .member .accumAlgo, .member .id])
      (fun e => accumState b { e with time := time, ertime := ertime }) :=
  have hclocks := overwrites_clocks SENSORHUB_EVENT_ACCUM_STATE time ertime
  overwrites_then_set (overwrites_then_set hclocks .accumAlgo _) .id _

theorem overwrites_transition (b : SensorData) (time ertime : ℤ) :
    Overwrites Cell.read
      (cellsOf [.time, .ertime, .member .algo, .member .past, .member .confidence,
        .member .oldState, .member .newState])
      (fun e => transition b { e with time := time, ertime := ertime }) :=
  have hclocks := overwrites_clocks SENSORHUB_EVENT_TRANSITION
    (time - (STMLE16TOH b.data ALGO_MS).toInt * 1000)
    (if 0 < ertime then ertime - (STMLE16TOH b.data ALGO_MS).toInt * 1000 else ertime)
  have hpast := overwrites_then_set (overwrites_then_set hclocks .algo b.algo) .past
    (boolByte (decide (0 < b.data ALGO_PAST &&& 0x80)))
  overwrites_then_set (overwrites_then_set (overwrites_then_set hpast .confidence _) .oldState _)
    .newState _

theorem overwrites_algoEvt (c : Clocks) (b : SensorData) (h : b.type = .DT_ALGO_EVT) :
    Overwrites Cell.read (cellsOf b.assigned) (algoEvt c b) := by
  unfold SensorData.assigned algoEvt
  rw [h]
  by_cases hmvmt : b.algo.toNat = SENSORHUB_ALGO_ACCUM_MVMT
  · simp only [if_pos hmvmt]
    exact overwrites_accumMvmt b _ _
  · simp only [if_neg hmvmt]
    by_cases hmodality : b.algo.toNat = SENSORHUB_ALGO_ACCUM_MODALITY
    · simp only [if_pos hmodality]
      exact overwrites_accumState b _ _
    · simp only [if_neg hmodality]
      exact overwrites_transition b _ _

theorem overwrites_decode (c : Clocks) (b : SensorData) :
    Overwrites Cell.read (cellsOf b.assigned) (fun e => (decode c b e).2) := by
  cases h : b.type with
  | DT_ALGO_EVT => simpa only [decode, h] using overwrites_algoEvt c b h
  | DT_MMMOVE | DT_NOMOVE =>
    simp only [SensorData.assigned, decode, h]
    exact overwrites_then_set (overwrites_type _) .value2 _
  | DT_RESET =>
    simp only [SensorData.assigned, decode, h]
    exact overwrites_time _ _
  | DT_GENERIC_INT | other code =>
    simp only [SensorData.assigned, decode, h]
    exact overwrites_nothing _ fun e x => rfl

/-- The settings are of the fields, and the event holds them. -/
def Holds (fs : List Field) (settings : List Setting) (e : Event) : Prop :=
  settings.map Setting.field = fs ∧ ∀ s ∈ settings, s.HoldsIn e

def Field.Apart (m : Member) : Field → Prop
  | member m' => m'.Apart m
  | time | ertime => True

instance (m : Member) : (f : Field) → Decidable (f.Apart m)
  | .member m' => inferInstanceAs (Decidable (m'.Apart m))
  | .time | .ertime => .isTrue trivial

theorem holds_then_set {fs : List Field} {settings : List Setting} {e : Event}
    (h : Holds fs settings e) (m : Member) (v : BitVec (8 * m.size))
    (hapart : ∀ f ∈ fs, f.Apart m) :
    Holds (fs ++ [.member m]) (settings ++ [.member m v]) (e.set m v) := by
  obtain ⟨rfl, h⟩ := h
  refine ⟨List.map_append, fun s hs => ?_⟩
  rcases List.mem_append.mp hs with hs | hs
  · have hfield := hapart _ (List.mem_map_of_mem hs)
    cases s with
    | time t => exact h _ hs
    | ertime t => exact h _ hs
    | member m' v' => exact (Event.get_set_of_apart e m v hfield).trans (h _ hs)
  · rw [List.mem_singleton.mp hs]
    exact Event.get_set_self e m v

theorem holds_nothing (e : Event) : Holds [] [] e :=
  ⟨rfl, fun _ hs => absurd hs List.not_mem_nil⟩

theorem holds_clocks (t : ℕ) (time ertime : ℤ) (event : Event) :
    Holds [.time, .ertime] [.time time, .ertime ertime]
      { event with type := t, time := time, ertime := ertime } := by
  refine ⟨rfl, ?_⟩
  simp [Setting.HoldsIn]

theorem holds_accumMvmt (b : SensorData) (time ertime : ℤ) (event : Event) :
    Holds [.time, .ertime, .member .timeS, .member .distance]
      [.time time, .ertime ertime,
        .member .timeS ((STMLE16TOH b.data ALGO_TIME).signExtend 32),
        .member .distance ((STMLE16TOH b.data ALGO_DISTANCE).signExtend 32)]
      (accumMvmt b { event with time := time, ertime := ertime }) :=
  have hclocks := holds_clocks SENSORHUB_EVENT_ACCUM_MVMT time ertime event
  have htime := holds_then_set hclocks .timeS _ (by decide)
  holds_then_set htime .distance _ (by decide)

theorem holds_accumState (b : SensorData) (time ertime : ℤ) (event : Event) :
    Holds [.time, .ertime, .member .accumAlgo, .member .id]
      [.time time, .ertime ertime, .member .accumAlgo b.algo,
        .member .id (STMLE16TOH b.data ALGO_ID)]
      (accumState b { event with time := time, ertime := ertime }) :=
  have hclocks := holds_clocks SENSORHUB_EVENT_ACCUM_STATE time ertime event
  have halgo := holds_then_set hclocks .accumAlgo _ (by decide)
  holds_then_set halgo .id _ (by decide)

theorem holds_transition (b : SensorData) (time ertime : ℤ) (event : Event) :
    Holds
      [.time, .ertime, .member .algo, .member .past, .member .confidence, .member .oldState,
        .member .newState]
      [.time (time - (STMLE16TOH b.data ALGO_MS).toInt * 1000),
        .ertime (if 0 < ertime then ertime - (STMLE16TOH b.data ALGO_MS).toInt * 1000 else ertime),
        .member .algo b.algo,
        .member .past (boolByte (decide (0 < b.data ALGO_PAST &&& 0x80))),
        .member .confidence (b.data ALGO_CONFIDENCE &&& 0x7F : BitVec 8),
        .member .oldState ((STMLE16TOH b.data ALGO_OLDSTATE).signExtend 32),
        .member .newState ((STMLE16TOH b.data ALGO_NEWSTATE).signExtend 32)]
      (transition b { event with time := time, ertime := ertime }) :=
  have hclocks := holds_clocks SENSORHUB_EVENT_TRANSITION
    (time - (STMLE16TOH b.data ALGO_MS).toInt * 1000)
    (if 0 < ertime then ertime - (STMLE16TOH b.data ALGO_MS).toInt * 1000 else ertime) event
  have halgo := holds_then_set hclocks .algo b.algo (by decide)
  have hpast := holds_then_set halgo .past _ (by decide)
  have hconfidence := holds_then_set hpast .confidence _ (by decide)
  have hold := holds_then_set hconfidence .oldState _ (by decide)
  holds_then_set hold .newState _ (by decide)

theorem holds_algoEvt (c : Clocks) (b : SensorData) (event : Event) (h : b.type = .DT_ALGO_EVT) :
    Holds b.assigned (b.settings c) (algoEvt c b event) := by
  have hertime : (if 0 < c.elapsed then c.elapsed else 0) = max 0 c.elapsed := by
    split_ifs <;> omega
  unfold SensorData.assigned SensorData.settings algoEvt
  rw [h, hertime]
  by_cases hmvmt : b.algo.toNat = SENSORHUB_ALGO_ACCUM_MVMT
  · simp only [if_pos hmvmt]
    exact holds_accumMvmt b _ _ event
  · simp only [if_neg hmvmt]
    by_cases hmodality : b.algo.toNat = SENSORHUB_ALGO_ACCUM_MODALITY
    · simp only [if_pos hmodality]
      exact holds_accumState b _ _ event
    · simp only [if_neg hmodality]
      exact holds_transition b _ _ event

theorem holds_decode (c : Clocks) (b : SensorData) (event : Event) :
    Holds b.assigned (b.settings c) (decode c b event).2 := by
  cases h : b.type with
  | DT_ALGO_EVT => simpa only [decode, h] using holds_algoEvt c b event h
  | DT_MMMOVE | DT_NOMOVE =>
    simp only [SensorData.assigned, SensorData.settings, decode, h]
    exact holds_then_set (holds_nothing _) .value2 _ (by decide)
  | DT_RESET =>
    simp only [SensorData.assigned, SensorData.settings, decode, h]
    exact ⟨rfl, by simp [Setting.HoldsIn]⟩
  | DT_GENERIC_INT | other code =>
    simp only [SensorData.assigned, SensorData.settings, h]
    exact holds_nothing _

theorem setFrom_decode (c : Clocks) (b : SensorData) (event : Event) {f : Field}
    (hf : f.cells ⊆ cellsOf b.assigned) : f.SetFrom c b (decode c b event).2 := by
  obtain ⟨hfields, hholds⟩ := holds_decode c b event
  intro x hx
  obtain ⟨g, hg, hxg⟩ := hf hx
  rw [← hfields] at hg
  obtain ⟨s, hs, rfl⟩ := List.mem_map.mp hg
  exact ⟨s, hs, hxg, hholds s hs⟩

theorem decode_ret (c : Clocks) (b : SensorData) (event : Event) :
    (decode c b event).1 = if b.type = .DT_GENERIC_INT then 0 else 1 := by
  cases h : b.type <;> simp [decode, h]

theorem decode_type (c : Clocks) {b : SensorData} (event : Event) (hhandled : b.type.Handled)
    (hgeneric : b.type ≠ .DT_GENERIC_INT) : (decode c b event).2.type = b.eventType := by
  cases h : b.type with
  | DT_MMMOVE => simp [decode, SensorData.eventType, h, movement]
  | DT_NOMOVE => simp [decode, SensorData.eventType, h, movement]
  | DT_ALGO_EVT =>
    simp only [decode, SensorData.eventType, h, algoEvt]
    split_ifs <;> rfl
  | DT_GENERIC_INT => exact absurd h hgeneric
  | DT_RESET => simp [decode, SensorData.eventType, h]
  | other code => exact absurd hhandled (by rw [h]; exact not_false)

theorem setAlike_decode_iff {meaningful : ℕ → Field → Prop} (c : Clocks) {b : SensorData}
    (hhandled : b.type.Handled) (hgeneric : b.type ≠ .DT_GENERIC_INT) :
    (∀ e e', SetAlike meaningful (decode c b e).2 (decode c b e').2) ↔
      b.Complete meaningful := by
  have hdet (f : Field) := (overwrites_decode c b).determined_iff (R := f.cells) Cell.read_free
  constructor
  · intro h f hf
    refine (hdet f).mp fun e e' => ?_
    have hsame := (h e e').2 f (by rwa [decode_type c e hhandled hgeneric])
    exact (f.same_iff _ _).mp hsame
  · intro h e e'
    have htype (e : Event) := decode_type c e hhandled hgeneric
    refine ⟨(htype e).trans (htype e').symm, fun f hf => ?_⟩
    rw [htype] at hf
    exact (f.same_iff _ _).mpr ((hdet f).mpr (h f hf) e e')

variable {meaningful : ℕ → Field → Prop} {replies : List PollReply} {c : Clocks}

theorem reported_of_never_one {read : Read}
    (hone : ∀ event e, sensorhubPoll replies read c event ≠ some (1, e))
    (hread : pollLoop replies = some none → ∀ err buff, read ≠ .failed err buff) :
    Reported meaningful replies read c where
  one event e h := absurd h (hone event e)
  failing err buff _ _ _ hfailed hloop _ := absurd hfailed (hread hloop err buff)

theorem never_one_of_generic {read : Read} {b : SensorData} (hbuff : read.buff = some b)
    (hgeneric : b.type = .DT_GENERIC_INT) (event e : Event) :
    sensorhubPoll replies read c event ≠ some (1, e) := by
  intro h
  obtain ⟨-, b', hb', hdecode⟩ := sensorhubPoll_one h
  obtain rfl : b = b' := Option.some.inj (hbuff.symm.trans hb')
  have hret := decode_ret c b event
  rw [if_pos hgeneric, hdecode] at hret
  exact one_ne_zero hret

theorem reported_record_iff (hloop : pollLoop replies = some none) (b : SensorData) :
    Reported meaningful replies (.record b) c ↔
      b.type = .DT_GENERIC_INT ∨ b.type.Handled ∧ b.Complete meaningful := by
  by_cases hgeneric : b.type = .DT_GENERIC_INT
  · refine iff_of_true ?_ (Or.inl hgeneric)
    exact reported_of_never_one (never_one_of_generic rfl hgeneric) fun _ _ _ h => by cases h
  · have hpoll (event : Event) : sensorhubPoll replies (.record b) c event =
        some (1, (decode c b event).2) := by
      have hret := decode_ret c b event
      rw [if_neg hgeneric] at hret
      rw [sensorhubPoll_record hloop, ← hret]
    constructor
    · intro h
      obtain ⟨b', hb', hhandled, -⟩ := h.one default _ (hpoll default)
      cases hb'
      refine Or.inr ⟨hhandled, (setAlike_decode_iff c hhandled hgeneric).mp fun e e' => ?_⟩
      obtain ⟨-, -, -, -, -, halike⟩ := h.one e _ (hpoll e)
      exact halike e' _ (hpoll e')
    · rintro (h | ⟨hhandled, hcomplete⟩)
      · exact absurd h hgeneric
      · have halike := (setAlike_decode_iff c hhandled hgeneric).mpr hcomplete
        constructor
        · intro event e h
          rw [hpoll] at h
          cases h
          have htype := decode_type c event hhandled hgeneric
          refine ⟨b, rfl, hhandled, htype, fun f hf => ?_, fun event' e' h' => ?_⟩
          · rw [htype] at hf
            exact setFrom_decode c b event (hcomplete f hf)
          · rw [hpoll] at h'
            cases h'
            exact halike event event'
        · intro err buff event r e h
          cases h

theorem not_reported_failed (hloop : pollLoop replies = some none) (err : Errno)
    (buff : SensorData) : ¬Reported meaningful replies (.failed err buff) c := by
  intro h
  have hneg : (decode c buff default).1 < 0 :=
    (h.failing err buff default _ _ rfl hloop (sensorhubPoll_of_buff hloop rfl c default)).1
  rw [decode_ret] at hneg
  split_ifs at hneg <;> omega

theorem reported_part_iff (hloop : pollLoop replies = some none) (buff : SensorData) :
    Reported meaningful replies (.part buff) c ↔ buff.type = .DT_GENERIC_INT := by
  constructor
  · intro h
    by_contra hgeneric
    have hret := decode_ret c buff default
    rw [if_neg hgeneric] at hret
    have hpoll : sensorhubPoll replies (.part buff) c default =
        some (1, (decode c buff default).2) := by
      rw [sensorhubPoll_of_buff hloop rfl, ← hret]
    obtain ⟨b, hb, -⟩ := h.one default _ hpoll
    cases hb
  · intro hgeneric
    exact reported_of_never_one (never_one_of_generic rfl hgeneric) fun _ _ _ h => by cases h

theorem reported_iff (meaningful : ℕ → Field → Prop) (replies : List PollReply) (read : Read)
    (c : Clocks) :
    Reported meaningful replies read c ↔
      (pollLoop replies = some none → read.WellReported meaningful) := by
  by_cases hloop : pollLoop replies = some none
  · rw [imp_iff_right hloop]
    cases read with
    | failed err buff => exact iff_of_false (not_reported_failed hloop err buff) not_false
    | nothing =>
      refine iff_of_true (reported_of_never_one (fun event e h => ?_) fun _ _ _ h => ?_) trivial
      · obtain ⟨-, b, hb, -⟩ := sensorhubPoll_one h
        cases hb
      · cases h
    | part buff => exact reported_part_iff hloop buff
    | record b => exact reported_record_iff hloop b
  · refine iff_of_true ?_ fun h => absurd h hloop
    exact reported_of_never_one (fun event e h => hloop (sensorhubPoll_one h).1)
      fun h => absurd h hloop

/-- `read` fails with `EIO`, and what was on the stack has no known type. -/
theorem failed_read_reports_one :
    sensorhubPoll [none] (.failed ⟨5, by decide⟩ ⟨.other 0, fun _ => 0⟩) default default =
        some (1, default) ∧
      ¬Reported (fun _ _ => False) [none] (.failed ⟨5, by decide⟩ ⟨.other 0, fun _ => 0⟩) default :=
  ⟨rfl, not_reported_failed rfl _ _⟩

end Cedric.Sensorhub
