import Cedric.Sensorhub.Events
import Mathlib.Tactic.IntervalCases

/-!
# Decoding the payload of an algorithm

`sensorhub_poll` reads the 16-bit values of an algorithm's payload as signed and
widens them by their sign, `sensorhub_algo_query` puts them together from two
bytes without one. They differ where a high byte has its top bit set. The same
signed reading decides how far back a transition is dated, and the elapsed clock
is not checked again after the age is taken off.
-/

namespace Cedric.Sensorhub

open ByteMemory

def algoRecord (data : Memory) : SensorData := ⟨.DT_ALGO_EVT, data⟩

/-- What both decoders take from the payload of an algorithm. -/
def payloadMembers (algo : BitVec 16) : List Member :=
  if algo.toNat = SENSORHUB_ALGO_ACCUM_MVMT then [.timeS, .distance]
  else if algo.toNat = SENSORHUB_ALGO_ACCUM_MODALITY then []
  else [.past, .confidence, .oldState, .newState]

/-- A polled event holds what a query for the same algorithm gets from `p_evt`. -/
def DecodedAlike (data pEvt : Memory) : Prop :=
  ∀ replies c event output e,
    sensorhubPoll replies (.record (algoRecord data)) c event = some (1, e) →
      ∀ m ∈ payloadMembers (algoRecord data).algo,
        e.get m = (sensorhubAlgoQuery (algoRecord data).algo none pEvt output).2.get m

/-- A query's registers for the event of a record: those of the movement algorithm have no byte
before the time. -/
def registers (data : Memory) : Memory :=
  if (algoRecord data).algo.toNat = SENSORHUB_ALGO_ACCUM_MVMT then fun i => data (i + ALGO_TIME)
  else data

theorem shifted_eq (p : Memory) (i : ℕ) : shifted p i = (load p i 2).setWidth 32 := by
  apply BitVec.eq_of_getLsbD_eq
  intro j hj
  rw [shifted, BitVec.getLsbD_or, BitVec.getLsbD_shiftLeft, BitVec.getLsbD_setWidth,
    BitVec.getLsbD_setWidth, BitVec.getLsbD_setWidth, getLsbD_load]
  rcases Nat.lt_or_ge j 8 with hlow | hlow
  · have h16 : j < 16 := by omega
    simp [hj, hlow, h16, Nat.div_eq_of_lt hlow, Nat.mod_eq_of_lt hlow]
  · rcases Nat.lt_or_ge j 16 with hhigh | hhigh
    · have hdiv : j / 8 = 1 := by omega
      have hmod : j % 8 = j - 8 := by omega
      have hsub : j - 8 < 32 := by omega
      simp [hj, hlow, hhigh, hdiv, hmod, hsub, Nat.not_lt.mpr hlow]
    · have h16 : ¬j < 16 := by omega
      have hout : 8 ≤ j - 8 := by omega
      simp [hlow, h16, hout]

theorem signed_eq_shifted_iff (data p : Memory) (i j : ℕ) :
    (STMLE16TOH data i).signExtend 32 = shifted p j ↔
      load data i 2 = load p j 2 ∧ (data (i + 1)).msb = false := by
  rw [shifted_eq, STMLE16TOH, signExtend_eq_setWidth_iff (by decide) (load data i 2), msb_load]

theorem get_transition (e : Event) (a : BitVec 16) (p k : BitVec 8) (o n : BitVec 32) :
    let e' := e.set .algo a |>.set .past p |>.set .confidence k |>.set .oldState o
      |>.set .newState n
    e'.get .past = p ∧ e'.get .confidence = k ∧ e'.get .oldState = o ∧ e'.get .newState = n := by
  refine ⟨?_, ?_, ?_, Event.get_set_self ..⟩
  · rw [Event.get_set_of_apart _ _ _ (by decide), Event.get_set_of_apart _ _ _ (by decide),
      Event.get_set_of_apart _ _ _ (by decide), Event.get_set_self]
  · rw [Event.get_set_of_apart _ _ _ (by decide), Event.get_set_of_apart _ _ _ (by decide),
      Event.get_set_self]
  · rw [Event.get_set_of_apart _ _ _ (by decide), Event.get_set_self]

theorem get_accumMvmt (e : Event) (t d : BitVec 32) :
    let e' := e.set .timeS t |>.set .distance d
    e'.get .timeS = t ∧ e'.get .distance = d := by
  refine ⟨?_, Event.get_set_self ..⟩
  rw [Event.get_set_of_apart _ _ _ (by decide), Event.get_set_self]

theorem accumMvmt_members (b : SensorData) (event : Event) :
    (accumMvmt b event).get .timeS = (STMLE16TOH b.data ALGO_TIME).signExtend 32 ∧
      (accumMvmt b event).get .distance = (STMLE16TOH b.data ALGO_DISTANCE).signExtend 32 :=
  get_accumMvmt ..

theorem transition_members (b : SensorData) (event : Event) :
    (transition b event).get .past = boolByte (decide (0 < b.data ALGO_PAST &&& 0x80)) ∧
      (transition b event).get .confidence = (b.data ALGO_CONFIDENCE &&& 0x7F : BitVec 8) ∧
      (transition b event).get .oldState = (STMLE16TOH b.data ALGO_OLDSTATE).signExtend 32 ∧
      (transition b event).get .newState = (STMLE16TOH b.data ALGO_NEWSTATE).signExtend 32 :=
  get_transition ..

theorem query_accumMvmt {algo : BitVec 16} (h : algo.toNat = SENSORHUB_ALGO_ACCUM_MVMT)
    (p : Memory) (output : Event) :
    (sensorhubAlgoQuery algo none p output).2.get .timeS = shifted p 0 ∧
      (sensorhubAlgoQuery algo none p output).2.get .distance = shifted p 2 := by
  rw [sensorhubAlgoQuery, if_pos h]
  exact get_accumMvmt ..

theorem query_transition {algo : BitVec 16} (h : algo.toNat ≠ SENSORHUB_ALGO_ACCUM_MVMT)
    (p : Memory) (output : Event) :
    (sensorhubAlgoQuery algo none p output).2.get .past =
        boolByte (decide (0 < p 0 &&& 0x80)) ∧
      (sensorhubAlgoQuery algo none p output).2.get .confidence = (p 0 &&& 0x7F : BitVec 8) ∧
      (sensorhubAlgoQuery algo none p output).2.get .oldState = shifted p 1 ∧
      (sensorhubAlgoQuery algo none p output).2.get .newState = shifted p 3 := by
  rw [sensorhubAlgoQuery, if_neg h]
  exact get_transition ..

theorem decodedAlike_iff_algoEvt (data p : Memory) :
    DecodedAlike data p ↔
      ∀ c event output, ∀ m ∈ payloadMembers (algoRecord data).algo,
        (algoEvt c (algoRecord data) event).get m =
          (sensorhubAlgoQuery (algoRecord data).algo none p output).2.get m := by
  constructor
  · intro h c event output
    exact h [none] c event output _ (sensorhubPoll_record rfl (algoRecord data) c event)
  · intro h replies c event output e hpoll
    obtain ⟨-, b, hb, hdecode⟩ := sensorhubPoll_one hpoll
    obtain rfl : algoRecord data = b := Option.some.inj hb
    obtain rfl : algoEvt c (algoRecord data) event = e := congrArg Prod.snd hdecode
    exact h c event output

theorem decodedAlike_mvmt_iff {data : Memory} (p : Memory)
    (h : (algoRecord data).algo.toNat = SENSORHUB_ALGO_ACCUM_MVMT) :
    DecodedAlike data p ↔
      (load data 1 2 = load p 0 2 ∧ (data 2).msb = false) ∧
        load data 3 2 = load p 2 2 ∧ (data 4).msb = false := by
  have hpoll (c : Clocks) (event : Event) :=
    accumMvmt_members (algoRecord data)
      { event with time := c.wall, ertime := if 0 < c.elapsed then c.elapsed else 0 }
  have hquery (output : Event) := query_accumMvmt h p output
  rw [← signed_eq_shifted_iff, ← signed_eq_shifted_iff data p 3, decodedAlike_iff_algoEvt]
  simp only [payloadMembers, algoEvt, h, if_true, List.forall_mem_cons, List.not_mem_nil,
    false_imp_iff, implies_true, and_true, hpoll, hquery, forall_const]
  rfl

theorem decodedAlike_transition_iff {data : Memory}
    (hmvmt : (algoRecord data).algo.toNat ≠ SENSORHUB_ALGO_ACCUM_MVMT)
    (hmodality : (algoRecord data).algo.toNat ≠ SENSORHUB_ALGO_ACCUM_MODALITY) :
    DecodedAlike data data ↔ (data 2).msb = false ∧ (data 4).msb = false := by
  have hpoll (c : Clocks) (event : Event) :=
    transition_members (algoRecord data)
      { event with time := c.wall, ertime := if 0 < c.elapsed then c.elapsed else 0 }
  have hquery (output : Event) := query_transition hmvmt data output
  have hold : (STMLE16TOH data ALGO_OLDSTATE).signExtend 32 = shifted data 1 ↔
      (data 2).msb = false :=
    (signed_eq_shifted_iff data data ALGO_OLDSTATE 1).trans (and_iff_right rfl)
  have hnew : (STMLE16TOH data ALGO_NEWSTATE).signExtend 32 = shifted data 3 ↔
      (data 4).msb = false :=
    (signed_eq_shifted_iff data data ALGO_NEWSTATE 3).trans (and_iff_right rfl)
  rw [decodedAlike_iff_algoEvt]
  simp only [payloadMembers, algoEvt, if_neg hmvmt, if_neg hmodality, List.forall_mem_cons,
    List.not_mem_nil, false_imp_iff, implies_true, and_true, hpoll, hquery, forall_const]
  exact (and_iff_right rfl).trans ((and_iff_right rfl).trans (and_congr hold hnew))

theorem decodedAlike_modality {data : Memory} (p : Memory)
    (h : (algoRecord data).algo.toNat = SENSORHUB_ALGO_ACCUM_MODALITY) : DecodedAlike data p := by
  have hmvmt : (algoRecord data).algo.toNat ≠ SENSORHUB_ALGO_ACCUM_MVMT := by rw [h]; decide
  rw [decodedAlike_iff_algoEvt]
  intro c event output m hm
  rw [payloadMembers, if_neg hmvmt, if_pos h] at hm
  exact absurd hm List.not_mem_nil

theorem msb_eq_false_iff (x : BitVec 8) : x.msb = false ↔ x < 0x80#8 := by
  rw [BitVec.msb_eq_false_iff_two_mul_lt, BitVec.lt_def]
  change 2 * x.toNat < 256 ↔ x.toNat < 128
  omega

theorem load_two_iff {m m' : Memory} {a b : ℕ} :
    load m a 2 = load m' b 2 ↔ m a = m' b ∧ m (a + 1) = m' (b + 1) := by
  rw [load_eq_load_iff]
  constructor
  · intro h
    exact ⟨h 0 (by decide), h 1 (by decide)⟩
  · rintro ⟨h0, h1⟩ i hi
    interval_cases i
    · exact h0
    · exact h1

theorem decodedAlike_mvmt_same_iff {data : Memory}
    (h : (algoRecord data).algo.toNat = SENSORHUB_ALGO_ACCUM_MVMT) :
    DecodedAlike data data ↔
      data 1 = data 0 ∧ data 2 = data 1 ∧ data 3 = data 2 ∧ data 4 = data 3 ∧
        data 0 < 0x80#8 := by
  rw [decodedAlike_mvmt_iff data h, load_two_iff, load_two_iff, msb_eq_false_iff,
    msb_eq_false_iff]
  constructor
  · rintro ⟨⟨⟨h10, h21⟩, hsmall⟩, ⟨h32, h43⟩, -⟩
    exact ⟨h10, h21, h32, h43, by rwa [← h10, ← h21]⟩
  · rintro ⟨h10, h21, h32, h43, hsmall⟩
    exact ⟨⟨⟨h10, h21⟩, by rwa [h21, h10]⟩, ⟨h32, h43⟩, by rwa [h43, h32, h21, h10]⟩

theorem decodedAlike_mvmt_registers_iff {data : Memory}
    (h : (algoRecord data).algo.toNat = SENSORHUB_ALGO_ACCUM_MVMT) :
    DecodedAlike data (registers data) ↔ data 2 < 0x80#8 ∧ data 4 < 0x80#8 := by
  have hregisters : registers data = fun i => data (i + ALGO_TIME) := if_pos h
  have htime : load data 1 2 = load (registers data) 0 2 := by
    rw [hregisters]
    exact load_two_iff.mpr ⟨rfl, rfl⟩
  have hdistance : load data 3 2 = load (registers data) 2 2 := by
    rw [hregisters]
    exact load_two_iff.mpr ⟨rfl, rfl⟩
  rw [decodedAlike_mvmt_iff _ h, msb_eq_false_iff, msb_eq_false_iff]
  exact and_congr (and_iff_right htime) (and_iff_right hdistance)

/-- With the same bytes at the same offsets, and with the query's registers aligned to the
record. -/
theorem decodedAlike_iff (data : Memory) :
    (DecodedAlike data data ↔
      ((algoRecord data).algo.toNat = SENSORHUB_ALGO_ACCUM_MVMT →
        data 1 = data 0 ∧ data 2 = data 1 ∧ data 3 = data 2 ∧ data 4 = data 3 ∧
          data 0 < 0x80#8) ∧
      ((algoRecord data).algo.toNat ≠ SENSORHUB_ALGO_ACCUM_MVMT →
        (algoRecord data).algo.toNat ≠ SENSORHUB_ALGO_ACCUM_MODALITY →
          data 2 < 0x80#8 ∧ data 4 < 0x80#8)) ∧
    (DecodedAlike data (registers data) ↔
      ((algoRecord data).algo.toNat ≠ SENSORHUB_ALGO_ACCUM_MODALITY →
        data 2 < 0x80#8 ∧ data 4 < 0x80#8)) := by
  by_cases hmvmt : (algoRecord data).algo.toNat = SENSORHUB_ALGO_ACCUM_MVMT
  · have hmodality : (algoRecord data).algo.toNat ≠ SENSORHUB_ALGO_ACCUM_MODALITY := by
      rw [hmvmt]; decide
    rw [decodedAlike_mvmt_same_iff hmvmt, decodedAlike_mvmt_registers_iff hmvmt]
    exact ⟨⟨fun h => ⟨fun _ => h, fun hne => absurd hmvmt hne⟩, fun h => h.1 hmvmt⟩,
      (imp_iff_right hmodality).symm⟩
  · have hregisters : registers data = data := if_neg hmvmt
    rw [hregisters]
    by_cases hmodality : (algoRecord data).algo.toNat = SENSORHUB_ALGO_ACCUM_MODALITY
    · have h := decodedAlike_modality data hmodality
      exact ⟨iff_of_true h ⟨fun heq => absurd heq hmvmt, fun _ hne => absurd hmodality hne⟩,
        iff_of_true h fun hne => absurd hmodality hne⟩
    · rw [decodedAlike_transition_iff hmvmt hmodality, msb_eq_false_iff, msb_eq_false_iff]
      exact ⟨⟨fun h => ⟨fun heq => absurd heq hmvmt, fun _ _ => h⟩, fun h => h.2 hmvmt hmodality⟩,
        (imp_iff_right hmodality).symm⟩

/-- A modality event with the top bit of the old state's high byte set. -/
def highOldState : Memory := fun i => if i = 2 then 0x80 else if i = ALGO_ALGO then 29 else 0

theorem highOldState_differs :
    ¬DecodedAlike highOldState highOldState ∧
      ¬DecodedAlike highOldState (registers highOldState) := by
  have hregisters : registers highOldState = highOldState := if_neg (by decide)
  have hdiffers : ¬DecodedAlike highOldState highOldState := by
    intro h
    have halike := h [none] default default default _
      (sensorhubPoll_record rfl (algoRecord highOldState) default default) .oldState (by decide)
    exact absurd halike (by decide +kernel)
  exact ⟨hdiffers, by rwa [hregisters]⟩

structure TransitionRecord extends SensorData where
  isAlgoEvt : type = .DT_ALGO_EVT
  notMvmt : toSensorData.algo.toNat ≠ SENSORHUB_ALGO_ACCUM_MVMT
  notModality : toSensorData.algo.toNat ≠ SENSORHUB_ALGO_ACCUM_MODALITY

/-- How long ago the transition was, read without a sign. -/
def SensorData.age (b : SensorData) : ℕ := (load b.data ALGO_MS 2).toNat

structure DatedBack (c : Clocks) (age : ℕ) (e : Event) : Prop where
  time : e.time = c.wall - 1000 * age
  ertime : 0 < c.elapsed → e.ertime = max 0 (c.elapsed - 1000 * age)
  notAfterWall : e.time ≤ c.wall
  notAfterElapsed : 0 < c.elapsed → e.ertime ≤ c.elapsed
  nonneg : 0 ≤ e.ertime

theorem TransitionRecord.decode_eq (b : TransitionRecord) (c : Clocks) (event : Event) :
    decode c b.toSensorData event =
      (1, transition b.toSensorData
        { event with time := c.wall, ertime := if 0 < c.elapsed then c.elapsed else 0 }) := by
  rw [decode, b.isAlgoEvt]
  simp only [algoEvt, if_neg b.notMvmt, if_neg b.notModality]

theorem datedBack_iff_age {c : Clocks} {age : ℕ} {s : ℤ} {e : Event}
    (htime : e.time = c.wall - s * 1000)
    (hertime : e.ertime = if 0 < c.elapsed then c.elapsed - s * 1000 else 0) :
    DatedBack c age e ↔ s = age ∧ (0 < c.elapsed → 1000 * (age : ℤ) ≤ c.elapsed) := by
  constructor
  · rintro ⟨ht, her, -, -, -⟩
    have hs : s = age := by omega
    refine ⟨hs, fun hpos => ?_⟩
    have hmax := her hpos
    rw [hertime, if_pos hpos] at hmax
    omega
  · rintro ⟨rfl, hle⟩
    by_cases hpos : 0 < c.elapsed
    · have hage := hle hpos
      rw [if_pos hpos] at hertime
      exact ⟨by omega, fun _ => by omega, by omega, fun _ => by omega, by omega⟩
    · rw [if_neg hpos] at hertime
      exact ⟨by omega, fun h => absurd h hpos, by omega, fun h => absurd h hpos, by omega⟩

theorem toInt_eq_age_iff (b : SensorData) :
    (STMLE16TOH b.data ALGO_MS).toInt = b.age ↔ b.age < 2 ^ 15 := by
  have hlt : b.age < 2 ^ 16 := (load b.data ALGO_MS 2).isLt
  have htoInt : (STMLE16TOH b.data ALGO_MS).toInt =
      if 2 * b.age < 2 ^ 16 then (b.age : ℤ) else b.age - 2 ^ 16 :=
    BitVec.toInt_eq_toNat_cond _
  rw [htoInt]
  split <;> omega

theorem datedBack_iff (b : TransitionRecord) (c : Clocks) :
    (∀ replies event e,
      sensorhubPoll replies (.record b.toSensorData) c event = some (1, e) →
        DatedBack c b.age e) ↔
      b.age < 2 ^ 15 ∧ (0 < c.elapsed → 1000 * (b.age : ℤ) ≤ c.elapsed) := by
  have hdated (event : Event) : DatedBack c b.age (decode c b.toSensorData event).2 ↔
      b.age < 2 ^ 15 ∧ (0 < c.elapsed → 1000 * (b.age : ℤ) ≤ c.elapsed) := by
    rw [← toInt_eq_age_iff, b.decode_eq]
    apply datedBack_iff_age rfl
    by_cases hpos : 0 < c.elapsed <;> simp [transition, hpos]
  constructor
  · intro h
    refine (hdated default).mp (h [none] default _ ?_)
    rw [sensorhubPoll_record rfl, b.decode_eq]
  · intro h replies event e hpoll
    obtain ⟨-, b', hb, hdecode⟩ := sensorhubPoll_one hpoll
    obtain rfl : b.toSensorData = b' := Option.some.inj hb
    obtain rfl : (decode c b.toSensorData event).2 = e := congrArg Prod.snd hdecode
    exact (hdated event).mpr h

/-- A modality event five seconds old, one second after boot. -/
def oldTransition : TransitionRecord where
  toSensorData := algoRecord fun i => if i = ALGO_MS then 5 else if i = ALGO_ALGO then 29 else 0
  isAlgoEvt := rfl
  notMvmt := by decide
  notModality := by decide

theorem oldTransition_before_boot :
    ¬∀ replies event e,
      sensorhubPoll replies (.record oldTransition.toSensorData) ⟨5000000, 1000⟩ event =
        some (1, e) → DatedBack ⟨5000000, 1000⟩ oldTransition.age e := by
  intro h
  have hneg := (h [none] default _ (sensorhubPoll_record rfl ..)).nonneg
  exact absurd hneg (by decide +kernel)

end Cedric.Sensorhub
