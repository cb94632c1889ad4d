import Cedric.Hub.Poll
import Cedric.Hub.RearProx
import Cedric.Lib.Rounds

/-!
# The board: the hub and both rear proximity sensors

`pollSensors` is `pollEvents` over sources of any state, and `pollEvents` of the
hub's world is an instance. On the board a call brings what has arrived since
the last one; an input that arrives after `poll` has returned belongs to this
call if the descriptor was readable, and else to the next one.
-/

namespace Cedric.Hub

open ReadLoop Rounds Runs

section Poll
variable {σ ε : Type}

structure Answer (σ ε : Type) where
  ret : ℤ
  data : List ε
  state : σ

/-- `pollEvents`; the errors its `poll` meets are a part of the state. -/
def pollSensors (failures : σ → List ℤ) (leave : List ℤ → σ → σ)
    (mSensors : List (Option (Source σ ε))) (data : Bool) (count : ℤ) (s : σ) :
    Option (Answer σ ε) :=
  if !data then some ⟨-EINVAL, [], s⟩
  else if count < 1 then some ⟨-EINVAL, [], s⟩
  else
    match pollWait (mSensors.any fun d => d.any fun d => d.ready s) (failures s) with
    | none => none
    | some (false, rest) => some ⟨0, [], leave rest s⟩
    | some (true, rest) =>
      let fds := mSensors.map fun d => (d, d.any fun d => d.ready s)
      let r := serve fds count (leave rest s)
      some ⟨r.out.length, r.out, r.state⟩

end Poll

section World
variable {F : Type}

def Driver.source (d : Driver F) : Source (World F) (Event F) :=
  ⟨d.pollIn, d.hasPendingEvents, d.readEvents⟩

theorem readDrivers_eq_serve (fds : List (Option (Driver F) × Bool)) (count : ℤ) (w : World F)
    (data : List (Event F)) :
    readDrivers fds count w data =
      (data ++ (serve (fds.map fun p => (p.1.map Driver.source, p.2)) count w).out,
        (serve (fds.map fun p => (p.1.map Driver.source, p.2)) count w).state) := by
  induction fds generalizing count w data with
  | nil => exact Prod.ext (List.append_nil data).symm rfl
  | cons p fds ih =>
    obtain ⟨sensor, revents⟩ := p
    simp only [List.map_cons, serve]
    by_cases hcount : count = 0
    · rw [hcount, turn_zero, andThen_empty, serve_zero, List.append_nil]
      simp only [readDrivers, ↓reduceIte]
    · cases sensor with
      | none =>
        simp only [readDrivers, turn, hcount, ↓reduceIte, Option.map_none, andThen_empty]
        exact ih count w data
      | some d =>
        by_cases hready : revents || d.hasPendingEvents w
        · rcases hread : d.readEvents count w with ⟨err | nb, w'⟩
          · simp only [readDrivers, turn, hcount, hready, hread, ↓reduceIte, Option.map_some,
              Driver.source, Served.andThen, List.append_nil]
          · simp only [readDrivers, turn, hcount, hready, hread, ↓reduceIte, Option.map_some,
              Driver.source, Served.andThen, Bool.false_eq_true]
            rw [ih, List.append_assoc]
        · simp only [readDrivers, turn, hcount, hready, ↓reduceIte, Option.map_some,
            Driver.source]
          exact ih count w data

theorem pollEvents_eq (mSensors : List (Option (Driver F))) (data : Bool) (count : ℤ)
    (w : World F) :
    pollEvents mSensors data count w =
      (pollSensors World.failures (fun rest w => { w with failures := rest })
        (mSensors.map (Option.map Driver.source)) data count w).map
        fun r => ⟨r.ret, r.data, r.state⟩ := by
  have hany : ((mSensors.map (Option.map Driver.source)).any fun d => d.any fun d => d.ready w) =
      mSensors.any fun d => d.any fun d => d.pollIn w := by
    rw [List.any_map]
    congr 1
    funext d
    cases d <;> rfl
  have hfds : (mSensors.map (Option.map Driver.source)).map
        (fun d => (d, d.any fun d => d.ready w)) =
      (mSensors.map fun d => (d, d.any fun d => d.pollIn w)).map
        fun p => (p.1.map Driver.source, p.2) := by
    rw [List.map_map, List.map_map]
    apply List.map_congr_left
    intro d _
    cases d <;> rfl
  rw [pollEvents, pollSensors, hany, hfds]
  split_ifs
  · rfl
  · rfl
  · generalize pollWait (mSensors.any fun d => d.any fun d => d.pollIn w) w.failures = wait
    rcases wait with - | ⟨ok, rest⟩
    · rfl
    · cases ok with
      | false => rfl
      | true =>
        simp only [Option.map_some]
        rw [readDrivers_eq_serve]
        rfl

end World

/-- `SensorBase::hasPendingEvents`, which no driver of this board overrides. -/
def hasPendingEvents : Bool := false

section Board
variable {F : Type}

structure Board (F : Type) where
  world : World F
  rearprox : RearProx → RearProxSensor F

/-- What happens around a call of `pollEvents`: its `count`, the errors of its
`poll`, the replies and the inputs that have arrived and the faults of the reads. -/
structure PollCall where
  count : ℤ
  failures : List ℤ
  replies : List (Reply SensorData)
  input : RearProx → List InputEvent
  fault : RearProx → Option ReadFault

def RearProxSensor.arrive (s : RearProxSensor F) (input : List InputEvent)
    (fault : Option ReadFault) : RearProxSensor F :=
  { s with dataFd := { s.dataFd with queue := s.dataFd.queue ++ input, fault := fault } }

def Board.arrive (b : Board F) (c : PollCall) : Board F where
  world := { b.world with queue := b.world.queue ++ c.replies, failures := c.failures }
  rearprox n := (b.rearprox n).arrive (c.input n) (c.fault n)

variable [FloatOps F] (H : Stml0xxHeader) (K : Kernel)

def RearProxSensor.source : Source (RearProxSensor F) (Event F) where
  ready s := !s.dataFd.queue.isEmpty
  pending _ := hasPendingEvents
  read count s := (.ok (s.readEvents count).1, (s.readEvents count).2)

namespace Board

def hubSource : Source (Board F) (Event F) :=
  (hubDriver H K).source.within Board.world fun w b => { b with world := w }

def rearproxSource (n : RearProx) : Source (Board F) (Event F) :=
  RearProxSensor.source.within (fun b => b.rearprox n)
    fun s b => { b with rearprox := Function.update b.rearprox n s }

def mSensors : List (Option (Source (Board F) (Event F))) :=
  [some (hubSource H K), some (rearproxSource .rearprox), some (rearproxSource .rearprox_2)]

def leave (failures : List ℤ) (b : Board F) : Board F :=
  { b with world := { b.world with failures := failures } }

def pollEvents (count : ℤ) (b : Board F) : Option (Answer (Board F) (Event F)) :=
  pollSensors (fun b => b.world.failures) leave (mSensors H K) true count b

/-- The board after a call and the events the call returns. A call that blocks
waits on into the next one. -/
def call (b : Board F) (c : PollCall) : Board F × List (Event F) :=
  match pollEvents H K c.count (b.arrive c) with
  | none => (b.arrive c, [])
  | some r => (r.state, r.data)

def ready (b : Board F) : Bool := (mSensors H K).any fun d => d.any fun d => d.ready b

def fds (b : Board F) : List (Option (Source (Board F) (Event F)) × Bool) :=
  (mSensors H K).map fun d => (d, d.any fun d => d.ready b)

def room (n : RearProx) (b : Board F) (c : PollCall) : ℤ :=
  let b := b.arrive c
  match pollWait (ready H K b) c.failures with
  | some (true, rest) => (serve ((fds H K b).take (n.index)) c.count (leave rest b)).room
  | _ => c.count

end Board
end Board

section Hub
variable {F : Type} [FloatOps F] (H : Stml0xxHeader) (K : Kernel)

theorem handleRecord_proximity (b : SensorData) (s : HubSensors F) :
    ∀ e ∈ (s.handleRecord H K b).2, e.type = .PROXIMITY → e.sensor = .ID_P := by
  intro e he htype
  have htyped := HubSensors.handleRecord_typed H K b e he
  rw [htype] at htyped
  rw [HubSensors.handleRecord] at he
  cases hb : b.type with
  | DT_PROX =>
    rw [hb] at he
    rw [List.mem_singleton.mp he]
    rfl
  | _ =>
    rw [hb] at htyped
    exact absurd htyped (by simp [DataType.eventTypes])

theorem readEvents_proximity (buff : SensorData) (dLen : ℤ) (s : HubSensors F)
    (replies : List (Reply SensorData)) :
    ∀ e ∈ (readEvents H K buff dLen s replies).events, e.type = .PROXIMITY → e.sensor = .ID_P := by
  rw [readEvents]
  split_ifs
  · exact fun e he => absurd he List.not_mem_nil
  · apply loop_invariant (readRoom dLen) (readBody H K)
      (P := fun p => ∀ e ∈ p.2, e.type = .PROXIMITY → e.sensor = .ID_P)
    · intro b p hp e he
      rcases List.mem_append.mp he with he | he
      · exact hp e he
      · exact handleRecord_proximity H K b p.1 e he
    · exact fun e he => absurd he List.not_mem_nil

end Hub

def returned {F : Type} (n : RearProx) (es : List (Event F)) : List (Event F) :=
  es.filter fun e => decide (RearProxSensor.Labelled n e)

section Returned
variable {F : Type} {n m : RearProx} {es es' : List (Event F)}

theorem returned_append : returned n (es ++ es') = returned n es ++ returned n es' :=
  List.filter_append _ _

theorem returned_self (h : ∀ e ∈ es, RearProxSensor.Labelled n e) : returned n es = es :=
  List.filter_eq_self.mpr fun e he => decide_eq_true (h e he)

theorem returned_none (h : ∀ e ∈ es, ¬ RearProxSensor.Labelled n e) : returned n es = [] :=
  List.filter_eq_nil_iff.mpr fun e he hlabel => h e he (of_decide_eq_true hlabel)

theorem handle_injective : Function.Injective RearProxSensor.handle := by
  intro n m h
  cases n <;> cases m <;> first | rfl | cases h

theorem handle_ne (n : RearProx) : RearProxSensor.handle n ≠ .ID_P := by
  cases n <;> decide

end Returned

namespace Board

variable {F : Type} [FloatOps F] {H : Stml0xxHeader} {K : Kernel}

def Sound (b : Board F) : Prop := ∀ n, (b.rearprox n).Sound n

omit [FloatOps F] in
theorem sound_update {b : Board F} (h : b.Sound) {n : RearProx} {s : RearProxSensor F}
    (hs : s.Sound n) : Board.Sound { b with rearprox := Function.update b.rearprox n s } := by
  intro m
  by_cases hm : m = n
  · subst m
    simpa only [Function.update_self] using hs
  · simpa only [Function.update_of_ne hm] using h m

def Other (H : Stml0xxHeader) (K : Kernel) (n : RearProx) (d : Source (Board F) (Event F)) : Prop :=
  d = hubSource H K ∨ ∃ m ≠ n, d = rearproxSource m

def Others (H : Stml0xxHeader) (K : Kernel) (n : RearProx)
    (fds : List (Option (Source (Board F) (Event F)) × Bool)) : Prop :=
  ∀ p ∈ fds, ∀ d ∈ p.1, Other H K n d

theorem other_keeps {n : RearProx} {s : RearProxSensor F} {d : Source (Board F) (Event F)}
    (hd : Other H K n d) (room : ℤ) {b : Board F}
    (hb : b.rearprox n = s ∧ b.Sound) :
    ((d.read room b).2.rearprox n = s ∧ (d.read room b).2.Sound) ∧
      ∀ es, (d.read room b).1 = .ok es → ∀ e ∈ es, ¬ RearProxSensor.Labelled n e := by
  rcases hd with hd | ⟨m, hm, hd⟩
  · rw [hd]
    refine ⟨hb, fun es hes e he hlabel => ?_⟩
    have hread : (readEvents H K (b.world.buffs 0) room b.world.hub b.world.queue).events = es :=
      Except.ok.inj hes
    rw [← hread] at he
    exact handle_ne n (hlabel.2.symm.trans (readEvents_proximity H K _ _ _ _ e he hlabel.1))
  · rw [hd]
    obtain ⟨hsound, hlabels⟩ := RearProxSensor.readEvents_sound (hb.2 m) room
    refine ⟨⟨?_, sound_update hb.2 hsound⟩, fun es hes e he hlabel => ?_⟩
    · exact (Function.update_of_ne hm.symm _ _).trans hb.1
    · have hread : ((b.rearprox m).readEvents room).1 = es := Except.ok.inj hes
      rw [← hread] at he
      exact hm (handle_injective ((hlabels e he).2.symm.trans hlabel.2))

theorem others_nil (H : Stml0xxHeader) (K : Kernel) (n : RearProx) :
    Others (F := F) H K n [] := fun _ hp => absurd hp List.not_mem_nil

theorem others_cons {n : RearProx} {d : Source (Board F) (Event F)} {revents : Bool}
    {fds : List (Option (Source (Board F) (Event F)) × Bool)} (hd : Other H K n d)
    (h : Others H K n fds) : Others H K n ((some d, revents) :: fds) := by
  intro p hp d' hd'
  rcases List.mem_cons.mp hp with hp | hp
  · rw [hp] at hd'
    rw [← Option.mem_some.mp hd']
    exact hd
  · exact h p hp d' hd'

theorem fds_split (n : RearProx) (b : Board F) :
    ∃ post, fds H K b = (fds H K b).take (n.index) ++
        (some (rearproxSource n), !(b.rearprox n).dataFd.queue.isEmpty) :: post ∧
      Others H K n ((fds H K b).take (n.index)) ∧ Others H K n post := by
  have hhub : Other (F := F) H K n (hubSource H K) := Or.inl rfl
  cases n with
  | rearprox =>
    exact ⟨_, rfl, others_cons hhub (others_nil H K _),
      others_cons (Or.inr ⟨.rearprox_2, by decide, rfl⟩) (others_nil H K _)⟩
  | rearprox_2 =>
    exact ⟨_, rfl, others_cons hhub
      (others_cons (Or.inr ⟨.rearprox, by decide, rfl⟩) (others_nil H K _)), others_nil H K _⟩

theorem others_serve {n : RearProx} {s : RearProxSensor F}
    {fds : List (Option (Source (Board F) (Event F)) × Bool)} (h : Others H K n fds) (room : ℤ)
    {b : Board F} (hb : b.rearprox n = s ∧ b.Sound) :
    ((serve fds room b).state.rearprox n = s ∧ (serve fds room b).state.Sound) ∧
      returned n (serve fds room b).out = [] ∧ (serve fds room b).failed = false := by
  obtain ⟨hstate, hout⟩ := serve_invariant (P := fun b => b.rearprox n = s ∧ b.Sound)
    (Q := fun e => ¬ RearProxSensor.Labelled n e)
    (fun p hp d hd room b hb => other_keeps (h p hp d hd) room hb) room hb
  refine ⟨hstate, returned_none hout, serve_not_failed (fun p hp d hd room b => ?_) room b⟩
  rcases h p hp d hd with hd | ⟨m, -, hd⟩
  · rw [hd]
    exact ⟨_, rfl⟩
  · rw [hd]
    exact ⟨_, rfl⟩

theorem turn_rearprox (n : RearProx) (revents : Bool) (room : ℤ) (b : Board F) :
    turn (some (rearproxSource n)) revents room b =
      if revents then
        ⟨((b.rearprox n).readEvents room).1,
          { b with rearprox := Function.update b.rearprox n ((b.rearprox n).readEvents room).2 },
          room - ((b.rearprox n).readEvents room).1.length, false⟩
      else ⟨[], b, room, false⟩ := by
  by_cases hroom : room = 0
  · have hnone : (b.rearprox n).readEvents 0 = ([], b.rearprox n) :=
      RearProxSensor.readEvents_of_not_pos (by decide)
    rw [hroom, turn_zero, hnone, Function.update_eq_self]
    split_ifs <;> rfl
  · cases revents with
    | false =>
      rw [turn, if_neg hroom]
      rfl
    | true =>
      rw [turn, if_neg hroom]
      rfl

theorem serve_rearprox (n : RearProx) {b b' : Board F} (count : ℤ) (hb : b'.Sound)
    (hsame : b'.rearprox n = b.rearprox n) :
    (serve (fds H K b) count b').state.Sound ∧
      ((serve (fds H K b) count b').state.rearprox n,
          returned n (serve (fds H K b) count b').out) =
        if (b.rearprox n).dataFd.queue = [] then (b.rearprox n, [])
        else
          let room := (serve ((fds H K b).take (n.index)) count b').room
          (((b.rearprox n).readEvents room).2, ((b.rearprox n).readEvents room).1) := by
  obtain ⟨post, hsplit, hpre, hpost⟩ := fds_split (H := H) (K := K) n b
  obtain ⟨⟨hn, hsound⟩, hnone, hok⟩ := others_serve hpre count ⟨hsame, hb⟩
  have hserve : serve (fds H K b) count b' =
      (serve ((fds H K b).take (n.index)) count b').andThen fun room b' =>
        (turn (some (rearproxSource n)) (!(b.rearprox n).dataFd.queue.isEmpty) room b').andThen
          (serve post) := by
    conv_lhs => rw [hsplit, serve_append]
    rfl
  rw [hserve, Served.andThen, hok, turn_rearprox, hn]
  simp only [Bool.false_eq_true, ↓reduceIte, returned_append, hnone, List.nil_append]
  generalize (serve ((fds H K b).take (n.index)) count b').room = room
  generalize (serve ((fds H K b).take (n.index)) count b').state = t at hn hsound
  by_cases hqueue : (b.rearprox n).dataFd.queue = []
  · obtain ⟨hstate, hout, -⟩ := others_serve hpost room ⟨hn, hsound⟩
    simp only [hqueue, List.isEmpty_nil, Bool.not_true, Bool.false_eq_true, ↓reduceIte,
      andThen_empty]
    exact ⟨hstate.2, Prod.ext hstate.1 hout⟩
  · obtain ⟨hread, hlabels⟩ := RearProxSensor.readEvents_sound (hb n) room
    rw [hsame] at hread hlabels
    obtain ⟨hstate, hout, -⟩ := others_serve hpost
      (room - ((b.rearprox n).readEvents room).1.length)
      ⟨Function.update_self n ((b.rearprox n).readEvents room).2 t.rearprox,
        sound_update hsound hread⟩
    have hbusy : (b.rearprox n).dataFd.queue.isEmpty = false :=
      List.isEmpty_eq_false_iff.mpr hqueue
    simp only [hqueue, hbusy, Bool.not_false, ↓reduceIte, Served.andThen, Bool.false_eq_true,
      returned_append]
    refine ⟨hstate.2, Prod.ext hstate.1 ?_⟩
    rw [hout, List.append_nil]
    exact returned_self hlabels

omit [FloatOps F] in
theorem arrive_sound {b : Board F} (h : b.Sound) (c : PollCall) : (b.arrive c).Sound :=
  fun n => ⟨(h n).wf, (h n).size, (h n).label⟩

def Reads (n : RearProx) (b : Board F) (c : PollCall) : Prop :=
  pollWait true c.failures = some (true, []) ∧ ((b.arrive c).rearprox n).dataFd.queue ≠ []

theorem ready_of_queue {n : RearProx} {b : Board F} (h : (b.rearprox n).dataFd.queue ≠ []) :
    ready H K b = true := by
  have hbusy : (rearproxSource n).ready b = true := by
    simp only [rearproxSource, Source.within, RearProxSensor.source, Bool.not_eq_true',
      List.isEmpty_eq_false_iff]
    exact h
  rw [ready, List.any_eq_true]
  refine ⟨some (rearproxSource n), ?_, hbusy⟩
  cases n with
  | rearprox => exact List.mem_cons_of_mem _ List.mem_cons_self
  | rearprox_2 => exact List.mem_cons_of_mem _ (List.mem_cons_of_mem _ List.mem_cons_self)

theorem room_le (n : RearProx) (b : Board F) (c : PollCall) : room H K n b c ≤ c.count := by
  rw [room]
  split
  · exact serve_room_le _ _ _
  · exact le_rfl

theorem pollWait_of_queue {n : RearProx} {b : Board F} {failures rest : List ℤ} {ok : Bool}
    (h : (b.rearprox n).dataFd.queue ≠ [])
    (hwait : pollWait (ready H K b) failures = some (ok, rest)) :
    pollWait true failures = some (ok, rest) ∧ (ok = true → rest = []) := by
  rw [ready_of_queue h] at hwait
  refine ⟨hwait, fun hok => ?_⟩
  rcases pollWait_ready failures with hgood | ⟨rest', hbad, -⟩
  · rw [hwait] at hgood
    exact (Prod.mk.inj (Option.some.inj hgood)).2
  · rw [hwait, hok] at hbad
    cases hbad

theorem call_of_pos {c : PollCall} (hcount : ¬ c.count < 1) (b : Board F) :
    call H K b c =
      match pollWait (ready H K (b.arrive c)) c.failures with
      | none => (b.arrive c, [])
      | some (false, rest) => (leave rest (b.arrive c), [])
      | some (true, rest) =>
        let r := serve (fds H K (b.arrive c)) c.count (leave rest (b.arrive c))
        (r.state, r.out) := by
  have hwait : pollWait ((mSensors H K).any fun d => d.any fun d => d.ready (b.arrive c))
      (b.arrive c).world.failures = pollWait (ready H K (b.arrive c)) c.failures := rfl
  rw [call, pollEvents, pollSensors, if_neg (by decide), if_neg hcount, hwait]
  generalize pollWait (ready H K (b.arrive c)) c.failures = wait
  rcases wait with - | ⟨ok, rest⟩
  · rfl
  · cases ok <;> rfl

theorem call_rearprox (n : RearProx) {b : Board F} (hb : b.Sound) (c : PollCall) :
    (call H K b c).1.Sound ∧
      (Reads n b c → ((call H K b c).1.rearprox n, returned n (call H K b c).2) =
        ((((b.arrive c).rearprox n).readEvents (room H K n b c)).2,
          (((b.arrive c).rearprox n).readEvents (room H K n b c)).1)) ∧
      (¬ Reads n b c → ((call H K b c).1.rearprox n, returned n (call H K b c).2) =
        ((b.arrive c).rearprox n, [])) := by
  have harrive := arrive_sound hb c
  by_cases hcount : c.count < 1
  · have hcall : call H K b c = (b.arrive c, []) := by
      simp only [call, pollEvents, pollSensors, Bool.not_true, Bool.false_eq_true, hcount,
        ↓reduceIte]
    have hroom := (room_le (H := H) (K := K) n b c).trans_lt hcount
    rw [hcall, RearProxSensor.readEvents_of_not_pos hroom]
    exact ⟨harrive, fun _ => rfl, fun _ => rfl⟩
  · rw [call_of_pos hcount]
    rcases hwait : pollWait (ready H K (b.arrive c)) c.failures with - | ⟨ok, rest⟩
    · refine ⟨harrive, fun h => ?_, fun _ => rfl⟩
      rw [ready_of_queue h.2, h.1] at hwait
      cases hwait
    · cases ok with
      | false =>
        refine ⟨harrive, fun h => ?_, fun _ => rfl⟩
        rw [ready_of_queue h.2, h.1] at hwait
        cases hwait
      | true =>
        have hleave : (leave rest (b.arrive c)).Sound := harrive
        obtain ⟨hsound, hserve⟩ := serve_rearprox (H := H) (K := K) (b := b.arrive c) n c.count
          hleave rfl
        refine ⟨hsound, fun h => ?_, fun h => ?_⟩
        · rw [if_neg h.2] at hserve
          simp only [room, hwait]
          exact hserve
        · have hquiet : ((b.arrive c).rearprox n).dataFd.queue = [] := by
            by_contra hqueue
            obtain ⟨hpoll, hrest⟩ := pollWait_of_queue hqueue hwait
            rw [hrest rfl] at hpoll
            exact h ⟨hpoll, hqueue⟩
          rw [if_pos hquiet] at hserve
          exact hserve

end Board
end Cedric.Hub
