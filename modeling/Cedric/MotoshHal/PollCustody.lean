import Cedric.MotoshHal.SensorsPollContext

/-!
# Which calls of `poll` lose events

Whatever a driver's read does, the events it held and decoded are those it stored
and still holds. A call returns all that was stored unless a read that delivers
nothing stored something, or `poll` returns 0 after an earlier driver delivered.
`Spoils` says from the state and the input alone when that happens.
-/

namespace Cedric.MotoshHal.SensorsPollContext

open Custody Hub Overlay ReadLoop Runs

variable {F : Type} {H : MotoshHeader} {B : Build} {K : Kernel} {opened : Driver → Bool}
  {w : SensorsPollContext F} {count : ℤ} {memory : ℕ → Cell F}

structure Wf (w : SensorsPollContext F) : Prop where
  hub : w.hub.QueueWf
  rearProx : w.rearProx.mInputReader.Wf

variable [FloatOps F]

structure Reads (w : SensorsPollContext F) (H : MotoshHeader) (B : Build) (K : Kernel) (count : ℤ)
    (d : Driver) : Prop where
  wf : (w.readEvents H B K count d).2.Wf
  ledger : ∀ d', w.held d' ++ of d' ((w.readEvents H B K count d).1.decoded.map (d, ·)) =
    of d' ((w.readEvents H B K count d).1.data.map (d, ·)) ++
      (w.readEvents H B K count d).2.held d'
  bounded : (w.readEvents H B K count d).1.data.length ≤ count.toNat
  ret : (w.readEvents H B K count d).1.ret ≤ 0 ∨
    (w.readEvents H B K count d).1.ret = (w.readEvents H B K count d).1.data.length

theorem Wf.reads (h : w.Wf) (count : ℤ) (d : Driver) : w.Reads H B K count d := by
  cases d with
  | hub =>
    have hread := h.hub.read (H := H) (B := B) (K := K) count w.hubFd
    refine ⟨⟨hread.wf, h.rearProx⟩, fun d' => ?_, ?_, HubSensors.readEvents_ret_cases _ _⟩
    · cases d' with
      | hub =>
        simp only [of_map, ↓reduceIte]
        exact hread.ledger
      | rearProx => simp [of_map, held]
    · exact hread.stored.trans_le (Nat.min_le_right _ _)
  | rearProx =>
    have hread := RearProxSensor.read_spec (H := H) h.rearProx count
    refine ⟨⟨h.hub, hread.wf⟩, fun d' => ?_, hread.bounded, Or.inr hread.ret⟩
    cases d' with
    | hub => simp [of_map, held, readEvents]
    | rearProx =>
      simp only [of_map, ↓reduceIte, held, List.nil_append, List.append_nil]
      exact hread.decoded

/-- What holds while `poll` is under way, from the context `w` and an array `memory`. -/
structure Sound (w : SensorsPollContext F) (memory : ℕ → Cell F) (count : ℤ) (p : Polling F) :
    Prop where
  wf : p.context.Wf
  ledger : ∀ d, w.held d ++ of d p.decoded = of d p.stored ++ p.context.held d
  behind : p.nbEvents ≤ p.stored.length
  bounded : p.nbEvents ≤ count.toNat
  exact : p.nbEvents = p.stored.length → front p.data p.nbEvents = p.stored
  frame : ∀ k : ℕ, count ≤ k → p.data k = memory k

omit [FloatOps F] in
theorem Wf.begin (h : w.Wf) (memory : ℕ → Cell F) (count : ℤ) :
    Sound w memory count (w.begin memory) where
  wf := h
  ledger _ := List.append_nil _
  behind := le_rfl
  bounded := Nat.zero_le _
  exact _ := rfl
  frame _ _ := rfl

structure Reader (p : Polling F) (r : ℤ × Polling F) : Prop where
  stored : ∃ es, r.2.stored = p.stored ++ es ∧
    (r.1 ≤ 0 ∧ r.2.nbEvents = p.nbEvents ∨
      0 < r.1 ∧ r.1 = es.length ∧ r.2.nbEvents = p.nbEvents + es.length)

theorem Sound.eventReader {p : Polling F} (h : Sound w memory count p) (d : Driver) :
    Sound w memory count (eventReader H B K count d p).2 ∧
      Reader p (eventReader H B K count d p) := by
  have hread := h.wf.reads (H := H) (B := B) (K := K) (count - p.nbEvents) d
  have hbound := hread.bounded
  have hlen : ((p.context.readEvents H B K (count - p.nbEvents) d).1.data.map (d, ·)).length =
      (p.context.readEvents H B K (count - p.nbEvents) d).1.data.length := List.length_map _
  have hret := hread.ret
  have hwf := hread.wf
  have hledger := hread.ledger
  have hbefore := h.bounded
  rw [SensorsPollContext.eventReader]
  generalize p.context.readEvents H B K (count - p.nbEvents) d = r at *
  dsimp only
  generalize hes : r.1.data.map (d, ·) = es at *
  have hstep : r.1.ret ≤ 0 ∧ (if 0 < r.1.ret then p.nbEvents + r.1.ret.toNat else p.nbEvents) =
        p.nbEvents ∨
      0 < r.1.ret ∧ r.1.ret = es.length ∧
        (if 0 < r.1.ret then p.nbEvents + r.1.ret.toNat else p.nbEvents) =
          p.nbEvents + es.length := by
    split_ifs <;> omega
  refine ⟨⟨hwf, fun d' => ?_, ?_, ?_, fun hall => ?_, fun k hk => ?_⟩, ⟨es, rfl, hstep⟩⟩
  · simp only [of_append]
    rw [← List.append_assoc, h.ledger, List.append_assoc, hledger, List.append_assoc]
  · have hbehind := h.behind
    simp only [List.length_append]
    rcases hstep with ⟨-, hnb⟩ | ⟨-, -, hnb⟩ <;> rw [hnb] <;> omega
  · rcases hstep with ⟨-, hnb⟩ | ⟨-, -, hnb⟩ <;> dsimp only <;> rw [hnb] <;> omega
  · -- All that is stored is delivered only if the read delivers what it stored.
    have hbehind := h.behind
    simp only [List.length_append] at hall
    have hnb : (if 0 < r.1.ret then p.nbEvents + r.1.ret.toNat else p.nbEvents) =
        p.nbEvents + es.length := by
      rcases hstep with ⟨-, hnb⟩ | ⟨-, -, hnb⟩
      · omega
      · exact hnb
    dsimp only
    rw [hnb, front_lay, h.exact (by omega)]
  · dsimp only
    rw [lay_other _ (Or.inr (by omega)), h.frame k hk]

structure Ends (w : SensorsPollContext F) (memory : ℕ → Cell F) (count : ℤ) (r : ℤ × Polling F) :
    Prop extends Sound w memory count r.2 where
  ret : r.1.toNat ≤ r.2.nbEvents

omit [FloatOps F] in
theorem Sound.delivered {p : Polling F} (h : Sound w memory count p) :
    Ends w memory count (p.nbEvents, p) :=
  ⟨h, (Int.toNat_natCast _).le⟩

omit [FloatOps F] in
theorem Sound.nothing {p : Polling F} (h : Sound w memory count p) {ret : ℤ} (hret : ret ≤ 0) :
    Ends w memory count (ret, p) := by
  refine ⟨h, ?_⟩
  rw [Int.toNat_of_nonpos hret]
  exact Nat.zero_le _

theorem Sound.readReady (revents : Driver → Bool) (ds : List Driver) {p : Polling F}
    (h : Sound w memory count p) : Ends w memory count (readReady H B K count revents ds p) := by
  induction ds generalizing p with
  | nil => exact h.delivered
  | cons d ds ih =>
    have hread := (h.eventReader (H := H) (B := B) (K := K) d).1
    simp only [SensorsPollContext.readReady]
    split_ifs
    · exact hread.nothing le_rfl
    · exact ih hread
    · exact ih h

theorem Sound.readPending (ds : List Driver) {p : Polling F} (h : Sound w memory count p) :
    Sound w memory count (readPending H B K count ds p) := by
  induction ds generalizing p with
  | nil => exact h
  | cons d ds ih =>
    rw [SensorsPollContext.readPending]
    split_ifs
    · exact ih (h.eventReader d).1
    · exact ih h

theorem Wf.poll (h : w.Wf) (opened : Driver → Bool) (outcome : PollOutcome)
    (memory : ℕ → Cell F) (count : ℤ) :
    Ends w memory count (poll H B K opened outcome memory count w) := by
  have hpending := (h.begin memory count).readPending (H := H) (B := B) (K := K) (drivers B)
  simp only [SensorsPollContext.poll]
  split_ifs with hcount
  · exact (h.begin memory count).nothing (by decide)
  · exact hpending.delivered
  · cases outcome with
    | ready revents => exact hpending.readReady revents _
    | timeout => exact hpending.delivered
    | error => exact hpending.delivered

omit [FloatOps F] in
theorem Ends.returns_iff {r : ℤ × Polling F} (h : Ends w memory count r) :
    (∀ d, of d (front r.2.data r.1.toNat) = of d r.2.stored) ↔
      r.1.toNat = r.2.stored.length := by
  have hret := h.ret
  have hbehind := h.behind
  constructor
  · intro hall
    have hlen := length_eq_of_of_eq hall
    rwa [front_length] at hlen
  · intro hall d
    have hnb : r.2.nbEvents = r.2.stored.length := by omega
    rw [hall, ← hnb, h.exact hnb]

def hubEvents (w : SensorsPollContext F) (H : MotoshHeader) (B : Build) : ℕ :=
  w.hub.parked.length + w.hub.avail H B w.hubFd

def HubFails (w : SensorsPollContext F) (H : MotoshHeader) (B : Build) (count : ℤ) : Prop :=
  failing w.hubFd = true ∧ (w.hubEvents H B : ℤ) < count

def readable (B : Build) (opened : Driver → Bool) : PollOutcome → List Driver
  | .ready revents => (pollFds B opened).filter revents
  | _ => []

/-- Events of the hub are stored and not delivered: a `read` fails behind them, or the rear
proximity sensor is ready too, and has no room or nothing to give. -/
def Spoils (w : SensorsPollContext F) (H : MotoshHeader) (B : Build) (opened : Driver → Bool)
    (outcome : PollOutcome) (count : ℤ) : Prop :=
  1 ≤ count ∧ 0 < w.hubEvents H B ∧
    (w.hub.parked ≠ [] ∧ w.HubFails H B count ∨
      w.hub.parked = [] ∧ Driver.hub ∈ readable B opened outcome ∧
        (w.HubFails H B count ∨ Driver.rearProx ∈ readable B opened outcome ∧
          (count ≤ w.hubEvents H B ∨ ¬ w.rearProx.Answers)))

omit [FloatOps F] in
theorem Reader.behind {p : Polling F} {r : ℤ × Polling F} (h : Reader p r)
    (hp : p.nbEvents < p.stored.length) : r.2.nbEvents < r.2.stored.length := by
  obtain ⟨es, hes, hnb⟩ := h.stored
  rw [hes, List.length_append]
  omega

theorem Sound.readReady_behind (revents : Driver → Bool) (ds : List Driver) {p : Polling F}
    (h : Sound w memory count p) (hp : p.nbEvents < p.stored.length) :
    (SensorsPollContext.readReady H B K count revents ds p).2.nbEvents <
      (SensorsPollContext.readReady H B K count revents ds p).2.stored.length := by
  induction ds generalizing p with
  | nil => exact hp
  | cons d ds ih =>
    obtain ⟨hread, hreader⟩ := h.eventReader (H := H) (B := B) (K := K) d
    simp only [SensorsPollContext.readReady]
    split_ifs
    · exact hreader.behind hp
    · exact ih hread (hreader.behind hp)
    · exact ih h hp

theorem readReady_filter (revents : Driver → Bool) (ds : List Driver) (p : Polling F) :
    readReady H B K count revents ds p =
      readReady H B K count (fun _ => true) (ds.filter revents) p := by
  induction ds generalizing p with
  | nil => rfl
  | cons d ds ih =>
    cases hd : revents d with
    | false =>
      rw [List.filter_cons_of_neg (by simp [hd]), ← ih]
      simp only [readReady, hd, Bool.false_eq_true, ↓reduceIte]
    | true =>
      rw [List.filter_cons_of_pos hd]
      simp only [readReady, hd, ↓reduceIte, ih]

theorem readable_cases (B : Build) (opened : Driver → Bool) (outcome : PollOutcome) :
    readable B opened outcome = [] ∨ readable B opened outcome = [.hub] ∨
      readable B opened outcome = [.rearProx] ∨
      readable B opened outcome = [.hub, .rearProx] := by
  have hdrivers : (drivers B).Sublist [.hub, .rearProx] := by
    rw [drivers]
    split_ifs
    · exact List.Sublist.refl _
    · exact List.sublist_append_left [Driver.hub] [.rearProx]
  have hsub : (readable B opened outcome).Sublist [.hub, .rearProx] := by
    cases outcome with
    | ready revents => exact (List.filter_sublist.trans List.filter_sublist).trans hdrivers
    | timeout => exact List.nil_sublist _
    | error => exact List.nil_sublist _
  have hmem : readable B opened outcome ∈
      [[], [.hub], [.rearProx], [.hub, .rearProx]] := List.mem_sublists.mpr hsub
  simpa only [List.mem_cons, List.not_mem_nil, or_false] using hmem

structure HubRead (w : SensorsPollContext F) (H : MotoshHeader) (B : Build) (count : ℤ)
    (r : ℤ × Polling F) : Prop where
  stored : r.2.stored.length = min (w.hubEvents H B) count.toNat
  fails : w.HubFails H B count → r.1 ≤ 0 ∧ r.2.nbEvents = 0
  succeeds : ¬ w.HubFails H B count →
    r.1 = r.2.stored.length ∧ r.2.nbEvents = r.2.stored.length
  rearProx : r.2.context.rearProx = w.rearProx

theorem Wf.hubRead (h : w.Wf) (memory : ℕ → Cell F) (hcount : 1 ≤ count) :
    HubRead w H B count (SensorsPollContext.eventReader H B K count .hub (w.begin memory)) := by
  have hread := h.hub.read (H := H) (B := B) (K := K) count w.hubFd
  obtain ⟨es, hes, hnb⟩ :=
    ((h.begin memory count).eventReader (H := H) (B := B) (K := K) .hub).2.stored
  have hzero : count - ((w.begin memory).nbEvents : ℤ) = count := Int.sub_zero count
  have hret : (SensorsPollContext.eventReader H B K count .hub (w.begin memory)).1 =
      (w.hub.readEvents H B K count w.hubFd).1.ret := by
    rw [SensorsPollContext.eventReader, hzero]
    rfl
  have hlen : (SensorsPollContext.eventReader H B K count .hub (w.begin memory)).2.stored.length =
      (w.hub.readEvents H B K count w.hubFd).1.data.length := by
    rw [SensorsPollContext.eventReader, hzero]
    exact List.length_map _
  have hrear : (SensorsPollContext.eventReader H B K count .hub
      (w.begin memory)).2.context.rearProx = w.rearProx := rfl
  have hbegin : (w.begin memory).nbEvents = 0 := rfl
  have hall : (w.begin memory).stored = [] := rfl
  rw [hall, List.nil_append] at hes
  rw [hbegin] at hnb
  refine ⟨hlen.trans hread.stored, fun hfails => ?_, fun hok => ?_, hrear⟩
  · have hle := hread.failed hfails.1 hfails.2
    rw [← hret] at hle
    exact ⟨hle, by omega⟩
  · have hge := hread.delivered hcount hok
    rw [← hret, ← hlen] at hge
    refine ⟨hge, ?_⟩
    rw [hes] at hge ⊢
    omega

theorem Sound.rearRead {p : Polling F} (h : Sound w memory count p) :
    ∃ es, (SensorsPollContext.eventReader H B K count .rearProx p).2.stored = p.stored ++ es ∧
      (SensorsPollContext.eventReader H B K count .rearProx p).1 = es.length ∧
      (SensorsPollContext.eventReader H B K count .rearProx p).2.nbEvents =
        p.nbEvents + es.length ∧
      (es = [] ↔ ¬ (1 ≤ count - p.nbEvents ∧ p.context.rearProx.Answers)) := by
  have hread := RearProxSensor.read_spec (H := H) h.wf.rearProx (count - p.nbEvents)
  have hret := hread.ret
  refine ⟨_, rfl, ?_, ?_, ?_⟩
  · rw [List.length_map]
    exact hret
  · have hnb : (SensorsPollContext.eventReader H B K count .rearProx p).2.nbEvents =
        if 0 < (p.context.rearProx.readEvents H (count - p.nbEvents)).1.ret then
          p.nbEvents + (p.context.rearProx.readEvents H (count - p.nbEvents)).1.ret.toNat
        else p.nbEvents := rfl
    rw [hnb, List.length_map]
    change _ = p.nbEvents + (p.context.rearProx.readEvents H (count - p.nbEvents)).1.data.length
    split_ifs <;> omega
  · rw [List.map_eq_nil_iff]
    exact hread.nil_iff

theorem readPending_begin (h : w.Wf) (memory : ℕ → Cell F) (count : ℤ) :
    readPending H B K count (drivers B) (w.begin memory) =
      if w.hub.parked = [] then w.begin memory
      else (eventReader H B K count .hub (w.begin memory)).2 := by
  have hpending : (w.begin memory).context.hasPendingEvents .hub = true ↔ w.hub.parked ≠ [] :=
    h.hub.hasPendingEvents_iff
  have hrear (p : Polling F) : readPending H B K count [.rearProx] p = p := by
    simp [readPending, hasPendingEvents]
  rw [drivers]
  by_cases hnil : w.hub.parked = []
  · have hnone : ¬ (w.begin memory).context.hasPendingEvents .hub = true := fun hp =>
      hpending.mp hp hnil
    rw [if_pos hnil]
    split_ifs <;> rw [readPending, if_neg hnone]
    · exact hrear _
    · rfl
  · rw [if_neg hnil]
    split_ifs <;> rw [readPending, if_pos (hpending.mpr hnil)]
    · exact hrear _
    · rfl

theorem poll_of_nil (h : w.Wf) (hcount : 1 ≤ count) (hnil : w.hub.parked = [])
    (outcome : PollOutcome) (memory : ℕ → Cell F) :
    poll H B K opened outcome memory count w =
      readReady H B K count (fun _ => true) (readable B opened outcome) (w.begin memory) := by
  have hpending := readPending_begin (H := H) (B := B) (K := K) h memory count
  rw [if_pos hnil] at hpending
  have hzero : ¬ (w.begin memory).nbEvents ≠ 0 := not_not.mpr rfl
  simp only [poll, hpending, hzero, Int.not_lt.mpr hcount, ↓reduceIte]
  cases outcome with
  | ready revents => exact readReady_filter revents _ _
  | timeout => rfl
  | error => rfl

theorem poll_of_parked (h : w.Wf) (hcount : 1 ≤ count) (hparked : w.hub.parked ≠ [])
    (outcome : PollOutcome) (memory : ℕ → Cell F) :
    (poll H B K opened outcome memory count w).1.toNat =
        (poll H B K opened outcome memory count w).2.stored.length ↔
      ¬ w.HubFails H B count := by
  have hends := h.poll (H := H) (B := B) (K := K) opened outcome memory count
  have hsound := ((h.begin memory count).eventReader (H := H) (B := B) (K := K) .hub).1
  have hhub := h.hubRead (H := H) (B := B) (K := K) memory hcount
  have hpending := readPending_begin (H := H) (B := B) (K := K) h memory count
  have hpos : 0 < w.hubEvents H B :=
    Nat.add_pos_left (List.length_pos_iff.mpr hparked) _
  have hstored := hhub.stored
  rw [if_neg hparked] at hpending
  by_cases hfails : w.HubFails H B count
  · refine iff_of_false (fun hall => ?_) (not_not.mpr hfails)
    have hzero := (hhub.fails hfails).2
    have hbehind : (SensorsPollContext.eventReader H B K count .hub (w.begin memory)).2.nbEvents <
        (SensorsPollContext.eventReader H B K count .hub
          (w.begin memory)).2.stored.length := by omega
    have hend : (poll H B K opened outcome memory count w).2.nbEvents <
        (poll H B K opened outcome memory count w).2.stored.length := by
      simp only [poll, hpending, Int.not_lt.mpr hcount, hzero, ne_eq, not_true_eq_false,
        ↓reduceIte]
      cases outcome with
      | ready revents => exact hsound.readReady_behind revents _ hbehind
      | timeout => exact hbehind
      | error => exact hbehind
    have hret := hends.ret
    omega
  · refine iff_of_true ?_ hfails
    have hnb := (hhub.succeeds hfails).2
    have hne : (SensorsPollContext.eventReader H B K count .hub (w.begin memory)).2.nbEvents ≠
        0 := by omega
    have hpoll : poll H B K opened outcome memory count w =
        (((SensorsPollContext.eventReader H B K count .hub (w.begin memory)).2.nbEvents : ℤ),
          (SensorsPollContext.eventReader H B K count .hub (w.begin memory)).2) := by
      simp only [poll, hpending, Int.not_lt.mpr hcount, hne, ne_eq, not_false_eq_true, ↓reduceIte]
    rw [hpoll]
    exact hnb

theorem readReady_cons {d : Driver} (ds : List Driver) (p : Polling F) :
    readReady H B K count (fun _ => true) (d :: ds) p =
      if (eventReader H B K count d p).1 ≤ 0 then (0, (eventReader H B K count d p).2)
      else readReady H B K count (fun _ => true) ds (eventReader H B K count d p).2 := by
  simp only [readReady, ↓reduceIte]

theorem Sound.rear_alone {p : Polling F} (h : Sound w memory count p)
    (hp : p.nbEvents = p.stored.length) :
    (SensorsPollContext.readReady H B K count (fun _ => true) [.rearProx] p).1.toNat =
        (SensorsPollContext.readReady H B K count (fun _ => true) [.rearProx] p).2.stored.length ↔
      p.nbEvents = 0 ∨ 1 ≤ count - p.nbEvents ∧ p.context.rearProx.Answers := by
  obtain ⟨es, hstored, hret, hnb, hnil⟩ := h.rearRead (H := H) (B := B) (K := K)
  rw [readReady_cons]
  by_cases hes : es = []
  · have hlen : es.length = 0 := List.length_eq_zero_iff.mpr hes
    rw [if_pos (by omega)]
    simp only [hstored, List.length_append, hlen]
    have hnot := hnil.mp hes
    constructor
    · intro hzero
      left
      simp at hzero
      omega
    · intro hor
      rcases hor with hzero | hboth
      · simp
        omega
      · exact absurd hboth hnot
  · have hpos : 0 < es.length := List.length_pos_iff.mpr hes
    rw [if_neg (by omega)]
    refine iff_of_true ?_ (Or.inr (not_not.mp (mt hnil.mpr hes)))
    simp only [SensorsPollContext.readReady, hnb, hstored, List.length_append, hp,
      Int.toNat_natCast]

theorem poll_of_hub (h : w.Wf) (hcount : 1 ≤ count) (memory : ℕ → Cell F) :
    (readReady H B K count (fun _ => true) [.hub] (w.begin memory)).1.toNat =
        (readReady H B K count (fun _ => true) [.hub] (w.begin memory)).2.stored.length ↔
      ¬ (0 < w.hubEvents H B ∧ w.HubFails H B count) := by
  have hhub := h.hubRead (H := H) (B := B) (K := K) memory hcount
  have hstored := hhub.stored
  rw [readReady_cons]
  by_cases hfails : w.HubFails H B count
  · have hlt := hfails.2
    rw [if_pos (hhub.fails hfails).1]
    simp only [hstored, Int.toNat_zero, hfails, and_true]
    omega
  · obtain ⟨hret, hnb⟩ := hhub.succeeds hfails
    refine iff_of_true ?_ fun hboth => hfails hboth.2
    split_ifs with hnone
    · dsimp only
      omega
    · simp only [readReady, hnb, Int.toNat_natCast]

theorem poll_of_both (h : w.Wf) (hcount : 1 ≤ count) (memory : ℕ → Cell F) :
    (readReady H B K count (fun _ => true) [.hub, .rearProx] (w.begin memory)).1.toNat =
        (readReady H B K count (fun _ => true) [.hub, .rearProx]
          (w.begin memory)).2.stored.length ↔
      ¬ (0 < w.hubEvents H B ∧
        (w.HubFails H B count ∨ count ≤ w.hubEvents H B ∨ ¬ w.rearProx.Answers)) := by
  have hhub := h.hubRead (H := H) (B := B) (K := K) memory hcount
  have hstored := hhub.stored
  rw [readReady_cons]
  by_cases hfails : w.HubFails H B count
  · have hlt := hfails.2
    rw [if_pos (hhub.fails hfails).1]
    simp only [hstored, Int.toNat_zero, hfails, true_or, and_true]
    omega
  · obtain ⟨hret, hnb⟩ := hhub.succeeds hfails
    split_ifs with hnone
    · -- The hub gave nothing, so nothing was stored.
      simp only [Int.toNat_zero]
      refine iff_of_true (by omega) fun hboth => ?_
      have hpos := hboth.1
      omega
    · have hsound := ((h.begin memory count).eventReader (H := H) (B := B) (K := K) .hub).1
      rw [hsound.rear_alone hnb, hhub.rearProx, hnb, hstored]
      have hroom : 1 ≤ count - ((min (w.hubEvents H B) count.toNat : ℕ) : ℤ) ↔
          ¬ count ≤ w.hubEvents H B := by omega
      rw [hroom]
      have hpos : 0 < w.hubEvents H B := by omega
      have hne : min (w.hubEvents H B) count.toNat ≠ 0 := by omega
      simp only [hne, hpos, hfails, false_or, true_and, not_or, not_not]

theorem Wf.keeps_iff (h : w.Wf) (outcome : PollOutcome) (memory : ℕ → Cell F) (count : ℤ) :
    (SensorsPollContext.poll H B K opened outcome memory count w).1.toNat =
        (SensorsPollContext.poll H B K opened outcome memory count w).2.stored.length ↔
      ¬ w.Spoils H B opened outcome count := by
  by_cases hcount : 1 ≤ count
  · by_cases hnil : w.hub.parked = []
    · rw [poll_of_nil h hcount hnil]
      have halone := (h.begin memory count).rear_alone (H := H) (B := B) (K := K) rfl
      simp only [Spoils, hcount, hnil, ne_eq, not_true_eq_false, false_and, false_or, true_and]
      rcases readable_cases B opened outcome with hr | hr | hr | hr <;> rw [hr]
      · exact iff_of_true rfl fun hboth => by simp at hboth
      · rw [poll_of_hub h hcount]
        simp
      · rw [halone]
        exact iff_of_true (Or.inl rfl) fun hboth => by simp at hboth
      · rw [poll_of_both h hcount]
        simp
    · have hpos : 0 < w.hubEvents H B := Nat.add_pos_left (List.length_pos_iff.mpr hnil) _
      rw [poll_of_parked h hcount hnil]
      simp only [Spoils, hcount, hpos, hnil, ne_eq, not_false_eq_true, false_and, or_false,
        true_and]
  · have hpoll : SensorsPollContext.poll H B K opened outcome memory count w =
        (-EINVAL, w.begin memory) := by
      rw [SensorsPollContext.poll, if_pos (by omega)]
    rw [hpoll]
    exact iff_of_true rfl fun hspoils => hcount hspoils.1

theorem Wf.step (h : w.Wf) (op : Op F) : (w.step H B K opened op).Wf := by
  cases op with
  | poll outcome memory count => exact (h.poll opened outcome memory count).wf
  | setEnable handle en =>
    exact ⟨(h.hub.same (HubSensors.setEnable_queue handle en)).1, h.rearProx⟩
  | replies rs => exact ⟨h.hub, h.rearProx⟩
  | arrive es => exact ⟨h.hub, h.rearProx⟩
  | fault f => exact ⟨h.hub, h.rearProx⟩

theorem Wf.conserves (h : w.Wf) (op : Op F) :
    (w.flow H B K opened op).Conserves w.held (w.step H B K opened op).held := by
  intro d
  cases op with
  | poll outcome memory count => exact (h.poll opened outcome memory count).ledger d
  | setEnable handle en =>
    cases d with
    | hub =>
      have hsame := h.hub.same
        (HubSensors.setEnable_queue (s := w.hub) (H := H) (B := B) (K := K) handle en)
      exact (List.append_nil _).trans hsame.2.symm
    | rearProx => rfl
  | replies rs => cases d <;> exact List.append_nil _
  | arrive es => cases d <;> exact List.append_nil _
  | fault f => cases d <;> exact List.append_nil _

theorem Wf.contained (h : w.Wf) (op : Op F) : w.Contained H B K opened op := by
  cases op with
  | poll outcome memory count =>
    have hends := h.poll (H := H) (B := B) (K := K) opened outcome memory count
    exact ⟨hends.ret.trans hends.bounded, hends.frame⟩
  | _ => trivial

/-- An operation that loses events: a call of `poll` that spoils those of the hub. -/
def Loses (H : MotoshHeader) (B : Build) (opened : Driver → Bool) (w : SensorsPollContext F) :
    Op F → Prop
  | .poll outcome _ count => w.Spoils H B opened outcome count
  | _ => False

theorem Wf.returned_iff (h : w.Wf) (op : Op F) :
    (∀ d, (w.flow H B K opened op).returned d = (w.flow H B K opened op).stored d) ↔
      ¬ w.Loses H B opened op := by
  cases op with
  | poll outcome memory count =>
    exact (h.poll opened outcome memory count).returns_iff.trans (h.keeps_iff outcome memory count)
  | _ => exact iff_of_true (fun _ => rfl) id

omit [FloatOps F] in
theorem start_wf (flags wakeFlags : Option (BitVec 32)) (memory : ℕ → InputEvent) (distance : F)
    (timestamp : ℤ) : (start flags wakeFlags memory distance timestamp).Wf :=
  ⟨Or.inr ⟨rfl, rfl⟩, InputEventCircularReader.start_wf (by decide) memory⟩

def booked (H : MotoshHeader) (B : Build) (K : Kernel) (opened : Driver → Bool)
    (p : SensorsPollContext F × Books Driver (SensorsEvent F)) (op : Op F) :
    SensorsPollContext F × Books Driver (SensorsEvent F) :=
  (p.1.step H B K opened op, p.2.post (p.1.flow H B K opened op))

/-- After every operation of a run each driver's events were returned or are still parked,
and no call writes behind its array, exactly if no operation loses events. -/
theorem events_kept_iff (H : MotoshHeader) (B : Build) (K : Kernel) (opened : Driver → Bool)
    (flags wakeFlags : Option (BitVec 32)) (memory : ℕ → InputEvent) (distance : F)
    (timestamp : ℤ) (ops : List (Op F)) :
    Along (booked H B K opened)
        (fun p op => (booked H B K opened p op).2.Balanced (booked H B K opened p op).1.held ∧
          p.1.Contained H B K opened op)
        (start flags wakeFlags memory distance timestamp, .blank) ops ↔
      Along (fun w op => w.step H B K opened op) (fun w op => ¬ w.Loses H B opened op)
        (start flags wakeFlags memory distance timestamp) ops := by
  have hstart := start_wf flags wakeFlags memory distance timestamp
  have hblank : (Books.blank : Books Driver (SensorsEvent F)).Balanced
      (start flags wakeFlags memory distance timestamp).held := fun d => by cases d <;> rfl
  refine (along_congr (fun p => p.1.Wf) (fun p op hp => and_iff_left (hp.contained op))
    (fun p op hp _ => hp.step op) hstart ops).trans ?_
  refine (balanced_along_iff (fun w op => w.step H B K opened op)
    (fun w op => w.flow H B K opened op) held (fun w => w.Wf) (fun w op hw => hw.step op)
    (fun w op hw => hw.conserves op) hstart hblank ops).trans ?_
  exact along_congr (fun w => w.Wf) (fun w op hw => hw.returned_iff op)
    (fun w op hw _ => hw.step op) hstart ops

/-- With room for one event the hub fills the array, the rear proximity sensor finds no
room, and the call returns 0. -/
theorem full_array_lost :
    ¬ Along (booked .numbered .all (fun _ _ => 0) (fun _ => true))
      (fun p op => (booked .numbered .all (fun _ _ => 0) (fun _ => true) p op).2.Balanced
          (booked .numbered .all (fun _ _ => 0) (fun _ => true) p op).1.held ∧
        p.1.Contained .numbered .all (fun _ _ => 0) (fun _ => true) op)
      (start none none (fun _ => ⟨EV_SYN, 0, 0⟩) (0 : ℚ) 0, .blank)
      [.replies [.full (.blank .DT_ALS)],
        .poll (.ready fun _ => true)
          (fun _ => (.hub, ⟨.META_DATA_VERSION, none, .META_DATA, .data [], 0⟩)) 1] := by
  intro h
  obtain ⟨-, ⟨hbalanced, -⟩, -⟩ := h
  have hhub := congrArg List.length (hbalanced .hub)
  exact absurd hhub (by decide)

end Cedric.MotoshHal.SensorsPollContext
