import Cedric.Hub.RecordFrames
import Cedric.Lib.ReadLoop

/-!
# The read loop of `readEvents`

The loop runs while fewer than `dLen - 3` events are stored and `read` does not
return 0. It is metered: a record costs the events it fans out to, which the
enable state before the call decides. `handled` lists the records the loop body
ran on.
-/

namespace Cedric.Hub

open ReadLoop

variable {F : Type} [FloatOps F]

def readRoom (dLen : ℤ) (p : HubSensors F × List (Event F)) : Bool :=
  decide ((p.2.length : ℤ) < dLen - 3)

def readBody (H : Stml0xxHeader) (K : Kernel) (b : SensorData)
    (p : HubSensors F × List (Event F)) : HubSensors F × List (Event F) :=
  let r := p.1.handleRecord H K b
  (r.1, p.2 ++ r.2)

omit [FloatOps F] in
/-- The dump that an earlier reset left pending, after the loop. -/
def HubSensors.pendingDump (s : HubSensors F) (H : Stml0xxHeader) (K : Kernel) (type : DataType) :
    HubSensors F :=
  if s.mPendingBug2go then
    let now := s.syscall K .time
    if now.1 - now.2.sentBug2goSec > 24 * 60 * 60 then
      { now.2.bug2go H K now.1 type with mPendingBug2go := false }
    else now.2
  else s

/-- Event `k` is stored in `d[k]`, and the number of events is the C result. -/
structure ReadResult (F : Type) where
  events : List (Event F)
  hub : HubSensors F
  rest : List (Reply SensorData)

section
variable (H : Stml0xxHeader) (K : Kernel) (buff : SensorData) (dLen : ℤ)

/-- `buff` is the record on the stack, not initialised by the code. -/
def readLoop (s : HubSensors F) (replies : List (Reply SensorData)) :
    Result SensorData (HubSensors F × List (Event F)) :=
  loop (readRoom dLen) (readBody H K) buff (s, []) replies

def readEvents (s : HubSensors F) (replies : List (Reply SensorData)) : ReadResult F :=
  if dLen < 1 then ⟨[], s, replies⟩
  else
    let r := readLoop H K buff dLen s replies
    ⟨r.state.2, r.state.1.pendingDump H K r.buf.type, r.rest⟩

def handled (s : HubSensors F) (replies : List (Reply SensorData)) : List SensorData :=
  if dLen < 1 then []
  else processed (readRoom dLen) (readBody H K) buff (s, []) replies

variable {dLen}

theorem readEvents_of_pos (h : 1 ≤ dLen) (s : HubSensors F) (replies : List (Reply SensorData)) :
    readEvents H K buff dLen s replies =
      ⟨(readLoop H K buff dLen s replies).state.2,
        (readLoop H K buff dLen s replies).state.1.pendingDump H K
          (readLoop H K buff dLen s replies).buf.type,
        (readLoop H K buff dLen s replies).rest⟩ := by
  rw [readEvents, if_neg (by omega)]

theorem handled_of_pos (h : 1 ≤ dLen) (s : HubSensors F) (replies : List (Reply SensorData)) :
    handled H K buff dLen s replies =
      processed (readRoom dLen) (readBody H K) buff (s, []) replies := by
  rw [handled, if_neg (by omega)]

theorem readEvents_eq_handled (h : 1 ≤ dLen) (s : HubSensors F)
    (replies : List (Reply SensorData)) :
    (readEvents H K buff dLen s replies).events =
        ((handled H K buff dLen s replies).foldl (fun p b => readBody H K b p) (s, [])).2 ∧
      (readEvents H K buff dLen s replies).hub =
        ((handled H K buff dLen s replies).foldl (fun p b => readBody H K b p) (s, [])).1.pendingDump
          H K ((handled H K buff dLen s replies).getLastD buff).type := by
  rw [readEvents_of_pos H K buff h, handled_of_pos H K buff h, ← state_eq_foldl,
    ← buf_eq_getLastD]
  exact ⟨rfl, rfl⟩

end

def metered (H : Stml0xxHeader) (K : Kernel) (dLen : ℤ) (s : HubSensors F) :
    Metered (readRoom (F := F) dLen) (readBody H K) (dLen - 3) (fun b => s.fanOut b.type) where
  measure := fun p => p.2.length
  Inv := fun p => s.SameSetup p.1
  room_iff := fun p => decide_eq_true_iff
  keeps := fun b p hp => hp.trans (HubSensors.handleRecord_setup H K b)
  charge := fun b p hp => by
    have hlen := HubSensors.handleRecord_length (s := p.1) H K b
    rw [hp.fanOut] at hlen
    simp only [readBody, List.length_append, hlen]

omit [FloatOps F] in
theorem HubSensors.pendingDump_books (s : HubSensors F) (H : Stml0xxHeader) (K : Kernel)
    (type : DataType) : s.Books (s.pendingDump H K type) := by
  have htime : s.Books (s.syscall K .time).2 := books_syscall K rfl
  simp only [pendingDump]
  split_ifs
  · exact (htime.trans (bug2go_books H K (s.syscall K .time).1 type)).trans
      ⟨_, _, _, _, rfl, rfl⟩
  · exact htime
  · exact .refl

theorem readEvents_invariant {P : HubSensors F → Prop} {H : Stml0xxHeader} {K : Kernel}
    (keeps : ∀ b s, P s → P (s.handleRecord H K b).1) (books : ∀ s t, s.Books t → P s → P t)
    (buff : SensorData) (dLen : ℤ) {s : HubSensors F} (hs : P s)
    (replies : List (Reply SensorData)) : P (readEvents H K buff dLen s replies).hub := by
  rw [readEvents]
  split_ifs
  · exact hs
  · apply books _ _ (HubSensors.pendingDump_books _ H K _)
    exact loop_invariant (readRoom dLen) (readBody H K) (P := fun p => P p.1)
      (fun b p hp => keeps b p.1 hp) buff hs replies

theorem readEvents_setup (H : Stml0xxHeader) (K : Kernel) (buff : SensorData) (dLen : ℤ)
    (s : HubSensors F) (replies : List (Reply SensorData)) :
    s.SameSetup (readEvents H K buff dLen s replies).hub :=
  readEvents_invariant (P := s.SameSetup) (fun b _ h => h.trans (HubSensors.handleRecord_setup H K b))
    (fun _ _ hbooks h => h.trans hbooks.setup) buff dLen .refl replies

end Cedric.Hub
