import Cedric.Lib.Runs
import Cedric.Sensorhub.AlgoReq

/-!
# Active algorithms and active parts

Each bit of `active_algos` should tell whether its algorithm has active parts.
A request stores the parts before its second ioctl, and `sensorhub_enable`
stores an unassigned word for any type but the movement algorithm. Apart from
these two steps every call keeps the context consistent.
-/

namespace Cedric.Sensorhub

open BitFlags Runs

/-- The bit of an algorithm is set exactly while it has active parts. -/
def Agrees (T : Tables) (activeAlgos : BitVec 16) (activeParts : ℕ → BitVec 32) : Prop :=
  ∀ a < SENSORHUB_NUM_ALGOS, T.algoBits a ≠ 0 →
    (activeAlgos &&& T.algoBits a ≠ 0 ↔ activeParts a ≠ 0)

def Consistent (T : Tables) (context : Context) : Prop :=
  Agrees T context.activeAlgos context.activeParts

/-- A call with the outcomes of its ioctls; `data` is the word on the stack. -/
inductive Call
  | enable (algo : Algo) (data : BitVec 32) (io : Replies)
  | algoReq (algo : { a : BitVec 16 // a.toNat < SENSORHUB_NUM_ALGOS }) (activeParts : BitVec 32)
      (reqInfo : ℕ → ℕ → BitVec 8) (io : Replies)

def Call.result (T : Tables) (context : Context) : Call → ℤ × Context
  | .enable algo data io =>
    let r := sensorhubEnable T.toAlgoHeader context algo data io
    (r.error, r.context)
  | .algoReq algo activeParts reqInfo io =>
    let r := sensorhubAlgoReq T context algo activeParts reqInfo io
    (r.error, r.context)

structure Sound (T : Tables) (context : Context) (call : Call) : Prop where
  unchanged : (call.result T context).1 ≠ 0 → (call.result T context).2 = context
  consistent : Consistent T (call.result T context).2

/-- What the call must not meet: an unassigned word sent and stored, or a failure
between the two updates of a request that changes the parts. -/
def Harmless (T : Tables) (context : Context) : Call → Prop
  | .enable algo data io =>
    algo.type = BitVec.ofNat 32 SENSORHUB_ALGO_MOVEMENT ∨ io .SET_ALGOS ≠ none ∨
      Agrees T (data.setWidth 16) context.activeParts
  | .algoReq algo activeParts _ io =>
    io .SET_ALGO_REQ = none → io .SET_ALGOS ≠ none →
      context.activeParts algo.val.toNat = activeParts

theorem Replies.error_eq_zero_iff (io : Replies) (c : Ioctl) : io.error c = 0 ↔ io c = none := by
  rw [Replies.error]
  cases io c with
  | none => simp
  | some errno =>
    have hpos := errno.property
    simp only [reduceCtorEq, iff_false]
    omega

section Masks
variable (T : Tables)

theorem algoMask_injective : ∀ i j m, algoMask i = some m → algoMask j = some m → i = j := by
  intro i j m
  cases m <;> revert i j <;> decide

theorem algoMask_not_movement : ∀ i m, algoMask i = some m → m ≠ .M_MMOVEME ∧ m ≠ .M_NOMMOVE := by
  intro i m
  cases m <;> revert i <;> decide

theorem algoBits_cases {a : ℕ} (ha : a < SENSORHUB_NUM_ALGOS) :
    T.algoBits a = 0#16 ∨ ∃ m, algoMask ⟨a, ha⟩ = some m ∧ T.algoBits a = T.mask m := by
  rw [Tables.algoBits, dif_pos ha]
  cases algoMask ⟨a, ha⟩ with
  | none => exact Or.inl rfl
  | some m => exact Or.inr ⟨m, rfl, rfl⟩

theorem algoBits_disjoint {a b : ℕ} (ha : a < SENSORHUB_NUM_ALGOS) (hb : b < SENSORHUB_NUM_ALGOS)
    (hne : a ≠ b) : T.algoBits a &&& T.algoBits b = 0#16 := by
  rcases algoBits_cases T ha with h | ⟨m, hm, h⟩
  · rw [h, BitVec.zero_and]
  · rcases algoBits_cases T hb with h' | ⟨m', hm', h'⟩
    · rw [h', BitVec.and_zero]
    · rw [h, h']
      apply T.disjoint
      intro heq
      subst heq
      exact hne (congrArg Fin.val (algoMask_injective _ _ _ hm hm'))

theorem movement_disjoint {a : ℕ} (ha : a < SENSORHUB_NUM_ALGOS) :
    (T.mask .M_MMOVEME ||| T.mask .M_NOMMOVE) &&& T.algoBits a = 0#16 := by
  rcases algoBits_cases T ha with h | ⟨m, hm, h⟩
  · rw [h, BitVec.and_zero]
  · obtain ⟨hmove, hno⟩ := algoMask_not_movement _ m hm
    rw [h, BitVec.and_or_distrib_right, T.disjoint _ _ hmove.symm, T.disjoint _ _ hno.symm]
    rfl

end Masks

section Steps
variable {T : Tables} {context : Context}

theorem setWidth_or (x m : BitVec 16) :
    (x.setWidth 32 ||| m.setWidth 32).setWidth 16 = x ||| m := by
  apply BitVec.eq_of_getLsbD_eq
  intro i hi
  simp [hi]

theorem setWidth_andNot (x m : BitVec 16) :
    (x.setWidth 32 &&& ~~~m.setWidth 32).setWidth 16 = x &&& ~~~m := by
  apply BitVec.eq_of_getLsbD_eq
  intro i hi
  simp [hi]

theorem Agrees.movement {active : BitVec 16} {parts : ℕ → BitVec 32} (h : Agrees T active parts) :
    Agrees T (active ||| (T.mask .M_MMOVEME ||| T.mask .M_NOMMOVE)) parts ∧
      Agrees T (active &&& ~~~(T.mask .M_MMOVEME ||| T.mask .M_NOMMOVE)) parts := by
  constructor
  · intro a ha hbits
    rw [or_and_of_disjoint (movement_disjoint T ha)]
    exact h a ha hbits
  · intro a ha hbits
    rw [andNot_and_of_disjoint (movement_disjoint T ha)]
    exact h a ha hbits

theorem sound_iff_of_store (hc : Consistent T context) {call : Call} {error : ℤ}
    {algos : BitVec 16} (hresult : call.result T context =
      (error, if error = 0 then { context with activeAlgos := algos } else context)) :
    Sound T context call ↔ (error = 0 → Agrees T algos context.activeParts) := by
  constructor
  · intro h herror
    have hcons := h.consistent
    rw [hresult, herror] at hcons
    exact hcons
  · intro h
    by_cases herror : error = 0
    · refine ⟨fun hne => ?_, ?_⟩
      · rw [hresult] at hne
        exact absurd herror hne
      · rw [hresult, if_pos herror]
        exact h herror
    · refine ⟨fun _ => ?_, ?_⟩
      · rw [hresult, if_neg herror]
      · rw [hresult, if_neg herror]
        exact hc

theorem enable_sound_iff (hc : Consistent T context) (algo : Algo) (data : BitVec 32)
    (io : Replies) :
    Sound T context (.enable algo data io) ↔ Harmless T context (.enable algo data io) := by
  by_cases htype : algo.type = BitVec.ofNat 32 SENSORHUB_ALGO_MOVEMENT
  · refine iff_of_true ((sound_iff_of_store hc rfl).mpr fun _ => ?_) (Or.inl htype)
    obtain ⟨hset, hclear⟩ := Agrees.movement hc
    rw [if_pos htype]
    split_ifs
    · rw [setWidth_or]
      exact hset
    · rw [setWidth_andNot]
      exact hclear
  · refine (sound_iff_of_store hc rfl).trans ?_
    rw [if_neg htype]
    simp only [sensorhubEnable, htype, ↓reduceIte, Replies.error_eq_zero_iff, Harmless, false_or]
    exact imp_iff_not_or

theorem Agrees.request (h : Agrees T context.activeAlgos context.activeParts)
    {algo : BitVec 16} (halgo : algo.toNat < SENSORHUB_NUM_ALGOS) (activeParts : BitVec 32) :
    Agrees T (nextAlgos T context algo activeParts)
      (Function.update context.activeParts algo.toNat activeParts) := by
  intro a ha hbits
  by_cases heq : a = algo.toNat
  · subst heq
    have hold := h algo.toNat ha hbits
    rw [Function.update_self, nextAlgos]
    split_ifs with hstart hstop
    · rw [or_and_self]
      exact iff_of_true hbits hstart.2
    · rw [andNot_and_self]
      exact iff_of_false (fun hne => hne rfl) (fun hne => hne hstop.2)
    · rw [hold]
      tauto
  · have hdisj := algoBits_disjoint T halgo ha (Ne.symm heq)
    rw [Function.update_of_ne heq, nextAlgos]
    split_ifs
    · rw [or_and_of_disjoint hdisj]
      exact h a ha hbits
    · rw [andNot_and_of_disjoint hdisj]
      exact h a ha hbits
    · exact h a ha hbits

theorem algoReq_sound_iff (hc : Consistent T context)
    (algo : { a : BitVec 16 // a.toNat < SENSORHUB_NUM_ALGOS }) (activeParts : BitVec 32)
    (reqInfo : ℕ → ℕ → BitVec 8) (io : Replies) :
    Sound T context (.algoReq algo activeParts reqInfo io) ↔
      Harmless T context (.algoReq algo activeParts reqInfo io) := by
  by_cases hreq : io .SET_ALGO_REQ = none
  · by_cases halgos : io .SET_ALGOS = none
    · -- Both ioctls succeed: the parts and the bit change together.
      refine iff_of_true ⟨fun hne => ?_, ?_⟩ (fun _ hne => absurd halgos hne)
      · simp [Call.result, sensorhubAlgoReq, hreq, halgos] at hne
      · simp only [Call.result, sensorhubAlgoReq, hreq, halgos, ne_eq, not_true_eq_false,
          ↓reduceIte]
        exact Agrees.request hc algo.property activeParts
    · -- The parts are stored and the second ioctl fails.
      have hresult : (Call.algoReq algo activeParts reqInfo io).result T context =
          (io.error .SET_ALGOS, ⟨context.activeAlgos,
            Function.update context.activeParts algo.val.toNat activeParts⟩) := by
        simp only [Call.result, sensorhubAlgoReq, hreq, halgos, ne_eq, not_true_eq_false,
          not_false_eq_true, ↓reduceIte]
      have herror : io.error .SET_ALGOS ≠ 0 := fun h => halgos ((io.error_eq_zero_iff _).mp h)
      constructor
      · intro h _ _
        have hsame := h.unchanged (by rw [hresult]; exact herror)
        rw [hresult] at hsame
        have hparts := congrFun (congrArg Context.activeParts hsame) algo.val.toNat
        exact hparts.symm.trans (Function.update_self ..)
      · intro h
        have hparts := h hreq halgos
        have hsame : (Call.algoReq algo activeParts reqInfo io).result T context =
            (io.error .SET_ALGOS, context) := by
          rw [hresult, ← hparts, Function.update_eq_self]
        exact ⟨fun _ => by rw [hsame], by rw [hsame]; exact hc⟩
  · have hresult : (Call.algoReq algo activeParts reqInfo io).result T context =
        (io.error .SET_ALGO_REQ, context) := by
      simp only [Call.result, sensorhubAlgoReq, hreq, ne_eq, not_false_eq_true, ↓reduceIte]
    refine iff_of_true ⟨fun _ => by rw [hresult], ?_⟩ (fun h => absurd h hreq)
    rw [hresult]
    exact hc

end Steps

/-- Along any run from a fresh context every call is sound exactly if every call is
harmless. -/
theorem sound_along_iff (T : Tables) (behind : ℕ → BitVec 32) (calls : List Call) :
    Along (fun context call => (call.result T context).2) (Sound T) (.opened behind) calls ↔
      Along (fun context call => (call.result T context).2) (Harmless T) (.opened behind) calls := by
  have hstart : Consistent T (.opened behind) := by
    intro a ha hbits
    have hzero : (Context.opened behind).activeParts a = 0 := if_pos ha
    rw [hzero]
    simp [Context.opened]
  refine along_congr (Consistent T) ?_ (fun _ _ _ hs => hs.consistent) hstart calls
  intro context call hc
  cases call with
  | enable algo data io => exact enable_sound_iff hc algo data io
  | algoReq algo activeParts reqInfo io => exact algoReq_sound_iff hc algo activeParts reqInfo io

theorem failed_second_ioctl_loses_bit :
    ¬ Along (fun context call => (call.result ⟨.numbered, fun _ => 0, fun _ => 0⟩ context).2)
      (Sound ⟨.numbered, fun _ => 0, fun _ => 0⟩) (.opened fun _ => 0)
      [.algoReq ⟨0, by decide⟩ 1 (fun _ _ => 0)
        fun c => if c = .SET_ALGOS then some ⟨5, by decide⟩ else none] := by
  intro h
  have hsame := congrArg (fun context => context.activeParts 0) (h.1.unchanged (by decide))
  exact absurd hsame (by decide)

end Cedric.Sensorhub
