import Cedric.Hub.Board

/-!
# Reports that stay in the reader

`readEvents` takes from the kernel as much as the reader holds, and returns as
much as the caller has room for. What it leaves is fetched by a later call only
if the descriptor is readable again, since `hasPendingEvents` says that nothing
is pending. Over a run of calls the events returned and the reports still owed
are what the inputs delivered become.
-/

namespace Cedric.Hub

open Runs

variable {F : Type} [FloatOps F]

namespace Board

section Claim
variable (H : Stml0xxHeader) (K : Kernel) (n : RearProx)

omit [FloatOps F] in
def start (world : World F) (memory : RearProx → ℕ → InputEvent) (distance : RearProx → F)
    (timestamp : RearProx → ℤ) : Board F where
  world := world
  rearprox n := .start n (memory n) (distance n) (timestamp n)

/-- After the calls `past`, the call `c` returns every report whose `EV_SYN` they
have taken from the kernel and not returned, as far as it has room. -/
def Delivers (b : Board F) (past : List PollCall) (c : PollCall) : Prop :=
  let r := transduce (call H K) b past
  let reports := RearProxSensor.reports (b.rearprox n).mPendingEvents
    (r.1.rearprox n).dataFd.delivered
  (reports.drop (returned n r.2).length).take (room H K n r.1 c).toNat <+:
    returned n (call H K r.1 c).2

def NoneStranded (b : Board F) (cs : List PollCall) : Prop :=
  ∀ past c rest, cs = past ++ c :: rest → Delivers H K n b past c

/-- A call with room that starts with an `EV_SYN` in the reader finds the descriptor
readable, and neither its `poll` nor its `read` fails. -/
def ServesBacklog (b : Board F) (c : PollCall) : Prop :=
  (∃ event ∈ (b.rearprox n).mInputReader.queued, event.type = EV_SYN) → 1 ≤ room H K n b c →
    Reads n b c ∧ (c.fault n = none ∨ (b.rearprox n).mInputReader.mFreeSpace = 0)

end Claim

variable {H : Stml0xxHeader} {K : Kernel} {n : RearProx} {b : Board F} {first : Event F}
  {out : List (Event F)}

theorem owed_returned_iff (hb : b.Sound) (c : PollCall) :
    (b.rearprox n).owed.take (room H K n b c).toNat <+: returned n (call H K b c).2 ↔
      ServesBacklog H K n b c := by
  obtain ⟨-, hread, hpass⟩ := call_rearprox (H := H) (K := K) n hb c
  rw [ServesBacklog, ← RearProxSensor.owed_ne_nil_iff]
  constructor
  · intro h howed hroom
    have hne : returned n (call H K b c).2 ≠ [] := by
      intro hnone
      rw [hnone, List.prefix_nil, List.take_eq_nil_iff] at h
      rcases h with h | h
      · omega
      · exact howed h
    have hreads : Reads n b c := by
      by_contra hnot
      exact hne (Prod.mk.inj (hpass hnot)).2
    refine ⟨hreads, ?_⟩
    by_contra hfault
    rw [not_or] at hfault
    rw [(Prod.mk.inj (hread hreads)).2] at hne
    exact hne (RearProxSensor.readEvents_fault (hb n).wf hfault.2 hfault.1)
  · intro h
    by_cases howed : (b.rearprox n).owed = []
    · rw [howed, List.take_nil]
      exact List.nil_prefix
    · by_cases hroom : 1 ≤ room H K n b c
      · obtain ⟨hreads, hgood⟩ := h howed hroom
        rw [(Prod.mk.inj (hread hreads)).2]
        exact RearProxSensor.readEvents_returns (s := (b.arrive c).rearprox n) (hb n).wf hroom
          hgood.symm
      · rw [Int.toNat_of_nonpos (by omega), List.take_zero]
        exact List.nil_prefix

theorem call_accounts (hb : b.Sound) (h : (b.rearprox n).Accounts first out) (c : PollCall) :
    ((call H K b c).1.rearprox n).Accounts first (out ++ returned n (call H K b c).2) := by
  obtain ⟨-, hread, hpass⟩ := call_rearprox (H := H) (K := K) n hb c
  have harrive : ((b.arrive c).rearprox n).Accounts first out := h.arrive rfl
  by_cases hreads : Reads n b c
  · obtain ⟨hsensor, hout⟩ := Prod.mk.inj (hread hreads)
    rw [hsensor, hout]
    exact harrive.readEvents (room H K n b c)
  · obtain ⟨hsensor, hout⟩ := Prod.mk.inj (hpass hreads)
    rw [hsensor, hout, List.append_nil]
    exact harrive

theorem transduce_accounts (hb : b.Sound) (h : (b.rearprox n).Accounts first out)
    (cs : List PollCall) :
    (transduce (call H K) b cs).1.Sound ∧ ((transduce (call H K) b cs).1.rearprox n).Accounts
      first (out ++ returned n (transduce (call H K) b cs).2) := by
  induction cs generalizing b out with
  | nil =>
    simp only [transduce, returned, List.filter_nil, List.append_nil]
    exact ⟨hb, h⟩
  | cons c cs ih =>
    have hrest := ih (call_rearprox (H := H) (K := K) n hb c).1 (call_accounts hb h c)
    simp only [transduce, returned_append]
    rw [← List.append_assoc]
    exact hrest

theorem call_clears (hb : b.Sound) (hnone : (b.rearprox n).owed = []) {c : PollCall}
    (hroom : Reads n b c → 8 ≤ room H K n b c) :
    ((call H K b c).1.rearprox n).owed = [] := by
  obtain ⟨-, hread, hpass⟩ := call_rearprox (H := H) (K := K) n hb c
  by_cases hreads : Reads n b c
  · rw [(Prod.mk.inj (hread hreads)).1]
    exact RearProxSensor.readEvents_clears (arrive_sound hb c n) hnone (hroom hreads)
  · rw [(Prod.mk.inj (hpass hreads)).1]
    exact hnone

section Start
variable (n : RearProx) (world : World F) (memory : RearProx → ℕ → InputEvent) (distance : RearProx → F)
  (timestamp : RearProx → ℤ)

omit [FloatOps F] in
theorem start_sound : (start world memory distance timestamp).Sound :=
  fun n => RearProxSensor.start_sound n (memory n) (distance n) (timestamp n)

theorem start_owed : ((start world memory distance timestamp).rearprox n).owed = [] := by
  have hqueue : ((start world memory distance timestamp).rearprox n).mInputReader.queued = [] :=
    InputEventCircularReader.start_queued 8 (memory n)
  rw [RearProxSensor.owed, hqueue]
  rfl

theorem delivers_iff (past : List PollCall) (c : PollCall) :
    Delivers H K n (start world memory distance timestamp) past c ↔
      ServesBacklog H K n (transduce (call H K) (start world memory distance timestamp) past).1
        c := by
  have hfirst : ((start world memory distance timestamp).rearprox n).Accounts
      ((start world memory distance timestamp).rearprox n).mPendingEvents [] :=
    RearProxSensor.accounts_start n (memory n) (distance n) (timestamp n)
  obtain ⟨hsound, haccounts⟩ := transduce_accounts (H := H) (K := K)
    (start_sound world memory distance timestamp) hfirst past
  rw [← owed_returned_iff hsound, Delivers]
  rw [haccounts.owed_eq, List.nil_append, List.drop_left]

theorem serves_of_eight {cs : List PollCall}
    (h : Along (fun b c => (call H K b c).1) (fun b c => Reads n b c → 8 ≤ room H K n b c)
      (start world memory distance timestamp) cs) :
    Along (fun b c => (call H K b c).1) (ServesBacklog H K n)
      (start world memory distance timestamp) cs :=
  along_mono (fun b => b.Sound ∧ (b.rearprox n).owed = [])
    (fun _ c hb hc => ⟨(call_rearprox (H := H) (K := K) n hb.1 c).1, call_clears hb.1 hb.2 hc⟩)
    (fun _ _ hb _ hsyn => absurd hb.2 ((RearProxSensor.owed_ne_nil_iff _).mpr hsyn))
    ⟨start_sound world memory distance timestamp, start_owed n world memory distance timestamp⟩
    cs h

/-- Nothing is stranded exactly if every call serves the backlog, as all do that leave a full
reader's worth of room. -/
theorem noneStranded_iff (cs : List PollCall) :
    (NoneStranded H K n (start world memory distance timestamp) cs ↔
      Along (fun b c => (call H K b c).1) (ServesBacklog H K n)
        (start world memory distance timestamp) cs) ∧
    (Along (fun b c => (call H K b c).1) (fun b c => Reads n b c → 8 ≤ room H K n b c)
        (start world memory distance timestamp) cs →
      NoneStranded H K n (start world memory distance timestamp) cs) := by
  have hserves : NoneStranded H K n (start world memory distance timestamp) cs ↔
      Along (fun b c => (call H K b c).1) (ServesBacklog H K n)
        (start world memory distance timestamp) cs := by
    rw [along_iff_split]
    apply forall_congr'
    intro past
    rw [← transduce_fst]
    exact forall_congr' fun c => forall_congr' fun rest => imp_congr_right fun _ =>
      delivers_iff n world memory distance timestamp past c
  refine ⟨hserves, fun hroom => ?_⟩
  exact hserves.mpr (serves_of_eight n world memory distance timestamp hroom)

end Start

def quietBoard : Board ℚ :=
  start ⟨.start none none, [], fun _ => .blank (.other 0), []⟩ (fun _ _ => ⟨0, 0, 0⟩) (fun _ => 0)
    fun _ => 0

/-- A near and a far report arrive, and there is room for one event. -/
def nearAndFar : PollCall where
  count := 1
  failures := []
  replies := []
  input _ := [⟨EV_ABS, ABS_DISTANCE, 0⟩, ⟨EV_SYN, 0, 0⟩, ⟨EV_ABS, ABS_DISTANCE, 5⟩, ⟨EV_SYN, 0, 0⟩]
  fault _ := none

def lightArrives : PollCall := ⟨16, [], [.full (.blank .DT_ALS)], fun _ => [], fun _ => none⟩

theorem far_report_waits_for_input :
    ¬ NoneStranded .numbered (fun _ _ => 0) .rearprox quietBoard [nearAndFar, lightArrives] := by
  intro h
  have hserves := (delivers_iff .rearprox _ _ _ _ [nearAndFar] lightArrives).mp
    (h [nearAndFar] lightArrives [] rfl)
  have hreads := hserves ⟨⟨EV_SYN, 0, 0⟩, by decide +kernel, rfl⟩ (by decide +kernel)
  exact hreads.1.2 (by decide +kernel)

end Board
end Cedric.Hub
