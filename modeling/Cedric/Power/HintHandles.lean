import Cedric.Lib.CountedLease
import Cedric.Lib.DecimalText
import Mathlib.Logic.Function.Basic

/-!
# Performance locks of `power_hint`

Two hints take a lock from the performance client for as long as some caller wants it.
`handles` counts the callers of each, and shows a lease as long as the count fits an `int`.
-/

namespace Cedric.Power

open CountedLease DecimalText Runs

abbrev PowerHint := BitVec 32

def POWER_HINT_VSYNC : PowerHint := 1
def POWER_HINT_VIDEO_ENCODE : PowerHint := 3
def POWER_HINT_SUSTAINED_PERFORMANCE : PowerHint := 6
def AOSP_DELTA : BitVec 32 := 0x1200

def HINT_HANDLED : ℤ := 0
def HINT_NONE : ℤ := -1

/-- The functions that `initialize` found in the client library. -/
structure PerfClient where
  perfLockAcq : Bool
  perfLockRel : Bool
  perfHint : Bool
  deriving DecidableEq

inductive PerfCall
  | perfHint (hintId : BitVec 32) (result : CInt)
  | perfLockRel (handle : CInt)

structure HintHandles where
  handle : CInt
  refCount : CInt

/-- The array has an entry for each hint of `power_hint_t`; no other is used. -/
abbrev Handles := PowerHint → HintHandles

def powerInit : Handles := fun _ => ⟨0, 0⟩

variable (client : PerfClient)

/-- `answer` is what `perf_hint` returns if it is called. -/
def perfHintEnable (hintId : BitVec 32) (duration : ℤ) (answer : CInt) : CInt × List PerfCall :=
  if duration < 0 then (0, [])
  else if client.perfHint then (answer, [.perfHint hintId answer])
  else (0, [])

def releaseRequest (lockHandle : CInt) : List PerfCall :=
  if client.perfLockRel then [.perfLockRel lockHandle] else []

def HintHandles.enable (hint : PowerHint) (answer : CInt) (h : HintHandles) :
    HintHandles × List PerfCall :=
  let asked :=
    if h.refCount.1 = 0 then perfHintEnable client (AOSP_DELTA + hint) 0 answer
    else (h.handle, [])
  let h := { h with handle := asked.1 }
  (if 0 < h.handle.1 then { h with refCount := CInt.wrap (h.refCount.1 + 1) } else h, asked.2)

def HintHandles.disable (h : HintHandles) : HintHandles × List PerfCall :=
  if 0 < h.handle.1 then
    let h := { h with refCount := CInt.wrap (h.refCount.1 - 1) }
    -- The last `else` of the source belongs to this test and only logs.
    if h.refCount.1 = 0 then ({ h with handle := 0 }, releaseRequest client h.handle)
    else (h, [])
  else (h, [])

/-- A call of `power_hint`, whether it has data, and the answer of the client. -/
structure Call where
  hint : PowerHint
  data : Bool
  answer : CInt

/-- `override` is the result of `power_hint_override`. -/
def powerHint (override : ℤ) (handles : Handles) (c : Call) : Handles × List PerfCall :=
  if override = HINT_HANDLED then (handles, [])
  else if c.hint = POWER_HINT_SUSTAINED_PERFORMANCE ∨ c.hint = POWER_HINT_VIDEO_ENCODE then
    let r :=
      if c.data then (handles c.hint).enable client c.hint c.answer
      else (handles c.hint).disable client
    (Function.update handles c.hint r.1, r.2)
  else (handles, [])

def PerfCall.act : PerfCall → Option (Act CInt)
  | .perfHint _ result => if 0 < result.1 then some (.obtain result) else none
  | .perfLockRel handle => some (.release handle)

def acts (calls : List PerfCall) : List (Act CInt) := calls.filterMap PerfCall.act

theorem acts_perfHint (hintId : BitVec 32) (result : CInt) :
    acts [.perfHint hintId result] = if 0 < result.1 then [.obtain result] else [] := by
  by_cases hpos : 0 < result.1
  · simp [acts, PerfCall.act, hpos]
  · simp [acts, PerfCall.act, hpos]

namespace HintHandles

def Shows (h : HintHandles) : Lease CInt → Prop
  | .free => h.handle.1 ≤ 0 ∧ h.refCount.1 = 0
  | .held a others => h.handle = a ∧ 0 < a.1 ∧ h.refCount.1 = others + 1

structure Backs (client : PerfClient) (h : HintHandles) (l : Lease CInt) : Prop where
  shows : h.Shows l
  returns : l = .free ∨ client.perfLockRel = true

variable {client} {h : HintHandles} {l : Lease CInt}

theorem Shows.handle_pos_iff (hl : h.Shows l) : 0 < h.handle.1 ↔ 0 < h.refCount.1 := by
  cases l with
  | free => exact iff_of_false (not_lt.mpr hl.1) (by rw [hl.2]; decide)
  | held a others =>
    obtain ⟨rfl, hpos, hcount⟩ := hl
    exact iff_of_true hpos (by rw [hcount]; omega)

theorem Shows.users_eq (hl : h.Shows l) : h.refCount.1 = l.users := by
  cases l with
  | free => exact hl.2
  | held a others => exact hl.2.2

theorem Shows.holding_eq (hl : h.Shows l) :
    l.holding = if 0 < h.handle.1 then [h.handle] else [] := by
  cases l with
  | free => exact (if_neg (not_lt.mpr hl.1)).symm
  | held a others =>
    obtain ⟨rfl, hpos, -⟩ := hl
    exact (if_pos hpos).symm

theorem wrap_small {n : ℤ} (hlow : -2147483648 ≤ n) (hhigh : n < 2147483648) :
    (CInt.wrap n).1 = n := congrArg Subtype.val (CInt.wrap_val ⟨n, hlow, hhigh⟩)

theorem Backs.enable (hrel : client.perfHint = true → client.perfLockRel = true)
    (hl : h.Backs client l) (hint : PowerHint) (answer : CInt)
    (hroom : 0 < h.handle.1 → h.refCount.1 ≠ 2147483647) :
    ∃ l', (h.enable client hint answer).1.Backs client l' ∧
      l.Step (l', acts (h.enable client hint answer).2) := by
  obtain ⟨hshows, hreturns⟩ := hl
  cases l with
  | free =>
    obtain ⟨hhandle, hcount⟩ := hshows
    have hasked : perfHintEnable client (AOSP_DELTA + hint) 0 answer =
        if client.perfHint then (answer, [.perfHint (AOSP_DELTA + hint) answer])
        else (0, []) := by
      rw [perfHintEnable, if_neg (lt_irrefl 0)]
    rw [HintHandles.enable, if_pos hcount, hasked]
    by_cases hlib : client.perfHint = true
    · rw [if_pos hlib]
      by_cases hpos : 0 < answer.1
      · refine ⟨.held answer 0, ⟨?_, Or.inr (hrel hlib)⟩, ?_⟩
        · dsimp only
          rw [if_pos hpos, hcount]
          exact ⟨rfl, hpos, rfl⟩
        · rw [acts_perfHint, if_pos hpos]
          exact Lease.step_enable (some answer) .free
      · refine ⟨.free, ⟨?_, Or.inl rfl⟩, ?_⟩
        · dsimp only
          rw [if_neg hpos]
          exact ⟨not_lt.mp hpos, hcount⟩
        · rw [acts_perfHint, if_neg hpos]
          exact Lease.step_same .free
    · rw [if_neg hlib]
      exact ⟨.free, ⟨⟨le_refl 0, hcount⟩, Or.inl rfl⟩, Lease.step_same .free⟩
  | held a others =>
    obtain ⟨rfl, hpos, hcount⟩ := hshows
    have hbusy : h.refCount.1 ≠ 0 := by omega
    have hrange := h.refCount.2
    have hbelow := hroom hpos
    refine ⟨.held h.handle (others + 1), ⟨?_, Or.inr (hreturns.resolve_left (by simp))⟩, ?_⟩
    · rw [HintHandles.enable, if_neg hbusy]
      dsimp only
      rw [if_pos hpos]
      refine ⟨rfl, hpos, ?_⟩
      dsimp only
      rw [wrap_small (by omega) (by omega)]
      push_cast
      omega
    · rw [HintHandles.enable, if_neg hbusy]
      exact Lease.step_enable none (.held h.handle others)

theorem Backs.disable (hl : h.Backs client l) :
    ∃ l', (h.disable client).1.Backs client l' ∧ l.Step (l', acts (h.disable client).2) := by
  obtain ⟨hshows, hreturns⟩ := hl
  cases l with
  | free =>
    rw [HintHandles.disable, if_neg (not_lt.mpr hshows.1)]
    exact ⟨.free, ⟨hshows, Or.inl rfl⟩, Lease.step_same .free⟩
  | held a others =>
    have hrel : client.perfLockRel = true := hreturns.resolve_left (by simp)
    obtain ⟨rfl, hpos, hcount⟩ := hshows
    have hrange := h.refCount.2
    have hcount' : (CInt.wrap (h.refCount.1 - 1)).1 = others := by
      rw [wrap_small (by omega) (by omega)]
      omega
    rw [HintHandles.disable, if_pos hpos]
    dsimp only
    rw [hcount']
    cases others with
    | zero =>
      rw [if_pos Int.natCast_zero, releaseRequest, if_pos hrel]
      exact ⟨.free, ⟨⟨le_refl 0, hcount'⟩, Or.inl rfl⟩, Lease.step_disable (.held h.handle 0)⟩
    | succ n =>
      rw [if_neg (by omega)]
      refine ⟨.held h.handle n, ⟨⟨rfl, hpos, ?_⟩, Or.inr hrel⟩,
        Lease.step_disable (.held h.handle (n + 1))⟩
      rw [hcount']
      push_cast
      rfl

end HintHandles

def hintStep (k : PowerHint) (handles : Handles) (c : Call) : Handles × List (Act CInt) :=
  let r := powerHint client HINT_NONE handles c
  (r.1, if c.hint = k then acts r.2 else [])

/-- A handle is held exactly while it has users, none is obtained while one is held, and one is
released exactly when its last user goes. -/
structure Accounted (handles : Handles) (c : Call) : Prop where
  held_iff : ∀ k, 0 < ((powerHint client HINT_NONE handles c).1 k).handle.1 ↔
    0 < ((powerHint client HINT_NONE handles c).1 k).refCount.1
  nonneg : ∀ k, 0 ≤ ((powerHint client HINT_NONE handles c).1 k).refCount.1
  alone : obtained (acts (powerHint client HINT_NONE handles c).2) ≠ [] →
    ¬ 0 < (handles c.hint).handle.1
  last : released (acts (powerHint client HINT_NONE handles c).2) =
    if 0 < (handles c.hint).refCount.1 ∧
        ((powerHint client HINT_NONE handles c).1 c.hint).refCount.1 = 0 then
      [(handles c.hint).handle]
    else []

/-- What a hint obtained along the calls was released once, in order, but for what it holds. -/
def ReleasedOnce (k : PowerHint) (calls : List Call) : Prop :=
  let r := transduce (hintStep client k) powerInit calls
  obtained r.2 = released r.2 ++ if 0 < (r.1 k).handle.1 then [(r.1 k).handle] else []

def Accounting (calls : List Call) : Prop :=
  Along (fun handles c => (powerHint client HINT_NONE handles c).1) (Accounted client)
    powerInit calls ∧ ∀ k, ReleasedOnce client k calls

def Room (handles : Handles) (c : Call) : Prop :=
  c.data = true → 0 < (handles c.hint).handle.1 → (handles c.hint).refCount.1 ≠ 2147483647

section Runs
variable {client} {handles : Handles} {leases : PowerHint → Lease CInt} {c : Call}

theorem powerHint_step (hrel : client.perfHint = true → client.perfLockRel = true)
    (hl : ∀ k, (handles k).Backs client (leases k)) (hroom : Room handles c) :
    ∃ l', (∀ k, ((powerHint client HINT_NONE handles c).1 k).Backs client
        (Function.update leases c.hint l' k)) ∧
      (leases c.hint).Step (l', acts (powerHint client HINT_NONE handles c).2) := by
  have hother : ¬ HINT_NONE = HINT_HANDLED := by decide
  rw [powerHint, if_neg hother]
  split_ifs with hhint hdata
  · obtain ⟨l', hshows, hstep⟩ := (hl c.hint).enable hrel c.hint c.answer (hroom hdata)
    refine ⟨l', fun k => ?_, hstep⟩
    by_cases hk : k = c.hint
    · subst hk
      simpa only [Function.update_self] using hshows
    · simpa only [Function.update_of_ne hk] using hl k
  · obtain ⟨l', hshows, hstep⟩ := (hl c.hint).disable
    refine ⟨l', fun k => ?_, hstep⟩
    by_cases hk : k = c.hint
    · subst hk
      simpa only [Function.update_self] using hshows
    · simpa only [Function.update_of_ne hk] using hl k
  · refine ⟨leases c.hint, fun k => ?_, Lease.step_same _⟩
    rw [Function.update_eq_self]
    exact hl k

def Leased (client : PerfClient) (handles : Handles) : Prop :=
  ∃ leases : PowerHint → Lease CInt, ∀ k, (handles k).Backs client (leases k)

theorem powerInit_leased (client : PerfClient) : Leased client powerInit :=
  ⟨fun _ => .free, fun _ => ⟨⟨le_refl 0, rfl⟩, Or.inl rfl⟩⟩

theorem Leased.step (hrel : client.perfHint = true → client.perfLockRel = true) (h : Leased client handles)
    (hroom : Room handles c) : Leased client (powerHint client HINT_NONE handles c).1 := by
  obtain ⟨leases, hl⟩ := h
  obtain ⟨l', hshows, -⟩ := powerHint_step hrel hl hroom
  exact ⟨_, hshows⟩

theorem Leased.accounted (hrel : client.perfHint = true → client.perfLockRel = true) (h : Leased client handles)
    (hroom : Room handles c) : Accounted client handles c := by
  obtain ⟨leases, hl⟩ := h
  obtain ⟨l', hshows, hstep⟩ := powerHint_step hrel hl hroom
  have hold := (hl c.hint).shows
  have hnew : ((powerHint client HINT_NONE handles c).1 c.hint).Shows l' := by
    have hown := hshows c.hint
    rw [Function.update_self] at hown
    exact hown.shows
  refine ⟨fun k => (hshows k).shows.handle_pos_iff, fun k => ?_, fun hobtained => ?_, ?_⟩
  · rw [(hshows k).shows.users_eq]
    exact Int.natCast_nonneg _
  · rw [hold.handle_pos_iff, hold.users_eq, hstep.alone hobtained]
    exact lt_irrefl 0
  · have hzero : l'.users = 0 ↔
        ((powerHint client HINT_NONE handles c).1 c.hint).refCount.1 = 0 := by
      rw [hnew.users_eq]
      exact Int.natCast_eq_zero.symm
    rw [hstep.last, hold.holding_eq]
    simp only [hzero, hold.handle_pos_iff]
    by_cases hlast : ((powerHint client HINT_NONE handles c).1 c.hint).refCount.1 = 0
    · rw [if_pos hlast]
      simp only [hlast, and_true]
    · rw [if_neg hlast, if_neg fun h => hlast h.2]

theorem releasedOnce_of_room (hrel : client.perfHint = true → client.perfLockRel = true) (k : PowerHint)
    {calls : List Call}
    (hroom : Along (fun handles c => (powerHint client HINT_NONE handles c).1) Room powerInit
      calls) : ReleasedOnce client k calls := by
  have hkeeps (handles : Handles) (c : Call) (l : Lease CInt)
      (h : ∃ leases : PowerHint → Lease CInt, (∀ k, (handles k).Backs client (leases k)) ∧ leases k = l)
      (hc : Room handles c) :
      ∃ l', (∃ leases : PowerHint → Lease CInt,
        (∀ j, ((hintStep client k handles c).1 j).Backs client (leases j)) ∧ leases k = l') ∧
        l.Step (l', (hintStep client k handles c).2) := by
    obtain ⟨leases, hl, rfl⟩ := h
    obtain ⟨l', hshows, hstep⟩ := powerHint_step hrel hl hc
    by_cases hk : c.hint = k
    · subst hk
      refine ⟨l', ⟨_, hshows, Function.update_self ..⟩, ?_⟩
      rw [hintStep, if_pos rfl]
      exact hstep
    · refine ⟨leases k, ⟨_, hshows, Function.update_of_ne (Ne.symm hk) ..⟩, ?_⟩
      rw [hintStep, if_neg hk]
      exact Lease.step_same _
  obtain ⟨l', ⟨leases, hl, rfl⟩, hledger⟩ := run_ledger hkeeps (l := .free)
    ⟨fun _ => .free, fun _ => ⟨⟨le_refl 0, rfl⟩, Or.inl rfl⟩, rfl⟩ calls hroom
  rw [ReleasedOnce, ← (hl k).shows.holding_eq]
  exact hledger

end Runs

/-- As long as the client can release what it gives and no count is at its limit, the locks are
accounted for. -/
theorem locks_accounted (client : PerfClient)
    (hrel : client.perfHint = true → client.perfLockRel = true) (calls : List Call)
    (hroom : Along (fun handles c => (powerHint client HINT_NONE handles c).1) Room powerInit
      calls) : Accounting client calls := by
  refine ⟨?_, fun k => releasedOnce_of_room hrel k hroom⟩
  exact along_mono (Leased client) (fun handles c h hc => h.step hrel hc)
    (fun handles c h hc => h.accounted hrel hc) (powerInit_leased client) calls hroom

def five : CInt := ⟨5, by decide⟩

/-- Sustained performance is asked for, and the client would answer 5. -/
def sustain : Call := ⟨POWER_HINT_SUSTAINED_PERFORMANCE, true, five⟩

def unsustain : Call := ⟨POWER_HINT_SUSTAINED_PERFORMANCE, false, 0⟩

theorem locks_accounted_twice :
    Accounting ⟨true, true, true⟩ [sustain, sustain, unsustain, unsustain] := by
  refine locks_accounted ⟨true, true, true⟩ (fun _ => rfl) _ ⟨?_, ?_, ?_, ?_, trivial⟩
  · exact fun _ => by decide
  · exact fun _ _ => by decide
  · exact fun h => absurd h Bool.false_ne_true
  · exact fun h => absurd h Bool.false_ne_true

theorem sustained (n : ℕ) (hn : n < 2147483648) :
    (List.replicate (n + 1) sustain).foldl
        (fun handles c => (powerHint ⟨true, true, true⟩ HINT_NONE handles c).1) powerInit =
      Function.update powerInit sustain.hint ⟨five, CInt.wrap (n + 1)⟩ := by
  induction n with
  | zero => rfl
  | succ n ih =>
    have hcount : (CInt.wrap ((n : ℤ) + 1)).1 = n + 1 :=
      HintHandles.wrap_small (by omega) (by omega)
    have hbusy : ¬ (CInt.wrap ((n : ℤ) + 1)).1 = 0 := by
      rw [hcount]
      omega
    have hjoin : (HintHandles.enable ⟨true, true, true⟩ sustain.hint sustain.answer
        ⟨five, CInt.wrap (n + 1)⟩).1 = ⟨five, CInt.wrap (n + 1 + 1)⟩ := by
      rw [HintHandles.enable, if_neg hbusy]
      dsimp only
      rw [if_pos (by decide), hcount]
    rw [List.replicate_succ', List.foldl_append, ih (by omega), List.foldl_cons, List.foldl_nil]
    have hother : ¬ HINT_NONE = HINT_HANDLED := by decide
    have hhint : sustain.hint = POWER_HINT_SUSTAINED_PERFORMANCE ∨
        sustain.hint = POWER_HINT_VIDEO_ENCODE := Or.inl rfl
    have hdata : sustain.data = true := rfl
    rw [powerHint, if_neg hother, if_pos hhint, if_pos hdata]
    dsimp only
    rw [Function.update_self, hjoin, Function.update_idem]
    push_cast
    rfl

theorem overflows {n : ℕ} (hn : n = 2147483647) :
    ¬ Accounting ⟨true, true, true⟩ (List.replicate (n + 1) sustain) := by
  intro h
  have hstates := sustained n (by omega)
  rw [List.replicate_succ', List.foldl_append, List.foldl_cons, List.foldl_nil] at hstates
  have hlast := (along_iff_split _ _).mp h.1 (List.replicate n sustain) sustain []
    List.replicate_succ'
  have hnonneg := hlast.nonneg sustain.hint
  rw [hstates, Function.update_self, hn] at hnonneg
  exact absurd hnonneg (by decide)

/-- The count of `2^31` callers is negative, and without `perf_lock_rel` nothing is released. -/
theorem locks_unaccounted :
    ¬ Accounting ⟨true, true, true⟩ (List.replicate 2147483648 sustain) ∧
      ¬ Accounting ⟨true, false, true⟩ [sustain, unsustain] := by
  constructor
  · exact overflows (n := 2147483647) rfl
  · intro h
    have hledger := h.2 POWER_HINT_SUSTAINED_PERFORMANCE
    rw [ReleasedOnce] at hledger
    exact absurd hledger (by decide)

end Cedric.Power
