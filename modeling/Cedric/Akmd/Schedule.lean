import Cedric.Akmd.Measure
import Mathlib.Data.Int.Notation
import Mathlib.Tactic.SplitIfs

/-!
# When the offset is estimated

After a change of the formation the estimation rests for a while; after an estimation it waits
until so many measurements were delivered as the decimator says. `Waiting` counts both, and
every call counts one down.
-/

namespace Cedric.Akmd

variable {k : ℕ} {H : Type}

/-- `s_interval` of `misc.c`: nanoseconds, and the decimator at this interval. -/
def sInterval : List (ℤ × Int16) :=
  [(10000000, 10), (16666667, 6), (20000000, 5), (25000000, 4), (40000000, 3), (50000000, 2),
    (66667000, 2), (100000000, 1), (125000000, 1), (200000000, 1), (1000000000, 1)]

/-- The loop of `GetHDOEDecimator`, which leaves the last entry where none is long enough. -/
def getHDOEDecimatorFrom (org : ℤ) : ℤ × Int16 → List (ℤ × Int16) → ℤ × Int16
  | last, [] => last
  | _, e :: es => if org ≤ e.1 then e else getHDOEDecimatorFrom org e es

def getHDOEDecimator (time : ℤ) : ℤ × Int16 := getHDOEDecimatorFrom time (time, 1) sInterval

theorem getHDOEDecimatorFrom_mem (org : ℤ) (last : ℤ × Int16) (es : List (ℤ × Int16)) :
    getHDOEDecimatorFrom org last es = last ∨ getHDOEDecimatorFrom org last es ∈ es := by
  induction es generalizing last with
  | nil => exact Or.inl rfl
  | cons e es ih =>
    rw [getHDOEDecimatorFrom]
    split_ifs
    · exact Or.inr List.mem_cons_self
    · rcases ih e with h | h
      · rw [h]
        exact Or.inr List.mem_cons_self
      · exact Or.inr (List.mem_cons_of_mem e h)

theorem getHDOEDecimator_pos (time : ℤ) : 1 ≤ (getHDOEDecimator time).2 := by
  have hall : ∀ e ∈ sInterval, 1 ≤ e.2 := by decide
  rcases getHDOEDecimatorFrom_mem time (time, 1) sInterval with h | h
  · rw [getHDOEDecimator, h]
    exact Int16.le_refl 1
  · exact hall _ h

def Delivered (r : Measured k H) : Prop :=
  r.ret = AKRET_PROC_SUCCEED ∨ r.ret = AKRET_VNORM_ERROR

instance (r : Measured k H) : Decidable (Delivered r) :=
  inferInstanceAs (Decidable (r.ret = AKRET_PROC_SUCCEED ∨ r.ret = AKRET_VNORM_ERROR))

def Changed (r : Measured k H) : Prop := r.ret = AKRET_FORMATION_CHANGED

instance (r : Measured k H) : Decidable (Changed r) :=
  inferInstanceAs (Decidable (r.ret = AKRET_FORMATION_CHANGED))

structure SameCounts (p q : AKSCPRMS k H) : Prop where
  suspend : p.mCntSuspend = q.mCntSuspend
  call : p.mCallcnt = q.mCallcnt

def Accepting (lib : AKSC H) : Prop :=
  ∀ hdoev hdata hn ho hdst,
    (lib.hdoeProcessS3 hdoev hdata hn ho hdst).hdSucc ≠ AKSC_CERTIFICATION_DENIED

variable {lib : AKSC H}

theorem normalize_delivered (ave : Int16vec) (p : AKSCPRMS k H) (s : Option (Estimation k)) :
    Delivered (⟨(normalize lib ave p).1, (normalize lib ave p).2, s⟩ : Measured k H) := by
  rw [normalize]
  split_ifs
  · exact Or.inr rfl
  · exact Or.inl rfl

variable (lib) in
theorem normalize_counts (ave : Int16vec) (p : AKSCPRMS k H) :
    SameCounts (normalize lib ave p).2 p := by
  rw [normalize]
  split_ifs
  · exact ⟨rfl, rfl⟩
  · exact ⟨rfl, rfl⟩

variable (lib) in
theorem unsolveUnlessSuspended_counts (p : AKSCPRMS k H) :
    SameCounts (unsolveUnlessSuspended lib p) p := by
  rw [unsolveUnlessSuspended]
  split_ifs
  · exact ⟨rfl, rfl⟩
  · exact ⟨rfl, rfl⟩

theorem failed_of_ret {r : Measured k H} (ret : UInt16) (h : r.ret = ret)
    (hret : ret ≠ AKRET_FORMATION_CHANGED ∧ ret ≠ AKRET_PROC_SUCCEED ∧ ret ≠ AKRET_VNORM_ERROR) :
    ¬ Changed r ∧ ¬ Delivered r := by
  rw [Changed, Delivered, h, not_or]
  exact hret

/-- What a call does to the counters, told from its result. `p` is the state behind
`countSuspend`. -/
inductive Counted (p : AKSCPRMS k H) (c : Call k) (r : Measured k H) : Prop where
  | changed (hret : Changed r) (hnone : r.estimation = none)
      (hsuspend : r.prms.mCntSuspend = CSPEC_CNTSUSPEND_SNG) (hcall : r.prms.mCallcnt = 0)
  | failed (hret : ¬ Changed r ∧ ¬ Delivered r) (hnone : r.estimation = none)
      (hcounts : SameCounts r.prms p)
  | rested (hret : Delivered r) (hnone : r.estimation = none) (hsuspend : 0 < p.mCntSuspend)
      (hcounts : SameCounts r.prms p)
  | early (hret : Delivered r) (hnone : r.estimation = none) (hsuspend : p.mCntSuspend ≤ 0)
      (hdue : 0 < p.mCallcnt - 1) (hcounts : r.prms.mCntSuspend = p.mCntSuspend)
      (hcall : r.prms.mCallcnt = p.mCallcnt - 1)
  | estimated (hret : Delivered r) (hsome : r.estimation.isSome) (hsuspend : p.mCntSuspend ≤ 0)
      (hdue : p.mCallcnt - 1 ≤ 0) (hcounts : r.prms.mCntSuspend = p.mCntSuspend)
      (hcall : r.prms.mCallcnt = c.hDecimator)

theorem counted_estimateOffset (haccept : Accepting lib) (ave : Int16vec) {p q : AKSCPRMS k H}
    {c : Call k} (hsuspend : p.mCntSuspend ≤ 0) (hdue : p.mCallcnt - 1 ≤ 0)
    (hq : q.mCntSuspend = p.mCntSuspend) :
    Counted p c (estimateOffset lib ave q c.hDecimator) := by
  have hdenied := haccept q.mHdoev q.mHdata q.mHn q.mHo q.mHdst
  have hcounts : ∀ q : AKSCPRMS k H, SameCounts (normalize lib ave q).2 q :=
    normalize_counts lib ave
  simp only [estimateOffset, if_neg hdenied]
  split_ifs
  · refine Counted.estimated (normalize_delivered ave _ _) rfl hsuspend hdue ?_ ?_
    · exact (hcounts _).suspend.trans hq
    · exact (hcounts _).call
  · refine Counted.estimated (normalize_delivered ave _ _) rfl hsuspend hdue ?_ ?_
    · exact (hcounts _).suspend.trans hq
    · exact (hcounts _).call

theorem counted_trackOffset (haccept : Accepting lib) (ave : Int16vec) (p : AKSCPRMS k H)
    (c : Call k) : Counted p c (trackOffset lib ave p c.hDecimator) := by
  simp only [trackOffset]
  split_ifs with hsuspend hfluc hdue
  · exact Counted.failed (failed_of_ret AKRET_HFLUC_OCCURRED rfl (by decide)) rfl ⟨rfl, rfl⟩
  · exact counted_estimateOffset haccept ave hsuspend hdue rfl
  · have hcounts : ∀ q : AKSCPRMS k H, SameCounts (normalize lib ave q).2 q :=
      normalize_counts lib ave
    refine Counted.early (normalize_delivered ave _ _) rfl hsuspend (Int16.not_le.mp hdue) ?_ ?_
    · exact (hcounts _).suspend
    · exact (hcounts _).call
  · exact Counted.rested (normalize_delivered ave _ _) rfl (Int16.not_le.mp hsuspend)
      (normalize_counts lib ave p)

theorem translate_failed (preHbase : Int32vec) (p : AKSCPRMS k H) :
    ¬ Changed (translate lib preHbase p) ∧ ¬ Delivered (translate lib preHbase p) := by
  by_cases hover : (lib.transByHbase preHbase p.mHbase p.mHo p.mHo32).overflow = 1
  · have hret : (translate lib preHbase p).ret = AKRET_OFFSET_OVERFLOW ||| AKRET_HBASE_CHANGED := by
      simp only [translate, if_pos hover]
    exact failed_of_ret _ hret (by decide)
  · have hret : (translate lib preHbase p).ret = 0 ||| AKRET_HBASE_CHANGED := by
      simp only [translate, if_neg hover]
    exact failed_of_ret _ hret (by decide)

theorem Counted.congr {p q : AKSCPRMS k H} {c : Call k} {r : Measured k H} (h : Counted q c r)
    (hpq : SameCounts q p) : Counted p c r := by
  obtain ⟨hsuspend, hcall⟩ := hpq
  cases h with
  | changed hret hnone hs hc => exact changed hret hnone hs hc
  | failed hret hnone hs =>
    exact failed hret hnone ⟨hs.suspend.trans hsuspend, hs.call.trans hcall⟩
  | rested hret hnone h hs =>
    exact rested hret hnone (hsuspend ▸ h) ⟨hs.suspend.trans hsuspend, hs.call.trans hcall⟩
  | early hret hnone h hdue hs hc =>
    exact early hret hnone (hsuspend ▸ h) (hcall ▸ hdue) (hs.trans hsuspend) (hcall ▸ hc)
  | estimated hret hsome h hdue hs hc =>
    exact estimated hret hsome (hsuspend ▸ h) (hcall ▸ hdue) (hs.trans hsuspend) hc

theorem counted_getMagneticVector (haccept : Accepting lib) (p : AKSCPRMS k H) (c : Call k) :
    Counted (countSuspend lib p) c (getMagneticVector lib p c) := by
  simp only [getMagneticVector]
  split_ifs with hret hform hderr hhofl hcb
  · exact Counted.failed (failed_of_ret AKRET_PROC_FAIL rfl (by decide)) rfl ⟨rfl, rfl⟩
  · exact Counted.changed rfl rfl rfl rfl
  · exact Counted.failed (failed_of_ret AKRET_DATA_READERROR rfl (by decide)) rfl ⟨rfl, rfl⟩
  · have hcounts := @unsolveUnlessSuspended_counts k H lib
    exact Counted.failed (failed_of_ret AKRET_DATA_OVERFLOW rfl (by decide)) rfl
      ⟨(hcounts _).suspend, (hcounts _).call⟩
  · have hcounts := @unsolveUnlessSuspended_counts k H lib
    exact Counted.failed (translate_failed _ _) rfl ⟨(hcounts _).suspend, (hcounts _).call⟩
  · exact (counted_trackOffset haccept _ _ c).congr ⟨rfl, rfl⟩

theorem toInt_pred {x : Int16} (h : 0 ≤ x.toInt) : (x - 1).toInt = x.toInt - 1 := by
  have hx := Int16.toInt_lt x
  rw [Int16.toInt_sub]
  exact Int.bmod_eq_of_le (by change -32768 ≤ x.toInt - 1; omega)
    (by change x.toInt - 1 < 32768; omega)

/-- The estimation rests for `n` more calls, and then waits for `m - 1` measurements to be
delivered. -/
structure Waiting (p : AKSCPRMS k H) (n m : ℕ) : Prop where
  suspend : p.mCntSuspend.toInt = n + 1 ∨ n = 0 ∧ p.mCntSuspend.toInt ≤ 0
  call : p.mCallcnt.toInt = m
  rest : 0 < n → m = 0

variable {p q : AKSCPRMS k H} {c : Call k} {n m : ℕ}

variable (lib) in
theorem countSuspend_call (p : AKSCPRMS k H) : (countSuspend lib p).mCallcnt = p.mCallcnt := by
  rw [countSuspend]
  split_ifs
  · rfl
  · rfl
  · rfl

theorem countSuspend_of_pos (h : 0 < p.mCntSuspend.toInt) :
    (countSuspend lib p).mCntSuspend.toInt = p.mCntSuspend.toInt - 1 := by
  have hpos : 0 < p.mCntSuspend := Int16.lt_iff_toInt_lt.mpr h
  rw [countSuspend, if_pos hpos]
  split_ifs
  · exact toInt_pred (Int.le_of_lt h)
  · exact toInt_pred (Int.le_of_lt h)

theorem countSuspend_of_nonpos (h : p.mCntSuspend.toInt ≤ 0) : countSuspend lib p = p :=
  if_neg fun hpos => absurd (Int16.lt_iff_toInt_lt.mp hpos) (Int.not_lt.mpr h)

variable (lib) in
theorem Waiting.suspended (h : Waiting p n m) :
    (countSuspend lib p).mCntSuspend.toInt ≤ n ∧
      (0 < n ↔ 0 < (countSuspend lib p).mCntSuspend) := by
  rw [Int16.lt_iff_toInt_lt, Int16.toInt_zero]
  obtain hn | ⟨hn, hnonpos⟩ := h.suspend
  · rw [countSuspend_of_pos (by omega), hn]
    omega
  · rw [countSuspend_of_nonpos hnonpos]
    omega

theorem Waiting.suspend_next (h : Waiting p n m)
    (hq : q.mCntSuspend = (countSuspend lib p).mCntSuspend) :
    q.mCntSuspend.toInt = (n - 1 : ℕ) + 1 ∨ n - 1 = 0 ∧ q.mCntSuspend.toInt ≤ 0 := by
  rw [hq]
  obtain hn | ⟨hn, hnonpos⟩ := h.suspend
  · rw [countSuspend_of_pos (by omega), hn]
    omega
  · rw [countSuspend_of_nonpos hnonpos]
    omega

theorem Waiting.estimates_iff (haccept : Accepting lib) (h : Waiting p n m) (c : Call k) :
    (getMagneticVector lib p c).estimation.isSome ↔
      Delivered (getMagneticVector lib p c) ∧ n = 0 ∧ m ≤ 1 := by
  have hn := (h.suspended lib).2
  have hm : (countSuspend lib p).mCallcnt.toInt = m := by rw [countSuspend_call, h.call]
  have hpred := toInt_pred (x := (countSuspend lib p).mCallcnt) (by omega)
  cases counted_getMagneticVector haccept p c with
  | changed hret hnone =>
    rw [hnone]
    refine iff_of_false Bool.false_ne_true ?_
    rintro ⟨hdelivered, -⟩
    rw [Delivered, show _ = AKRET_FORMATION_CHANGED from hret] at hdelivered
    exact absurd hdelivered (by decide)
  | failed hret hnone =>
    rw [hnone]
    exact iff_of_false Bool.false_ne_true fun hd => hret.2 hd.1
  | rested hret hnone hsuspend =>
    rw [hnone]
    have hpos := hn.mpr hsuspend
    exact iff_of_false Bool.false_ne_true fun hd => by omega
  | early hret hnone hsuspend hdue =>
    rw [hnone]
    rw [Int16.lt_iff_toInt_lt, hpred, hm, Int16.toInt_zero] at hdue
    exact iff_of_false Bool.false_ne_true fun hd => by omega
  | estimated hret hsome hsuspend hdue =>
    rw [Int16.le_iff_toInt_le, hpred, hm, Int16.toInt_zero] at hdue
    have hzero : ¬ 0 < n := fun hpos => Int16.not_le.mpr (hn.mp hpos) hsuspend
    exact iff_of_true hsome ⟨hret, by omega, by omega⟩

theorem Waiting.next (haccept : Accepting lib) (h : Waiting p n m)
    (hsame : ¬ Changed (getMagneticVector lib p c))
    (hnone : (getMagneticVector lib p c).estimation = none) :
    Waiting (getMagneticVector lib p c).prms (n - 1)
      (if Delivered (getMagneticVector lib p c) then m - 1 else m) := by
  have hn := (h.suspended lib).2
  have hcall := countSuspend_call lib p
  have hrest : 0 < n - 1 → m = 0 := fun hpos => h.rest (by omega)
  cases counted_getMagneticVector haccept p c with
  | changed hret => exact absurd hret hsame
  | failed hret _ hcounts =>
    rw [if_neg hret.2]
    exact ⟨h.suspend_next hcounts.suspend, by rw [hcounts.call, hcall, h.call], hrest⟩
  | rested hret _ hsuspend hcounts =>
    have hm := h.rest (hn.mpr hsuspend)
    rw [if_pos hret, hm]
    refine ⟨h.suspend_next hcounts.suspend, ?_, fun _ => rfl⟩
    rw [hcounts.call, hcall, h.call, hm]
  | early hret _ hsuspend hdue hcounts hnext =>
    rw [if_pos hret]
    have hpred := toInt_pred (x := p.mCallcnt) (by rw [h.call]; omega)
    rw [hcall, Int16.lt_iff_toInt_lt, hpred, h.call, Int16.toInt_zero] at hdue
    refine ⟨h.suspend_next hcounts, ?_, fun hpos => ?_⟩
    · rw [hnext, hcall, hpred, h.call]
      omega
    · have := hrest hpos
      omega
  | estimated _ hsome =>
    rw [hnone] at hsome
    exact absurd hsome Bool.false_ne_true

def results (lib : AKSC H) : AKSCPRMS k H → List (Call k) → List (Measured k H)
  | _, [] => []
  | p, c :: cs => getMagneticVector lib p c :: results lib (getMagneticVector lib p c).prms cs

def afterCalls (lib : AKSC H) (p : AKSCPRMS k H) (cs : List (Call k)) : AKSCPRMS k H :=
  cs.foldl (fun p c => (getMagneticVector lib p c).prms) p

theorem Waiting.afterCalls (haccept : Accepting lib) (h : Waiting p n m) (cs : List (Call k))
    (hquiet : ∀ r ∈ results lib p cs, ¬ Changed r ∧ r.estimation = none) :
    Waiting (afterCalls lib p cs) (n - cs.length)
      (m - (results lib p cs).countP (Delivered ·)) := by
  induction cs generalizing p n m with
  | nil => exact h
  | cons c cs ih =>
    obtain ⟨hsame, hnone⟩ := hquiet _ List.mem_cons_self
    have hnext := ih (h.next haccept hsame hnone) fun r hr => hquiet r (List.mem_cons_of_mem _ hr)
    rw [results, List.countP_cons, List.length_cons]
    split_ifs at hnext with hdelivered
    · rw [if_pos (decide_eq_true hdelivered)]
      rw [Nat.sub_sub, Nat.sub_sub] at hnext
      rwa [Nat.add_comm cs.length, Nat.add_comm (List.countP _ _)]
    · rw [if_neg (by rwa [decide_eq_true_eq])]
      rw [Nat.sub_sub] at hnext
      rwa [Nat.add_comm cs.length]

/-- What the next estimation is counted from: so many calls it rests, and with the last of so
many measurements delivered it is due. -/
inductive CountedFrom (lib : AKSC H) : AKSCPRMS k H → ℕ → ℕ → Prop where
  | started (p : AKSCPRMS k H) (form : Form k) : CountedFrom lib (initMeasure lib p form) 0 0
  | changed (p : AKSCPRMS k H) (c : Call k) (hret : Changed (getMagneticVector lib p c)) :
    CountedFrom lib (getMagneticVector lib p c).prms 7 0
  | estimated (p : AKSCPRMS k H) (c : Call k) (hd : 1 ≤ c.hDecimator)
      (hsome : (getMagneticVector lib p c).estimation.isSome) :
    CountedFrom lib (getMagneticVector lib p c).prms 0 c.hDecimator.toInt.toNat

theorem CountedFrom.waiting (haccept : Accepting lib) (h : CountedFrom lib p n m) :
    Waiting p n m := by
  cases h with
  | started p form => exact ⟨Or.inr ⟨rfl, Int.le_refl 0⟩, rfl, fun _ => rfl⟩
  | changed p c hret =>
    cases counted_getMagneticVector haccept p c with
    | changed _ _ hsuspend hcall =>
      exact ⟨Or.inl (by rw [hsuspend]; rfl), by rw [hcall]; rfl, fun _ => rfl⟩
    | failed h => exact absurd hret h.1
    | rested h | early h | estimated h =>
      rw [Delivered, show _ = AKRET_FORMATION_CHANGED from hret] at h
      exact absurd h (by decide)
  | estimated p c hd hsome =>
    cases counted_getMagneticVector haccept p c with
    | changed _ hnone | failed _ hnone | rested _ hnone | early _ hnone =>
      rw [hnone] at hsome
      exact absurd hsome Bool.false_ne_true
    | estimated _ _ hsuspend _ hcounts hcall =>
      rw [Int16.le_iff_toInt_le] at hd hsuspend
      have hone : (1 : Int16).toInt = 1 := rfl
      refine ⟨Or.inr ⟨rfl, by rw [hcounts]; exact hsuspend⟩, ?_, fun h => absurd h (by decide)⟩
      rw [hcall]
      omega

/-- Between a start, a change of the formation or an estimation and the next of these, a call
estimates the offset exactly if it delivers its vector, the rest after a change is over, and it
is the one that the decimator says. -/
theorem estimation_schedule (haccept : Accepting lib) (h : CountedFrom lib p n m)
    (cs : List (Call k)) (hquiet : ∀ r ∈ results lib p cs, ¬ Changed r ∧ r.estimation = none)
    (c : Call k) :
    let r := getMagneticVector lib (afterCalls lib p cs) c
    r.estimation.isSome ↔
      Delivered r ∧ n ≤ cs.length ∧ m ≤ (results lib p cs).countP (Delivered ·) + 1 := by
  have hafter := (h.waiting haccept).afterCalls haccept cs hquiet
  have hiff := hafter.estimates_iff haccept c
  rwa [Nat.sub_eq_zero_iff_le, Nat.sub_le_iff_le_add'] at hiff

theorem accepting_restingLibrary : Accepting restingLibrary := by
  intro _ _ _ _ _
  change (1 : Int16) ≠ AKSC_CERTIFICATION_DENIED
  decide

def restingPrms : AKSCPRMS 0 Unit :=
  initMeasure restingLibrary (initAKSCPRMS () 0 none .pat1) (.default 0)

def restingCall : Call 0 := ⟨[], .default 0, (getHDOEDecimator 20000000).2⟩

/-- Four more measurements follow an estimation before the next is due. -/
theorem resting_schedule :
    (getMagneticVector restingLibrary
      (afterCalls restingLibrary (getMagneticVector restingLibrary restingPrms restingCall).prms
        (List.replicate 4 restingCall)) restingCall).estimation.isSome :=
  (estimation_schedule accepting_restingLibrary
    (CountedFrom.estimated restingPrms restingCall (getHDOEDecimator_pos 20000000) (by decide))
    (List.replicate 4 restingCall) (by decide) restingCall).mpr (by decide)

end Cedric.Akmd
