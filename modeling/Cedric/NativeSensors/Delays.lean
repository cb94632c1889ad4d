import Cedric.NativeSensors.DrivenSensors

/-!
# The delay of a hardware sensor

`Requests` is what the callers asked for: which sensors are enabled, in the order in which
they became so, and the delay of each. The manager keeps exactly these (`refines_next`), and
the attribute of a hardware sensor holds the shortest delay among the enabled sensors that
need it. A delay of zero is left out, except that of the sensor enabled first.
-/

namespace Cedric.NativeSensors

open Hub PointwiseFold RunningMinimum Runs

variable {n : ℕ} {F : Type} {B : Board n} {K : Kernel n}

def toMs (ns : ℤ) : ℤ := SensorBase.toInt (ns.tdiv 1000000)

/-- `setDelay` of the driver can change the attribute. -/
def Kernel.TakesDelay (K : Kernel n) (B : Board n) (i : Fin n) : Prop :=
  K.loopback (B.sensor i).type.delayLoopback = false ∧ K.access i .SYSFS_POLL_DELAY = .written

/-- Every delay that the step sets reaches the hardware. -/
def Step.SetsDelays (B : Board n) : Step n → Prop
  | .activate K _ _ | .setDelay K _ _ | .batch K _ _ _ => ∀ i, K.TakesDelay B i
  | _ => True

structure Requests (n : ℕ) where
  order : List (Fin n)
  delayNs : Fin n → ℤ

namespace Requests

def start : Requests n := ⟨[], fun _ => 0⟩

def activate (r : Requests n) (s : Fin n) (enabled : ℤ) : Requests n :=
  { r with order := Manager.listenersAfter s enabled r.order }

def setDelay (r : Requests n) (s : Fin n) (ns : ℤ) : Requests n :=
  { r with delayNs := Function.update r.delayNs s ns }

def step (B : Board n) (r : Requests n) : Step n → Requests n
  | .activate _ handle enabled =>
    match getInfoByHandle n handle with
    | none => r
    | some s => r.activate s enabled
  | .setDelay _ handle ns =>
    match getInfoByHandle n handle with
    | none => r
    | some s =>
      if ns = 0 then r
      else r.setDelay s (max ns (SensorBase.toInt ((B.sensor s).minDelay * 1000)))
  | .batch _ handle sampleNs latencyNs =>
    match getInfoByHandle n handle with
    | none => r
    | some s =>
      if SensorBase.toInt latencyNs ≠ 0 ∧ SensorBase.toInt latencyNs < SensorBase.toInt sampleNs
      then r
      else r.setDelay s (SensorBase.toInt sampleNs)
  | _ => r

def needing (B : Board n) (r : Requests n) (hw : Fin n) : List (Fin n) :=
  r.order.filter fun s => B.needs s hw

end Requests

def shortest (delayNs : Fin n → ℤ) : List (Fin n) → Option ℤ
  | [] => none
  | first :: rest =>
    some (scan (fun s => delayNs s ≠ 0) delayNs delayNs (delayNs first) (first :: rest))

def resynced (delayNs : Fin n → ℤ) (listener : List (Fin n)) (pollDelay : Option ℤ) :
    Option ℤ :=
  match shortest delayNs listener with
  | none => pollDelay
  | some d => some (toMs d)

theorem resynced_nil (delayNs : Fin n → ℤ) (pollDelay : Option ℤ) :
    resynced delayNs [] pollDelay = pollDelay := rfl

theorem listenersAfter_filter (s : Fin n) (enabled : ℤ) (order : List (Fin n)) (p : Fin n → Bool) :
    (Manager.listenersAfter s enabled order).filter p =
      if p s then Manager.listenersAfter s enabled (order.filter p) else order.filter p := by
  rw [Manager.listenersAfter]
  by_cases henabled : enabled ≠ 0
  · by_cases hs : s ∈ order
    · by_cases hp : p s <;> simp [Manager.listenersAfter, henabled, hs, hp]
    · by_cases hp : p s <;> simp [Manager.listenersAfter, henabled, hs, hp]
  · rw [if_neg henabled, ← List.erase_filter, Manager.listenersAfter, if_neg henabled]
    split_ifs with hp
    · rfl
    · exact List.erase_of_not_mem fun hs => hp (List.mem_filter.mp hs).2

theorem shortest_congr {delayNs delayNs' : Fin n → ℤ} {l : List (Fin n)}
    (h : ∀ s ∈ l, delayNs' s = delayNs s) : shortest delayNs' l = shortest delayNs l := by
  cases l with
  | nil => rfl
  | cons first rest =>
    have hscan : ∀ (l : List (Fin n)) (x : ℤ), (∀ s ∈ l, delayNs' s = delayNs s) →
        scan (fun s => delayNs' s ≠ 0) delayNs' delayNs' x l =
          scan (fun s => delayNs s ≠ 0) delayNs delayNs x l := by
      intro l
      induction l with
      | nil => exact fun x _ => rfl
      | cons s l ih =>
        intro x hl
        rw [scan_cons, scan_cons, hl s List.mem_cons_self,
          ih _ fun s' hs' => hl s' (List.mem_cons_of_mem s hs')]
    rw [shortest, shortest, h first List.mem_cons_self, hscan _ _ h]

namespace Manager

variable {m m' : Manager n F} {i j : Fin n}

def delays (m : Manager n F) (s : Fin n) : ℤ := (m s).delayNs

def pollDelay (m : Manager n F) (i : Fin n) : Option ℤ := (m i).driver.attributes.pollDelay

theorem syncDelay_pollDelay (h : K.TakesDelay B i) :
    (m.syncDelay B K i).pollDelay i = resynced m.delays (m i).listener (m.pollDelay i) := by
  rcases syncDelay_cases (B := B) (K := K) m i with ⟨hnone, hsame⟩ | ⟨first, rest, hsome, hset⟩
  · rw [hsame, hnone]
    rfl
  · rw [hset, hsome, pollDelay, withDriver_self, SensorBase.setDelay, if_neg (by simp [h.1]),
      if_pos h.2]
    rfl

@[simp] theorem syncLatency_pollDelay : (m.syncLatency B K i).pollDelay j = m.pollDelay j := by
  rcases syncLatency_cases (B := B) (K := K) m i with hsame | ⟨ns, hset⟩
  · rw [hsame]
  · rw [hset]
    rcases eq_or_ne j i with rfl | hne
    · rw [pollDelay, withDriver_self, SensorBase.setLatency_pollDelay]
      rfl
    · rw [pollDelay, withDriver_of_ne hne]
      rfl

@[simp] theorem driverEnable_pollDelay (flags : Bool) :
    (m.driverEnable B K i flags).pollDelay j = m.pollDelay j := by
  rw [driverEnable_eq]
  rcases eq_or_ne j i with rfl | hne
  · rw [pollDelay, withDriver_self, SensorBase.enable_pollDelay]
    rfl
  · rw [pollDelay, withDriver_of_ne hne]
    rfl

def programmed (m : Manager n F) (i : Fin n) : List (Fin n) × Option ℤ :=
  ((m i).listener, m.pollDelay i)

theorem register_delays (s : Fin n) : (m.registerListener i s).delays = m.delays := by
  funext j
  rcases eq_or_ne j i with rfl | hne
  · simp only [delays, registerListener_self]
  · simp only [delays, registerListener_of_ne hne]

theorem unregister_delays (s : Fin n) : (m.unregisterListener i s).delays = m.delays := by
  funext j
  rcases eq_or_ne j i with rfl | hne
  · simp only [delays, unregisterListener_self]
  · simp only [delays, unregisterListener_of_ne hne]

theorem activateDep_programmed (h : K.TakesDelay B i) (s : Fin n) (enabled : ℤ) :
    (m.activateDep B K s enabled i).programmed i =
      (listenersAfter s enabled (m i).listener,
        resynced m.delays (listenersAfter s enabled (m i).listener) (m.pollDelay i)) := by
  have hlistener := congrArg Prod.fst
    (activateDep_driven (B := B) (K := K) (m := m) (i := i) s enabled)
  refine Prod.ext hlistener ?_
  simp only [programmed, activateDep]
  by_cases henabled : enabled ≠ 0
  · rw [if_pos henabled, driverEnable_pollDelay, syncLatency_pollDelay, syncDelay_pollDelay h,
      register_delays, listenersAfter, if_pos henabled, pollDelay, registerListener_self]
    rfl
  · have hkept (m : Manager n F) :
        (if (m i).listener = [] then m.driverEnable B K i false else m).pollDelay i =
          m.pollDelay i := by
      split_ifs
      · exact driverEnable_pollDelay false
      · rfl
    rw [if_neg henabled, hkept, listenersAfter, if_neg henabled]
    by_cases hnone : (m i).listener = []
    · rw [if_neg (not_not.mpr hnone), hnone, List.erase_nil, resynced_nil]
    · rw [if_pos hnone, syncLatency_pollDelay, syncDelay_pollDelay h, unregister_delays, pollDelay,
        unregisterListener_self]
      rfl

theorem sync_pointwise (h : ∀ i, K.TakesDelay B i) (D : Fin n → ℤ) :
    Pointwise (fun m : Manager n F => m.delays = D) (fun m i => m.syncDelay B K i) programmed
      (fun _ c => (c.1, resynced D c.1 c.2)) where
  keeps m i hm := by
    rw [← hm]
    exact funext (sameBooks_syncDelay m i).delayNs
  own m i hm := by
    rw [← hm]
    exact Prod.ext ((sameBooks_syncDelay m i).listener i) (syncDelay_pollDelay (h i))
  other m i j _ hne := by simp only [programmed, pollDelay, syncDelay_of_ne hne]

theorem syncBoth_pointwise (h : ∀ i, K.TakesDelay B i) (D : Fin n → ℤ) :
    Pointwise (fun m : Manager n F => m.delays = D)
      (fun m i => (m.syncDelay B K i).syncLatency B K i) programmed
      (fun _ c => (c.1, resynced D c.1 c.2)) where
  keeps m i hm := by
    rw [← hm]
    exact funext ((sameBooks_syncDelay m i).trans (sameBooks_syncLatency _ i)).delayNs
  own m i hm := by
    rw [← hm]
    refine Prod.ext (((sameBooks_syncDelay m i).trans (sameBooks_syncLatency _ i)).listener i) ?_
    exact syncLatency_pollDelay.trans (syncDelay_pollDelay (h i))
  other m i j _ hne := by
    simp only [programmed, pollDelay, syncLatency_of_ne hne, syncDelay_of_ne hne]

theorem activate_pointwise (h : ∀ i, K.TakesDelay B i) (D : Fin n → ℤ) (s : Fin n) (enabled : ℤ) :
    Pointwise (fun m : Manager n F => m.delays = D) (fun m i => m.activateDep B K s enabled i)
      programmed (fun _ c => (listenersAfter s enabled c.1,
        resynced D (listenersAfter s enabled c.1) c.2)) where
  keeps m i hm := by
    rw [← hm]
    exact funext fun j => (activateDep_settings m s enabled i j).2
  own m i hm := by
    rw [← hm]
    exact activateDep_programmed (h i) s enabled
  other m i j _ hne := by simp only [programmed, pollDelay, activateDep_of_ne hne]

/-- The listeners and delays are those requested, and the hardware has the shortest delay. -/
structure Refines (B : Board n) (m : Manager n F) (r : Requests n) : Prop where
  listener : ∀ hw, (m hw).listener = r.needing B hw
  delays : m.delays = r.delayNs
  hardware : ∀ hw d, shortest r.delayNs (r.needing B hw) = some d →
    m.pollDelay hw = some (toMs d)

theorem Refines.calm {r : Requests n} (h : m.Refines B r) (hcalm : m.Calm m') :
    m'.Refines B r where
  listener hw := (hcalm.books.listener hw).trans (h.listener hw)
  delays := (funext hcalm.books.delayNs).trans h.delays
  hardware hw d hd := by
    rw [pollDelay, hcalm.attributes]
    exact h.hardware hw d hd

theorem resynced_of_shortest {delayNs : Fin n → ℤ} {l : List (Fin n)} {pollDelay : Option ℤ}
    {d : ℤ} (h : shortest delayNs l = some d) :
    resynced delayNs l pollDelay = some (toMs d) := by
  rw [resynced, h]

theorem activateAll_programmed (h : ∀ i, K.TakesDelay B i) (m : Manager n F) (s : Fin n)
    (enabled : ℤ) (hw : Fin n) :
    (m.activateAll B K s enabled).programmed hw =
      if hw ∈ (B.sensor s).depList then
        (listenersAfter s enabled (m hw).listener,
          resynced m.delays (listenersAfter s enabled (m hw).listener) (m.pollDelay hw))
      else m.programmed hw := by
  have hdelays : (m.marked s enabled).delays = m.delays :=
    funext fun i => (m.marked_fields s enabled i).2.1
  have hfold := activate_pointwise (F := F) h m.delays s enabled
  have hmarked : (m.marked s enabled).programmed hw = m.programmed hw := by
    rcases eq_or_ne hw s with rfl | hne
    · simp only [programmed, pollDelay, marked, Function.update_self]
    · simp only [programmed, pollDelay, marked, Function.update_of_ne hne]
  by_cases hdep : hw ∈ (B.sensor s).depList
  · rw [if_pos hdep, activateAll, hfold.foldl_mem hdelays (B.nodup s) hdep, hmarked]
    rfl
  · rw [if_neg hdep, activateAll, hfold.foldl_not_mem hdelays hdep, hmarked]

theorem Refines.activate {r : Requests n} (h : m.Refines B r) (hK : ∀ i, K.TakesDelay B i)
    {handle : ℤ} {s : Fin n} (hs : getInfoByHandle n handle = some s) (enabled : ℤ) :
    (m.activate B K handle enabled).2.Refines B (r.activate s enabled) := by
  have hcall := m.activated (B := B) (K := K) hs enabled
  have hpoll (hw : Fin n) : (m.activate B K handle enabled).2.pollDelay hw =
      (m.activateAll B K s enabled).pollDelay hw := by
    rw [Manager.activate, hs]
    dsimp only
    split_ifs
    · exact driverEnable_pollDelay _
    · rfl
  have hneeding (hw : Fin n) : (r.activate s enabled).needing B hw =
      if hw ∈ (B.sensor s).depList then listenersAfter s enabled (m hw).listener
      else (m hw).listener := by
    rw [Requests.needing, Requests.activate, listenersAfter_filter, h.listener]
    simp only [Board.needs, decide_eq_true_iff]
    rfl
  refine ⟨fun hw => (hcall.listener hw).trans (hneeding hw).symm,
    (funext hcall.delayNs).trans h.delays, fun hw d hd => ?_⟩
  have hprogrammed := congrArg Prod.snd (activateAll_programmed hK m s enabled hw)
  rw [hneeding hw] at hd
  rw [hpoll hw]
  refine hprogrammed.trans ?_
  split_ifs at hd ⊢ with hdep
  · rw [h.delays]
    exact resynced_of_shortest hd
  · rw [h.listener] at hd
    exact h.hardware hw d hd

theorem Refines.setDelay {r : Requests n} (h : m.Refines B r) {s : Fin n} {c : SensorContext n F}
    (hlistener : c.listener = (m s).listener) (hdriver : c.driver = (m s).driver)
    {step : Manager n F → Fin n → Manager n F}
    (hstep : ∀ D : Fin n → ℤ, Pointwise (fun m : Manager n F => m.delays = D) step programmed
      (fun _ c => (c.1, resynced D c.1 c.2))) :
    ((B.sensor s).depList.foldl step (Function.update m s c)).Refines B
      (r.setDelay s c.delayNs) := by
  have hdelays : Manager.delays (Function.update m s c) =
      Function.update r.delayNs s c.delayNs := by
    rw [← h.delays]
    funext i
    rcases eq_or_ne i s with rfl | hne
    · simp only [Manager.delays, Function.update_self]
    · simp only [Manager.delays, Function.update_of_ne hne]
  have hsame (hw : Fin n) : programmed (Function.update m s c) hw = m.programmed hw := by
    rcases eq_or_ne hw s with rfl | hne
    · simp only [programmed, pollDelay, Function.update_self, hlistener, hdriver]
    · simp only [programmed, pollDelay, Function.update_of_ne hne]
  have hneeding (hw : Fin n) : (r.setDelay s c.delayNs).needing B hw = (m hw).listener :=
    (h.listener hw).symm
  have hfold := hstep (Function.update r.delayNs s c.delayNs)
  have hafter (hw : Fin n) :
      programmed ((B.sensor s).depList.foldl step (Function.update m s c)) hw =
        if hw ∈ (B.sensor s).depList then
          ((m hw).listener,
            resynced (Function.update r.delayNs s c.delayNs) (m hw).listener (m.pollDelay hw))
        else m.programmed hw := by
    by_cases hdep : hw ∈ (B.sensor s).depList
    · rw [if_pos hdep, hfold.foldl_mem hdelays (B.nodup s) hdep, hsame]
      rfl
    · rw [if_neg hdep, hfold.foldl_not_mem hdelays hdep, hsame]
  refine ⟨fun hw => ?_, hfold.foldl_keeps hdelays _, fun hw d hd => ?_⟩
  · rw [hneeding hw]
    refine (congrArg Prod.fst (hafter hw)).trans ?_
    split_ifs <;> rfl
  · rw [hneeding hw] at hd
    refine (congrArg Prod.snd (hafter hw)).trans ?_
    split_ifs with hdep
    · exact resynced_of_shortest hd
    · rw [h.listener] at hd
      refine h.hardware hw d ((shortest_congr fun x hx => ?_).symm.trans hd)
      have hne : x ≠ s := by
        rintro rfl
        exact hdep (of_decide_eq_true (List.mem_filter.mp hx).2)
      exact Function.update_of_ne hne ..

end Manager

theorem le_shortest_iff {delayNs : Fin n → ℤ} {first : Fin n} {rest : List (Fin n)} {d : ℤ}
    (h : shortest delayNs (first :: rest) = some d) (x : ℤ) :
    x ≤ d ↔ x ≤ delayNs first ∧ ∀ s ∈ first :: rest, delayNs s ≠ 0 → x ≤ delayNs s := by
  rw [← Option.some.inj h, le_scan_iff]
  simp only [decide_eq_true_iff]

namespace PollContext

open Manager

variable [FloatOps F] {w : PollContext n F} {r : Requests n}

theorem refines_next (h : w.manager.Refines B r) {t : Step n} (ht : t.SetsDelays B) :
    (w.next B t).manager.Refines B (r.step B t) := by
  cases t with
  | activate K handle enabled =>
    have hmanager : (w.next B (.activate K handle enabled)).manager =
        (w.manager.activate B K handle enabled).2 := by
      simp only [next, step, activate, writeWake]
      split_ifs <;> rfl
    rw [hmanager, Requests.step]
    cases hs : getInfoByHandle n handle with
    | some s => exact h.activate ht hs enabled
    | none =>
      rw [Manager.activate, hs]
      exact h
  | setDelay K handle ns =>
    change (w.manager.setDelay B K handle ns).2.Refines B _
    rw [Manager.setDelay, Requests.step]
    cases hs : getInfoByHandle n handle with
    | none => exact h
    | some s =>
      dsimp only
      by_cases hzero : ns = 0
      · rw [if_pos hzero, if_pos hzero]
        exact h
      · rw [if_neg hzero, if_neg hzero]
        generalize SensorBase.toInt ((B.sensor s).minDelay * 1000) = minDelay
        have hclamp : max ns minDelay = if ns < minDelay then minDelay else ns := by
          split_ifs with hlt
          · exact max_eq_right hlt.le
          · exact max_eq_left (not_lt.mp hlt)
        rw [hclamp]
        exact h.setDelay (s := s)
          (c := { w.manager s with delayNs := if ns < minDelay then minDelay else ns })
          rfl rfl (sync_pointwise ht)
  | batch K handle sampleNs latencyNs =>
    change (w.manager.batch B K handle _ _).2.Refines B _
    rw [Manager.batch, Requests.step]
    by_cases hrefused : SensorBase.toInt latencyNs ≠ 0 ∧
        SensorBase.toInt latencyNs < SensorBase.toInt sampleNs
    · rw [if_pos hrefused]
      cases hs : getInfoByHandle n handle with
      | none => exact h
      | some s =>
        dsimp only
        rw [if_pos hrefused]
        exact h
    · rw [if_neg hrefused]
      cases hs : getInfoByHandle n handle with
      | none => exact h
      | some s =>
        dsimp only
        rw [if_neg hrefused]
        exact h.setDelay (s := s)
          (c := { w.manager s with
            delayNs := SensorBase.toInt sampleNs, latencyNs := SensorBase.toInt latencyNs })
          rfl rfl (syncBoth_pointwise ht)
  | flush | arrive | fault | pollEvents | scan | poll | pollError =>
    exact h.calm (next_calm id w)

theorem refines_run {run : List (Step n)} (h : ∀ t ∈ run, t.SetsDelays B)
    (memory : Fin n → ℕ → InputEvent) (zero : F) :
    (run.foldl (next B) (start memory zero)).manager.Refines B
      (run.foldl (Requests.step B) .start) := by
  induction run using List.reverseRecOn with
  | nil => exact ⟨fun _ => rfl, rfl, nofun⟩
  | append_singleton run t ih =>
    rw [List.foldl_append, List.foldl_append]
    exact refines_next (ih fun u hu => h u (List.mem_append_left _ hu))
      (h t (List.mem_append_right _ List.mem_cons_self))

/-- While the sensor `hw` is needed, its attribute holds the shortest delay requested for it. -/
theorem pollDelay_shortest (memory : Fin n → ℕ → InputEvent) (zero : F) {run : List (Step n)}
    (h : ∀ t ∈ run, t.SetsDelays B) {hw first : Fin n} {rest : List (Fin n)}
    (hneeding : (run.foldl (Requests.step B) .start).needing B hw = first :: rest) :
    ∃ d, ((run.foldl (next B) (start memory zero)).manager hw).driver.attributes.pollDelay =
        some (toMs d) ∧
      ∀ x, x ≤ d ↔ x ≤ (run.foldl (Requests.step B) .start).delayNs first ∧
        ∀ s ∈ first :: rest, (run.foldl (Requests.step B) .start).delayNs s ≠ 0 →
          x ≤ (run.foldl (Requests.step B) .start).delayNs s := by
  have hrefines := refines_run h memory zero
  have hshortest : ∃ d, shortest (run.foldl (Requests.step B) .start).delayNs
      (first :: rest) = some d := ⟨_, rfl⟩
  obtain ⟨d, hd⟩ := hshortest
  exact ⟨d, hrefines.hardware hw d (hneeding ▸ hd), le_shortest_iff hd⟩

/-- A hardware sensor and one that needs it. -/
def pairBoard : Board 2 where
  sensor i := ⟨.SENSOR_TYPE_PROXIMITY, 10000, 0, i.val == 1, [⟨0, Nat.two_pos⟩]⟩
  nodup _ := List.nodup_singleton _
  hardware i hi := by
    rcases Fin.exists_fin_two.mp ⟨i, rfl⟩ with rfl | rfl
    · rfl
    · cases hi

def goodKernel : Kernel 2 := ⟨fun _ => false, fun _ _ => .written⟩

def pairRun : List (Step 2) :=
  [.batch goodKernel 1 200000000 0, .activate goodKernel 1 1, .setDelay goodKernel 2 5000000,
    .activate goodKernel 2 1, .scan]

theorem pairRun_sets : ∀ t ∈ pairRun, t.SetsDelays pairBoard := by
  intro t ht
  simp only [pairRun, List.mem_cons, List.not_mem_nil, or_false] at ht
  rcases ht with rfl | rfl | rfl | rfl | rfl
  · exact fun _ => ⟨rfl, rfl⟩
  · exact fun _ => ⟨rfl, rfl⟩
  · exact fun _ => ⟨rfl, rfl⟩
  · exact fun _ => ⟨rfl, rfl⟩
  · exact trivial

theorem pollDelay_pair : ∃ d,
    ((pairRun.foldl (next pairBoard) (start (fun _ _ => ⟨0, 0, 0⟩) (0 : ℚ))).manager 0
      ).driver.attributes.pollDelay = some (toMs d) ∧
    ∀ x, x ≤ d ↔ x ≤ (pairRun.foldl (Requests.step pairBoard) .start).delayNs 0 ∧
      ∀ s ∈ [0, 1], (pairRun.foldl (Requests.step pairBoard) .start).delayNs s ≠ 0 →
        x ≤ (pairRun.foldl (Requests.step pairBoard) .start).delayNs s :=
  pollDelay_shortest _ _ pairRun_sets rfl

end PollContext
end Cedric.NativeSensors
