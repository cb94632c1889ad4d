import Cedric.NativeSensors.DrivenSensors

/-!
# No lost wake-up

While the thread in `pollEvents` sleeps, no sensor has an event or a flush pending that its
reader would deliver, in whatever order the other threads came in between. The byte in the
wake pipe carries the invariant: a sensor that the scan has passed gets something to deliver
only by a call that writes one.
-/

namespace Cedric.NativeSensors

open Hub Runs

variable {n : ℕ} {F : Type} {B : Board n} {K : Kernel n}

namespace SensorBase

variable {d : SensorBase F} {p : Loopback} {i : Fin n}

@[simp] theorem setDelay_pending (ns : ℤ) :
    (d.setDelay p K i ns).hasPendingEvents = d.hasPendingEvents := by
  rw [setDelay]
  split_ifs <;> rfl

@[simp] theorem setLatency_pending (ns : ℤ) :
    (d.setLatency K i ns).hasPendingEvents = d.hasPendingEvents := by
  rw [setLatency]
  split_ifs <;> rfl

theorem disable_pending :
    (d.enable p K i false).hasPendingEvents = d.hasPendingEvents ∧
      ((d.enable p K i false).mEnabled = true → d.mEnabled = true) := by
  rw [enable, if_neg Bool.false_ne_true]
  split_ifs
  · exact ⟨rfl, fun h => absurd h id⟩
  · split
    · exact ⟨rfl, id⟩
    · exact ⟨rfl, fun h => absurd h Bool.false_ne_true⟩
    · exact ⟨rfl, fun h => absurd h Bool.false_ne_true⟩
  · exact ⟨rfl, id⟩

variable [FloatOps F] {count : ℤ}

theorem readEvents_of_pending (hcount : 1 ≤ count) (henabled : d.mEnabled = true)
    (hpending : d.hasPendingEvents = true) :
    (d.readEvents i count).1.ret = 1 ∧ (d.readEvents i count).1.data ≠ [] := by
  rw [readEvents, if_neg (by omega)]
  by_cases hevent : d.mHasPendingEvent = true
  · simp [hevent, henabled]
  · have hmeta : d.mHasPendingMetadata ≠ 0 := by
      simpa [hasPendingEvents, hevent] using hpending
    simp [hevent, hmeta, henabled]

theorem readEvents_of_idle (hpending : d.hasPendingEvents = false) :
    (d.readEvents i count).2.hasPendingEvents = false := by
  have hboth : d.mHasPendingEvent = false ∧ d.mHasPendingMetadata = 0 := by
    simpa [hasPendingEvents] using hpending
  rw [readEvents]
  by_cases hcount : count < 1
  · rw [if_pos hcount]
    exact hpending
  · rw [if_neg hcount, if_neg (by rw [hboth.1]; exact Bool.false_ne_true),
      if_neg (not_not.mpr hboth.2)]
    split <;> exact hpending

end SensorBase

namespace Manager

variable {m m' : Manager n F} {i j : Fin n}

/-- The next read of the sensor would deliver something that is pending. -/
def Outstanding (m : Manager n F) (i : Fin n) : Prop :=
  (m i).enable ≠ 0 ∧ (m i).driver.mEnabled = true ∧ (m i).driver.hasPendingEvents = true

def Quieter (m m' : Manager n F) : Prop := ∀ i, m'.Outstanding i → m.Outstanding i

theorem Quieter.refl (m : Manager n F) : m.Quieter m := fun _ => id

theorem Quieter.trans {m'' : Manager n F} (h : m.Quieter m') (h' : m'.Quieter m'') :
    m.Quieter m'' := fun i => h i ∘ h' i

theorem quieter_update {c : SensorContext n F} (henable : c.enable ≠ 0 → (m i).enable ≠ 0)
    (henabled : c.driver.mEnabled = true → (m i).driver.mEnabled = true)
    (hpending : c.driver.hasPendingEvents = (m i).driver.hasPendingEvents) :
    m.Quieter (Function.update m i c) := by
  intro j
  rcases eq_or_ne j i with rfl | hne
  · simp only [Outstanding, Function.update_self, hpending]
    exact fun h => ⟨henable h.1, henabled h.2.1, h.2.2⟩
  · simp only [Outstanding, Function.update_of_ne hne]
    exact id

theorem quieter_foldl {step : Manager n F → Fin n → Manager n F}
    (h : ∀ (m : Manager n F) i, m.Quieter (step m i)) (is : List (Fin n)) (m : Manager n F) :
    m.Quieter (is.foldl step m) := by
  induction is generalizing m with
  | nil => exact .refl m
  | cons i is ih => exact (h m i).trans (ih _)

theorem quieter_syncDelay (m : Manager n F) (i : Fin n) : m.Quieter (m.syncDelay B K i) := by
  rcases syncDelay_cases (B := B) (K := K) m i with ⟨-, hsame⟩ | ⟨first, rest, -, hset⟩
  · rw [hsame]
    exact .refl m
  · rw [hset]
    exact quieter_update id (fun h => SensorBase.setDelay_mEnabled _ ▸ h)
      (SensorBase.setDelay_pending _)

theorem quieter_syncLatency (m : Manager n F) (i : Fin n) : m.Quieter (m.syncLatency B K i) := by
  rcases syncLatency_cases (B := B) (K := K) m i with hsame | ⟨ns, hset⟩
  · rw [hsame]
    exact .refl m
  · rw [hset]
    exact quieter_update id (fun h => SensorBase.setLatency_mEnabled _ ▸ h)
      (SensorBase.setLatency_pending _)

theorem quieter_disable (m : Manager n F) (i : Fin n) :
    m.Quieter (m.driverEnable B K i false) := by
  rw [driverEnable_eq]
  exact quieter_update id SensorBase.disable_pending.2 SensorBase.disable_pending.1

theorem quieter_activateDep (m : Manager n F) (s i : Fin n) :
    m.Quieter (m.activateDep B K s 0 i) := by
  have hlast (m : Manager n F) :
      m.Quieter (if (m i).listener = [] then m.driverEnable B K i false else m) := by
    split_ifs
    · exact m.quieter_disable i
    · exact .refl m
  simp only [activateDep, ne_eq, not_true_eq_false, ↓reduceIte]
  by_cases hnone : (m i).listener = []
  · rw [if_neg (not_not.mpr hnone)]
    exact hlast m
  · rw [if_pos hnone]
    have hunregister : m.Quieter (m.unregisterListener i s) := quieter_update id id rfl
    exact ((hunregister.trans (quieter_syncDelay _ i)).trans (quieter_syncLatency _ i)).trans
      (hlast _)

theorem quieter_activate (m : Manager n F) {handle enabled : ℤ}
    (h : ¬ (enabled ≠ 0 ∧ (m.activate B K handle enabled).1 = 0)) :
    m.Quieter (m.activate B K handle enabled).2 := by
  rw [activate] at h ⊢
  cases hs : getInfoByHandle n handle with
  | none => exact .refl m
  | some s =>
    have hzero : enabled = 0 := by
      rw [hs] at h
      exact not_not.mp fun hne => h ⟨hne, rfl⟩
    subst hzero
    have hmark : m.Quieter (Function.update m s { m s with enable := 0 }) :=
      quieter_update (fun h => absurd rfl h) id rfl
    have hloop := hmark.trans
      (quieter_foldl (fun m i => m.quieter_activateDep (B := B) (K := K) s i)
        (B.sensor s).depList _)
    simp only [ne_eq, not_true_eq_false, decide_false]
    split_ifs
    · exact hloop.trans (quieter_disable _ s)
    · exact hloop

theorem quieter_setDelay (m : Manager n F) (handle ns : ℤ) :
    m.Quieter (m.setDelay B K handle ns).2 := by
  rw [setDelay]
  split
  · exact .refl m
  · rename_i s _
    have hsync (m' : Manager n F) (h : m.Quieter m') :
        m.Quieter ((B.sensor s).depList.foldl (fun m i => m.syncDelay B K i) m') :=
      h.trans (quieter_foldl quieter_syncDelay _ _)
    split_ifs
    · exact .refl m
    · exact hsync _ (quieter_update id id rfl)

theorem quieter_batch (m : Manager n F) (handle sampleNs latencyNs : ℤ) :
    m.Quieter (m.batch B K handle sampleNs latencyNs).2 := by
  rw [batch]
  split_ifs
  · exact .refl m
  · split
    · exact .refl m
    · rename_i s _
      have hsync (m' : Manager n F) (h : m.Quieter m') : m.Quieter
          ((B.sensor s).depList.foldl (fun m i => (m.syncDelay B K i).syncLatency B K i) m') :=
        h.trans (quieter_foldl
          (fun m i => (m.quieter_syncDelay i).trans (quieter_syncLatency _ i)) _ _)
      exact hsync _ (quieter_update id id rfl)

variable [FloatOps F] {count : ℤ}

theorem readEvents_of_ne (h : j ≠ i) : (m.readEvents i count).2 j = m j :=
  Function.update_of_ne h ..

theorem outstanding_of_ne (h : j ≠ i) :
    (m.readEvents i count).2.Outstanding j ↔ m.Outstanding j := by
  rw [Outstanding, Outstanding, readEvents_of_ne h]

theorem readEvents_outstanding (m : Manager n F) (i : Fin n) (count : ℤ) :
    (m.readEvents i count).1.ret < 0 ∨ (m.readEvents i count).1.data ≠ [] ∨
      ¬ (m.readEvents i count).2.Outstanding i := by
  by_cases hout : m.Outstanding i
  · by_cases hcount : 1 ≤ count
    · have hread := SensorBase.readEvents_of_pending (i := i) hcount hout.2.1 hout.2.2
      right
      left
      rw [readEvents_once (by rw [hread.1]; decide) (by rw [hread.1]; decide), if_pos hout.1]
      exact hread.2
    · have hread : ((m i).driver.readEvents i count).1.ret = -EINVAL := by
        rw [SensorBase.readEvents, if_pos (by omega)]
      left
      rw [readEvents_once (by rw [hread]; decide) (by rw [hread]; decide), if_pos hout.1, hread]
      decide
  · right
    right
    intro hafter
    have hcalm := m.calm_readEvents i count
    have hsame : (m i).enable ≠ 0 ∧ (m i).driver.mEnabled = true := by
      rw [← hcalm.books.enable i, ← hcalm.mEnabled i]
      exact ⟨hafter.1, hafter.2.1⟩
    have hidle : (m i).driver.hasPendingEvents = false :=
      Bool.eq_false_iff.mpr fun hpending => hout ⟨hsame.1, hsame.2, hpending⟩
    have hquiet : ((m.readEvents i count).2 i).driver.hasPendingEvents = false := by
      simp only [readEvents, driverRead, Function.update_self]
      split_ifs
      · exact SensorBase.readEvents_of_idle (SensorBase.readEvents_of_idle hidle)
      · exact SensorBase.readEvents_of_idle hidle
    exact Bool.false_ne_true (hquiet.symm.trans hafter.2.2)

end Manager

namespace PollContext

open Manager

variable {w : PollContext n F}

/-- What lies behind the scan is quiet, unless the call has delivered something or a byte is in
the pipe. -/
def Watched (w : PollContext n F) : Prop :=
  match w.thread with
  | .outside => True
  | .scanning j _ data => data ≠ [] ∨ w.wake ≠ 0 ∨ ∀ i : Fin n, i < j → ¬ w.manager.Outstanding i
  | .polling _ data => data ≠ [] ∨ w.wake ≠ 0 ∨ ∀ i, ¬ w.manager.Outstanding i

/-- The thread is in `poll` without a timeout, and nothing is there that ends it. -/
def Asleep (w : PollContext n F) : Prop :=
  (∃ count, w.thread = .polling count []) ∧ w.wake = 0 ∧ ∀ i, w.ready i = false

theorem Watched.quieter {m : Manager n F} (h : w.Watched) (hquiet : w.manager.Quieter m) :
    { w with manager := m }.Watched := by
  unfold Watched at h ⊢
  cases hthread : w.thread with
  | outside => trivial
  | scanning j count data =>
    simp only [hthread] at h ⊢
    exact h.imp_right (Or.imp_right fun hall i hi hout => hall i hi (hquiet i hout))
  | polling count data =>
    simp only [hthread] at h ⊢
    exact h.imp_right (Or.imp_right fun hall i hout => hall i (hquiet i hout))

theorem watched_of_wake (h : w.wake ≠ 0) : w.Watched := by
  rw [Watched]
  split
  · trivial
  · exact Or.inr (Or.inl h)
  · exact Or.inr (Or.inl h)

theorem writeWake_ne_zero (w : PollContext n F) : w.writeWake.wake ≠ 0 := by
  have hroom : 0 < PIPE_SIZE := by decide
  simp only [writeWake]
  omega

variable [FloatOps F]

theorem Watched.scan (h : w.Watched) : w.scan.1.Watched := by
  rw [PollContext.scan]
  cases hthread : w.thread with
  | outside => exact h
  | polling count data => exact h
  | scanning j count data =>
    have hbefore := h
    simp only [Watched, hthread] at h
    dsimp only
    by_cases hround : count ≠ 0 ∧ j < n
    · rw [dif_pos hround]
      by_cases hready : (w.revents ⟨j, hround.2⟩ ||
          (w.manager ⟨j, hround.2⟩).driver.hasPendingEvents) = true
      · rw [if_pos hready]
        by_cases hspins : w.manager.spins ⟨j, hround.2⟩ count = true
        · rw [if_pos hspins]
          exact hbefore
        · rw [if_neg hspins]
          by_cases hfail : (w.manager.readEvents ⟨j, hround.2⟩ count).1.ret < 0
          · rw [if_pos hfail]
            trivial
          · rw [if_neg hfail]
            rcases w.manager.readEvents_outstanding ⟨j, hround.2⟩ count with hneg | hsome | hquiet
            · exact absurd hneg hfail
            · exact Or.inl (List.append_ne_nil_of_right_ne_nil data hsome)
            · refine h.imp (fun hdata => List.append_ne_nil_of_left_ne_nil hdata _)
                (Or.imp_right fun hall i hi hout => ?_)
              rcases eq_or_ne i ⟨j, hround.2⟩ with rfl | hne
              · exact hquiet hout
              · have hlt : (i : ℕ) < j := lt_of_le_of_ne (Nat.lt_succ_iff.mp hi) fun heq =>
                  hne (Fin.ext heq)
                exact hall i hlt ((outstanding_of_ne hne).mp hout)
      · rw [if_neg hready]
        refine h.imp_right (Or.imp_right fun hall i hi hout => ?_)
        rcases eq_or_ne i ⟨j, hround.2⟩ with rfl | hne
        · exact hready (Bool.or_eq_true_iff.mpr (Or.inr hout.2.2))
        · exact hall i (lt_of_le_of_ne (Nat.lt_succ_iff.mp hi) fun heq => hne (Fin.ext heq)) hout
    · rw [dif_neg hround]
      split_ifs with hcount
      · exact h.imp_right (Or.imp_right fun hall i =>
          hall i (lt_of_lt_of_le i.isLt (not_lt.mp fun hlt => hround ⟨hcount, hlt⟩)))
      · trivial

omit [FloatOps F] in
theorem Watched.poll (h : w.Watched) : w.poll.1.Watched := by
  rw [PollContext.poll]
  cases hthread : w.thread with
  | outside => exact h
  | scanning j count data => exact h
  | polling count data =>
    dsimp only
    split_ifs
    · exact Or.inr (Or.inr fun i hi => absurd hi (Nat.not_lt_zero _))
    · trivial
    · exact h

theorem Watched.next (h : w.Watched) (t : Step n) : (w.next B t).Watched := by
  cases t with
  | activate K handle enabled =>
    simp only [PollContext.next, step, activate]
    split_ifs with hwrites
    · exact watched_of_wake (writeWake_ne_zero _)
    · exact h.quieter (w.manager.quieter_activate hwrites)
  | setDelay K handle ns => exact h.quieter (w.manager.quieter_setDelay handle ns)
  | batch K handle sampleNs latencyNs => exact h.quieter (w.manager.quieter_batch handle _ _)
  | flush K handle => exact watched_of_wake (writeWake_ne_zero _)
  | arrive i es => exact h.quieter (quieter_update id id rfl)
  | fault i f => exact h.quieter (quieter_update id id rfl)
  | pollEvents count =>
    simp only [PollContext.next, step]
    split
    · exact Or.inr (Or.inr fun i hi => absurd hi (Nat.not_lt_zero _))
    · exact h
  | scan => exact h.scan
  | poll => exact h.poll
  | pollError err =>
    simp only [PollContext.next, step]
    split
    · trivial
    · exact h

omit [FloatOps F] in
theorem watched_start (memory : Fin n → ℕ → InputEvent) (zero : F) :
    (start memory zero).Watched := trivial

theorem watched_run (B : Board n) (memory : Fin n → ℕ → InputEvent) (zero : F)
    (run : List (Step n)) : (run.foldl (next B) (start memory zero)).Watched :=
  history_induction (P := fun _ w => Watched w) (watched_start memory zero)
    (fun _ t _ h => h.next t) run

/-- While the thread sleeps, no sensor has anything pending that its read would deliver. -/
theorem no_lost_wakeup (B : Board n) (memory : Fin n → ℕ → InputEvent) (zero : F)
    (run : List (Step n)) (h : (run.foldl (next B) (start memory zero)).Asleep) (i : Fin n) :
    ¬ (run.foldl (next B) (start memory zero)).manager.Outstanding i := by
  have hwatched := watched_run B memory zero run
  obtain ⟨⟨count, hthread⟩, hwake, -⟩ := h
  rw [Watched, hthread] at hwatched
  rcases hwatched with hdata | hbyte | hall
  · exact absurd rfl hdata
  · exact absurd hwake hbyte
  · exact hall i

def oneBoard : Board 1 :=
  .getDataInfo (fun _ => .SENSOR_TYPE_PROXIMITY) (fun _ => 0) fun _ => 0

def oneKernel : Kernel 1 := ⟨fun _ => false, fun _ _ => .written⟩

/-- The flush is delivered by the first call of `pollEvents`; the second one sleeps. -/
def flushRun : List (Step 1) :=
  [.activate oneKernel 1 1, .flush oneKernel 1, .pollEvents 8, .scan, .scan, .poll, .scan, .scan,
    .poll, .scan, .scan, .poll, .pollEvents 8, .scan, .scan, .poll]

theorem flushRun_asleep :
    (flushRun.foldl (next oneBoard) (start (fun _ _ => ⟨0, 0, 0⟩) (0 : ℚ))).Asleep :=
  ⟨⟨8, rfl⟩, rfl, Fin.forall_fin_one.mpr rfl⟩

theorem flushRun_quiet : ¬ (flushRun.foldl (next oneBoard)
    (start (fun _ _ => ⟨0, 0, 0⟩) (0 : ℚ))).manager.Outstanding 0 :=
  no_lost_wakeup oneBoard _ 0 flushRun flushRun_asleep 0

end PollContext
end Cedric.NativeSensors
