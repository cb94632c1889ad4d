import Cedric.Lib.PointwiseFold
import Cedric.NativeSensors.PollContext

/-!
# Listeners and driven sensors

The listeners of a context are the enabled sensors that depend on it, each once. A hardware
sensor is meant to be driven exactly while it has listeners. `activate` returns 0 even if
the driver could not open its attribute, so that this holds along the runs in which every
change of a driver goes through (`driven_iff`).
-/

namespace Cedric.NativeSensors

open Hub PointwiseFold Runs

def SensorType.enableLoopback : SensorType → Loopback
  | .SENSOR_TYPE_PROXIMITY => .proxymity
  | .SENSOR_TYPE_MOTO_CAPSENSE => .capsense

def SensorType.delayLoopback : SensorType → Loopback
  | .SENSOR_TYPE_PROXIMITY => .light
  | .SENSOR_TYPE_MOTO_CAPSENSE => .capsense

variable {n : ℕ} {F : Type} {B : Board n} {K : Kernel n}

/-- `enable` of the driver can change what it is set to. -/
def Kernel.Takes (K : Kernel n) (B : Board n) (i : Fin n) : Prop :=
  K.loopback (B.sensor i).type.enableLoopback = true ∨ K.access i .SYSFS_ENABLE ≠ .unopened

instance (B : Board n) (i : Fin n) : Decidable (K.Takes B i) :=
  inferInstanceAs (Decidable (_ ∨ _))

namespace SensorBase

variable {d : SensorBase F} {p : Loopback} {i : Fin n}

theorem enable_mEnabled (flags : Bool) : (d.enable p K i flags).mEnabled =
    if K.loopback p = true ∨ K.access i .SYSFS_ENABLE ≠ .unopened then flags else d.mEnabled := by
  rw [enable]
  by_cases hloop : K.loopback p = true
  · simp only [hloop, ↓reduceIte, true_or]
  · by_cases hsame : flags = d.mEnabled
    · cases flags <;> simp [hloop, ← hsame]
    · cases haccess : K.access i .SYSFS_ENABLE <;> simp [hloop, hsame]

@[simp] theorem enable_pollDelay (flags : Bool) :
    (d.enable p K i flags).attributes.pollDelay = d.attributes.pollDelay := by
  rw [enable]
  split_ifs
  · rfl
  · split <;> rfl
  · rfl
  · rfl

@[simp] theorem setDelay_mEnabled (ns : ℤ) : (d.setDelay p K i ns).mEnabled = d.mEnabled := by
  rw [setDelay]
  split_ifs <;> rfl

@[simp] theorem setLatency_mEnabled (ns : ℤ) : (d.setLatency K i ns).mEnabled = d.mEnabled := by
  rw [setLatency]
  split_ifs <;> rfl

@[simp] theorem setLatency_pollDelay (ns : ℤ) :
    (d.setLatency K i ns).attributes.pollDelay = d.attributes.pollDelay := by
  rw [setLatency]
  split_ifs <;> rfl

end SensorBase

namespace Manager

variable {m m' : Manager n F} {i j : Fin n}

theorem driverEnable_eq (flags : Bool) : m.driverEnable B K i flags =
    m.withDriver i (.enable (B.sensor i).type.enableLoopback K i flags) := by
  rw [driverEnable]
  cases (B.sensor i).type <;> rfl

theorem driverSetDelay_eq (ns : ℤ) : m.driverSetDelay B K i ns =
    m.withDriver i (.setDelay (B.sensor i).type.delayLoopback K i ns) := by
  rw [driverSetDelay]
  cases (B.sensor i).type <;> rfl

@[simp] theorem withDriver_self (f : SensorBase F → SensorBase F) :
    m.withDriver i f i = { m i with driver := f (m i).driver } := Function.update_self ..

@[simp] theorem withDriver_of_ne (h : j ≠ i) (f : SensorBase F → SensorBase F) :
    m.withDriver i f j = m j := Function.update_of_ne h ..

/-- Only drivers differ. -/
structure SameBooks (m m' : Manager n F) : Prop where
  enable : ∀ i, (m' i).enable = (m i).enable
  delayNs : ∀ i, (m' i).delayNs = (m i).delayNs
  latencyNs : ∀ i, (m' i).latencyNs = (m i).latencyNs
  listener : ∀ i, (m' i).listener = (m i).listener

theorem SameBooks.refl (m : Manager n F) : m.SameBooks m :=
  ⟨fun _ => rfl, fun _ => rfl, fun _ => rfl, fun _ => rfl⟩

theorem SameBooks.trans {m'' : Manager n F} (h : m.SameBooks m') (h' : m'.SameBooks m'') :
    m.SameBooks m'' :=
  ⟨fun i => (h'.enable i).trans (h.enable i), fun i => (h'.delayNs i).trans (h.delayNs i),
    fun i => (h'.latencyNs i).trans (h.latencyNs i),
    fun i => (h'.listener i).trans (h.listener i)⟩

theorem sameBooks_update {c : SensorContext n F} (henable : c.enable = (m i).enable)
    (hdelay : c.delayNs = (m i).delayNs) (hlatency : c.latencyNs = (m i).latencyNs)
    (hlistener : c.listener = (m i).listener) : m.SameBooks (Function.update m i c) := by
  refine ⟨fun j => ?_, fun j => ?_, fun j => ?_, fun j => ?_⟩
  all_goals
    rcases eq_or_ne j i with rfl | hne
    · rw [Function.update_self]
      assumption
    · rw [Function.update_of_ne hne]

theorem sameBooks_withDriver (m : Manager n F) (i : Fin n) (f : SensorBase F → SensorBase F) :
    m.SameBooks (m.withDriver i f) := sameBooks_update rfl rfl rfl rfl

theorem sameBooks_driverEnable (m : Manager n F) (i : Fin n) (flags : Bool) :
    m.SameBooks (m.driverEnable B K i flags) := by
  rw [driverEnable_eq]
  exact m.sameBooks_withDriver i _

theorem syncDelay_cases (m : Manager n F) (i : Fin n) :
    (m i).listener = [] ∧ m.syncDelay B K i = m ∨
      ∃ first rest, (m i).listener = first :: rest ∧ m.syncDelay B K i =
        m.withDriver i (.setDelay (B.sensor i).type.delayLoopback K i
          (m.shortestDelay first (first :: rest))) := by
  rw [syncDelay]
  split
  · rename_i hnone
    exact Or.inl ⟨hnone, rfl⟩
  · rename_i first rest hsome
    exact Or.inr ⟨first, rest, hsome, driverSetDelay_eq _⟩

theorem syncLatency_cases (m : Manager n F) (i : Fin n) :
    m.syncLatency B K i = m ∨ ∃ ns, m.syncLatency B K i = m.withDriver i (.setLatency K i ns) := by
  rw [syncLatency]
  split
  · exact Or.inl rfl
  · split_ifs
    · exact Or.inr ⟨_, rfl⟩
    · exact Or.inl rfl

theorem sameBooks_syncDelay (m : Manager n F) (i : Fin n) : m.SameBooks (m.syncDelay B K i) := by
  rcases syncDelay_cases (B := B) (K := K) m i with ⟨-, hsame⟩ | ⟨first, rest, -, hset⟩
  · rw [hsame]
    exact .refl m
  · rw [hset]
    exact m.sameBooks_withDriver i _

theorem sameBooks_syncLatency (m : Manager n F) (i : Fin n) :
    m.SameBooks (m.syncLatency B K i) := by
  rcases syncLatency_cases (B := B) (K := K) m i with hsame | ⟨ns, hset⟩
  · rw [hsame]
    exact .refl m
  · rw [hset]
    exact m.sameBooks_withDriver i _

theorem syncDelay_of_ne (h : j ≠ i) : m.syncDelay B K i j = m j := by
  rcases syncDelay_cases (B := B) (K := K) m i with ⟨-, hsame⟩ | ⟨first, rest, -, hset⟩
  · rw [hsame]
  · rw [hset, withDriver_of_ne h]

theorem syncLatency_of_ne (h : j ≠ i) : m.syncLatency B K i j = m j := by
  rcases syncLatency_cases (B := B) (K := K) m i with hsame | ⟨ns, hset⟩
  · rw [hsame]
  · rw [hset, withDriver_of_ne h]

@[simp] theorem syncDelay_mEnabled :
    (m.syncDelay B K i j).driver.mEnabled = (m j).driver.mEnabled := by
  rcases eq_or_ne j i with rfl | hne
  · rcases syncDelay_cases (B := B) (K := K) m j with ⟨-, hsame⟩ | ⟨first, rest, -, hset⟩
    · rw [hsame]
    · rw [hset, withDriver_self, SensorBase.setDelay_mEnabled]
  · rw [syncDelay_of_ne hne]

@[simp] theorem syncLatency_mEnabled :
    (m.syncLatency B K i j).driver.mEnabled = (m j).driver.mEnabled := by
  rcases eq_or_ne j i with rfl | hne
  · rcases syncLatency_cases (B := B) (K := K) m j with hsame | ⟨ns, hset⟩
    · rw [hsame]
    · rw [hset, withDriver_self, SensorBase.setLatency_mEnabled]
  · rw [syncLatency_of_ne hne]

@[simp] theorem registerListener_self (s : Fin n) : m.registerListener i s i =
    { m i with listener := if s ∈ (m i).listener then (m i).listener
        else (m i).listener ++ [s] } := by
  rw [registerListener]
  split_ifs
  · rfl
  · exact Function.update_self ..

theorem registerListener_of_ne (h : j ≠ i) (s : Fin n) : m.registerListener i s j = m j := by
  rw [registerListener]
  split_ifs
  · rfl
  · exact Function.update_of_ne h ..

@[simp] theorem unregisterListener_self (s : Fin n) : m.unregisterListener i s i =
    { m i with listener := (m i).listener.erase s } := Function.update_self ..

theorem unregisterListener_of_ne (h : j ≠ i) (s : Fin n) : m.unregisterListener i s j = m j :=
  Function.update_of_ne h ..

theorem activateDep_of_ne (h : j ≠ i) (s : Fin n) (enable : ℤ) :
    m.activateDep B K s enable i j = m j := by
  have hsync (m : Manager n F) : (m.syncDelay B K i).syncLatency B K i j = m j :=
    (syncLatency_of_ne h).trans (syncDelay_of_ne h)
  simp only [activateDep]
  split_ifs
  · rw [driverEnable_eq, withDriver_of_ne h, hsync, registerListener_of_ne h]
  · rw [driverEnable_eq, withDriver_of_ne h, hsync, unregisterListener_of_ne h]
  · rw [hsync, unregisterListener_of_ne h]
  · rw [driverEnable_eq, withDriver_of_ne h]
  · exact absurd ‹¬ (m i).listener = []› ‹¬ (m i).listener ≠ []›

theorem sync_listener (m : Manager n F) (i : Fin n) :
    ((m.syncDelay B K i).syncLatency B K i i).listener = (m i).listener :=
  ((m.sameBooks_syncDelay i).trans (sameBooks_syncLatency _ i)).listener i

def driven (m : Manager n F) (i : Fin n) : List (Fin n) × Bool :=
  ((m i).listener, (m i).driver.mEnabled)

theorem activateDep_driven (s : Fin n) (enable : ℤ) :
    (m.activateDep B K s enable i).driven i =
      (listenersAfter s enable (m i).listener,
        if K.Takes B i ∧ (enable ≠ 0 ∨ listenersAfter s enable (m i).listener = []) then
          decide (enable ≠ 0)
        else (m i).driver.mEnabled) := by
  by_cases henable : enable ≠ 0
  · simp only [driven, activateDep, henable, ne_eq, not_false_eq_true, ↓reduceIte, driverEnable_eq,
      withDriver_self, sync_listener, registerListener_self, listenersAfter, true_or, and_true,
      SensorBase.enable_mEnabled, syncLatency_mEnabled, syncDelay_mEnabled, decide_true]
    rfl
  · have hzero : enable = 0 := not_not.mp henable
    by_cases hlistener : (m i).listener = []
    · simp only [driven, activateDep, hzero, ne_eq, not_true_eq_false, ↓reduceIte, hlistener,
        driverEnable_eq, withDriver_self, listenersAfter, List.erase_nil, or_true, and_true,
        SensorBase.enable_mEnabled, decide_false]
      rfl
    · simp only [driven, activateDep, hzero, ne_eq, not_true_eq_false, ↓reduceIte, hlistener,
        not_false_eq_true, sync_listener, unregisterListener_self, listenersAfter, false_or,
        decide_false]
      by_cases hempty : (m i).listener.erase s = []
      · simp only [hempty, ↓reduceIte, driverEnable_eq, withDriver_self, sync_listener,
          unregisterListener_self, SensorBase.enable_mEnabled, syncLatency_mEnabled,
          syncDelay_mEnabled, and_true]
        rfl
      · simp only [hempty, ↓reduceIte, sync_listener, unregisterListener_self,
          syncLatency_mEnabled, syncDelay_mEnabled, and_false]

theorem activateDep_pointwise (s : Fin n) (enable : ℤ) :
    Pointwise (fun _ : Manager n F => True) (fun m i => m.activateDep B K s enable i) driven
      (fun i c => (listenersAfter s enable c.1,
        if K.Takes B i ∧ (enable ≠ 0 ∨ listenersAfter s enable c.1 = []) then decide (enable ≠ 0)
        else c.2)) where
  keeps _ _ _ := trivial
  own _ _ _ := activateDep_driven s enable
  other m i j _ hne := by rw [driven, driven, activateDep_of_ne hne]

theorem activateDep_settings (m : Manager n F) (s : Fin n) (enable : ℤ) (i j : Fin n) :
    (m.activateDep B K s enable i j).enable = (m j).enable ∧
      (m.activateDep B K s enable i j).delayNs = (m j).delayNs := by
  rcases eq_or_ne j i with rfl | hne
  · have hsync (m : Manager n F) := (m.sameBooks_syncDelay (B := B) (K := K) j).trans
      (sameBooks_syncLatency (B := B) (K := K) _ j)
    have hdriver (m : Manager n F) (flags : Bool) :=
      m.sameBooks_driverEnable (B := B) (K := K) j flags
    have hempty (m : Manager n F) : m.SameBooks
        (if (m j).listener = [] then m.driverEnable B K j false else m) := by
      split_ifs
      · exact hdriver m false
      · exact .refl m
    simp only [activateDep]
    by_cases henable : enable ≠ 0
    · have hbooks := (hsync (m.registerListener j s)).trans (hdriver _ true)
      rw [if_pos henable, hbooks.enable, hbooks.delayNs, registerListener_self]
      exact ⟨rfl, rfl⟩
    · rw [if_neg henable]
      by_cases hlistener : (m j).listener ≠ []
      · have hbooks := (hsync (m.unregisterListener j s)).trans (hempty _)
        rw [if_pos hlistener, hbooks.enable, hbooks.delayNs, unregisterListener_self]
        exact ⟨rfl, rfl⟩
      · rw [if_neg hlistener, (hempty m).enable, (hempty m).delayNs]
        exact ⟨rfl, rfl⟩
  · rw [activateDep_of_ne hne]
    exact ⟨rfl, rfl⟩

/-- Only what waits to be read differs. -/
structure Calm (m m' : Manager n F) : Prop where
  books : m.SameBooks m'
  mEnabled : ∀ i, (m' i).driver.mEnabled = (m i).driver.mEnabled
  attributes : ∀ i, (m' i).driver.attributes = (m i).driver.attributes

theorem Calm.refl (m : Manager n F) : m.Calm m := ⟨.refl m, fun _ => rfl, fun _ => rfl⟩

theorem Calm.trans {m'' : Manager n F} (h : m.Calm m') (h' : m'.Calm m'') : m.Calm m'' :=
  ⟨h.books.trans h'.books, fun i => (h'.mEnabled i).trans (h.mEnabled i),
    fun i => (h'.attributes i).trans (h.attributes i)⟩

theorem calm_update {d : SensorBase F} (henabled : d.mEnabled = (m i).driver.mEnabled)
    (hattributes : d.attributes = (m i).driver.attributes) :
    m.Calm (Function.update m i { m i with driver := d }) := by
  refine ⟨sameBooks_update rfl rfl rfl rfl, fun j => ?_, fun j => ?_⟩
  all_goals
    rcases eq_or_ne j i with rfl | hne
    · rw [Function.update_self]
      assumption
    · rw [Function.update_of_ne hne]

theorem calm_driverFlush (m : Manager n F) (i : Fin n) : m.Calm (m.driverFlush B K i).2 := by
  have hflush : ((m i).driver.flush (B.sensor i).fifoMaxEventCount K i).2.mEnabled =
        (m i).driver.mEnabled ∧
      ((m i).driver.flush (B.sensor i).fifoMaxEventCount K i).2.attributes =
        (m i).driver.attributes := by
    rw [SensorBase.flush]
    split_ifs <;> exact ⟨rfl, rfl⟩
  exact calm_update hflush.1 hflush.2

theorem calm_flushAll (is : List (Fin n)) (m : Manager n F) : m.Calm (flushAll B K is m).2 := by
  induction is generalizing m with
  | nil => exact .refl m
  | cons i is ih =>
    simp only [flushAll]
    split_ifs
    · exact m.calm_driverFlush i
    · exact (m.calm_driverFlush i).trans (ih _)

theorem calm_flush (m : Manager n F) (handle : ℤ) : m.Calm (m.flush B K handle).2 := by
  rw [flush]
  split
  · exact .refl m
  · rename_i s _
    have hall := calm_flushAll (B := B) (K := K) (B.sensor s).depList m
    dsimp only
    split_ifs
    · exact hall
    · exact hall.trans (calm_driverFlush _ s)
    · exact hall

theorem calm_readEvents [FloatOps F] (m : Manager n F) (i : Fin n) (count : ℤ) :
    m.Calm (m.readEvents i count).2 := by
  have hread (d : SensorBase F) : (d.readEvents i count).2.mEnabled = d.mEnabled ∧
      (d.readEvents i count).2.attributes = d.attributes := by
    rw [SensorBase.readEvents]
    by_cases hcount : count < 1
    · rw [if_pos hcount]
      exact ⟨rfl, rfl⟩
    · rw [if_neg hcount]
      split_ifs
      all_goals
        first
        | exact ⟨rfl, rfl⟩
        | split <;> exact ⟨rfl, rfl⟩
  have hloop : (m.driverRead i count).2.mEnabled = (m i).driver.mEnabled ∧
      (m.driverRead i count).2.attributes = (m i).driver.attributes := by
    simp only [driverRead]
    split_ifs
    · exact ⟨(hread _).1.trans (hread _).1, (hread _).2.trans (hread _).2⟩
    · exact hread _
  exact calm_update hloop.1 hloop.2

theorem readEvents_once [FloatOps F] {count : ℤ}
    (hagain : ((m i).driver.readEvents i count).1.ret ≠ -EAGAIN)
    (hintr : ((m i).driver.readEvents i count).1.ret ≠ - EINTR) :
    m.readEvents i count =
      (if (m i).enable ≠ 0 then ((m i).driver.readEvents i count).1 else ⟨0, []⟩,
        Function.update m i { m i with driver := ((m i).driver.readEvents i count).2 }) := by
  simp only [readEvents, driverRead, not_or.mpr ⟨hagain, hintr⟩, ↓reduceIte]

end Manager

def Step.Sets : Step n → Prop
  | .activate .. | .setDelay .. | .batch .. => True
  | _ => False

namespace PollContext

variable [FloatOps F] {w : PollContext n F}

theorem calm_scan (w : PollContext n F) : w.manager.Calm w.scan.1.manager := by
  rw [scan]
  split
  · split_ifs
    · exact .refl _
    · dsimp only
      split_ifs <;> exact w.manager.calm_readEvents _ _
    · exact .refl _
    · exact .refl _
    · exact .refl _
  · exact .refl _

omit [FloatOps F] in
theorem poll_manager (w : PollContext n F) : w.poll.1.manager = w.manager := by
  rw [poll]
  split
  · split_ifs <;> rfl
  · rfl

theorem next_calm {t : Step n} (h : ¬ t.Sets) (w : PollContext n F) :
    w.manager.Calm (w.next B t).manager := by
  cases t with
  | activate K handle enabled => exact absurd trivial h
  | setDelay K handle ns => exact absurd trivial h
  | batch K handle sampleNs latencyNs => exact absurd trivial h
  | flush K handle => exact w.manager.calm_flush handle
  | arrive i es => exact Manager.calm_update rfl rfl
  | fault i f => exact Manager.calm_update rfl rfl
  | pollEvents count =>
    cases hthread : w.thread <;> simp only [next, step, hthread] <;> exact .refl _
  | scan => exact w.calm_scan
  | poll =>
    have hsame : (w.next B .poll).manager = w.manager := w.poll_manager
    rw [hsame]
    exact .refl _
  | pollError err =>
    cases hthread : w.thread <;> simp only [next, step, hthread] <;> exact .refl _

end PollContext
end Cedric.NativeSensors
