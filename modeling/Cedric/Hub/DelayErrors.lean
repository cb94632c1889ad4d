import Cedric.Hub.RateArbitration
import Cedric.Lib.Answers

/-!
# The error of `setDelay`

The ioctls of a request depend on the state alone, not on how they are answered.
`setDelay` makes those of its switch and of the three rate functions, and what it
returns is the answer of the last rate function: every error before it is
overwritten, the one of the default case included.
-/

namespace Cedric.Hub

open Answers

variable {F : Type}

/-- The handle of an `int32_t`. A value outside the enumeration goes to one of its bounds,
which like it have no case in any switch. -/
def SensorHandle.ofInt (v : ℤ) : SensorHandle := .ofNat v.toNat

def SensorHandle.hasDelay : SensorHandle → Bool
  | .ID_A | .ID_G | .ID_UNCALIB_GYRO | .ID_GAME_RV | .ID_LA | .ID_GRAVITY | .ID_L | .ID_DR | .ID_P
  | .ID_FU | .ID_FD | .ID_S | .ID_CA | .ID_GLANCE_GESTURE | .ID_MOTO_GLANCE_GESTURE | .ID_LF
  | .ID_CC | .ID_M | .ID_UM | .ID_OR | .ID_GEOMAG_RV | .ID_RV | .ID_STEP_COUNTER
  | .ID_STEP_DETECTOR | .ID_MOTION_DETECT | .ID_STATIONARY_DETECT => true
  | _ => false

/-- `ioctl` returns -1, and `errno` says why the last call of a log failed, or a number that is
not negative. -/
structure Ioctl where
  kernel : Kernel
  errno : Log → ℤ
  returns : ∀ log c, -1 ≤ kernel log c

/-- The last ioctl of the log succeeded or failed with `EIO`. -/
def Ioctl.Tolerated (I : Ioctl) (log : Log) : Prop :=
  ∀ e ∈ log.head?, 0 ≤ e.2 ∨ I.errno log = EIO

namespace HubSensors

def switchCall (delay : ℕ) : SensorHandle → List Sys
  | .ID_L => [.setAlsDelay delay]
  | .ID_STEP_COUNTER => [.setStepCounterDelay (stepSeconds delay)]
  | _ => []

variable (s : HubSensors F)

def due (k : RateSensor) : List Sys :=
  if s.rateDelay k ≠ s.prevDelay k then [k.call (s.rateDelay k)] else []

/-- `setDelay` returns 0 only for a handle it has a case for and after no failure but `EIO`; for
another handle it returns `-EINVAL` and leaves the rates alone. -/
def ReportsErrors (I : Ioctl) (list : List SensorT) (handle : SensorHandle) (ns : ℤ) : Prop :=
  let r := s.setDelay I.kernel list handle ns
  (r.1 = 0 → handle.hasDelay = true ∧
      ∀ log, log <:+ r.2.log → s.log.length < log.length → I.Tolerated log) ∧
    (handle.hasDelay = false → r.1 = -EINVAL ∧ SameRates s r.2)

/-- The request is refused at once, or the handle has a case and the magnetometer's ioctl does
not return 0 or no ioctl before it fails but with `EIO`. -/
def ErrorsReach (I : Ioctl) (list : List SensorT) (handle : SensorHandle) (ns : ℤ) : Prop :=
  let delay := clampDelay list handle (toUShort (ns / 1000000))
  let stored := (s.delaySwitch I.kernel delay handle).2
  let before := switchCall delay handle ++ (stored.due .accel ++ stored.due .gyro)
  let mag := ask I.kernel ((ask I.kernel s.log before).reverse ++ s.log) (stored.due .mag)
  ns < 0 ∨ handle.hasDelay = true ∧
    ((∃ e ∈ mag, e.2 ≠ 0) ∨ ∀ log ∈ logs I.kernel s.log before, I.Tolerated log)

variable {s} {K : Kernel}

theorem updateRateOf_asked (k : RateSensor) :
    Asked K s.log (s.due k) (s.updateRateOf K k).2.log ∧
      (s.updateRateOf K k).1 = reply (ask K s.log (s.due k)) := by
  obtain ⟨store, hstore, heq⟩ := updateRateOf_eq (s := s) (K := K) k
  rw [heq, updateRate, due]
  split_ifs
  · exact ⟨(hstore _ _).1, rfl⟩
  · exact ⟨rfl, rfl⟩

theorem due_updateRateOf {k k' : RateSensor} (hk : k' ≠ k) :
    (s.updateRateOf K k).2.due k' = s.due k' := by
  rw [due, due, rateDelay_congr (updateRateOf_table k), (updateRateOf_others hk).1]

theorem delaySwitch_asked (delay : ℕ) (handle : SensorHandle) :
    Asked K s.log (switchCall delay handle) (s.delaySwitch K delay handle).2.log := by
  cases handle <;> rfl

theorem setDelay_asked (list : List SensorT) (handle : SensorHandle) {ns : ℤ} (hns : ¬ ns < 0) :
    let delay := clampDelay list handle (toUShort (ns / 1000000))
    let stored := (s.delaySwitch K delay handle).2
    let before := switchCall delay handle ++ (stored.due .accel ++ stored.due .gyro)
    let answer := reply (ask K ((ask K s.log before).reverse ++ s.log) (stored.due .mag))
    Asked K s.log (before ++ stored.due .mag) (s.setDelay K list handle ns).2.log ∧
      (s.setDelay K list handle ns).1 = if answer = - EIO then 0 else answer := by
  intro delay stored before answer
  have hswitch : Asked K s.log (switchCall delay handle) stored.log :=
    delaySwitch_asked delay handle
  obtain ⟨haccel, -⟩ := updateRateOf_asked (s := stored) (K := K) .accel
  obtain ⟨hgyro, -⟩ := updateRateOf_asked (s := (stored.updateRateOf K .accel).2) (K := K) .gyro
  obtain ⟨hmag, hresult⟩ := updateRateOf_asked
    (s := ((stored.updateRateOf K .accel).2.updateRateOf K .gyro).2) (K := K) .mag
  rw [due_updateRateOf (by decide)] at hgyro
  rw [due_updateRateOf (by decide), due_updateRateOf (by decide)] at hmag hresult
  have hbefore := hswitch.trans (haccel.trans hgyro)
  have hcall : s.setDelay K list handle ns =
      (if (((stored.updateRateOf K .accel).2.updateRateOf K .gyro).2.updateRateOf K .mag).1 = - EIO
        then 0
        else (((stored.updateRateOf K .accel).2.updateRateOf K .gyro).2.updateRateOf K .mag).1,
        (((stored.updateRateOf K .accel).2.updateRateOf K .gyro).2.updateRateOf K .mag).2) := by
    rw [setDelay, if_neg hns]
    rfl
  rw [hcall]
  refine ⟨hbefore.trans hmag, ?_⟩
  rw [hresult, hbefore]

theorem setDelay_prevDelay (list : List SensorT) (handle : SensorHandle) {ns : ℤ} (hns : ¬ ns < 0)
    (k : RateSensor) :
    (s.setDelay K list handle ns).2.prevDelay k =
      (s.delaySwitch K (clampDelay list handle (toUShort (ns / 1000000)))
        handle).2.rateDelay k := by
  have hall : k ∈ RateSensor.all := by cases k <;> decide
  rw [setDelay_eq_rateCalls list handle hns, rateCalls_fresh (fun _ _ _ => rfl) (.inl ⟨hall, rfl⟩)]
  exact rateDelay_congr (rateCalls_table _ _) k

theorem ask_due (log : Log) (k : RateSensor) :
    (ask K log (s.due k) = [(k.call (s.rateDelay k), K log (k.call (s.rateDelay k)))] ∧
      logs K log (s.due k) = [(k.call (s.rateDelay k), K log (k.call (s.rateDelay k))) :: log] ∧
      s.rateDelay k ≠ s.prevDelay k) ∨
      ask K log (s.due k) = [] ∧ logs K log (s.due k) = [] := by
  rw [due]
  split_ifs with h
  · exact .inl ⟨rfl, rfl, h⟩
  · exact .inr ⟨rfl, rfl⟩

theorem ioctl_result (I : Ioctl) (log : Log) (c : Sys) :
    (if I.kernel log c = - EIO then 0 else I.kernel log c) = I.kernel log c := by
  have hreturns := I.returns log c
  have hio : EIO = 5 := rfl
  exact if_neg (by omega)

theorem delaySwitch_unsupported {handle : SensorHandle} (h : handle.hasDelay = false) (delay : ℕ) :
    s.delaySwitch K delay handle = (-EINVAL, s) := by
  cases handle with
  | MIN_SENSOR_ID | ID_A2 | ID_RP | ID_RP_2 | MAX_SENSOR_ID => rfl
  | _ => cases h

theorem not_reportsErrors (I : Ioctl) (list : List SensorT) {handle : SensorHandle} {ns : ℤ}
    (h : handle.hasDelay = false) (hns : ¬ ns < 0) : ¬ s.ReportsErrors I list handle ns := by
  rintro ⟨-, hunsupported⟩
  obtain ⟨hresult, hrates⟩ := hunsupported h
  have hanswer := (setDelay_asked (K := I.kernel) (s := s) list handle hns).2
  have hprev := setDelay_prevDelay (K := I.kernel) (s := s) list handle hns .mag
  rw [hresult] at hanswer
  rw [delaySwitch_unsupported h] at hanswer hprev
  generalize clampDelay list handle _ = delay at hanswer
  generalize (ask I.kernel s.log (switchCall delay handle ++ _)).reverse ++ s.log = log at hanswer
  rcases ask_due (s := s) (K := I.kernel) log .mag with ⟨-, -, hne⟩ | ⟨hnone, -⟩
  · -- the `-EINVAL` is the magnetometer's answer, so its rate changed
    exact hne (hprev.symm.trans (hrates .mag).1)
  · rw [hnone, reply_nil] at hanswer
    exact absurd hanswer (by decide)

/-- For every `int32_t` handle, the errors of a request are reported exactly if they reach the
magnetometer's, the last to be written. -/
theorem delayErrors_iff (I : Ioctl) (list : List SensorT) (s : HubSensors F) (handle ns : ℤ) :
    s.ReportsErrors I list (.ofInt handle) ns ↔ s.ErrorsReach I list (.ofInt handle) ns := by
  generalize SensorHandle.ofInt handle = handle
  by_cases hns : ns < 0
  · refine iff_of_true ?_ (.inl hns)
    rw [ReportsErrors, setDelay, if_pos hns]
    have hrefused : -EINVAL ≠ 0 := by decide
    exact ⟨fun h => absurd h hrefused, fun _ => ⟨rfl, fun _ => ⟨rfl, rfl⟩⟩⟩
  cases hsupported : handle.hasDelay with
  | false =>
    refine iff_of_false (not_reportsErrors I list hsupported hns) ?_
    rintro (h | ⟨h, -⟩)
    · exact hns h
    · exact Bool.false_ne_true (hsupported.symm.trans h)
  | true =>
    obtain ⟨hlog, hresult⟩ := setDelay_asked (K := I.kernel) (s := s) list handle hns
    unfold ReportsErrors ErrorsReach
    simp only [← and_imp, ← hlog.mem_logs_iff, logs_append _ (switchCall _ _ ++ _),
      @List.forall_mem_append _ _ (logs _ _ (switchCall _ _ ++ _)), hresult, hsupported,
      true_and, Bool.true_eq_false, false_implies, and_true, hns, false_or]
    generalize (ask I.kernel s.log (switchCall _ _ ++ _)).reverse ++ s.log = log
    generalize (∀ log ∈ logs I.kernel s.log (switchCall _ _ ++ _), I.Tolerated log) = tolerated
    rcases ask_due (s := (s.delaySwitch I.kernel (clampDelay list handle (toUShort (ns / 1000000)))
      handle).2) (K := I.kernel) log .mag with ⟨hmag, hlogs, -⟩ | ⟨hmag, hlogs⟩
    · rw [hmag, hlogs, reply_singleton, ioctl_result]
      simp only [List.mem_singleton, forall_eq, exists_eq_left]
      generalize I.kernel log _ = answer
      constructor
      · intro h
        by_cases hzero : answer = 0
        · exact .inr (h hzero).1
        · exact .inl hzero
      · rintro (hne | h) hzero
        · exact absurd hzero hne
        · refine ⟨h, fun e he => .inl ?_⟩
          obtain rfl := Option.some.inj he
          exact hzero.ge
    · rw [hmag, hlogs, reply_nil]
      simp [ EIO]

end HubSensors

def refuseAls : Ioctl where
  kernel _ c :=
    match c with
    | .setAlsDelay _ => -1
    | _ => 0
  errno _ := EINVAL
  returns _ c := by cases c <;> simp

/-- The driver refuses the light sensor's period, and the three rates after it succeed. -/
theorem refused_als_delay_lost :
    ¬ (HubSensors.start none none : HubSensors ℚ).ReportsErrors refuseAls (sSensorList true)
      (.ofInt SensorHandle.ID_L.value) 20000000 := by
  rintro ⟨hzero, -⟩
  obtain ⟨-, htolerated⟩ := hzero (by decide +kernel)
  have hals := htolerated [(.setAlsDelay 0, -1)] (by decide +kernel) (by decide)
  exact absurd (hals _ rfl) (by decide)

end Cedric.Hub
