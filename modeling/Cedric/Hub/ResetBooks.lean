import Cedric.Hub.Trace
import Cedric.Lib.Ledger

/-!
# Hub resets and dropbox dumps

`ledger` reads the reset records of a run and the dumps of the call log as one
history. Each step adds to it what `BookStep` says. The counters hold eight bits,
a direct report leaves `mPendingBug2go` set, and the time 0 of a report reads as
"none yet"; `Accountable` keeps a run clear of the three.
-/

namespace Cedric.Hub

open Ledger Runs

variable {F : Type}

def DAY : ℤ := 24 * 60 * 60

def Sys.dumped : Sys → Option Entry
  | .dump sec _ counts => some (.dump sec (counts.map BitVec.toNat))
  | _ => none

def dumps (log : Log) : List Entry := log.filterMap fun e => e.1.dumped

theorem dumps_cons {c : Sys} (h : c.dumped = none) (r : ℤ) (log : Log) :
    dumps ((c, r) :: log) = dumps log := by
  simp [dumps, h]

def Input.resets : Input → List Entry
  | .record b => if b.type = .DT_RESET then [.reset (b.data 0).toNat] else []
  | _ => []

namespace HubSensors

variable (s : HubSensors F)

def errorCount (r : ℕ) : ℕ := (s.mErrorCnt r).toNat

/-- A report is due: none was made yet, or the last one is more than a day old. -/
def bug2goDue (now : ℤ) : Prop := s.sentBug2goSec = 0 ∨ now - s.sentBug2goSec > DAY

def dropboxOpens (K : Kernel) (now : ℤ) : Bool :=
  decide (K s.log (.localtime now) ≠ 0) &&
    decide (K ((.localtime now, K s.log (.localtime now)) :: s.log) .gzopen ≠ 0)

/-- The run's next entries: its reset record, then the dumps the step added to the log. -/
def bookStep [FloatOps F] (H : Stml0xxHeader) (K : Kernel) (list : List SensorT) (i : Input) :
    HubSensors F × List Entry :=
  let t := s.next H K list i
  (t, i.resets ++
    ((dumps t.log).take ((dumps t.log).length - (dumps s.log).length)).reverse)

def ledger [FloatOps F] (H : Stml0xxHeader) (K : Kernel) (list : List SensorT) (is : List Input) :
    List Entry :=
  (transduce (fun t i => bookStep t H K list i) s is).2

structure Silent (t : HubSensors F) : Prop where
  pending : t.mPendingBug2go = s.mPendingBug2go
  errors : t.mErrorCnt = s.mErrorCnt
  sent : t.sentBug2goSec = s.sentBug2goSec
  log : dumps t.log = dumps s.log

variable {s} {t u : HubSensors F}

theorem Silent.refl : s.Silent s := ⟨rfl, rfl, rfl, rfl⟩

theorem Silent.trans (h : s.Silent t) (h' : t.Silent u) : s.Silent u :=
  ⟨h'.pending.trans h.pending, h'.errors.trans h.errors, h'.sent.trans h.sent, h'.log.trans h.log⟩

theorem silent_syscall (K : Kernel) {c : Sys} (h : c.dumped = none) : s.Silent (s.syscall K c).2 :=
  ⟨rfl, rfl, rfl, dumps_cons h _ _⟩

theorem silent_updateRate (K : Kernel) (d p : ℕ) {call : ℕ → Sys}
    {store : ℕ → HubSensors F → HubSensors F} (hcall : ∀ n, (call n).dumped = none)
    (hstore : ∀ n t, Silent t (store n t)) : s.Silent (s.updateRate K d p call store).2 := by
  rw [updateRate]
  split_ifs
  · exact (silent_syscall K (hcall d)).trans (hstore d _)
  · exact .refl

theorem silent_updateAccelRate (K : Kernel) : s.Silent (s.updateAccelRate K).2 :=
  silent_updateRate K _ _ (fun _ => rfl) fun _ _ => ⟨rfl, rfl, rfl, rfl⟩

theorem silent_updateGyroRate (K : Kernel) : s.Silent (s.updateGyroRate K).2 :=
  silent_updateRate K _ _ (fun _ => rfl) fun _ _ => ⟨rfl, rfl, rfl, rfl⟩

theorem silent_updateMagRate (K : Kernel) : s.Silent (s.updateMagRate K).2 :=
  silent_updateRate K _ _ (fun _ => rfl) fun _ _ => ⟨rfl, rfl, rfl, rfl⟩

theorem silent_checkSensor (needed : HubSensors F → Bool) (bit : Fin 32)
    {update : HubSensors F → ℤ × HubSensors F} (hu : ∀ t, Silent t (update t).2) (c : Pending F) :
    c.hub.Silent (checkSensor needed bit update c).hub := by
  rw [checkSensor]
  split_ifs
  · exact hu _
  · exact .refl

theorem silent_applySensors (K : Kernel) (c : Pending F) :
    c.hub.Silent (applySensors K c).hub := by
  simp only [applySensors]
  split_ifs
  · exact (silent_syscall K (c := .setSensors c.newEnabled) rfl).trans ⟨rfl, rfl, rfl, rfl⟩
  · exact .refl

theorem silent_checkSensors (H : Stml0xxHeader) (K : Kernel) (c : Pending F) :
    c.hub.Silent (checkSensors H K c).hub := by
  have haccel (c : Pending F) := silent_checkSensor isAccelNeeded (H.sensorBit .M_ACCEL)
    (fun t => silent_updateAccelRate (s := t) K) c
  have hgyro (c : Pending F) := silent_checkSensor isGyroNeeded (H.sensorBit .M_GYRO)
    (fun t => silent_updateGyroRate (s := t) K) c
  have hmag (c : Pending F) := silent_checkSensor isMagNeeded (H.sensorBit .M_ECOMPASS)
    (fun t => silent_updateMagRate (s := t) K) c
  exact ((haccel c).trans (hgyro _)).trans (hmag _)

theorem silent_wake (H : Stml0xxHeader) (K : Kernel) (newState : Bool) (h : SensorHandle) (err : ℤ) :
    s.Silent (s.wake H K newState h err).2 := by
  rw [wake]
  cases s.wakeSwitch H newState h with
  | none => exact .refl
  | some m =>
    dsimp only
    split_ifs
    · exact (silent_syscall K (c := .setWakeSensors m) rfl).trans ⟨rfl, rfl, rfl, rfl⟩
    · exact .refl

theorem Fuses.silent (h : Fuses s t) : s.Silent t := by
  obtain ⟨data, ready, geomag, game, rotation, rfl⟩ := h
  exact ⟨rfl, rfl, rfl, rfl⟩

theorem silent_onCal (K : Kernel) {get save : Sys} (hg : get.dumped = none)
    (hs : save.dumped = none) : s.Silent (s.onCal K get save) := by
  have hget : s.Silent (s.syscall K get).2 := silent_syscall K hg
  simp only [onCal]
  split_ifs
  · exact hget
  · exact hget.trans (silent_syscall K hs)

variable [FloatOps F]

theorem silent_nonWake (H : Stml0xxHeader) (K : Kernel) (newState : Bool) (h : SensorHandle) :
    s.Silent (s.nonWake H K newState h).2 := by
  cases hf : s.nonWakeSwitch H newState h with
  | none =>
    rw [nonWake_none K hf]
    exact .refl
  | some found =>
    obtain ⟨t, m⟩ := found
    have hflag : s.Silent t := by
      rcases nonWakeSwitch_found hf with rfl | ⟨i, rfl⟩
      · exact .refl
      · exact ⟨rfl, rfl, rfl, rfl⟩
    rw [nonWake, hf]
    exact ((hflag.trans (silent_checkSensors H K ⟨0, m, t⟩)).trans (silent_applySensors K _)).trans
      (resetNineAxis_fuses.trans resetSixAxis_fuses).silent

theorem silent_setEnable (H : Stml0xxHeader) (K : Kernel) (h : SensorHandle) (en : ℤ) :
    s.Silent (s.setEnable H K h en).2 :=
  ((silent_nonWake H K _ h).trans (silent_wake H K _ h _)).trans ⟨rfl, rfl, rfl, rfl⟩

omit [FloatOps F] in
theorem silent_delaySwitch (K : Kernel) (delay : ℕ) (h : SensorHandle) :
    s.Silent (s.delaySwitch K delay h).2 := by
  cases h with
  | ID_L => exact silent_syscall K rfl
  | ID_STEP_COUNTER => exact silent_syscall K rfl
  | _ => exact ⟨rfl, rfl, rfl, rfl⟩

omit [FloatOps F] in
theorem silent_setDelay (K : Kernel) (list : List SensorT) (h : SensorHandle) (ns : ℤ) :
    s.Silent (s.setDelay K list h ns).2 := by
  by_cases hns : ns < 0
  · rw [setDelay, if_pos hns]
    exact .refl
  · unfold setDelay
    rw [if_neg hns]
    extract_lets delay stored accel gyro mag
    have hstored : s.Silent stored.2 := silent_delaySwitch K delay h
    have haccel : stored.2.Silent accel.2 := silent_updateAccelRate K
    have hgyro : accel.2.Silent gyro.2 := silent_updateGyroRate K
    exact ((hstored.trans haccel).trans hgyro).trans (silent_updateMagRate K)

structure Report (s t : HubSensors F) (H : Stml0xxHeader) (now : ℤ) (opens : Bool)
    (entries : List Entry) : Prop where
  pending : t.mPendingBug2go = s.mPendingBug2go
  errors : t.mErrorCnt = if opens then fun _ => 0 else s.mErrorCnt
  log : ∃ new, dumps t.log = new ++ dumps s.log ∧ new.reverse = entries
  written : if opens then ∃ c, entries = [.dump now c] ∧
      ∀ r ≤ H.RESET_REASON_MAX_CODE, c.getD r 0 = s.errorCount r
    else entries = []

omit [FloatOps F] in
theorem captureDump_report (H : Stml0xxHeader) (K : Kernel) (now : ℤ) (id : DataType) :
    ∃ entries, Report s (s.captureDump H K now id) H now (decide (K s.log .gzopen ≠ 0))
      entries := by
  by_cases ho : K s.log .gzopen = 0
  · have hclosed : s.captureDump H K now id = (s.syscall K .gzopen).2 := if_pos ho
    rw [hclosed, decide_eq_false (not_not.mpr ho)]
    exact ⟨[], rfl, rfl, ⟨[], rfl, rfl⟩, rfl⟩
  · have hopen : s.captureDump H K now id =
        { ((s.syscall K .gzopen).2.syscall K (.dump now id
            ((List.range (H.RESET_REASON_MAX_CODE + 1)).map s.mErrorCnt))).2 with
          mErrorCnt := fun _ => 0 } := if_neg ho
    rw [hopen, decide_eq_true ho]
    refine ⟨_, rfl, rfl, ⟨[_], rfl, rfl⟩, _, rfl, fun r hr => ?_⟩
    have hr' : r < H.RESET_REASON_MAX_CODE + 1 := Nat.lt_succ_of_le hr
    simp [errorCount, List.getD_eq_getElem?_getD, hr']

omit [FloatOps F] in
theorem bug2go_report (H : Stml0xxHeader) (K : Kernel) (now : ℤ) (id : DataType) :
    (s.bug2go H K now id).sentBug2goSec = now ∧
      ∃ entries, Report s (s.bug2go H K now id) H now (s.dropboxOpens K now) entries := by
  refine ⟨rfl, ?_⟩
  by_cases hl : K s.log (.localtime now) = 0
  · have hnone : s.bug2go H K now id =
        { (s.syscall K (.localtime now)).2 with sentBug2goSec := now } :=
      congrArg (fun t : HubSensors F => { t with sentBug2goSec := now }) (if_neg (not_not.mpr hl))
    rw [hnone, dropboxOpens, decide_eq_false (not_not.mpr hl)]
    exact ⟨[], rfl, rfl, ⟨[], rfl, rfl⟩, rfl⟩
  · have hdump : s.bug2go H K now id =
        { (s.syscall K (.localtime now)).2.captureDump H K now id with sentBug2goSec := now } :=
      congrArg (fun t : HubSensors F => { t with sentBug2goSec := now }) (if_pos hl)
    obtain ⟨entries, hpending, herrors, hlog, hwritten⟩ :=
      captureDump_report (s := (s.syscall K (.localtime now)).2) H K now id
    rw [hdump, dropboxOpens, decide_eq_true hl, Bool.true_and]
    exact ⟨entries, hpending, herrors, hlog, hwritten⟩

def counted (s : HubSensors F) (H : Stml0xxHeader) (K : Kernel) (b : SensorData) : HubSensors F :=
  let reason := (b.data 0).toNat
  let s := (s.syscall K .time).2
  if reason ≤ H.RESET_REASON_MAX_CODE then
    { s with mErrorCnt := Function.update s.mErrorCnt reason (s.mErrorCnt reason + 1) }
  else s

omit [FloatOps F] in
theorem counted_books (H : Stml0xxHeader) (K : Kernel) (b : SensorData) :
    (s.counted H K b).mPendingBug2go = s.mPendingBug2go ∧
      (s.counted H K b).sentBug2goSec = s.sentBug2goSec ∧
      (s.counted H K b).log = (s.syscall K .time).2.log := by
  simp only [counted]
  split_ifs <;> exact ⟨rfl, rfl, rfl⟩

omit [FloatOps F] in
theorem counted_errorCount (H : Stml0xxHeader) (K : Kernel) (b : SensorData)
    (hfit : (b.data 0).toNat ≤ H.RESET_REASON_MAX_CODE → s.errorCount (b.data 0).toNat < 255)
    (r : ℕ) (hr : r ≤ H.RESET_REASON_MAX_CODE) :
    (s.counted H K b).errorCount r =
      if (b.data 0).toNat = r then s.errorCount r + 1 else s.errorCount r := by
  by_cases hreason : (b.data 0).toNat ≤ H.RESET_REASON_MAX_CODE
  · have hcounted : (s.counted H K b).mErrorCnt = Function.update s.mErrorCnt (b.data 0).toNat
        (s.mErrorCnt (b.data 0).toNat + 1) := by
      simp only [counted, if_pos hreason]
      rfl
    rw [errorCount, hcounted]
    by_cases heq : (b.data 0).toNat = r
    · have hsmall := hfit hreason
      rw [heq] at hsmall ⊢
      rw [errorCount] at hsmall
      simp only [Function.update_self, ↓reduceIte, errorCount, BitVec.toNat_add]
      exact Nat.mod_eq_of_lt (Nat.succ_lt_succ hsmall)
    · rw [Function.update_of_ne (Ne.symm heq), if_neg heq, errorCount]
  · have hother : (b.data 0).toNat ≠ r := fun heq => hreason (heq ▸ hr)
    have hcounted : s.counted H K b = (s.syscall K .time).2 := by
      simp only [counted, if_neg hreason]
    rw [hcounted, if_neg hother]
    rfl

omit [FloatOps F] in
theorem onReset_due (H : Stml0xxHeader) (K : Kernel) (b : SensorData)
    (hdue : s.bug2goDue (K s.log .time)) :
    s.onReset H K b = (s.counted H K b).bug2go H K (K s.log .time) b.type := by
  have hdue' : (s.counted H K b).sentBug2goSec = 0 ∨
      K s.log .time - (s.counted H K b).sentBug2goSec > 24 * 60 * 60 := by
    rw [(counted_books H K b).2.1]
    exact hdue
  exact if_pos hdue'

omit [FloatOps F] in
theorem onReset_early (H : Stml0xxHeader) (K : Kernel) (b : SensorData)
    (hdue : ¬ s.bug2goDue (K s.log .time)) :
    s.onReset H K b = { s.counted H K b with mPendingBug2go := true } := by
  have hdue' : ¬ ((s.counted H K b).sentBug2goSec = 0 ∨
      K s.log .time - (s.counted H K b).sentBug2goSec > 24 * 60 * 60) := by
    rw [(counted_books H K b).2.1]
    exact hdue
  exact if_neg hdue'

/-- No counter wraps, no direct dump is made over a pending one, and no report at time 0. -/
def Accountable (H : Stml0xxHeader) (K : Kernel) (s : HubSensors F) : Input → Prop
  | .record b => b.type = .DT_RESET →
      ((b.data 0).toNat ≤ H.RESET_REASON_MAX_CODE → s.errorCount (b.data 0).toNat < 255) ∧
      (s.bug2goDue (K s.log .time) → K s.log .time ≠ 0 ∧
        (s.mPendingBug2go = false ∨
          (s.syscall K .time).2.dropboxOpens K (K s.log .time) = false))
  | .readEnd _ => s.mPendingBug2go = true → K s.log .time - s.sentBug2goSec > DAY →
      K s.log .time ≠ 0
  | _ => True

variable {h : List Entry} {H : Stml0xxHeader} {K : Kernel} {list : List SensorT}

omit [FloatOps F] in
theorem Report.keeps {now : ℤ} {opens : Bool} {entries : List Entry} {pending : Bool}
    (hr : Report s t H now opens entries)
    (hk : Kept DAY H.RESET_REASON_MAX_CODE h s.errorCount s.sentBug2goSec s.mPendingBug2go)
    (hout : 1 ≤ outstanding h) (hdue : s.bug2goDue now) (hnow : now ≠ 0)
    (hclear : opens = true → pending = false) :
    Kept DAY H.RESET_REASON_MAX_CODE (h ++ entries) t.errorCount now pending := by
  have hgap : 0 ≤ DAY := by decide
  obtain ⟨-, herrors, -, hwritten⟩ := hr
  cases opens with
  | false =>
    have hcount : t.errorCount = s.errorCount := by
      funext r
      rw [errorCount, herrors]
      rfl
    have hnone : entries = [] := hwritten
    rw [hcount, hnone, List.append_nil]
    exact hk.missed hgap hout hdue hnow
  | true =>
    have hcount : t.errorCount = fun _ => 0 := by
      funext r
      rw [errorCount, herrors]
      rfl
    obtain ⟨c, hentry, hc⟩ := hwritten
    rw [hcount, hentry, hclear rfl]
    exact hk.dump hgap hout hdue hnow hc

theorem bookStep_out {i : Input} {new : List Entry}
    (hlog : dumps (s.next H K list i).log = new ++ dumps s.log) :
    (s.bookStep H K list i).2 = i.resets ++ new.reverse := by
  simp only [bookStep, hlog, List.length_append, Nat.add_sub_cancel, List.take_left']

theorem kept_silent {i : Input} (hi : i.resets = []) (ht : s.Silent (s.next H K list i))
    (hk : Kept DAY H.RESET_REASON_MAX_CODE h s.errorCount s.sentBug2goSec s.mPendingBug2go) :
    Kept DAY H.RESET_REASON_MAX_CODE (h ++ (s.bookStep H K list i).2)
      (s.next H K list i).errorCount (s.next H K list i).sentBug2goSec
      (s.next H K list i).mPendingBug2go := by
  have hcount : (s.next H K list i).errorCount = s.errorCount := by
    funext r
    rw [errorCount, ht.errors]
    rfl
  have hlog : dumps (s.next H K list i).log = [] ++ dumps s.log := ht.log
  rw [bookStep_out hlog, hi, hcount, ht.sent, ht.pending]
  simpa using hk

theorem handleRecord_silent {b : SensorData} (hb : b.type ≠ .DT_RESET) :
    s.Silent (s.handleRecord H K b).1 := by
  rw [handleRecord]
  cases ht : b.type with
  | DT_RESET => exact absurd ht hb
  | DT_ACCEL => exact (onAccel_fuses b).silent
  | DT_GYRO => exact (onGyro_fuses b).silent
  | DT_GYRO_CAL => exact silent_onCal K rfl rfl
  | DT_ACCEL_CAL => exact silent_onCal K rfl rfl
  | DT_MOTION_DETECT => exact silent_setEnable H K .ID_MOTION_DETECT 0
  | DT_STATIONARY_DETECT => exact silent_setEnable H K .ID_STATIONARY_DETECT 0
  | _ => exact ⟨rfl, rfl, rfl, rfl⟩

theorem kept_reset {b : SensorData} (hb : b.type = .DT_RESET) (hacc : Accountable H K s (.record b))
    (hk : Kept DAY H.RESET_REASON_MAX_CODE h s.errorCount s.sentBug2goSec s.mPendingBug2go) :
    Kept DAY H.RESET_REASON_MAX_CODE (h ++ (s.bookStep H K list (.record b)).2)
      (s.next H K list (.record b)).errorCount (s.next H K list (.record b)).sentBug2goSec
      (s.next H K list (.record b)).mPendingBug2go := by
  obtain ⟨hfit, hdirect⟩ := hacc hb
  obtain ⟨hpending, hsent, hclog⟩ := counted_books (s := s) H K b
  have hnext : s.next H K list (.record b) = s.onReset H K b := by
    simp only [next, feed, handleRecord, hb]
  have hresets : (Input.record b).resets = [.reset (b.data 0).toNat] := if_pos hb
  have hdumps : dumps (s.counted H K b).log = dumps s.log := by
    rw [hclog]
    exact dumps_cons rfl _ _
  have hcounted (p : Bool) := hk.reset p (b.data 0).toNat
    (counted_errorCount H K b hfit)
  by_cases hdue : s.bug2goDue (K s.log .time)
  · obtain ⟨hnow, hclear⟩ := hdirect hdue
    obtain ⟨hsent', entries, hreport⟩ :=
      bug2go_report (s := s.counted H K b) H K (K s.log .time) b.type
    rw [← onReset_due H K b hdue, ← hnext] at hsent' hreport
    obtain ⟨new, hnew, hentries⟩ := hreport.log
    rw [hdumps] at hnew
    have hout : 1 ≤ outstanding (h ++ [.reset (b.data 0).toNat]) := by
      rw [outstanding_reset]
      omega
    have hopens : (s.counted H K b).dropboxOpens K (K s.log .time) = true →
        (s.next H K list (.record b)).mPendingBug2go = false := by
      intro ho
      rw [hreport.pending, hpending]
      rcases hclear with hclear | hclear
      · exact hclear
      · rw [dropboxOpens, hclog] at ho
        rw [dropboxOpens, ho] at hclear
        cases hclear
    rw [bookStep_out hnew, hresets, hentries, hsent', ← List.append_assoc]
    refine hreport.keeps ?_ hout ?_ hnow hopens
    · rw [hsent]
      exact hcounted _
    · rw [bug2goDue, hsent]
      exact hdue
  · have hearly := onReset_early H K b hdue
    rw [← hnext] at hearly
    have hlog : dumps (s.next H K list (.record b)).log = [] ++ dumps s.log := by
      rw [hearly]
      exact hdumps
    rw [bookStep_out hlog, hresets, hearly]
    change Kept DAY H.RESET_REASON_MAX_CODE (h ++ [.reset (b.data 0).toNat])
      (s.counted H K b).errorCount (s.counted H K b).sentBug2goSec true
    rw [hsent]
    exact hcounted true

theorem kept_readEnd {type : DataType} (hacc : Accountable H K s (.readEnd type))
    (hk : Kept DAY H.RESET_REASON_MAX_CODE h s.errorCount s.sentBug2goSec s.mPendingBug2go) :
    Kept DAY H.RESET_REASON_MAX_CODE (h ++ (s.bookStep H K list (.readEnd type)).2)
      (s.next H K list (.readEnd type)).errorCount
      (s.next H K list (.readEnd type)).sentBug2goSec
      (s.next H K list (.readEnd type)).mPendingBug2go := by
  have hnext : s.next H K list (.readEnd type) = s.pendingDump H K type := rfl
  have htime : s.Silent (s.syscall K .time).2 := silent_syscall K rfl
  cases hp : s.mPendingBug2go with
  | false =>
    have hsame : s.pendingDump H K type = s := by
      rw [pendingDump, hp]
      rfl
    exact kept_silent rfl (by rw [hnext, hsame]; exact .refl) hk
  | true =>
    by_cases hdue : K s.log .time - s.sentBug2goSec > DAY
    · have hdump : s.pendingDump H K type =
          { (s.syscall K .time).2.bug2go H K (K s.log .time) type with mPendingBug2go := false } := by
        rw [pendingDump, if_pos hp]
        exact if_pos hdue
      obtain ⟨hsent, entries, hreport⟩ :=
        bug2go_report (s := (s.syscall K .time).2) H K (K s.log .time) type
      obtain ⟨new, hnew, hentries⟩ := hreport.log
      have hlog : dumps (s.next H K list (.readEnd type)).log = new ++ dumps s.log := by
        rw [hnext, hdump, ← htime.log]
        exact hnew
      rw [bookStep_out hlog, hnext, hdump, hentries]
      change Kept DAY H.RESET_REASON_MAX_CODE (h ++ entries)
        ((s.syscall K .time).2.bug2go H K (K s.log .time) type).errorCount
        ((s.syscall K .time).2.bug2go H K (K s.log .time) type).sentBug2goSec false
      rw [hsent]
      exact hreport.keeps hk (hk.flag hp) (Or.inr hdue) (hacc hp hdue) fun _ => rfl
    · have hsame : s.pendingDump H K type = (s.syscall K .time).2 := by
        rw [pendingDump, if_pos hp]
        exact if_neg hdue
      exact kept_silent rfl (by rw [hnext, hsame]; exact htime) hk

theorem kept_next (i : Input) (hacc : Accountable H K s i)
    (hk : Kept DAY H.RESET_REASON_MAX_CODE h s.errorCount s.sentBug2goSec s.mPendingBug2go) :
    Kept DAY H.RESET_REASON_MAX_CODE (h ++ (s.bookStep H K list i).2)
      (s.next H K list i).errorCount (s.next H K list i).sentBug2goSec
      (s.next H K list i).mPendingBug2go := by
  cases i with
  | setEnable x en => exact kept_silent rfl (silent_setEnable H K x en) hk
  | setDelay x ns => exact kept_silent rfl (silent_setDelay K list x ns) hk
  | readEnd type => exact kept_readEnd hacc hk
  | record b =>
    by_cases hb : b.type = .DT_RESET
    · exact kept_reset hb hacc hk
    · exact kept_silent (if_neg hb) (handleRecord_silent hb) hk

theorem kept_run (is : List Input) (hacc : Along (fun t i => t.next H K list i) (Accountable H K) s is)
    (hk : Kept DAY H.RESET_REASON_MAX_CODE h s.errorCount s.sentBug2goSec s.mPendingBug2go) :
    let t := is.foldl (fun t i => t.next H K list i) s
    Kept DAY H.RESET_REASON_MAX_CODE (h ++ s.ledger H K list is) t.errorCount t.sentBug2goSec
      t.mPendingBug2go := by
  induction is generalizing s h with
  | nil => simpa [ledger, transduce] using hk
  | cons i is ih =>
    have hrest := ih hacc.2 (kept_next i hacc.1 hk)
    rw [List.append_assoc] at hrest
    exact hrest

end HubSensors

/-- Along a run whose steps are accountable the dumps are more than a day apart, each
follows a reset not yet dumped, and with the current counters they count every reset. -/
theorem reset_accounting [FloatOps F] (H : Stml0xxHeader) (K : Kernel) (list : List SensorT)
    (flags16 : Option (BitVec 16)) (flags24 : Option (BitVec 32)) (ops : List Op)
    (hacc : Along (fun t i => t.next H K list i) (HubSensors.Accountable H K)
      (HubSensors.start flags16 flags24 : HubSensors F)
      ((HubSensors.start flags16 flags24 : HubSensors F).trace H K list ops)) :
    Sound DAY H.RESET_REASON_MAX_CODE
      ((HubSensors.start flags16 flags24 : HubSensors F).ledger H K list
        ((HubSensors.start flags16 flags24 : HubSensors F).trace H K list ops))
      ((HubSensors.start flags16 flags24 : HubSensors F).run H K list ops).errorCount := by
  have hrun := HubSensors.kept_run _ hacc Kept.start
  rw [List.nil_append] at hrun
  rw [HubSensors.run_eq_foldl_trace]
  exact hrun.toSound

/-- A clock that reads the given seconds one after another, with `localtime` and the
dropbox file always working. -/
def clockKernel (readings : List ℤ) : Kernel := fun log c =>
  match c with
  | .time => readings.getD (log.countP fun e => decide (e.1 = .time)) 0
  | _ => 1

def clockReadings (log : Log) : List ℤ :=
  log.filterMap fun e => if e.1 = .time then some e.2 else none

theorem reset_accounting_once :
    Sound DAY 15
      ((HubSensors.start none none : HubSensors ℚ).ledger .numbered (clockKernel [1, 2])
        (sSensorList true) ((HubSensors.start none none : HubSensors ℚ).trace .numbered
          (clockKernel [1, 2]) (sSensorList true)
          [.readEvents (.blank (.other 0)) 16 [.full (.blank .DT_RESET)]]))
      ((HubSensors.start none none : HubSensors ℚ).run .numbered (clockKernel [1, 2])
        (sSensorList true)
        [.readEvents (.blank (.other 0)) 16 [.full (.blank .DT_RESET)]]).errorCount :=
  reset_accounting .numbered (clockKernel [1, 2]) (sSensorList true) none none
    [.readEvents (.blank (.other 0)) 16 [.full (.blank .DT_RESET)]]
    ⟨fun _ => ⟨fun _ => by decide +kernel, fun _ => by decide +kernel⟩,
      fun h => absurd h (by decide +kernel), trivial⟩

/-- Three calls: two resets, one reset a day later, and none another day later. -/
def repeatedDump : List Op :=
  [.readEvents (.blank (.other 0)) 16 [.full (.blank .DT_RESET), .full (.blank .DT_RESET)],
    .readEvents (.blank (.other 0)) 16 [.full (.blank .DT_RESET)],
    .readEvents (.blank (.other 0)) 16 []]

/-- The direct dump of the second call leaves the flag set, and the third call dumps
again although no reset came in between. -/
theorem dump_without_reset :
    let K := clockKernel [1, 2, 3, 100000, 100001, 200000]
    let s : HubSensors ℚ := HubSensors.start none none
    let log := (s.run .numbered K (sSensorList true) repeatedDump).log
    (clockReadings log).Pairwise (· ≥ ·) ∧ (∀ e ∈ log, ∀ sec, e.1 = .localtime sec → e.2 ≠ 0) ∧
      ¬ Sound DAY 15 (s.ledger .numbered K (sSensorList true)
          (s.trace .numbered K (sSensorList true) repeatedDump))
        (s.run .numbered K (sSensorList true) repeatedDump).errorCount := by
  refine ⟨by decide +kernel, ?_, fun h => ?_⟩
  · intro e he sec hsec
    have hall : ∀ e ∈ ((HubSensors.start none none : HubSensors ℚ).run .numbered
        (clockKernel [1, 2, 3, 100000, 100001, 200000]) (sSensorList true) repeatedDump).log,
        e.1 ≠ .time → e.2 = 1 := by
      decide +kernel
    rw [hall e he (by rw [hsec]; exact fun h => nomatch h)]
    decide
  · have hfollows := h.follows [.reset 0, .dump 1 [1, 0, 0, 0, 0, 0, 0, 0, 0, 0, 0, 0, 0, 0, 0, 0],
      .reset 0, .reset 0, .dump 100000 [2, 0, 0, 0, 0, 0, 0, 0, 0, 0, 0, 0, 0, 0, 0, 0]] 200000
      [0, 0, 0, 0, 0, 0, 0, 0, 0, 0, 0, 0, 0, 0, 0, 0] (by decide +kernel)
    exact absurd hfollows (by decide)

end Cedric.Hub
