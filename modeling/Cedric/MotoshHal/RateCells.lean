import Cedric.Lib.Derived
import Cedric.MotoshHal.Batch

/-!
# The clients of gyroscope and ecompass

Five clients share two rates. What a call writes is a cell of its own client, and
the rates and the ecompass bit are derived from the cells. Calls of different
clients commute, and so do a request and the enabling of one client.
-/

namespace Cedric.MotoshHal

open BitFlags Derived Hub

inductive Client
  | gyro | uncalGyro | mag | orient | uncalMag
  deriving DecidableEq

namespace Client

def handle : Client → SensorHandle
  | gyro => .ID_G
  | uncalGyro => .ID_UNCALIB_GYRO
  | mag => .ID_M
  | orient => .ID_O
  | uncalMag => .ID_UNCALIB_MAG

theorem handle_injective : Function.Injective handle := by
  intro c d h
  cases c <;> cases d <;> first | rfl | cases h

def onEcompass : Client → Bool
  | gyro | uncalGyro => false
  | mag | orient | uncalMag => true

def ownBit : Client → Option SensorMask
  | gyro => some .M_GYRO
  | uncalGyro => some .M_UNCALIB_GYRO
  | mag | orient => none
  | uncalMag => some .M_UNCALIB_MAG

theorem listed (B : Build) (c : Client) : mIdToSensor B c.handle = true := by
  cases c <;> rfl

end Client

inductive Call
  | setEnable (c : Client) (en : ℤ)
  | batch (c : Client) (ns timeout : ℤ)

namespace Call

def client : Call → Client
  | setEnable c _ => c
  | batch c _ _ => c

end Call

@[ext]
structure ClientCell where
  on : Bool
  req : ℕ
  bit : Bool
  handle : Bool

namespace ClientCell

def switch (b : Bool) (x : ClientCell) : ClientCell := ⟨b, if b then x.req else USHRT_MAX, b, b⟩
def ask (ms : ℕ) (x : ClientCell) : ClientCell := { x with req := ms }
def wanted (x : ClientCell) : ℕ := if x.on then x.req else USHRT_MAX

theorem switch_ask (ms : ℕ) (x : ClientCell) : (x.ask ms).switch true = (x.switch true).ask ms :=
  rfl

end ClientCell

inductive Value
  | gyroRate | ecompassRate | ecompassBit
  deriving DecidableEq

def Value.Carrier : Value → Type
  | gyroRate | ecompassRate => ℕ
  | ecompassBit => Bool

def Value.compute : (k : Value) → (Client → ClientCell) → k.Carrier
  | gyroRate, x => HubSensors.minReqDelay [(x .gyro).wanted, (x .uncalGyro).wanted]
  | ecompassRate, x =>
    HubSensors.minReqDelay [(x .mag).wanted, (x .orient).wanted, (x .uncalMag).wanted]
  | ecompassBit, x => (x .mag).on || (x .orient).on

namespace Call

def change : Call → ClientCell → ClientCell
  | setEnable _ en => ClientCell.switch (decide (en ≠ 0))
  | batch _ ns _ => if ns < 0 then id else ClientCell.ask (HubSensors.batchDelay ns)

/-- What the call computes again: a delay leaves the ecompass bit alone. -/
def touches : Call → Value → Bool
  | setEnable c _, .gyroRate => !c.onEcompass
  | setEnable c _, .ecompassRate => c.onEcompass
  | setEnable c _, .ecompassBit => c.onEcompass
  | batch c ns _, .gyroRate => !decide (ns < 0) && !c.onEcompass
  | batch c ns _, .ecompassRate => !decide (ns < 0) && c.onEcompass
  | batch _ _ _, .ecompassBit => false

def op (call : Call) : Op (Client → ClientCell) Value where
  act x := Function.update x call.client (call.change (x call.client))
  touches := call.touches

theorem change_idle {c : Client} {ns timeout : ℤ} (hns : ns < 0) (x : ClientCell) :
    (batch c ns timeout).change x = x := by
  rw [change, if_pos hns]
  rfl

theorem op_sound (call : Call) : call.op.Sound Value.compute := by
  intro k x htouch
  cases call with
  | setEnable c en =>
    cases c <;> cases k <;>
      first | rfl | exact absurd htouch (by simp [op, touches, Client.onEcompass])
  | batch c ns timeout =>
    by_cases hns : ns < 0
    · have hidle : (batch c ns timeout).op.act x = x := by
        simp only [op, change_idle hns]
        exact Function.update_eq_self _ _
      rw [hidle]
    · cases k with
      | ecompassBit =>
        have hon (d : Client) : ((batch c ns timeout).op.act x d).on = (x d).on := by
          simp only [op, client, change, if_neg hns]
          by_cases hd : d = c
          · rw [hd, Function.update_self]
            rfl
          · rw [Function.update_of_ne hd]
        exact congrArg₂ (· || ·) (hon .mag) (hon .orient)
      | _ =>
        cases c <;>
          first | rfl | exact absurd htouch (by simp [op, touches, Client.onEcompass, hns])

theorem op_comm {call call' : Call} (h : call.client ≠ call'.client) (x : Client → ClientCell) :
    call.op.act (call'.op.act x) = call'.op.act (call.op.act x) := by
  simp only [op, Function.update_of_ne h, Function.update_of_ne h.symm]
  exact (Function.update_comm h _ _ _).symm

theorem op_comm_enable (c : Client) (ns timeout : ℤ) {en : ℤ} (hen : en ≠ 0)
    (x : Client → ClientCell) :
    (batch c ns timeout).op.act ((setEnable c en).op.act x) =
      (setEnable c en).op.act ((batch c ns timeout).op.act x) := by
  simp only [op, client, Function.update_self, Function.update_idem]
  congr 1
  simp only [change, hen, ne_eq, not_false_eq_true, decide_true]
  split_ifs
  · rfl
  · exact (ClientCell.switch_ask _ _).symm

end Call

namespace HubSensors

variable {F : Type} (s t : HubSensors F) (H : MotoshHeader) (B : Build) (K : Kernel)

def call : Call → HubSensors F
  | .setEnable c en => (s.setEnable H B K c.handle en).2
  | .batch c ns timeout => (s.batch B K c.handle ns timeout).2

def calls (s : HubSensors F) (cs : List Call) : HubSensors F := cs.foldl (call · H B K) s

def members : HubSensors F := { s with log := [] }

def onOf : Client → Bool
  | .gyro => s.mGyroEnabled
  | .uncalGyro => s.mUncalGyroEnabled
  | .mag => s.mMagEnabled
  | .orient => s.mOrientEnabled
  | .uncalMag => s.mUncalMagEnabled

def reqOf : Client → ℕ
  | .gyro => s.mGyroReqDelay
  | .uncalGyro => s.mUncalGyroReqDelay
  | .mag => s.mMagReqDelay
  | .orient => s.mOrientReqDelay
  | .uncalMag => s.mUncalMagReqDelay

def cell (c : Client) : ClientCell where
  on := s.onOf c
  req := s.reqOf c
  bit := c.ownBit.elim (s.onOf c) fun m => has s.mEnabled (H.sensorBit m)
  handle := has s.mEnabledHandles (H.value c.handle)

def view : Board (Client → ClientCell) Value.Carrier where
  base := s.cell H
  value
    | .gyroRate => s.mGyroDelay
    | .ecompassRate => s.mEcompassDelay
    | .ecompassBit => has s.mEnabled (H.sensorBit .M_ECOMPASS)

structure SameOthers (s t : HubSensors F) : Prop where
  wake : t.mWakeEnabled = s.mWakeEnabled
  errors : t.mErrorCnt = s.mErrorCnt
  pending : t.pendingEvents = s.pendingEvents
  next : t.nextPendingEvent = s.nextPendingEvent
  stepcount : t.lastStepcount = s.lastStepcount
  offset : t.stepOffset = s.stepOffset
  bug2go : t.sentBug2goSec = s.sentBug2goSec
  sensors : ∀ i, H.sensorBit .M_ECOMPASS ≠ i →
    (∀ (c : Client) m, c.ownBit = some m → H.sensorBit m ≠ i) → has t.mEnabled i = has s.mEnabled i
  handles : ∀ i, (∀ c : Client, H.value c.handle ≠ i) →
    has t.mEnabledHandles i = has s.mEnabledHandles i

variable {s t} {H B K}

theorem SameOthers.trans {u : HubSensors F} (h : SameOthers H s t) (h' : SameOthers H t u) :
    SameOthers H s u :=
  ⟨h'.wake.trans h.wake, h'.errors.trans h.errors, h'.pending.trans h.pending,
    h'.next.trans h.next, h'.stepcount.trans h.stepcount, h'.offset.trans h.offset,
    h'.bug2go.trans h.bug2go, fun i hi hc => (h'.sensors i hi hc).trans (h.sensors i hi hc),
    fun i hc => (h'.handles i hc).trans (h.handles i hc)⟩

theorem eq_of_has {w : ℕ} {x y : BitVec w} (h : ∀ i, has x i = has y i) : x = y :=
  BitVec.eq_of_getLsbD_eq fun i hi => h ⟨i, hi⟩

theorem members_eq {u : HubSensors F} (hs : SameOthers H u s) (ht : SameOthers H u t)
    (hview : s.view H = t.view H) : s.members = t.members := by
  have hcell (c : Client) : s.cell H c = t.cell H c := congrFun (congrArg Board.base hview) c
  have hvalue (k : Value) : (s.view H).value k = (t.view H).value k := by rw [hview]
  have hon (c : Client) : s.onOf c = t.onOf c := congrArg ClientCell.on (hcell c)
  have hreq (c : Client) : s.reqOf c = t.reqOf c := congrArg ClientCell.req (hcell c)
  have hsensors : s.mEnabled = t.mEnabled := by
    refine eq_of_has fun i => ?_
    by_cases hecompass : H.sensorBit .M_ECOMPASS = i
    · rw [← hecompass]
      exact hvalue .ecompassBit
    by_cases hown : ∃ (c : Client) (m : SensorMask), c.ownBit = some m ∧ H.sensorBit m = i
    · obtain ⟨c, m, hm, rfl⟩ := hown
      have hbit := congrArg ClientCell.bit (hcell c)
      simpa only [cell, hm, Option.elim_some] using hbit
    · have hno : ∀ (c : Client) m, c.ownBit = some m → H.sensorBit m ≠ i := fun c m hm hi =>
        hown ⟨c, m, hm, hi⟩
      rw [hs.sensors i hecompass hno, ht.sensors i hecompass hno]
  have hhandles : s.mEnabledHandles = t.mEnabledHandles := by
    refine eq_of_has fun i => ?_
    by_cases hown : ∃ c : Client, H.value c.handle = i
    · obtain ⟨c, rfl⟩ := hown
      exact congrArg ClientCell.handle (hcell c)
    · have hno : ∀ c : Client, H.value c.handle ≠ i := fun c hi => hown ⟨c, hi⟩
      rw [hs.handles i hno, ht.handles i hno]
  have hgyro : s.mGyroDelay = t.mGyroDelay := hvalue .gyroRate
  have hecompass : s.mEcompassDelay = t.mEcompassDelay := hvalue .ecompassRate
  have h₁ := hon .gyro
  have h₂ := hon .uncalGyro
  have h₃ := hon .mag
  have h₄ := hon .orient
  have h₅ := hon .uncalMag
  have h₆ := hreq .gyro
  have h₇ := hreq .uncalGyro
  have h₈ := hreq .mag
  have h₉ := hreq .orient
  have h₁₀ := hreq .uncalMag
  simp only [onOf, reqOf] at h₁ h₂ h₃ h₄ h₅ h₆ h₇ h₈ h₉ h₁₀
  simp only [members, hsensors, hhandles, hgyro, hecompass, h₁, h₂, h₃, h₄, h₅, h₆, h₇, h₈, h₉,
    h₁₀, hs.wake, ht.wake, hs.errors, ht.errors, hs.pending, ht.pending, hs.next, ht.next,
    hs.stepcount, ht.stepcount, hs.offset, ht.offset, hs.bug2go, ht.bug2go]

variable (s) (H) (K)

def ecompassRate : ℕ := minReqDelay [if s.mMagEnabled then s.mMagReqDelay else USHRT_MAX,
  if s.mOrientEnabled then s.mOrientReqDelay else USHRT_MAX,
  if s.mUncalMagEnabled then s.mUncalMagReqDelay else USHRT_MAX]

def gyroRate : ℕ := minReqDelay [if s.mGyroEnabled then s.mGyroReqDelay else USHRT_MAX,
  if s.mUncalGyroEnabled then s.mUncalGyroReqDelay else USHRT_MAX]

def switched (b : Bool) : Client → HubSensors F
  | .gyro => { s with
      mGyroEnabled := b, mGyroReqDelay := if b then s.mGyroReqDelay else USHRT_MAX }
  | .uncalGyro => { s with
      mUncalGyroEnabled := b, mUncalGyroReqDelay := if b then s.mUncalGyroReqDelay else USHRT_MAX }
  | .mag => { s with mMagEnabled := b, mMagReqDelay := if b then s.mMagReqDelay else USHRT_MAX }
  | .orient => { s with
      mOrientEnabled := b, mOrientReqDelay := if b then s.mOrientReqDelay else USHRT_MAX }
  | .uncalMag => { s with
      mUncalMagEnabled := b, mUncalMagReqDelay := if b then s.mUncalMagReqDelay else USHRT_MAX }

def requested (ms : ℕ) : Client → HubSensors F
  | .gyro => { s with mGyroReqDelay := ms }
  | .uncalGyro => { s with mUncalGyroReqDelay := ms }
  | .mag => { s with mMagReqDelay := ms }
  | .orient => { s with mOrientReqDelay := ms }
  | .uncalMag => { s with mUncalMagReqDelay := ms }

def rated (c : Client) : HubSensors F :=
  if c.onEcompass then { s with mEcompassDelay := s.ecompassRate }
  else { s with mGyroDelay := s.gyroRate }

def sensorsAfter (c : Client) (b on : Bool) : BitVec 32 :=
  let own := c.ownBit.elim s.mEnabled fun m => clearSet s.mEnabled (H.sensorBit m) b
  if c.onEcompass then assign own (H.sensorBit .M_ECOMPASS) on else own

variable {s} {H} {K}

theorem members_syscall (c : Sys) : (s.syscall K c).2.members = s.members := rfl

theorem updateEcompassRate_eq : s.updateEcompassRate K =
    if s.ecompassRate = USHRT_MAX then (0, { s with mEcompassDelay := USHRT_MAX })
    else if s.mEcompassDelay ≠ s.ecompassRate then
      { s with mEcompassDelay := s.ecompassRate }.syscall K (.setMagDelay s.ecompassRate)
    else (0, s) := rfl

theorem updateGyroRate_eq : s.updateGyroRate K =
    if s.gyroRate = USHRT_MAX then (0, { s with mGyroDelay := USHRT_MAX })
    else if s.mGyroDelay ≠ s.gyroRate then
      { s with mGyroDelay := s.gyroRate }.syscall K (.setGyroDelay s.gyroRate)
    else (0, s) := rfl

theorem updateEcompassRate_members :
    (s.updateEcompassRate K).2.members = { s.members with mEcompassDelay := s.ecompassRate } := by
  rw [updateEcompassRate_eq]
  split_ifs with hmax hnew
  · rw [hmax]
    rfl
  · rfl
  · rw [← not_not.mp hnew]
    rfl

theorem updateGyroRate_members :
    (s.updateGyroRate K).2.members = { s.members with mGyroDelay := s.gyroRate } := by
  rw [updateGyroRate_eq]
  split_ifs with hmax hnew
  · rw [hmax]
    rfl
  · rfl
  · rw [← not_not.mp hnew]
    rfl

theorem checkEcompass_members {handle : SensorHandle}
    (h : handle = .ID_M ∨ handle = .ID_O ∨ handle = .ID_UNCALIB_MAG) (c : Pending F) :
    (checkEcompass H K handle c).hub.members =
        { c.hub.members with mEcompassDelay := c.hub.ecompassRate } ∧
      (checkEcompass H K handle c).newEnabled = assign c.newEnabled (H.sensorBit .M_ECOMPASS)
        (c.hub.mMagEnabled || c.hub.mOrientEnabled) := by
  have hrate := updateEcompassRate_members (s := c.hub) (K := K)
  have hmag : (c.hub.updateEcompassRate K).2.mMagEnabled = c.hub.mMagEnabled := by
    have h := congrArg HubSensors.mMagEnabled hrate
    dsimp only [members] at h
    exact h
  have horient : (c.hub.updateEcompassRate K).2.mOrientEnabled = c.hub.mOrientEnabled := by
    have h := congrArg HubSensors.mOrientEnabled hrate
    dsimp only [members] at h
    exact h
  simp only [checkEcompass, if_pos h, hmag, horient]
  by_cases hoff : (!c.hub.mMagEnabled && !c.hub.mOrientEnabled) = true
  · have hor : (c.hub.mMagEnabled || c.hub.mOrientEnabled) = false := by
      rwa [← Bool.not_or, Bool.not_eq_true'] at hoff
    rw [if_pos hoff, hor]
    refine ⟨?_, (if_neg Bool.false_ne_true).symm⟩
    dsimp only
    split_ifs
    · rw [members_syscall, hrate]
    · rw [members_syscall, members_syscall, hrate]
  · have hor : (c.hub.mMagEnabled || c.hub.mOrientEnabled) = true := by
      rwa [← Bool.not_or, Bool.not_eq_true', Bool.not_eq_false] at hoff
    rw [if_neg hoff, hor]
    exact ⟨hrate, (if_pos rfl).symm⟩

theorem applySensors_members (c : Pending F) :
    (applySensors K true c).hub.members = { c.hub.members with mEnabled := c.newEnabled } := by
  rw [applySensors, Bool.true_and]
  split_ifs with hnew
  · rfl
  · rw [decide_eq_true_iff, not_not] at hnew
    rw [hnew]
    rfl

theorem wakeSwitch_client (c : Client) (b : Bool) : s.wakeSwitch H B b c.handle = none := by
  cases c <;> rfl

theorem enableSwitch_client (c : Client) (b : Bool) :
    s.enableSwitch H B b c.handle = some (s.switched b c,
      c.ownBit.elim s.mEnabled fun m => clearSet s.mEnabled (H.sensorBit m) b) := by
  cases c <;> rfl

theorem rates_members (c : Client) (own : BitVec 32) (u : HubSensors F) :
    (checkGyro K c.handle (checkEcompass H K c.handle ⟨0, own, u⟩)).hub.members =
        (u.rated c).members ∧
      (checkGyro K c.handle (checkEcompass H K c.handle ⟨0, own, u⟩)).newEnabled =
        if c.onEcompass then assign own (H.sensorBit .M_ECOMPASS)
          (u.mMagEnabled || u.mOrientEnabled)
        else own := by
  have hskip (h : ¬ (c.handle = .ID_M ∨ c.handle = .ID_O ∨ c.handle = .ID_UNCALIB_MAG)) :
      checkEcompass H K c.handle ⟨0, own, u⟩ = ⟨0, own, u⟩ := if_neg h
  have hgyro (h : c.handle = .ID_G ∨ c.handle = .ID_UNCALIB_GYRO) (d : Pending F) :
      checkGyro K c.handle d = { d with hub := (d.hub.updateGyroRate K).2 } := if_pos h
  have hecompass (h : c.handle = .ID_M ∨ c.handle = .ID_O ∨ c.handle = .ID_UNCALIB_MAG) :=
    checkEcompass_members (H := H) (K := K) h ⟨0, own, u⟩
  have hkept (h : ¬ (c.handle = .ID_G ∨ c.handle = .ID_UNCALIB_GYRO)) (d : Pending F) :
      checkGyro K c.handle d = d := if_neg h
  cases c with
  | gyro =>
    rw [hskip (by decide), hgyro (by decide)]
    exact ⟨updateGyroRate_members, rfl⟩
  | uncalGyro =>
    rw [hskip (by decide), hgyro (by decide)]
    exact ⟨updateGyroRate_members, rfl⟩
  | mag =>
    rw [hkept (by decide)]
    exact hecompass (by decide)
  | orient =>
    rw [hkept (by decide)]
    exact hecompass (by decide)
  | uncalMag =>
    rw [hkept (by decide)]
    exact hecompass (by decide)

theorem setEnable_members (c : Client) (en : ℤ) :
    (s.setEnable H B K c.handle en).2.members =
      let b := decide (en ≠ 0)
      let u := s.switched b c
      { (u.rated c).members with
        mEnabled := s.sensorsAfter H c b (u.mMagEnabled || u.mOrientEnabled)
        mEnabledHandles := assign s.mEnabledHandles (H.value c.handle) b } := by
  have hrest := sameRest_nonWake (H := H) (B := B) (K := K) s (decide (en ≠ 0)) c.handle
  have hhandles := hrest.handles
  obtain ⟨hhub, hmask⟩ := rates_members (H := H) (K := K) c
    (c.ownBit.elim s.mEnabled fun m => clearSet s.mEnabled (H.sensorBit m) (decide (en ≠ 0)))
    (s.switched (decide (en ≠ 0)) c)
  have hfirst : (s.nonWake H B K (decide (en ≠ 0)) c.handle).hub.members =
      { ((s.switched (decide (en ≠ 0)) c).rated c).members with
        mEnabled := s.sensorsAfter H c (decide (en ≠ 0))
          ((s.switched (decide (en ≠ 0)) c).mMagEnabled ||
            (s.switched (decide (en ≠ 0)) c).mOrientEnabled) } := by
    rw [nonWake, enableSwitch_client]
    dsimp only [Option.isSome_some]
    rw [applySensors_members, hhub, hmask]
    rfl
  simp only [setEnable, c.listed, Bool.not_true, Bool.false_eq_true, ↓reduceIte, applyWake,
    wakeSwitch_client]
  have hrecord : ((s.nonWake H B K (decide (en ≠ 0)) c.handle).hub.recordHandle H c.handle
      (decide (en ≠ 0))).members =
      { (s.nonWake H B K (decide (en ≠ 0)) c.handle).hub.members with
        mEnabledHandles := assign (s.nonWake H B K (decide (en ≠ 0)) c.handle).hub.mEnabledHandles
          (H.value c.handle) (decide (en ≠ 0)) } := rfl
  rw [hrecord, hfirst, hhandles]

theorem batchSwitch_client (c : Client) (delay timeoutms : ℕ) :
    (s.batchSwitch B K delay timeoutms c.handle).2 = s.requested delay c := by
  cases c <;> rfl

theorem batchRates_members (c : Client) (r : ℤ × HubSensors F) :
    (batchRates K c.handle r).2.members = (r.2.rated c).members := by
  have hrates : batchRates K c.handle r =
      if c.onEcompass then r.2.updateEcompassRate K else r.2.updateGyroRate K := by
    cases c <;> rfl
  rw [hrates, rated]
  split_ifs
  · exact updateEcompassRate_members
  · exact updateGyroRate_members

theorem batch_members (c : Client) {ns : ℤ} (hns : 0 ≤ ns) (timeout : ℤ) :
    (s.batch B K c.handle ns timeout).2.members =
      ((s.requested (batchDelay ns) c).rated c).members := by
  rw [batch, if_neg (not_lt.mpr hns), c.listed]
  simp only [Bool.not_true, Bool.false_eq_true, ↓reduceIte]
  rw [batchRates_members, batchSwitch_client]

theorem view_members (s : HubSensors F) : s.members.view H = s.view H := rfl

theorem has_sensorsAfter (c : Client) (b on : Bool) (m : SensorMask) :
    has (s.sensorsAfter H c b on) (H.sensorBit m) =
      if c.onEcompass ∧ m = .M_ECOMPASS then on
      else if c.ownBit = some m then b
      else has s.mEnabled (H.sensorBit m) := by
  cases c <;>
    simp only [sensorsAfter, Client.onEcompass, Client.ownBit, Option.elim_some,
      Option.elim_none, has_assign, has_clearSet, H.sensorBit_injective.eq_iff, ↓reduceIte,
      Bool.false_eq_true, false_and, true_and, Option.some.injEq, reduceCtorEq,
      eq_comm (a := m)]

def enabled (s : HubSensors F) (H : MotoshHeader) (c : Client) (b : Bool) : HubSensors F :=
  let u := s.switched b c
  { (u.rated c).members with
    mEnabled := s.sensorsAfter H c b (u.mMagEnabled || u.mOrientEnabled)
    mEnabledHandles := assign s.mEnabledHandles (H.value c.handle) b }

theorem cell_enabled (c d : Client) (b : Bool) :
    (s.enabled H c b).cell H d =
      Function.update (s.cell H) c ((s.cell H c).switch b) d := by
  have hhandle : ((s.enabled H c b).cell H d).handle =
      if c = d then b else (s.cell H d).handle := by
    simp only [cell, enabled, has_assign, H.value_injective.eq_iff, Client.handle_injective.eq_iff]
  have hbit : ((s.enabled H c b).cell H d).bit = if c = d then b else (s.cell H d).bit := by
    cases c <;> cases d <;> first
      | rfl
      | exact (has_sensorsAfter _ _ _ _).trans (by simp [Client.onEcompass, Client.ownBit, cell])
  have hon : (s.enabled H c b).onOf d = if c = d then b else s.onOf d := by
    cases c <;> cases d <;> rfl
  have hreq : (s.enabled H c b).reqOf d =
      if c = d then (if b then s.reqOf d else USHRT_MAX) else s.reqOf d := by
    cases c <;> cases d <;> rfl
  by_cases hcd : c = d
  · subst hcd
    rw [if_pos rfl] at hhandle hbit hon hreq
    rw [Function.update_self]
    exact ClientCell.ext hon hreq hbit hhandle
  · rw [if_neg hcd] at hhandle hbit hon hreq
    rw [Function.update_of_ne (Ne.symm hcd)]
    exact ClientCell.ext hon hreq hbit hhandle

theorem cell_requested (c d : Client) (ms : ℕ) :
    ((s.requested ms c).rated c).cell H d =
      Function.update (s.cell H) c ((s.cell H c).ask ms) d := by
  cases c <;> cases d <;> rfl

theorem view_setEnable (c : Client) (en : ℤ) :
    (s.setEnable H B K c.handle en).2.view H =
      (Call.setEnable c en).op.apply Value.compute (s.view H) := by
  have hmembers : (s.setEnable H B K c.handle en).2.members =
      s.enabled H c (decide (en ≠ 0)) := setEnable_members c en
  rw [← view_members, hmembers]
  have hbase : (s.enabled H c (decide (en ≠ 0))).cell H =
      (Call.setEnable c en).op.act (s.cell H) := funext fun d => cell_enabled c d _
  refine Board.ext hbase (funext fun k => ?_)
  have hvalue : ((s.enabled H c (decide (en ≠ 0))).view H).value k =
      if (Call.setEnable c en).touches k then
        Value.compute k ((s.enabled H c (decide (en ≠ 0))).cell H)
      else (s.view H).value k := by
    cases k with
    | gyroRate => cases c <;> rfl
    | ecompassRate => cases c <;> rfl
    | ecompassBit =>
      refine (has_sensorsAfter c _ _ .M_ECOMPASS).trans ?_
      cases c <;> rfl
  rw [hbase] at hvalue
  exact hvalue

theorem view_batch (c : Client) (ns timeout : ℤ) :
    (s.batch B K c.handle ns timeout).2.view H =
      (Call.batch c ns timeout).op.apply Value.compute (s.view H) := by
  by_cases hns : ns < 0
  · have hidle : s.batch B K c.handle ns timeout = (-EINVAL, s) := if_pos hns
    rw [hidle]
    refine Board.ext ?_ (funext fun k => ?_)
    · simp only [Op.apply, Call.op, Call.change_idle hns]
      exact (Function.update_eq_self _ _).symm
    · cases k <;> simp [Op.apply, Call.op, Call.touches, hns]
  · rw [← view_members, batch_members c (not_lt.mp hns), view_members]
    have hbase : ((s.requested (batchDelay ns) c).rated c).cell H =
        (Call.batch c ns timeout).op.act (s.cell H) := by
      funext d
      rw [cell_requested]
      simp only [Call.op, Call.client, Call.change, if_neg hns]
    refine Board.ext hbase (funext fun k => ?_)
    have hvalue : (((s.requested (batchDelay ns) c).rated c).view H).value k =
        if (Call.batch c ns timeout).touches k then
          Value.compute k (((s.requested (batchDelay ns) c).rated c).cell H)
        else (s.view H).value k := by
      cases k with
      | gyroRate => cases c <;> simp [Call.touches, hns, Client.onEcompass] <;> rfl
      | ecompassRate => cases c <;> simp [Call.touches, hns, Client.onEcompass] <;> rfl
      | ecompassBit => cases c <;> rfl
    rw [hbase] at hvalue
    exact hvalue

theorem view_call (call : Call) :
    (s.call H B K call).view H = call.op.apply Value.compute (s.view H) := by
  cases call with
  | setEnable c en => exact view_setEnable c en
  | batch c ns timeout => exact view_batch c ns timeout

theorem view_calls (cs : List Call) :
    (s.calls H B K cs).view H = run Value.compute (s.view H) (cs.map Call.op) := by
  induction cs generalizing s with
  | nil => rfl
  | cons call cs ih =>
    rw [calls, List.foldl_cons, ← calls, ih, view_call]
    rfl

theorem SameOthers.of_members {u : HubSensors F} (h : SameOthers H s u)
    (hm : t.members = u.members) : SameOthers H s t where
  wake := (congrArg HubSensors.mWakeEnabled hm :).trans h.wake
  errors := (congrArg HubSensors.mErrorCnt hm :).trans h.errors
  pending := (congrArg HubSensors.pendingEvents hm :).trans h.pending
  next := (congrArg HubSensors.nextPendingEvent hm :).trans h.next
  stepcount := (congrArg HubSensors.lastStepcount hm :).trans h.stepcount
  offset := (congrArg HubSensors.stepOffset hm :).trans h.offset
  bug2go := (congrArg HubSensors.sentBug2goSec hm :).trans h.bug2go
  sensors i hi hc := (congrArg (fun v => has (HubSensors.mEnabled v) i) hm :).trans
    (h.sensors i hi hc)
  handles i hc := (congrArg (fun v => has (HubSensors.mEnabledHandles v) i) hm :).trans
    (h.handles i hc)

theorem sameOthers_enabled (c : Client) (b : Bool) : SameOthers H s (s.enabled H c b) := by
  have hsensors (on : Bool) (i : Fin 32) (hi : H.sensorBit .M_ECOMPASS ≠ i)
      (hc : ∀ (c : Client) m, c.ownBit = some m → H.sensorBit m ≠ i) :
      has (s.sensorsAfter H c b on) i = has s.mEnabled i := by
    have hgyro := hc .gyro _ rfl
    have huncalGyro := hc .uncalGyro _ rfl
    have huncalMag := hc .uncalMag _ rfl
    cases c <;>
      simp [sensorsAfter, Client.onEcompass, Client.ownBit, hi, hgyro, huncalGyro, huncalMag]
  have hhandles (i : Fin 64) (hc : ∀ c : Client, H.value c.handle ≠ i) :
      has (assign s.mEnabledHandles (H.value c.handle) b) i = has s.mEnabledHandles i := by
    rw [has_assign, if_neg (hc c)]
  have hmask := hsensors ((s.switched b c).mMagEnabled || (s.switched b c).mOrientEnabled)
  cases c <;> exact ⟨rfl, rfl, rfl, rfl, rfl, rfl, rfl, hmask, hhandles⟩

theorem sameOthers_requested (c : Client) (ms : ℕ) :
    SameOthers H s ((s.requested ms c).rated c) := by
  cases c <;> exact ⟨rfl, rfl, rfl, rfl, rfl, rfl, rfl, fun _ _ _ => rfl, fun _ _ => rfl⟩

theorem SameOthers.refl (s : HubSensors F) : SameOthers H s s :=
  ⟨rfl, rfl, rfl, rfl, rfl, rfl, rfl, fun _ _ _ => rfl, fun _ _ => rfl⟩

theorem sameOthers_call (call : Call) : SameOthers H s (s.call H B K call) := by
  cases call with
  | setEnable c en => exact (sameOthers_enabled c _).of_members (setEnable_members c en)
  | batch c ns timeout =>
    by_cases hns : ns < 0
    · have hidle : s.batch B K c.handle ns timeout = (-EINVAL, s) := if_pos hns
      rw [call, hidle]
      exact .refl s
    · exact (sameOthers_requested c _).of_members (batch_members c (not_lt.mp hns) timeout)

theorem sameOthers_calls (cs : List Call) : SameOthers H s (s.calls H B K cs) := by
  induction cs generalizing s with
  | nil => exact .refl s
  | cons call cs ih => exact (sameOthers_call call).trans ih

theorem calls_swap (pre mid post : List Call) (c : Client) (ns timeout : ℤ) {en : ℤ}
    (hen : en ≠ 0) (hmid : ∀ call ∈ mid, call.client ≠ c) :
    (s.calls H B K (pre ++ .batch c ns timeout :: (mid ++ .setEnable c en :: post))).members =
      (s.calls H B K (pre ++ .setEnable c en :: (mid ++ .batch c ns timeout :: post))).members := by
  refine members_eq (sameOthers_calls _) (sameOthers_calls _) ?_
  have hsound : ∀ o ∈ mid.map Call.op, o.Sound Value.compute := by
    intro o ho
    obtain ⟨call, -, rfl⟩ := List.mem_map.mp ho
    exact call.op_sound
  have hpast (call : Call) (hc : call.client = c) :
      ∀ o ∈ mid.map Call.op, ∀ x, call.op.act (o.act x) = o.act (call.op.act x) := by
    intro o ho
    obtain ⟨call', hcall', rfl⟩ := List.mem_map.mp ho
    exact Call.op_comm (by rw [hc]; exact (hmid call' hcall').symm)
  rw [view_calls, view_calls]
  simp only [List.map_append, List.map_cons]
  exact run_swap (Call.op_sound _) (Call.op_sound _) hsound
    (Call.op_comm_enable c ns timeout hen) (hpast _ rfl) (hpast _ rfl)

end HubSensors
end Cedric.MotoshHal
