import Cedric.Hub.Operations

/-!
# The sensor mask over runs

Each own bit of `mEnabled` follows the last request for its handle, and each
shared bit is recomputed from the fusion table whenever a handle of the non-wake
switch is set. The mask of the state is always the one the hub was last sent.
-/

namespace Cedric.Hub

open BitFlags Runs

variable {F : Type}

def ownMask : SensorHandle → Option SensorMask
  | .ID_UNCALIB_GYRO => some .M_UNCALIB_GYRO
  | .ID_L => some .M_ALS
  | .ID_DR => some .M_DISP_ROTATE
  | .ID_STEP_COUNTER => some .M_STEP_COUNTER
  | .ID_STEP_DETECTOR => some .M_STEP_DETECTOR
  | _ => none

def isShared : SensorMask → Bool
  | .M_ACCEL | .M_GYRO | .M_ECOMPASS => true
  | _ => false

def lastRequest (h : SensorHandle) (ops : List Op) : Option Bool :=
  ops.foldl (fun r op =>
    match op with
    | .setEnable handle en => if handle = h then some (decide (en ≠ 0)) else r
    | _ => r) none

theorem lastRequest_setEnable (h handle : SensorHandle) (en : ℤ) (past : List Op) :
    lastRequest h (past ++ [.setEnable handle en]) =
      if handle = h then some (decide (en ≠ 0)) else lastRequest h past := by
  simp only [lastRequest, List.foldl_append, List.foldl_cons, List.foldl_nil]

theorem ownMask_not_shared {h : SensorHandle} {m : SensorMask} (hm : ownMask h = some m) :
    isShared m = false := by
  cases h <;> cases hm <;> rfl

theorem isNonWake_of_ownMask {h : SensorHandle} (hm : (ownMask h).isSome = true) :
    h.isNonWake = true := by
  cases h with
  | ID_UNCALIB_GYRO | ID_L | ID_DR | ID_STEP_COUNTER | ID_STEP_DETECTOR => rfl
  | _ => cases hm

theorem ownMask_injective {h h' : SensorHandle} {m : SensorMask} (hm : ownMask h = some m)
    (hm' : ownMask h' = some m) : h = h' := by
  cases h with
  | ID_UNCALIB_GYRO | ID_L | ID_DR | ID_STEP_COUNTER | ID_STEP_DETECTOR =>
    cases hm
    cases h' with
    | ID_UNCALIB_GYRO | ID_L | ID_DR | ID_STEP_COUNTER | ID_STEP_DETECTOR =>
      first | rfl | cases hm'
    | _ => cases hm'
  | _ => cases hm

namespace HubSensors

variable {s t : HubSensors F} {H : Stml0xxHeader}

theorem nonWakeSwitch_mask {newState : Bool} {h : SensorHandle} {m : BitVec 32}
    (hf : s.nonWakeSwitch H newState h = some (t, m)) (x : SensorMask) :
    has m (H.sensorBit x) =
      if ownMask h = some x then newState else has s.mEnabled (H.sensorBit x) := by
  cases h with
  | ID_UNCALIB_GYRO | ID_L | ID_DR | ID_STEP_COUNTER | ID_STEP_DETECTOR =>
    obtain ⟨-, rfl⟩ := Prod.mk.inj (Option.some.inj hf)
    simp [ownMask, H.sensorBit_injective.eq_iff]
  | ID_A | ID_G | ID_GAME_RV | ID_LA | ID_GRAVITY | ID_M | ID_UM | ID_OR | ID_GEOMAG_RV | ID_RV =>
    obtain ⟨-, rfl⟩ := Prod.mk.inj (Option.some.inj hf)
    simp [ownMask]
  | _ => cases hf

variable [FloatOps F]

theorem setEnable_setup (K : Kernel) (h : SensorHandle) (en : ℤ) :
    let r := (s.nonWake H K (decide (en ≠ 0)) h).2
    (s.setEnable H K h en).2.mFusionSensors = r.mFusionSensors ∧
      (s.setEnable H K h en).2.mEnabled = r.mEnabled ∧
      lastSetSensors (s.setEnable H K h en).2.log = lastSetSensors r.log := by
  have hwake := wake_setup (s := (s.nonWake H K (decide (en ≠ 0)) h).2) H K (decide (en ≠ 0)) h
    (s.nonWake H K (decide (en ≠ 0)) h).1
  exact ⟨hwake.table, hwake.mask, hwake.sensors⟩

end HubSensors

structure MaskInv (H : Stml0xxHeader) (past : List Op) (s : HubSensors F) : Prop where
  requested : ∀ h m b, ownMask h = some m → lastRequest h past = some b →
    has s.mEnabled (H.sensorBit m) = b
  sent : ∀ mask, lastSetSensors s.log = some mask → mask = s.mEnabled

/-- The invariant with the three shared bits, which `setEnable` recomputes. -/
structure MasksRight (H : Stml0xxHeader) (past : List Op) (s : HubSensors F) : Prop
    extends MaskInv H past s where
  accel : has s.mEnabled (H.sensorBit .M_ACCEL) = true ↔
    ∃ i, (s.mFusionSensors i).enabled = true ∧ (s.mFusionSensors i).usesAccel = true
  gyro : has s.mEnabled (H.sensorBit .M_GYRO) = true ↔
    ∃ i, (s.mFusionSensors i).enabled = true ∧ (s.mFusionSensors i).usesGyro = true
  ecompass : has s.mEnabled (H.sensorBit .M_ECOMPASS) = true ↔
    ∃ i, (s.mFusionSensors i).enabled = true ∧ (s.mFusionSensors i).usesMag = true

section Preserved
variable {H : Stml0xxHeader} {past : List Op} {s t : HubSensors F}

theorem MaskInv.keep (hinv : MaskInv H past s) (hmask : t.mEnabled = s.mEnabled)
    (hsent : lastSetSensors t.log = lastSetSensors s.log) {op : Op}
    (hop : ∀ h, (ownMask h).isSome → lastRequest h (past ++ [op]) = lastRequest h past) :
    MaskInv H (past ++ [op]) t := by
  constructor
  · intro h m b hm hb
    rw [hop h (by rw [hm]; rfl)] at hb
    rw [hmask]
    exact hinv.requested h m b hm hb
  · intro mask hs
    rw [hmask]
    exact hinv.sent mask (hsent ▸ hs)

variable [FloatOps F]

theorem masksRight_setEnable (K : Kernel) (hinv : MaskInv H past s) {h : SensorHandle}
    (hh : h.isNonWake = true) (en : ℤ) :
    MasksRight H (past ++ [.setEnable h en]) (s.setEnable H K h en).2 := by
  obtain ⟨htable, hmask, hlog⟩ := HubSensors.setEnable_setup (s := s) (H := H) K h en
  rw [← HubSensors.nonWakeSwitch_isSome (s := s) (H := H) (decide (en ≠ 0)) h] at hh
  obtain ⟨⟨t, m⟩, hf⟩ := Option.isSome_iff_exists.mp hh
  obtain ⟨htable', hmask', -, -, hlog'⟩ := HubSensors.nonWake_spec K hf
  have hbits (x : SensorMask) := congrArg (fun e => has e (H.sensorBit x)) (hmask.trans hmask')
  simp only [has_assign, H.sensorBit_injective.eq_iff] at hbits
  refine ⟨⟨?_, ?_⟩, ?_, ?_, ?_⟩
  · intro h' m' b hm' hb
    have hshared := ownMask_not_shared hm'
    have hown := HubSensors.nonWakeSwitch_mask hf m'
    have hne (x : SensorMask) (hx : isShared x = true) : x ≠ m' := by
      intro heq
      rw [heq, hshared] at hx
      cases hx
    rw [hbits m', if_neg (hne _ rfl), if_neg (hne _ rfl), if_neg (hne _ rfl), hown]
    rw [lastRequest_setEnable] at hb
    by_cases heq : h = h'
    · rw [if_pos heq] at hb
      rw [if_pos (heq ▸ hm')]
      exact Option.some.inj hb
    · rw [if_neg heq] at hb
      rw [if_neg fun hm => heq (ownMask_injective hm hm')]
      exact hinv.requested h' m' b hm' hb
  · intro mask hs
    rw [hlog] at hs
    rw [hmask]
    rcases hlog' with h' | ⟨hsame, h'⟩
    · rw [h'] at hs
      exact (Option.some.inj hs).symm
    · rw [hsame]
      exact hinv.sent mask (h' ▸ hs)
  · rw [hbits .M_ACCEL, htable.trans htable']
    simpa using t.isAccelNeeded_iff
  · rw [hbits .M_GYRO, htable.trans htable']
    simpa using t.isGyroNeeded_iff
  · rw [hbits .M_ECOMPASS, htable.trans htable']
    simpa using t.isMagNeeded_iff

theorem maskInv_apply (K : Kernel) (list : List SensorT) (hinv : MaskInv H past s) (op : Op) :
    MaskInv H (past ++ [op]) (s.apply H K list op) := by
  cases op with
  | setEnable handle en =>
    cases hh : handle.isNonWake with
    | true => exact (masksRight_setEnable K hinv hh en).toMaskInv
    | false =>
      obtain ⟨-, hmask, hlog⟩ := HubSensors.setEnable_setup (s := s) (H := H) K handle en
      have hnone : s.nonWakeSwitch H (decide (en ≠ 0)) handle = none := by
        rw [← Option.not_isSome_iff_eq_none, HubSensors.nonWakeSwitch_isSome, hh]
        exact Bool.false_ne_true
      rw [HubSensors.nonWake_none K hnone] at hmask hlog
      refine hinv.keep hmask hlog fun h hown => ?_
      rw [lastRequest_setEnable, if_neg]
      intro heq
      rw [heq, isNonWake_of_ownMask hown] at hh
      cases hh
  | setDelay handle ns =>
    obtain ⟨hmask, -, -, hlog⟩ := HubSensors.setDelay_masks (s := s) K list handle ns
    refine hinv.keep hmask hlog fun h _ => ?_
    simp only [lastRequest, List.foldl_append, List.foldl_cons, List.foldl_nil]
  | readEvents buff dLen replies =>
    have hsetup := readEvents_setup H K buff dLen s replies
    refine hinv.keep hsetup.mask hsetup.sensors fun h _ => ?_
    simp only [lastRequest, List.foldl_append, List.foldl_cons, List.foldl_nil]

end Preserved

/-- Right after any call of `setEnable` on a handle of the non-wake switch, the mask
is right, whatever calls came before and whatever the ioctls answered. -/
theorem masksRight_after_setEnable [FloatOps F] (H : Stml0xxHeader) (K : Kernel)
    (list : List SensorT) (flags16 : Option (BitVec 16)) (flags24 : Option (BitVec 32))
    (ops : List Op) {h : SensorHandle} (hh : h.isNonWake = true) (en : ℤ) :
    MasksRight H (ops ++ [.setEnable h en])
      ((HubSensors.start flags16 flags24 : HubSensors F).run H K list
        (ops ++ [.setEnable h en])) := by
  have hstart : MaskInv H [] (HubSensors.start flags16 flags24 : HubSensors F) := by
    constructor
    · intro h m b _ hb
      cases hb
    · intro mask hs
      cases hs
  have hinv := history_induction hstart
    (fun past op t ht => maskInv_apply K list ht op) ops
  rw [HubSensors.run, List.foldl_append]
  exact masksRight_setEnable K hinv hh en

theorem masksRight_after_light :
    MasksRight .numbered [.setEnable .ID_RV 1, .setEnable .ID_L 1]
      ((HubSensors.start (some 3) none : HubSensors ℚ).run .numbered (fun _ _ => -1)
        (sSensorList true) [.setEnable .ID_RV 1, .setEnable .ID_L 1]) :=
  masksRight_after_setEnable .numbered (fun _ _ => -1) (sSensorList true) (some 3) none
    [.setEnable .ID_RV 1] (by decide) 1

end Cedric.Hub
