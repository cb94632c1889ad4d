import Cedric.Hub.Operations

/-!
# The wake mask over runs

Every wake bit follows the handle mask. The two glance handles share a bit, and
each leaves it alone while the other is enabled, so the bit is their disjunction.
-/

namespace Cedric.Hub

open BitFlags Runs

variable {F : Type}

def wakeMask : SensorHandle → Option WakeMask
  | .ID_P => some .M_PROXIMITY
  | .ID_FU => some .M_FLATUP
  | .ID_FD => some .M_FLATDOWN
  | .ID_S => some .M_STOWED
  | .ID_CA => some .M_CAMERA_GESTURE
  | .ID_LF => some .M_LIFT
  | .ID_CC => some .M_CHOPCHOP
  | .ID_GLANCE_GESTURE | .ID_MOTO_GLANCE_GESTURE => some .M_GLANCE
  | .ID_MOTION_DETECT => some .M_MOTION_DETECT
  | .ID_STATIONARY_DETECT => some .M_STATIONARY_DETECT
  | _ => none

theorem wakeMask_injective {h h' : SensorHandle} {m : WakeMask} (hm : wakeMask h = some m)
    (hm' : wakeMask h' = some m) (hne : m ≠ .M_GLANCE) : h = h' := by
  cases m with
  | M_GLANCE => exact absurd rfl hne
  | _ =>
    cases h <;> try cases hm
    all_goals cases h' <;> first | rfl | cases hm'

theorem wakeMask_glance {h : SensorHandle} (hm : wakeMask h = some .M_GLANCE) :
    h = .ID_GLANCE_GESTURE ∨ h = .ID_MOTO_GLANCE_GESTURE := by
  cases h with
  | ID_GLANCE_GESTURE => exact Or.inl rfl
  | ID_MOTO_GLANCE_GESTURE => exact Or.inr rfl
  | _ => cases hm

namespace HubSensors

variable {s t : HubSensors F} {H : Stml0xxHeader}

/-- A glance handle finds the other one enabled and leaves the shared bit alone. -/
def otherGlance (s : HubSensors F) : SensorHandle → Bool
  | .ID_GLANCE_GESTURE => s.isHandleEnabled .ID_MOTO_GLANCE_GESTURE
  | .ID_MOTO_GLANCE_GESTURE => s.isHandleEnabled .ID_GLANCE_GESTURE
  | _ => false

theorem wakeSwitch_mask (newState : Bool) (h : SensorHandle) (m : WakeMask) :
    has ((s.wakeSwitch H newState h).getD s.mWakeEnabled) (H.wakeBit m) =
      if wakeMask h = some m ∧ s.otherGlance h = false then newState
      else has s.mWakeEnabled (H.wakeBit m) := by
  cases h with
  | ID_GLANCE_GESTURE =>
    cases ho : s.isHandleEnabled .ID_MOTO_GLANCE_GESTURE <;>
      simp [wakeSwitch, wakeMask, otherGlance, ho, H.wakeBit_injective.eq_iff]
  | ID_MOTO_GLANCE_GESTURE =>
    cases ho : s.isHandleEnabled .ID_GLANCE_GESTURE <;>
      simp [wakeSwitch, wakeMask, otherGlance, ho, H.wakeBit_injective.eq_iff]
  | _ => simp [wakeSwitch, wakeMask, otherGlance, H.wakeBit_injective.eq_iff]

theorem wakeSwitch_congr (hw : t.mWakeEnabled = s.mWakeEnabled)
    (hh : t.mEnabledHandles = s.mEnabledHandles) (newState : Bool) (h : SensorHandle) :
    t.wakeSwitch H newState h = s.wakeSwitch H newState h := by
  cases h <;> simp only [wakeSwitch, isHandleEnabled_eq, hw, hh]

variable [FloatOps F]

theorem nonWake_wake (K : Kernel) (newState : Bool) (h : SensorHandle) :
    (s.nonWake H K newState h).2.mWakeEnabled = s.mWakeEnabled ∧
      (s.nonWake H K newState h).2.mEnabledHandles = s.mEnabledHandles := by
  cases hf : s.nonWakeSwitch H newState h with
  | none =>
    rw [nonWake_none K hf]
    exact ⟨rfl, rfl⟩
  | some found =>
    obtain ⟨-, -, hw, hh, -⟩ := nonWake_spec (t := found.1) (m := found.2) K hf
    exact ⟨hw, hh⟩

theorem setEnable_wake (K : Kernel) (h : SensorHandle) (en : ℤ) :
    (s.setEnable H K h en).2.mWakeEnabled =
        (s.wakeSwitch H (decide (en ≠ 0)) h).getD s.mWakeEnabled ∧
      (s.setEnable H K h en).2.mEnabledHandles =
        assign s.mEnabledHandles h.pos (decide (en ≠ 0)) := by
  obtain ⟨hw, hh⟩ := nonWake_wake (s := s) (H := H) K (decide (en ≠ 0)) h
  obtain ⟨hw', hh'⟩ := wake_spec (s := (s.nonWake H K (decide (en ≠ 0)) h).2) H K
    (decide (en ≠ 0)) h (s.nonWake H K (decide (en ≠ 0)) h).1
  rw [wakeSwitch_congr hw hh, hw] at hw'
  rw [hh] at hh'
  exact ⟨hw', congrArg (fun x => assign x h.pos (decide (en ≠ 0))) hh'⟩

end HubSensors

structure WakeInv (H : Stml0xxHeader) (s : HubSensors F) : Prop where
  single : ∀ h m, wakeMask h = some m → m ≠ .M_GLANCE →
    has s.mWakeEnabled (H.wakeBit m) = s.isHandleEnabled h
  glance : has s.mWakeEnabled (H.wakeBit .M_GLANCE) =
    (s.isHandleEnabled .ID_GLANCE_GESTURE || s.isHandleEnabled .ID_MOTO_GLANCE_GESTURE)

section Preserved
variable {H : Stml0xxHeader} {s t : HubSensors F}

theorem WakeInv.keep (hinv : WakeInv H s) (hw : t.mWakeEnabled = s.mWakeEnabled)
    (hh : t.mEnabledHandles = s.mEnabledHandles) : WakeInv H t := by
  have henabled (h : SensorHandle) : t.isHandleEnabled h = s.isHandleEnabled h := by
    rw [HubSensors.isHandleEnabled, HubSensors.isHandleEnabled, hh]
  constructor
  · intro h m hm hne
    rw [hw, henabled]
    exact hinv.single h m hm hne
  · rw [hw, henabled, henabled]
    exact hinv.glance

variable [FloatOps F]

theorem wakeInv_setEnable (K : Kernel) (hinv : WakeInv H s) (x : SensorHandle) (en : ℤ) :
    WakeInv H (s.setEnable H K x en).2 := by
  obtain ⟨hw, hh⟩ := HubSensors.setEnable_wake (s := s) (H := H) K x en
  have hhandle (h : SensorHandle) : (s.setEnable H K x en).2.isHandleEnabled h =
      if x = h then decide (en ≠ 0) else s.isHandleEnabled h := by
    simp only [HubSensors.isHandleEnabled_eq, hh, has_assign, SensorHandle.pos_inj]
  have hbit (m : WakeMask) := HubSensors.wakeSwitch_mask (s := s) (H := H) (decide (en ≠ 0)) x m
  constructor
  · intro h m hm hne
    rw [hw, hbit, hhandle]
    by_cases hx : x = h
    · have hother : s.otherGlance x = false := by
        subst hx
        cases x <;> first | rfl | (cases hm; exact absurd rfl hne)
      rw [if_pos hx, if_pos ⟨hx ▸ hm, hother⟩]
    · rw [if_neg hx, if_neg fun h' => hx (wakeMask_injective h'.1 hm hne)]
      exact hinv.single h m hm hne
  · have hg := hinv.glance
    rw [hw, hbit, hhandle, hhandle]
    -- The bit moves only for a glance handle whose partner is off.
    by_cases hx : x = .ID_GLANCE_GESTURE
    · subst hx
      cases ho : s.isHandleEnabled .ID_MOTO_GLANCE_GESTURE <;>
        simp [wakeMask, HubSensors.otherGlance, ho, hg]
    · by_cases hx' : x = .ID_MOTO_GLANCE_GESTURE
      · subst hx'
        cases ho : s.isHandleEnabled .ID_GLANCE_GESTURE <;>
          simp [wakeMask, HubSensors.otherGlance, ho, hg]
      · rw [if_neg hx, if_neg hx', if_neg, hg]
        intro h
        rcases wakeMask_glance h.1 with heq | heq
        · exact hx heq
        · exact hx' heq

theorem wakeInv_handleRecord (K : Kernel) (b : SensorData) (hinv : WakeInv H s) :
    WakeInv H (s.handleRecord H K b).1 := by
  cases HubSensors.handleRecord_effect (s := s) H K b with
  | books h =>
    obtain ⟨pending, errors, sent, log, -, he⟩ := h
    rw [he]
    exact hinv.keep rfl rfl
  | fuses h =>
    obtain ⟨data, ready, geomag, game, rotation, he⟩ := h
    rw [he]
    exact hinv.keep rfl rfl
  | steps _ h =>
    rw [h]
    exact hinv.keep rfl rfl
  | oneShot hx h =>
    rw [h]
    exact wakeInv_setEnable K hinv _ 0

theorem wakeInv_apply (K : Kernel) (list : List SensorT) (hinv : WakeInv H s) (op : Op) :
    WakeInv H (s.apply H K list op) := by
  cases op with
  | setEnable handle en => exact wakeInv_setEnable K hinv handle en
  | setDelay handle ns =>
    obtain ⟨-, hw, hh, -⟩ := HubSensors.setDelay_masks (s := s) K list handle ns
    exact hinv.keep hw hh
  | readEvents buff dLen replies =>
    refine readEvents_invariant (fun b t ht => wakeInv_handleRecord K b ht) ?_ buff dLen hinv replies
    intro u v hbooks hu
    obtain ⟨pending, errors, sent, log, -, rfl⟩ := hbooks
    exact hu.keep rfl rfl

end Preserved

/-- From cleared masks, every wake bit follows its handles through any calls. -/
theorem wakeInv_run [FloatOps F] (H : Stml0xxHeader) (K : Kernel) (list : List SensorT)
    {s : HubSensors F} (hw : s.mWakeEnabled = 0) (hh : s.mEnabledHandles = 0) (ops : List Op) :
    WakeInv H (s.run H K list ops) := by
  have hstart : WakeInv H s := by
    constructor
    · intro h m _ _
      rw [HubSensors.isHandleEnabled_eq, hw, hh]
      simp
    · rw [HubSensors.isHandleEnabled_eq, HubSensors.isHandleEnabled_eq, hw, hh]
      simp
  exact history_induction (P := fun _ t => WakeInv H t) hstart
    (fun _ op t ht => wakeInv_apply K list ht op) ops

theorem wakeInv_after_glances :
    WakeInv .numbered ((HubSensors.start none none : HubSensors ℚ).run .numbered (fun _ _ => -1)
      (sSensorList true) [.setEnable .ID_GLANCE_GESTURE 1, .setEnable .ID_MOTO_GLANCE_GESTURE 0]) :=
  wakeInv_run .numbered (fun _ _ => -1) (sSensorList true) rfl rfl
    [.setEnable .ID_GLANCE_GESTURE 1, .setEnable .ID_MOTO_GLANCE_GESTURE 0]

end Cedric.Hub
