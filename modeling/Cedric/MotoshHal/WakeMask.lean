import Cedric.Lib.Runs
import Cedric.MotoshHal.SetEnable

/-!
# The wake mask over runs of requests

A wake bit follows its own handle, and the glance bit its two handles, as long as
no request for the moto glance gesture gets to the case of the motion detector
with another state than the motion detector has. These are the only requests that
break the invariant.
-/

namespace Cedric.MotoshHal

open BitFlags Runs

variable {F : Type}

def wakeMask : SensorHandle → Option WakeMask
  | .ID_P => some .M_PROXIMITY
  | .ID_FU => some .M_FLATUP
  | .ID_FD => some .M_FLATDOWN
  | .ID_S => some .M_STOWED
  | .ID_CA => some .M_CAMERA_ACT
  | .ID_SIM => some .M_SIM
  | .ID_CHOPCHOP_GESTURE => some .M_CHOPCHOP
  | .ID_LIFT_GESTURE => some .M_LIFT
  | .ID_GLANCE_GESTURE | .ID_MOTO_GLANCE_GESTURE => some .M_GLANCE
  | .ID_MOTION_DETECT => some .M_MOTION_DETECT
  | .ID_STATIONARY_DETECT => some .M_STATIONARY_DETECT
  | _ => none

theorem wakeMask_injective {h h' : SensorHandle} {m : WakeMask} (hm : wakeMask h = some m)
    (hm' : wakeMask h' = some m) (hne : m ≠ .M_GLANCE) : h = h' := by
  cases m with
  | M_GLANCE => exact absurd rfl hne
  | _ =>
    cases h <;> try cases hm
    all_goals cases h' <;> first | rfl | cases hm'

theorem wakeMask_glance {h : SensorHandle} (hm : wakeMask h = some .M_GLANCE) :
    h = .ID_GLANCE_GESTURE ∨ h = .ID_MOTO_GLANCE_GESTURE := by
  cases h with
  | ID_GLANCE_GESTURE => exact Or.inl rfl
  | ID_MOTO_GLANCE_GESTURE => exact Or.inr rfl
  | _ => cases hm

structure EnableCall where
  handle : SensorHandle
  en : ℤ

def EnableCall.newState (c : EnableCall) : Bool := decide (c.en ≠ 0)

namespace HubSensors

variable (s : HubSensors F) (H : MotoshHeader) (B : Build) (K : Kernel)

def enable (c : EnableCall) : HubSensors F := (s.setEnable H B K c.handle c.en).2

/-- A glance handle finds the other one enabled and leaves the shared bit alone. -/
def otherGlance : SensorHandle → Bool
  | .ID_GLANCE_GESTURE => s.isHandleEnabled H .ID_MOTO_GLANCE_GESTURE
  | .ID_MOTO_GLANCE_GESTURE => s.isHandleEnabled H .ID_GLANCE_GESTURE
  | _ => false

def Writes (h : SensorHandle) (m : WakeMask) : Prop :=
  wakeMask h = some m ∧ s.otherGlance H h = false ∨
    h = .ID_MOTO_GLANCE_GESTURE ∧ m = .M_MOTION_DETECT

/-- Every wake bit follows its own handle, the glance bit either of its two. -/
structure WakeInv : Prop where
  single : ∀ h m, wakeMask h = some m → m ≠ .M_GLANCE →
    has s.mWakeEnabled (H.wakeBit m) = s.isHandleEnabled H h
  glance : has s.mWakeEnabled (H.wakeBit .M_GLANCE) =
    (s.isHandleEnabled H .ID_GLANCE_GESTURE || s.isHandleEnabled H .ID_MOTO_GLANCE_GESTURE)

def Harmless (c : EnableCall) : Prop :=
  c.handle = .ID_MOTO_GLANCE_GESTURE → c.newState = s.isHandleEnabled H .ID_MOTION_DETECT

variable {s H B K}

theorem wakeSwitch_mask {h : SensorHandle} (hlisted : mIdToSensor B h = true) (newState : Bool)
    (m : WakeMask) [Decidable (s.Writes H h m)] :
    has ((s.wakeSwitch H B newState h).getD s.mWakeEnabled) (H.wakeBit m) =
      if s.Writes H h m then newState else has s.mWakeEnabled (H.wakeBit m) := by
  simp only [Writes]
  cases h with
  | ID_GLANCE_GESTURE =>
    cases ho : s.isHandleEnabled H .ID_MOTO_GLANCE_GESTURE <;>
      simp [wakeSwitch, wakeBitOf, wakeMask, otherGlance, ho, H.wakeBit_injective.eq_iff]
  | ID_MOTO_GLANCE_GESTURE =>
    cases ho : s.isHandleEnabled H .ID_GLANCE_GESTURE <;> cases m <;>
      simp [wakeSwitch, motionCase, wakeMask, otherGlance, ho, H.wakeBit_injective.eq_iff]
  | ID_CHOPCHOP_GESTURE =>
    have hbuild : B._ENABLE_CHOPCHOP = true := hlisted
    simp [wakeSwitch, wakeBitOf, wakeMask, otherGlance, hbuild, H.wakeBit_injective.eq_iff]
  | ID_LIFT_GESTURE =>
    have hbuild : B._ENABLE_LIFT = true := hlisted
    simp [wakeSwitch, wakeBitOf, wakeMask, otherGlance, hbuild, H.wakeBit_injective.eq_iff]
  | _ =>
    simp [wakeSwitch, wakeBitOf, motionCase, wakeMask, otherGlance, H.wakeBit_injective.eq_iff]

theorem enable_handle {c : EnableCall} (hlisted : mIdToSensor B c.handle = true)
    (h : SensorHandle) :
    (s.enable H B K c).isHandleEnabled H h =
      if c.handle = h then c.newState else s.isHandleEnabled H h := by
  rw [enable, setEnable_isHandleEnabled]
  simp only [hlisted, true_and, EnableCall.newState]

theorem enable_bit {c : EnableCall} (hlisted : mIdToSensor B c.handle = true) (m : WakeMask)
    [Decidable (s.Writes H c.handle m)] :
    has (s.enable H B K c).mWakeEnabled (H.wakeBit m) =
      if s.Writes H c.handle m then c.newState else has s.mWakeEnabled (H.wakeBit m) := by
  rw [enable, (setEnable_masks hlisted s H K c.en).1]
  exact wakeSwitch_mask hlisted _ m

theorem enable_unlisted {c : EnableCall} (h : mIdToSensor B c.handle = false) :
    s.enable H B K c = s :=
  congrArg Prod.snd (setEnable_unlisted h s H K c.en)

theorem WakeInv.glance_enable (hinv : s.WakeInv H) {c : EnableCall}
    (hlisted : mIdToSensor B c.handle = true) :
    has (s.enable H B K c).mWakeEnabled (H.wakeBit .M_GLANCE) =
      ((s.enable H B K c).isHandleEnabled H .ID_GLANCE_GESTURE ||
        (s.enable H B K c).isHandleEnabled H .ID_MOTO_GLANCE_GESTURE) := by
  classical
  have hg := hinv.glance
  rw [enable_bit hlisted, enable_handle hlisted, enable_handle hlisted]
  obtain ⟨x, en⟩ := c
  dsimp only at hlisted ⊢
  by_cases hx : x = .ID_GLANCE_GESTURE
  · subst hx
    cases ho : s.isHandleEnabled H .ID_MOTO_GLANCE_GESTURE <;>
      simp [Writes, wakeMask, otherGlance, ho, hg]
  · by_cases hx' : x = .ID_MOTO_GLANCE_GESTURE
    · subst hx'
      cases ho : s.isHandleEnabled H .ID_GLANCE_GESTURE <;>
        simp [Writes, wakeMask, otherGlance, ho, hg]
    · rw [if_neg hx, if_neg hx', if_neg, hg]
      intro hwrites
      rcases hwrites with ⟨hmask, -⟩ | ⟨hmoto, -⟩
      · rcases wakeMask_glance hmask with heq | heq
        · exact hx heq
        · exact hx' heq
      · exact hx' hmoto

theorem WakeInv.single_enable (hinv : s.WakeInv H) {c : EnableCall}
    (hlisted : mIdToSensor B c.handle = true) (hharmless : s.Harmless H c) {h : SensorHandle}
    {m : WakeMask} (hm : wakeMask h = some m) (hne : m ≠ .M_GLANCE) :
    has (s.enable H B K c).mWakeEnabled (H.wakeBit m) = (s.enable H B K c).isHandleEnabled H h := by
  classical
  have hown := hinv.single h m hm hne
  rw [enable_bit hlisted, enable_handle hlisted]
  by_cases hx : c.handle = h
  · have hother : s.otherGlance H c.handle = false := by
      rw [hx]
      cases h <;> first | rfl | (cases hm; exact absurd rfl hne)
    have hwrites : s.Writes H c.handle m := Or.inl ⟨hx ▸ hm, hother⟩
    rw [if_pos hx, if_pos hwrites]
  · rw [if_neg hx]
    split_ifs with hwrites
    · rcases hwrites with ⟨hmask, -⟩ | ⟨hmoto, rfl⟩
      · exact absurd (wakeMask_injective hmask hm hne) hx
      · -- The fall through writes the state that the motion detector already has.
        have hmotion : h = .ID_MOTION_DETECT := wakeMask_injective hm rfl hne
        rw [hmotion]
        exact hharmless hmoto
    · exact hown

/-- What is asked of a request: the mask fits the handles after it, and it leaves the bit
of the motion detector alone unless it is for the motion detector. -/
def Fits (H : MotoshHeader) (B : Build) (K : Kernel) (s : HubSensors F) (c : EnableCall) : Prop :=
  (s.enable H B K c).WakeInv H ∧
    (c.handle ≠ .ID_MOTION_DETECT →
      has (s.enable H B K c).mWakeEnabled (H.wakeBit .M_MOTION_DETECT) =
        has s.mWakeEnabled (H.wakeBit .M_MOTION_DETECT))

theorem WakeInv.fits_iff (hinv : s.WakeInv H) (B : Build) (K : Kernel) (c : EnableCall) :
    s.Fits H B K c ↔ s.Harmless H c := by
  classical
  cases hlisted : mIdToSensor B c.handle with
  | false =>
    rw [Fits, enable_unlisted hlisted]
    refine iff_of_true ⟨hinv, fun _ => rfl⟩ ?_
    intro hmoto
    rw [hmoto] at hlisted
    cases hlisted
  | true =>
    have hbit := enable_bit (s := s) (H := H) (K := K) hlisted .M_MOTION_DETECT
    have hmotion := hinv.single .ID_MOTION_DETECT .M_MOTION_DETECT rfl (by decide)
    constructor
    · intro hfits hmoto
      obtain ⟨-, hkept⟩ := hfits
      have hwrites : s.Writes H c.handle .M_MOTION_DETECT := Or.inr ⟨hmoto, rfl⟩
      rw [if_pos hwrites] at hbit
      rw [← hmotion, ← hkept (by rw [hmoto]; decide), hbit]
    · intro hharmless
      have hafter : (s.enable H B K c).WakeInv H :=
        ⟨fun h m hm hne => hinv.single_enable hlisted hharmless hm hne, hinv.glance_enable hlisted⟩
      refine ⟨hafter, fun hother => ?_⟩
      rw [hafter.single .ID_MOTION_DETECT .M_MOTION_DETECT rfl (by decide),
        enable_handle hlisted, if_neg hother, hmotion]

theorem wakeInv_cleared (hw : s.mWakeEnabled = 0) (hh : s.mEnabledHandles = 0) : s.WakeInv H := by
  constructor
  · intro h m _ _
    rw [isHandleEnabled_eq, hw, hh]
    simp
  · rw [isHandleEnabled_eq, isHandleEnabled_eq, hw, hh]
    simp

end HubSensors

/-- From cleared masks, the wake mask fits the handles after every request of a run exactly
if no request for the moto glance gesture differs from the state of the motion detector. -/
theorem wakeMask_iff (H : MotoshHeader) (B : Build) (K : Kernel) {s : HubSensors F}
    (hw : s.mWakeEnabled = 0) (hh : s.mEnabledHandles = 0) (calls : List EnableCall) :
    Along (fun t c => t.enable H B K c) (fun t c => t.Fits H B K c) s calls ↔
      Along (fun t c => t.enable H B K c) (fun t c => t.Harmless H c) s calls :=
  along_congr (fun t => t.WakeInv H) (fun _ c hinv => hinv.fits_iff B K c)
    (fun _ _ _ hfits => hfits.1) (HubSensors.wakeInv_cleared hw hh) calls

theorem wakeMask_iff_glances :
    Along (fun t c => t.enable .numbered .all (fun _ _ => 0) c)
        (fun t c => t.Fits .numbered .all (fun _ _ => 0) c) (.start none none : HubSensors ℚ)
        [⟨.ID_MOTION_DETECT, 1⟩, ⟨.ID_MOTO_GLANCE_GESTURE, 1⟩] ↔
      Along (fun t c => t.enable .numbered .all (fun _ _ => 0) c)
        (fun t c => t.Harmless .numbered c) (.start none none : HubSensors ℚ)
        [⟨.ID_MOTION_DETECT, 1⟩, ⟨.ID_MOTO_GLANCE_GESTURE, 1⟩] :=
  wakeMask_iff .numbered .all (fun _ _ => 0) rfl rfl
    [⟨.ID_MOTION_DETECT, 1⟩, ⟨.ID_MOTO_GLANCE_GESTURE, 1⟩]

/-- Enabling the moto glance gesture arms the motion detector. -/
theorem motoGlance_arms_motionDetect :
    ¬ Along (fun t c => t.enable .numbered .all (fun _ _ => 0) c)
      (fun t c => t.Fits .numbered .all (fun _ _ => 0) c) (.start none none : HubSensors ℚ)
      [⟨.ID_MOTO_GLANCE_GESTURE, 1⟩] := by
  intro h
  have hkept := h.1.2 (by decide)
  exact absurd hkept (by decide)

end Cedric.MotoshHal
