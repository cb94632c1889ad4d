import Cedric.Lib.Runs
import Mathlib.Data.Nat.Notation
import Mathlib.Tactic.SplitIfs

/-!
# The light service

Three light types are shown by the charging LED. Their handlers keep nothing, so the LED
shows the last call on any of the three.
-/

namespace Cedric.Light

open Runs

def LED_LIGHT_OFF : ℕ := 0
def LED_LIGHT_BLINK_FAST : ℕ := 1
def LED_LIGHT_SOLID_ON : ℕ := 3

inductive LightType
  | BACKLIGHT | KEYBOARD | BUTTONS | BATTERY | NOTIFICATIONS | ATTENTION | BLUETOOTH | WIFI
  deriving DecidableEq

inductive Status
  | SUCCESS | LIGHT_NOT_SUPPORTED
  deriving DecidableEq

/-- The handlers read the colour and nothing else. -/
structure LightState where
  color : BitVec 32

/-- What was written last to the brightness files of `LCD_LED` and `CHARGING_LED`. -/
structure Leds where
  lcd : ℕ
  charging : ℕ

def isLit (state : LightState) : BitVec 32 := state.color &&& 0x00ffffff#32

def rgbToBrightness (state : LightState) : ℕ :=
  let color := state.color &&& 0x00ffffff#32
  (77 * ((color >>> 16) &&& 0xff#32).toNat + 150 * ((color >>> 8) &&& 0xff#32).toNat +
    29 * (color &&& 0xff#32).toNat) / 256

def Leds.handleBacklight (leds : Leds) (state : LightState) : Leds :=
  { leds with lcd := rgbToBrightness state }

def chargingBrightness (on : ℕ) (state : LightState) : ℕ :=
  if isLit state ≠ 0 then on else LED_LIGHT_OFF

def Leds.handleNotification (leds : Leds) (state : LightState) : Leds :=
  { leds with charging := chargingBrightness LED_LIGHT_BLINK_FAST state }

def Leds.handleBattery (leds : Leds) (state : LightState) : Leds :=
  { leds with charging := chargingBrightness LED_LIGHT_SOLID_ON state }

def lights : LightType → Option (Leds → LightState → Leds)
  | .BACKLIGHT => some Leds.handleBacklight
  | .BATTERY => some Leds.handleBattery
  | .NOTIFICATIONS | .ATTENTION => some Leds.handleNotification
  | _ => none

def Leds.setLight (leds : Leds) (type : LightType) (state : LightState) : Status × Leds :=
  match lights type with
  | none => (.LIGHT_NOT_SUPPORTED, leds)
  | some handle => (.SUCCESS, handle leds state)

structure SetLight where
  type : LightType
  state : LightState

def Leds.step (leds : Leds) (c : SetLight) : Leds := (leds.setLight c.type c.state).2

def LightType.onChargingLed : LightType → Bool
  | .BATTERY | .NOTIFICATIONS | .ATTENTION => true
  | _ => false

def lastState (type : LightType) (calls : List SetLight) : Option LightState :=
  ((calls.filter fun c => decide (c.type = type)).getLast?).map SetLight.state

/-- The LED is off only if each of the three types was set to an unlit state last. -/
def OffOnlyIfUnlit (leds : Leds) (calls : List SetLight) : Prop :=
  leds.charging = LED_LIGHT_OFF →
    ∀ type : LightType, type.onChargingLed → ∀ state ∈ lastState type calls, isLit state = 0

theorem chargingBrightness_off_iff {on : ℕ} (hon : on ≠ LED_LIGHT_OFF) (state : LightState) :
    chargingBrightness on state = LED_LIGHT_OFF ↔ isLit state = 0 := by
  rw [chargingBrightness]
  split_ifs with hlit
  · exact iff_of_false hon hlit
  · exact iff_of_true rfl (not_not.mp hlit)

namespace Leds

variable {leds : Leds} {c : SetLight}

theorem step_charging_off_iff (h : c.type.onChargingLed = true) :
    (leds.step c).charging = LED_LIGHT_OFF ↔ isLit c.state = 0 := by
  obtain ⟨type, state⟩ := c
  cases type with
  | BATTERY => exact chargingBrightness_off_iff (by decide) state
  | NOTIFICATIONS | ATTENTION => exact chargingBrightness_off_iff (by decide) state
  | _ => cases h

theorem step_charging (h : c.type.onChargingLed = false) :
    (leds.step c).charging = leds.charging := by
  obtain ⟨type, state⟩ := c
  cases type with
  | BATTERY | NOTIFICATIONS | ATTENTION => cases h
  | _ => rfl

theorem run_charging {calls : List SetLight} (h : ∀ c ∈ calls, c.type.onChargingLed = false) :
    (calls.foldl step leds).charging = leds.charging := by
  induction calls generalizing leds with
  | nil => rfl
  | cons c calls ih =>
    obtain ⟨hc, hcalls⟩ := List.forall_mem_cons.mp h
    exact (ih hcalls).trans (step_charging hc)

end Leds

/-- The last call on one of the three types decides whether the LED is off. -/
theorem charging_off_iff (leds : Leds) (before after : List SetLight) (c : SetLight)
    (hc : c.type.onChargingLed = true) (hafter : ∀ d ∈ after, d.type.onChargingLed = false) :
    ((before ++ c :: after).foldl Leds.step leds).charging = LED_LIGHT_OFF ↔
      isLit c.state = 0 := by
  rw [List.foldl_append, List.foldl_cons, Leds.run_charging hafter]
  exact Leds.step_charging_off_iff hc

def lit : LightState := ⟨0x00ff00⟩
def unlit : LightState := ⟨0⟩

def chargingThenCleared : List SetLight := [⟨.BATTERY, lit⟩, ⟨.NOTIFICATIONS, unlit⟩]

theorem charging_off_cleared :
    ((chargingThenCleared ++ ⟨.ATTENTION, unlit⟩ :: ([⟨.BACKLIGHT, lit⟩] : List SetLight)).foldl
      Leds.step ⟨0, 0⟩).charging = LED_LIGHT_OFF ↔ isLit unlit = 0 :=
  charging_off_iff ⟨0, 0⟩ chargingThenCleared [⟨.BACKLIGHT, lit⟩] ⟨.ATTENTION, unlit⟩ rfl
    (by decide)

/-- Clearing a notification switches the LED of the charging battery off. -/
theorem cleared_notification_hides_battery :
    ¬ OffOnlyIfUnlit (chargingThenCleared.foldl Leds.step ⟨0, 0⟩) chargingThenCleared := by
  intro h
  have hlit := h rfl .BATTERY rfl lit rfl
  exact absurd hlit (by decide)

end Cedric.Light
