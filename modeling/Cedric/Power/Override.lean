import Cedric.Power.HintHandles

/-!
# The device overrides as they are linked

`power-common.c` calls `power_hint_override` and `set_interactive_override` with the parameter
lists of its weak definitions. The strong definitions of the device have one parameter more,
in front, so each argument arrives one parameter too early and the last parameter holds what
its register happened to hold.
-/

namespace Cedric.Power

open DecimalText

abbrev Word := BitVec 64

/-- The registers for the parameters of a call, in order. -/
abbrev Registers := ℕ → Word

/-- What a callee finds: the arguments in front and the old contents behind. -/
def Registers.call (regs : Registers) (args : List Word) : Registers :=
  fun i => (args[i]?).getD (regs i)

/-- The parameters of the device's `power_hint_override`. -/
structure HintParams where
  module : Word
  hint : PowerHint
  data : Word

def HintParams.receive (regs : Registers) : HintParams := ⟨regs 0, (regs 1).setWidth 32, regs 2⟩

/-- The result, and the metadata that `process_video_encode_hint` is called with. -/
def HintParams.powerHintOverride (p : HintParams) : ℤ × List Word :=
  if p.hint = POWER_HINT_VSYNC then (HINT_NONE, [])
  else if p.hint = POWER_HINT_VIDEO_ENCODE then (HINT_HANDLED, [p.data])
  else (HINT_NONE, [])

/-- The parameters of the device's `set_interactive_override`. -/
structure InteractiveParams where
  module : Word
  on : BitVec 32

def InteractiveParams.receive (regs : Registers) : InteractiveParams :=
  ⟨regs 0, (regs 1).setWidth 32⟩

def VENDOR_HINT_DISPLAY_OFF : BitVec 32 := 0x1040
def VENDOR_HINT_DISPLAY_ON : BitVec 32 := 0x1041

variable (regs : Registers) (client : PerfClient)

def hintSeen (hint : PowerHint) (data : Word) : HintParams :=
  .receive (regs.call [hint.setWidth 64, data])

/-- The calls of `set_interactive(on)` before the override, and the parameters it hands over. -/
def setInteractive (on : BitVec 32) (answer : CInt) : List PerfCall × InteractiveParams :=
  let r :=
    if on = 0 then perfHintEnable client VENDOR_HINT_DISPLAY_OFF 0 answer
    else perfHintEnable client VENDOR_HINT_DISPLAY_ON 0 answer
  (r.2, .receive (regs.call [on.setWidth 64]))

/-- The override sees the hint and the data, whatever the registers held before. -/
def HintDelivered (hint : PowerHint) (data : Word) : Prop :=
  ∀ regs : Registers,
    (hintSeen regs hint data).hint = hint ∧ (hintSeen regs hint data).data = data ∧
    (hint = POWER_HINT_VIDEO_ENCODE →
      (hintSeen regs hint data).powerHintOverride = (HINT_HANDLED, [data]))

def InteractiveDelivered (on : BitVec 32) : Prop :=
  ∀ (regs : Registers) (client : PerfClient) (answer : CInt),
    (setInteractive regs client on answer).2.on = on

theorem hintSeen_iff (hint : PowerHint) (data : Word) :
    (hintSeen regs hint data).hint = hint ∧ (hintSeen regs hint data).data = data ↔
      data.setWidth 32 = hint ∧ regs 2 = data := Iff.rfl

/-- No call delivers its arguments, since the last parameter is arbitrary. -/
theorem overrides_never_delivered (hint : PowerHint) (data : Word) (on : BitVec 32) :
    ¬ HintDelivered hint data ∧ ¬ InteractiveDelivered on := by
  constructor
  · intro h
    have hdata : ~~~data = data := ((hintSeen_iff (fun _ => ~~~data) hint data).mp
      ⟨(h _).1, (h _).2.1⟩).2
    exact absurd hdata (by bv_omega)
  · intro h
    have hon : (BitVec.setWidth 64 (~~~on)).setWidth 32 = on :=
      h (fun _ => (~~~on).setWidth 64) ⟨false, false, false⟩ 0
    rw [BitVec.setWidth_setWidth_of_le _ (by decide), BitVec.setWidth_eq] at hon
    exact absurd hon (by bv_omega)

/-- The metadata pointer is taken for the hint: nothing is processed. -/
theorem video_hint_lost :
    ¬ HintDelivered POWER_HINT_VIDEO_ENCODE 0x7fc0001000 ∧ ¬ InteractiveDelivered 1 := by
  constructor
  · intro h
    exact absurd (h fun _ => 0).1 (by decide)
  · intro h
    exact absurd (h (fun _ => 0) ⟨false, false, false⟩ 0) (by decide)

end Cedric.Power
