import Cedric.Hub.Fusion
import Cedric.Lib.Binary32

/-!
# The fusion arithmetic of the machine

`float` is the IEEE single-precision format, so the operations of the fusion
sources are those of `Float32`. A literal is its exact value, rounded once.
-/

namespace Cedric.Hub

open Float.Model (UnpackedFloat)
open Float.Model.Format (binary32)

def roundRat (q : ℚ) : Float32 :=
  .ofModel (.pack (
    if h : q.num.natAbs = 0 then .zero .positive
    else .div binary32
      (.finite (if q.num < 0 then .negative else .positive) q.num.natAbs 0 (Nat.pos_of_ne_zero h))
      (.finite .positive q.den 0 q.den_pos)))

def signbit (x : Float32) : Bool := decide (0x80000000 ≤ x.toBits)

instance : FloatOps Float32 where
  ofRat := roundRat
  sqrtf := Float32.sqrt
  sinf := Float32.sin
  cosf := Float32.cos
  fabs := Float32.abs
  copysignf x y := if signbit y then -x.abs else x.abs
  lt := Float32.lt
  le := Float32.le
  ne x y := x != y

end Cedric.Hub
