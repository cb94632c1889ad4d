import Mathlib.Data.BitVec
import Mathlib.Data.Fin.VecNotation
import Mathlib.Data.List.FinRange
import Mathlib.Data.Nat.Sqrt
import Mathlib.Data.Rat.Init
import Mathlib.Logic.Function.Basic

/-!
# Fusion data and the fusion algorithms

The fusion sources compute in `float`. `FloatOps` lists the operations they
use, so the model runs over any arithmetic: the machine's, or the reals where a
result is about exact values. Literals and integer conversions go through
`ofRat`. `QuatData` keeps `a b c` as the vector part and `d` as the scalar.

Each `processFusion` keeps its state in function statics. The state is a
structure here, and every algorithm is split into `fuse`, which takes just the
samples and the output it touches, and `processFusion`, which applies it to the
shared `FusionData`.
-/

namespace Cedric.Hub

class FloatOps (F : Type) extends Add F, Sub F, Mul F, Div F, Neg F where
  ofRat : ℚ → F
  sqrtf : F → F
  sinf : F → F
  cosf : F → F
  fabs : F → F
  copysignf : F → F → F
  lt : F → F → Bool
  le : F → F → Bool
  ne : F → F → Bool

export FloatOps (ofRat sqrtf sinf cosf fabs copysignf)

/-- Rational arithmetic for runs on fixed inputs: the root is exact on squares of
fractions, sine and cosine to first order. -/
instance : FloatOps ℚ where
  ofRat x := x
  sqrtf x := mkRat (Nat.sqrt x.num.toNat) (Nat.sqrt x.den)
  sinf x := x
  cosf _ := 1
  fabs x := if x < 0 then -x else x
  copysignf x y := if (x < 0) = (y < 0) then x else -x
  lt x y := decide (x < y)
  le x y := decide (x ≤ y)
  ne x y := decide (x ≠ y)

structure CartData (F : Type) where
  x : F
  y : F
  z : F
  timestamp : ℤ
  deriving DecidableEq

structure QuatData (F : Type) where
  a : F
  b : F
  c : F
  d : F
  accuracy : F
  timestamp : ℤ
  deriving DecidableEq

structure FusionData (F : Type) where
  accel : CartData F
  gyro : CartData F
  mag : CartData F
  gameRotation : QuatData F
  geoMagRotation : QuatData F
  rotationVector : QuatData F
  gravity : CartData F
  linearAccel : CartData F
  deriving DecidableEq

variable {F : Type} [FloatOps F]

def CartData.zero : CartData F := ⟨ofRat 0, ofRat 0, ofRat 0, 0⟩

def QuatData.zero : QuatData F := ⟨ofRat 0, ofRat 0, ofRat 0, ofRat 0, ofRat 0, 0⟩

def FusionData.zero : FusionData F :=
  ⟨.zero, .zero, .zero, .zero, .zero, .zero, .zero, .zero⟩

def FLT_EPSILON : F := ofRat (1 / 8388608)
def FLT_MAX : F := ofRat (340282346638528859811704183484516925440 : ℚ)
def GRAVITY_EARTH : F := ofRat 9.80665

def sumSquares (v : Fin 3 → F) : F := v 0 * v 0 + v 1 * v 1 + v 2 * v 2

def dot3 (u v : Fin 3 → F) : F := u 0 * v 0 + u 1 * v 1 + u 2 * v 2

namespace Quaternion

def cross3 (u v : Fin 3 → F) : Fin 3 → F :=
  ![u 1 * v 2 - u 2 * v 1, u 2 * v 0 - u 0 * v 2, u 0 * v 1 - u 1 * v 0]

/-- `out` keeps its accuracy and timestamp, as in every operation below. -/
def inv (out q : QuatData F) : QuatData F :=
  { out with a := -q.a, b := -q.b, c := -q.c, d := q.d }

def MAG_TOL : F := ofRat 0.0001

/-- The second component is the C result: 1 if `q` is non-renormalizable. -/
def renormalize (q : QuatData F) : QuatData F × ℤ :=
  let mag := q.a * q.a + q.b * q.b + q.c * q.c + q.d * q.d
  if FloatOps.lt mag MAG_TOL then
    ({ q with a := ofRat 0, b := ofRat 0, c := ofRat 0, d := ofRat 1 }, 1)
  else if FloatOps.lt (ofRat 1 + MAG_TOL) mag || FloatOps.lt mag (ofRat 1 - MAG_TOL) then
    let mag := copysignf (sqrtf mag) q.d
    ({ q with a := q.a / mag, b := q.b / mag, c := q.c / mag, d := q.d / mag }, 0)
  else (q, 0)

def mulNoRenormalize (q q1 q2 : QuatData F) : QuatData F :=
  { q with
    a := q1.d * q2.a + q1.a * q2.d + q1.b * q2.c - q1.c * q2.b
    b := q1.d * q2.b - q1.a * q2.c + q1.b * q2.d + q1.c * q2.a
    c := q1.d * q2.c + q1.a * q2.b - q1.b * q2.a + q1.c * q2.d
    d := q1.d * q2.d - q1.a * q2.a - q1.b * q2.b - q1.c * q2.c }

def mul (q q1 q2 : QuatData F) : QuatData F × ℤ :=
  renormalize (mulNoRenormalize q q1 q2)

def dist (q1 q2 : QuatData F) : F :=
  (q1.a - q2.a) * (q1.a - q2.a) + (q1.b - q2.b) * (q1.b - q2.b)
    + (q1.c - q2.c) * (q1.c - q2.c) + (q1.d - q2.d) * (q1.d - q2.d)

def linInterp (out q1 q2 : QuatData F) (alpha : F) : QuatData F × ℤ :=
  let oneMinusAlpha := ofRat 1 - alpha
  let minusQ2 := { q2 with a := -q2.a, b := -q2.b, c := -q2.c, d := -q2.d }
  let oneMinusAlpha :=
    if FloatOps.lt (dist q1 minusQ2) (dist q1 q2) then -oneMinusAlpha else oneMinusAlpha
  renormalize { out with
    a := alpha * q1.a + oneMinusAlpha * q2.a
    b := alpha * q1.b + oneMinusAlpha * q2.b
    c := alpha * q1.c + oneMinusAlpha * q2.c
    d := alpha * q1.d + oneMinusAlpha * q2.d }

/-- The quaternion of the rotation matrix with rows `h`, `m`, `n`; the six-axis
algorithms both end with these lines. -/
def ofRotation (rot : QuatData F) (h m n : Fin 3 → F) : QuatData F :=
  let r := sqrtf (fabs (ofRat 1 + h 0 + m 1 + n 2))
  { rot with
    a := copysignf (ofRat 0.5 * sqrtf (fabs (ofRat 1 + h 0 - m 1 - n 2))) (n 1 - m 2)
    b := copysignf (ofRat 0.5 * sqrtf (fabs (ofRat 1 - h 0 + m 1 - n 2))) (h 2 - n 0)
    c := copysignf (ofRat 0.5 * sqrtf (fabs (ofRat 1 - h 0 - m 1 + n 2))) (m 0 - h 1)
    d := ofRat 0.5 * r
    accuracy := ofRat 0 }

end Quaternion

def GYRO_MIN_DELAY_US : ℕ := 5000
def GYRO_MAX_DELAY_US : ℕ := 200000

def SIX_AXIS_FILTER_ALPHA : F := ofRat 0.016
def NINE_AXIS_FILTER_ALPHA_FAST : F := ofRat 0
def NINE_AXIS_FILTER_ALPHA_SLOW : F := ofRat 0.003
def NINE_AXIS_FILTER_SELECT_THRESH : F := ofRat 0.5

def CartData.vec (v : CartData F) : Fin 3 → F := ![v.x, v.y, v.z]

def sixAxisFilter (sample raw : Fin 3 → F) : Fin 3 → F := fun i =>
  SIX_AXIS_FILTER_ALPHA * sample i + (ofRat 1 - SIX_AXIS_FILTER_ALPHA) * raw i

namespace GyroIntegration

structure State (F : Type) where
  initialized : Bool
  quatGyro : QuatData F
  deriving DecidableEq

def State.start : State F := ⟨false, .zero⟩

def integrate (gis : State F) (rvOut rvIn : QuatData F) (gyro : CartData F) :
    State F × QuatData F :=
  let quatGyro :=
    if gis.initialized then gis.quatGyro
    else { gis.quatGyro with
      a := rvIn.a, b := rvIn.b, c := rvIn.c, d := rvIn.d, timestamp := rvIn.timestamp }
  let dt : F :=
    if gyro.timestamp ≠ quatGyro.timestamp then
      ofRat (gyro.timestamp - quatGyro.timestamp : ℤ) / ofRat 1000000000
    else ofRat GYRO_MIN_DELAY_US / ofRat 1000000
  let quatGyro := { quatGyro with timestamp := gyro.timestamp }
  let gyroMag := sumSquares gyro.vec
  let moving := FloatOps.lt (ofRat 0.00001) gyroMag
  let gyroNorm := if moving then sqrtf gyroMag else gyroMag
  let gyroX := if moving then gyro.x / gyroNorm else gyro.x
  let gyroY := if moving then gyro.y / gyroNorm else gyro.y
  let gyroZ := if moving then gyro.z / gyroNorm else gyro.z
  let halfTheta := if moving then dt * gyroNorm / ofRat 2 else ofRat 0
  let sinHalfTheta := sinf halfTheta
  let quatGyroDelta := (Quaternion.renormalize
    ⟨sinHalfTheta * gyroX, sinHalfTheta * gyroY, sinHalfTheta * gyroZ, cosf halfTheta,
      ofRat 0, 0⟩).1
  let product := Quaternion.mul quatGyro quatGyro quatGyroDelta
  if product.2 ≠ 0 then (⟨false, product.1⟩, rvOut)
  else
    let nineAxisFilter :=
      if FloatOps.lt gyroNorm NINE_AXIS_FILTER_SELECT_THRESH then NINE_AXIS_FILTER_ALPHA_SLOW
      else NINE_AXIS_FILTER_ALPHA_FAST
    let quatGyro := (Quaternion.linInterp product.1 rvIn product.1 nineAxisFilter).1
    (⟨true, quatGyro⟩, quatGyro)

end GyroIntegration

namespace GeoMagRotationVector

def MAG_COUNTS : BitVec 8 := 10

structure State (F : Type) where
  initialized : Bool
  magCnt : BitVec 8
  nRaw : Fin 3 → F
  mRaw : Fin 3 → F
  deriving DecidableEq

def State.start : State F := ⟨false, MAG_COUNTS, fun _ => ofRat 0, fun _ => ofRat 0⟩

def State.reset (st : State F) : State F :=
  { st with initialized := false, magCnt := MAG_COUNTS }

/-- Filters the samples, or counts new magnetometer samples while starting up. -/
def State.sample (st : State F) (n m : Fin 3 → F) : State F :=
  if st.initialized then
    { st with mRaw := sixAxisFilter m st.mRaw, nRaw := sixAxisFilter n st.nRaw }
  else
    let fresh := FloatOps.ne (st.mRaw 0) (m 0) || FloatOps.ne (st.mRaw 1) (m 1) ||
      FloatOps.ne (st.mRaw 2) (m 2)
    if fresh then
      ⟨decide (st.magCnt = 0), st.magCnt - 1, n, m⟩
    else { st with nRaw := n, mRaw := m }

def fuse (st : State F) (accel mag : CartData F) (rot : QuatData F) (reset : Bool) :
    State F × QuatData F × Bool :=
  if reset then (st.reset, rot, false)
  else
    let rot := { rot with timestamp := accel.timestamp }
    let st := st.sample accel.vec mag.vec
    let h := Quaternion.cross3 st.mRaw st.nRaw
    let hNorm := sqrtf (sumSquares h)
    if FloatOps.lt hNorm (ofRat 0.1) then (st, rot, st.initialized)
    else
      let h : Fin 3 → F := fun i => h i / hNorm
      let aNorm := sqrtf (sumSquares st.nRaw)
      let n : Fin 3 → F := fun i => st.nRaw i / aNorm
      let m := Quaternion.cross3 n h
      (st, Quaternion.ofRotation rot h m n, st.initialized)

def processFusion (st : State F) (fd : FusionData F) (reset : Bool) :
    State F × FusionData F × Bool :=
  let r := fuse st fd.accel fd.mag fd.geoMagRotation reset
  (r.1, { fd with geoMagRotation := r.2.1 }, r.2.2)

end GeoMagRotationVector

namespace RotationVector

def fuse (gis : GyroIntegration.State F) (gyro : CartData F) (geoMag rot : QuatData F)
    (reset : Bool) : GyroIntegration.State F × QuatData F :=
  let gis := if reset then { gis with initialized := false } else gis
  let r := GyroIntegration.integrate gis rot geoMag gyro
  (r.1, { r.2 with accuracy := ofRat 0, timestamp := gyro.timestamp })

def processFusion (gis : GyroIntegration.State F) (fd : FusionData F) (reset : Bool) :
    GyroIntegration.State F × FusionData F :=
  let r := fuse gis fd.gyro fd.geoMagRotation fd.rotationVector reset
  (r.1, { fd with rotationVector := r.2 })

end RotationVector

namespace GameRotationVector

structure PermSort (F : Type) (len : ℕ) where
  p : Fin len → Fin len
  a : Fin len → F
  swaps : ℕ

def swapAt {α : Type} {len : ℕ} (f : Fin len → α) (i k : Fin len) : Fin len → α :=
  fun j => if j = i then f k else if j = k then f i else f j

def largestFrom {len : ℕ} (a : Fin len → F) (i : Fin len) : Fin len :=
  (((List.finRange len).filter (i ≤ ·)).foldl (fun (best : Fin len × F) j =>
    if FloatOps.lt best.2 (fabs (a j)) then (j, fabs (a j)) else best) (i, -FLT_MAX)).1

def PermSort.step {len : ℕ} (s : PermSort F len) (i : Fin len) : PermSort F len :=
  let k := largestFrom s.a i
  ⟨swapAt s.p i k, swapAt s.a i k, s.swaps + if i = k then 0 else 1⟩

def permSort {len : ℕ} (a : Fin len → F) : PermSort F len :=
  (List.finRange len).foldl PermSort.step ⟨id, a, 0⟩

def PermSort.sign {len : ℕ} (s : PermSort F len) : ℤ := if s.swaps % 2 = 1 then -1 else 1

structure State (F : Type) where
  gis : GyroIntegration.State F
  initialized : Bool
  nRaw : Fin 3 → F
  h : Fin 3 → F
  deriving DecidableEq

def State.start : State F := ⟨.start, false, fun _ => ofRat 0, fun _ => ofRat 0⟩

/-- Filters the accel sample, or seeds `h` from the first one; `false` is free fall. -/
def State.sample (st : State F) (n : Fin 3 → F) : State F × Bool :=
  if st.initialized then ({ st with nRaw := sixAxisFilter n st.nRaw }, true)
  else
    let st := { st with nRaw := n }
    let nPerm := (permSort n).p
    if FloatOps.le (fabs (n (nPerm 0))) (ofRat 2 * FLT_EPSILON) then (st, false)
    else
      let h := Function.update (Function.update st.h (nPerm 2) (ofRat 1)) (nPerm 1) (ofRat 1)
      let h := Function.update h (nPerm 0) (-(n (nPerm 2) + n (nPerm 1)) / n (nPerm 0))
      ({ st with h := h, initialized := true }, true)

def fuse (st : State F) (accel gyro : CartData F) (rot : QuatData F) (reset : Bool) :
    State F × QuatData F × Bool :=
  let st :=
    if reset then { st with gis := { st.gis with initialized := false }, initialized := false }
    else st
  let rot := { rot with timestamp := gyro.timestamp }
  let sampled := st.sample accel.vec
  let st := sampled.1
  if !sampled.2 then (st, rot, false)
  else
    let tmpNorm := sqrtf (sumSquares st.nRaw)
    if FloatOps.lt tmpNorm (ofRat 2 * FLT_EPSILON) then (st, rot, false)
    else
      let n : Fin 3 → F := fun i => st.nRaw i / tmpNorm
      let projection := st.h 0 * n 0 + st.h 1 * n 1 + st.h 2 * n 2
      let h : Fin 3 → F := fun i => st.h i - projection * n i
      let tmpNorm := sqrtf (sumSquares h)
      if FloatOps.lt tmpNorm (ofRat 2 * FLT_EPSILON) then ({ st with h := h }, rot, false)
      else
        let h : Fin 3 → F := fun i => h i / tmpNorm
        let m := Quaternion.cross3 n h
        let rot := Quaternion.ofRotation rot h m n
        let integrated := GyroIntegration.integrate st.gis rot rot gyro
        let rot := integrated.2
        -- qEast = quatGame^{-1} * qx * quatGame keeps h up to date with the gyro.
        let qx : QuatData F := ⟨ofRat 1, ofRat 0, ofRat 0, ofRat 0, ofRat 0, 0⟩
        let qEast := Quaternion.inv .zero rot
        let qx := (Quaternion.mul qx qx rot).1
        let qEast := Quaternion.mulNoRenormalize qEast qEast qx
        ({ st with gis := integrated.1, h := ![qEast.a, qEast.b, qEast.c] }, rot, true)

def processFusion (st : State F) (fd : FusionData F) (reset : Bool) :
    State F × FusionData F × Bool :=
  let r := fuse st fd.accel fd.gyro fd.gameRotation reset
  (r.1, { fd with gameRotation := r.2.1 }, r.2.2)

end GameRotationVector

namespace LinearAccelGravity

/-- Gravity and linear acceleration, in this order. -/
def fuse (accel : CartData F) (rot : QuatData F) : CartData F × CartData F :=
  let qz : QuatData F := ⟨ofRat 0, ofRat 0, ofRat 1, ofRat 0, ofRat 0, 0⟩
  let qGrav : QuatData F := ⟨ofRat 0, ofRat 0, ofRat 0, ofRat 1, ofRat 0, 0⟩
  let qGrav := Quaternion.inv qGrav rot
  let qz := (Quaternion.mul qz qz rot).1
  let qGrav := Quaternion.mulNoRenormalize qGrav qGrav qz
  let mag := sqrtf (qGrav.a * qGrav.a + qGrav.b * qGrav.b + qGrav.c * qGrav.c + qGrav.d * qGrav.d)
  let gravity : CartData F :=
    ⟨(qGrav.a / mag) * GRAVITY_EARTH, (qGrav.b / mag) * GRAVITY_EARTH,
      (qGrav.c / mag) * GRAVITY_EARTH, rot.timestamp⟩
  (gravity, ⟨accel.x - gravity.x, accel.y - gravity.y, accel.z - gravity.z, rot.timestamp⟩)

def processFusion (fd : FusionData F) : FusionData F :=
  let r := fuse fd.accel fd.gameRotation
  { fd with gravity := r.1, linearAccel := r.2 }

end LinearAccelGravity
end Cedric.Hub
