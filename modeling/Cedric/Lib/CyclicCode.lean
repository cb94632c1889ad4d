import Mathlib.Data.BitVec

/-!
# Cyclic redundancy codes

The check register divides a message by a polynomial one bit at a time, the
highest power on the left. A reflected code sends the low bit of each byte first
and mirrors the register at the end, so it may as well keep the register mirrored
and shift it right. The mirrored shift is linear, which is what lets a table of
the shifts of every low part take several bits at once.
-/

namespace Cedric.CyclicCode

variable {w n : ℕ}

def feed (poly r : BitVec w) (b : Bool) : BitVec w :=
  if r.msb ^^ b then (r <<< 1) ^^^ poly else r <<< 1

def lowFirst (c : BitVec n) : List Bool := (List.range n).map c.getLsbD

/-- The code of a message of bytes, bit by bit. -/
def reflectedCrc (poly init xorOut : BitVec w) (data : List (BitVec n)) : BitVec w :=
  ((data.flatMap lowFirst).foldl (feed poly) init).reverse ^^^ xorOut

def shift (poly r : BitVec w) : BitVec w :=
  if r.getLsbD 0 then (r >>> 1) ^^^ poly else r >>> 1

def bit (b : Bool) : BitVec w := (BitVec.ofBool b).setWidth w

theorem bit_shift (b : Bool) : (bit b : BitVec w) >>> 1 = 0#w := by
  apply BitVec.eq_of_getLsbD_eq
  intro i hi
  simp [bit, BitVec.getLsbD_ushiftRight]

theorem getLsbD_bit (b : Bool) (hw : 0 < w) : (bit b : BitVec w).getLsbD 0 = b := by
  simp [bit, hw]

theorem setWidth_shift (c : BitVec n) : c.setWidth w >>> n = 0#w := by
  apply BitVec.eq_of_getLsbD_eq
  intro i hi
  simp

theorem shift_xor (poly x y : BitVec w) :
    shift poly (x ^^^ y) = shift poly x ^^^ shift poly y := by
  have hcancel : (x >>> 1 ^^^ y >>> 1) = (x >>> 1 ^^^ poly) ^^^ (y >>> 1 ^^^ poly) := by
    rw [BitVec.xor_assoc, BitVec.xor_comm (y >>> 1), ← BitVec.xor_assoc poly, BitVec.xor_self,
      BitVec.zero_xor]
  unfold shift
  rw [BitVec.getLsbD_xor, BitVec.ushiftRight_xor_distrib]
  cases x.getLsbD 0 <;> cases y.getLsbD 0
  · rfl
  · exact BitVec.xor_assoc _ _ _
  · simp only [Bool.xor_false, ↓reduceIte, Bool.false_eq_true]
    rw [BitVec.xor_assoc, BitVec.xor_comm (y >>> 1), BitVec.xor_assoc]
  · exact hcancel

theorem iterate_shift_xor (poly : BitVec w) (k : ℕ) (x y : BitVec w) :
    (shift poly)^[k] (x ^^^ y) = (shift poly)^[k] x ^^^ (shift poly)^[k] y := by
  induction k with
  | zero => rfl
  | succ k ih => rw [Function.iterate_succ_apply', Function.iterate_succ_apply',
      Function.iterate_succ_apply', ih, shift_xor]

theorem iterate_shift_high (poly : BitVec w) {k : ℕ} {x : BitVec w}
    (h : ∀ i < k, x.getLsbD i = false) : (shift poly)^[k] x = x >>> k := by
  induction k with
  | zero => exact (BitVec.ushiftRight_zero x).symm
  | succ k ih =>
    have hlow : (x >>> k).getLsbD 0 = false := by
      rw [BitVec.getLsbD_ushiftRight]
      exact h k (Nat.lt_succ_self k)
    rw [Function.iterate_succ_apply', ih fun i hi => h i (hi.trans (Nat.lt_succ_self k)), shift,
      hlow, BitVec.shiftRight_add]
    rfl

/-- What `k` shifts make of a register depends on its low part but for moving the rest. -/
theorem iterate_shift_eq (poly : BitVec w) (k : ℕ) (x : BitVec w) :
    (shift poly)^[k] x = (shift poly)^[k] ((x.setWidth k).setWidth w) ^^^ (x >>> k) := by
  have hhigh : ∀ i < k, (x ^^^ (x.setWidth k).setWidth w).getLsbD i = false := by
    intro i hi
    by_cases hw : i < w
    · simp [hi, hw]
    · simp [BitVec.getLsbD_of_ge x i (not_lt.mp hw)]
  have hmove : (x ^^^ (x.setWidth k).setWidth w) >>> k = x >>> k := by
    apply BitVec.eq_of_getLsbD_eq
    intro i hi
    simp
  have hsplit : x = ((x.setWidth k).setWidth w) ^^^ (x ^^^ (x.setWidth k).setWidth w) := by
    rw [BitVec.xor_comm x, ← BitVec.xor_assoc, BitVec.xor_self, BitVec.zero_xor]
  conv_lhs => rw [hsplit]
  rw [iterate_shift_xor, iterate_shift_high poly hhigh, hmove]

theorem reverse_shiftLeft (r : BitVec w) : (r <<< 1).reverse = r.reverse >>> 1 := by
  apply BitVec.eq_of_getLsbD_eq
  intro i hi
  rw [BitVec.getLsbD_reverse, BitVec.getLsbD_ushiftRight, BitVec.getLsbD_reverse,
    BitVec.getMsbD_shiftLeft, Nat.add_comm]

theorem reverse_xor (x y : BitVec w) : (x ^^^ y).reverse = x.reverse ^^^ y.reverse := by
  apply BitVec.eq_of_getLsbD_eq
  intro i hi
  simp only [BitVec.getLsbD_reverse, BitVec.getLsbD_xor, BitVec.getMsbD_xor]

theorem reverse_feed (poly r : BitVec w) (b : Bool) (hw : 0 < w) :
    (feed poly r b).reverse = shift poly.reverse (r.reverse ^^^ bit b) := by
  have hlow : (r.reverse ^^^ bit b).getLsbD 0 = (r.msb ^^ b) := by
    rw [BitVec.getLsbD_xor, getLsbD_bit b hw, BitVec.getLsbD_reverse]
    rfl
  have hmove : (r.reverse ^^^ bit b) >>> 1 = (r <<< 1).reverse := by
    rw [BitVec.ushiftRight_xor_distrib, bit_shift, BitVec.xor_zero, reverse_shiftLeft]
  rw [shift, hlow, hmove, feed]
  split_ifs
  · exact reverse_xor _ _
  · rfl

/-- The bits of `c` fed one by one are `c` added to the register at once. -/
theorem reverse_foldl_feed (poly r : BitVec w) (c : BitVec n) (hn : n ≤ w) :
    ((lowFirst c).foldl (feed poly) r).reverse =
      (shift poly.reverse)^[n] (r.reverse ^^^ c.setWidth w) := by
  -- after `k` bits the rest of `c` is still to be added, `k` places further down
  have hpart : ∀ k ≤ n, (((List.range k).map c.getLsbD).foldl (feed poly) r).reverse =
      (shift poly.reverse)^[k] (r.reverse ^^^ c.setWidth w) ^^^ (c.setWidth w >>> k) := by
    intro k hk
    induction k with
    | zero =>
      rw [BitVec.ushiftRight_zero, Function.iterate_zero, id_eq, BitVec.xor_assoc,
        BitVec.xor_self, BitVec.xor_zero]
      rfl
    | succ k ih =>
      have hbit : (c.setWidth w >>> k ^^^ bit (c.getLsbD k)).getLsbD 0 = false := by
        rw [BitVec.getLsbD_xor, getLsbD_bit _ (by omega), BitVec.getLsbD_ushiftRight]
        simp [show k < w by omega]
      have hrest : shift poly.reverse (c.setWidth w >>> k ^^^ bit (c.getLsbD k)) =
          c.setWidth w >>> (k + 1) := by
        rw [shift, hbit, BitVec.ushiftRight_xor_distrib, bit_shift, BitVec.shiftRight_add,
          BitVec.xor_zero]
        rfl
      rw [List.range_succ, List.map_append, List.foldl_append, List.map_singleton,
        List.foldl_cons, List.foldl_nil, reverse_feed _ _ _ (by omega), ih (by omega),
        BitVec.xor_assoc, shift_xor, hrest, Function.iterate_succ_apply']
  rw [lowFirst, hpart n le_rfl, setWidth_shift, BitVec.xor_zero]

/-- A byte at a time: the shifts of the low part, and the rest moved down. -/
theorem reverse_foldl_feed_byte (poly r : BitVec w) (c : BitVec n) (hn : n ≤ w) :
    ((lowFirst c).foldl (feed poly) r).reverse =
      (shift poly.reverse)^[n] (((r.reverse ^^^ c.setWidth w).setWidth n).setWidth w) ^^^
        (r.reverse >>> n) := by
  rw [reverse_foldl_feed poly r c hn, iterate_shift_eq, BitVec.ushiftRight_xor_distrib,
    setWidth_shift, BitVec.xor_zero]

/-- A step on bytes that does to the mirrored register what the bits of the byte do computes
the code. -/
theorem reflectedCrc_eq (poly init xorOut : BitVec w) {step : BitVec w → BitVec n → BitVec w}
    (hstep : ∀ r c, step (BitVec.reverse r) c = ((lowFirst c).foldl (feed poly) r).reverse)
    (data : List (BitVec n)) :
    reflectedCrc poly init xorOut data = data.foldl step init.reverse ^^^ xorOut := by
  rw [reflectedCrc]
  congr 1
  induction data generalizing init with
  | nil => rfl
  | cons c data ih =>
    rw [List.flatMap_cons, List.foldl_append, List.foldl_cons, hstep]
    exact ih _

end Cedric.CyclicCode
