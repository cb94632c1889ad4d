import Mathlib.Data.BitVec

/-!
# Single-bit flags of a mask word

A flag is a bit position. `assign` is the C idiom that ORs the flag in or ANDs
its complement, and `has` is the test of one bit. Every update is described by
the bits it leaves: `has_assign` and `has_clear_set` are the rules a client
needs, and `and_flag_ne_zero` reads the C test `x & flag`.
-/

namespace Cedric.BitFlags

variable {w : ℕ}

def flag (i : Fin w) : BitVec w := BitVec.twoPow w i

def has (x : BitVec w) (i : Fin w) : Bool := x.getLsbD i

/-- `if (b) x |= flag; else x &= ~flag;` -/
def assign (x : BitVec w) (i : Fin w) (b : Bool) : BitVec w :=
  if b then x ||| flag i else x &&& ~~~flag i

/-- `x &= ~flag; if (b) x |= flag;` -/
def clearSet (x : BitVec w) (i : Fin w) (b : Bool) : BitVec w :=
  let y := x &&& ~~~flag i
  if b then y ||| flag i else y

@[simp] theorem has_zero (i : Fin w) : has 0#w i = false := by simp [has]

theorem has_flag (i j : Fin w) : has (flag i) j = decide (i = j) := by
  simp [has, flag, Fin.ext_iff, eq_comm]

theorem has_or (x y : BitVec w) (j : Fin w) : has (x ||| y) j = (has x j || has y j) := by
  simp [has]

theorem has_and_not (x y : BitVec w) (j : Fin w) :
    has (x &&& ~~~y) j = (has x j && !has y j) := by
  simp [has, j.isLt]

@[simp] theorem has_assign (x : BitVec w) (i j : Fin w) (b : Bool) :
    has (assign x i b) j = if i = j then b else has x j := by
  cases b <;> by_cases h : i = j <;> simp [assign, has_or, has_and_not, has_flag, h]

@[simp] theorem has_clearSet (x : BitVec w) (i j : Fin w) (b : Bool) :
    has (clearSet x i b) j = if i = j then b else has x j := by
  cases b <;> by_cases h : i = j <;> simp [clearSet, has_or, has_and_not, has_flag, h]

theorem and_flag (x : BitVec w) (i : Fin w) :
    x &&& flag i = if has x i then flag i else 0#w := by
  simp [flag, has, BitVec.and_twoPow]

theorem flag_ne_zero (i : Fin w) : flag i ≠ 0#w := by
  intro h
  have hi := congrArg (fun x => has x i) h
  simp [has_flag] at hi

theorem and_flag_ne_zero (x : BitVec w) (i : Fin w) : x &&& flag i ≠ 0#w ↔ has x i = true := by
  rw [and_flag]
  split_ifs with h <;> simp [h, flag_ne_zero]

section Masks
variable {x m k : BitVec w}

theorem or_and_self (x m : BitVec w) : (x ||| m) &&& m = m := by
  apply BitVec.eq_of_getLsbD_eq
  intro i hi
  simp only [BitVec.getLsbD_and, BitVec.getLsbD_or]
  cases x.getLsbD i <;> cases m.getLsbD i <;> rfl

theorem andNot_and_self (x m : BitVec w) : (x &&& ~~~m) &&& m = 0#w := by
  apply BitVec.eq_of_getLsbD_eq
  intro i hi
  simp [hi]

theorem or_and_of_disjoint (h : m &&& k = 0#w) : (x ||| m) &&& k = x &&& k := by
  rw [BitVec.and_or_distrib_right, h, BitVec.or_zero]

theorem andNot_and_of_disjoint (h : m &&& k = 0#w) : (x &&& ~~~m) &&& k = x &&& k := by
  apply BitVec.eq_of_getLsbD_eq
  intro i hi
  have hbit := congrArg (fun y => y.getLsbD i) h
  simp only [BitVec.getLsbD_and, BitVec.getLsbD_zero] at hbit
  simp only [BitVec.getLsbD_and, BitVec.getLsbD_not, hi, decide_true, Bool.true_and]
  cases hm : m.getLsbD i <;> simp_all

end Masks

end Cedric.BitFlags
