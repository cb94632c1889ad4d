import Mathlib.Data.BitVec

/-!
# Values in a memory of bytes

A value of `n` bytes is stored at an address with its low byte first. A load
gives back what was stored there, a store changes no byte outside its own, and
two loads agree only if every byte they read does.
-/

namespace Cedric.ByteMemory

abbrev Memory := ℕ → BitVec 8

def load (m : Memory) : (a n : ℕ) → BitVec (8 * n)
  | _, 0 => 0#0
  | a, n + 1 => (load m (a + 1) n ++ m a).cast (by omega)

def store (m : Memory) (a n : ℕ) (v : BitVec (8 * n)) : Memory :=
  fun i => if a ≤ i ∧ i < a + n then v.extractLsb' (8 * (i - a)) 8 else m i

variable {m m' : Memory} {a b n k i : ℕ}

theorem getLsbD_load (m : Memory) (a n i : ℕ) :
    (load m a n).getLsbD i = (decide (i < 8 * n) && (m (a + i / 8)).getLsbD (i % 8)) := by
  induction n generalizing a i with
  | zero => simp [load]
  | succ n ih =>
    rw [load, BitVec.getLsbD_cast, BitVec.getLsbD_append]
    by_cases hi : i < 8
    · have hn : i < 8 * (n + 1) := by omega
      simp [hi, hn, Nat.div_eq_of_lt hi, Nat.mod_eq_of_lt hi]
    · have haddr : a + 1 + (i - 8) / 8 = a + i / 8 := by omega
      have hbit : (i - 8) % 8 = i % 8 := by omega
      have hlt : i - 8 < 8 * n ↔ i < 8 * (n + 1) := by omega
      rw [if_neg hi, ih, haddr, hbit, decide_eq_decide.mpr hlt]

theorem store_of_mem (v : BitVec (8 * n)) (h : a ≤ i ∧ i < a + n) :
    store m a n v i = v.extractLsb' (8 * (i - a)) 8 := if_pos h

theorem store_of_not_mem (v : BitVec (8 * n)) (h : ¬(a ≤ i ∧ i < a + n)) :
    store m a n v i = m i := if_neg h

@[simp] theorem load_store (m : Memory) (a n : ℕ) (v : BitVec (8 * n)) :
    load (store m a n v) a n = v := by
  apply BitVec.eq_of_getLsbD_eq
  intro i hi
  have hmem : a ≤ a + i / 8 ∧ a + i / 8 < a + n := by omega
  have hbit : 8 * (a + i / 8 - a) + i % 8 = i := by omega
  have hmod : i % 8 < 8 := Nat.mod_lt _ (by decide)
  rw [getLsbD_load, store_of_mem v hmem, BitVec.getLsbD_extractLsb', hbit]
  simp [hi, hmod]

theorem load_eq_load_iff :
    load m a n = load m' b n ↔ ∀ i < n, m (a + i) = m' (b + i) := by
  constructor
  · intro h i hi
    apply BitVec.eq_of_getLsbD_eq
    intro j hj
    have hbit := congrArg (·.getLsbD (8 * i + j)) h
    have hdiv : (8 * i + j) / 8 = i := by omega
    have hmod : (8 * i + j) % 8 = j := by omega
    have hlt : 8 * i + j < 8 * n := by omega
    simpa only [getLsbD_load, hdiv, hmod, hlt, decide_true, Bool.true_and] using hbit
  · intro h
    apply BitVec.eq_of_getLsbD_eq
    intro i hi
    rw [getLsbD_load, getLsbD_load, h (i / 8) (by omega)]

theorem load_eq_iff :
    load m a n = load m' a n ↔ ∀ i, a ≤ i ∧ i < a + n → m i = m' i := by
  rw [load_eq_load_iff]
  constructor
  · intro h i hi
    obtain ⟨k, rfl⟩ := Nat.exists_eq_add_of_le hi.1
    exact h k (by omega)
  · intro h i hi
    exact h (a + i) (by omega)

theorem load_store_of_disjoint (m : Memory) (v : BitVec (8 * n)) (h : b + k ≤ a ∨ a + n ≤ b) :
    load (store m a n v) b k = load m b k :=
  load_eq_iff.mpr fun i hi => store_of_not_mem v (by omega)

theorem msb_load (m : Memory) (a n : ℕ) : (load m a (n + 1)).msb = (m (a + n)).msb := by
  have haddr : a + (8 * (n + 1) - 1) / 8 = a + n := by omega
  have hmod : (8 * (n + 1) - 1) % 8 = 7 := by omega
  have hlt : 8 * (n + 1) - 1 < 8 * (n + 1) := by omega
  rw [BitVec.msb_eq_getLsbD_last, getLsbD_load, haddr, hmod, decide_eq_true hlt, Bool.true_and,
    BitVec.msb_eq_getLsbD_last]

/-- Widened by its sign and widened by zeros, two values agree only if both are the same and
nonnegative. -/
theorem signExtend_eq_setWidth_iff {w v : ℕ} (h : w < v) (x y : BitVec w) :
    x.signExtend v = y.setWidth v ↔ x = y ∧ x.msb = false := by
  have hbits (i : ℕ) (hi : i < v) :
      (x.signExtend v).getLsbD i = (y.setWidth v).getLsbD i ↔
        (if i < w then x.getLsbD i else x.msb) = y.getLsbD i := by
    rw [BitVec.getLsbD_signExtend, BitVec.getLsbD_setWidth]
    simp [hi]
  constructor
  · intro heq
    refine ⟨BitVec.eq_of_getLsbD_eq fun i hi => ?_, ?_⟩
    · simpa [hi] using (hbits i (hi.trans h)).mp (congrArg (·.getLsbD i) heq)
    · simpa using (hbits w h).mp (congrArg (·.getLsbD w) heq)
  · rintro ⟨rfl, hmsb⟩
    apply BitVec.eq_of_getLsbD_eq
    intro i hi
    rw [hbits i hi]
    split
    · rfl
    · rw [hmsb, BitVec.getLsbD_of_ge x i (by omega)]

end Cedric.ByteMemory
