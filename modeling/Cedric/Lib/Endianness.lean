import Mathlib.Data.BitVec
import Mathlib.Data.List.GetD

/-!
# The two byte orders

A byte string stands for a number with its most significant byte first or last,
and a word is stored as its bytes in one of the two orders. `ByteReversed` says
of two words that each holds the other's bytes in reverse. `inMemory` is what a
machine of either order stores.
-/

namespace Cedric.Endianness

def littleEndian : List (BitVec 8) → ℕ
  | [] => 0
  | b :: bs => b.toNat + 256 * littleEndian bs

def bigEndian (bs : List (BitVec 8)) : ℕ := bs.foldl (fun n b => 256 * n + b.toNat) 0

def bytes (n : ℕ) {w : ℕ} (v : BitVec w) : List (BitVec 8) :=
  (List.range n).map fun i => v.extractLsb' (8 * i) 8

variable {n w : ℕ}

theorem bigEndian_reverse (bs : List (BitVec 8)) : bigEndian bs.reverse = littleEndian bs := by
  rw [bigEndian, List.foldl_reverse]
  induction bs with
  | nil => rfl
  | cons b bs ih => rw [List.foldr_cons, ih, littleEndian, Nat.add_comm]

theorem littleEndian_reverse (bs : List (BitVec 8)) : littleEndian bs.reverse = bigEndian bs := by
  rw [← bigEndian_reverse, List.reverse_reverse]

theorem littleEndian_lt (bs : List (BitVec 8)) : littleEndian bs < 2 ^ (8 * bs.length) := by
  induction bs with
  | nil => exact Nat.one_pos
  | cons b bs ih =>
    have hb := b.isLt
    rw [littleEndian, List.length_cons, Nat.mul_succ, Nat.pow_add]
    omega

theorem toNat_append_byte (v : BitVec w) (b : BitVec 8) :
    (v ++ b).toNat = b.toNat + 256 * v.toNat := by
  rw [BitVec.toNat_append, ← Nat.shiftLeft_add_eq_or_of_lt b.isLt, Nat.shiftLeft_eq, Nat.add_comm,
    Nat.mul_comm]

theorem testBit_littleEndian (bs : List (BitVec 8)) (i : ℕ) :
    (littleEndian bs).testBit i = (bs.getD (i / 8) 0).getLsbD (i % 8) := by
  induction bs generalizing i with
  | nil => simp [littleEndian]
  | cons b bs ih =>
    rw [littleEndian, Nat.add_comm, show 256 = 2 ^ 8 from rfl,
      Nat.testBit_two_pow_mul_add _ b.isLt]
    split_ifs with hi
    · rw [Nat.div_eq_of_lt hi, Nat.mod_eq_of_lt hi, List.getD_cons_zero]
      rfl
    · have hdiv : i / 8 = (i - 8) / 8 + 1 := by omega
      have hmod : i % 8 = (i - 8) % 8 := by omega
      rw [ih, hdiv, hmod, List.getD_cons_succ]

theorem length_bytes (n : ℕ) (v : BitVec w) : (bytes n v).length = n := by
  rw [bytes, List.length_map, List.length_range]

theorem getElem_bytes (v : BitVec w) {k : ℕ} (hk : k < (bytes n v).length) :
    (bytes n v)[k] = v.extractLsb' (8 * k) 8 := by
  simp only [bytes, List.getElem_map, List.getElem_range]

theorem getD_bytes (v : BitVec w) {k : ℕ} (hk : k < n) :
    (bytes n v).getD k 0 = v.extractLsb' (8 * k) 8 := by
  rw [← length_bytes n v] at hk
  rw [List.getD_eq_getElem _ _ hk, getElem_bytes]

theorem getLsbD_byte (v : BitVec w) {k j : ℕ} (hj : j < 8) :
    (v.extractLsb' (8 * k) 8).getLsbD j = v.getLsbD (8 * k + j) := by
  rw [BitVec.getLsbD_extractLsb', decide_eq_true hj, Bool.true_and]

theorem littleEndian_bytes (v : BitVec w) (hw : w = 8 * n) :
    littleEndian (bytes n v) = v.toNat := by
  apply Nat.eq_of_testBit_eq
  intro i
  rw [testBit_littleEndian, BitVec.testBit_toNat]
  by_cases hi : i / 8 < n
  · rw [getD_bytes v hi, getLsbD_byte v (Nat.mod_lt i (by decide)), Nat.div_add_mod]
  · have hlen : (bytes n v).length ≤ i / 8 := by
      rw [length_bytes]
      exact not_lt.mp hi
    rw [List.getD_eq_default _ _ hlen, BitVec.getLsbD_of_ge v i (by omega)]
    exact BitVec.getLsbD_zero

def ByteReversed (n : ℕ) (v v' : BitVec w) : Prop :=
  ∀ i < 8 * n, v'.getLsbD i = v.getLsbD (8 * (n - 1 - i / 8) + i % 8)

theorem ByteReversed.bytes_eq {v v' : BitVec w} (h : ByteReversed n v v') :
    bytes n v' = (bytes n v).reverse := by
  apply List.ext_getElem
  · rw [List.length_reverse, length_bytes, length_bytes]
  intro k hk _
  rw [getElem_bytes, List.getElem_reverse, getElem_bytes, length_bytes]
  rw [length_bytes] at hk
  apply BitVec.eq_of_getLsbD_eq
  intro j hj
  have hdiv : (8 * k + j) / 8 = k := by omega
  have hmod : (8 * k + j) % 8 = j := by omega
  rw [getLsbD_byte v' hj, getLsbD_byte v hj, h _ (by omega), hdiv, hmod]

theorem ByteReversed.involutive {v v' v'' : BitVec w} (hw : w = 8 * n) (h : ByteReversed n v v')
    (h' : ByteReversed n v' v'') : v'' = v := by
  apply BitVec.eq_of_getLsbD_eq
  intro i hi
  have hplace : 8 * (n - 1 - (8 * (n - 1 - i / 8) + i % 8) / 8) +
      (8 * (n - 1 - i / 8) + i % 8) % 8 = i := by omega
  rw [h' i (by omega), h _ (by omega), hplace]

inductive ByteOrder
  | little | big
  deriving DecidableEq

def inMemory (order : ByteOrder) (n : ℕ) (v : BitVec w) : List (BitVec 8) :=
  match order with
  | .little => bytes n v
  | .big => (bytes n v).reverse

theorem toNat_of_little {v : BitVec w} {bs : List (BitVec 8)} (hw : w = 8 * n)
    (h : inMemory .little n v = bs) : v.toNat = littleEndian bs := by
  rw [← h]
  exact (littleEndian_bytes v hw).symm

theorem toNat_of_big {v : BitVec w} {bs : List (BitVec 8)} (hw : w = 8 * n)
    (h : inMemory .big n v = bs) : v.toNat = bigEndian bs := by
  rw [← h]
  exact ((bigEndian_reverse (bytes n v)).trans (littleEndian_bytes v hw)).symm

end Cedric.Endianness
