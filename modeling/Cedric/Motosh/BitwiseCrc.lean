import Cedric.Lib.CyclicCode
import Cedric.Motosh.Crc32

/-!
# The table computes the Ethernet CRC

The table is compared with the definition of the code, one bit of the message at
a time; a file read to its end has the code of its bytes and the filling.
-/

namespace Cedric.Motosh

open ByteStream CyclicCode

def ethernetPolynomial : BitVec 32 := 0x04C11DB7

/-- The reflected CRC-32 with initial value and final xor `0xFFFFFFFF`, bit by bit. -/
def bitwiseCrc32 (data : List (BitVec 8)) : BitVec 32 :=
  reflectedCrc ethernetPolynomial 0xFFFFFFFF 0xFFFFFFFF data

theorem reverse_ethernetPolynomial : ethernetPolynomial.reverse = 0xEDB88320 := by
  decide +kernel

theorem shiftStep_eq : shiftStep = shift ethernetPolynomial.reverse := by
  funext x
  rw [reverse_ethernetPolynomial]
  rfl

theorem and_low (x : BitVec 32) : x &&& 0xFF = (x.setWidth 8).setWidth 32 := by
  have hmask : (0xFF : BitVec 32) = (BitVec.allOnes 8).setWidth 32 := by decide
  apply BitVec.eq_of_getLsbD_eq
  intro i hi
  rw [hmask]
  simp only [BitVec.getLsbD_and, BitVec.getLsbD_setWidth, BitVec.getLsbD_allOnes, hi, decide_true,
    Bool.true_and]
  exact Bool.and_comm _ _

theorem table_getD (x : BitVec 8) :
    CrcTableRev.getD (x.setWidth 32).toNat 0 = shiftStep^[8] (x.setWidth 32) := by
  have hx : x.toNat < 256 := x.isLt
  have hnat : (x.setWidth 32).toNat = x.toNat := by
    rw [BitVec.toNat_setWidth]
    omega
  have hentry : BitVec.ofNat 32 x.toNat = x.setWidth 32 := by rw [← hnat, BitVec.ofNat_toNat]; rfl
  rw [CrcTableRev_eq, hnat, List.getD_eq_getElem?_getD, List.getElem?_map,
    List.getElem?_range hx, Option.map_some, Option.getD_some, hentry]

theorem crcStep_reverse (r : BitVec 32) (c : BitVec 8) :
    crcStep r.reverse c = ((lowFirst c).foldl (feed ethernetPolynomial) r).reverse := by
  rw [crcStep, and_low, table_getD, shiftStep_eq]
  exact (reverse_foldl_feed_byte _ r c (by decide)).symm

theorem calculateCrc32_eq_bitwiseCrc32 (data : List (BitVec 8)) :
    calculateCrc32 data = bitwiseCrc32 data := by
  have hinit : CrcInit.reverse = CrcInit := by decide +kernel
  have hcrc := reflectedCrc_eq ethernetPolynomial CrcInit XoRot crcStep_reverse data
  rw [hinit] at hcrc
  exact hcrc.symm

/-- The table gives the bit-by-bit code, and a file read without error the code of its bytes
filled up with `b`. -/
theorem crcs_eq :
    (∀ data, calculateCrc32 data = bitwiseCrc32 data) ∧
      ∀ (a : FileAccess) (f : List (BitVec 8)) (n : ℕ) (b : BitVec 8),
        a.opens = true → Sound a.fails (opened f) →
          calculateFileCrc32 a f n b =
            .ok (calculateCrc32 (f ++ List.replicate (max 0 ((n : ℤ) - f.length)).toNat b)) := by
  refine ⟨calculateCrc32_eq_bitwiseCrc32, fun a f n b hopens hsound => ?_⟩
  have hcount : (max 0 ((n : ℤ) - f.length)).toNat = n - f.length := by omega
  rw [calculateFileCrc32_opens hopens, drain_sound hsound, hcount]
  rfl

theorem crcs_eq_filled :
    calculateFileCrc32 ⟨true, true, true, fun _ => false⟩ [0x31, 0x32] 4 0xFF =
      .ok (calculateCrc32 [0x31, 0x32, 0xFF, 0xFF]) :=
  crcs_eq.2 ⟨true, true, true, fun _ => false⟩ [0x31, 0x32] 4 0xFF rfl fun _ _ => rfl

end Cedric.Motosh
