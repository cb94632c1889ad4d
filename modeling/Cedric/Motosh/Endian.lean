import Cedric.Lib.CInteger
import Cedric.Lib.Endianness

/-!
# The endian helpers

`swap` and the specializations of `extract` are expressions of C, so they are
evaluated with its promotions and conversions. For every type they move whole
bytes, and no sign is spread into another byte. Nothing in them asks for the
byte order of the host; `EndianCvt` does.
-/

namespace Cedric.Motosh

open CInteger Endianness CValue

/-- The types that `extract` is specialized for. -/
inductive StdInt
  | int8_t | uint8_t | int16_t | uint16_t | int32_t | uint32_t | int64_t | uint64_t
  deriving DecidableEq

namespace StdInt

@[reducible] def type : StdInt → IntType
  | int8_t => ⟨8, true⟩
  | uint8_t => ⟨8, false⟩
  | int16_t => ⟨16, true⟩
  | uint16_t => ⟨16, false⟩
  | int32_t => ⟨32, true⟩
  | uint32_t => ⟨32, false⟩
  | int64_t => ⟨64, true⟩
  | uint64_t => ⟨64, false⟩

def sizeof : StdInt → ℕ
  | int8_t | uint8_t => 1
  | int16_t | uint16_t => 2
  | int32_t | uint32_t => 4
  | int64_t | uint64_t => 8

abbrev Value (T : StdInt) := BitVec T.type.bits

def bytesAt (T : StdInt) (a : ℕ → BitVec 8) : List (BitVec 8) := (List.range T.sizeof).map a

theorem bits_eq (T : StdInt) : T.type.bits = 8 * T.sizeof := by cases T <;> rfl

end StdInt

def BYTE_SWAP_16 (x : CValue) : CValue :=
  ((x >>> 8 : CValue) &&& (0xff : CValue)) ||| ((x &&& 0xff) <<< 8)

def BYTE_SWAP_32 (x : CValue) : CValue :=
  ((x &&& 0xff000000) >>> 24) ||| ((x &&& 0x00ff0000) >>> 8) |||
    ((x &&& 0x0000ff00) <<< 8) ||| ((x &&& 0x000000ff) <<< 24)

def BYTE_SWAP_64 (x : CValue) : CValue :=
  ((x &&& ull 0xff00000000000000) >>> 56) ||| ((x &&& ull 0x00ff000000000000) >>> 40) |||
    ((x &&& ull 0x0000ff0000000000) >>> 24) ||| ((x &&& ull 0x000000ff00000000) >>> 8) |||
    ((x &&& ull 0x00000000ff000000) <<< 8) ||| ((x &&& ull 0x0000000000ff0000) <<< 24) |||
    ((x &&& ull 0x000000000000ff00) <<< 40) ||| ((x &&& ull 0x00000000000000ff) <<< 56)

namespace Endian

def swap (T : StdInt) (val : T.Value) : T.Value :=
  match T.sizeof with
  | 2 => (BYTE_SWAP_16 ⟨T.type, val⟩).convert T.type
  | 4 => (BYTE_SWAP_32 ⟨T.type, val⟩).convert T.type
  | 8 => (BYTE_SWAP_64 ⟨T.type, val⟩).convert T.type
  | _ => val

def staticCast (T : StdInt) (b : BitVec 8) : CValue := (byte b).cast T.type

def extract16 (T : StdInt) (a : ℕ → BitVec 8) : T.Value :=
  (staticCast T (a 0) <<< 8 ||| staticCast T (a 1)).convert T.type

def extract32 (T : StdInt) (a : ℕ → BitVec 8) : T.Value :=
  (staticCast T (a 0) <<< 24 ||| staticCast T (a 1) <<< 16 ||| staticCast T (a 2) <<< 8 |||
    staticCast T (a 3)).convert T.type

def extract64 (T : StdInt) (a : ℕ → BitVec 8) : T.Value :=
  (staticCast T (a 0) <<< 56 ||| staticCast T (a 1) <<< 48 ||| staticCast T (a 2) <<< 40 |||
    staticCast T (a 3) <<< 32 ||| staticCast T (a 4) <<< 24 ||| staticCast T (a 5) <<< 16 |||
    staticCast T (a 6) <<< 8 ||| staticCast T (a 7)).convert T.type

def extract : (T : StdInt) → (ℕ → BitVec 8) → T.Value
  | .int8_t, a => (staticCast .int8_t (a 0)).convert StdInt.int8_t.type
  | .uint8_t, a => a 0
  | .int16_t, a => extract16 .int16_t a
  | .uint16_t, a => extract16 .uint16_t a
  | .int32_t, a => extract32 .int32_t a
  | .uint32_t, a => extract32 .uint32_t a
  | .int64_t, a => extract64 .int64_t a
  | .uint64_t, a => extract64 .uint64_t a

def extractLittleEndian (T : StdInt) (a : ℕ → BitVec 8) : T.Value := swap T (extract T a)

end Endian

theorem bit_byteLiteral {n : ℕ} (k : ℕ) (hn : n = 0xff <<< (8 * k)) (hlt : n < 2 ^ 64) (i : ℕ) :
    (hex n).bit i = decide (i / 8 = k) := by
  rw [bit_hex hlt, hn, testBit_byteMask]

theorem bit_ullByte {n : ℕ} (k : ℕ) (hn : n = 0xff <<< (8 * k)) (hlt : n < 2 ^ 64) (i : ℕ) :
    (ull n).bit i = decide (i / 8 = k) := by
  rw [bit_ull hlt, hn, testBit_byteMask]

theorem assembled_BYTE_SWAP_16 (s : Bool) (v : BitVec 16) :
    (BYTE_SWAP_16 ⟨⟨16, s⟩, v⟩).Assembled 32 (mirrored ⟨⟨16, s⟩, v⟩ 2) [0, 1] := by
  have hwf : Wf ⟨⟨16, s⟩, v⟩ := Nat.succ_pos 15
  have hmask {x : CValue} (hx : x.Wf) (htype : x.type.promoted = .int) : Masks x 0xff .int 0 := by
    refine ⟨?_, rfl, hx, Nat.succ_pos 31, bit_byteLiteral 0 rfl (by decide), by decide, by decide⟩
    rw [commonType, htype]
    rfl
  -- The first operand is shifted before it is masked.
  have hshifted := holds_shr (n := 8) hwf (w := 32) rfl
  have hhigh := ((hmask hshifted.wf rfl).holds.congr fun i hi => by
    rw [hshifted.bits i hi]).assembled (f := mirrored ⟨⟨16, s⟩, v⟩ 2)
    (g := fun i => bit ⟨⟨16, s⟩, v⟩ (i + 8)) fun i hi => congrArg (bit ⟨⟨16, s⟩, v⟩) (by omega)
  exact hhigh.or ((hmask hwf rfl).mirrored_left (d := 1) rfl rfl)

theorem assembled_BYTE_SWAP_32 (s : Bool) (v : BitVec 32) :
    (BYTE_SWAP_32 ⟨⟨32, s⟩, v⟩).Assembled 32 (mirrored ⟨⟨32, s⟩, v⟩ 4) [0, 1, 2, 3] := by
  have hmask {n k : ℕ} {t : IntType} (hcommon : commonType ⟨⟨32, s⟩, v⟩ (hex n) = t)
      (hwide : t.promoted = t) (hpos : (hex n).Wf) (hn : n = 0xff <<< (8 * k)) (hlt : n < 2 ^ 64)
      (hinside : 8 * k + 8 ≤ t.bits) (hsign : t.signed = true → 8 * k + 8 < t.bits) :
      Masks ⟨⟨32, s⟩, v⟩ (hex n) t k :=
    ⟨hcommon, hwide, Nat.succ_pos 31, hpos, bit_byteLiteral k hn hlt, hinside, hsign⟩
  have h₃ : Masks ⟨⟨32, s⟩, v⟩ 0xff000000 ⟨32, false⟩ 3 :=
    hmask (by cases s <;> rfl) rfl (Nat.succ_pos 31) rfl (by decide) (by decide) (by decide)
  have h₂ : Masks ⟨⟨32, s⟩, v⟩ 0x00ff0000 ⟨32, s⟩ 2 :=
    hmask (by cases s <;> rfl) rfl (Nat.succ_pos 31) rfl (by decide) (by simp) (by simp)
  have h₁ : Masks ⟨⟨32, s⟩, v⟩ 0x0000ff00 ⟨32, s⟩ 1 :=
    hmask (by cases s <;> rfl) rfl (Nat.succ_pos 31) rfl (by decide) (by simp) (by simp)
  have h₀ : Masks ⟨⟨32, s⟩, v⟩ 0x000000ff ⟨32, s⟩ 0 :=
    hmask (by cases s <;> rfl) rfl (Nat.succ_pos 31) rfl (by decide) (by simp) (by simp)
  exact (((h₃.mirrored_right (d := 3) rfl (by decide) rfl).or
    (h₂.mirrored_right (d := 1) rfl (by decide) rfl)).or
    (h₁.mirrored_left (d := 1) rfl rfl)).or (h₀.mirrored_left (d := 3) rfl rfl)

theorem assembled_BYTE_SWAP_64 (s : Bool) (v : BitVec 64) :
    (BYTE_SWAP_64 ⟨⟨64, s⟩, v⟩).Assembled 64 (mirrored ⟨⟨64, s⟩, v⟩ 8)
      [0, 1, 2, 3, 4, 5, 6, 7] := by
  have hmask {n : ℕ} (k : ℕ) (hn : n = 0xff <<< (8 * k)) (hlt : n < 2 ^ 64) (hk : k < 8) :
      Masks ⟨⟨64, s⟩, v⟩ (ull n) ⟨64, false⟩ k := by
    refine ⟨by cases s <;> rfl, rfl, Nat.succ_pos 63, Nat.succ_pos 63, bit_ullByte k hn hlt, ?_, ?_⟩
    · dsimp only
      omega
    · intro h
      cases h
  have hright {m n k : ℕ} (d : ℕ) (hm : m = 0xff <<< (8 * k)) (hlt : m < 2 ^ 64) (hk : k < 8)
      (hn : n = 8 * d) (hd : 2 * k + 1 = 8 + d) :=
    (hmask k hm hlt hk).mirrored_right hn hk hd
  have hleft {m n k : ℕ} (d : ℕ) (hm : m = 0xff <<< (8 * k)) (hlt : m < 2 ^ 64) (hk : k < 8)
      (hn : n = 8 * d) (hd : 8 = 2 * k + 1 + d) :=
    (hmask k hm hlt hk).mirrored_left hn hd
  have h₇ := hright (m := 0xff00000000000000) (k := 7) 7 rfl (by decide) (by decide) rfl rfl
  have h₆ := hright (m := 0x00ff000000000000) (k := 6) 5 rfl (by decide) (by decide) rfl rfl
  have h₅ := hright (m := 0x0000ff0000000000) (k := 5) 3 rfl (by decide) (by decide) rfl rfl
  have h₄ := hright (m := 0x000000ff00000000) (k := 4) 1 rfl (by decide) (by decide) rfl rfl
  have h₃ := hleft (m := 0x00000000ff000000) (k := 3) 1 rfl (by decide) (by decide) rfl rfl
  have h₂ := hleft (m := 0x0000000000ff0000) (k := 2) 3 rfl (by decide) (by decide) rfl rfl
  have h₁ := hleft (m := 0x000000000000ff00) (k := 1) 5 rfl (by decide) (by decide) rfl rfl
  have h₀ := hleft (m := 0x00000000000000ff) (k := 0) 7 rfl (by decide) (by decide) rfl rfl
  exact ((((((h₇.or h₆).or h₅).or h₄).or h₃).or h₂).or h₁).or h₀

theorem reversed_of_assembled {w w' N : ℕ} {s : Bool} {v : BitVec w} {x : CValue} {S : List ℕ}
    (hx : x.Assembled w' (mirrored ⟨⟨w, s⟩, v⟩ N) S) (hw : w = 8 * N) (hle : w ≤ w')
    (hS : ∀ k < N, k ∈ S) : ByteReversed N v (x.convert ⟨w, s⟩) := by
  intro i hi
  have hplace : i / 8 ∈ S := hS _ (by omega)
  rw [hx.convert ⟨w, s⟩ hle (by rwa [hw]) hplace, mirrored]
  exact bit_of_lt ⟨⟨w, s⟩, v⟩ (by dsimp only; omega)

namespace Endian

theorem swap_reversed (T : StdInt) (v : T.Value) : ByteReversed T.sizeof v (swap T v) := by
  cases T with
  | int8_t | uint8_t =>
    intro i hi
    have hplace : 8 * (1 - 1 - i / 8) + i % 8 = i := by
      change i < 8 at hi
      omega
    exact congrArg v.getLsbD hplace.symm
  | int16_t | uint16_t =>
    exact reversed_of_assembled (assembled_BYTE_SWAP_16 _ v) rfl (by decide) (by decide)
  | int32_t | uint32_t =>
    exact reversed_of_assembled (assembled_BYTE_SWAP_32 _ v) rfl le_rfl (by decide)
  | int64_t | uint64_t =>
    exact reversed_of_assembled (assembled_BYTE_SWAP_64 _ v) rfl le_rfl (by decide)

theorem bytes_swap (T : StdInt) (v : T.Value) :
    bytes T.sizeof (swap T v) = (bytes T.sizeof v).reverse := (swap_reversed T v).bytes_eq

theorem swap_swap (T : StdInt) (v : T.Value) : swap T (swap T v) = v :=
  (swap_reversed T v).involutive T.bits_eq (swap_reversed T (swap T v))

/-- The bits of a value whose first byte in memory, of `N`, is the highest. -/
def network (a : ℕ → BitVec 8) (N i : ℕ) : Bool := (a (N - 1 - i / 8)).getLsbD (i % 8)

variable {T : StdInt} {i n d k N w : ℕ}

theorem assembled_placed (a : ℕ → BitVec 8) (hwide : 8 < T.type.bits)
    (hw : T.type.promoted.bits = w) (hn : n = 8 * d) (hk : N - 1 - d = k) :
    (staticCast T (a k) <<< n).Assembled w (network a N) [d] :=
  (holds_placed (a k) hwide hw hn).assembled fun i hi => by rw [network, hi, hk]

theorem assembled_lowest (a : ℕ → BitVec 8) (hwide : 8 < T.type.bits)
    (hw : T.type.promoted.bits = w) (hk : N - 1 = k) :
    (staticCast T (a k)).Assembled w (network a N) [0] :=
  (holds_lowest (a k) hwide hw).assembled fun i hi => by rw [network, hi, Nat.sub_zero, hk]

theorem extract16_bits (hT : T.type.bits = 16) (a : ℕ → BitVec 8) (hi : i < 16) :
    (extract16 T a).getLsbD i = network a 2 i := by
  have hwide : 8 < T.type.bits := by omega
  have hint : T.type.promoted.bits = 32 := congrArg IntType.bits (if_pos (by omega))
  have hall : ∀ q < 2, q ∈ [1, 0] := by decide
  have hsum := (assembled_placed a hwide hint (N := 2) (n := 8) (d := 1) rfl rfl).or
    (assembled_lowest a hwide hint rfl)
  exact hsum.convert T.type (by omega) (by omega) (hall _ (by omega))

theorem extract32_bits (hT : T.type.bits = 32) (a : ℕ → BitVec 8) (hi : i < 32) :
    (extract32 T a).getLsbD i = network a 4 i := by
  have hwide : 8 < T.type.bits := by omega
  have hint : T.type.promoted.bits = 32 := by
    rw [IntType.promoted, if_neg (by omega), hT]
  have hplaced {n k : ℕ} (d : ℕ) (hn : n = 8 * d) (hk : 4 - 1 - d = k) :=
    assembled_placed a hwide hint hn hk
  have hall : ∀ q < 4, q ∈ [3, 2, 1, 0] := by decide
  have hsum := (((hplaced 3 rfl rfl).or (hplaced 2 rfl rfl)).or (hplaced 1 rfl rfl)).or
    (assembled_lowest a hwide hint rfl)
  exact hsum.convert T.type (by omega) (by omega) (hall _ (by omega))

theorem extract64_bits (hT : T.type.bits = 64) (a : ℕ → BitVec 8) (hi : i < 64) :
    (extract64 T a).getLsbD i = network a 8 i := by
  have hwide : 8 < T.type.bits := by omega
  have hlong : T.type.promoted.bits = 64 := by
    rw [IntType.promoted, if_neg (by omega), hT]
  have hplaced {n k : ℕ} (d : ℕ) (hn : n = 8 * d) (hk : 8 - 1 - d = k) :=
    assembled_placed a hwide hlong hn hk
  have hall : ∀ q < 8, q ∈ [7, 6, 5, 4, 3, 2, 1, 0] := by decide
  have hsum := (((((((hplaced 7 rfl rfl).or (hplaced 6 rfl rfl)).or (hplaced 5 rfl rfl)).or
    (hplaced 4 rfl rfl)).or (hplaced 3 rfl rfl)).or (hplaced 2 rfl rfl)).or
    (hplaced 1 rfl rfl)).or (assembled_lowest a hwide hlong rfl)
  exact hsum.convert T.type (by omega) (by omega) (hall _ (by omega))

theorem extract_bits (T : StdInt) (a : ℕ → BitVec 8) {i : ℕ} (hi : i < T.type.bits) :
    (extract T a).getLsbD i = (a (T.sizeof - 1 - i / 8)).getLsbD (i % 8) := by
  have hbyte (h : i < 8) : (a 0).getLsbD i = (a (1 - 1 - i / 8)).getLsbD (i % 8) := by
    rw [Nat.mod_eq_of_lt h, Nat.sub_self, Nat.zero_sub]
  cases T with
  | int8_t =>
    refine (getLsbD_convert_of_lt (staticCast .int8_t (a 0)) hi).trans ?_
    refine (bit_cast_of_lt (byte (a 0)) hi).trans ?_
    exact (bit_byte (a 0) i).trans (hbyte hi)
  | uint8_t => exact hbyte hi
  | int16_t | uint16_t => exact extract16_bits rfl a hi
  | int32_t | uint32_t => exact extract32_bits rfl a hi
  | int64_t | uint64_t => exact extract64_bits rfl a hi

theorem length_bytesAt (T : StdInt) (a : ℕ → BitVec 8) : (T.bytesAt a).length = T.sizeof := by
  rw [StdInt.bytesAt, List.length_map, List.length_range]

theorem getD_reverse_bytesAt (T : StdInt) (a : ℕ → BitVec 8) {k : ℕ} (hk : k < T.sizeof) :
    (T.bytesAt a).reverse.getD k 0 = a (T.sizeof - 1 - k) := by
  have hlen : k < (T.bytesAt a).reverse.length := by
    rw [List.length_reverse, length_bytesAt]
    exact hk
  rw [List.getD_eq_getElem _ _ hlen, List.getElem_reverse]
  simp only [StdInt.bytesAt, List.getElem_map, List.getElem_range, List.length_map,
    List.length_range]

theorem extract_eq (T : StdInt) (a : ℕ → BitVec 8) :
    extract T a = BitVec.ofNat T.type.bits (Endianness.bigEndian (T.bytesAt a)) := by
  apply BitVec.eq_of_getLsbD_eq
  intro i hi
  have hk : i / 8 < T.sizeof := by
    have hbits := T.bits_eq
    omega
  rw [extract_bits T a hi, BitVec.getLsbD_ofNat, decide_eq_true hi, Bool.true_and,
    ← littleEndian_reverse, testBit_littleEndian, getD_reverse_bytesAt T a hk]

theorem bigEndian_lt (T : StdInt) (a : ℕ → BitVec 8) :
    Endianness.bigEndian (T.bytesAt a) < 2 ^ T.type.bits := by
  have hlt := littleEndian_lt (T.bytesAt a).reverse
  rwa [littleEndian_reverse, List.length_reverse, length_bytesAt, ← T.bits_eq] at hlt

theorem extract_value (T : StdInt) (a : ℕ → BitVec 8) :
    T.type.value (extract T a) = T.type.ofNumber (Endianness.bigEndian (T.bytesAt a)) := by
  rw [extract_eq]
  exact T.type.value_ofNat (bigEndian_lt T a)

theorem extractLittleEndian_eq (T : StdInt) (a : ℕ → BitVec 8) :
    extractLittleEndian T a = extract T fun k => a (T.sizeof - 1 - k) := by
  apply BitVec.eq_of_getLsbD_eq
  intro i hi
  have hbits := T.bits_eq
  have hdiv : (8 * (T.sizeof - 1 - i / 8) + i % 8) / 8 = T.sizeof - 1 - i / 8 := by omega
  have hmod : (8 * (T.sizeof - 1 - i / 8) + i % 8) % 8 = i % 8 := by omega
  rw [extractLittleEndian, swap_reversed T (extract T a) i (by omega),
    extract_bits T a (by omega), extract_bits T _ hi, hdiv, hmod]

theorem bytesAt_reverse (T : StdInt) (a : ℕ → BitVec 8) :
    (T.bytesAt fun k => a (T.sizeof - 1 - k)) = (T.bytesAt a).reverse := by
  apply List.ext_getElem
  · rw [List.length_reverse, length_bytesAt, length_bytesAt]
  · intro k hk _
    simp only [StdInt.bytesAt, List.getElem_reverse, List.getElem_map, List.getElem_range,
      List.length_map, List.length_range]

theorem extractLittleEndian_value (T : StdInt) (a : ℕ → BitVec 8) :
    T.type.value (extractLittleEndian T a) = T.type.ofNumber (littleEndian (T.bytesAt a)) := by
  rw [extractLittleEndian_eq, extract_value, bytesAt_reverse, bigEndian_reverse]

/-- `test.v[0] == 1`, where `test.val` is `0x01020408`. -/
def bigEndian (host : ByteOrder) : Bool :=
  (inMemory host 4 (0x01020408 : BitVec 32)).head? == some 1

def isBigEndian (host : ByteOrder) : Bool := bigEndian host

theorem eq_of_toNat {T : StdInt} {v w : T.Value} {n : ℕ} (hv : v.toNat = n)
    (hw : w = BitVec.ofNat T.type.bits n) : v = w := by
  rw [hw, ← hv, BitVec.ofNat_toNat, BitVec.setWidth_eq]

end Endian

end Cedric.Motosh
