import Mathlib.Data.BitVec

/-!
# Integer expressions of C

A value carries its type, and the operators convert their operands as C does:
narrow ones are promoted to `int`, and those of `&` and `|` meet in a common
type. `bit` reads a value as an unbounded number in two's complement, so that
every conversion keeps the bits below its width. A value `Holds` bits below its
width, and each operator has a rule for them.
-/

namespace Cedric.CInteger

structure IntType where
  bits : ℕ
  signed : Bool
  deriving DecidableEq

namespace IntType

def int : IntType := ⟨32, true⟩

def promoted (t : IntType) : IntType := if t.bits < 32 then int else t

def common (s t : IntType) : IntType :=
  if s.bits < t.bits then t
  else if t.bits < s.bits then s
  else ⟨s.bits, s.signed && t.signed⟩

def value (t : IntType) (v : BitVec t.bits) : ℤ := if t.signed then v.toInt else v.toNat

def ofNumber (t : IntType) (n : ℕ) : ℤ :=
  if t.signed ∧ 2 ^ t.bits ≤ 2 * n then n - 2 ^ t.bits else n

end IntType

structure CValue where
  type : IntType
  rep : BitVec type.bits

namespace CValue

def bit (v : CValue) (i : ℕ) : Bool :=
  if i < v.type.bits then v.rep.getLsbD i else v.type.signed && v.rep.msb

def convert (v : CValue) (t : IntType) : BitVec t.bits :=
  if v.type.signed then v.rep.signExtend t.bits else v.rep.setWidth t.bits

def cast (v : CValue) (t : IntType) : CValue := ⟨t, v.convert t⟩

def promote (v : CValue) : CValue := v.cast v.type.promoted

def commonType (x y : CValue) : IntType := x.type.promoted.common y.type.promoted

instance : AndOp CValue where
  and x y := ⟨x.commonType y,
    x.promote.convert (x.commonType y) &&& y.promote.convert (x.commonType y)⟩

instance : OrOp CValue where
  or x y := ⟨x.commonType y,
    x.promote.convert (x.commonType y) ||| y.promote.convert (x.commonType y)⟩

/-- A result that does not fit keeps its low bits, as C++14 has it for `int` too. -/
instance : HShiftLeft CValue ℕ CValue where
  hShiftLeft x n := ⟨x.type.promoted, x.promote.rep <<< n⟩

/-- A negative number is shifted arithmetically. -/
instance : HShiftRight CValue ℕ CValue where
  hShiftRight x n := ⟨x.type.promoted,
    if x.type.promoted.signed then x.promote.rep.sshiftRight n else x.promote.rep >>> n⟩

def hex (n : ℕ) : CValue :=
  if n < 2 ^ 31 then ⟨⟨32, true⟩, BitVec.ofNat 32 n⟩
  else if n < 2 ^ 32 then ⟨⟨32, false⟩, BitVec.ofNat 32 n⟩
  else if n < 2 ^ 63 then ⟨⟨64, true⟩, BitVec.ofNat 64 n⟩
  else ⟨⟨64, false⟩, BitVec.ofNat 64 n⟩

def ull (n : ℕ) : CValue := ⟨⟨64, false⟩, BitVec.ofNat 64 n⟩

instance (n : ℕ) : OfNat CValue n := ⟨hex n⟩

variable {x y m : CValue} {t : IntType} {i n w : ℕ}

theorem getLsbD_convert (v : CValue) (t : IntType) (i : ℕ) :
    (v.convert t).getLsbD i = (decide (i < t.bits) && v.bit i) := by
  rw [convert, bit]
  split_ifs with hs hi hi
  · rw [BitVec.getLsbD_signExtend, if_pos hi]
  · rw [BitVec.getLsbD_signExtend, if_neg hi, hs, Bool.true_and]
  · rw [BitVec.getLsbD_setWidth]
  · rw [BitVec.getLsbD_setWidth, BitVec.getLsbD_of_ge _ _ (Nat.le_of_not_lt hi),
      Bool.eq_false_of_not_eq_true hs, Bool.false_and]

theorem bit_of_lt (v : CValue) (h : i < v.type.bits) : v.bit i = v.rep.getLsbD i := if_pos h

theorem bit_of_ge (v : CValue) (h : v.type.bits ≤ i) (hpos : 0 < v.type.bits) :
    v.bit i = (v.type.signed && v.bit (v.type.bits - 1)) := by
  rw [bit, if_neg (not_lt.mpr h), bit_of_lt v (Nat.sub_lt hpos Nat.one_pos),
    BitVec.msb_eq_getLsbD_last]

theorem bit_cast_of_lt (v : CValue) (h : i < t.bits) : (v.cast t).bit i = v.bit i := by
  rw [bit_of_lt (v.cast t) h]
  refine (getLsbD_convert v t i).trans ?_
  rw [decide_eq_true h, Bool.true_and]

theorem bit_of_ge_of_ge (v : CValue) {j : ℕ} (hpos : 0 < v.type.bits) (hi : v.type.bits ≤ i)
    (hj : v.type.bits ≤ j) : v.bit i = v.bit j := by
  rw [bit_of_ge v hi hpos, bit_of_ge v hj hpos]

theorem promoted_bits_pos (t : IntType) : 0 < t.promoted.bits := by
  rw [IntType.promoted]
  split_ifs with h
  · decide
  · omega

theorem bit_promote (x : CValue) (hpos : 0 < x.type.bits) (i : ℕ) : x.promote.bit i = x.bit i := by
  have htype : x.promote.type = x.type.promoted := rfl
  by_cases hi : i < x.type.promoted.bits
  · exact bit_cast_of_lt x hi
  have hge : x.promote.type.bits ≤ i := not_lt.mp hi
  rw [bit_of_ge x.promote hge (promoted_bits_pos x.type), htype]
  by_cases hnarrow : x.type.bits < 32
  · have hint : x.type.promoted = .int := if_pos hnarrow
    have hlast : x.promote.bit 31 = x.bit 31 := bit_cast_of_lt x (by rw [hint]; decide)
    rw [hint] at hi ⊢
    dsimp only [IntType.int] at hi ⊢
    rw [Bool.true_and, hlast]
    exact bit_of_ge_of_ge x hpos (by omega) (by omega)
  · have hsame : x.type.promoted = x.type := if_neg hnarrow
    have hlast : x.promote.bit (x.type.bits - 1) = x.bit (x.type.bits - 1) :=
      bit_cast_of_lt x (by rw [hsame]; omega)
    rw [hsame] at hi ⊢
    rw [hlast, ← bit_of_ge x (not_lt.mp hi) hpos]

def Wf (x : CValue) : Prop := 0 < x.type.bits

theorem bit_and (hx : x.Wf) (hy : y.Wf) (hi : i < (x.commonType y).bits) :
    (x &&& y).bit i = (x.bit i && y.bit i) := by
  rw [bit_of_lt (x &&& y) hi]
  change (x.promote.convert _ &&& y.promote.convert _).getLsbD i = _
  rw [BitVec.getLsbD_and, getLsbD_convert, getLsbD_convert, decide_eq_true hi, bit_promote x hx,
    bit_promote y hy, Bool.true_and, Bool.true_and]

theorem bit_or (hx : x.Wf) (hy : y.Wf) (hi : i < (x.commonType y).bits) :
    (x ||| y).bit i = (x.bit i || y.bit i) := by
  rw [bit_of_lt (x ||| y) hi]
  change (x.promote.convert _ ||| y.promote.convert _).getLsbD i = _
  rw [BitVec.getLsbD_or, getLsbD_convert, getLsbD_convert, decide_eq_true hi, bit_promote x hx,
    bit_promote y hy, Bool.true_and, Bool.true_and]

theorem bit_shl (hx : x.Wf) (hi : i < x.type.promoted.bits) :
    (x <<< n).bit i = (decide (n ≤ i) && x.bit (i - n)) := by
  have hlow : i - n < x.promote.type.bits := (Nat.sub_le i n).trans_lt hi
  rw [bit_of_lt (x <<< n) hi]
  change (x.promote.rep <<< n).getLsbD i = _
  rw [BitVec.getLsbD_shiftLeft, ← bit_of_lt x.promote hlow, bit_promote x hx,
    show (x.promote.type.bits) = x.type.promoted.bits from rfl, decide_eq_true hi, Bool.true_and]
  by_cases hn : n ≤ i
  · rw [decide_eq_true hn, decide_eq_false (not_lt.mpr hn), Bool.not_false]
  · rw [decide_eq_false hn, decide_eq_true (not_le.mp hn), Bool.not_true]

theorem bit_shr (hx : x.Wf) (hi : i < x.type.promoted.bits) :
    (x >>> n).bit i = x.bit (i + n) := by
  rw [bit_of_lt (x >>> n) hi, ← bit_promote x hx, bit, Nat.add_comm i n]
  change (if x.type.promoted.signed then x.promote.rep.sshiftRight n
    else x.promote.rep >>> n).getLsbD i = if n + i < x.type.promoted.bits then _ else _
  have hinside : (!decide (x.type.promoted.bits ≤ i)) = true := by
    rw [decide_eq_false (not_le.mpr hi), Bool.not_false]
  by_cases hs : x.type.promoted.signed = true
  · rw [if_pos hs, BitVec.getLsbD_sshiftRight]
    change ((!decide (x.type.promoted.bits ≤ i)) && _) = _
    rw [hinside, Bool.true_and]
    change _ = if _ then _ else (x.type.promoted.signed && _)
    rw [hs, Bool.true_and]
    rfl
  · rw [if_neg hs, BitVec.getLsbD_ushiftRight]
    split_ifs with hn
    · rfl
    · change _ = (x.type.promoted.signed && _)
      rw [Bool.eq_false_of_not_eq_true hs, Bool.false_and]
      exact BitVec.getLsbD_of_ge _ _ (not_lt.mp hn)

/-- Below the sign bit a mask leaves nothing to extend. -/
theorem bit_and_mask (hx : x.Wf) (hm : m.Wf) (hw : 0 < (x.commonType m).bits)
    (hhigh : ∀ j, (x.commonType m).bits ≤ j → m.bit j = false)
    (hsign : (x.commonType m).signed = true → m.bit ((x.commonType m).bits - 1) = false) (i : ℕ) :
    (x &&& m).bit i = (x.bit i && m.bit i) := by
  by_cases hi : i < (x.commonType m).bits
  · exact bit_and hx hm hi
  · have hge := not_lt.mp hi
    have hlast : (x &&& m).bit ((x.commonType m).bits - 1) =
        (x.bit ((x.commonType m).bits - 1) && m.bit ((x.commonType m).bits - 1)) :=
      bit_and hx hm (by omega)
    rw [bit_of_ge (x &&& m) hge hw, hhigh i hge, Bool.and_false]
    change ((x.commonType m).signed && (x &&& m).bit ((x.commonType m).bits - 1)) = false
    rw [hlast, Bool.and_eq_false_iff]
    cases hs : (x.commonType m).signed with
    | false => exact Or.inl rfl
    | true => exact Or.inr (by rw [hsign hs, Bool.and_false])

theorem getLsbD_convert_of_lt (v : CValue) (h : i < t.bits) :
    (v.convert t).getLsbD i = v.bit i := by
  rw [getLsbD_convert, decide_eq_true h, Bool.true_and]

/-- Below its width, after promotion, `x` has the bits `f`. -/
structure Holds (x : CValue) (w : ℕ) (f : ℕ → Bool) : Prop where
  wf : x.Wf
  width : x.type.promoted.bits = w
  bits : ∀ i < w, x.bit i = f i

theorem promoted_promoted (t : IntType) : t.promoted.promoted = t.promoted := by
  by_cases h : t.bits < 32
  · have hint : t.promoted = .int := if_pos h
    rw [hint]
    rfl
  · have hsame : t.promoted = t := if_neg h
    rw [hsame, hsame]

theorem common_bits {s t : IntType} (hs : s.bits = w) (ht : t.bits = w) :
    (s.common t).bits = w := by
  rw [IntType.common, hs, ht, if_neg (Nat.lt_irrefl w), if_neg (Nat.lt_irrefl w)]

theorem le_promoted_bits (t : IntType) : 32 ≤ t.promoted.bits := by
  rw [IntType.promoted]
  split_ifs with h
  · exact le_rfl
  · exact not_lt.mp h

variable {f g : ℕ → Bool}

theorem Holds.or (hx : x.Holds w f) (hy : y.Holds w g) :
    (x ||| y).Holds w fun i => f i || g i := by
  have hbits : (x.commonType y).bits = w := common_bits hx.width hy.width
  have hw : 32 ≤ w := hx.width ▸ le_promoted_bits x.type
  have hpromoted : (x.commonType y).promoted = x.commonType y :=
    if_neg (by rw [hbits]; exact not_lt.mpr hw)
  refine ⟨?_, ?_, fun i hi => ?_⟩
  · change 0 < (x.commonType y).bits
    omega
  · change (x.commonType y).promoted.bits = w
    rw [hpromoted, hbits]
  · rw [bit_or hx.wf hy.wf (by rwa [hbits]), hx.bits i hi, hy.bits i hi]

theorem holds_shl (hx : x.Wf) (hw : x.type.promoted.bits = w) :
    (x <<< n).Holds w fun i => decide (n ≤ i) && x.bit (i - n) where
  wf := promoted_bits_pos x.type
  width := (congrArg IntType.bits (promoted_promoted x.type)).trans hw
  bits i hi := bit_shl hx (by rwa [hw])

theorem holds_shr (hx : x.Wf) (hw : x.type.promoted.bits = w) :
    (x >>> n).Holds w fun i => x.bit (i + n) where
  wf := promoted_bits_pos x.type
  width := (congrArg IntType.bits (promoted_promoted x.type)).trans hw
  bits i hi := bit_shr hx (by rwa [hw])

theorem Holds.congr (hx : x.Holds w f) (hfg : ∀ i < w, f i = g i) : x.Holds w g :=
  ⟨hx.wf, hx.width, fun i hi => (hx.bits i hi).trans (hfg i hi)⟩

theorem Holds.convert (hx : x.Holds w f) (t : IntType) (ht : t.bits ≤ w) (hi : i < t.bits) :
    (x.convert t).getLsbD i = f i := by
  rw [getLsbD_convert_of_lt x hi, hx.bits i (hi.trans_le ht)]

theorem bit_ofNat {s : Bool} (hn : n < 2 ^ w) (hs : s = true → n < 2 ^ (w - 1))
    (i : ℕ) : bit ⟨⟨w, s⟩, BitVec.ofNat w n⟩ i = n.testBit i := by
  rw [bit]
  dsimp only
  split_ifs with hi
  · rw [BitVec.getLsbD_ofNat, decide_eq_true hi, Bool.true_and]
  · have hhigh : n.testBit i = false :=
      Nat.testBit_lt_two_pow (hn.trans_le (Nat.pow_le_pow_right (by decide) (not_lt.mp hi)))
    rw [hhigh, Bool.and_eq_false_iff]
    cases s with
    | false => exact Or.inl rfl
    | true =>
      refine Or.inr ?_
      rw [BitVec.msb_eq_getLsbD_last, BitVec.getLsbD_ofNat, Nat.testBit_lt_two_pow (hs rfl),
        Bool.and_false]

theorem bit_hex (hn : n < 2 ^ 64) (i : ℕ) : (hex n).bit i = n.testBit i := by
  rw [hex]
  split_ifs with h31 h32 h63
  · exact bit_ofNat (h31.trans (by decide)) (fun _ => h31) i
  · exact bit_ofNat h32 (fun h => absurd h (by decide)) i
  · exact bit_ofNat hn (fun _ => h63) i
  · exact bit_ofNat hn (fun h => absurd h (by decide)) i

theorem bit_ull (hn : n < 2 ^ 64) (i : ℕ) : (ull n).bit i = n.testBit i :=
  bit_ofNat hn (fun h => absurd h (by decide)) i

theorem testBit_byteMask (k i : ℕ) : (0xff <<< (8 * k)).testBit i = decide (i / 8 = k) := by
  rw [Nat.testBit_shiftLeft, show 0xff = 2 ^ 8 - 1 from rfl, Nat.testBit_two_pow_sub_one,
    ← Bool.decide_and, decide_eq_decide]
  omega

/-- In `x & m`, of type `t`, the mask picks byte `k` and leaves a sign bit clear. -/
structure Masks (x m : CValue) (t : IntType) (k : ℕ) : Prop where
  common : x.commonType m = t
  wide : t.promoted = t
  wf : x.Wf
  wfMask : m.Wf
  mask : ∀ i, m.bit i = decide (i / 8 = k)
  inside : 8 * k + 8 ≤ t.bits
  unsigned : t.signed = true → 8 * k + 8 < t.bits

variable {k d : ℕ}

theorem Masks.bit (h : Masks x m t k) (i : ℕ) :
    (x &&& m).bit i = (decide (i / 8 = k) && x.bit i) := by
  have hinside := h.inside
  have hsign := h.unsigned
  rw [← h.common] at hinside hsign
  rw [bit_and_mask h.wf h.wfMask (by omega), h.mask, Bool.and_comm]
  · intro j hj
    rw [h.mask, decide_eq_false (by omega)]
  · intro hs
    have hlt := hsign hs
    rw [h.mask, decide_eq_false (by omega)]

theorem Masks.type (h : Masks x m t k) : (x &&& m).type.promoted = t := by
  change (x.commonType m).promoted = t
  rw [h.common, h.wide]

theorem Masks.wfAnd (h : Masks x m t k) : (x &&& m).Wf := by
  have hinside := h.inside
  rw [← h.common] at hinside
  exact Nat.lt_of_lt_of_le (Nat.succ_pos _) hinside

theorem Masks.holds (h : Masks x m t k) :
    (x &&& m).Holds t.bits fun i => decide (i / 8 = k) && x.bit i :=
  ⟨h.wfAnd, congrArg IntType.bits h.type, fun i _ => h.bit i⟩

theorem Masks.right (h : Masks x m t k) (hn : n = 8 * d) :
    ((x &&& m) >>> n).Holds t.bits fun i => decide (i / 8 + d = k) && x.bit (i + n) := by
  refine (holds_shr h.wfAnd (congrArg IntType.bits h.type)).congr fun i hi => ?_
  rw [h.bit, hn, Nat.add_mul_div_left _ _ (by decide)]

theorem Masks.left (h : Masks x m t k) (hn : n = 8 * d) :
    ((x &&& m) <<< n).Holds t.bits fun i => decide (i / 8 = k + d) && x.bit (i - n) := by
  refine (holds_shl h.wfAnd (congrArg IntType.bits h.type)).congr fun i hi => ?_
  rw [h.bit, ← Bool.and_assoc, ← Bool.decide_and]
  congr 1
  rw [decide_eq_decide]
  omega

def byte (b : BitVec 8) : CValue := ⟨⟨8, false⟩, b⟩

theorem bit_byte (b : BitVec 8) (i : ℕ) : (byte b).bit i = b.getLsbD i := by
  rw [bit]
  change (if i < 8 then b.getLsbD i else (false && b.msb)) = _
  split_ifs with hi
  · rfl
  · exact (BitVec.getLsbD_of_ge b i (not_lt.mp hi)).symm

theorem bit_cast_byte (b : BitVec 8) (ht : 8 < t.bits) (i : ℕ) :
    ((byte b).cast t).bit i = b.getLsbD i := by
  by_cases hi : i < t.bits
  · rw [bit_cast_of_lt _ hi, bit_byte]
  · have hge := not_lt.mp hi
    have hlast : ((byte b).cast t).bit (t.bits - 1) = false := by
      rw [bit_cast_of_lt _ (by omega), bit_byte]
      exact BitVec.getLsbD_of_ge b _ (by omega)
    rw [bit_of_ge ((byte b).cast t) hge (Nat.zero_lt_of_lt ht), BitVec.getLsbD_of_ge b i (by omega)]
    change (t.signed && ((byte b).cast t).bit (t.bits - 1)) = false
    rw [hlast, Bool.and_false]

theorem holds_lowest (b : BitVec 8) (ht : 8 < t.bits) (hw : t.promoted.bits = w) :
    ((byte b).cast t).Holds w fun i => decide (i / 8 = 0) && b.getLsbD (i % 8) := by
  refine ⟨Nat.zero_lt_of_lt ht, hw, fun i _ => ?_⟩
  rw [bit_cast_byte b ht]
  by_cases hi : i < 8
  · rw [Nat.div_eq_of_lt hi, Nat.mod_eq_of_lt hi, decide_eq_true rfl, Bool.true_and]
  · rw [BitVec.getLsbD_of_ge b i (not_lt.mp hi), decide_eq_false (by omega), Bool.false_and]

theorem holds_placed (b : BitVec 8) (ht : 8 < t.bits) (hw : t.promoted.bits = w)
    (hn : n = 8 * d) :
    ((byte b).cast t <<< n).Holds w fun i => decide (i / 8 = d) && b.getLsbD (i % 8) := by
  have hwf : ((byte b).cast t).Wf := Nat.zero_lt_of_lt ht
  refine (holds_shl hwf hw).congr fun i _ => ?_
  rw [bit_cast_byte b ht]
  by_cases hd : i / 8 = d
  · have hle : n ≤ i := by omega
    have hbit : i - n = i % 8 := by omega
    rw [decide_eq_true hd, decide_eq_true hle, hbit]
  · rw [decide_eq_false hd, Bool.false_and, Bool.and_eq_false_iff]
    by_cases hle : n ≤ i
    · exact Or.inr (BitVec.getLsbD_of_ge b _ (by omega))
    · exact Or.inl (decide_eq_false hle)

/-- The bytes at the places `S` are those of `f`, and the others are zero. -/
def Assembled (x : CValue) (w : ℕ) (f : ℕ → Bool) (S : List ℕ) : Prop :=
  x.Holds w fun i => decide (i / 8 ∈ S) && f i

theorem Holds.assembled (hx : x.Holds w fun i => decide (i / 8 = d) && g i)
    (hfg : ∀ i, i / 8 = d → g i = f i) : x.Assembled w f [d] := by
  refine hx.congr fun i _ => ?_
  by_cases hplace : i / 8 = d
  · rw [hfg i hplace, hplace, decide_eq_true rfl, decide_eq_true (List.mem_singleton_self d)]
  · rw [decide_eq_false hplace, decide_eq_false (mt List.mem_singleton.mp hplace), Bool.false_and,
      Bool.false_and]

theorem Assembled.or {S S' : List ℕ} (hx : x.Assembled w f S) (hy : y.Assembled w f S') :
    (x ||| y).Assembled w f (S ++ S') := by
  refine (Holds.or hx hy).congr fun i _ => ?_
  rw [← Bool.and_or_distrib_right, ← Bool.decide_or]
  simp only [List.mem_append]

theorem Assembled.convert {S : List ℕ} (hx : x.Assembled w f S) (t : IntType) (ht : t.bits ≤ w)
    (hi : i < t.bits) (hplace : i / 8 ∈ S) : (x.convert t).getLsbD i = f i := by
  rw [Holds.convert hx t ht hi, decide_eq_true hplace, Bool.true_and]

def mirrored (x : CValue) (N i : ℕ) : Bool := x.bit (8 * (N - 1 - i / 8) + i % 8)

variable {N : ℕ}

theorem Masks.mirrored_right (h : Masks x m t k) (hn : n = 8 * d) (hk : k < N)
    (hd : 2 * k + 1 = N + d) : ((x &&& m) >>> n).Assembled t.bits (x.mirrored N) [N - 1 - k] := by
  refine ((h.right hn).congr fun i _ => ?_).assembled (g := fun i => x.bit (i + n)) fun i hi => ?_
  · congr 1
    rw [decide_eq_decide]
    omega
  · rw [mirrored]
    congr 1
    omega

theorem Masks.mirrored_left (h : Masks x m t k) (hn : n = 8 * d) (hd : N = 2 * k + 1 + d) :
    ((x &&& m) <<< n).Assembled t.bits (x.mirrored N) [N - 1 - k] := by
  refine ((h.left hn).congr fun i _ => ?_).assembled (g := fun i => x.bit (i - n)) fun i hi => ?_
  · congr 1
    rw [decide_eq_decide]
    omega
  · rw [mirrored]
    congr 1
    omega

end CValue

theorem IntType.value_ofNat (t : IntType) {n : ℕ} (hn : n < 2 ^ t.bits) :
    t.value (BitVec.ofNat t.bits n) = t.ofNumber n := by
  have hmod : (BitVec.ofNat t.bits n).toNat = n := by
    rw [BitVec.toNat_ofNat, Nat.mod_eq_of_lt hn]
  rw [value, ofNumber]
  by_cases hs : t.signed = true
  · rw [if_pos hs, BitVec.toInt_eq_toNat_cond, hmod]
    by_cases hlow : 2 * n < 2 ^ t.bits
    · rw [if_pos hlow, if_neg fun h => absurd h.2 (not_le.mpr hlow)]
    · rw [if_neg hlow, if_pos ⟨hs, not_lt.mp hlow⟩]
      push_cast
      rfl
  · rw [if_neg hs, if_neg fun h => hs h.1, hmod]

end Cedric.CInteger
