import Cedric.Lib.PairCode
import Cedric.Motosh.VersionCheck

/-!
# Hexadecimal text

`stm_convertAsciiToHex` takes two characters a byte, but `%02x` skips blanks,
takes a sign or a single digit, and does not know where the text ends. What the
conversion does beyond the pairs of digits is decided by the first position where
there is no such pair.
-/

namespace Cedric.Motosh

open PairCode

def hexPair (c d : BitVec 8) : Option (BitVec 8) :=
  (hexDigit c).bind fun hi => (hexDigit d).map fun lo => BitVec.ofInt 8 (16 * hi + lo)

def hexChar (upper : Bool) (n : ℕ) : BitVec 8 :=
  if n < 10 then BitVec.ofNat 8 (0x30 + n)
  else if upper then BitVec.ofNat 8 (0x41 + (n - 10))
  else BitVec.ofNat 8 (0x61 + (n - 10))

/-- Two digits a byte; `upper` tells the case of each digit. -/
def hexEncode : (ℕ → Bool) → List (BitVec 8) → List (BitVec 8)
  | _, [] => []
  | upper, b :: bs =>
    hexChar (upper 0) (b.toNat / 16) :: hexChar (upper 1) (b.toNat % 16) ::
      hexEncode (fun k => upper (k + 2)) bs

theorem hexDigit_hexChar (upper : Bool) {n : ℕ} (hn : n < 16) :
    hexDigit (hexChar upper n) = some (n : ℤ) := by
  have hall : ∀ u, ∀ n < 16, hexDigit (hexChar u n) = some (n : ℤ) := by decide
  exact hall upper n hn

theorem hexPair_hexChar (u v : Bool) (b : BitVec 8) :
    hexPair (hexChar u (b.toNat / 16)) (hexChar v (b.toNat % 16)) = some b := by
  have hhigh : b.toNat / 16 < 16 := Nat.div_lt_of_lt_mul b.isLt
  have hlow : b.toNat % 16 < 16 := Nat.mod_lt _ (by decide)
  have hbyte : (16 * ((b.toNat / 16 : ℕ) : ℤ) + ((b.toNat % 16 : ℕ) : ℤ)) = (b.toNat : ℤ) := by
    omega
  simp only [hexPair, hexDigit_hexChar u hhigh, hexDigit_hexChar v hlow, Option.bind_some,
    Option.map_some, hbyte]
  simp

theorem encodes_hexEncode (upper : ℕ → Bool) (bs : List (BitVec 8)) :
    Encodes hexPair (hexEncode upper bs) bs := by
  induction bs generalizing upper with
  | nil => exact .nil
  | cons b bs ih => exact .cons (hexPair_hexChar (upper 0) (upper 1) b) (ih _)

section Scan

theorem ne_of_hexDigit {c d : BitVec 8} {x : ℤ} (h : hexDigit c = some x)
    (hd : hexDigit d = none) : c ≠ d := by
  rintro rfl
  rw [hd] at h
  cases h

theorem isspace_of_hexDigit {c : BitVec 8} {x : ℤ} (h : hexDigit c = some x) :
    isspace c = false := by
  have hnone : ∀ d ∈ [0x20#8, 0x09#8, 0x0a#8, 0x0b#8, 0x0c#8, 0x0d#8], hexDigit d = none := by
    decide
  exact decide_eq_false fun hmem => ne_of_hexDigit h (hnone c hmem) rfl

theorem scanByte_digits {c d : BitVec 8} {hi lo : ℤ} (hc : hexDigit c = some hi)
    (hd : hexDigit d = some lo) (t : List (BitVec 8)) :
    scanByte (c :: d :: t) = some (16 * hi + lo) := by
  have hc0 : c ≠ 0#8 := ne_of_hexDigit hc (by decide)
  have hd0 : d ≠ 0#8 := ne_of_hexDigit hd (by decide)
  have hplus : c ≠ 0x2b := ne_of_hexDigit hc (by decide)
  have hminus : c ≠ 0x2d := ne_of_hexDigit hc (by decide)
  have htext : ((c :: d :: t).takeWhile (· ≠ 0)).dropWhile isspace =
      c :: d :: t.takeWhile (· ≠ 0) := by
    simp [hc0, hd0, isspace_of_hexDigit hc]
  simp only [scanByte, htext, hplus, hminus, ↓reduceIte, List.head?_cons, Option.bind_some, hc,
    hd, Option.map_some]

/-- Behind blanks there is a digit, or a sign and a digit. -/
def Scans (t : List (BitVec 8)) : Prop :=
  ∃ c rest, (t.takeWhile (· ≠ 0)).dropWhile isspace = c :: rest ∧
    ((hexDigit c).isSome ∨
      (c = 0x2b ∨ c = 0x2d) ∧ ∃ d, rest.head? = some d ∧ (hexDigit d).isSome)

theorem scanByte_isSome_iff (t : List (BitVec 8)) : (scanByte t).isSome ↔ Scans t := by
  have hplus : hexDigit 0x2b = none := by decide
  have hminus : hexDigit 0x2d = none := by decide
  cases htext : (t.takeWhile (· ≠ 0)).dropWhile isspace with
  | nil => simp only [scanByte, Scans, htext, reduceCtorEq, false_and, exists_false,
      Option.isSome_none, Bool.false_eq_true]
  | cons c rest =>
    have hsecond : (rest.head?.bind hexDigit).isSome ↔
        ∃ d, rest.head? = some d ∧ (hexDigit d).isSome := by
      cases rest.head? <;> simp
    have hscans : Scans t ↔ ((hexDigit c).isSome ∨
        (c = 0x2b ∨ c = 0x2d) ∧ (rest.head?.bind hexDigit).isSome) := by
      rw [hsecond, Scans, htext]
      constructor
      · rintro ⟨_, _, heq, h⟩
        obtain ⟨rfl, rfl⟩ := List.cons.inj heq
        exact h
      · intro h
        exact ⟨c, rest, rfl, h⟩
    rw [hscans]
    simp only [scanByte, htext]
    by_cases hp : c = 0x2b
    · rw [if_pos hp, hp, hplus]
      simp only [Option.isSome_none, Bool.false_eq_true, true_or, true_and, false_or]
    rw [if_neg hp]
    by_cases hm : c = 0x2d
    · rw [if_pos hm, hm, hminus, Option.isSome_map]
      simp only [Option.isSome_none, Bool.false_eq_true, or_true, true_and, false_or]
    rw [if_neg hm, Option.isSome_map]
    simp only [hp, hm, or_self, false_and, or_false]

end Scan

theorem convertFrom_drop (input : List (BitVec 8)) (inlen fuel i : ℕ) :
    convertFrom input inlen fuel i = convertFrom (input.drop i) (inlen - i) fuel 0 := by
  induction fuel generalizing input inlen i with
  | zero => rfl
  | succ fuel ih =>
    have hstep : convertFrom (input.drop i) (inlen - i) fuel 2 =
        convertFrom input inlen fuel (i + 2) := by
      rw [ih, ih input inlen (i + 2), List.drop_drop, Nat.sub_sub]
    have hmore : (0 < inlen - i) = (i < inlen) := propext Nat.sub_pos_iff_lt
    simp only [convertFrom, List.drop_zero, Nat.zero_add, hmore, hstep]

theorem convertFrom_scan {t : List (BitVec 8)} {x : ℤ} (h : scanByte t = some x) {n : ℕ}
    (hn : 0 < n) (fuel : ℕ) : convertFrom t n (fuel + 1) 0 =
      BitVec.ofInt 8 x :: convertFrom (t.drop 2) (n - 2) fuel 0 := by
  rw [convertFrom, if_pos hn, List.drop_zero, h, convertFrom_drop]

theorem convertFrom_eq_nil_iff (t : List (BitVec 8)) {n fuel : ℕ} (hn : 0 < n) (hfuel : 0 < fuel) :
    convertFrom t n fuel 0 = [] ↔ ¬ Scans t := by
  obtain ⟨fuel, rfl⟩ := Nat.exists_eq_add_one.mpr hfuel
  rw [← scanByte_isSome_iff]
  cases h : scanByte t with
  | none =>
    rw [convertFrom, if_pos hn, List.drop_zero, h]
    simp
  | some x =>
    rw [convertFrom_scan h hn]
    simp

theorem convertFrom_decode (behind s : List (BitVec 8)) {fuel : ℕ} (hfuel : s.length ≤ fuel) :
    ∃ more, convertFrom (s ++ behind) s.length fuel 0 = (decode hexPair s).1 ++ more ∧
      (more = [] ↔ (decode hexPair s).2 = [] ∨ ¬ Scans ((decode hexPair s).2 ++ behind)) := by
  induction s using decode.induct hexPair generalizing fuel with
  | case1 c d s hstuck =>
    rw [decode_stuck hstuck]
    have hpos : 0 < (c :: d :: s).length := Nat.succ_pos _
    refine ⟨_, (List.nil_append _).symm, ?_⟩
    rw [convertFrom_eq_nil_iff _ hpos (lt_of_lt_of_le hpos hfuel)]
    simp
  | case2 c d s b hpair ih =>
    obtain ⟨hi, hc, hmap⟩ := Option.bind_eq_some_iff.mp hpair
    obtain ⟨lo, hd, rfl⟩ := Option.map_eq_some_iff.mp hmap
    have hpos : 0 < (c :: d :: s).length := Nat.succ_pos _
    obtain ⟨fuel, rfl⟩ := Nat.exists_eq_add_one.mpr (lt_of_lt_of_le hpos hfuel)
    have htail : s.length ≤ fuel := by
      simp only [List.length_cons] at hfuel
      omega
    obtain ⟨more, hmore, hnil⟩ := ih htail
    rw [decode_word hpair]
    refine ⟨more, ?_, hnil⟩
    rw [List.cons_append, List.cons_append, convertFrom_scan (scanByte_digits hc hd _) hpos]
    exact congrArg (_ :: ·) hmore
  | case3 s hshort =>
    have hdecode : decode hexPair s = ([], s) := by simp [decode]
    rw [hdecode]
    refine ⟨_, (List.nil_append _).symm, ?_⟩
    cases s with
    | nil =>
      refine iff_of_true ?_ (Or.inl rfl)
      cases fuel <;> rfl
    | cons c s =>
      have hpos : 0 < (c :: s).length := Nat.succ_pos _
      rw [convertFrom_eq_nil_iff _ hpos (lt_of_lt_of_le hpos hfuel)]
      simp

theorem stmConvertAsciiToHex_of_encodes {s bs : List (BitVec 8)} (h : Encodes hexPair s bs)
    (behind : List (BitVec 8)) : stmConvertAsciiToHex (s ++ behind) s.length = bs := by
  obtain ⟨more, hmore, hnil⟩ := convertFrom_decode behind s le_rfl
  rw [h.decode_eq] at hmore hnil
  rw [stmConvertAsciiToHex, hmore, hnil.mpr (Or.inl rfl), List.append_nil]

/-- The conversion of the text `s` with the bytes `behind` behind it in memory. -/
structure ConvertsPairs (s behind : List (BitVec 8)) : Prop where
  roundTrip : ∀ upper bs, s = hexEncode upper bs →
    stmConvertAsciiToHex (s ++ behind) s.length = bs
  longest : ∃ p, Longest hexPair s p (stmConvertAsciiToHex (s ++ behind) s.length)
  bounded : (stmConvertAsciiToHex (s ++ behind) s.length).length ≤ s.length / 2

/-- Exactly the pairs of digits are taken if nothing is left behind the last one, or what is
left is no blanks, sign or digit that `%02x` takes. -/
theorem convertsPairs_iff (s behind : List (BitVec 8)) :
    ConvertsPairs s behind ↔
      (decode hexPair s).2 = [] ∨ ¬ Scans ((decode hexPair s).2 ++ behind) := by
  obtain ⟨more, hmore, hnil⟩ := convertFrom_decode behind s le_rfl
  have hconvert : stmConvertAsciiToHex (s ++ behind) s.length = (decode hexPair s).1 ++ more :=
    hmore
  rw [← hnil]
  constructor
  · intro h
    obtain ⟨p, hp⟩ := h.longest
    rw [hconvert] at hp
    exact List.append_right_eq_self.mp hp.eq_decode
  · intro hno
    rw [hno, List.append_nil] at hconvert
    refine ⟨?_, ?_, ?_⟩
    · rintro upper bs rfl
      exact stmConvertAsciiToHex_of_encodes (encodes_hexEncode upper bs) behind
    · rw [hconvert]
      exact longest_decode s
    · rw [hconvert]
      have hlen := decode_length_le hexPair s
      omega

/-- "123" is converted to two bytes. -/
theorem odd_digit_converted : ¬ ConvertsPairs [0x31, 0x32, 0x33] [0] := by
  intro h
  exact absurd h.bounded (by decide)

end Cedric.Motosh
