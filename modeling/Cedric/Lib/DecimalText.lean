import Mathlib.Data.Int.Notation
import Mathlib.Data.List.Basic
import Mathlib.Order.Lattice

/-!
# Numbers as text

`printAll` writes a list of `int`s as `%d %d ...`, and `scanAll` reads such a text as
`sscanf` does: it stops at the first field that is no number. What was written is read back,
and trimming does not change it.
-/

namespace Cedric.DecimalText

abbrev Text := List Char

abbrev CInt := { n : ℤ // -2147483648 ≤ n ∧ n < 2147483648 }

instance : Zero CInt := ⟨⟨0, by decide⟩⟩

instance (n m : CInt) : Decidable (n < m) := inferInstanceAs (Decidable (n.1 < m.1))

def CInt.wrap (n : ℤ) : CInt := ⟨Int.bmod n 4294967296, by
  have hlow := Int.le_bmod (x := n) (m := 4294967296) (by decide)
  have hhigh := Int.bmod_lt (x := n) (m := 4294967296) (by decide)
  omega⟩

theorem CInt.wrap_val (n : CInt) : CInt.wrap n.1 = n := by
  refine Subtype.ext (Int.bmod_eq_of_le ?_ ?_)
  · exact n.2.1
  · exact n.2.2

/-- What is kept of a number that `strtol` has clamped to a `long`. -/
def CInt.ofLong (n : ℤ) : CInt :=
  CInt.wrap (max (-9223372036854775808) (min 9223372036854775807 n))

theorem CInt.ofLong_val (n : CInt) : CInt.ofLong n.1 = n := by
  have hrange := n.2
  have hclamped : max (-9223372036854775808) (min 9223372036854775807 n.1) = n.1 := by omega
  rw [CInt.ofLong, hclamped, CInt.wrap_val]

theorem CInt.wrap_emod (n : ℤ) : (CInt.wrap n).1 % 4294967296 = n % 4294967296 := Int.bmod_emod

/-- A count that may have wrapped around shows where it came from. -/
theorem CInt.wrap_add_eq_iff (n m : CInt) {k : ℤ}
    (hk : -2147483648 ≤ m.1 - k ∧ m.1 - k < 2147483648) :
    (CInt.wrap (n.1 + k)).1 = m.1 ↔ n.1 = m.1 - k := by
  have hmod := CInt.wrap_emod (n.1 + k)
  have hrange := (CInt.wrap (n.1 + k)).2
  have hn := n.2
  have hm := m.2
  omega

def isSpace (c : Char) : Bool := decide (c = ' ' ∨ 9 ≤ c.toNat ∧ c.toNat ≤ 13)

def trim (cs : Text) : Text := ((cs.dropWhile isSpace).reverse.dropWhile isSpace).reverse

def print (n : ℤ) : Text :=
  if n < 0 then '-' :: Nat.toDigits 10 n.natAbs else Nat.toDigits 10 n.natAbs

def printAll : List CInt → Text
  | [] => []
  | [n] => print n.1
  | n :: ns => print n.1 ++ ' ' :: printAll ns

def scanDigits (cs : Text) : Option (ℕ × Text) :=
  let digits := cs.takeWhile Char.isDigit
  if digits = [] then none
  else some (Nat.ofDigitChars 10 digits 0, cs.dropWhile Char.isDigit)

/-- One `%d`: the number and what follows it. -/
def scan (cs : Text) : Option (ℤ × Text) :=
  match cs.dropWhile isSpace with
  | '-' :: cs => (scanDigits cs).map fun r => (-(r.1 : ℤ), r.2)
  | '+' :: cs => (scanDigits cs).map fun r => ((r.1 : ℤ), r.2)
  | cs => (scanDigits cs).map fun r => ((r.1 : ℤ), r.2)

/-- The numbers that `fields` conversions assign. -/
def scanAll : ℕ → Text → List CInt
  | 0, _ => []
  | fields + 1, cs =>
    match scan cs with
    | none => []
    | some (n, cs) => CInt.ofLong n :: scanAll fields cs

example : scanAll 3 "12 -7x 5".toList = [⟨12, by decide⟩, ⟨-7, by decide⟩] := by decide

theorem digit_bounds {c : Char} (h : c.isDigit = true) : 48 ≤ c.toNat ∧ c.toNat ≤ 57 :=
  Char.isDigit_iff_toNat.mp h

theorem isSpace_of_isDigit {c : Char} (h : c.isDigit = true) : isSpace c = false := by
  obtain ⟨hlow, -⟩ := digit_bounds h
  refine decide_eq_false ?_
  rintro (rfl | ⟨-, hhigh⟩)
  · exact absurd hlow (by decide)
  · omega

theorem scanDigits_toDigits (m : ℕ) {rest : Text} (hrest : ∀ c ∈ rest.head?, c.isDigit = false) :
    scanDigits (Nat.toDigits 10 m ++ rest) = some (m, rest) := by
  have hdigits : ∀ c ∈ Nat.toDigits 10 m, c.isDigit = true :=
    fun c => Nat.isDigit_of_mem_toDigits (by decide) (by decide)
  have hstop : rest.takeWhile Char.isDigit = [] ∧ rest.dropWhile Char.isDigit = rest := by
    cases rest with
    | nil => exact ⟨rfl, rfl⟩
    | cons c cs =>
      have hc : ¬ c.isDigit = true := Bool.eq_false_iff.mp (hrest c rfl)
      exact ⟨List.takeWhile_cons_of_neg hc, List.dropWhile_cons_of_neg hc⟩
  have htake : (Nat.toDigits 10 m ++ rest).takeWhile Char.isDigit = Nat.toDigits 10 m := by
    rw [List.takeWhile_append_of_pos hdigits, hstop.1, List.append_nil]
  have hdrop : (Nat.toDigits 10 m ++ rest).dropWhile Char.isDigit = rest := by
    rw [List.dropWhile_append_of_pos hdigits, hstop.2]
  rw [scanDigits, htake, hdrop, if_neg Nat.toDigits_ne_nil, Nat.ofDigitChars_ten_toDigits]

theorem scan_of_digit {c : Char} (h : c.isDigit = true) (cs : Text) :
    scan (c :: cs) = (scanDigits (c :: cs)).map fun r => ((r.1 : ℤ), r.2) := by
  have hkept : (c :: cs).dropWhile isSpace = c :: cs :=
    List.dropWhile_cons_of_neg (Bool.eq_false_iff.mp (isSpace_of_isDigit h))
  rw [scan, hkept]
  split
  · next hc =>
    rw [(List.cons.inj hc).1] at h
    exact absurd h (by decide)
  · next hc =>
    rw [(List.cons.inj hc).1] at h
    exact absurd h (by decide)
  · rfl

theorem toDigits_cons (m : ℕ) : ∃ c cs, Nat.toDigits 10 m = c :: cs ∧ c.isDigit = true := by
  obtain ⟨c, cs, hdigits⟩ := List.exists_cons_of_ne_nil (Nat.toDigits_ne_nil (n := m) (b := 10))
  refine ⟨c, cs, hdigits, Nat.isDigit_of_mem_toDigits (n := m) (by decide) (Nat.le_refl 10) ?_⟩
  rw [hdigits]
  exact List.mem_cons_self

theorem scan_print (n : ℤ) {rest : Text} (hrest : ∀ c ∈ rest.head?, c.isDigit = false) :
    scan (print n ++ rest) = some (n, rest) := by
  have hdigits := scanDigits_toDigits n.natAbs hrest
  rw [print]
  split_ifs with hneg
  · have hminus : scan ('-' :: (Nat.toDigits 10 n.natAbs ++ rest)) =
        (scanDigits (Nat.toDigits 10 n.natAbs ++ rest)).map fun r => (-(r.1 : ℤ), r.2) := rfl
    rw [List.cons_append, hminus, hdigits, Option.map_some]
    have habs : -(n.natAbs : ℤ) = n := by omega
    rw [habs]
  · obtain ⟨c, cs, hcons, hc⟩ := toDigits_cons n.natAbs
    rw [hcons] at hdigits ⊢
    rw [List.cons_append, scan_of_digit hc, ← List.cons_append, hdigits, Option.map_some]
    have habs : (n.natAbs : ℤ) = n := by omega
    rw [habs]

theorem printAll_cons_cons (n m : CInt) (ms : List CInt) :
    printAll (n :: m :: ms) = print n.1 ++ ' ' :: printAll (m :: ms) := rfl

theorem scanAll_space (fields : ℕ) (cs : Text) : scanAll fields (' ' :: cs) = scanAll fields cs := by
  cases fields with
  | zero => rfl
  | succ fields => rfl

theorem scanAll_printAll (ns : List CInt) : scanAll ns.length (printAll ns) = ns := by
  induction ns with
  | nil => rfl
  | cons n ns ih =>
    cases ns with
    | nil =>
      have hscan : scan (print n.1 ++ []) = some (n.1, []) := scan_print n.1 nofun
      rw [List.append_nil] at hscan
      simp only [List.length_cons, List.length_nil, scanAll, printAll, hscan, CInt.ofLong_val]
    | cons m ms =>
      have hscan : scan (print n.1 ++ ' ' :: printAll (m :: ms)) =
          some (n.1, ' ' :: printAll (m :: ms)) := scan_print n.1 (by rintro _ ⟨⟩; rfl)
      rw [List.length_cons, printAll_cons_cons, scanAll, hscan]
      simp only [scanAll_space, CInt.ofLong_val]
      exact congrArg (n :: ·) ih

theorem not_isSpace_of_mem_print {n : ℤ} {c : Char} (h : c ∈ print n) : isSpace c = false := by
  have hdigit : ∀ c ∈ Nat.toDigits 10 n.natAbs, isSpace c = false :=
    fun c hc => isSpace_of_isDigit (Nat.isDigit_of_mem_toDigits (by decide) (by decide) hc)
  rw [print] at h
  split_ifs at h
  · rcases List.mem_cons.mp h with rfl | hc
    · decide
    · exact hdigit c hc
  · exact hdigit c h

theorem print_ne_nil (n : ℤ) : print n ≠ [] := by
  rw [print]
  split_ifs
  · exact List.cons_ne_nil _ _
  · exact Nat.toDigits_ne_nil

theorem printAll_ne_nil (n : CInt) (ns : List CInt) : printAll (n :: ns) ≠ [] := by
  cases ns with
  | nil => exact print_ne_nil n.1
  | cons m ms => exact List.append_ne_nil_of_left_ne_nil (print_ne_nil n.1) _

theorem length_print_le (n : CInt) : (print n.1).length ≤ 11 := by
  have hdigits : (Nat.toDigits 10 n.1.natAbs).length ≤ 10 := by
    rw [Nat.length_toDigits_le_iff (by decide) (by decide)]
    have hrange := n.2
    omega
  rw [print]
  split_ifs
  · exact Nat.succ_le_succ hdigits
  · exact Nat.le_succ_of_le hdigits

theorem length_printAll_le (ns : List CInt) : (printAll ns).length ≤ 12 * ns.length := by
  induction ns with
  | nil => exact Nat.zero_le _
  | cons n ns ih =>
    have hprint := length_print_le n
    cases ns with
    | nil => exact Nat.le_succ_of_le hprint
    | cons m ms =>
      rw [printAll_cons_cons, List.length_append, List.length_cons, List.length_cons]
      omega

def Solid (cs : Text) : Prop :=
  (∀ c ∈ cs.head?, isSpace c = false) ∧ ∀ c ∈ cs.getLast?, isSpace c = false

theorem dropWhile_of_head {cs : Text} (h : ∀ c ∈ cs.head?, isSpace c = false) :
    cs.dropWhile isSpace = cs := by
  cases cs with
  | nil => rfl
  | cons c cs => exact List.dropWhile_cons_of_neg (Bool.eq_false_iff.mp (h c rfl))

theorem Solid.trim {cs : Text} (h : Solid cs) : trim cs = cs := by
  have hlast : ∀ c ∈ cs.reverse.head?, isSpace c = false := by
    rw [List.head?_reverse]
    exact h.2
  rw [DecimalText.trim, dropWhile_of_head h.1, dropWhile_of_head hlast, List.reverse_reverse]

theorem solid_print (n : ℤ) : Solid (print n) :=
  ⟨fun _ hc => not_isSpace_of_mem_print (List.mem_of_mem_head? hc),
    fun _ hc => not_isSpace_of_mem_print (List.mem_of_mem_getLast? hc)⟩

theorem solid_printAll (ns : List CInt) : Solid (printAll ns) := by
  induction ns with
  | nil => exact ⟨nofun, nofun⟩
  | cons n ns ih =>
    cases ns with
    | nil => exact solid_print n.1
    | cons m ms =>
      have hlast : (printAll (n :: m :: ms)).getLast? = (printAll (m :: ms)).getLast? := by
        obtain ⟨c, cs, hcons⟩ := List.exists_cons_of_ne_nil (printAll_ne_nil m ms)
        rw [printAll_cons_cons, List.getLast?_append_of_ne_nil _ (List.cons_ne_nil _ _), hcons,
          List.getLast?_cons_cons]
      refine ⟨?_, ?_⟩
      · rw [printAll_cons_cons, List.head?_append_of_ne_nil _ (print_ne_nil n.1)]
        exact (solid_print n.1).1
      · rw [hlast]
        exact ih.2

end Cedric.DecimalText
