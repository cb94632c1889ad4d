import Cedric.Lib.DecimalText
import Mathlib.Data.List.Infix
import Mathlib.Data.List.TakeWhile

/-!
# Lines of a key and a number

A file of lines `key = number` is read back in the order it was written. A line that was cut
short is either no line to the reader or ends, and with it the file, in the number's digits.
-/

namespace Cedric.KeyedText

open DecimalText

/-- What `"%s = %d\n"` writes. -/
def line (key : Text) (n : ℤ) : Text := key ++ ' ' :: '=' :: ' ' :: (print n ++ ['\n'])

def scanWord (width : ℕ) (cs : Text) : Option (Text × Text) :=
  let cs := cs.dropWhile isSpace
  let word := (cs.take width).takeWhile (!isSpace ·)
  if word = [] then none else some (word, cs.drop word.length)

def scanWidth (width : ℕ) (cs : Text) : Option (ℤ × Text) :=
  let cs := cs.dropWhile isSpace
  (scan (cs.take width)).map fun r => (r.1, r.2 ++ cs.drop width)

/-- `"%63s = %11d"`, where both conversions are assigned. -/
def scanLine (cs : Text) : Option (Text × ℤ × Text) :=
  match scanWord 63 cs with
  | none => none
  | some (word, cs) =>
    match cs.dropWhile isSpace with
    | '=' :: cs => (scanWidth 11 cs).map fun r => (word, r.1, r.2)
    | _ => none

example : scanLine "AO.x = -12\nAO.y = 0\n".toList =
    some ("AO.x".toList, -12, "\nAO.y = 0\n".toList) := by decide

structure Key (key : Text) : Prop where
  ne_nil : key ≠ []
  short : key.length ≤ 63
  solid : ∀ c ∈ key, isSpace c = false

def Blank (cs : Text) : Prop := ∀ c ∈ cs, isSpace c = true

theorem blank_nil : Blank [] := nofun

theorem blank_newline : Blank ['\n'] := by
  intro c hc
  rw [List.mem_singleton.mp hc]
  rfl

theorem Blank.dropWhile {cs : Text} (h : Blank cs) (rest : Text) :
    (cs ++ rest).dropWhile isSpace = rest.dropWhile isSpace :=
  List.dropWhile_append_of_pos h

theorem Blank.dropWhile_nil {cs : Text} (h : Blank cs) : cs.dropWhile isSpace = [] := by
  have hdrop := h.dropWhile []
  rwa [List.append_nil, List.dropWhile_nil] at hdrop

theorem Blank.of_isPrefix {cs ds : Text} (h : Blank ds) (hcs : cs <+: ds) : Blank cs :=
  fun c hc => h c (hcs.subset hc)

theorem scanWord_blank (width : ℕ) {cs : Text} (h : Blank cs) : scanWord width cs = none := by
  rw [scanWord, h.dropWhile_nil]
  simp only [List.take_nil, List.takeWhile_nil, ↓reduceIte]

theorem takeWhile_solid {key : Text} (hsolid : ∀ c ∈ key, isSpace c = false) {rest : Text}
    (hrest : ∀ c ∈ rest.head?, isSpace c = true) :
    (key ++ rest).takeWhile (!isSpace ·) = key := by
  have hkey : ∀ c ∈ key, (!isSpace c) = true := fun c hc => by rw [hsolid c hc]; rfl
  rw [List.takeWhile_append_of_pos hkey]
  cases rest with
  | nil => rw [List.takeWhile_nil, List.append_nil]
  | cons c rest =>
    have hc : ¬ (!isSpace c) = true := by rw [hrest c rfl]; decide
    exact (congrArg (key ++ ·) (List.takeWhile_cons_of_neg hc)).trans (List.append_nil key)

theorem head?_take_subset {cs : Text} {k : ℕ} {c : Char} (h : c ∈ (cs.take k).head?) :
    c ∈ cs.head? := by
  cases cs with
  | nil => rwa [List.take_nil] at h
  | cons d cs =>
    cases k with
    | zero => exact absurd h nofun
    | succ k => exact h

/-- A word with a blank or nothing behind it is read whole. -/
theorem scanWord_append {width : ℕ} {blanks key rest : Text} (hblanks : Blank blanks)
    (hne : key ≠ []) (hshort : key.length ≤ width) (hsolid : ∀ c ∈ key, isSpace c = false)
    (hrest : ∀ c ∈ rest.head?, isSpace c = true) :
    scanWord width (blanks ++ (key ++ rest)) = some (key, rest) := by
  have hhead : ∀ c ∈ (key ++ rest).head?, isSpace c = false := by
    rw [List.head?_append_of_ne_nil _ hne]
    exact fun c hc => hsolid c (List.mem_of_mem_head? hc)
  have hword : ((key ++ rest).take width).takeWhile (!isSpace ·) = key := by
    rw [List.take_append, List.take_of_length_le hshort]
    exact takeWhile_solid hsolid fun c hc => hrest c (head?_take_subset hc)
  rw [scanWord, hblanks.dropWhile, dropWhile_of_head hhead]
  simp only [hword, hne, ↓reduceIte, List.drop_left]

theorem scanWidth_print {width : ℕ} {n : ℤ} (hwidth : (print n).length ≤ width) {blanks rest : Text}
    (hblanks : Blank blanks) (hrest : ∀ c ∈ rest.head?, c.isDigit = false) :
    scanWidth width (blanks ++ (print n ++ rest)) = some (n, rest) := by
  have hhead : ∀ c ∈ (print n ++ rest).head?, isSpace c = false := by
    rw [List.head?_append_of_ne_nil _ (print_ne_nil n)]
    exact (solid_print n).1
  have hscan : scan (print n ++ rest.take (width - (print n).length)) =
      some (n, rest.take (width - (print n).length)) :=
    scan_print n fun c hc => hrest c (head?_take_subset hc)
  rw [scanWidth, hblanks.dropWhile, dropWhile_of_head hhead]
  simp only [List.take_append, List.take_of_length_le hwidth, hscan, Option.map_some,
    List.drop_append, List.drop_eq_nil_of_le hwidth, List.nil_append, List.take_append_drop]

/-- A number that is what is left of `n` when the text ends in its digits. -/
def Cut (n v : ℤ) : Prop := ∃ j, scan ((print n).take j) = some (v, [])

theorem scanDigits_all {cs : Text} (hdigits : ∀ c ∈ cs, c.isDigit = true) {r : ℕ × Text}
    (h : scanDigits cs = some r) : r.2 = [] := by
  rw [scanDigits] at h
  split_ifs at h
  have hdrop : cs.dropWhile Char.isDigit = [] := List.dropWhile_eq_nil_iff.mpr hdigits
  rw [← Option.some.inj h, hdrop]

theorem scan_take_print {n : ℤ} {j : ℕ} {r : ℤ × Text} (h : scan ((print n).take j) = some r) :
    r.2 = [] := by
  have hdigits : ∀ k, ∀ c ∈ (Nat.toDigits 10 n.natAbs).take k, c.isDigit = true := fun k c hc =>
    Nat.isDigit_of_mem_toDigits (by decide) (Nat.le_refl 10) (List.mem_of_mem_take hc)
  cases j with
  | zero => exact absurd h nofun
  | succ j =>
    rw [print] at h
    split_ifs at h with hneg
    · have hminus : scan ('-' :: (Nat.toDigits 10 n.natAbs).take j) =
          (scanDigits ((Nat.toDigits 10 n.natAbs).take j)).map fun r => (-(r.1 : ℤ), r.2) := rfl
      rw [List.take_succ_cons, hminus] at h
      obtain ⟨q, hq, rfl⟩ := Option.map_eq_some_iff.mp h
      exact scanDigits_all (hdigits j) hq
    · obtain ⟨c, cs, hcons, hc⟩ := toDigits_cons n.natAbs
      rw [hcons, List.take_succ_cons, scan_of_digit hc, ← List.take_succ_cons, ← hcons] at h
      obtain ⟨q, hq, rfl⟩ := Option.map_eq_some_iff.mp h
      exact scanDigits_all (hdigits (j + 1)) hq

theorem scanWidth_take_print {width : ℕ} {n v : ℤ} (hwidth : (print n).length ≤ width) {j : ℕ}
    {blanks rest : Text} (hblanks : Blank blanks)
    (h : scanWidth width (blanks ++ (print n).take j) = some (v, rest)) :
    rest = [] ∧ Cut n v := by
  have hhead : ∀ c ∈ ((print n).take j).head?, isSpace c = false :=
    fun c hc => (solid_print n).1 c (head?_take_subset hc)
  have hlength : ((print n).take j).length ≤ width := (List.length_take_le' _ _).trans hwidth
  rw [scanWidth, hblanks.dropWhile, dropWhile_of_head hhead] at h
  simp only [List.take_of_length_le hlength, List.drop_eq_nil_of_le hlength, List.append_nil] at h
  obtain ⟨r, hr, hpair⟩ := Option.map_eq_some_iff.mp h
  obtain ⟨rfl, rfl⟩ := Prod.mk.inj hpair
  have hnil := scan_take_print hr
  exact ⟨hnil, j, by rw [hr, ← hnil]⟩

def sign : Text := [' ', '=', ' ']

theorem line_eq (key : Text) (n : ℤ) : line key n = key ++ (sign ++ (print n ++ ['\n'])) := rfl

theorem scanLine_sign {blanks key : Text} (hblanks : Blank blanks) (hkey : Key key) (rest : Text) :
    scanLine (blanks ++ (key ++ (sign ++ rest))) =
      (scanWidth 11 (' ' :: rest)).map fun r => (key, r.1, r.2) := by
  rw [scanLine, scanWord_append hblanks hkey.ne_nil hkey.short hkey.solid (by rintro _ ⟨⟩; rfl)]
  rfl

theorem blank_space : Blank [' '] := by
  intro c hc
  rw [List.mem_singleton.mp hc]
  rfl

theorem scanLine_line {blanks key : Text} (hblanks : Blank blanks) (hkey : Key key) (n : CInt)
    {rest : Text} (hrest : ∀ c ∈ rest.head?, c.isDigit = false) :
    scanLine (blanks ++ (key ++ (sign ++ (print n.1 ++ rest)))) = some (key, n.1, rest) := by
  have hnumber := scanWidth_print (length_print_le n) blank_space hrest
  rw [scanLine_sign hblanks hkey, ← List.singleton_append, hnumber]
  rfl

theorem scanLine_blank {cs : Text} (h : Blank cs) : scanLine cs = none := by
  rw [scanLine, scanWord_blank 63 h]

theorem isPrefix_append {cs as bs : Text} (h : cs <+: as ++ bs) :
    cs <+: as ∨ ∃ ds, cs = as ++ ds ∧ ds <+: bs := by
  obtain hcs | ⟨ds, rfl⟩ := List.prefix_or_prefix_of_prefix h (List.prefix_append as bs)
  · exact Or.inl hcs
  · exact Or.inr ⟨ds, rfl, (List.prefix_append_right_inj as).mp h⟩

theorem scanLine_unsigned {blanks key cs : Text} (hblanks : Blank blanks) (hkey : Key key)
    (h : cs <+: blanks ++ (key ++ sign)) : scanLine cs = none := by
  obtain hcs | ⟨ds, rfl, hds⟩ := isPrefix_append h
  · exact scanLine_blank (hblanks.of_isPrefix hcs)
  obtain hword | ⟨es, rfl, hes⟩ := isPrefix_append hds
  · by_cases hnil : ds = []
    · rw [hnil, List.append_nil]
      exact scanLine_blank hblanks
    · have hsolid : ∀ c ∈ ds, isSpace c = false := fun c hc => hkey.solid c (hword.subset hc)
      have hscan : scanWord 63 (blanks ++ (ds ++ [])) = some (ds, []) :=
        scanWord_append hblanks hnil (hword.length_le.trans hkey.short) hsolid
          fun _ hc => nomatch hc
      rw [List.append_nil] at hscan
      rw [scanLine, hscan]
      rfl
  · have hend : ∀ c ∈ es.head?, isSpace c = true := by
      intro c hc
      obtain ⟨fs, hfs⟩ := hes
      cases es with
      | nil => exact nomatch hc
      | cons e es =>
        cases hc
        rw [(List.cons.inj hfs).1]
        rfl
    rw [scanLine, scanWord_append hblanks hkey.ne_nil hkey.short hkey.solid hend]
    have hes' : es ∈ sign.inits := (List.mem_inits es sign).mpr hes
    have hends : ∀ es ∈ sign.inits, (match es.dropWhile isSpace with
        | '=' :: cs => (scanWidth 11 cs).map fun r => (key, r.1, r.2)
        | _ => none) = none := by
      intro es hes
      simp only [sign, List.inits, List.map_cons, List.map_nil, List.mem_cons,
        List.not_mem_nil, or_false] at hes
      rcases hes with rfl | rfl | rfl | rfl <;> rfl
    exact hends es hes'

/-- What a reader finds who starts at a line that may have been cut short: nothing, the line, or
the digits that are left of its number. -/
theorem scanLine_torn {blanks key cs rest : Text} {n : CInt} (hblanks : Blank blanks)
    (hkey : Key key) (h : cs <+: blanks ++ (line key n.1 ++ rest)) {word : Text} {v : ℤ}
    {left : Text} (hscan : scanLine cs = some (word, v, left)) :
    word = key ∧ (v = n.1 ∧ left <+: '\n' :: rest ∨ left = [] ∧ Cut n.1 v) := by
  have hsplit : blanks ++ (line key n.1 ++ rest) =
      blanks ++ (key ++ sign) ++ (print n.1 ++ '\n' :: rest) := by
    simp only [line_eq, List.append_assoc, List.singleton_append]
  rw [hsplit] at h
  obtain hcs | ⟨ds, rfl, hds⟩ := isPrefix_append h
  · rw [scanLine_unsigned hblanks hkey hcs] at hscan
    exact nomatch hscan
  rw [List.append_assoc, List.append_assoc] at hscan
  obtain hdigits | ⟨es, rfl, hes⟩ := isPrefix_append hds
  · rw [scanLine_sign hblanks hkey, List.prefix_iff_eq_take.mp hdigits] at hscan
    obtain ⟨r, hr, hpair⟩ := Option.map_eq_some_iff.mp hscan
    obtain ⟨hword, hpair⟩ := Prod.mk.inj hpair
    obtain ⟨rfl, rfl⟩ := Prod.mk.inj hpair
    obtain ⟨hleft, hcut⟩ := scanWidth_take_print (length_print_le n) blank_space hr
    exact ⟨hword.symm, Or.inr ⟨hleft, hcut⟩⟩
  · have hend : ∀ c ∈ es.head?, c.isDigit = false := by
      intro c hc
      obtain ⟨fs, hfs⟩ := hes
      cases es with
      | nil => exact nomatch hc
      | cons e es =>
        cases hc
        rw [(List.cons.inj hfs).1]
        rfl
    rw [scanLine_line hblanks hkey n hend] at hscan
    obtain ⟨hword, hpair⟩ := Prod.mk.inj (Option.some.inj hscan)
    obtain ⟨rfl, rfl⟩ := Prod.mk.inj hpair
    exact ⟨hword.symm, Or.inl ⟨rfl, hes⟩⟩

end Cedric.KeyedText
