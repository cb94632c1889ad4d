import Mathlib.Data.List.Basic
import Mathlib.Tactic.Linarith

/-!
# Codes whose words have two letters

`word` gives the meaning of two letters if they form a code word. `decode` reads
words from the front of a text until two letters are none.
-/

namespace Cedric.PairCode

variable {α β : Type*} (word : α → α → Option β)

inductive Encodes : List α → List β → Prop
  | nil : Encodes [] []
  | cons {a a' : α} {b : β} {s : List α} {bs : List β} (first : word a a' = some b)
      (rest : Encodes s bs) : Encodes (a :: a' :: s) (b :: bs)

/-- The start `p` of `s` encodes `bs`, and no longer start of `s` encodes anything. -/
structure Longest (s p : List α) (bs : List β) : Prop where
  start : ∃ rest, s = p ++ rest
  encodes : Encodes word p bs
  maximal : ∀ q cs, (∃ rest, s = q ++ rest) → Encodes word q cs → q.length ≤ p.length

def decode : List α → List β × List α
  | a :: a' :: s =>
    match word a a' with
    | none => ([], a :: a' :: s)
    | some b => (b :: (decode s).1, (decode s).2)
  | s => ([], s)

variable {word} {s p q t : List α} {bs cs : List β}

theorem decode_word {a a' : α} {b : β} (h : word a a' = some b) :
    decode word (a :: a' :: s) = (b :: (decode word s).1, (decode word s).2) := by
  simp only [decode, h]

theorem decode_stuck {a a' : α} (h : word a a' = none) :
    decode word (a :: a' :: s) = ([], a :: a' :: s) := by
  simp only [decode, h]

theorem Encodes.length (h : Encodes word p bs) : p.length = 2 * bs.length := by
  induction h with
  | nil => rfl
  | cons _ _ ih =>
    simp only [List.length_cons, ih]
    omega

theorem Encodes.decode_append (h : Encodes word p bs) (t : List α) :
    decode word (p ++ t) = (bs ++ (decode word t).1, (decode word t).2) := by
  induction h with
  | nil => rfl
  | cons first _ ih =>
    rw [List.cons_append, List.cons_append, decode_word first, ih]
    rfl

theorem Encodes.decode_eq (h : Encodes word p bs) : decode word p = (bs, []) := by
  simpa [decode] using h.decode_append []

theorem encodes_decode (word : α → α → Option β) (s : List α) :
    ∃ p, s = p ++ (decode word s).2 ∧ Encodes word p (decode word s).1 := by
  induction s using decode.induct word with
  | case1 a a' s hstuck =>
    rw [decode_stuck hstuck]
    exact ⟨[], rfl, .nil⟩
  | case2 a a' s b hword ih =>
    obtain ⟨p, hsplit, hp⟩ := ih
    rw [decode_word hword]
    refine ⟨a :: a' :: p, ?_, .cons hword hp⟩
    simpa using hsplit
  | case3 s hshort =>
    refine ⟨[], ?_, ?_⟩
    · simp [decode]
    · simpa [decode] using Encodes.nil

theorem decode_length_le (word : α → α → Option β) (s : List α) :
    2 * (decode word s).1.length ≤ s.length := by
  obtain ⟨p, hsplit, hp⟩ := encodes_decode word s
  have hlen := congrArg List.length hsplit
  rw [List.length_append, hp.length] at hlen
  omega

theorem longest_decode (s : List α) : ∃ p, Longest word s p (decode word s).1 := by
  obtain ⟨p, hsplit, hp⟩ := encodes_decode word s
  refine ⟨p, ⟨_, hsplit⟩, hp, ?_⟩
  rintro q cs ⟨rest, rfl⟩ hq
  rw [hp.length, hq.length, hq.decode_append, List.length_append]
  omega

/-- The longest start that is made of words is what `decode` reads. -/
theorem Longest.eq_decode (h : Longest word s p bs) : bs = (decode word s).1 := by
  obtain ⟨rest, rfl⟩ := h.start
  obtain ⟨q, hsplit, hq⟩ := encodes_decode word (p ++ rest)
  have hlen := h.maximal q _ ⟨_, hsplit⟩ hq
  have hdecode := h.encodes.decode_append rest
  rw [h.encodes.length, hq.length, hdecode, List.length_append] at hlen
  have hnone : (decode word rest).1 = [] := List.length_eq_zero_iff.mp (by omega)
  rw [hdecode, hnone, List.append_nil]

end Cedric.PairCode
