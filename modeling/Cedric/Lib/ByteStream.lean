import Mathlib.Data.List.Basic
import Mathlib.Tactic.Linarith

/-!
# Streams whose reads can fail

A stream of C's standard library hands out its bytes one by one. A read that
finds none left sets the end-of-file indicator; a read that fails does not, and
the caller sees the same `EOF` in both cases. Which reads fail is given by their
number. `drain` is the loop that reads until `EOF`.
-/

namespace Cedric.ByteStream

variable {β : Type}

/-- The bytes ahead, the number of reads so far and the end-of-file indicator. -/
structure Stream (β : Type) where
  rest : List β
  calls : ℕ
  feof : Bool
  deriving DecidableEq

def opened (content : List β) : Stream β := ⟨content, 0, false⟩

def fgetc (fails : ℕ → Bool) (f : Stream β) : Option β × Stream β :=
  if fails f.calls then (none, { f with calls := f.calls + 1 })
  else
    match f.rest with
    | [] => (none, ⟨[], f.calls + 1, true⟩)
    | b :: rest => (some b, ⟨rest, f.calls + 1, f.feof⟩)

section Steps
variable {fails : ℕ → Bool} {f : Stream β}

theorem fgetc_fails (h : fails f.calls = true) :
    fgetc fails f = (none, { f with calls := f.calls + 1 }) := if_pos h

theorem fgetc_end (h : fails f.calls = false) (hrest : f.rest = []) :
    fgetc fails f = (none, ⟨[], f.calls + 1, true⟩) := by
  rw [fgetc, h, hrest]
  rfl

theorem fgetc_byte (h : fails f.calls = false) {b : β} {rest : List β} (hrest : f.rest = b :: rest) :
    fgetc fails f = (some b, ⟨rest, f.calls + 1, f.feof⟩) := by
  rw [fgetc, h, hrest]
  rfl

end Steps

/-- None of the reads up to and including the one that meets the end fails. -/
def Sound (fails : ℕ → Bool) (f : Stream β) : Prop :=
  ∀ i ≤ f.rest.length, fails (f.calls + i) = false

section Sound
variable {fails : ℕ → Bool} {b : β} {rest : List β} {n : ℕ} {e : Bool}

theorem sound_nil : Sound fails ⟨([] : List β), n, e⟩ ↔ fails n = false := by
  constructor
  · intro h
    exact h 0 le_rfl
  · intro h i hi
    rw [Nat.le_zero.mp hi]
    exact h

theorem sound_cons :
    Sound fails ⟨b :: rest, n, e⟩ ↔ fails n = false ∧ Sound fails ⟨rest, n + 1, e⟩ := by
  constructor
  · intro h
    refine ⟨h 0 (Nat.zero_le _), fun i hi => ?_⟩
    have hstep := h (i + 1) (by simpa using hi)
    simpa [Nat.add_assoc, Nat.add_comm 1] using hstep
  · intro h i hi
    cases i with
    | zero => exact h.1
    | succ i =>
      have hstep := h.2 i (by simpa using hi)
      simpa [Nat.add_assoc, Nat.add_comm 1] using hstep

end Sound

/-- The loop `while ((c = fgetc(f)) != EOF)`: the bytes it read and the stream after it. -/
def drain (fails : ℕ → Bool) : List β → ℕ → Bool → List β × Stream β
  | [], n, e => ([], (fgetc fails ⟨[], n, e⟩).2)
  | b :: rest, n, e =>
    if fails n then ([], ⟨b :: rest, n + 1, e⟩)
    else
      let r := drain fails rest (n + 1) e
      (b :: r.1, r.2)

def Stream.drain (fails : ℕ → Bool) (f : Stream β) : List β × Stream β :=
  ByteStream.drain fails f.rest f.calls f.feof

theorem drain_eq (fails : ℕ → Bool) (f : Stream β) :
    f.drain fails =
      match fgetc fails f with
      | (none, g) => ([], g)
      | (some b, g) => (b :: (g.drain fails).1, (g.drain fails).2) := by
  obtain ⟨rest, n, e⟩ := f
  cases hfail : fails n with
  | true =>
    rw [fgetc_fails hfail]
    cases rest with
    | nil => simp only [Stream.drain, drain, fgetc_fails (f := ⟨[], n, e⟩) hfail]
    | cons b rest => simp only [Stream.drain, drain, if_pos hfail]
  | false =>
    cases rest with
    | nil =>
      rw [fgetc_end hfail rfl]
      simp only [Stream.drain, drain, fgetc_end (f := ⟨[], n, e⟩) hfail rfl]
    | cons b rest =>
      rw [fgetc_byte hfail rfl]
      simp only [Stream.drain, drain, hfail, Bool.false_eq_true, ↓reduceIte]

theorem drain_sound {fails : ℕ → Bool} {f : Stream β} (h : Sound fails f) :
    f.drain fails = (f.rest, ⟨[], f.calls + f.rest.length + 1, true⟩) := by
  obtain ⟨rest, n, e⟩ := f
  induction rest generalizing n with
  | nil =>
    rw [drain_eq, fgetc_end (sound_nil.mp h) rfl]
    rfl
  | cons b rest ih =>
    obtain ⟨hn, hrest⟩ := sound_cons.mp h
    rw [drain_eq, fgetc_byte hn rfl]
    dsimp only
    rw [ih (n + 1) hrest]
    simp only [List.length_cons, Nat.add_assoc, Nat.add_comm 1]

/-- The loop ends at the end of the file exactly if none of its reads fails. -/
theorem drain_feof_iff (fails : ℕ → Bool) {f : Stream β} (hfeof : f.feof = false) :
    (f.drain fails).2.feof = true ↔ Sound fails f := by
  obtain ⟨rest, n, e⟩ := f
  cases e with
  | true => cases hfeof
  | false =>
    induction rest generalizing n with
    | nil =>
      rw [drain_eq, sound_nil]
      cases hfail : fails n with
      | true =>
        rw [fgetc_fails hfail]
        exact iff_of_false Bool.false_ne_true (by decide)
      | false =>
        rw [fgetc_end hfail rfl]
        exact iff_of_true rfl rfl
    | cons b rest ih =>
      rw [drain_eq, sound_cons]
      cases hfail : fails n with
      | true =>
        rw [fgetc_fails hfail]
        exact iff_of_false Bool.false_ne_true fun h => absurd h.1 (by decide)
      | false =>
        rw [fgetc_byte hfail rfl]
        rw [and_iff_right rfl]
        exact ih (n + 1) rfl

end Cedric.ByteStream
