import Mathlib.Data.Nat.Notation
import Mathlib.Order.Basic

/-!
# Text in memory

A pointer stands for the memory from its target to the end of what is mapped; a read past the
end faults. `Ends` says where a read of text stops: at the first NUL, or at the fault.
`strtok_r` cuts the text at a delimiter and overwrites it, so what is read of a text in all
goes up to its end and no further.
-/

namespace Cedric.CString

abbrev Byte := BitVec 8

/-- The first offset from `s` on with a byte that stops the scan, or the end of the memory. -/
def seek (stops : Byte → Bool) (mem : List Byte) (s : ℕ) : ℕ := s + (mem.drop s).findIdx stops

section Seek
variable {stops : Byte → Bool} {mem : List Byte} {s j : ℕ}

theorem le_seek : s ≤ seek stops mem s := Nat.le_add_right ..

theorem seek_passed (hs : s ≤ j) (hj : j < seek stops mem s) :
    ∃ c, mem[j]? = some c ∧ stops c = false := by
  obtain ⟨k, rfl⟩ := Nat.exists_eq_add_of_le hs
  have hk : k < (mem.drop s).findIdx stops := Nat.lt_of_add_lt_add_left hj
  have hlen : k < (mem.drop s).length := Nat.lt_of_lt_of_le hk List.findIdx_le_length
  refine ⟨(mem.drop s)[k], ?_, List.not_of_lt_findIdx hk⟩
  rw [← List.getElem?_drop]
  exact List.getElem?_eq_getElem hlen

theorem seek_stops {c : Byte} (h : mem[seek stops mem s]? = some c) : stops c = true := by
  rw [seek, ← List.getElem?_drop] at h
  obtain ⟨hlen, rfl⟩ := List.getElem?_eq_some_iff.mp h
  exact List.findIdx_getElem

end Seek

/-- The text from `s` on ends at `z`: with a NUL, or with the memory. -/
structure Ends (mem : List Byte) (s z : ℕ) : Prop where
  le : s ≤ z
  passed : ∀ j, s ≤ j → j < z → ∃ c, mem[j]? = some c ∧ c ≠ 0
  stop : ∀ c ∈ mem[z]?, c = 0

theorem exists_ends (mem : List Byte) (s : ℕ) : ∃ z, Ends mem s z := by
  refine ⟨seek (fun c => decide (c = 0)) mem s, le_seek, fun j hs hj => ?_, fun c hc => ?_⟩
  · obtain ⟨c, hc, hpass⟩ := seek_passed hs hj
    exact ⟨c, hc, of_decide_eq_false hpass⟩
  · exact of_decide_eq_true (seek_stops hc)

theorem Ends.le_length {mem : List Byte} {s z : ℕ} (h : Ends mem s z) (hs : s ≤ mem.length) :
    z ≤ mem.length := by
  by_contra hz
  obtain ⟨c, hc, -⟩ := h.passed mem.length hs (Nat.not_le.mp hz)
  rw [List.getElem?_eq_none (Nat.le_refl _)] at hc
  exact Option.not_mem_none c hc

/-- The text stops below `n` exactly if there is a NUL below `n`. -/
theorem Ends.lt_iff {mem : List Byte} {z n : ℕ} (h : Ends mem 0 z) (hn : n ≤ mem.length) :
    z < n ↔ ∃ i < n, mem[i]? = some 0 := by
  constructor
  · intro hz
    have hlen : z < mem.length := Nat.lt_of_lt_of_le hz hn
    refine ⟨z, hz, ?_⟩
    rw [List.getElem?_eq_getElem hlen]
    exact congrArg some (h.stop _ (List.getElem?_eq_getElem hlen))
  · rintro ⟨i, hi, hnul⟩
    by_contra hz
    obtain ⟨c, hc, hne⟩ := h.passed i (Nat.zero_le i) (Nat.lt_of_lt_of_le hi (Nat.not_lt.mp hz))
    rw [hnul] at hc
    exact hne (Option.some.inj hc).symm

/-- A call of `strtok_r`: a read past the memory, no token left, or a token whose end was
found, which is a delimiter if there is `more` text. -/
inductive Strtok
  | fault (at_ : ℕ)
  | done (at_ : ℕ)
  | token (start stop : ℕ) (more : Bool)

def strtokR (delim : Byte) (mem : List Byte) (s : ℕ) : Strtok :=
  let start := seek (fun c => decide (c ≠ delim)) mem s
  match mem[start]? with
  | none => .fault start
  | some c =>
    if c = 0 then .done start
    else
      let stop := seek (fun c => decide (c = delim ∨ c = 0)) mem start
      match mem[stop]? with
      | none => .fault stop
      | some c => .token start stop (decide (c ≠ 0))

def readTo (s i : ℕ) : List ℕ := List.range' s (i + 1 - s)

theorem mem_readTo {s i j : ℕ} : j ∈ readTo s i ↔ s ≤ j ∧ j ≤ i := by
  rw [readTo, List.mem_range'_1]
  omega

section Strtok
variable {delim : Byte} {mem : List Byte} {s z : ℕ}

theorem Ends.seek_le (h : Ends mem s z) {stops : Byte → Bool} (hnul : stops 0 = true)
    {from_ : ℕ} (hfrom : from_ ≤ z) : seek stops mem from_ ≤ z := by
  by_contra hlt
  obtain ⟨c, hc, hpass⟩ := seek_passed hfrom (Nat.not_le.mp hlt)
  rw [h.stop c hc, hnul] at hpass
  exact Bool.false_ne_true hpass.symm

theorem Ends.eq_of_stop (h : Ends mem s z) {i : ℕ} (hi : s ≤ i) (hiz : i ≤ z)
    (hstop : ∀ c ∈ mem[i]?, c = 0) : i = z := by
  by_contra hne
  obtain ⟨c, hc, hpass⟩ := h.passed i hi (Nat.lt_of_le_of_ne hiz hne)
  exact hpass (hstop c hc)

theorem Ends.after_token (h : Ends mem s z) {stop : ℕ} (hs : s ≤ stop) (hz : stop < z) :
    Ends (mem.set stop 0) (stop + 1) z where
  le := hz
  passed := fun j hj hjz => by
    rw [List.getElem?_set_ne (Nat.ne_of_lt hj)]
    exact h.passed j (Nat.le_trans hs (Nat.le_of_lt hj)) hjz
  stop := fun c hc => by
    rw [List.getElem?_set_ne (Nat.ne_of_lt hz)] at hc
    exact h.stop c hc

/-- A scan that a NUL stops finds the end of the text, or a byte in front of it. -/
theorem Ends.seek_cases (h : Ends mem s z) (stops : Byte → Bool) (hnul : stops 0 = true)
    {from_ : ℕ} (hs : s ≤ from_) (hz : from_ ≤ z) :
    mem[seek stops mem from_]? = none ∧ seek stops mem from_ = z ∨
      mem[seek stops mem from_]? = some 0 ∧ seek stops mem from_ = z ∨
      ∃ c, mem[seek stops mem from_]? = some c ∧ c ≠ 0 ∧ stops c = true ∧
        seek stops mem from_ < z := by
  have hle := h.seek_le hnul hz
  have hafter : s ≤ seek stops mem from_ := Nat.le_trans hs le_seek
  cases hbyte : mem[seek stops mem from_]? with
  | none =>
    refine Or.inl ⟨rfl, h.eq_of_stop hafter hle fun c hc => ?_⟩
    rw [hbyte] at hc
    exact absurd hc (Option.not_mem_none c)
  | some c =>
    by_cases hc : c = 0
    · subst hc
      refine Or.inr (Or.inl ⟨rfl, h.eq_of_stop hafter hle fun d hd => ?_⟩)
      rw [hbyte] at hd
      exact (Option.some.inj hd).symm
    · refine Or.inr (Or.inr ⟨c, rfl, hc, seek_stops hbyte, Nat.lt_of_le_of_ne hle fun heq => ?_⟩)
      rw [heq] at hbyte
      exact hc (h.stop c hbyte)

/-- What a call finds in a text that ends at `z`. -/
theorem strtokR_cases (hdelim : delim ≠ 0) (h : Ends mem s z) :
    strtokR delim mem s = .fault z ∨ strtokR delim mem s = .done z ∨
      (∃ start, s ≤ start ∧ start < z ∧ strtokR delim mem s = .token start z false) ∨
      ∃ start stop, s ≤ start ∧ start < stop ∧ stop < z ∧
        strtokR delim mem s = .token start stop true := by
  have hs : s ≤ seek (fun c => decide (c ≠ delim)) mem s := le_seek
  rw [strtokR]
  rcases h.seek_cases (fun c => decide (c ≠ delim)) (decide_eq_true hdelim.symm) (Nat.le_refl s)
    h.le with ⟨hbyte, hz⟩ | ⟨hbyte, hz⟩ | ⟨c, hbyte, hc, hother, hstart⟩
  · dsimp only
    rw [hbyte, hz]
    exact Or.inl rfl
  · dsimp only
    rw [hbyte, hz]
    exact Or.inr (Or.inl rfl)
  · dsimp only
    rw [hbyte]
    dsimp only
    rw [if_neg hc]
    generalize seek (fun c => decide (c ≠ delim)) mem s = start at hs hbyte hstart
    have hne : c ≠ delim := of_decide_eq_true hother
    -- The token has a byte, so its end lies behind its start.
    have hafter : start < seek (fun c => decide (c = delim ∨ c = 0)) mem start := by
      refine Nat.lt_of_le_of_ne le_seek fun heq => ?_
      rw [heq] at hbyte
      exact (of_decide_eq_true (seek_stops hbyte)).elim hne hc
    rcases h.seek_cases (fun c => decide (c = delim ∨ c = 0)) (decide_eq_true (Or.inr rfl)) hs
      (Nat.le_of_lt hstart) with ⟨hlast, hz⟩ | ⟨hlast, hz⟩ | ⟨d, hlast, hd, -, hstop⟩
    · rw [hlast, hz]
      exact Or.inl rfl
    · rw [hlast, hz]
      exact Or.inr (Or.inr (Or.inl ⟨start, hs, hstart, rfl⟩))
    · rw [hlast]
      refine Or.inr (Or.inr (Or.inr ⟨start, _, hs, hafter, hstop, ?_⟩))
      dsimp only
      rw [decide_eq_true hd]

end Strtok
end Cedric.CString
