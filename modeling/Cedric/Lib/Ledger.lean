import Mathlib.Data.List.Infix
import Mathlib.Data.List.Induction

/-!
# Counted resets and their dumps

A ledger lists resets, each with a reason, and dumps, each with its time and the
count it wrote for every reason. `Sound` is what is asked of a ledger and of the
counters not yet dumped. `Kept` adds the time of the last report, 0 before the
first, and the flag that a reset waits to be dumped.
-/

namespace Cedric.Ledger

inductive Entry
  | reset (reason : ℕ)
  | dump (sec : ℤ) (counts : List ℕ)
  deriving DecidableEq

def Entry.dumpTime : Entry → Option ℤ
  | .reset _ => none
  | .dump sec _ => some sec

def dumpTimes (h : List Entry) : List ℤ := h.filterMap Entry.dumpTime

def outstanding (h : List Entry) : ℕ :=
  h.foldl (fun n e => match e with
    | .reset _ => n + 1
    | .dump _ _ => 0) 0

def written (r : ℕ) (h : List Entry) : ℕ :=
  h.foldl (fun n e => match e with
    | .reset _ => n
    | .dump _ counts => n + counts.getD r 0) 0

def seen (r : ℕ) (h : List Entry) : ℕ :=
  h.foldl (fun n e => match e with
    | .reset reason => if reason = r then n + 1 else n
    | .dump _ _ => n) 0

structure Sound (gap : ℤ) (R : ℕ) (h : List Entry) (count : ℕ → ℕ) : Prop where
  apart : (dumpTimes h).Pairwise fun t t' => gap < t' - t
  follows : ∀ past t counts, past ++ [.dump t counts] <+: h → 1 ≤ outstanding past
  counted : ∀ r ≤ R, written r h + count r = seen r h

structure Kept (gap : ℤ) (R : ℕ) (h : List Entry) (count : ℕ → ℕ) (sent : ℤ) (pending : Bool) :
    Prop extends Sound gap R h count where
  times : ∀ t ∈ dumpTimes h, sent ≠ 0 ∧ t ≤ sent
  flag : pending = true → 1 ≤ outstanding h

variable {gap : ℤ} {R : ℕ} {h : List Entry} {count count' : ℕ → ℕ} {sent now : ℤ}
  {pending pending' : Bool}

@[simp] theorem dumpTimes_reset (r : ℕ) : dumpTimes (h ++ [.reset r]) = dumpTimes h := by
  simp [dumpTimes, Entry.dumpTime]

@[simp] theorem dumpTimes_dump (t : ℤ) (c : List ℕ) :
    dumpTimes (h ++ [.dump t c]) = dumpTimes h ++ [t] := by
  simp [dumpTimes, Entry.dumpTime]

@[simp] theorem outstanding_reset (r : ℕ) : outstanding (h ++ [.reset r]) = outstanding h + 1 := by
  simp [outstanding]

@[simp] theorem written_reset (r r' : ℕ) : written r (h ++ [.reset r']) = written r h := by
  simp [written]

@[simp] theorem written_dump (r : ℕ) (t : ℤ) (c : List ℕ) :
    written r (h ++ [.dump t c]) = written r h + c.getD r 0 := by
  simp [written]

@[simp] theorem seen_reset (r r' : ℕ) :
    seen r (h ++ [.reset r']) = if r' = r then seen r h + 1 else seen r h := by
  simp [seen]

@[simp] theorem seen_dump (r : ℕ) (t : ℤ) (c : List ℕ) : seen r (h ++ [.dump t c]) = seen r h := by
  simp [seen]

theorem Kept.start : Kept gap R [] (fun _ => 0) 0 false where
  apart := List.Pairwise.nil
  follows past t counts hpre := absurd (List.prefix_nil.mp hpre) (by simp)
  counted r _ := rfl
  times t ht := absurd ht (by simp [dumpTimes])
  flag hp := absurd hp Bool.false_ne_true

/-- A counted reset; whatever becomes of the flag, the reset is outstanding. -/
theorem Kept.reset (hk : Kept gap R h count sent pending) (pending' : Bool) (r : ℕ)
    (hsame : ∀ r' ≤ R, count' r' = if r = r' then count r' + 1 else count r') :
    Kept gap R (h ++ [.reset r]) count' sent pending' where
  apart := by
    rw [dumpTimes_reset]
    exact hk.apart
  follows past t counts hpre := by
    rcases List.prefix_concat_iff.mp hpre with heq | hpre
    · have hlast := (List.append_inj' heq rfl).2
      cases List.singleton_inj.mp hlast
    · exact hk.follows past t counts hpre
  counted r' hr := by
    have hcount := hk.counted r' hr
    rw [written_reset, seen_reset, hsame r' hr]
    split_ifs <;> omega
  times t ht := by
    rw [dumpTimes_reset] at ht
    exact hk.times t ht
  flag _ := by
    rw [outstanding_reset]
    omega

theorem Kept.old (hk : Kept gap R h count sent pending) (hdue : sent = 0 ∨ gap < now - sent)
    (t : ℤ) (ht : t ∈ dumpTimes h) : gap < now - t := by
  obtain ⟨hsent, hle⟩ := hk.times t ht
  rcases hdue with hzero | hgap
  · exact absurd hzero hsent
  · omega

theorem Kept.dump (hk : Kept gap R h count sent pending) (hgap : 0 ≤ gap)
    (hout : 1 ≤ outstanding h) (hdue : sent = 0 ∨ gap < now - sent) (hnow : now ≠ 0)
    {c : List ℕ} (hc : ∀ r ≤ R, c.getD r 0 = count r) :
    Kept gap R (h ++ [.dump now c]) (fun _ => 0) now false where
  apart := by
    rw [dumpTimes_dump, List.pairwise_append]
    refine ⟨hk.apart, List.pairwise_singleton _ _, fun t ht t' ht' => ?_⟩
    rw [List.mem_singleton.mp ht']
    exact hk.old hdue t ht
  follows past t counts hpre := by
    rcases List.prefix_concat_iff.mp hpre with heq | hpre
    · rw [(List.append_inj' heq rfl).1]
      exact hout
    · exact hk.follows past t counts hpre
  counted r hr := by
    have hcount := hk.counted r hr
    rw [written_dump, seen_dump, hc r hr]
    omega
  times t ht := by
    refine ⟨hnow, ?_⟩
    rw [dumpTimes_dump] at ht
    rcases List.mem_append.mp ht with ht | ht
    · have hold := hk.old hdue t ht
      omega
    · exact Int.le_of_eq (List.mem_singleton.mp ht)
  flag hp := absurd hp Bool.false_ne_true

/-- A report that could not be written only moves the time of the last one. -/
theorem Kept.missed (hk : Kept gap R h count sent pending) (hgap : 0 ≤ gap)
    (hout : 1 ≤ outstanding h) (hdue : sent = 0 ∨ gap < now - sent) (hnow : now ≠ 0) :
    Kept gap R h count now pending' where
  toSound := hk.toSound
  times t ht := by
    have hold := hk.old hdue t ht
    exact ⟨hnow, by omega⟩
  flag _ := hout

end Cedric.Ledger
