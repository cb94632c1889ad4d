import Mathlib.Data.List.Chain
import Mathlib.Data.List.Infix
import Mathlib.Tactic.SplitIfs

/-!
# Debounced reports of a two-sided value

A history holds samples and reports of a side. A sample is on one side, on the
other or on neither. `Debounced n` asks that the reports alternate and that each
comes after `n` samples on its side which no sample on the other side follows.
`Kept` is the state of a detector that keeps to this: the side announced last,
the side that it now counts samples of, and whether the announcement still waits
to be reported.
-/

namespace Cedric.Debounce

inductive Side
  | near | far
  deriving DecidableEq

def Side.other : Side → Side
  | .near => .far
  | .far => .near

inductive Mark (δ : Type*)
  | sample (d : δ)
  | report (s : Side)
  deriving DecidableEq

variable {δ : Type*}

def reports (h : List (Mark δ)) : List Side := h.filterMap fun
  | .sample _ => none
  | .report s => some s

def samples (h : List (Mark δ)) : List δ := h.filterMap fun
  | .sample d => some d
  | .report _ => none

variable (on : Side → δ → Bool)

/-- A stretch up to now has `n` samples on the side and none on the other. -/
def Evidence (n : ℕ) (s : Side) (h : List (Mark δ)) : Prop :=
  ∃ before stretch, h = before ++ stretch ∧ n ≤ (samples stretch).countP (on s) ∧
    ∀ d ∈ samples stretch, on s.other d = false

structure Debounced (n : ℕ) (h : List (Mark δ)) : Prop where
  alternates : (reports h).IsChain (· ≠ ·)
  confirmed : ∀ past s, past ++ [.report s] <+: h → Evidence on n s past

structure Kept (n : ℕ) (h : List (Mark δ)) (announced candidate : Side) (weight : ℕ)
    (pending : Bool) : Prop extends Debounced on n h where
  last : ∀ s ∈ (reports h).getLast?, s = announced ↔ pending = false
  waits : pending = true → candidate = announced ∧ Evidence on n announced h
  counts : candidate ≠ announced → pending = false ∧ Evidence on weight candidate h

variable {on} {n weight weight' : ℕ} {h : List (Mark δ)} {s announced candidate : Side}
  {pending : Bool} {d : δ}

@[simp] theorem reports_sample : reports (h ++ [.sample d]) = reports h := by
  simp [reports]

@[simp] theorem reports_report : reports (h ++ [.report s]) = reports h ++ [s] := by
  simp [reports]

@[simp] theorem samples_sample : samples (h ++ [.sample d]) = samples h ++ [d] := by
  simp [samples]

@[simp] theorem samples_report : samples (h ++ [.report s]) = samples h := by
  simp [samples]

theorem Evidence.mono (he : Evidence on n s h) {m : ℕ} (hm : m ≤ n) : Evidence on m s h := by
  obtain ⟨before, stretch, heq, hcount, hnone⟩ := he
  exact ⟨before, stretch, heq, hm.trans hcount, hnone⟩

theorem evidence_zero : Evidence on 0 s h :=
  ⟨h, [], (List.append_nil h).symm, Nat.zero_le _, fun _ hd => absurd hd List.not_mem_nil⟩

/-- A sample that is not on the other side keeps the evidence, and adds to it on this side. -/
theorem Evidence.sample (he : Evidence on n s h) (hother : on s.other d = false) :
    Evidence on (if on s d = true then n + 1 else n) s (h ++ [.sample d]) := by
  obtain ⟨before, stretch, rfl, hcount, hnone⟩ := he
  refine ⟨before, stretch ++ [.sample d], List.append_assoc .., ?_, fun d' hd' => ?_⟩
  · rw [samples_sample, List.countP_append, List.countP_singleton]
    split_ifs <;> omega
  · rw [samples_sample, List.mem_append, List.mem_singleton] at hd'
    rcases hd' with hd' | rfl
    · exact hnone d' hd'
    · exact hother

theorem evidence_first (hon : on s d = true) (hother : on s.other d = false) :
    Evidence on 1 s (h ++ [.sample d]) := by
  have hone := evidence_zero (h := h).sample (s := s) hother
  rwa [if_pos hon] at hone

theorem Kept.start (n : ℕ) (s : Side) (weight : ℕ) :
    Kept on n ([] : List (Mark δ)) s s weight false where
  alternates := List.isChain_nil
  confirmed past s' hpre := absurd (List.prefix_nil.mp hpre) (by simp)
  last s' hs := absurd hs (by simp [reports])
  waits hp := absurd hp Bool.false_ne_true
  counts hne := absurd rfl hne

/-- A sample on the side that waits to be reported or on neither; the counted side may change
if nothing waits. -/
theorem Kept.sample {candidate' : Side} (hk : Kept on n h announced candidate weight pending)
    (hquiet : pending = true → candidate' = announced ∧ on announced.other d = false)
    (hcounts : candidate' ≠ announced → Evidence on weight' candidate' (h ++ [.sample d])) :
    Kept on n (h ++ [.sample d]) announced candidate' weight' pending where
  alternates := by
    rw [reports_sample]
    exact hk.alternates
  confirmed past s hpre := by
    rcases List.prefix_concat_iff.mp hpre with heq | hpre
    · cases List.singleton_inj.mp (List.append_inj' heq rfl).2
    · exact hk.confirmed past s hpre
  last s hs := by
    rw [reports_sample] at hs
    exact hk.last s hs
  waits hp := by
    refine ⟨(hquiet hp).1, ?_⟩
    have hkeep := (hk.waits hp).2.sample (hquiet hp).2
    refine hkeep.mono ?_
    split_ifs <;> omega
  counts hne := by
    refine ⟨?_, hcounts hne⟩
    by_contra hp
    exact hne (hquiet (eq_true_of_ne_false hp)).1

theorem Kept.recount {candidate' : Side} (hk : Kept on n h announced candidate weight pending)
    (hquiet : pending = true → candidate' = announced)
    (hcounts : candidate' ≠ announced → Evidence on weight' candidate' h) :
    Kept on n h announced candidate' weight' pending where
  toDebounced := hk.toDebounced
  last := hk.last
  waits hp := ⟨hquiet hp, (hk.waits hp).2⟩
  counts hne := by
    refine ⟨?_, hcounts hne⟩
    by_contra hp
    exact hne (hquiet (eq_true_of_ne_false hp))

theorem Kept.switch (hk : Kept on n h announced candidate weight pending)
    (hne : candidate ≠ announced) (hweight : n ≤ weight) :
    Kept on n h candidate candidate weight true where
  toDebounced := hk.toDebounced
  last s hs := by
    obtain ⟨hquiet, -⟩ := hk.counts hne
    have hlast : s = announced := (hk.last s hs).mpr hquiet
    refine ⟨fun heq => absurd (heq.symm.trans hlast) hne, fun hfalse => ?_⟩
    cases hfalse
  waits _ := ⟨rfl, (hk.counts hne).2.mono hweight⟩
  counts hself := absurd rfl hself

theorem Kept.report (hk : Kept on n h announced candidate weight true) :
    Kept on n (h ++ [.report announced]) announced candidate weight false where
  alternates := by
    rw [reports_report]
    refine List.isChain_append.mpr ⟨hk.alternates, List.isChain_singleton _, fun x hx y hy => ?_⟩
    obtain rfl : announced = y := Option.some.inj hy
    intro heq
    cases (hk.last x hx).mp heq
  confirmed past s hpre := by
    rcases List.prefix_concat_iff.mp hpre with heq | hpre
    · obtain ⟨rfl, hmark⟩ := List.append_inj' heq rfl
      obtain rfl : s = announced := Mark.report.inj (List.singleton_inj.mp hmark)
      exact (hk.waits rfl).2
    · exact hk.confirmed past s hpre
  last s hs := by
    rw [reports_report, List.getLast?_concat] at hs
    exact iff_of_true (Option.some.inj hs).symm rfl
  waits hp := absurd hp Bool.false_ne_true
  counts hne := absurd (hk.waits rfl).1 hne

end Cedric.Debounce
