import Cedric.Hub.Fusion

/-!
# The start-up of `GeoMagRotationVector`

The counter starts at `MAG_COUNTS` and a sample counts if it differs from the raw
value kept of the one before, which after a reset may be left over, even filtered.
So the first sample may count though nothing changed; the counter is let run out
one sample too far, which makes up for it.
-/

namespace Cedric.Hub.GeoMagRotationVector

variable {F : Type} [FloatOps F]

structure Call (F : Type) where
  fusionData : FusionData F
  reset : Bool

def State.call (st : State F) (c : Call F) : State F × Bool :=
  let r := processFusion st c.fusionData c.reset
  (r.1, r.2.2)

def State.run (st : State F) (calls : List (Call F)) : State F :=
  calls.foldl (fun st c => (st.call c).1) st

def newValue (old m : Fin 3 → F) : Bool :=
  (List.finRange 3).any fun i => FloatOps.ne (old i) (m i)

/-- The magnetometer samples since the last reset, latest first. -/
def magsSinceReset (calls : List (Call F)) : List (Fin 3 → F) :=
  calls.foldl (fun ms c => if c.reset then [] else c.fusionData.mag.vec :: ms) []

def newValues : List (Fin 3 → F) → ℕ
  | m :: old :: ms => newValues (old :: ms) + if newValue old m then 1 else 0
  | _ => 0

/-- While starting up, the counter and the new values make up `MAG_COUNTS` but for one that a
value left over may have given; afterwards the new values do. -/
structure Counts (ms : List (Fin 3 → F)) (st : State F) : Prop where
  counting : st.initialized = false →
    MAG_COUNTS.toNat ≤ st.magCnt.toNat + newValues ms + if ms = [] then 0 else 1
  last : st.initialized = false → ∀ m ∈ ms.head?, st.mRaw = m
  done : st.initialized = true → MAG_COUNTS.toNat ≤ newValues ms

variable {st : State F} {ms : List (Fin 3 → F)}

theorem call_sample (fd : FusionData F) :
    st.call ⟨fd, false⟩ = (st.sample fd.accel.vec fd.mag.vec,
      (st.sample fd.accel.vec fd.mag.vec).initialized) := by
  simp only [State.call, processFusion, fuse, Bool.false_eq_true, ↓reduceIte]
  split_ifs <;> rfl

theorem newValues_le (m : Fin 3 → F) : newValues ms ≤ newValues (m :: ms) := by
  cases ms with
  | nil => exact le_rfl
  | cons old ms => exact Nat.le_add_right _ _

theorem newValue_eq (old m : Fin 3 → F) :
    newValue old m =
      (FloatOps.ne (old 0) (m 0) || FloatOps.ne (old 1) (m 1) || FloatOps.ne (old 2) (m 2)) := by
  rw [Bool.or_assoc, ← Bool.or_false (FloatOps.ne (old 2) (m 2))]
  rfl

theorem newValues_cons {m : Fin 3 → F} {old : Fin 3 → F} (hold : ms.head? = some old)
    (hnew : newValue old m = true) : newValues (m :: ms) = newValues ms + 1 := by
  cases ms with
  | nil => cases hold
  | cons old' ms =>
    cases hold
    rw [newValues, if_pos hnew]

theorem counts_reset : Counts [] st.reset where
  counting _ := le_rfl
  last _ m hm := by cases hm
  done h := by cases h

theorem Counts.sample (h : Counts ms st) (n m : Fin 3 → F) : Counts (m :: ms) (st.sample n m) := by
  cases hinit : st.initialized with
  | true =>
    have hstill : (st.sample n m).initialized = true := by
      simp only [State.sample, hinit, ↓reduceIte]
    have hdone := (h.done hinit).trans (newValues_le m)
    rw [← Bool.not_eq_false] at hstill
    exact ⟨fun hc => absurd hc hstill, fun hc => absurd hc hstill, fun _ => hdone⟩
  | false =>
    have hsample : st.sample n m = if newValue st.mRaw m then
        ⟨decide (st.magCnt = 0), st.magCnt - 1, n, m⟩ else { st with nRaw := n, mRaw := m } := by
      rw [State.sample, hinit, newValue_eq]
      rfl
    have hcount := h.counting hinit
    have hten : MAG_COUNTS.toNat = 10 := rfl
    rw [hsample]
    split_ifs with hnew
    · -- the first sample since the reset uses up the one allowed for, each later one is new
      have hgain : newValues ms + (if ms = [] then 0 else 1) ≤ newValues (m :: ms) := by
        cases ms with
        | nil => exact le_rfl
        | cons old ms =>
          rw [if_neg (List.cons_ne_nil _ _)]
          exact (newValues_cons rfl (h.last hinit old rfl ▸ hnew)).ge
      by_cases hzero : st.magCnt = 0
      · have hnone : st.magCnt.toNat = 0 := by rw [hzero]; rfl
        rw [decide_eq_true hzero]
        refine ⟨fun hc => (by cases hc), fun hc => (by cases hc), fun _ => ?_⟩
        omega
      · have hless : (st.magCnt - 1).toNat + 1 = st.magCnt.toNat := by bv_omega
        rw [decide_eq_false hzero]
        refine ⟨fun _ => ?_, fun _ m' hm' => Option.some.inj hm', fun hc => by cases hc⟩
        rw [if_neg (List.cons_ne_nil _ _)]
        dsimp only
        omega
    · refine ⟨fun _ => ?_, fun _ m' hm' => Option.some.inj hm', fun hc => ?_⟩
      · have hle : newValues ms ≤ newValues (m :: ms) := newValues_le m
        rw [if_neg (List.cons_ne_nil _ _)]
        dsimp only
        split_ifs at hcount <;> omega
      · cases hinit.symm.trans hc

theorem Counts.call (h : Counts ms st) (c : Call F) :
    Counts (if c.reset then [] else c.fusionData.mag.vec :: ms) (st.call c).1 := by
  obtain ⟨fd, reset⟩ := c
  cases reset with
  | true => exact counts_reset
  | false =>
    rw [call_sample]
    exact h.sample _ _

theorem counts_run (calls : List (Call F)) :
    Counts (magsSinceReset calls) (State.start.run calls) := by
  induction calls using List.reverseRecOn with
  | nil => exact ⟨fun _ => le_rfl, fun _ m hm => (by cases hm), fun hc => by cases hc⟩
  | append_singleton calls c ih =>
    rw [magsSinceReset, State.run, List.foldl_append, List.foldl_append]
    exact ih.call c

/-- Whatever calls came before, a call returns `true` only after `MAG_COUNTS - 1` new values of
the magnetometer since the last reset, the value it is given included. -/
theorem startup_newValues (calls : List (Call F)) (c : Call F) :
    ((State.start.run calls).call c).2 = true →
      MAG_COUNTS.toNat - 1 ≤ newValues (magsSinceReset (calls ++ [c])) := by
  intro hready
  obtain ⟨fd, reset⟩ := c
  cases reset with
  | true => cases hready
  | false =>
    have hcounts := counts_run (calls ++ [⟨fd, false⟩])
    have hrun : State.start.run (calls ++ [⟨fd, false⟩]) =
        ((State.start.run calls).call ⟨fd, false⟩).1 := by
      rw [State.run, List.foldl_append]
      rfl
    rw [hrun] at hcounts
    rw [call_sample] at hready hcounts
    have hdone := hcounts.done hready
    omega

def magAt (x : ℚ) : Call ℚ := ⟨{ FusionData.zero with mag := ⟨x, 0, 0, 0⟩ }, false⟩

theorem startup_newValues_eleven :
    ((State.start.run ((List.range 10).map fun i => magAt (i + 1))).call (magAt 11)).2 = true ∧
      9 ≤ newValues (magsSinceReset (((List.range 10).map fun i => magAt (i + 1)) ++ [magAt 11])) :=
  ⟨by decide +kernel, startup_newValues _ _ (by decide +kernel)⟩

end Cedric.Hub.GeoMagRotationVector
