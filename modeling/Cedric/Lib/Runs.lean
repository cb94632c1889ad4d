import Mathlib.Data.List.Induction

/-!
# Runs of a deterministic step function

A run folds a step function over a list of inputs. `history_induction` carries
an invariant that also reads the inputs already taken. `Along` states a
property of every input at the state in which it is taken, and `along_congr`
exchanges two such properties under an invariant; `along_ghost` adds a value
that only records the past. `transduce` runs a step that
also emits outputs; `transduce_related` is its two-run rule.
-/

namespace Cedric.Runs

variable {σ τ ι ο : Type*}

theorem history_induction {step : σ → ι → σ} {P : List ι → σ → Prop} {s : σ}
    (start : P [] s) (closed : ∀ past i t, P past t → P (past ++ [i]) (step t i))
    (is : List ι) : P is (is.foldl step s) := by
  induction is using List.reverseRecOn with
  | nil => exact start
  | append_singleton past i ih =>
    rw [List.foldl_append]
    exact closed past i _ ih

/-- `P` holds of every input of the run, at the state that takes it. -/
def Along (step : σ → ι → σ) (P : σ → ι → Prop) : σ → List ι → Prop
  | _, [] => True
  | s, i :: is => P s i ∧ Along step P (step s i) is

instance Along.decidable {step : σ → ι → σ} {P : σ → ι → Prop} [∀ s i, Decidable (P s i)] :
    ∀ s is, Decidable (Along step P s is)
  | _, [] => inferInstanceAs (Decidable True)
  | s, i :: is =>
    have : Decidable (Along step P (step s i) is) := Along.decidable (step s i) is
    inferInstanceAs (Decidable (P s i ∧ Along step P (step s i) is))

theorem along_append {step : σ → ι → σ} {P : σ → ι → Prop} (s : σ) (is js : List ι) :
    Along step P s (is ++ js) ↔ Along step P s is ∧ Along step P (is.foldl step s) js := by
  induction is generalizing s with
  | nil => exact (iff_of_eq (true_and _)).symm
  | cons i is ih =>
    simp only [List.cons_append, Along, and_assoc]
    rw [ih]
    rfl

theorem along_iff_split {step : σ → ι → σ} {P : σ → ι → Prop} (s : σ) (is : List ι) :
    Along step P s is ↔ ∀ past i rest, is = past ++ i :: rest → P (past.foldl step s) i := by
  induction is generalizing s with
  | nil => exact iff_of_true trivial fun past i rest h => absurd h.symm (by simp)
  | cons i is ih =>
    simp only [Along]
    rw [ih]
    constructor
    · intro h past j rest hsplit
      cases past with
      | nil =>
        rw [← (List.cons.inj hsplit).1]
        exact h.1
      | cons k past =>
        obtain ⟨hk, hrest⟩ := List.cons.inj hsplit
        rw [List.foldl_cons, ← hk]
        exact h.2 past j rest hrest
    · intro h
      exact ⟨h [] i is rfl, fun past j rest hsplit => h (i :: past) j rest (by rw [hsplit]; rfl)⟩

/-- Two properties that agree wherever the invariant holds, the first of which
keeps the invariant, hold along the same runs. -/
theorem along_congr {step : σ → ι → σ} {P Q : σ → ι → Prop} (Inv : σ → Prop)
    (agree : ∀ s i, Inv s → (P s i ↔ Q s i)) (keeps : ∀ s i, Inv s → P s i → Inv (step s i))
    {s : σ} (hs : Inv s) (is : List ι) : Along step P s is ↔ Along step Q s is := by
  induction is generalizing s with
  | nil => exact Iff.rfl
  | cons i is ih =>
    simp only [Along]
    constructor
    · intro h
      obtain ⟨hi, hrest⟩ := h
      exact ⟨(agree s i hs).mp hi, (ih (keeps s i hs hi)).mp hrest⟩
    · intro h
      obtain ⟨hi, hrest⟩ := h
      have hp := (agree s i hs).mpr hi
      exact ⟨hp, (ih (keeps s i hs hp)).mpr hrest⟩

/-- Two properties that agree on the inputs of a kind hold along the same runs of such
inputs. -/
theorem along_congr_on {step : σ → ι → σ} {P Q W : σ → ι → Prop} (Inv : σ → Prop)
    (keeps : ∀ s i, Inv s → W s i → Inv (step s i))
    (agree : ∀ s i, Inv s → W s i → (P s i ↔ Q s i)) {s : σ} (hs : Inv s) (is : List ι)
    (hw : Along step W s is) : Along step P s is ↔ Along step Q s is := by
  induction is generalizing s with
  | nil => exact Iff.rfl
  | cons i is ih =>
    obtain ⟨hi, hrest⟩ := hw
    exact and_congr (agree s i hs hi) (ih (keeps s i hs hi) hrest)

/-- A property that carries an invariant from step to step gives what follows from
it under the invariant. -/
theorem along_mono {step : σ → ι → σ} {P Q : σ → ι → Prop} (Inv : σ → Prop)
    (keeps : ∀ s i, Inv s → P s i → Inv (step s i)) (gives : ∀ s i, Inv s → P s i → Q s i)
    {s : σ} (hs : Inv s) (is : List ι) (h : Along step P s is) : Along step Q s is := by
  induction is generalizing s with
  | nil => trivial
  | cons i is ih =>
    obtain ⟨hi, hrest⟩ := h
    exact ⟨gives s i hs hi, ih (keeps s i hs hi) hrest⟩

theorem along_of_mem {step : σ → ι → σ} {C : ι → Prop} (s : σ) {is : List ι} (h : ∀ i ∈ is, C i) :
    Along step (fun _ i => C i) s is := by
  induction is generalizing s with
  | nil => trivial
  | cons i is ih =>
    exact ⟨h i List.mem_cons_self, ih _ fun j hj => h j (List.mem_cons_of_mem i hj)⟩

theorem Along.and_mem {step : σ → ι → σ} {P : σ → ι → Prop} {C : ι → Prop} {s : σ} {is : List ι}
    (h : Along step P s is) (hc : ∀ i ∈ is, C i) : Along step (fun s i => P s i ∧ C i) s is := by
  induction is generalizing s with
  | nil => trivial
  | cons i is ih =>
    obtain ⟨hi, hrest⟩ := h
    exact ⟨⟨hi, hc i List.mem_cons_self⟩, ih hrest fun j hj => hc j (List.mem_cons_of_mem i hj)⟩

theorem along_and {step : σ → ι → σ} {P Q : σ → ι → Prop} (s : σ) (is : List ι) :
    Along step (fun s i => P s i ∧ Q s i) s is ↔ Along step P s is ∧ Along step Q s is := by
  induction is generalizing s with
  | nil => exact (and_self_iff (a := True)).symm
  | cons i is ih =>
    simp only [Along]
    rw [ih, and_and_and_comm]

/-- A ghost value carried beside the state does not change the run. -/
theorem along_ghost {step : σ → ι → σ} (ghost : σ → τ → ι → τ) {P : σ → ι → Prop} (s : σ) (g : τ)
    (is : List ι) :
    Along (fun p i => (step p.1 i, ghost p.1 p.2 i)) (fun p i => P p.1 i) (s, g) is ↔
      Along step P s is := by
  induction is generalizing s g with
  | nil => exact Iff.rfl
  | cons i is ih =>
    simp only [Along]
    rw [ih]

def transduce (step : σ → ι → σ × List ο) : σ → List ι → σ × List ο
  | s, [] => (s, [])
  | s, i :: is =>
    let r := step s i
    let t := transduce step r.1 is
    (t.1, r.2 ++ t.2)

theorem transduce_fst (step : σ → ι → σ × List ο) (s : σ) (is : List ι) :
    (transduce step s is).1 = is.foldl (fun t i => (step t i).1) s := by
  induction is generalizing s with
  | nil => rfl
  | cons i is ih => exact ih _

theorem transduce_append (step : σ → ι → σ × List ο) (s : σ) (is js : List ι) :
    transduce step s (is ++ js) =
      ((transduce step (transduce step s is).1 js).1,
        (transduce step s is).2 ++ (transduce step (transduce step s is).1 js).2) := by
  induction is generalizing s with
  | nil => rfl
  | cons i is ih => simp only [List.cons_append, transduce, ih, List.append_assoc]

theorem transduce_nil_iff {step : σ → ι → σ × List ο} {yields : ι → Prop}
    (h : ∀ s i, (step s i).2 = [] ↔ ¬ yields i) (s : σ) (is : List ι) :
    (transduce step s is).2 = [] ↔ ∀ i ∈ is, ¬ yields i := by
  induction is generalizing s with
  | nil => exact iff_of_true rfl fun i hi => absurd hi List.not_mem_nil
  | cons i is ih =>
    simp only [transduce, List.append_eq_nil_iff, List.forall_mem_cons, h, ih]

/-- Two runs whose states stay related and whose steps emit the same selected
outputs emit the same selected outputs in all. -/
theorem transduce_related {step : σ → ι → σ × List ο} {step' : τ → ι → τ × List ο}
    {R : σ → τ → Prop} {sel : ο → Bool}
    (sim : ∀ s t i, R s t →
      R (step s i).1 (step' t i).1 ∧ (step s i).2.filter sel = (step' t i).2.filter sel)
    {s : σ} {t : τ} (h : R s t) (is : List ι) :
    (transduce step s is).2.filter sel = (transduce step' t is).2.filter sel := by
  induction is generalizing s t with
  | nil => rfl
  | cons i is ih =>
    obtain ⟨hr, ho⟩ := sim s t i h
    simp only [transduce, List.filter_append, ho, ih hr]

end Cedric.Runs
