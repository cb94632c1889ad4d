import Mathlib.Data.List.Basic

/-!
# Values derived from a state

A state is kept together with values that are computed from it. An operation
changes the state and computes again only the values it can affect. Operations
that commute on the state then commute with the values too.
-/

namespace Cedric.Derived

variable {σ κ : Type*} {β : κ → Type*}

@[ext]
structure Board (σ : Type*) {κ : Type*} (β : κ → Type*) where
  base : σ
  value : ∀ k, β k

structure Op (σ κ : Type*) where
  act : σ → σ
  touches : κ → Bool

variable (compute : ∀ k, σ → β k)

/-- What the operation does not compute again it does not affect. -/
def Op.Sound (o : Op σ κ) : Prop :=
  ∀ k x, o.touches k = false → compute k (o.act x) = compute k x

def Op.apply (o : Op σ κ) (b : Board σ β) : Board σ β where
  base := o.act b.base
  value k := if o.touches k then compute k (o.act b.base) else b.value k

def run (b : Board σ β) (os : List (Op σ κ)) : Board σ β :=
  os.foldl (fun b o => o.apply compute b) b

def Fresh (k : κ) (b : Board σ β) : Prop := b.value k = compute k b.base

variable {compute} {o p : Op σ κ} {os pre mid post : List (Op σ κ)} {b : Board σ β} {k : κ}

theorem Fresh.apply (ho : o.Sound compute) (h : Fresh compute k b) :
    Fresh compute k (o.apply compute b) := by
  unfold Fresh Op.apply
  dsimp only
  cases htouch : o.touches k with
  | true => exact if_pos rfl
  | false => exact (if_neg Bool.false_ne_true).trans (h.trans (ho k b.base htouch).symm)

theorem Fresh.run (hos : ∀ o ∈ os, o.Sound compute) (h : Fresh compute k b) :
    Fresh compute k (run compute b os) := by
  induction os generalizing b with
  | nil => exact h
  | cons o os ih =>
    obtain ⟨ho, hos⟩ := List.forall_mem_cons.mp hos
    exact ih hos (h.apply ho)

theorem apply_comm (ho : o.Sound compute) (hp : p.Sound compute)
    (hact : ∀ x, o.act (p.act x) = p.act (o.act x)) :
    o.apply compute (p.apply compute b) = p.apply compute (o.apply compute b) := by
  ext k
  · exact hact b.base
  · simp only [Op.apply]
    cases hok : o.touches k with
    | true =>
      cases hpk : p.touches k with
      | true => exact congrArg (compute k) (hact b.base)
      | false =>
        -- `p` came first and its change is computed in, but it affects nothing
        have hsame := hp k (o.act b.base) hpk
        rw [← hact] at hsame
        exact hsame
    | false =>
      cases hpk : p.touches k with
      | true =>
        have hsame := ho k (p.act b.base) hok
        rw [hact] at hsame
        exact hsame.symm
      | false => rfl

theorem run_append (pre post : List (Op σ κ)) :
    run compute b (pre ++ post) = run compute (run compute b pre) post :=
  List.foldl_append

/-- An operation moves past a run of operations it commutes with. -/
theorem run_apply (ho : o.Sound compute) (hos : ∀ p ∈ os, p.Sound compute)
    (hact : ∀ p ∈ os, ∀ x, o.act (p.act x) = p.act (o.act x)) :
    run compute (o.apply compute b) os = o.apply compute (run compute b os) := by
  induction os generalizing b with
  | nil => rfl
  | cons p os ih =>
    obtain ⟨hp, hos⟩ := List.forall_mem_cons.mp hos
    obtain ⟨hcomm, hact⟩ := List.forall_mem_cons.mp hact
    have hfirst : run compute (o.apply compute b) (p :: os) =
        run compute (o.apply compute (p.apply compute b)) os :=
      congrArg (run compute · os) (apply_comm ho hp hcomm).symm
    rw [hfirst, ih hos hact]
    rfl

theorem run_swap (ho : o.Sound compute) (hp : p.Sound compute)
    (hmid : ∀ q ∈ mid, q.Sound compute) (hop : ∀ x, o.act (p.act x) = p.act (o.act x))
    (homid : ∀ q ∈ mid, ∀ x, o.act (q.act x) = q.act (o.act x))
    (hpmid : ∀ q ∈ mid, ∀ x, p.act (q.act x) = q.act (p.act x)) :
    run compute b (pre ++ o :: (mid ++ p :: post)) =
      run compute b (pre ++ p :: (mid ++ o :: post)) := by
  have hmove {o p : Op σ κ} (ho : o.Sound compute)
      (homid : ∀ q ∈ mid, ∀ x, o.act (q.act x) = q.act (o.act x)) :
      run compute b (pre ++ o :: (mid ++ p :: post)) =
        run compute (p.apply compute (o.apply compute (run compute (run compute b pre) mid)))
          post := by
    rw [run_append, ← run_apply ho hmid homid]
    exact run_append (o :: mid) (p :: post)
  rw [hmove ho homid, hmove hp hpmid, apply_comm ho hp hop]

end Cedric.Derived
