import Mathlib.Order.Defs.Unbundled
import Mathlib.Tactic.SplitIfs

/-!
# Calls that may throw

A call on an object changes its state and returns a value, or throws on the way and
keeps what it had done by then. `Moves` relates the states before and after by a preorder,
however the call ends; `Keeps`, for a part of the state that stays the same, is the frame
rule. `Returns` is the rule for calls that do not throw.
-/

namespace Cedric.Calls

variable {σ τ α β : Type}

/-- `none` is a call that threw. -/
def Call (σ α : Type) := σ → σ × Option α

namespace Call

def bind (m : Call σ α) (f : α → Call σ β) : Call σ β := fun s =>
  match (m s).2 with
  | some a => f a (m s).1
  | none => ((m s).1, none)

instance : Monad (Call σ) where
  pure a := fun s => (s, some a)
  bind := Call.bind

/-- A reference that is followed; `none` is the null reference. -/
def deref (reference : Option α) : Call σ α := fun s => (s, reference)

def get (f : σ → α) : Call σ α := fun s => (s, some (f s))

def update (f : σ → σ) : Call σ Unit := fun s => (f s, some ())

def within (part : σ → τ) (put : τ → σ → σ) (m : Call τ α) : Call σ α := fun s =>
  (put (m (part s)).1 s, (m (part s)).2)

variable (s : σ)

@[simp] theorem pure_apply (a : α) : (pure a : Call σ α) s = (s, some a) := rfl

@[simp] theorem deref_apply (reference : Option α) :
    (deref reference : Call σ α) s = (s, reference) := rfl

@[simp] theorem get_apply (f : σ → α) : get f s = (s, some (f s)) := rfl

@[simp] theorem update_apply (f : σ → σ) : update f s = (f s, some ()) := rfl

variable {s}

theorem within_returned {part : σ → τ} {put : τ → σ → σ} {m : Call τ α} {a : α}
    (h : (m (part s)).2 = some a) (k : α → Call σ β) :
    (within part put m >>= k) s = k a (put (m (part s)).1 s) := by
  change Call.bind _ _ _ = _
  simp only [Call.bind, within, h]

theorem bind_returned {m : Call σ α} {a : α} (h : (m s).2 = some a) (f : α → Call σ β) :
    (m >>= f) s = f a (m s).1 := by
  change Call.bind m f s = _
  simp only [Call.bind, h]

theorem bind_threw {m : Call σ α} (h : (m s).2 = none) (f : α → Call σ β) :
    (m >>= f) s = ((m s).1, none) := by
  change Call.bind m f s = _
  simp only [Call.bind, h]

theorem bind_pure_self (m : Call σ α) : (m >>= fun a => pure (id a)) = m := by
  funext s
  cases ha : (m s).2 with
  | none => exact (bind_threw ha _).trans (Prod.ext rfl ha.symm)
  | some a => exact (bind_returned ha _).trans (Prod.ext rfl ha.symm)

theorem bind_then {γ : Type} (m : Call σ α) (f : α → Call σ β) (g : β → Call σ γ) :
    (m >>= f >>= g) = m >>= fun a => f a >>= g := by
  funext s
  cases ha : (m s).2 with
  | none =>
    have hleft : ((m >>= f) s).2 = none := by rw [bind_threw ha]
    rw [bind_threw hleft, bind_threw ha, bind_threw ha]
  | some a =>
    rw [bind_returned ha]
    cases hb : (f a (m s).1).2 with
    | none =>
      have hleft : ((m >>= f) s).2 = none := by rw [bind_returned ha, hb]
      rw [bind_threw hleft, bind_threw hb, bind_returned ha]
    | some b =>
      have hleft : ((m >>= f) s).2 = some b := by rw [bind_returned ha, hb]
      rw [bind_returned hleft, bind_returned hb, bind_returned ha]

instance : LawfulMonad (Call σ) := LawfulMonad.mk' _ bind_pure_self (fun _ _ => rfl) bind_then

@[simp] theorem update_bind (f : σ → σ) (k : Unit → Call σ β) :
    (update f >>= k) s = k () (f s) := rfl

@[simp] theorem get_bind (f : σ → α) (k : α → Call σ β) : (get f >>= k) s = k (f s) s := rfl

@[simp] theorem deref_some_bind (a : α) (k : α → Call σ β) :
    (deref (some a) >>= k) s = k a s := rfl

@[simp] theorem deref_none_bind (k : α → Call σ β) :
    (deref none >>= k) s = (s, none) := rfl

/-- What is returned after `m` is `b`, if anything is. -/
theorem bind_pure_returns {m : Call σ α} {b c : β}
    (h : ((m >>= fun _ => pure b) s).2 = some c) : c = b := by
  cases ha : (m s).2 with
  | none =>
    rw [bind_threw ha] at h
    cases h
  | some a =>
    rw [bind_returned ha] at h
    exact (Option.some.inj h).symm

theorem bind_pure_state (m : Call σ α) (b : β) (s : σ) :
    ((m >>= fun _ => pure b) s).1 = (m s).1 := by
  cases ha : (m s).2 with
  | none => rw [bind_threw ha]
  | some a => rw [bind_returned ha, pure_apply]

/-- The state after the call, thrown or not, is one that `R` allows. -/
def Moves (R : σ → σ → Prop) (m : Call σ α) : Prop := ∀ s, R s (m s).1

section Moves

variable {R : σ → σ → Prop}

theorem moves_update {f : σ → σ} (h : ∀ s, R s (f s)) : Moves R (update f) := h

theorem Moves.ite {c : Prop} [Decidable c] {m n : Call σ α} (hm : Moves R m)
    (hn : Moves R n) : Moves R (if c then m else n) := by
  split_ifs
  · exact hm
  · exact hn

theorem moves_pure (hR : IsPreorder σ R) (a : α) : Moves R (pure a : Call σ α) := fun s => hR.refl s

theorem moves_deref (hR : IsPreorder σ R) (reference : Option α) :
    Moves R (deref reference : Call σ α) := fun s => hR.refl s

theorem moves_get (hR : IsPreorder σ R) (f : σ → α) : Moves R (get f) := fun s => hR.refl s

theorem Moves.comp {S T : σ → σ → Prop} {m : Call σ α} {f : α → Call σ β} (hm : Moves R m)
    (hf : ∀ a, Moves S (f a)) (first : ∀ {s t}, R s t → T s t)
    (both : ∀ {s t u}, R s t → S t u → T s u) : Moves T (m >>= f) := by
  intro s
  cases ha : (m s).2 with
  | none =>
    rw [bind_threw ha]
    exact first (hm s)
  | some a =>
    rw [bind_returned ha]
    exact both (hm s) (hf a _)

theorem Moves.bind (hR : IsPreorder σ R) {m : Call σ α} {f : α → Call σ β} (hm : Moves R m)
    (hf : ∀ a, Moves R (f a)) : Moves R (m >>= f) :=
  hm.comp hf id (hR.trans _ _ _)

end Moves

/-- A part of the state is the same after the call, thrown or not. -/
def Keeps (part : σ → τ) (m : Call σ α) : Prop := ∀ s, part (m s).1 = part s

theorem isPreorder_keeps (part : σ → τ) : IsPreorder σ fun s t => part t = part s where
  refl _ := rfl
  trans _ _ _ hst htu := htu.trans hst

variable {part : σ → τ}

theorem keeps_pure (a : α) : Keeps part (pure a : Call σ α) := fun _ => rfl

theorem keeps_deref (reference : Option α) : Keeps part (deref reference : Call σ α) := fun _ => rfl

theorem keeps_get (f : σ → α) : Keeps part (get f) := fun _ => rfl

theorem keeps_update {f : σ → σ} (h : ∀ s, part (f s) = part s) : Keeps part (update f) := h

theorem Keeps.bind {m : Call σ α} {f : α → Call σ β} (hm : Keeps part m)
    (hf : ∀ a, Keeps part (f a)) : Keeps part (m >>= f) :=
  Moves.bind (isPreorder_keeps part) hm hf

theorem Keeps.ite {c : Prop} [Decidable c] {m n : Call σ α} (hm : Keeps part m)
    (hn : Keeps part n) : Keeps part (if c then m else n) :=
  Moves.ite (R := fun s t => part t = part s) hm hn

def Returns (m : Call σ α) (s : σ) : Prop := (m s).2 ≠ none

section Returns

variable {m n : Call σ α} {f : α → Call σ β}

theorem returns_pure (a : α) : Returns (pure a) s := Option.some_ne_none a

theorem returns_update (g : σ → σ) : Returns (update g) s := Option.some_ne_none ()

theorem returns_bind_iff :
    Returns (m >>= f) s ↔ ∃ a, (m s).2 = some a ∧ Returns (f a) (m s).1 := by
  cases ha : (m s).2 with
  | none =>
    rw [Returns, bind_threw ha]
    exact iff_of_false (fun h => h rfl) nofun
  | some a =>
    rw [Returns, bind_returned ha]
    exact ⟨fun h => ⟨a, rfl, h⟩, fun ⟨b, hb, h⟩ => Option.some.inj hb ▸ h⟩

theorem returns_unit_bind_iff {m : Call σ Unit} {k : Unit → Call σ β} :
    Returns (m >>= k) s ↔ Returns m s ∧ Returns (k ()) (m s).1 := by
  rw [returns_bind_iff]
  exact ⟨fun ⟨_, ha, h⟩ => ⟨Option.ne_none_iff_exists'.mpr ⟨_, ha⟩, h⟩, fun ⟨hm, h⟩ =>
    (Option.ne_none_iff_exists'.mp hm).imp fun _ ha => ⟨ha, h⟩⟩

theorem returns_deref_bind_iff {reference : Option α} :
    Returns (deref reference >>= f) s ↔ ∃ a, reference = some a ∧ Returns (f a) s :=
  returns_bind_iff

theorem Returns.bind (hm : Returns m s) (hf : ∀ a, Returns (f a) (m s).1) :
    Returns (m >>= f) s := by
  obtain ⟨a, ha⟩ := Option.ne_none_iff_exists'.mp hm
  exact returns_bind_iff.mpr ⟨a, ha, hf a⟩

theorem Returns.ite {c : Prop} [Decidable c] (hm : Returns m s) (hn : Returns n s) :
    Returns (if c then m else n) s := by
  split_ifs
  · exact hm
  · exact hn

end Returns

/-- A call that returns adds exactly `l` to the log. -/
def Appends (log : σ → List τ) (l : List τ) (m : Call σ α) : Prop :=
  ∀ s, Returns m s → log (m s).1 = log s ++ l

section Appends

variable {log : σ → List τ} {l l' : List τ} {m : Call σ α} {f : α → Call σ β}

theorem Keeps.appends (h : Keeps log m) : Appends log [] m := fun s _ =>
  (h s).trans (List.append_nil _).symm

theorem Appends.bind (hm : Appends log l m) (hf : ∀ a, Appends log l' (f a)) :
    Appends log (l ++ l') (m >>= f) := by
  intro s h
  obtain ⟨a, ha, hreturns⟩ := returns_bind_iff.mp h
  have hfirst : Returns m s := Option.ne_none_iff_exists'.mpr ⟨a, ha⟩
  rw [bind_returned ha, hf a _ hreturns, hm s hfirst, List.append_assoc]

theorem Appends.keeps_bind (hm : Keeps log m) (hf : ∀ a, Appends log l (f a)) :
    Appends log l (m >>= f) := hm.appends.bind hf

theorem Appends.deref_bind {reference : Option α} (hf : ∀ a, reference = some a → Appends log l (f a)) :
    Appends log l (deref reference >>= f) := by
  intro s h
  obtain ⟨a, ha, hreturns⟩ := returns_deref_bind_iff.mp h
  subst ha
  exact hf a rfl s hreturns

theorem Appends.ite {c : Prop} [Decidable c] {n : Call σ α} (hm : Appends log l m)
    (hn : Appends log l n) : Appends log l (if c then m else n) := by
  split_ifs
  · exact hm
  · exact hn

end Appends

end Call
end Cedric.Calls
