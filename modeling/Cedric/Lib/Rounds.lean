import Mathlib.Data.List.Basic
import Mathlib.Data.Int.Basic

/-!
# One round over sources that share a room

The loop `for (i = 0; count && i < n; i++) if (ready(i)) { nb = read(i, count);
if (nb < 0) return; count -= nb; }`. `serve` keeps the room that is left, so a
round over a list of sources is composed of the rounds over its parts.
-/

namespace Cedric.Rounds

variable {σ ε : Type*}

/-- `ready` is what the wait reports of the descriptor; `error` is a negative result. -/
structure Source (σ ε : Type*) where
  ready : σ → Bool
  pending : σ → Bool
  read : ℤ → σ → Except ℤ (List ε) × σ

def Source.within {τ : Type*} (get : τ → σ) (put : σ → τ → τ) (d : Source σ ε) : Source τ ε where
  ready t := d.ready (get t)
  pending t := d.pending (get t)
  read room t := ((d.read room (get t)).1, put (d.read room (get t)).2 t)

/-- `failed` tells that the round ended in a source's error. -/
structure Served (σ ε : Type*) where
  out : List ε
  state : σ
  room : ℤ
  failed : Bool

def Served.andThen (r : Served σ ε) (next : ℤ → σ → Served σ ε) : Served σ ε :=
  if r.failed then r
  else
    let t := next r.room r.state
    { t with out := r.out ++ t.out }

def turn (source : Option (Source σ ε)) (ready : Bool) (room : ℤ) (s : σ) : Served σ ε :=
  if room = 0 then ⟨[], s, room, false⟩
  else
    match source with
    | none => ⟨[], s, room, false⟩
    | some source =>
      if ready || source.pending s then
        match source.read room s with
        | (.error _, s) => ⟨[], s, room, true⟩
        | (.ok es, s) => ⟨es, s, room - es.length, false⟩
      else ⟨[], s, room, false⟩

def serve : List (Option (Source σ ε) × Bool) → ℤ → σ → Served σ ε
  | [], room, s => ⟨[], s, room, false⟩
  | (source, ready) :: rest, room, s => (turn source ready room s).andThen (serve rest)

theorem andThen_empty (s : σ) (room : ℤ) (next : ℤ → σ → Served σ ε) :
    (⟨[], s, room, false⟩ : Served σ ε).andThen next = next room s := rfl

theorem andThen_assoc (r : Served σ ε) (f g : ℤ → σ → Served σ ε) :
    (r.andThen f).andThen g = r.andThen fun room s => (f room s).andThen g := by
  by_cases hr : r.failed
  · simp only [Served.andThen, hr, ↓reduceIte]
  · by_cases hf : (f r.room r.state).failed
    · simp only [Served.andThen, hr, hf, Bool.false_eq_true, ↓reduceIte]
    · simp only [Served.andThen, hr, hf, Bool.false_eq_true, ↓reduceIte, List.append_assoc]

theorem turn_zero (source : Option (Source σ ε)) (ready : Bool) (s : σ) :
    turn source ready 0 s = ⟨[], s, 0, false⟩ := if_pos rfl

theorem serve_zero (fds : List (Option (Source σ ε) × Bool)) (s : σ) :
    serve fds 0 s = ⟨[], s, 0, false⟩ := by
  induction fds with
  | nil => rfl
  | cons p fds ih => exact ih

theorem serve_append (pre post : List (Option (Source σ ε) × Bool)) (room : ℤ) (s : σ) :
    serve (pre ++ post) room s = (serve pre room s).andThen (serve post) := by
  induction pre generalizing room s with
  | nil =>
    simp only [List.nil_append, serve, Served.andThen, Bool.false_eq_true, ↓reduceIte]
  | cons p pre ih =>
    obtain ⟨source, ready⟩ := p
    simp only [List.cons_append, serve]
    rw [andThen_assoc]
    congr 1
    funext room s
    exact ih room s

theorem turn_cases (source : Option (Source σ ε)) (ready : Bool) (room : ℤ) (s : σ) :
    turn source ready room s = ⟨[], s, room, false⟩ ∨
      ∃ d, source = some d ∧ ((∃ err t, d.read room s = (.error err, t) ∧
          turn source ready room s = ⟨[], t, room, true⟩) ∨
        ∃ es t, d.read room s = (.ok es, t) ∧
          turn source ready room s = ⟨es, t, room - es.length, false⟩) := by
  cases source with
  | none =>
    left
    rw [turn]
    split_ifs <;> rfl
  | some d =>
    rw [turn]
    split_ifs with hroom hready
    · exact Or.inl rfl
    · right
      refine ⟨d, rfl, ?_⟩
      rcases hread : d.read room s with ⟨err | es, t⟩
      · exact Or.inl ⟨err, t, rfl, rfl⟩
      · exact Or.inr ⟨es, t, rfl, rfl⟩
    · exact Or.inl rfl

/-- An invariant that every source keeps, and a property of every event a source
hands over while the invariant holds. -/
theorem serve_invariant {P : σ → Prop} {Q : ε → Prop} {fds : List (Option (Source σ ε) × Bool)}
    (reads : ∀ p ∈ fds, ∀ d ∈ p.1, ∀ room s, P s → P (d.read room s).2 ∧
      ∀ es, (d.read room s).1 = .ok es → ∀ e ∈ es, Q e) (room : ℤ) {s : σ} (hs : P s) :
    P (serve fds room s).state ∧ ∀ e ∈ (serve fds room s).out, Q e := by
  induction fds generalizing room s with
  | nil => exact ⟨hs, fun e he => absurd he List.not_mem_nil⟩
  | cons p fds ih =>
    obtain ⟨source, ready⟩ := p
    have hrest := ih fun q hq => reads q (List.mem_cons_of_mem _ hq)
    simp only [serve]
    rcases turn_cases source ready room s with hturn | ⟨d, hd, hturn⟩
    · rw [hturn, Served.andThen]
      exact hrest room hs
    · have hstep := reads (source, ready) List.mem_cons_self d hd room s hs
      rcases hturn with ⟨err, t, hread, hturn⟩ | ⟨es, t, hread, hturn⟩
      · rw [hread] at hstep
        rw [hturn, Served.andThen]
        exact ⟨hstep.1, fun e he => absurd he List.not_mem_nil⟩
      · rw [hread] at hstep
        rw [hturn, Served.andThen]
        simp only [Bool.false_eq_true, ↓reduceIte, List.mem_append]
        refine ⟨(hrest _ hstep.1).1, fun e he => ?_⟩
        rcases he with he | he
        · exact hstep.2 es rfl e he
        · exact (hrest _ hstep.1).2 e he

theorem serve_room_le (fds : List (Option (Source σ ε) × Bool)) (room : ℤ) (s : σ) :
    (serve fds room s).room ≤ room := by
  induction fds generalizing room s with
  | nil => exact Int.le_refl room
  | cons p fds ih =>
    obtain ⟨source, ready⟩ := p
    simp only [serve]
    rcases turn_cases source ready room s with hturn | ⟨d, -, hturn⟩
    · rw [hturn]
      exact ih room s
    · rcases hturn with ⟨err, t, -, hturn⟩ | ⟨es, t, -, hturn⟩
      · rw [hturn]
        exact Int.le_refl room
      · have hless : room - es.length ≤ room := by omega
        rw [hturn]
        exact Int.le_trans (ih _ t) hless

theorem serve_not_failed {fds : List (Option (Source σ ε) × Bool)}
    (reads : ∀ p ∈ fds, ∀ d ∈ p.1, ∀ room s, ∃ es, (d.read room s).1 = .ok es) (room : ℤ) (s : σ) :
    (serve fds room s).failed = false := by
  induction fds generalizing room s with
  | nil => rfl
  | cons p fds ih =>
    obtain ⟨source, ready⟩ := p
    have hrest := ih fun q hq => reads q (List.mem_cons_of_mem _ hq)
    simp only [serve]
    rcases turn_cases source ready room s with hturn | ⟨d, hd, hturn⟩
    · rw [hturn, Served.andThen]
      exact hrest room s
    · obtain ⟨es', hok⟩ := reads (source, ready) List.mem_cons_self d hd room s
      rcases hturn with ⟨err, t, hread, -⟩ | ⟨es, t, hread, hturn⟩
      · rw [hread] at hok
        cases hok
      · rw [hturn, Served.andThen]
        exact hrest _ t

end Cedric.Rounds
