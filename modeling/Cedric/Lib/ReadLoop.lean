import Mathlib.Algebra.GroupWithZero.Nat
import Mathlib.Algebra.Order.BigOperators.Group.List
import Mathlib.Algebra.Order.Group.Nat
import Mathlib.Data.List.TakeWhile

/-!
# The loop `while (room && (ret = read(fd, &buf, n)) != 0) body(buf)`

A call of `read` fills the buffer, reports the end of the data or fails; the
loop test tells only the second case apart, so a failing read runs the body on
the buffer as it was. `processed` lists the buffers the body ran on: it is the
ghost trace of the loop over the state paired with a list, and
`state_eq_foldl` recovers the state from it.

`Metered` describes the bounded case, where room is a cap on a measure and a
record has a cost that does not change along the loop. Its results decide from
the costs alone how far the loop gets.
-/

namespace Cedric.ReadLoop

variable {β σ : Type*}

inductive Reply (β : Type*) where
  | full (record : β)
  | eof
  | error (errno : ℕ)

def Reply.isFull : Reply β → Bool
  | .full _ => true
  | _ => false

/-- The buffer and the state after the loop, and the replies not asked for. -/
structure Result (β σ : Type*) where
  buf : β
  state : σ
  rest : List (Reply β)

/-- Replies beyond the list are the end of the data. -/
def loop (room : σ → Bool) (body : β → σ → σ) : β → σ → List (Reply β) → Result β σ
  | buf, s, [] => ⟨buf, s, []⟩
  | buf, s, r :: rs =>
    if room s then
      match r with
      | .full b => loop room body b (body b s) rs
      | .eof => ⟨buf, s, rs⟩
      | .error _ => loop room body buf (body buf s) rs
    else ⟨buf, s, r :: rs⟩

/-- The same loop over a state that also records every buffer handled. -/
def traced (room : σ → Bool) (body : β → σ → σ) :
    β → σ × List β → List (Reply β) → Result β (σ × List β) :=
  loop (fun p => room p.1) (fun b p => (body b p.1, p.2 ++ [b]))

def processed (room : σ → Bool) (body : β → σ → σ) (buf : β) (s : σ) (rs : List (Reply β)) :
    List β :=
  (traced room body buf (s, []) rs).state.2

section Trace
variable (room : σ → Bool) (body : β → σ → σ)

theorem loop_of_no_room {s : σ} (h : room s = false) (buf : β) (rs : List (Reply β)) :
    loop room body buf s rs = ⟨buf, s, rs⟩ := by
  cases rs with
  | nil => rfl
  | cons r rs => simp [loop, h]

theorem loop_full {s : σ} (h : room s = true) (buf b : β) (rs : List (Reply β)) :
    loop room body buf s (.full b :: rs) = loop room body b (body b s) rs := by
  simp [loop, h]

theorem loop_error {s : σ} (h : room s = true) (buf : β) (e : ℕ) (rs : List (Reply β)) :
    loop room body buf s (.error e :: rs) = loop room body buf (body buf s) rs := by
  simp [loop, h]

theorem traced_eq (buf : β) (s : σ) (tr : List β) (rs : List (Reply β)) :
    (traced room body buf (s, tr) rs).state =
        ((loop room body buf s rs).state, tr ++ processed room body buf s rs) ∧
      (traced room body buf (s, tr) rs).rest = (loop room body buf s rs).rest := by
  rw [processed]
  induction rs generalizing buf s tr with
  | nil => simp [traced, loop]
  | cons r rs ih =>
    unfold traced at ih ⊢
    cases h : room s with
    | false => simp [loop, h]
    | true =>
      cases r with
      | eof => simp [loop, h]
      | full b =>
        simp only [loop, h, ↓reduceIte]
        obtain ⟨hs, hr⟩ := ih b (body b s) (tr ++ [b])
        obtain ⟨hs', -⟩ := ih b (body b s) ([] ++ [b])
        exact ⟨by rw [hs, hs']; simp, hr⟩
      | error e =>
        simp only [loop, h, ↓reduceIte]
        obtain ⟨hs, hr⟩ := ih buf (body buf s) (tr ++ [buf])
        obtain ⟨hs', -⟩ := ih buf (body buf s) ([] ++ [buf])
        exact ⟨by rw [hs, hs']; simp, hr⟩

@[simp] theorem processed_nil (buf : β) (s : σ) : processed room body buf s [] = [] := rfl

theorem processed_of_no_room {s : σ} (h : room s = false) (buf : β) (rs : List (Reply β)) :
    processed room body buf s rs = [] := by
  unfold processed traced
  rw [loop_of_no_room _ _ (by exact h)]

theorem processed_full {s : σ} (h : room s = true) (buf b : β) (rs : List (Reply β)) :
    processed room body buf s (.full b :: rs) = b :: processed room body b (body b s) rs := by
  have he := (traced_eq room body b (body b s) [b] rs).1
  unfold processed traced at *
  rw [loop_full _ _ (by exact h)]
  simpa using congrArg Prod.snd he

theorem processed_error {s : σ} (h : room s = true) (buf : β) (e : ℕ) (rs : List (Reply β)) :
    processed room body buf s (.error e :: rs) =
      buf :: processed room body buf (body buf s) rs := by
  have he := (traced_eq room body buf (body buf s) [buf] rs).1
  unfold processed traced at *
  rw [loop_error _ _ (by exact h)]
  simpa using congrArg Prod.snd he

theorem processed_eof (buf : β) (s : σ) (rs : List (Reply β)) :
    processed room body buf s (.eof :: rs) = [] := by
  cases h : room s with
  | false => exact processed_of_no_room room body h buf _
  | true => simp [processed, traced, loop, h]

theorem state_eq_foldl (buf : β) (s : σ) (rs : List (Reply β)) :
    (loop room body buf s rs).state =
      (processed room body buf s rs).foldl (fun t b => body b t) s := by
  induction rs generalizing buf s with
  | nil => rfl
  | cons r rs ih =>
    cases h : room s with
    | false => rw [loop_of_no_room _ _ h, processed_of_no_room _ _ h]; rfl
    | true =>
      cases r with
      | eof => rw [processed_eof]; simp [loop, h]
      | full b => rw [loop_full _ _ h, processed_full _ _ h, ih]; rfl
      | error e => rw [loop_error _ _ h, processed_error _ _ h, ih]; rfl

theorem loop_invariant {P : σ → Prop} (keeps : ∀ b s, P s → P (body b s)) (buf : β) {s : σ}
    (hs : P s) (rs : List (Reply β)) : P (loop room body buf s rs).state := by
  rw [state_eq_foldl]
  generalize processed room body buf s rs = bs
  induction bs generalizing s with
  | nil => exact hs
  | cons b bs ih => exact ih (keeps b s hs)

theorem buf_eq_getLastD (buf : β) (s : σ) (rs : List (Reply β)) :
    (loop room body buf s rs).buf = (processed room body buf s rs).getLastD buf := by
  induction rs generalizing buf s with
  | nil => rfl
  | cons r rs ih =>
    cases h : room s with
    | false => rw [loop_of_no_room _ _ h, processed_of_no_room _ _ h]; rfl
    | true =>
      cases r with
      | eof => rw [processed_eof]; simp [loop, h]
      | full b => rw [loop_full _ _ h, processed_full _ _ h, ih, List.getLastD_cons]
      | error e => rw [loop_error _ _ h, processed_error _ _ h, ih, List.getLastD_cons]

theorem processed_full_prefix (buf : β) (s : σ) (bs : List β) :
    processed room body buf s (bs.map .full) <+: bs := by
  induction bs generalizing buf s with
  | nil => exact List.nil_prefix
  | cons b bs ih =>
    cases h : room s with
    | false =>
      rw [processed_of_no_room _ _ h]
      exact List.nil_prefix
    | true =>
      rw [List.map_cons, processed_full _ _ h]
      exact (List.prefix_cons_inj b).mpr (ih b _)

theorem rest_length_le (buf : β) (s : σ) (rs : List (Reply β)) :
    (loop room body buf s rs).rest.length ≤ rs.length := by
  induction rs generalizing buf s with
  | nil => exact le_rfl
  | cons r rs ih =>
    cases hroom : room s with
    | false => rw [loop_of_no_room _ _ hroom]
    | true =>
      cases r with
      | eof => simp [loop, hroom]
      | full b =>
        rw [loop_full _ _ hroom]
        exact (ih b _).trans (Nat.le_succ _)
      | error e =>
        rw [loop_error _ _ hroom]
        exact (ih buf _).trans (Nat.le_succ _)

end Trace

/-- The measure a record adds is its cost, wherever the invariant holds, and
there is room exactly below the cap. -/
structure Metered (room : σ → Bool) (body : β → σ → σ) (cap : ℤ) (cost : β → ℕ) where
  measure : σ → ℕ
  Inv : σ → Prop
  room_iff : ∀ s, room s = true ↔ (measure s : ℤ) < cap
  keeps : ∀ b s, Inv s → Inv (body b s)
  charge : ∀ b s, Inv s → measure (body b s) = measure s + cost b

def total (cost : β → ℕ) (bs : List β) : ℕ := (bs.map cost).sum

@[simp] theorem total_nil (cost : β → ℕ) : total cost [] = 0 := rfl

@[simp] theorem total_cons (cost : β → ℕ) (b : β) (bs : List β) :
    total cost (b :: bs) = cost b + total cost bs := by
  simp [total]

theorem le_total_of_mem (cost : β → ℕ) {b : β} {bs : List β} (h : b ∈ bs) :
    cost b ≤ total cost bs :=
  List.single_le_sum (fun _ _ => Nat.zero_le _) _ (List.mem_map_of_mem h)

namespace Metered

variable {room : σ → Bool} {body : β → σ → σ} {cap : ℤ} {cost : β → ℕ}
variable (M : Metered room body cap cost)

theorem room_eq_false {s : σ} (h : cap ≤ (M.measure s : ℤ)) : room s = false :=
  Bool.eq_false_iff.mpr fun hr => absurd ((M.room_iff s).mp hr) (Int.not_lt.mpr h)

theorem foldl_spec {s : σ} (hs : M.Inv s) (bs : List β) :
    M.Inv (bs.foldl (fun t b => body b t) s) ∧
      M.measure (bs.foldl (fun t b => body b t) s) = M.measure s + total cost bs := by
  induction bs generalizing s with
  | nil => exact ⟨hs, rfl⟩
  | cons b bs ih =>
    obtain ⟨hi, hm⟩ := ih (M.keeps b s hs)
    refine ⟨hi, ?_⟩
    rw [List.foldl_cons, hm, M.charge b s hs, total_cons, Nat.add_assoc]

theorem measure_le_loop {s : σ} (hs : M.Inv s) (buf : β) (rs : List (Reply β)) :
    M.measure s ≤ M.measure (loop room body buf s rs).state := by
  rw [state_eq_foldl, (M.foldl_spec hs _).2]
  exact Nat.le_add_right _ _

theorem processed_of_room {s : σ} (hs : M.Inv s) (buf : β) (bs : List β) (rs : List (Reply β))
    (h : ((M.measure s + total cost bs : ℕ) : ℤ) < cap) :
    ∃ buf', processed room body buf s (bs.map .full ++ rs) =
      bs ++ processed room body buf' (bs.foldl (fun t b => body b t) s) rs := by
  induction bs generalizing buf s with
  | nil => exact ⟨buf, rfl⟩
  | cons b bs ih =>
    rw [total_cons] at h
    have hroom : room s = true := (M.room_iff s).mpr (by push_cast at h; omega)
    obtain ⟨buf', he⟩ := ih (M.keeps b s hs) b (by rw [M.charge b s hs]; push_cast at h ⊢; omega)
    refine ⟨buf', ?_⟩
    rw [List.map_cons, List.cons_append, processed_full _ _ hroom, he]
    rfl

theorem processed_of_no_room {s : σ} (hs : M.Inv s) (buf : β) (bs : List β)
    (rs : List (Reply β)) (h : cap ≤ ((M.measure s + total cost bs : ℕ) : ℤ)) :
    processed room body buf s (bs.map .full ++ rs) =
      processed room body buf s (bs.map .full) := by
  induction bs generalizing buf s with
  | nil =>
    have hroom := M.room_eq_false (s := s) (by simpa using h)
    rw [List.map_nil, List.nil_append, processed_nil, ReadLoop.processed_of_no_room _ _ hroom]
  | cons b bs ih =>
    cases hroom : room s with
    | false =>
      rw [ReadLoop.processed_of_no_room _ _ hroom, ReadLoop.processed_of_no_room _ _ hroom]
    | true =>
      rw [List.map_cons, List.cons_append, processed_full _ _ hroom, processed_full _ _ hroom,
        ih (M.keeps b s hs) b]
      rw [M.charge b s hs, Nat.add_assoc]
      simpa using h

theorem loop_full_cases {s : σ} (hs : M.Inv s) (buf : β) (bs : List β) :
    M.measure (loop room body buf s (bs.map .full)).state = M.measure s + total cost bs ∨
      cap ≤ (M.measure (loop room body buf s (bs.map .full)).state : ℤ) := by
  induction bs generalizing buf s with
  | nil => exact Or.inl rfl
  | cons b bs ih =>
    cases hroom : room s with
    | false =>
      right
      rw [loop_of_no_room _ _ hroom]
      by_contra hlt
      rw [(M.room_iff s).mpr (Int.not_le.mp hlt)] at hroom
      cases hroom
    | true =>
      rw [List.map_cons, loop_full _ _ hroom]
      rcases ih (M.keeps b s hs) b with h | h
      · left
        rw [h, M.charge b s hs, total_cons, Nat.add_assoc]
      · exact Or.inr h

/-- The measure stays within `n` unless a record that still finds room costs more
than what is left of `n`. -/
theorem loop_full_le_iff {s : σ} (hs : M.Inv s) (buf : β) (bs : List β) {n : ℕ}
    (hn : M.measure s ≤ n) :
    M.measure (loop room body buf s (bs.map .full)).state ≤ n ↔
      ¬ ∃ pre b post, bs = pre ++ b :: post ∧
        ((M.measure s + total cost pre : ℕ) : ℤ) < cap ∧
        n < M.measure s + total cost pre + cost b := by
  induction bs generalizing buf s with
  | nil => simpa [loop] using hn
  | cons b bs ih =>
    cases hroom : room s with
    | false =>
      rw [loop_of_no_room _ _ hroom]
      refine iff_of_true hn ?_
      intro hex
      obtain ⟨pre, c, post, -, hlt, -⟩ := hex
      have hr := (M.room_iff s).mpr (by push_cast at hlt; omega)
      rw [hroom] at hr
      cases hr
    | true =>
      rw [List.map_cons, loop_full _ _ hroom]
      have hc := M.charge b s hs
      by_cases hle : M.measure s + cost b ≤ n
      · rw [ih (M.keeps b s hs) b (by omega), hc]
        refine not_congr ⟨?_, ?_⟩
        · intro hex
          obtain ⟨pre, c, post, rfl, hlt, hgt⟩ := hex
          refine ⟨b :: pre, c, post, rfl, ?_, ?_⟩
          · rw [total_cons, ← Nat.add_assoc]; exact hlt
          · rw [total_cons, ← Nat.add_assoc]; exact hgt
        · intro hex
          obtain ⟨pre, c, post, he, hlt, hgt⟩ := hex
          cases pre with
          | nil =>
            obtain ⟨rfl, rfl⟩ := List.cons.inj he
            rw [total_nil] at hgt
            omega
          | cons d pre =>
            obtain ⟨rfl, rfl⟩ := List.cons.inj he
            rw [total_cons, ← Nat.add_assoc] at hlt hgt
            exact ⟨pre, c, post, rfl, hlt, hgt⟩
      · refine iff_of_false ?_ (not_not.mpr ?_)
        · have hm := M.measure_le_loop (M.keeps b s hs) b (bs.map .full)
          omega
        · refine ⟨[], b, bs, rfl, ?_, ?_⟩
          · simpa using (M.room_iff s).mp hroom
          · simpa using hle

theorem eq_map_full_append (rs : List (Reply β)) :
    ∃ bs tail, rs = List.map Reply.full bs ++ tail ∧
      rs.takeWhile Reply.isFull = List.map Reply.full bs ∧
      ∀ b post, tail ≠ .full b :: post := by
  induction rs with
  | nil => exact ⟨[], [], rfl, rfl, by simp⟩
  | cons r rs ih =>
    cases r with
    | full b =>
      obtain ⟨bs, tail, he, ht, hne⟩ := ih
      refine ⟨b :: bs, tail, by simp [he], ?_, hne⟩
      rw [List.takeWhile_cons_of_pos rfl, ht, List.map_cons]
    | eof => exact ⟨[], .eof :: rs, rfl, rfl, by simp⟩
    | error e => exact ⟨[], .error e :: rs, rfl, rfl, by simp⟩

theorem full_prefix_eq {bs pre : List β} {tail post : List (Reply β)} {e : ℕ}
    (hne : ∀ b post, tail ≠ .full b :: post)
    (h : List.map Reply.full bs ++ tail = List.map Reply.full pre ++ .error e :: post) :
    bs = pre ∧ tail = .error e :: post := by
  induction bs generalizing pre with
  | nil =>
    cases pre with
    | nil => exact ⟨rfl, h⟩
    | cons p pre => exact absurd h (hne p _)
  | cons b bs ih =>
    cases pre with
    | nil => cases h
    | cons p pre =>
      rw [List.map_cons, List.map_cons, List.cons_append, List.cons_append] at h
      obtain ⟨hb, hrest⟩ := List.cons.inj h
      obtain ⟨rfl, ht⟩ := ih hrest
      exact ⟨by rw [Reply.full.inj hb], ht⟩

/-- The body runs on the records read before the first reply that is not a record
and on nothing else, unless a failing read finds room left. -/
theorem processed_takeWhile_iff {s : σ} (hs : M.Inv s) (buf : β) (rs : List (Reply β)) :
    processed room body buf s rs = processed room body buf s (rs.takeWhile Reply.isFull) ↔
      ¬ ∃ pre e post, rs = List.map Reply.full pre ++ .error e :: post ∧
        ((M.measure s + total cost pre : ℕ) : ℤ) < cap := by
  obtain ⟨bs, tail, rfl, ht, hne⟩ := eq_map_full_append rs
  rw [ht]
  by_cases hcap : ((M.measure s + total cost bs : ℕ) : ℤ) < cap
  · obtain ⟨buf', he⟩ := M.processed_of_room hs buf bs tail hcap
    obtain ⟨buf'', he'⟩ := M.processed_of_room hs buf bs [] hcap
    rw [List.append_nil, processed_nil, List.append_nil] at he'
    rw [he, he']
    cases tail with
    | nil =>
      refine iff_of_true (by simp) ?_
      intro hex
      obtain ⟨pre, e, post, heq, -⟩ := hex
      cases (full_prefix_eq hne heq).2
    | cons r post =>
      cases r with
      | full b => exact absurd rfl (hne b post)
      | eof =>
        refine iff_of_true (by rw [processed_eof, List.append_nil]) ?_
        intro hex
        obtain ⟨pre, e, post', heq, -⟩ := hex
        cases (full_prefix_eq hne heq).2
      | error e =>
        refine iff_of_false ?_ (not_not.mpr ⟨bs, e, post, rfl, hcap⟩)
        have hroom : room (bs.foldl (fun t b => body b t) s) = true :=
          (M.room_iff _).mpr (by rw [(M.foldl_spec hs bs).2]; exact hcap)
        rw [processed_error _ _ hroom]
        simp
  · rw [M.processed_of_no_room hs buf bs tail (Int.not_lt.mp hcap)]
    refine iff_of_true rfl ?_
    intro hex
    obtain ⟨pre, e, post, heq, hlt⟩ := hex
    rw [(full_prefix_eq hne heq).1] at hcap
    exact hcap hlt

/-- The body runs on a prefix of the records read before the first failure, unless a
failing read finds room left. -/
theorem processed_prefix_iff {s : σ} (hs : M.Inv s) (buf : β) (rs : List (Reply β)) :
    (processed room body buf s rs).map Reply.full <+: rs.takeWhile Reply.isFull ↔
      ¬ ∃ pre e post, rs = List.map Reply.full pre ++ .error e :: post ∧
        ((M.measure s + total cost pre : ℕ) : ℤ) < cap := by
  constructor
  · intro hpre hex
    obtain ⟨pre, e, post, rfl, hlt⟩ := hex
    obtain ⟨buf', he⟩ := M.processed_of_room hs buf pre (.error e :: post) hlt
    have hroom : room (pre.foldl (fun t b => body b t) s) = true :=
      (M.room_iff _).mpr (by rw [(M.foldl_spec hs pre).2]; exact hlt)
    have htake : (List.map Reply.full pre ++ .error e :: post).takeWhile Reply.isFull =
        List.map Reply.full pre := by
      rw [List.takeWhile_append_of_pos (by simp [Reply.isFull])]
      simp [Reply.isFull]
    rw [he, processed_error _ _ hroom, htake] at hpre
    have hlen := hpre.length_le
    simp only [List.map_append, List.map_cons, List.length_append, List.length_cons] at hlen
    omega
  · intro hnot
    rw [(M.processed_takeWhile_iff hs buf rs).mpr hnot]
    obtain ⟨bs, tail, -, ht, -⟩ := eq_map_full_append rs
    rw [ht]
    obtain ⟨rest, hrest⟩ := processed_full_prefix room body buf s bs
    exact ⟨rest.map Reply.full, by rw [← List.map_append, hrest]⟩

end Metered
end Cedric.ReadLoop
