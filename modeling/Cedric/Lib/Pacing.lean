import Mathlib.Data.List.Induction

/-!
# Pacing of requests

Requests are granted only `far` enough after the last one granted and after every bar that
comes between. `Latest` is what a limiter has to keep, the time of the last mark that counts;
a limiter that grants whatever it may is `Prompt`, and with a clock that does not go back no
other choice of the same requests grants more.
-/

namespace Cedric.Pacing

variable {τ : Type*}

inductive Mark (τ : Type*)
  | bar (time : τ)
  | request (time : τ) (granted : Bool)

namespace Mark

def time : Mark τ → τ
  | bar time => time
  | request time _ => time

def counts : Mark τ → Bool
  | bar _ => true
  | request _ granted => granted

def granted : Mark τ → Bool
  | bar _ => false
  | request _ granted => granted

def asked : Mark τ → Mark τ
  | bar time => bar time
  | request time _ => request time false

end Mark

def grants (ms : List (Mark τ)) : ℕ := ms.countP Mark.granted

variable (far : τ → τ → Prop)

def Free (past : List (Mark τ)) (t : τ) : Prop := ∀ m ∈ past, m.counts → far m.time t

def Paced (ms : List (Mark τ)) : Prop :=
  ∀ past t rest, ms = past ++ .request t true :: rest → Free far past t

def Prompt (ms : List (Mark τ)) : Prop :=
  ∀ past t granted rest, ms = past ++ .request t granted :: rest →
    (granted = true ↔ Free far past t)

variable {far} {past ms ms' : List (Mark τ)} {t : τ}

theorem Prompt.paced (h : Prompt far ms) : Paced far ms :=
  fun past t rest hsplit => (h past t true rest hsplit).mp rfl

theorem Paced.init {m : Mark τ} (h : Paced far (past ++ [m])) : Paced far past := by
  intro before t rest hsplit
  exact h before t (rest ++ [m]) (by rw [hsplit, List.append_assoc, List.cons_append])

theorem Prompt.init {m : Mark τ} (h : Prompt far (past ++ [m])) : Prompt far past := by
  intro before t granted rest hsplit
  exact h before t granted (rest ++ [m]) (by rw [hsplit, List.append_assoc, List.cons_append])

theorem prompt_nil : Prompt far [] := by
  intro past t granted rest hsplit
  simp at hsplit

theorem Prompt.bar (h : Prompt far past) (t : τ) : Prompt far (past ++ [.bar t]) := by
  intro before t' granted rest hsplit
  obtain rfl | ⟨init, m, rfl⟩ := List.eq_nil_or_concat rest
  · have hlast := List.append_inj_right' hsplit rfl
    simp at hlast
  · rw [List.concat_eq_append, ← List.cons_append, ← List.append_assoc] at hsplit
    exact h before t' granted init (List.append_inj_left' hsplit rfl)

theorem Prompt.request (h : Prompt far past) {granted : Bool}
    (hgranted : granted = true ↔ Free far past t) :
    Prompt far (past ++ [.request t granted]) := by
  intro before t' granted' rest hsplit
  obtain rfl | ⟨init, m, rfl⟩ := List.eq_nil_or_concat rest
  · obtain ⟨rfl, hlast⟩ := List.append_inj' hsplit rfl
    obtain ⟨rfl, rfl⟩ : t = t' ∧ granted = granted' := by simpa using hlast
    exact hgranted
  · rw [List.concat_eq_append, ← List.cons_append, ← List.append_assoc] at hsplit
    exact h before t' granted' init (List.append_inj_left' hsplit rfl)

theorem grants_concat (past : List (Mark τ)) (m : Mark τ) :
    grants (past ++ [m]) = grants past + if m.granted then 1 else 0 := by
  rw [grants, List.countP_append, List.countP_singleton]
  rfl

section Limiter

variable [LE τ] (hrefl : ∀ t : τ, t ≤ t) (hfar : ∀ s s' t, s ≤ s' → far s' t → far s t)

variable (far) in
/-- `last` is the time of the last mark that counts; before there is one, it is far from all
times to come. -/
structure Latest (ahead : τ → Prop) (past : List (Mark τ)) (last : τ) : Prop where
  le : ∀ m ∈ past, m.counts → m.time ≤ last
  attained : (∃ m ∈ past, m.counts ∧ m.time = last) ∨ ∀ t, ahead t → far last t

variable {ahead : τ → Prop} {last : τ}

theorem latest_nil (h : ∀ t, ahead t → far last t) : Latest far ahead [] last :=
  ⟨fun _ hm => absurd hm List.not_mem_nil, Or.inr h⟩

include hfar in
theorem Latest.far_iff (h : Latest far ahead past last) (ht : ahead t) :
    far last t ↔ Free far past t := by
  constructor
  · exact fun hlast m hm hcounts => hfar _ _ _ (h.le m hm hcounts) hlast
  · intro hfree
    obtain ⟨m, hm, hcounts, rfl⟩ | hahead := h.attained
    · exact hfree m hm hcounts
    · exact hahead t ht

include hrefl in
theorem Latest.counted {m : Mark τ} (hclock : ∀ m' ∈ past, m'.time ≤ m.time)
    (hcounts : m.counts) : Latest far ahead (past ++ [m]) m.time := by
  refine ⟨fun m' hm' _ => ?_, Or.inl ⟨m, by simp, hcounts, rfl⟩⟩
  obtain hpast | hm' := List.mem_append.mp hm'
  · exact hclock m' hpast
  · rw [List.mem_singleton.mp hm']
    exact hrefl m.time

theorem Latest.denied (h : Latest far ahead past last) (t : τ) :
    Latest far ahead (past ++ [.request t false]) last := by
  refine ⟨fun m hm hcounts => ?_, h.attained.imp_left fun ⟨m, hm, hlast⟩ => ?_⟩
  · obtain hpast | hm := List.mem_append.mp hm
    · exact h.le m hpast hcounts
    · rw [List.mem_singleton.mp hm] at hcounts
      exact absurd hcounts Bool.false_ne_true
  · exact ⟨m, List.mem_append_left _ hm, hlast⟩

/-- As long as the other choice grants as many, its last mark that counts is no earlier. -/
def Behind (past past' : List (Mark τ)) : Prop :=
  ∀ m ∈ past, m.counts → ∃ m' ∈ past', m'.counts ∧ m.time ≤ m'.time

include hrefl in
theorem behind_counted {m m' : Mark τ} (hclock : ∀ m ∈ past, m.time ≤ m'.time)
    (hm : m.time = m'.time) (hcounts : m'.counts) :
    Behind (past ++ [m]) (ms' ++ [m']) := by
  intro before hbefore _
  refine ⟨m', by simp, hcounts, ?_⟩
  obtain hpast | hbefore := List.mem_append.mp hbefore
  · exact hclock before hpast
  · rw [List.mem_singleton.mp hbefore, hm]
    exact hrefl m'.time

theorem Behind.denied (h : Behind past ms') (t : τ) (m' : Mark τ) :
    Behind (past ++ [.request t false]) (ms' ++ [m']) := by
  intro m hm hcounts
  obtain hpast | hm := List.mem_append.mp hm
  · obtain ⟨m₁, hm₁, hlast⟩ := h m hpast hcounts
    exact ⟨m₁, List.mem_append_left _ hm₁, hlast⟩
  · rw [List.mem_singleton.mp hm] at hcounts
    exact absurd hcounts Bool.false_ne_true

include hfar in
theorem Behind.free (h : Behind past ms') (hfree : Free far ms' t) : Free far past t := by
  intro m hm hcounts
  obtain ⟨m', hm', hcounts', hle⟩ := h m hm hcounts
  exact hfar _ _ _ hle (hfree m' hm' hcounts')

include hrefl hfar in
/-- The prompt choice is ahead in grants, or level and free as early. -/
theorem prompt_ahead (hclock : ms.Pairwise fun m m' => m.time ≤ m'.time) (hprompt : Prompt far ms)
    (hpaced : Paced far ms') (hasked : ms'.map Mark.asked = ms.map Mark.asked) :
    grants ms' ≤ grants ms ∧ (grants ms' = grants ms → Behind ms ms') := by
  induction ms using List.reverseRecOn generalizing ms' with
  | nil =>
    obtain rfl := List.map_eq_nil_iff.mp hasked
    exact ⟨Nat.le_refl _, fun _ m hm => absurd hm List.not_mem_nil⟩
  | append_singleton past m ih =>
    rw [List.map_append, List.map_singleton] at hasked
    obtain ⟨past', last', rfl, hpast', hlast'⟩ := List.map_eq_append_iff.mp hasked
    obtain ⟨m', rfl, hm'⟩ := List.map_eq_singleton_iff.mp hlast'
    obtain ⟨hpast, -, hle⟩ := List.pairwise_append.mp hclock
    have hclock' : ∀ before ∈ past, before.time ≤ m.time :=
      fun before hbefore => hle before hbefore m List.mem_cons_self
    obtain ⟨hcount, hbehind⟩ := ih hpast hprompt.init hpaced.init hpast'
    rw [grants_concat, grants_concat]
    match m, m', hm' with
    | .bar t, .bar _, rfl =>
      exact ⟨by simpa [Mark.granted] using hcount, fun _ => behind_counted hrefl hclock' rfl rfl⟩
    | .request t granted, .request t' granted', hm' =>
      obtain rfl : t' = t := by simpa [Mark.asked] using hm'
      cases granted' with
      | true =>
        refine ⟨?_, fun _ => behind_counted hrefl hclock' rfl rfl⟩
        have hserved := hprompt past t' granted [] rfl
        cases granted with
        | true => exact Nat.add_le_add_right hcount 1
        | false =>
          have hfree := hpaced past' t' [] rfl
          have hne : grants past' ≠ grants past := fun heq =>
            Bool.false_ne_true (hserved.mpr ((hbehind heq).free hfar hfree))
          exact Nat.lt_of_le_of_ne hcount hne
      | false =>
        cases granted with
        | true =>
          have hlt : grants past' < grants past + 1 := Nat.lt_succ_of_le hcount
          exact ⟨Nat.le_of_lt hlt, fun heq => absurd heq (Nat.ne_of_lt hlt)⟩
        | false => exact ⟨hcount, fun heq => (hbehind heq).denied t' _⟩

include hrefl hfar in
theorem prompt_most (hclock : ms.Pairwise fun m m' => m.time ≤ m'.time) (hprompt : Prompt far ms)
    (hpaced : Paced far ms') (hasked : ms'.map Mark.asked = ms.map Mark.asked) :
    grants ms' ≤ grants ms := (prompt_ahead hrefl hfar hclock hprompt hpaced hasked).1

end Limiter
end Cedric.Pacing
