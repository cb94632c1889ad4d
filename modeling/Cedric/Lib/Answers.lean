import Mathlib.Data.List.Basic

/-!
# Calls answered one after the other

An environment answers each call from the calls and answers before it. A program
whose calls are known in advance gets the list `ask` of them with their answers;
its log then grows by that list, latest first.
-/

namespace Cedric.Answers

variable {C R : Type}

def ask (K : List (C × R) → C → R) : List (C × R) → List C → List (C × R)
  | _, [] => []
  | log, c :: cs => (c, K log c) :: ask K ((c, K log c) :: log) cs

def reply [Zero R] (answers : List (C × R)) : R := (answers.getLast?.map Prod.snd).getD 0

def logs (K : List (C × R) → C → R) : List (C × R) → List C → List (List (C × R))
  | _, [] => []
  | log, c :: cs => ((c, K log c) :: log) :: logs K ((c, K log c) :: log) cs

def Asked (K : List (C × R) → C → R) (log : List (C × R)) (calls : List C)
    (log' : List (C × R)) : Prop :=
  log' = (ask K log calls).reverse ++ log

variable {K : List (C × R) → C → R} {log log' log'' : List (C × R)} {cs ds : List C}

theorem ask_append (log : List (C × R)) (cs ds : List C) :
    ask K log (cs ++ ds) = ask K log cs ++ ask K ((ask K log cs).reverse ++ log) ds := by
  induction cs generalizing log with
  | nil => rfl
  | cons c cs ih => simp [ask, ih]

theorem mem_of_mem_ask {e : C × R} (h : e ∈ ask K log cs) : e.1 ∈ cs := by
  induction cs generalizing log with
  | nil => exact absurd h List.not_mem_nil
  | cons c cs ih =>
    rcases List.mem_cons.mp h with rfl | h
    · exact List.mem_cons_self ..
    · exact List.mem_cons_of_mem _ (ih h)

@[simp] theorem reply_nil [Zero R] : reply ([] : List (C × R)) = 0 := rfl

@[simp] theorem reply_singleton [Zero R] (e : C × R) : reply [e] = e.2 := rfl

theorem answer_of_mem_ask {e : C × R} (h : e ∈ ask K log cs) : ∃ before, e.2 = K before e.1 := by
  induction cs generalizing log with
  | nil => exact absurd h List.not_mem_nil
  | cons c cs ih =>
    rcases List.mem_cons.mp h with rfl | h
    · exact ⟨log, rfl⟩
    · exact ih h

theorem Asked.trans (h : Asked K log cs log') (h' : Asked K log' ds log'') :
    Asked K log (cs ++ ds) log'' := by
  unfold Asked at *
  rw [ask_append, List.reverse_append, List.append_assoc, ← h]
  exact h'

theorem logs_append (log : List (C × R)) (cs ds : List C) :
    logs K log (cs ++ ds) = logs K log cs ++ logs K ((ask K log cs).reverse ++ log) ds := by
  induction cs generalizing log with
  | nil => rfl
  | cons c cs ih => simp [logs, ask, ih]

/-- Between `log` and `log'` the log went through those after each call. -/
theorem Asked.mem_logs_iff (h : Asked K log cs log') (l : List (C × R)) :
    l ∈ logs K log cs ↔ l <:+ log' ∧ log.length < l.length := by
  induction cs generalizing log with
  | nil =>
    obtain rfl : log' = log := h
    exact iff_of_false List.not_mem_nil fun ⟨hl, hlt⟩ => Nat.not_lt.mpr hl.length_le hlt
  | cons c cs ih =>
    have hask : Asked K ((c, K log c) :: log) cs log' := by
      rw [Asked, h, ask, List.reverse_cons, List.append_assoc]
      rfl
    have hsuffix : (c, K log c) :: log <:+ log' := hask ▸ List.suffix_append _ _
    rw [logs, List.mem_cons, ih hask, List.length_cons]
    constructor
    · rintro (rfl | ⟨hl, hlt⟩)
      · exact ⟨hsuffix, Nat.lt_succ_self _⟩
      · exact ⟨hl, Nat.lt_of_succ_lt hlt⟩
    · rintro ⟨hl, hlt⟩
      rcases Nat.eq_or_lt_of_le (Nat.succ_le_of_lt hlt) with heq | hlt'
      · refine .inl ?_
        exact (List.suffix_of_suffix_length_le hl hsuffix (Nat.le_of_eq heq.symm)).eq_of_length heq.symm
      · exact .inr ⟨hl, hlt'⟩

end Cedric.Answers
