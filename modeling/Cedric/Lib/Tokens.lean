import Cedric.Lib.CString

/-!
# The tokens of a text

`tokens` are the non-empty fields of a text between its delimiters. `strtok_r` finds
them in memory, one in each call, with the text behind the token left for the next.
-/

namespace Cedric.CString

def tokens (delim : Byte) (text : List Byte) : List (List Byte) :=
  (text.splitOn delim).filter fun field => decide (field ≠ [])

section Fields
variable {delim : Byte} {field skip text : List Byte}

theorem tokens_nil : tokens delim [] = [] := by
  simp [tokens]

theorem tokens_delim : tokens delim (delim :: text) = tokens delim text := by
  have hsplit : (delim :: text).splitOn delim = [] :: text.splitOn delim :=
    List.splitOn_append_cons_self_of_not_mem List.not_mem_nil text
  simp [tokens, hsplit]

theorem tokens_skip (h : ∀ c ∈ skip, c = delim) :
    tokens delim (skip ++ text) = tokens delim text := by
  induction skip with
  | nil => rfl
  | cons c skip ih =>
    obtain ⟨rfl, hrest⟩ := List.forall_mem_cons.mp h
    exact tokens_delim.trans (ih hrest)

theorem tokens_last (h : delim ∉ field) (hne : field ≠ []) : tokens delim field = [field] := by
  simp [tokens, List.splitOn_eq_singleton h, hne]

theorem tokens_cons (h : delim ∉ field) (hne : field ≠ []) :
    tokens delim (field ++ delim :: text) = field :: tokens delim text := by
  simp [tokens, List.splitOn_append_cons_self_of_not_mem h, hne]

/-- The longest part in front that a test takes. -/
theorem exists_span (p : Byte → Bool) (text : List Byte) :
    ∃ pre post, text = pre ++ post ∧ (∀ c ∈ pre, p c = true) ∧ ∀ c ∈ post.head?, p c = false := by
  induction text with
  | nil => exact ⟨[], [], rfl, by simp, by simp⟩
  | cons c text ih =>
    cases hc : p c with
    | false => exact ⟨[], c :: text, rfl, by simp, by simp [hc]⟩
    | true =>
      obtain ⟨pre, post, rfl, hpre, hpost⟩ := ih
      exact ⟨c :: pre, post, rfl, List.forall_mem_cons.mpr ⟨hc, hpre⟩, hpost⟩

end Fields

section Calls
variable {delim : Byte} {mem : List Byte} {s : ℕ}

theorem seek_eq (stops : Byte → Bool) {pre post : List Byte} {c : Byte}
    (h : mem.drop s = pre ++ c :: post) (hpre : ∀ b ∈ pre, stops b = false)
    (hc : stops c = true) :
    seek stops mem s = s + pre.length ∧ mem[s + pre.length]? = some c := by
  have hfind : (pre ++ c :: post).findIdx stops = pre.length := by
    rw [List.findIdx_append, List.findIdx_eq_length_of_false hpre, if_neg (Nat.lt_irrefl _),
      List.findIdx_cons, hc, cond_true, Nat.zero_add]
  refine ⟨by rw [seek, h, hfind], ?_⟩
  rw [← List.getElem?_drop, h]
  simp

theorem strtokR_done (hdelim : delim ≠ 0) {skip rest : List Byte}
    (h : mem.drop s = skip ++ 0 :: rest) (hskip : ∀ c ∈ skip, c = delim) :
    strtokR delim mem s = .done (s + skip.length) := by
  obtain ⟨hseek, hbyte⟩ := seek_eq (fun c => decide (c ≠ delim)) h
    (fun c hc => decide_eq_false (not_not.mpr (hskip c hc))) (decide_eq_true hdelim.symm)
  simp only [strtokR, hseek, hbyte, ↓reduceIte]

/-- A token ends at a delimiter or at the end of the text. -/
theorem strtokR_token {skip field rest : List Byte} {last : Byte}
    (h : mem.drop s = skip ++ (field ++ last :: rest)) (hskip : ∀ c ∈ skip, c = delim)
    (hne : field ≠ []) (hfield : ∀ c ∈ field, c ≠ delim ∧ c ≠ 0)
    (hlast : last = delim ∨ last = 0) :
    strtokR delim mem s = .token (s + skip.length) (s + skip.length + field.length)
        (decide (last ≠ 0)) ∧
      (mem.drop (s + skip.length)).take (s + skip.length + field.length - (s + skip.length)) =
        field := by
  have hdrop : mem.drop (s + skip.length) = field ++ last :: rest := by
    rw [← List.drop_drop, h, List.drop_left]
  obtain ⟨hstop, hend⟩ := seek_eq (fun c => decide (c = delim ∨ c = 0)) hdrop
    (fun c hc => decide_eq_false (not_or.mpr (hfield c hc))) (decide_eq_true hlast)
  obtain ⟨c, field, rfl⟩ := List.exists_cons_of_ne_nil hne
  obtain ⟨hc, hc0⟩ := hfield c List.mem_cons_self
  obtain ⟨hseek, hbyte⟩ := seek_eq (fun c => decide (c ≠ delim)) h
    (fun c hc => decide_eq_false (not_not.mpr (hskip c hc))) (decide_eq_true hc)
  constructor
  · simp only [strtokR, hseek, hbyte, if_neg hc0, hstop, hend]
  · rw [hdrop, Nat.add_sub_cancel_left, List.take_left]

/-- A call finds the next token, and leaves the text behind it as it was. -/
theorem strtokR_tokens (hdelim : delim ≠ 0) {text rest : List Byte}
    (h : mem.drop s = text ++ 0 :: rest) (htext : 0 ∉ text) :
    (tokens delim text = [] ∧ ∃ i, strtokR delim mem s = .done i) ∨
      ∃ start stop field, (mem.drop start).take (stop - start) = field ∧ 0 ∉ field ∧
        (strtokR delim mem s = .token start stop false ∧ tokens delim text = [field] ∨
          strtokR delim mem s = .token start stop true ∧ s ≤ stop ∧
            ∃ post, tokens delim text = field :: tokens delim post ∧ 0 ∉ post ∧
              (mem.set stop 0).drop (stop + 1) = post ++ 0 :: rest ∧
              stop + 1 + post.length = s + text.length) := by
  obtain ⟨skip, body, rfl, hin, hbody⟩ := exists_span (fun c => decide (c = delim)) text
  have hskip : ∀ c ∈ skip, c = delim := fun c hc => of_decide_eq_true (hin c hc)
  rw [List.append_assoc] at h
  rw [tokens_skip hskip]
  by_cases hempty : body = []
  · subst hempty
    exact Or.inl ⟨tokens_nil, _, strtokR_done hdelim h hskip⟩
  · right
    obtain ⟨field, post, rfl, hfield, hend⟩ := exists_span (fun c => decide (c ≠ delim)) body
    have hne : field ≠ [] := by
      rintro rfl
      obtain ⟨c, post, rfl⟩ := List.exists_cons_of_ne_nil hempty
      exact of_decide_eq_false (hend c rfl) (of_decide_eq_false (hbody c rfl))
    have hpass : ∀ c ∈ field, c ≠ delim ∧ c ≠ 0 := by
      refine fun c hc => ⟨of_decide_eq_true (hfield c hc), ?_⟩
      rintro rfl
      exact htext (List.mem_append_right skip (List.mem_append_left post hc))
    have hfree : delim ∉ field := fun hmem => (hpass delim hmem).1 rfl
    rw [List.append_assoc] at h
    have htextField : 0 ∉ field := fun hmem => (hpass 0 hmem).2 rfl
    cases post with
    | nil =>
      obtain ⟨hcall, htake⟩ := strtokR_token h hskip hne hpass (Or.inr rfl)
      refine ⟨_, _, field, htake, htextField, Or.inl ⟨hcall, ?_⟩⟩
      rw [List.append_nil, tokens_last hfree hne]
    | cons d post =>
      have hd : d = delim := by simpa using hend d
      subst hd
      obtain ⟨hcall, htake⟩ := strtokR_token h hskip hne hpass (Or.inl rfl)
      rw [decide_eq_true hdelim] at hcall
      refine ⟨_, _, field, htake, htextField, Or.inr ⟨hcall, ?_, post, tokens_cons hfree hne, ?_,
        ?_, ?_⟩⟩
      · omega
      · intro hmem
        refine htext (List.mem_append_right skip (List.mem_append_right field ?_))
        exact List.mem_cons_of_mem d hmem
      · rw [List.drop_set_of_lt (Nat.lt_add_one _), ← List.drop_drop, ← List.drop_drop,
          ← List.drop_drop, h, List.drop_left, List.drop_left]
        rfl
      · simp only [List.length_append, List.length_cons]
        omega

end Calls
end Cedric.CString
