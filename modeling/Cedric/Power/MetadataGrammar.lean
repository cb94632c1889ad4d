import Cedric.Lib.Tokens
import Cedric.Power.MetadataParser
import Mathlib.Data.List.TakeWhile

/-!
# The grammar of the metadata

The two parsers read the metadata as fields `name=value` and keep the number of the last
field of a name. They copy the names and the values to two buffers on the stack; every
write goes to a buffer or to a delimiter of the text.
-/

namespace Cedric.Power

open CString DecimalText

inductive Target
  | metadata
  | attribute_
  | value
  deriving DecidableEq

structure Buffers where
  attribute_ : List Byte
  value : List Byte

structure Buffers.Sized (b : Buffers) : Prop where
  attribute_ : b.attribute_.length = bufferSize
  value : b.value.length = bufferSize

def cText (buffer : List Byte) : List Byte := buffer.takeWhile fun c => decide (c ≠ 0)

/-- The buffer after the call, with the offsets written. -/
def strlcpy (dst src : List Byte) : ℕ → List Byte × List ℕ
  | 0 => (dst, [])
  | size + 1 =>
    let copied := src.take size
    (copied ++ 0 :: dst.drop (copied.length + 1), List.range (copied.length + 1))

def Buffers.copy (b : Buffers) (token : List Byte) : Buffers × List (Target × ℕ) :=
  let b : Buffers := ⟨b.attribute_.set 0 0, b.value.set 0 0⟩
  let cleared : List (Target × ℕ) := [(.attribute_, 0), (.value, 0)]
  let delim := token.findIdx fun c => decide (c = ATTRIBUTE_VALUE_DELIM)
  if delim < token.length then
    let a := strlcpy b.attribute_ token (min delim (bufferSize - 1) + 1)
    let v := strlcpy b.value (token.drop (delim + 1))
      (min (token.length - (cText a.1).length - 1) (bufferSize - 1) + 1)
    (⟨a.1, v.1⟩, cleared ++ a.2.map (Prod.mk .attribute_) ++ v.2.map (Prod.mk .value))
  else (b, cleared)

/-- `none` where a read leaves the memory. -/
structure ParseRun (σ : Type*) where
  metadata : Option σ
  writes : List (Target × ℕ)

def parseInBuffers {σ : Type*} (assign : σ → List Byte → List Byte → σ) :
    ℕ → List Byte → Option ℕ → Buffers → σ → ParseRun σ
  | 0, _, _, _, _ => ⟨none, []⟩
  | _ + 1, _, none, _, md => ⟨some md, []⟩
  | rounds + 1, mem, some s, b, md =>
    match strtokR ATTRIBUTE_STRING_DELIM mem s with
    | .fault _ => ⟨none, []⟩
    | .done _ => ⟨some md, []⟩
    | .token start stop more =>
      let r := b.copy ((mem.drop start).take (stop - start))
      let md := assign md (cText r.1.attribute_) (cText r.1.value)
      if more then
        let next := parseInBuffers assign rounds (mem.set stop 0) (some (stop + 1)) r.1 md
        ⟨next.metadata, (.metadata, stop) :: r.2 ++ next.writes⟩
      else
        let next := parseInBuffers assign rounds mem none r.1 md
        ⟨next.metadata, r.2 ++ next.writes⟩

structure VideoDecodeMetadata where
  hintId : CInt
  state : CInt
  deriving DecidableEq

def VideoDecodeMetadata.assign (md : VideoDecodeMetadata) (attribute_ value : List Byte) :
    VideoDecodeMetadata :=
  if value = [] then md
  else if asText attribute_ = "hint_id".toList then { md with hintId := atoi (asText value) }
  else if asText attribute_ = "state".toList then { md with state := atoi (asText value) }
  else md

def parseVideoDecodeMetadata (mem : List Byte) (b : Buffers) (md : VideoDecodeMetadata) :
    ParseRun VideoDecodeMetadata :=
  parseInBuffers VideoDecodeMetadata.assign (mem.length + 2) mem (some 0) b md

def encodeInBuffers (mem : List Byte) (b : Buffers) (md : VideoEncodeMetadata) :
    ParseRun VideoEncodeMetadata :=
  parseInBuffers VideoEncodeMetadata.assign (mem.length + 2) mem (some 0) b md

def valueOf (name : Text) (field : List Byte) : Option (List Byte) :=
  let name' := asText (field.takeWhile fun c => decide (c ≠ ATTRIBUTE_VALUE_DELIM))
  let value := (field.dropWhile fun c => decide (c ≠ ATTRIBUTE_VALUE_DELIM)).tail?
  value.filter fun value => decide (name' = name ∧ value ≠ [])

def lastValue (name : Text) (text : List Byte) : Option (List Byte) :=
  ((tokens ATTRIBUTE_STRING_DELIM text).filterMap (valueOf name)).getLast?

def valueNumber (value : List Byte) : CInt := atoi (asText (value.take 1023))

/-- The number of the last field of a name, or what was there before. -/
def numberOf (name : Text) (text : List Byte) (before : CInt) : CInt :=
  (lastValue name text).elim before valueNumber

/-- A write to a buffer, or in front of the end of the text. -/
def Inside (length : ℕ) (w : Target × ℕ) : Prop :=
  match w.1 with
  | .metadata => w.2 < length
  | .attribute_ => w.2 < bufferSize
  | .value => w.2 < bufferSize

section Field
variable {b : Buffers} {field : List Byte}

theorem strlcpy_spec {dst src : List Byte} (hdst : dst.length = bufferSize) (hsrc : 0 ∉ src)
    (n : ℕ) :
    let r := strlcpy dst src (min n (bufferSize - 1) + 1)
    r.1.length = bufferSize ∧ cText r.1 = src.take (min n (bufferSize - 1)) ∧
      ∀ i ∈ r.2, i < bufferSize := by
  have hle : (src.take (min n (bufferSize - 1))).length ≤ bufferSize - 1 :=
    (List.length_take_le _ src).trans (Nat.min_le_right _ _)
  have hpass : ∀ c ∈ src.take (min n (bufferSize - 1)), decide (c ≠ 0) = true := by
    intro c hc
    refine decide_eq_true ?_
    rintro rfl
    exact hsrc (List.mem_of_mem_take hc)
  have hpos : 0 < bufferSize := by decide
  refine ⟨?_, ?_, fun i hi => ?_⟩
  · simp only [strlcpy, List.length_append, List.length_cons, List.length_drop, hdst]
    omega
  · simp only [strlcpy, cText]
    rw [List.takeWhile_append_of_pos hpass]
    simp
  · have hlt := List.mem_range.mp hi
    omega

theorem cText_cleared {buffer : List Byte} (h : buffer.length = bufferSize) :
    cText (buffer.set 0 0) = [] := by
  cases buffer with
  | nil => rfl
  | cons c buffer => simp [cText]

theorem copy_spec (hb : b.Sized) (hfield : 0 ∉ field) :
    (b.copy field).1.Sized ∧ cText (b.copy field).1.attribute_ = (splitToken field).1 ∧
      cText (b.copy field).1.value = (splitToken field).2 ∧
      ∀ length, ∀ w ∈ (b.copy field).2, Inside length w := by
  have hattribute : (b.attribute_.set 0 0).length = bufferSize :=
    List.length_set.trans hb.attribute_
  have hvalue : (b.value.set 0 0).length = bufferSize := List.length_set.trans hb.value
  have hcleared (length : ℕ) : ∀ w ∈ [(Target.attribute_, 0), (Target.value, 0)],
      Inside length w := by
    intro w hw
    rcases List.mem_pair.mp hw with rfl | rfl
    · exact (by decide : 0 < bufferSize)
    · exact (by decide : 0 < bufferSize)
  have hfound : (field.findIdx fun c => decide (c = ATTRIBUTE_VALUE_DELIM)) < field.length ↔
      ATTRIBUTE_VALUE_DELIM ∈ field := by
    simp [List.findIdx_lt_length]
  by_cases hdelim : ATTRIBUTE_VALUE_DELIM ∈ field
  · simp only [Buffers.copy, splitToken, if_pos hdelim, if_pos (hfound.mpr hdelim)]
    generalize field.findIdx (fun c => decide (c = ATTRIBUTE_VALUE_DELIM)) = delim
    have hvalueText : 0 ∉ field.drop (delim + 1) := fun hmem => hfield (List.mem_of_mem_drop hmem)
    obtain ⟨hsizeA, htextA, hwritesA⟩ := strlcpy_spec hattribute hfield delim
    rw [htextA]
    obtain ⟨hsizeV, htextV, hwritesV⟩ := strlcpy_spec hvalue hvalueText
      (field.length - (field.take (min delim (bufferSize - 1))).length - 1)
    refine ⟨⟨hsizeA, hsizeV⟩, rfl, htextV, fun length w hw => ?_⟩
    rcases List.mem_append.mp hw with hw | hw
    · rcases List.mem_append.mp hw with hw | hw
      · exact hcleared length w hw
      · obtain ⟨i, hi, rfl⟩ := List.mem_map.mp hw
        exact hwritesA i hi
    · obtain ⟨i, hi, rfl⟩ := List.mem_map.mp hw
      exact hwritesV i hi
  · simp only [Buffers.copy, splitToken, if_neg hdelim, if_neg (mt hfound.mp hdelim)]
    exact ⟨⟨hattribute, hvalue⟩, cText_cleared hb.attribute_, cText_cleared hb.value, hcleared⟩

theorem splitToken_append {name value : List Byte} (h : ATTRIBUTE_VALUE_DELIM ∉ name) :
    splitToken (name ++ ATTRIBUTE_VALUE_DELIM :: value) =
      (name.take (bufferSize - 1), value.take (bufferSize - 1)) := by
  have hother : ∀ c ∈ name, decide (c = ATTRIBUTE_VALUE_DELIM) = false := by
    intro c hc
    refine decide_eq_false ?_
    rintro rfl
    exact h hc
  have hfind : (name ++ ATTRIBUTE_VALUE_DELIM :: value).findIdx
      (fun c => decide (c = ATTRIBUTE_VALUE_DELIM)) = name.length := by
    rw [List.findIdx_append, List.findIdx_eq_length_of_false hother, if_neg (Nat.lt_irrefl _),
      List.findIdx_cons, decide_eq_true rfl, cond_true, Nat.zero_add]
  have hname : (name ++ ATTRIBUTE_VALUE_DELIM :: value).take (min name.length (bufferSize - 1)) =
      name.take (bufferSize - 1) := by
    rw [List.take_append_of_le_length (Nat.min_le_left _ _), List.take_eq_take_iff]
    omega
  have hvalue : (name ++ ATTRIBUTE_VALUE_DELIM :: value).drop (name.length + 1) = value := by
    rw [← List.drop_drop, List.drop_left]
    rfl
  rw [splitToken, if_pos (List.mem_append_right name List.mem_cons_self), hfind]
  dsimp only
  rw [hname, hvalue]
  refine Prod.ext rfl ?_
  rw [List.take_eq_take_iff, List.length_append, List.length_cons, List.length_take]
  omega

theorem valueOf_append {name : List Byte} (h : ATTRIBUTE_VALUE_DELIM ∉ name) (key : Text)
    (value : List Byte) :
    valueOf key (name ++ ATTRIBUTE_VALUE_DELIM :: value) =
      if asText name = key ∧ value ≠ [] then some value else none := by
  have hother : ∀ c ∈ name, decide (c ≠ ATTRIBUTE_VALUE_DELIM) = true := by
    intro c hc
    refine decide_eq_true ?_
    rintro rfl
    exact h hc
  rw [valueOf, List.takeWhile_append_of_pos hother, List.dropWhile_append_of_pos hother]
  simp [Option.filter]

theorem valueOf_none (h : ATTRIBUTE_VALUE_DELIM ∉ field) (key : Text) :
    valueOf key field = none := by
  have hall : (field.dropWhile fun c => decide (c ≠ ATTRIBUTE_VALUE_DELIM)) = [] := by
    refine List.dropWhile_eq_nil_iff.mpr fun c hc => decide_eq_true ?_
    rintro rfl
    exact h hc
  rw [valueOf, hall]
  rfl

theorem asText_take (key : Text) (hkey : key.length < bufferSize - 1) (name : List Byte) :
    asText (name.take (bufferSize - 1)) = key ↔ asText name = key := by
  by_cases hlong : name.length ≤ bufferSize - 1
  · rw [List.take_of_length_le hlong]
  · refine iff_of_false ?_ ?_
    · rintro rfl
      rw [asText, List.length_map, List.length_take] at hkey
      omega
    · rintro rfl
      rw [asText, List.length_map] at hkey
      omega

theorem assign_splitToken (md : VideoEncodeMetadata) (field : List Byte) :
    md.assign (splitToken field).1 (splitToken field).2 =
      ⟨(valueOf "hint_id".toList field).elim md.hintId valueNumber,
        (valueOf "state".toList field).elim md.state valueNumber⟩ := by
  by_cases hdelim : ATTRIBUTE_VALUE_DELIM ∈ field
  · obtain ⟨name, value, rfl, hname⟩ := List.eq_append_cons_of_mem hdelim
    rw [splitToken_append hname, valueOf_append hname, valueOf_append hname,
      VideoEncodeMetadata.assign]
    by_cases hvalue : value = []
    · simp [hvalue]
    · have hcut : value.take (bufferSize - 1) ≠ [] := by
        rw [ne_eq, List.take_eq_nil_iff]
        exact fun hor => hor.elim (by decide) hvalue
      simp only [if_neg hcut, asText_take "hint_id".toList (by decide),
        asText_take "state".toList (by decide), ne_eq, hvalue, not_false_eq_true, and_true]
      by_cases hid : asText name = "hint_id".toList
      · have hstate : ¬ asText name = "state".toList := by
          rw [hid]
          decide
        rw [if_pos hid, if_pos hid, if_neg hstate]
        rfl
      · by_cases hstate : asText name = "state".toList
        · rw [if_neg hid, if_pos hstate, if_neg hid, if_pos hstate]
          rfl
        · rw [if_neg hid, if_neg hstate, if_neg hid, if_neg hstate]
          rfl
  · rw [valueOf_none hdelim, valueOf_none hdelim, splitToken, if_neg hdelim]
    rfl

theorem last_elim {β γ : Type*} (g : List Byte → Option β) (number : β → γ) (field : List Byte)
    (fields : List (List Byte)) (before : γ) :
    (((field :: fields).filterMap g).getLast?).elim before number =
      ((fields.filterMap g).getLast?).elim ((g field).elim before number) number := by
  cases hfield : g field with
  | none => rw [List.filterMap_cons_none hfield, Option.elim_none]
  | some v =>
    rw [List.filterMap_cons_some hfield, List.getLast?_cons]
    cases (fields.filterMap g).getLast? with
    | none => rfl
    | some v => rfl

theorem assign_tokens (fields : List (List Byte)) (md : VideoEncodeMetadata) :
    fields.foldl (fun md field => md.assign (splitToken field).1 (splitToken field).2) md =
      ⟨((fields.filterMap (valueOf "hint_id".toList)).getLast?).elim md.hintId valueNumber,
        ((fields.filterMap (valueOf "state".toList)).getLast?).elim md.state valueNumber⟩ := by
  induction fields generalizing md with
  | nil => rfl
  | cons field fields ih =>
    rw [List.foldl_cons, ih, assign_splitToken, last_elim, last_elim]

end Field

section Runs
variable {σ τ : Type*}

theorem parseInBuffers_tokens (assign : σ → List Byte → List Byte → σ) {rounds : ℕ}
    {mem text rest : List Byte} {s z : ℕ} (h : mem.drop s = text ++ 0 :: rest) (htext : 0 ∉ text)
    (hz : s + text.length = z) (hrounds : text.length + 1 < rounds) {b : Buffers} (hb : b.Sized)
    (md : σ) :
    let r := parseInBuffers assign rounds mem (some s) b md
    r.metadata = some ((tokens ATTRIBUTE_STRING_DELIM text).foldl
        (fun md field => assign md (splitToken field).1 (splitToken field).2) md) ∧
      ∀ w ∈ r.writes, Inside z w := by
  induction rounds generalizing mem text s b md with
  | zero => exact absurd hrounds (Nat.not_lt_zero _)
  | succ rounds ih =>
    rcases strtokR_tokens (by decide : ATTRIBUTE_STRING_DELIM ≠ 0) h htext with
      ⟨hnone, i, hcall⟩ | ⟨start, stop, field, htake, hfield, hlast | hmore⟩
    · simp only [parseInBuffers, hcall, hnone, List.foldl_nil]
      exact ⟨trivial, fun w hw => absurd hw List.not_mem_nil⟩
    · obtain ⟨hcall, htokens⟩ := hlast
      obtain ⟨rounds, rfl⟩ : ∃ n, rounds = n + 1 := ⟨rounds - 1, by omega⟩
      obtain ⟨-, hattribute, hvalue, hinside⟩ := copy_spec hb hfield
      simp only [parseInBuffers, hcall, htake, htokens, hattribute, hvalue, Bool.false_eq_true,
        ↓reduceIte, List.append_nil, List.foldl_cons, List.foldl_nil]
      exact ⟨trivial, hinside z⟩
    · obtain ⟨hcall, hs, post, htokens, hpost, hdrop, hlength⟩ := hmore
      obtain ⟨hsized, hattribute, hvalue, hinside⟩ := copy_spec hb hfield
      obtain ⟨hmetadata, hwrites⟩ := ih hdrop hpost (hlength.trans hz) (by omega) hsized
        (assign md (splitToken field).1 (splitToken field).2)
      simp only [parseInBuffers, hcall, htake, htokens, hattribute, hvalue, ↓reduceIte,
        List.foldl_cons]
      refine ⟨hmetadata, List.forall_mem_cons.mpr ⟨?_, fun w hw => ?_⟩⟩
      · change stop < z
        omega
      · rcases List.mem_append.mp hw with hw | hw
        · exact hinside z w hw
        · exact hwrites w hw

theorem parseLoop_tokens {rounds : ℕ} {mem text rest : List Byte} {s : ℕ}
    (h : mem.drop s = text ++ 0 :: rest) (htext : 0 ∉ text) (hrounds : text.length + 1 < rounds)
    (md : VideoEncodeMetadata) :
    (parseLoop rounds mem (some s) md).metadata =
      some ((tokens ATTRIBUTE_STRING_DELIM text).foldl
        (fun md field => md.assign (splitToken field).1 (splitToken field).2) md) := by
  induction rounds generalizing mem text s md with
  | zero => exact absurd hrounds (Nat.not_lt_zero _)
  | succ rounds ih =>
    rcases strtokR_tokens (by decide : ATTRIBUTE_STRING_DELIM ≠ 0) h htext with
      ⟨hnone, i, hcall⟩ | ⟨start, stop, field, htake, hfield, hlast | hmore⟩
    · simp only [parseLoop, parseMetadata, hcall, hnone, List.foldl_nil]
    · obtain ⟨hcall, htokens⟩ := hlast
      obtain ⟨rounds, rfl⟩ : ∃ n, rounds = n + 1 := ⟨rounds - 1, by omega⟩
      simp only [parseLoop, parseMetadata, hcall, htake, htokens, Bool.false_eq_true, ↓reduceIte,
        List.foldl_cons, List.foldl_nil]
    · obtain ⟨hcall, hs, post, htokens, hpost, hdrop, hlength⟩ := hmore
      simp only [parseLoop, parseMetadata, hcall, htake, htokens, ↓reduceIte, List.foldl_cons]
      exact ih hdrop hpost (by omega) _

end Runs

def VideoDecodeMetadata.encode (md : VideoDecodeMetadata) : VideoEncodeMetadata :=
  ⟨md.hintId, md.state⟩

theorem assign_encode (md : VideoDecodeMetadata) (attribute_ value : List Byte) :
    (md.assign attribute_ value).encode = md.encode.assign attribute_ value := by
  unfold VideoDecodeMetadata.assign VideoEncodeMetadata.assign
  split_ifs <;> rfl

theorem decode_tokens (fields : List (List Byte)) (md : VideoDecodeMetadata) :
    (fields.foldl (fun md field => md.assign (splitToken field).1 (splitToken field).2) md).encode =
      fields.foldl (fun md field => md.assign (splitToken field).1 (splitToken field).2)
        md.encode := by
  induction fields generalizing md with
  | nil => rfl
  | cons field fields ih => rw [List.foldl_cons, ih, assign_encode, List.foldl_cons]

section Text
variable {text : List Byte} (rest : List Byte)

theorem encodeInBuffers_metadata (htext : 0 ∉ text) {b : Buffers} (hb : b.Sized)
    (md : VideoEncodeMetadata) :
    (encodeInBuffers (text ++ 0 :: rest) b md).metadata =
      (parseVideoEncodeMetadata (text ++ 0 :: rest) md).metadata := by
  have hrounds : text.length + 1 < (text ++ 0 :: rest).length + 2 := by
    rw [List.length_append]
    omega
  obtain ⟨hmetadata, -⟩ := parseInBuffers_tokens VideoEncodeMetadata.assign (s := 0) List.drop_zero
    htext (Nat.zero_add _) hrounds hb md
  exact hmetadata.trans (parseLoop_tokens (s := 0) List.drop_zero htext hrounds md).symm

/-- Both parsers keep the number of the last field of each name, and write to their buffers and
to delimiters of the text. -/
theorem metadata_grammar (htext : 0 ∉ text) {b : Buffers} (hb : b.Sized)
    (md : VideoEncodeMetadata) (md' : VideoDecodeMetadata) :
    let encoded := encodeInBuffers (text ++ 0 :: rest) b md
    let decoded := parseVideoDecodeMetadata (text ++ 0 :: rest) b md'
    encoded.metadata = some ⟨numberOf "hint_id".toList text md.hintId,
        numberOf "state".toList text md.state⟩ ∧
      decoded.metadata = some ⟨numberOf "hint_id".toList text md'.hintId,
        numberOf "state".toList text md'.state⟩ ∧
      (∀ w ∈ encoded.writes, Inside text.length w) ∧
      ∀ w ∈ decoded.writes, Inside text.length w := by
  have hrounds : text.length + 1 < (text ++ 0 :: rest).length + 2 := by
    rw [List.length_append]
    omega
  obtain ⟨hencoded, hwrites⟩ := parseInBuffers_tokens VideoEncodeMetadata.assign (s := 0)
    List.drop_zero htext (Nat.zero_add _) hrounds hb md
  obtain ⟨hdecoded, hwrites'⟩ := parseInBuffers_tokens VideoDecodeMetadata.assign (s := 0)
    List.drop_zero htext (Nat.zero_add _) hrounds hb md'
  refine ⟨?_, ?_, hwrites, hwrites'⟩
  · rw [assign_tokens] at hencoded
    exact hencoded
  · refine hdecoded.trans (congrArg some ?_)
    have hfields := decode_tokens (tokens ATTRIBUTE_STRING_DELIM text) md'
    rw [assign_tokens] at hfields
    obtain ⟨hid, hstate⟩ := VideoEncodeMetadata.mk.inj hfields
    exact congrArg₂ VideoDecodeMetadata.mk hid hstate

theorem metadata_grammar_literal :
    (encodeInBuffers (literal "hint_id=2;;state=1;hint_id=7;on" ++ [0])
      ⟨List.replicate bufferSize 0, List.replicate bufferSize 0⟩ .unset).metadata =
      some ⟨⟨7, by decide⟩, ⟨1, by decide⟩⟩ := by
  have htext : 0 ∉ literal "hint_id=2;;state=1;hint_id=7;on" := by decide
  have hb : Buffers.Sized ⟨List.replicate bufferSize 0, List.replicate bufferSize 0⟩ :=
    ⟨List.length_replicate, List.length_replicate⟩
  exact (metadata_grammar [] htext hb .unset ⟨0, 0⟩).1.trans (by decide +kernel)

end Text
end Cedric.Power
