import Cedric.Lib.CString
import Cedric.Lib.DecimalText

/-!
# The metadata of a video hint

`parse_video_encode_metadata` cuts its argument in place into attributes `name=value`. The
argument is given as the memory that it points to; the model lists the offsets read and
written. What the parser reads of the memory is its text up to the first NUL.
-/

namespace Cedric.Power

open CString DecimalText

def ATTRIBUTE_VALUE_DELIM : Byte := 0x3d
def ATTRIBUTE_STRING_DELIM : Byte := 0x3b

def bufferSize : ℕ := 1024

structure VideoEncodeMetadata where
  hintId : CInt
  state : CInt
  deriving DecidableEq

def DEFAULT_VIDEO_ENCODE_HINT_ID : CInt := ⟨0x0A00, by decide⟩

def VideoEncodeMetadata.unset : VideoEncodeMetadata :=
  ⟨DEFAULT_VIDEO_ENCODE_HINT_ID, CInt.wrap (-1)⟩

def asText (bytes : List Byte) : Text := bytes.map fun b => Char.ofNat b.toNat

def atoi (text : Text) : CInt :=
  match scan text with
  | some (n, _) => CInt.ofLong n
  | none => 0

def splitToken (token : List Byte) : List Byte × List Byte :=
  if ATTRIBUTE_VALUE_DELIM ∈ token then
    let delim := token.findIdx fun c => decide (c = ATTRIBUTE_VALUE_DELIM)
    let attribute_ := token.take (min delim (bufferSize - 1))
    (attribute_, (token.drop (delim + 1)).take
      (min (token.length - attribute_.length - 1) (bufferSize - 1)))
  else ([], [])

inductive MetadataStep
  | fault (reads : List ℕ)
  | done (reads : List ℕ)
  | next (attribute_ value : List Byte) (mem : List Byte) (saveptr : Option ℕ)
      (reads writes : List ℕ)

/-- `none` is the null pointer that `strtok_r` leaves behind the last token. What `strchr`,
`strlen` and `strlcpy` read of a token was read by `strtok_r` before. -/
def parseMetadata (mem : List Byte) (metadata : Option ℕ) : MetadataStep :=
  match metadata with
  | none => .done []
  | some s =>
    match strtokR ATTRIBUTE_STRING_DELIM mem s with
    | .fault i => .fault (readTo s i)
    | .done i => .done (readTo s i)
    | .token start stop more =>
      let buffers := splitToken ((mem.drop start).take (stop - start))
      if more then
        .next buffers.1 buffers.2 (mem.set stop 0) (some (stop + 1)) (readTo s stop) [stop]
      else .next buffers.1 buffers.2 mem none (readTo s stop) []

def VideoEncodeMetadata.assign (md : VideoEncodeMetadata) (attribute_ value : List Byte) :
    VideoEncodeMetadata :=
  if value = [] then md
  else if asText attribute_ = "hint_id".toList then { md with hintId := atoi (asText value) }
  else if asText attribute_ = "state".toList then { md with state := atoi (asText value) }
  else md

/-- `none` where a read leaves the memory. -/
structure Parsed where
  metadata : Option VideoEncodeMetadata
  reads : List ℕ
  writes : List ℕ

/-- The loop takes a token of at least two bytes in each round but the last. -/
def parseLoop : ℕ → List Byte → Option ℕ → VideoEncodeMetadata → Parsed
  | 0, _, _, _ => ⟨none, [], []⟩
  | rounds + 1, mem, metadata, md =>
    match parseMetadata mem metadata with
    | .fault reads => ⟨none, reads, []⟩
    | .done reads => ⟨some md, reads, []⟩
    | .next attribute_ value mem saveptr reads writes =>
      let r := parseLoop rounds mem saveptr (md.assign attribute_ value)
      ⟨r.metadata, reads ++ r.reads, writes ++ r.writes⟩

def parseVideoEncodeMetadata (mem : List Byte) (md : VideoEncodeMetadata) : Parsed :=
  parseLoop (mem.length + 2) mem (some 0) md

def literal (s : String) : List Byte := s.toList.map fun c => .ofNat 8 c.toNat

example : (parseVideoEncodeMetadata (literal "hint_id=7;state=1" ++ [0]) .unset).metadata =
    some ⟨⟨7, by decide⟩, ⟨1, by decide⟩⟩ := by decide +kernel

structure Parsed.Covers (p : Parsed) (z : ℕ) : Prop where
  reads_le : ∀ i ∈ p.reads, i ≤ z
  reads_end : z ∈ p.reads
  writes_lt : ∀ i ∈ p.writes, i < z

theorem covers_last {s z : ℕ} (h : s ≤ z) (metadata : Option VideoEncodeMetadata) :
    Parsed.Covers ⟨metadata, readTo s z, []⟩ z where
  reads_le := fun _ hi => (mem_readTo.mp hi).2
  reads_end := mem_readTo.mpr ⟨h, le_refl z⟩
  writes_lt := fun i hi => absurd hi (List.not_mem_nil (a := i))

theorem Parsed.Covers.token {p : Parsed} {s stop z : ℕ} (h : p.Covers z) (hz : stop < z) :
    Parsed.Covers ⟨p.metadata, readTo s stop ++ p.reads, stop :: p.writes⟩ z where
  reads_le := fun i hi => by
    rcases List.mem_append.mp hi with hi | hi
    · exact Nat.le_trans (mem_readTo.mp hi).2 (Nat.le_of_lt hz)
    · exact h.reads_le i hi
  reads_end := List.mem_append_right _ h.reads_end
  writes_lt := fun i hi => by
    rcases List.mem_cons.mp hi with rfl | hi
    · exact hz
    · exact h.writes_lt i hi

theorem parseLoop_covers {rounds : ℕ} {mem : List Byte} {s z : ℕ} (h : Ends mem s z)
    (hrounds : z + 1 < s + rounds) (md : VideoEncodeMetadata) :
    (parseLoop rounds mem (some s) md).Covers z := by
  have hdelim : ATTRIBUTE_STRING_DELIM ≠ 0 := by decide
  induction rounds generalizing mem s md with
  | zero => exact absurd (Nat.lt_of_succ_lt hrounds) (Nat.not_lt.mpr h.le)
  | succ rounds ih =>
    rcases strtokR_cases hdelim h with hcall | hcall | ⟨start, hs, hz, hcall⟩ |
      ⟨start, stop, hs, hstart, hstop, hcall⟩
    · simp only [parseLoop, parseMetadata, hcall]
      exact covers_last h.le none
    · simp only [parseLoop, parseMetadata, hcall]
      exact covers_last h.le (some md)
    · -- The last token: the round after it finds the null pointer.
      obtain ⟨n, rfl⟩ : ∃ n, rounds = n + 1 := ⟨rounds - 1, by omega⟩
      simp only [parseLoop, parseMetadata, hcall, Bool.false_eq_true, ↓reduceIte, List.append_nil]
      exact covers_last h.le _
    · simp only [parseLoop, parseMetadata, hcall, ↓reduceIte, List.singleton_append]
      have hrest := h.after_token (Nat.le_trans hs (Nat.le_of_lt hstart)) hstop
      exact (ih hrest (by omega) _).token hstop

theorem parse_covers {mem : List Byte} {z : ℕ} (h : Ends mem 0 z) (md : VideoEncodeMetadata) :
    (parseVideoEncodeMetadata mem md).Covers z := by
  have hz := h.le_length (Nat.zero_le _)
  exact parseLoop_covers h (by omega) md

end Cedric.Power
