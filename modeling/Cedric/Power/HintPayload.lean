import Cedric.Power.VideoEncodeHint

/-!
# The payload of a hint

`powerHint` passes the address of its `int32_t` argument, and the null pointer for zero. The
video hint parses what it is passed as text, so only a zero byte of the argument keeps the
parser inside it, and no zero argument ever reaches the parser.
-/

namespace Cedric.Power

open CString DecimalText

def bytesOf (data : BitVec 32) : List Byte := (List.range 4).map fun k => data.extractLsb' (8 * k) 8

/-- What the HAL is passed: the hint, and the memory at the pointer if it is not null. -/
abbrev Passed := PowerHint × Option (List Byte)

/-- A function that takes a hint from a client. -/
abbrev Entry := PowerHint → BitVec 32 → List Byte → Passed

/-- `behind` is the memory behind the argument. -/
def Entry.powerHint (hint : PowerHint) (data : BitVec 32) (behind : List Byte) : Passed :=
  (hint, if data ≠ 0 then some (bytesOf data ++ behind) else none)

def Entry.powerHintAsync (hint : PowerHint) (data : BitVec 32) (behind : List Byte) : Passed :=
  powerHint hint data behind

def Entry.powerHintAsync_1_2 (hint : PowerHint) (data : BitVec 32) (behind : List Byte) : Passed :=
  powerHint hint data behind

def entries : List Entry := [Entry.powerHint, Entry.powerHintAsync, Entry.powerHintAsync_1_2]

variable (client : PerfClient)

def powerHintOverride (p : Passed) (sys : Sysfs) (a : Acquisition) (s : VideoEncode) :
    VideoEncode :=
  if p.1 = POWER_HINT_VIDEO_ENCODE then (processVideoEncodeHint client ⟨p.2, sys, a⟩ s).1 else s

structure Setting where
  behind : List Byte
  sys : Sysfs
  acquisition : Acquisition

def hinted (entry : Entry) (data : BitVec 32) (x : Setting) (s : VideoEncode) : VideoEncode :=
  powerHintOverride client (entry POWER_HINT_VIDEO_ENCODE data x.behind) x.sys x.acquisition s

/-- All that is read and written of the payload lies inside the argument. -/
def StaysInside (data : BitVec 32) : Prop :=
  ∀ entry ∈ entries, ∀ behind, ∀ mem ∈ (entry POWER_HINT_VIDEO_ENCODE data behind).2,
    ∀ i, i ∈ (parseVideoEncodeMetadata mem .unset).reads ∨
      i ∈ (parseVideoEncodeMetadata mem .unset).writes → i < 4

/-- A hint with `data` counts a session, and then a hint with zero counts it off. -/
structure OpensThenCloses (entry : Entry) (data : BitVec 32) (x y : Setting) (s : VideoEncode) :
    Prop where
  opens : (hinted client entry data x s).cameraHintRefCount =
    CInt.wrap (s.cameraHintRefCount.1 + 1)
  closes : (hinted client entry 0 y (hinted client entry data x s)).cameraHintRefCount =
    s.cameraHintRefCount

/-- The sessions are asked for under governors that the hint knows. -/
def HintPayload (data : BitVec 32) : Prop :=
  StaysInside data ∧ (data ≠ 0 → ∀ entry ∈ entries, ∀ x y s,
    x.sys.capable = true → y.sys.capable = true → OpensThenCloses client entry data x y s)

theorem entry_eq {entry : Entry} (h : entry ∈ entries) : entry = Entry.powerHint := by
  rcases List.mem_cons.mp h with rfl | h
  · rfl
  · rcases List.mem_cons.mp h with rfl | h
    · rfl
    · exact List.mem_singleton.mp h

theorem bytesOf_getElem? (data : BitVec 32) (behind : List Byte) {i : ℕ} (hi : i < 4) :
    (bytesOf data ++ behind)[i]? = some (data.extractLsb' (8 * i) 8) := by
  have hlen : i < (bytesOf data).length := by
    simpa only [bytesOf, List.length_map, List.length_range] using hi
  rw [List.getElem?_append_left hlen, bytesOf, List.getElem?_map, List.getElem?_range hi]
  rfl

theorem ends_inside_iff {data : BitVec 32} {behind : List Byte} {z : ℕ}
    (h : Ends (bytesOf data ++ behind) 0 z) : z < 4 ↔ ∃ k < 4, data.extractLsb' (8 * k) 8 = 0 := by
  have hlen : 4 ≤ (bytesOf data ++ behind).length := by
    rw [List.length_append]
    exact Nat.le_add_right 4 behind.length
  rw [h.lt_iff hlen]
  refine exists_congr fun k => and_congr_right fun hk => ?_
  rw [bytesOf_getElem? data behind hk]
  exact Option.some_inj

theorem staysInside_iff (data : BitVec 32) :
    StaysInside data ↔ ∃ k < 4, data.extractLsb' (8 * k) 8 = 0 := by
  constructor
  · intro h
    by_cases hdata : data = 0
    · refine ⟨0, by decide, ?_⟩
      rw [hdata]
      rfl
    · obtain ⟨z, hz⟩ := exists_ends (bytesOf data ++ []) 0
      have hpassed : bytesOf data ++ [] ∈ (Entry.powerHint POWER_HINT_VIDEO_ENCODE data []).2 :=
        Option.mem_def.mpr (if_pos hdata)
      have hread := (parse_covers hz .unset).reads_end
      exact (ends_inside_iff hz).mp
        (h Entry.powerHint List.mem_cons_self [] _ hpassed z (Or.inl hread))
  · intro hzero entry hentry behind mem hmem i hi
    rw [entry_eq hentry, Entry.powerHint] at hmem
    split_ifs at hmem with hdata
    · obtain rfl := Option.some.inj hmem
      obtain ⟨z, hz⟩ := exists_ends (bytesOf data ++ behind) 0
      have hcovers := parse_covers hz .unset
      have hinside := (ends_inside_iff hz).mpr hzero
      rcases hi with hi | hi
      · exact Nat.lt_of_le_of_lt (hcovers.reads_le i hi) hinside
      · exact Nat.lt_trans (hcovers.writes_lt i hi) hinside
    · exact absurd hmem (Option.not_mem_none mem)

theorem hinted_zero {entry : Entry} (h : entry ∈ entries) (y : Setting) (s : VideoEncode) :
    hinted client entry 0 y s = s := by
  rw [entry_eq h]
  rfl

theorem wrap_succ_ne (n : CInt) : CInt.wrap (n.1 + 1) ≠ n := by
  intro h
  have hmod := CInt.wrap_emod (n.1 + 1)
  rw [h] at hmod
  omega

theorem never_closes {entry : Entry} (h : entry ∈ entries) (data : BitVec 32) (x y : Setting)
    (s : VideoEncode) : ¬ OpensThenCloses client entry data x y s := by
  intro hsession
  have hcloses := hsession.closes
  rw [hinted_zero client h, hsession.opens] at hcloses
  exact wrap_succ_ne _ hcloses

def interactiveSys : Sysfs := ⟨fun _ => some (literal "interactive"), none⟩

theorem payload_zero {data : BitVec 32} (h : HintPayload client data) : data = 0 := by
  by_contra hdata
  let x : Setting := ⟨[], interactiveSys, ⟨0, true, true⟩⟩
  have hcapable : x.sys.capable = true := by decide
  exact never_closes client List.mem_cons_self data x x .off
    (h.2 hdata Entry.powerHint List.mem_cons_self x x .off hcapable hcapable)

/-- The parser stays inside the argument exactly if one of its bytes is zero, and zero alone is
handled as it should be. -/
theorem hint_payload_iff (client : PerfClient) (data : BitVec 32) :
    (StaysInside data ↔ ∃ k < 4, data.extractLsb' (8 * k) 8 = 0) ∧
      (HintPayload client data ↔ data = 0) := by
  refine ⟨staysInside_iff data, payload_zero client, ?_⟩
  rintro rfl
  exact ⟨(staysInside_iff 0).mpr ⟨0, by decide, rfl⟩, fun h => absurd rfl h⟩

/-- A payload without a zero byte is read past its end, and 1 counts no session off. -/
theorem payload_read_past : ¬ StaysInside 0x01010101 ∧ ¬ HintPayload ⟨true, true, true⟩ 1 := by
  constructor
  · rw [staysInside_iff]
    decide
  · intro h
    exact absurd (payload_zero _ h) (by decide)

end Cedric.Power
