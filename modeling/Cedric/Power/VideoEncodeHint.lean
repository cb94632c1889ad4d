import Cedric.Power.HintActions
import Cedric.Power.MetadataParser

/-!
# The video hint

`process_video_encode_hint` counts the starts and stops that it sees under a governor it knows,
takes a lock at the first start and gives it back at the last stop. The mutex makes each call
one step of `VideoEncode`.
-/

namespace Cedric.Power

open CString DecimalText

def SCHEDUTIL_GOVERNOR : Text := "schedutil".toList
def INTERACTIVE_GOVERNOR : Text := "interactive".toList

/-- The content of a file of the kernel; `none` if it cannot be read. -/
abbrev SysFile := Option (List Byte)

def sysfsRead (file : SysFile) (numBytes : ℕ) : Option Text :=
  file.map fun content => asText ((content.take (numBytes - 1)).takeWhile fun c => decide (c ≠ 0))

def getScalingGovernorCheckCores (file : SysFile) (size : ℕ) : Option Text :=
  (sysfsRead file size).map fun governor =>
    (governor.reverse.dropWhile fun c => decide (c = '\n' ∨ c = '\r')).reverse

structure Sysfs where
  scalingGovernor : Fin 4 → SysFile
  socId : SysFile

/-- The buffer is cleared first; the first core that can be read fills it. -/
def Sysfs.governor (sys : Sysfs) : Text :=
  let core (n : Fin 4) := getScalingGovernorCheckCores (sys.scalingGovernor n) 80
  (core 0 <|> core 1 <|> core 2 <|> core 3).getD []

/-- The text is read as `sysfs_read` reads it. -/
def Sysfs.isTargetSDM632 (sys : Sysfs) : Bool :=
  (sysfsRead sys.socId 10).any fun buf => decide ((atoi buf).1 = 349 ∨ (atoi buf).1 = 350)

def Sysfs.resources (sys : Sysfs) : Option (List (BitVec 32)) :=
  if sys.governor = SCHEDUTIL_GOVERNOR then
    if sys.isTargetSDM632 then
      some [0x41820000, 0xa, 0x40c68100, 0xfffffffa, 0x40c68110, 0xfffffffa, 0x40c68120, 0xfffffffa,
        0x40c68130, 0xfffffffa, 0x41440100, 0x5f, 0x4143c100, 0x40c]
    else some [0x41820000, 0xa]
  else if sys.governor = INTERACTIVE_GOVERNOR then
    some [0x41430000, 0x1, 0x41434000, 0x1, 0x41424000, 0x28]
  else none

structure VideoEncode where
  cameraHintRefCount : CInt
  videoEncodeHintSent : Bool
  active : List HintData

def VideoEncode.off : VideoEncode := ⟨0, false, []⟩

/-- A call: its metadata, what the files say, and what the client would answer. -/
structure EncodeCall where
  metadata : Option (List Byte)
  sys : Sysfs
  acquisition : Acquisition

variable (client : PerfClient)

def VideoEncode.start (hintId : CInt) (resources : List (BitVec 32)) (a : Acquisition)
    (s : VideoEncode) : VideoEncode × List LockCall :=
  let s := { s with cameraHintRefCount := CInt.wrap (s.cameraHintRefCount.1 + 1) }
  if s.cameraHintRefCount.1 = 1 then
    if s.videoEncodeHintSent then (s, [])
    else
      let r := performHintAction client hintId resources a s.active
      ({ s with active := r.1, videoEncodeHintSent := true }, r.2)
  else (s, [])

def VideoEncode.stop (hintId : CInt) (s : VideoEncode) : VideoEncode × List LockCall :=
  let s := { s with cameraHintRefCount := CInt.wrap (s.cameraHintRefCount.1 - 1) }
  if s.cameraHintRefCount.1 = 0 then
    let r := undoHintAction client hintId s.active
    ({ s with active := r.1, videoEncodeHintSent := false }, r.2)
  else (s, [])

def EncodeCall.parsed (c : EncodeCall) : Option VideoEncodeMetadata :=
  c.metadata.bind fun mem => (parseVideoEncodeMetadata mem .unset).metadata

def processVideoEncodeHint (c : EncodeCall) (s : VideoEncode) : VideoEncode × List LockCall :=
  match c.parsed with
  | none => (s, [])
  | some md =>
    if md.state.1 = 1 then
      match c.sys.resources with
      | some resources => s.start client md.hintId resources c.acquisition
      | none => (s, [])
    else if md.state.1 = 0 then
      if c.sys.governor = INTERACTIVE_GOVERNOR ∨ c.sys.governor = SCHEDUTIL_GOVERNOR then
        s.stop client md.hintId
      else (s, [])
    else (s, [])

def Sysfs.capable (sys : Sysfs) : Bool :=
  decide (sys.governor = INTERACTIVE_GOVERNOR ∨ sys.governor = SCHEDUTIL_GOVERNOR)

theorem Sysfs.resources_eq_none_iff {sys : Sysfs} : sys.resources = none ↔ sys.capable = false := by
  rw [Sysfs.resources, Sysfs.capable]
  split_ifs with hsched hsoc hinter
  · simp [hsched]
  · simp [hsched]
  · simp [hinter]
  · simp [hsched, hinter]

section Call
variable {c : EncodeCall} {md : VideoEncodeMetadata}

theorem process_incapable (hcapable : c.sys.capable = false) (s : VideoEncode) :
    processVideoEncodeHint client c s = (s, []) := by
  have hgovernor := of_decide_eq_false hcapable
  rw [processVideoEncodeHint, Sysfs.resources_eq_none_iff.mpr hcapable]
  cases c.parsed with
  | none => rfl
  | some md =>
    dsimp only
    rw [if_neg hgovernor, ite_self, ite_self]

theorem process_start (hcapable : c.sys.capable = true) (hmd : md ∈ c.parsed)
    (hstate : md.state.1 = 1) (s : VideoEncode) :
    ∃ resources, processVideoEncodeHint client c s =
      s.start client md.hintId resources c.acquisition := by
  cases hresources : c.sys.resources with
  | none =>
    rw [Sysfs.resources_eq_none_iff.mp hresources] at hcapable
    exact absurd hcapable Bool.false_ne_true
  | some resources =>
    refine ⟨resources, ?_⟩
    rw [processVideoEncodeHint, Option.mem_def.mp hmd, hresources]
    exact if_pos hstate

theorem process_stop (hcapable : c.sys.capable = true) (hmd : md ∈ c.parsed)
    (hstate : md.state.1 = 0) (s : VideoEncode) :
    processVideoEncodeHint client c s = s.stop client md.hintId := by
  have hother : ¬ md.state.1 = 1 := by omega
  rw [processVideoEncodeHint, Option.mem_def.mp hmd]
  dsimp only
  rw [if_neg hother, if_pos hstate, if_pos (of_decide_eq_true hcapable)]

end Call

section Count
variable (hintId : CInt) (resources : List (BitVec 32)) (a : Acquisition) {s : VideoEncode}

theorem wrap_succ_eq_one (n : CInt) : (CInt.wrap (n.1 + 1)).1 = 1 ↔ n.1 = 0 :=
  CInt.wrap_add_eq_iff n ⟨1, by decide⟩ (by decide)

theorem wrap_pred_eq_zero (n : CInt) : (CInt.wrap (n.1 - 1)).1 = 0 ↔ n.1 = 1 :=
  CInt.wrap_add_eq_iff n 0 (k := -1) (by decide)

theorem start_first (hcount : s.cameraHintRefCount.1 = 0)
    (hsent : s.videoEncodeHintSent = false) :
    s.start client hintId resources a =
      (⟨⟨1, by decide⟩, true, (performHintAction client hintId resources a s.active).1⟩,
        (performHintAction client hintId resources a s.active).2) := by
  have hone : CInt.wrap (s.cameraHintRefCount.1 + 1) = ⟨1, by decide⟩ :=
    Subtype.ext ((wrap_succ_eq_one _).mpr hcount)
  rw [VideoEncode.start]
  dsimp only
  rw [hone, if_pos rfl, hsent]
  rfl

theorem start_other (hother : s.cameraHintRefCount.1 ≠ 0 ∨ s.videoEncodeHintSent = true) :
    s.start client hintId resources a =
      ({ s with cameraHintRefCount := CInt.wrap (s.cameraHintRefCount.1 + 1) }, []) := by
  rw [VideoEncode.start]
  dsimp only
  split_ifs with hcount hsent
  · rfl
  · exact absurd hother (not_or.mpr ⟨not_not.mpr ((wrap_succ_eq_one _).mp hcount), hsent⟩)
  · rfl

theorem stop_last (hcount : s.cameraHintRefCount.1 = 1) :
    s.stop client hintId =
      (⟨0, false, (undoHintAction client hintId s.active).1⟩,
        (undoHintAction client hintId s.active).2) := by
  have hzero : CInt.wrap (s.cameraHintRefCount.1 - 1) = 0 :=
    Subtype.ext ((wrap_pred_eq_zero _).mpr hcount)
  rw [VideoEncode.stop]
  dsimp only
  rw [hzero]
  rfl

theorem stop_other (hcount : s.cameraHintRefCount.1 ≠ 1) :
    s.stop client hintId =
      ({ s with cameraHintRefCount := CInt.wrap (s.cameraHintRefCount.1 - 1) }, []) := by
  rw [VideoEncode.stop]
  dsimp only
  rw [if_neg (mt (wrap_pred_eq_zero _).mp hcount)]

end Count

theorem held_start (hintId : CInt) (resources : List (BitVec 32)) (a : Acquisition)
    (s : VideoEncode) (held : List CInt) :
    heldAfter held (s.start client hintId resources a).2 ≠ [] ↔ held ≠ [] ∨
      s.cameraHintRefCount.1 = 0 ∧ s.videoEncodeHintSent = false ∧ a.stays client = true := by
  by_cases hcount : s.cameraHintRefCount.1 = 0
  · cases hsent : s.videoEncodeHintSent with
    | false =>
      rw [start_first client hintId resources a hcount hsent, held_perform]
      simp only [hcount, true_and]
    | true =>
      rw [start_other client hintId resources a (Or.inr hsent)]
      simp [heldAfter]
  · rw [start_other client hintId resources a (Or.inl hcount)]
    simp [hcount, heldAfter]

theorem held_stop (hintId : CInt) (s : VideoEncode) (held : List CInt) :
    heldAfter held (s.stop client hintId).2 ≠ [] ↔ held ≠ [] ∧
      ¬ (s.cameraHintRefCount.1 = 1 ∧ undoFrees client hintId s.active held = true) := by
  by_cases hcount : s.cameraHintRefCount.1 = 1
  · rw [stop_last client hintId hcount, held_undo]
    simp only [hcount, true_and, Bool.not_eq_true]
  · rw [stop_other client hintId hcount]
    simp [hcount, heldAfter]

end Cedric.Power
