import Cedric.Lib.Blocks

/-!
# The mixer of a sound card

`mixer_open` reads what the card says of its controls, and `mixer_update_ctls` those that the
driver has added since. Every allocation and every `ioctl` on the way may fail.
-/

namespace Cedric.Libshims

inductive ElemType
  | NONE | BOOLEAN | INTEGER | ENUMERATED | BYTES | IEC958 | INTEGER64
  deriving DecidableEq

/-- What `SNDRV_CTL_IOCTL_ELEM_INFO` says of a control; an enumerated one has names for its
`items`. -/
structure ElemInfo where
  numid : ℕ
  name : List Char
  type : ElemType
  items : List (List Char)
  deriving DecidableEq

/-- `answers` tells how the calls to come end; when it is used up they succeed. -/
structure Sys where
  card : List ElemInfo
  memory : Blocks
  files : Blocks
  answers : List Bool

namespace Sys

variable (s : Sys)

def answer : Sys × Bool :=
  match s.answers with
  | [] => (s, true)
  | a :: as => ({ s with answers := as }, a)

def alloc : Sys × Option ℕ :=
  match s.answer with
  | (s, false) => (s, none)
  | (s, true) => ({ s with memory := s.memory.alloc }, some s.memory.next)

def free (b : ℕ) : Sys := { s with memory := s.memory.release b }

def close (fd : ℕ) : Sys := { s with files := s.files.release fd }

end Sys

/-- The array `ename` is a block that points to a block for each name, or is null there. -/
structure MixerCtl where
  info : Option ElemInfo
  ename : Option (ℕ × List (Option (ℕ × List Char)))
  deriving DecidableEq

namespace MixerCtl

def zero : MixerCtl := ⟨none, none⟩

def blocks (ctl : MixerCtl) : List ℕ :=
  match ctl.ename with
  | none => []
  | some (b, names) => names.filterMap (Option.map Prod.fst) ++ [b]

end MixerCtl

structure Mixer where
  block : ℕ
  fd : ℕ
  ctl : Option (ℕ × List MixerCtl)
  count : ℕ

namespace Mixer

variable (mixer : Mixer)

def slots : List MixerCtl := (mixer.ctl.map Prod.snd).getD []

def controls : List MixerCtl := mixer.slots.take mixer.count

end Mixer

open Sys

def mixerCleanupControl (s : Sys) (ctl : MixerCtl) : Sys := ctl.blocks.foldl Sys.free s

def mixerClose (s : Sys) (mixer : Mixer) : Sys :=
  let s := s.close mixer.fd
  let s := mixer.controls.foldl mixerCleanupControl s
  let s := (mixer.ctl.map Prod.fst).elim s s.free
  s.free mixer.block

/-- A new block with the old slots up to `curnum`; the old block is gone. -/
def mixerReallocZ (s : Sys) (mixer : Mixer) (curnum newnum : ℕ) :
    Sys × Option (ℕ × List MixerCtl) :=
  match s.alloc with
  | (s, none) => (s, none)
  | (s, some b) => ((mixer.ctl.map Prod.fst).elim s s.free,
    some (b, mixer.slots.take curnum ++ List.replicate (newnum - curnum) .zero))

def copyNames (s : Sys) : List (List Char) → Sys × List (Option (ℕ × List Char)) × Bool
  | [] => (s, [], true)
  | name :: names =>
    match s.answer with
    | (s, false) => (s, none :: names.map fun _ => none, false)
    | (s, true) =>
      match s.alloc with
      | (s, none) => (s, none :: names.map fun _ => none, false)
      | (s, some b) =>
        let (s, copied, ok) := copyNames s names
        (s, some (b, name) :: copied, ok)

/-- One round of the loop: the slot for the control with the number `numid`. -/
def addControl (s : Sys) (numid : ℕ) : Sys × MixerCtl × Bool :=
  match s.answer with
  | (s, false) => (s, .zero, false)
  | (s, true) =>
    match s.card.find? fun e => e.numid == numid with
    | none => (s, .zero, false)
    | some ei =>
      if ei.type = .ENUMERATED then
        match s.alloc with
        | (s, none) => (s, ⟨some ei, none⟩, false)
        | (s, some enames) =>
          let (s, names, ok) := copyNames s ei.items
          (s, ⟨some ei, some (enames, names)⟩, ok)
      else (s, ⟨some ei, none⟩, true)

/-- The slots for the controls, and how many of them are good; the slot that fails keeps its
pointer when it is cleaned up, and those behind it are zero. -/
def addEach (s : Sys) : List ℕ → Sys × List MixerCtl × ℕ × Bool
  | [] => (s, [], 0, true)
  | numid :: numids =>
    match addControl s numid with
    | (s, ctl, false) =>
      (mixerCleanupControl s ctl, ctl :: numids.map fun _ => .zero, 0, false)
    | (s, ctl, true) =>
      let (s, slots, n, ok) := addEach s numids
      (s, ctl :: slots, n + 1, ok)

/-- The second result is the mixer, the third that nothing failed. -/
def addControls (s : Sys) (mixer : Mixer) : Sys × Mixer × Bool :=
  let oldCount := mixer.count
  match s.answer with
  | (s, false) => (s, mixer, false)
  | (s, true) =>
    if oldCount = s.card.length then (s, mixer, true)
    else
      match mixerReallocZ s mixer oldCount s.card.length with
      | (s, none) => (s, mixer, false)
      | (s, some ctl) =>
        let mixer := { mixer with ctl := some ctl }
        match s.alloc with
        | (s, none) => (s, mixer, false)
        | (s, some eid) =>
          match s.answer with
          | (s, false) => (s.free eid, mixer, false)
          | (s, true) =>
            let (s, slots, n, ok) := addEach s ((s.card.drop oldCount).map ElemInfo.numid)
            (s.free eid,
              { mixer with
                ctl := some (ctl.1, mixer.slots.take oldCount ++ slots), count := oldCount + n },
              ok)

/-- `cardInfo`: the `ioctl` for the name of the card succeeds. -/
def mixerOpen (s : Sys) (cardInfo : Bool) : Sys × Option Mixer :=
  match s.answer with
  | (s, false) => (s, none)
  | (s, true) =>
    let fd := s.files.next
    let s := { s with files := s.files.alloc }
    match s.alloc with
    | (s, none) => (s.close fd, none)
    | (s, some block) =>
      let mixer := ⟨block, 0, none, 0⟩
      if cardInfo then
        match addControls s { mixer with fd := fd } with
        | (s, mixer, true) => (s, some mixer)
        | (s, mixer, false) => (mixerClose s mixer, none)
      else (mixerClose s mixer, none)

def mixerGetNumCtls (mixer : Mixer) : ℕ := mixer.count

def mixerGetCtl (mixer : Mixer) (id : ℕ) : Option MixerCtl :=
  if id < mixer.count then mixer.slots[id]? else none

def mixerGetCtlByName (mixer : Mixer) (name : List Char) : Option MixerCtl :=
  mixer.controls.find? fun ctl => ctl.info.map ElemInfo.name == some name

/-- `none` is the null pointer. -/
def mixerCtlGetEnumString (ctl : MixerCtl) (enumId : ℕ) : Option (List Char) :=
  if ctl.info.map ElemInfo.type = some .ENUMERATED ∧
      enumId < (ctl.info.map (·.items.length)).getD 0 then
    ((ctl.ename.map Prod.snd).getD [])[enumId]?.join.map Prod.snd
  else none

structure Process where
  sys : Sys
  mixers : List Mixer

/-- The driver adds controls behind those it has. -/
inductive Event
  | opened (cardInfo : Bool) (answers : List Bool)
  | updated (i : ℕ) (answers : List Bool)
  | closed (i : ℕ)
  | added (elems : List ElemInfo)

namespace Process

variable (p : Process)

def step : Event → Process
  | .opened cardInfo answers =>
    let (s, mixer) := mixerOpen { p.sys with answers := answers } cardInfo
    ⟨s, p.mixers ++ mixer.toList⟩
  | .updated i answers =>
    match p.mixers[i]? with
    | none => p
    | some mixer =>
      let (s, mixer, _) := addControls { p.sys with answers := answers } mixer
      ⟨s, p.mixers.set i mixer⟩
  | .closed i =>
    match p.mixers[i]? with
    | none => p
    | some mixer => ⟨mixerClose p.sys mixer, p.mixers.eraseIdx i⟩
  | .added elems => { p with sys := { p.sys with card := p.sys.card ++ elems } }

end Process
end Cedric.Libshims
