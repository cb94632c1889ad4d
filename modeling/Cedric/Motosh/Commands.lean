import Cedric.Lib.Accesses
import Cedric.Motosh.VersionCheck

/-!
# The readwrite and passthrough commands

Both commands convert one argument after another into a buffer, one place further
on for each. The converter stores as many bytes as an argument encodes; only
then does the command ask whether it was exactly one.
-/

namespace Cedric.Motosh

open Accesses

def STM_MAX_GENERIC_DATA : ℕ := 512
def STM_MAX_GENERIC_HEADER : ℕ := 4
def STM_MAX_GENERIC_COMMAND_LEN : ℕ := 3

inductive Buffer
  | dataHeader | dataPtr | ptData
  deriving DecidableEq

/-- `arg` is a use of `argv[i]`; the others are ioctls. -/
inductive CommandEvent
  | arg (i : ℕ)
  | writeReg
  | readReg
  | passthrough

abbrev CommandAccess := Access Buffer (BitVec 8) CommandEvent

/-- What a command finds: whether `malloc` has the memory and what is in it, and the answer of
the driver to a passthrough request, with the bytes that it stores in the buffer. -/
structure CommandEnv where
  MOTOSH_PASSTHROUGH_SIZE : ℕ
  malloc : Bool
  garbage : ℕ → BitVec 8
  ret : ℤ
  reply : ℕ → Option (BitVec 8)

def digits : List (BitVec 8) → ℤ → ℤ
  | [], x => x
  | c :: s, x => if 0x30 ≤ c ∧ c ≤ 0x39 then digits s (10 * x + (c.toNat - 0x30)) else x

/-- Out of range `strtol` gives the nearest `long`, of which the `int` keeps the low half. -/
def atoi (s : List (BitVec 8)) : ℤ :=
  let value := match (s.takeWhile (· ≠ 0)).dropWhile isspace with
    | [] => 0
    | c :: rest =>
      if c = 0x2d then -digits rest 0
      else if c = 0x2b then digits rest 0
      else digits (c :: rest) 0
  (max (-2 ^ 63) (min (2 ^ 63 - 1) value)).bmod (2 ^ 32)

section Commands
variable (argv : List (List (BitVec 8)))

def convertArg (i : ℕ) : List (BitVec 8) :=
  match argv[i]? with
  | none => []
  | some s => stmConvertAsciiToHex s (s.takeWhile (· ≠ 0)).length

/-- The conversion of `n` arguments from argument `i` on to place `o` of a buffer: what it
accesses and, unless it stops with a failure, the bytes. -/
def convertArgs (b : Buffer) : ℕ → ℕ → ℕ → List CommandAccess × Option (List (BitVec 8))
  | 0, _, _ => ([], some [])
  | n + 1, i, o =>
    let out := convertArg argv i
    let accesses := .event (.arg i) :: stores b o out
    if out.length ≠ 1 then (accesses, none)
    else
      let r := convertArgs b n (i + 1) (o + 1)
      (accesses ++ r.1, r.2.map (out ++ ·))

def readWrite : ℤ := atoi (argv.getD 2 [])

def headerSize (header : List (BitVec 8)) : ℕ :=
  (header.getD 2 0).toNat * 2 ^ 8 + (header.getD 3 0).toNat

def SizeAccepted (header : List (BitVec 8)) : Prop :=
  headerSize header ≤ STM_MAX_GENERIC_DATA - 1 ∧ 0 < headerSize header ∧
    (readWrite argv ≠ 0 → (headerSize header : ℤ) =
      argv.length - STM_MAX_GENERIC_COMMAND_LEN - STM_MAX_GENERIC_HEADER)

instance (header : List (BitVec 8)) : Decidable (SizeAccepted argv header) :=
  inferInstanceAs (Decidable (_ ∧ _ ∧ _))

def transfer (size : ℕ) : List CommandAccess :=
  if readWrite argv ≠ 0 then
    let data := convertArgs argv .dataPtr size
      (STM_MAX_GENERIC_COMMAND_LEN + STM_MAX_GENERIC_HEADER) STM_MAX_GENERIC_HEADER
    data.1 ++ match data.2 with
      | none => []
      | some _ => [.event .writeReg]
  else .event .readReg :: loads .dataPtr 0 size

/-- A `malloc` that fails leaves a null pointer, to which the code stores nevertheless. -/
def readwriteData (malloc : Bool) (header : List (BitVec 8)) : List CommandAccess :=
  if SizeAccepted argv header then
    let size := headerSize header
    (if malloc then [.alloc .dataPtr (size + STM_MAX_GENERIC_HEADER)] else []) ++
      (stores .dataPtr 0 (List.replicate (size + STM_MAX_GENERIC_HEADER) 0) ++
        (loads .dataHeader 0 STM_MAX_GENERIC_HEADER ++
          (stores .dataPtr 0 header ++ transfer argv size)))
  else []

def readwrite (malloc : Bool) : List CommandAccess :=
  if argv.length < 7 then []
  else
    let header := convertArgs argv .dataHeader STM_MAX_GENERIC_HEADER STM_MAX_GENERIC_COMMAND_LEN 0
    .alloc .dataHeader STM_MAX_GENERIC_HEADER :: (header.1 ++
      match header.2 with
      | none => []
      | some h => .event (.arg 2) ::
          (loads .dataHeader 0 STM_MAX_GENERIC_HEADER ++ readwriteData argv malloc h))

def toUInt (x : ℤ) : ℤ := x % 2 ^ 32

def passthroughTooLarge (env : CommandEnv) (readWrite dataSize : BitVec 8) : Bool :=
  if readWrite = 0 then decide ((dataSize.toNat : ℤ) > toUInt (env.MOTOSH_PASSTHROUGH_SIZE - 1))
  else decide ((dataSize.toNat : ℤ) > toUInt (env.MOTOSH_PASSTHROUGH_SIZE - 6))

def passthroughRequest (env : CommandEnv) (readWrite dataSize : BitVec 8) :
    List CommandAccess :=
  if passthroughTooLarge env readWrite dataSize then []
  else
    .event .passthrough ::
      if env.ret ≠ 0 then []
      else
        fills .ptData env.reply env.MOTOSH_PASSTHROUGH_SIZE ++
          if readWrite = 0 then loads .ptData 0 dataSize.toNat else []

def passthrough (env : CommandEnv) : List CommandAccess :=
  if argv.length < 6 then []
  else if !env.malloc then []
  else
    let input := convertArgs argv .ptData (argv.length - 2) 2 0
    .alloc .ptData env.MOTOSH_PASSTHROUGH_SIZE :: (input.1 ++
      match input.2 with
      | none => []
      | some xs => .load .ptData 4 :: .load .ptData 5 ::
          passthroughRequest env (xs.getD 4 (env.garbage 4)) (xs.getD 5 (env.garbage 5)))

/-- The byte that the argument stands for; two hex digits stand for their value. -/
structure ArgValue (i : ℕ) (x : BitVec 8) : Prop where
  converted : convertArg argv i = [x]
  digits : ∀ c d hi lo, argv[i]? = some [c, d] → hexDigit c = some hi → hexDigit d = some lo →
    x = BitVec.ofInt 8 (16 * hi + lo)

/-- The message of `WRITE_REG`: address, size and as many data bytes, which are the arguments
from the third on and no others. -/
structure WriteExact (m : Memory Buffer (BitVec 8)) : Prop where
  bytes : ∀ o < m.size .dataPtr, ∃ x, m.cell .dataPtr o = some x ∧
    ArgValue argv (STM_MAX_GENERIC_COMMAND_LEN + o) x
  size : ∃ hi lo, m.cell .dataPtr 2 = some hi ∧ m.cell .dataPtr 3 = some lo ∧
    m.size .dataPtr = STM_MAX_GENERIC_HEADER + (hi.toNat * 2 ^ 8 + lo.toNat)
  args : argv.length = STM_MAX_GENERIC_COMMAND_LEN + m.size .dataPtr

def EventSafe (m : Memory Buffer (BitVec 8)) : CommandEvent → Prop
  | .arg i => i < argv.length
  | .writeReg => WriteExact argv m
  | .readReg => True
  | .passthrough => True

def noMemory : Memory Buffer (BitVec 8) := ⟨fun _ => 0, fun _ _ => none⟩

def CommandSafe (accesses : List CommandAccess) : Prop :=
  SafeRun (EventSafe argv) noMemory accesses

end Commands

/-- Up to and including the first argument that does not encode exactly one byte, every
argument's bytes fit behind the ones before it. -/
def Fits (argv : List (List (BitVec 8))) (n i o size : ℕ) : Prop :=
  ∀ k < n, (∀ j < k, (convertArg argv (i + j)).length = 1) →
    convertArg argv (i + k) = [] ∨ o + k + (convertArg argv (i + k)).length ≤ size

def AllBytes (argv : List (List (BitVec 8))) (n i : ℕ) : Prop :=
  ∀ k < n, (convertArg argv (i + k)).length = 1

section Loop
variable {argv : List (List (BitVec 8))} {b : Buffer} {m : Memory Buffer (BitVec 8)}

theorem convertArgs_none {n i o : ℕ} (h : (convertArgs argv b n i o).2 = none) :
    ¬ AllBytes argv n i := by
  induction n generalizing i o with
  | zero => cases h
  | succ n ih =>
    intro hall
    have hfirst : (convertArg argv i).length = 1 := hall 0 (Nat.succ_pos n)
    rw [convertArgs, if_neg (not_not.mpr hfirst)] at h
    refine ih (Option.map_eq_none_iff.mp h) fun k hk => ?_
    have hk' := hall (k + 1) (Nat.succ_lt_succ hk)
    rwa [Nat.add_assoc, Nat.add_comm 1]

theorem convertArgs_some {n i o : ℕ} {xs : List (BitVec 8)}
    (h : (convertArgs argv b n i o).2 = some xs) :
    xs.length = n ∧ (∀ k (hk : k < xs.length), convertArg argv (i + k) = [xs[k]]) ∧
      (convertArgs argv b n i o).1.foldl Memory.after m = m.lay b o xs := by
  induction n generalizing i o xs m with
  | zero =>
    rw [← Option.some.inj h]
    exact ⟨rfl, fun k hk => absurd hk (Nat.not_lt_zero k), foldl_stores o []⟩
  | succ n ih =>
    by_cases hlen : (convertArg argv i).length = 1
    · obtain ⟨x, hx⟩ := List.length_eq_one_iff.mp hlen
      rw [convertArgs, if_neg (not_not.mpr hlen)] at h
      obtain ⟨ys, hys, rfl⟩ := Option.map_eq_some_iff.mp h
      obtain ⟨hlength, hbytes, hmem⟩ := ih (m := m.lay b o [x]) hys
      refine ⟨?_, fun k hk => ?_, ?_⟩
      · rw [hx, List.length_append, hlength, List.length_singleton, Nat.add_comm]
      · simp only [hx, List.singleton_append] at hk ⊢
        cases k with
        | zero => exact hx
        | succ k =>
          have hk' := hbytes k (Nat.lt_of_succ_lt_succ hk)
          rw [Nat.add_assoc, Nat.add_comm 1] at hk'
          exact hk'
      · have hfirst : (Access.event (.arg i) :: stores b o (convertArg argv i) :
            List CommandAccess).foldl Memory.after m = m.lay b o [x] := by
          rw [hx]
          exact foldl_stores o [x]
        rw [convertArgs, if_neg (not_not.mpr hlen)]
        dsimp only
        rw [List.foldl_append, hfirst, hmem, hx]
        exact lay_lay o [x] ys
    · rw [convertArgs, if_pos hlen] at h
      cases h

theorem safeRun_convertArgs {n i o : ℕ} (hargs : i + n ≤ argv.length) :
    SafeRun (EventSafe argv) m (convertArgs argv b n i o).1 ↔ Fits argv n i o (m.size b) := by
  induction n generalizing i o m with
  | zero => exact iff_of_true trivial fun k hk => absurd hk (Nat.not_lt_zero k)
  | succ n ih =>
    have hfirst : SafeRun (EventSafe argv) m
        (.event (.arg i) :: stores b o (convertArg argv i)) ↔
          convertArg argv i = [] ∨ o + (convertArg argv i).length ≤ m.size b := by
      rw [safeRun_event, safeRun_stores]
      exact and_iff_right (by
        change i < argv.length
        omega)
    by_cases hlen : (convertArg argv i).length = 1
    · rw [convertArgs, if_neg (not_not.mpr hlen)]
      dsimp only
      rw [safeRun_append, hfirst, List.foldl_cons, foldl_stores, ih (by omega)]
      constructor
      · rintro ⟨hhead, htail⟩ k hk hbefore
        cases k with
        | zero => exact hhead
        | succ k =>
          have hk' := htail k (Nat.lt_of_succ_lt_succ hk) fun j hj => by
            have hj' := hbefore (j + 1) (Nat.succ_lt_succ hj)
            rwa [Nat.add_assoc, Nat.add_comm 1]
          rwa [Nat.add_assoc i, Nat.add_comm 1 k, Nat.add_assoc o, Nat.add_comm 1 k] at hk'
      · intro h
        refine ⟨h 0 (Nat.succ_pos n) fun j hj => absurd hj (Nat.not_lt_zero j),
          fun k hk hbefore => ?_⟩
        have hk' := h (k + 1) (Nat.succ_lt_succ hk) fun j hj => by
          cases j with
          | zero => exact hlen
          | succ j =>
            have hj' := hbefore j (Nat.lt_of_succ_lt_succ hj)
            rwa [Nat.add_assoc, Nat.add_comm 1] at hj'
        rw [Nat.add_assoc i, Nat.add_comm 1 k, Nat.add_assoc o, Nat.add_comm 1 k]
        exact hk'
    · rw [convertArgs, if_pos hlen, hfirst]
      constructor
      · intro hhead k hk hbefore
        cases k with
        | zero => exact hhead
        | succ k => exact absurd (hbefore 0 (Nat.succ_pos k)) hlen
      · intro h
        exact h 0 (Nat.succ_pos n) fun j hj => absurd hj (Nat.not_lt_zero j)

end Loop
end Cedric.Motosh
