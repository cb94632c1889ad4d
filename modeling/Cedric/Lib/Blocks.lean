import Mathlib.Data.Multiset.AddSub
import Mathlib.Data.Multiset.UnionInter

/-!
# Blocks and who owns them

Blocks are given out one by one and released; a release of a block that is not live faults.
`Owns` says that the live blocks are those of the owner, each once, so that a program that
keeps it neither leaks a block nor releases one twice. The same goes for file descriptors.
-/

namespace Cedric

structure Blocks where
  live : Multiset ℕ
  next : ℕ
  faulted : Bool

namespace Blocks

variable (h : Blocks)

def alloc : Blocks := { h with live := h.next ::ₘ h.live, next := h.next + 1 }

def release (b : ℕ) : Blocks :=
  if b ∈ h.live then { h with live := h.live.erase b } else { h with faulted := true }

structure Owns (owned : Multiset ℕ) : Prop where
  live : h.live = owned
  once : owned.Nodup
  given : ∀ b ∈ owned, b < h.next
  sound : h.faulted = false

variable {h} {owned rest : Multiset ℕ} {b : ℕ}

theorem Owns.alloc (ho : h.Owns owned) : h.alloc.Owns (h.next ::ₘ owned) where
  live := congrArg (h.next ::ₘ ·) ho.live
  once := Multiset.nodup_cons.mpr ⟨fun hmem => Nat.lt_irrefl _ (ho.given _ hmem), ho.once⟩
  given b hb := by
    obtain rfl | hb := Multiset.mem_cons.mp hb
    · exact Nat.lt_succ_self _
    · exact Nat.lt_succ_of_lt (ho.given b hb)
  sound := ho.sound

theorem Owns.release (ho : h.Owns (b ::ₘ rest)) : (h.release b).Owns rest := by
  have hmem : b ∈ h.live := ho.live ▸ Multiset.mem_cons_self b rest
  rw [Blocks.release, if_pos hmem]
  refine ⟨?_, (Multiset.nodup_cons.mp ho.once).2, fun b' hb' => ?_, ho.sound⟩
  · rw [ho.live, Multiset.erase_cons_head]
  · exact ho.given b' (Multiset.mem_cons_of_mem hb')

end Blocks
end Cedric
