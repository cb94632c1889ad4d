import Mathlib.Data.Int.Order.Basic
import Mathlib.Data.List.Basic

/-!
# Interrupted ioctls

The library and the tool repeat an `ioctl` while its error is `-EINTR`. The kernel
leaves a positive number in `errno`, so the first reply is always the last.
-/

namespace Cedric.Motosh

def EINTR : ℕ := 4

structure Reply where
  status : ℤ
  errno : ℕ
  deriving DecidableEq

namespace Reply

variable (r : Reply)

def Interrupted : Prop := r.status < 0 ∧ r.errno = EINTR

def Again : Prop := r.status ≠ 0 ∧ (r.errno : ℤ) = -EINTR

instance : Decidable r.Interrupted := inferInstanceAs (Decidable (_ ∧ _))
instance : Decidable r.Again := inferInstanceAs (Decidable (_ ∧ _))

theorem not_again : ¬ r.Again := by
  rintro ⟨-, herrno⟩
  have hpos : (0 : ℤ) ≤ r.errno := Int.natCast_nonneg _
  simp only [EINTR] at herrno
  omega

end Reply

def ioctlLoop : List Reply → Option Reply
  | [] => none
  | r :: replies => if r.Again then ioctlLoop replies else some r

def retryIoctl (fd : ℤ) (errno : ℕ) (replies : List Reply) : Option Reply :=
  if fd < 0 then some ⟨fd, errno⟩ else ioctlLoop replies

def motoshIoctl (replies : List Reply) : Option Reply := ioctlLoop replies

structure Replies where
  earlier : List Reply
  last : Reply
  ends : ¬ last.Interrupted

namespace Replies

variable (s : Replies)

def all : List Reply := s.earlier ++ [s.last]

def First (r : Reply) : Prop :=
  ∃ pre post, s.all = pre ++ r :: post ∧ (∀ x ∈ pre, x.Interrupted) ∧ ¬ r.Interrupted

structure Retried : Prop where
  hub : ∀ fd errno, 0 ≤ fd → ∃ r, retryIoctl fd errno s.all = some r ∧ s.First r
  tool : ∃ r, motoshIoctl s.all = some r ∧ s.First r

end Replies

theorem ioctlLoop_cons (r : Reply) (replies : List Reply) :
    ioctlLoop (r :: replies) = some r := if_neg r.not_again

/-- Both functions retry as they should exactly if the first reply is no interruption. -/
theorem retried_iff (s : Replies) : s.Retried ↔ ∀ r ∈ s.all.head?, ¬ r.Interrupted := by
  obtain ⟨first, rest, hall⟩ := List.exists_cons_of_length_pos
    (show 0 < s.all.length by simp [Replies.all])
  have hloop : ioctlLoop s.all = some first := by rw [hall, ioctlLoop_cons]
  have hhead : (∀ r ∈ s.all.head?, ¬ r.Interrupted) ↔ ¬ first.Interrupted := by
    simp [hall]
  rw [hhead]
  constructor
  · intro h
    obtain ⟨r, hr, -, -, -, -, hanswer⟩ := h.tool
    rw [motoshIoctl, hloop] at hr
    rwa [Option.some.inj hr]
  · intro hfirst
    have hanswer : s.First first := by
      refine ⟨[], rest, hall, ?_, hfirst⟩
      simp
    refine ⟨fun fd errno hfd => ⟨first, ?_, hanswer⟩, first, hloop, hanswer⟩
    rw [retryIoctl, if_neg (not_lt.mpr hfd), hloop]

/-- An interrupted call that would have succeeded when repeated. -/
def interruptedOnce : Replies where
  earlier := [⟨-1, EINTR⟩]
  last := ⟨0, EINTR⟩
  ends := by decide

theorem interruption_returned : ¬ interruptedOnce.Retried := by
  intro h
  obtain ⟨r, hr, -, -, -, -, hanswer⟩ := h.tool
  have hreply : r = ⟨-1, EINTR⟩ := (Option.some.inj hr).symm
  rw [hreply] at hanswer
  exact absurd (by decide) hanswer

end Cedric.Motosh
