import Mathlib.Data.Nat.Notation
import Mathlib.Logic.Function.Basic
import Mathlib.Tactic.SplitIfs

/-!
# The compass daemon's parameters

`AKSCPRMS` with the members that the measurement and the setting file use. The number of
formations is the integrator's to choose; it is `k + 1` here.
-/

namespace Cedric.Akmd

structure Int16vec where
  x : Int16
  y : Int16
  z : Int16
  deriving DecidableEq

structure Int32vec where
  x : Int32
  y : Int32
  z : Int32
  deriving DecidableEq

instance : Zero Int16vec := ⟨⟨0, 0, 0⟩⟩

instance : Zero Int32vec := ⟨⟨0, 0, 0⟩⟩

def Int16vec.toInt32vec (v : Int16vec) : Int32vec := ⟨v.x.toInt32, v.y.toInt32, v.z.toInt32⟩

/-- The setting file's number is cast to the enumeration whatever it is. -/
abbrev HDST := Int32

def HDST.unsolved : HDST := 0

structure HFLUCVAR where
  href : Int16vec
  th : Int16
  deriving DecidableEq

inductive PATNO where
  | invalid | pat1 | pat2 | pat3 | pat4 | pat5 | pat6 | pat7 | pat8
  deriving DecidableEq

abbrev Form (k : ℕ) := Fin (k + 1)

def Form.default (k : ℕ) : Form k := ⟨0, Nat.succ_pos k⟩

/-- What one estimation of the offset leaves for its formation. -/
structure Estimate where
  hdst : HDST
  ho : Int16vec
  href : Int16vec
  hbase : Int32vec
  deriving DecidableEq

/-- The members that the setting file holds. -/
structure Setting (k : ℕ) where
  hsucHdst : Form k → HDST
  hsucHo : Form k → Int16vec
  hflucvHref : Form k → Int16vec
  hsucHbase : Form k → Int32vec
  mAO : Int16vec

section Setting

variable {k : ℕ} (p : Setting k) (i j : Form k) (e : Estimate)

def Setting.estimate : Estimate :=
  ⟨p.hsucHdst i, p.hsucHo i, p.hflucvHref i, p.hsucHbase i⟩

def Setting.setEstimate : Setting k :=
  { p with
    hsucHdst := Function.update p.hsucHdst i e.hdst
    hsucHo := Function.update p.hsucHo i e.ho
    hflucvHref := Function.update p.hflucvHref i e.href
    hsucHbase := Function.update p.hsucHbase i e.hbase }

theorem Setting.estimate_setEstimate :
    (p.setEstimate i e).estimate j = if j = i then e else p.estimate j := by
  split_ifs with h
  · subst h
    simp only [estimate, setEstimate, Function.update_self]
  · simp only [estimate, setEstimate, Function.update_of_ne h]

variable {p} {q : Setting k}

theorem Setting.ext_estimate (h : ∀ i, p.estimate i = q.estimate i) (hAO : p.mAO = q.mAO) :
    p = q := by
  have hget : ∀ i, p.hsucHdst i = q.hsucHdst i ∧ p.hsucHo i = q.hsucHo i ∧
      p.hflucvHref i = q.hflucvHref i ∧ p.hsucHbase i = q.hsucHbase i :=
    fun i => Estimate.mk.inj (h i)
  obtain ⟨_, _, _, _, _⟩ := p
  obtain ⟨_, _, _, _, _⟩ := q
  refine (Setting.mk.injEq ..).mpr ⟨?_, ?_, ?_, ?_, hAO⟩
  · exact funext fun i => (hget i).1
  · exact funext fun i => (hget i).2.1
  · exact funext fun i => (hget i).2.2.1
  · exact funext fun i => (hget i).2.2.2

end Setting

abbrev Hdata := Fin 32 → Int16vec

/-- `AKSCPRMS`. Nothing but the library looks into `mHdoev`. -/
structure AKSCPRMS (k : ℕ) (H : Type) extends Setting k where
  mHo : Int16vec
  mHo32 : Int32vec
  mHs : Int16vec
  mHflucv : HFLUCVAR
  mHdata : Hdata
  mHn : Int16
  mHvec : Int16vec
  mAsa : Int16vec
  mPdcptr : Option (List UInt8)
  mHdoev : H
  mHdst : HDST
  mForm : Form k
  mCntSuspend : Int16
  mHnave : Int16
  mHlayout : PATNO
  mCallcnt : Int16
  mHbase : Int32vec

/-- `SetDefaultPRMS`. The offset of the accelerometer stays as it is. -/
def setDefaultPRMS {k : ℕ} (p : Setting k) : Setting k :=
  { p with
    hsucHdst := fun _ => HDST.unsolved
    hsucHo := fun _ => 0
    hflucvHref := fun _ => 0
    hsucHbase := fun _ => 0 }

def Estimate.unsolved : Estimate := ⟨HDST.unsolved, 0, 0, 0⟩

theorem estimate_setDefaultPRMS {k : ℕ} (p : Setting k) (i : Form k) :
    (setDefaultPRMS p).estimate i = Estimate.unsolved := rfl

end Cedric.Akmd
