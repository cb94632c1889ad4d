import Cedric.Lib.Stretches
import Cedric.LineageActions.DozeSensors

/-!
# The time in the pocket

A phone is in the pocket for the stretch of stowed reports in front of the report that it
is not. `StowSensor` measures from the last of these reports, so a sensor that repeats its
value makes the time shorter.
-/

namespace Cedric.LineageActions

open Stretches

structure StowReport where
  thisStowed : Bool
  now : ℤ

def StowReport.Stowed (r : StowReport) : Prop := r.thisStowed = true

namespace StowSensor

def after (s : StowSensor) (past : List StowReport) : StowSensor :=
  past.foldl (fun s r => (s.onSensorChanged r.thisStowed r.now).1) s

def actsAt (s : StowSensor) (past : List StowReport) (now : ℤ) : Bool :=
  ((s.after past).onSensorChanged false now).2

/-- At a not-stowed report the phone was in the pocket long enough. -/
def LongStowed (past : List StowReport) (now : ℤ) : Prop :=
  ∃ first last, Stretch StowReport.Stowed past first last ∧ now - first.now ≥ IN_POCKET_MIN_TIME

def ActsOnPocketTime (s : StowSensor) (reports : List StowReport) : Prop :=
  ∀ past now rest, reports = past ++ ⟨false, now⟩ :: rest →
    (s.actsAt past now = true ↔ LongStowed past now)

/-- The last stowed report of a long stretch is as long ago, and a registration that begins with a
not-stowed report finds no long time left from the one before. -/
def MeasuresPocketTime (s : StowSensor) (reports : List StowReport) : Prop :=
  ∀ past now rest, reports = past ++ ⟨false, now⟩ :: rest →
    (past = [] → s.mLastStowed = true → now - s.isStowedTime < IN_POCKET_MIN_TIME) ∧
      ∀ first last, Stretch StowReport.Stowed past first last →
        now - first.now ≥ IN_POCKET_MIN_TIME → now - last.now ≥ IN_POCKET_MIN_TIME

variable {s : StowSensor} {past : List StowReport} {now : ℤ}

theorem actsAt_nil (s : StowSensor) (now : ℤ) :
    s.actsAt [] now = true ↔ s.mLastStowed = true ∧ now - s.isStowedTime ≥ IN_POCKET_MIN_TIME := by
  simp [actsAt, after, onSensorChanged]

theorem actsAt_concat (s : StowSensor) (past : List StowReport) (r : StowReport) (now : ℤ) :
    s.actsAt (past ++ [r]) now = true ↔ r.Stowed ∧ now - r.now ≥ IN_POCKET_MIN_TIME := by
  obtain ⟨thisStowed, time⟩ := r
  cases thisStowed with
  | false => simp [actsAt, after, List.foldl_append, onSensorChanged, StowReport.Stowed]
  | true => simp [actsAt, after, List.foldl_append, onSensorChanged, StowReport.Stowed]

theorem actsAt_stretch {first last : StowReport} (h : Stretch StowReport.Stowed past first last)
    (s : StowSensor) (now : ℤ) :
    s.actsAt past now = true ↔ now - last.now ≥ IN_POCKET_MIN_TIME := by
  obtain ⟨hlast, init, rfl⟩ := h.last_kind
  rw [actsAt_concat, and_iff_right hlast]

/-- With a clock that does not go back, a time measured from the last report of a stretch is no
longer than the stretch. -/
theorem longStowed_of_actsAt (hclock : past.Pairwise fun r r' => r.now ≤ r'.now)
    (hpast : past ≠ []) (hacts : s.actsAt past now = true) : LongStowed past now := by
  obtain ⟨init, r, rfl⟩ := (List.eq_nil_or_concat past).resolve_left hpast
  rw [List.concat_eq_append] at *
  obtain ⟨hstowed, htime⟩ := (actsAt_concat s init r now).mp hacts
  obtain ⟨first, hstretch⟩ := exists_stretch init hstowed
  have hfirst : first.now ≤ r.now := hstretch.related (fun _ => Int.le_refl _) hclock
  exact ⟨first, r, hstretch, by omega⟩

/-- For every registration, `action` is called at the end of the long stretches exactly if no report
within them is late. -/
theorem acts_on_pocket_time_iff (s : StowSensor) {reports : List StowReport}
    (hclock : reports.Pairwise fun r r' => r.now ≤ r'.now) :
    s.ActsOnPocketTime reports ↔ s.MeasuresPocketTime reports := by
  constructor
  · intro h past now rest hsplit
    refine ⟨?_, fun first last hstretch hlong => ?_⟩
    · rintro rfl hlast
      by_contra htime
      have hacts := (actsAt_nil s now).mpr ⟨hlast, Int.not_lt.mp htime⟩
      obtain ⟨first, last, hstretch, -⟩ := (h [] now rest hsplit).mp hacts
      obtain ⟨-, init, hnil⟩ := hstretch.last_kind
      exact List.append_ne_nil_of_right_ne_nil init (List.cons_ne_nil last []) hnil.symm
    · exact (actsAt_stretch hstretch s now).mp
        ((h past now rest hsplit).mpr ⟨first, last, hstretch, hlong⟩)
  · intro h past now rest hsplit
    obtain ⟨hstart, hmeasured⟩ := h past now rest hsplit
    constructor
    · intro hacts
      have hpast : past ≠ [] := by
        rintro rfl
        obtain ⟨hlast, htime⟩ := (actsAt_nil s now).mp hacts
        exact absurd (hstart rfl hlast) (Int.not_lt.mpr htime)
      rw [hsplit] at hclock
      exact longStowed_of_actsAt (List.pairwise_append.mp hclock).1 hpast hacts
    · rintro ⟨first, last, hstretch, hlong⟩
      exact (actsAt_stretch hstretch s now).mpr (hmeasured first last hstretch hlong)

theorem acts_on_pocket_time_once :
    ActsOnPocketTime .start [⟨true, 0⟩, ⟨false, 6000⟩] := by
  refine (acts_on_pocket_time_iff .start (by decide)).mpr fun past now rest hsplit => ?_
  rcases past with _ | ⟨r, _ | ⟨r', past⟩⟩
  · simp at hsplit
  · obtain ⟨rfl, rfl, -⟩ : r = ⟨true, 0⟩ ∧ now = 6000 ∧ rest = [] := by
      simpa [eq_comm] using hsplit
    refine ⟨fun hnil => absurd hnil (List.cons_ne_nil _ _), fun first last hstretch _ => ?_⟩
    obtain ⟨-, init, hlast⟩ := hstretch.last_kind
    obtain ⟨-, hlast⟩ := List.append_inj' ((List.nil_append _).trans hlast) rfl
    rw [← (List.cons.inj hlast).1]
    decide
  · simp at hsplit

/-- The phone is in the pocket for six seconds and the sensor reports it twice. -/
theorem repeated_report_restarts :
    ¬ ActsOnPocketTime .start [⟨true, 0⟩, ⟨true, 4000⟩, ⟨false, 6000⟩] := by
  intro h
  have hlong : LongStowed [⟨true, 0⟩, ⟨true, 4000⟩] 6000 :=
    ⟨⟨true, 0⟩, ⟨true, 4000⟩, ⟨[], _, rfl, rfl, rfl, by simp [StowReport.Stowed], by simp⟩,
      by decide⟩
  exact absurd ((h [⟨true, 0⟩, ⟨true, 4000⟩] 6000 [] rfl).mpr hlong) (by decide)

end StowSensor
end Cedric.LineageActions
