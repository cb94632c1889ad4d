import Cedric.Akmd.Measure
import Cedric.Akmd.SettingFile
import Cedric.Lib.Runs

/-!
# The daemon

`main` in daemon mode: the parameters are loaded when the compass is opened and saved when it is
closed; between the two every measurement may estimate the offset anew. The daemon may be
started again at any time, also while it saves.
-/

namespace Cedric.Akmd

open DecimalText Runs

variable {k : ℕ} {H : Type}

structure Daemon (k : ℕ) (H : Type) where
  prms : AKSCPRMS k H
  file : Option Text

inductive Event (k : ℕ) (H : Type) where
  | started (hdoev : H) (asa : Int16vec) (pdcptr : Option (List UInt8)) (layout : PATNO)
  | opened (junk : Text → Int32) (fopen fclose : Bool) (form : Form k)
  | measured (c : Call k)
  | closed (s : Saving)

/-- `if (LoadParameters(&prms) == 0) SetDefaultPRMS(&prms);`, where a file that is not opened is
as good as none. -/
def loadOrDefault (file : Option Text) (junk : Text → Int32) (fopen fclose : Bool)
    (p : Setting k) : Setting k :=
  let r := loadParameters (if fopen then file else none) junk fclose p
  if r.1 then r.2 else setDefaultPRMS r.2

def Daemon.step (lib : AKSC H) (d : Daemon k H) : Event k H → Daemon k H × List (Estimation k)
  | .started hdoev asa pdcptr layout =>
    ({ d with prms := initAKSCPRMS hdoev asa pdcptr layout }, [])
  | .opened junk fopen fclose form =>
    let setting := loadOrDefault d.file junk fopen fclose d.prms.toSetting
    ({ d with prms := initMeasure lib { d.prms with toSetting := setting } form }, [])
  | .measured c =>
    let r := getMagneticVector lib d.prms c
    ({ d with prms := r.prms }, r.estimation.toList)
  | .closed s => ({ d with file := (saveParameters s d.prms.toSetting d.file).2 }, [])

variable {lib : AKSC H}

variable (lib) in
theorem countSuspend_toSetting (p : AKSCPRMS k H) :
    (countSuspend lib p).toSetting = p.toSetting := by
  rw [countSuspend]
  split_ifs
  · rfl
  · rfl
  · rfl

theorem unsolveUnlessSuspended_toSetting (p : AKSCPRMS k H) :
    (unsolveUnlessSuspended lib p).toSetting = p.toSetting := by
  rw [unsolveUnlessSuspended]
  split_ifs
  · rfl
  · rfl

theorem normalize_toSetting (ave : Int16vec) (p : AKSCPRMS k H) :
    (normalize lib ave p).2.toSetting = p.toSetting := by
  rw [normalize]
  split_ifs
  · rfl
  · rfl

/-- A call leaves the setting as it is, or makes an estimation that succeeds and keeps what it
found. -/
def Kept (p : Setting k) (r : Measured k H) : Prop :=
  r.prms.toSetting = p ∨
    ∃ s, r.estimation = some s ∧ 0 < s.hdSucc ∧ r.prms.toSetting = p.setEstimate s.form s.estimate

theorem kept_estimateOffset (ave : Int16vec) (p : AKSCPRMS k H) (hDecimator : Int16) :
    Kept p.toSetting (estimateOffset lib ave p hDecimator) := by
  simp only [estimateOffset]
  split_ifs with hdenied hsucc
  · exact Or.inl rfl
  · refine Or.inr ⟨_, rfl, hsucc, ?_⟩
    rw [normalize_toSetting]
    rfl
  · refine Or.inl ?_
    rw [normalize_toSetting]

theorem kept_trackOffset (ave : Int16vec) (p : AKSCPRMS k H) (hDecimator : Int16) :
    Kept p.toSetting (trackOffset lib ave p hDecimator) := by
  simp only [trackOffset]
  split_ifs with hsuspend hfluc hdue
  · exact Or.inl rfl
  · exact kept_estimateOffset ave _ hDecimator
  · exact Or.inl (normalize_toSetting ave _)
  · exact Or.inl (normalize_toSetting ave p)

theorem kept_getMagneticVector (p : AKSCPRMS k H) (c : Call k) :
    Kept p.toSetting (getMagneticVector lib p c) := by
  rw [← countSuspend_toSetting lib p]
  simp only [getMagneticVector]
  split_ifs with hret hform hderr hhofl hcb
  · exact Or.inl rfl
  · exact Or.inl rfl
  · exact Or.inl rfl
  · exact Or.inl (unsolveUnlessSuspended_toSetting _)
  · exact Or.inl (unsolveUnlessSuspended_toSetting _)
  · exact kept_trackOffset _ _ _

def Whole (made : List (Estimation k)) (p : Setting k) : Prop :=
  ∀ i, p.estimate i = Estimate.unsolved ∨
    ∃ s ∈ made, s.form = i ∧ 0 < s.hdSucc ∧ s.estimate = p.estimate i

theorem Whole.mono {made made' : List (Estimation k)} {p : Setting k} (h : Whole made p)
    (hsub : made ⊆ made') : Whole made' p :=
  fun i => (h i).imp_right fun ⟨s, hs, heq⟩ => ⟨s, hsub hs, heq⟩

theorem whole_setDefaultPRMS (made : List (Estimation k)) (p : Setting k) :
    Whole made (setDefaultPRMS p) :=
  fun i => Or.inl (estimate_setDefaultPRMS p i)

theorem Whole.kept {made : List (Estimation k)} {p : Setting k} {r : Measured k H}
    (h : Whole made p) (hr : Kept p r) :
    Whole (made ++ r.estimation.toList) r.prms.toSetting := by
  obtain hr | ⟨s, hs, hsucc, hr⟩ := hr
  · rw [hr]
    exact h.mono (List.subset_append_left _ _)
  · intro i
    rw [hr, Setting.estimate_setEstimate]
    split_ifs with hi
    · refine Or.inr ⟨s, List.mem_append_right _ ?_, hi.symm, hsucc, rfl⟩
      rw [hs]
      exact List.mem_singleton_self s
    · exact (h.mono (List.subset_append_left _ _)) i

/-- The file is a save of such a setting as far as it reached the disk. -/
def WholeFile (made : List (Estimation k)) (file : Option Text) : Prop :=
  ∀ fp ∈ file, ∃ (p : Setting k) (kept : ℕ), Whole made p ∧ fp = (saveText p).take kept

theorem WholeFile.mono {made made' : List (Estimation k)} {file : Option Text}
    (h : WholeFile made file) (hsub : made ⊆ made') : WholeFile made' file := by
  intro fp hfp
  obtain ⟨p, kept, hp, heq⟩ := h fp hfp
  exact ⟨p, kept, hp.mono hsub, heq⟩

theorem WholeFile.load {made : List (Estimation k)} {file : Option Text} (h : WholeFile made file)
    (junk : Text → Int32) (fopen fclose : Bool) (p : Setting k) :
    Whole made (loadOrDefault file junk fopen fclose p) := by
  have hopened : WholeFile made (if fopen then file else none) := by
    cases fopen with
    | false => exact fun fp hfp => absurd hfp (Option.not_mem_none fp)
    | true => exact h
  rw [loadOrDefault]
  generalize (if fopen then file else none) = opened at hopened
  split_ifs with hret
  · cases opened with
    | none => exact nomatch hret
    | some fp =>
      obtain ⟨q, kept, hq, rfl⟩ := hopened fp rfl
      obtain ⟨vec, -, hload⟩ := loadParameters_torn q p kept junk fclose hret
      rw [hload]
      exact hq
  · exact whole_setDefaultPRMS made _

theorem WholeFile.save {made : List (Estimation k)} {file : Option Text} (h : WholeFile made file)
    {p : Setting k} (hp : Whole made p) (s : Saving) :
    WholeFile made (saveParameters s p file).2 := by
  rw [saveParameters]
  split_ifs
  · intro fp hfp
    exact ⟨p, s.kept, hp, (Option.mem_some_iff.mp hfp).symm⟩
  · exact h

variable (lib) in
theorem whole_step {made : List (Estimation k)} {d : Daemon k H}
    (h : Whole made d.prms.toSetting ∧ WholeFile made d.file) (ev : Event k H) :
    Whole (made ++ (d.step lib ev).2) (d.step lib ev).1.prms.toSetting ∧
      WholeFile (made ++ (d.step lib ev).2) (d.step lib ev).1.file := by
  obtain ⟨hp, hfile⟩ := h
  cases ev with
  | started hdoev asa pdcptr layout =>
    exact ⟨fun i => Or.inl rfl, hfile.mono (List.subset_append_left _ _)⟩
  | opened junk fopen fclose form =>
    have hload := hfile.load junk fopen fclose d.prms.toSetting
    exact ⟨hload.mono (List.subset_append_left _ _), hfile.mono (List.subset_append_left _ _)⟩
  | measured c =>
    exact ⟨hp.kept (kept_getMagneticVector d.prms c), hfile.mono (List.subset_append_left _ _)⟩
  | closed s =>
    have hsave := hfile.save hp s
    exact ⟨hp.mono (List.subset_append_left _ _), hsave.mono (List.subset_append_left _ _)⟩

def Daemon.new (hdoev : H) (asa : Int16vec) (pdcptr : Option (List UInt8)) (layout : PATNO) :
    Daemon k H :=
  ⟨initAKSCPRMS hdoev asa pdcptr layout, none⟩

theorem transduce_whole (lib : AKSC H) (d : Daemon k H) (made : List (Estimation k))
    (h : Whole made d.prms.toSetting ∧ WholeFile made d.file) (evs : List (Event k H)) :
    Whole (made ++ (transduce (Daemon.step lib) d evs).2)
      (transduce (Daemon.step lib) d evs).1.prms.toSetting := by
  induction evs generalizing d made with
  | nil =>
    rw [transduce, List.append_nil]
    exact h.1
  | cons ev evs ih =>
    have hrest := ih _ _ (whole_step lib h ev)
    rwa [List.append_assoc] at hrest

/-- However the daemon is started, opened, closed and cut off while it saves, what it holds for a
formation was found by one successful estimation in that formation, or nothing was. -/
theorem estimates_whole (lib : AKSC H) (hdoev : H) (asa : Int16vec) (pdcptr : Option (List UInt8))
    (layout : PATNO) (evs : List (Event k H)) (i : Form k) :
    let r := transduce (Daemon.step lib) (Daemon.new hdoev asa pdcptr layout) evs
    r.1.prms.estimate i = Estimate.unsolved ∨
      ∃ s ∈ r.2, s.form = i ∧ 0 < s.hdSucc ∧ s.estimate = r.1.prms.estimate i :=
  transduce_whole lib (Daemon.new hdoev asa pdcptr layout) [] ⟨fun _ => Or.inl rfl, nofun⟩ evs i

def runDaemon (lib : AKSC H) (d : Daemon k H) (evs : List (Event k H)) : Daemon k H :=
  evs.foldl (fun d ev => (d.step lib ev).1) d

/-- What stood in the parameters when they were last saved. -/
def lastSaved (lib : AKSC H) : Daemon k H → Option (Setting k) → List (Event k H) →
    Option (Setting k)
  | _, last, [] => last
  | d, last, ev :: evs =>
    let last := match ev with
      | .closed s => if s.fopen then some d.prms.toSetting else last
      | _ => last
    lastSaved lib (d.step lib ev).1 last evs

def SavedWhole (d : Daemon k H) : Event k H → Prop
  | .closed s => s.fopen → (saveText d.prms.toSetting).length ≤ s.kept
  | _ => True

instance (d : Daemon k H) (ev : Event k H) : Decidable (SavedWhole d ev) :=
  match ev with
  | .closed s => inferInstanceAs (Decidable (s.fopen → (saveText d.prms.toSetting).length ≤ s.kept))
  | .started .. | .opened .. | .measured _ => inferInstanceAs (Decidable True)

variable (lib) in
theorem file_lastSaved (d : Daemon k H) (last : Option (Setting k))
    (hfile : d.file = last.map saveText) (evs : List (Event k H))
    (hwhole : Along (fun d ev => (Daemon.step lib d ev).1) SavedWhole d evs) :
    (runDaemon lib d evs).file = (lastSaved lib d last evs).map saveText := by
  induction evs generalizing d last with
  | nil => exact hfile
  | cons ev evs ih =>
    obtain ⟨hev, hwhole⟩ := hwhole
    refine ih _ _ ?_ hwhole
    cases ev with
    | started hdoev asa pdcptr layout => exact hfile
    | opened junk fopen fclose form => exact hfile
    | measured c => exact hfile
    | closed s =>
      simp only [Daemon.step, saveParameters]
      split_ifs with hopen
      · rw [List.take_of_length_le (hev hopen), Option.map_some]
      · exact hfile

/-- Where every save reached the disk whole, a compass that opens and closes its file goes on with
what was last saved, whatever happened since, or with the defaults where nothing ever was. -/
theorem opened_lastSaved (lib : AKSC H) (hdoev : H) (asa : Int16vec) (pdcptr : Option (List UInt8))
    (layout : PATNO) (evs : List (Event k H))
    (hwhole : Along (fun d ev => (Daemon.step lib d ev).1) SavedWhole
      (Daemon.new hdoev asa pdcptr layout) evs) (junk : Text → Int32) (form : Form k) :
    let d := runDaemon lib (Daemon.new hdoev asa pdcptr layout) evs
    (d.step lib (.opened junk true true form)).1.prms.toSetting =
      (lastSaved lib (Daemon.new hdoev asa pdcptr layout) none evs).getD
        (setDefaultPRMS d.prms.toSetting) := by
  have hfile := file_lastSaved lib (Daemon.new hdoev asa pdcptr layout) none rfl evs hwhole
  simp only [Daemon.step, loadOrDefault, hfile, ↓reduceIte]
  cases hlast : lastSaved lib (Daemon.new hdoev asa pdcptr layout) none evs with
  | none => rfl
  | some p =>
    rw [Option.map_some, loadParameters_saveText]
    rfl

/-- The offset is estimated at the first measurement, saved, and the daemon started anew. -/
def restingEvents : List (Event 0 Unit) :=
  [.opened (fun _ => 7) true true (.default 0), .measured ⟨[], .default 0, 1⟩,
    .closed ⟨true, 400, true, true, true⟩, .started () 0 none .pat1]

theorem opened_restingEvents :
    let d := runDaemon restingLibrary (Daemon.new () 0 none .pat1) restingEvents
    (d.step restingLibrary (.opened (fun _ => 7) true true (.default 0))).1.prms.toSetting =
      (lastSaved restingLibrary (Daemon.new () 0 none .pat1) none restingEvents).getD
        (setDefaultPRMS d.prms.toSetting) :=
  opened_lastSaved restingLibrary () 0 none .pat1 restingEvents (by decide +kernel) (fun _ => 7)
    (.default 0)

end Cedric.Akmd
