import Cedric.Motosh.Download

/-!
# The boot command

The command flashes the hub if it is forced to or the version check finds a
mismatch. It retries a download that fails, up to three times, and checks the
version after the first one that does not. A mismatch is checked once more and
then only logged: the result of the command does not depend on it.

`flash_capsense`, `stm_processBlackList` and `configure_capsense` return nothing
that the rest reads and are left out; the files are those found after them.
-/

namespace Cedric.Motosh

open ByteStream

def STM_SUCCESS : ℤ := 0
def STM_FAILURE : ℤ := -1
def STM_DOWNLOADRETRIES : ℕ := 3

/-- What the command meets; `drivers` and `fails` number the downloads, `checks` the version
checks, the first of which is made before any download. -/
structure BootEnv where
  forceBoot : Bool
  files : World
  normalMode : ℤ
  polls : ℕ → SensorHub
  opens : Bool
  drivers : ℕ → Driver
  fails : ℕ → ℕ → Bool
  checks : ℕ → World

inductive BootEvent
  | download (r : Download)
  | check (result : VersionResult)
  | booted

structure BootOutcome where
  ret : ℤ
  events : List BootEvent

namespace BootEnv

variable (e : BootEnv) (m : Module)

def attempt (content : List (BitVec 8)) (fuel tries : ℕ) : Option Download :=
  m.stmDownloadFirmware (e.drivers tries) (e.fails tries) content fuel

/-- The reset after a download has no effect on the result, which is overwritten. -/
def afterDownload : List BootEvent :=
  if (e.checks 1).stmVersionCheck m ≠ .STM_VERSION_MATCH then
    [.check ((e.checks 1).stmVersionCheck m), .check ((e.checks 2).stmVersionCheck m)]
  else [.check ((e.checks 1).stmVersionCheck m)]

/-- The retry loop with `left` attempts to go; the second component is `tries` after it. -/
def retryDownload (content : List (BitVec 8)) (fuel : ℕ) : ℕ → ℕ → Option (List BootEvent × ℕ)
  | 0, tries => some ([], tries)
  | left + 1, tries =>
    match e.attempt m content fuel tries with
    | none => none
    | some r =>
      if r.ret ≥ STM_SUCCESS then some (.download r :: e.afterDownload m, tries)
      else
        (retryDownload content fuel left (tries + 1)).map fun p => (.download r :: p.1, p.2)

def waitForHub : ℤ :=
  if (List.range 20).any fun i => decide ((e.polls i).getFlashCrc ≠ 0) then STM_SUCCESS
  else STM_FAILURE

def boot (fuel : ℕ) : Option BootOutcome :=
  match e.files.stmGetFwFile with
  | .error err => some ⟨err, []⟩
  | .ok content =>
    if e.normalMode < 0 then some ⟨e.normalMode, []⟩
    else if e.forceBoot ∨ (e.checks 0).stmVersionCheck m = .STM_VERSION_MISMATCH then
      if !e.opens then some ⟨-1, []⟩
      else
        (e.retryDownload m content fuel STM_DOWNLOADRETRIES 0).map fun p =>
          if p.2 ≥ STM_DOWNLOADRETRIES then ⟨-1, p.1⟩ else ⟨0, p.1 ++ [.booted]⟩
    else some ⟨e.waitForHub, [.booted]⟩

structure Flashes (content : List (BitVec 8)) : Prop where
  file : e.files.stmGetFwFile = .ok content
  normal : 0 ≤ e.normalMode
  decides : e.forceBoot = true ∨ (e.checks 0).stmVersionCheck m = .STM_VERSION_MISMATCH
  opens : e.opens = true

end BootEnv

namespace BootOutcome

variable (o : BootOutcome)

def Succeeds : Prop := .booted ∈ o.events ∧ STM_SUCCESS ≤ o.ret

/-- A version check after the last download found a match. -/
def Verified : Prop :=
  ∃ before r after, o.events = before ++ .download r :: after ∧ (∀ r', .download r' ∉ after) ∧
    .check .STM_VERSION_MATCH ∈ after

def GaveUp : Prop :=
  o.ret < STM_SUCCESS ∧ ∃ rs : List Download, rs.length = STM_DOWNLOADRETRIES ∧
    o.events = rs.map .download

end BootOutcome

/-- A command that flashes ends, if the file can be read to its end; it succeeds after a match
only and gives up otherwise. -/
structure BootEnv.ReportsFlash (e : BootEnv) (m : Module) (content : List (BitVec 8)) : Prop where
  returns : (∀ k, Sound (e.fails k) (opened content)) → ∃ o, ∀ k,
    e.boot m (k + content.length + 2) = some o
  verified : ∀ fuel o, e.boot m fuel = some o → o.Succeeds → o.Verified
  fails : ∀ fuel o, e.boot m fuel = some o → ¬ o.Succeeds → o.GaveUp

/-- The version or the CRC of the file cannot be read, or the hub has both. -/
def World.Agrees (w : World) (m : Module) : Prop :=
  w.stmGetFwVersionFromFile = [] ∨ (∃ err, w.stmCalcFwFileCrc m = .error err) ∨
    w.hub.getVersionStr = w.stmGetFwVersionFromFile ∧ w.hub.getFlashCrc ≠ 0 ∧
      w.stmCalcFwFileCrc m = .ok w.hub.getFlashCrc

theorem World.versionCheck_match_iff (w : World) (m : Module) :
    w.stmVersionCheck m = .STM_VERSION_MATCH ↔ w.Agrees m := by
  rw [World.stmVersionCheck, World.Agrees]
  by_cases hversion : w.stmGetFwVersionFromFile = []
  · exact iff_of_true (if_pos hversion) (Or.inl hversion)
  simp only [hversion, ↓reduceIte, false_or]
  cases hcrc : w.stmCalcFwFileCrc m with
  | error err => exact iff_of_true rfl (Or.inl ⟨err, rfl⟩)
  | ok fileCrc =>
    by_cases hhub : w.hub.getVersionStr = []
    · simp [hhub, Ne.symm hversion]
    by_cases hzero : w.hub.getFlashCrc = 0#32
    · simp [hhub, hzero]
    simp [hhub, hzero]

namespace BootEnv

variable {e : BootEnv} {m : Module} {content : List (BitVec 8)}

theorem check_mem_afterDownload :
    .check .STM_VERSION_MATCH ∈ e.afterDownload m ↔
      (e.checks 1).Agrees m ∨ (e.checks 2).Agrees m := by
  rw [← World.versionCheck_match_iff, ← World.versionCheck_match_iff, afterDownload]
  split_ifs with h
  · simp [Ne.symm h, h, eq_comm]
  · rw [not_not] at h
    simp [h]

theorem download_not_mem_afterDownload (r : Download) : .download r ∉ e.afterDownload m := by
  rw [afterDownload]
  split_ifs <;> simp

theorem retryDownload_cases {fuel left tries : ℕ} {p : List BootEvent × ℕ}
    (h : e.retryDownload m content fuel left tries = some p) :
    ∃ failed : List Download,
      (∀ i (hi : i < failed.length), e.attempt m content fuel (tries + i) = some failed[i]) ∧
      (∀ r ∈ failed, r.ret < 0) ∧
      (failed.length = left ∧ p = (failed.map .download, tries + left) ∨
        failed.length < left ∧ ∃ r, e.attempt m content fuel (tries + failed.length) = some r ∧
          0 ≤ r.ret ∧
          p = (failed.map .download ++ .download r :: e.afterDownload m, tries + failed.length)) := by
  induction left generalizing tries p with
  | zero =>
    rw [← Option.some.inj h]
    exact ⟨[], fun i hi => absurd hi (Nat.not_lt_zero i), fun r hr => absurd hr List.not_mem_nil,
      Or.inl ⟨rfl, rfl⟩⟩
  | succ left ih =>
    rw [retryDownload] at h
    cases hattempt : e.attempt m content fuel tries with
    | none =>
      rw [hattempt] at h
      cases h
    | some r =>
      rw [hattempt] at h
      by_cases hret : r.ret ≥ STM_SUCCESS
      · simp only [if_pos hret] at h
        rw [← Option.some.inj h]
        exact ⟨[], fun i hi => absurd hi (Nat.not_lt_zero i),
          fun r hr => absurd hr List.not_mem_nil,
          Or.inr ⟨Nat.succ_pos left, r, hattempt, hret, rfl⟩⟩
      · simp only [if_neg hret] at h
        obtain ⟨p', hp', rfl⟩ := Option.map_eq_some_iff.mp h
        obtain ⟨failed, hruns, hneg, hend⟩ := ih hp'
        refine ⟨r :: failed, fun i hi => ?_, fun r' hr' => ?_, ?_⟩
        · cases i with
          | zero => exact hattempt
          | succ i =>
            have hi' := hruns i (Nat.lt_of_succ_lt_succ hi)
            rw [Nat.add_assoc, Nat.add_comm 1] at hi'
            exact hi'
        · rcases List.mem_cons.mp hr' with rfl | hr'
          · exact not_le.mp hret
          · exact hneg r' hr'
        · rcases hend with ⟨hlen, rfl⟩ | ⟨hlen, r', hr', hpos, rfl⟩
          · refine Or.inl ⟨congrArg Nat.succ hlen, ?_⟩
            simp only [List.map_cons, Prod.mk.injEq, true_and]
            omega
          · refine Or.inr ⟨Nat.succ_lt_succ hlen, r', ?_, hpos, ?_⟩
            · rw [List.length_cons, Nat.add_comm failed.length, ← Nat.add_assoc]
              exact hr'
            · simp only [List.map_cons, List.cons_append, List.length_cons, Prod.mk.injEq,
                true_and]
              omega

theorem retryDownload_of_success {fuel i left tries : ℕ} (hi : i < left)
    (hbefore : ∀ j < i, ∃ r, e.attempt m content fuel (tries + j) = some r ∧ r.ret < STM_SUCCESS)
    {r : Download} (hr : e.attempt m content fuel (tries + i) = some r) (hret : STM_SUCCESS ≤ r.ret) :
    ∃ failed : List Download, e.retryDownload m content fuel left tries =
      some (failed.map .download ++ .download r :: e.afterDownload m, tries + i) := by
  induction i generalizing left tries with
  | zero =>
    obtain ⟨left, rfl⟩ := Nat.exists_eq_succ_of_ne_zero (Nat.ne_of_gt hi)
    rw [Nat.add_zero] at hr
    refine ⟨[], ?_⟩
    simp only [retryDownload, hr, ge_iff_le, if_pos hret]
    rfl
  | succ i ih =>
    obtain ⟨left, rfl⟩ := Nat.exists_eq_succ_of_ne_zero (Nat.ne_of_gt (Nat.zero_lt_of_lt hi))
    obtain ⟨r₀, hr₀, hneg⟩ := hbefore 0 (Nat.succ_pos i)
    rw [Nat.add_zero] at hr₀
    have hshift (j : ℕ) : tries + (j + 1) = tries + 1 + j := by omega
    have hr' : e.attempt m content fuel (tries + 1 + i) = some r := by rwa [← hshift]
    obtain ⟨failed, hrun⟩ := ih (Nat.lt_of_succ_lt_succ hi)
      (fun j hj => by rw [← hshift]; exact hbefore (j + 1) (Nat.succ_lt_succ hj)) hr'
    refine ⟨r₀ :: failed, ?_⟩
    simp only [retryDownload, hr₀, ge_iff_le, if_neg (not_le.mpr hneg), hrun]
    rw [hshift i]
    rfl

theorem retryDownload_returns (h : ∀ k, Sound (e.fails k) (opened content)) (left tries : ℕ) :
    ∃ p, ∀ k, e.retryDownload m content (k + content.length + 2) left tries = some p := by
  induction left generalizing tries with
  | zero => exact ⟨_, fun _ => rfl⟩
  | succ left ih =>
    obtain ⟨r, hr⟩ : ∃ r, ∀ k, e.attempt m content (k + content.length + 2) tries = some r := by
      rcases m.download_cases (e.drivers tries) (e.fails tries) content with
        ⟨-, ret, -, hrun⟩ | ⟨-, hrun⟩
      · exact ⟨_, fun k => hrun _⟩
      · obtain ⟨r, hsend, -, -⟩ := Module.send_sound (m := m) (d := e.drivers tries) (j := 0) rfl
          (Module.SendSound.of_sound (h tries)) (e.drivers tries).setStartAddr
        exact ⟨r, fun k => (hrun _).trans (hsend k)⟩
    obtain ⟨p, hp⟩ := ih (tries + 1)
    by_cases hret : r.ret ≥ STM_SUCCESS
    · refine ⟨(.download r :: e.afterDownload m, tries), fun k => ?_⟩
      simp only [retryDownload, hr k, if_pos hret]
    · refine ⟨(.download r :: p.1, p.2), fun k => ?_⟩
      simp only [retryDownload, hr k, if_neg hret, hp k, Option.map_some]

theorem boot_of_flashes (h : e.Flashes m content) (fuel : ℕ) :
    e.boot m fuel = (e.retryDownload m content fuel STM_DOWNLOADRETRIES 0).map fun p =>
      if p.2 ≥ STM_DOWNLOADRETRIES then ⟨-1, p.1⟩ else ⟨0, p.1 ++ [.booted]⟩ := by
  simp only [boot, h.file, if_neg (not_lt.mpr h.normal), if_pos h.decides, h.opens,
    Bool.not_true, Bool.false_eq_true, ↓reduceIte]

/-- Of the three attempts, the first whose download reports no error is followed by a check
that agrees. -/
def Confirmed (e : BootEnv) (m : Module) (content : List (BitVec 8)) : Prop :=
  ∀ fuel, ∀ i < STM_DOWNLOADRETRIES,
    (∀ j < i, ∃ r, e.attempt m content fuel j = some r ∧ r.ret < STM_SUCCESS) →
    (∃ r, e.attempt m content fuel i = some r ∧ STM_SUCCESS ≤ r.ret) →
      (e.checks 1).Agrees m ∨ (e.checks 2).Agrees m

theorem succeeds_of_download {failed : List Download} {r : Download} :
    BootOutcome.Succeeds
      ⟨0, (failed.map .download ++ .download r :: e.afterDownload m) ++ [.booted]⟩ :=
  ⟨List.mem_append_right _ (List.mem_singleton_self _), le_rfl⟩

theorem verified_iff {failed : List Download} {r : Download} :
    BootOutcome.Verified
        ⟨0, (failed.map .download ++ .download r :: e.afterDownload m) ++ [.booted]⟩ ↔
      (e.checks 1).Agrees m ∨ (e.checks 2).Agrees m := by
  rw [← check_mem_afterDownload]
  constructor
  · rintro ⟨before, r', after, heq, hnone, hmatch⟩
    have hmem : BootEvent.check .STM_VERSION_MATCH ∈
        (failed.map .download ++ .download r :: e.afterDownload m) ++ [.booted] := by
      dsimp only at heq
      rw [heq]
      exact List.mem_append_right _ (List.mem_cons_of_mem _ hmatch)
    simpa using hmem
  · intro hmatch
    refine ⟨failed.map .download, r, e.afterDownload m ++ [.booted], ?_, fun r' hr' => ?_, ?_⟩
    · simp only [List.append_assoc, List.cons_append]
    · rcases List.mem_append.mp hr' with hr' | hr'
      · exact download_not_mem_afterDownload r' hr'
      · cases List.mem_singleton.mp hr'
    · exact List.mem_append_left _ hmatch

end BootEnv

/-- A boot command that flashes reports what became of it, exactly if the check after the first
download without an error, or the second check, agrees. -/
theorem reportsFlash_iff (e : BootEnv) (m : Module) {content : List (BitVec 8)}
    (h : e.Flashes m content) : e.ReportsFlash m content ↔ e.Confirmed m content := by
  constructor
  · intro hreports fuel i hi hbefore ⟨r, hr, hret⟩
    rw [← Nat.zero_add i] at hr
    obtain ⟨failed, hrun⟩ := BootEnv.retryDownload_of_success hi
      (fun j hj => by rw [Nat.zero_add]; exact hbefore j hj) hr hret
    have hboot : e.boot m fuel =
        some ⟨0, (failed.map .download ++ .download r :: e.afterDownload m) ++ [.booted]⟩ := by
      rw [BootEnv.boot_of_flashes h, hrun, Option.map_some, if_neg (by omega)]
    exact BootEnv.verified_iff.mp
      (hreports.verified fuel _ hboot BootEnv.succeeds_of_download)
  · intro hconfirmed
    have houtcome {fuel : ℕ} {o : BootOutcome} (ho : e.boot m fuel = some o) :
        ¬ o.Succeeds ∧ o.GaveUp ∨ o.Succeeds ∧ o.Verified := by
      rw [BootEnv.boot_of_flashes h] at ho
      obtain ⟨p, hp, rfl⟩ := Option.map_eq_some_iff.mp ho
      obtain ⟨failed, hruns, hneg, hend⟩ := BootEnv.retryDownload_cases hp
      rcases hend with ⟨hlen, rfl⟩ | ⟨hlen, r, hr, hpos, rfl⟩
      · left
        rw [if_pos (Nat.le_add_left _ _)]
        have hneg : (-1 : ℤ) < STM_SUCCESS := by decide
        exact ⟨fun hs => absurd hs.2 (not_le.mpr hneg), hneg, failed, hlen, rfl⟩
      · right
        rw [if_neg (by omega)]
        refine ⟨BootEnv.succeeds_of_download, BootEnv.verified_iff.mpr ?_⟩
        rw [Nat.zero_add] at hr
        refine hconfirmed fuel failed.length hlen (fun j hj => ?_) ⟨r, hr, hpos⟩
        have hj' := hruns j hj
        rw [Nat.zero_add] at hj'
        exact ⟨failed[j], hj', hneg _ (List.getElem_mem hj)⟩
    refine ⟨fun hsound => ?_, fun fuel o ho hs => ?_, fun fuel o ho hs => ?_⟩
    · obtain ⟨p, hp⟩ := BootEnv.retryDownload_returns (m := m) hsound STM_DOWNLOADRETRIES 0
      exact ⟨_, fun k => (BootEnv.boot_of_flashes h _).trans (congrArg _ (hp k))⟩
    · rcases houtcome ho with ⟨hnot, -⟩ | ⟨-, hv⟩
      · exact absurd hs hnot
      · exact hv
    · rcases houtcome ho with ⟨-, hgave⟩ | ⟨hsucc, -⟩
      · exact hgave
      · exact absurd hsucc hs

/-- The hub takes every packet and still answers with another version afterwards. -/
def stubbornHub : BootEnv where
  forceBoot := true
  files := ⟨fun _ => some versionFile, ⟨true, true, true, fun _ => false⟩,
    ⟨true, true, true, fun _ => false⟩, ⟨3, 16, fun _ _ => some fun _ => 1⟩, 20, [], fun _ => 0⟩
  normalMode := 0
  polls _ := ⟨3, 16, fun _ _ => some fun _ => 1⟩
  opens := true
  drivers _ := ⟨0, 0, 0, fun _ => 0⟩
  fails _ _ := false
  checks _ := ⟨fun _ => some versionFile, ⟨true, true, true, fun _ => false⟩,
    ⟨true, true, true, fun _ => false⟩, ⟨3, 16, fun _ _ => some fun _ => 1⟩, 20, [], fun _ => 0⟩

theorem reportsFlash_stubborn :
    stubbornHub.ReportsFlash MODULE_stml0xx versionFile ↔
      stubbornHub.Confirmed MODULE_stml0xx versionFile :=
  reportsFlash_iff stubbornHub MODULE_stml0xx ⟨rfl, le_rfl, Or.inl rfl, rfl⟩

theorem mismatch_reported_as_booted :
    stubbornHub.Flashes MODULE_stml0xx versionFile ∧
      ¬ stubbornHub.ReportsFlash MODULE_stml0xx versionFile := by
  refine ⟨⟨rfl, le_rfl, Or.inl rfl, rfl⟩, fun h => ?_⟩
  have hmismatch : ¬ (stubbornHub.checks 1).Agrees MODULE_stml0xx := by
    rw [← World.versionCheck_match_iff]
    decide +kernel
  have hfirst : stubbornHub.attempt MODULE_stml0xx versionFile 2 (0 + 0) =
      some ⟨[versionFile.map .read ++ List.replicate 5 .fill], 0, ⟨[], 13, true⟩⟩ := rfl
  have hleft : 0 < STM_DOWNLOADRETRIES := by decide
  obtain ⟨failed, hrun⟩ := BootEnv.retryDownload_of_success hleft
    (fun j hj => absurd hj (Nat.not_lt_zero j)) hfirst le_rfl
  have hboot := (BootEnv.boot_of_flashes ⟨rfl, le_rfl, Or.inl rfl, rfl⟩ 2).trans
    (congrArg _ hrun)
  have hagrees := BootEnv.verified_iff.mp
    (h.verified 2 _ hboot BootEnv.succeeds_of_download)
  exact hagrees.elim hmismatch hmismatch

end Cedric.Motosh
