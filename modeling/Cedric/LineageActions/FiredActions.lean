import Cedric.LineageActions.KeyHandler

/-!
# What a fired action calls

The calls behind the `switch` of `fireFPAction` that follow what the system answers. The services
are there, and so is what the documentation of the platform never leaves out; a resolved
activity, the list of tasks, the activity on top of a task and the side a camera faces may be
`null`. The other actions only send keys.
-/

namespace Cedric.LineageActions

open Calls Call

def LENS_FACING_BACK : ℤ := 1

/-- `characteristics` is `none` where the camera cannot be asked, and what they say of `LENS_FACING`
otherwise. -/
structure Camera where
  id : String
  characteristics : Option (Option ℤ)

structure RunningTaskInfo where
  id : ℤ
  topActivity : Option String

/-- The package is that of its `applicationInfo`. -/
structure ActivityInfo where
  packageName : String
  name : String
  deriving DecidableEq

inductive CameraIntent
  | INTENT_ACTION_STILL_IMAGE_CAMERA | INTENT_ACTION_STILL_IMAGE_CAMERA_SECURE
  deriving DecidableEq

open CameraIntent

/-- What the system answers while an action runs; `launcherInfo` is the package of the activity
that is resolved, and there are no cameras where the list cannot be read. -/
structure Answers where
  inKeyguardRestrictedInputMode : Bool
  packageName : String
  launcherInfo : Option String
  runningTasks : Option (List RunningTaskInfo)
  cameras : List Camera
  resolveActivity : CameraIntent → Option ActivityInfo
  queryIntentActivities : CameraIntent → List ActivityInfo

/-- The camera that was found, and what was started and brought to the front, in order. -/
structure Actions where
  mRearCameraId : Option String
  started : List (CameraIntent × Option ActivityInfo)
  movedToFront : List ℤ

namespace Actions

variable (answers : Answers)

def findRearCamera : List Camera → Call Actions Unit
  | [] => pure ()
  | camera :: cameras =>
    match camera.characteristics with
    | none => pure ()
    | some lensFacing => do
      let cOrientation ← deref lensFacing
      if cOrientation = LENS_FACING_BACK then
        update fun s => { s with mRearCameraId := some camera.id }
      else findRearCamera cameras

def getRearCameraId : Call Actions (Option String) := do
  if (← get mRearCameraId) = none then
    findRearCamera answers.cameras
  get mRearCameraId

/-- A camera that is found only changes the torch. -/
def toggleFlashlight : Call Actions Unit := do
  let _ ← getRearCameraId answers
  pure ()

/-- The second `getBestActivityInfo`; its loop runs from the end of the list. -/
def bestMatch (intent : CameraIntent) (info : Option ActivityInfo) : Option ActivityInfo :=
  match answers.queryIntentActivities intent, info with
  | [], _ => none
  | first :: _, none => some first
  | first :: rest, some info =>
    some ((first :: rest).foldr
      (fun activity best => if info.packageName = activity.packageName then activity else best)
      first)

def getBestActivityInfo (intent : CameraIntent) : Option ActivityInfo :=
  match answers.resolveActivity intent with
  | some activityInfo => some activityInfo
  | none => bestMatch answers intent none

def startActivity (intent : CameraIntent) (component : Option ActivityInfo) : Call Actions Unit :=
  update fun s => { s with started := s.started ++ [(intent, component)] }

def launchCamera : Call Actions Unit :=
  if (getBestActivityInfo answers INTENT_ACTION_STILL_IMAGE_CAMERA).isSome then
    startActivity INTENT_ACTION_STILL_IMAGE_CAMERA none
  else pure ()

def launchSecureCamera : Call Actions Unit :=
  let normalActivity := getBestActivityInfo answers INTENT_ACTION_STILL_IMAGE_CAMERA
  match bestMatch answers INTENT_ACTION_STILL_IMAGE_CAMERA_SECURE normalActivity with
  | none => pure ()
  | some secureActivity =>
    startActivity INTENT_ACTION_STILL_IMAGE_CAMERA_SECURE (some secureActivity)

def triggerCameraAction : Call Actions Unit :=
  if answers.inKeyguardRestrictedInputMode then launchSecureCamera answers
  else launchCamera answers

def resolveCurrentLauncherPackage : Call Actions String := deref answers.launcherInfo

def isSkipped (defaultHomePackage packageName : String) : Bool :=
  packageName == defaultHomePackage || packageName == answers.packageName ||
    packageName == "com.android.systemui"

def findLastTask (defaultHomePackage : String) :
    List RunningTaskInfo → Call Actions (Option RunningTaskInfo)
  | [] => pure none
  | task :: tasks => do
    let packageName ← deref task.topActivity
    if isSkipped answers defaultHomePackage packageName then findLastTask defaultHomePackage tasks
    else pure (some task)

def getLastTask : Call Actions (Option RunningTaskInfo) := do
  let defaultHomePackage ← resolveCurrentLauncherPackage answers
  let tasks ← deref answers.runningTasks
  findLastTask answers defaultHomePackage (tasks.drop 1)

def switchToLastApp : Call Actions Unit := do
  match ← getLastTask answers with
  | none => pure ()
  | some lastTask => update fun s => { s with movedToFront := s.movedToFront ++ [lastTask.id] }

def call (action : ℤ) : Call Actions Unit :=
  if action = ACTION_FLASHLIGHT then toggleFlashlight answers
  else if action = ACTION_CAMERA then triggerCameraAction answers
  else if action = ACTION_LAST_APP then switchToLastApp answers
  else pure ()

/-- The search for the camera goes on behind this one. -/
def Camera.passed (camera : Camera) : Bool :=
  match camera.characteristics with
  | some (some cOrientation) => cOrientation != LENS_FACING_BACK
  | _ => false

/-- The first camera that ends the search does not end it with `null`. -/
def FlashlightSafe (s : Actions) : Prop :=
  s.mRearCameraId = none →
    ∀ camera ∈ answers.cameras.find? (!Camera.passed ·), camera.characteristics ≠ some none

def RunningTaskInfo.passed (defaultHomePackage : String) (task : RunningTaskInfo) : Bool :=
  (task.topActivity.map (isSkipped answers defaultHomePackage)).getD false

/-- Launcher and tasks are there, and the first task that ends the search has an activity. -/
def LastAppSafe : Prop :=
  ∃ defaultHomePackage tasks, answers.launcherInfo = some defaultHomePackage ∧
    answers.runningTasks = some tasks ∧
    ∀ task ∈ (tasks.drop 1).find? (!RunningTaskInfo.passed answers defaultHomePackage ·),
      task.topActivity ≠ none

def CallSafe (s : Actions) (action : ℤ) : Prop :=
  if action = ACTION_FLASHLIGHT then s.FlashlightSafe answers
  else if action = ACTION_LAST_APP then LastAppSafe answers
  else True

variable {answers} {s : Actions}

theorem returns_findRearCamera_iff (cameras : List Camera) :
    Returns (findRearCamera cameras) s ↔
      ∀ camera ∈ cameras.find? (!Camera.passed ·), camera.characteristics ≠ some none := by
  induction cameras with
  | nil => exact iff_of_true (returns_pure _) nofun
  | cons camera cameras ih =>
    rw [findRearCamera, List.find?_cons]
    rcases hfacing : camera.characteristics with - | - | cOrientation
    · have hpassed : Camera.passed camera = false := by rw [Camera.passed, hfacing]
      simp only [hpassed, Bool.not_false, Option.mem_some_iff, forall_eq', hfacing]
      exact iff_of_true (returns_pure _) nofun
    · have hpassed : Camera.passed camera = false := by rw [Camera.passed, hfacing]
      simp only [hpassed, Bool.not_false, Option.mem_some_iff, forall_eq', hfacing]
      exact iff_of_false (fun h => h rfl) fun h => h rfl
    · have hpassed : Camera.passed camera = (cOrientation != LENS_FACING_BACK) := by
        rw [Camera.passed, hfacing]
      change Returns (if cOrientation = LENS_FACING_BACK then _ else _) s ↔ _
      rw [hpassed]
      by_cases hback : cOrientation = LENS_FACING_BACK
      · simp only [hback, bne_self_eq_false, Bool.not_false, Option.mem_some_iff, forall_eq', hfacing,
          if_true]
        exact iff_of_true (returns_update _) nofun
      · rw [if_neg hback, bne_iff_ne.mpr hback]
        exact ih

theorem returns_toggleFlashlight_iff :
    Returns (toggleFlashlight answers) s ↔ s.FlashlightSafe answers := by
  rw [toggleFlashlight, FlashlightSafe, ← returns_findRearCamera_iff (s := s)]
  refine (returns_bind_iff.trans (exists_congr fun _ => and_iff_left (returns_pure _))).trans
    (Option.ne_none_iff_exists'.symm.trans ?_)
  rw [← Returns, getRearCameraId, Returns, get_bind]
  by_cases hnone : s.mRearCameraId = none
  · rw [if_pos hnone, forall_prop_of_true hnone]
    exact returns_unit_bind_iff.trans (and_iff_left (Option.some_ne_none _))
  · rw [if_neg hnone]
    exact iff_of_true (Option.some_ne_none _) fun h => absurd h hnone

theorem returns_startActivity (intent : CameraIntent) (component : Option ActivityInfo) :
    Returns (startActivity intent component) s := returns_update _

theorem returns_triggerCameraAction : Returns (triggerCameraAction answers) s := by
  refine Returns.ite ?_ (Returns.ite (returns_startActivity _ _) (returns_pure _))
  rw [launchSecureCamera]
  cases bestMatch answers INTENT_ACTION_STILL_IMAGE_CAMERA_SECURE _ with
  | none => exact returns_pure _
  | some secureActivity => exact returns_startActivity _ _

theorem returns_findLastTask_iff (defaultHomePackage : String) (tasks : List RunningTaskInfo) :
    Returns (findLastTask answers defaultHomePackage tasks) s ↔
      ∀ task ∈ tasks.find? (!RunningTaskInfo.passed answers defaultHomePackage ·),
        task.topActivity ≠ none := by
  induction tasks with
  | nil => exact iff_of_true (returns_pure _) nofun
  | cons task tasks ih =>
    rw [findLastTask, List.find?_cons, RunningTaskInfo.passed, returns_deref_bind_iff]
    cases htop : task.topActivity with
    | none =>
      simp only [Option.map_none, Option.getD_none, Bool.not_false, Option.mem_some_iff, forall_eq',
        htop]
      exact iff_of_false nofun fun h => h rfl
    | some packageName =>
      simp only [Option.map_some, Option.getD_some, Option.some.injEq, exists_eq_left']
      cases isSkipped answers defaultHomePackage packageName with
      | true => exact ih
      | false =>
        simp only [Bool.not_false, Option.mem_some_iff, forall_eq', htop]
        exact iff_of_true (returns_pure _) nofun

theorem returns_switchToLastApp_iff :
    Returns (switchToLastApp answers) s ↔ LastAppSafe answers := by
  have hmoves (found : Option RunningTaskInfo) (t : Actions) : Returns (match found with
      | none => pure ()
      | some lastTask =>
        update fun s : Actions => { s with movedToFront := s.movedToFront ++ [lastTask.id] }) t := by
    cases found with
    | none => exact returns_pure _
    | some lastTask => exact returns_update _
  refine (returns_bind_iff.trans (exists_congr fun found => and_iff_left (hmoves found _))).trans
    (Option.ne_none_iff_exists'.symm.trans ?_)
  rw [← Returns, getLastTask, resolveCurrentLauncherPackage, returns_deref_bind_iff, LastAppSafe]
  refine exists_congr fun defaultHomePackage => ?_
  rw [returns_deref_bind_iff, ← exists_and_left]
  simp only [returns_findLastTask_iff]

theorem returns_call_iff (action : ℤ) :
    Returns (call answers action) s ↔ s.CallSafe answers action := by
  rw [call, CallSafe]
  split_ifs with hflashlight hcamera hlast hlast'
  · exact returns_toggleFlashlight_iff
  · exact absurd (hcamera.symm.trans hlast) (by decide)
  · exact iff_of_true returns_triggerCameraAction trivial
  · exact returns_switchToLastApp_iff
  · exact iff_of_true (returns_pure _) trivial

end Actions
end Cedric.LineageActions
