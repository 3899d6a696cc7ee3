import AssetOverlay.Overlay
import AssetOverlay.Package.Survey

/-!
# Reloading

A reload throws all assets away, loads the packages of a root folder and then the registered files.
It takes in what the survey of the root found, item by item.  Every item either becomes an asset in
force or is logged as an error, and is counted on the way; none stops the others.

The entries of one package are counted on their own first, because the log tells how many of them
failed.
-/

namespace AssetOverlay

/-- How far taking in the entries of one package has come. -/
structure EntryIntake where
  overlay : Overlay
  /-- The entries that became assets. -/
  loaded : Nat
  /-- The entries that failed. -/
  failed : Nat
  events : List Event

namespace EntryIntake

/-- Takes in the attempt to load the entry with the given index. -/
def take (intake : EntryIntake) (title : String) (index : Nat) (attempt : Attempt) :
    EntryIntake :=
  match attempt.outcome with
  | .ok asset =>
    let (next, replaced) := intake.overlay.put asset
    { intake with
      overlay := next
      loaded := intake.loaded + 1
      events := intake.events ++ attempt.events ++ replaced }
  | .error fault =>
    { intake with
      failed := intake.failed + 1
      events := intake.events ++ attempt.events ++ [.entryFailed title index fault] }

/-- Takes in attempts one after the other, the first of which has the given index. -/
def takeAll (intake : EntryIntake) (title : String) (index : Nat) : List Attempt → EntryIntake
  | [] => intake
  | attempt :: rest => (intake.take title index attempt).takeAll title (index + 1) rest

end EntryIntake

/-- How far a reload has come. -/
structure Intake where
  overlay : Overlay
  report : ReloadReport
  events : List Event

namespace Intake

/-- Takes in what was found in the folder of a package. -/
def takePackage (intake : Intake) : PackageSurvey → Intake
  | .skipped manifest fault =>
    { intake with
      report := { intake.report with packageErrors := intake.report.packageErrors + 1 }
      events := intake.events ++ [.packageSkipped manifest fault] }
  | .read title attempts =>
    let entries := EntryIntake.takeAll ⟨intake.overlay, 0, 0, []⟩ title 0 attempts
    { overlay := entries.overlay
      report := { intake.report with
        packagesLoaded := intake.report.packagesLoaded + 1
        assetsLoaded := intake.report.assetsLoaded + entries.loaded
        entryErrors := intake.report.entryErrors + entries.failed }
      events := intake.events ++ .packageRead title :: entries.events ++
        if entries.failed = 0 then [] else [.packageDone title entries.failed] }

/-- Takes in the attempt to create a root that was missing. -/
def takeCreation (intake : Intake) (root : Path) (creation : Option FileFailure) : Intake :=
  { intake with events := intake.events ++ (creation.map (Event.rootNotCreated root)).toList }

/-- Takes in the packages of a root, or the failure to list them. -/
def takePackages (intake : Intake) : Except Fault (List PackageSurvey) → Intake
  | .error fault =>
    { intake with
      report := { intake.report with packageErrors := intake.report.packageErrors + 1 }
      events := intake.events ++ [.rootNotListed fault] }
  | .ok packages => packages.foldl takePackage intake

/-- Takes in a survey. -/
def takeSurvey (intake : Intake) (survey : Survey) : Intake :=
  (intake.takeCreation survey.root survey.creation).takePackages survey.packages

/-- Loads a registered file again. -/
def takeRegistration (files : FileTree) (intake : Intake) (registration : Path × Key) : Intake :=
  match loadRawFile files registration.1 registration.2 with
  | .ok asset =>
    let (next, replaced) := intake.overlay.put asset
    { overlay := next
      report := { intake.report with assetsLoaded := intake.report.assetsLoaded + 1 }
      events := intake.events ++ replaced }
  | .error fault =>
    { intake with
      report := { intake.report with entryErrors := intake.report.entryErrors + 1 }
      events := intake.events ++ [.registrationFailed registration.2 fault] }

end Intake

namespace Overlay

/-- What a reload leaves behind. -/
structure Reload where
  overlay : Overlay
  files : FileTree
  report : ReloadReport
  events : List Event

/-- An overlay without its assets, before anything was loaded again. -/
def cleared (overlay : Overlay) : Intake :=
  ⟨{ overlay with catalogue := .empty }, .zero, []⟩

/-- Throws all assets away and loads the packages of a root folder and the registered files. -/
def reload (overlay : Overlay) (files : FileTree) (root : Path) : Reload :=
  let (prepared, survey) := Survey.ofRoot files root
  let complete := overlay.registrations.foldl (Intake.takeRegistration prepared)
    (overlay.cleared.takeSurvey survey)
  { overlay := complete.overlay
    files := prepared
    report := complete.report
    events := complete.events ++ [.reloaded root complete.report] }

/-- Obeys the command to reload, unless a match is running. -/
def reloadCommand (overlay : Overlay) (files : FileTree) (root : Path) (inGame : Bool) :
    Option Reload :=
  if inGame then none else some (overlay.reload files root)

end Overlay

end AssetOverlay
