import AssetOverlay.Proofs.Reload.Assets

/-!
# What a reload counts

The report of a reload depends on what the survey found and on which registered files can be read.
The overlay before it has no part in the counts, except for its registrations.
-/

namespace AssetOverlay

namespace ReloadReport

/-- Counts what was found in the folder of a package. -/
def addPackage (report : ReloadReport) : PackageSurvey → ReloadReport
  | .skipped _ _ => { report with packageErrors := report.packageErrors + 1 }
  | .read _ attempts =>
    { report with
      packagesLoaded := report.packagesLoaded + 1
      assetsLoaded := report.assetsLoaded + attempts.countP fun attempt ↦ attempt.asset?.isSome
      entryErrors := report.entryErrors + attempts.countP fun attempt ↦ attempt.asset?.isNone }

/-- Counts the packages of a root, or the failure to list them. -/
def addPackages (report : ReloadReport) : Except Fault (List PackageSurvey) → ReloadReport
  | .error _ => { report with packageErrors := report.packageErrors + 1 }
  | .ok packages => packages.foldl addPackage report

/-- Counts a registered file that is loaded again. -/
def addRegistration (files : FileTree) (report : ReloadReport) (registration : Path × Key) :
    ReloadReport :=
  match registeredAsset? files registration with
  | some _ => { report with assetsLoaded := report.assetsLoaded + 1 }
  | none => { report with entryErrors := report.entryErrors + 1 }

end ReloadReport

namespace EntryIntake

theorem loaded_takeAll (intake : EntryIntake) (title : String) (index : Nat)
    (attempts : List Attempt) :
    (intake.takeAll title index attempts).loaded =
      intake.loaded + attempts.countP fun attempt ↦ attempt.asset?.isSome := by
  induction attempts generalizing intake index with
  | nil => rfl
  | cons attempt rest ih =>
    rw [takeAll, ih, List.countP_cons]
    cases h : attempt.outcome <;> simp [take, h, Attempt.asset?, Except.toOption]
    omega

theorem failed_takeAll (intake : EntryIntake) (title : String) (index : Nat)
    (attempts : List Attempt) :
    (intake.takeAll title index attempts).failed =
      intake.failed + attempts.countP fun attempt ↦ attempt.asset?.isNone := by
  induction attempts generalizing intake index with
  | nil => rfl
  | cons attempt rest ih =>
    rw [takeAll, ih, List.countP_cons]
    cases h : attempt.outcome <;> simp [take, h, Attempt.asset?, Except.toOption]
    omega

end EntryIntake

namespace Intake

theorem report_takePackage (intake : Intake) (package : PackageSurvey) :
    (intake.takePackage package).report = intake.report.addPackage package := by
  cases package with
  | skipped manifest fault => rfl
  | read title attempts =>
    simp only [takePackage, ReloadReport.addPackage, EntryIntake.loaded_takeAll,
      EntryIntake.failed_takeAll, Nat.zero_add]

theorem report_takePackages (intake : Intake) (packages : List PackageSurvey) :
    (packages.foldl takePackage intake).report =
      packages.foldl ReloadReport.addPackage intake.report := by
  induction packages generalizing intake with
  | nil => rfl
  | cons package rest ih => rw [List.foldl_cons, ih, report_takePackage, List.foldl_cons]

theorem report_takeSurvey (intake : Intake) (survey : Survey) :
    (intake.takeSurvey survey).report = intake.report.addPackages survey.packages := by
  unfold takeSurvey
  cases survey.packages with
  | error fault => rfl
  | ok packages => exact report_takePackages _ packages

theorem report_takeRegistration (files : FileTree) (intake : Intake)
    (registration : Path × Key) :
    (intake.takeRegistration files registration).report =
      intake.report.addRegistration files registration := by
  unfold takeRegistration ReloadReport.addRegistration
  rw [← toOption_loadRawFile]
  cases loadRawFile files registration.1 registration.2 <;> rfl

theorem report_takeRegistrations (files : FileTree) (intake : Intake)
    (registrations : List (Path × Key)) :
    (registrations.foldl (takeRegistration files) intake).report =
      registrations.foldl (ReloadReport.addRegistration files) intake.report := by
  induction registrations generalizing intake with
  | nil => rfl
  | cons registration rest ih =>
    rw [List.foldl_cons, ih, report_takeRegistration, List.foldl_cons]

end Intake

namespace Overlay

/-- The counts of a reload of a root that was created if it was missing. -/
def counts (prepared : FileTree) (root : Path) (registrations : List (Path × Key)) :
    ReloadReport :=
  registrations.foldl (ReloadReport.addRegistration prepared)
    (ReloadReport.zero.addPackages (Survey.packagesOf prepared root))

theorem report_reloadOf (overlay : Overlay) (files : FileTree) (survey : Survey) :
    (overlay.reloadOf files survey).report =
      overlay.registrations.foldl (ReloadReport.addRegistration files)
        (ReloadReport.zero.addPackages survey.packages) := by
  rw [reloadOf, Intake.report_takeRegistrations, Intake.report_takeSurvey]
  rfl

theorem report_reload (overlay : Overlay) (files : FileTree) (root : Path) :
    (overlay.reload files root).report =
      counts (prepared files root) root overlay.registrations :=
  overlay.report_reloadOf (prepared files root) (Survey.ofRoot files root).2

end Overlay

end AssetOverlay
