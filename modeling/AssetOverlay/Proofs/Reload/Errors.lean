import AssetOverlay.Host
import AssetOverlay.Proofs.File.Creation
import AssetOverlay.Proofs.Reload.Accounting

/-!
# Errors in the counts and in the log

Every error of a reload is both counted and told to the log, with one exception: that a root could
not be created is told, but not counted.  Such a root can't be listed either, and this error is
counted.  So the counts show that something went wrong exactly if the log does, and the user who
gives the command to reload is told the truth about the log.
-/

namespace AssetOverlay

/-- Whether an event tells of an error. -/
def Event.isError (event : Event) : Bool :=
  event.level = .error

/-- How many events tell of errors. -/
def errorsTold (events : List Event) : Nat :=
  events.countP Event.isError

theorem errorsTold_append (first second : List Event) :
    errorsTold (first ++ second) = errorsTold first + errorsTold second :=
  List.countP_append

/-- How many errors were counted, in packages and in their entries. -/
def ReloadReport.errors (report : ReloadReport) : Nat :=
  report.entryErrors + report.packageErrors

theorem ReloadReport.hadErrors_iff (report : ReloadReport) :
    report.hadErrors = true ↔ 0 < report.errors := by
  simp only [hadErrors, errors, Bool.or_eq_true, bne_iff_ne]
  omega

/-! ## Taking in what was found -/

theorem Overlay.errorsTold_put (overlay : Overlay) (asset : Asset) :
    errorsTold (overlay.put asset).2 = 0 := by
  unfold put
  cases overlay.catalogue.get? asset.slot <;> rfl

/-- What is told of an attempt as such is no error: that it failed is told later. -/
theorem Attempt.errorsTold_events (attempt : Attempt) : errorsTold attempt.events = 0 :=
  attempt.countP_events (fun _ ↦ Bool.false_ne_true) fun _ _ _ ↦ Bool.false_ne_true

theorem EntryIntake.errorsTold_takeAll (intake : EntryIntake) (title : String) (index : Nat)
    (attempts : List Attempt) (h : errorsTold intake.events = intake.failed) :
    errorsTold (intake.takeAll title index attempts).events =
      (intake.takeAll title index attempts).failed := by
  induction attempts generalizing intake index with
  | nil => exact h
  | cons attempt rest ih =>
    apply ih
    have hattempt := attempt.errorsTold_events
    unfold take
    cases attempt.outcome with
    | ok asset =>
      have hput := intake.overlay.errorsTold_put asset
      simp only [errorsTold_append, hattempt, hput]
      exact h
    | error fault =>
      have hfailed : errorsTold [.entryFailed title index fault] = 1 := rfl
      simp only [errorsTold_append, hattempt, hfailed, h]

namespace Intake

/-- All errors that were told were counted, except for so many. -/
def Told (intake : Intake) (uncounted : Nat) : Prop :=
  errorsTold intake.events = intake.report.errors + uncounted

section Told

variable {intake : Intake} {uncounted : Nat}

/-- What counts as many errors as it tells of leaves none out. -/
theorem Told.add (h : intake.Told uncounted) {overlay : Overlay} {report : ReloadReport}
    {events : List Event} (hevents : report.errors = intake.report.errors + errorsTold events) :
    Told ⟨overlay, report, intake.events ++ events⟩ uncounted := by
  unfold Told at *
  simp only [errorsTold_append]
  omega

theorem Told.takePackage (h : intake.Told uncounted) (package : PackageSurvey) :
    (intake.takePackage package).Told uncounted := by
  cases package with
  | skipped manifest fault => exact h.add rfl
  | read title attempts =>
    let entries := EntryIntake.takeAll ⟨intake.overlay, 0, 0, []⟩ title 0 attempts
    let summary : List Event :=
      if entries.failed = 0 then [] else [.packageDone title entries.failed]
    have hentries : errorsTold (.packageRead title :: entries.events) = entries.failed := by
      rw [← EntryIntake.errorsTold_takeAll ⟨intake.overlay, 0, 0, []⟩ title 0 attempts rfl]
      exact List.countP_cons_of_neg Bool.false_ne_true
    have hsummary : errorsTold summary = 0 := by
      unfold summary
      split <;> rfl
    have hread : Told ⟨entries.overlay, (intake.takePackage (.read title attempts)).report,
        intake.events ++ .packageRead title :: entries.events⟩ uncounted := by
      apply h.add
      rw [hentries]
      exact Nat.add_right_comm _ _ _
    exact hread.add (congrArg (_ + ·) hsummary.symm)

theorem Told.takePackages (h : intake.Told uncounted)
    (packages : Except Fault (List PackageSurvey)) :
    (intake.takePackages packages).Told uncounted := by
  cases packages with
  | error fault => exact h.add rfl
  | ok packages =>
    unfold Intake.takePackages
    dsimp only
    induction packages generalizing intake with
    | nil => exact h
    | cons package rest ih => exact ih (h.takePackage package)

theorem Told.takeRegistration (h : intake.Told uncounted) (files : FileTree)
    (registration : Path × Key) :
    (intake.takeRegistration files registration).Told uncounted := by
  unfold Intake.takeRegistration
  cases loadRawFile files registration.1 registration.2 with
  | error fault => exact h.add (Nat.add_right_comm _ 1 _)
  | ok asset =>
    have hput := intake.overlay.errorsTold_put asset
    exact h.add (congrArg (intake.report.errors + ·) hput.symm)

theorem Told.takeRegistrations (h : intake.Told uncounted) (files : FileTree)
    (registrations : List (Path × Key)) :
    (registrations.foldl (Intake.takeRegistration files) intake).Told uncounted := by
  induction registrations generalizing intake with
  | nil => exact h
  | cons registration rest ih => exact ih (h.takeRegistration files registration)

/-- That a root could not be created is told, but not counted. -/
theorem Told.takeCreation (h : intake.Told uncounted) (root : Path)
    (creation : Option FileFailure) :
    (intake.takeCreation root creation).Told
      (uncounted + if creation.isSome then 1 else 0) := by
  have htold : errorsTold (creation.map (Event.rootNotCreated root)).toList =
      if creation.isSome then 1 else 0 := by
    cases creation <;> rfl
  unfold Told Intake.takeCreation at *
  simp only [errorsTold_append, htold]
  omega

end Told

end Intake

namespace Overlay

/-- The errors that a reload tells of and those that it counts. -/
theorem errorsTold_reload (overlay : Overlay) (files : FileTree) (root : Path) :
    errorsTold (overlay.reload files root).events =
      (overlay.reload files root).report.errors +
        if (files.createFolders root).2.isSome then 1 else 0 := by
  let survey := (Survey.ofRoot files root).2
  let complete := overlay.registrations.foldl (Intake.takeRegistration (prepared files root))
    (overlay.cleared.takeSurvey survey)
  have hcleared : overlay.cleared.Told 0 := rfl
  have htaken : complete.Told (0 + if survey.creation.isSome then 1 else 0) :=
    ((hcleared.takeCreation root survey.creation).takePackages survey.packages)
      |>.takeRegistrations (prepared files root) overlay.registrations
  have hlast : errorsTold [.reloaded root complete.report] = 0 := rfl
  calc
    _ = errorsTold complete.events + 0 := errorsTold_append _ _
    _ = _ := by rw [Nat.add_zero, htaken, Nat.zero_add]; rfl

/-- If the root could not be created, nothing else is counted about packages. -/
theorem packageErrors_of_not_created (overlay : Overlay) {files : FileTree} {root : Path}
    (h : (files.createFolders root).2.isSome) :
    (overlay.reload files root).report.packageErrors = 1 := by
  obtain ⟨failure, hfailure⟩ := Option.isSome_iff_exists.mp h
  obtain ⟨other, hlist⟩ := FileTree.list_error_of_createFolders hfailure
  rw [report_reload]
  exact (packages_counts_of_error hlist overlay.registrations).2

/-- A reload counts an error if and only if it tells of one. -/
theorem hadErrors_reload_iff (overlay : Overlay) (files : FileTree) (root : Path) :
    (overlay.reload files root).report.hadErrors = true ↔
      0 < errorsTold (overlay.reload files root).events := by
  rw [ReloadReport.hadErrors_iff, errorsTold_reload]
  split
  · next hfailed =>
    have hcounted := overlay.packageErrors_of_not_created hfailed
    unfold ReloadReport.errors
    omega
  · rfl

end Overlay

/-! ## Records -/

/-- The records that are written for some events, if the log is limited to a level. -/
def writtenRecords (limit : Level) (events : List Event) : List LogRecord :=
  (events.map LogRecord.ofEvent).filter (LogRecord.isWritten limit.rank)

/-- Errors are written at every level. -/
theorem countP_writtenRecords (limit : Level) (events : List Event) :
    (writtenRecords limit events).countP (fun record ↦ record.level = .error) =
      errorsTold events := by
  have hwritten : ∀ record : LogRecord, record.level = .error → record.isWritten limit.rank := by
    intro record hrecord
    have hlimit : 1 ≤ limit.rank := by cases limit <;> decide
    simpa [LogRecord.isWritten, hrecord, Level.rank] using hlimit
  unfold writtenRecords errorsTold
  rw [List.countP_filter, List.countP_map]
  apply List.countP_congr
  intro event _
  simp only [Function.comp_apply, Bool.and_eq_true, decide_eq_true_eq, Event.isError]
  exact and_iff_left_of_imp (hwritten (.ofEvent event))

theorem exists_error_writtenRecords_iff (limit : Level) (events : List Event) :
    (∃ record ∈ writtenRecords limit events, record.level = .error) ↔ 0 < errorsTold events := by
  rw [← countP_writtenRecords limit, List.countP_pos_iff]
  simp only [decide_eq_true_eq]

/-- The user is told of errors if and only if the log is. -/
theorem Host.reloadCommand_message_iff (host : Host) (files : FileTree) (inGame : Bool) :
    (host.reloadCommand files inGame).1.message = "mods reloaded with errors, see logs." ↔
      0 < errorsTold (host.reloadCommand files inGame).2.events := by
  cases inGame with
  | true =>
    have hother : ReloadAnswer.refused.message ≠ "mods reloaded with errors, see logs." := by
      decide
    exact iff_of_false hother (Nat.lt_irrefl 0)
  | false =>
    have hreload := host.overlay.hadErrors_reload_iff files host.root
    change ReloadAnswer.message (.done (host.overlay.reload files host.root).report.hadErrors) =
      _ ↔ 0 < errorsTold (host.overlay.reload files host.root).events
    rw [← hreload]
    cases (host.overlay.reload files host.root).report.hadErrors <;> decide

/-- Whatever the level to which the log is limited, the error records of a reload are as many as the
errors that it counts, and one more exactly if the root could not be created, which is then the only
error counted about packages.  So the report shows errors if and only if an error record was
written, and the answer to the command to reload says so. -/
theorem errors_counted_iff_written (overlay : Overlay) (files : FileTree) (root : Path)
    (limit : Level) :
    let reload := overlay.reload files root
    let report := reload.report
    let creation := (files.createFolders root).2
    let written := writtenRecords limit reload.events
    written.countP (fun record ↦ record.level = .error) =
        report.entryErrors + report.packageErrors + (if creation.isSome then 1 else 0) ∧
      (creation.isSome → report.packageErrors = 1) ∧
      (report.hadErrors = true ↔ ∃ record ∈ written, record.level = .error) ∧
      ∀ (host : Host) (inGame : Bool),
        let (answer, step) := host.reloadCommand files inGame
        answer.message = "mods reloaded with errors, see logs." ↔
          ∃ record ∈ writtenRecords limit step.events, record.level = .error := by
  intro reload report creation written
  refine ⟨?_, overlay.packageErrors_of_not_created, ?_, ?_⟩
  · rw [countP_writtenRecords]
    exact overlay.errorsTold_reload files root
  · rw [exists_error_writtenRecords_iff]
    exact overlay.hadErrors_reload_iff files root
  · intro host inGame
    dsimp only
    rw [exists_error_writtenRecords_iff]
    exact host.reloadCommand_message_iff files inGame

end AssetOverlay
