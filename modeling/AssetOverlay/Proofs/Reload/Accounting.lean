import AssetOverlay.Proofs.Catalogue.Consistency
import AssetOverlay.Proofs.Reload.Counts
import AssetOverlay.Proofs.Reload.Reference
import Mathlib.Algebra.BigOperators.Ring.Finset

/-!
# The balance of a reload

Every item that a manifest declares and every registered file is counted once, as loaded or as
failed, and so is every folder with a manifest.  Whatever is counted as loaded either fills a new
slot of the catalogue or takes the place of another asset, which the log tells.
-/

namespace AssetOverlay

/-- If every step adds the weight of what it takes in, all steps together add the sum of the
weights. -/
theorem measure_foldl {State Item : Type} {step : State → Item → State} {measure : State → Nat}
    {weight : Item → Nat}
    (h : ∀ state item, measure (step state item) = measure state + weight item) (state : State)
    (taken : List Item) :
    measure (taken.foldl step state) = measure state + (taken.map weight).sum := by
  induction taken generalizing state with
  | nil => rfl
  | cons item rest ih => rw [List.foldl_cons, ih, h, List.map_cons, List.sum_cons, Nat.add_assoc]

/-! ## Counting items and packages -/

namespace ReloadReport

/-- How many items were counted, whether they could be loaded or not. -/
def items (report : ReloadReport) : Nat :=
  report.assetsLoaded + report.entryErrors

/-- How many packages were counted, whether their manifest could be used or not. -/
def packages (report : ReloadReport) : Nat :=
  report.packagesLoaded + report.packageErrors

theorem items_addPackage (report : ReloadReport) (package : PackageSurvey) :
    (report.addPackage package).items = report.items + package.attempts.length := by
  cases package with
  | skipped manifest fault => rfl
  | read title attempts =>
    have hsplit := attempts.length_eq_countP_add_countP fun attempt ↦ attempt.asset?.isSome
    simp only [Bool.not_eq_true, Option.isSome_eq_false_iff, Bool.decide_eq_true] at hsplit
    simp only [items, addPackage, PackageSurvey.attempts]
    omega

theorem packages_addPackage (report : ReloadReport) (package : PackageSurvey) :
    (report.addPackage package).packages = report.packages + 1 := by
  cases package with
  | skipped manifest fault => rfl
  | read title attempts => exact Nat.add_right_comm _ 1 _

theorem items_addRegistration (files : FileTree) (report : ReloadReport)
    (registration : Path × Key) :
    (report.addRegistration files registration).items = report.items + 1 := by
  unfold addRegistration
  cases registeredAsset? files registration with
  | some asset => exact Nat.add_right_comm _ 1 _
  | none => rfl

/-- Registered files are no packages. -/
theorem packages_addRegistrations (files : FileTree) (report : ReloadReport)
    (registrations : List (Path × Key)) :
    (registrations.foldl (addRegistration files) report).packagesLoaded = report.packagesLoaded ∧
      (registrations.foldl (addRegistration files) report).packageErrors =
        report.packageErrors := by
  induction registrations generalizing report with
  | nil => exact ⟨rfl, rfl⟩
  | cons registration rest ih =>
    obtain ⟨hloaded, herrors⟩ := ih (report.addRegistration files registration)
    rw [List.foldl_cons, hloaded, herrors]
    unfold addRegistration
    cases registeredAsset? files registration <;> exact ⟨rfl, rfl⟩

end ReloadReport

/-- Whether a folder contains a manifest. -/
def hasManifest (files : FileTree) (folder : Path) : Bool :=
  files.contains (folder.join ⟨"metadata.json"⟩)

namespace PackageSurvey

theorem length_attempts_ofFolder? (files : FileTree) (folder : Path) :
    ((ofFolder? files folder).map fun package ↦ package.attempts.length).getD 0 =
      (dataList files folder).length := by
  have hlength := congrArg List.length (attempts_ofFolder? files folder)
  rw [List.length_map] at hlength
  rw [← hlength]
  cases ofFolder? files folder <;> simp

theorem isSome_ofFolder? (files : FileTree) (folder : Path) :
    (ofFolder? files folder).isSome = hasManifest files folder := by
  change _ = files.contains (folder.join Manifest.fileName)
  unfold ofFolder?
  dsimp only
  split
  · next h =>
    rw [h]
    cases Manifest.read files (folder.join Manifest.fileName) <;> rfl
  · next h => exact (Bool.eq_false_iff.mpr h).symm

end PackageSurvey

/-- A sum over the folders of a root is one over their names. -/
theorem sum_folders {files : FileTree} {root : Path} {names : List String}
    (h : files.list root = .ok names) (weight : Path → Nat) :
    ((Survey.folders files root names).map weight).sum =
      ∑ name ∈ packageNames files root, weight (root.join ⟨name⟩) := by
  rw [folders_eq_map_sort h, List.map_map, ← List.sum_toFinset _ (Finset.sort_nodup _ _),
    Finset.sort_toFinset]
  rfl

theorem sum_filterMap_ofFolder? (files : FileTree) (folders : List Path)
    (weight : PackageSurvey → Nat) :
    ((folders.filterMap (PackageSurvey.ofFolder? files)).map weight).sum =
      (folders.map fun folder ↦
        ((PackageSurvey.ofFolder? files folder).map weight).getD 0).sum := by
  induction folders with
  | nil => rfl
  | cons folder rest ih =>
    rw [List.map_cons, List.sum_cons, ← ih]
    cases h : PackageSurvey.ofFolder? files folder with
    | none => simp [h]
    | some package => simp [h]

namespace Overlay

theorem items_counts (prepared : FileTree) (root : Path) (registrations : List (Path × Key)) :
    (counts prepared root registrations).items =
      (∑ name ∈ packageNames prepared root, (dataList prepared (root.join ⟨name⟩)).length) +
        registrations.length := by
  have hpackages : (ReloadReport.zero.addPackages (Survey.packagesOf prepared root)).items =
      ∑ name ∈ packageNames prepared root, (dataList prepared (root.join ⟨name⟩)).length := by
    unfold Survey.packagesOf
    cases h : prepared.list root with
    | error failure => simp [packageNames, h, ReloadReport.items, ReloadReport.addPackages,
        ReloadReport.zero]
    | ok names =>
      calc
        _ = 0 + (((Survey.folders prepared root names).filterMap
            (PackageSurvey.ofFolder? prepared)).map fun package ↦ package.attempts.length).sum :=
          measure_foldl ReloadReport.items_addPackage _ _
        _ = ((Survey.folders prepared root names).map fun folder ↦
            (dataList prepared folder).length).sum := by
          rw [Nat.zero_add, sum_filterMap_ofFolder?]
          simp only [PackageSurvey.length_attempts_ofFolder?]
        _ = _ := sum_folders h fun folder ↦ (dataList prepared folder).length
  have hregistrations : (registrations.map fun _ ↦ 1).sum = registrations.length := by simp
  rw [counts, measure_foldl (ReloadReport.items_addRegistration prepared), hpackages,
    hregistrations]

theorem packages_counts {prepared : FileTree} {root : Path} {names : List String}
    (h : prepared.list root = .ok names) (registrations : List (Path × Key)) :
    (counts prepared root registrations).packages =
      ((packageNames prepared root).filter fun name ↦
        hasManifest prepared (root.join ⟨name⟩)).card := by
  let surveyed := (Survey.folders prepared root names).filterMap (PackageSurvey.ofFolder? prepared)
  have hpackages : Survey.packagesOf prepared root = .ok surveyed := by
    rw [Survey.packagesOf, h]
  have hone (folder : Path) : ((PackageSurvey.ofFolder? prepared folder).map fun _ ↦ 1).getD 0 =
      if hasManifest prepared folder then 1 else 0 := by
    rw [← PackageSurvey.isSome_ofFolder?]
    cases PackageSurvey.ofFolder? prepared folder <;> rfl
  obtain ⟨hloaded, herrors⟩ := ReloadReport.packages_addRegistrations prepared
    (ReloadReport.zero.addPackages (.ok surveyed)) registrations
  calc
    _ = (ReloadReport.zero.addPackages (.ok surveyed)).packages := by
      rw [counts, hpackages, ReloadReport.packages, hloaded, herrors]
      rfl
    _ = 0 + (surveyed.map fun _ ↦ 1).sum := measure_foldl ReloadReport.packages_addPackage _ _
    _ = ((Survey.folders prepared root names).map fun folder ↦
        if hasManifest prepared folder then 1 else 0).sum := by
      rw [Nat.zero_add, sum_filterMap_ofFolder?]
      simp only [hone]
    _ = _ := by rw [sum_folders h, Finset.card_filter]

/-- If the root can't be listed, that is the only thing that is counted about packages. -/
theorem packages_counts_of_error {prepared : FileTree} {root : Path} {failure : FileFailure}
    (h : prepared.list root = .error failure) (registrations : List (Path × Key)) :
    (counts prepared root registrations).packagesLoaded = 0 ∧
      (counts prepared root registrations).packageErrors = 1 := by
  have hpackages : Survey.packagesOf prepared root =
      .error ⟨[.listingPackages root], .file failure⟩ := by
    rw [Survey.packagesOf, h]
  rw [counts, hpackages]
  exact ReloadReport.packages_addRegistrations prepared _ registrations

end Overlay

/-! ## The catalogue and the log -/

/-- Whether an event tells that an asset took the place of another one. -/
def Event.isReplacement : Event → Bool
  | .assetReplaced _ _ _ => true
  | _ => false

/-- How many assets took the place of others. -/
def replacements (events : List Event) : Nat :=
  events.countP Event.isReplacement

theorem replacements_append (first second : List Event) :
    replacements (first ++ second) = replacements first + replacements second :=
  List.countP_append

/-- An asset that is put in force fills a new slot or takes the place of another. -/
theorem Overlay.length_put (overlay : Overlay) (asset : Asset) :
    (overlay.put asset).1.catalogue.length + replacements (overlay.put asset).2 =
      overlay.catalogue.length + 1 := by
  have hlength := overlay.catalogue.length_insert ⟨overlay.nextSerial, asset⟩
  unfold put
  dsimp only
  rw [hlength]
  cases overlay.catalogue.get? asset.slot <;> rfl

/-- What is told of an attempt as such are the notes about a script and that an asset was loaded. -/
theorem Attempt.countP_events {test : Event → Bool} (hnote : ∀ note, ¬ test (.script note))
    (hloaded : ∀ kind source key, ¬ test (.assetLoaded kind source key)) (attempt : Attempt) :
    attempt.events.countP test = 0 := by
  apply List.countP_eq_zero.mpr
  intro event hevent
  rcases List.mem_append.mp hevent with hscript | hasset
  · obtain ⟨note, -, rfl⟩ := List.mem_map.mp hscript
    exact hnote note
  · split at hasset
    · cases List.mem_singleton.mp hasset
      exact hloaded _ _ _
    · cases hasset

theorem Attempt.replacements_events (attempt : Attempt) : replacements attempt.events = 0 :=
  attempt.countP_events (fun _ ↦ Bool.false_ne_true) fun _ _ _ ↦ Bool.false_ne_true

namespace EntryIntake

/-- The assets in force and those that made way for others. -/
def everInForce (intake : EntryIntake) : Nat :=
  intake.overlay.catalogue.length + replacements intake.events

theorem everInForce_take (intake : EntryIntake) (title : String) (index : Nat)
    (attempt : Attempt) :
    (intake.take title index attempt).everInForce =
      intake.everInForce + if attempt.asset?.isSome then 1 else 0 := by
  have hevents := attempt.replacements_events
  unfold everInForce take Attempt.asset?
  cases attempt.outcome with
  | ok asset =>
    have hput := intake.overlay.length_put asset
    simp only [replacements_append, hevents, Except.toOption, Option.isSome_some, if_true]
    omega
  | error fault =>
    have hfailed : replacements [.entryFailed title index fault] = 0 := rfl
    simp only [replacements_append, hevents, hfailed]
    rfl

theorem everInForce_takeAll (intake : EntryIntake) (title : String) (index : Nat)
    (attempts : List Attempt) :
    (intake.takeAll title index attempts).everInForce =
      intake.everInForce + attempts.countP fun attempt ↦ attempt.asset?.isSome := by
  induction attempts generalizing intake index with
  | nil => rfl
  | cons attempt rest ih =>
    rw [takeAll, ih, everInForce_take, List.countP_cons]
    omega

end EntryIntake

namespace Intake

/-- Every asset that is counted as loaded is in force or has made way for another. -/
def Balanced (intake : Intake) : Prop :=
  intake.overlay.catalogue.length + replacements intake.events = intake.report.assetsLoaded

theorem balanced_cleared (overlay : Overlay) : overlay.cleared.Balanced :=
  Catalogue.consistent_empty.length_eq

/-- What loads nothing and tells of no replacement keeps the balance. -/
theorem Balanced.skip {intake : Intake} (h : intake.Balanced) {report : ReloadReport}
    (hreport : report.assetsLoaded = intake.report.assetsLoaded) {events : List Event}
    (hevents : replacements events = 0) :
    Balanced ⟨intake.overlay, report, intake.events ++ events⟩ := by
  unfold Balanced at *
  rw [replacements_append, hevents, hreport]
  exact h

theorem Balanced.takePackage {intake : Intake} (h : intake.Balanced) (package : PackageSurvey) :
    (intake.takePackage package).Balanced := by
  cases package with
  | skipped manifest fault => exact h.skip rfl rfl
  | read title attempts =>
    let entries := EntryIntake.takeAll ⟨intake.overlay, 0, 0, []⟩ title 0 attempts
    have hentries : entries.overlay.catalogue.length + replacements entries.events =
        intake.overlay.catalogue.length + entries.loaded := by
      rw [EntryIntake.loaded_takeAll, Nat.zero_add]
      exact EntryIntake.everInForce_takeAll ⟨intake.overlay, 0, 0, []⟩ title 0 attempts
    -- What is told before and after the entries is no replacement.
    have hread : replacements (.packageRead title :: entries.events) =
        replacements entries.events := List.countP_cons_of_neg Bool.false_ne_true
    have hdone : replacements (if entries.failed = 0 then [] else
        [.packageDone title entries.failed]) = 0 := by
      split <;> rfl
    calc
      _ = entries.overlay.catalogue.length +
          (replacements intake.events + replacements entries.events) := by
        simp only [Intake.takePackage, replacements_append]
        rw [hread, hdone, Nat.add_zero]
      _ = intake.overlay.catalogue.length + replacements intake.events + entries.loaded := by
        omega
      _ = intake.report.assetsLoaded + entries.loaded := congrArg (· + entries.loaded) h

theorem Balanced.takePackages {intake : Intake} (h : intake.Balanced)
    (packages : Except Fault (List PackageSurvey)) : (intake.takePackages packages).Balanced := by
  cases packages with
  | error fault => exact h.skip rfl rfl
  | ok packages =>
    unfold Intake.takePackages
    dsimp only
    induction packages generalizing intake with
    | nil => exact h
    | cons package rest ih => exact ih (h.takePackage package)

theorem Balanced.takeSurvey {intake : Intake} (h : intake.Balanced) (survey : Survey) :
    (intake.takeSurvey survey).Balanced := by
  have hcreation : replacements (survey.creation.map (Event.rootNotCreated survey.root)).toList =
      0 := by
    cases survey.creation <;> rfl
  have hcreated : (intake.takeCreation survey.root survey.creation).Balanced :=
    h.skip rfl hcreation
  exact hcreated.takePackages survey.packages

theorem Balanced.takeRegistration {intake : Intake} (h : intake.Balanced) (files : FileTree)
    (registration : Path × Key) : (intake.takeRegistration files registration).Balanced := by
  unfold Intake.takeRegistration
  cases loadRawFile files registration.1 registration.2 with
  | error fault => exact h.skip rfl rfl
  | ok asset =>
    have hput := intake.overlay.length_put asset
    unfold Balanced at *
    simp only [replacements_append]
    omega

theorem Balanced.takeRegistrations {intake : Intake} (h : intake.Balanced) (files : FileTree)
    (registrations : List (Path × Key)) :
    (registrations.foldl (Intake.takeRegistration files) intake).Balanced := by
  induction registrations generalizing intake with
  | nil => exact h
  | cons registration rest ih => exact ih (h.takeRegistration files registration)

end Intake

/-- After a reload everything that was counted as loaded is in force or was replaced, as the log
tells. -/
theorem Overlay.length_reload (overlay : Overlay) (files : FileTree) (root : Path) :
    (overlay.reload files root).overlay.catalogue.length +
        replacements (overlay.reload files root).events =
      (overlay.reload files root).report.assetsLoaded := by
  have htaken := ((Intake.balanced_cleared overlay).takeSurvey (Survey.ofRoot files root).2)
    |>.takeRegistrations (prepared files root) overlay.registrations
  have hlast : replacements [.reloaded root (overlay.reload files root).report] = 0 := rfl
  exact htaken.skip rfl hlast

/-- The balance of a reload.  The assets that were loaded and the entries that failed are together
as many as the items of all data lists and the registered files.  The packages that were loaded and
those that were skipped are together as many as the folders with a manifest, unless the root can't
be listed, which counts as one error.  And the assets in force and those that the log tells were
replaced are together as many as were loaded. -/
theorem reload_balanced (overlay : Overlay) (files : FileTree) (root : Path) :
    let reload := overlay.reload files root
    let report := reload.report
    report.assetsLoaded + report.entryErrors =
        (∑ name ∈ packageNames reload.files root,
          (dataList reload.files (root.join ⟨name⟩)).length) + overlay.registrations.length ∧
      (∀ names, reload.files.list root = .ok names →
        report.packagesLoaded + report.packageErrors =
          ((packageNames reload.files root).filter fun name ↦
            hasManifest reload.files (root.join ⟨name⟩)).card) ∧
      (∀ failure, reload.files.list root = .error failure →
        report.packagesLoaded = 0 ∧ report.packageErrors = 1) ∧
      reload.overlay.catalogue.length + reload.events.countP Event.isReplacement =
        report.assetsLoaded := by
  intro reload report
  have hreport : report = Overlay.counts reload.files root overlay.registrations :=
    overlay.report_reload files root
  refine ⟨?_, ?_, ?_, overlay.length_reload files root⟩
  · rw [hreport]
    exact Overlay.items_counts reload.files root overlay.registrations
  · intro names hnames
    rw [hreport]
    exact Overlay.packages_counts hnames overlay.registrations
  · intro failure hfailure
    rw [hreport]
    exact Overlay.packages_counts_of_error hfailure overlay.registrations

end AssetOverlay
