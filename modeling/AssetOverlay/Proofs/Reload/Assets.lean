import AssetOverlay.Session

/-!
# What a reload puts in force

Counting and logging leave the assets alone.  For the overlay a reload is therefore a single list of
assets that are put in force one after the other: those of the packages in the order of the survey,
then those of the registered files that can be read.  Everything about the catalogue after a reload
is proved from this list.
-/

namespace AssetOverlay

theorem toOption_eq_some_iff {Problem Value : Type} {outcome : Except Problem Value}
    {value : Value} : outcome.toOption = some value ↔ outcome = .ok value := by
  cases outcome <;> simp [Except.toOption]

/-- The asset of an attempt that succeeded. -/
def Attempt.asset? (attempt : Attempt) : Option Asset :=
  attempt.outcome.toOption

theorem Attempt.asset?_eq_some_iff {attempt : Attempt} {asset : Asset} :
    attempt.asset? = some asset ↔ attempt.outcome = .ok asset :=
  toOption_eq_some_iff

/-- The assets of a package. -/
def PackageSurvey.assets (package : PackageSurvey) : List Asset :=
  package.attempts.filterMap Attempt.asset?

/-- The assets of all packages, none if the root could not be listed. -/
def Survey.assets (survey : Survey) : List Asset :=
  match survey.packages with
  | .error _ => []
  | .ok packages => packages.flatMap PackageSurvey.assets

/-- The asset of a registered file, if it can be read. -/
def registeredAsset? (files : FileTree) (registration : Path × Key) : Option Asset :=
  (files.read registration.1).toOption.map fun bytes ↦
    ⟨registration.2, registration.1, .rawFile bytes⟩

theorem toOption_loadRawFile (files : FileTree) (path : Path) (key : Key) :
    (loadRawFile files path key).toOption = registeredAsset? files (path, key) := by
  unfold loadRawFile registeredAsset?
  cases files.read path <;> rfl

namespace Overlay

/-- Puts assets in force one after the other. -/
def putAll (overlay : Overlay) (assets : List Asset) : Overlay :=
  assets.foldl (fun current asset ↦ (current.put asset).1) overlay

@[simp]
theorem putAll_nil (overlay : Overlay) : overlay.putAll [] = overlay := rfl

@[simp]
theorem putAll_cons (overlay : Overlay) (asset : Asset) (rest : List Asset) :
    overlay.putAll (asset :: rest) = (overlay.put asset).1.putAll rest := rfl

theorem putAll_append (overlay : Overlay) (first second : List Asset) :
    overlay.putAll (first ++ second) = (overlay.putAll first).putAll second := by
  simp [putAll, List.foldl_append]

theorem registrations_putAll (overlay : Overlay) (assets : List Asset) :
    (overlay.putAll assets).registrations = overlay.registrations := by
  induction assets generalizing overlay with
  | nil => rfl
  | cons asset rest ih => rw [putAll_cons, ih, registrations_put]

end Overlay

theorem EntryIntake.overlay_takeAll (intake : EntryIntake) (title : String) (index : Nat)
    (attempts : List Attempt) :
    (intake.takeAll title index attempts).overlay =
      intake.overlay.putAll (attempts.filterMap Attempt.asset?) := by
  induction attempts generalizing intake index with
  | nil => rfl
  | cons attempt rest ih =>
    rw [takeAll, ih]
    cases h : attempt.outcome <;> simp [take, h, Attempt.asset?, Except.toOption]

namespace Intake

theorem overlay_takePackage (intake : Intake) (package : PackageSurvey) :
    (intake.takePackage package).overlay = intake.overlay.putAll package.assets := by
  cases package with
  | skipped manifest fault => rfl
  | read title attempts => exact EntryIntake.overlay_takeAll _ title 0 attempts

theorem overlay_takePackages (intake : Intake) (packages : List PackageSurvey) :
    (packages.foldl takePackage intake).overlay =
      intake.overlay.putAll (packages.flatMap PackageSurvey.assets) := by
  induction packages generalizing intake with
  | nil => rfl
  | cons package rest ih =>
    rw [List.foldl_cons, ih, overlay_takePackage, List.flatMap_cons, Overlay.putAll_append]

theorem overlay_takeSurvey (intake : Intake) (survey : Survey) :
    (intake.takeSurvey survey).overlay = intake.overlay.putAll survey.assets := by
  unfold takeSurvey Survey.assets
  cases survey.packages with
  | error fault => rfl
  | ok packages => exact overlay_takePackages _ packages

theorem overlay_takeRegistration (files : FileTree) (intake : Intake)
    (registration : Path × Key) :
    (intake.takeRegistration files registration).overlay =
      intake.overlay.putAll (registeredAsset? files registration).toList := by
  rw [← toOption_loadRawFile]
  unfold takeRegistration
  cases loadRawFile files registration.1 registration.2 <;> rfl

theorem overlay_takeRegistrations (files : FileTree) (intake : Intake)
    (registrations : List (Path × Key)) :
    (registrations.foldl (takeRegistration files) intake).overlay =
      intake.overlay.putAll (registrations.filterMap (registeredAsset? files)) := by
  induction registrations generalizing intake with
  | nil => rfl
  | cons registration rest ih =>
    rw [List.foldl_cons, ih, overlay_takeRegistration, ← Overlay.putAll_append]
    cases h : registeredAsset? files registration <;> simp [h]

end Intake

namespace Overlay

/-- The files after a root was created where it was missing. -/
def prepared (files : FileTree) (root : Path) : FileTree :=
  (files.createFolders root).1

/-- The assets that a reload finds, in load order. -/
def found (files : FileTree) (root : Path) (registrations : List (Path × Key)) : List Asset :=
  (Survey.ofRoot files root).2.assets ++
    registrations.filterMap (registeredAsset? (prepared files root))

/-- What a reload comes to if the given survey is that of its root. -/
def reloadOf (overlay : Overlay) (files : FileTree) (survey : Survey) : Intake :=
  overlay.registrations.foldl (Intake.takeRegistration files) (overlay.cleared.takeSurvey survey)

theorem overlay_reloadOf (overlay : Overlay) (files : FileTree) (survey : Survey) :
    (overlay.reloadOf files survey).overlay = overlay.cleared.overlay.putAll
      (survey.assets ++ overlay.registrations.filterMap (registeredAsset? files)) := by
  calc
    (overlay.reloadOf files survey).overlay =
        (overlay.cleared.takeSurvey survey).overlay.putAll
          (overlay.registrations.filterMap (registeredAsset? files)) :=
      Intake.overlay_takeRegistrations _ _ _
    _ = _ := by rw [Intake.overlay_takeSurvey, putAll_append]

/-- A reload puts what it finds in force, starting without assets. -/
theorem overlay_reload (overlay : Overlay) (files : FileTree) (root : Path) :
    (overlay.reload files root).overlay =
      overlay.cleared.overlay.putAll (found files root overlay.registrations) :=
  overlay.overlay_reloadOf (prepared files root) (Survey.ofRoot files root).2

theorem registrations_reload (overlay : Overlay) (files : FileTree) (root : Path) :
    (overlay.reload files root).overlay.registrations = overlay.registrations := by
  rw [overlay_reload, registrations_putAll]
  rfl

/-- A registration that succeeds puts the file in force. -/
theorem register_eq_ok {overlay next : Overlay} {files : FileTree} {path : Path} {key : Key}
    {events : List Event} (h : overlay.register files path key = .ok (next, events)) :
    ∃ asset, registeredAsset? files (path, key) = some asset ∧
      next = { (overlay.put asset).1 with
        registrations := overlay.registrations ++ [(path, key)] } := by
  rw [← toOption_loadRawFile]
  unfold register at h
  cases hload : loadRawFile files path key with
  | error fault => simp [hload] at h
  | ok asset =>
    simp only [hload, Except.ok.injEq, Prod.mk.injEq] at h
    exact ⟨asset, rfl, h.1.symm⟩

/-- A registration fails only if the file can't be read. -/
theorem register_eq_error {overlay : Overlay} {files : FileTree} {path : Path} {key : Key}
    {fault : Fault} (h : overlay.register files path key = .error fault) :
    registeredAsset? files (path, key) = none := by
  rw [← toOption_loadRawFile]
  unfold register at h
  cases hload : loadRawFile files path key with
  | error fault => rfl
  | ok asset => simp [hload] at h

end Overlay

end AssetOverlay
