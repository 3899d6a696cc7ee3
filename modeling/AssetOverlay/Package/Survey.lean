import AssetOverlay.Package.Loading
import AssetOverlay.Package.Manifest

/-!
# Surveys

A survey is everything that loading the packages of a root folder found: for each package whether
its manifest was read, and for each of its entries the attempt to load it.  Packages are the folders
right inside the root that contain a manifest, in ascending order of the bytes of their names.  What
a survey means for the assets in force, the log and the counts is decided later, from the survey
alone.
-/

namespace AssetOverlay

/-- What was found in the folder of a package. -/
inductive PackageSurvey where
  /-- The manifest can't be used. -/
  | skipped (manifest : Path) (fault : Fault)
  /-- The manifest was read, and every entry was tried. -/
  | read (title : String) (attempts : List Attempt)

/-- What was found in a root folder. -/
structure Survey where
  root : Path
  /-- Why the root could not be created where it was missing. -/
  creation : Option FileFailure
  /-- The packages, or why the root could not be listed. -/
  packages : Except Fault (List PackageSurvey)

namespace PackageSurvey

/-- Surveys a folder, if it contains a manifest. -/
def ofFolder? (files : FileTree) (folder : Path) : Option PackageSurvey :=
  let path := folder.join Manifest.fileName
  if files.contains path then
    match Manifest.read files path with
    | .error fault => some (.skipped path fault)
    | .ok manifest => some (.read manifest.title (manifest.items.map (loadItem files folder)))
  else none

/-- The attempts to load an entry. -/
def attempts : PackageSurvey → List Attempt
  | skipped _ _ => []
  | read _ attempts => attempts

end PackageSurvey

namespace Survey

/-- Whether the bytes of a name come no later than those of another one. -/
def inOrder (first second : String) : Bool :=
  decide (Bytes.ofText first ≤ Bytes.ofText second)

/-- The folders right inside a root, in ascending order of the bytes of their names. -/
def folders (files : FileTree) (root : Path) (names : List String) : List Path :=
  ((names.mergeSort inOrder).map fun name ↦ root.join ⟨name⟩).filter files.isFolder

/-- Surveys a root folder that should be there. -/
def packagesOf (files : FileTree) (root : Path) : Except Fault (List PackageSurvey) :=
  match files.list root with
  | .error failure => .error ⟨[.listingPackages root], .file failure⟩
  | .ok names => .ok ((folders files root names).filterMap (PackageSurvey.ofFolder? files))

/-- Surveys a root folder, which is created if it is missing. -/
def ofRoot (files : FileTree) (root : Path) : FileTree × Survey :=
  let (prepared, creation) := files.createFolders root
  (prepared, ⟨root, creation, packagesOf prepared root⟩)

end Survey

end AssetOverlay
