import AssetOverlay.Fault
import AssetOverlay.File.Tree
import AssetOverlay.Json.Reader

/-!
# Manifests

A package is a folder with a manifest, a JSON object.  Its member `name` is the title of the package
in messages, and its member `data` lists the declarations of its assets.  A title that is no text
and a data list that is no list count as missing.
-/

namespace AssetOverlay

/-- The manifest of a package. -/
structure Manifest where
  /-- How messages call the package: its name, or the path of the manifest. -/
  title : String
  /-- The declarations of its assets. -/
  items : List Json.Tree

namespace Manifest

/-- The name of the manifest in the folder of a package. -/
def fileName : Path := ⟨"metadata.json"⟩

/-- The manifest that a tree describes. -/
def ofTree (path : Path) (tree : Json.Tree) : Except Fault Manifest :=
  match tree.members? with
  | none => .error ⟨[], .notObject⟩
  | some _ =>
    .ok { title := ((tree.member? "name").bind Json.Tree.text?).getD path.text
          items := ((tree.member? "data").bind Json.Tree.items?).getD [] }

/-- Reads the manifest at a path. -/
def read (files : FileTree) (path : Path) : Except Fault Manifest :=
  match files.read path with
  | .error failure => .error ⟨[.readingManifest], .file failure⟩
  | .ok bytes =>
    match Json.read bytes with
    | .error failure => .error ⟨[.parsingManifest], .json failure⟩
    | .ok tree => ofTree path tree

end Manifest

end AssetOverlay
