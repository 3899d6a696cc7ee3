import AssetOverlay.Asset
import AssetOverlay.Json.Reader

/-!
# Manifest entries

Every item of the data list of a manifest declares one asset.  It is an object with the members
`type`, `name`, `path` and optionally `hooks`, or a list of these values in that order.  The members
of an object are looked at in the order of their names, so a wrong type there is reported before a
member that is missing.
-/

namespace AssetOverlay

/-- The declaration of one asset. -/
structure Entry where
  kind : AssetKind
  /-- The name of the asset that is replaced. -/
  name : String
  /-- The file with the replacement, as seen from the folder of the package. -/
  path : Path
  /-- The names of the scripts that cause this one to be linked beside them. -/
  hooks : List String
deriving DecidableEq

namespace Entry

open Json

/-- A value of another type than expected. -/
def wrongType {α : Type} (tree : Tree) (expected : Expectation) : Except Problem α :=
  .error (.wrongType (.ofTree tree) expected)

/-- Reads a text. -/
def readText (expected : Expectation) (tree : Tree) : Except Problem String :=
  match tree with
  | .text value => .ok value
  | _ => wrongType tree expected

/-- Reads the name of a kind. -/
def readKind (tree : Tree) : Except Problem AssetKind :=
  match readText .text tree with
  | .error problem => .error problem
  | .ok name =>
    match AssetKind.ofName? name with
    | some kind => .ok kind
    | none => .error (.unknownKind name)

/-- Reads the items of a list of texts. -/
def readTexts : List Tree → Except Problem (List String)
  | [] => .ok []
  | tree :: rest =>
    match readText .text tree with
    | .error problem => .error problem
    | .ok text => (readTexts rest).map (text :: ·)

/-- Reads the names of hooks. -/
def readHooks (tree : Tree) : Except Problem (List String) :=
  match tree with
  | .list items => readTexts items
  | _ => wrongType tree .list

/-- The members of an entry that were found so far. -/
structure Draft where
  kind : Option AssetKind
  name : Option String
  path : Option Path
  hooks : Option (List String)

/-- Takes one member into account.  Members with other names do not count. -/
def Draft.add (draft : Draft) (name : String) (tree : Tree) : Except Problem Draft :=
  if name = "type" then (readKind tree).map fun kind ↦ { draft with kind := some kind }
  else if name = "name" then (readText .text tree).map fun text ↦ { draft with name := some text }
  else if name = "path" then
    (readText .path tree).map fun text ↦ { draft with path := some ⟨text⟩ }
  else if name = "hooks" then (readHooks tree).map fun hooks ↦ { draft with hooks := some hooks }
  else .ok draft

/-- Takes members into account one after the other. -/
def Draft.addAll (draft : Draft) : List (String × Tree) → Except Problem Draft
  | [] => .ok draft
  | member :: rest =>
    match draft.add member.1 member.2 with
    | .error problem => .error problem
    | .ok next => next.addAll rest

/-- The entry, once all members were looked at. -/
def Draft.finish (draft : Draft) : Except Problem Entry :=
  match draft.kind, draft.name, draft.path with
  | none, _, _ => .error (.missingField "type")
  | some _, none, _ => .error (.missingField "name")
  | some _, some _, none => .error (.missingField "path")
  | some kind, some name, some path => .ok ⟨kind, name, path, draft.hooks.getD []⟩

/-- Reads an entry from a list of its values. -/
def ofItems (items : List Tree) : Except Problem Entry :=
  match items with
  | [] => .error (.tooFewItems 0)
  | kindTree :: rest =>
    match readKind kindTree, rest with
    | .error problem, _ => .error problem
    | .ok _, [] => .error (.tooFewItems 1)
    | .ok kind, nameTree :: rest =>
      match readText .text nameTree, rest with
      | .error problem, _ => .error problem
      | .ok _, [] => .error (.tooFewItems 2)
      | .ok name, pathTree :: rest =>
        match readText .path pathTree, rest with
        | .error problem, _ => .error problem
        | .ok path, [] => .ok ⟨kind, name, ⟨path⟩, []⟩
        | .ok path, hooksTree :: rest =>
          match readHooks hooksTree, rest with
          | .error problem, _ => .error problem
          | .ok hooks, [] => .ok ⟨kind, name, ⟨path⟩, hooks⟩
          | .ok _, _ :: _ => .error (.tooManyItems items.length)

/-- Reads an entry from an item of a data list. -/
def ofTree (tree : Tree) : Except Problem Entry :=
  match tree with
  | .object members =>
    match Draft.addAll ⟨none, none, none, none⟩ members with
    | .error problem => .error problem
    | .ok draft => draft.finish
  | .list items => ofItems items
  | _ => wrongType tree .entry

/-- The full path of the file with the replacement. -/
def resolve (entry : Entry) (folder : Path) : Path :=
  folder.join entry.path

end Entry

end AssetOverlay
