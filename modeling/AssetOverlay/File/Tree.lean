import AssetOverlay.Bytes
import AssetOverlay.File.Failure
import AssetOverlay.Path

/-!
# File trees

A file system as a value: which locations hold a file or a folder.  A location is the list of names
that lead to it from the top.  Paths are followed name by name, where `.` stays and `..` goes up,
and every name that is followed has to lie in a folder.

Names have at most 255 bytes and paths fewer than 4096.
-/

namespace AssetOverlay

/-- The names that lead from the top to a file or folder. -/
abbrev Location := List String

/-- What a location holds. -/
inductive FileItem where
  | folder
  | file (content : Bytes)
deriving DecidableEq

/-- The locations that hold something, except the top, which is always a folder.  Their order has no
meaning. -/
structure FileTree where
  entries : List (Location × FileItem)
  distinct : (entries.map Prod.fst).Nodup
deriving DecidableEq

namespace FileTree

/-- The tree that holds nothing. -/
def empty : FileTree :=
  ⟨[], List.nodup_nil⟩

/-- What a location holds. -/
def item? (tree : FileTree) (location : Location) : Option FileItem :=
  if location = [] then some .folder
  else (tree.entries.find? fun entry ↦ entry.1 == location).map Prod.snd

theorem distinct_filter (tree : FileTree) (test : Location × FileItem → Bool) :
    ((tree.entries.filter test).map Prod.fst).Nodup :=
  tree.distinct.sublist (List.filter_sublist.map Prod.fst)

/-- Only the entries that pass a test. -/
def filter (tree : FileTree) (test : Location × FileItem → Bool) : FileTree :=
  ⟨tree.entries.filter test, tree.distinct_filter test⟩

/-- Lets a location hold an item. -/
def put (tree : FileTree) (location : Location) (item : FileItem) : FileTree where
  entries := (location, item) :: (tree.filter fun entry ↦ entry.1 != location).entries
  distinct := by
    rw [List.map_cons, List.nodup_cons]
    refine ⟨?_, (tree.filter _).distinct⟩
    intro h
    obtain ⟨entry, hentry, heq⟩ := List.mem_map.mp h
    have hne := (List.mem_filter.mp hentry).2
    simp [heq] at hne

/-- The names of the items right inside a folder, in no particular order. -/
def namesIn (tree : FileTree) (folder : Location) : List String :=
  tree.entries.filterMap fun entry ↦
    if entry.1.dropLast = folder then entry.1.getLast? else none

/-- Whether a name has too many bytes. -/
def nameTooLong (name : String) : Bool :=
  255 < name.utf8ByteSize

/-- Refuses paths that can't lead anywhere. -/
def refusal? (path : Path) : Option FileFailure :=
  if path.text.toList.contains '\x00' then some .zeroInPath
  else if path.text = "" then some .notFound
  else if 4096 ≤ path.text.utf8ByteSize then some .nameTooLong
  else none

/-- Follows one name from a location. -/
def follow (tree : FileTree) (here : Location) (name : String) : Except FileFailure Location :=
  match tree.item? here with
  | some .folder =>
    if name = "." then .ok here
    else if name = ".." then .ok here.dropLast
    else if nameTooLong name then .error .nameTooLong
    else if (tree.item? (here ++ [name])).isSome then .ok (here ++ [name])
    else .error .notFound
  | _ => .error .notFolder

/-- Follows names one after the other. -/
def followAll (tree : FileTree) (here : Location) : List String → Except FileFailure Location
  | [] => .ok here
  | name :: rest =>
    match tree.follow here name with
    | .ok next => tree.followAll next rest
    | .error failure => .error failure

/-- The location to which a path leads.  A path that ends in a slash leads to folders only. -/
def locate (tree : FileTree) (path : Path) : Except FileFailure Location :=
  match refusal? path with
  | some failure => .error failure
  | none => tree.followAll [] (path.names ++ if path.endsInSlash then ["."] else [])

/-- The item to which a path leads. -/
def find (tree : FileTree) (path : Path) : Except FileFailure FileItem :=
  match tree.locate path with
  | .error failure => .error failure
  | .ok location =>
    match tree.item? location with
    | some item => .ok item
    | none => .error .notFound

/-- Whether a path leads to something. -/
def contains (tree : FileTree) (path : Path) : Bool :=
  match tree.find path with
  | .ok _ => true
  | .error _ => false

/-- Whether a path leads to a folder. -/
def isFolder (tree : FileTree) (path : Path) : Bool :=
  match tree.find path with
  | .ok .folder => true
  | _ => false

/-- The content of a file. -/
def read (tree : FileTree) (path : Path) : Except FileFailure Bytes :=
  match tree.find path with
  | .ok (.file content) => .ok content
  | .ok .folder => .error .isFolder
  | .error failure => .error failure

/-- The names of the items right inside a folder. -/
def list (tree : FileTree) (path : Path) : Except FileFailure (List String) :=
  match tree.locate path with
  | .error failure => .error failure
  | .ok location =>
    match tree.item? location with
    | some .folder => .ok (tree.namesIn location)
    | some (.file _) => .error .notFolder
    | none => .error .notFound

/-- The folder in which the last of some names lies, and that name; none for the top, and for names
that stand for a folder that is there. -/
def newPlace (tree : FileTree) (names : List String) :
    Except FileFailure (Option (Location × String)) :=
  match names.getLast? with
  | none => .ok none
  | some last =>
    match tree.followAll [] names.dropLast with
    | .error failure => .error failure
    | .ok here =>
      match tree.item? here with
      | some .folder =>
        if last = "." ∨ last = ".." then .ok none else .ok (some (here, last))
      | _ => .error .notFolder

/-- Creates or replaces a file. -/
def write (tree : FileTree) (path : Path) (content : Bytes) : Except FileFailure FileTree :=
  match refusal? path with
  | some failure => .error failure
  | none =>
    match tree.newPlace path.names with
    | .error failure => .error failure
    | .ok none => .error .isFolder
    | .ok (some (here, name)) =>
      if path.endsInSlash ∨ tree.item? (here ++ [name]) = some .folder then .error .isFolder
      else if nameTooLong name then .error .nameTooLong
      else .ok (tree.put (here ++ [name]) (.file content))

/-- Creates one folder at the end of some names. -/
def makeFolder (tree : FileTree) (names : List String) : Except FileFailure FileTree :=
  match tree.newPlace names with
  | .error failure => .error failure
  | .ok none => .error .existing
  | .ok (some (here, name)) =>
    if nameTooLong name then .error .nameTooLong
    else if (tree.item? (here ++ [name])).isSome then .error .existing
    else .ok (tree.put (here ++ [name]) .folder)

/-- Whether names lead to a folder. -/
def leadsToFolder (tree : FileTree) (names : List String) : Bool :=
  match tree.followAll [] names with
  | .ok location => tree.item? location == some .folder
  | .error _ => false

/-- The folders above the last of some names, the nearest first.  The names are in reverse, and
those that end in `.` are passed over. -/
def foldersAbove : (reversed : List String) → List (List String)
  | [] => []
  | _ :: above =>
    if above.head? = some "." then foldersAbove above
    else above.reverse :: foldersAbove above

/-- Creates the first of some folders, of which each lies in the next one.  Those above are created
only where one is missing, and stay created if a later one fails. -/
def makeFolders (tree : FileTree) : List (List String) → FileTree × Option FileFailure
  | [] => (tree, none)
  | names :: above =>
    match tree.makeFolder names with
    | .ok made => (made, none)
    | .error .notFound =>
      match tree.makeFolders above with
      | (prepared, some failure) => (prepared, some failure)
      | (prepared, none) =>
        match prepared.makeFolder names with
        | .ok made => (made, none)
        | .error failure =>
          (prepared, if prepared.leadsToFolder names then none else some failure)
    | .error failure => (tree, if tree.leadsToFolder names then none else some failure)

/-- Creates a folder and all folders above it that are missing.  Gives the tree afterwards also
where that failed. -/
def createFolders (tree : FileTree) (path : Path) : FileTree × Option FileFailure :=
  if path.text = "" then (tree, none)
  else
    match refusal? path with
    | some failure => (tree, some failure)
    | none =>
      let trimmed := path.names.reverse.dropWhile (· = ".")
      tree.makeFolders (path.names :: foldersAbove trimmed)

/-- Removes what a path leads to, with all that lies in it.  A folder stays, empty, if the path
calls it `.` or `..`. -/
def remove (tree : FileTree) (path : Path) : FileTree :=
  let last := path.names.getLast?
  let kept (location other : Location) : Bool :=
    !location.isPrefixOf other || (last == some "." || last == some "..") && location == other
  match tree.locate path with
  | .ok location => tree.filter fun entry ↦ kept location entry.1
  | .error _ => tree

end FileTree

end AssetOverlay
