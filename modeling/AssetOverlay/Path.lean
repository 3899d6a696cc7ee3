/-!
# Paths

A path is a text in which slashes separate names.  Joining works on the text alone: an absolute path
replaces what it is joined to, and nothing is resolved.
-/

namespace AssetOverlay

/-- The place of a file or folder. -/
structure Path where
  text : String
deriving DecidableEq, Inhabited

namespace Path

/-- Whether a path starts at the top of the file system. -/
def isAbsolute (path : Path) : Bool :=
  path.text.toList.head? == some '/'

/-- Whether a path ends in a slash. -/
def endsInSlash (path : Path) : Bool :=
  path.text.toList.getLast? == some '/'

/-- A path as seen from another one. -/
def join (base path : Path) : Path :=
  if path.isAbsolute then path
  else if base.text = "" ∨ base.endsInSlash then ⟨base.text ++ path.text⟩
  else ⟨base.text ++ "/" ++ path.text⟩

/-- The parts of a text between slashes; `part` holds the characters of the first one so far in
reverse. -/
def partsFrom (part : List Char) : List Char → List String
  | [] => [String.ofList part.reverse]
  | character :: rest =>
    if character = '/' then String.ofList part.reverse :: partsFrom [] rest
    else partsFrom (character :: part) rest

/-- The names of a path one after the other.  Several slashes count as one. -/
def names (path : Path) : List String :=
  (partsFrom [] path.text.toList).filter (· ≠ "")

end Path

end AssetOverlay
