/-!
# Failures of the file system

The causes for which an operation on files fails, with their numbers, kinds and texts.
-/

namespace AssetOverlay

/-- Why the file system refused an operation. -/
inductive FileFailure where
  | notFound
  | existing
  | notFolder
  | isFolder
  | nameTooLong
  /-- A path with a zero character reaches no file system. -/
  | zeroInPath
deriving DecidableEq

namespace FileFailure

/-- The number and the text of a failure that the file system itself reports. -/
def described? : FileFailure → Option (Nat × String)
  | notFound => some (2, "No such file or directory")
  | existing => some (17, "File exists")
  | notFolder => some (20, "Not a directory")
  | isFolder => some (21, "Is a directory")
  | nameTooLong => some (36, "File name too long")
  | zeroInPath => none

/-- The name of the kind of a failure. -/
def kind : FileFailure → String
  | notFound => "NotFound"
  | existing => "AlreadyExists"
  | notFolder => "NotADirectory"
  | isFolder => "IsADirectory"
  | nameTooLong => "InvalidFilename"
  | zeroInPath => "InvalidInput"

/-- The text for a path with a zero character. -/
def zeroText : String := "file name contained an unexpected NUL byte"

/-- The text of a failure in a chain of causes. -/
def message (failure : FileFailure) : String :=
  match failure.described? with
  | some (number, text) => text ++ " (os error " ++ toString number ++ ")"
  | none => zeroText

/-- All parts of a failure, as a message shows them that has no chain of causes. -/
def detail (failure : FileFailure) : String :=
  match failure.described? with
  | some (number, text) =>
    "Os \x7b code: " ++ toString number ++ ", kind: " ++ failure.kind ++ ", message: \"" ++ text ++
      "\" \x7d"
  | none =>
    "Error \x7b kind: " ++ failure.kind ++ ", message: \"" ++ zeroText ++ "\" \x7d"

end FileFailure

end AssetOverlay
