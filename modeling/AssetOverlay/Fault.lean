import AssetOverlay.Asset
import AssetOverlay.File.Failure
import AssetOverlay.Json.Failure

/-!
# Faults

A fault is a cause together with what was being done when it arose, from the outside in.  It is
shown in two ways: as one line that joins all messages, and as a report whose first line is the
outermost message and which lists the others as its causes.
-/

namespace AssetOverlay

/-- The innermost reason of a fault. -/
inductive Cause where
  | file (failure : FileFailure)
  | json (failure : Json.Failure)
  | script (failure : Script.Failure)
  | table (failure : StringTable.Failure)
  /-- A manifest is no object. -/
  | notObject
  /-- Logging was set up before. -/
  | loggerInstalled
deriving DecidableEq

def Cause.message : Cause → String
  | file failure => failure.message
  | json failure => failure.message
  | script failure => failure.message
  | table failure => failure.message
  | notObject => "mod json metadata is not an object"
  | loggerInstalled => "a logger has already been installed"

/-- What was being done when a fault arose. -/
inductive Activity where
  | readingAsset (kind : AssetKind) (path : Path)
  | preparingScript (path : Path)
  | decodingTable (path : Path)
  | readingRawFile (path : Path)
  | decodingEntry
  | loadingEntry (name : String)
  | readingManifest
  | parsingManifest
  | listingPackages (root : Path)
  | openingSettings (path : Path)
  | parsingSettings (path : Path)
  | creatingLog (path : Path)
deriving DecidableEq

def Activity.message : Activity → String
  | readingAsset kind path => "can't read " ++ kind.name ++ " '" ++ path.text ++ "'"
  | preparingScript path => "error when reading scriptparsetree '" ++ path.text ++ "'"
  | decodingTable path => "error when loading stringtable '" ++ path.text ++ "'"
  | readingRawFile path => "can't read raw file '" ++ path.text ++ "'"
  | decodingEntry => "bad data member"
  | loadingEntry name => "can't load '" ++ name ++ "'"
  | readingManifest => "can't read mod metadata file"
  | parsingManifest => "can't parse mod json metadata"
  | listingPackages root => "can't list mods directory '" ++ root.text ++ "'"
  | openingSettings path => "can't open settings file " ++ Quoted.render path.text
  | parsingSettings path => "can't parse settings file " ++ Quoted.render path.text
  | creatingLog path => "can't create log file " ++ Quoted.render path.text

/-- A cause and what was being done, the outermost activity first. -/
structure Fault where
  activities : List Activity
  cause : Cause
deriving DecidableEq

namespace Fault

/-- A fault that arose while something else was being done as well. -/
def during (activity : Activity) (fault : Fault) : Fault :=
  { fault with activities := activity :: fault.activities }

/-- All messages, the outermost first. -/
def messages (fault : Fault) : List String :=
  fault.activities.map Activity.message ++ [fault.cause.message]

/-- The messages on one line. -/
def line (fault : Fault) : String :=
  ": ".intercalate fault.messages

/-- Indents the lines of a message: the first one that is not empty by a label, the others by as
many blanks as given.  Empty lines stay empty. -/
def indent (label : String) (blanks : Nat) (message : String) : String :=
  let lines := message.splitOn "\n"
  let blank := lines.takeWhile (· = "")
  let margin := String.ofList (List.replicate blanks ' ')
  "\n".intercalate <| blank ++
    match lines.dropWhile (· = "") with
    | [] => []
    | first :: rest =>
      (label ++ first) :: rest.map fun line ↦ if line = "" then line else margin ++ line

/-- One of several causes with its number, right-aligned to four places. -/
def numbered (index : Nat) (message : String) : String :=
  let number := toString index
  indent (String.ofList (List.replicate (4 - number.length) ' ') ++ number ++ ": ") 6 message

/-- A fault as a report. -/
def report (fault : Fault) : String :=
  match fault.messages with
  | [] => ""
  | [outer] => outer
  | [outer, cause] => outer ++ "\n\nCaused by:\n" ++ indent "    " 4 cause
  | outer :: causes =>
    outer ++ "\n\nCaused by:\n" ++ "\n".intercalate (causes.mapIdx numbered)

end Fault

end AssetOverlay
