import AssetOverlay.Json.Reader
import AssetOverlay.Json.Skip
import AssetOverlay.Settings

/-!
# Reading settings

Settings are read from a JSON object in which every member may be missing, or from a list of up to
four values in the order of the members.  Members with other names are skipped, and a member that is
there twice is a failure.  The text arrives byte by byte, so a failure that is noticed after looking
at a byte counts that byte.
-/

namespace AssetOverlay.Settings

open Json

/-- The members of settings. -/
inductive Field where
  | packageFolder
  | logFile
  | verbose
  | loadOnStart
deriving DecidableEq

namespace Field

/-- All members, in their order in a list. -/
def all : List Field :=
  [packageFolder, logFile, verbose, loadOnStart]

/-- The name of a member. -/
def name : Field → String
  | packageFolder => "mods_dir"
  | logFile => "log_file"
  | verbose => "verbose"
  | loadOnStart => "load_on_start"

/-- The member with the given name. -/
def ofName? (text : String) : Option Field :=
  all.find? fun field ↦ field.name == text

end Field

/-- Reads a value that is not of the expected type, to tell what it is. -/
def readMisplaced {α : Type} (expected : Expectation) (byte : UInt8) (cursor : Cursor) :
    Except Failure α :=
  let wrong (found : Finding) (place : Place) : Except Failure α :=
    .error (.atPlace (.wrongType found expected) place)
  let word (letters : String) (found : Finding) : Except Failure α :=
    match readWord cursor.next.place letters.toList cursor.next.rest with
    | .error failure => .error failure
    | .ok after => wrong found after.place
  let number (outcome : Except Failure (Number × Cursor)) : Except Failure α :=
    match outcome with
    | .error failure => .error failure
    | .ok (value, after) => wrong (.number value) after.placeAhead
  if byte = 110 then word "ull" .null
  else if byte = 116 then word "rue" (.bool true)
  else if byte = 102 then word "alse" (.bool false)
  else if byte = 45 then number (readNumber .stream true cursor.next)
  else if isDigit byte then number (readNumber .stream false cursor)
  else if byte = 34 then
    match readText cursor.next with
    | .error failure => .error failure
    | .ok (text, after) => wrong (.text text) after.place
  else if byte = 91 then wrong .list cursor.placeAhead
  else if byte = 123 then wrong .object cursor.placeAhead
  else cursor.failAhead .expectedValue

/-- Reads a path, or null for one that is not set. -/
def readPath (start : Cursor) : Except Failure (Option Path × Cursor) :=
  let cursor := start.skipSpace
  match cursor.rest with
  | [] => cursor.fail .endInValue
  | byte :: _ =>
    if byte = 110 then
      (readWord cursor.next.place "ull".toList cursor.next.rest).map fun after ↦ (none, after)
    else if byte = 34 then
      (readText cursor.next).map fun (text, after) ↦ (some ⟨text⟩, after)
    else readMisplaced .path byte cursor

/-- Reads a flag. -/
def readFlag (start : Cursor) : Except Failure (Bool × Cursor) :=
  let cursor := start.skipSpace
  match cursor.rest with
  | [] => cursor.fail .endInValue
  | byte :: _ =>
    if byte = 116 then
      (readWord cursor.next.place "rue".toList cursor.next.rest).map fun after ↦ (true, after)
    else if byte = 102 then
      (readWord cursor.next.place "alse".toList cursor.next.rest).map fun after ↦ (false, after)
    else readMisplaced .boolean byte cursor

/-- Reads the value of a member into settings. -/
def readField (settings : Settings) (field : Field) (cursor : Cursor) :
    Except Failure (Settings × Cursor) :=
  match field with
  | .packageFolder => (readPath cursor).map fun (path, after) ↦
      ({ settings with packageFolder := path }, after)
  | .logFile => (readPath cursor).map fun (path, after) ↦
      ({ settings with logFile := path }, after)
  | .verbose => (readFlag cursor).map fun (value, after) ↦
      ({ settings with verbose := value }, after)
  | .loadOnStart => (readFlag cursor).map fun (value, after) ↦
      ({ settings with loadOnStart := value }, after)

/-- Reads the remaining members of an object, of which `seen` were read.  Every member has several
bytes, so one step for each byte is enough. -/
def readMembers : (fuel : Nat) → (first : Bool) → (seen : List Field) → Settings → Cursor →
    Except Failure (Settings × Cursor)
  | 0, _, _, _, cursor => cursor.fail .endInObject
  | fuel + 1, first, seen, settings, cursor =>
    match nextMember first cursor with
    | .error failure => .error failure
    | .ok (.done after) => .ok (settings, after)
    | .ok (.more member) =>
      match readText member with
      | .error failure => .error failure
      | .ok (name, named) =>
        match Field.ofName? name with
        | some field =>
          if seen.contains field then
            .error (.atPlace (.duplicateField name) named.skipSpace.placeAhead)
          else
            match readColon named with
            | .error failure => .error failure
            | .ok colon =>
              match readField settings field colon with
              | .error failure => .error failure
              | .ok (next, after) => readMembers fuel false (field :: seen) next after
        | none =>
          match readColon named with
          | .error failure => .error failure
          | .ok colon =>
            match skipValue colon with
            | .error failure => .error failure
            | .ok after => readMembers fuel false seen settings after

/-- Reads the end of a list after all values that settings have. -/
def readListEnd (start : Cursor) : Except Failure Cursor :=
  let cursor := start.skipSpace
  match cursor.rest with
  | [] => cursor.fail .endInList
  | 93 :: _ => .ok cursor.next
  | 44 :: _ =>
    let after := cursor.next.skipSpace
    match after.rest with
    | 93 :: _ => after.failAhead .trailingComma
    | _ => after.failAhead .trailingCharacters
  | _ => cursor.failAhead .trailingCharacters

/-- Reads the values of the given members from a list. -/
def readItems (first : Bool) (settings : Settings) (cursor : Cursor) :
    List Field → Except Failure (Settings × Cursor)
  | [] => (readListEnd cursor).map fun after ↦ (settings, after)
  | field :: fields =>
    match nextItem first cursor with
    | .error failure => .error failure
    | .ok (.done after) => .ok (settings, after)
    | .ok (.more item) =>
      match readField settings field item with
      | .error failure => .error failure
      | .ok (next, after) => readItems false next after fields

/-- Reads settings from a cursor. -/
def readFrom (start : Cursor) : Except Failure (Settings × Cursor) :=
  let cursor := start.skipSpace
  match cursor.rest with
  | [] => cursor.fail .endInValue
  | byte :: rest =>
    if byte = 91 then readItems true standard cursor.next Field.all
    else if byte = 123 then readMembers (rest.length + 1) true [] standard cursor.next
    else readMisplaced .settings byte cursor

/-- The settings that a whole text describes. -/
def ofBytes (bytes : Bytes) : Except Failure Settings :=
  match readFrom (.ofBytes bytes) with
  | .error failure => .error failure
  | .ok (settings, cursor) =>
    let last := cursor.skipSpace
    match last.rest with
    | [] => .ok settings
    | _ :: _ => last.failAhead .trailingCharacters

end AssetOverlay.Settings
