import AssetOverlay.File.Failure
import AssetOverlay.Json
import AssetOverlay.Text.Quoted

/-!
# Failures of reading JSON

A text may be no JSON at all, or a value may be of another shape than is expected there.  Failures
of the text carry the place at which they were noticed; failures of a tree that was read before have
none.
-/

namespace AssetOverlay.Json

/-- A place in a text: the line, counted from one, and how many bytes of it were read. -/
structure Place where
  line : Nat
  column : Nat
deriving DecidableEq

namespace Place

/-- The place before the first byte. -/
def start : Place := ⟨1, 0⟩

/-- The place after one more byte. -/
def after (place : Place) (byte : UInt8) : Place :=
  if byte = 10 then ⟨place.line + 1, 0⟩ else ⟨place.line, place.column + 1⟩

/-- The place so many bytes earlier on the same line. -/
def before (place : Place) (count : Nat) : Place :=
  { place with column := place.column - count }

end Place

/-- What was found where something else was expected. -/
inductive Finding where
  | null
  | bool (value : Bool)
  | number (value : Number)
  | text (value : String)
  | list
  | object
deriving DecidableEq

namespace Finding

/-- What a tree is found to be. -/
def ofTree : Tree → Finding
  | .null => null
  | .bool value => bool value
  | .number value => number value
  | .text value => text value
  | .list _ => list
  | .object _ => object

def message : Finding → String
  | null => "null"
  | bool value => "boolean `" ++ (if value then "true" else "false") ++ "`"
  | number (.integer value) => "integer `" ++ toString value ++ "`"
  | number (.real value) => "floating point `" ++ value.text ++ "`"
  | text value => "string " ++ Quoted.render value
  | list => "sequence"
  | object => "map"

end Finding

/-- What was expected. -/
inductive Expectation where
  | text
  | path
  | boolean
  | list
  | entry
  | settings
deriving DecidableEq

def Expectation.message : Expectation → String
  | text => "a string"
  | path => "path string"
  | boolean => "a boolean"
  | list => "a sequence"
  | entry => "struct ManifestEntry"
  | settings => "struct Options"

/-- What is wrong with a text or a tree. -/
inductive Problem where
  | endInValue
  | endInObject
  | endInList
  | endInText
  | expectedValue
  | expectedWord
  | expectedColon
  | expectedMemberOrEnd
  | expectedItemOrEnd
  | nameNotText
  | trailingComma
  | trailingCharacters
  | badNumber
  | numberOutOfRange
  | badEscape
  | unpairedSurrogate
  | loneSurrogate
  | badCodePoint
  | controlCharacter
  | nestedTooDeep
  | wrongType (found : Finding) (expected : Expectation)
  | unknownKind (name : String)
  | missingField (name : String)
  | duplicateField (name : String)
  /-- A list that stands for an entry ends too early. -/
  | tooFewItems (length : Nat)
  /-- A list that stands for an entry goes on too long. -/
  | tooManyItems (length : Nat)
  /-- The file could not be read. -/
  | unreadable (failure : FileFailure)
deriving DecidableEq

def Problem.message : Problem → String
  | endInValue => "EOF while parsing a value"
  | endInObject => "EOF while parsing an object"
  | endInList => "EOF while parsing a list"
  | endInText => "EOF while parsing a string"
  | expectedValue => "expected value"
  | expectedWord => "expected ident"
  | expectedColon => "expected `:`"
  | expectedMemberOrEnd => "expected `,` or `\x7d`"
  | expectedItemOrEnd => "expected `,` or `]`"
  | nameNotText => "key must be a string"
  | trailingComma => "trailing comma"
  | trailingCharacters => "trailing characters"
  | badNumber => "invalid number"
  | numberOutOfRange => "number out of range"
  | badEscape => "invalid escape"
  | unpairedSurrogate => "unexpected end of hex escape"
  | loneSurrogate => "lone leading surrogate in hex escape"
  | badCodePoint => "invalid unicode code point"
  | controlCharacter =>
    "control character (\\u0000-\\u001F) found while parsing a string"
  | nestedTooDeep => "recursion limit exceeded"
  | wrongType found expected =>
    "invalid type: " ++ found.message ++ ", expected " ++ expected.message
  | unknownKind name => "unknown asset type '" ++ name ++ "'"
  | missingField name => "missing field `" ++ name ++ "`"
  | duplicateField name => "duplicate field `" ++ name ++ "`"
  | tooFewItems length =>
    "invalid length " ++ toString length ++ ", expected struct ManifestEntry with 4 elements"
  | tooManyItems length =>
    "invalid length " ++ toString length ++ ", expected fewer elements in array"
  | unreadable failure => failure.message

/-- A problem and the place at which it was noticed. -/
structure Failure where
  problem : Problem
  place : Option Place
deriving DecidableEq

namespace Failure

/-- A problem of a text. -/
def atPlace (problem : Problem) (place : Place) : Failure :=
  ⟨problem, some place⟩

/-- A problem without a place. -/
def ofProblem (problem : Problem) : Failure :=
  ⟨problem, none⟩

def message (failure : Failure) : String :=
  failure.problem.message ++
    match failure.place with
    | none => ""
    | some place =>
      " at line " ++ toString place.line ++ " column " ++ toString place.column

end Failure

end AssetOverlay.Json
