import AssetOverlay.Key
import AssetOverlay.Number.Decimal
import AssetOverlay.Text.Blank

/-!
# Typed cells

The first record of a string table names the type of every column, and each further cell is read as
a value of its column's type.
-/

namespace AssetOverlay

/-- The type of the cells of a column. -/
inductive CellType where
  | undefined
  | string
  | int
  | float
  | hash
  | hash7
  | hash8
  | bool
deriving DecidableEq

/-- The value of a cell. -/
inductive Cell where
  | undefined
  | bool (value : Bool)
  | hash (key : Key)
  | int (value : Int64)
  | float (value : Single)
  | string (text : String)
deriving DecidableEq

/-- Why a cell is no value of its type. -/
inductive Cell.Failure where
  | int (failure : Integer.Failure)
  | float (failure : Decimal.Failure)
deriving DecidableEq

def Cell.Failure.message : Cell.Failure → String
  | int failure => failure.message
  | float failure => failure.message

namespace CellType

/-- All types, in the order in which they are documented. -/
def all : List CellType :=
  [undefined, string, int, float, hash, hash7, hash8, bool]

/-- The name by which the first record of a table refers to a type. -/
def name : CellType → String
  | undefined => "undefined"
  | string => "string"
  | int => "int"
  | float => "float"
  | hash => "hash"
  | hash7 => "hash7"
  | hash8 => "hash8"
  | bool => "bool"

/-- The type with exactly the given name. -/
def ofName? (text : String) : Option CellType :=
  all.find? fun type ↦ type.name == text

/-- Reads the text of a cell.  Only the text `true` is true, and white space around a number does
not count. -/
def read (type : CellType) (text : String) : Except Cell.Failure Cell :=
  match type with
  | undefined => .ok .undefined
  | bool => .ok (.bool (text == "true"))
  | hash | hash7 | hash8 => .ok (.hash (Key.ofName text))
  | int =>
    match Integer.read (Blank.trim text.toList) with
    | .ok value => .ok (.int value)
    | .error failure => .error (.int failure)
  | float =>
    match Single.read (Blank.trim text.toList) with
    | .ok value => .ok (.float value)
    | .error failure => .error (.float failure)
  | string => .ok (.string text)

end CellType

end AssetOverlay
