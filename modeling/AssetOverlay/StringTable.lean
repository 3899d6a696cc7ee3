import AssetOverlay.StringTable.Cell
import AssetOverlay.StringTable.Records

/-!
# String tables

A string table is a text of comma-separated records.  The first one gives the types of the columns,
and every further one is a row with a cell for each column; cells beyond those are ignored.  A text
without records is the empty table.

A table is usable as a whole or not at all, and the first fault is the one reported: the encoding,
then the leftmost unknown type, then row by row the leftmost cell that is missing or no value of its
type.  Faults of a row name the line on which its record starts, counted from one by line feeds.

Reading works with whatever splits the source into records.
-/

namespace AssetOverlay

/-- A decoded table. -/
structure StringTable where
  types : List CellType
  rows : List (List Cell)
deriving DecidableEq

namespace StringTable

/-- Why a table is unusable. -/
inductive Failure where
  | notUtf8
  /-- The source can't be split into records. -/
  | malformed (reason : String)
  | unknownType (column : Nat) (text : String)
  | missingCell (line column : Nat)
  | badCell (line column : Nat) (text : String) (reason : Cell.Failure)
deriving DecidableEq

def Failure.message : Failure → String
  | notUtf8 => "table is not valid UTF-8"
  | malformed reason => "can't read table: " ++ reason
  | unknownType column text =>
    "can't read type of column " ++ toString column ++ " : '" ++ text ++ "'"
  | missingCell line column =>
    "missing cell [line " ++ toString line ++ " col " ++ toString column ++ "]"
  | badCell line column text reason =>
    reason.message ++ " [line " ++ toString line ++ " col " ++ toString column ++ "] '" ++
      text ++ "'"

/-- Reads the names of types, the first of which stands in the given column. -/
def readTypes (column : Nat) : List String → Except Failure (List CellType)
  | [] => .ok []
  | text :: rest =>
    match CellType.ofName? text with
    | none => .error (.unknownType column text)
    | some type => (readTypes (column + 1) rest).map (type :: ·)

/-- Reads the cells of a row, the first of which stands in the given column. -/
def readCells (line column : Nat) : List CellType → List String → Except Failure (List Cell)
  | [], _ => .ok []
  | _ :: _, [] => .error (.missingCell line column)
  | type :: types, text :: texts =>
    match type.read text with
    | .error reason => .error (.badCell line column text reason)
    | .ok cell => (readCells line (column + 1) types texts).map (cell :: ·)

/-- The line of the record that was sought from an offset on.  The line breaks in front of the record
are skipped to find where it starts. -/
def lineAt (source : Bytes) (offset : Nat) : Nat :=
  let start :=
    match (source.drop offset).findIdx? fun byte ↦ !Records.isBreak byte with
    | some skipped => offset + skipped
    | none => source.length
  1 + (source.take start).count Records.lineFeed

/-- Reads rows of cells from the records of a source. -/
def readRows (source : Bytes) (types : List CellType) :
    List (Except String Records.Record) → Except Failure (List (List Cell))
  | [] => .ok []
  | .error reason :: _ => .error (.malformed reason)
  | .ok record :: rest =>
    match readCells (lineAt source (record.position.getD 0)) 0 types record.fields with
    | .error failure => .error failure
    | .ok cells => (readRows source types rest).map (cells :: ·)

/-- The table that the records of a source describe. -/
def ofRecords (source : Bytes) :
    List (Except String Records.Record) → Except Failure StringTable
  | [] => .ok ⟨[], []⟩
  | .error reason :: _ => .error (.malformed reason)
  | .ok header :: records =>
    match readTypes 0 header.fields with
    | .error failure => .error failure
    | .ok types => (readRows source types records).map fun rows ↦ ⟨types, rows⟩

/-- A source without the byte order mark in front of it. -/
def unmarked (source : Bytes) : Bytes :=
  if source.take 3 = Records.byteOrderMark then source.drop 3 else source

/-- Decodes the source of a table whose records are split in a given way. -/
def readBy (splitter : Records.Splitter) (source : Bytes) : Except Failure StringTable :=
  let body := unmarked source
  match Bytes.toText? body with
  | none => .error .notUtf8
  | some _ => ofRecords body (splitter body)

/-- Decodes the source of a table. -/
def read (source : Bytes) : Except Failure StringTable :=
  readBy Records.split source

/-- The number of columns. -/
def columnCount (table : StringTable) : Nat :=
  table.types.length

/-- The number of rows, the types not counted. -/
def rowCount (table : StringTable) : Nat :=
  table.rows.length

/-- The cell in a row and a column. -/
def cell? (table : StringTable) (row column : Nat) : Option Cell :=
  (table.rows[row]?).bind fun cells ↦ cells[column]?

end StringTable

end AssetOverlay
