import AssetOverlay.Bytes

/-!
# Comma-separated records

A source is split into records of fields.  A comma ends a field, and a line feed or a carriage
return ends a record; further ones before the next record are skipped, so blank lines are none.  A
field that starts with a double quote is quoted up to the next lone quote: commas and line breaks in
it are data, and a doubled quote stands for one.  What follows the closing quote up to the end of the
field is data as it stands, as is a quote anywhere else.  A quote that is never closed runs to the
end of the source.

All of this is done on bytes.  Every record carries the position at which the search for it began,
which is just behind the line break that ended the record before; line breaks in front of the record
itself were not looked at by then.  Its fields are texts, so a record with a field that is not in
UTF-8 is refused.
-/

namespace AssetOverlay.Records

/-- One record of a source. -/
structure Record where
  /-- Where in the source the search for the record began, if that is known. -/
  position : Option Nat
  fields : List String
deriving DecidableEq

/-- What splits a source into records.  It may refuse some of them for a reason. -/
abbrev Splitter := Bytes → List (Except String Record)

def quote : UInt8 := 34

def comma : UInt8 := 44

def lineFeed : UInt8 := 10

def carriageReturn : UInt8 := 13

/-- Whether a byte is a line break. -/
def isBreak (byte : UInt8) : Bool :=
  byte = lineFeed || byte = carriageReturn

/-- The three bytes of a byte order mark. -/
def byteOrderMark : Bytes := [0xef, 0xbb, 0xbf]

/-- A record whose fields are not looked at as texts yet. -/
structure RawRecord where
  position : Nat
  fields : List Bytes
deriving DecidableEq

/-- The record with its fields as texts, if all of them are in UTF-8. -/
def RawRecord.decode (record : RawRecord) : Except String Record :=
  match record.fields.mapM Bytes.toText? with
  | some fields => .ok ⟨some record.position, fields⟩
  | none => .error "a field is not in UTF-8"

/-- Where in a record the reader is. -/
inductive Part where
  /-- In front of the record, where line breaks don't count. -/
  | before
  /-- At the start of a further field. -/
  | start
  /-- In a field, outside of quotes. -/
  | plain
  /-- In a field, inside quotes. -/
  | quoted
  /-- Just after a quote inside quotes, which may close them or be the first of two. -/
  | closing
deriving DecidableEq

/-- What the reader knows of the record it is in; the lists are in reverse. -/
structure OpenRecord where
  position : Nat
  fields : List Bytes
  field : Bytes
  part : Part

namespace OpenRecord

/-- A record that is looked for from a position on. -/
def soughtFrom (position : Nat) : OpenRecord :=
  ⟨position, [], [], .before⟩

/-- The fields after the current one has ended. -/
def ended (current : OpenRecord) : List Bytes :=
  current.field.reverse :: current.fields

/-- The record after its last field has ended. -/
def finish (current : OpenRecord) : RawRecord :=
  ⟨current.position, current.ended.reverse⟩

/-- The record after one more byte of its field. -/
def push (current : OpenRecord) (byte : UInt8) (part : Part) : OpenRecord :=
  { current with field := byte :: current.field, part }

/-- What a byte does to the record that the reader is in; none if it ends the record. -/
def step? (current : OpenRecord) (byte : UInt8) : Option OpenRecord :=
  match current.part with
  | .quoted =>
    if byte = quote then some { current with part := .closing }
    else some (current.push byte .quoted)
  | part =>
    if byte = quote ∧ (part = .before ∨ part = .start) then some { current with part := .quoted }
    else if byte = quote ∧ part = .closing then some (current.push byte .quoted)
    else if byte = comma then
      some { current with fields := current.ended, field := [], part := .start }
    else if isBreak byte then if part = .before then some current else none
    else some (current.push byte .plain)

end OpenRecord

/-- Splits what is left of a source from a position on, given the record that the reader is in. -/
def splitFrom (position : Nat) (current : OpenRecord) : Bytes → List RawRecord
  | [] => if current.part = .before then [] else [current.finish]
  | byte :: rest =>
    match current.step? byte with
    | some next => splitFrom (position + 1) next rest
    | none => current.finish :: splitFrom (position + 1) (.soughtFrom (position + 1)) rest

/-- The records of a source, not yet looked at as texts.  A byte order mark in front is not part of
the first. -/
def splitRaw (source : Bytes) : List RawRecord :=
  if source.take 3 = byteOrderMark then splitFrom 3 (.soughtFrom 0) (source.drop 3)
  else splitFrom 0 (.soughtFrom 0) source

/-- The records of a source. -/
def split : Splitter := fun source ↦
  (splitRaw source).map RawRecord.decode

end AssetOverlay.Records
