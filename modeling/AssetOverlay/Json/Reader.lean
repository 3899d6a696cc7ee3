import AssetOverlay.Json.Token

/-!
# Reading JSON trees

Reads a whole text as one tree.  Lists and objects may be nested 127 deep.  Every call reads at
least one byte or is followed by one that does, so three calls for each byte and a few more are
enough fuel for any text.
-/

namespace AssetOverlay.Json

/-- What may stand at the end of an object or list, or between its parts. -/
inductive Following where
  | done (cursor : Cursor)
  | more (cursor : Cursor)

/-- Finds the next item of a list: its end, or the start of the item. -/
def nextItem (first : Bool) (cursor : Cursor) : Except Failure Following :=
  let cursor := cursor.skipSpace
  match cursor.rest with
  | [] => cursor.fail .endInList
  | 93 :: _ => .ok (.done cursor.next)
  | byte :: _ =>
    if first then .ok (.more cursor)
    else if byte = 44 then
      let after := cursor.next.skipSpace
      match after.rest with
      | [] => after.fail .endInValue
      | 93 :: _ => after.failAhead .trailingComma
      | _ => .ok (.more after)
    else cursor.failAhead .expectedItemOrEnd

/-- Finds the next member of an object: its end, or what follows the opening quote of the name. -/
def nextMember (first : Bool) (cursor : Cursor) : Except Failure Following :=
  let cursor := cursor.skipSpace
  match cursor.rest with
  | [] => cursor.fail .endInObject
  | 125 :: _ => .ok (.done cursor.next)
  | byte :: _ =>
    if first then
      if byte = 34 then .ok (.more cursor.next) else cursor.failAhead .nameNotText
    else if byte = 44 then
      let after := cursor.next.skipSpace
      match after.rest with
      | [] => after.fail .endInValue
      | 34 :: _ => .ok (.more after.next)
      | 125 :: _ => after.failAhead .trailingComma
      | _ => after.failAhead .nameNotText
    else cursor.failAhead .expectedMemberOrEnd

/-- Reads the colon after the name of a member. -/
def readColon (cursor : Cursor) : Except Failure Cursor :=
  let cursor := cursor.skipSpace
  match cursor.rest with
  | [] => cursor.fail .endInObject
  | 58 :: _ => .ok cursor.next
  | _ => cursor.failAhead .expectedColon

/-- Reads a value that is neither list nor object, given its first byte. -/
def readLeaf (byte : UInt8) (cursor : Cursor) : Except Failure (Tree × Cursor) :=
  let word (letters : String) (tree : Tree) : Except Failure (Tree × Cursor) :=
    (readWord cursor.next.place letters.toList cursor.next.rest).map fun after ↦ (tree, after)
  let number (outcome : Except Failure (Number × Cursor)) : Except Failure (Tree × Cursor) :=
    outcome.map fun (value, after) ↦ (.number value, after)
  if byte = 110 then word "ull" .null
  else if byte = 116 then word "rue" (.bool true)
  else if byte = 102 then word "alse" (.bool false)
  else if byte = 45 then number (readNumber .whole true cursor.next)
  else if isDigit byte then number (readNumber .whole false cursor)
  else if byte = 34 then (readText cursor.next).map fun (text, after) ↦ (.text text, after)
  else cursor.failAhead .expectedValue

mutual

/-- Reads a value with at most `depth - 1` levels of nesting. -/
def readTree : (fuel depth : Nat) → Cursor → Except Failure (Tree × Cursor)
  | 0, _, cursor => cursor.fail .expectedValue
  | fuel + 1, depth, start =>
    let cursor := start.skipSpace
    match cursor.rest with
    | [] => cursor.fail .endInValue
    | byte :: _ =>
      if byte = 91 ∨ byte = 123 then
        if depth ≤ 1 then cursor.failAhead .nestedTooDeep
        else if byte = 91 then
          (readItems fuel (depth - 1) true cursor.next).map fun (items, after) ↦
            (.list items, after)
        else
          (readMembers fuel (depth - 1) true cursor.next).map fun (members, after) ↦
            (.ofMembers members, after)
      else readLeaf byte cursor

/-- Reads the remaining items of a list. -/
def readItems : (fuel depth : Nat) → (first : Bool) → Cursor →
    Except Failure (List Tree × Cursor)
  | 0, _, _, cursor => cursor.fail .endInList
  | fuel + 1, depth, first, cursor =>
    match nextItem first cursor with
    | .error failure => .error failure
    | .ok (.done after) => .ok ([], after)
    | .ok (.more item) =>
      match readTree fuel depth item with
      | .error failure => .error failure
      | .ok (tree, after) =>
        (readItems fuel depth false after).map fun (items, last) ↦ (tree :: items, last)

/-- Reads the remaining members of an object. -/
def readMembers : (fuel depth : Nat) → (first : Bool) → Cursor →
    Except Failure (List (String × Tree) × Cursor)
  | 0, _, _, cursor => cursor.fail .endInObject
  | fuel + 1, depth, first, cursor =>
    match nextMember first cursor with
    | .error failure => .error failure
    | .ok (.done after) => .ok ([], after)
    | .ok (.more member) =>
      match readText member with
      | .error failure => .error failure
      | .ok (name, afterName) =>
        match readColon afterName with
        | .error failure => .error failure
        | .ok colon =>
          match readTree fuel depth colon with
          | .error failure => .error failure
          | .ok (tree, after) =>
            (readMembers fuel depth false after).map fun (members, last) ↦
              ((name, tree) :: members, last)

end

/-- How many levels of nesting are one too many. -/
def nestingLimit : Nat := 128

/-- The tree that a whole text denotes. -/
def read (bytes : Bytes) : Except Failure Tree :=
  match readTree (3 * bytes.length + 3) nestingLimit (.ofBytes bytes) with
  | .error failure => .error failure
  | .ok (tree, cursor) =>
    let last := cursor.skipSpace
    match last.rest with
    | [] => .ok tree
    | _ :: _ => last.failAhead .trailingCharacters

end AssetOverlay.Json
