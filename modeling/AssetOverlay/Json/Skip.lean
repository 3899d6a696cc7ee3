import AssetOverlay.Json.Token

/-!
# Skipping JSON values

A value that nobody asks for is passed over without being kept, and so without a limit on nesting:
the open lists and objects are on a stack.  Texts are only scanned for their end, and numbers only
for their form.
-/

namespace AssetOverlay.Json

/-- An open list or object. -/
inductive Frame where
  | list
  | object
deriving DecidableEq

namespace Frame

/-- The problem of a text that ends inside. -/
def endProblem : Frame → Problem
  | list => .endInList
  | object => .endInObject

/-- The problem of something that is neither a comma nor the end. -/
def separatorProblem : Frame → Problem
  | list => .expectedItemOrEnd
  | object => .expectedMemberOrEnd

/-- The byte that closes a frame. -/
def closing : Frame → UInt8
  | list => 93
  | object => 125

end Frame

/-- Skips the exponent of a number, from its mark on. -/
def skipExponent (cursor : Cursor) : Except Failure Cursor :=
  let marked := cursor.next
  let signed :=
    match marked.rest with
    | 43 :: _ | 45 :: _ => marked.next
    | _ => marked
  if signed.digits.1 = [] then signed.failAhead .badNumber else .ok signed.digits.2

/-- Skips a number whose sign, if it has one, was passed. -/
def skipNumber (cursor : Cursor) : Except Failure Cursor :=
  let leadingZero := cursor.rest.head? = some 48
  let after := if leadingZero then cursor.next else cursor.digits.2
  if leadingZero ∧ (after.rest.head?.any isDigit) = true then after.failAhead .badNumber
  else if !leadingZero ∧ cursor.digits.1 = [] then cursor.failAhead .badNumber
  else
    match after.rest with
    | 46 :: _ =>
      let (digits, last) := after.next.digits
      if digits = [] then last.failAhead .badNumber
      else
        match last.rest with
        | 101 :: _ | 69 :: _ => skipExponent last
        | _ => .ok last
    | 101 :: _ | 69 :: _ => skipExponent after
    | _ => .ok after

/-- Skips a value that is neither list nor object, given its first byte. -/
def skipLeaf (byte : UInt8) (cursor : Cursor) : Except Failure Cursor :=
  let word (letters : String) := readWord cursor.next.place letters.toList cursor.next.rest
  if byte = 110 then word "ull"
  else if byte = 116 then word "rue"
  else if byte = 102 then word "alse"
  else if byte = 45 then skipNumber cursor.next
  else if isDigit byte then skipNumber cursor
  else if byte = 34 then skipText cursor.next
  else cursor.failAhead .expectedValue

/-- Skips the name of a member and the colon after it. -/
def skipName (start : Cursor) : Except Failure Cursor :=
  let cursor := start.skipSpace
  match cursor.rest with
  | [] => cursor.fail .endInObject
  | 34 :: _ =>
    match skipText cursor.next with
    | .error failure => .error failure
    | .ok named =>
      let after := named.skipSpace
      match after.rest with
      | [] => after.fail .endInObject
      | 58 :: _ => .ok after.next
      | _ => after.failAhead .expectedColon
  | _ => cursor.failAhead .nameNotText

/-- What is skipped next. -/
inductive Expected where
  /-- A value. -/
  | value
  /-- What may follow a value in the innermost frame. -/
  | separator
  /-- What may follow the opening of the innermost frame. -/
  | opening
deriving DecidableEq

/-- Skips on in the given frames.  Every step passes a byte or is followed by one that does. -/
def skipOn : (fuel : Nat) → Expected → List Frame → Cursor → Except Failure Cursor
  | 0, _, _, cursor => cursor.fail .expectedValue
  | fuel + 1, .value, frames, start =>
    let cursor := start.skipSpace
    match cursor.rest with
    | [] => cursor.fail .endInValue
    | byte :: _ =>
      if byte = 91 then skipOn fuel .opening (.list :: frames) cursor.next
      else if byte = 123 then skipOn fuel .opening (.object :: frames) cursor.next
      else
        match skipLeaf byte cursor with
        | .error failure => .error failure
        | .ok after => skipOn fuel .separator frames after
  | _ + 1, _, [], cursor => .ok cursor
  | fuel + 1, expected, frame :: outer, start =>
    let cursor := start.skipSpace
    let enter (place : Cursor) : Except Failure Cursor :=
      match frame with
      | .list => .ok place
      | .object => skipName place
    match cursor.rest with
    | [] => cursor.fail frame.endProblem
    | byte :: _ =>
      if byte = frame.closing then skipOn fuel .separator outer cursor.next
      else if expected = .opening then
        match enter cursor with
        | .error failure => .error failure
        | .ok inside => skipOn fuel .value (frame :: outer) inside
      else if byte = 44 then
        match enter cursor.next with
        | .error failure => .error failure
        | .ok inside => skipOn fuel .value (frame :: outer) inside
      else cursor.failAhead frame.separatorProblem

/-- Skips a value. -/
def skipValue (cursor : Cursor) : Except Failure Cursor :=
  skipOn (3 * cursor.rest.length + 3) .value [] cursor

end AssetOverlay.Json
