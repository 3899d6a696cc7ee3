import AssetOverlay.Bytes
import AssetOverlay.Json.Failure

/-!
# Tokens of JSON texts

Words, texts and numbers are read from a cursor, the unread bytes together with the place that
reading has reached.  A text is scanned byte by byte, so that every failure is noticed at the byte
that makes it one, and only at the closing quote is it looked at as UTF-8.
-/

namespace AssetOverlay.Json

/-- The unread bytes of a text and the place before them. -/
structure Cursor where
  place : Place
  rest : Bytes

namespace Cursor

/-- The cursor before a whole text. -/
def ofBytes (bytes : Bytes) : Cursor :=
  ⟨.start, bytes⟩

/-- The cursor after the next byte. -/
def next (cursor : Cursor) : Cursor :=
  match cursor.rest with
  | [] => cursor
  | byte :: rest => ⟨cursor.place.after byte, rest⟩

/-- The place that includes the next byte, if there is one. -/
def placeAhead (cursor : Cursor) : Place :=
  cursor.next.place

/-- A failure at the bytes read so far. -/
def fail {α : Type} (cursor : Cursor) (problem : Problem) : Except Failure α :=
  .error (.atPlace problem cursor.place)

/-- A failure at the next byte. -/
def failAhead {α : Type} (cursor : Cursor) (problem : Problem) : Except Failure α :=
  .error (.atPlace problem cursor.placeAhead)

end Cursor

/-- Whether a byte is white space between tokens. -/
def isSpace (byte : UInt8) : Bool :=
  byte = 32 || byte = 10 || byte = 9 || byte = 13

/-- Whether a byte is a decimal digit. -/
def isDigit (byte : UInt8) : Bool :=
  48 ≤ byte && byte ≤ 57

/-- Skips bytes as long as they pass a test. -/
def skipWhile (test : UInt8 → Bool) (place : Place) : Bytes → Cursor
  | [] => ⟨place, []⟩
  | byte :: rest =>
    if test byte then skipWhile test (place.after byte) rest else ⟨place, byte :: rest⟩

/-- The cursor after white space. -/
def Cursor.skipSpace (cursor : Cursor) : Cursor :=
  skipWhile isSpace cursor.place cursor.rest

/-- Reads the rest of a word whose first letter was read. -/
def readWord (place : Place) : (word : List Char) → Bytes → Except Failure Cursor
  | [], rest => .ok ⟨place, rest⟩
  | _ :: _, [] => .error (.atPlace .endInValue place)
  | letter :: word, byte :: rest =>
    if byte.toNat = letter.toNat then readWord (place.after byte) word rest
    else .error (.atPlace .expectedWord (place.after byte))

/-! ## Texts -/

/-- Where in a text the scanner is. -/
inductive TextPart where
  /-- Between escapes. -/
  | plain
  /-- After a backslash. -/
  | escape
  /-- Among the four digits of an escape, of which these are read; `high` is the surrogate to which
  the escape is the second half. -/
  | digits (high : Option Nat) (read : List UInt8)
  /-- After a high surrogate, which needs a second escape. -/
  | second (high : Nat)
  /-- After the backslash of the second escape. -/
  | secondMark (high : Nat)

/-- The byte for which a one-letter escape stands. -/
def simpleEscape? (letter : UInt8) : Option UInt8 :=
  if letter = 34 then some 34
  else if letter = 92 then some 92
  else if letter = 47 then some 47
  else if letter = 98 then some 8
  else if letter = 102 then some 12
  else if letter = 110 then some 10
  else if letter = 114 then some 13
  else if letter = 116 then some 9
  else none

/-- The code unit of four hexadecimal digits, given in reverse. -/
def codeUnit? (digits : List UInt8) : Option Nat :=
  Hex.value? (digits.reverse.map fun byte ↦ Char.ofNat byte.toNat)

/-- Whether a code unit is the first half of a pair. -/
def isHighSurrogate (unit : Nat) : Bool :=
  0xd800 ≤ unit && unit ≤ 0xdbff

/-- Whether a code unit is the second half of a pair. -/
def isLowSurrogate (unit : Nat) : Bool :=
  0xdc00 ≤ unit && unit ≤ 0xdfff

/-- The bytes of a code point. -/
def encodePoint (point : Nat) : List UInt8 :=
  String.utf8EncodeChar (Char.ofNat point)

/-- What a complete escape means after what came before it: more bytes of the text and where the
scanner is then. -/
def finishEscape (high : Option Nat) (unit : Nat) : Except Problem (List UInt8 × TextPart) :=
  match high with
  | some first =>
    if isLowSurrogate unit then
      .ok (encodePoint (0x10000 + (first - 0xd800) * 0x400 + (unit - 0xdc00)), .plain)
    else .error .loneSurrogate
  | none =>
    if isLowSurrogate unit then .error .loneSurrogate
    else if isHighSurrogate unit then .ok ([], .second unit)
    else .ok (encodePoint unit, .plain)

/-- What one byte means in a text: nothing if it ends the text, or more bytes of the text and where
the scanner is then.  A text that is only skipped may hold halves of pairs. -/
def stepText (skipped : Bool) (part : TextPart) (byte : UInt8) :
    Except Problem (Option (List UInt8 × TextPart)) :=
  match part with
  | .plain =>
    if byte = 34 then .ok none
    else if byte = 92 then .ok (some ([], .escape))
    else if byte < 32 then .error .controlCharacter
    else .ok (some ([byte], .plain))
  | .escape =>
    if byte = 117 then .ok (some ([], .digits none []))
    else
      match simpleEscape? byte with
      | some meaning => .ok (some ([meaning], .plain))
      | none => .error .badEscape
  | .digits high read =>
    if read.length < 3 then .ok (some ([], .digits high (byte :: read)))
    else
      match codeUnit? (byte :: read) with
      | none => .error .badEscape
      | some unit =>
        if skipped then .ok (some ([], .plain)) else (finishEscape high unit).map some
  | .second high =>
    if byte = 92 then .ok (some ([], .secondMark high)) else .error .unpairedSurrogate
  | .secondMark high =>
    if byte = 117 then .ok (some ([], .digits (some high) [])) else .error .unpairedSurrogate

/-- Scans a text up to its closing quote, before which the cursor is left.  `read` holds the bytes
of the text so far in reverse. -/
def scanText (skipped : Bool) (part : TextPart) (read : List UInt8) (place : Place) :
    Bytes → Except Failure (List UInt8 × Cursor)
  | [] => .error (.atPlace .endInText place)
  | byte :: rest =>
    match stepText skipped part byte with
    | .error problem => .error (.atPlace problem (place.after byte))
    | .ok none => .ok (read, ⟨place, byte :: rest⟩)
    | .ok (some (more, part)) =>
      scanText skipped part (more.reverse ++ read) (place.after byte) rest

/-- Reads a text whose opening quote was read.  If it is not UTF-8, the place is where the first
byte that is no part of a character would stand if it and all bytes after it, up to the closing
quote, were written without escapes. -/
def readText (cursor : Cursor) : Except Failure (String × Cursor) :=
  match scanText false .plain [] cursor.place cursor.rest with
  | .error failure => .error failure
  | .ok (read, closing) =>
    let bytes : Bytes := read.reverse
    match Bytes.toText? bytes with
    | some text => .ok (text, closing.next)
    | none =>
      .error (.atPlace .badCodePoint
        (closing.place.before (bytes.length - bytes.wholeCharacters - 1)))

/-- Skips a text whose opening quote was read. -/
def skipText (cursor : Cursor) : Except Failure Cursor :=
  (scanText true .plain [] cursor.place cursor.rest).map fun (_, closing) ↦ closing.next

/-! ## Numbers -/

/-- How a text reaches the reader: all at once, or byte by byte.  In the second case a byte that was
only looked at, to see where a number ends, counts as read. -/
inductive Supply where
  | whole
  | stream
deriving DecidableEq

/-- The place that a reader has reached when it has looked at the next byte. -/
def Supply.placeSeen (supply : Supply) (cursor : Cursor) : Place :=
  match supply with
  | .whole => cursor.place
  | .stream => cursor.placeAhead

/-- The digits in front of a cursor, and the cursor after them. -/
def Cursor.digits (cursor : Cursor) : List Nat × Cursor :=
  ((cursor.rest.takeWhile isDigit).map fun byte ↦ byte.toNat - 48,
    skipWhile isDigit cursor.place cursor.rest)

/-- Appends digits to a significand as long as it keeps to 64 bits; gives also the digits left. -/
def appendDigits (significand : Nat) : List Nat → Nat × List Nat
  | [] => (significand, [])
  | digit :: rest =>
    if Nat.pow 2 64 ≤ 10 * significand + digit then (significand, digit :: rest)
    else appendDigits (10 * significand + digit) rest

/-- Reads the digits of an exponent into its value and the cursor after them.  A value beyond 31
bits stops the reading, at the cursor after the digit that makes it so. -/
def readExponentDigits (value : Nat) (place : Place) : Bytes → Option Nat × Cursor
  | [] => (some value, ⟨place, []⟩)
  | byte :: rest =>
    if isDigit byte then
      let larger := 10 * value + (byte.toNat - 48)
      if Nat.pow 2 31 ≤ larger then (none, ⟨place.after byte, rest⟩)
      else readExponentDigits larger (place.after byte) rest
    else (some value, ⟨place, byte :: rest⟩)

/-- The number of a significand and a power of ten, read up to the cursor. -/
def finishNumber (supply : Supply) (negative : Bool) (significand : Nat) (exponent : Int)
    (cursor : Cursor) : Except Failure (Number × Cursor) :=
  match Double.ofParts significand exponent with
  | some magnitude => .ok (.real ⟨negative, magnitude⟩, cursor)
  | none => .error (.atPlace .numberOutOfRange (supply.placeSeen cursor))

/-- Reads the exponent of a number, from its mark on. -/
def readExponent (supply : Supply) (negative : Bool) (significand : Nat) (scale : Int)
    (cursor : Cursor) : Except Failure (Number × Cursor) :=
  let marked := cursor.next
  let (falling, signed) :=
    match marked.rest with
    | 45 :: _ => (true, marked.next)
    | 43 :: _ => (false, marked.next)
    | _ => (false, marked)
  match signed.rest with
  | [] => signed.fail .endInValue
  | byte :: _ =>
    if isDigit byte then
      match readExponentDigits 0 signed.place signed.rest with
      | (some value, after) =>
        finishNumber supply negative significand
          (if falling then scale - value else scale + value) after
      | (none, after) =>
        if significand ≠ 0 ∧ !falling then after.fail .numberOutOfRange
        else .ok (.real ⟨negative, ⟨0, Binary.double.lowest⟩⟩, after.digits.2)
    else signed.failAhead .badNumber

/-- Reads the fraction of a number, from its point on. -/
def readFraction (supply : Supply) (negative : Bool) (significand : Nat) (scale : Int)
    (cursor : Cursor) : Except Failure (Number × Cursor) :=
  let (digits, after) := cursor.next.digits
  if digits = [] then
    match after.rest with
    | [] => after.fail .endInValue
    | _ :: _ => after.failAhead .badNumber
  else
    let (extended, left) := appendDigits significand digits
    let lowered := scale - (digits.length - left.length : Nat)
    match after.rest with
    | 101 :: _ | 69 :: _ => readExponent supply negative extended lowered after
    | _ => finishNumber supply negative extended lowered after

/-- A number that is a significand only. -/
def integerNumber (negative : Bool) (significand : Nat) : Number :=
  if negative then
    if significand = 0 ∨ Nat.pow 2 63 < significand then
      .real ⟨true, (Binary.nearest Binary.double significand 1).getD ⟨0, 0⟩⟩
    else .integer (-(significand : Int))
  else .integer significand

/-- Reads a number whose sign, if it has one, was read. -/
def readNumber (supply : Supply) (negative : Bool) (cursor : Cursor) :
    Except Failure (Number × Cursor) :=
  match cursor.rest with
  | [] => cursor.fail .endInValue
  | first :: _ =>
    let (digits, after) :=
      if first = 48 then ([0], cursor.next) else cursor.digits
    let doubledZero := first = 48 ∧ (after.rest.head?.any isDigit) = true
    if doubledZero then after.failAhead .badNumber
    else if digits = [] then cursor.failAhead .badNumber
    else
      let (significand, left) := appendDigits 0 digits
      match after.rest with
      | 46 :: _ => readFraction supply negative significand left.length after
      | 101 :: _ | 69 :: _ => readExponent supply negative significand left.length after
      | _ =>
        if left = [] then .ok (integerNumber negative significand, after)
        else finishNumber supply negative significand left.length after

end AssetOverlay.Json
