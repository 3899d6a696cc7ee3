/-!
# Byte strings and little-endian words

Every binary value in a script is little-endian.  Words are read at a position of a byte string,
where bytes past the end count as zero, so that reading is total and the callers state the lengths
that they need.  Writing a word gives its bytes, lowest first.
-/

namespace AssetOverlay

/-- A file, a buffer or a part of one. -/
abbrev Bytes := List UInt8

namespace Bytes

/-- The byte at a position, zero past the end. -/
def byteAt (bytes : Bytes) (position : Nat) : UInt8 :=
  bytes.getD position 0

/-- The 16-bit word whose lowest byte is at a position. -/
def word16At (bytes : Bytes) (position : Nat) : UInt16 :=
  (bytes.byteAt position).toUInt16 ||| (bytes.byteAt (position + 1)).toUInt16 <<< 8

/-- The 32-bit word whose lowest byte is at a position. -/
def word32At (bytes : Bytes) (position : Nat) : UInt32 :=
  (bytes.byteAt position).toUInt32 ||| (bytes.byteAt (position + 1)).toUInt32 <<< 8 |||
    (bytes.byteAt (position + 2)).toUInt32 <<< 16 ||| (bytes.byteAt (position + 3)).toUInt32 <<< 24

/-- The 64-bit word whose lowest byte is at a position. -/
def word64At (bytes : Bytes) (position : Nat) : UInt64 :=
  (bytes.word32At position).toUInt64 ||| (bytes.word32At (position + 4)).toUInt64 <<< 32

/-- The two bytes of a 16-bit word. -/
def ofWord16 (word : UInt16) : Bytes :=
  [word.toUInt8, (word >>> 8).toUInt8]

/-- The four bytes of a 32-bit word. -/
def ofWord32 (word : UInt32) : Bytes :=
  [word.toUInt8, (word >>> 8).toUInt8, (word >>> 16).toUInt8, (word >>> 24).toUInt8]

/-- The eight bytes of a 64-bit word. -/
def ofWord64 (word : UInt64) : Bytes :=
  ofWord32 word.toUInt32 ++ ofWord32 (word >>> 32).toUInt32

/-- The first `count` bytes and the rest, if there are that many. -/
def splitExactly? (count : Nat) (bytes : Bytes) : Option (Bytes × Bytes) :=
  let front := bytes.take count
  if front.length = count then some (front, bytes.drop count) else none

/-- The 32-bit word in front of a byte string and the bytes after it. -/
def nextWord32? (bytes : Bytes) : Option (UInt32 × Bytes) :=
  match bytes.splitExactly? 4 with
  | some (word, rest) => some (word.word32At 0, rest)
  | none => none

/-- Replaces the bytes from a position on by as many given ones. -/
def overwrite (bytes : Bytes) (position : Nat) (replacement : Bytes) : Bytes :=
  bytes.take position ++ replacement ++ bytes.drop (position + replacement.length)

/-- The UTF-8 form of a text. -/
def ofText (text : String) : Bytes :=
  text.toList.flatMap String.utf8EncodeChar

/-- The text of which a byte string is the UTF-8 form, if it is one. -/
def toText? (bytes : Bytes) : Option String :=
  String.fromUTF8? ⟨bytes.toArray⟩

/-- How many bytes in front of a byte string make up whole characters of UTF-8.  A character has up
to four bytes, and no part of one from its start is a text. -/
def wholeCharacters : Bytes → Nat
  | [] => 0
  | first :: rest =>
    match [0, 1, 2, 3].find? fun more ↦ (toText? (first :: rest.take more)).isSome with
    | some more => more + 1 + wholeCharacters (rest.drop more)
    | none => 0
termination_by bytes => bytes.length
decreasing_by
  rw [List.length_drop, List.length_cons]
  omega

end Bytes

end AssetOverlay
