import AssetOverlay.Bytes
import AssetOverlay.Text.Hex

/-!
# Asset keys and canonical identifiers

An asset is addressed by a key: a 63-bit hash of its name, in which case and the two kinds of slash
do not count.  A name may also be a *literal key*, one of the words `hash`, `script` and `file`, an
underscore and one to sixteen hexadecimal digits, and then the digits are the key.  The script
machine knows functions and namespaces by a 32-bit canonical identifier of their name.

Both hashes fold over the UTF-8 bytes of a name, exclusive-or and then multiply, and read a byte as
a signed number: a byte above `0x7f` sets all higher bits.
-/

namespace AssetOverlay

/-- Addresses an asset. -/
structure Key where
  value : UInt64
deriving DecidableEq, Hashable, Inhabited

/-- Lower-case form of an ASCII letter; every other byte stays. -/
def lowerByte (byte : UInt8) : UInt8 :=
  if 65 ≤ byte ∧ byte ≤ 90 then byte + 32 else byte

namespace Key

/-- The value from which hashing a name starts. -/
def basis : UInt64 := 0xcbf29ce484222325

/-- The multiplier of every hashing step. -/
def multiplier : UInt64 := 0x100000001b3

/-- Keys have 63 bits: the highest bit of a word is cleared. -/
def mask : UInt64 := 0x7fffffffffffffff

/-- The key of the low 63 bits of a word. -/
def ofWord (word : UInt64) : Key :=
  ⟨word &&& mask⟩

/-- A name byte without regard to case and kind of slash. -/
def normalByte (byte : UInt8) : UInt8 :=
  if byte = 92 then 47 else lowerByte byte

/-- A byte as a signed number, in the two's complement of a 64-bit word. -/
def signExtend (byte : UInt8) : UInt64 :=
  byte.toInt8.toInt64.toUInt64

/-- One hashing step. -/
def mix (state : UInt64) (byte : UInt8) : UInt64 :=
  (state ^^^ signExtend (normalByte byte)) * multiplier

/-- The key of a name that is not literal. -/
def hash (name : String) : Key :=
  ofWord ((Bytes.ofText name).foldl mix basis)

/-- The letter that a character stands for when case does not count.  The long s is a form of the
letter s. -/
def foldCase (character : Char) : Char :=
  if character = 'ſ' then 's' else character.toLower

/-- The words that announce a literal key. -/
def literalWords : List (List Char) :=
  ["hash".toList, "script".toList, "file".toList]

/-- The digits of a literal key that is announced by the given word. -/
def digitsAfter? (word text : List Char) : Option (List Char) :=
  if (text.take word.length).map foldCase = word then
    match text.drop word.length with
    | '_' :: digits =>
      if 1 ≤ digits.length ∧ digits.length ≤ 16 then some digits else none
    | _ => none
  else none

/-- The value of a literal key, if the text is one. -/
def literal? (text : String) : Option UInt64 :=
  literalWords.findSome? fun word ↦
    match digitsAfter? word text.toList with
    | some digits => (Hex.value? digits).map UInt64.ofNat
    | none => none

/-- The key that a name in a manifest or a table refers to. -/
def ofName (text : String) : Key :=
  match literal? text with
  | some value => ofWord value
  | none => hash text

/-- A key as it is printed: its shortest hexadecimal numeral. -/
def text (key : Key) : String :=
  Hex.numeral key.value.toNat

/-- Puts a key into an ascending list of keys, unless it is there. -/
def insertSorted (key : Key) : List Key → List Key
  | [] => [key]
  | first :: rest =>
    if key.value < first.value then key :: first :: rest
    else if key.value = first.value then first :: rest
    else first :: insertSorted key rest

/-- The ascending list of the different keys of a list. -/
def sortedSet (keys : List Key) : List Key :=
  keys.foldl (fun set key ↦ insertSorted key set) []

end Key

namespace CanonicalId

/-- The value from which the canonical identifier of a name starts. -/
def basis : UInt32 := 0x4b9ace2f

/-- The multiplier of every step. -/
def multiplier : UInt32 := 0x01000193

/-- A byte as a signed number, in the two's complement of a 32-bit word. -/
def signExtend (byte : UInt8) : UInt32 :=
  byte.toInt8.toInt32.toUInt32

/-- One step: case does not count, slashes do. -/
def mix (state : UInt32) (byte : UInt8) : UInt32 :=
  (state ^^^ signExtend (lowerByte byte)) * multiplier

/-- The canonical identifier of a function or namespace name. -/
def ofName (name : String) : UInt32 :=
  (Bytes.ofText name).foldl mix basis

end CanonicalId

end AssetOverlay
