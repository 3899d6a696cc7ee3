import AssetOverlay.Text.Hex

/-!
# Integer numerals

Signed decimal numerals of 64-bit integers and hexadecimal numerals of 64-bit words.  Digits are
read from the left, and the first fault wins: a character that is no digit, or the digit that takes
the value out of range.
-/

namespace AssetOverlay.Integer

/-- Why a text is no integer numeral. -/
inductive Failure where
  | empty
  | badDigit
  | tooLarge
  | tooSmall
deriving DecidableEq

def Failure.message : Failure → String
  | empty => "cannot parse integer from empty string"
  | badDigit => "invalid digit found in string"
  | tooLarge => "number too large to fit in target type"
  | tooSmall => "number too small to fit in target type"

/-- The value of a decimal digit. -/
def decimalDigit? (character : Char) : Option Nat :=
  if '0' ≤ character ∧ character ≤ '9' then some (character.toNat - '0'.toNat) else none

/-- Reads digits to a value of at most `limit`, given the value of those before. -/
def readDigits (digit? : Char → Option Nat) (radix limit : Nat) (beyond : Failure) (value : Nat) :
    List Char → Except Failure Nat
  | [] => .ok value
  | character :: rest =>
    match digit? character with
    | none => .error .badDigit
    | some digit =>
      if limit < radix * value + digit then .error beyond
      else readDigits digit? radix limit beyond (radix * value + digit) rest

/-- Reads a decimal numeral with an optional sign. -/
def readDecimal (text : List Char) : Except Failure Int64 :=
  let positive (digits : List Char) :=
    (readDigits decimalDigit? 10 (Nat.pow 2 63 - 1) .tooLarge 0 digits).map fun value ↦
      Int64.ofInt value
  match text with
  | [] => .error .empty
  | ['+'] | ['-'] => .error .badDigit
  | '-' :: digits =>
    (readDigits decimalDigit? 10 (Nat.pow 2 63) .tooSmall 0 digits).map fun value ↦
      Int64.ofInt (-(value : Int))
  | '+' :: digits => positive digits
  | digits => positive digits

/-- Reads a hexadecimal numeral with an optional plus sign. -/
def readHex (text : List Char) : Except Failure UInt64 :=
  let digitsOf (digits : List Char) :=
    (readDigits Hex.digitValue? 16 (Nat.pow 2 64 - 1) .tooLarge 0 digits).map UInt64.ofNat
  match text with
  | [] => .error .empty
  | ['+'] => .error .badDigit
  | '+' :: digits => digitsOf digits
  | digits => digitsOf digits

/-- Reads a numeral as a cell may hold it: hexadecimal after `0x`, where a word is the signed
integer of the same bits, and decimal otherwise. -/
def read (text : List Char) : Except Failure Int64 :=
  match text with
  | '0' :: 'x' :: digits => (readHex digits).map UInt64.toInt64
  | text => readDecimal text

end AssetOverlay.Integer
