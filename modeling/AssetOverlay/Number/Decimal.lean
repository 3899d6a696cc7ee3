import AssetOverlay.Number.Binary
import AssetOverlay.Number.Integer

/-!
# Decimal numerals and single precision

A decimal numeral is an optional sign and digits with an optional point and an optional exponent,
or one of the words for infinity and for no number at all.  It denotes
`coefficient * 10 ^ exponent`, and its value in single precision is the magnitude nearest to that.
-/

namespace AssetOverlay

namespace Decimal

/-- Why a text is no decimal numeral. -/
inductive Failure where
  | empty
  | malformed
deriving DecidableEq

def Failure.message : Failure → String
  | empty => "cannot parse float from empty string"
  | malformed => "invalid float literal"

/-- What a numeral without its sign denotes. -/
inductive Magnitude where
  | finite (coefficient : Nat) (exponent : Int)
  | infinity
  | notANumber
deriving DecidableEq

/-- The value of a run of decimal digits, given the value of those before. -/
def valueFrom (value : Nat) (digits : List Char) : Nat :=
  digits.foldl (fun value character ↦ 10 * value + (character.toNat - '0'.toNat)) value

/-- The value from which on an exponent takes no further digits. -/
def exponentLimit : Nat := 65536

/-- The value of the digits of an exponent.  Those after which it has reached the limit do not
count. -/
def exponentValue (digits : List Char) : Nat :=
  digits.foldl (fun value character ↦
    if value < exponentLimit then 10 * value + (character.toNat - '0'.toNat) else value) 0

/-- Reads the exponent of a numeral, which may be missing. -/
def readExponent? (text : List Char) : Option Int :=
  let digits? (digits : List Char) :=
    if digits ≠ [] ∧ digits.all Char.isDigit then some (exponentValue digits) else none
  match text with
  | [] => some 0
  | mark :: rest =>
    if mark = 'e' ∨ mark = 'E' then
      match rest with
      | '-' :: digits => (digits? digits).map fun value ↦ -(value : Int)
      | '+' :: digits => (digits? digits).map fun value ↦ (value : Int)
      | digits => (digits? digits).map fun value ↦ (value : Int)
    else none

/-- Reads a numeral without its sign that is made of digits. -/
def readFinite? (text : List Char) : Option Magnitude :=
  let whole := text.takeWhile Char.isDigit
  let (fraction, rest) :=
    match text.dropWhile Char.isDigit with
    | '.' :: rest => (rest.takeWhile Char.isDigit, rest.dropWhile Char.isDigit)
    | rest => ([], rest)
  if whole = [] ∧ fraction = [] then none
  else (readExponent? rest).map fun exponent ↦
    .finite (valueFrom (valueFrom 0 whole) fraction) (exponent - fraction.length)

/-- Reads a numeral without its sign. -/
def readMagnitude? (text : List Char) : Option Magnitude :=
  let word := text.map Char.toLower
  if word = "inf".toList ∨ word = "infinity".toList then some .infinity
  else if word = "nan".toList then some .notANumber
  else readFinite? text

/-- The magnitude of a format nearest to a decimal, none if the decimal is beyond them all.  Far out
of range the answer is known from the sizes, without the power of ten. -/
def nearest (format : Binary.Format) (coefficient : Nat) (exponent : Int) : Option Binary :=
  let size : Int := coefficient.log2
  if coefficient = 0 then some ⟨0, format.lowest⟩
  else if 0 ≤ exponent then
    if format.highest + format.precision ≤ size + 3 * exponent then none
    else Binary.nearest format (coefficient * Nat.pow 10 exponent.toNat) 1
  else if size + 1 + 3 * exponent < format.lowest then some ⟨0, format.lowest⟩
  else Binary.nearest format coefficient (Nat.pow 10 (-exponent).toNat)

end Decimal

/-- A number in single precision, by its bits.  All that is no number has the same bits. -/
structure Single where
  bits : UInt32
deriving DecidableEq

namespace Single

/-- What is no number. -/
def notANumber : Single := ⟨0x7fc00000⟩

/-- A sign and the bits of a magnitude. -/
def ofBits (negative : Bool) (bits : Nat) : Single :=
  ⟨UInt32.ofNat (bits + if negative then 0x80000000 else 0)⟩

/-- The bits of infinity, which is also what a decimal beyond all magnitudes rounds to. -/
def infinityBits : Nat := 0x7f800000

/-- The single nearest to what a numeral denotes. -/
def ofMagnitude (negative : Bool) : Decimal.Magnitude → Single
  | .finite coefficient exponent =>
    match Decimal.nearest Binary.single coefficient exponent with
    | some value => ofBits negative (value.bits Binary.single)
    | none => ofBits negative infinityBits
  | .infinity => ofBits negative infinityBits
  | .notANumber => notANumber

/-- Reads a decimal numeral. -/
def read (text : List Char) : Except Decimal.Failure Single :=
  let signed (negative : Bool) (rest : List Char) : Except Decimal.Failure Single :=
    match Decimal.readMagnitude? rest with
    | some magnitude => .ok (ofMagnitude negative magnitude)
    | none => .error .malformed
  match text with
  | [] => .error .empty
  | '-' :: rest => signed true rest
  | '+' :: rest => signed false rest
  | rest => signed false rest

end Single

end AssetOverlay
