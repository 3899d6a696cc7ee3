/-!
# Hexadecimal numerals

Keys, offsets and detours are shown in lower-case hexadecimal without leading zeros, and zero is
the single digit `0`.  Reading accepts both cases and any number of leading zeros.
-/

namespace AssetOverlay.Hex

/-- The value of one hexadecimal digit of either case. -/
def digitValue? (character : Char) : Option Nat :=
  if '0' ≤ character ∧ character ≤ '9' then some (character.toNat - '0'.toNat)
  else if 'a' ≤ character ∧ character ≤ 'f' then some (character.toNat - 'a'.toNat + 10)
  else if 'A' ≤ character ∧ character ≤ 'F' then some (character.toNat - 'A'.toNat + 10)
  else none

/-- The value of a run of digits read from the left, given the value of those before it. -/
def valueFrom? (value : Nat) : List Char → Option Nat
  | [] => some value
  | character :: rest =>
    match digitValue? character with
    | some digit => valueFrom? (16 * value + digit) rest
    | none => none

/-- The value of a run of hexadecimal digits; the empty run has the value zero. -/
def value? (digits : List Char) : Option Nat :=
  valueFrom? 0 digits

/-- The shortest lower-case numeral of a number. -/
def numeral (value : Nat) : String :=
  String.ofList (Nat.toDigits 16 value)

/-- A numeral marked as hexadecimal. -/
def marked (value : Nat) : String :=
  "0x" ++ numeral value

/-- A numeral padded on the left with zeros to at least the given width. -/
def padded (width value : Nat) : String :=
  let digits := Nat.toDigits 16 value
  String.ofList (List.replicate (width - digits.length) '0' ++ digits)

end AssetOverlay.Hex
