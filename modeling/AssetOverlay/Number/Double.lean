import AssetOverlay.Number.Shortest

/-!
# Numbers in double precision

A double is read as a significand of at most 64 bits and a power of ten.  The significand is rounded
to a double first and then multiplied or divided by the double nearest to the power of ten, so the
result may differ from the nearest double in its last place.
-/

namespace AssetOverlay

/-- A finite number in double precision. -/
structure Double where
  negative : Bool
  magnitude : Binary
deriving DecidableEq

namespace Double

/-- The double nearest to a power of ten that is in range. -/
def powerOfTen (exponent : Nat) : Binary :=
  (Binary.nearest Binary.double (Nat.pow 10 exponent) 1).getD ⟨0, 0⟩

/-- The product of two magnitudes, none if it is beyond the largest. -/
def multiply (first second : Binary) : Option Binary :=
  let (firstNumerator, firstDenominator) := first.toFraction
  let (secondNumerator, secondDenominator) := second.toFraction
  Binary.nearest Binary.double (firstNumerator * secondNumerator)
    (firstDenominator * secondDenominator)

/-- The quotient of two magnitudes. -/
def divide (first second : Binary) : Option Binary :=
  let (firstNumerator, firstDenominator) := first.toFraction
  let (secondNumerator, secondDenominator) := second.toFraction
  Binary.nearest Binary.double (firstNumerator * secondDenominator)
    (firstDenominator * secondNumerator)

/-- The greatest power of ten that is a double. -/
def greatestPower : Nat := 308

/-- Divides by powers of ten of at most the greatest one until the exponent is used up.  Four steps
take any significand to zero. -/
def divideByPower : (steps : Nat) → Binary → (exponent : Nat) → Option Binary
  | 0, value, _ => some value
  | steps + 1, value, exponent =>
    if exponent ≤ greatestPower then divide value (powerOfTen exponent)
    else if value.mantissa = 0 then some value
    else
      match divide value (powerOfTen greatestPower) with
      | some quotient => divideByPower steps quotient (exponent - greatestPower)
      | none => none

/-- A significand times a power of ten, none if that is beyond the largest double. -/
def ofParts (significand : Nat) (exponent : Int) : Option Binary :=
  match Binary.nearest Binary.double significand 1 with
  | none => none
  | some value =>
    if 0 ≤ exponent then
      if exponent.toNat ≤ greatestPower then multiply value (powerOfTen exponent.toNat)
      else if value.mantissa = 0 then some value
      else none
    else divideByPower 4 value (-exponent).toNat

/-- Digits and the position of the point among them.  Numbers from `1e-5` up to `1e16` are written
without an exponent and always with a point, all others as one digit, more after a point if there
are more, and a signed exponent. -/
def layOut (digits : List Char) (exponent : Int) : List Char :=
  let point := digits.length + exponent
  if 0 ≤ exponent ∧ point ≤ 16 then
    digits ++ List.replicate exponent.toNat '0' ++ ['.', '0']
  else if 0 < point ∧ point ≤ 16 then
    digits.take point.toNat ++ '.' :: digits.drop point.toNat
  else if -5 < point ∧ point ≤ 0 then
    '0' :: '.' :: List.replicate (-point).toNat '0' ++ digits
  else
    let fraction := if digits.length ≤ 1 then [] else '.' :: digits.drop 1
    let sign := if 0 ≤ point - 1 then '+' else '-'
    digits.take 1 ++ fraction ++ 'e' :: sign :: Nat.toDigits 10 (point - 1).natAbs

/-- The shortest text of a double that reads back. -/
def text (value : Double) : String :=
  let sign := if value.negative then ['-'] else []
  if value.magnitude.mantissa = 0 then String.ofList (sign ++ ['0', '.', '0'])
  else
    let point := Shortest.ofDouble value.magnitude
    String.ofList (sign ++ layOut (Nat.toDigits 10 point.digits) point.exponent)

end Double

end AssetOverlay
