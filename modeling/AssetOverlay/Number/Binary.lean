/-!
# Binary floating point

A finite magnitude is `mantissa * 2 ^ exponent`.  A format has a precision, the number of bits of
its mantissas, and a lowest and a highest exponent; smaller magnitudes have the lowest exponent and
a shorter mantissa.  `nearest` rounds a fraction to the nearest magnitude of a format, a tie to the
even mantissa, in exact arithmetic on natural numbers.
-/

namespace AssetOverlay

/-- A finite magnitude. -/
structure Binary where
  mantissa : Nat
  exponent : Int
deriving DecidableEq

namespace Binary

/-- The magnitudes that can be represented. -/
structure Format where
  precision : Nat
  lowest : Int
  highest : Int

/-- Single precision: 32 bits in all. -/
def single : Format := ⟨24, -149, 104⟩

/-- Double precision: 64 bits in all. -/
def double : Format := ⟨53, -1074, 971⟩

/-- A quotient rounded to the nearest natural number, a half to the even one. -/
def roundedQuotient (numerator denominator : Nat) : Nat :=
  let quotient := numerator / denominator
  let twice := 2 * (numerator % denominator)
  if twice < denominator then quotient
  else if denominator < twice then quotient + 1
  else quotient + quotient % 2

/-- A fraction divided by a power of two, as numerator and denominator. -/
def scaleDown (numerator denominator : Nat) (exponent : Int) : Nat × Nat :=
  (numerator * Nat.pow 2 (-exponent).toNat, denominator * Nat.pow 2 exponent.toNat)

/-- The greatest exponent of a power of two that is not above a positive fraction. -/
def floorLog (numerator denominator : Nat) : Int :=
  let guess : Int := (numerator.log2 : Int) - denominator.log2
  let scaled := scaleDown numerator denominator guess
  if scaled.2 ≤ scaled.1 then guess else guess - 1

/-- The magnitude of a format nearest to a fraction, none if the fraction is beyond them all. -/
def nearest (format : Format) (numerator denominator : Nat) : Option Binary :=
  if numerator = 0 then some ⟨0, format.lowest⟩
  else
    let exponent :=
      max format.lowest (floorLog numerator denominator - (format.precision - 1 : Nat))
    let scaled := scaleDown numerator denominator exponent
    let mantissa := roundedQuotient scaled.1 scaled.2
    let rounded : Binary :=
      if mantissa = Nat.pow 2 format.precision then
        ⟨Nat.pow 2 (format.precision - 1), exponent + 1⟩
      else ⟨mantissa, exponent⟩
    if format.highest < rounded.exponent then none else some rounded

/-- The bits of a magnitude without its sign: the exponent field above the mantissa field, whose
leading bit is left out unless the exponent field is zero. -/
def bits (format : Format) (value : Binary) : Nat :=
  let leading := Nat.pow 2 (format.precision - 1)
  if value.mantissa < leading then value.mantissa
  else (value.exponent - format.lowest + 1).toNat * leading + (value.mantissa - leading)

/-- A magnitude as a fraction. -/
def toFraction (value : Binary) : Nat × Nat :=
  (value.mantissa * Nat.pow 2 value.exponent.toNat, Nat.pow 2 (-value.exponent).toNat)

end Binary

end AssetOverlay
