import AssetOverlay.Number.Binary

/-!
# Shortest decimals

The decimal that stands for a binary magnitude is the one with the fewest digits among those that
round to it, and of those the nearest.  It is found on the coarsest decimal grid that has a point in
the interval of numbers rounding to the magnitude.  If any point of a grid lies in that interval, so
does one of the two neighbours of the magnitude on that grid, so only these are tried.
-/

namespace AssetOverlay.Shortest

/-- A decimal `digits * 10 ^ exponent`. -/
structure Point where
  digits : Nat
  exponent : Int
deriving DecidableEq

/-- The numbers that round to a magnitude, in units of a power of two: the ends, whether they
belong to the interval, and the magnitude itself. -/
structure Interval where
  lower : Nat
  middle : Nat
  upper : Nat
  unit : Int
  closed : Bool

/-- The interval of a magnitude.  Below a power of two the grid of the format is twice as fine. -/
def interval (format : Binary.Format) (value : Binary) : Interval :=
  let finer := value.mantissa = Nat.pow 2 (format.precision - 1) ∧ format.lowest < value.exponent
  { lower := 4 * value.mantissa - (if finer then 1 else 2)
    middle := 4 * value.mantissa
    upper := 4 * value.mantissa + 2
    unit := value.exponent - 2
    closed := value.mantissa % 2 = 0 }

/-- A point in units of `2 ^ unit`, as a fraction. -/
def Point.scaled (point : Point) (unit : Int) : Nat × Nat :=
  (point.digits * Nat.pow 10 point.exponent.toNat * Nat.pow 2 (-unit).toNat,
    Nat.pow 10 (-point.exponent).toNat * Nat.pow 2 unit.toNat)

/-- Whether a point lies in an interval. -/
def Interval.contains (interval : Interval) (point : Point) : Bool :=
  let (numerator, denominator) := point.scaled interval.unit
  let lower := interval.lower * denominator
  let upper := interval.upper * denominator
  (lower < numerator || interval.closed && lower == numerator) &&
    (numerator < upper || interval.closed && numerator == upper)

/-- The points of a grid on both sides of the middle of an interval. -/
def Interval.neighbours (interval : Interval) (exponent : Int) : Point × Point :=
  let (numerator, denominator) := Point.scaled ⟨1, exponent⟩ interval.unit
  let below := interval.middle * denominator / numerator
  (⟨below, exponent⟩, ⟨below + 1, exponent⟩)

/-- Whether the first of two points around the middle is not farther from it than the second. -/
def Interval.prefersFirst (interval : Interval) (first second : Point) : Bool :=
  let (below, denominator) := first.scaled interval.unit
  let (above, _) := second.scaled interval.unit
  let middle := interval.middle * denominator
  let left := middle - below
  let right := above - middle
  left < right || left == right && first.digits % 2 == 0

/-- The point of a grid that stands for the middle of an interval, if the grid has one. -/
def Interval.onGrid? (interval : Interval) (exponent : Int) : Option Point :=
  let (first, second) := interval.neighbours exponent
  match interval.contains first, interval.contains second with
  | true, true => some (if interval.prefersFirst first second then first else second)
  | true, false => some first
  | false, true => some second
  | false, false => none

/-- Tries grids from a coarse one on to finer ones. -/
def search (interval : Interval) : (grids : Nat) → (exponent : Int) → Option Point
  | 0, _ => none
  | grids + 1, exponent =>
    match interval.onGrid? exponent with
    | some point => some point
    | none => search interval grids (exponent - 1)

/-- The shortest decimal of a positive double.  No double reaches `10 ^ 310`, and seventeen digits
suffice for the smallest. -/
def ofDouble (value : Binary) : Point :=
  (search (interval Binary.double value) 660 310).getD ⟨0, 0⟩

end AssetOverlay.Shortest
