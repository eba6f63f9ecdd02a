import Intake.Number.Binary64

/-!
# Decimal notation

The fewest decimal digits that read back as a given floating point number, and the ways to lay
digits out. Of two shortest candidates the nearer is taken; of two equally near, text for a reader
has the larger one and precise text the even one. A fixed number of places rounds the exact binary
value, a half to the even neighbour; in front of these places the digits may stand in groups of
three.
-/

namespace Intake

/-- The number `significand * 10 ^ exponent`. -/
structure Decimal where
  significand : Nat
  exponent : Int
deriving DecidableEq, Repr

namespace Decimal

def digits (value : Nat) : List Char :=
  Nat.toDigits 10 value

def ofInt (value : Int) : List Char :=
  if value < 0 then '-' :: digits value.natAbs else digits value.natAbs

/-- How often a magnitude below one is to be multiplied by ten before it reaches one. -/
def placesToOne : Nat → Nat → Nat
  | 0, _ => 0
  | fuel + 1, units =>
    if Binary64.unitsPerOne ≤ units * 10 then 1 else placesToOne fuel (units * 10) + 1

/-- The power of ten that the first significant digit of a positive magnitude counts. No positive
magnitude is below `10 ^ -324`. -/
def leadingPlace (units : Nat) : Int :=
  if Binary64.unitsPerOne ≤ units then (digits (units / Binary64.unitsPerOne)).length - 1
  else -(placesToOne 324 units : Int)

/-- The magnitudes that round to a given one, in quarters of a unit. -/
structure Interval where
  low : Nat
  high : Nat
  /-- Whether the two ends round to it as well. -/
  closed : Bool

/-- The interval around a positive magnitude. Below a power of two the grid is twice as fine. -/
def roundingInterval (units : Nat) : Interval :=
  let grid := twoTo (units.log2 - 52)
  { low := if units = grid * twoTo 52 ∧ 1 < grid then 4 * units - grid else 4 * units - 2 * grid
    high := 4 * units + 2 * grid
    closed := (units / grid) % 2 == 0 }

/-- Whether `quarters / scale` quarters of a unit lie in an interval. -/
def Interval.holds (interval : Interval) (quarters scale : Nat) : Bool :=
  (interval.low * scale < quarters && quarters < interval.high * scale) ||
    (interval.closed &&
      (quarters == interval.low * scale || quarters == interval.high * scale))

/-- The multiple of `10 ^ place` that lies in the interval around a magnitude, if there is one:
the nearer of the magnitude's two neighbours on that grid. -/
def nearestAt? (halfWay : HalfWay) (units : Nat) (interval : Interval) (place : Int) :
    Option Nat :=
  let scale := tenTo (-place).toNat
  let step := Binary64.unitsPerOne * tenTo place.toNat
  let below := units * scale / step
  let above := below + 1
  let nearest := roundQuotient halfWay (units * scale) step
  let other := if nearest = below then above else below
  if interval.holds (4 * nearest * step) scale then some nearest
  else if interval.holds (4 * other * step) scale then some other
  else none

/-- The first grid, from `place` downwards, with a point in the interval. -/
def searchShortest (halfWay : HalfWay) (units : Nat) (interval : Interval) : Nat → Int → Decimal
  | 0, place =>
    ⟨units * tenTo (-place).toNat / (Binary64.unitsPerOne * tenTo place.toNat), place⟩
  | fuel + 1, place =>
    match nearestAt? halfWay units interval place with
    | some significand => ⟨significand, place⟩
    | none => searchShortest halfWay units interval fuel (place - 1)

/-- The same number without trailing zeros in its significand. -/
def withoutTrailingZeros : Nat → Decimal → Decimal
  | 0, decimal => decimal
  | fuel + 1, decimal =>
    if decimal.significand ≠ 0 ∧ decimal.significand % 10 = 0 then
      withoutTrailingZeros fuel ⟨decimal.significand / 10, decimal.exponent + 1⟩
    else decimal

/-- The shortest decimal that reads back as a magnitude; seventeen digits always do. -/
def shortest (halfWay : HalfWay) (units : Nat) : Decimal :=
  if units = 0 then ⟨0, 0⟩
  else
    withoutTrailingZeros 17
      (searchShortest halfWay units (roundingInterval units) 17 (leadingPlace units))

/-- How many digits stand before the point; not positive for numbers below one tenth. -/
def pointPosition (decimal : Decimal) : Int :=
  (digits decimal.significand).length + decimal.exponent

/-- Digits without an exponent, and without a point when the number is whole. -/
def positional (decimal : Decimal) : List Char :=
  let written := digits decimal.significand
  if 0 ≤ decimal.exponent then written ++ List.replicate decimal.exponent.toNat '0'
  else
    let places := (-decimal.exponent).toNat
    if places < written.length then
      written.take (written.length - places) ++ '.' :: written.drop (written.length - places)
    else '0' :: '.' :: List.replicate (places - written.length) '0' ++ written

/-- One digit before the point, and an exponent with its sign. -/
def scientific (decimal : Decimal) : List Char :=
  let power := decimal.pointPosition - 1
  let mantissa :=
    match digits decimal.significand with
    | first :: second :: others => first :: '.' :: second :: others
    | single => single
  mantissa ++ 'e' :: (if power < 0 then '-' else '+') :: digits power.natAbs

end Decimal

namespace Binary64

/-- The sign and the shortest digits without an exponent. -/
def positionalText (number : Binary64) : List Char :=
  (if number.negative then ['-'] else []) ++ (Decimal.shortest .up number.units).positional

/-- The shortest digits that read back, always with a point or an exponent: positional from `1e-5`
up to `1e16`, scientific outside. -/
def preciseText (number : Binary64) : List Char :=
  let decimal := Decimal.shortest .toEven number.units
  (if number.negative then ['-'] else []) ++
    if number.units = 0 then ['0', '.', '0']
    else if -5 < decimal.pointPosition ∧ decimal.pointPosition ≤ 16 then
      decimal.positional ++ if 0 ≤ decimal.exponent then ['.', '0'] else []
    else decimal.scientific

/-- The text shown to a reader: a whole number below `10 ^ 15` as an integer, anything else in
positional digits. -/
def displayText (number : Binary64) : List Char :=
  if number.isIntegral && number.wholePart < tenTo 15 then
    Decimal.ofInt (if number.negative then -number.wholePart else number.wholePart)
  else number.positionalText

/-- The digits before and after the point of the magnitude rounded to a number of places. -/
def fixedPlaces (places : Nat) (number : Binary64) : List Char × List Char :=
  let written := Decimal.digits (roundQuotient .toEven (number.units * tenTo places) unitsPerOne)
  let padded := List.replicate (places + 1 - written.length) '0' ++ written
  (padded.take (padded.length - places), padded.drop (padded.length - places))

end Binary64

namespace Grouped

/-- Digits with `separator` between groups of three, counted from the right. -/
def groups (separator : List Char) : List Char → List Char
  | [] => []
  | digit :: rest =>
    digit :: (if rest ≠ [] ∧ rest.length % 3 = 0 then separator ++ groups separator rest
      else groups separator rest)

/-- A number with grouped thousands and a fixed count of places. -/
def format (number : Binary64) (places : Nat) (point separator : List Char) : List Char :=
  let (whole, fraction) := number.fixedPlaces places
  let isZero := (whole ++ fraction).all (· == '0')
  (if number.signedUnits < 0 && !isZero then ['-'] else []) ++
    (groups separator whole ++ if places = 0 then [] else point ++ fraction)

end Grouped

end Intake
