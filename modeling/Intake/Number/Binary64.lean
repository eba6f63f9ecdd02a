/-!
# Binary floating point numbers

A 64-bit binary floating point number as an exact count of the smallest positive one, which is
`2 ^ -1074`. Every finite number is such a count, so comparison is comparison of integers and
rounding is done on exact fractions: the quotient of two natural numbers goes to the nearest whole
number. The first count past the largest number stands for infinity.
-/

namespace Intake

def twoTo (exponent : Nat) : Nat :=
  Nat.pow 2 exponent

def tenTo (exponent : Nat) : Nat :=
  Nat.pow 10 exponent

/-- Where a quotient goes that lies halfway between two whole numbers. -/
inductive HalfWay where
  | toEven
  | up
deriving DecidableEq, Repr

/-- What is added to the smaller neighbour of a quotient halfway between two whole numbers. -/
def HalfWay.step (halfWay : HalfWay) (below : Nat) : Nat :=
  match halfWay with
  | toEven => below % 2
  | up => 1

/-- The whole number nearest to `numerator / denominator`. -/
def roundQuotient (halfWay : HalfWay) (numerator denominator : Nat) : Nat :=
  let quotient := numerator / denominator
  let remainder := numerator % denominator
  if 2 * remainder < denominator then quotient
  else if denominator < 2 * remainder then quotient + 1
  else quotient + halfWay.step quotient

/-- A whole number is its own rounding. -/
theorem roundQuotient_mul_self (halfWay : HalfWay) (whole denominator : Nat)
    (positive : 0 < denominator) :
    roundQuotient halfWay (whole * denominator) denominator = whole := by
  simp [roundQuotient, Nat.mul_div_cancel _ positive, positive]

/-- A binary floating point number: its sign and its magnitude in units of `2 ^ -1074`. -/
structure Binary64 where
  negative : Bool
  units : Nat
deriving DecidableEq, Repr, Inhabited

namespace Binary64

/-- One, as a count of units. -/
def unitsPerOne : Nat := twoTo 1074

/-- The count of units that stands for infinity. -/
def infinityUnits : Nat := twoTo 2098

/-- The count of units that a magnitude of `numerator / denominator` units rounds to. Numbers have
53 significant bits, so the grid they lie on is `2 ^ (n - 53)` for a magnitude of `n` bits, and no
finer than one unit. -/
def roundUnits (numerator denominator : Nat) : Nat :=
  let grid := twoTo ((numerator / denominator).log2 - 52)
  min (roundQuotient .toEven numerator (denominator * grid) * grid) infinityUnits

def ofFraction (negative : Bool) (numerator denominator : Nat) : Binary64 :=
  ⟨negative, roundUnits (numerator * unitsPerOne) denominator⟩

def ofInt (value : Int) : Binary64 :=
  ofFraction (value < 0) value.natAbs 1

/-- The number nearest to `significand * 10 ^ exponent`. An exponent far outside the range of the
format decides the result without the power being formed. -/
def ofDecimal (negative : Bool) (significand : Nat) (exponent : Int) : Binary64 :=
  if significand = 0 then ⟨negative, 0⟩
  else if 400 < exponent then ⟨negative, infinityUnits⟩
  else if exponent + (significand.log2 + 1) < -400 then ⟨negative, 0⟩
  else if 0 ≤ exponent then ofFraction negative (significand * tenTo exponent.toNat) 1
  else ofFraction negative significand (tenTo (-exponent).toNat)

def mulUnits (left right : Nat) : Nat :=
  roundUnits (left * right) unitsPerOne

def divUnits (left right : Nat) : Nat :=
  roundUnits (left * unitsPerOne) right

/-- Neither infinity. -/
def isFinite (number : Binary64) : Bool :=
  number.units < infinityUnits

/-- The signed count of units; both zeros count zero. -/
def signedUnits (number : Binary64) : Int :=
  if number.negative then -number.units else number.units

/-- Equality of value: the two zeros are equal. -/
def eqValue (left right : Binary64) : Bool :=
  left.signedUnits == right.signedUnits

/-- Order of value. -/
def compareValue (left right : Binary64) : Ordering :=
  compare left.signedUnits right.signedUnits

def isZero (number : Binary64) : Bool :=
  number.units == 0

/-- Whether the number has no fractional part. -/
def isIntegral (number : Binary64) : Bool :=
  number.units % unitsPerOne == 0

/-- The integral part of the magnitude. -/
def wholePart (number : Binary64) : Nat :=
  number.units / unitsPerOne

theorem eqValue_iff {left right : Binary64} :
    left.eqValue right = true ↔ left.signedUnits = right.signedUnits := by
  simp [eqValue]

theorem compareValue_eq_eq_iff {left right : Binary64} :
    left.compareValue right = .eq ↔ left.eqValue right = true := by
  simp [compareValue, eqValue]

end Binary64

end Intake
