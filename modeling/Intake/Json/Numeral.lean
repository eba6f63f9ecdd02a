import Intake.Number.Numeral
import Intake.Value.Basic

/-!
# Numerals of the interchange format

A numeral without point and exponent is an integer as long as a 64-bit word holds it. Any other is
a floating point number, computed from a 64-bit significand and a power of ten: both are rounded,
and then their product or quotient. Digits that the significand cannot hold are dropped. A numeral
past the largest number is no number at all.
-/

namespace Intake

namespace JsonNumeral

/-- One past the largest significand. -/
def significandLimit : Nat := twoTo 64

/-- A significand while it is read: its value, how many digits were dropped, and whether one was. -/
structure Significand where
  value : Nat
  dropped : Nat
  full : Bool

/-- The significand after one more digit. -/
def Significand.push (significand : Significand) (digit : Char) : Significand :=
  let next := 10 * significand.value + (digit.toNat - 48)
  if significand.full || significandLimit ≤ next then
    { significand with dropped := significand.dropped + 1, full := true }
  else { significand with value := next }

/-- The significand of a list of digits that continues another one. -/
def Significand.pushAll (significand : Significand) (digits : List Char) : Significand :=
  digits.foldl Significand.push significand

/-- A rounded power of ten, in units. -/
def powerUnits (exponent : Nat) : Nat :=
  (Binary64.ofDecimal false 1 exponent).units

/-- A significand scaled by a power of ten, in units; none when it is too large. Below `10 ^ -308`
the power is divided out in two steps, and below `10 ^ -616` nothing is left. -/
def scaled? (significand : Nat) (exponent : Int) : Option Nat :=
  let units := (Binary64.ofInt significand).units
  if 308 < exponent then if significand = 0 then some 0 else none
  else if 0 ≤ exponent then
    let product := Binary64.mulUnits units (powerUnits exponent.toNat)
    if product < Binary64.infinityUnits then some product else none
  else if -308 ≤ exponent then some (Binary64.divUnits units (powerUnits (-exponent).toNat))
  else if -616 ≤ exponent then
    some (Binary64.divUnits (Binary64.divUnits units (powerUnits 308))
      (powerUnits (-exponent - 308).toNat))
  else some 0

/-- The integer of a sign and digits, unless it needs more than 64 bits or is a negative zero. -/
def integer? (negative : Bool) (magnitude : Nat) : Option Int :=
  if negative then
    if 0 < magnitude && magnitude ≤ twoTo 63 then some (-magnitude) else none
  else if magnitude < significandLimit then some magnitude
  else none

/-- The number of a numeral with ASCII digits. -/
def number? (numeral : Numeral) : Option Number :=
  let whole := Significand.pushAll ⟨0, 0, false⟩ numeral.whole
  match numeral.isWhole && !whole.full, integer? numeral.negative whole.value with
  | true, some value => some (.integer value)
  | _, _ =>
    let fraction := numeral.fraction.getD []
    let all := Significand.pushAll ⟨whole.value, 0, false⟩ fraction
    let exponent : Int := Numeral.exponentValue numeral.exponent + whole.dropped -
      (fraction.length - all.dropped : Nat)
    (scaled? all.value exponent).map fun units => .float ⟨numeral.negative, units⟩

/-- Whether digits have no needless zero at their start. -/
def isTidy : List Char → Bool
  | '0' :: _ :: _ => false
  | [] => false
  | _ => true

/-- The exponent at the start of a text, when there is one, and the rest. None when the mark of an
exponent is not followed by a digit. -/
def takeExponent? : List Char → Option (Option (Bool × List Char) × List Char)
  | mark :: rest =>
    if mark = 'e' ∨ mark = 'E' then
      let (negative, unsigned) := Numeral.takeSign rest
      let digits := unsigned.takeWhile Char.isDigit
      if digits = [] then none
      else some (some (negative, digits), unsigned.dropWhile Char.isDigit)
    else some (none, mark :: rest)
  | [] => some (none, [])

/-- The fraction at the start of a text, when there is one, and the rest. None when a point is not
followed by a digit. -/
def takeFraction? : List Char → Option (Option (List Char) × List Char)
  | '.' :: rest =>
    let digits := rest.takeWhile Char.isDigit
    if digits = [] then none else some (some digits, rest.dropWhile Char.isDigit)
  | rest => some (none, rest)

/-- The numeral at the start of a text, and the rest. -/
def take? (text : List Char) : Option (Numeral × List Char) := do
  let (negative, unsigned) :=
    match text with
    | '-' :: rest => (true, rest)
    | rest => (false, rest)
  let whole := unsigned.takeWhile Char.isDigit
  if !isTidy whole then none
  let (fraction, rest) ← takeFraction? (unsigned.dropWhile Char.isDigit)
  let (exponent, rest) ← takeExponent? rest
  return (⟨negative, whole, fraction, exponent⟩, rest)

end JsonNumeral

end Intake
