import Intake.Number.Binary64
import Intake.Text.Basic

/-!
# Numerals in text

The numerals that templates and conditions recognise: an optional sign, digits with at most one
point and at least one digit, and an optional exponent. Recognition accepts the decimal digits of
every script; only ASCII digits have a value.
-/

namespace Intake

structure Numeral where
  negative : Bool
  whole : List Char
  /-- The digits after the point, when there is a point. -/
  fraction : Option (List Char)
  /-- The sign and digits of the exponent, when there is one. -/
  exponent : Option (Bool × List Char)
deriving DecidableEq, Repr

namespace Numeral

open Character

def takeSign : List Char → Bool × List Char
  | '+' :: rest => (false, rest)
  | '-' :: rest => (true, rest)
  | rest => (false, rest)

/-- The exponent that makes up all of a text; an empty text has none. -/
def readExponent? : List Char → Option (Option (Bool × List Char))
  | [] => some none
  | mark :: rest =>
    let (negative, digits) := takeSign rest
    if (mark = 'e' ∨ mark = 'E') ∧ digits ≠ [] ∧ digits.all isDecimalDigit then
      some (some (negative, digits))
    else none

/-- The fraction at the start of a text, when there is a point, and the rest. -/
def takeFraction : List Char → Option (List Char) × List Char
  | '.' :: rest => (some (rest.takeWhile isDecimalDigit), rest.dropWhile isDecimalDigit)
  | rest => (none, rest)

/-- The numeral that makes up all of a text. -/
def read? (text : List Char) : Option Numeral :=
  let (negative, unsigned) := takeSign text
  let whole := unsigned.takeWhile isDecimalDigit
  let (fraction, rest) := takeFraction (unsigned.dropWhile isDecimalDigit)
  if whole = [] ∧ fraction.getD [] = [] then none
  else (readExponent? rest).map fun exponent => ⟨negative, whole, fraction, exponent⟩

/-- The number that a list of ASCII digits writes. -/
def digitsValue (digits : List Char) : Nat :=
  digits.foldl (fun value digit => 10 * value + (digit.toNat - 48)) 0

def isAsciiNumeral (numeral : Numeral) : Bool :=
  numeral.whole.all Char.isDigit && (numeral.fraction.getD []).all Char.isDigit &&
    (numeral.exponent.map Prod.snd |>.getD []).all Char.isDigit

/-- Whether a numeral has neither point nor exponent. -/
def isWhole (numeral : Numeral) : Bool :=
  numeral.fraction.isNone && numeral.exponent.isNone

/-- The integer written by a numeral that is a sign and ASCII digits. -/
def integer? (numeral : Numeral) : Option Int :=
  if numeral.isWhole && numeral.isAsciiNumeral then
    let magnitude : Int := digitsValue numeral.whole
    some (if numeral.negative then -magnitude else magnitude)
  else none

/-- The power of ten that an exponent names; none is zero. -/
def exponentValue : Option (Bool × List Char) → Int
  | none => 0
  | some (negative, digits) =>
    if negative then -(digitsValue digits : Int) else digitsValue digits

/-- The floating point number nearest to a numeral with ASCII digits. -/
def float? (numeral : Numeral) : Option Binary64 :=
  if numeral.isAsciiNumeral then
    let fraction := numeral.fraction.getD []
    some (Binary64.ofDecimal numeral.negative (digitsValue (numeral.whole ++ fraction))
      (exponentValue numeral.exponent - fraction.length))
  else none

end Numeral

end Intake
