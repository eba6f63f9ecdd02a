import Intake.Number.Numeral
import Intake.Value.Basic

/-!
# Values of plain scalars

A plain scalar is null, a boolean, a number or text by the way it is spelled.
-/

namespace Intake

namespace Yaml

/-- Words for null. -/
def isNullWord (text : List Char) : Bool :=
  ["null", "Null", "NULL", "~"].contains (String.ofList text)

/-- Spellings of null in a plain scalar: a word, or nothing at all. -/
def isNull (text : List Char) : Bool :=
  text.isEmpty || isNullWord text

def boolean? (text : List Char) : Option Bool :=
  if ["true", "True", "TRUE"].contains (String.ofList text) then some true
  else if ["false", "False", "FALSE"].contains (String.ofList text) then some false
  else none

def digitValue? (base : Nat) (digit : Char) : Option Nat :=
  let value :=
    if digit.isDigit then digit.toNat - 48
    else if 'a' ≤ digit ∧ digit ≤ 'f' then digit.toNat - 87
    else if 'A' ≤ digit ∧ digit ≤ 'F' then digit.toNat - 55
    else base
  if value < base then some value else none

/-- The number that a non-empty run of digits writes in a base. -/
def digitsIn? (base : Nat) (digits : List Char) : Option Nat :=
  if digits.isEmpty then none
  else
    digits.foldl
      (fun value? digit => do
        let value ← value?
        let next ← digitValue? base digit
        return value * base + next)
      (some 0)

/-- Digits with a zero in front; these are text. -/
def hasLeadingZero (digits : List Char) : Bool :=
  match digits with
  | '0' :: rest => !rest.isEmpty && rest.all Char.isDigit
  | _ => false

/-- The magnitude of an integer: decimal, or in a base named by `0x`, `0o` or `0b`. -/
def magnitude? (unsigned : List Char) : Option Nat :=
  match unsigned with
  | '0' :: 'x' :: rest => digitsIn? 16 rest
  | '0' :: 'o' :: rest => digitsIn? 8 rest
  | '0' :: 'b' :: rest => digitsIn? 2 rest
  | digits => if hasLeadingZero digits then none else digitsIn? 10 digits

def integer? (text : List Char) : Option Int :=
  let (negative, unsigned) := Numeral.takeSign text
  (magnitude? unsigned).map fun magnitude =>
    if negative then -(magnitude : Int) else magnitude

/-- The floating point number that a scalar writes; the words for infinity and for no number give a
number that is not finite. -/
def float? (text : List Char) : Option Binary64 :=
  let (negative, unsigned) := Numeral.takeSign text
  if [".inf", ".Inf", ".INF"].contains (String.ofList unsigned) then
    some ⟨negative, Binary64.infinityUnits⟩
  else if [".nan", ".NaN", ".NAN"].contains (String.ofList text) then
    some ⟨false, Binary64.infinityUnits⟩
  else ((Numeral.read? text).bind Numeral.float?).filter Binary64.isFinite

/-- Whether a 64-bit word holds an integer, signed or not. -/
def fitsWord (value : Int) : Bool :=
  -(twoTo 63) ≤ value && value < twoTo 64

/-- Whether a 128-bit word holds an integer, signed or not. -/
def fitsDoubleWord (value : Int) : Bool :=
  -(twoTo 127) ≤ value && value < twoTo 128

/-- The natural number of at most 64 bits that a scalar writes without a minus sign. -/
def natural? (text : List Char) : Option Nat :=
  (magnitude? (if text.head? = some '+' then text.tail else text)).filter (· < twoTo 64)

/-- The value of a scalar that is not an integer. -/
def nonInteger (text : List Char) : Value :=
  if hasLeadingZero (Numeral.takeSign text).2 then .ofChars text
  else (float? text).elim (.ofChars text) .ofFloat

/-- The value of a plain scalar. An integer of more than 64 bits has none, unless it needs more
than 128 bits, when it is a floating point number. -/
def plainValue? (text : List Char) : Option Value :=
  if isNull text then some .null
  else
    match boolean? text with
    | some value => some (.bool value)
    | none =>
      match integer? text with
      | some value =>
        if fitsWord value then some (.ofInt value)
        else if fitsDoubleWord value then none
        else some (nonInteger text)
      | none => some (nonInteger text)

end Yaml

end Intake
