import Intake.Value.Text

/-!
# Comparing values

Three relations: strict equality, which asks for the same kind of value; loose equality, which
lets numbers, numeric texts, null and booleans meet; and loose order, which some pairs do not
have.
-/

namespace Intake

namespace Value

/-- The number of a value that is one, or is a numeric text. -/
def asFloat? : Value → Option Binary64
  | number value => some value.toFloat
  | text value => Numeral.textFloat? value.toList
  | _ => none

/-- Loose equality of a number and a text: by value when the text is numeric, and otherwise by the
text of the number. -/
def looseEqNumberText (value : Number) (content : String) : Bool :=
  if Numeral.isNumeric content.toList then
    match Numeral.textFloat? content.toList with
    | some other => value.toFloat.eqValue other
    | none => false
  else value.displayText == content.toList

/-- Loose equality of two texts: by value when both have a number. -/
def looseEqTexts (left right : String) : Bool :=
  match Numeral.textFloat? left.toList, Numeral.textFloat? right.toList with
  | some leftNumber, some rightNumber => leftNumber.eqValue rightNumber
  | _, _ => left == right

mutual

def looseEq : Value → Value → Bool
  | null, null => true
  | bool left, right => left == right.isTruthy
  | left, bool right => right == left.isTruthy
  | null, text content => content == ""
  | text content, null => content == ""
  | null, right => !right.isTruthy
  | left, null => !left.isTruthy
  | number left, number right => left.toFloat.eqValue right.toFloat
  | number value, text content => looseEqNumberText value content
  | text content, number value => looseEqNumberText value content
  | text left, text right => looseEqTexts left right
  | array left, array right => looseEqItems left right
  | object left, object right => left.length == right.length && looseEqFields left right
  | _, _ => false

def looseEqItems : List Value → List Value → Bool
  | [], [] => true
  | left :: lefts, right :: rights => looseEq left right && looseEqItems lefts rights
  | _, _ => false

/-- Whether each field has a loosely equal namesake among others. -/
def looseEqFields : List (String × Value) → List (String × Value) → Bool
  | [], _ => true
  | (name, left) :: lefts, rights =>
    (match Fields.get? name rights with
      | some right => looseEq left right
      | none => false) && looseEqFields lefts rights

end

mutual

/-- Strict equality: the same kind of value, numbers by value and objects in any field order. -/
def strictEq : Value → Value → Bool
  | null, null => true
  | bool left, bool right => left == right
  | number left, number right => left.toFloat.eqValue right.toFloat
  | text left, text right => left == right
  | array left, array right => strictEqItems left right
  | object left, object right => left.length == right.length && strictEqFields left right
  | _, _ => false

def strictEqItems : List Value → List Value → Bool
  | [], [] => true
  | left :: lefts, right :: rights => strictEq left right && strictEqItems lefts rights
  | _, _ => false

/-- Whether each field has a strictly equal namesake among others. -/
def strictEqFields : List (String × Value) → List (String × Value) → Bool
  | [], _ => true
  | (name, left) :: lefts, rights =>
    (match Fields.get? name rights with
      | some right => strictEq left right
      | none => false) && strictEqFields lefts rights

end

/-- Loose order of two scalars that are neither null nor boolean: by value when both have a
number, and otherwise by their texts. -/
def compareScalars (left right : Value) : Ordering :=
  match left.asFloat?, right.asFloat? with
  | some leftNumber, some rightNumber => leftNumber.compareValue rightNumber
  | _, _ => compare left.display right.display

mutual

/-- Loose order; none for pairs that cannot be compared. -/
def looseCompare : Value → Value → Option Ordering
  | bool left, right => some (compare left right.isTruthy)
  | left, bool right => some (compare left.isTruthy right)
  | null, text content => some (compare [] content.toList)
  | text content, null => some (compare content.toList [])
  | null, right => some (compare false right.isTruthy)
  | left, null => some (compare left.isTruthy false)
  | array left, array right =>
    if left.length = right.length then looseCompareItems left right
    else some (compare left.length right.length)
  | array _, _ | _, array _ | object _, _ | _, object _ => none
  | left, right => some (compareScalars left right)

/-- Loose order item by item; the first difference decides. -/
def looseCompareItems : List Value → List Value → Option Ordering
  | left :: lefts, right :: rights =>
    match looseCompare left right with
    | none => none
    | some .eq => looseCompareItems lefts rights
    | some order => some order
  | _, _ => some .eq

end

end Value

end Intake
