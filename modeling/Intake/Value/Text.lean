import Intake.Json.Printer
import Intake.Number.Numeral

/-!
# Values and text

How a value reads as text, which values count as true, and how text becomes a value again. There
are two texts of a value: the display form of template blocks, where booleans are words, and the
form of step templates, where `true` is `1` and `false` is empty.
-/

namespace Intake

namespace Number

def isZero : Number → Bool
  | integer value => value == 0
  | float value => value.isZero

end Number

namespace Value

/-- The text of a value in a template block: null is empty, and arrays and objects are compact
JSON. -/
def display : Value → List Char
  | null => []
  | bool true => "true".toList
  | bool false => "false".toList
  | number value => value.displayText
  | text value => value.toList
  | array items => compactText (array items)
  | object fields => compactText (object fields)

/-- The text of a value in a step template: as in a block, except that `true` is `1` and `false`
is empty. -/
def stepDisplay : Value → List Char
  | bool true => ['1']
  | bool false => []
  | value => display value

/-- Whether a value counts as true: everything but null, `false`, zero, the texts `""` and `"0"`,
and empty collections. -/
def isTruthy : Value → Bool
  | null => false
  | bool value => value
  | number value => !value.isZero
  | text value => !(value == "" || value == "0")
  | array items => !items.isEmpty
  | object fields => !fields.isEmpty

/-- Whether a value counts as empty: exactly when it does not count as true. -/
def isEmpty (value : Value) : Bool :=
  !value.isTruthy

end Value

namespace Numeral

/-- Whether a text, white space around it aside, is a numeral. -/
def isNumeric (characters : List Char) : Bool :=
  (read? (Text.trim characters)).isSome

def textFloat? (characters : List Char) : Option Binary64 :=
  (read? (Text.trim characters)).bind float?

/-- The value of a numeric text: an integer when the numeral has neither point nor exponent and
fits a signed word, and otherwise a floating point number. -/
def textValue? (characters : List Char) : Option Value :=
  match read? (Text.trim characters) with
  | none => none
  | some numeral =>
    match numeral.integer? with
    | some value =>
      if Number.fitsSigned value then some (Value.ofInt value)
      else numeral.float?.map Value.ofFloat
    | none => numeral.float?.map Value.ofFloat

end Numeral

namespace Value

/-- Text turned back into a scalar: numerals become numbers, `true` and `false` become booleans,
and all else stays text. -/
def coerce (characters : List Char) : Value :=
  match Numeral.textValue? characters with
  | some value => value
  | none =>
    if characters = "true".toList then bool true
    else if characters = "false".toList then bool false
    else ofChars characters

end Value

end Intake
