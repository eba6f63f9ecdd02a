import Intake.Function
import Intake.Json.Reader
import Intake.Number.Decimal
import Intake.Text.LetterCase
import Intake.Value.Text

/-!
# Built-in functions

The functions that every template can call. A function of the context with the same name comes
first. Arguments that are expressions arrive as text, so a list may be given by its JSON text.
-/

namespace Intake

namespace Builtin

/-- The text of an argument; a missing one is empty. -/
def textOf (arguments : List Value) (index : Nat) : List Char :=
  (arguments[index]?.map Value.display).getD []

/-- The value of an argument; a missing one is null. -/
def valueOf (arguments : List Value) (index : Nat) : Value :=
  arguments[index]?.getD .null

/-- A list, given as such or by its JSON text. -/
def listOf? : Value → Option (List Value)
  | .array items => some items
  | .text content =>
    match Json.parse? content with
    | some (.array items) => some items
    | _ => none
  | _ => none

/-- A number, given as such or by a numeric text. -/
def numberOf? : Value → Option Binary64
  | .number value => some value.toFloat
  | .text content =>
    match Numeral.textValue? content.toList with
    | some (.number value) => some value.toFloat
    | _ => none
  | _ => none

/-- How many elements a value has: those of a list or object, also when given by its JSON text;
none for null and the empty text, and one for anything else. -/
def countOf (value : Value) : Nat :=
  match value, listOf? value with
  | .null, _ => 0
  | .object fields, _ => fields.length
  | _, some items => items.length
  | .text content, none =>
    if content = "" then 0
    else
      match Json.parse? content with
      | some (.object fields) => fields.length
      | _ => 1
  | _, none => 1

/-- The largest count of decimal places that can be asked for. -/
def placesLimit : Nat := twoTo 64 - 1

/-- The decimal places that a number asks for: its whole part, and none when it is negative. -/
def placesOf (number : Binary64) : Nat :=
  if number.negative then 0 else min number.wholePart placesLimit

/-- A number with grouped thousands: `number_format(number, places, point, separator)`. -/
def numberFormat : Callable := fun arguments =>
  match arguments.head?.bind numberOf? with
  | none => .error (.expects "number_format" "a number")
  | some number =>
    let places := ((arguments[1]?.bind numberOf?).map placesOf).getD 0
    let point := (arguments[2]?.map Value.display).getD ['.']
    let separator := (arguments[3]?.map Value.display).getD [',']
    .ok (.ofChars (Grouped.format number places point separator))

/-- The displays of a list's items with a separator between them: `join(separator, list)`. -/
def join : Callable := fun arguments =>
  match arguments[1]?.bind listOf? with
  | none => .error (.expects "join" "a list")
  | some items =>
    .ok (.ofChars (Text.joined (textOf arguments 0) (items.map Value.display)))

/-- A function of the text of its first argument. -/
def onText (change : List Char → List Char) : Callable := fun arguments =>
  .ok (.ofChars (change (textOf arguments 0)))

def table : FunctionTable :=
  [("upper", onText LetterCase.upper),
    ("lower", onText LetterCase.lower),
    ("trim", onText Text.trim),
    ("ucfirst", onText LetterCase.capitalized),
    ("count", fun arguments => .ok (.ofNat (countOf (valueOf arguments 0)))),
    ("join", join),
    ("number_format", numberFormat),
    ("json", fun arguments => .ok (.ofChars (valueOf arguments 0).compactText)),
    ("default", fun arguments =>
      .ok (if (valueOf arguments 0).isTruthy then valueOf arguments 0
        else valueOf arguments 1))]

end Builtin

end Intake
