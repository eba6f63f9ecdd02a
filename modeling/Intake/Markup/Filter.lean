import Intake.Json.Reader
import Intake.Number.Decimal
import Intake.Text.LetterCase
import Intake.Value.Text

/-!
# Filters

Functions of one value that a step template can apply after a `|`. An unknown filter leaves the
value as it is.
-/

namespace Intake

abbrev Filter := Value → Value

abbrev FilterTable := Fields Filter

namespace Filter

/-- The currency symbol of `format_money` when none is chosen. -/
def defaultCurrency : String := "₱"

/-- A number for `format_money`; what is no number counts as zero. -/
def amountOf : Value → Binary64
  | .number value => value.toFloat
  | .text content =>
    match Numeral.textValue? content.toList with
    | some (.number value) => value.toFloat
    | _ => ⟨false, 0⟩
  | _ => ⟨false, 0⟩

/-- A value as an amount of money: the symbol, grouped thousands and two places. -/
def money (symbol : List Char) (value : Value) : List Char :=
  symbol ++ Grouped.format (amountOf value) 2 ['.'] [',']

/-- A value as JSON. A text that is JSON already, other than `null`, stays as it is. -/
def json (value : Value) : List Char :=
  match value with
  | .text content =>
    match Json.parse? content with
    | some parsed => if parsed = .null then value.compactText else content.toList
    | none => value.compactText
  | _ => value.compactText

end Filter

namespace FilterTable

def builtin (currency : String) : FilterTable :=
  [("upper", fun value => .ofChars (LetterCase.upper value.stepDisplay)),
    ("lower", fun value => .ofChars (LetterCase.lower value.stepDisplay)),
    ("format_money", fun value => .ofChars (Filter.money currency.toList value)),
    ("json", fun value => .ofChars (Filter.json value))]

def apply (table : FilterTable) (name : List Char) (value : Value) : Value :=
  match Fields.get? (String.ofList name) table with
  | some filter => filter value
  | none => value

/-- Names in the order of their characters. -/
def sortedNames (table : FilterTable) : List String :=
  (Fields.names table).mergeSort fun left right => decide (left ≤ right)

end FilterTable

end Intake
