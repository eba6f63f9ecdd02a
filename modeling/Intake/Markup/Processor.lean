import Intake.Markup.Block
import Intake.Markup.Choice
import Intake.Markup.Connective
import Intake.Markup.Filter
import Intake.Value.Compare
import Intake.Value.Path

/-!
# Processing step templates

The text of a step template against a context that is one value. A block is a choice, a pipeline
of filters, a connection of conditions by words, or a path. Booleans show as `1` and as nothing.
Processing keeps the structure of a value and changes only its texts.
-/

namespace Intake

structure Processor where
  filters : FilterTable := FilterTable.builtin Filter.defaultCurrency

namespace Processor

open Markup

/-- The text at a path; a missing one is empty. -/
def resolvePath (context : Value) (path : List Char) : List Char :=
  ((context.get? path).map Value.stepDisplay).getD []

/-- The inside of quotation marks, which need not match: at least one character and no line
break. -/
def looselyQuoted? : List Char → Option (List Char)
  | first :: rest =>
    match rest.getLast? with
    | some last =>
      let inside := rest.dropLast
      if (first = '"' ∨ first = '\'') ∧ (last = '"' ∨ last = '\'') ∧ inside ≠ [] ∧
          '\n' ∉ inside then some inside
      else none
    | none => none
  | [] => none

/-- The value that one side of a comparison stands for: a numeral, a quoted text, a boolean, or
the scalar that the text at a path writes. -/
def resolveValue (context : Value) (text : List Char) : Value :=
  match Numeral.textValue? text with
  | some value => value
  | none =>
    match looselyQuoted? text with
    | some inside => .ofChars inside
    | none =>
      if text = "true".toList then .bool true
      else if text = "false".toList then .bool false
      else Value.coerce (resolvePath context text)

structure Operator where
  text : List Char
  holds : Value → Value → Bool

/-- The operators, in the order in which they are looked for. -/
def operators : List Operator :=
  [⟨['=', '='], fun left right => left.looseEq right⟩,
    ⟨['!', '='], fun left right => !left.looseEq right⟩,
    ⟨['>', '='], fun left right =>
      left.looseCompare right == some .gt || left.looseCompare right == some .eq⟩,
    ⟨['<', '='], fun left right =>
      left.looseCompare right == some .lt || left.looseCompare right == some .eq⟩,
    ⟨['>'], fun left right => left.looseCompare right == some .gt⟩,
    ⟨['<'], fun left right => left.looseCompare right == some .lt⟩]

/-- The two sides of the first occurrence of an operator. None when a side is blank, or when an
equals sign follows. -/
def sidesOf? (operator condition : List Char) : Option (List Char × List Char) :=
  match Text.splitOnce? operator condition with
  | some (before, after) =>
    let left := Text.trim before
    let right := Text.trim after
    if left = [] ∨ right = [] ∨ right.head? = some '=' then none else some (left, right)
  | none => none

/-- The first operator that compares two sides of a condition, with these sides. -/
def comparison? (condition : List Char) : Option (Operator × List Char × List Char) :=
  operators.findSome? fun operator =>
    (sidesOf? operator.text condition).map fun sides => (operator, sides)

/-- Whether one operand of a word connective holds: exclamation marks before it negate. -/
def operandHolds (context : Value) (operand : List Char) : Bool :=
  let stripped := operand.dropWhile (· == '!')
  let negations := operand.length - stripped.length
  (resolveValue context (Text.trim stripped)).isTruthy != (negations % 2 == 1)

/-- Whether some group of a connection by words has only operands that hold. -/
def connectionHolds (context : Value) (text : List Char) : Bool :=
  (operands text).any fun group => group.all (operandHolds context)

def conditionHolds (context : Value) (condition : List Char) : Bool :=
  match comparison? condition with
  | some (operator, left, right) =>
    operator.holds (resolveValue context left) (resolveValue context right)
  | none =>
    if hasConnective condition then connectionHolds context condition
    else (resolveValue context condition).isTruthy

/-- The text that a choice selects; an expression that is no choice selects nothing. -/
def chosenText (context : Value) (expression : List Char) : List Char :=
  match Choice.read? expression with
  | some choice =>
    if conditionHolds context choice.condition then choice.first else choice.second
  | none => []

/-- The text of a path's value after a pipeline of filters. -/
def pipelineText (processor : Processor) (context : Value) (expression : List Char) :
    List Char :=
  match Text.pieces '|' expression with
  | path :: filters =>
    let start := (context.get? path).getD .null
    (filters.foldl (fun value filter => processor.filters.apply (Text.trim filter) value)
      start).stepDisplay
  | [] => []

/-- The text of a block's inside. -/
def expressionText (processor : Processor) (context : Value) (expression : List Char) :
    List Char :=
  if '?' ∈ expression then chosenText context expression
  else if '|' ∈ expression then processor.pipelineText context expression
  else if hasConnective expression then
    (Value.bool (connectionHolds context expression)).stepDisplay
  else resolvePath context expression

def segmentText (processor : Processor) (context : Value) : Segment → List Char
  | .literal character => [character]
  | .block inside => processor.expressionText context (Text.trim inside)

/-- The text of a step template. -/
def process (processor : Processor) (template : List Char) (context : Value) : List Char :=
  (segments template).flatMap (processor.segmentText context)

def processText (processor : Processor) (template : String) (context : Value) : String :=
  String.ofList (processor.process template.toList context)

mutual

/-- A value with every text in it processed. -/
def processValue (processor : Processor) (context : Value) : Value → Value
  | .text template => .text (processor.processText template context)
  | .array items => .array (processItems processor context items)
  | .object fields => .object (processFields processor context fields)
  | value => value

def processItems (processor : Processor) (context : Value) : List Value → List Value
  | [] => []
  | item :: others => processValue processor context item :: processItems processor context others

def processFields (processor : Processor) (context : Value) :
    List (String × Value) → List (String × Value)
  | [] => []
  | (name, content) :: others =>
    (name, processValue processor context content) :: processFields processor context others

end

end Processor

end Intake
