import Intake.Condition.Parser
import Intake.Template.Rendering
import Intake.Value.Compare

/-!
# Evaluating conditions

The truth of a condition in a context. Comparisons are loose and see text from the context as the
scalar it writes; membership is strict and sees stored values as they are. A lone operand is
judged by its rendered text, so an empty list, which renders as `[]`, holds.
-/

namespace Intake

namespace Condition

/-- Whether rendered text counts as true: all but `false`, `0` and blank text. -/
def textHolds (text : List Char) : Bool :=
  let folded := LetterCase.asciiLower (Text.trim text)
  !(folded = "false".toList || folded = ['0'] || folded = [])

/-- The stored or rendered text of a value, retyped: text becomes the scalar it writes. -/
def retyped : Value → Value
  | .text content => Value.coerce content.toList
  | value => value

mutual

/-- The value of an operand in a comparison. -/
def resolve (renderer : Renderer) (context : Context) : Operand → Value
  | .literal value => value
  | .list items => .array (resolveAll renderer context items)
  | .path path => retyped ((context.lookup path).getD .null)
  | .expression text => Value.coerce (renderer.evaluate text context)

def resolveAll (renderer : Renderer) (context : Context) : List Operand → List Value
  | [] => []
  | item :: others => resolve renderer context item :: resolveAll renderer context others

end

def compareHolds (operator : Comparison) (left right : Value) : Bool :=
  match operator with
  | .equal => left.looseEq right
  | .notEqual => !left.looseEq right
  | .greater => left.looseCompare right == some .gt
  | .less => left.looseCompare right == some .lt
  | .greaterOrEqual =>
    left.looseCompare right == some .gt || left.looseCompare right == some .eq
  | .lessOrEqual =>
    left.looseCompare right == some .lt || left.looseCompare right == some .eq

/-- The value that is looked for in a list: a stored value as it is, and rendered text as text. -/
def needleValue (renderer : Renderer) (context : Context) : Operand → Value
  | .path path => (context.lookup path).getD .null
  | .expression text => .ofChars (renderer.evaluate text context)
  | operand => resolve renderer context operand

/-- The value that is searched: a stored value as it is, and rendered text as the JSON it writes. -/
def haystackValue (renderer : Renderer) (context : Context) : Operand → Value
  | .path path => (context.lookup path).getD .null
  | .expression text => (Json.read? (renderer.evaluate text context)).getD .null
  | operand => resolve renderer context operand

/-- Whether a list, or the JSON text of one, has an item strictly equal to a value. -/
def isMember (needle haystack : Value) : Bool :=
  match haystack with
  | .array items => items.any fun item => item.strictEq needle
  | .text content =>
    match Json.parse? content with
    | some (.array items) => items.any fun item => item.strictEq needle
    | _ => false
  | _ => false

/-- Whether a value passes the test `empty( )`. The texts `true` and `false` stand for the
booleans. -/
def valueIsEmpty : Value → Bool
  | .text content =>
    if content = "true" then false
    else if content = "false" then true
    else (Value.text content).isEmpty
  | value => value.isEmpty

def operandHolds (renderer : Renderer) (context : Context) : Operand → Bool
  | .literal value => value.isTruthy
  | .list items => !items.isEmpty
  | .path path =>
    match context.lookup path with
    | some value => textHolds value.display
    | none => false
  | .expression text => textHolds (renderer.evaluate text context)

mutual

def treeHolds (renderer : Renderer) (context : Context) : Tree → Bool
  | .or terms => anyHolds renderer context terms
  | .and terms => allHold renderer context terms
  | .not term => !treeHolds renderer context term
  | .constant value => value
  | .compare left operator right =>
    compareHolds operator (resolve renderer context left) (resolve renderer context right)
  | .within needle haystack =>
    isMember (needleValue renderer context needle) (haystackValue renderer context haystack)
  | .empty operand => valueIsEmpty (resolve renderer context operand)
  | .holds operand => operandHolds renderer context operand

def anyHolds (renderer : Renderer) (context : Context) : List Tree → Bool
  | [] => false
  | term :: others => treeHolds renderer context term || anyHolds renderer context others

def allHold (renderer : Renderer) (context : Context) : List Tree → Bool
  | [] => true
  | term :: others => treeHolds renderer context term && allHold renderer context others

end

def evaluate (condition : Condition) (renderer : Renderer) (context : Context) : Bool :=
  treeHolds renderer context condition.tree

/-- Whether the condition that a text writes holds; a text that is no condition does not. -/
def textEvaluates (renderer : Renderer) (text : List Char) (context : Context) : Bool :=
  match parse (Text.trim text) with
  | .ok condition => condition.evaluate renderer context
  | .error _ => false

end Condition

end Intake
