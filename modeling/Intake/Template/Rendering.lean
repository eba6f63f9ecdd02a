import Intake.Context
import Intake.Template.Block
import Intake.Template.Builtin
import Intake.Template.Expression

/-!
# Rendering templates

The text of a template in a context. Rendering never fails: a block that cannot be evaluated, a
missing path and a failing call are empty, and the text around blocks stays as it is. What a block
yields is not scanned again.
-/

namespace Intake

/-- Renders templates with a table of functions that every context can call. -/
structure Renderer where
  globals : FunctionTable := Builtin.table

namespace Renderer

/-- The function of a name: one of the context, or else a global one. -/
def function? (renderer : Renderer) (context : Context) (name : String) : Option Callable :=
  match Fields.get? name context.functions with
  | some function => some function
  | none => Fields.get? name renderer.globals

/-- The text of a call's result; an unknown function and a failed call are empty. -/
def callText (renderer : Renderer) (context : Context) (name : String)
    (arguments : List Value) : List Char :=
  match renderer.function? context name with
  | none => []
  | some function =>
    match function arguments with
    | .ok value => value.display
    | .error _ => []

mutual

def evaluateTree (renderer : Renderer) (context : Context) : Expression → List Char
  | .coalesce left right =>
    let value := evaluateTree renderer context left
    if value ≠ [] ∧ value ≠ "null".toList then value
    else evaluateTree renderer context right
  | .concat parts => evaluateParts renderer context parts
  | .call name arguments =>
    renderer.callText context name (argumentValues renderer context arguments)
  | .unreadable => []
  | .literal text => text
  | .path path => ((context.lookup path).map Value.display).getD []

def evaluateParts (renderer : Renderer) (context : Context) : List Expression → List Char
  | [] => []
  | part :: others => evaluateTree renderer context part ++ evaluateParts renderer context others

def argumentValue (renderer : Renderer) (context : Context) : Argument → Value
  | .value value => value
  | .array items => .array (argumentValues renderer context items)
  | .object fields => .object (Fields.ofPairs (argumentFields renderer context fields))
  | .rendered expression => .ofChars (evaluateTree renderer context expression)

def argumentValues (renderer : Renderer) (context : Context) : List Argument → List Value
  | [] => []
  | argument :: others =>
    argumentValue renderer context argument :: argumentValues renderer context others

def argumentFields (renderer : Renderer) (context : Context) :
    List (String × Argument) → List (String × Value)
  | [] => []
  | (name, argument) :: others =>
    (name, argumentValue renderer context argument) :: argumentFields renderer context others

end

def evaluate (renderer : Renderer) (expression : List Char) (context : Context) : List Char :=
  renderer.evaluateTree context (Expression.parse expression)

def segmentText (renderer : Renderer) (context : Context) : Block.Segment → List Char
  | .literal text => text
  | .block inside => renderer.evaluate inside context

def render (renderer : Renderer) (template : List Char) (context : Context) : List Char :=
  (Block.segments template).flatMap (renderer.segmentText context)

end Renderer

end Intake
