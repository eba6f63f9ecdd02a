import Intake.Function
import Intake.Value.Path

/-!
# Contexts

What one template block or condition is evaluated against: variables and functions. Variables
bound later lie in front of those the context was made with. The first part of a path names a
variable, and the rest is a path into its value.
-/

namespace Intake

structure Context where
  base : Fields Value
  locals : Fields Value := []
  functions : FunctionTable := []

namespace Context

/-- The context of a value: the fields of an object, and anything else as `item`. -/
def ofValue : Value → Context
  | .object fields => { base := fields }
  | other => { base := [("item", other)] }

/-- The context with one more variable, in front of any of the same name. -/
def bind (context : Context) (name : String) (value : Value) : Context :=
  { context with locals := Fields.insert name value context.locals }

def get? (context : Context) (name : String) : Option Value :=
  match Fields.get? name context.locals with
  | some value => some value
  | none => Fields.get? name context.base

/-- The value at a path that starts with a variable. -/
def lookup (context : Context) (path : List Char) : Option Value :=
  let trimmed := Text.trim path
  match Text.splitAt? '.' trimmed with
  | some (head, rest) =>
    (context.get? (String.ofList (Text.trim head))).bind (Value.get? rest)
  | none => context.get? (String.ofList trimmed)

def toValue (context : Context) : Value :=
  .object (Fields.insertAll context.locals context.base)

end Context

end Intake
