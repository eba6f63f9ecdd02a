import Intake.Value.Basic

/-!
# Callable functions

Functions that a template can call by name. A call takes a list of values and answers a value or
says why it cannot.
-/

namespace Intake

inductive CallError where
  /-- The function was not given what it needs. -/
  | expects (function needed : String)
  | undefinedRoute (name : String)
deriving DecidableEq, Repr

namespace CallError

def message : CallError → String
  | expects function needed => function ++ "() expects " ++ needed
  | undefinedRoute name => "Route [" ++ name ++ "] not defined."

end CallError

/-- A function of a template. -/
abbrev Callable := List Value → Except CallError Value

abbrev FunctionTable := Fields Callable

namespace FunctionTable

/-- Names in the order of their characters. -/
def sortedNames (table : FunctionTable) : List String :=
  (Fields.names table).mergeSort fun left right => decide (left ≤ right)

end FunctionTable

end Intake
