import Intake.Bytewise.Block
import Intake.Bytewise.Expression
import Intake.Bytewise.Route
import Intake.Template.Rendering

/-!
# Rendering that can stop

What the program does for a template, with every slice that it takes and with the bound on decimal
places. Of the functions that a template can call, `number_format` writes decimal places and `route`
takes slices; of any other function only the answer counts. Everything else is as for a `Renderer`.
-/

namespace Intake

namespace Bytewise

/-- The largest count of decimal places that a number can be written with. -/
def placesLimit : Nat := 65535

def format (number : Binary64) (places : Nat) (point separator : List Char) :
    Guarded (List Char) :=
  if placesLimit < places then .error (.places places)
  else return Grouped.format number places point separator

/-- A number with grouped thousands: `number_format(number, places, point, separator)`. -/
def numberFormat (arguments : List Value) : Guarded (Except CallError Value) :=
  match arguments.head?.bind Builtin.numberOf? with
  | none => return .error (.expects "number_format" "a number")
  | some number => do
    let places := ((arguments[1]?.bind Builtin.numberOf?).map Builtin.placesOf).getD 0
    let point := (arguments[2]?.map Value.display).getD ['.']
    let separator := (arguments[3]?.map Value.display).getD [',']
    let written ← format number places point separator
    return .ok (.ofChars written)

/-- The address of a named route: `route(name, parameters)`. -/
def routeCall (host : Host) : List Value → Guarded (Except CallError Value)
  | [] => return .error (.expects "route" "a name")
  | name :: others => do
    let address ← route host (String.ofList name.display)
      (Host.argumentValue (name :: others) 1)
    return address.map Value.ofChars

/-- A function as it is registered. -/
inductive Registered where
  | numberFormat
  /-- The routes of a host. -/
  | route (host : Host)
  /-- Any function that always answers. -/
  | other (function : Callable)

/-- What a call of a function does. -/
def Registered.run : Registered → List Value → Guarded (Except CallError Value)
  | numberFormat, arguments => Bytewise.numberFormat arguments
  | route host, arguments => routeCall host arguments
  | other function, arguments => return function arguments

def builtins : Fields Registered :=
  Builtin.table.map fun field =>
    (field.1, if field.1 = "number_format" then .numberFormat else .other field.2)

def hostFunctions (host : Host) : Fields Registered :=
  host.functions.map fun field =>
    (field.1, if field.1 = "route" then .route host else .other field.2)

end Bytewise

open Bytewise

/-- What a template is rendered in: global functions, and the variables and functions of its
context. -/
structure Scope where
  globals : Fields Registered := builtins
  functions : Fields Registered := []
  base : Fields Value
  locals : Fields Value := []

namespace Scope

/-- The context without its functions. -/
def bindings (scope : Scope) : Context :=
  { base := scope.base, locals := scope.locals }

/-- The function of a name: one of the context, or else a global one. -/
def function? (scope : Scope) (name : String) : Option Registered :=
  match Fields.get? name scope.functions with
  | some function => some function
  | none => Fields.get? name scope.globals

/-- The text of a call's result; an unknown function and a failed call are empty. -/
def callText (scope : Scope) (name : String) (arguments : List Value) : Guarded (List Char) :=
  match scope.function? name with
  | none => return []
  | some function => do
    match ← function.run arguments with
    | .ok value => return value.display
    | .error _ => return []

mutual

def evaluateTree (scope : Scope) : Expression → Guarded (List Char)
  | .coalesce left right => do
    let value ← evaluateTree scope left
    if value ≠ [] ∧ value ≠ "null".toList then return value
    else evaluateTree scope right
  | .concat parts => evaluateParts scope parts
  | .call name arguments => do
    let values ← argumentValues scope arguments
    scope.callText name values
  | .unreadable => return []
  | .literal text => return text
  | .path path => return ((scope.bindings.lookup path).map Value.display).getD []

def evaluateParts (scope : Scope) : List Expression → Guarded (List Char)
  | [] => return []
  | part :: others => do
    let text ← evaluateTree scope part
    let texts ← evaluateParts scope others
    return text ++ texts

def argumentValue (scope : Scope) : Argument → Guarded Value
  | .value value => return value
  | .array items => do
    let values ← argumentValues scope items
    return .array values
  | .object fields => do
    let values ← argumentFields scope fields
    return .object (Fields.ofPairs values)
  | .rendered expression => do
    let text ← evaluateTree scope expression
    return .ofChars text

def argumentValues (scope : Scope) : List Argument → Guarded (List Value)
  | [] => return []
  | argument :: others => do
    let value ← argumentValue scope argument
    let values ← argumentValues scope others
    return value :: values

def argumentFields (scope : Scope) : List (String × Argument) → Guarded (List (String × Value))
  | [] => return []
  | (name, argument) :: others => do
    let value ← argumentValue scope argument
    let values ← argumentFields scope others
    return (name, value) :: values

end

def evaluate (scope : Scope) (expression : List Char) : Guarded (List Char) := do
  let tree ← parse expression
  scope.evaluateTree tree

def segmentText (scope : Scope) : Block.Segment → Guarded (List Char)
  | .literal text => return text
  | .block inside => scope.evaluate inside

def render (scope : Scope) (template : List Char) : Guarded (List Char) := do
  let segments ← segments template
  let texts ← segments.mapM scope.segmentText
  return texts.flatten

end Scope

end Intake
