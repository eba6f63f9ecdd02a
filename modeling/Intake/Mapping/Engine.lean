import Intake.Condition.Evaluation
import Intake.Driver.Basic
import Intake.Host.Basic
import Intake.Mapping.Target

/-!
# Applying drivers

A source object becomes a record by a driver: each rule yields the value of its field, and the
record goes to the driver's target unless a condition suppresses the flow. Rules never fail. What
is missing is null, and so is every part of a rule that nests too deep.
-/

namespace Intake

/-- What rules are applied with. -/
structure Engine where
  renderer : Renderer := {}
  functions : FunctionTable := Host.functions {}
  targets : TargetTable := TargetTable.builtin
  /-- The levels of nesting below a field that are looked at. -/
  maxDepth : Nat := 32

namespace Engine

/-- The items of a collection: those of an array, or the contents of an object. -/
def itemsOf : Value → List Value
  | .array items => items
  | .object fields => Fields.contents fields
  | _ => []

/-- The first item of a collection; anything else stands for itself. -/
def firstOf : Value → Value
  | .array items => items.head?.getD .null
  | .object fields => (Fields.contents fields).head?.getD .null
  | value => value

/-- The texts of an array's items, joined; the text of anything else. -/
def joinedText (separator : List Char) : Value → List Char
  | .array items => Text.joined separator (items.map Value.display)
  | value => value.display

/-- The text between joined items when a rule gives none. -/
def defaultSeparator : String := ", "

/-- The constant of a driver that every item of a list is mapped with. -/
def prioritiesOf (constants : Fields Value) : Value :=
  (Fields.get? "priorities" constants).getD (.array [])

/-- The collection that a transformation works on, unless it is missing or null. -/
def sourceAt? (context : Context) (path : List Char) : Option Value :=
  ((context.get? "source").bind (Value.get? path)).filter fun value => !value.isNull

def holds (engine : Engine) (context : Context) (condition : Condition) : Bool :=
  condition.evaluate engine.renderer context

/-- The value that a rule yields. The number is the levels of nesting that are left, counted with
the rule itself. -/
def valueAt (engine : Engine) (constants : Fields Value) : Nat → Rule → Context → Value
  | 0, _, _ => .null
  | levels + 1, rule, context =>
    match rule with
    | .literal value => value
    | .template text | .templateObject text =>
      .ofChars (engine.renderer.render text.toList context)
    | .transform path kind handler condition separator =>
      match sourceAt? context path with
      | none => .null
      | some value =>
        match kind with
        | .arrayMap =>
          match handler with
          | none => .array (itemsOf value)
          | some handler =>
            .array ((itemsOf value).map fun item =>
              valueAt engine constants levels handler
                ((context.bind "item" item).bind "priorities" (prioritiesOf constants)))
        | .filter =>
          match condition with
          | none => .array (itemsOf value)
          | some condition =>
            .array ((itemsOf value).filter fun item =>
              engine.holds (context.bind "item" item) condition)
        | .first => firstOf value
        | .count => .ofNat (itemsOf value).length
        | .join => .ofChars (joinedText (separator.getD defaultSeparator).toList value)
    | .conditional test whenTrue whenFalse =>
      if engine.holds context test then
        match whenTrue with
        | some rule => valueAt engine constants levels rule context
        | none => .bool true
      else
        match whenFalse with
        | some rule => valueAt engine constants levels rule context
        | none => .null
    | .reference origin test =>
      if test.all (engine.holds context) then
        match origin with
        | .rule rule => valueAt engine constants levels rule context
        | .template text => .ofChars (engine.renderer.render text.toList context)
        | .path text => (context.lookup text.toList).getD .null
        | .literal value => value
      else .null
    | .nested fields =>
      .object (fields.map fun field => (field.1, valueAt engine constants levels field.2 context))
    | .sequence items =>
      .array (items.map fun item => valueAt engine constants levels item context)

/-- The value that a rule of a driver yields. -/
def value (engine : Engine) (driver : Driver) (rule : Rule) (context : Context) : Value :=
  engine.valueAt driver.constants (engine.maxDepth + 1) rule context

/-- What the rules of a driver see: the source, the constants and the functions. -/
def contextOf (engine : Engine) (driver : Driver) (source : Value) : Context :=
  { base := [("source", source), ("constants", .object driver.constants)]
    functions := engine.functions }

/-- The record that the rules of a driver make, field by field. -/
def record (engine : Engine) (driver : Driver) (context : Context) : Fields Value :=
  driver.mappings.map fun mapping => (mapping.1, engine.value driver mapping.2 context)

def isSuppressed (engine : Engine) (driver : Driver) (context : Context) : Bool :=
  driver.filters.skipFlowIf.any (engine.holds context)

/-- Whether a step is kept: all conditions on steps hold for it. -/
def keepsStep (engine : Engine) (conditions : List Condition) (context : Context)
    (step : Value) : Bool :=
  conditions.all (engine.holds (context.bind "item" step))

/-- A record with only those of its steps that are kept. -/
def filterSteps (engine : Engine) (conditions : List Condition) (context : Context)
    (record : Fields Value) : Fields Value :=
  match Fields.get? "steps" record with
  | some (.array steps) =>
    Fields.insert "steps" (.array (steps.filter (engine.keepsStep conditions context))) record
  | _ => record

/-- What a driver makes of a source; nothing when the flow is suppressed. -/
def transform (engine : Engine) (driver : Driver) (source : Value) :
    Except Error (Option Value) := do
  let target ← engine.targets.resolve driver.target
  let context := engine.contextOf driver source
  if engine.isSuppressed driver context then return none
  else
    let record := engine.record driver context
    return some (← target
      (.object (engine.filterSteps driver.filters.steps context record)))

def transformInstructions (engine : Engine) (driver : Driver) (source : Value) :
    Except Error (Option Instructions) := do
  match ← engine.transform driver source with
  | none => return none
  | some value =>
    match Instructions.ofValue? value with
    | some instructions => return some instructions
    | none => throw .misfit

end Engine

end Intake
