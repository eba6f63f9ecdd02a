import Intake.Driver.Identifier
import Intake.Error

/-!
# Targets

The types of record that drivers can produce. A target turns the mapped record into its own form,
or refuses a record that does not have it. A driver may qualify a target's name.
-/

namespace Intake

/-- Turns a mapped record into a form of its own. -/
abbrev Target := Value → Except Error Value

abbrev TargetTable := Fields Target

namespace Target

/-- The name of the target of flow instructions. -/
def instructionsName : String := "FormFlowInstructions"

/-- The target of flow instructions. -/
def instructions : Target := fun value =>
  match Instructions.ofValue? value with
  | some instructions => .ok instructions.toValue
  | none => .error .misfit

/-- A target that takes every record as it is. -/
def passthrough : Target := .ok

end Target

namespace TargetTable

/-- The targets that are always known. -/
def builtin : TargetTable := [(Target.instructionsName, Target.instructions)]

/-- The targets with one more that takes every record as it is. -/
def withPassthrough (name : String) (targets : TargetTable) : TargetTable :=
  Fields.insert name Target.passthrough targets

/-- The target of a name, or else of the last name in a qualified one. -/
def resolve? (targets : TargetTable) (name : String) : Option Target :=
  match Fields.get? name targets with
  | some target => some target
  | none => Fields.get? (String.ofList (Identifier.shortName name.toList)) targets

/-- The target of a name, which must be known. -/
def resolve (targets : TargetTable) (name : String) : Except Error Target :=
  match targets.resolve? name with
  | some target => .ok target
  | none => .error (.unresolvedTarget name)

/-- Names in the order of their characters. -/
def sortedNames (targets : TargetTable) : List String :=
  (Fields.names targets).mergeSort fun left right => decide (left ≤ right)

end TargetTable

end Intake
