import Intake.Mapping.Rule

/-!
# Drivers

A driver says how one type of source object becomes one type of target record: a rule for each
field of the target, constants that the rules may use, and conditions that suppress the whole flow
or single steps.
-/

namespace Intake

/-- Conditions on the outcome of a driver. -/
structure DriverFilters where
  /-- Any of them suppresses the whole flow. -/
  skipFlowIf : List Condition := []
  /-- A step is kept when all of them hold. -/
  steps : List Condition := []

/-- A driver whose rules and conditions have been read. -/
structure Driver where
  name : String
  version : String
  source : String
  target : String
  description : Option String := none
  /-- The rules by field of the target, in the order of the file. -/
  mappings : List (String × Rule) := []
  constants : Fields Value := []
  filters : DriverFilters := {}
  fingerprint : String
  /-- The file that the driver was loaded from. -/
  path : Option String := none

namespace Driver

def hasFilters (driver : Driver) : Bool :=
  !driver.filters.skipFlowIf.isEmpty || !driver.filters.steps.isEmpty

/-- A constant of a driver, or a value to use instead. -/
def constant (driver : Driver) (name : String) (fallback : Value) : Value :=
  (Fields.get? name driver.constants).getD fallback

def mapping? (driver : Driver) (field : String) : Option Rule :=
  Fields.get? field driver.mappings

end Driver

end Intake
