import Intake.Flow.Service
import Intake.Mapping.Rule

/-!
# Errors

What can go wrong outside the evaluation of templates and conditions, which never fails: a file
that is malformed, a name that leads to nothing, a record that does not fit its target.
-/

namespace Intake

/-- What is wrong with the text of engine settings. -/
inductive SettingsFault where
  | notYaml
  | unsupportedVersion (version : Nat)
deriving DecidableEq, Repr

/-- What is wrong with one file. -/
inductive FileFault where
  | unsupportedFormat
  | notYaml
  | notJson
  | notMapping
  | missingSection (name : String)
  | headerNotMapping
  | missingField (name : String)
  | malformedDriver
  | badVersion (version : String)
  | badIdentifier (field identifier : String)
  | rule (error : RuleError)
  | malformedTemplate
  | noHandler (index : Nat)
  | noDriverFile
  | settings (fault : SettingsFault)
deriving DecidableEq, Repr

inductive Error where
  /-- A driver file, a flow template or a settings file is malformed. -/
  | file (path : String) (fault : FileFault)
  | unresolvedTarget (name : String)
  /-- No driver or flow template has the name. -/
  | unknownDriver (name : String)
  | flow (error : FlowError)
  | settings (fault : SettingsFault)
  | unreadable
  | notJson
  /-- A mapped record does not have the form of its target. -/
  | misfit
deriving DecidableEq, Repr

namespace SettingsFault

def message : SettingsFault → String
  | notYaml => "YAML error"
  | unsupportedVersion version =>
    "Unsupported config version: " ++ String.ofList (Decimal.digits version)

end SettingsFault

namespace FileFault

def message : FileFault → String
  | unsupportedFormat => "unsupported file format (expected .yaml, .yml or .json)"
  | notYaml => "invalid YAML"
  | notJson => "invalid JSON"
  | notMapping => "expected a mapping at the top level"
  | missingSection name => "driver configuration missing '" ++ name ++ "' section"
  | headerNotMapping => "'driver' section must be a mapping"
  | missingField name => "missing required field 'driver." ++ name ++ "'"
  | malformedDriver => "malformed driver"
  | badVersion version =>
    "invalid version format '" ++ version ++ "', expected X.Y or X.Y.Z"
  | badIdentifier field identifier =>
    "invalid type identifier for 'driver." ++ field ++ "': " ++ identifier
  | rule error => error.message
  | malformedTemplate => "invalid flow template"
  | noHandler index => "step " ++ String.ofList (Decimal.digits index) ++ " has no handler"
  | noDriverFile => "driver file not found"
  | settings fault => fault.message

end FileFault

namespace Error

def message : Error → String
  | file path fault => "Configuration error in " ++ path ++ ": " ++ fault.message
  | unresolvedTarget name => "Target type cannot be resolved: " ++ name
  | unknownDriver name => "Driver not found: " ++ name
  | flow error => error.message
  | settings fault => fault.message
  | unreadable => "IO error"
  | notJson => "JSON error"
  | misfit => "JSON error"

end Error

end Intake
