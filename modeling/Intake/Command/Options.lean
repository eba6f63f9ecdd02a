import Intake.Settings.Reader

/-!
# Command-line options

The options that every command takes, in any place among the other arguments, and why a command
failed.
-/

namespace Intake

namespace Command

inductive Failure where
  | noSettingsPath
  | noDriversPath
  | unknownOption (option : String)
  | usage (text : String)
  | unknownCommand
  | unknownSchema (name : String)
  | invalid
  | error (cause : Error)
deriving DecidableEq, Repr

namespace Failure

def message : Failure → String
  | noSettingsPath => "--config requires a file path"
  | noDriversPath => "--drivers requires a directory"
  | unknownOption option => "Unknown option: " ++ option
  | usage text => "Usage: " ++ text
  | unknownCommand => "Unknown command"
  | unknownSchema name => "Unknown schema: " ++ name
  | invalid => "Validation failed"
  | error cause => cause.message

end Failure

/-- Options and the arguments that are no options. -/
structure Options where
  settingsPath : Option String := none
  driversPath : Option String := none
  json : Bool := false
  arguments : List String := []
deriving DecidableEq, Repr

namespace Options

/-- The settings file that is used when there is one and no other is named. -/
def standardSettingsPath : String := "formflow.yaml"

/-- The options of a list of arguments, added to those already read. -/
def parseFrom (options : Options) : List String → Except Failure Options
  | [] => .ok options
  | argument :: rest =>
    if argument = "--config" ∨ argument = "-c" then
      match rest with
      | [] => .error .noSettingsPath
      | path :: rest => parseFrom { options with settingsPath := some path } rest
    else if argument = "--drivers" ∨ argument = "-d" then
      match rest with
      | [] => .error .noDriversPath
      | path :: rest => parseFrom { options with driversPath := some path } rest
    else if argument = "--json" then parseFrom { options with json := true } rest
    else if Text.startsWith ['-', '-'] argument.toList then .error (.unknownOption argument)
    else parseFrom { options with arguments := options.arguments ++ [argument] } rest

def parse (arguments : List String) : Except Failure Options :=
  parseFrom {} arguments

/-- The argument at an index, which must be there. -/
def argument (options : Options) (index : Nat) (usage : String) : Except Failure String :=
  match options.arguments[index]? with
  | some argument => .ok argument
  | none => .error (.usage usage)

/-- The settings that a command runs with: those of the file named, or else of the standard file if
there is one, or else the standard settings. -/
def settings (options : Options) (files : FileTree) : Except Failure Settings := do
  let settings ←
    match options.settingsPath with
    | some path => (Settings.load files path).mapError .error
    | none =>
      if files.isFile standardSettingsPath then
        (Settings.load files standardSettingsPath).mapError .error
      else .ok {}
  match options.driversPath with
  | some path => .ok { settings with drivers := { settings.drivers with directory := path } }
  | none => .ok settings

end Options

end Command

end Intake
