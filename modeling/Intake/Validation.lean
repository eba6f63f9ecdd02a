import Intake.Settings.Reader

/-!
# Validation

Checks of settings files and driver files that report every problem instead of stopping at the
first. Reading a directory of drivers here finds the same files as a catalog does, but each one that
cannot be read is an issue.
-/

namespace Intake

/-- How bad a finding is. -/
inductive Severity where
  | error
  | warning
deriving DecidableEq, Repr

namespace Severity

def name : Severity → String
  | error => "error"
  | warning => "warning"

end Severity

inductive Finding where
  | noFile
  | unreadableDirectory
  | unreadableFile
  | notYaml
  | unsupportedVersion (version : Nat)
  | emptySetting (name : String)
  | noDepth
  | badDriver (error : Error)
  | repeatedHandler (name : String)
  | fixedHint
  | relativeRoutes
  | noCurrency
  | noDrivers
  | sharedName (name previous : String)
deriving DecidableEq, Repr

namespace Finding

def severity : Finding → Severity
  | repeatedHandler _ | fixedHint | relativeRoutes | noCurrency | noDrivers | sharedName .. =>
    .warning
  | _ => .error

def code : Finding → String
  | noFile | unreadableDirectory => "E001"
  | unreadableFile => "E002"
  | notYaml => "E003"
  | unsupportedVersion _ => "E004"
  | emptySetting _ => "E005"
  | noDepth => "E006"
  | badDriver _ => "E010"
  | repeatedHandler _ => "W001"
  | fixedHint => "W002"
  | relativeRoutes => "W003"
  | noCurrency => "W004"
  | noDrivers => "W005"
  | sharedName .. => "W006"

def message : Finding → String
  | noFile => "File does not exist"
  | unreadableDirectory => "Cannot read driver directory"
  | unreadableFile => "Cannot read file"
  | notYaml => "Invalid YAML"
  | unsupportedVersion version =>
    "Unsupported version: " ++ String.ofList (Decimal.digits version) ++ ". Only version " ++
      String.ofList (Decimal.digits Settings.currentVersion) ++ " is supported."
  | emptySetting name => name ++ " cannot be empty"
  | noDepth => "mapping.max_depth must be at least 1"
  | badDriver error => error.message
  | repeatedHandler name => "Handler '" ++ name ++ "' is listed more than once"
  | fixedHint =>
    "handlers.install_hint has no \x7bhandler\x7d placeholder; every hint will read the same"
  | relativeRoutes =>
    "app.routes are defined but app.base_url is empty; route() will emit relative URLs"
  | noCurrency => "templates.currency_symbol is empty"
  | noDrivers => "No driver files found"
  | sharedName name previous =>
    "Driver name '" ++ name ++ "' is also used by " ++ previous ++
      "; only one will be registered"

end Finding

structure Issue where
  finding : Finding
  file : String
deriving DecidableEq, Repr

structure Report where
  issues : List Issue := []
  driversChecked : Nat := 0
deriving DecidableEq, Repr

namespace Report

def count (report : Report) (severity : Severity) : Nat :=
  report.issues.countP fun issue => issue.finding.severity = severity

def hasErrors (report : Report) : Bool :=
  report.issues.any fun issue => issue.finding.severity = .error

def hasWarnings (report : Report) : Bool :=
  report.issues.any fun issue => issue.finding.severity = .warning

/-- Whether what was checked can be used. -/
def isValid (report : Report) : Bool :=
  !report.hasErrors

end Report

namespace Issue

def toValue (issue : Issue) : Value :=
  .object
    [("severity", .text issue.finding.severity.name),
      ("code", .text issue.finding.code),
      ("message", .text issue.finding.message),
      ("file", .text issue.file)]

end Issue

namespace Validation

/-- The names of a list that occur in it before, at each place where they do. -/
def repeated (seen : List String) : List String → List String
  | [] => []
  | name :: rest =>
    if seen.contains name then name :: repeated seen rest else repeated (name :: seen) rest

def findings (settings : Settings) : List Finding :=
  (if settings.version = Settings.currentVersion then []
    else [.unsupportedVersion settings.version]) ++
  (if settings.drivers.directory = "" then [.emptySetting "drivers.directory"] else []) ++
  (if settings.drivers.flowsDirectory = "" then [.emptySetting "drivers.flows_directory"]
    else []) ++
  (if settings.maxDepth = 0 then [.noDepth] else []) ++
  (repeated [] settings.handlers.available).map .repeatedHandler ++
  (if Text.contains Handlers.token settings.handlers.installHint.toList then []
    else [.fixedHint]) ++
  (if settings.app.baseUrl = "" ∧ settings.app.routes ≠ [] then [.relativeRoutes] else []) ++
  (if settings.currencySymbol = "" then [.noCurrency] else [])

/-- The issues of settings that come from a file. -/
def settingsIssues (settings : Settings) (file : String) : List Issue :=
  (findings settings).map fun finding => ⟨finding, file⟩

def settingsFile (files : FileTree) (path : String) : Report :=
  if !files.isThere path then { issues := [⟨.noFile, path⟩] }
  else
    match files.read? path with
    | none => { issues := [⟨.unreadableFile, path⟩] }
    | some content =>
      match Settings.read? content with
      | none => { issues := [⟨.notYaml, path⟩] }
      | some settings => { issues := settingsIssues settings path }

/-- The check of a directory so far: its issues, and the last file of each driver name. -/
structure Progress where
  issues : List Issue := []
  owners : Fields String := []

/-- The check of a directory after one more driver file. -/
def checkDriver (files : FileTree) (progress : Progress) (path : String) : Progress :=
  match Driver.load files path with
  | .error error => { progress with issues := progress.issues ++ [⟨.badDriver error, path⟩] }
  | .ok driver =>
    let shared :=
      match Fields.get? driver.name progress.owners with
      | some previous => [⟨.sharedName driver.name previous, path⟩]
      | none => []
    { issues := progress.issues ++ shared
      owners := Fields.insert driver.name path progress.owners }

/-- Checks every driver file in a directory. -/
def driverDirectory (files : FileTree) (directory : String) : Report :=
  match Driver.filesIn? files directory with
  | none => { issues := [⟨.unreadableDirectory, directory⟩] }
  | some paths =>
    { issues :=
        (if paths = [] then [⟨.noDrivers, directory⟩] else []) ++
          (paths.foldl (checkDriver files) {}).issues
      driversChecked := paths.length }

def driverFile (files : FileTree) (path : String) : Report :=
  if !files.isThere path then { issues := [⟨.noFile, path⟩] }
  else
    { issues :=
        match Driver.load files path with
        | .ok _ => []
        | .error error => [⟨.badDriver error, path⟩]
      driversChecked := 1 }

/-- Whether a file writes a document with a section of its own for the driver. -/
def isDriverFile (files : FileTree) (path : String) : Bool :=
  (((files.read? path).bind fun content => Yaml.readValue? content.toList).bind
    (Value.field? "driver")).isSome

/-- Checks what a path leads to: every driver of a directory, a driver file, or else a settings
file. -/
def anyPath (files : FileTree) (path : String) : Report :=
  if files.isDirectory path then driverDirectory files path
  else if isDriverFile files path then driverFile files path
  else settingsFile files path

end Validation

end Intake
