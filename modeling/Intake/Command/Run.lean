import Intake.Command.Options
import Intake.Validation

/-!
# Commands

Each command reads files and answers with text for the standard output, text for the error output,
and whether it failed. A command may answer and fail: a check that finds errors reports them first.
-/

namespace Intake

namespace Command

/-- What a command is run with. -/
structure Surroundings where
  files : FileTree
  /-- The text of the standard input; none when it cannot be read. -/
  input : Option String := none
  environment : Fields String := []
  now : Timestamp
  /-- An id for a flow without a reference of its own. -/
  freshId : String

structure Answer where
  output : String := ""
  errors : String := ""
  succeeds : Bool := true
  /-- The files afterwards. -/
  files : FileTree

def line (content : String) : String :=
  content ++ "\n"

/-- An answer after a failure has been added to it. -/
def Answer.withFailure (answer : Answer) (failure : Failure) : Answer :=
  { answer with
    errors := answer.errors ++ line ("Error: " ++ failure.message)
    succeeds := false }

/-- The answer of a command that fails or answers. -/
def settled (surroundings : Surroundings) : Except Failure Answer → Answer
  | .ok answer => answer
  | .error failure => Answer.withFailure { files := surroundings.files } failure

/-- A document as the output of a command. -/
def documentText (value : Value) : String :=
  line value.pretty

def programName : String := "formflow"

def programVersion : String := "0.1.0"

def help : String := "
formflow - Declarative mapping and multi-step form flows

USAGE:
    formflow <COMMAND> [OPTIONS]

COMMANDS:
    validate <path>                      Validate a driver file, driver directory
                                         or engine config
    list                                 List discovered drivers
    transform <driver> <source.json>     Run a driver (name or file) against a source
    steps <flow> <source.json>           Build flow instructions from a flow template
    schema [driver|config|flow|instructions|list]
                                         Print a JSON schema
    version                              Print the version
    help                                 Show this message

OPTIONS:
    --config <file>                      Engine config (default: ./formflow.yaml if present)
    --drivers <dir>                      Driver directory (overrides the config)
    --json                               JSON output (validate, list)

ENVIRONMENT:
    RUST_LOG                             Log filter (default: warn)

EXAMPLES:
    formflow validate drivers/
    formflow list --drivers drivers
    formflow transform voucher-redemption voucher.json
    formflow steps voucher-redemption voucher.json --config formflow.yaml
    cat voucher.json | formflow transform drivers/voucher.yaml -

"

/-- The document of a file, or of the standard input for `-`. -/
def readDocument (surroundings : Surroundings) (path : String) : Except Failure Value :=
  match if path = "-" then surroundings.input else surroundings.files.read? path with
  | none => .error (.error .unreadable)
  | some content =>
    match Json.parse? content with
    | some value => .ok value
    | none => .error (.error .notJson)

/-! ## Checking -/

def reportValue (report : Report) : Value :=
  .object
    [("valid", .bool report.isValid),
      ("errors", .ofNat (report.count .error)),
      ("warnings", .ofNat (report.count .warning)),
      ("drivers_checked", .ofNat report.driversChecked),
      ("issues", .array (report.issues.map Issue.toValue))]

def issueText (issue : Issue) : String :=
  let mark :=
    match issue.finding.severity with
    | .error => "✗ [" ++ issue.finding.code ++ "] ERROR: "
    | .warning => "⚠ [" ++ issue.finding.code ++ "] WARN: "
  line (mark ++ issue.finding.message) ++ line ("  File: " ++ issue.file)

/-- A report as text about what was checked. -/
def reportText (report : Report) (target : String) : String :=
  let warnings := toString (report.count .warning) ++ " warning(s)"
  if report.issues = [] then
    if 0 < report.driversChecked then
      line ("✓ " ++ target ++ ": " ++ toString report.driversChecked ++ " driver(s) valid")
    else line ("✓ " ++ target ++ ": valid (no issues found)")
  else
    String.join (report.issues.map issueText) ++ line "" ++
      if report.hasErrors then
        line ("✗ " ++ toString (report.count .error) ++ " error(s), " ++ warnings)
      else line ("✓ " ++ warnings ++ " (no errors)")

def validateUsage : String :=
  "formflow validate <driver.yaml|driver-dir|formflow.yaml> [--json]"

/-- What the command that checks looks at, and what it finds. -/
def reportOf (files : FileTree) (options : Options) : Except Failure (String × Report) :=
  match options.arguments.head?, options.settingsPath with
  | some path, _ => .ok (path, Validation.anyPath files path)
  | none, some path => .ok (path, Validation.settingsFile files path)
  | none, none => .error (.usage validateUsage)

/-- Checks a driver file, a directory of drivers or a settings file. -/
def validate (surroundings : Surroundings) (arguments : List String) : Except Failure Answer := do
  let options ← Options.parse arguments
  let (target, report) ← reportOf surroundings.files options
  let answer : Answer := {
    output :=
      if options.json then documentText (reportValue report) else reportText report target
    files := surroundings.files }
  return if report.hasErrors then answer.withFailure .invalid else answer

/-! ## Drivers -/

/-- A text followed by spaces up to a width. -/
def padded (width : Nat) (content : String) : String :=
  content ++ String.ofList (List.replicate (width - content.length) ' ')

def driverText (driver : Driver) : String :=
  line (padded 28 driver.name ++ " " ++ padded 8 driver.version ++ " " ++ driver.source ++
    " -> " ++ driver.target) ++
    match driver.description with
    | some description => line ("    " ++ description)
    | none => ""

/-- Drivers as text; none of them names the directory. -/
def driversText (drivers : List Driver) (directory : String) : String :=
  if drivers.isEmpty then line ("No drivers found in " ++ directory)
  else
    String.join (drivers.map driverText) ++ line "" ++
      line (toString drivers.length ++ " driver(s)")

def list (surroundings : Surroundings) (arguments : List String) : Except Failure Answer := do
  let options ← Options.parse arguments
  let settings ← options.settings surroundings.files
  let catalog := settings.catalog
  return {
    output :=
      if options.json then
        documentText (catalog.summary surroundings.files).1.toValue
      else driversText (catalog.all surroundings.files).1 settings.drivers.directory
    files := catalog.filesAfter surroundings.files }

/-- The driver of a file if an argument names one, or else the driver of that name, and the files
afterwards. -/
def driverOf (catalog : DriverCatalog) (files : FileTree) (name : String) :
    Except Error Driver × FileTree :=
  if (FileFormat.ofPath? name).isSome && files.isFile name then
    ((catalog.load files name).1, files)
  else ((catalog.require files name).1, catalog.filesAfter files)

def transformUsage : String :=
  "formflow transform <driver|driver.yaml> <source.json|-> [--json]"

def transform (surroundings : Surroundings) (arguments : List String) :
    Except Failure Answer := do
  let options ← Options.parse arguments
  let name ← options.argument 0 transformUsage
  let source ← readDocument surroundings (← options.argument 1 transformUsage)
  let settings ← options.settings surroundings.files
  let (found, files) := driverOf settings.catalog surroundings.files name
  let engine := settings.engine surroundings.environment surroundings.now
  return match found.bind fun driver => engine.transform driver source with
    | .error error => Answer.withFailure { files } (.error error)
    | .ok none =>
      { output := line "null", errors := line "Flow suppressed by skip_flow_if", files }
    | .ok (some value) => { output := documentText value, files }

/-! ## Flow templates -/

def stepsUsage : String := "formflow steps <flow> <source.json|->"

def steps (surroundings : Surroundings) (arguments : List String) : Except Failure Answer := do
  let options ← Options.parse arguments
  let name ← options.argument 0 stepsUsage
  let source ← readDocument surroundings (← options.argument 1 stepsUsage)
  let settings ← options.settings surroundings.files
  let planner := settings.planner surroundings.environment surroundings.now
  let (instructions, _) ←
    (settings.library.plan surroundings.files planner name surroundings.freshId source).mapError
      Failure.error
  return {
    output := documentText instructions.toValue
    errors :=
      if instructions.steps.isEmpty then line ("Flow '" ++ name ++ "' produced no steps") else ""
    files := surroundings.files }

/-! ## Schemas -/

/-- Lists the schemas by name. The documents themselves, `driver`, `config`, `flow` and
`instructions`, are left out: they are generated from the types, and asking for one is answered
here as asking for an unknown name. -/
def schema (surroundings : Surroundings) (arguments : List String) : Except Failure Answer :=
  let name := arguments.head?.getD "driver"
  if name = "list" then
    .ok { output := line "Available schemas: driver, config, flow, instructions"
          files := surroundings.files }
  else .error (.unknownSchema name)

/-! ## All commands -/

def answer (surroundings : Surroundings) : List String → Answer
  | [] => { output := help, succeeds := false, files := surroundings.files }
  | command :: arguments =>
    let settled := settled surroundings
    if command = "validate" then settled (validate surroundings arguments)
    else if command = "list" then settled (list surroundings arguments)
    else if command = "transform" then settled (transform surroundings arguments)
    else if command = "steps" then settled (steps surroundings arguments)
    else if command = "schema" then settled (schema surroundings arguments)
    else if command = "version" ∨ command = "--version" ∨ command = "-v" then
      { output := line (programName ++ " " ++ programVersion), files := surroundings.files }
    else if command = "help" ∨ command = "--help" ∨ command = "-h" then
      { output := help, files := surroundings.files }
    else
      Answer.withFailure
        { output := help
          errors := line ("Unknown command: " ++ command)
          files := surroundings.files }
        .unknownCommand

end Command

end Intake
