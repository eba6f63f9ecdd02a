import Intake.Settings.Basic

/-!
# Reading settings

Settings are read from a YAML text. Every section and every field may be left out. Directories that
are not absolute lie below the directory of the settings file.
-/

namespace Intake

namespace Settings

def shape : Shape :=
  .record
    [("version", .natural),
      ("drivers", .record
        [("directory", .text), ("flows_directory", .text), ("create_if_missing", .boolean)]),
      ("app", .record
        [("base_url", .text), ("asset_url", .optional .text), ("routes", .table .text),
          ("values", .table .any), ("session", .table .any)]),
      ("handlers", .record [("available", .list .text), ("install_hint", .text)]),
      ("mapping", .record [("max_depth", .natural)]),
      ("templates", .record [("currency_symbol", .text)])]

/-- A natural number below a limit. -/
def naturalBelow? (limit : Nat) (value : Value) : Option Nat :=
  (Record.natural? value).filter fun number => number < limit

/-- Texts by name, in the order of the names. -/
def textTable? (value : Value) : Option (Fields String) := do
  let fields ← value.object?
  let entries ← fields.mapM fun field => field.2.text?.map fun content => (field.1, content)
  return entries.foldl (fun table entry => Fields.insertSorted entry.1 entry.2 table) []

def Drivers.ofValue? (value : Value) : Option Drivers := do
  let content ← Record.contents? ["directory", "flows_directory", "create_if_missing"] value
  let standard : Drivers := {}
  let directory ← Record.defaulted standard.directory Value.text? (content "directory")
  let flowsDirectory ←
    Record.defaulted standard.flowsDirectory Value.text? (content "flows_directory")
  let createIfMissing ← Record.defaulted false Record.boolean? (content "create_if_missing")
  return { directory, flowsDirectory, createIfMissing }

def App.ofValue? (value : Value) : Option App := do
  let content ← Record.contents? ["base_url", "asset_url", "routes", "values", "session"] value
  let baseUrl ← Record.defaulted "" Value.text? (content "base_url")
  let assetUrl ← Record.optional Value.text? (content "asset_url")
  let routes ← Record.defaulted [] textTable? (content "routes")
  let values ← Record.defaulted [] Value.object? (content "values")
  let session ← Record.defaulted [] Value.object? (content "session")
  return { baseUrl, assetUrl, routes, values, session }

def Installed.ofValue? (value : Value) : Option Installed := do
  let content ← Record.contents? ["available", "install_hint"] value
  let standard : Installed := {}
  let available ←
    Record.defaulted standard.available (Record.listOf? Value.text?) (content "available")
  let installHint ← Record.defaulted standard.installHint Value.text? (content "install_hint")
  return { available, installHint }

/-- The content of the only field of a section. -/
def soleField? {α : Type} (name : String) (fallback : α) (read : Value → Option α)
    (value : Value) : Option α := do
  let content ← Record.contents? [name] value
  Record.defaulted fallback read (content name)

def ofValue? (value : Value) : Option Settings := do
  let content ← Record.contents?
    ["version", "drivers", "app", "handlers", "mapping", "templates"] value
  let standard : Settings := {}
  let version ← Record.defaulted standard.version (naturalBelow? (twoTo 32)) (content "version")
  let drivers ← Record.defaulted {} Drivers.ofValue? (content "drivers")
  let app ← Record.defaulted {} App.ofValue? (content "app")
  let handlers ← Record.defaulted {} Installed.ofValue? (content "handlers")
  let maxDepth ← Record.defaulted standard.maxDepth
    (soleField? "max_depth" standard.maxDepth (naturalBelow? (twoTo 64))) (content "mapping")
  let currencySymbol ← Record.defaulted standard.currencySymbol
    (soleField? "currency_symbol" standard.currencySymbol Value.text?) (content "templates")
  return { version, drivers, app, handlers, maxDepth, currencySymbol }

def toValue (settings : Settings) : Value :=
  .object
    [("version", .ofNat settings.version),
      ("drivers", .object
        [("directory", .text settings.drivers.directory),
          ("flows_directory", .text settings.drivers.flowsDirectory),
          ("create_if_missing", .bool settings.drivers.createIfMissing)]),
      ("app", .object
        ([("base_url", .text settings.app.baseUrl)] ++
          Record.textField "asset_url" settings.app.assetUrl ++
          [("routes", .object
              (settings.app.routes.map fun route => (route.1, .text route.2))),
            ("values", .object settings.app.values),
            ("session", .object settings.app.session)])),
      ("handlers", .object
        [("available", .array (settings.handlers.available.map Value.text)),
          ("install_hint", .text settings.handlers.installHint)]),
      ("mapping", .object [("max_depth", .ofNat settings.maxDepth)]),
      ("templates", .object [("currency_symbol", .text settings.currencySymbol)])]

/-- The settings that a text writes, of whatever version. -/
def read? (content : String) : Option Settings :=
  (Yaml.readShaped? shape content.toList).bind ofValue?

/-- The settings that a text writes, which must be of the current version. -/
def parse (content : String) : Except SettingsFault Settings :=
  match read? content with
  | none => .error .notYaml
  | some settings =>
    if settings.version = currentVersion then .ok settings
    else .error (.unsupportedVersion settings.version)

/-- The settings of a file, with directories below that of the file. -/
def load (files : FileTree) (path : String) : Except Error Settings :=
  match files.read? path with
  | none => .error .unreadable
  | some content =>
    match parse content with
    | .error fault => .error (.file path (.settings fault))
    | .ok settings => .ok ((FilePath.parent? path).elim settings settings.resolvePaths)

end Settings

end Intake
