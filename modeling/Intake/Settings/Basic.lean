import Intake.Driver.Catalog
import Intake.FlowTemplate.Library
import Intake.Mapping.Engine

/-!
# Settings

What an installation chooses: where drivers and flow templates lie, what the host lends to
templates, which handlers are installed, and limits. From settings come the host, the engine, the
planner and the catalog that work by them.
-/

namespace Intake

namespace Settings

/-- Where driver files and flow templates lie. -/
structure Drivers where
  directory : String := "drivers"
  flowsDirectory : String := "flows"
  createIfMissing : Bool := false
deriving DecidableEq

/-- What the host lends to templates. -/
structure App where
  baseUrl : String := ""
  assetUrl : Option String := none
  /-- Routes in the order of their names. -/
  routes : Fields String := []
  values : Fields Value := []
  session : Fields Value := []
deriving DecidableEq

/-- Which handlers are installed. -/
structure Installed where
  available : List String := ["form"]
  installHint : String := ({} : Handlers).hintPattern
deriving DecidableEq

def currentVersion : Nat := 1

end Settings

structure Settings where
  version : Nat := Settings.currentVersion
  drivers : Settings.Drivers := {}
  app : Settings.App := {}
  handlers : Settings.Installed := {}
  maxDepth : Nat := 32
  currencySymbol : String := Filter.defaultCurrency
deriving DecidableEq

namespace Settings

/-- A path below a base, unless it is absolute. -/
def resolvePath (base path : String) : String :=
  if FilePath.isAbsolute path then path else FilePath.join base path

/-- The settings with their directories below a base. -/
def resolvePaths (settings : Settings) (base : String) : Settings :=
  { settings with
    drivers := { settings.drivers with
      directory := resolvePath base settings.drivers.directory
      flowsDirectory := resolvePath base settings.drivers.flowsDirectory } }

/-- Whether settings are the standard ones, whichever way their directories are written. -/
def isStandard (settings : Settings) : Bool :=
  let standard : Settings := {}
  FilePath.isSame settings.drivers.directory standard.drivers.directory &&
    FilePath.isSame settings.drivers.flowsDirectory standard.drivers.flowsDirectory &&
    { settings with drivers := { settings.drivers with
        directory := standard.drivers.directory
        flowsDirectory := standard.drivers.flowsDirectory } } = standard

def host (settings : Settings) (environment : Fields String) (now : Timestamp) : Host :=
  { baseUrl := settings.app.baseUrl
    assetUrl := settings.app.assetUrl
    routes := settings.app.routes
    config := .object settings.app.values
    session := .object settings.app.session
    environment
    now }

def installed (settings : Settings) : Handlers :=
  { available := settings.handlers.available
    hintPattern := settings.handlers.installHint }

def processor (settings : Settings) : Processor :=
  { filters := FilterTable.builtin settings.currencySymbol }

def engine (settings : Settings) (environment : Fields String) (now : Timestamp) : Engine :=
  { functions := (settings.host environment now).functions
    maxDepth := settings.maxDepth }

def planner (settings : Settings) (environment : Fields String) (now : Timestamp) : Planner :=
  { processor := settings.processor
    handlers := settings.installed
    host := settings.host environment now }

def catalog (settings : Settings) : DriverCatalog :=
  { directory := some settings.drivers.directory
    createsDirectory := settings.drivers.createIfMissing }

def library (settings : Settings) : FlowLibrary :=
  { directory := settings.drivers.flowsDirectory }

end Settings

end Intake
