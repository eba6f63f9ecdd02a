import Intake.Command.Run

/-!
# What commands look at

The paths that the arguments of a command and its settings lead to. The settings can only be read
once their file is known, so the paths are asked for with the files known so far.
-/

namespace Intake

namespace Command

/-- The paths of some settings: their directories, and the files that an argument may name there. -/
def settingsPlaces (settings : Settings) (arguments : List String) : List String :=
  settings.drivers.directory :: settings.drivers.flowsDirectory ::
    arguments.flatMap settings.library.candidates

def places (files : FileTree) (arguments : List String) : List String :=
  match Options.parse (arguments.drop 1) with
  | .error _ => []
  | .ok options =>
    Options.standardSettingsPath :: options.settingsPath.toList ++ options.driversPath.toList ++
      options.arguments ++
      match options.settings files with
      | .ok settings => settingsPlaces settings options.arguments
      | .error _ => []

/-- Whether a command with some arguments may read the standard input. -/
def readsInput (arguments : List String) : Bool :=
  arguments.contains "-"

/-- The environment variables that a block of assignments lists. -/
def environment (block : String) : Fields String :=
  (Text.pieces '\x00' block.toList).filterMap fun assignment =>
    (Text.splitAt? '=' assignment).map fun parts =>
      (String.ofList parts.1, String.ofList parts.2)

/-- The directories of some files that others do not have, in the order in which they were made. -/
def newDirectories (before after : FileTree) : List Place :=
  ((after.entries.filter fun entry =>
    entry.2 == .directory && (before.entry? entry.1).isNone).map Prod.fst).reverse

def absolutePath (place : Place) : String :=
  String.join (place.map fun name => "/" ++ name)

/-- No files but the directories that lead to a path, to which other paths are relative. -/
def emptyTree (here : String) : FileTree :=
  let tree := ({} : FileTree).makeDirectories here
  tree.relativeTo ((tree.place? here).getD [])

end Command

end Intake
