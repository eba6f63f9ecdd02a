import Intake.FlowTemplate.Planner
import Intake.FlowTemplate.Reader

/-!
# Libraries of flow templates

Flow templates by name. A template is read from a directory when it is first asked for and kept
from then on; templates can also be put in without a file. A name that has no file is unknown, and
a template that cannot be read is not kept.
-/

namespace Intake

/-- Flow templates that are kept, and the directory of the others. -/
structure FlowLibrary where
  directory : String
  kept : Fields FlowTemplate := []

namespace FlowLibrary

/-- The extensions of template files, in the order in which they are looked for. -/
def extensions : List String := ["yaml", "yml", "json"]

/-- The files that a template may be in. -/
def candidates (library : FlowLibrary) (name : String) : List String :=
  extensions.map fun extension =>
    FilePath.join library.directory (name ++ "." ++ extension)

def put (library : FlowLibrary) (name : String) (template : FlowTemplate) : FlowLibrary :=
  { library with kept := Fields.insert name template library.kept }

def clear (library : FlowLibrary) : FlowLibrary :=
  { library with kept := [] }

def template (library : FlowLibrary) (files : FileTree) (name : String) :
    Except Error (FlowTemplate × FlowLibrary) :=
  match Fields.get? name library.kept with
  | some template => .ok (template, library)
  | none =>
    match (library.candidates name).find? files.isFile with
    | none => .error (.unknownDriver name)
    | some path =>
      match FlowTemplate.load files path with
      | .ok template => .ok (template, library.put name template)
      | .error error => .error error

/-- The flow instructions of a named template for a source, and the library afterwards. -/
def plan (library : FlowLibrary) (files : FileTree) (planner : Planner) (name freshId : String)
    (source : Value) : Except Error (Instructions × FlowLibrary) :=
  match library.template files name with
  | .ok (template, after) => .ok (planner.plan name freshId template source, after)
  | .error error => .error error

end FlowLibrary

end Intake
