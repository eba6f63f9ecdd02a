import Intake.Error
import Intake.Files.Tree
import Intake.FlowTemplate.Basic
import Intake.Json.Shaped
import Intake.Yaml.Document

/-!
# Reading flow templates

A flow template is read from text in one of two formats. Its known fields must not be repeated, and
every step needs a handler.
-/

namespace Intake

namespace Callbacks

def shape : Shape :=
  .record [("on_complete", .optional .text), ("on_cancel", .optional .text)]

end Callbacks

namespace StepTemplate

def shape : Shape :=
  .record
    [("handler", .text), ("step_name", .optional .text), ("condition", .optional .any),
      ("title", .optional .text), ("description", .optional .text), ("config", .table .any)]

end StepTemplate

namespace FlowTemplate

def shape : Shape :=
  .record
    [("reference_id", .optional .text), ("title", .optional .text),
      ("description", .optional .text), ("variables", .table .any),
      ("steps", .list StepTemplate.shape), ("callbacks", Callbacks.shape)]

def readDocument? (format : FileFormat) (content : String) : Option Value :=
  match format with
  | .yaml => Yaml.readShaped? shape content.toList
  | .json => Json.readShaped? shape content.toList

/-- The index of the first step without a handler. -/
def unhandled? (template : FlowTemplate) : Option Nat :=
  template.steps.findIdx? fun step => Text.isBlankText step.handler.toList

def parse (format : FileFormat) (content : String) : Except FileFault FlowTemplate :=
  match (readDocument? format content).bind ofValue? with
  | none => .error .malformedTemplate
  | some template =>
    match template.unhandled? with
    | some index => .error (.noHandler index)
    | none => .ok template

def load (files : FileTree) (path : String) : Except Error FlowTemplate :=
  match FileFormat.ofPath? path with
  | none => .error (.file path .unsupportedFormat)
  | some format =>
    match files.read? path with
    | none => .error .unreadable
    | some content =>
      match parse format content with
      | .ok template => .ok template
      | .error fault => .error (.file path fault)

end FlowTemplate

end Intake
