import Intake.Flow.Instructions

/-!
# Flow templates

A flow template lists the steps that a source object is to go through. Its texts are step
templates, and its variables are processed one after the other before the rest.
-/

namespace Intake

structure StepTemplate where
  handler : String
  stepName : Option String := none
  condition : Option Value := none
  title : Option String := none
  description : Option String := none
  config : Fields Value := []

structure FlowTemplate where
  referenceId : Option String := none
  title : Option String := none
  description : Option String := none
  bindings : Fields Value := []
  steps : List StepTemplate := []
  callbacks : Callbacks := {}

namespace StepTemplate

def fieldNames : List String :=
  ["handler", "step_name", "condition", "title", "description", "config"]

/-- The step that a document writes. Whatever stands in the place of the condition is one. -/
def ofValue? (value : Value) : Option StepTemplate := do
  let content ← Record.contents? fieldNames value
  let handler ← Record.required Value.text? (content "handler")
  let stepName ← Record.optional Value.text? (content "step_name")
  let title ← Record.optional Value.text? (content "title")
  let description ← Record.optional Value.text? (content "description")
  let config ← Record.defaulted [] Value.object? (content "config")
  return { handler, stepName, condition := content "condition", title, description, config }

/-- A step as a document; what is not set is left out. -/
def toValue (step : StepTemplate) : Value :=
  .object
    ([("handler", .text step.handler)] ++
      Record.textField "step_name" step.stepName ++
      Record.fieldOf "condition" step.condition ++
      Record.textField "title" step.title ++
      Record.textField "description" step.description ++
      [("config", .object step.config)])

end StepTemplate

namespace FlowTemplate

def fieldNames : List String :=
  ["reference_id", "title", "description", "variables", "steps", "callbacks"]

def ofValue? (value : Value) : Option FlowTemplate := do
  let content ← Record.contents? fieldNames value
  let referenceId ← Record.optional Value.text? (content "reference_id")
  let title ← Record.optional Value.text? (content "title")
  let description ← Record.optional Value.text? (content "description")
  let bindings ← Record.defaulted [] Value.object? (content "variables")
  let steps ← Record.defaulted [] (Record.listOf? StepTemplate.ofValue?) (content "steps")
  let callbacks ← Record.defaulted {} Callbacks.ofValue? (content "callbacks")
  return { referenceId, title, description, bindings, steps, callbacks }

/-- A flow template as a document; texts that are not set are left out. -/
def toValue (template : FlowTemplate) : Value :=
  .object
    (Record.textField "reference_id" template.referenceId ++
      Record.textField "title" template.title ++
      Record.textField "description" template.description ++
      [("variables", .object template.bindings),
        ("steps", .array (template.steps.map StepTemplate.toValue)),
        ("callbacks", template.callbacks.toValue)])

end FlowTemplate

end Intake
