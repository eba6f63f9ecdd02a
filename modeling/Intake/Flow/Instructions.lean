import Intake.Text.Basic
import Intake.Value.Record

/-!
# Flow instructions

What a form flow consists of: a reference, steps in order, each with the handler that shows it and
its configuration, and addresses to call at the end. Instructions are written as documents and read
back from them; what was written reads back as it was.
-/

namespace Intake

/-- One step of a flow. -/
structure Step where
  handler : String
  config : Fields Value := []

structure Callbacks where
  onComplete : Option String := none
  onCancel : Option String := none
deriving DecidableEq

structure Instructions where
  flowId : Option String := none
  referenceId : String := ""
  steps : List Step := []
  callbacks : Callbacks := {}
  title : Option String := none
  description : Option String := none
  metadata : Fields Value := []

/-- What is wrong with instructions. -/
inductive InstructionsFault where
  | noReference
  | noSteps (reference : String)
  | noHandler (index : Nat)
  | noCompletionCallback
deriving DecidableEq, Repr

namespace InstructionsFault

def message : InstructionsFault → String
  | noReference => "reference_id is empty"
  | noSteps reference => "flow '" ++ reference ++ "' has no steps"
  | noHandler index => "step " ++ toString index ++ " has no handler"
  | noCompletionCallback => "callbacks.on_complete is missing"

end InstructionsFault

namespace Step

def name? (step : Step) : Option String :=
  (Fields.get? "step_name" step.config).bind Value.text?

def fieldNames : List String := ["handler", "config"]

def ofValue? (value : Value) : Option Step := do
  let content ← Record.contents? fieldNames value
  let handler ← Record.required Value.text? (content "handler")
  let config ← Record.defaulted [] Value.object? (content "config")
  return ⟨handler, config⟩

def toValue (step : Step) : Value :=
  .object [("handler", .text step.handler), ("config", .object step.config)]

end Step

namespace Callbacks

def fieldNames : List String := ["on_complete", "on_cancel"]

def ofValue? (value : Value) : Option Callbacks := do
  let content ← Record.contents? fieldNames value
  let onComplete ← Record.optional Value.text? (content "on_complete")
  let onCancel ← Record.optional Value.text? (content "on_cancel")
  return ⟨onComplete, onCancel⟩

/-- Callbacks as a document; those that are not set are left out. -/
def toValue (callbacks : Callbacks) : Value :=
  .object (Record.textField "on_complete" callbacks.onComplete ++
    Record.textField "on_cancel" callbacks.onCancel)

end Callbacks

namespace Instructions

def fieldNames : List String :=
  ["flow_id", "reference_id", "steps", "callbacks", "title", "description", "metadata"]

def ofValue? (value : Value) : Option Instructions := do
  let content ← Record.contents? fieldNames value
  let flowId ← Record.optional Value.text? (content "flow_id")
  let referenceId ← Record.defaulted "" Value.text? (content "reference_id")
  let steps ← Record.defaulted [] (Record.listOf? Step.ofValue?) (content "steps")
  let callbacks ← Record.defaulted {} Callbacks.ofValue? (content "callbacks")
  let title ← Record.optional Value.text? (content "title")
  let description ← Record.optional Value.text? (content "description")
  let metadata ← Record.defaulted [] Value.object? (content "metadata")
  return ⟨flowId, referenceId, steps, callbacks, title, description, metadata⟩

/-- Instructions as a document; texts that are not set and empty metadata are left out. -/
def toValue (instructions : Instructions) : Value :=
  .object
    (Record.textField "flow_id" instructions.flowId ++
      [("reference_id", .text instructions.referenceId),
        ("steps", .array (instructions.steps.map Step.toValue)),
        ("callbacks", instructions.callbacks.toValue)] ++
      Record.textField "title" instructions.title ++
      Record.textField "description" instructions.description ++
      if instructions.metadata.isEmpty then []
      else [("metadata", .object instructions.metadata)])

def isBlankString (content : String) : Bool :=
  Text.isBlankText content.toList

/-- The first fault of instructions, if they have one: a flow needs a reference, a step, a handler
for each step and an address to call on completion. -/
def fault? (instructions : Instructions) : Option InstructionsFault :=
  if isBlankString instructions.referenceId then some .noReference
  else if instructions.steps.isEmpty then some (.noSteps instructions.referenceId)
  else
    match instructions.steps.findIdx? fun step => isBlankString step.handler with
    | some index => some (.noHandler index)
    | none =>
      match instructions.callbacks.onComplete with
      | some address => if isBlankString address then some .noCompletionCallback else none
      | none => some .noCompletionCallback

/-- The index of the first step with a name. -/
def stepIndex? (instructions : Instructions) (name : String) : Option Nat :=
  instructions.steps.findIdx? fun step => step.name? == some name

/-- The flow id that instructions carry, if it is not blank. -/
def givenId? (instructions : Instructions) : Option String :=
  instructions.flowId.filter fun id => !isBlankString id

end Instructions

end Intake
