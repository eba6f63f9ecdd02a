import Intake.FlowTemplate.Basic
import Intake.Handlers
import Intake.Host.Basic
import Intake.Markup.Processor

/-!
# Planning flows

A planner makes flow instructions from a flow template and a source object. Steps are kept or
dropped by their conditions before it is asked whether a handler is available, and a step without
an available handler becomes a placeholder in the same place.
-/

namespace Intake

/-- What flows are planned with. -/
structure Planner where
  processor : Processor := {}
  handlers : Handlers := {}
  host : Host := {}

namespace Planner

/-- Whether a processed condition holds: text does unless it is blank, `false` or `0`, and any
other value does when it counts as true. -/
def conditionHolds : Value → Bool
  | .text content =>
    let trimmed := Text.trim content.toList
    !(trimmed = [] || LetterCase.asciiLower trimmed = "false".toList || trimmed = ['0'])
  | value => value.isTruthy

/-- What every template sees of the host. -/
def hostFields (planner : Planner) : Fields Value :=
  [("base_url", .text planner.host.baseUrl),
    ("now", .ofChars planner.host.now.offsetText),
    ("timestamp", .ofInt planner.host.now.seconds)]

/-- What a template sees before its variables: the fields of the source, the source itself, and
the host, of which the later ones win. -/
def baseContext (planner : Planner) (source : Value) : Fields Value :=
  Fields.insertAll (("source", source) :: planner.hostFields)
    (Fields.ofPairs (source.object?.getD []))

/-- A context after one more variable, which sees those before it. -/
def bindVariable (planner : Planner) (context : Fields Value) (entry : String × Value) :
    Fields Value :=
  Fields.insert entry.1 (planner.processor.processValue (.object context) entry.2) context

/-- What the steps of a template see. -/
def contextFields (planner : Planner) (template : FlowTemplate) (source : Value) :
    Fields Value :=
  template.bindings.foldl planner.bindVariable (planner.baseContext source)

/-- The context in which a template is processed. -/
def contextOf (planner : Planner) (template : FlowTemplate) (source : Value) : Value :=
  .object (planner.contextFields template source)

/-- An optional text processed; an empty one counts as none. -/
def optionalText (planner : Planner) (context : Value) (template : Option String) :
    Option String :=
  (template.map fun text => planner.processor.processText text context).filter fun text =>
    text ≠ ""

/-- Whether a step is kept by its own condition. -/
def isKept (planner : Planner) (context : Value) (step : StepTemplate) : Bool :=
  step.condition.all fun condition =>
    conditionHolds (planner.processor.processValue context condition)

/-- A field of a form, without its condition, if that condition holds. -/
def keptField? : Value → Option Value
  | .object field =>
    match Fields.get? "condition" field with
    | some condition =>
      if conditionHolds condition then some (.object (Fields.erase "condition" field)) else none
    | none => some (.object field)
  | field => some field

/-- A configuration with only those fields of its form that are kept. -/
def filterFields (config : Fields Value) : Fields Value :=
  match Fields.get? "fields" config with
  | some (.array fields) => Fields.insert "fields" (.array (fields.filterMap keptField?)) config
  | _ => config

/-- A configuration with an optional text written. -/
def withText (name : String) (content : Option String) (config : Fields Value) : Fields Value :=
  match content with
  | some text => Fields.insert name (.text text) config
  | none => config

def configOf (planner : Planner) (context : Value) (step : StepTemplate) : Fields Value :=
  let processed := planner.processor.processFields context step.config
  let titled := withText "title" (planner.optionalText context step.title) processed
  let described :=
    withText "description" (planner.optionalText context step.description) titled
  filterFields (withText "step_name" step.stepName described)

def hasFormFields (config : Fields Value) : Bool :=
  match Fields.get? "fields" config with
  | some (.array fields) => !fields.isEmpty
  | _ => false

/-- A text of a configuration, or one to use instead. -/
def configText (name fallback : String) (config : Fields Value) : String :=
  ((Fields.get? name config).bind Value.text?).getD fallback

/-- The step that stands in for one whose handler is not available. -/
def placeholder (planner : Planner) (handler : String) (config : Fields Value) : Step :=
  let title := configText "title" handler config
  { handler := Handlers.missing
    config :=
      [("step_name", .text (configText "step_name" handler config)),
        ("title", .text (title ++ " (unavailable)")),
        ("missing_handler_name", .text handler),
        ("missing_handler_title", .text title),
        ("install_hint", .text (planner.handlers.installHint handler))] }

/-- The step of a step template. A step whose condition fails has none, and neither has a form
without fields. -/
def step? (planner : Planner) (context : Value) (template : StepTemplate) : Option Step :=
  if planner.isKept context template then
    let config := planner.configOf context template
    if template.handler = Handlers.form ∧ !hasFormFields config then none
    else if planner.handlers.isAvailable template.handler then some ⟨template.handler, config⟩
    else some (planner.placeholder template.handler config)
  else none

/-- The reference of a flow: the processed one unless it is blank, or else the template's name with
a fresh id. -/
def referenceOf (planner : Planner) (context : Value) (name freshId : String)
    (template : FlowTemplate) : String :=
  ((template.referenceId.map fun text => planner.processor.processText text context).filter
    fun reference => !Text.isBlankText reference.toList).getD (name ++ "-" ++ freshId)

/-- The flow instructions of a named template for a source. The id is for a flow without a
reference of its own. -/
def plan (planner : Planner) (name freshId : String) (template : FlowTemplate) (source : Value) :
    Instructions :=
  let context := planner.contextOf template source
  { referenceId := planner.referenceOf context name freshId template
    steps := template.steps.filterMap (planner.step? context)
    callbacks :=
      { onComplete := planner.optionalText context template.callbacks.onComplete
        onCancel := planner.optionalText context template.callbacks.onCancel }
    title := planner.optionalText context template.title
    description := planner.optionalText context template.description
    metadata := [("flow_template", .text name)] }

end Planner

end Intake
