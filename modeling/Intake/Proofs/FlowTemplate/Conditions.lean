import Intake.FlowTemplate.Reader
import Intake.Proofs.FlowTemplate.Availability
import Intake.Proofs.Json.Shaped
import Intake.Proofs.Markup.Template
import Intake.Proofs.Value.Equality
import Intake.Proofs.Yaml.Shaped

/-!
# Conditions of steps and fields

A step has its condition beside its configuration, and a field of a form has its condition among its
own fields, where it is processed with the rest and then removed. One and the same condition decides
both in the same way, and the fields of a step are the processed ones whose conditions hold, in
their order. Null keeps neither a step nor a field, but a step that is read from JSON text never has
it: there null stands for no condition. From YAML a step can have it, but only from a scalar that is
null without being absent.
-/

namespace Intake

namespace StepTemplate

theorem condition_of_ofValue? {fields : Fields Value} {step : StepTemplate}
    (read : ofValue? (.object fields) = some step) :
    step.condition = Fields.get? "condition" fields := by
  simp only [ofValue?, Record.contents?, Option.bind_eq_bind, Option.bind_some,
    Option.bind_eq_some_iff, Option.pure_def, Option.some.injEq] at read
  obtain ⟨handler, -, stepName, -, title, -, description, -, config, -, rfl⟩ := read
  rfl

/-- No step that is read from JSON text has null for its condition. -/
theorem condition_ne_null_of_isRead {value : Value} {step : StepTemplate}
    (isRead : Json.IsRead shape value) (read : ofValue? value = some step) :
    step.condition ≠ some .null := by
  obtain ⟨fields, rfl, -⟩ := Json.IsRead.fields isRead
  rw [condition_of_ofValue? read]
  intro found
  -- of the fields that were read those that are optional and null are not there
  have present := (List.mem_filter.1 (Fields.mem_of_get? found)).2
  exact absurd present (by decide)

/-- A step that is read from YAML has null for its condition only if a scalar of the document is
null without being absent. -/
theorem exists_isMarkedNull_of_isRead {root : Yaml.Node} {value : Value} {step : StepTemplate}
    (isRead : root.IsRead shape value) (read : ofValue? value = some step)
    (isNull : step.condition = some .null) : ∃ node, root.Holds node ∧ node.IsMarkedNull := by
  obtain ⟨fields, rfl, isKnown⟩ := isRead.fields
  rw [condition_of_ofValue? read] at isNull
  obtain ⟨contentShape, node, levels, isShape, isFound, present, gives⟩ :=
    isKnown _ (Fields.mem_of_get? isNull)
  obtain rfl : contentShape = .optional .any := by simpa using isShape
  exact ⟨node, isFound.1, isFound.isMarkedNull (present rfl) gives⟩

end StepTemplate

namespace FlowTemplate

theorem exists_document_of_parse {format : FileFormat} {content : String}
    {template : FlowTemplate} (parsed : parse format content = .ok template) :
    ∃ document, readDocument? format content = some document ∧
      ofValue? document = some template := by
  rw [parse] at parsed
  split at parsed
  · cases parsed
  · next read found =>
    split at parsed
    · cases parsed
    · cases parsed
      exact Option.bind_eq_some_iff.1 found

/-- Every step of a template stands in the list of steps of its document. -/
theorem mem_steps_of_ofValue? {fields : Fields Value} {template : FlowTemplate}
    (read : ofValue? (.object fields) = some template) {step : StepTemplate}
    (member : step ∈ template.steps) :
    ∃ items item, Fields.get? "steps" fields = some (.array items) ∧ item ∈ items ∧
      StepTemplate.ofValue? item = some step := by
  simp only [ofValue?, Record.contents?, Option.bind_eq_bind, Option.bind_some,
    Option.bind_eq_some_iff, Option.pure_def, Option.some.injEq] at read
  obtain ⟨referenceId, -, title, -, description, -, bindings, -, steps, readSteps, callbacks, -,
    rfl⟩ := read
  cases found : Fields.get? "steps" fields with
  | none =>
    rw [found] at readSteps
    cases readSteps
    cases member
  | some listed =>
    rw [found, Record.defaulted] at readSteps
    cases listed with
    | array items =>
      obtain ⟨item, inside, readItem⟩ := exists_mem_of_mapM readSteps member
      exact ⟨items, item, rfl, inside, readItem⟩
    | _ => cases readSteps

theorem condition_ne_null_of_parse {content : String} {template : FlowTemplate}
    (parsed : parse .json content = .ok template) {step : StepTemplate}
    (member : step ∈ template.steps) : step.condition ≠ some .null := by
  obtain ⟨document, readDocument, ofDocument⟩ := exists_document_of_parse parsed
  have isRead : Json.IsRead shape document := Json.isRead_of_readShaped? readDocument
  obtain ⟨fields, rfl, isKnown⟩ := Json.IsRead.fields isRead
  obtain ⟨items, item, isSteps, inside, readItem⟩ := mem_steps_of_ofValue? ofDocument member
  -- no other field of a template has this name, so its content was read for a list of steps
  have known := isKnown _ (List.mem_filter.1 (Fields.mem_of_get? isSteps)).1
  obtain ⟨stepsShape, isShape, readSteps⟩ := known
  obtain rfl : stepsShape = .list StepTemplate.shape := by simpa using isShape
  obtain ⟨_, same, readItems⟩ := Json.IsRead.items readSteps
  cases same
  exact StepTemplate.condition_ne_null_of_isRead (readItems item inside) readItem

theorem exists_isMarkedNull_of_parse {content : String} {template : FlowTemplate}
    (parsed : parse .yaml content = .ok template) {step : StepTemplate}
    (member : step ∈ template.steps) (isNull : step.condition = some .null) :
    ∃ root node, Yaml.Node.ofText? content.toList = some root ∧ root.Holds node ∧
      node.IsMarkedNull := by
  obtain ⟨document, readDocument, ofDocument⟩ := exists_document_of_parse parsed
  obtain ⟨root, isRoot, shaped⟩ := Option.bind_eq_some_iff.1 readDocument
  obtain ⟨fields, rfl, isKnown⟩ := (Yaml.Node.isRead_of_shaped? shaped).fields
  obtain ⟨items, item, isSteps, inside, readItem⟩ := mem_steps_of_ofValue? ofDocument member
  obtain ⟨stepsShape, node, levels, isShape, isFound, -, gives⟩ :=
    isKnown _ (Fields.mem_of_get? isSteps)
  obtain rfl : stepsShape = .list StepTemplate.shape := by simpa using isShape
  have readSteps : root.IsRead (.list StepTemplate.shape) (.array items) :=
    ⟨node, levels, isFound.1, gives⟩
  obtain ⟨_, same, readItems⟩ := readSteps.items
  cases same
  obtain ⟨marked, held, isMarked⟩ :=
    StepTemplate.exists_isMarkedNull_of_isRead (readItems item inside) readItem isNull
  exact ⟨root, marked, isRoot, held, isMarked⟩

end FlowTemplate

namespace Planner

open Processor

/-- Whether a processed field of a form has no condition, or one that holds. -/
def fieldHolds : Value → Bool
  | .object field => (Fields.get? "condition" field).all conditionHolds
  | _ => true

/-- A field of a form without its condition. -/
def withoutCondition : Value → Value
  | .object field => .object (Fields.erase "condition" field)
  | field => field

theorem keptField?_eq (field : Value) :
    keptField? field = if fieldHolds field then some (withoutCondition field) else none := by
  cases field with
  | object field =>
    rw [keptField?, fieldHolds, withoutCondition]
    cases found : Fields.get? "condition" field with
    | none => simp [Fields.erase_of_get?_eq_none found]
    | some condition => rfl
  | _ => rfl

theorem isSome_keptField? (field : Value) : (keptField? field).isSome = fieldHolds field := by
  rw [keptField?_eq]
  cases fieldHolds field <;> rfl

/-- Of processed fields those whose conditions hold, in their order and without their conditions. -/
def keptFields (fields : List Value) : List Value :=
  (fields.filter fieldHolds).map withoutCondition

theorem filterMap_keptField? (fields : List Value) :
    fields.filterMap keptField? = keptFields fields := by
  rw [funext keptField?_eq, filterMap_ite, keptFields]

/-- No field that is kept has a condition left. -/
theorem has_condition_eq_false {fields : List Value}
    (distinct : (Value.array fields).hasDistinctNames) {field : Fields Value}
    (member : .object field ∈ keptFields fields) :
    Fields.has "condition" field = false := by
  obtain ⟨listed, inside, same⟩ := List.mem_map.1 member
  have listedDistinct :=
    Value.hasDistinctNames_array.1 distinct listed (List.mem_of_mem_filter inside)
  cases listed with
  | object original =>
    cases same
    exact Fields.has_erase_self (Value.hasDistinctNames_object.1 listedDistinct).1 "condition"
  | _ => cases same

/-- The fields in a configuration, if there is a list of them. -/
def formFields? (config : Fields Value) : Option (List Value) :=
  (Fields.get? "fields" config).bind Value.array?

theorem formFields?_filterFields (config : Fields Value) :
    formFields? (filterFields config) = (formFields? config).map keptFields := by
  unfold filterFields
  split
  · next fields found =>
    rw [formFields?, formFields?, Fields.get?_insert_self, found, filterMap_keptField?]
    rfl
  · next other =>
    -- the configuration stays as it is, and there is no list of fields in it
    cases listed : formFields? config with
    | none => rfl
    | some fields =>
      obtain ⟨content, found, isArray⟩ := Option.bind_eq_some_iff.1 listed
      cases content with
      | array items => exact absurd found (other items)
      | _ => cases isArray

theorem formFields?_withText {name : String} (distinct : "fields" ≠ name) (content : Option String)
    (config : Fields Value) : formFields? (withText name content config) = formFields? config := by
  cases content with
  | none => rfl
  | some text => rw [withText, formFields?, Fields.get?_insert_of_ne _ config distinct, formFields?]

theorem hasFormFields_eq (config : Fields Value) :
    hasFormFields config = (formFields? config).any fun fields => !fields.isEmpty := by
  rw [hasFormFields, formFields?]
  cases Fields.get? "fields" config with
  | none => rfl
  | some content => cases content <;> rfl

section Context

variable (planner : Planner) (context : Value)

theorem get?_processFields (name : String) (fields : Fields Value) :
    Fields.get? name (planner.processor.processFields context fields) =
      (Fields.get? name fields).map (planner.processor.processValue context) := by
  rw [processFields_eq_map, Fields.get?_map]

/-- One condition is decided in the same way for a step that has it and for a field. -/
theorem isSome_keptField?_of_condition {step : StepTemplate} {field : Fields Value}
    {condition : Value} (ofStep : step.condition = some condition)
    (ofField : Fields.get? "condition" field = some condition) :
    (keptField? (planner.processor.processValue context (.object field))).isSome =
      planner.isKept context step := by
  rw [isSome_keptField?, processValue, fieldHolds, get?_processFields, ofField, isKept, ofStep]
  rfl

theorem keptField?_null {field : Fields Value}
    (ofField : Fields.get? "condition" field = some .null) :
    keptField? (planner.processor.processValue context (.object field)) = none := by
  rw [keptField?_eq, processValue, fieldHolds, get?_processFields, ofField]
  rfl

theorem formFields?_processFields (config : Fields Value) :
    formFields? (planner.processor.processFields context config) =
      (formFields? config).map fun items =>
        items.map (planner.processor.processValue context) := by
  rw [formFields?, get?_processFields, formFields?]
  cases Fields.get? "fields" config with
  | none => rfl
  | some content =>
    cases content with
    | array items => exact congrArg some (processItems_eq_map _ _ items)
    | _ => rfl

/-- The fields of a step are the processed ones of its template that are kept. -/
theorem formFields?_configOf (step : StepTemplate) :
    formFields? (planner.configOf context step) =
      (formFields? step.config).map fun items =>
        keptFields (items.map (planner.processor.processValue context)) := by
  rw [configOf, formFields?_filterFields, formFields?_withText (by decide),
    formFields?_withText (by decide), formFields?_withText (by decide),
    formFields?_processFields, Option.map_map]
  rfl

theorem hasFormFields_configOf_eq_false_iff (step : StepTemplate) :
    hasFormFields (planner.configOf context step) = false ↔
      ∀ items, formFields? step.config = some items →
        keptFields (items.map (planner.processor.processValue context)) = [] := by
  rw [hasFormFields_eq, formFields?_configOf]
  cases formFields? step.config <;> simp

/-- A step is left out if its condition fails or if it is a form of which no field is kept. -/
theorem step?_eq_none_iff (step : StepTemplate) :
    planner.step? context step = none ↔
      planner.isKept context step = false ∨
        step.handler = Handlers.form ∧ ∀ items, formFields? step.config = some items →
          keptFields (items.map (planner.processor.processValue context)) = [] := by
  rw [← hasFormFields_configOf_eq_false_iff, step?_eq, isShown]
  cases planner.isKept context step with
  | false => simp
  | true => by_cases isForm : step.handler = Handlers.form <;> simp [isForm]

theorem formFields?_of_step? {step : StepTemplate} {built : Step}
    (shown : planner.step? context step = some built)
    (available : planner.canShow step.handler = true) :
    formFields? built.config = (formFields? step.config).map fun items =>
      keptFields (items.map (planner.processor.processValue context)) := by
  rw [step?_eq, shownStep_of_canShow planner context available] at shown
  obtain ⟨-, same⟩ := Option.ite_none_right_eq_some.1 shown
  cases same
  exact planner.formFields?_configOf context step

theorem hasDistinctNames_processed {step : StepTemplate} {items : List Value}
    (distinct : (Value.object step.config).hasDistinctNames)
    (listed : formFields? step.config = some items) :
    (Value.array (items.map (planner.processor.processValue context))).hasDistinctNames := by
  obtain ⟨content, found, isArray⟩ := Option.bind_eq_some_iff.1 listed
  have contentDistinct := (Value.hasDistinctNames_object.1 distinct).2 _ (Fields.mem_of_get? found)
  cases content with
  | array items =>
    cases isArray
    rw [← processItems_eq_map, ← processValue, processValue_eq_mapTexts]
    exact Value.hasDistinctNames_mapTexts _ contentDistinct
  | _ => cases isArray

/-- A condition keeps a field exactly if it keeps a step that has the same one. A field with null
for its condition is left out, but a step that is read from JSON text does not have null for its
condition, and one that is read from YAML has it only if the document has a number that is not
finite or a text that its tag alone makes null. A step without a condition is kept. The fields of a
step are those processed fields of its template that are kept, in their order and without their
conditions. A step is left out exactly if its condition fails, or if it is a form and none of its
fields is kept. -/
theorem kept_by_condition :
    (∀ (step : StepTemplate) (field : Fields Value) (condition : Value),
        step.condition = some condition → Fields.get? "condition" field = some condition →
        (keptField? (planner.processor.processValue context (.object field))).isSome =
          planner.isKept context step) ∧
      (∀ field : Fields Value, Fields.get? "condition" field = some .null →
        keptField? (planner.processor.processValue context (.object field)) = none) ∧
      (∀ (content : String) (template : FlowTemplate),
        FlowTemplate.parse .json content = .ok template →
        ∀ step ∈ template.steps, step.condition ≠ some .null) ∧
      (∀ (content : String) (template : FlowTemplate),
        FlowTemplate.parse .yaml content = .ok template →
        ∀ step ∈ template.steps, step.condition = some .null →
          ∃ root node, Yaml.Node.ofText? content.toList = some root ∧ root.Holds node ∧
            node.IsMarkedNull) ∧
      (∀ step : StepTemplate, step.condition = none → planner.isKept context step = true) ∧
      (∀ (step : StepTemplate) (built : Step), planner.step? context step = some built →
        planner.canShow step.handler = true →
        formFields? built.config = (formFields? step.config).map fun items =>
          keptFields (items.map (planner.processor.processValue context))) ∧
      (∀ (step : StepTemplate) (items : List Value),
        (Value.object step.config).hasDistinctNames → formFields? step.config = some items →
        ∀ field, .object field ∈ keptFields (items.map (planner.processor.processValue context)) →
          Fields.has "condition" field = false) ∧
      ∀ step : StepTemplate, planner.step? context step = none ↔
        planner.isKept context step = false ∨
          step.handler = Handlers.form ∧ ∀ items, formFields? step.config = some items →
            keptFields (items.map (planner.processor.processValue context)) = [] := by
  refine ⟨?_, ?_, ?_, ?_, ?_, ?_, ?_, planner.step?_eq_none_iff context⟩
  · intro step field condition ofStep ofField
    exact planner.isSome_keptField?_of_condition context ofStep ofField
  · intro field ofField
    exact planner.keptField?_null context ofField
  · intro content template parsed step member
    exact FlowTemplate.condition_ne_null_of_parse parsed member
  · intro content template parsed step member isNull
    exact FlowTemplate.exists_isMarkedNull_of_parse parsed member isNull
  · intro step unconditional
    rw [isKept, unconditional]
    rfl
  · intro step built shown available
    exact planner.formFields?_of_step? context shown available
  · intro step items distinct listed field member
    have processed := planner.hasDistinctNames_processed context distinct listed
    exact has_condition_eq_false processed member

end Context

/-- A form that has null for its condition, as the first of its fields does. -/
def pollText : String :=
  "\x7b\"steps\":[\x7b\"handler\":\"form\",\"condition\":null,\"config\":\x7b\"fields\":" ++
    "[\x7b\"name\":\"x\",\"condition\":null\x7d,\x7b\"name\":\"y\"\x7d]\x7d\x7d]\x7d"

/-- A form whose condition is a number that has no value. -/
def endlessText : String :=
  "steps:\n- handler: form\n  condition: .inf\n"

def pollPlanner : Planner :=
  { handlers := { available := ["form"] } }

def emailField : Fields Value :=
  [("name", .text "email"), ("condition", .text "{{ wants_email }}")]

def faxField : Fields Value :=
  [("name", .text "fax"), ("condition", .null)]

/-- A form with the condition that one of its fields has. -/
def emailStep : StepTemplate :=
  { handler := "form"
    condition := some (.text "{{ wants_email }}")
    title := some "Contact"
    config := [("fields", .array
      [.text "Where do we reach you?", .object faxField, .object emailField])] }

theorem kept_by_condition_poll :
    let context : Value := .object [("wants_email", .text "yes")]
    let process := pollPlanner.processor.processValue context
    (keptField? (process (.object emailField))).isSome = pollPlanner.isKept context emailStep ∧
      keptField? (process (.object faxField)) = none ∧
      (∃ template, FlowTemplate.parse .json pollText = .ok template ∧
        ∀ step ∈ template.steps, step.condition ≠ some .null) ∧
      (∃ template step, FlowTemplate.parse .yaml endlessText = .ok template ∧
        step ∈ template.steps ∧ step.condition = some .null ∧
        ∃ root node, Yaml.Node.ofText? endlessText.toList = some root ∧ root.Holds node ∧
          node.IsMarkedNull) ∧
      pollPlanner.isKept context { handler := "form" } = true ∧
      (Value.object emailStep.config).hasDistinctNames = true ∧
      ∃ built, pollPlanner.step? context emailStep = some built ∧
        formFields? built.config =
          some [.text "Where do we reach you?", .object [("name", .text "email")]] ∧
        Fields.has "condition" [("name", Value.text "email")] = false := by
  intro context process
  obtain ⟨same, null, read, marked, unconditional, fields, erased, dropped⟩ :=
    pollPlanner.kept_by_condition context
  have listed : formFields? emailStep.config =
      some [.text "Where do we reach you?", .object faxField, .object emailField] := rfl
  have kept : keptFields (List.map process
      [.text "Where do we reach you?", .object faxField, .object emailField]) =
      [.text "Where do we reach you?", .object [("name", .text "email")]] := by
    decide +kernel
  have distinct : (Value.object emailStep.config).hasDistinctNames = true := by decide
  have isRead : (FlowTemplate.parse .json pollText).toOption.isSome := by decide +kernel
  obtain ⟨template, isTemplate⟩ := Option.isSome_iff_exists.1 isRead
  have parsed := eq_ok_of_toOption isTemplate
  have isNull : ((FlowTemplate.parse .yaml endlessText).toOption.bind fun template =>
      template.steps.head?).map StepTemplate.condition = some (some .null) := by decide +kernel
  obtain ⟨step, isFirst, isNull⟩ := Option.map_eq_some_iff.1 isNull
  obtain ⟨endless, isEndless, isFirst⟩ := Option.bind_eq_some_iff.1 isFirst
  have parsedEndless := eq_ok_of_toOption isEndless
  have member := List.mem_of_head? isFirst
  have isShown : pollPlanner.step? context emailStep ≠ none := by
    rw [Ne, dropped]
    rintro (fails | ⟨-, nothing⟩)
    · exact absurd fails (by decide +kernel)
    · rw [nothing _ listed] at kept
      cases kept
  obtain ⟨built, shown⟩ := Option.ne_none_iff_exists'.1 isShown
  refine ⟨same emailStep emailField _ rfl rfl, null faxField rfl,
    ⟨template, parsed, read pollText template parsed⟩,
    ⟨endless, step, parsedEndless, member, isNull,
      marked endlessText endless parsedEndless step member isNull⟩,
    unconditional _ rfl, distinct, built, shown, ?_, ?_⟩
  · rw [fields emailStep built shown (by decide), listed, Option.map_some, kept]
  · exact erased emailStep _ distinct listed _ (kept ▸ by simp)

/-- Of a step and a field with null for their conditions the field alone is left out. -/
theorem null_keeps_only_the_step :
    (FlowTemplate.parse .json pollText).toOption.map (fun template =>
        (pollPlanner.plan "poll" "1" template (.object [])).steps.map fun step =>
          (step.handler, step.config)) =
      some [("form", [("fields", .array [.object [("name", .text "y")]])])] := by
  decide +kernel

end Planner

end Intake
