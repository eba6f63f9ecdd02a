import Intake.FlowTemplate.Planner

/-!
# Plans under different handlers

Whether a step of a template takes part in a flow is decided before it is asked who can show it. So
plans that are made with different handlers have the same steps in the same places, and differ only
in which of them are placeholders. A placeholder keeps the name of the step it stands in for.
-/

namespace Intake

/-- What is kept and changed in one pass is filtered first and then changed. -/
theorem filterMap_ite {α β : Type} (kept : α → Bool) (change : α → β) (items : List α) :
    (items.filterMap fun item => if kept item then some (change item) else none) =
      (items.filter kept).map change := by
  induction items with
  | nil => rfl
  | cons item others ih =>
    rw [List.filterMap_cons, ih]
    cases isKept : kept item with
    | true =>
      rw [List.filter_cons_of_pos isKept]
      rfl
    | false =>
      rw [List.filter_cons_of_neg (by simp [isKept])]
      rfl

namespace Planner

variable (planner : Planner)

/-- The planner with other handlers available, and the same pattern of hints. -/
def withAvailable (available : List String) : Planner :=
  { planner with handlers := { planner.handlers with available := available } }

def canShow (handler : String) : Bool :=
  planner.handlers.isAvailable handler

section Steps

variable (context : Value)

/-- Whether a step takes part in a flow: its condition holds and, if it is a form, a field is
left. -/
def isShown (step : StepTemplate) : Bool :=
  planner.isKept context step &&
    (step.handler ≠ Handlers.form || hasFormFields (planner.configOf context step))

/-- The step that a template describes. -/
def describedStep (step : StepTemplate) : Step :=
  ⟨step.handler, planner.configOf context step⟩

/-- The step in the place of one that takes part. -/
def shownStep (step : StepTemplate) : Step :=
  if planner.canShow step.handler then planner.describedStep context step
  else planner.placeholder step.handler (planner.configOf context step)

theorem step?_eq (step : StepTemplate) :
    planner.step? context step =
      if planner.isShown context step then some (planner.shownStep context step) else none := by
  cases kept : planner.isKept context step with
  | false => simp [step?, isShown, kept]
  | true =>
    by_cases dropped : step.handler = Handlers.form ∧
        (!hasFormFields (planner.configOf context step)) = true
    · simp_all [step?, isShown]
    · have shown : planner.isShown context step = true := by
        simpa [isShown, kept, Decidable.imp_iff_not_or] using dropped
      simp only [step?, kept, dropped, shown, ↓reduceIte]
      rw [shownStep, canShow, apply_ite some]
      rfl

theorem shownStep_of_canShow {step : StepTemplate} (available : planner.canShow step.handler) :
    planner.shownStep context step = planner.describedStep context step :=
  if_pos available

theorem filterMap_step? (steps : List StepTemplate) :
    steps.filterMap (planner.step? context) =
      (steps.filter (planner.isShown context)).map (planner.shownStep context) := by
  rw [funext (planner.step?_eq context), filterMap_ite]

end Steps

/-- The steps of a template that take part in its flow. -/
def shownSteps (template : FlowTemplate) (source : Value) : List StepTemplate :=
  template.steps.filter (planner.isShown (planner.contextOf template source))

theorem steps_plan (name freshId : String) (template : FlowTemplate) (source : Value) :
    (planner.plan name freshId template source).steps =
      (planner.shownSteps template source).map
        (planner.shownStep (planner.contextOf template source)) :=
  planner.filterMap_step? _ template.steps

/-- A placeholder stands in for a step: it says which handler is missing, and it has the name of
the step if the step has one. -/
structure StandsIn (placeholder step : Step) : Prop where
  handler : placeholder.handler = Handlers.missing
  named : Fields.get? "missing_handler_name" placeholder.config = some (.text step.handler)
  stepName : ∀ stepName, step.name? = some stepName → placeholder.name? = some stepName

theorem configText_of_text {name text : String} (fallback : String) {config : Fields Value}
    (found : (Fields.get? name config).bind Value.text? = some text) :
    configText name fallback config = text := by
  rw [configText, found, Option.getD_some]

theorem standsIn_of_not_canShow (context : Value) {step : StepTemplate}
    (unavailable : planner.canShow step.handler = false) :
    StandsIn (planner.shownStep context step) (planner.describedStep context step) := by
  have stands : planner.shownStep context step =
      planner.placeholder step.handler (planner.configOf context step) := by
    rw [shownStep, unavailable]
    rfl
  rw [stands]
  refine ⟨rfl, rfl, ?_⟩
  intro stepName found
  have kept := configText_of_text step.handler found
  exact congrArg some kept

/-- The steps of two plans in the place of one template step. -/
structure Corresponds (first second : Planner) (context : Value) (step : StepTemplate)
    (left right : Step) : Prop where
  same : first.canShow step.handler = second.canShow step.handler → left = right
  shownFirst : first.canShow step.handler = true → second.canShow step.handler = false →
    left = first.describedStep context step ∧ StandsIn right left
  shownSecond : first.canShow step.handler = false → second.canShow step.handler = true →
    right = second.describedStep context step ∧ StandsIn left right

theorem corresponds_shownStep (first second : List String) (context : Value)
    (step : StepTemplate) :
    Corresponds (planner.withAvailable first) (planner.withAvailable second) context step
      ((planner.withAvailable first).shownStep context step)
      ((planner.withAvailable second).shownStep context step) := by
  constructor
  · intro agree
    rw [shownStep, shownStep, agree]
    rfl
  · intro available missing
    have described := (planner.withAvailable first).shownStep_of_canShow context available
    have standsIn := (planner.withAvailable second).standsIn_of_not_canShow context missing
    exact ⟨described, described ▸ standsIn⟩
  · intro missing available
    have described := (planner.withAvailable second).shownStep_of_canShow context available
    have standsIn := (planner.withAvailable first).standsIn_of_not_canShow context missing
    exact ⟨described, described ▸ standsIn⟩

/-- A reference that the template writes does not need a fresh id. -/
theorem referenceOf_of_written {context : Value} {template : FlowTemplate} {text : String}
    (referenced : template.referenceId = some text)
    (written : Text.isBlankText (planner.processor.processText text context).toList = false)
    (name freshId : String) :
    planner.referenceOf context name freshId template =
      planner.processor.processText text context := by
  rw [referenceOf, referenced, Option.map_some, Option.filter_some, written]
  rfl

/-- Plans with a written reference under two sets of handlers agree in everything but their steps,
and have the same steps of the template in the same places. -/
theorem plan_withAvailable (first second : List String) (name firstId secondId : String)
    {template : FlowTemplate} {source : Value} {text : String}
    (referenced : template.referenceId = some text)
    (written : Text.isBlankText
      (planner.processor.processText text (planner.contextOf template source)).toList = false) :
    let context := planner.contextOf template source
    let shown := planner.shownSteps template source
    let left := (planner.withAvailable first).plan name firstId template source
    let right := (planner.withAvailable second).plan name secondId template source
    { left with steps := [] } = { right with steps := [] } ∧
      left.steps.length = shown.length ∧ right.steps.length = shown.length ∧
      ∀ (index : Nat) (step : StepTemplate), shown[index]? = some step →
        ∃ leftStep rightStep, left.steps[index]? = some leftStep ∧
          right.steps[index]? = some rightStep ∧
          Corresponds (planner.withAvailable first) (planner.withAvailable second) context step
            leftStep rightStep := by
  intro context shown left right
  have leftSteps : left.steps = shown.map ((planner.withAvailable first).shownStep context) :=
    (planner.withAvailable first).steps_plan name firstId template source
  have rightSteps : right.steps = shown.map ((planner.withAvailable second).shownStep context) :=
    (planner.withAvailable second).steps_plan name secondId template source
  have reference : left.referenceId = right.referenceId := by
    calc
      left.referenceId = planner.processor.processText text context :=
        (planner.withAvailable first).referenceOf_of_written referenced written name firstId
      _ = right.referenceId :=
        ((planner.withAvailable second).referenceOf_of_written referenced written name
          secondId).symm
  refine ⟨?_, ?_, ?_, ?_⟩
  · exact congrArg (fun reference => { left with steps := [], referenceId := reference }) reference
  · rw [leftSteps, List.length_map]
  · rw [rightSteps, List.length_map]
  · intro index step found
    refine ⟨_, _, ?_, ?_, planner.corresponds_shownStep first second context step⟩
    · rw [leftSteps, List.getElem?_map, found, Option.map_some]
    · rw [rightSteps, List.getElem?_map, found, Option.map_some]

def walletStep : StepTemplate :=
  { handler := "form"
    stepName := some "wallet"
    config := [("fields", .array
      [.object [("name", .text "mobile")],
        .object [("name", .text "email"), ("condition", .text "{{ wants_email }}")]])] }

def identityStep : StepTemplate :=
  { handler := "kyc", stepName := some "identity", title := some "Check of {{ code }}" }

def redeemTemplate : FlowTemplate :=
  { referenceId := some "redeem-{{ code }}"
    steps :=
      [walletStep, identityStep,
        { handler := "selfie", condition := some (.text "{{ wants_selfie }}") }] }

def redeemSource : Value :=
  .object [("code", .text "K9"), ("wants_email", .bool false), ("wants_selfie", .bool false)]

/-- With the check of identity missing on one side, both plans have it in the second place. -/
theorem plan_withAvailable_redeem :
    let planner : Planner := {}
    let context := planner.contextOf redeemTemplate redeemSource
    let left := (planner.withAvailable ["form"]).plan "redeem" "1" redeemTemplate redeemSource
    let right := (planner.withAvailable ["kyc"]).plan "redeem" "2" redeemTemplate redeemSource
    redeemTemplate.referenceId = some "redeem-{{ code }}" ∧
      Text.isBlankText
        (planner.processor.processText "redeem-{{ code }}" context).toList = false ∧
      left.referenceId = right.referenceId ∧ left.steps.length = 2 ∧ right.steps.length = 2 ∧
      ∃ leftStep rightStep, left.steps[1]? = some leftStep ∧ right.steps[1]? = some rightStep ∧
        rightStep.handler = "kyc" ∧ StandsIn leftStep rightStep ∧
        leftStep.name? = some "identity" := by
  intro planner context left right
  have referenced : redeemTemplate.referenceId = some "redeem-{{ code }}" := rfl
  have written : Text.isBlankText
      (planner.processor.processText "redeem-{{ code }}" context).toList = false := by
    decide +kernel
  obtain ⟨rest, leftLength, rightLength, each⟩ :=
    planner.plan_withAvailable ["form"] ["kyc"] "redeem" "1" "2" referenced written
  have takePart : redeemTemplate.steps.map (planner.isShown context) = [true, true, false] := by
    decide +kernel
  simp only [redeemTemplate, List.map_cons, List.map_nil, List.cons.injEq, and_true] at takePart
  obtain ⟨wallet, identity, selfie⟩ := takePart
  have shown : planner.shownSteps redeemTemplate redeemSource = [walletStep, identityStep] := by
    change List.filter (planner.isShown context) _ = _
    simp [redeemTemplate, wallet, identity, selfie]
  rw [shown] at leftLength rightLength each
  obtain ⟨leftStep, rightStep, leftFound, rightFound, corresponds⟩ := each 1 identityStep rfl
  obtain ⟨described, standsIn⟩ := corresponds.shownSecond (by decide) (by decide)
  have named : rightStep.name? = some "identity" := by
    rw [described]
    decide +kernel
  have handler : rightStep.handler = "kyc" := by
    rw [described]
    rfl
  have reference := congrArg Instructions.referenceId rest
  exact ⟨referenced, written, reference, leftLength, rightLength, leftStep, rightStep, leftFound,
    rightFound, handler, standsIn, standsIn.stepName _ named⟩

end Planner

end Intake
