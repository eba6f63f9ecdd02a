import Intake.Mapping.Engine
import Mathlib.Data.List.Basic

/-!
# Outcomes of drivers

What a driver can answer, and in which order it decides: first whether its target is known, then
whether the flow is suppressed, and only then what the target makes of the record. Conditions on
steps leave a record as it is but for its steps, of which those stay, in their order, for which all
conditions hold; so conditions can be applied one list after the other, and more of them keep fewer
steps.
-/

namespace Intake

namespace TargetTable

/-- Targets that are the one of flow instructions or take every record as it is. -/
def IsStandard (targets : TargetTable) : Prop :=
  ∀ entry ∈ targets, entry.2 = Target.instructions ∨ entry.2 = Target.passthrough

theorem exists_mem_of_resolve? {targets : TargetTable} {name : String} {target : Target}
    (resolved : targets.resolve? name = some target) : ∃ key, (key, target) ∈ targets := by
  rw [resolve?] at resolved
  split at resolved
  · next found => exact ⟨_, Fields.mem_of_get? (resolved ▸ found)⟩
  · exact ⟨_, Fields.mem_of_get? resolved⟩

/-- A standard target never says that a target is unknown. -/
theorem IsStandard.ne_unresolved {targets : TargetTable} (standard : targets.IsStandard)
    {name : String} {target : Target} (resolved : targets.resolve? name = some target)
    (record : Value) (other : String) : target record ≠ .error (.unresolvedTarget other) := by
  obtain ⟨key, member⟩ := exists_mem_of_resolve? resolved
  rcases standard _ member with rfl | rfl
  · rw [Target.instructions]
    split <;> simp
  · simp [Target.passthrough]

end TargetTable

namespace Engine

variable (engine : Engine)

section Steps

variable (context : Context)

/-- A list of steps with only those for which all conditions hold; any other content as it is. -/
def keptContent (conditions : List Condition) : Value → Value
  | .array steps =>
    .array (steps.filter fun step =>
      ∀ condition ∈ conditions,
        condition.evaluate engine.renderer (context.bind "item" step) = true)
  | value => value

/-- The steps of a record, if it has a list of them. -/
def stepsOf (record : Value) : List Value :=
  ((record.field? "steps").bind Value.array?).getD []

theorem keptContent_array (conditions : List Condition) (steps : List Value) :
    engine.keptContent context conditions (.array steps) =
      .array (steps.filter (engine.keepsStep conditions context)) := by
  have same : ∀ step ∈ steps,
      decide (∀ condition ∈ conditions,
        condition.evaluate engine.renderer (context.bind "item" step) = true) =
          engine.keepsStep conditions context step := by
    intro step _
    rw [keepsStep, Bool.eq_iff_iff, decide_eq_true_eq, List.all_eq_true]
    rfl
  rw [keptContent, List.filter_congr same]

theorem filterSteps_of_array (conditions : List Condition) {record : Fields Value}
    {steps : List Value} (found : Fields.get? "steps" record = some (.array steps)) :
    engine.filterSteps conditions context record =
      Fields.insert "steps" (.array (steps.filter (engine.keepsStep conditions context)))
        record := by
  rw [filterSteps, found]

theorem filterSteps_of_not_array (conditions : List Condition) {record : Fields Value}
    (none : ∀ steps, Fields.get? "steps" record ≠ some (.array steps)) :
    engine.filterSteps conditions context record = record := by
  rw [filterSteps]
  split
  · next steps found => exact absurd found (none steps)
  · rfl

theorem names_filterSteps (conditions : List Condition) (record : Fields Value) :
    Fields.names (engine.filterSteps conditions context record) = Fields.names record := by
  rw [filterSteps]
  split
  · next steps found => exact Fields.names_insert_of_get? _ found
  · rfl

theorem get?_filterSteps_of_ne (conditions : List Condition) (record : Fields Value)
    {name : String} (other : name ≠ "steps") :
    Fields.get? name (engine.filterSteps conditions context record) = Fields.get? name record := by
  rw [filterSteps]
  split
  · exact Fields.get?_insert_of_ne _ record other
  · rfl

theorem get?_filterSteps (conditions : List Condition) (record : Fields Value) :
    Fields.get? "steps" (engine.filterSteps conditions context record) =
      (Fields.get? "steps" record).map (engine.keptContent context conditions) := by
  rw [filterSteps]
  split
  · next steps found => rw [Fields.get?_insert_self, found, Option.map_some,
      keptContent_array]
  · next none =>
    cases found : Fields.get? "steps" record with
    | none => rfl
    | some content =>
      cases content with
      | array steps => exact absurd found (none steps)
      | null | bool | number | text | object => rfl

theorem keepsStep_append (first second : List Condition) (step : Value) :
    engine.keepsStep (first ++ second) context step =
      (engine.keepsStep first context step && engine.keepsStep second context step) :=
  List.all_append

/-- Conditions on steps can be applied one list after the other. -/
theorem filterSteps_append (first second : List Condition) (record : Fields Value) :
    engine.filterSteps (first ++ second) context record =
      engine.filterSteps second context (engine.filterSteps first context record) := by
  by_cases listed : ∃ steps, Fields.get? "steps" record = some (.array steps)
  · obtain ⟨steps, found⟩ := listed
    have fused : steps.filter (engine.keepsStep (first ++ second) context) =
        (steps.filter (engine.keepsStep first context)).filter
          (engine.keepsStep second context) := by
      rw [List.filter_filter]
      apply List.filter_congr
      intro step _
      rw [keepsStep_append, Bool.and_comm]
    rw [engine.filterSteps_of_array context _ found, engine.filterSteps_of_array context _ found,
      engine.filterSteps_of_array context _ (Fields.get?_insert_self _ _ _),
      Fields.insert_insert, fused]
  · rw [not_exists] at listed
    rw [engine.filterSteps_of_not_array context _ listed,
      engine.filterSteps_of_not_array context _ listed,
      engine.filterSteps_of_not_array context _ listed]

theorem stepsOf_filterSteps (conditions : List Condition) (record : Fields Value) :
    stepsOf (.object (engine.filterSteps conditions context record)) =
      (stepsOf (.object record)).filter (engine.keepsStep conditions context) := by
  rw [stepsOf, stepsOf, Value.field?, Value.field?, get?_filterSteps]
  cases Fields.get? "steps" record with
  | none => rfl
  | some content =>
    cases content with
    | array steps => rw [Option.map_some, keptContent_array]; rfl
    | null | bool | number | text | object => rfl

theorem keepsStep_mono {fewer more : List Condition} (included : fewer ⊆ more) {step : Value}
    (kept : engine.keepsStep more context step = true) :
    engine.keepsStep fewer context step = true := by
  rw [keepsStep, List.all_eq_true] at kept ⊢
  exact fun condition member => kept condition (included member)

/-- More conditions keep fewer steps, unchanged and in the same order. -/
theorem sublist_stepsOf_filterSteps {fewer more : List Condition} (included : fewer ⊆ more)
    (record : Fields Value) :
    (stepsOf (.object (engine.filterSteps more context record))).Sublist
      (stepsOf (.object (engine.filterSteps fewer context record))) := by
  rw [stepsOf_filterSteps, stepsOf_filterSteps]
  apply List.monotone_filter_right
  intro step kept
  exact engine.keepsStep_mono context included kept

end Steps

/-- The record that a target gets. -/
def targetRecord (driver : Driver) (source : Value) : Fields Value :=
  engine.filterSteps driver.filters.steps (engine.contextOf driver source)
    (engine.record driver (engine.contextOf driver source))

variable {driver : Driver} {source : Value}

theorem transform_of_unresolved
    (unresolved : engine.targets.resolve? driver.target = none) :
    engine.transform driver source = .error (.unresolvedTarget driver.target) := by
  rw [transform, TargetTable.resolve, unresolved]
  rfl

/-- What an engine answers when the driver's target is known. -/
theorem transform_of_resolved {target : Target}
    (resolved : engine.targets.resolve? driver.target = some target) :
    engine.transform driver source =
      if engine.isSuppressed driver (engine.contextOf driver source) then .ok none
      else (target (.object (engine.targetRecord driver source))).map some := by
  have found : engine.targets.resolve driver.target = .ok target := by
    rw [TargetTable.resolve, resolved]
  rw [transform, found]
  cases suppressed : engine.isSuppressed driver (engine.contextOf driver source) with
  | true => simp [bind, Except.bind, suppressed, pure, Except.pure]
  | false =>
    simp only [bind, Except.bind, suppressed, Bool.false_eq_true, ↓reduceIte, targetRecord]
    cases target _ <;> rfl

/-- A flow is suppressed by some condition of the driver, and never by its target. -/
theorem transform_eq_none_iff {target : Target}
    (resolved : engine.targets.resolve? driver.target = some target) :
    engine.transform driver source = .ok none ↔
      ∃ condition ∈ driver.filters.skipFlowIf,
        condition.evaluate engine.renderer (engine.contextOf driver source) = true := by
  have some_condition : engine.isSuppressed driver (engine.contextOf driver source) = true ↔
      ∃ condition ∈ driver.filters.skipFlowIf,
        condition.evaluate engine.renderer (engine.contextOf driver source) = true :=
    List.any_eq_true
  rw [engine.transform_of_resolved resolved, ← some_condition]
  cases engine.isSuppressed driver (engine.contextOf driver source) with
  | true => simp
  | false =>
    simp only [Bool.false_eq_true, ↓reduceIte, iff_false]
    cases target _ <;> simp [Except.map]

theorem transform_eq_unresolved_iff (standard : engine.targets.IsStandard) (name : String) :
    engine.transform driver source = .error (.unresolvedTarget name) ↔
      engine.targets.resolve? driver.target = none ∧ name = driver.target := by
  cases resolved : engine.targets.resolve? driver.target with
  | none =>
    rw [engine.transform_of_unresolved resolved]
    simp [eq_comm]
  | some target =>
    simp only [reduceCtorEq, false_and, iff_false]
    rw [engine.transform_of_resolved resolved]
    split
    · simp
    · have known := standard.ne_unresolved resolved
        (.object (engine.targetRecord driver source)) name
      cases made : target _ with
      | error fault =>
        intro same
        rw [Except.map, Except.error.injEq] at same
        exact known (made.trans (congrArg Except.error same))
      | ok value => simp [Except.map]

end Engine

namespace Driver

/-- The driver with other conditions on its steps. -/
def withStepConditions (driver : Driver) (conditions : List Condition) : Driver :=
  { driver with filters := { driver.filters with steps := conditions } }

end Driver

namespace Engine

variable (engine : Engine) (driver : Driver) (source : Value)

/-- The record that a target gets: the field of each rule has what the rule yields, and of a list
of steps those are left for which all conditions on steps hold. -/
structure Maps (record : Fields Value) : Prop where
  names : Fields.names record = driver.mappings.map Prod.fst
  other : ∀ name, name ≠ "steps" →
    Fields.get? name record = (driver.mapping? name).map fun rule =>
      engine.value driver rule (engine.contextOf driver source)
  steps : Fields.get? "steps" record = (driver.mapping? "steps").map fun rule =>
    engine.keptContent (engine.contextOf driver source) driver.filters.steps
      (engine.value driver rule (engine.contextOf driver source))

theorem get?_record (context : Context) (name : String) :
    Fields.get? name (engine.record driver context) =
      (driver.mapping? name).map fun rule => engine.value driver rule context :=
  Fields.get?_map (fun rule => engine.value driver rule context) name driver.mappings

theorem maps_targetRecord :
    engine.Maps driver source (engine.targetRecord driver source) := by
  constructor
  · rw [targetRecord, names_filterSteps, Fields.names, record, List.map_map]
    rfl
  · intro name other
    rw [targetRecord, engine.get?_filterSteps_of_ne _ _ _ other, get?_record]
  · rw [targetRecord, get?_filterSteps, get?_record, Option.map_map]
    rfl

/-- The record of an answer with only those of its steps for which all conditions hold. -/
def refilter (conditions : List Condition) : Value → Value
  | .object record =>
    .object (engine.filterSteps conditions (engine.contextOf driver source) record)
  | value => value

section Passthrough

variable {driver} (passes : engine.targets.resolve? driver.target = some Target.passthrough)
include passes

theorem transform_withStepConditions (conditions : List Condition) :
    engine.transform (driver.withStepConditions conditions) source =
      if engine.isSuppressed driver (engine.contextOf driver source) then .ok none
      else
        .ok (some (.object (engine.filterSteps conditions (engine.contextOf driver source)
          (engine.record driver (engine.contextOf driver source))))) := by
  have resolved : engine.targets.resolve? (driver.withStepConditions conditions).target =
      some Target.passthrough := passes
  exact engine.transform_of_resolved resolved

theorem transform_append (first second : List Condition) :
    engine.transform (driver.withStepConditions (first ++ second)) source =
      (engine.transform (driver.withStepConditions first) source).map
        (Option.map (engine.refilter driver source second)) := by
  rw [engine.transform_withStepConditions source passes,
    engine.transform_withStepConditions source passes, filterSteps_append]
  cases engine.isSuppressed driver (engine.contextOf driver source) <;> rfl

theorem exists_transform_of_subset {fewer more : List Condition} (included : fewer ⊆ more)
    {record : Value}
    (answered : engine.transform (driver.withStepConditions more) source = .ok (some record)) :
    ∃ larger, engine.transform (driver.withStepConditions fewer) source = .ok (some larger) ∧
      (stepsOf record).Sublist (stepsOf larger) := by
  rw [engine.transform_withStepConditions source passes] at answered ⊢
  cases suppressed : engine.isSuppressed driver (engine.contextOf driver source) with
  | true => simp [suppressed] at answered
  | false =>
    simp only [suppressed, Bool.false_eq_true, ↓reduceIte, Except.ok.injEq,
      Option.some.injEq] at answered ⊢
    subst answered
    exact ⟨_, rfl, engine.sublist_stepsOf_filterSteps _ included _⟩

end Passthrough

/-- What an engine with standard targets answers: that the target is unknown, whatever the filters
are; or that the flow is suppressed, whatever the target is; or what the target makes of the record.
With a target that takes every record, conditions on steps can be applied one list after the other,
and more of them keep fewer steps, unchanged and in the same order. -/
theorem transform_outcomes (standard : engine.targets.IsStandard) :
    (∀ name, engine.transform driver source = .error (.unresolvedTarget name) ↔
        engine.targets.resolve? driver.target = none ∧ name = driver.target) ∧
      (∀ targets : TargetTable, targets.resolve? driver.target ≠ none →
        (({ engine with targets := targets } : Engine).transform driver source = .ok none ↔
          ∃ condition ∈ driver.filters.skipFlowIf,
            condition.evaluate engine.renderer (engine.contextOf driver source) = true)) ∧
      (∀ target, engine.targets.resolve? driver.target = some target →
        (∀ condition ∈ driver.filters.skipFlowIf,
          condition.evaluate engine.renderer (engine.contextOf driver source) = false) →
        ∃ record, engine.Maps driver source record ∧
          engine.transform driver source = (target (.object record)).map some) ∧
      (engine.targets.resolve? driver.target = some Target.passthrough →
        (∀ first second,
          engine.transform (driver.withStepConditions (first ++ second)) source =
            (engine.transform (driver.withStepConditions first) source).map
              (Option.map (engine.refilter driver source second))) ∧
        ∀ fewer more record, fewer ⊆ more →
          engine.transform (driver.withStepConditions more) source = .ok (some record) →
          ∃ larger,
            engine.transform (driver.withStepConditions fewer) source = .ok (some larger) ∧
            (stepsOf record).Sublist (stepsOf larger)) := by
  refine ⟨?_, ?_, ?_, ?_⟩
  · exact engine.transform_eq_unresolved_iff standard
  · intro targets known
    obtain ⟨target, resolved⟩ := Option.ne_none_iff_exists'.1 known
    exact ({ engine with targets := targets } : Engine).transform_eq_none_iff resolved
  · intro target resolved runs
    refine ⟨_, engine.maps_targetRecord driver source, ?_⟩
    have running : engine.isSuppressed driver (engine.contextOf driver source) = false :=
      List.any_eq_false.2 fun condition member => by simpa [holds] using runs condition member
    rw [engine.transform_of_resolved resolved, running]
    rfl
  · intro passes
    refine ⟨engine.transform_append source passes, ?_⟩
    intro fewer more record included answered
    exact engine.exists_transform_of_subset source passes included answered

/-- A driver whose list of steps is written out and whose target is qualified. -/
def onboardingDriver : Driver :=
  { name := "onboarding", version := "1.0", source := "Voucher", target := "App\\Record"
    mappings :=
      [("title", .template "Redeem {{ source.code }}"),
        ("steps", .literal (.array [.text "form", .text "kyc", .text "mobile"]))]
    filters :=
      { skipFlowIf :=
          [⟨"source.redeemed".toList, .holds (.path "source.redeemed".toList)⟩] }
    fingerprint := "" }

def notItem (text : String) : Condition :=
  ⟨("item != '" ++ text ++ "'").toList,
    .compare (.path "item".toList) .notEqual (.literal (.text text))⟩

def onboardingEngine : Engine :=
  { targets := TargetTable.withPassthrough "Record" TargetTable.builtin }

def onboardingSource (redeemed : Bool) : Value :=
  .object [("code", .text "X1"), ("redeemed", .bool redeemed)]

theorem standard_onboardingEngine : onboardingEngine.targets.IsStandard := by
  have targets : onboardingEngine.targets =
      [(Target.instructionsName, Target.instructions), ("Record", Target.passthrough)] := rfl
  rw [targets]
  exact List.forall_mem_cons.2 ⟨Or.inl rfl, List.forall_mem_singleton.2 (Or.inr rfl)⟩

theorem transform_outcomes_onboarding :
    onboardingEngine.targets.IsStandard ∧
      onboardingEngine.targets.resolve? onboardingDriver.target = some Target.passthrough ∧
      onboardingEngine.transform onboardingDriver (onboardingSource true) = .ok none ∧
      onboardingEngine.transform
          (onboardingDriver.withStepConditions ([notItem "kyc"] ++ [notItem "mobile"]))
          (onboardingSource false) =
        .ok (some (.object [("title", .text "Redeem X1"), ("steps", .array [.text "form"])])) := by
  have passes : onboardingEngine.targets.resolve? onboardingDriver.target =
      some Target.passthrough := rfl
  refine ⟨standard_onboardingEngine, passes, ?_, ?_⟩
  · obtain ⟨-, suppressed, -, -⟩ := onboardingEngine.transform_outcomes onboardingDriver
      (onboardingSource true) standard_onboardingEngine
    refine (suppressed onboardingEngine.targets (by rw [passes]; simp)).2
      ⟨_, List.mem_cons_self, ?_⟩
    decide +kernel
  · obtain ⟨-, -, -, filtered⟩ := onboardingEngine.transform_outcomes onboardingDriver
      (onboardingSource false) standard_onboardingEngine
    have once : onboardingEngine.transform (onboardingDriver.withStepConditions [notItem "kyc"])
        (onboardingSource false) =
          .ok (some (.object
            [("title", .text "Redeem X1"), ("steps", .array [.text "form", .text "mobile"])])) := by
      decide +kernel
    have again : onboardingEngine.refilter onboardingDriver (onboardingSource false)
        [notItem "mobile"] (.object
          [("title", .text "Redeem X1"), ("steps", .array [.text "form", .text "mobile"])]) =
          .object [("title", .text "Redeem X1"), ("steps", .array [.text "form"])] := by
      decide +kernel
    rw [(filtered passes).1, once]
    exact congrArg (fun record => Except.ok (some record)) again

end Engine

end Intake
