import Intake.Driver.Reader
import Intake.Mapping.Engine
import Intake.Proofs.Template.Blocks
import Intake.Proofs.Value.Fold

/-!
# Drivers that write their record out

A document of rules is plain when no object in it has the keys of a directive. Its rules then only
copy: reading finds a rule of the same shape as each value, and applying the rules gives the
document back with its texts rendered. Reading and applying count the levels of nesting apart, and
a document that stays within both bounds comes through whole.
-/

namespace Intake

namespace Rule

/-- Whether the keys of an object make it a template, a transformation, a reference or a choice. -/
def isDirective {α : Type} (fields : Fields α) : Bool :=
  Fields.has "template" fields || (Fields.has "source" fields && Fields.has "transform" fields) ||
    Fields.has "from" fields || Fields.has "when" fields

@[simp] theorem isDirective_map {α β : Type} (change : α → β) (fields : Fields α) :
    isDirective (fields.map fun field => (field.1, change field.2)) = isDirective fields := by
  simp only [isDirective, Fields.has_map]

/-- The rule that copies a leaf. -/
def copyLeaf : Value → Rule
  | .text content => if hasBlock content then .template content else .literal (.text content)
  | value => .literal value

/-- The rule that copies a value, with the blocks in its texts rendered. -/
def copy : Value → Rule :=
  Value.fold copyLeaf .sequence .nested

/-- The rules that copy a document, field by field. -/
def copies (document : Fields Value) : List (String × Rule) :=
  document.map fun field => (field.1, copy field.2)

theorem copy_text (content : String) :
    copy (.text content) =
      if hasBlock content then .template content else .literal (.text content) :=
  rfl

@[simp] theorem copy_array (items : List Value) :
    copy (.array items) = .sequence (items.map copy) :=
  Value.fold_array _ _ _ items

@[simp] theorem copy_object (fields : Fields Value) :
    copy (.object fields) = .nested (copies fields) :=
  Value.fold_object _ _ _ fields

theorem object_map_copies (yields : Rule → Value) {change : List Char → List Char}
    {fields : Fields Value}
    (each : ∀ field ∈ fields, yields (copy field.2) = field.2.mapTexts change) :
    .object ((copies fields).map fun field => (field.1, yields field.2)) =
      (Value.object fields).mapTexts change := by
  rw [copies, Value.mapTexts_object, List.map_map]
  congr 1
  apply List.map_congr_left
  intro field member
  exact congrArg (Prod.mk field.1) (each field member)

end Rule

namespace Value

/-- Whether no object in a value is a directive. -/
def isPlain : Value → Bool :=
  fold (fun _ => true) (fun items => items.all id) fun fields =>
    !Rule.isDirective fields && (Fields.contents fields).all id

theorem isPlain_array {items : List Value} :
    (array items).isPlain ↔ ∀ item ∈ items, item.isPlain := by
  simp [isPlain]

theorem isPlain_object {fields : Fields Value} :
    (object fields).isPlain ↔
      Rule.isDirective fields = false ∧ ∀ field ∈ fields, field.2.isPlain := by
  simp [isPlain, Fields.contents]

end Value

namespace Rule

theorem readObject_of_not_isDirective (read : String → Value → Except RuleError Rule)
    (field : String) {fields : Fields Value} (plain : isDirective fields = false) :
    readObject read field fields =
      (fields.mapM fun pair : String × Value => do
        let rule ← read (field ++ "." ++ pair.1) pair.2
        return (pair.1, rule)).map Rule.nested := by
  simp only [isDirective, Bool.or_eq_false_iff, Fields.has, Option.isSome_eq_false_iff,
    Option.isNone_iff_eq_none] at plain
  obtain ⟨⟨⟨template, transform⟩, origin⟩, test⟩ := plain
  simp only [readObject, template, Fields.has, transform, origin, test]
  rfl

/-- A plain value that does not nest too deep is read as the rule that copies it. -/
theorem readLevels_of_isPlain {levels : Nat} {field : String} {value : Value}
    (plain : value.isPlain) (shallow : value.depth < levels) :
    readLevels levels field value = .ok (copy value) := by
  -- The reader counts the levels down as it goes into a value, so the induction is on them.
  induction levels generalizing field value with
  | zero => exact absurd shallow (Nat.not_lt_zero _)
  | succ levels ih =>
    rw [Nat.lt_succ_iff] at shallow
    cases value with
    | null | bool | number | text => rfl
    | array items =>
      rw [Value.isPlain_array] at plain
      rw [Value.depth_array_le_iff] at shallow
      have reads : ∀ item ∈ items.zipIdx,
          readLevels levels (field ++ "." ++ toString item.2) item.1 = .ok (copy item.1) := by
        intro item member
        have inside : item.1 ∈ items := List.fst_mem_of_mem_zipIdx member
        exact ih (plain item.1 inside) (shallow item.1 inside)
      have copies : items.zipIdx.map (fun item => copy item.1) = items.map copy := by
        rw [← Function.comp_def copy Prod.fst, ← List.map_map, List.zipIdx_map_fst]
      simp only [readLevels, mapM_eq_ok reads, copies, copy_array]
      rfl
    | object fields =>
      rw [Value.isPlain_object] at plain
      rw [Value.depth_object_le_iff] at shallow
      have reads : ∀ pair ∈ fields,
          (do let rule ← readLevels levels (field ++ "." ++ pair.1) pair.2
              return (pair.1, rule) : Except RuleError (String × Rule)) =
            .ok (pair.1, copy pair.2) := by
        intro pair member
        rw [ih (plain.2 pair member) (shallow pair member)]
        rfl
      rw [readLevels, readObject_of_not_isDirective _ field plain.1, mapM_eq_ok reads, copy_object]
      rfl

end Rule

theorem Driver.readMappings_of_isPlain {document : Fields Value}
    (plain : ∀ field ∈ document, field.2.isPlain)
    (shallow : ∀ field ∈ document, field.2.depth ≤ Rule.maxLevels) :
    readMappings document = .ok (Rule.copies document) := by
  apply mapM_eq_ok
  intro field member
  have read : Rule.read ("mappings." ++ field.1) field.2 = .ok (Rule.copy field.2) :=
    Rule.readLevels_of_isPlain (plain field member) (Nat.lt_succ_of_le (shallow field member))
  simp only [read]

/-- A text without a block renders as itself. -/
theorem Renderer.render_of_not_hasBlock (renderer : Renderer) (context : Context)
    {content : String} (plain : Rule.hasBlock content = false) :
    renderer.render content.toList context = content.toList := by
  have whole := Block.segments_of_opens_eq_false plain
  simp [render, whole, segmentText]

namespace Engine

variable (engine : Engine)

/-- Copying a value renders the texts in it. -/
theorem valueAt_copy (constants : Fields Value) (context : Context) {levels : Nat} {value : Value}
    (shallow : value.depth < levels) :
    engine.valueAt constants levels (Rule.copy value) context =
      value.mapTexts fun text => engine.renderer.render text context := by
  induction levels generalizing value with
  | zero => exact absurd shallow (Nat.not_lt_zero _)
  | succ levels ih =>
    rw [Nat.lt_succ_iff] at shallow
    cases value with
    | null | bool | number => rfl
    | text content =>
      by_cases block : Rule.hasBlock content
      · simp [Rule.copy_text, block, valueAt]
      · have plain := engine.renderer.render_of_not_hasBlock context (Bool.not_eq_true _ ▸ block)
        simp [Rule.copy_text, block, valueAt, plain, Value.ofChars]
    | array items =>
      rw [Value.depth_array_le_iff] at shallow
      rw [Rule.copy_array, valueAt, Value.mapTexts_array, List.map_map]
      congr 1
      apply List.map_congr_left
      intro item member
      exact ih (shallow item member)
    | object fields =>
      rw [Value.depth_object_le_iff] at shallow
      rw [Rule.copy_object, valueAt]
      apply Rule.object_map_copies fun rule => engine.valueAt constants levels rule context
      intro field member
      exact ih (shallow field member)

theorem filterSteps_nil (context : Context) (record : Fields Value) :
    engine.filterSteps [] context record = record := by
  rw [filterSteps]
  split
  · rename_i steps found
    have kept : steps.filter (engine.keepsStep [] context) = steps :=
      List.filter_eq_self.2 fun _ _ => rfl
    rw [kept, Fields.insert_of_get? found]
  · rfl

/-- Without conditions, a target that takes every record as it is yields what the rules make. -/
theorem transform_of_not_hasFilters (source : Value) {driver : Driver}
    (unfiltered : driver.hasFilters = false)
    (passes : engine.targets.resolve? driver.target = some Target.passthrough) :
    engine.transform driver source =
      .ok (some (.object (engine.record driver (engine.contextOf driver source)))) := by
  simp only [Driver.hasFilters, Bool.or_eq_false_iff, Bool.not_eq_false', List.isEmpty_iff]
    at unfiltered
  have target : engine.targets.resolve driver.target = .ok Target.passthrough := by
    rw [TargetTable.resolve, passes]
  have runs : engine.isSuppressed driver (engine.contextOf driver source) = false := by
    rw [isSuppressed, unfiltered.1]
    rfl
  rw [transform, target]
  simp only [unfiltered.2, filterSteps_nil]
  simp [bind, Except.bind, runs, Target.passthrough, pure, Except.pure]

/-- A driver with the rules that copy a document makes it its record, with the texts rendered. -/
theorem record_copies (driver : Driver) (context : Context) {document : Fields Value}
    (visible : ∀ field ∈ document, field.2.depth ≤ engine.maxDepth) :
    .object (engine.record { driver with mappings := Rule.copies document } context) =
      (Value.object document).mapTexts fun text => engine.renderer.render text context := by
  apply Rule.object_map_copies fun rule => engine.value driver rule context
  intro field member
  exact engine.valueAt_copy driver.constants context (Nat.lt_succ_of_le (visible field member))

/-- A plain document that nests neither deeper than rules may nor deeper than the engine looks is
read, and its rules give the document back with every text in it rendered. -/
theorem transform_of_isPlain (source : Value) {driver : Driver} {document : Fields Value}
    (plain : ∀ field ∈ document, field.2.isPlain)
    (shallow : ∀ field ∈ document, field.2.depth ≤ min engine.maxDepth Rule.maxLevels)
    (unfiltered : driver.hasFilters = false)
    (passes : engine.targets.resolve? driver.target = some Target.passthrough) :
    ∃ rules, Driver.readMappings document = .ok rules ∧
      engine.transform { driver with mappings := rules } source =
        .ok (some ((Value.object document).mapTexts fun text =>
          engine.renderer.render text (engine.contextOf driver source))) := by
  have readable : ∀ field ∈ document, field.2.depth ≤ Rule.maxLevels :=
    fun field member => (Nat.le_min.1 (shallow field member)).2
  have visible : ∀ field ∈ document, field.2.depth ≤ engine.maxDepth :=
    fun field member => (Nat.le_min.1 (shallow field member)).1
  refine ⟨Rule.copies document, Driver.readMappings_of_isPlain plain readable, ?_⟩
  rw [← engine.record_copies driver (engine.contextOf driver source) visible]
  exact engine.transform_of_not_hasFilters source unfiltered passes

/-- Leaves of every kind, some of them inside an object and a list. -/
def voucherDocument : Fields Value :=
  [("count", .ofNat 3), ("none", .null),
    ("meta", .object [("code", .text "{{ source.code }}"), ("fixed", .bool true)]),
    ("list", .array [.text "a", .text "{{ source.code }}"])]

def voucherDriver : Driver :=
  { name := "voucher", version := "1.0", source := "Voucher", target := "Record"
    fingerprint := "" }

/-- The engine with a target that takes every record. -/
def recordEngine : Engine :=
  { targets := TargetTable.withPassthrough "Record" TargetTable.builtin }

theorem transform_of_isPlain_voucher :
    (∀ field ∈ voucherDocument, field.2.isPlain) ∧
      (∀ field ∈ voucherDocument,
        field.2.depth ≤ min recordEngine.maxDepth Rule.maxLevels) ∧
      voucherDriver.hasFilters = false ∧
      recordEngine.targets.resolve? voucherDriver.target = some Target.passthrough ∧
      ∃ rules, Driver.readMappings voucherDocument = .ok rules ∧
        recordEngine.transform { voucherDriver with mappings := rules }
            (.object [("code", .text "X1")]) =
          .ok (some (.object
            [("count", .ofNat 3), ("none", .null),
              ("meta", .object [("code", .text "X1"), ("fixed", .bool true)]),
              ("list", .array [.text "a", .text "X1"])])) := by
  have plain : ∀ field ∈ voucherDocument, field.2.isPlain := by decide
  have shallow : ∀ field ∈ voucherDocument,
      field.2.depth ≤ min recordEngine.maxDepth Rule.maxLevels := by decide
  have unfiltered : voucherDriver.hasFilters = false := rfl
  have passes : recordEngine.targets.resolve? voucherDriver.target = some Target.passthrough := rfl
  refine ⟨plain, shallow, unfiltered, passes, ?_⟩
  obtain ⟨rules, read, yields⟩ := recordEngine.transform_of_isPlain
    (.object [("code", .text "X1")]) plain shallow unfiltered passes
  refine ⟨rules, read, yields.trans ?_⟩
  apply congrArg fun record => Except.ok (some record)
  decide +kernel

end Engine

end Intake
