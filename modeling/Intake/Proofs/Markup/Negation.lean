import Intake.FlowTemplate.Planner
import Intake.Proofs.Markup.Precedence

/-!
# A path behind an exclamation mark

Exclamation marks negate the operands of a connection by words. Where there is no connective an
exclamation mark is a character of the path that it stands in front of. So a lone negated path
stands for a field with the mark in its name: where no field has such a name, a choice by it selects
its second text and a step with it as its condition is dropped, whatever the path itself leads to.
-/

namespace Intake

namespace Processor

open Character Text Markup

/-- A path behind an exclamation mark. -/
def marked (path : List Char) : List Char :=
  '!' :: path

/-- Whether no field of a context has a name that starts with an exclamation mark. -/
def Unmarked (context : Value) : Prop :=
  ∀ name : String, name.toList.head? = some '!' → context.field? name = none

/-- A word of a path's characters, with or without an exclamation mark in front. -/
structure IsOperand (text : List Char) : Prop where
  nonempty : text ≠ []
  plain : ∀ character ∈ text, isPathCharacter character = true ∨ character = '!'

section Operands

variable {text : List Char}

namespace IsOperand

theorem not_mem (isOperand : IsOperand text) {character : Char}
    (other : isPathCharacter character = false) (unmarked : character ≠ '!') :
    character ∉ text := by
  intro member
  rcases isOperand.plain character member with inPath | mark
  · rw [other] at inPath
    cases inPath
  · exact unmarked mark

theorem solid (isOperand : IsOperand text) {character : Char} (member : character ∈ text) :
    isBlank character = false := by
  rcases isOperand.plain character member with inPath | rfl
  · exact not_isBlank_of_isPathCharacter inPath
  · decide

theorem trim_eq (isOperand : IsOperand text) : trim text = text :=
  trim_of_not_blank fun _ member => isOperand.solid member

theorem isInside (isOperand : IsOperand text) : IsInside text where
  line := isOperand.not_mem (by decide) (by decide)
  unclosed := unclosed_of_not_mem (isOperand.not_mem (by decide) (by decide))
  starts := stops_of_forall fun _ member => isOperand.solid member
  ends := stops_of_forall fun _ member => isOperand.solid (List.mem_reverse.1 member)
  isOpen := stops_reverse_of_not_mem (isOperand.not_mem (by decide) (by decide))

theorem hasConnective (isOperand : IsOperand text) : hasConnective text = false := by
  rw [Markup.hasConnective, words_of_solid (fun _ member => isOperand.solid member)
    isOperand.nonempty]
  rfl

theorem conditionHolds (isOperand : IsOperand text) (context : Value) :
    conditionHolds context text = (resolveValue context text).isTruthy := by
  rw [Processor.conditionHolds, comparison?_of_not_mem
    (isOperand.not_mem (by decide) (by decide)) (isOperand.not_mem (by decide) (by decide))
    (isOperand.not_mem (by decide) (by decide))]
  simp only [isOperand.hasConnective, Bool.false_eq_true, if_false]

theorem expressionText (isOperand : IsOperand text) (processor : Processor) (context : Value) :
    processor.expressionText context text = resolvePath context text := by
  have noChoice : '?' ∉ text := isOperand.not_mem (by decide) (by decide)
  have noFilter : '|' ∉ text := isOperand.not_mem (by decide) (by decide)
  rw [Processor.expressionText, if_neg noChoice, if_neg noFilter, isOperand.hasConnective]
  rfl

end IsOperand

end Operands

/-- No child has a name with a mark. -/
theorem child?_marked {context : Value} (unmarked : Unmarked context) (segment : List Char) :
    Path.child? (marked segment) context = none := by
  cases context with
  | object fields => exact unmarked (String.ofList (marked segment)) (by simp [marked])
  | array items =>
    have noIndex : Path.index? (marked segment) = none := by simp [Path.index?, marked]
    rw [Path.child?, noIndex]
    rfl
  | null | bool _ | number _ | text _ => rfl

section Negation

variable {path : List Char} (nonempty : path ≠ []) (plain : path.all isPathCharacter = true)

include nonempty plain in
theorem isOperand_path : IsOperand path where
  nonempty := nonempty
  plain := fun character member => Or.inl (List.all_eq_true.1 plain character member)

include plain

theorem isOperand_marked : IsOperand (marked path) where
  nonempty := List.cons_ne_nil _ _
  plain := by
    intro character member
    rcases List.mem_cons.1 member with mark | inPath
    · exact Or.inr mark
    · exact Or.inl (List.all_eq_true.1 plain character inPath)

/-- A marked path is read as a path. -/
theorem resolveValue_marked (context : Value) :
    resolveValue context (marked path) = Value.coerce (resolvePath context (marked path)) := by
  have isOperand := isOperand_marked plain
  have noNumber : Numeral.textValue? (marked path) = none :=
    Numeral.textValue?_of_first (by decide) (by decide) (by decide) isOperand.trim_eq
  have noTrue : marked path ≠ "true".toList := fun same => absurd (List.cons.inj same).1 (by decide)
  have noFalse : marked path ≠ "false".toList :=
    fun same => absurd (List.cons.inj same).1 (by decide)
  rw [resolveValue_of_unquoted context noNumber (isOperand.not_mem (by decide) (by decide))
    (isOperand.not_mem (by decide) (by decide)), if_neg noTrue, if_neg noFalse]

/-- Where no field is marked, a marked path leads nowhere. -/
theorem resolvePath_marked {context : Value} (unmarked : Unmarked context) :
    resolvePath context (marked path) = [] := by
  obtain ⟨first, others, cut⟩ := List.exists_cons_of_ne_nil (pieces_ne_nil '.' path)
  have firstPlain : first.all isPathCharacter = true := by
    rw [List.all_eq_true]
    intro character member
    have inside : first <:+: path := infix_of_mem_pieces (cut ▸ List.mem_cons_self)
    exact List.all_eq_true.1 plain character (inside.subset member)
  have segments : Path.segments (marked path) = marked first :: others.map trim := by
    have pieces : pieces '.' (marked path) = marked first :: others := by
      rw [marked, Text.pieces, if_neg (by decide), cut]
      rfl
    rw [Path.segments, pieces, List.map_cons, (isOperand_marked firstPlain).trim_eq]
  have direct : marked first ≠ Path.wildcard :=
    fun same => absurd (List.cons.inj same).1 (by decide)
  have written : marked path ≠ [] := List.cons_ne_nil _ _
  have missing : context.get? (marked path) = none := by
    rw [Value.get?, (isOperand_marked plain).trim_eq, if_neg written, segments, Path.follow,
      if_neg direct, child?_marked unmarked]
    rfl
  rw [resolvePath, missing]
  rfl

end Negation

section Blocks

variable {text : List Char} (isOperand : IsOperand text) {before after : List Char}
  (beforeBlank : isBlankText before = true) (afterBlank : isBlankText after = true)

include isOperand beforeBlank afterBlank

/-- A choice by an operand selects by what the operand stands for. -/
theorem process_operandChoice (processor : Processor) (context : Value) (first second : Branch)
    (rest : List Char) :
    processor.process (blockText before (choiceText text first second) after ++ rest) context =
      (if (resolveValue context text).isTruthy then first.text else second.text) ++
        processor.process rest context := by
  rw [processor.process_choice context beforeBlank isOperand.nonempty isOperand.isInside
    (isOperand.not_mem (by decide) (by decide)) afterBlank, isOperand.conditionHolds]

/-- A step with an operand as its condition is kept by the text that the operand leads to. -/
theorem isKept_operand (planner : Planner) (context : Value) {step : StepTemplate}
    (conditional : step.condition = some (.ofChars (blockText before text after))) :
    planner.isKept context step =
      Planner.conditionHolds (.ofChars (resolvePath context text)) := by
  have shown := planner.processor.process_block context beforeBlank isOperand.isInside afterBlank []
  rw [List.append_nil, process_nil, List.append_nil, isOperand.expressionText] at shown
  rw [Planner.isKept, conditional, Option.all_some, Value.ofChars, processValue, processText,
    String.toList_ofList, shown]
  rfl

end Blocks

/-- A lone negated path stands for the field with the mark in its name, as a choice and as the
condition of a step. Where there is no such field the choice selects its second text and the step is
dropped; the path without the mark selects by its own value all the same. -/
theorem process_marked (processor : Processor) (context : Value) {path : List Char}
    (nonempty : path ≠ []) (plain : path.all isPathCharacter = true) {before after : List Char}
    (beforeBlank : isBlankText before = true) (afterBlank : isBlankText after = true) :
    let shown (condition : List Char) (first second : Branch) (rest : List Char) :=
      processor.process (blockText before (choiceText condition first second) after ++ rest) context
    let conditional (step : StepTemplate) :=
      step.condition = some (.ofChars (blockText before (marked path) after))
    (∀ first second rest, shown path first second rest =
        (if (resolveValue context path).isTruthy then first.text else second.text) ++
          processor.process rest context) ∧
      (∀ first second rest, shown (marked path) first second rest =
        (if (Value.coerce (resolvePath context (marked path))).isTruthy then first.text
          else second.text) ++ processor.process rest context) ∧
      (∀ (planner : Planner) (step : StepTemplate), conditional step →
        planner.isKept context step =
          Planner.conditionHolds (.ofChars (resolvePath context (marked path)))) ∧
      (Unmarked context →
        (∀ first second rest, shown (marked path) first second rest =
          second.text ++ processor.process rest context) ∧
        ∀ (planner : Planner) (step : StepTemplate), conditional step →
          planner.isKept context step = false) := by
  intro shown conditional
  have isOperand := isOperand_marked plain
  have choice : ∀ first second rest, shown (marked path) first second rest =
      (if (Value.coerce (resolvePath context (marked path))).isTruthy then first.text
        else second.text) ++ processor.process rest context := by
    intro first second rest
    have selected := process_operandChoice isOperand beforeBlank afterBlank processor context first
      second rest
    rwa [resolveValue_marked plain] at selected
  have step : ∀ (planner : Planner) (step : StepTemplate), conditional step →
      planner.isKept context step =
        Planner.conditionHolds (.ofChars (resolvePath context (marked path))) :=
    fun planner _ isConditional =>
      isKept_operand isOperand beforeBlank afterBlank planner context isConditional
  refine ⟨?_, choice, step, ?_⟩
  · exact process_operandChoice (isOperand_path nonempty plain) beforeBlank afterBlank processor
      context
  · intro unmarked
    have nowhere := resolvePath_marked plain unmarked
    constructor
    · intro first second rest
      rw [choice, nowhere]
      rfl
    · intro planner template isConditional
      rw [step planner template isConditional, nowhere]
      rfl

/-- A step for those who are not checked yet. -/
def uncheckedStep : StepTemplate :=
  { handler := "kyc", condition := some (.ofChars (blockText [' '] "!has_kyc".toList [' '])) }

theorem process_marked_unchecked :
    let context : Value := .object [("has_kyc", .text "no")]
    let branches := " ? \"a\" : \"b\"".toList
    "has_kyc".toList ≠ [] ∧ "has_kyc".toList.all isPathCharacter = true ∧
      isBlankText [' '] = true ∧ Unmarked context ∧
      Processor.process {} (blockText [' '] ("has_kyc".toList ++ branches) [' ']) context =
        "a".toList ∧
      Processor.process {} (blockText [' '] ("!has_kyc".toList ++ branches) [' ']) context =
        "b".toList ∧
      Planner.isKept {} context uncheckedStep = false := by
  intro context branches
  have nonempty : "has_kyc".toList ≠ [] := by decide
  have plain : "has_kyc".toList.all isPathCharacter = true := by decide
  have blank : isBlankText [' '] = true := by decide
  have unmarked : Unmarked context := by
    intro name first
    have other : "has_kyc" ≠ name := by
      rintro rfl
      exact absurd first (by decide)
    exact if_neg other
  obtain ⟨unnegated, -, -, ignored⟩ := process_marked {} context nonempty plain blank blank
  obtain ⟨choice, step⟩ := ignored unmarked
  let first := plainBranch "a".toList (by decide) (by decide) (by decide)
  let second := plainBranch "b".toList (by decide) (by decide) (by decide)
  have selected := unnegated first second []
  have passed := choice first second []
  rw [process_nil] at selected passed
  exact ⟨nonempty, plain, blank, unmarked, selected.trans (by decide +kernel), passed,
    step {} uncheckedStep rfl⟩

/-- A path that leads to nothing true is negated next to a word connective, but not on its own. -/
theorem lone_negation_ignored :
    let context : Value := .object [("has_kyc", .bool false)]
    let branches := " ? \"a\" : \"b\"".toList
    Processor.process {} (blockText [' '] ("has_kyc".toList ++ branches) [' ']) context =
        "b".toList ∧
      Processor.process {} (blockText [' '] ("!has_kyc".toList ++ branches) [' ']) context =
        "b".toList ∧
      Planner.isKept {} context
        { handler := "kyc", condition := some (.text "{{ !has_kyc }}") } = false ∧
      Planner.isKept {} context
        { handler := "kyc", condition := some (.text "{{ !has_kyc or !has_kyc }}") } = true := by
  decide +kernel

end Processor

end Intake
