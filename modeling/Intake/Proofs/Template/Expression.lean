import Intake.Proofs.Text.Cuts
import Intake.Template.Rendering

/-!
# Reading and evaluating expressions

The ways to read the inside of a block, one after the other, and what an evaluation does with the
parts that were read.
-/

namespace Intake

namespace Expression

/-- A block's inside, one way to read it after the other. -/
theorem parse_unfolded (text : List Char) :
    parse text =
      match Text.splitOnce? ['?', '?'] (Text.trim text) with
      | some (left, right) => .coalesce (parse left) (parsePart (Text.trim right))
      | none =>
        if '~' ∈ Text.trim text then
          .concat ((Text.pieces '~' (Text.trim text)).map fun piece => parsePart (Text.trim piece))
        else if '(' ∈ Text.trim text ∧ ')' ∈ Text.trim text then
          match callParts? (Text.trim text) with
          | some (name, inside) =>
            .call (String.ofList name)
              ((literalItems inside).map fun item => parseArgument (Text.trim item))
          | none => .unreadable
        else
          match Text.unquote? (Text.trim text) with
          | some inside => .literal inside
          | none =>
            match Numeral.textValue? (Text.trim text) with
            | some value => .literal value.display
            | none => .path (Text.trim text) := by
  rw [parse]
  split
  · next found => rw [found]
  · next found =>
    rw [found]
    simp only [dite_eq_ite]
    split
    · simp
    · split
      · split
        · next called => simp [called]
        · next called => rw [called]
      · rfl

/-- An argument, one way to read it after the other. -/
theorem parseArgument_unfolded (text : List Char) :
    parseArgument text =
      match Text.unquote? text with
      | some inside => .value (.ofChars inside)
      | none =>
        match Text.enclosed? '{' '}' text with
        | some content =>
          .object ((literalPairs content).map fun pair =>
            (literalKey pair.1, parseArgument (Text.trim pair.2)))
        | none =>
          match Text.enclosed? '[' ']' text with
          | some content =>
            .array ((literalItems content).map fun item => parseArgument (Text.trim item))
          | none =>
            match Numeral.textValue? text with
            | some value => .value value
            | none =>
              if text = "true".toList then .value (.bool true)
              else if text = "false".toList then .value (.bool false)
              else if text = "null".toList then .value .null
              else .rendered (parse text) := by
  rw [parseArgument]
  cases quoted : Text.unquote? text with
  | some inside => rfl
  | none =>
    simp only
    split
    · next content braces =>
      rw [braces]
      exact congrArg Argument.object (List.attach_map_val (f := fun pair : List Char × List Char =>
        (literalKey pair.1, parseArgument (Text.trim pair.2))))
    · next braces =>
      simp only [braces]
      split
      · next brackets => simp [brackets]
      · next brackets => cases Numeral.textValue? text <;> simp only [brackets]

/-- Whether an operator or a pair of parentheses is in a text, wherever it stands. -/
def hasOperator (text : List Char) : Bool :=
  Text.contains ['?', '?'] text || text.contains '~' || (text.contains '(' && text.contains ')')

theorem hasOperator_eq_false_iff {text : List Char} :
    hasOperator text = false ↔
      Text.splitOnce? ['?', '?'] text = none ∧ '~' ∉ text ∧ ¬ ('(' ∈ text ∧ ')' ∈ text) := by
  simp [hasOperator, Text.contains, and_assoc]

theorem hasOperator_eq_false_of_not_mem {text : List Char} (noMark : '?' ∉ text)
    (noTilde : '~' ∉ text) (noCall : '(' ∉ text) : hasOperator text = false :=
  hasOperator_eq_false_iff.2
    ⟨Text.splitOnce?_of_not_mem noMark ['?'], noTilde, fun both => noCall both.1⟩

/-- Without operators a text is quoted, a numeral or a path. -/
theorem parse_of_hasOperator_eq_false {text : List Char} (kept : Text.trim text = text)
    (simple : hasOperator text = false) :
    parse text =
      match Text.unquote? text with
      | some inside => .literal inside
      | none =>
        match Numeral.textValue? text with
        | some value => .literal value.display
        | none => .path text := by
  obtain ⟨noFallback, noTilde, noCall⟩ := hasOperator_eq_false_iff.1 simple
  rw [parse_unfolded, kept, noFallback]
  simp only [noTilde, noCall, ↓reduceIte]

theorem parsePart_of_unquote?_eq_none {text : List Char} (unquoted : Text.unquote? text = none) :
    parsePart text = parse text := by
  rw [parsePart, unquoted]

theorem parse_trim (text : List Char) : parse (Text.trim text) = parse text := by
  rw [parse_unfolded, parse_unfolded text, Text.trim_trim]

end Expression

namespace Renderer

variable (renderer : Renderer) (context : Context)

theorem evaluate_trim (text : List Char) :
    renderer.evaluate (Text.trim text) context = renderer.evaluate text context := by
  rw [evaluate, evaluate, Expression.parse_trim]

theorem argumentValues_eq_map (arguments : List Argument) :
    renderer.argumentValues context arguments = arguments.map (renderer.argumentValue context) := by
  induction arguments with
  | nil => rfl
  | cons argument others ih => rw [argumentValues, ih, List.map_cons]

theorem argumentFields_eq_map (fields : List (String × Argument)) :
    renderer.argumentFields context fields =
      fields.map fun field => (field.1, renderer.argumentValue context field.2) := by
  induction fields with
  | nil => rfl
  | cons field others ih => rw [argumentFields, ih, List.map_cons]

theorem evaluateParts_eq_flatMap (parts : List Expression) :
    renderer.evaluateParts context parts = parts.flatMap (renderer.evaluateTree context) := by
  induction parts with
  | nil => rfl
  | cons part others ih => rw [evaluateParts, ih, List.flatMap_cons]

end Renderer

end Intake
