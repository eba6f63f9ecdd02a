import Intake.Proofs.Markup.Block
import Intake.Proofs.Template.Blocks
import Intake.Proofs.Value.Fold

/-!
# Step templates and their blocks

A step template that is put together from literal texts and blocks is taken apart again in the same
places. So it yields its literal texts as they are, and what a block yields is never looked at
again. In a value every text is processed in its place and all else stays, so that a value without
blocks comes back unchanged.
-/

namespace Intake

namespace Markup

open Character Text

theorem isInside_trim {body : List Char} (line : '\n' ∉ body) (unclosed : '}' ∉ body) :
    IsInside (trim body) where
  line := fun member => line ((Text.trim_infix body).subset member)
  unclosed := unclosed_of_not_mem fun member => unclosed ((Text.trim_infix body).subset member)
  starts := stops_trim body
  ends := stops_reverse_trim body
  isOpen := stops_reverse_of_not_mem fun member => unclosed ((Text.trim_infix body).subset member)

theorem segments_cons_of_unopened {character : Char} {rest : List Char}
    (unopened : afterPrefix? ['{', '{'] (character :: rest) = none) :
    segments (character :: rest) = .literal character :: segments rest := by
  rw [segments]
  split
  · next found =>
    rw [blockAt?, unopened] at found
    cases found
  · rfl

/-- The characters in front of the first two opening braces are literal. -/
theorem segments_of_splitOnce? {template before after : List Char}
    (found : splitOnce? ['{', '{'] template = some (before, after)) :
    segments template = before.map .literal ++ segments ('{' :: '{' :: after) := by
  induction template generalizing before with
  | nil => cases found
  | cons character rest ih =>
    rw [splitOnce?] at found
    cases opened : afterPrefix? ['{', '{'] (character :: rest) with
    | some behind =>
      rw [opened] at found
      cases found
      rw [eq_append_of_afterPrefix? opened]
      rfl
    | none =>
      rw [opened] at found
      obtain ⟨⟨front, back⟩, inner, same⟩ := Option.map_eq_some_iff.1 found
      cases same
      rw [segments_cons_of_unopened opened, ih inner]
      rfl

theorem segments_of_opens_eq_false {template : List Char}
    (unopened : Block.opens template = false) : segments template = template.map .literal := by
  induction template with
  | nil => rw [segments]; rfl
  | cons character rest ih =>
    have missing : splitOnce? ['{', '{'] (character :: rest) = none := by
      simpa [Block.opens, Text.contains] using unopened
    cases opened : afterPrefix? ['{', '{'] (character :: rest) with
    | some behind =>
      rw [splitOnce?, opened] at missing
      cases missing
    | none =>
      rw [segments_cons_of_unopened opened, ih (Block.opens_tail_eq_false unopened)]
      rfl

/-- A block and the literal text before it, such that neither can be taken for the other. -/
structure Part where
  literal : List Char
  body : List Char
  unopened : Block.opens literal = false
  ended : literal.getLast? ≠ some '{'
  line : '\n' ∉ body
  unclosed : '}' ∉ body

/-- The template that is put together from parts and a last literal text. -/
def written : (parts : List Part) → (last : List Char) → List Char
  | [], last => last
  | part :: others, last => part.literal ++ (Block.braced part.body ++ written others last)

end Markup

namespace Processor

open Character Text Markup

variable (processor : Processor) (context : Value)

theorem flatMap_segmentText_literals (characters : List Char) :
    (characters.map Segment.literal).flatMap (processor.segmentText context) = characters := by
  induction characters with
  | nil => rfl
  | cons character others ih => rw [List.map_cons, List.flatMap_cons, ih]; rfl

/-- A text in which no block opens is its own result. -/
theorem process_of_opens_eq_false {template : List Char}
    (unopened : Block.opens template = false) : processor.process template context = template := by
  rw [process, segments_of_opens_eq_false unopened, flatMap_segmentText_literals]

/-- A block yields the text of its trimmed body. -/
theorem process_braced {body : List Char} (line : '\n' ∉ body) (unclosed : '}' ∉ body)
    (rest : List Char) :
    processor.process (Block.braced body ++ rest) context =
      processor.expressionText context (trim body) ++ processor.process rest context := by
  obtain ⟨before, after, beforeBlank, afterBlank, whole⟩ := exists_margins body
  have same : Block.braced body = blockText before (trim body) after := by
    rw [Block.braced]
    nth_rewrite 1 [whole]
    simp [blockText]
  rw [same, processor.process_block context beforeBlank (isInside_trim line unclosed) afterBlank]

theorem process_part (part : Part) (rest : List Char) :
    processor.process (part.literal ++ (Block.braced part.body ++ rest)) context =
      part.literal ++
        (processor.expressionText context (trim part.body) ++ processor.process rest context) := by
  have opened : splitOnce? ['{', '{'] (part.literal ++ (Block.braced part.body ++ rest)) =
      some (part.literal, part.body ++ ['}', '}'] ++ rest) :=
    Block.splitOnce?_of_opens_eq_false part.unopened part.ended _
  rw [process, segments_of_splitOnce? opened, List.flatMap_append, flatMap_segmentText_literals]
  exact congrArg (part.literal ++ ·) (processor.process_braced context part.line part.unclosed rest)

theorem process_written (parts : List Part) {last : List Char}
    (unopened : Block.opens last = false) :
    processor.process (written parts last) context =
      parts.flatMap (fun part =>
        part.literal ++ processor.expressionText context (trim part.body)) ++ last := by
  induction parts with
  | nil => exact processor.process_of_opens_eq_false context unopened
  | cons part others ih =>
    rw [written, process_part, ih, List.flatMap_cons]
    simp only [List.append_assoc]

theorem processItems_eq_map (items : List Value) :
    processor.processItems context items = items.map (processor.processValue context) := by
  induction items with
  | nil => rfl
  | cons item others ih => rw [processItems, ih, List.map_cons]

theorem processFields_eq_map (fields : Fields Value) :
    processor.processFields context fields =
      fields.map fun field => (field.1, processor.processValue context field.2) := by
  induction fields with
  | nil => rfl
  | cons field others ih => rw [processFields, ih, List.map_cons]

/-- In a value every text is processed in its place, and all else stays. -/
theorem processValue_eq_mapTexts (value : Value) :
    processor.processValue context value =
      value.mapTexts fun template => processor.process template context := by
  induction value using Value.memberInduction with
  | null => rfl
  | bool value => rfl
  | number value => rfl
  | text content => rfl
  | array items ih =>
    rw [processValue, processItems_eq_map, Value.mapTexts_array, List.map_congr_left ih]
  | object fields ih =>
    rw [processValue, processFields_eq_map, Value.mapTexts_object]
    congr 1
    apply List.map_congr_left
    intro field member
    rw [ih field member]

/-- A template yields its literal texts, as they are, and what the bodies of its blocks yield. In a
value this happens to every text in its place, and to nothing else; so a value in whose texts no
block opens stays as it is. -/
theorem process_in_place :
    (∀ (parts : List Part) (last : List Char), Block.opens last = false →
        processor.process (written parts last) context =
          parts.flatMap (fun part =>
            part.literal ++ processor.expressionText context (trim part.body)) ++ last) ∧
      (∀ value, processor.processValue context value =
        value.mapTexts fun template => processor.process template context) ∧
      ∀ value : Value, (∀ content ∈ value.texts, Block.opens content.toList = false) →
        processor.processValue context value = value := by
  refine ⟨fun parts last unopened => processor.process_written context parts unopened,
    processor.processValue_eq_mapTexts context, ?_⟩
  intro value unopened
  rw [processValue_eq_mapTexts]
  apply Value.mapTexts_eq_self
  intro content member
  exact processor.process_of_opens_eq_false context (unopened content member)

/-- Parts with a brace in front of a word, closing braces outside blocks, and a choice with an
operator and quotes. -/
def letterParts : List Part :=
  [ { literal := "\x7b to ".toList, body := "  name ".toList,
      unopened := by decide +kernel, ended := by decide, line := by decide, unclosed := by decide },
    { literal := "\x7d\x7d ".toList, body := "count>1 ? \"many\" : \"one\"".toList,
      unopened := by decide +kernel, ended := by decide, line := by decide, unclosed := by decide },
    { literal := "-".toList, body := "missing or name".toList,
      unopened := by decide +kernel, ended := by decide, line := by decide,
      unclosed := by decide } ]

/-- A name that is a template itself. -/
def letterContext : Value :=
  .object [("name", .text "{{ name }}"), ("count", .ofInt 2)]

/-- Texts with braces that open no block. -/
def plainLetter : Value :=
  .object [("to", .text "\x7b name \x7d\x7d"), ("copies", .array [.ofInt 2, .text "\x7b", .null])]

theorem process_in_place_letter :
    Block.opens " \x7b".toList = false ∧
      Processor.process {} (written letterParts " \x7b".toList) letterContext =
        "\x7b to {{ name }}\x7d\x7d many-1 \x7b".toList ∧
      (∀ content ∈ plainLetter.texts, Block.opens content.toList = false) ∧
      Processor.processValue {} letterContext plainLetter = plainLetter := by
  obtain ⟨inParts, -, unchanged⟩ := process_in_place {} letterContext
  have unopened : Block.opens " \x7b".toList = false := by decide +kernel
  have plain : ∀ content ∈ plainLetter.texts, Block.opens content.toList = false := by
    decide +kernel
  refine ⟨unopened, ?_, plain, unchanged plainLetter plain⟩
  rw [inParts letterParts " \x7b".toList unopened]
  decide +kernel

end Processor

end Intake
