import Intake.Proofs.Template.Arguments
import Intake.Proofs.Template.Concatenation

/-!
# Calls in blocks

A block with a call of a known function shows what the function answers. Its arguments are quoted
texts, which are passed as they are, and paths, of which the function is given what a block shows.
-/

namespace Intake

open Text

namespace Expression

/-- A text that can be an argument of a call in a block. -/
structure IsPart (text : List Char) : Prop where
  listable : Listable text
  inert : Inert text
  passed : Block.Passed text

theorem isPart_quoted {content : String} (quotable : Value.isQuotable content.toList = true) :
    IsPart (quotedText '\'' content.toList) := by
  have written := isArgument_text quotable
  simp only [Value.isQuotable, Bool.and_eq_true, Bool.not_eq_true', List.contains_eq_mem,
    decide_eq_false_iff_not] at quotable
  obtain ⟨⟨⟨clean, plain⟩, -⟩, -⟩ := quotable
  exact ⟨written.listable, written.inert, Block.passed_quoted rfl clean plain⟩

section Path

variable {content : List Char} (isPath : Operand.isPath content = true)
  (notWord : content ∉ Operand.literalWords)

include isPath notWord

theorem isPart_path : IsPart content where
  listable := (Operand.written_path isPath notWord).listable
  inert := by
    exact inert_of_not_mem (Concatenation.Segment.not_mem_path isPath rfl)
      (Concatenation.Segment.not_mem_path isPath rfl)
  passed := (Concatenation.Segment.path content isPath).passed

/-- A call is given what a block shows of a path. -/
theorem argumentValue_path (renderer : Renderer) (context : Context) :
    renderer.argumentValue context (parseArgument content) = .ofChars (context.shown content) := by
  have unquoted := Concatenation.Segment.unquote?_path isPath
  have noNumber := (Concatenation.Segment.path content isPath).textValue?_text
  have tree := (Concatenation.Segment.path content isPath).parse_text
  have absent : ∀ {character}, (character == '.' || Operand.continuesSegment character) = false →
      character ∉ content := Concatenation.Segment.not_mem_path isPath
  change Numeral.textValue? content = none at noNumber
  change parse content = .path content at tree
  simp only [Operand.literalWords, List.mem_cons, List.not_mem_nil, or_false, not_or] at notWord
  rw [parseArgument_unfolded, unquoted, enclosed?_of_not_mem (absent rfl),
    enclosed?_of_not_mem (absent rfl), noNumber]
  simp only [notWord, ↓reduceIte, tree]
  rfl

end Path

section Call

variable {name : String} (nonempty : name.toList ≠ [])
  (word : name.toList.all Character.isWord = true) {parts : List (List Char)}
  (fit : ∀ part ∈ parts, IsPart part)

include word fit in
theorem passed_applied : Block.Passed (applied name.toList parts) := by
  have apart : ∀ {character other}, character ∈ name.toList → Character.isWord other = false →
      character ≠ other := by
    rintro character other member outside rfl
    exact not_mem_of_all word outside member
  have namePassed : Block.Passed name.toList := by
    apply Block.passed_of_unbraced
    intro character member
    have noQuote : Nesting.isQuote character = false := by
      simp only [Nesting.isQuote, Bool.or_eq_false_iff, beq_eq_false_iff_ne]
      exact ⟨apart member rfl, apart member rfl⟩
    exact ⟨noQuote, apart member rfl, apart member rfl⟩
  have opening : Block.Passed ['('] :=
    Block.passed_of_unbraced (List.forall_mem_singleton.2 (by decide))
  have closing : Block.Passed [')'] :=
    Block.passed_of_unbraced (List.forall_mem_singleton.2 (by decide))
  have separator : Block.Passed ", ".toList := Block.passed_of_unbraced
    (List.forall_mem_cons.2 ⟨by decide, List.forall_mem_singleton.2 (by decide)⟩)
  have inside : Block.Passed (joined ", ".toList parts) :=
    joined_of_append (fun _ => rfl) Block.Passed.append separator
      fun part member => (fit part member).passed
  exact namePassed.append (opening.append (inside.append closing))

include nonempty word fit in
/-- A block with a call of a known function shows what the function answers. -/
theorem render_applied (renderer : Renderer) (context : Context) {function : Callable}
    (known : renderer.function? context name = some function) :
    renderer.render (Block.spaced (applied name.toList parts)) context =
      resultText (function
        (parts.map fun part => renderer.argumentValue context (parseArgument part))) := by
  have visible : isBlankText (applied name.toList parts) = false := by
    obtain ⟨first, others, same⟩ := List.exists_cons_of_ne_nil nonempty
    have solid : Character.isBlank first = false := by
      apply Character.not_isBlank_of_isWord
      exact List.all_eq_true.1 word first (by rw [same]; exact List.mem_cons_self)
    simp [applied, same, isBlankText, solid]
  have parsed := parse_applied nonempty word (fun part member => (fit part member).listable)
    fun part member => (fit part member).inert
  rw [renderer.render_spaced context (passed_applied word fit) visible, Renderer.evaluate, parsed,
    Renderer.evaluateTree, renderer.argumentValues_eq_map, List.map_map, String.ofList_toList,
    Renderer.callText, known]
  rfl

end Call

end Expression

end Intake
