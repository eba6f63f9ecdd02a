import Intake.Text.Nesting
import Intake.Value.Text

/-!
# Block expressions

The inside of a `{{ }}` block as a tree. From loosest to tightest: `??` falls back to its right
side, `~` concatenates, a word before parentheses is a call, and what is left is a quoted literal,
a numeral or a path. Every text has a tree; a text with parentheses that is no call renders empty.
-/

namespace Intake

mutual

inductive Expression where
  /-- The left text, or the right one when the left is empty or the word `null`. -/
  | coalesce (left right : Expression)
  | concat (parts : List Expression)
  | call (name : String) (arguments : List Argument)
  /-- A text with parentheses that is not a call. -/
  | unreadable
  | literal (text : List Char)
  | path (path : List Char)

inductive Argument where
  | value (value : Value)
  | array (items : List Argument)
  | object (fields : List (String × Argument))
  /-- Any other expression, whose text is passed. -/
  | rendered (expression : Expression)

end

namespace Expression

/-- The name and the argument text of a call: a word, and parentheses up to the end. -/
def callParts? (text : List Char) : Option (List Char × List Char) :=
  let name := text.takeWhile Character.isWord
  if name = [] then none
  else
    (Text.enclosed? '(' ')' (text.dropWhile Character.isWord)).map fun inside => (name, inside)

theorem length_callParts? {text name inside : List Char}
    (found : callParts? text = some (name, inside)) : inside.length < text.length := by
  simp only [callParts?] at found
  split at found
  · simp at found
  · simp only [Option.map_eq_some_iff, Prod.mk.injEq] at found
    obtain ⟨_, enclosed, rfl, rfl⟩ := found
    have shorter := Text.length_enclosed? enclosed
    have suffix := (List.dropWhile_suffix Character.isWord (l := text)).length_le
    omega

/-- The pairs of an object literal: what stands before and after the first colon of each part. A
part without a colon is skipped. -/
def literalPairs (content : List Char) : List (List Char × List Char) :=
  if Text.isBlankText content then []
  else (Text.splitTopLevel ',' content).filterMap (Text.splitAt? ':')

/-- The parts of a list literal or of an argument list. -/
def literalItems (content : List Char) : List (List Char) :=
  if Text.isBlankText content then [] else Text.splitTopLevel ',' content

theorem length_le_of_mem_literalItems {content item : List Char}
    (member : item ∈ literalItems content) : item.length ≤ content.length := by
  simp only [literalItems] at member
  split at member
  · simp at member
  · exact Text.length_le_of_mem_splitTopLevel member

theorem length_lt_of_mem_literalPairs {content : List Char} {pair : List Char × List Char}
    (member : pair ∈ literalPairs content) : pair.2.length < content.length := by
  simp only [literalPairs] at member
  split at member
  · simp at member
  · obtain ⟨part, partMember, cut⟩ := List.mem_filterMap.1 member
    have shorter := Text.length_splitAt? cut
    have bounded := Text.length_le_of_mem_splitTopLevel partMember
    omega

/-- The key of an object literal: quotes around it are optional. -/
def literalKey (text : List Char) : String :=
  let trimmed := Text.trim text
  String.ofList ((Text.unquote? trimmed).getD trimmed)

mutual

def parse (text : List Char) : Expression :=
  match _split : Text.splitOnce? ['?', '?'] (Text.trim text) with
  | some (left, right) => .coalesce (parse left) (parsePart (Text.trim right))
  | none =>
    if _present : '~' ∈ Text.trim text then
      .concat ((Text.pieces '~' (Text.trim text)).attach.map fun piece =>
        parsePart (Text.trim piece.1))
    else if '(' ∈ Text.trim text ∧ ')' ∈ Text.trim text then
      match _found : callParts? (Text.trim text) with
      | some (name, inside) =>
        .call (String.ofList name)
          ((literalItems inside).attach.map fun item => parseArgument (Text.trim item.1))
      | none => .unreadable
    else
      match Text.unquote? (Text.trim text) with
      | some inside => .literal inside
      | none =>
        match Numeral.textValue? (Text.trim text) with
        | some value => .literal value.display
        | none => .path (Text.trim text)
termination_by 3 * text.length
decreasing_by
  · have whole := Text.length_splitOnce? _split
    have bounded := Text.length_trim_le text
    simp only [List.length_cons, List.length_nil] at whole
    omega
  · have whole := Text.length_splitOnce? _split
    have bounded := Text.length_trim_le text
    have part := Text.length_trim_le right
    simp only [List.length_cons, List.length_nil] at whole
    omega
  · have shorter := Text.length_lt_of_mem_pieces _present piece.2
    have bounded := Text.length_trim_le text
    have part := Text.length_trim_le piece.1
    omega
  · have shorter := length_callParts? _found
    have bounded := Text.length_trim_le text
    have item' := length_le_of_mem_literalItems item.2
    have part := Text.length_trim_le item.1
    omega

/-- The tree of an operand of `??` or `~`, where a quoted text stands for itself whatever it
contains. -/
def parsePart (text : List Char) : Expression :=
  match Text.unquote? text with
  | some inside => .literal inside
  | none => parse text
termination_by 3 * text.length + 1

/-- The tree of an argument: a quoted text, an object or list literal, a numeral, one of the words
`true`, `false` and `null`, or an expression. -/
def parseArgument (text : List Char) : Argument :=
  match Text.unquote? text with
  | some inside => .value (.ofChars inside)
  | none =>
    match _object : Text.enclosed? '{' '}' text with
    | some content =>
      .object ((literalPairs content).attach.map fun pair =>
        (literalKey pair.1.1, parseArgument (Text.trim pair.1.2)))
    | none =>
      match _list : Text.enclosed? '[' ']' text with
      | some content =>
        .array ((literalItems content).attach.map fun item => parseArgument (Text.trim item.1))
      | none =>
        match Numeral.textValue? text with
        | some value => .value value
        | none =>
          if text = "true".toList then .value (.bool true)
          else if text = "false".toList then .value (.bool false)
          else if text = "null".toList then .value .null
          else .rendered (parse text)
termination_by 3 * text.length + 2
decreasing_by
  · have inside := Text.length_enclosed? _object
    have shorter := length_lt_of_mem_literalPairs pair.2
    have part := Text.length_trim_le pair.1.2
    omega
  · have inside := Text.length_enclosed? _list
    have shorter := length_le_of_mem_literalItems item.2
    have part := Text.length_trim_le item.1
    omega
  · omega

end

end Expression

end Intake
