import Intake.Text.Nesting
import Intake.Value.Text

/-!
# Operands

What an operand text means: a literal, a list of operands, a path, or an expression that is
rendered as a template block would be.
-/

namespace Intake

/-- One side of a predicate. -/
inductive Operand where
  /-- A quoted text, a number, `true`, `false` or `null`. -/
  | literal (value : Value)
  | list (items : List Operand)
  | path (text : List Char)
  | expression (text : List Char)

namespace Operand

def startsPath (character : Char) : Bool :=
  character.isAlpha || character == '_' || character == '$'

def continuesName (character : Char) : Bool :=
  Character.isWord character || character == '$'

/-- The characters of a later segment of a path. -/
def continuesSegment (character : Char) : Bool :=
  continuesName character || character == '*'

/-- Whether a text is a path: a name, and segments that may be wildcards. -/
def isPath (text : List Char) : Bool :=
  match Text.pieces '.' text with
  | (first :: rest) :: segments =>
    startsPath first && rest.all continuesName &&
      segments.all fun segment => !segment.isEmpty && segment.all continuesSegment
  | _ => false

/-- The scalar that a text writes as a literal. -/
def literal? (text : List Char) : Option Value :=
  match Text.unquote? text with
  | some inside => some (.ofChars inside)
  | none =>
    match Numeral.textValue? text with
    | some value => some value
    | none =>
      if text = "true".toList then some (.bool true)
      else if text = "false".toList then some (.bool false)
      else if text = "null".toList then some .null
      else none

def listParts? (text : List Char) : Option (List (List Char)) :=
  (Text.enclosed? '[' ']' text).map fun inside =>
    if Text.isBlankText inside then [] else Text.splitTopLevel ',' inside

theorem length_lt_of_listParts? {text part : List Char} {parts : List (List Char)}
    (found : listParts? text = some parts) (member : part ∈ parts) :
    part.length < text.length := by
  simp only [listParts?, Option.map_eq_some_iff] at found
  obtain ⟨inside, enclosed, rfl⟩ := found
  have shorter := Text.length_enclosed? enclosed
  split at member
  · simp at member
  · have bounded := Text.length_le_of_mem_splitTopLevel member
    omega

def parse (text : List Char) : Operand :=
  match literal? (Text.trim text) with
  | some value => .literal value
  | none =>
    match _list : listParts? (Text.trim text) with
    | some parts => .list (parts.attach.map fun part => parse part.1)
    | none =>
      if isPath (Text.trim text) then .path (Text.trim text) else .expression (Text.trim text)
termination_by text.length
decreasing_by
  have shorter := length_lt_of_listParts? _list part.2
  have bounded := Text.length_trim_le text
  omega

end Operand

end Intake
