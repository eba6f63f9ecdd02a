import Intake.Yaml.Cursor

/-!
# Plain scalars

Scalars without quotes. A plain scalar ends before a colon that a blank follows, before a comment
and, inside brackets, before a mark of theirs. It goes on over further lines as long as they lie
inside what holds it.
-/

namespace Intake

namespace Yaml

/-- Whether a plain scalar can start here. Inside brackets a question mark or colon cannot start
one. -/
def startsPlain (inFlow : Bool) : List Char → Bool
  | [] => false
  | character :: rest =>
    if character = '-' then !rest.head?.any isSpace
    else if character = '?' ∨ character = ':' then !inFlow && !atBlank rest
    else
      !(isSpaceOrBreak character || isFlowMark character || character == '#' ||
        character == '&' || character == '*' || character == '!' || character == '|' ||
        character == '>' || character == '\'' || character == '"' || character == '%' ||
        character == '@' || character.toNat == 0x60)

/-- Whether a plain scalar ends before a character. -/
def endsPlain (inFlow : Bool) (character : Char) (rest : List Char) : Bool :=
  isSpaceOrBreak character || (character == ':' && atBlank rest) ||
    (inFlow && isFlowMark character)

/-- The word of a plain scalar at the start of a text. None when a colon inside brackets is followed
by a mark. -/
def plainWord? (inFlow : Bool) : List Char → Option (List Char)
  | [] => some []
  | character :: rest =>
    if inFlow ∧ character = ':' ∧ rest.head?.any (fun next => isFlowMark next || next == '?') then
      none
    else if endsPlain inFlow character rest then some []
    else (plainWord? inFlow rest).map (character :: ·)

/-- Whether blanks have a tab before a column at the start of a line. The current column is known
once a line has ended. -/
def hasEarlyTab (least : Nat) (column? : Option Nat) : List Char → Bool
  | [] => false
  | character :: rest =>
    if isBreak character then hasEarlyTab least (some 0) rest
    else
      (character == '\t' && column?.any (· < least)) ||
        hasEarlyTab least (column?.map (· + 1)) rest

/-- A plain scalar: its text, whether the cursor after it has passed the end of its last line, and
that cursor. -/
structure PlainScalar where
  text : List Char
  lineEnded : Bool
  after : Cursor

/-- The words of a plain scalar after some blanks. Further lines lie at least at a column. -/
def plainFrom? (inFlow : Bool) (least : Nat) : Nat → List Char → Cursor → Option PlainScalar
  | 0, _, _ => none
  | fuel + 1, blanks, cursor =>
    let done : PlainScalar := ⟨[], blanks.any isBreak, cursor⟩
    if cursor.atDocumentMark ∨ cursor.rest.head? = some '#' then some done
    else
      match plainWord? inFlow cursor.rest with
      | none => none
      | some [] => some done
      | some word =>
        let behind := cursor.skip word.length
        let (between, next) := behind.span isSpaceOrBreak
        let text := folded blanks ++ word
        if between = [] then some ⟨text, false, behind⟩
        else if hasEarlyTab least none between then none
        else if !inFlow ∧ next.column < least then some ⟨text, between.any isBreak, next⟩
        else
          (plainFrom? inFlow least fuel between next).map fun others =>
            { others with text := text ++ others.text }

def plain? (inFlow : Bool) (least : Nat) (cursor : Cursor) : Option PlainScalar :=
  plainFrom? inFlow least (cursor.rest.length + 1) [] cursor

end Yaml

end Intake
