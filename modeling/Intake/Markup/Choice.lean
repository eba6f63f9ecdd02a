import Intake.Text.Basic

/-!
# Choices

The expression `condition ? "first" : "second"`. The condition ends at the first question mark
that both quoted texts follow up to the end.
-/

namespace Intake

namespace Markup

/-- A choice between two texts. -/
structure Choice where
  condition : List Char
  first : List Char
  second : List Char
deriving DecidableEq, Repr

/-- A text in double quotes at the start of a text, and what follows it. -/
def doubleQuoted? : List Char → Option (List Char × List Char)
  | '"' :: rest => Text.splitAt? '"' rest
  | _ => none

/-- The text after white space and one expected character. -/
def afterMark? (mark : Char) (text : List Char) : Option (List Char) :=
  Text.afterPrefix? [mark] (Text.trimStart text)

/-- The two texts of a choice whose condition has been read. -/
def branches? (text : List Char) : Option (List Char × List Char) := do
  let rest ← afterMark? '?' text
  let (first, rest) ← doubleQuoted? (Text.trimStart rest)
  let rest ← afterMark? ':' rest
  let (second, rest) ← doubleQuoted? (Text.trimStart rest)
  if rest = [] then return (first, second) else none

/-- The choice whose condition starts with the reversed text `read`. The condition has at least
one character and no line break. -/
def Choice.readFrom? (read : List Char) : List Char → Option Choice
  | [] => none
  | character :: rest =>
    match if read = [] then none else branches? (character :: rest) with
    | some (first, second) => some ⟨Text.trim read.reverse, first, second⟩
    | none => if character = '\n' then none else readFrom? (character :: read) rest

def Choice.read? (text : List Char) : Option Choice :=
  readFrom? [] text

end Markup

end Intake
