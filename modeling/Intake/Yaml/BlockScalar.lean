import Intake.Yaml.Cursor

/-!
# Block scalars

Scalars whose lines are set off by their indentation. A literal one keeps its line ends; a folded
one joins lines that neither start with a blank nor have empty lines between them. A head tells what
happens to the line ends behind the last line, and may tell the indentation.
-/

namespace Intake

namespace Yaml

/-- What happens to the line ends at the end of a block scalar. -/
inductive Chomping where
  | strip
  | clip
  | keep
deriving DecidableEq, Repr

structure BlockHead where
  chomping : Chomping := .clip
  /-- The indentation relative to what holds the scalar. -/
  indent : Option Nat := none

def chomping? : Char → Option Chomping
  | '-' => some .strip
  | '+' => some .keep
  | _ => none

/-- The indicators of a block scalar's head: the chomping and the indentation in either order. An
indentation of zero is refused. -/
def BlockHead.read? (cursor : Cursor) : Option (BlockHead × Cursor) :=
  let indicator (index : Nat) : Char := (cursor.rest[index]?).getD '\n'
  let indent (digit : Char) : Option Nat :=
    if digit = '0' then none else some (digit.toNat - 48)
  match chomping? (indicator 0), chomping? (indicator 1) with
  | some chomping, _ =>
    if (indicator 1).isDigit then
      (indent (indicator 1)).map fun width => (⟨chomping, some width⟩, cursor.skip 2)
    else some (⟨chomping, none⟩, cursor.skip 1)
  | none, second =>
    if (indicator 0).isDigit then
      (indent (indicator 0)).map fun width =>
        (⟨second.getD .clip, some width⟩, cursor.skip (if second.isSome then 2 else 1))
    else some ({}, cursor)

/-- The line ends of lines that have nothing but indentation, the column of the widest of them and
of the next line, and the cursor behind its indentation. Indentation goes up to a column, if that is
known, and must not have tabs. -/
def indentation? (column? : Option Nat) : Nat → Nat → Cursor → Option (List Char × Nat × Cursor)
  | 0, _, _ => none
  | fuel + 1, widest, cursor =>
    let spaces := (cursor.rest.takeWhile (· == ' ')).length
    let width := column?.elim spaces fun column => min spaces (column - cursor.column)
    let behind := cursor.skip width
    let widest := max widest behind.column
    match behind.rest with
    | [] => some ([], widest, behind)
    | character :: _ =>
      if character = '\t' ∧ column?.all (behind.column < ·) then none
      else if isBreak character then
        (indentation? column? fuel widest (behind.skip 1)).map fun read =>
          (character :: read.1, read.2)
      else some ([], widest, behind)

/-- What stands between two lines of a block scalar: the end of the first and the line ends of
empty lines. -/
def lineJoint (folds : Bool) (lineEnd breaks : List Char) : List Char :=
  if folds ∧ lineEnd = ['\n'] then (if breaks = [] then [' '] else breaks)
  else lineEnd ++ breaks

/-- The lines of a block scalar, and where they end. -/
structure BlockLines where
  text : List Char
  /-- The end of the last line, and those of the empty lines behind it. -/
  lineEnd : List Char
  breaks : List Char
  after : Cursor

/-- The lines at a column that follow a line with a given end and empty lines. The first argument
exceeds the number of characters that are left; the second tells whether that line started with a
blank. -/
def blockLines? (folds : Bool) (column : Nat) :
    Nat → Bool → List Char → List Char → Cursor → Option BlockLines
  | 0, _, _, _, _ => none
  | fuel + 1, afterBlank, lineEnd, breaks, cursor =>
    if cursor.column ≠ column ∨ cursor.rest = [] then some ⟨[], lineEnd, breaks, cursor⟩
    else
      let startsBlank := cursor.rest.head?.any isSpace
      let (line, behind) := cursor.span fun character => !isBreak character
      let nextEnd := behind.rest.take 1
      match indentation? (some column) fuel 0 (behind.skip 1) with
      | none => none
      | some (nextBreaks, _, next) =>
        (blockLines? folds column fuel startsBlank nextEnd nextBreaks next).map fun others =>
          { others with
            text := lineJoint (folds && !afterBlank && !startsBlank) lineEnd breaks ++ line ++
              others.text }

/-- The text of a block scalar's lines. -/
def BlockLines.chomped (lines : BlockLines) : Chomping → List Char
  | .strip => lines.text
  | .clip => lines.text ++ lines.lineEnd
  | .keep => lines.text ++ lines.lineEnd ++ lines.breaks

/-- The text of the block scalar behind its first character, and the cursor after it. What holds the
scalar lies at the column `outer`, if anything does; the scalar's lines lie further in. -/
def blockScalar? (folds : Bool) (outer : Option Nat) (cursor : Cursor) :
    Option (List Char × Cursor) := do
  let (head, behind) ← BlockHead.read? cursor
  let lineEnd ← behind.restOfLine?
  let first := lineEnd.skip 1
  let fuel := first.rest.length + 1
  let least := outer.elim 1 (· + 1)
  let given := head.indent.map (outer.getD 0 + ·)
  let (breaks, widest, start) ← indentation? given fuel 0 first
  let lines ← blockLines? folds (given.getD (max widest least)) fuel false [] breaks start
  return (lines.chomped head.chomping, lines.after)

end Yaml

end Intake
