import Intake.Yaml.BlockScalar
import Intake.Yaml.Layout
import Intake.Yaml.Plain
import Intake.Yaml.Tag

/-!
# Reading tokens

The tokens of a whole document text. Where a token starts decides which block collections end before
it, and its first characters which token it is.
-/

namespace Intake

namespace Yaml

/-- The cursor at the next token, behind spaces, comments and line ends, and whether a key may start
there. Tabs are skipped only where no key may start; outside brackets a key may start on every new
line. -/
def nextToken (inFlow : Bool) : Nat → Bool → Cursor → Cursor × Bool
  | 0, admitsKey, cursor => (cursor, admitsKey)
  | fuel + 1, admitsKey, cursor =>
    let isSkipped (character : Char) : Bool :=
      character == ' ' || (character == '\t' && (inFlow || !admitsKey))
    let start :=
      if cursor.column = 0 ∧ cursor.rest.head? = some '\uFEFF' then cursor.skip 1 else cursor
    let behind := start.skipWhile isSkipped
    let behind :=
      if behind.rest.head? = some '#' then behind.skipWhile fun character => !isBreak character
      else behind
    if behind.rest.head?.any isBreak then
      nextToken inFlow fuel (admitsKey || !inFlow) (behind.skip 1)
    else (behind, admitsKey)

/-- The mark of a document at a cursor. -/
def documentMark? (cursor : Cursor) : Option Token :=
  if cursor.column ≠ 0 then none
  else if atMark '-' cursor.rest then some .documentStart
  else if atMark '.' cursor.rest then some .documentEnd
  else none

def readQuoted? (quote : Char) (cursor : Cursor) (layout : Layout) : Option (Layout × Cursor) := do
  let (text, after) ← quoted? quote (cursor.skip 1)
  return (← layout.nodeToken? cursor.toPlace (.scalar .quoted text), after)

def readBlockScalar? (folds : Bool) (cursor : Cursor) (layout : Layout) :
    Option (Layout × Cursor) := do
  let style : ScalarStyle := if folds then .folded else .literal
  let (text, after) ← blockScalar? folds layout.columns.head? (cursor.skip 1)
  let layout ← layout.dropStart?
  return ((layout.push (.scalar style text)).admitting true, after)

/-- Reads a plain scalar. A key may start behind it if it is followed by a new line. -/
def readPlain? (cursor : Cursor) (layout : Layout) : Option (Layout × Cursor) := do
  let scalar ← plain? layout.inFlow layout.least cursor
  let layout ← layout.nodeToken? cursor.toPlace (.scalar .plain scalar.text)
  return (layout.admitting scalar.lineEnded, scalar.after)

/-- Reads an anchor, or a reference to one. -/
def readName? (token : List Char → Token) (cursor : Cursor) (layout : Layout) :
    Option (Layout × Cursor) := do
  let (name, after) ← anchorName? (cursor.skip 1)
  return (← layout.nodeToken? cursor.toPlace (token name), after)

def readTag? (cursor : Cursor) (layout : Layout) : Option (Layout × Cursor) := do
  let (token, after) ← separatedTag? layout.inFlow cursor
  return (← layout.nodeToken? cursor.toPlace token, after)

def readDirective? (cursor : Cursor) (layout : Layout) : Option (Layout × Cursor) := do
  let (token, after) ← directive? (cursor.skip 1)
  return (← layout.apart? token, after)

/-- Reads the token that a character starts, inside a document and not at its mark. -/
def readNodeToken? (character : Char) (behind : List Char) (cursor : Cursor) (layout : Layout) :
    Option (Layout × Cursor) :=
  let next (layout? : Option Layout) : Option (Layout × Cursor) :=
    layout?.map fun layout => (layout, cursor.skip 1)
  let separated := layout.inFlow || atBlank behind
  match character with
  | '[' => next (layout.openFlow? cursor.toPlace .flowSequenceStart)
  | '{' => next (layout.openFlow? cursor.toPlace .flowMappingStart)
  | ']' => next (layout.closeFlow? .flowSequenceEnd)
  | '}' => next (layout.closeFlow? .flowMappingEnd)
  | ',' => next layout.comma?
  | '*' => readName? .reference cursor layout
  | '&' => readName? .anchor cursor layout
  | '!' => readTag? cursor layout
  | '\'' | '"' => readQuoted? character cursor layout
  | _ =>
    if character = '-' ∧ atBlank behind then next (layout.dash? cursor.column)
    else if character = '?' ∧ separated then next (layout.question? cursor.column)
    else if character = ':' ∧ separated then next (layout.colon? cursor.toPlace)
    else if character = '|' ∧ !layout.inFlow then readBlockScalar? false cursor layout
    else if character = '>' ∧ !layout.inFlow then readBlockScalar? true cursor layout
    else if startsPlain layout.inFlow (character :: behind) then readPlain? cursor layout
    else none

/-- Reads the token at a cursor that is not at the end. -/
def readToken? (cursor : Cursor) (layout : Layout) : Option (Layout × Cursor) :=
  match cursor.rest with
  | [] => none
  | character :: behind =>
    if cursor.column = 0 ∧ character = '%' then readDirective? cursor layout
    else
      match documentMark? cursor with
      | some mark => (layout.apart? mark).map fun layout => (layout, cursor.skip 3)
      | none => readNodeToken? character behind cursor layout

/-- The tokens of a text, of which some have been read. The first argument exceeds the number of
characters that are left. -/
def tokensFrom? : Nat → Cursor → Layout → Option (List Token)
  | 0, _, _ => none
  | fuel + 1, cursor, layout =>
    let (cursor, admitsKey) := nextToken layout.inFlow (fuel + 1) layout.admitsKey cursor
    let layout := (layout.admitting admitsKey).closeBeyond cursor.column
    if cursor.rest = [] then layout.closeAll.dropStart?.map (·.written.reverse)
    else
      match readToken? cursor layout with
      | none => none
      | some (layout, cursor) => tokensFrom? fuel cursor layout

def tokens? (text : List Char) : Option (List Token) :=
  if text.all isAllowed then
    let cursor := Cursor.ofText (unifyBreaks text)
    tokensFrom? (cursor.rest.length + 1) cursor {}
  else none

end Yaml

end Intake
