import Intake.Json.Quoted
import Intake.Yaml.Cursor

/-!
# Quoted scalars

Scalars in quotes, which may run over several lines. Between single quotes a quote is written twice
and nothing else is special. Between double quotes a backslash starts an escape, and one at the end
of a line joins the lines. A document mark may not stand inside.
-/

namespace Intake

namespace Yaml

/-- The characters that a one-letter escape stands for. -/
def escaped? (mark : Char) : Option Char :=
  ([('0', 0), ('a', 7), ('b', 8), ('t', 9), ('\t', 9), ('n', 10), ('v', 11), ('f', 12), ('r', 13),
    ('e', 27), (' ', 32), ('"', 34), ('/', 47), ('\\', 92), ('N', 0x85), ('_', 0xA0),
    ('L', 0x2028), ('P', 0x2029)].lookup mark).map Char.ofNat

/-- How many hexadecimal digits follow the mark of an escape. -/
def escapeDigits? : Char → Option Nat
  | 'x' => some 2
  | 'u' => some 4
  | 'U' => some 8
  | _ => none

def hexNumber? (digits : List Char) : Option Nat :=
  digits.foldl
    (fun value? digit => do
      let value ← value?
      let next ← Quoted.hexValue? digit
      return value * 16 + next)
    (some 0)

/-- The character of an escape with hexadecimal digits; halves of surrogate pairs are refused. -/
def escapedCode? (digits : List Char) : Option Char := do
  let code ← hexNumber? digits
  if (0xD800 ≤ code ∧ code < 0xE000) ∨ 0x110000 ≤ code then none else return Char.ofNat code

/-- What an escape behind its backslash stands for, and the cursor after it. An escaped line end is
dropped, and of the blanks after it only line ends stay. -/
def escape? (cursor : Cursor) : Option (List Char × Cursor) :=
  match cursor.rest with
  | [] => none
  | mark :: behind =>
    if isBreak mark then
      let (blanks, after) := (cursor.skip 1).span isSpaceOrBreak
      some (blanks.filter isBreak, after)
    else
      match escapeDigits? mark with
      | some count =>
        if behind.length < count then none
        else
          (escapedCode? (behind.take count)).map fun character =>
            ([character], cursor.skip (count + 1))
      | none => (escaped? mark).map fun character => ([character], cursor.skip 1)

/-- Whether a character stands for itself between quotes of a kind. -/
def isOrdinary (quote character : Char) : Bool :=
  character ≠ quote && character ≠ '\\' && !isSpaceOrBreak character

/-- Whether a text starts with the quote that closes a scalar. -/
def closes (quote : Char) (text : List Char) : Bool :=
  text.head? == some quote && !(quote == '\'' && (text.drop 1).head? == some quote)

/-- What stands next between quotes, and the cursor after it: a quote written twice, an escape,
blanks or a word. -/
def quotedPiece? (quote : Char) (cursor : Cursor) : Option (List Char × Cursor) :=
  match cursor.rest with
  | [] => none
  | character :: _ =>
    if character = quote then some ([quote], cursor.skip 2)
    else if character = '\\' ∧ quote = '"' then escape? (cursor.skip 1)
    else if isSpaceOrBreak character then
      let (blanks, after) := cursor.span isSpaceOrBreak
      some (folded blanks, after)
    else
      let (word, after) := (cursor.skip 1).span (isOrdinary quote)
      some (character :: word, after)

/-- The text up to the closing quote, and the cursor after it. -/
def quotedFrom? (quote : Char) : Nat → Cursor → Option (List Char × Cursor)
  | 0, _ => none
  | fuel + 1, cursor =>
    if cursor.atDocumentMark then none
    else if closes quote cursor.rest then some ([], cursor.skip 1)
    else
      match quotedPiece? quote cursor with
      | none => none
      | some (text, after) =>
        (quotedFrom? quote fuel after).map fun read => (text ++ read.1, read.2)

/-- The text of a scalar whose opening quote has been read, and the cursor after it. -/
def quoted? (quote : Char) (cursor : Cursor) : Option (List Char × Cursor) :=
  quotedFrom? quote (cursor.rest.length + 1) cursor

end Yaml

end Intake
