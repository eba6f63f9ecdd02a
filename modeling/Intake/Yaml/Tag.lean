import Intake.Yaml.Quoted
import Intake.Yaml.Token

/-!
# Tags, anchors and directives

The tokens that give a node a name or a type, and the directives in front of a document. A tag is
written in full between angle brackets, or behind a handle that stands for its start.
-/

namespace Intake

namespace Yaml

/-- The octet of a percent escape at the start of a text, and the rest. -/
def escapedOctet? : List Char → Option (Nat × List Char)
  | '%' :: high :: low :: rest => (hexNumber? [high, low]).map fun octet => (octet, rest)
  | _ => none

/-- How many octets follow the first one of a character, and what it adds to the code. -/
def leadingOctet? (octet : Nat) : Option (Nat × Nat) :=
  if octet < 0x80 then some (0, octet)
  else if octet < 0xC0 then none
  else if octet < 0xE0 then some (1, octet - 0xC0)
  else if octet < 0xF0 then some (2, octet - 0xE0)
  else if octet < 0xF8 then some (3, octet - 0xF0)
  else none

/-- The code of a character of which a part and a number of further octets are left. -/
def trailingOctets? : Nat → Nat → List Char → Option (Nat × List Char)
  | 0, code, text => some (code, text)
  | count + 1, code, text =>
    match escapedOctet? text with
    | some (octet, rest) =>
      if 0x80 ≤ octet ∧ octet < 0xC0 then trailingOctets? count (64 * code + (octet - 0x80)) rest
      else none
    | none => none

/-- The character that percent escapes write, and the rest. -/
def escapedCharacter? (text : List Char) : Option (Char × List Char) := do
  let (octet, rest) ← escapedOctet? text
  let (count, part) ← leadingOctet? octet
  let (code, after) ← trailingOctets? count part rest
  return (Char.ofNat code, after)

/-- Characters of tags. Flow marks other than braces may stand only where no handle does. -/
def isTagCharacter (whole : Bool) (character : Char) : Bool :=
  isNameCharacter character ||
    [';', '/', '?', ':', '@', '&', '=', '+', '$', '.', '%', '!', '~', '*', '\'', '(', ')'].contains
      character ||
    (whole && [',', '[', ']'].contains character)

/-- The text of a tag with its percent escapes read. -/
def unescapedTag? : Nat → List Char → Option (List Char)
  | 0, _ => none
  | _ + 1, [] => some []
  | fuel + 1, '%' :: rest =>
    match escapedCharacter? ('%' :: rest) with
    | some (character, after) => (unescapedTag? fuel after).map (character :: ·)
    | none => none
  | fuel + 1, character :: rest => (unescapedTag? fuel rest).map (character :: ·)

/-- The characters of a tag at a cursor, and the cursor after them. -/
def tagText? (whole : Bool) (cursor : Cursor) : Option (List Char × Cursor) :=
  let (written, after) := cursor.span (isTagCharacter whole)
  (unescapedTag? (written.length + 1) written).map fun text => (text, after)

/-- The handle at a cursor, and the cursor after it: an exclamation mark, with a name and a second
one if they follow. -/
def handle? (cursor : Cursor) : Option (List Char × Cursor) := do
  let behind ← cursor.expect? '!'
  let (name, after) := behind.span isNameCharacter
  match after.expect? '!' with
  | some closed => return ('!' :: name ++ ['!'], closed)
  | none => return (['!'], behind)

/-- The tag at a cursor as a token, and the cursor after it. -/
def tag? (cursor : Cursor) : Option (Token × Cursor) := do
  if (cursor.rest.drop 1).head? = some '<' then
    let (text, behind) ← tagText? true (cursor.skip 2)
    let after ← behind.expect? '>'
    if text = [] then none else return (.tag [] text, after)
  else
    let (name, behind) ← handle? cursor
    let (suffix, after) ← tagText? false behind
    if name = ['!'] then
      return (if suffix = [] then .tag [] name else .tag name suffix, after)
    else if suffix = [] then none
    else return (.tag name suffix, after)

/-- The tag at a cursor, behind which a blank must follow, or a comma inside brackets. -/
def separatedTag? (inFlow : Bool) (cursor : Cursor) : Option (Token × Cursor) :=
  (tag? cursor).filter fun read =>
    atBlank read.2.rest || (inFlow && read.2.rest.head? == some ',')

def anchorName? (cursor : Cursor) : Option (List Char × Cursor) :=
  let (name, after) := cursor.span isNameCharacter
  let ends (character : Char) : Bool :=
    ['?', ':', ',', ']', '}', '%', '@', Char.ofNat 0x60].contains character
  if name ≠ [] ∧ (atBlank after.rest ∨ after.rest.head?.any ends) then some (name, after) else none

/-- The number of at most nine digits at a cursor, and the cursor after it. -/
def versionNumber? (cursor : Cursor) : Option (Nat × Cursor) :=
  let (digits, after) := cursor.span Char.isDigit
  if digits = [] ∨ 9 < digits.length then none
  else some (digits.foldl (fun value digit => 10 * value + (digit.toNat - 48)) 0, after)

/-- The version behind the name of its directive, and the cursor after it. -/
def version? (cursor : Cursor) : Option (Token × Cursor) := do
  let (major, behind) ← versionNumber? (cursor.skipWhile isSpace)
  let (minor, after) ← versionNumber? (← behind.expect? '.')
  return (.version major minor, after)

/-- The handle and the start of tags behind the name of their directive, and the cursor after
them. -/
def handleDirective? (cursor : Cursor) : Option (Token × Cursor) := do
  let first := cursor.skipWhile isSpace
  let (name, behind) ← handle? first
  if !behind.rest.head?.any isSpace then none
  let (start, after) ← tagText? true (behind.skipWhile isSpace)
  if start = [] ∨ !atBlank after.rest then none
  return (.handle name start, after)

/-- The directive behind its percent sign, and the cursor after its line. -/
def directive? (cursor : Cursor) : Option (Token × Cursor) := do
  let (name, behind) := cursor.span isNameCharacter
  if !atBlank behind.rest then none
  let (token, after) ←
    if name = "YAML".toList then version? behind
    else if name = "TAG".toList then handleDirective? behind
    else none
  let lineEnd ← after.restOfLine?
  return (token, lineEnd.skip 1)

end Yaml

end Intake
