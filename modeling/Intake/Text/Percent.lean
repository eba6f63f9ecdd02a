import Intake.Text.Basic

/-!
# Percent encoding

Two encodings of a text as ASCII: one for a segment of a path, one for the keys and values of a
query. A character that is kept stands for itself; each byte of any other character's UTF-8 form
is written as `%` and two capital hexadecimal digits.
-/

namespace Intake

namespace Percent

/-- The capital hexadecimal digit of a number below sixteen. -/
def hexDigit (value : Nat) : Char :=
  Char.ofNat (if value < 10 then 48 + value else 55 + value)

def encodeByte (byte : UInt8) : List Char :=
  ['%', hexDigit (byte.toNat / 16), hexDigit (byte.toNat % 16)]

/-- One character, kept or written byte by byte. -/
def encodeChar (keep : Char → Bool) (character : Char) : List Char :=
  if keep character then [character]
  else (String.utf8EncodeChar character).flatMap encodeByte

/-- Letters, digits and `-._~` are kept in a segment of a path. -/
def keptInPath (character : Char) : Bool :=
  character.isAlphanum || character == '-' || character == '.' || character == '_' ||
    character == '~'

/-- Letters, digits and `*-._` are kept in a query. -/
def keptInQuery (character : Char) : Bool :=
  character.isAlphanum || character == '*' || character == '-' || character == '.' ||
    character == '_'

/-- A text as one segment of a path. -/
def pathSegment (text : List Char) : List Char :=
  text.flatMap (encodeChar keptInPath)

/-- A text as a key or value of a query; a space becomes a plus sign. -/
def queryPart (text : List Char) : List Char :=
  text.flatMap fun character =>
    if character = ' ' then ['+'] else encodeChar keptInQuery character

/-- Pairs of texts as a query: `key=value`, joined by `&`. -/
def query (pairs : List (List Char × List Char)) : List Char :=
  Text.joined ['&'] (pairs.map fun pair => queryPart pair.1 ++ '=' :: queryPart pair.2)

end Percent

end Intake
