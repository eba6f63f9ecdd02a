import Intake.Text.CharacterRange

/-!
# Character classes

The classes of characters that the text grammars speak of. ASCII members are decided directly and
all others by the ranges of `CharacterRange`, so a test on an ASCII character never looks at a
table. The classes of names and numerals are those of version 16 of the character set; letter case
and the tests that go with it follow version 17.
-/

namespace Intake

namespace Character

def inRanges (ranges : List (Nat × Nat)) (character : Char) : Bool :=
  ranges.any fun range => range.1 ≤ character.toNat && character.toNat ≤ range.2

def isAscii (character : Char) : Bool :=
  character.toNat < 128

/-- White space of every kind, line ends included. -/
def isBlank (character : Char) : Bool :=
  character == ' ' || (9 ≤ character.toNat && character.toNat ≤ 13) ||
    (!isAscii character &&
      inRanges [(0x85, 0x85), (0xA0, 0xA0), (0x1680, 0x1680), (0x2000, 0x200A),
        (0x2028, 0x2029), (0x202F, 0x202F), (0x205F, 0x205F), (0x3000, 0x3000)] character)

/-- Whether a character is in one of some tables, and was in version 16 already. -/
def isEstablished (tables : List (List (Nat × Nat))) (character : Char) : Bool :=
  tables.any (fun ranges => inRanges ranges character) &&
    !inRanges CharacterRange.recent character

/-- Decimal digits of every script. -/
def isDecimalDigit (character : Char) : Bool :=
  if isAscii character then character.isDigit
  else isEstablished [CharacterRange.decimalDigits] character

/-- Letters of every script. -/
def isLetter (character : Char) : Bool :=
  if isAscii character then character.isAlpha
  else isEstablished [CharacterRange.letters] character

/-- Numbers of every script, decimal or not. -/
def isNumber (character : Char) : Bool :=
  if isAscii character then character.isDigit
  else isEstablished [CharacterRange.numbers] character

/-- Alphabetic characters and numbers of every script, recent ones included. -/
def isAlphanumeric (character : Char) : Bool :=
  if isAscii character then character.isAlphanum
  else inRanges CharacterRange.letters character ||
    inRanges CharacterRange.otherAlphabetic character ||
    inRanges CharacterRange.numbers character

/-- Characters that make up a word: alphabetic characters, marks, decimal digits and connecting
punctuation such as the underscore. -/
def isWord (character : Char) : Bool :=
  if isAscii character then character.isAlphanum || character == '_'
  else
    isEstablished
      [CharacterRange.letters, CharacterRange.otherAlphabetic, CharacterRange.marks,
        CharacterRange.decimalDigits, CharacterRange.connectors]
      character

/-- Letters that have a case. -/
def isCased (character : Char) : Bool :=
  if isAscii character then character.isAlpha
  else inRanges CharacterRange.cased character

/-- Characters that do not interrupt a word when its end is looked for in case conversion. -/
def isCaseIgnorable (character : Char) : Bool :=
  if isAscii character then
    character == '\'' || character == '.' || character == ':' || character == '^' ||
      character.toNat == 0x60
  else inRanges CharacterRange.caseIgnorable character

end Character

end Intake
