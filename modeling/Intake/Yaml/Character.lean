/-!
# Characters of YAML text

The classes of characters that documents are made of. A line ends with a line feed, a carriage
return, both together or the next-line character, which are all read as a line feed; the line and
paragraph separators end a line too, but stay what they are.
-/

namespace Intake

namespace Yaml

/-- Spaces and tabs. -/
def isSpace (character : Char) : Bool :=
  character == ' ' || character == '\t'

/-- Characters that end a line. -/
def isBreak (character : Char) : Bool :=
  character == '\n' || character == '\u2028' || character == '\u2029'

/-- Spaces, tabs and line ends. -/
def isSpaceOrBreak (character : Char) : Bool :=
  isSpace character || isBreak character

/-- Whether a text is at its end or the end of a line. -/
def atLineEnd : List Char → Bool
  | [] => true
  | character :: _ => isBreak character

/-- Whether a text is at its end, the end of a line, a space or a tab. -/
def atBlank : List Char → Bool
  | [] => true
  | character :: _ => isSpaceOrBreak character

/-- Characters of the names of anchors, directives and tag handles. -/
def isNameCharacter (character : Char) : Bool :=
  character.isAlphanum || character == '_' || character == '-'

/-- The characters with a meaning of their own inside brackets. -/
def isFlowMark (character : Char) : Bool :=
  character == ',' || character == '[' || character == ']' || character == '{' ||
    character == '}'

/-- Whether a character may stand in a document. -/
def isAllowed (character : Char) : Bool :=
  let code := character.toNat
  code == 9 || code == 10 || code == 13 || (0x20 ≤ code && code ≤ 0x7E) || code == 0x85 ||
    (0xA0 ≤ code && code ≠ 0xFFFE && code ≠ 0xFFFF)

/-- Line ends as one character, the separators apart. -/
def unifyBreaks : List Char → List Char
  | [] => []
  | '\r' :: '\n' :: rest => '\n' :: unifyBreaks rest
  | '\r' :: rest => '\n' :: unifyBreaks rest
  | '\u0085' :: rest => '\n' :: unifyBreaks rest
  | character :: rest => character :: unifyBreaks rest

/-- Whether a text starts with three equal marks and a blank. -/
def atMark (mark : Char) : List Char → Bool
  | first :: second :: third :: rest =>
    first == mark && second == mark && third == mark && atBlank rest
  | _ => false

/-- Whether a text starts with the mark that opens or the mark that closes a document. -/
def atDocumentMark (text : List Char) : Bool :=
  atMark '-' text || atMark '.' text

/-- What the blanks between two words stand for. A line feed becomes a space if no other line end
follows it, and is dropped before others; a separator is kept, and so are blanks without a line
end. -/
def folded (blanks : List Char) : List Char :=
  match blanks.filter isBreak with
  | [] => blanks
  | ['\n'] => [' ']
  | '\n' :: others => others
  | breaks => breaks

end Yaml

end Intake
