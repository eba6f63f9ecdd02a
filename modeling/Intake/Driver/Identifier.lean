import Intake.Text.Basic

/-!
# Versions and type identifiers

The shapes of two header fields of a driver. A version is two or three runs of digits separated by
points. A type identifier is a chain of names separated by a backslash or by two colons, with an
optional backslash in front.
-/

namespace Intake

namespace Identifier

def isVersion (text : List Char) : Bool :=
  let parts := Text.pieces '.' text
  (parts.length == 2 || parts.length == 3) &&
    parts.all fun part => !part.isEmpty && part.all Character.isDecimalDigit

def startsName (character : Char) : Bool :=
  Character.isLetter character || character == '_'

def continuesName (character : Char) : Bool :=
  Character.isLetter character || Character.isNumber character || character == '_'

/-- Whether a text is a chain of names; `atStart` says that a name must start here. -/
def isChain (atStart : Bool) : List Char → Bool
  | [] => !atStart
  | ':' :: ':' :: rest => !atStart && isChain true rest
  | character :: rest =>
    if atStart then startsName character && isChain false rest
    else if character = '\\' then isChain true rest
    else continuesName character && isChain false rest

def isIdentifier (text : List Char) : Bool :=
  match text with
  | '\\' :: rest => isChain true rest
  | rest => isChain true rest

/-- What follows the last occurrence of a pattern, or the whole text. -/
def afterLast (pattern text : List Char) : List Char :=
  match Text.splitOnce? pattern.reverse text.reverse with
  | some (last, _) => last.reverse
  | none => text

def shortName (text : List Char) : List Char :=
  afterLast [':', ':'] (Text.lastPiece '\\' text)

end Identifier

end Intake
