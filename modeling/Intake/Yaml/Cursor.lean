import Intake.Yaml.Character

/-!
# Cursors

A text together with the line and column where it stands. The structure of a document depends on
columns, and what may be a key depends on both.
-/

namespace Intake

namespace Yaml

/-- A line, a column in characters, and an offset in the bytes of UTF-8; all count from zero. -/
structure Place where
  line : Nat := 0
  column : Nat := 0
  offset : Nat := 0
deriving DecidableEq, Repr

def Place.past (place : Place) (character : Char) : Place :=
  let offset := place.offset + character.utf8Size
  if isBreak character then ⟨place.line + 1, 0, offset⟩
  else ⟨place.line, place.column + 1, offset⟩

/-- What is left of a text, and where it stands. -/
structure Cursor extends Place where
  rest : List Char

namespace Cursor

def ofText (text : List Char) : Cursor :=
  { rest := text }

def skip (count : Nat) (cursor : Cursor) : Cursor :=
  { toPlace := (cursor.rest.take count).foldl Place.past cursor.toPlace
    rest := cursor.rest.drop count }

/-- The characters of a class at a cursor, and the cursor after them. -/
def span (isMember : Char → Bool) (cursor : Cursor) : List Char × Cursor :=
  let read := cursor.rest.takeWhile isMember
  (read, cursor.skip read.length)

/-- The cursor after the characters of a class. -/
def skipWhile (isMember : Char → Bool) (cursor : Cursor) : Cursor :=
  (cursor.span isMember).2

/-- The cursor after a character, if it stands there. -/
def expect? (character : Char) (cursor : Cursor) : Option Cursor :=
  if cursor.rest.head? = some character then some (cursor.skip 1) else none

/-- The cursor at the end of a line of which only spaces and a comment are left. -/
def restOfLine? (cursor : Cursor) : Option Cursor :=
  let behind := cursor.skipWhile isSpace
  let behind :=
    if behind.rest.head? = some '#' then behind.skipWhile fun character => !isBreak character
    else behind
  if atLineEnd behind.rest then some behind else none

/-- Whether a cursor is at a mark that opens or closes a document. -/
def atDocumentMark (cursor : Cursor) : Bool :=
  cursor.column == 0 && Yaml.atDocumentMark cursor.rest

end Cursor

end Yaml

end Intake
