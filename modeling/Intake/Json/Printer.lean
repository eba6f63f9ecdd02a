import Intake.Json.Quoted
import Intake.Value.Basic

/-!
# Written values

Two written forms of a value in JSON: the compact one without any space, which also appears inside
texts, and one with every item on a line of its own, indented by two spaces a level.
-/

namespace Intake

namespace Value

def quotedName (name : String) : List Char :=
  Quoted.encode name.toList

mutual

def compactText : Value → List Char
  | null => "null".toList
  | bool true => "true".toList
  | bool false => "false".toList
  | number value => value.preciseText
  | text value => Quoted.encode value.toList
  | array items => '[' :: compactItems items ++ [']']
  | object fields => '{' :: compactFields fields ++ ['}']

/-- Items separated by commas. -/
def compactItems : List Value → List Char
  | [] => []
  | item :: rest => compactText item ++ compactMoreItems rest

/-- Items that follow another one. -/
def compactMoreItems : List Value → List Char
  | [] => []
  | item :: rest => ',' :: compactText item ++ compactMoreItems rest

def compactFields : List (String × Value) → List Char
  | [] => []
  | (name, content) :: rest =>
    quotedName name ++ ':' :: compactText content ++ compactMoreFields rest

/-- Fields that follow another one. -/
def compactMoreFields : List (String × Value) → List Char
  | [] => []
  | (name, content) :: rest =>
    ',' :: quotedName name ++ ':' :: compactText content ++ compactMoreFields rest

end

/-- The compact form as a string. -/
def compact (value : Value) : String :=
  String.ofList value.compactText

/-- A line end and the indentation of a level. -/
def lineStart (level : Nat) : List Char :=
  '\n' :: List.replicate (2 * level) ' '

mutual

/-- The indented form of a value inside `level` others. -/
def prettyText (level : Nat) : Value → List Char
  | array [] => ['[', ']']
  | array (item :: rest) =>
    '[' :: lineStart (level + 1) ++ prettyText (level + 1) item ++
      prettyMoreItems (level + 1) rest ++ lineStart level ++ [']']
  | object [] => ['{', '}']
  | object ((name, content) :: rest) =>
    '{' :: lineStart (level + 1) ++ quotedName name ++ ':' :: ' ' ::
      prettyText (level + 1) content ++ prettyMoreFields (level + 1) rest ++
      lineStart level ++ ['}']
  | value => compactText value

/-- Items that follow another one, each on a line of its own. -/
def prettyMoreItems (level : Nat) : List Value → List Char
  | [] => []
  | item :: rest =>
    ',' :: lineStart level ++ prettyText level item ++ prettyMoreItems level rest

/-- Fields that follow another one, each on a line of its own. -/
def prettyMoreFields (level : Nat) : List (String × Value) → List Char
  | [] => []
  | (name, content) :: rest =>
    ',' :: lineStart level ++ quotedName name ++ ':' :: ' ' :: prettyText level content ++
      prettyMoreFields level rest

end

def pretty (value : Value) : String :=
  String.ofList (value.prettyText 0)

end Value

end Intake
