import Intake.Json.Numeral
import Intake.Json.Printer

/-!
# Reading values

A reader for JSON text. It first reads the text as written, with every repetition of a key, and
then merges repeated keys: the first place and the last content remain. Arrays and objects nest no
deeper than a limit given by the caller.
-/

namespace Intake

namespace Json

def isSpace (character : Char) : Bool :=
  character == ' ' || character == '\n' || character == '\t' || character == '\r'

def skipSpace (text : List Char) : List Char :=
  text.dropWhile isSpace

/-- A value spelled as a word, or a number, and the rest of the text. -/
def readScalar (text : List Char) : Option (Value × List Char) :=
  match Text.afterPrefix? "null".toList text with
  | some rest => some (.null, rest)
  | none =>
    match Text.afterPrefix? "true".toList text with
    | some rest => some (.bool true, rest)
    | none =>
      match Text.afterPrefix? "false".toList text with
      | some rest => some (.bool false, rest)
      | none => do
        let (numeral, rest) ← JsonNumeral.take? text
        let number ← JsonNumeral.number? numeral
        return (.number number, rest)

/-- The name of a field with the colon behind it, and the rest. -/
def readName? (text : List Char) : Option (String × List Char) :=
  match skipSpace text with
  | '"' :: rest =>
    match Quoted.decode rest with
    | none => none
    | some (name, rest) =>
      match skipSpace rest with
      | ':' :: rest => some (String.ofList name, rest)
      | _ => none
  | _ => none

mutual

/-- The value at the start of a text, and the rest. The first argument bounds the number of steps,
the second the levels of nesting that are left. -/
def readValue : Nat → Nat → List Char → Option (Value × List Char)
  | 0, _, _ => none
  | fuel + 1, depth, text =>
    match skipSpace text with
    | '"' :: rest =>
      (Quoted.decode rest).map fun read => (.ofChars read.1, read.2)
    | '[' :: rest =>
      match depth with
      | 0 => none
      | depth + 1 =>
        match skipSpace rest with
        | ']' :: rest => some (.array [], rest)
        | _ => (readItems fuel depth rest).map fun read => (.array read.1, read.2)
    | '{' :: rest =>
      match depth with
      | 0 => none
      | depth + 1 =>
        match skipSpace rest with
        | '}' :: rest => some (.object [], rest)
        | _ => (readFields fuel depth rest).map fun read => (.object read.1, read.2)
    | rest => readScalar rest

/-- One or more items up to the closing bracket, and the rest. -/
def readItems : Nat → Nat → List Char → Option (List Value × List Char)
  | 0, _, _ => none
  | fuel + 1, depth, text =>
    match readValue fuel depth text with
    | none => none
    | some (item, rest) =>
      match skipSpace rest with
      | ',' :: rest => (readItems fuel depth rest).map fun read => (item :: read.1, read.2)
      | ']' :: rest => some ([item], rest)
      | _ => none

/-- One or more fields up to the closing brace, and the rest. -/
def readFields : Nat → Nat → List Char → Option (List (String × Value) × List Char)
  | 0, _, _ => none
  | fuel + 1, depth, text =>
    match readName? text with
    | none => none
    | some (name, rest) =>
      match readValue fuel depth rest with
      | none => none
      | some (content, rest) =>
        match skipSpace rest with
        | ',' :: rest =>
          (readFields fuel depth rest).map fun read => ((name, content) :: read.1, read.2)
        | '}' :: rest => some ([(name, content)], rest)
        | _ => none

end

/-- The value that makes up all of a text, with repeated keys as written. -/
def readWritten? (levels : Nat) (text : List Char) : Option Value :=
  match readValue (text.length + 1) levels text with
  | some (value, rest) => if skipSpace rest = [] then some value else none
  | none => none

end Json

namespace Value

mutual

/-- The value with repeated keys merged at every level: the first place and the last content
remain. -/
def merged : Value → Value
  | array items => array (mergedItems items)
  | object fields => object (mergedFields [] fields)
  | value => value

def mergedItems : List Value → List Value
  | [] => []
  | item :: rest => merged item :: mergedItems rest

/-- Fields written one after the other into those already there. -/
def mergedFields (written : List (String × Value)) : List (String × Value) → List (String × Value)
  | [] => written
  | (name, content) :: rest => mergedFields (Fields.insert name (merged content) written) rest

end

end Value

namespace Json

def maxLevels : Nat := 127

/-- The value that a text writes, repeated keys merged. -/
def read? (text : List Char) : Option Value :=
  (readWritten? maxLevels text).map Value.merged

def parse? (text : String) : Option Value :=
  read? text.toList

end Json

end Intake
