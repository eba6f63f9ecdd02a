import Intake.Text.Basic
import Intake.Value.Basic
import Intake.Number.Numeral

/-!
# Paths into values

A path names a place inside a value by segments separated by dots: a field of an object or an
index of an array. The segment `*` goes to every child at once and collects what the rest of the
path finds there.
-/

namespace Intake

namespace Path

/-- The index that a segment writes: ASCII digits after an optional plus sign, within a 64-bit
word. -/
def index? (segment : List Char) : Option Nat :=
  let digits :=
    match segment with
    | '+' :: rest => rest
    | rest => rest
  if digits ≠ [] ∧ digits.all Char.isDigit ∧ Numeral.digitsValue digits < twoTo 64 then
    some (Numeral.digitsValue digits)
  else none

/-- The child of a value that a segment names. -/
def child? (segment : List Char) : Value → Option Value
  | .object fields => Fields.get? (String.ofList segment) fields
  | .array items => (index? segment).bind fun index => items[index]?
  | _ => none

/-- The items of an array or the contents of an object. -/
def children? : Value → Option (List Value)
  | .array items => some items
  | .object fields => some (Fields.contents fields)
  | _ => none

/-- The segment that stands for every child. -/
def wildcard : List Char := ['*']

/-- Collected values; when the rest of the path has a wildcard of its own, collected arrays are
joined into one. -/
def collect (nested : Bool) (found : List Value) : Value :=
  .array <|
    if nested then
      found.flatMap fun value =>
        match value with
        | .array items => items
        | other => [other]
    else found

/-- The value that a list of segments leads to. -/
def follow : List (List Char) → Value → Option Value
  | [], value => some value
  | segment :: rest, value =>
    if segment = wildcard then
      (children? value).map fun children =>
        collect (rest.contains wildcard)
          (children.map fun child => (follow rest child).getD .null)
    else (child? segment value).bind (follow rest)

def segments (path : List Char) : List (List Char) :=
  (Text.pieces '.' path).map Text.trim

end Path

namespace Value

/-- The value at a path; the blank path leads to the value itself. -/
def get? (path : List Char) (value : Value) : Option Value :=
  let trimmed := Text.trim path
  if trimmed = [] then some value else Path.follow (Path.segments trimmed) value

end Value

end Intake
