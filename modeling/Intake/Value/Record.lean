import Intake.Value.Basic

/-!
# Records and shapes

A document with known fields may be given as an object, or as an array of the fields in their
order. Fields that are not known are passed over, and the last fields of an array may be left out.
A field is required, has a default, or is optional; only an optional field may be null. What a
document is read for, when that is known before it is read, is its shape.
-/

namespace Intake

namespace Record

/-- The contents of a record by field name, if a value has the form of a record. -/
def contents? (names : List String) : Value → Option (String → Option Value)
  | .object fields => some fun name => Fields.get? name fields
  | .array items =>
    if items.length ≤ names.length then some fun name => Fields.get? name (names.zip items)
    else none
  | _ => none

/-- A field that must be there. -/
def required {α : Type} (read : Value → Option α) : Option Value → Option α
  | none => none
  | some value => read value

/-- A field with a default for when it is not there. -/
def defaulted {α : Type} (fallback : α) (read : Value → Option α) : Option Value → Option α
  | none => some fallback
  | some value => read value

/-- A field that may be missing or null. -/
def optional {α : Type} (read : Value → Option α) : Option Value → Option (Option α)
  | none => some none
  | some .null => some none
  | some value => (read value).map some

def natural? : Value → Option Nat
  | .number (.integer value) => if 0 ≤ value then some value.toNat else none
  | _ => none

def boolean? : Value → Option Bool
  | .bool value => some value
  | _ => none

def listOf? {α : Type} (read : Value → Option α) : Value → Option (List α)
  | .array items => items.mapM read
  | _ => none

/-- The field of a record when it has content. -/
def fieldOf (name : String) : Option Value → Fields Value
  | none => []
  | some content => [(name, content)]

/-- The field of a record that holds a text when there is one. -/
def textField (name : String) (content : Option String) : Fields Value :=
  fieldOf name (content.map Value.text)

end Record

/-- What a text is read for. -/
inductive Shape where
  | any
  | text
  | boolean
  | natural
  /-- Null, or a content of a shape. A field of a record that is null is not there. -/
  | optional (shape : Shape)
  | list (items : Shape)
  | table (contents : Shape)
  | record (fields : List (String × Shape))

/-- Whether null is admitted in the place of a content. -/
def Shape.isOptional : Shape → Bool
  | optional _ => true
  | _ => false

end Intake
