import Intake.Json.Skip
import Intake.Value.Record

/-!
# Reading values for a shape

JSON text that is read for a known purpose. A record may be given as an object, whose known fields
must not be repeated and whose other fields are passed over, or as an array of its fields in their
order, of which the last may be left out. What is read is an object with the known fields only.
-/

namespace Intake

namespace Json

/-- The fields of a record that are there: an optional field that is null is not. -/
def present (known : List (String × Shape)) (fields : Fields Value) : Fields Value :=
  fields.filter fun field =>
    !(field.2.isNull && (Fields.get? field.1 known).any Shape.isOptional)

mutual

/-- The value at the start of a text that is read for a shape, and the rest. The first argument
bounds the number of steps, the second the levels of nesting that are left. -/
def shapedValue? : Nat → Nat → Shape → List Char → Option (Value × List Char)
  | 0, _, _, _ => none
  | fuel + 1, levels, shape, text =>
    match shape, levels, skipSpace text with
    | .any, levels, rest =>
      (readValue (fuel + 1) levels rest).map fun read => (read.1.merged, read.2)
    | .text, _, '"' :: rest => (Quoted.decode rest).map fun read => (.ofChars read.1, read.2)
    | .boolean, levels, rest =>
      (readValue (fuel + 1) levels rest).bind fun read =>
        (Record.boolean? read.1).map fun value => (.bool value, read.2)
    | .natural, levels, rest =>
      (readValue (fuel + 1) levels rest).bind fun read =>
        (Record.natural? read.1).map fun value => (.ofNat value, read.2)
    | .optional shape, levels, rest =>
      match Text.afterPrefix? "null".toList rest with
      | some rest => some (.null, rest)
      | none => shapedValue? fuel levels shape rest
    | .list items, levels + 1, '[' :: rest =>
      match skipSpace rest with
      | ']' :: rest => some (.array [], rest)
      | _ => (shapedItems? fuel levels items rest).map fun read => (.array read.1, read.2)
    | .table contents, levels + 1, '{' :: rest =>
      match skipSpace rest with
      | '}' :: rest => some (.object [], rest)
      | _ =>
        (shapedEntries? fuel levels contents rest).map fun read =>
          (.object (Fields.ofPairs read.1), read.2)
    | .record fields, levels + 1, '{' :: rest =>
      match skipSpace rest with
      | '}' :: rest => some (.object [], rest)
      | _ =>
        (shapedFields? fuel levels fields [] rest).map fun read =>
          (.object (present fields read.1), read.2)
    | .record fields, levels + 1, '[' :: rest =>
      match skipSpace rest with
      | ']' :: rest => some (.object [], rest)
      | _ =>
        (shapedRow? fuel levels fields rest).map fun read =>
          (.object (present fields read.1), read.2)
    | _, _, _ => none

/-- One or more items of a shape up to the closing bracket, and the rest. -/
def shapedItems? : Nat → Nat → Shape → List Char → Option (List Value × List Char)
  | 0, _, _, _ => none
  | fuel + 1, levels, shape, text =>
    match shapedValue? fuel levels shape text with
    | none => none
    | some (item, rest) =>
      match skipSpace rest with
      | ',' :: rest =>
        (shapedItems? fuel levels shape rest).map fun read => (item :: read.1, read.2)
      | ']' :: rest => some ([item], rest)
      | _ => none

/-- One or more contents by name up to the closing brace, and the rest. -/
def shapedEntries? : Nat → Nat → Shape → List Char → Option (Fields Value × List Char)
  | 0, _, _, _ => none
  | fuel + 1, levels, shape, text =>
    match readName? text with
    | none => none
    | some (name, rest) =>
      match shapedValue? fuel levels shape rest with
      | none => none
      | some (content, rest) =>
        match skipSpace rest with
        | ',' :: rest =>
          (shapedEntries? fuel levels shape rest).map fun read =>
            ((name, content) :: read.1, read.2)
        | '}' :: rest => some ([(name, content)], rest)
        | _ => none

/-- One or more fields up to the closing brace, of which the known ones are added to those already
read, and the rest. -/
def shapedFields? : Nat → Nat → List (String × Shape) → Fields Value → List Char →
    Option (Fields Value × List Char)
  | 0, _, _, _, _ => none
  | fuel + 1, levels, known, written, text =>
    match readName? text with
    | none => none
    | some (name, rest) =>
      let field :=
        match Fields.get? name known with
        | none => (skipValue? (rest.length + 1) rest).map fun rest => (written, rest)
        | some shape =>
          if Fields.has name written then none
          else
            (shapedValue? fuel levels shape rest).map fun read =>
              (written ++ [(name, read.1)], read.2)
      match field with
      | none => none
      | some (written, rest) =>
        match skipSpace rest with
        | ',' :: rest => shapedFields? fuel levels known written rest
        | '}' :: rest => some (written, rest)
        | _ => none

/-- One or more fields in their order up to the closing bracket, and the rest. -/
def shapedRow? : Nat → Nat → List (String × Shape) → List Char →
    Option (Fields Value × List Char)
  | 0, _, _, _ => none
  | _, _, [], _ => none
  | fuel + 1, levels, (name, shape) :: known, text =>
    match shapedValue? fuel levels shape text with
    | none => none
    | some (content, rest) =>
      match skipSpace rest with
      | ',' :: rest =>
        (shapedRow? fuel levels known rest).map fun read => ((name, content) :: read.1, read.2)
      | ']' :: rest => some ([(name, content)], rest)
      | _ => none

end

/-- The value that makes up all of a text that is read for a shape. -/
def readShaped? (shape : Shape) (text : List Char) : Option Value :=
  match shapedValue? (3 * text.length + 3) maxLevels shape text with
  | some (value, rest) => if skipSpace rest = [] then some value else none
  | none => none

end Json

end Intake
