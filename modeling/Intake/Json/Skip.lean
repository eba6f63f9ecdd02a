import Intake.Json.Reader

/-!
# Passing over values

A field that is not asked for has to be well formed, but not to mean anything: its numbers may be
too large, its strings may hold half a surrogate pair, and it may nest to any depth.
-/

namespace Intake

namespace Json

/-- What follows the closing quote of a string whose opening quote has been passed. -/
def skipString? : Nat → List Char → Option (List Char)
  | 0, _ => none
  | fuel + 1, text =>
    match text with
    | '"' :: rest => some rest
    | '\\' :: 'u' :: a :: b :: c :: d :: rest =>
      (Quoted.codeUnit? a b c d).bind fun _ => skipString? fuel rest
    | '\\' :: mark :: rest => (Quoted.simpleEscape? mark).bind fun _ => skipString? fuel rest
    | first :: rest => if first.toNat < 32 ∨ first = '\\' then none else skipString? fuel rest
    | [] => none

def skipScalar? (text : List Char) : Option (List Char) :=
  match ["null".toList, "true".toList, "false".toList].findSome? fun word =>
      Text.afterPrefix? word text with
  | some rest => some rest
  | none => (JsonNumeral.take? text).map Prod.snd

mutual

def skipValue? : Nat → List Char → Option (List Char)
  | 0, _ => none
  | fuel + 1, text =>
    match skipSpace text with
    | '"' :: rest => skipString? (rest.length + 1) rest
    | '[' :: rest =>
      match skipSpace rest with
      | ']' :: rest => some rest
      | _ => skipItems? fuel rest
    | '{' :: rest =>
      match skipSpace rest with
      | '}' :: rest => some rest
      | _ => skipFields? fuel rest
    | rest => skipScalar? rest

/-- What follows one or more items and the closing bracket. -/
def skipItems? : Nat → List Char → Option (List Char)
  | 0, _ => none
  | fuel + 1, text =>
    match (skipValue? fuel text).map skipSpace with
    | some (',' :: rest) => skipItems? fuel rest
    | some (']' :: rest) => some rest
    | _ => none

/-- What follows one or more fields and the closing brace. -/
def skipFields? : Nat → List Char → Option (List Char)
  | 0, _ => none
  | fuel + 1, text =>
    match skipSpace text with
    | '"' :: rest =>
      match (skipString? (rest.length + 1) rest).map skipSpace with
      | some (':' :: rest) =>
        match (skipValue? fuel rest).map skipSpace with
        | some (',' :: rest) => skipFields? fuel rest
        | some ('}' :: rest) => some rest
        | _ => none
      | _ => none
    | _ => none

end

end Json

end Intake
