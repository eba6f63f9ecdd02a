import Intake.Bytewise.Slice
import Intake.Host.Basic

/-!
# Route patterns with their slices

The placeholders of a route pattern are found by the offsets of their braces, and the pattern is
sliced around them. What is filled and what is left out is as for `Url` and `Host.route`.
-/

namespace Intake

namespace Bytewise

def fillFirst (segment pattern : List Char) : Guarded (List Char) :=
  match find? ['{'] pattern, find? ['}'] pattern with
  | some start, some stop =>
    if start < stop then do
      let before ← slice 0 start pattern
      let after ← sliceFrom (stop + 1) pattern
      return before ++ segment ++ after
    else return pattern
  | _, _ => return pattern

def dropPlaceholders (pattern : List Char) : Guarded (List Char) :=
  match find? ['{'] pattern with
  | none => return pattern
  | some start => do
    let opened ← sliceFrom start pattern
    match find? ['}'] opened with
    | none => return pattern
    | some length => do
      let placeholder ← slice start (start + length + 1) pattern
      let before ← slice 0 start pattern
      match _rest : sliceFrom (start + length + 1) pattern with
      | .error stop => .error stop
      | .ok rest => do
        let others ← dropPlaceholders rest
        let kept := if ['?', '}'].isSuffixOf placeholder then [] else placeholder
        return before ++ kept ++ others
termination_by pattern.length
decreasing_by exact length_lt_of_slice _rest (Nat.succ_ne_zero _)

def dropOptional (pattern : List Char) : Guarded (List Char) :=
  Text.dropEndWhile (· == '/') <$> dropPlaceholders pattern

def fillRoute (pattern : List Char) : Value → Guarded Host.RouteFilling
  | .object fields => return fields.foldl Host.fillParameter ⟨pattern, []⟩
  | .array items => do
    let path ← items.foldlM
      (fun path item => fillFirst (Percent.pathSegment item.display) path) pattern
    return ⟨path, []⟩
  | .null => return ⟨pattern, []⟩
  | scalar => do
    let path ← fillFirst (Percent.pathSegment scalar.display) pattern
    return ⟨path, []⟩

def route (host : Host) (name : String) (parameters : Value) :
    Guarded (Except CallError (List Char)) :=
  match Fields.get? name host.routes with
  | none => return .error (.undefinedRoute name)
  | some pattern => do
    let filling ← fillRoute pattern.toList parameters
    let path ← dropOptional filling.path
    let address := host.url path
    return .ok (if filling.extra = [] then address
      else address ++ '?' :: Percent.query filling.extra)

end Bytewise

end Intake
