import Intake.Bytewise.Slice
import Intake.Template.Expression

/-!
# Block expressions with their slices

The tree of a block's inside, read as `Expression.parse` reads it, where the marks around a literal
are cut off by a slice. The tree is read before it is evaluated, so every slice is taken, also for
an operand that is not needed.
-/

namespace Intake

namespace Bytewise

def unquote (text : List Char) : Guarded (Option (List Char)) :=
  let first := (bytes text).head?
  if 2 ≤ size text ∧ (first = some '\''.toUInt8 ∨ first = some '"'.toUInt8) ∧
      first = (bytes text).getLast? then
    some <$> slice 1 (size text - 1) text
  else .ok none

def enclosed (first last : Char) (text : List Char) : Guarded (Option (List Char)) :=
  if text.head? = some first ∧ text.getLast? = some last then
    some <$> slice 1 (size text - 1) text
  else .ok none

def literalKey (text : List Char) : Guarded String := do
  let trimmed := Text.trim text
  return String.ofList ((← unquote trimmed).getD trimmed)

theorem length_of_enclosed {first last : Char} {text inside : List Char}
    (found : enclosed first last text = .ok (some inside)) : inside.length < text.length := by
  rw [enclosed] at found
  split at found
  · cases sliced : slice 1 (size text - 1) text with
    | error stop =>
      rw [sliced] at found
      cases found
    | ok part =>
      rw [sliced] at found
      cases found
      exact length_lt_of_slice sliced Nat.one_ne_zero
  · cases found

mutual

def parse (text : List Char) : Guarded Expression :=
  match _split : Text.splitOnce? ['?', '?'] (Text.trim text) with
  | some (left, right) => return .coalesce (← parse left) (← parsePart (Text.trim right))
  | none =>
    if _present : '~' ∈ Text.trim text then
      Expression.concat <$> (Text.pieces '~' (Text.trim text)).attach.mapM fun piece =>
        parsePart (Text.trim piece.1)
    else if '(' ∈ Text.trim text ∧ ')' ∈ Text.trim text then
      match _found : Expression.callParts? (Text.trim text) with
      | some (name, inside) =>
        Expression.call (String.ofList name) <$>
          (Expression.literalItems inside).attach.mapM fun item =>
            parseArgument (Text.trim item.1)
      | none => return .unreadable
    else do
      match ← unquote (Text.trim text) with
      | some inside => return .literal inside
      | none =>
        match Numeral.textValue? (Text.trim text) with
        | some value => return .literal value.display
        | none => return .path (Text.trim text)
termination_by 3 * text.length
decreasing_by
  · have whole := Text.length_splitOnce? _split
    have bounded := Text.length_trim_le text
    simp only [List.length_cons, List.length_nil] at whole
    omega
  · have whole := Text.length_splitOnce? _split
    have bounded := Text.length_trim_le text
    have part := Text.length_trim_le right
    simp only [List.length_cons, List.length_nil] at whole
    omega
  · have shorter := Text.length_lt_of_mem_pieces _present piece.2
    have bounded := Text.length_trim_le text
    have part := Text.length_trim_le piece.1
    omega
  · have shorter := Expression.length_callParts? _found
    have bounded := Text.length_trim_le text
    have item' := Expression.length_le_of_mem_literalItems item.2
    have part := Text.length_trim_le item.1
    omega

def parsePart (text : List Char) : Guarded Expression := do
  match ← unquote text with
  | some inside => return .literal inside
  | none => parse text
termination_by 3 * text.length + 1

def parseArgument (text : List Char) : Guarded Argument := do
  match ← unquote text with
  | some inside => return .value (.ofChars inside)
  | none =>
    match _object : enclosed '{' '}' text with
    | .error stop => .error stop
    | .ok (some content) =>
      Argument.object <$> (Expression.literalPairs content).attach.mapM fun pair =>
        return (← literalKey pair.1.1, ← parseArgument (Text.trim pair.1.2))
    | .ok none =>
      match _list : enclosed '[' ']' text with
      | .error stop => .error stop
      | .ok (some content) =>
        Argument.array <$> (Expression.literalItems content).attach.mapM fun item =>
          parseArgument (Text.trim item.1)
      | .ok none =>
        match Numeral.textValue? text with
        | some value => return .value value
        | none =>
          if text = "true".toList then return .value (.bool true)
          else if text = "false".toList then return .value (.bool false)
          else if text = "null".toList then return .value .null
          else Argument.rendered <$> parse text
termination_by 3 * text.length + 2
decreasing_by
  · have inside := length_of_enclosed _object
    have shorter := Expression.length_lt_of_mem_literalPairs pair.2
    have part := Text.length_trim_le pair.1.2
    omega
  · have inside := length_of_enclosed _list
    have shorter := Expression.length_le_of_mem_literalItems item.2
    have part := Text.length_trim_le item.1
    omega
  · omega

end

end Bytewise

end Intake
