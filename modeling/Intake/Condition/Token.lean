import Intake.Text.Nesting

/-!
# Tokens of a condition

Only the skeleton of a condition is made of tokens: the connectives, parentheses, comparison
operators and the word `in`. What stands between them is kept as operand text. Quoted texts,
brackets, braces and the parentheses of a call belong to the operand around them, whatever they
contain.
-/

namespace Intake

inductive Comparison where
  | equal
  | notEqual
  | greater
  | less
  | greaterOrEqual
  | lessOrEqual
deriving DecidableEq, Repr

namespace Comparison

/-- The operator as it is printed. -/
def text : Comparison → String
  | equal => "=="
  | notEqual => "!="
  | greater => ">"
  | less => "<"
  | greaterOrEqual => ">="
  | lessOrEqual => "<="

end Comparison

namespace Condition

inductive Token where
  | or
  | and
  | not
  | openGroup
  | closeGroup
  | within
  | compare (operator : Comparison)
  /-- Operand text, trimmed and not empty. -/
  | operand (text : List Char)
deriving DecidableEq, Repr

/-- The operand held in a reversed run of characters, if it has more than white space. -/
def pending (chunk : List Char) : List Token :=
  let text := Text.trim chunk.reverse
  if text = [] then [] else [.operand text]

/-- Whether a reversed run of characters ends like the name of a function. -/
def endsWithName (chunk : List Char) : Bool :=
  match chunk with
  | [] => false
  | last :: _ => Character.isAlphanumeric last || last == '_'

/-- Whether a text starts, after a white space, with the word `in` and more white space. -/
def startsWithIn : List Char → Bool
  | space :: first :: second :: next :: _ =>
    Character.isBlank space && (first == 'i' || first == 'I') &&
      (second == 'n' || second == 'N') && Character.isBlank next
  | _ => false

/-- The token at the start of a text, and how many characters it takes. The reversed run of
characters before it decides whether `!` negates, whether `in` has a left side, and whether a
parenthesis groups or calls. -/
def tokenAt? (chunk : List Char) : List Char → Option (Token × Nat)
  | '(' :: _ => if endsWithName chunk then none else some (.openGroup, 1)
  | ')' :: _ => some (.closeGroup, 1)
  | '|' :: '|' :: _ => some (.or, 2)
  | '&' :: '&' :: _ => some (.and, 2)
  | '!' :: '=' :: '=' :: _ => some (.compare .notEqual, 3)
  | '!' :: '=' :: _ => some (.compare .notEqual, 2)
  | '!' :: _ => if Text.isBlankText chunk then some (.not, 1) else none
  | '=' :: '=' :: '=' :: _ => some (.compare .equal, 3)
  | '=' :: '=' :: _ => some (.compare .equal, 2)
  | '>' :: '=' :: _ => some (.compare .greaterOrEqual, 2)
  | '<' :: '=' :: _ => some (.compare .lessOrEqual, 2)
  | '>' :: _ => some (.compare .greater, 1)
  | '<' :: _ => some (.compare .less, 1)
  | text =>
    if startsWithIn text && !Text.isBlankText chunk then some (.within, 3) else none

/-- Whether a character starts a group that an operand takes whole. -/
def opensOperandGroup (chunk : List Char) (character : Char) : Bool :=
  Nesting.isQuote character || character == '[' || character == '{' ||
    (character == '(' && endsWithName chunk)

/-- Whether a group is over: no quote and no bracket is open. -/
def groupOver (nesting : Nesting) : Bool :=
  nesting.quote.isNone && nesting.depth ≤ 0

/-- The tokens of a text. `skip` counts characters of a token that was already taken, `group` is
the state inside an operand's group, and `chunk` is the reversed run of characters since the last
token. None when a quote or a group is not closed. -/
def tokensFrom? (skip : Nat) (group : Option Nesting) (chunk : List Char) :
    List Char → Option (List Token)
  | [] => if group.isSome then none else some (pending chunk)
  | character :: rest =>
    match skip, group with
    | skip + 1, _ => tokensFrom? skip group chunk rest
    | 0, some nesting =>
      let next := nesting.step character
      tokensFrom? 0 (if groupOver next then none else some next) (character :: chunk) rest
    | 0, none =>
      if opensOperandGroup chunk character then
        tokensFrom? 0 (some (({} : Nesting).step character)) (character :: chunk) rest
      else
        match tokenAt? chunk (character :: rest) with
        | some (token, width) =>
          (tokensFrom? (width - 1) none [] rest).map fun tokens =>
            pending chunk ++ token :: tokens
        | none => tokensFrom? 0 none (character :: chunk) rest

def tokens? (text : List Char) : Option (List Token) :=
  tokensFrom? 0 none [] text

end Condition

end Intake
