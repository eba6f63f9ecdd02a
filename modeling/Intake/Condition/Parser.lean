import Intake.Condition.Operand
import Intake.Condition.Token

/-!
# Condition trees

A condition as a tree, and the parser from its tokens. From loosest to tightest: `||`, `&&`, a
prefix `!`, and a group in parentheses or a single predicate. Groups and negations together nest
at most 64 deep.
-/

namespace Intake

namespace Condition

inductive Tree where
  | or (terms : List Tree)
  | and (terms : List Tree)
  | not (term : Tree)
  | compare (left : Operand) (operator : Comparison) (right : Operand)
  | within (needle haystack : Operand)
  | empty (operand : Operand)
  | constant (value : Bool)
  /-- A single operand, which holds or not by its own text. -/
  | holds (operand : Operand)

inductive Problem where
  | tooDeep
  | expectedOperand
  | expectedRightSide
  | expectedList
  | expectedClosing
  | trailing
deriving DecidableEq, Repr

namespace Problem

def message : Problem → String
  | tooDeep => "condition nested too deeply"
  | expectedOperand => "expected an operand"
  | expectedRightSide => "expected right-hand operand"
  | expectedList => "expected a list after \x60in\x60"
  | expectedClosing => "expected \x60)\x60"
  | trailing => "unexpected trailing input"

end Problem

/-- Why a text is no condition. -/
inductive ParseError where
  | empty
  | unterminated (source : List Char)
  | misplaced (problem : Problem) (position : Nat) (source : List Char)
deriving DecidableEq, Repr

namespace ParseError

def message : ParseError → String
  | empty => "empty condition"
  | unterminated source =>
    "unterminated string or group in \x60" ++ String.ofList source ++ "\x60"
  | misplaced problem position source =>
    problem.message ++ " at token " ++ String.ofList (Decimal.digits position) ++ " in \x60" ++
      String.ofList source ++ "\x60"

end ParseError

/-- A place in a list of tokens: what has been passed is counted. -/
structure Cursor where
  position : Nat
  rest : List Token

namespace Cursor

/-- The next token, if there is one, and the place behind it. Stepping past the end counts too. -/
def next (cursor : Cursor) : Option Token × Cursor :=
  (cursor.rest.head?, ⟨cursor.position + 1, cursor.rest.tail⟩)

end Cursor

abbrev Misplaced := Problem × Nat

/-- The levels of nesting that a condition may have. -/
def maxNesting : Nat := 64

/-- The text inside `empty( )`, if an operand is that call. -/
def emptyCall? (text : List Char) : Option (List Char) :=
  (Text.afterPrefix? "empty".toList text).bind (Text.enclosed? '(' ')')

def single (text : List Char) : Tree :=
  if text = "true".toList then .constant true
  else if text = "false".toList then .constant false
  else
    match emptyCall? text with
    | some inside => .empty (Operand.parse inside)
    | none => .holds (Operand.parse text)

/-- One term alone, or several under a connective. -/
def collapse (connective : List Tree → Tree) (first : Tree) : List Tree → Tree
  | [] => first
  | others => connective (first :: others)

/-- The predicate whose first operand has been read. -/
def parsePredicate (text : List Char) (cursor : Cursor) : Except Misplaced (Tree × Cursor) :=
  match cursor.rest with
  | .compare operator :: _ =>
    match cursor.next.2.next with
    | (some (.operand right), after) =>
      .ok (.compare (Operand.parse text) operator (Operand.parse right), after)
    | (_, after) => .error (.expectedRightSide, after.position)
  | .within :: _ =>
    match cursor.next.2.next with
    | (some (.operand haystack), after) =>
      .ok (.within (Operand.parse text) (Operand.parse haystack), after)
    | (_, after) => .error (.expectedList, after.position)
  | _ => .ok (single text, cursor)

mutual

/-- Terms joined by `||`. The first argument bounds the number of steps and the second the levels
of nesting that are left. -/
def parseOr : Nat → Nat → Cursor → Except Misplaced (Tree × Cursor)
  | 0, _, cursor => .error (.tooDeep, cursor.position)
  | steps + 1, levels, cursor => do
    let (first, cursor) ← parseAnd steps levels cursor
    let (others, cursor) ← parseMoreOr steps levels cursor
    return (collapse .or first others, cursor)

/-- The further terms of a disjunction. -/
def parseMoreOr : Nat → Nat → Cursor → Except Misplaced (List Tree × Cursor)
  | 0, _, cursor => .error (.tooDeep, cursor.position)
  | steps + 1, levels, cursor =>
    match cursor.rest with
    | .or :: _ => do
      let (term, cursor) ← parseAnd steps levels cursor.next.2
      let (others, cursor) ← parseMoreOr steps levels cursor
      return (term :: others, cursor)
    | _ => .ok ([], cursor)

/-- Terms joined by `&&`. -/
def parseAnd : Nat → Nat → Cursor → Except Misplaced (Tree × Cursor)
  | 0, _, cursor => .error (.tooDeep, cursor.position)
  | steps + 1, levels, cursor => do
    let (first, cursor) ← parseUnary steps levels cursor
    let (others, cursor) ← parseMoreAnd steps levels cursor
    return (collapse .and first others, cursor)

/-- The further terms of a conjunction. -/
def parseMoreAnd : Nat → Nat → Cursor → Except Misplaced (List Tree × Cursor)
  | 0, _, cursor => .error (.tooDeep, cursor.position)
  | steps + 1, levels, cursor =>
    match cursor.rest with
    | .and :: _ => do
      let (term, cursor) ← parseUnary steps levels cursor.next.2
      let (others, cursor) ← parseMoreAnd steps levels cursor
      return (term :: others, cursor)
    | _ => .ok ([], cursor)

def parseUnary : Nat → Nat → Cursor → Except Misplaced (Tree × Cursor)
  | 0, _, cursor => .error (.tooDeep, cursor.position)
  | steps + 1, levels, cursor =>
    match cursor.next, levels with
    | (some .not, after), 0 => .error (.tooDeep, after.position)
    | (some .not, after), levels + 1 => do
      let (term, cursor) ← parseUnary steps levels after
      return (.not term, cursor)
    | (some .openGroup, after), 0 => .error (.tooDeep, after.position)
    | (some .openGroup, after), levels + 1 => do
      let (tree, cursor) ← parseOr steps levels after
      match cursor.next with
      | (some .closeGroup, after) => return (tree, after)
      | (_, after) => .error (.expectedClosing, after.position)
    | (some (.operand text), after), _ => parsePredicate text after
    | (_, after), _ => .error (.expectedOperand, after.position)

end

/-- Steps that suffice for any list of tokens: between one token and the next, the parser goes
through no more than four functions. -/
def stepsFor (tokens : List Token) : Nat :=
  4 * tokens.length + 4

/-- The tree of a list of tokens, all of which must be used. -/
def parseTokens (tokens : List Token) : Except Misplaced Tree :=
  match parseOr (stepsFor tokens) maxNesting ⟨0, tokens⟩ with
  | .error misplaced => .error misplaced
  | .ok (tree, cursor) =>
    if cursor.rest = [] then .ok tree else .error (.trailing, cursor.position)

end Condition

/-- A condition: its text as written, without white space around it, and its tree. -/
structure Condition where
  source : List Char
  tree : Condition.Tree

namespace Condition

def parse (text : List Char) : Except ParseError Condition :=
  match tokens? text with
  | none => .error (.unterminated text)
  | some [] => .error .empty
  | some tokens =>
    match parseTokens tokens with
    | .error (problem, position) => .error (.misplaced problem position text)
    | .ok tree => .ok ⟨Text.trim text, tree⟩

end Condition

end Intake
