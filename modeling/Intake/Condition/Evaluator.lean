import Intake.Condition.Evaluation

/-!
# An evaluator that remembers conditions

Parsing a condition text is remembered by its trimmed text. The memory is emptied when it is full,
so it never holds more than `capacity` conditions.
-/

namespace Intake

structure Evaluator where
  renderer : Renderer := {}
  remembered : List (List Char × Condition) := []

namespace Evaluator

/-- How many conditions are remembered at most. -/
def capacity : Nat := 1024

def remembered? (evaluator : Evaluator) (text : List Char) : Option Condition :=
  evaluator.remembered.lookup text

def remember (evaluator : Evaluator) (text : List Char) (condition : Condition) : Evaluator :=
  let kept := if capacity ≤ evaluator.remembered.length then [] else evaluator.remembered
  { evaluator with remembered := (text, condition) :: kept }

/-- The condition of a text, remembered or parsed, and the evaluator afterwards. -/
def compile (evaluator : Evaluator) (text : List Char) : Option Condition × Evaluator :=
  let key := Text.trim text
  match evaluator.remembered? key with
  | some condition => (some condition, evaluator)
  | none =>
    match Condition.parse key with
    | .ok condition => (some condition, evaluator.remember key condition)
    | .error _ => (none, evaluator)

def evaluate (evaluator : Evaluator) (text : List Char) (context : Context) :
    Bool × Evaluator :=
  match evaluator.compile text with
  | (some condition, after) => (condition.evaluate evaluator.renderer context, after)
  | (none, after) => (false, after)

def evaluateAll (evaluator : Evaluator) : List (List Char × Context) → List Bool
  | [] => []
  | (text, context) :: others =>
    let (answer, after) := evaluator.evaluate text context
    answer :: after.evaluateAll others

end Evaluator

end Intake
