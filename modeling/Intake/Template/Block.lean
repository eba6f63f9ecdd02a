import Intake.Text.Nesting

/-!
# Blocks of a template

A template is literal text with `{{ }}` blocks. A block ends at the first `}}` outside quotes and
outside nested braces. When a quote is left open, the first `}}` ends the block after all; when no
`}}` ends it, the rest of the template is literal. A blank block is literal too.
-/

namespace Intake

namespace Block

inductive Segment where
  | literal (text : List Char)
  /-- The trimmed inside of a block. -/
  | block (inside : List Char)
deriving DecidableEq, Repr

/-- How the search for the end of a block went. -/
inductive Ending where
  /-- The inside of the block, and what follows it. -/
  | found (inside rest : List Char)
  | missing (inQuote : Bool)
deriving DecidableEq, Repr

/-- The ending with one more character at the front of the inside. -/
def Ending.cons (character : Char) : Ending → Ending
  | found inside rest => found (character :: inside) rest
  | missing inQuote => missing inQuote

/-- The end of a block, from a place with `depth` open braces, inside `quote` if there is one, and
after the character `previous`. -/
def endingFrom (depth : Nat) (quote : Option Char) (previous : Option Char) :
    List Char → Ending
  | [] => .missing quote.isSome
  | character :: rest =>
    match quote with
    | some open' =>
      let closes := character = open' ∧ previous ≠ some '\\'
      (endingFrom depth (if closes then none else some open') (some character) rest).cons character
    | none =>
      if character = '}' ∧ depth = 0 ∧ rest.head? = some '}' then .found [] rest.tail
      else
        let quote := if Nesting.isQuote character then some character else none
        let depth :=
          if character = '{' then depth + 1 else if character = '}' then depth - 1 else depth
        (endingFrom depth quote (some character) rest).cons character

/-- The inside of the block that a text starts with, and what follows the block. -/
def split? (text : List Char) : Option (List Char × List Char) :=
  match endingFrom 0 none none text with
  | .found inside rest => some (inside, rest)
  | .missing true => Text.splitOnce? ['}', '}'] text
  | .missing false => none

theorem length_endingFrom {depth : Nat} {quote previous : Option Char}
    {text inside rest : List Char}
    (found : endingFrom depth quote previous text = .found inside rest) :
    rest.length < text.length := by
  induction text generalizing depth quote previous inside with
  | nil => simp [endingFrom] at found
  | cons character tail ih =>
    have step : ∀ {ending : Ending}, ending.cons character = .found inside rest →
        (∀ {inside}, ending = .found inside rest → rest.length < tail.length) →
        rest.length < (character :: tail).length := by
      intro ending cons shorter
      cases ending with
      | found inside' rest' =>
        simp only [Ending.cons, Ending.found.injEq] at cons
        obtain ⟨_, rfl⟩ := cons
        exact Nat.lt_succ_of_lt (shorter rfl)
      | missing inQuote => simp [Ending.cons] at cons
    unfold endingFrom at found
    split at found
    · exact step found fun recursive => ih recursive
    · split at found
      · simp only [Ending.found.injEq] at found
        obtain ⟨_, rfl⟩ := found
        simp only [List.length_tail, List.length_cons]
        omega
      · exact step found fun recursive => ih recursive

/-- What follows a block is shorter than the text that starts with it. -/
theorem length_split? {text inside rest : List Char} (found : split? text = some (inside, rest)) :
    rest.length < text.length := by
  simp only [split?] at found
  split at found
  · simp only [Option.some.injEq, Prod.mk.injEq] at found
    obtain ⟨rfl, rfl⟩ := found
    exact length_endingFrom ‹_›
  · have whole := Text.length_splitOnce? found
    simp only [List.length_cons, List.length_nil] at whole
    omega
  · simp at found

def segments (template : List Char) : List Segment :=
  match _opened : Text.splitOnce? ['{', '{'] template with
  | none => [.literal template]
  | some (before, after) =>
    match _closed : split? after with
    | none => [.literal template]
    | some (inside, rest) =>
      let block :=
        if Text.isBlankText inside then .literal ('{' :: '{' :: inside ++ ['}', '}'])
        else .block (Text.trim inside)
      .literal before :: block :: segments rest
termination_by template.length
decreasing_by
  have whole := Text.length_splitOnce? _opened
  have shorter := length_split? _closed
  simp only [List.length_cons, List.length_nil] at whole
  omega

end Block

end Intake
