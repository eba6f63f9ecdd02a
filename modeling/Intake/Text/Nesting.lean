import Intake.Text.Basic

/-!
# Quotes and brackets

A reader of a text knows at every character whether it stands inside quotes and how many brackets
are open. Single and double quotes close themselves unless a backslash stands before them; round,
square and curly brackets count together. On top of it stands `splitTopLevel`, which cuts a text
at the separators outside quotes and brackets.
-/

namespace Intake

/-- What a reader remembers of the text before a place. -/
structure Nesting where
  /-- Brackets opened less brackets closed. The count has no bound here, where the program counts in
  32 bits: only a text with more than `2 ^ 31 - 1` brackets could tell the two apart. -/
  depth : Int := 0
  quote : Option Char := none
  previous : Option Char := none
deriving DecidableEq, Repr

namespace Nesting

/-- The marks that open and close quoted text. -/
def isQuote (character : Char) : Bool :=
  character == '\'' || character == '"'

/-- The brackets that open a group. -/
def isOpening (character : Char) : Bool :=
  character == '(' || character == '[' || character == '{'

/-- The brackets that close a group. -/
def isClosing (character : Char) : Bool :=
  character == ')' || character == ']' || character == '}'

/-- The state after one more character. -/
def step (nesting : Nesting) (character : Char) : Nesting :=
  match nesting.quote with
  | some quote =>
    { nesting with
      quote :=
        if character = quote ∧ nesting.previous ≠ some '\\' then none else some quote
      previous := some character }
  | none =>
    { depth :=
        if isOpening character then nesting.depth + 1
        else if isClosing character then nesting.depth - 1
        else nesting.depth
      quote := if isQuote character then some character else none
      previous := some character }

/-- Whether a place is outside quotes and outside brackets. -/
def isTop (nesting : Nesting) : Bool :=
  nesting.quote.isNone && nesting.depth == 0

/-- The state after a text. -/
def after (nesting : Nesting) (text : List Char) : Nesting :=
  text.foldl step nesting

end Nesting

namespace Text

/-- Whether a separator cuts at a place. Quotes and brackets never do. -/
def cutsAt (separator : Char) (nesting : Nesting) (character : Char) : Bool :=
  nesting.isTop && character == separator &&
    !(Nesting.isQuote character || Nesting.isOpening character || Nesting.isClosing character)

/-- The pieces between the separators that cut; always at least one. -/
def topPieces (separator : Char) (nesting : Nesting) : List Char → List (List Char)
  | [] => [[]]
  | character :: rest =>
    let others := topPieces separator (nesting.step character) rest
    if cutsAt separator nesting character then [] :: others
    else
      match others with
      | [] => [[character]]
      | piece :: more => (character :: piece) :: more

/-- Pieces without an empty last one. -/
def dropEmptyLast : List (List Char) → List (List Char)
  | [] => []
  | [[]] => []
  | piece :: others => piece :: dropEmptyLast others

/-- The parts of a text between the separators outside quotes and brackets. A separator at the end
is followed by no part. -/
def splitTopLevel (separator : Char) (text : List Char) : List (List Char) :=
  dropEmptyLast (topPieces separator {} text)

theorem length_le_of_mem_topPieces {separator : Char} {nesting : Nesting} {text piece : List Char}
    (member : piece ∈ topPieces separator nesting text) : piece.length ≤ text.length := by
  induction text generalizing nesting piece with
  | nil => simp_all [topPieces]
  | cons character rest ih =>
    simp only [topPieces] at member
    split at member
    · rcases List.mem_cons.1 member with rfl | member
      · simp
      · exact Nat.le_succ_of_le (ih member)
    · split at member
      · simp_all
      · next first more cut =>
        rcases List.mem_cons.1 member with rfl | member
        · exact Nat.succ_le_succ (ih (cut ▸ List.mem_cons_self))
        · exact Nat.le_succ_of_le (ih (cut ▸ List.mem_cons_of_mem _ member))

theorem mem_of_mem_dropEmptyLast {piece : List Char} {parts : List (List Char)}
    (member : piece ∈ dropEmptyLast parts) : piece ∈ parts := by
  induction parts with
  | nil => simp [dropEmptyLast] at member
  | cons first others ih =>
    cases first with
    | nil =>
      cases others with
      | nil => simp [dropEmptyLast] at member
      | cons second more =>
        simp only [dropEmptyLast, List.mem_cons] at member ih ⊢
        rcases member with rfl | member
        · exact Or.inl rfl
        · exact Or.inr (ih member)
    | cons character text =>
      simp only [dropEmptyLast, List.mem_cons] at member ⊢
      rcases member with rfl | member
      · exact Or.inl rfl
      · exact Or.inr (ih member)

/-- No part is longer than the text it was cut from. -/
theorem length_le_of_mem_splitTopLevel {separator : Char} {text part : List Char}
    (member : part ∈ splitTopLevel separator text) : part.length ≤ text.length :=
  length_le_of_mem_topPieces (mem_of_mem_dropEmptyLast member)

end Text

end Intake
