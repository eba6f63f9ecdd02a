import Intake.Proofs.Condition.OperandText

/-!
# Groups of an operand

A group is a quoted text or a text in brackets. Quotes end at the first mark of their kind without
a backslash in front of it. Brackets of all kinds count together, and those in quotes do not count.
What is described here without a reader is what the reader of tokens takes whole, and one text does
not start with two different groups.
-/

namespace Intake

namespace Condition

open Nesting Text

/-- What stands between two quotation marks: marks of their kind have a backslash in front of them,
and the closing one has none. -/
def QuotedContent (quote : Char) : (previous : Option Char) → List Char → Prop
  | previous, [] => previous ≠ some '\\'
  | previous, character :: rest =>
    (character = quote → previous = some '\\') ∧ QuotedContent quote (some character) rest

def IsQuoted (text : List Char) : Prop :=
  ∃ quote content, isQuote quote = true ∧ QuotedContent quote (some quote) content ∧
    text = quote :: (content ++ [quote])

/-- Texts that close so many brackets from outside, and all of their own. -/
inductive Closes : Nat → List Char → Prop
  | nil : Closes 0 []
  | plain {count : Nat} {character : Char} {rest : List Char} (unmarked : isMark character = false)
      (closes : Closes count rest) : Closes count (character :: rest)
  | quoted {count : Nat} {text rest : List Char} (quoted : IsQuoted text)
      (closes : Closes count rest) : Closes count (text ++ rest)
  | opened {count : Nat} {character : Char} {rest : List Char}
      (opening : isOpening character = true) (closes : Closes (count + 1) rest) :
      Closes count (character :: rest)
  | closed {count : Nat} {character : Char} {rest : List Char}
      (closing : isClosing character = true) (closes : Closes count rest) :
      Closes (count + 1) (character :: rest)

/-- Quoted text, or brackets with what they enclose. -/
inductive IsGroup : List Char → Prop
  | quoted {text : List Char} (quoted : IsQuoted text) : IsGroup text
  | brackets {first last : Char} {inside : List Char} (opening : isOpening first = true)
      (closing : isClosing last = true) (balanced : Closes 0 inside) :
      IsGroup (first :: (inside ++ [last]))

section Scan

variable {nesting : Nesting}

theorem StaysOpen.append {first second : List Char} (openFirst : StaysOpen nesting first)
    (openSecond : StaysOpen (nesting.after first) second) :
    StaysOpen nesting (first ++ second) := by
  induction first generalizing nesting with
  | nil => exact openSecond
  | cons character rest ih => exact ⟨openFirst.1, ih openFirst.2 openSecond⟩

theorem StaysOpen.of_append {first second : List Char}
    (isOpen : StaysOpen nesting (first ++ second)) :
    StaysOpen (nesting.after first) second := by
  induction first generalizing nesting with
  | nil => exact isOpen
  | cons character rest ih => exact ih isOpen.2

/-- Whether a group that was opened is over with a character behind a text, and not before. -/
structure EndsWith (nesting : Nesting) (inside : List Char) (last : Char) : Prop where
  stays : StaysOpen nesting inside
  closes : groupOver ((nesting.after inside).step last) = true

theorem EndsWith.cons {character : Char} {rest : List Char} {last : Char}
    (ends : EndsWith nesting (character :: rest) last) :
    EndsWith (nesting.step character) rest last :=
  ⟨ends.stays.2, ends.closes⟩

/-- A group that was opened is over only once. -/
theorem EndsWith.unique {inside other rest more : List Char} {last final : Char}
    (ends : EndsWith nesting inside last) (otherEnds : EndsWith nesting other final)
    (same : inside ++ last :: rest = other ++ final :: more) : inside = other ∧ last = final := by
  induction inside generalizing nesting other with
  | nil =>
    cases other with
    | nil => exact ⟨rfl, (List.cons.inj same).1⟩
    | cons character others =>
      obtain ⟨rfl, -⟩ := List.cons.inj same
      exact absurd ends.closes (by simp [otherEnds.stays.1])
  | cons character others ih =>
    cases other with
    | nil =>
      obtain ⟨rfl, -⟩ := List.cons.inj same
      exact absurd otherEnds.closes (by simp [ends.stays.1])
    | cons second seconds =>
      obtain ⟨rfl, sameRest⟩ := List.cons.inj same
      obtain ⟨rfl, rfl⟩ := ih ends.cons otherEnds.cons sameRest
      exact ⟨rfl, rfl⟩

section Quotes

variable {quote : Char} (quoted : nesting.quote = some quote)

include quoted

theorem depth_step_of_quoted (character : Char) :
    (nesting.step character).depth = nesting.depth := by
  simp only [step, quoted]

/-- A character does not close quotes if it is another one or has a backslash in front of it. -/
theorem step_in_quotes {character : Char}
    (escaped : character = quote → nesting.previous = some '\\') :
    (nesting.step character).quote = some quote ∧
      (nesting.step character).depth = nesting.depth := by
  have goesOn : ¬ (character = quote ∧ nesting.previous ≠ some '\\') :=
    fun both => both.2 (escaped both.1)
  simp only [step, quoted, if_neg goesOn, and_self]

/-- Quotes stay open over their content, and the mark behind it closes them. -/
theorem scan_quotedContent {content : List Char}
    (inQuotes : QuotedContent quote nesting.previous content) :
    StaysOpen nesting content ∧ ((nesting.after content).step quote).quote = none ∧
      ((nesting.after content).step quote).depth = nesting.depth := by
  induction content generalizing nesting with
  | nil =>
    obtain ⟨closed, depth⟩ := step_closing_quote quoted inQuotes
    exact ⟨trivial, closed, depth⟩
  | cons character rest ih =>
    obtain ⟨stillQuoted, sameDepth⟩ := step_in_quotes quoted inQuotes.1
    have inRest := inQuotes.2
    rw [← previous_step nesting] at inRest
    obtain ⟨stays, closed, depth⟩ := ih stillQuoted inRest
    exact ⟨⟨groupOver_of_quoted stillQuoted, stays⟩, closed, depth.trans sameDepth⟩

/-- Quotes are open up to the end of a text, or some mark in it closes them. -/
theorem quotes_cases (text : List Char) :
    ((nesting.after text).quote = some quote ∧ (nesting.after text).depth = nesting.depth) ∨
      ∃ content rest, text = content ++ quote :: rest ∧
        QuotedContent quote nesting.previous content := by
  induction text generalizing nesting with
  | nil => exact Or.inl ⟨quoted, rfl⟩
  | cons character rest ih =>
    by_cases closes : character = quote ∧ nesting.previous ≠ some '\\'
    · obtain ⟨rfl, plain⟩ := closes
      exact Or.inr ⟨[], rest, rfl, plain⟩
    · have escaped : character = quote → nesting.previous = some '\\' := by
        intro same
        by_contra plain
        exact closes ⟨same, plain⟩
      obtain ⟨stillQuoted, sameDepth⟩ := step_in_quotes quoted escaped
      rcases ih stillQuoted with ⟨isOpen, depth⟩ | ⟨content, more, rfl, inQuotes⟩
      · exact Or.inl ⟨isOpen, depth.trans sameDepth⟩
      · rw [previous_step] at inQuotes
        exact Or.inr ⟨character :: content, more, rfl, escaped, inQuotes⟩

/-- Quotes outside of brackets end with their mark. -/
theorem quotedContent_of_endsWith (flat : nesting.depth ≤ 0) {inside : List Char} {last : Char}
    (ends : EndsWith nesting inside last) :
    QuotedContent quote nesting.previous inside ∧ last = quote := by
  rcases quotes_cases quoted (inside ++ [last]) with ⟨isOpen, -⟩ | ⟨content, rest, same, inQuotes⟩
  · rw [after_append] at isOpen
    have goesOn : groupOver ((nesting.after inside).step last) = false := groupOver_of_quoted isOpen
    exact absurd ends.closes (by simp [goesOn])
  · obtain ⟨stays, closed, depth⟩ := scan_quotedContent quoted inQuotes
    have finished : groupOver ((nesting.after content).step quote) = true := by
      simp [groupOver, closed, depth, flat]
    obtain ⟨rfl, rfl⟩ := ends.unique ⟨stays, finished⟩ same
    exact ⟨inQuotes, rfl⟩

end Quotes

/-- Quoted text in brackets leaves them open. -/
theorem scan_quoted {text : List Char} (outside : nesting.quote = none) (deep : 0 < nesting.depth)
    (quoted : IsQuoted text) :
    StaysOpen nesting text ∧ (nesting.after text).quote = none ∧
      (nesting.after text).depth = nesting.depth := by
  obtain ⟨quote, content, mark, inQuotes, rfl⟩ := quoted
  obtain ⟨opened, depth⟩ := step_of_isQuote outside mark
  rw [← previous_step nesting] at inQuotes
  obtain ⟨stays, closed, sameDepth⟩ := scan_quotedContent opened inQuotes
  have deepAfter : 0 < (((nesting.step quote).after content).step quote).depth := by omega
  rw [after_cons, after_append, after_cons, after_nil]
  exact ⟨⟨groupOver_of_quoted opened, stays.append ⟨groupOver_of_deep deepAfter, trivial⟩⟩, closed,
    sameDepth.trans depth⟩

/-- What closes all brackets but one leaves that one open. -/
theorem scan_closes {count : Nat} {text : List Char} (closes : Closes count text)
    (outside : nesting.quote = none) (depth : nesting.depth = count + 1) :
    StaysOpen nesting text ∧ (nesting.after text).quote = none ∧
      (nesting.after text).depth = 1 := by
  induction closes generalizing nesting with
  | nil => exact ⟨trivial, outside, by simpa using depth⟩
  | plain unmarked _ ih =>
    obtain ⟨still, same⟩ := step_of_not_isMark outside unmarked
    obtain ⟨stays, finish⟩ := ih still (same.trans depth)
    exact ⟨⟨groupOver_of_deep (by omega), stays⟩, finish⟩
  | quoted quoted _ ih =>
    obtain ⟨stayed, still, same⟩ := scan_quoted outside (by omega) quoted
    obtain ⟨stays, finish⟩ := ih still (same.trans depth)
    rw [after_append]
    exact ⟨stayed.append stays, finish⟩
  | opened opening _ ih =>
    obtain ⟨still, deeper⟩ := step_of_isOpening outside opening
    obtain ⟨stays, finish⟩ := ih still (by rw [deeper, depth]; rfl)
    exact ⟨⟨groupOver_of_deep (by omega), stays⟩, finish⟩
  | closed closing _ ih =>
    obtain ⟨still, shallower⟩ := step_of_isClosing outside closing
    obtain ⟨stays, finish⟩ := ih still (by rw [shallower, depth]; omega)
    exact ⟨⟨groupOver_of_deep (by omega), stays⟩, finish⟩

/-- A group in brackets is over with the bracket that closes the first one. -/
theorem endsWith_nil (outside : nesting.quote = none) {count : Nat}
    (depth : nesting.depth = count + 1) {last : Char} (ends : EndsWith nesting [] last) :
    count = 0 ∧ isClosing last = true := by
  have finished := ends.closes
  rw [after_nil, groupOver, Bool.and_eq_true, Option.isNone_iff_eq_none, decide_eq_true_eq]
    at finished
  cases closing : isClosing last with
  | true =>
    obtain ⟨-, shallower⟩ := step_of_isClosing outside closing
    exact ⟨by omega, rfl⟩
  | false =>
    have deeper : nesting.depth ≤ (nesting.step last).depth := by
      simp only [step, outside, closing, Bool.false_eq_true, ↓reduceIte]
      split <;> omega
    omega

/-- Quotes in brackets are closed before the last bracket. -/
theorem exists_quoted_of_endsWith {quote : Char} {inside : List Char} {last : Char}
    (outside : nesting.quote = none) (deep : 0 < nesting.depth) (mark : isQuote quote = true)
    (ends : EndsWith nesting (quote :: inside) last) :
    ∃ text rest, quote :: inside = text ++ rest ∧ IsQuoted text ∧
      EndsWith (nesting.after text) rest last := by
  obtain ⟨opened, depth⟩ := step_of_isQuote outside mark
  rcases quotes_cases opened inside with ⟨isOpen, sameDepth⟩ | ⟨content, rest, rfl, inQuotes⟩
  · have deepAfter : 0 < (((nesting.step quote).after inside).step last).depth := by
      rw [depth_step_of_quoted isOpen]
      omega
    exact absurd ends.closes (by simp [groupOver_of_deep deepAfter])
  · rw [previous_step] at inQuotes
    have split : quote :: (content ++ quote :: rest) = quote :: (content ++ [quote]) ++ rest := by
      simp
    rw [split] at ends
    refine ⟨_, rest, split, ⟨quote, content, mark, inQuotes, rfl⟩, ends.stays.of_append, ?_⟩
    rw [← after_append]
    exact ends.closes

/-- What stands in front of the last closing bracket closes all others. -/
theorem closes_of_endsWith {count : Nat} {inside : List Char} {last : Char}
    (outside : nesting.quote = none) (depth : nesting.depth = count + 1)
    (ends : EndsWith nesting inside last) : Closes count inside ∧ isClosing last = true := by
  -- A quoted text is taken in one step, so the induction is on the length.
  induction size : inside.length using Nat.strong_induction_on
    generalizing nesting count inside with
  | _ length ih =>
  cases inside with
  | nil =>
    obtain ⟨rfl, closing⟩ := endsWith_nil outside depth ends
    exact ⟨.nil, closing⟩
  | cons character rest =>
    have shorter : rest.length < length := by
      rw [← size, List.length_cons]
      exact Nat.lt_succ_self _
    cases quote : isQuote character with
    | true =>
      obtain ⟨text, behind, split, quoted, endsBehind⟩ :=
        exists_quoted_of_endsWith outside (by omega) quote ends
      obtain ⟨-, still, same⟩ := scan_quoted outside (by omega) quoted
      have less : behind.length < length := by
        obtain ⟨mark, content, -, -, rfl⟩ := quoted
        rw [← size, split]
        simp only [List.cons_append, List.length_cons, List.length_append]
        omega
      obtain ⟨closes, closing⟩ := ih _ less still (same.trans depth) endsBehind rfl
      exact ⟨split ▸ closes.quoted quoted, closing⟩
    | false =>
      cases opening : isOpening character with
      | true =>
        obtain ⟨still, deeper⟩ := step_of_isOpening outside opening
        obtain ⟨closes, closing⟩ := ih _ shorter still (by rw [deeper, depth]; rfl) ends.cons rfl
        exact ⟨closes.opened opening, closing⟩
      | false =>
        cases closed : isClosing character with
        | true =>
          obtain ⟨still, shallower⟩ := step_of_isClosing outside closed
          cases count with
          | zero =>
            -- The group would be over here.
            have finished : groupOver (nesting.step character) = true := by
              simp [groupOver, still, shallower, depth]
            exact absurd ends.stays.1 (by simp [finished])
          | succ count =>
            have lower : (nesting.step character).depth = (count : Int) + 1 := by
              rw [shallower, depth]
              omega
            obtain ⟨closes, closing⟩ := ih _ shorter still lower ends.cons rfl
            exact ⟨closes.closed closed, closing⟩
        | false =>
          have unmarked : isMark character = false := by simp [isMark, quote, opening, closed]
          obtain ⟨still, same⟩ := step_of_not_isMark outside unmarked
          obtain ⟨closes, closing⟩ := ih _ shorter still (same.trans depth) ends.cons rfl
          exact ⟨closes.plain unmarked, closing⟩

end Scan

/-- A group is over with its last character. -/
theorem IsGroup.exists_endsWith {text : List Char} (group : IsGroup text) :
    ∃ first inside last, text = first :: (inside ++ [last]) ∧
      EndsWith (({} : Nesting).step first) inside last := by
  have outside : ({} : Nesting).quote = none := rfl
  cases group with
  | quoted quoted =>
    obtain ⟨quote, content, mark, inQuotes, rfl⟩ := quoted
    obtain ⟨opened, depth⟩ := step_of_isQuote outside mark
    rw [← previous_step {}] at inQuotes
    obtain ⟨stays, closed, sameDepth⟩ := scan_quotedContent opened inQuotes
    exact ⟨quote, content, quote, rfl, stays, by simp [groupOver, closed, sameDepth, depth]⟩
  | @brackets first last inside opening closing balanced =>
    obtain ⟨opened, depth⟩ := step_of_isOpening outside opening
    obtain ⟨stays, finish, left⟩ := scan_closes balanced opened depth
    obtain ⟨closed, shallower⟩ := step_of_isClosing finish closing
    exact ⟨first, inside, last, rfl, stays, by simp [groupOver, closed, shallower, left]⟩

/-- What is taken from a quotation mark or a bracket on until all are closed is a group. -/
theorem isGroup_of_endsWith {first last : Char} {inside : List Char}
    (opens : isQuote first = true ∨ isOpening first = true)
    (ends : EndsWith (({} : Nesting).step first) inside last) :
    IsGroup (first :: (inside ++ [last])) := by
  have outside : ({} : Nesting).quote = none := rfl
  rcases opens with mark | opening
  · obtain ⟨opened, depth⟩ := step_of_isQuote outside mark
    obtain ⟨inQuotes, rfl⟩ := quotedContent_of_endsWith opened (Int.le_of_eq depth) ends
    rw [previous_step] at inQuotes
    exact .quoted ⟨_, inside, mark, inQuotes, rfl⟩
  · obtain ⟨opened, depth⟩ := step_of_isOpening outside opening
    obtain ⟨closes, closing⟩ := closes_of_endsWith opened depth ends
    exact .brackets opening closing closes

/-- A text starts with one group at most. -/
theorem IsGroup.unique {text other rest more : List Char} (group : IsGroup text)
    (otherGroup : IsGroup other) (same : text ++ rest = other ++ more) :
    text = other ∧ rest = more := by
  obtain ⟨first, inside, last, rfl, ends⟩ := group.exists_endsWith
  obtain ⟨_, otherInside, final, rfl, otherEnds⟩ := otherGroup.exists_endsWith
  simp only [List.cons_append, List.append_assoc, List.nil_append, List.cons.injEq] at same
  obtain ⟨rfl, same⟩ := same
  obtain ⟨rfl, rfl⟩ := ends.unique otherEnds same
  exact ⟨rfl, by simpa using same⟩

end Condition

end Intake
