import Intake.Proofs.Markup.Block

/-!
# Choices as they are written

A choice is its condition and two quoted texts behind a question mark and a colon. A question mark
ends the condition only where a quoted text follows it, so a condition without double quotes is
read back as a whole, and the choice selects one of its texts by it.
-/

namespace Intake

namespace Markup

open Character Text

/-- White space within a line. -/
structure IsGap (gap : List Char) : Prop where
  blank : isBlankText gap = true
  line : '\n' ∉ gap

/-- One of the two texts of a choice, with the white space on either side of the mark before it. -/
structure Branch where
  before : List Char
  after : List Char
  text : List Char
  before_gap : IsGap before
  after_gap : IsGap after
  unquoted : '"' ∉ text
  line : '\n' ∉ text
  unclosed : Unclosed text

/-- A branch behind its mark. -/
def Branch.written (mark : Char) (branch : Branch) : List Char :=
  branch.before ++ mark :: (branch.after ++ '"' :: (branch.text ++ ['"']))

/-- A choice between two branches. -/
def choiceText (condition : List Char) (first second : Branch) : List Char :=
  condition ++ (first.written '?' ++ second.written ':')

section Reading

variable {mark : Char} {gap : List Char}

theorem trimStart_gap_append (isGap : IsGap gap) (solid : isBlank mark = false)
    (rest : List Char) : trimStart (gap ++ mark :: rest) = mark :: rest := by
  rw [trimStart_blank_append isGap.blank, trimStart_of_stops (stops_cons solid)]

theorem afterMark?_gap_append (isGap : IsGap gap) (solid : isBlank mark = false)
    (rest : List Char) : afterMark? mark (gap ++ mark :: rest) = some rest := by
  rw [afterMark?, trimStart_gap_append isGap solid]
  exact afterPrefix?_append [mark] rest

theorem doubleQuoted?_quoted {text : List Char} (unquoted : '"' ∉ text) (rest : List Char) :
    doubleQuoted? ('"' :: (text ++ '"' :: rest)) = some (text, rest) :=
  splitAt?_eq_some_iff.2 ⟨rfl, unquoted⟩

theorem doubleQuoted?_of_stops {text : List Char} (stops : Stops (· == '"') text) :
    doubleQuoted? text = none := by
  cases text with
  | nil => rfl
  | cons first rest =>
    have other : first ≠ '"' := by simpa using stops first rfl
    rw [doubleQuoted?]
    exact fun _ same => absurd (List.cons.inj same).1 other

end Reading

theorem Branch.written_append (branch : Branch) (mark : Char) (rest : List Char) :
    branch.written mark ++ rest =
      branch.before ++ mark :: (branch.after ++ '"' :: (branch.text ++ '"' :: rest)) := by
  simp [written]

theorem branches?_written (first second : Branch) :
    branches? (first.written '?' ++ second.written ':') = some (first.text, second.text) := by
  have secondRest : second.written ':' = second.written ':' ++ [] := (List.append_nil _).symm
  rw [branches?, Branch.written_append, afterMark?_gap_append first.before_gap (by decide)]
  simp only [Option.bind_eq_bind, Option.bind_some]
  rw [trimStart_gap_append first.after_gap (by decide), doubleQuoted?_quoted first.unquoted]
  simp only [Option.bind_some]
  rw [secondRest, Branch.written_append, afterMark?_gap_append second.before_gap (by decide)]
  simp only [Option.bind_some]
  rw [trimStart_gap_append second.after_gap (by decide), doubleQuoted?_quoted second.unquoted]
  rfl

/-- No quoted text follows a question mark within a condition. -/
theorem branches?_of_written {text : List Char} (written : isBlankText text = false)
    (unquoted : '"' ∉ text) (first second : Branch) :
    branches? (text ++ (first.written '?' ++ second.written ':')) = none := by
  have marked : Stops (· == '"') (trimStart (first.written '?' ++ second.written ':')) := by
    rw [Branch.written_append, trimStart_gap_append first.before_gap (by decide)]
    exact stops_cons (by decide)
  have kept : '"' ∉ trimStart text := fun member =>
    unquoted ((List.dropWhile_suffix isBlank).subset member)
  rw [branches?, afterMark?, trimStart_append written]
  cases start : trimStart text with
  | nil => exact absurd start (trimStart_ne_nil written)
  | cons character others =>
    rw [start, List.mem_cons, not_or] at kept
    rw [List.cons_append, afterPrefix?]
    split
    · have unread := doubleQuoted?_of_stops (stops_trimStart_append kept.2 marked)
      simp [afterPrefix?, unread]
    · rfl

theorem readFrom?_of_branches {read text : List Char} (nonempty : read ≠ [])
    {first second : List Char} (found : branches? text = some (first, second)) :
    Choice.readFrom? read text = some ⟨trim read.reverse, first, second⟩ := by
  cases text with
  | nil => cases found
  | cons character rest => simp only [Choice.readFrom?, if_neg nonempty, found]

theorem readFrom?_choiceText (read : List Char) {condition : List Char}
    (nonempty : read ≠ [] ∨ condition ≠ []) (line : '\n' ∉ condition)
    (unquoted : '"' ∉ condition) (ends : Stops isBlank condition.reverse)
    (first second : Branch) :
    Choice.readFrom? read (choiceText condition first second) =
      some ⟨trim (read.reverse ++ condition), first.text, second.text⟩ := by
  induction condition generalizing read with
  | nil =>
    have found := readFrom?_of_branches (nonempty.resolve_right (fun other => other rfl))
      (branches?_written first second)
    rw [List.append_nil]
    exact found
  | cons character condition ih =>
    have written := not_blank_of_stops_reverse (List.cons_ne_nil character condition) ends
    have passed := branches?_of_written written unquoted first second
    have goesOn := ih (character :: read) (Or.inl (List.cons_ne_nil _ _))
      (fun member => line (List.mem_cons_of_mem _ member))
      (fun member => unquoted (List.mem_cons_of_mem _ member))
      (stops_reverse_of_suffix (List.suffix_cons character condition) ends)
    have noBreak : character ≠ '\n' := fun same => line (same ▸ List.mem_cons_self)
    rw [List.cons_append] at passed
    rw [choiceText, List.cons_append, Choice.readFrom?, passed, ite_self]
    simp only [if_neg noBreak]
    rw [← choiceText, goesOn, List.reverse_cons, List.append_assoc, List.singleton_append]

/-- A choice is read back with its condition and its two texts. -/
theorem read?_choiceText {condition : List Char} (nonempty : condition ≠ [])
    (isInside : IsInside condition) (unquoted : '"' ∉ condition) (first second : Branch) :
    Choice.read? (choiceText condition first second) =
      some ⟨condition, first.text, second.text⟩ := by
  rw [Choice.read?, readFrom?_choiceText [] (Or.inr nonempty) isInside.line unquoted
    isInside.ends, List.reverse_nil, List.nil_append,
    trim_of_stops isInside.starts isInside.ends]

theorem Branch.line_written {mark : Char} (solid : mark ≠ '\n') (branch : Branch) :
    '\n' ∉ branch.written mark := by
  simp [written, branch.before_gap.line, branch.after_gap.line, branch.line, Ne.symm solid]

theorem Branch.unclosed_written {mark : Char} (other : mark ≠ '}') (branch : Branch) :
    Unclosed (branch.written mark) := by
  have absent : '}' ∉ branch.before ++ mark :: (branch.after ++ ['"']) := by
    have before : '}' ∉ branch.before := not_mem_of_all branch.before_gap.blank (by decide)
    have after : '}' ∉ branch.after := not_mem_of_all branch.after_gap.blank (by decide)
    simp [before, after, Ne.symm other]
  have content : Unclosed (branch.text ++ ['"']) :=
    branch.unclosed.append (unclosed_of_not_mem (by decide)) (Or.inr (stops_cons (by decide)))
  have whole := (unclosed_of_not_mem absent).append content (Or.inl (by simp [Stops]))
  simpa [written] using whole

theorem Branch.ends_written {isMember : Char → Bool} (outside : isMember '"' = false)
    (mark : Char) (branch : Branch) : Stops isMember (branch.written mark).reverse := by
  simp [written, Stops, outside]

theorem ends_choiceText {isMember : Char → Bool} (outside : isMember '"' = false)
    (condition : List Char) (first second : Branch) :
    Stops isMember (choiceText condition first second).reverse := by
  have nonempty : second.written ':' ≠ [] := by simp [Branch.written]
  rw [choiceText, ← List.append_assoc]
  exact stops_reverse_append nonempty (second.ends_written outside ':') _

/-- A choice is read from a block where its condition would be. -/
theorem isInside_choiceText {condition : List Char} (nonempty : condition ≠ [])
    (isInside : IsInside condition) (first second : Branch) :
    IsInside (choiceText condition first second) where
  line := by simp [choiceText, isInside.line, Branch.line_written]
  unclosed := by
    have firstUnclosed := Branch.unclosed_written (by decide : '?' ≠ '}') first
    have secondUnclosed := Branch.unclosed_written (by decide : ':' ≠ '}') second
    have branches := firstUnclosed.append secondUnclosed (Or.inl (first.ends_written rfl '?'))
    exact isInside.unclosed.append branches (Or.inl isInside.isOpen)
  starts := isInside.starts.append nonempty _
  ends := ends_choiceText (by decide) condition first second
  isOpen := ends_choiceText rfl condition first second

end Markup

namespace Processor

open Character Text Markup

/-- A choice in a block selects one of its texts by its condition. -/
theorem process_choice (processor : Processor) (context : Value)
    {before condition after : List Char} (beforeBlank : isBlankText before = true)
    (nonempty : condition ≠ []) (isInside : IsInside condition) (unquoted : '"' ∉ condition)
    (afterBlank : isBlankText after = true) (first second : Branch) (rest : List Char) :
    processor.process (blockText before (choiceText condition first second) after ++ rest)
        context =
      (if conditionHolds context condition then first.text else second.text) ++
        processor.process rest context := by
  have asked : '?' ∈ choiceText condition first second := by
    simp [choiceText, Branch.written]
  rw [processor.process_block context beforeBlank (isInside_choiceText nonempty isInside _ _)
    afterBlank, expressionText, if_pos asked, chosenText,
    read?_choiceText nonempty isInside unquoted]

end Processor

end Intake
