import Intake.Markup.Processor
import Intake.Proofs.Text.Cuts
import Intake.Proofs.Text.Words

/-!
# Blocks as they are written

The inside of a block goes up to the first two closing braces. So a text within a line that has no
two closing braces next to each other is read back from the block that it is written in, whatever
white space stands around it, and the block yields its text in front of what the rest of the
template yields.
-/

namespace Intake

namespace Markup

open Character Text

/-- Whether a text has no two closing braces next to each other. -/
def Unclosed (text : List Char) : Prop :=
  text.IsChain fun left right => ¬ (left = '}' ∧ right = '}')

theorem unclosed_of_not_mem {text : List Char} (absent : '}' ∉ text) : Unclosed text :=
  splitOnce?_pair_eq_none_iff.1 (splitOnce?_of_not_mem absent ['}'])

theorem Unclosed.append {first second : List Char} (firstUnclosed : Unclosed first)
    (secondUnclosed : Unclosed second)
    (between : Stops (· == '}') first.reverse ∨ Stops (· == '}') second) :
    Unclosed (first ++ second) := by
  refine List.isChain_append.2 ⟨firstUnclosed, secondUnclosed, ?_⟩
  rintro left isLast right isFirst ⟨rfl, rfl⟩
  rcases between with isOpen | stops
  · exact absurd (isOpen '}' (by rwa [List.head?_reverse])) (by decide)
  · exact absurd (stops '}' isFirst) (by decide)

/-- Whether a block that has a text inside is read as a block with just this inside. -/
structure IsInside (inside : List Char) : Prop where
  line : '\n' ∉ inside
  unclosed : Unclosed inside
  starts : Stops isBlank inside
  ends : Stops isBlank inside.reverse
  isOpen : Stops (· == '}') inside.reverse

/-- A block with white space around its inside. -/
def blockText (before inside after : List Char) : List Char :=
  '{' :: '{' :: (before ++ (inside ++ (after ++ ['}', '}'])))

theorem afterPrefix?_closing_append {text : List Char} (nonempty : text ≠ [])
    (unclosed : Unclosed text) (isOpen : Stops (· == '}') text.reverse) (rest : List Char) :
    afterPrefix? ['}', '}'] (text ++ rest) = none := by
  match text with
  | [] => exact absurd rfl nonempty
  | [last] =>
    have other : '}' ≠ last := Ne.symm (beq_eq_false_iff_ne.1 (isOpen last rfl))
    simp [afterPrefix?, other]
  | first :: second :: others =>
    have pair := (List.isChain_cons_cons.1 unclosed).1
    by_cases same : '}' = first
    · have other : '}' ≠ second := fun next => pair ⟨same.symm, next.symm⟩
      simp [afterPrefix?, other]
    · simp [afterPrefix?, same]

theorem insideOf?_of_closing {text rest : List Char}
    (closing : afterPrefix? ['}', '}'] (trimStart text) = some rest) :
    insideOf? text = some ([], rest) := by
  cases text with
  | nil => cases closing
  | cons character others => simp only [insideOf?, closing]

/-- White space in front of closing braces is no part of the inside. -/
theorem insideOf?_closing {after : List Char} (blank : isBlankText after = true)
    (rest : List Char) : insideOf? (after ++ '}' :: '}' :: rest) = some ([], rest) := by
  apply insideOf?_of_closing
  rw [trimStart_blank_append blank, trimStart_of_stops (stops_cons (by decide))]
  rfl

theorem insideOf?_append {inside after : List Char} (line : '\n' ∉ inside)
    (unclosed : Unclosed inside) (ends : Stops isBlank inside.reverse)
    (isOpen : Stops (· == '}') inside.reverse) (blank : isBlankText after = true)
    (rest : List Char) :
    insideOf? (inside ++ (after ++ '}' :: '}' :: rest)) = some (inside, rest) := by
  induction inside with
  | nil => exact insideOf?_closing blank rest
  | cons character inside ih =>
    have written := not_blank_of_stops_reverse (List.cons_ne_nil character inside) ends
    have suffix : trimStart (character :: inside) <:+ character :: inside :=
      List.dropWhile_suffix isBlank
    -- the white space in front of the closing braces starts only behind the whole inside
    have goesOn : afterPrefix? ['}', '}'] (trimStart
        (character :: (inside ++ (after ++ '}' :: '}' :: rest)))) = none := by
      rw [← List.cons_append, trimStart_append written]
      exact afterPrefix?_closing_append (trimStart_ne_nil written) (unclosed.suffix suffix)
        (stops_reverse_of_suffix suffix isOpen) _
    have tail : inside <:+ character :: inside := List.suffix_cons character inside
    rw [List.mem_cons, not_or] at line
    rw [List.cons_append, insideOf?, goesOn]
    simp only [if_neg (Ne.symm line.1)]
    rw [ih line.2 (unclosed.suffix tail) (stops_reverse_of_suffix tail ends)
      (stops_reverse_of_suffix tail isOpen), Option.map_some]

theorem blockAt?_block {before inside after : List Char} (beforeBlank : isBlankText before = true)
    (isInside : IsInside inside) (afterBlank : isBlankText after = true) (rest : List Char) :
    blockAt? (blockText before inside after ++ rest) = some (inside, rest) := by
  have read : insideOf? (trimStart (inside ++ (after ++ '}' :: '}' :: rest))) =
      some (inside, rest) := by
    by_cases empty : inside = []
    · rw [empty, List.nil_append, trimStart_blank_append afterBlank,
        trimStart_of_stops (stops_cons (by decide))]
      exact @insideOf?_closing [] rfl rest
    · rw [trimStart_of_stops (isInside.starts.append empty _)]
      exact insideOf?_append isInside.line isInside.unclosed isInside.ends isInside.isOpen
        afterBlank rest
  rw [← trimStart_blank_append beforeBlank] at read
  simpa [blockAt?, blockText, afterPrefix?] using read

theorem segments_of_blockAt? {text inside rest : List Char}
    (found : blockAt? text = some (inside, rest)) :
    segments text = .block inside :: segments rest := by
  cases text with
  | nil => cases found
  | cons character others =>
    rw [segments]
    split
    · next inside' rest' found' =>
      cases found.symm.trans found'
      rfl
    · next absent => cases found.symm.trans absent

end Markup

namespace Processor

open Character Text Markup

theorem process_nil (processor : Processor) (context : Value) :
    processor.process [] context = [] := by
  rw [process, segments]
  rfl

/-- A block yields the text of its inside, in front of what the rest of the template yields. -/
theorem process_block (processor : Processor) (context : Value) {before inside after : List Char}
    (beforeBlank : isBlankText before = true) (isInside : IsInside inside)
    (afterBlank : isBlankText after = true) (rest : List Char) :
    processor.process (blockText before inside after ++ rest) context =
      processor.expressionText context inside ++ processor.process rest context := by
  rw [process, segments_of_blockAt? (blockAt?_block beforeBlank isInside afterBlank rest),
    List.flatMap_cons, segmentText, trim_of_stops isInside.starts isInside.ends, process]

end Processor

end Intake
