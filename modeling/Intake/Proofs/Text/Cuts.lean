import Intake.Proofs.Text.Runs
import Mathlib.Data.List.Chain

/-!
# Where a text is cut

A text is split at the first occurrence of a pattern, or cut into pieces at every occurrence of a
separator. Both find the places that a text was put together at, and whatever they cut out lies in
the text in one piece.
-/

namespace Intake

namespace Text

theorem afterPrefix?_append (pattern after : List Char) :
    afterPrefix? pattern (pattern ++ after) = some after := by
  induction pattern with
  | nil => rfl
  | cons character pattern ih => rw [List.cons_append, afterPrefix?, if_pos rfl, ih]

/-- The pattern stands between the parts that a text is split into. -/
theorem eq_of_splitOnce? {pattern text before after : List Char}
    (found : splitOnce? pattern text = some (before, after)) :
    text = before ++ (pattern ++ after) := by
  induction text generalizing before with
  | nil =>
    rw [splitOnce?] at found
    split at found
    · next empty =>
      cases found
      simpa using empty
    · cases found
  | cons character rest ih =>
    rw [splitOnce?] at found
    split at found
    · next parts matched =>
      cases found
      rw [List.nil_append]
      exact eq_append_of_afterPrefix? matched
    · obtain ⟨⟨front, back⟩, split, same⟩ := Option.map_eq_some_iff.1 found
      cases same
      rw [List.cons_append, ← ih split]

/-- A text is split behind a front without the first character of the pattern. -/
theorem splitOnce?_append_of_not_mem {first : Char} {front : List Char} (absent : first ∉ front)
    (pattern after : List Char) :
    splitOnce? (first :: pattern) (front ++ (first :: pattern ++ after)) = some (front, after) := by
  induction front with
  | nil =>
    have here := afterPrefix?_append (first :: pattern) after
    rw [List.cons_append] at here
    rw [List.nil_append, List.cons_append, splitOnce?, here]
  | cons character front ih =>
    rw [List.mem_cons, not_or] at absent
    rw [List.cons_append, splitOnce?, List.cons_append, afterPrefix?, if_neg absent.1,
      ← List.cons_append, ih absent.2, Option.map_some]

theorem splitOnce?_of_not_mem {first : Char} {text : List Char} (absent : first ∉ text)
    (pattern : List Char) : splitOnce? (first :: pattern) text = none := by
  cases found : splitOnce? (first :: pattern) text with
  | none => rfl
  | some parts => exact absurd (by simp [eq_of_splitOnce? found]) absent

theorem splitOnce?_append_front {first : Char} {front : List Char} (absent : first ∉ front)
    (pattern rest : List Char) :
    splitOnce? (first :: pattern) (front ++ rest) =
      (splitOnce? (first :: pattern) rest).map fun parts => (front ++ parts.1, parts.2) := by
  induction front with
  | nil => simp
  | cons character front ih =>
    rw [List.mem_cons, not_or] at absent
    rw [List.cons_append, splitOnce?, afterPrefix?, if_neg absent.1, ih absent.2, Option.map_map]
    rfl

section Barriers

variable {pattern : List Char} {barrier : Char} (foreign : barrier ∉ pattern)

include foreign

theorem afterPrefix?_append_barrier (front rest : List Char) :
    afterPrefix? pattern (front ++ barrier :: rest) =
      (afterPrefix? pattern front).map (· ++ barrier :: rest) := by
  induction pattern generalizing front with
  | nil => rfl
  | cons expected pattern ih =>
    rw [List.mem_cons, not_or] at foreign
    cases front with
    | nil => simp [afterPrefix?, Ne.symm foreign.1]
    | cons character front =>
      rw [List.cons_append, afterPrefix?, afterPrefix?]
      split
      · exact ih foreign.2 front
      · rfl

/-- A pattern stands before or behind a character that it does not have. -/
theorem splitOnce?_append_barrier (nonempty : pattern ≠ []) (front rest : List Char) :
    splitOnce? pattern (front ++ barrier :: rest) =
      ((splitOnce? pattern front).map fun parts => (parts.1, parts.2 ++ barrier :: rest)).or
        ((splitOnce? pattern rest).map fun parts => (front ++ barrier :: parts.1, parts.2)) := by
  induction front with
  | nil =>
    obtain ⟨expected, pattern, rfl⟩ := List.exists_cons_of_ne_nil nonempty
    have differs : expected ≠ barrier := fun same => foreign (same ▸ List.mem_cons_self)
    simp [splitOnce?, afterPrefix?, differs]
  | cons character front ih =>
    have here := afterPrefix?_append_barrier foreign (character :: front) rest
    rw [List.cons_append] at here ⊢
    rw [splitOnce?, splitOnce?, here]
    cases afterPrefix? pattern (character :: front) with
    | some after => rfl
    | none =>
      rw [Option.map_none, ih, Option.map_or, Option.map_map, Option.map_map, Option.map_map]
      rfl

end Barriers

/-- A doubled mark is found exactly where it stands next to itself. -/
theorem splitOnce?_pair_eq_none_iff {mark : Char} {text : List Char} :
    splitOnce? [mark, mark] text = none ↔
      text.IsChain fun left right => ¬ (left = mark ∧ right = mark) := by
  induction text with
  | nil => simp [splitOnce?]
  | cons character rest ih =>
    cases rest with
    | nil =>
      by_cases same : mark = character <;> simp [splitOnce?, afterPrefix?, same]
    | cons next others =>
      rw [List.isChain_cons_cons, ← ih, splitOnce?]
      by_cases here : mark = character ∧ mark = next
      · simp [afterPrefix?, here.1.symm, here.2.symm]
      · have passed : afterPrefix? [mark, mark] (character :: next :: others) = none := by
          simp only [afterPrefix?]
          split_ifs <;> simp_all
        have apart : ¬ (character = mark ∧ next = mark) := fun both =>
          here ⟨both.1.symm, both.2.symm⟩
        rw [passed, Option.map_eq_none_iff, and_iff_right apart]

section Marks

variable {mark : Char} {front : List Char}

theorem splitOnce?_singleton (mark : Char) (text : List Char) :
    splitOnce? [mark] text = splitAt? mark text := by
  induction text with
  | nil => rfl
  | cons character rest ih =>
    rw [splitOnce?, splitAt?, afterPrefix?, ih]
    by_cases same : mark = character
    · rw [if_pos same, if_pos same.symm]
      rfl
    · rw [if_neg same, if_neg (Ne.symm same)]

theorem splitAt?_append_of_not_mem (absent : mark ∉ front) (rest : List Char) :
    splitAt? mark (front ++ rest) =
      (splitAt? mark rest).map fun parts => (front ++ parts.1, parts.2) := by
  induction front with
  | nil => simp
  | cons character front ih =>
    rw [List.mem_cons, not_or] at absent
    rw [List.cons_append, splitAt?, if_neg (Ne.symm absent.1), ih absent.2, Option.map_map]
    rfl

theorem splitAt?_eq_none_iff {text : List Char} : splitAt? mark text = none ↔ mark ∉ text := by
  induction text with
  | nil => simp [splitAt?]
  | cons character rest ih =>
    rw [splitAt?]
    by_cases same : character = mark
    · simp [same]
    · simp [same, Ne.symm same, ih]

/-- A text is split at the first mark of it. -/
theorem splitAt?_eq_some_iff {text before after : List Char} :
    splitAt? mark text = some (before, after) ↔ text = before ++ mark :: after ∧ mark ∉ before := by
  constructor
  · intro found
    refine ⟨eq_of_splitOnce? ((splitOnce?_singleton mark text).trans found), ?_⟩
    induction text generalizing before with
    | nil => cases found
    | cons character rest ih =>
      rw [splitAt?] at found
      split at found
      · cases found
        exact List.not_mem_nil
      · next differs =>
        obtain ⟨⟨front, back⟩, inner, same⟩ := Option.map_eq_some_iff.1 found
        cases same
        rw [List.mem_cons, not_or]
        exact ⟨Ne.symm differs, ih inner⟩
  · rintro ⟨rfl, absent⟩
    rw [splitAt?_append_of_not_mem absent, splitAt?, if_pos rfl, Option.map_some, List.append_nil]

end Marks

section Pieces

variable {separator : Char} {text front : List Char}

theorem pieces_of_not_mem (absent : separator ∉ text) : pieces separator text = [text] := by
  induction text with
  | nil => rfl
  | cons character rest ih =>
    rw [List.mem_cons, not_or] at absent
    rw [pieces, if_neg (Ne.symm absent.1), ih absent.2]

theorem pieces_append_of_not_mem (absent : separator ∉ front) (rest : List Char) :
    pieces separator (front ++ separator :: rest) = front :: pieces separator rest := by
  induction front with
  | nil => exact if_pos rfl
  | cons character front ih =>
    rw [List.mem_cons, not_or] at absent
    rw [List.cons_append, pieces, if_neg (Ne.symm absent.1), ih absent.2]

theorem infix_joined_of_mem (separator : List Char) {parts : List (List Char)} {part : List Char}
    (member : part ∈ parts) : part <:+: joined separator parts := by
  induction parts with
  | nil => cases member
  | cons first others ih =>
    by_cases last : others = []
    · subst last
      rw [List.mem_singleton.1 member]
      exact List.infix_rfl
    · rw [joined_cons separator first last]
      rcases List.mem_cons.1 member with rfl | inside
      · exact ⟨[], separator ++ joined separator others, by simp⟩
      · exact (ih inside).trans (List.suffix_append _ _).isInfix

theorem infix_of_mem_pieces {piece : List Char} (member : piece ∈ pieces separator text) :
    piece <:+: text := by
  have inside := infix_joined_of_mem [separator] member
  rwa [joined_pieces] at inside

theorem not_mem_of_mem_pieces {piece : List Char} (member : piece ∈ pieces separator text) :
    separator ∉ piece := by
  induction text generalizing piece with
  | nil =>
    rw [List.mem_singleton.1 member]
    exact List.not_mem_nil
  | cons character rest ih =>
    rw [pieces] at member
    split at member
    · rcases List.mem_cons.1 member with rfl | inside
      · exact List.not_mem_nil
      · exact ih inside
    · next other =>
      have first : separator ≠ character := Ne.symm other
      cases found : pieces separator rest with
      | nil => exact absurd found (pieces_ne_nil separator rest)
      | cons front others =>
        rw [found] at ih member
        rcases List.mem_cons.1 member with rfl | inside
        · exact List.not_mem_cons_of_ne_of_not_mem first (ih List.mem_cons_self)
        · exact ih (List.mem_cons_of_mem front inside)

theorem trim_infix (text : List Char) : trim text <:+: text := by
  obtain ⟨before, after, -, -, same⟩ := exists_margins text
  exact ⟨before, after, same.symm⟩

end Pieces

end Text

end Intake
