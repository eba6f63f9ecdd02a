import Intake.Proofs.Condition.Groups

/-!
# Parts between separators

A text leaves open the brackets that it opens and does not close; a count below zero says that it
closes more than it opens. What stands in quotes does not count. A separator cuts a text where the
text in front of it leaves nothing open, and nowhere else. So the parts of a text are joined to the
text again, less a separator at its end that cuts, and parts that are joined come back if all but
the last one leave nothing open, the last one is not empty, and no separator cuts any of them.
-/

namespace Intake

namespace Text

open Nesting Condition

/-- Texts that close their quotes, with the count of brackets that they leave open. -/
inductive LeavesOpen : Int → List Char → Prop
  | nil : LeavesOpen 0 []
  | plain {depth : Int} {character : Char} {rest : List Char} (unmarked : isMark character = false)
      (leaves : LeavesOpen depth rest) : LeavesOpen depth (character :: rest)
  | quoted {depth : Int} {text rest : List Char} (quoted : IsQuoted text)
      (leaves : LeavesOpen depth rest) : LeavesOpen depth (text ++ rest)
  | opened {depth : Int} {character : Char} {rest : List Char}
      (opening : isOpening character = true) (leaves : LeavesOpen depth rest) :
      LeavesOpen (depth + 1) (character :: rest)
  | closed {depth : Int} {character : Char} {rest : List Char}
      (closing : isClosing character = true) (leaves : LeavesOpen depth rest) :
      LeavesOpen (depth - 1) (character :: rest)

section Reader

variable {nesting : Nesting}

theorem after_isQuoted {text : List Char} (outside : nesting.quote = none)
    (quoted : IsQuoted text) :
    (nesting.after text).quote = none ∧ (nesting.after text).depth = nesting.depth := by
  obtain ⟨quote, content, mark, inQuotes, rfl⟩ := quoted
  obtain ⟨opened, depth⟩ := step_of_isQuote outside mark
  rw [← previous_step nesting] at inQuotes
  obtain ⟨-, closed, sameDepth⟩ := scan_quotedContent opened inQuotes
  rw [after_cons, after_append, after_cons, after_nil]
  exact ⟨closed, sameDepth.trans depth⟩

theorem LeavesOpen.after_eq {depth : Int} {text : List Char} (leaves : LeavesOpen depth text)
    (outside : nesting.quote = none) :
    (nesting.after text).quote = none ∧ (nesting.after text).depth = nesting.depth + depth := by
  induction leaves generalizing nesting with
  | nil => exact ⟨outside, (Int.add_zero _).symm⟩
  | plain unmarked _ ih =>
    obtain ⟨still, same⟩ := step_of_not_isMark outside unmarked
    rw [after_cons, ← same]
    exact ih still
  | quoted quoted _ ih =>
    obtain ⟨still, same⟩ := after_isQuoted outside quoted
    rw [after_append, ← same]
    exact ih still
  | opened opening _ ih =>
    obtain ⟨still, deeper⟩ := step_of_isOpening outside opening
    obtain ⟨finish, depth⟩ := ih still
    rw [after_cons]
    exact ⟨finish, by omega⟩
  | closed closing _ ih =>
    obtain ⟨still, shallower⟩ := step_of_isClosing outside closing
    obtain ⟨finish, depth⟩ := ih still
    rw [after_cons]
    exact ⟨finish, by omega⟩

/-- Quotes that a reader leaves again are closed by a mark of their kind. -/
theorem exists_quoted_of_after {quote : Char} {rest : List Char} (outside : nesting.quote = none)
    (mark : isQuote quote = true) (finish : (nesting.after (quote :: rest)).quote = none) :
    ∃ text behind, quote :: rest = text ++ behind ∧ IsQuoted text ∧
      behind.length < (quote :: rest).length := by
  obtain ⟨opened, -⟩ := step_of_isQuote outside mark
  rcases quotes_cases opened rest with ⟨isOpen, -⟩ | ⟨content, behind, rfl, inQuotes⟩
  · rw [after_cons, isOpen] at finish
    cases finish
  · rw [previous_step] at inQuotes
    refine ⟨quote :: (content ++ [quote]), behind, by simp,
      ⟨quote, content, mark, inQuotes, rfl⟩, ?_⟩
    simp only [List.length_cons, List.length_append]
    omega

/-- A text behind which a reader stands outside quotes closes its own. -/
theorem leavesOpen_of_after {text : List Char} (outside : nesting.quote = none)
    (finish : (nesting.after text).quote = none) :
    LeavesOpen ((nesting.after text).depth - nesting.depth) text := by
  -- A quoted text is taken in one step, so the induction is on the length.
  induction size : text.length using Nat.strong_induction_on generalizing nesting text with
  | _ length ih =>
  cases text with
  | nil =>
    rw [after_nil, Int.sub_self]
    exact .nil
  | cons character rest =>
    have shorter : rest.length < length := by
      rw [← size, List.length_cons]
      exact Nat.lt_succ_self _
    cases quote : isQuote character with
    | true =>
      obtain ⟨text, behind, split, quoted, less⟩ := exists_quoted_of_after outside quote finish
      obtain ⟨between, same⟩ := after_isQuoted outside quoted
      rw [split, after_append] at finish ⊢
      rw [← same]
      exact .quoted quoted (ih _ (size ▸ less) between finish rfl)
    | false =>
      rw [after_cons] at finish ⊢
      cases opening : isOpening character with
      | true =>
        obtain ⟨still, deeper⟩ := step_of_isOpening outside opening
        have leaves := (ih _ shorter still finish rfl).opened opening
        rw [deeper] at leaves
        convert leaves using 1
        omega
      | false =>
        cases closing : isClosing character with
        | true =>
          obtain ⟨still, shallower⟩ := step_of_isClosing outside closing
          have leaves := (ih _ shorter still finish rfl).closed closing
          rw [shallower] at leaves
          convert leaves using 1
          omega
        | false =>
          have unmarked : isMark character = false := by simp [isMark, quote, opening, closing]
          obtain ⟨still, same⟩ := step_of_not_isMark outside unmarked
          rw [← same]
          exact .plain unmarked (ih _ shorter still finish rfl)

theorem leavesOpen_iff {depth : Int} {text : List Char} (outside : nesting.quote = none) :
    LeavesOpen depth text ↔
      (nesting.after text).quote = none ∧ (nesting.after text).depth = nesting.depth + depth := by
  constructor
  · intro leaves
    exact leaves.after_eq outside
  · rintro ⟨finish, level⟩
    have leaves := leavesOpen_of_after outside finish
    rw [level] at leaves
    convert leaves using 1
    omega

theorem isTop_after_iff (top : nesting.isTop = true) {text : List Char} :
    (nesting.after text).isTop = true ↔ LeavesOpen 0 text := by
  obtain ⟨outside, depth⟩ := isTop_iff.1 top
  rw [isTop_iff, leavesOpen_iff outside, depth, Int.add_zero]

end Reader

theorem isTop_start : ({} : Nesting).isTop = true :=
  rfl

instance (depth : Int) (text : List Char) : Decidable (LeavesOpen depth text) :=
  decidable_of_iff _ (leavesOpen_iff (isTop_iff.1 isTop_start).1).symm

instance decidableUncut (separator : Char) :
    (nesting : Nesting) → (text : List Char) → Decidable (Uncut separator nesting text)
  | _, [] => inferInstanceAs (Decidable True)
  | nesting, character :: rest =>
    have := decidableUncut separator (nesting.step character) rest
    inferInstanceAs (Decidable (_ ∧ _))

section Cuts

variable {separator : Char} {nesting : Nesting}

/-- Whether no separator cuts a text by itself. -/
def Unseparated (separator : Char) (text : List Char) : Prop :=
  ∀ before after, text = before ++ separator :: after → ¬ LeavesOpen 0 before

theorem uncut_iff {text : List Char} :
    Uncut separator nesting text ↔
      ∀ before character after, text = before ++ character :: after →
        cutsAt separator (nesting.after before) character = false := by
  induction text generalizing nesting with
  | nil => simp [Uncut]
  | cons first rest ih =>
    rw [Uncut, ih]
    constructor
    · rintro ⟨here, behind⟩ before character after same
      cases before with
      | nil =>
        obtain ⟨rfl, -⟩ := List.cons.inj same
        exact here
      | cons second before =>
        obtain ⟨rfl, rfl⟩ := List.cons.inj same
        exact behind before character after rfl
    · intro all
      refine ⟨all [] first rest rfl, ?_⟩
      rintro before character after rfl
      exact all (first :: before) character after rfl

theorem uncut_iff_unseparated (plain : isMark separator = false) (top : nesting.isTop = true)
    {text : List Char} : Uncut separator nesting text ↔ Unseparated separator text := by
  rw [uncut_iff]
  constructor
  · intro uncut before after same leaves
    have cut : cutsAt separator (nesting.after before) separator = true :=
      (cutsAt_iff plain).2 ⟨(isTop_after_iff top).2 leaves, rfl⟩
    rw [uncut before separator after same] at cut
    cases cut
  · intro free before character after same
    rw [Bool.eq_false_iff]
    intro cut
    obtain ⟨here, rfl⟩ := (cutsAt_iff plain).1 cut
    exact free before after same ((isTop_after_iff top).1 here)

end Cuts

section Pieces

variable {separator : Char} {nesting : Nesting}

theorem topPieces_of_isTop (top : nesting.isTop = true) (text : List Char) :
    topPieces separator nesting text = topPieces separator {} text := by
  obtain ⟨outside, depth⟩ := isTop_iff.1 top
  cases text with
  | nil => rfl
  | cons character rest =>
    have next : nesting.step character = ({} : Nesting).step character := by
      simp [step, outside, depth]
    rw [topPieces_cons, topPieces_cons, next, cutsAt, cutsAt, top, isTop_start]

/-- The pieces of a text are joined to the text again. -/
theorem joined_topPieces (separator : Char) (nesting : Nesting) (text : List Char) :
    joined [separator] (topPieces separator nesting text) = text := by
  induction text generalizing nesting with
  | nil => rfl
  | cons character rest ih =>
    have nonempty := topPieces_ne_nil separator (nesting.step character) rest
    rw [topPieces_cons]
    split
    · next cut =>
      rw [joined_cons [separator] [] nonempty, ih, eq_of_cutsAt cut]
      rfl
    · rw [joined_modifyHead [separator] character nonempty, ih]

/-- Behind a separator that cuts, the pieces start anew. -/
theorem topPieces_append_of_cutsAt {before : List Char}
    (cut : cutsAt separator (nesting.after before) separator = true) (after : List Char) :
    topPieces separator nesting (before ++ separator :: after) =
      topPieces separator nesting before ++
        topPieces separator ((nesting.after before).step separator) after := by
  induction before generalizing nesting with
  | nil =>
    rw [after_nil] at cut
    rw [List.nil_append, topPieces_cons, if_pos cut]
    rfl
  | cons character before ih =>
    rw [List.cons_append, topPieces_cons, topPieces_cons, ih cut]
    split
    · rfl
    · obtain ⟨piece, more, pieces⟩ := exists_topPieces separator (nesting.step character) before
      rw [pieces]
      rfl

/-- Between two pieces stands a separator that cuts. -/
theorem cutsAt_of_topPieces_eq_append {text : List Char} {front back : List (List Char)}
    (pieces : topPieces separator nesting text = front ++ back) (any : front ≠ [])
    (more : back ≠ []) :
    cutsAt separator (nesting.after (joined [separator] front)) separator = true := by
  induction text generalizing nesting front with
  | nil =>
    obtain ⟨first, others, rfl⟩ := List.exists_cons_of_ne_nil any
    have single := (List.cons.inj pieces).2
    exact absurd (List.append_eq_nil_iff.1 single.symm).2 more
  | cons character rest ih =>
    obtain ⟨first, others, rfl⟩ := List.exists_cons_of_ne_nil any
    rw [topPieces_cons] at pieces
    split at pieces
    · next cut =>
      obtain rfl := eq_of_cutsAt cut
      obtain ⟨rfl, behind⟩ := List.cons.inj pieces
      by_cases last : others = []
      · subst last
        exact cut
      · rw [joined_cons _ _ last]
        exact ih behind last
    · obtain ⟨piece, further, behind⟩ := exists_topPieces separator (nesting.step character) rest
      rw [behind] at pieces
      obtain ⟨rfl, rfl⟩ := List.cons.inj pieces
      have here : cutsAt separator
          ((nesting.step character).after (joined [separator] (piece :: others))) separator =
            true :=
        ih behind (List.cons_ne_nil _ _)
      have longer := joined_modifyHead [separator] character (List.cons_ne_nil piece others)
      rw [List.modifyHead_cons] at longer
      rw [longer]
      exact here

theorem topPieces_joined_iff (plain : isMark separator = false) {parts : List (List Char)}
    (any : parts ≠ []) (top : nesting.isTop = true) :
    topPieces separator nesting (joined [separator] parts) = parts ↔
      (∀ part ∈ parts, Unseparated separator part) ∧
        ∀ part ∈ parts.dropLast, LeavesOpen 0 part := by
  induction parts generalizing nesting with
  | nil => exact absurd rfl any
  | cons first others ih =>
    by_cases last : others = []
    · subst last
      have single : joined [separator] [first] = first := rfl
      rw [single, topPieces_eq_singleton_iff, uncut_iff_unseparated plain top]
      simp
    · have text : joined [separator] (first :: others) =
          first ++ separator :: joined [separator] others := by
        rw [joined_cons _ _ last, List.append_assoc]
        rfl
      rw [text, topPieces_append_eq_cons_iff, uncut_iff_unseparated plain top, cutsAt_iff plain,
        List.dropLast_cons_of_ne_nil last, List.forall_mem_cons, List.forall_mem_cons]
      constructor
      · rintro ⟨free, ⟨here, -⟩, behind⟩
        obtain ⟨freeOthers, closed⟩ := (ih last (isTop_step plain here)).1 behind
        exact ⟨⟨free, freeOthers⟩, (isTop_after_iff top).1 here, closed⟩
      · rintro ⟨⟨free, freeOthers⟩, leaves, closed⟩
        have here := (isTop_after_iff top).2 leaves
        exact ⟨free, ⟨here, rfl⟩, (ih last (isTop_step plain here)).2 ⟨freeOthers, closed⟩⟩

end Pieces

section Parts

variable {separator : Char}

/-- The parts of a text are its pieces, or its pieces but for an empty last one. -/
theorem splitTopLevel_cases (separator : Char) (text : List Char) :
    (topPieces separator {} text = splitTopLevel separator text ∧
        (splitTopLevel separator text).getLast? ≠ some []) ∨
      topPieces separator {} text = splitTopLevel separator text ++ [[]] := by
  rw [splitTopLevel]
  by_cases last : (topPieces separator {} text).getLast? = some []
  · obtain ⟨front, pieces⟩ := List.getLast?_eq_some_iff.1 last
    rw [pieces, dropEmptyLast_append front (List.cons_ne_nil _ _)]
    exact Or.inr (by simp [dropEmptyLast])
  · rw [dropEmptyLast_of_getLast? last]
    exact Or.inl ⟨rfl, last⟩

/-- Whether the text in front of a place makes up the first of some parts. -/
def EndsPart (separator : Char) (parts : List (List Char)) (before : List Char) : Prop :=
  ∃ front back, parts = front ++ back ∧ front ≠ [] ∧ joined [separator] front = before

theorem cutsAt_after_iff (plain : isMark separator = false) {before : List Char} :
    cutsAt separator (({} : Nesting).after before) separator = true ↔ LeavesOpen 0 before := by
  rw [cutsAt_iff plain, isTop_after_iff isTop_start, and_iff_left rfl]

/-- A text behind a separator that cuts has the parts that it has by itself. -/
theorem splitTopLevel_append_of_leavesOpen (plain : isMark separator = false) {before : List Char}
    (leaves : LeavesOpen 0 before) (after : List Char) :
    splitTopLevel separator (before ++ separator :: after) =
      topPieces separator {} before ++ splitTopLevel separator after := by
  have cut := (cutsAt_after_iff plain).2 leaves
  have next := isTop_step plain ((isTop_after_iff isTop_start).2 leaves)
  rw [splitTopLevel, topPieces_append_of_cutsAt cut, topPieces_of_isTop next,
    dropEmptyLast_append _ (topPieces_ne_nil _ _ _), splitTopLevel]

/-- A separator ends a part exactly where nothing is open in front of it. -/
theorem endsPart_iff (plain : isMark separator = false) {before after : List Char} :
    EndsPart separator (splitTopLevel separator (before ++ separator :: after)) before ↔
      LeavesOpen 0 before := by
  constructor
  · rintro ⟨front, back, parts, any, same⟩
    rw [← cutsAt_after_iff plain, ← same]
    rcases splitTopLevel_cases separator (before ++ separator :: after) with ⟨pieces, -⟩ | pieces
    · rw [parts] at pieces
      refine cutsAt_of_topPieces_eq_append pieces any ?_
      -- The first parts fall short of the text, so there are more.
      rintro rfl
      have whole := joined_topPieces separator {} (before ++ separator :: after)
      rw [pieces, List.append_nil, same] at whole
      simp at whole
    · rw [parts, List.append_assoc] at pieces
      exact cutsAt_of_topPieces_eq_append pieces any (by simp)
  · intro leaves
    exact ⟨_, _, splitTopLevel_append_of_leavesOpen plain leaves after, topPieces_ne_nil _ _ _,
      joined_topPieces _ _ _⟩

theorem joined_splitTopLevel_of_leavesOpen (plain : isMark separator = false) {front : List Char}
    (leaves : LeavesOpen 0 front) :
    joined [separator] (splitTopLevel separator (front ++ [separator])) = front := by
  have nothing : splitTopLevel separator [] = [] := rfl
  rw [splitTopLevel_append_of_leavesOpen plain leaves, nothing, List.append_nil, joined_topPieces]

theorem joined_splitTopLevel_of_not_leavesOpen (plain : isMark separator = false)
    {text : List Char} (uncut : ∀ front, text = front ++ [separator] → ¬ LeavesOpen 0 front) :
    joined [separator] (splitTopLevel separator text) = text := by
  have whole := joined_topPieces separator {} text
  rcases splitTopLevel_cases separator text with ⟨pieces, -⟩ | pieces
  · rwa [pieces] at whole
  · rw [pieces] at whole
    by_cases empty : splitTopLevel separator text = []
    · rw [empty] at whole ⊢
      exact whole
    · have last : text = joined [separator] (splitTopLevel separator text) ++ [separator] := by
        rw [joined_append [separator] empty (List.cons_ne_nil _ _)] at whole
        simpa [joined] using whole.symm
      have cut := cutsAt_of_topPieces_eq_append pieces empty (List.cons_ne_nil _ _)
      exact absurd ((cutsAt_after_iff plain).1 cut) (uncut _ last)

/-- Joined parts come back exactly if no separator cuts any of them, all but the last one leave
nothing open and the last one is not empty. -/
theorem splitTopLevel_joined_iff (plain : isMark separator = false) {parts : List (List Char)} :
    splitTopLevel separator (joined [separator] parts) = parts ↔
      (∀ part ∈ parts, Unseparated separator part) ∧
        (∀ part ∈ parts.dropLast, LeavesOpen 0 part) ∧ parts.getLast? ≠ some [] := by
  by_cases any : parts = []
  · subst any
    simp [joined, splitTopLevel, topPieces, dropEmptyLast]
  · rw [← and_assoc, ← topPieces_joined_iff plain any isTop_start]
    constructor
    · intro same
      rcases splitTopLevel_cases separator (joined [separator] parts) with
        ⟨pieces, last⟩ | pieces
      · rw [same] at pieces last
        exact ⟨pieces, last⟩
      · -- One more piece would make the text longer.
        have whole := joined_topPieces separator {} (joined [separator] parts)
        rw [pieces, same, joined_append [separator] any (List.cons_ne_nil _ _)] at whole
        simp [joined] at whole
    · rintro ⟨pieces, last⟩
      rw [splitTopLevel, pieces, dropEmptyLast_of_getLast? last]

/-- The parts of a text are what stands between the separators outside its quotes and brackets.
Joined again they give the text, less a separator of this kind at its end; a separator ends a part
exactly if the text in front of it closes its quotes and as many brackets as it opens; and joined
parts come back that are not empty, close their quotes and as many brackets as they open, and have
no separator outside them. -/
theorem parts_between_separators (plain : isMark separator = false) :
    (∀ front, LeavesOpen 0 front →
        joined [separator] (splitTopLevel separator (front ++ [separator])) = front) ∧
      (∀ text, (∀ front, text = front ++ [separator] → ¬ LeavesOpen 0 front) →
        joined [separator] (splitTopLevel separator text) = text) ∧
      (∀ before after,
        EndsPart separator (splitTopLevel separator (before ++ separator :: after)) before ↔
          LeavesOpen 0 before) ∧
      ∀ parts, (∀ part ∈ parts, part ≠ [] ∧ LeavesOpen 0 part ∧ Unseparated separator part) →
        splitTopLevel separator (joined [separator] parts) = parts := by
  refine ⟨fun _ leaves => joined_splitTopLevel_of_leavesOpen plain leaves,
    fun _ uncut => joined_splitTopLevel_of_not_leavesOpen plain uncut,
    fun _ _ => endsPart_iff plain, ?_⟩
  intro parts each
  refine (splitTopLevel_joined_iff plain).2 ⟨fun part member => (each part member).2.2, ?_, ?_⟩
  · intro part member
    exact (each part (List.dropLast_subset _ member)).2.1
  · intro last
    exact (each [] (List.mem_of_getLast? last)).1 rfl

theorem parts_between_separators_arguments :
    isMark ',' = false ∧
      (∀ part ∈ ["'c,d'".toList, " [3, f('a,(b', x)]".toList],
        part ≠ [] ∧ LeavesOpen 0 part ∧ Unseparated ',' part) ∧
      splitTopLevel ',' (joined [','] ["'c,d'".toList, " [3, f('a,(b', x)]".toList]) =
        ["'c,d'".toList, " [3, f('a,(b', x)]".toList] := by
  have free : ∀ part ∈ ["'c,d'".toList, " [3, f('a,(b', x)]".toList], Uncut ',' {} part := by
    decide
  have each : ∀ part ∈ ["'c,d'".toList, " [3, f('a,(b', x)]".toList],
      part ≠ [] ∧ LeavesOpen 0 part ∧ Unseparated ',' part := by
    intro part member
    refine ⟨?_, ?_, (uncut_iff_unseparated rfl isTop_start).1 (free part member)⟩
    · revert part
      decide
    · revert part
      decide
  exact ⟨rfl, each, (parts_between_separators rfl).2.2.2 _ each⟩

end Parts

end Text

end Intake
