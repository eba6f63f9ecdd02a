import Intake.Proofs.Text.Runs
import Intake.Text.Nesting
import Mathlib.Data.List.Basic

/-!
# Balanced texts

A text is balanced if it closes the quotes and brackets that it opens and no others. A balanced text
without a separator outside its quotes and brackets is never cut, so texts of this kind that are
joined by a separator are split apart again.
-/

namespace Intake

namespace Nesting

theorem after_append (nesting : Nesting) (first second : List Char) :
    nesting.after (first ++ second) = (nesting.after first).after second :=
  List.foldl_append

@[simp] theorem after_nil (nesting : Nesting) : nesting.after [] = nesting :=
  rfl

@[simp] theorem after_cons (nesting : Nesting) (character : Char) (rest : List Char) :
    nesting.after (character :: rest) = (nesting.step character).after rest :=
  rfl

def isMark (character : Char) : Bool :=
  isQuote character || isOpening character || isClosing character

theorem mark_cases {mark : Char} (isMark : isQuote mark = true) : mark = '\'' ∨ mark = '"' := by
  simpa [isQuote] using isMark

theorem previous_step (nesting : Nesting) (character : Char) :
    (nesting.step character).previous = some character := by
  rw [step]
  split <;> rfl

section Step

variable {nesting : Nesting} {character : Char}

theorem step_of_not_isMark (outside : nesting.quote = none) (plain : isMark character = false) :
    (nesting.step character).quote = none ∧ (nesting.step character).depth = nesting.depth := by
  simp only [isMark, Bool.or_eq_false_iff] at plain
  simp [step, outside, plain]

theorem isQuote_of_isOpening (opening : isOpening character = true) :
    isQuote character = false := by
  simp only [isOpening, Bool.or_eq_true, beq_iff_eq] at opening
  rcases opening with (rfl | rfl) | rfl <;> rfl

theorem isOpening_of_isClosing (closing : isClosing character = true) :
    isQuote character = false ∧ isOpening character = false := by
  simp only [isClosing, Bool.or_eq_true, beq_iff_eq] at closing
  rcases closing with (rfl | rfl) | rfl <;> exact ⟨rfl, rfl⟩

theorem step_of_isOpening (outside : nesting.quote = none) (opening : isOpening character = true) :
    (nesting.step character).quote = none ∧
      (nesting.step character).depth = nesting.depth + 1 := by
  simp [step, outside, opening, isQuote_of_isOpening opening]

theorem step_of_isClosing (outside : nesting.quote = none) (closing : isClosing character = true) :
    (nesting.step character).quote = none ∧
      (nesting.step character).depth = nesting.depth - 1 := by
  simp [step, outside, closing, isOpening_of_isClosing closing]

theorem step_of_isQuote (outside : nesting.quote = none) (quote : isQuote character = true) :
    (nesting.step character).quote = some character ∧
      (nesting.step character).depth = nesting.depth := by
  rcases mark_cases quote with rfl | rfl <;> simp [step, outside, isQuote, isOpening, isClosing]

end Step

/-- Whether no place of a text lies below a depth. -/
def StaysAbove (floor : Int) (nesting : Nesting) : List Char → Prop
  | [] => floor ≤ nesting.depth
  | character :: rest => floor ≤ nesting.depth ∧ StaysAbove floor (nesting.step character) rest

theorem StaysAbove.start {floor : Int} {nesting : Nesting} {text : List Char}
    (above : StaysAbove floor nesting text) : floor ≤ nesting.depth := by
  cases text with
  | nil => exact above
  | cons character rest => exact above.1

theorem StaysAbove.append {floor : Int} {nesting : Nesting} {first second : List Char}
    (aboveFirst : StaysAbove floor nesting first)
    (aboveSecond : StaysAbove floor (nesting.after first) second) :
    StaysAbove floor nesting (first ++ second) := by
  induction first generalizing nesting with
  | nil => exact aboveSecond
  | cons character rest ih => exact ⟨aboveFirst.1, ih aboveFirst.2 aboveSecond⟩

theorem StaysAbove.mono {floor lower : Int} (below : lower ≤ floor) {nesting : Nesting}
    {text : List Char} (above : StaysAbove floor nesting text) :
    StaysAbove lower nesting text := by
  induction text generalizing nesting with
  | nil => exact Int.le_trans below above
  | cons character rest ih => exact ⟨Int.le_trans below above.1, ih above.2⟩

/-- Quoted text goes on over characters that are not its mark. -/
theorem after_quoted {nesting : Nesting} {quote : Char} (quoted : nesting.quote = some quote)
    {content : List Char} (clean : quote ∉ content) :
    (nesting.after content).quote = some quote ∧
      (nesting.after content).depth = nesting.depth ∧
      StaysAbove nesting.depth nesting content := by
  induction content generalizing nesting with
  | nil => exact ⟨quoted, rfl, Int.le_refl _⟩
  | cons character rest ih =>
    rw [List.mem_cons, not_or] at clean
    have next : (nesting.step character).quote = some quote ∧
        (nesting.step character).depth = nesting.depth := by
      simp [step, quoted, Ne.symm clean.1]
    obtain ⟨quotedAfter, depth, above⟩ := ih next.1 clean.2
    exact ⟨quotedAfter, depth.trans next.2, Int.le_refl _, next.2 ▸ above⟩

/-- The mark that opened quoted text closes it, unless a backslash stands before. -/
theorem step_closing_quote {nesting : Nesting} {quote : Char}
    (quoted : nesting.quote = some quote) (plain : nesting.previous ≠ some '\\') :
    (nesting.step quote).quote = none ∧ (nesting.step quote).depth = nesting.depth := by
  simp [step, quoted, plain]

theorem previous_after {nesting : Nesting} {mark : Char} (plain : nesting.previous ≠ some mark)
    {text : List Char} (clean : mark ∉ text) : (nesting.after text).previous ≠ some mark := by
  induction text generalizing nesting with
  | nil => exact plain
  | cons character rest ih =>
    rw [List.mem_cons, not_or] at clean
    refine ih ?_ clean.2
    rw [previous_step]
    exact fun same => clean.1 (Option.some.inj same).symm

end Nesting

namespace Text

open Nesting

/-- A text that closes the quotes and brackets that it opens, and no others. -/
def Balanced (text : List Char) : Prop :=
  ∀ nesting : Nesting, nesting.quote = none →
    (nesting.after text).quote = none ∧ (nesting.after text).depth = nesting.depth ∧
      StaysAbove nesting.depth nesting text

theorem balanced_nil : Balanced [] :=
  fun _ outside => ⟨outside, rfl, Int.le_refl _⟩

theorem Balanced.append {first second : List Char} (firstBalanced : Balanced first)
    (secondBalanced : Balanced second) : Balanced (first ++ second) := by
  intro nesting outside
  obtain ⟨between, depth, aboveFirst⟩ := firstBalanced nesting outside
  obtain ⟨finish, sameDepth, aboveSecond⟩ := secondBalanced _ between
  rw [after_append]
  exact ⟨finish, sameDepth.trans depth, aboveFirst.append (depth ▸ aboveSecond)⟩

theorem balanced_of_plain {text : List Char}
    (plain : ∀ character ∈ text, isMark character = false) : Balanced text := by
  induction text with
  | nil => exact balanced_nil
  | cons character rest ih =>
    rw [List.forall_mem_cons] at plain
    intro nesting outside
    obtain ⟨between, depth⟩ := step_of_not_isMark outside plain.1
    obtain ⟨finish, sameDepth, above⟩ := ih plain.2 _ between
    exact ⟨finish, sameDepth.trans depth, Int.le_refl _, depth ▸ above⟩

/-- A balanced text in brackets is balanced, and lies deeper than what is around it. -/
theorem Balanced.bracketed {inside : List Char} (balanced : Balanced inside) {first last : Char}
    (opening : isOpening first = true) (closing : isClosing last = true) (nesting : Nesting)
    (outside : nesting.quote = none) :
    StaysAbove (nesting.depth + 1) (nesting.step first) inside ∧
      ((nesting.step first).after inside).quote = none ∧
      ((nesting.step first).after inside).depth = nesting.depth + 1 ∧
      (((nesting.step first).after inside).step last).quote = none ∧
      (((nesting.step first).after inside).step last).depth = nesting.depth := by
  obtain ⟨open_, deeper⟩ := step_of_isOpening outside opening
  obtain ⟨between, depth, above⟩ := balanced _ open_
  obtain ⟨finish, shallower⟩ := step_of_isClosing between closing
  rw [deeper] at depth above
  refine ⟨above, between, depth, finish, ?_⟩
  rw [shallower, depth]
  omega

theorem balanced_brackets {inside : List Char} (balanced : Balanced inside) {first last : Char}
    (opening : isOpening first = true) (closing : isClosing last = true) :
    Balanced (first :: (inside ++ [last])) := by
  intro nesting outside
  obtain ⟨above, -, deeper, finish, depth⟩ := balanced.bracketed opening closing nesting outside
  rw [after_cons, after_append, after_cons, after_nil]
  refine ⟨finish, depth, Int.le_refl _, (above.mono (by omega)).append ⟨?_, ?_⟩⟩
  · rw [deeper]
    omega
  · exact Int.le_of_eq depth.symm

/-- A quoted text without its mark and without backslashes stays quoted up to the closing mark. -/
theorem quoted_content {quote : Char} (isMark : isQuote quote = true) {content : List Char}
    (clean : quote ∉ content) (plain : '\\' ∉ content) (nesting : Nesting)
    (outside : nesting.quote = none) :
    ((nesting.step quote).after content).quote = some quote ∧
      StaysAbove nesting.depth (nesting.step quote) content ∧
      (((nesting.step quote).after content).step quote).quote = none ∧
      (((nesting.step quote).after content).step quote).depth = nesting.depth := by
  obtain ⟨quoted, depth⟩ := step_of_isQuote outside isMark
  obtain ⟨goesOn, sameDepth, above⟩ := after_quoted quoted clean
  have notBackslash : (nesting.step quote).previous ≠ some '\\' := by
    rw [previous_step]
    rintro same
    cases same
    simp [isQuote] at isMark
  obtain ⟨finish, closedDepth⟩ :=
    step_closing_quote goesOn (previous_after notBackslash plain)
  exact ⟨goesOn, depth ▸ above, finish, closedDepth.trans (sameDepth.trans depth)⟩

theorem balanced_quoted {quote : Char} (isMark : isQuote quote = true) {content : List Char}
    (clean : quote ∉ content) (plain : '\\' ∉ content) :
    Balanced (quote :: (content ++ [quote])) := by
  intro nesting outside
  obtain ⟨-, above, finish, depth⟩ := quoted_content isMark clean plain nesting outside
  rw [after_cons, after_append, after_cons, after_nil]
  refine ⟨finish, depth, Int.le_refl _, above.append ⟨?_, Int.le_of_eq depth.symm⟩⟩
  obtain ⟨quoted, opened⟩ := step_of_isQuote outside isMark
  exact Int.le_of_eq (opened.symm.trans (after_quoted quoted clean).2.1.symm)

theorem balanced_joined {separator : List Char} (balanced : Balanced separator)
    {parts : List (List Char)} (partsBalanced : ∀ part ∈ parts, Balanced part) :
    Balanced (joined separator parts) :=
  joined_of_append balanced_nil Balanced.append balanced partsBalanced

/-- No separator cuts a text. -/
def Uncut (separator : Char) (nesting : Nesting) : List Char → Prop
  | [] => True
  | character :: rest =>
    cutsAt separator nesting character = false ∧ Uncut separator (nesting.step character) rest

section Uncut

variable {separator : Char} {nesting : Nesting}

theorem Uncut.append {first second : List Char} (uncutFirst : Uncut separator nesting first)
    (uncutSecond : Uncut separator (nesting.after first) second) :
    Uncut separator nesting (first ++ second) := by
  induction first generalizing nesting with
  | nil => exact uncutSecond
  | cons character rest ih => exact ⟨uncutFirst.1, ih uncutFirst.2 uncutSecond⟩

theorem cutsAt_of_isMark {character : Char} (mark : isMark character = true) :
    cutsAt separator nesting character = false := by
  rw [isMark] at mark
  simp [cutsAt, mark]

theorem eq_of_cutsAt {character : Char} (cut : cutsAt separator nesting character = true) :
    character = separator := by
  simp only [cutsAt, Bool.and_eq_true, beq_iff_eq] at cut
  exact cut.1.2

theorem cutsAt_iff (plain : isMark separator = false) {character : Char} :
    cutsAt separator nesting character = true ↔ nesting.isTop = true ∧ character = separator := by
  rw [isMark] at plain
  constructor
  · intro cut
    simp only [cutsAt, Bool.and_eq_true, beq_iff_eq] at cut
    exact cut.1
  · rintro ⟨top, rfl⟩
    simp [cutsAt, top, plain]

theorem uncut_of_not_mem {text : List Char} (absent : separator ∉ text) :
    Uncut separator nesting text := by
  induction text generalizing nesting with
  | nil => trivial
  | cons character rest ih =>
    rw [List.mem_cons, not_or] at absent
    exact ⟨by simp [cutsAt, Ne.symm absent.1], ih absent.2⟩

theorem uncut_of_staysAbove {floor : Int} (positive : 0 < floor) {text : List Char}
    (above : StaysAbove floor nesting text) : Uncut separator nesting text := by
  induction text generalizing nesting with
  | nil => trivial
  | cons character rest ih =>
    have deep : nesting.depth ≠ 0 := by
      have start := above.start
      omega
    exact ⟨by simp [cutsAt, isTop, deep], ih above.2⟩

theorem uncut_of_quoted {quote : Char} (quoted : nesting.quote = some quote) {content : List Char}
    (clean : quote ∉ content) : Uncut separator nesting content := by
  induction content generalizing nesting with
  | nil => trivial
  | cons character rest ih =>
    rw [List.mem_cons, not_or] at clean
    have next : (nesting.step character).quote = some quote := by
      simp [step, quoted, Ne.symm clean.1]
    exact ⟨by simp [cutsAt, isTop, quoted], ih next clean.2⟩

end Uncut

/-- A balanced text that no separator cuts where quotes and brackets are closed. -/
structure Whole (separator : Char) (text : List Char) : Prop where
  balanced : Balanced text
  uncut : ∀ nesting : Nesting, nesting.isTop = true → Uncut separator nesting text

theorem isTop_iff {nesting : Nesting} :
    nesting.isTop = true ↔ nesting.quote = none ∧ nesting.depth = 0 := by
  simp [isTop]

section Whole

variable {separator : Char}

theorem whole_of_plain {text : List Char} (plain : ∀ character ∈ text, isMark character = false)
    (absent : separator ∉ text) : Whole separator text :=
  ⟨balanced_of_plain plain, fun _ _ => uncut_of_not_mem absent⟩

theorem Whole.append {first second : List Char} (firstWhole : Whole separator first)
    (secondWhole : Whole separator second) : Whole separator (first ++ second) := by
  refine ⟨firstWhole.balanced.append secondWhole.balanced, ?_⟩
  intro nesting top
  obtain ⟨outside, depth⟩ := isTop_iff.1 top
  obtain ⟨between, sameDepth, -⟩ := firstWhole.balanced nesting outside
  exact (firstWhole.uncut nesting top).append
    (secondWhole.uncut _ (isTop_iff.2 ⟨between, sameDepth.trans depth⟩))

theorem whole_brackets {inside : List Char} (balanced : Balanced inside) {first last : Char}
    (opening : isOpening first = true) (closing : isClosing last = true) :
    Whole separator (first :: (inside ++ [last])) := by
  refine ⟨balanced_brackets balanced opening closing, ?_⟩
  intro nesting top
  obtain ⟨outside, depth⟩ := isTop_iff.1 top
  obtain ⟨above, -⟩ := balanced.bracketed opening closing nesting outside
  rw [depth] at above
  refine ⟨cutsAt_of_isMark (by simp [isMark, opening]), ?_⟩
  exact (uncut_of_staysAbove (by decide) above).append
    ⟨cutsAt_of_isMark (by simp [isMark, closing]), trivial⟩

theorem whole_quoted {quote : Char} (isQuoted : isQuote quote = true) {content : List Char}
    (clean : quote ∉ content) (plain : '\\' ∉ content) :
    Whole separator (quote :: (content ++ [quote])) := by
  refine ⟨balanced_quoted isQuoted clean plain, ?_⟩
  intro nesting top
  have quoted := (step_of_isQuote (isTop_iff.1 top).1 isQuoted).1
  have cutless : ∀ place, cutsAt separator place quote = false :=
    fun place => cutsAt_of_isMark (by simp [isMark, isQuoted])
  exact ⟨cutless _, (uncut_of_quoted quoted clean).append ⟨cutless _, trivial⟩⟩

theorem topPieces_ne_nil (separator : Char) (nesting : Nesting) (text : List Char) :
    topPieces separator nesting text ≠ [] := by
  cases text with
  | nil => simp [topPieces]
  | cons character rest =>
    simp only [topPieces]
    split
    · simp
    · split <;> simp

theorem exists_topPieces (separator : Char) (nesting : Nesting) (text : List Char) :
    ∃ piece more, topPieces separator nesting text = piece :: more :=
  List.exists_cons_of_ne_nil (topPieces_ne_nil separator nesting text)

theorem topPieces_cons (separator : Char) (nesting : Nesting) (character : Char)
    (rest : List Char) :
    topPieces separator nesting (character :: rest) =
      if cutsAt separator nesting character then
        [] :: topPieces separator (nesting.step character) rest
      else (topPieces separator (nesting.step character) rest).modifyHead (character :: ·) := by
  obtain ⟨piece, more, pieces⟩ := exists_topPieces separator (nesting.step character) rest
  rw [topPieces, pieces]
  rfl

section Pieces

variable {nesting : Nesting}

theorem topPieces_eq_singleton_iff {text : List Char} :
    topPieces separator nesting text = [text] ↔ Uncut separator nesting text := by
  induction text generalizing nesting with
  | nil => simp [topPieces, Uncut]
  | cons character rest ih =>
    rw [topPieces_cons, Uncut, ← ih]
    obtain ⟨piece, more, pieces⟩ := exists_topPieces separator (nesting.step character) rest
    rw [pieces]
    split
    · next cut => simp [cut]
    · next uncut => simp [uncut]

/-- A text is the first piece in front of a separator if nothing cuts the text, but the separator
does. -/
theorem topPieces_append_eq_cons_iff {first rest : List Char} {others : List (List Char)} :
    topPieces separator nesting (first ++ separator :: rest) = first :: others ↔
      Uncut separator nesting first ∧
        cutsAt separator (nesting.after first) separator = true ∧
          topPieces separator ((nesting.after first).step separator) rest = others := by
  induction first generalizing nesting with
  | nil =>
    rw [List.nil_append, topPieces_cons, after_nil]
    obtain ⟨piece, more, pieces⟩ := exists_topPieces separator (nesting.step separator) rest
    split
    · next cut => simp [Uncut, cut]
    · next uncut => simp [Uncut, uncut, pieces]
  | cons character first ih =>
    rw [List.cons_append, topPieces_cons, Uncut, after_cons, and_assoc, ← ih]
    obtain ⟨piece, more, pieces⟩ :=
      exists_topPieces separator (nesting.step character) (first ++ separator :: rest)
    rw [pieces]
    split
    · next cut => simp [cut]
    · next uncut => simp [uncut]

theorem isTop_step (plain : isMark separator = false) (top : nesting.isTop = true) :
    (nesting.step separator).isTop = true := by
  obtain ⟨outside, depth⟩ := isTop_iff.1 top
  obtain ⟨still, same⟩ := step_of_not_isMark outside plain
  exact isTop_iff.2 ⟨still, same.trans depth⟩

theorem topPieces_joined (plain : isMark separator = false) {parts : List (List Char)}
    (whole : ∀ part ∈ parts, Whole separator part) (nonempty : parts ≠ [])
    (top : nesting.isTop = true) :
    topPieces separator nesting (joined [separator] parts) = parts := by
  induction parts generalizing nesting with
  | nil => exact absurd rfl nonempty
  | cons first others ih =>
    rw [List.forall_mem_cons] at whole
    have uncut := whole.1.uncut nesting top
    by_cases last : others = []
    · subst last
      exact topPieces_eq_singleton_iff.2 uncut
    · -- The separator behind the first part stands outside quotes and brackets.
      obtain ⟨outside, depth⟩ := isTop_iff.1 top
      obtain ⟨between, sameDepth, -⟩ := whole.1.balanced nesting outside
      have here : (nesting.after first).isTop = true :=
        isTop_iff.2 ⟨between, sameDepth.trans depth⟩
      have cut : cutsAt separator (nesting.after first) separator = true :=
        (cutsAt_iff plain).2 ⟨here, rfl⟩
      have behind := ih whole.2 last (isTop_step plain here)
      rw [joined_cons _ _ last, List.append_assoc]
      exact topPieces_append_eq_cons_iff.2 ⟨uncut, cut, behind⟩

end Pieces

theorem dropEmptyLast_append (front : List (List Char)) {back : List (List Char)}
    (more : back ≠ []) : dropEmptyLast (front ++ back) = front ++ dropEmptyLast back := by
  induction front with
  | nil => rfl
  | cons first others ih =>
    have behind : others ++ back ≠ [] := by simp [more]
    rw [List.cons_append, List.cons_append, ← ih]
    cases first with
    | nil => simp [dropEmptyLast, behind]
    | cons character rest => rfl

theorem dropEmptyLast_of_getLast? {parts : List (List Char)} (last : parts.getLast? ≠ some []) :
    dropEmptyLast parts = parts := by
  rcases List.eq_nil_or_concat parts with rfl | ⟨front, part, rfl⟩
  · rfl
  · rw [List.concat_eq_append] at last ⊢
    rw [List.getLast?_concat, ne_eq, Option.some.injEq] at last
    obtain ⟨character, rest, rfl⟩ := List.exists_cons_of_ne_nil last
    exact dropEmptyLast_append front (List.cons_ne_nil _ _)

/-- Texts that are joined by a separator are split again. -/
theorem splitTopLevel_joined_whole (plain : isMark separator = false) {parts : List (List Char)}
    (whole : ∀ part ∈ parts, Whole separator part) (nonempty : ∀ part ∈ parts, part ≠ [])
    (any : parts ≠ []) : splitTopLevel separator (joined [separator] parts) = parts := by
  have top : ({} : Nesting).isTop = true := rfl
  have last : parts.getLast? ≠ some [] := fun same => nonempty [] (List.mem_of_getLast? same) rfl
  rw [splitTopLevel, topPieces_joined plain whole any top, dropEmptyLast_of_getLast? last]

end Whole

/-- A text that can be an item of a list: both of its ends are visible, and no comma cuts it. -/
structure Listable (text : List Char) : Prop where
  nonempty : text ≠ []
  starts : Stops Character.isBlank text
  finishes : Stops Character.isBlank text.reverse
  whole : Whole ',' text

theorem Listable.trim_eq {text : List Char} (listable : Listable text) : trim text = text :=
  trim_of_stops listable.starts listable.finishes

theorem balanced_listed {parts : List (List Char)} (listable : ∀ part ∈ parts, Listable part) :
    Balanced (joined ", ".toList parts) := by
  have separator : Balanced ", ".toList :=
    balanced_of_plain (List.forall_mem_cons.2 ⟨rfl, List.forall_mem_singleton.2 rfl⟩)
  exact balanced_joined separator fun part member => (listable part member).whole.balanced

section Listed

variable {first : List Char} {others : List (List Char)}
  (listable : ∀ part ∈ first :: others, Listable part)

include listable

/-- A list with items is not taken for an empty one. -/
theorem isBlankText_listed : isBlankText (joined ", ".toList (first :: others)) = false := by
  have firstListable := listable first List.mem_cons_self
  obtain ⟨character, rest, same⟩ := List.exists_cons_of_ne_nil firstListable.nonempty
  have visible := firstListable.starts character (by rw [same]; rfl)
  have front : ∃ behind, joined ", ".toList (first :: others) = first ++ behind := by
    cases others with
    | nil => exact ⟨[], (List.append_nil _).symm⟩
    | cons second more => exact ⟨_, List.append_assoc _ _ _⟩
  obtain ⟨behind, front⟩ := front
  rw [front, same]
  simp [isBlankText, visible]

/-- The items of a list, each with the space in front of it. -/
theorem splitTopLevel_listed :
    splitTopLevel ',' (joined ", ".toList (first :: others)) =
      first :: others.map (' ' :: ·) := by
  have separator : ", ".toList = [','] ++ [' '] := rfl
  have space : Whole ',' [' '] := whole_of_plain (List.forall_mem_singleton.2 rfl) (by decide)
  rw [List.forall_mem_cons] at listable
  rw [separator, joined_append_separator]
  refine splitTopLevel_joined_whole rfl ?_ ?_ (List.cons_ne_nil _ _)
  · refine List.forall_mem_cons.2 ⟨listable.1.whole, ?_⟩
    intro part member
    obtain ⟨item, inside, rfl⟩ := List.mem_map.1 member
    exact space.append (listable.2 item inside).whole
  · refine List.forall_mem_cons.2 ⟨listable.1.nonempty, ?_⟩
    intro part member
    obtain ⟨item, -, rfl⟩ := List.mem_map.1 member
    exact List.cons_ne_nil _ _

end Listed

end Text

end Intake
