import Intake.Text.Basic
import Mathlib.Data.List.TakeWhile

/-!
# Runs and margins of a text

A run of characters of one class is taken as a whole when what follows does not continue it. From
this follow the rules of trimming: a text that neither starts nor ends with white space is its own
trimming, and white space at its ends does not matter. Texts in brackets and texts that are joined
by a separator are opened up part by part.
-/

namespace Intake

namespace Text

open Character

theorem ne_of_isMember {isMember : Char → Bool} {inside outside : Char}
    (member : isMember inside = true) (other : isMember outside = false) : inside ≠ outside := by
  rintro rfl
  rw [member] at other
  cases other

theorem not_mem_of_all {isMember : Char → Bool} {text : List Char} (all : text.all isMember = true)
    {character : Char} (other : isMember character = false) : character ∉ text :=
  fun inside => ne_of_isMember (List.all_eq_true.1 all character inside) other rfl

/-- Whether a text does not start with a character of a class. -/
def Stops (isMember : Char → Bool) (text : List Char) : Prop :=
  ∀ character ∈ text.head?, isMember character = false

theorem stops_nil (isMember : Char → Bool) : Stops isMember [] := by
  simp [Stops]

theorem stops_cons {isMember : Char → Bool} {character : Char} {rest : List Char}
    (outside : isMember character = false) : Stops isMember (character :: rest) := by
  simpa [Stops] using outside

theorem stops_of_forall {isMember : Char → Bool} {text : List Char}
    (outside : ∀ character ∈ text, isMember character = false) : Stops isMember text :=
  fun character first => outside character (List.mem_of_mem_head? first)

theorem stops_append {isMember : Char → Bool} {run : List Char} (nonempty : run ≠ [])
    (outside : ∀ character ∈ run, isMember character = false) (rest : List Char) :
    Stops isMember (run ++ rest) := by
  cases run with
  | nil => exact absurd rfl nonempty
  | cons first others => exact stops_cons (outside first List.mem_cons_self)

theorem Stops.append {isMember : Char → Bool} {run : List Char} (stops : Stops isMember run)
    (nonempty : run ≠ []) (rest : List Char) : Stops isMember (run ++ rest) := by
  cases run with
  | nil => exact absurd rfl nonempty
  | cons first others => exact stops

theorem Stops.take {isMember : Char → Bool} {text : List Char} (stops : Stops isMember text)
    (count : Nat) : Stops isMember (text.take count) := by
  cases text with
  | nil => simpa using stops
  | cons first others =>
    cases count with
    | zero => exact stops_nil isMember
    | succ count => exact stops_cons (stops first (by simp))

theorem takeWhile_run {isMember : Char → Bool} {run rest : List Char}
    (inside : ∀ character ∈ run, isMember character = true) (stops : Stops isMember rest) :
    (run ++ rest).takeWhile isMember = run := by
  rw [List.takeWhile_append_of_pos inside]
  cases rest with
  | nil => simp
  | cons first others => simp [stops first (by simp)]

theorem dropWhile_of_stops {isMember : Char → Bool} {text : List Char}
    (stops : Stops isMember text) : text.dropWhile isMember = text := by
  cases text with
  | nil => rfl
  | cons first others => simp [stops first (by simp)]

theorem dropWhile_run {isMember : Char → Bool} {run rest : List Char}
    (inside : ∀ character ∈ run, isMember character = true) (stops : Stops isMember rest) :
    (run ++ rest).dropWhile isMember = rest := by
  rw [List.dropWhile_append_of_pos inside, dropWhile_of_stops stops]

theorem trimStart_of_stops {text : List Char} (stops : Stops isBlank text) :
    trimStart text = text :=
  dropWhile_of_stops stops

theorem trimEnd_of_stops {text : List Char} (stops : Stops isBlank text.reverse) :
    trimEnd text = text := by
  rw [trimEnd, dropEndWhile, dropWhile_of_stops stops, List.reverse_reverse]

/-- A text without white space at its ends is its own trimming. -/
theorem trim_of_stops {text : List Char} (start : Stops isBlank text)
    (finish : Stops isBlank text.reverse) : trim text = text := by
  rw [trim, trimStart_of_stops start, trimEnd_of_stops finish]

theorem trim_of_not_blank {text : List Char}
    (solid : ∀ character ∈ text, isBlank character = false) : trim text = text :=
  trim_of_stops (stops_of_forall solid)
    (stops_of_forall fun character member => solid character (List.mem_reverse.1 member))

theorem trimStart_blank_append {blanks : List Char} (blank : isBlankText blanks = true)
    (text : List Char) : trimStart (blanks ++ text) = trimStart text :=
  List.dropWhile_append_of_pos (List.all_eq_true.1 blank)

theorem trimEnd_append_blank {blanks : List Char} (blank : isBlankText blanks = true)
    (text : List Char) : trimEnd (text ++ blanks) = trimEnd text := by
  have reversed : ∀ character ∈ blanks.reverse, isBlank character = true := by
    simpa using List.all_eq_true.1 blank
  rw [trimEnd, dropEndWhile, List.reverse_append, List.dropWhile_append_of_pos reversed]
  rfl

theorem trimStart_of_blank {blanks : List Char} (blank : isBlankText blanks = true) :
    trimStart blanks = [] := by
  have dropped := trimStart_blank_append blank []
  rwa [List.append_nil] at dropped

theorem trim_of_blank {blanks : List Char} (blank : isBlankText blanks = true) :
    trim blanks = [] := by
  rw [trim, trimStart_of_blank blank]
  rfl

theorem trim_blank_append {blanks : List Char} (blank : isBlankText blanks = true)
    (text : List Char) : trim (blanks ++ text) = trim text := by
  rw [trim, trimStart_blank_append blank, trim]

/-- A text is white space, what its trimming keeps, and white space again. -/
theorem exists_margins (text : List Char) :
    ∃ before after, isBlankText before = true ∧ isBlankText after = true ∧
      text = before ++ trim text ++ after := by
  refine ⟨text.takeWhile isBlank, ((trimStart text).reverse.takeWhile isBlank).reverse, ?_, ?_, ?_⟩
  · exact List.all_takeWhile
  · simp only [isBlankText, List.all_reverse]
    exact List.all_takeWhile
  · have finish : trimEnd (trimStart text) ++
        ((trimStart text).reverse.takeWhile isBlank).reverse = trimStart text := by
      rw [trimEnd, dropEndWhile, ← List.reverse_append, List.takeWhile_append_dropWhile,
        List.reverse_reverse]
    rw [trim, List.append_assoc, finish]
    exact List.takeWhile_append_dropWhile.symm

theorem isBlankText_append (first second : List Char) :
    isBlankText (first ++ second) = (isBlankText first && isBlankText second) :=
  List.all_append

theorem isBlankText_reverse (text : List Char) :
    isBlankText text.reverse = isBlankText text :=
  List.all_reverse

theorem trimStart_ne_nil {text : List Char} (written : isBlankText text = false) :
    trimStart text ≠ [] := by
  rw [trimStart, ne_eq, List.dropWhile_eq_nil_iff]
  intro blank
  rw [isBlankText, List.all_eq_true.2 blank] at written
  cases written

theorem trimStart_append {text : List Char} (written : isBlankText text = false)
    (rest : List Char) : trimStart (text ++ rest) = trimStart text ++ rest := by
  have kept : ¬ (text.dropWhile isBlank).isEmpty = true := by
    rw [List.isEmpty_iff]
    exact trimStart_ne_nil written
  rw [trimStart, List.dropWhile_append, if_neg kept]
  rfl

theorem trim_append_blank {blanks : List Char} (blank : isBlankText blanks = true)
    (text : List Char) : trim (text ++ blanks) = trim text := by
  cases written : isBlankText text with
  | true =>
    rw [trim_of_blank written, trim_of_blank (by rw [isBlankText_append, written, blank]; rfl)]
  | false => rw [trim, trimStart_append written, trimEnd_append_blank blank, trim]

theorem trim_trim (text : List Char) : trim (trim text) = trim text := by
  obtain ⟨before, after, beforeBlank, afterBlank, same⟩ := exists_margins text
  calc
    trim (trim text) = trim (before ++ trim text ++ after) := by
      rw [trim_append_blank afterBlank, trim_blank_append beforeBlank]
    _ = trim text := by rw [← same]

theorem isBlankText_of_trim_eq_nil {text : List Char} (empty : trim text = []) :
    isBlankText text = true := by
  obtain ⟨before, after, beforeBlank, afterBlank, same⟩ := exists_margins text
  rw [same, empty, List.append_nil, isBlankText_append, beforeBlank, afterBlank]
  rfl

theorem not_isBlank_of_mem_getLast?_trim {text : List Char} {last : Char}
    (member : last ∈ (trim text).getLast?) : isBlank last = false := by
  rw [trim, trimEnd, dropEndWhile, List.getLast?_reverse] at member
  have outside := List.head?_dropWhile_not isBlank (trimStart text).reverse
  rw [Option.mem_def.1 member] at outside
  exact outside

theorem eq_append_of_afterPrefix? {pattern text after : List Char}
    (found : afterPrefix? pattern text = some after) : text = pattern ++ after := by
  induction pattern generalizing text with
  | nil => exact Option.some.inj found
  | cons expected pattern ih =>
    cases text with
    | nil => cases found
    | cons character text =>
      rw [afterPrefix?] at found
      split at found
      · next same => rw [ih found, same, List.cons_append]
      · cases found

theorem enclosed?_brackets (first last : Char) (inside : List Char) :
    enclosed? first last (first :: (inside ++ [last])) = some inside := by
  simp [enclosed?]

theorem enclosed?_of_not_mem {first : Char} {text : List Char} (absent : first ∉ text)
    (last : Char) : enclosed? first last text = none := by
  cases text with
  | nil => rfl
  | cons character rest =>
    rw [List.mem_cons, not_or] at absent
    simp [enclosed?, Ne.symm absent.1]

theorem joined_cons (separator first : List Char) {others : List (List Char)}
    (more : others ≠ []) :
    joined separator (first :: others) = first ++ separator ++ joined separator others := by
  cases others with
  | nil => exact absurd rfl more
  | cons second rest => rfl

theorem joined_append (separator : List Char) {front back : List (List Char)} (any : front ≠ [])
    (more : back ≠ []) :
    joined separator (front ++ back) =
      joined separator front ++ separator ++ joined separator back := by
  induction front with
  | nil => exact absurd rfl any
  | cons first others ih =>
    by_cases last : others = []
    · subst last
      exact joined_cons separator first more
    · rw [List.cons_append, joined_cons separator first (by simp [last]), ih last,
        joined_cons separator first last]
      simp

theorem joined_modifyHead (separator : List Char) (character : Char) {parts : List (List Char)}
    (any : parts ≠ []) :
    joined separator (parts.modifyHead (character :: ·)) = character :: joined separator parts := by
  obtain ⟨first, others, rfl⟩ := List.exists_cons_of_ne_nil any
  by_cases last : others = []
  · subst last
    rfl
  · rw [List.modifyHead_cons, joined_cons separator _ last, joined_cons separator _ last]
    rfl

/-- What holds of texts one after the other holds of joined texts. -/
theorem joined_of_append {holds : List Char → Prop} (nil : holds [])
    (append : ∀ {first second}, holds first → holds second → holds (first ++ second))
    {separator : List Char} (between : holds separator) {parts : List (List Char)}
    (each : ∀ part ∈ parts, holds part) : holds (joined separator parts) := by
  induction parts with
  | nil => exact nil
  | cons first others ih =>
    rw [List.forall_mem_cons] at each
    by_cases last : others = []
    · subst last
      exact each.1
    · rw [joined_cons separator first last]
      exact append (append each.1 between) (ih each.2)

theorem mem_joined {separator : List Char} {parts : List (List Char)} {character : Char}
    (member : character ∈ joined separator parts) :
    character ∈ separator ∨ ∃ part ∈ parts, character ∈ part := by
  induction parts with
  | nil => cases member
  | cons first others ih =>
    by_cases last : others = []
    · subst last
      exact Or.inr ⟨first, List.mem_cons_self, member⟩
    · rw [joined_cons separator first last, List.mem_append, List.mem_append] at member
      rcases member with (inFirst | between) | inRest
      · exact Or.inr ⟨first, List.mem_cons_self, inFirst⟩
      · exact Or.inl between
      · rcases ih inRest with between | ⟨part, inside, found⟩
        · exact Or.inl between
        · exact Or.inr ⟨part, List.mem_cons_of_mem _ inside, found⟩

/-- What stands behind a separator can be taken to start the next part. -/
theorem joined_append_separator (separator space first : List Char) (others : List (List Char)) :
    joined (separator ++ space) (first :: others) =
      joined separator (first :: others.map (space ++ ·)) := by
  induction others generalizing first with
  | nil => rfl
  | cons second others ih =>
    have shifted : joined separator ((second :: others).map (space ++ ·)) =
        space ++ joined separator (second :: others.map (space ++ ·)) := by
      cases others with
      | nil => rfl
      | cons third rest => simp [joined]
    rw [joined_cons _ _ (List.cons_ne_nil _ _), ih second,
      joined_cons separator first (by simp), shifted]
    simp

end Text

end Intake
