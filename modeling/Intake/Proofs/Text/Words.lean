import Intake.Proofs.Text.Runs

/-!
# Words and the white space around them

White space inside a text separates the words before it from those after it, and a text without
white space is one word. What stands first behind white space is looked for only in front of the
next word.
-/

namespace Intake

namespace Text

open Character

theorem not_blank_of_stops {text : List Char} (nonempty : text ≠ [])
    (stops : Stops isBlank text) : isBlankText text = false := by
  cases text with
  | nil => exact absurd rfl nonempty
  | cons first rest =>
    have solid := stops first rfl
    simp [isBlankText, solid]

theorem not_blank_of_stops_reverse {text : List Char} (nonempty : text ≠ [])
    (stops : Stops isBlank text.reverse) : isBlankText text = false := by
  rw [← isBlankText_reverse]
  exact not_blank_of_stops (by simpa using nonempty) stops

/-- The end of a text is the end of what the text ends with. -/
theorem stops_reverse_of_suffix {isMember : Char → Bool} {last text : List Char}
    (suffix : last <:+ text) (stops : Stops isMember text.reverse) :
    Stops isMember last.reverse := by
  obtain ⟨front, rfl⟩ := suffix
  rw [List.reverse_append] at stops
  intro character first
  exact stops character (by rw [List.head?_append, Option.mem_def.1 first]; rfl)

theorem stops_dropWhile (isMember : Char → Bool) (text : List Char) :
    Stops isMember (text.dropWhile isMember) := by
  intro character first
  have outside := List.head?_dropWhile_not isMember text
  rw [Option.mem_def.1 first] at outside
  simpa using outside

theorem stops_reverse_trim (text : List Char) : Stops isBlank (trim text).reverse := by
  rw [trim, trimEnd, dropEndWhile, List.reverse_reverse]
  exact stops_dropWhile isBlank _

theorem stops_trim (text : List Char) : Stops isBlank (trim text) := by
  have suffix : (trim text).reverse <:+ (trimStart text).reverse := by
    rw [trim, trimEnd, dropEndWhile, List.reverse_reverse]
    exact List.dropWhile_suffix isBlank
  have start : Stops isBlank (trimStart text).reverse.reverse := by
    rw [List.reverse_reverse]
    exact stops_dropWhile isBlank text
  have kept := stops_reverse_of_suffix suffix start
  rwa [List.reverse_reverse] at kept

theorem stops_reverse_of_not_mem {mark : Char} {text : List Char} (absent : mark ∉ text) :
    Stops (· == mark) text.reverse := by
  apply stops_of_forall
  intro character member
  rw [beq_eq_false_iff_ne]
  rintro rfl
  exact absent (List.mem_reverse.1 member)

theorem stops_reverse_append {isMember : Char → Bool} {last : List Char} (nonempty : last ≠ [])
    (stops : Stops isMember last.reverse) (front : List Char) :
    Stops isMember (front ++ last).reverse := by
  rw [List.reverse_append]
  exact stops.append (by simpa using nonempty) _

/-- Behind white space stands a character of the text, or what stands behind the text. -/
theorem stops_trimStart_append {mark : Char} {text rest : List Char} (absent : mark ∉ text)
    (stops : Stops (· == mark) (trimStart rest)) :
    Stops (· == mark) (trimStart (text ++ rest)) := by
  cases written : isBlankText text with
  | true =>
    rw [trimStart_blank_append written]
    exact stops
  | false =>
    rw [trimStart_append written]
    apply stops_append (trimStart_ne_nil written)
    intro character member
    have inside : character ∈ text := (List.dropWhile_suffix isBlank).subset member
    rw [beq_eq_false_iff_ne]
    rintro rfl
    exact absent inside

theorem wordsFrom_append_blank (word front : List Char) {blank : Char}
    (isBlank : isBlank blank = true) (rest : List Char) :
    wordsFrom word (front ++ blank :: rest) = wordsFrom word front ++ words rest := by
  induction front generalizing word with
  | nil => cases word <;> simp [wordsFrom, isBlank, words]
  | cons character front ih =>
    rw [List.cons_append, wordsFrom, wordsFrom]
    split
    · split
      · exact ih []
      · rw [ih [], List.cons_append]
    · exact ih _

theorem words_append_blank (front : List Char) {blank : Char} (isBlank : isBlank blank = true)
    (rest : List Char) : words (front ++ blank :: rest) = words front ++ words rest :=
  wordsFrom_append_blank [] front isBlank rest

/-- White space separates words. -/
theorem words_append_gap (front : List Char) {gap : List Char} (nonempty : gap ≠ [])
    (blank : isBlankText gap = true) (rest : List Char) :
    words (front ++ (gap ++ rest)) = words front ++ words rest := by
  induction gap generalizing front with
  | nil => exact absurd rfl nonempty
  | cons character others ih =>
    rw [isBlankText, List.all_cons, Bool.and_eq_true] at blank
    rw [List.cons_append, words_append_blank front blank.1]
    cases others with
    | nil => rfl
    | cons second others =>
      have behind := ih [] (List.cons_ne_nil _ _) blank.2
      rw [List.nil_append] at behind
      rw [behind]
      rfl

theorem wordsFrom_of_solid (word : List Char) {text : List Char}
    (solid : ∀ character ∈ text, isBlank character = false) (nonempty : word ≠ [] ∨ text ≠ []) :
    wordsFrom word text = [word.reverse ++ text] := by
  induction text generalizing word with
  | nil =>
    have kept : word ≠ [] := nonempty.resolve_right (fun absurdity => absurdity rfl)
    simp [wordsFrom, kept]
  | cons character text ih =>
    rw [List.forall_mem_cons] at solid
    rw [wordsFrom, solid.1, if_neg Bool.false_ne_true,
      ih (character :: word) solid.2 (Or.inl (List.cons_ne_nil _ _))]
    simp

theorem words_of_solid {text : List Char}
    (solid : ∀ character ∈ text, isBlank character = false) (nonempty : text ≠ []) :
    words text = [text] :=
  wordsFrom_of_solid [] solid (Or.inr nonempty)

end Text

end Intake
