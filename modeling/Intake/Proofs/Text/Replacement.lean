import Intake.Proofs.Text.Cuts

/-!
# Where a pattern is replaced

A pattern is looked for only where its first character stands, and what comes before is passed over.
For a pattern between two brackets this means that a text is taken apart at its brackets: what
stands between two of them is replaced as a whole if it is the inside of the pattern, and passed
over if it is not.
-/

namespace Intake

namespace Text

section Passing

variable {first : Char} {pattern front : List Char}

theorem startsWith_cons_of_ne {character : Char} (different : first ≠ character)
    (rest : List Char) : startsWith (first :: pattern) (character :: rest) = false := by
  rw [startsWith, afterPrefix?, if_neg different]
  rfl

theorem startsWith_append (pattern rest : List Char) :
    startsWith pattern (pattern ++ rest) = true := by
  rw [startsWith, afterPrefix?_append]
  rfl

theorem replace_cons {character : Char} {rest : List Char}
    (elsewhere : startsWith pattern (character :: rest) = false) (replacement : List Char) :
    replace pattern replacement (character :: rest) =
      character :: replace pattern replacement rest := by
  rw [replace, replaceFrom, elsewhere]
  rfl

theorem replace_append_of_not_mem (absent : first ∉ front) (replacement rest : List Char) :
    replace (first :: pattern) replacement (front ++ rest) =
      front ++ replace (first :: pattern) replacement rest := by
  induction front with
  | nil => rfl
  | cons character front ih =>
    rw [List.mem_cons, not_or] at absent
    rw [List.cons_append, replace_cons (startsWith_cons_of_ne absent.1 _), ih absent.2,
      List.cons_append]

theorem replaceFrom_append (pattern replacement passed rest : List Char) :
    replaceFrom pattern replacement passed.length (passed ++ rest) =
      replace pattern replacement rest := by
  induction passed with
  | nil => rfl
  | cons character passed ih => exact ih

theorem replace_append_self (first : Char) (pattern replacement rest : List Char) :
    replace (first :: pattern) replacement (first :: pattern ++ rest) =
      replacement ++ replace (first :: pattern) replacement rest := by
  rw [List.cons_append, replace, replaceFrom, ← List.cons_append, startsWith_append, if_pos rfl,
    List.length_cons, Nat.add_sub_cancel, replaceFrom_append]

theorem contains_cons {character : Char} {rest : List Char}
    (elsewhere : startsWith pattern (character :: rest) = false) :
    contains pattern (character :: rest) = contains pattern rest := by
  have unmatched : afterPrefix? pattern (character :: rest) = none := by
    simpa [startsWith] using elsewhere
  rw [contains, splitOnce?, unmatched, Option.isSome_map, contains]

theorem contains_append_of_not_mem (absent : first ∉ front) (rest : List Char) :
    contains (first :: pattern) (front ++ rest) = contains (first :: pattern) rest := by
  induction front with
  | nil => rfl
  | cons character front ih =>
    rw [List.mem_cons, not_or] at absent
    rw [List.cons_append, contains_cons (startsWith_cons_of_ne absent.1 _), ih absent.2]

theorem contains_of_startsWith {text : List Char} (here : startsWith pattern text = true) :
    contains pattern text = true := by
  obtain ⟨after, matched⟩ := Option.isSome_iff_exists.1 here
  cases text with
  | nil =>
    cases pattern with
    | nil => rfl
    | cons first pattern => cases matched
  | cons character rest =>
    rw [contains, splitOnce?, matched]
    rfl

end Passing

section Brackets

variable {opening closing : Char} {inside other : List Char}

/-- Texts that end where the same bracket first stands are told apart by what comes before it. -/
theorem startsWith_closed (unclosed : closing ∉ inside) (otherUnclosed : closing ∉ other)
    (rest : List Char) :
    startsWith (inside ++ [closing]) (other ++ closing :: rest) = decide (inside = other) := by
  induction inside generalizing other with
  | nil =>
    cases other with
    | nil => simp [startsWith, afterPrefix?]
    | cons character other =>
      rw [List.mem_cons, not_or] at otherUnclosed
      exact startsWith_cons_of_ne otherUnclosed.1 _
  | cons character inside ih =>
    rw [List.mem_cons, not_or] at unclosed
    cases other with
    | nil => exact startsWith_cons_of_ne (Ne.symm unclosed.1) _
    | cons otherFirst other =>
      rw [List.mem_cons, not_or] at otherUnclosed
      by_cases same : character = otherFirst
      · subst same
        simpa [startsWith, afterPrefix?] using ih unclosed.2 otherUnclosed.2
      · rw [List.cons_append, List.cons_append, startsWith_cons_of_ne same]
        simp [same]

variable (unclosed : closing ∉ inside) (otherUnclosed : closing ∉ other)

include unclosed otherUnclosed

theorem startsWith_bracketed (rest : List Char) :
    startsWith (opening :: (inside ++ [closing])) (opening :: (other ++ closing :: rest)) =
      decide (inside = other) := by
  rw [← startsWith_closed unclosed otherUnclosed rest, startsWith, afterPrefix?, if_pos rfl]
  rfl

variable (unopened : opening ∉ other) (different : opening ≠ closing) (rest : List Char)

include unopened different

/-- What stands between two brackets is replaced as a whole or passed over. -/
theorem replace_bracketed (replacement : List Char) :
    replace (opening :: (inside ++ [closing])) replacement (opening :: (other ++ closing :: rest)) =
      (if inside = other then replacement else opening :: (other ++ [closing])) ++
        replace (opening :: (inside ++ [closing])) replacement rest := by
  have starts : startsWith (opening :: (inside ++ [closing]))
      (opening :: (other ++ closing :: rest)) = decide (inside = other) :=
    startsWith_bracketed unclosed otherUnclosed rest
  have whole : other ++ closing :: rest = other ++ [closing] ++ rest := by simp
  by_cases same : inside = other
  · subst same
    rw [if_pos rfl, whole]
    exact replace_append_self opening (inside ++ [closing]) replacement rest
  · rw [decide_eq_false same] at starts
    rw [if_neg same, replace_cons starts, whole,
      replace_append_of_not_mem (by simp [unopened, different])]
    rfl

theorem contains_bracketed :
    contains (opening :: (inside ++ [closing])) (opening :: (other ++ closing :: rest)) =
      (decide (inside = other) || contains (opening :: (inside ++ [closing])) rest) := by
  have starts : startsWith (opening :: (inside ++ [closing]))
      (opening :: (other ++ closing :: rest)) = decide (inside = other) :=
    startsWith_bracketed unclosed otherUnclosed rest
  have whole : other ++ closing :: rest = other ++ [closing] ++ rest := by simp
  by_cases same : inside = other
  · rw [decide_eq_true same] at starts ⊢
    exact contains_of_startsWith starts
  · rw [decide_eq_false same] at starts ⊢
    rw [contains_cons starts, whole, contains_append_of_not_mem (by simp [unopened, different]),
      Bool.false_or]

end Brackets

end Text

end Intake
