import Intake.Proofs.Number.Overflow
import Intake.Proofs.Value.Retyping

/-!
# Numeric texts and their numbers

A text is recognised as a numeral by its shape, with the digits of any script and whatever its size.
Numbers are read of ASCII digits only and have to be finite. So of the texts that are recognised one
part has a number, one is taken for null, and one stays text.
-/

namespace Intake

namespace Numeral

/-- The magnitude that ASCII digits write: all of them as one integer, with the point put back and
moved by the exponent. -/
def magnitude (numeral : Numeral) : ℚ :=
  digitsValue (numeral.whole ++ numeral.fraction.getD []) *
    10 ^ (exponentValue numeral.exponent - (numeral.fraction.getD []).length)

/-- A numeral that stands for a number. -/
structure HasNumber (numeral : Numeral) : Prop where
  ascii : numeral.isAsciiNumeral = true
  below : numeral.magnitude < Binary64.overflowBound

theorem isFinite_of_float? {numeral : Numeral} {float : Binary64}
    (written : numeral.float? = some float) :
    float.isFinite = true ↔ numeral.magnitude < Binary64.overflowBound := by
  unfold float? at written
  split at written
  · obtain rfl := Option.some.inj written
    exact Binary64.isFinite_ofDecimal_iff _ _ _
  · cases written

theorem exists_float_of_ascii {numeral : Numeral} (ascii : numeral.isAsciiNumeral = true) :
    ∃ float, numeral.float? = some float :=
  ⟨_, if_pos ascii⟩

theorem magnitude_of_integer? {numeral : Numeral} {value : Int}
    (whole : numeral.integer? = some value) : numeral.magnitude = value.natAbs := by
  unfold integer? at whole
  split at whole
  · next shape =>
    simp only [isWhole, Bool.and_eq_true, Option.isNone_iff_eq_none] at shape
    obtain ⟨⟨noFraction, noExponent⟩, -⟩ := shape
    have size : value.natAbs = digitsValue numeral.whole := by
      rw [← Option.some.inj whole]
      split <;> simp
    simp [magnitude, noFraction, noExponent, exponentValue, size]
  · cases whole

/-- An integer of a word is far below the bound. -/
theorem below_of_fitsSigned {numeral : Numeral} {value : Int}
    (whole : numeral.integer? = some value)
    (fits : Number.fitsSigned value = true) : numeral.magnitude < Binary64.overflowBound := by
  rw [magnitude_of_integer? whole, Nat.cast_lt]
  have word : value.natAbs ≤ twoTo 63 := by
    simp only [Number.fitsSigned, Bool.and_eq_true, decide_eq_true_eq] at fits
    omega
  exact Nat.lt_of_le_of_lt word Binary64.word_lt_overflowBound

section Read

variable {characters : List Char} {numeral : Numeral}

/-- Digits of other scripts have no value. -/
theorem textValue?_of_not_ascii (read : read? (Text.trim characters) = some numeral)
    (other : numeral.isAsciiNumeral = false) : textValue? characters = none := by
  simp [textValue?, read, integer?, float?, other]

/-- The value of ASCII digits is that of an integer which fits a word, or else of a floating point
number. -/
theorem textValue?_of_ascii (read : read? (Text.trim characters) = some numeral)
    (ascii : numeral.isAsciiNumeral = true) :
    (∃ value, numeral.integer? = some value ∧ Number.fitsSigned value = true ∧
        textValue? characters = some (.ofInt value)) ∨
      ∃ float, numeral.float? = some float ∧ textValue? characters = some (.ofFloat float) := by
  obtain ⟨float, written⟩ := exists_float_of_ascii ascii
  cases whole : numeral.integer? with
  | none => exact Or.inr ⟨float, written, by simp [textValue?, read, whole, written]⟩
  | some value =>
    cases fits : Number.fitsSigned value with
    | true => exact Or.inl ⟨value, rfl, fits, by simp [textValue?, read, whole, fits]⟩
    | false => exact Or.inr ⟨float, written, by simp [textValue?, read, whole, fits, written]⟩

theorem textValue?_of_hasNumber (read : read? (Text.trim characters) = some numeral)
    (has : numeral.HasNumber) : ∃ number, textValue? characters = some (.number number) := by
  rcases textValue?_of_ascii read has.ascii with ⟨value, -, -, found⟩ | ⟨float, written, found⟩
  · exact ⟨.integer value, found⟩
  · have finite := (isFinite_of_float? written).2 has.below
    exact ⟨.float float, by rw [found, Value.ofFloat, if_pos finite]⟩

/-- ASCII digits of too large a magnitude are taken for null. -/
theorem textValue?_of_le (read : read? (Text.trim characters) = some numeral)
    (ascii : numeral.isAsciiNumeral = true) (large : Binary64.overflowBound ≤ numeral.magnitude) :
    textValue? characters = some .null := by
  rcases textValue?_of_ascii read ascii with ⟨value, whole, fits, -⟩ | ⟨float, written, found⟩
  · exact absurd (below_of_fitsSigned whole fits) (not_lt.2 large)
  · have infinite : ¬ float.isFinite = true := fun finite =>
      not_lt.2 large ((isFinite_of_float? written).1 finite)
    rw [found, Value.ofFloat, if_neg infinite]

end Read

/-- What the readers make of a text. -/
inductive ReadsAs (characters : List Char) : Prop where
  /-- Not a numeral: no number, and a boolean or the text itself. -/
  | other (unread : read? (Text.trim characters) = none) (value : textValue? characters = none)
      (coerced : Value.coerce characters ≠ .null)
  /-- A numeral with digits of another script: no number, and the text itself. -/
  | foreign (numeral : Numeral) (read : read? (Text.trim characters) = some numeral)
      (script : numeral.isAsciiNumeral = false) (value : textValue? characters = none)
      (coerced : Value.coerce characters = .ofChars characters)
  /-- A numeral that is too large: null instead of a number. -/
  | overflow (numeral : Numeral) (read : read? (Text.trim characters) = some numeral)
      (ascii : numeral.isAsciiNumeral = true) (large : Binary64.overflowBound ≤ numeral.magnitude)
      (value : textValue? characters = some .null) (coerced : Value.coerce characters = .null)
  /-- Any other numeral: its number. -/
  | number (numeral : Numeral) (read : read? (Text.trim characters) = some numeral)
      (has : numeral.HasNumber) (result : Number)
      (value : textValue? characters = some (.number result))
      (coerced : Value.coerce characters = .number result)

theorem coerce_of_textValue? {characters : List Char} {value : Value}
    (found : textValue? characters = some value) : Value.coerce characters = value := by
  rw [Value.coerce, found]

theorem coerce_ne_null {characters : List Char} (unread : textValue? characters = none) :
    Value.coerce characters ≠ .null := by
  rw [Value.coerce, unread]
  simp only
  split_ifs <;> exact Value.noConfusion

/-- Text without a value that looks like a numeral is not one of the words for booleans. -/
theorem coerce_of_isNumeric {characters : List Char} (unread : textValue? characters = none)
    (numeric : isNumeric characters = true) : Value.coerce characters = .ofChars characters := by
  have notTrue : characters ≠ "true".toList := by
    rintro rfl
    exact absurd numeric (by decide)
  have notFalse : characters ≠ "false".toList := by
    rintro rfl
    exact absurd numeric (by decide)
  simp only [Value.coerce, unread, if_neg notTrue, if_neg notFalse]

theorem readsAs (characters : List Char) : ReadsAs characters := by
  cases read : read? (Text.trim characters) with
  | none =>
    have unread : textValue? characters = none := by rw [textValue?, read]
    exact .other read unread (coerce_ne_null unread)
  | some numeral =>
    cases ascii : numeral.isAsciiNumeral with
    | false =>
      have unread := textValue?_of_not_ascii read ascii
      exact .foreign numeral read ascii unread
        (coerce_of_isNumeric unread (by rw [isNumeric, read, Option.isSome_some]))
    | true =>
      rcases lt_or_ge numeral.magnitude Binary64.overflowBound with below | large
      · obtain ⟨number, found⟩ := textValue?_of_hasNumber read ⟨ascii, below⟩
        exact .number numeral read ⟨ascii, below⟩ number found (coerce_of_textValue? found)
      · have found := textValue?_of_le read ascii large
        exact .overflow numeral read ascii large found (coerce_of_textValue? found)

/-- Every text is read in one of the four ways. It is recognised exactly if it has a number, and is
not turned into null, if and only if it is no numeral at all or one that stands for a number. -/
theorem recognised_iff_number (characters : List Char) :
    ReadsAs characters ∧
      (((isNumeric characters = true ↔ ∃ number, textValue? characters = some (.number number)) ∧
          Value.coerce characters ≠ .null) ↔
        ∀ numeral, read? (Text.trim characters) = some numeral → numeral.HasNumber) := by
  refine ⟨readsAs characters, ?_⟩
  cases readsAs characters with
  | other unread value coerced => simp [isNumeric, unread, value, coerced]
  | foreign numeral read script value coerced =>
    refine iff_of_false ?_ ?_
    · rintro ⟨agree, -⟩
      simp [isNumeric, read, value] at agree
    · intro all
      exact absurd (all numeral read).ascii (by rw [script]; exact Bool.false_ne_true)
  | overflow numeral read ascii large value coerced =>
    refine iff_of_false ?_ ?_
    · rintro ⟨-, kept⟩
      exact kept coerced
    · intro all
      exact not_lt.2 large (all numeral read).below
  | number numeral read has result value coerced =>
    simp [isNumeric, read, value, coerced, has]

/-- A large exponent and the digit three of another script. -/
theorem recognised_without_number :
    isNumeric "1e999".toList = true ∧ textValue? "1e999".toList = some .null ∧
      Value.coerce "1e999".toList = .null ∧
      isNumeric "\u0663".toList = true ∧ textValue? "\u0663".toList = none := by
  decide +kernel

end Numeral

end Intake
