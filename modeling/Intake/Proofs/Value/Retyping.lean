import Intake.Proofs.Number.Digits
import Intake.Value.Compare

/-!
# Texts and the scalars that they write

A text that stands for a number has the same value as that number, and a number is shown as a
numeric text. So a text can be compared in place of the number that it writes, unless it writes a
number beyond all that are finite. The texts `true` and `false` turn into booleans, which every
other text meets by whether it counts as true.
-/

namespace Intake

open Numeral (IsPlain)

/-- A decimal with either sign is laid out as a plain numeral. -/
theorem Decimal.exists_isPlain_positional (decimal : Decimal) :
    ∃ whole fraction, (∀ negative, IsPlain ⟨negative, whole, fraction, none⟩) ∧
      decimal.positional = whole ++ (fraction.map ('.' :: ·)).getD [] := by
  have isDigit : ∀ digit ∈ digits decimal.significand, digit.isDigit = true :=
    fun digit member => isDigit_of_mem_digits member
  have isZero : ∀ {count : Nat}, ∀ digit ∈ List.replicate count '0', digit.isDigit = true := by
    intro count digit member
    rw [List.eq_of_mem_replicate member]
    rfl
  unfold positional
  simp only
  split
  · refine ⟨digits decimal.significand ++ List.replicate decimal.exponent.toNat '0', none,
      fun _ => ⟨?_, ?_, by simp, rfl⟩, by simp⟩
    · exact List.append_ne_nil_of_left_ne_nil (digits_ne_nil _) _
    · intro digit member
      rcases List.mem_append.1 member with written | zero
      · exact isDigit digit written
      · exact isZero digit zero
  · split
    · next inside =>
      refine ⟨_, some _, fun _ => ⟨?_, ?_, ?_, rfl⟩, rfl⟩
      · intro empty
        have length := congrArg List.length empty
        simp only [List.length_take, List.length_nil] at length
        omega
      · exact fun digit member => isDigit digit (List.mem_of_mem_take member)
      · exact fun digit member => isDigit digit (List.mem_of_mem_drop member)
    · refine ⟨['0'], some _, fun _ => ⟨List.cons_ne_nil _ _, by simp, ?_, rfl⟩, rfl⟩
      intro digit member
      rcases List.mem_append.1 member with zero | written
      · exact isZero digit zero
      · exact isDigit digit written

/-- A number is shown as a plain numeral. -/
theorem Number.exists_isPlain_displayText (number : Number) :
    ∃ numeral : Numeral, numeral.IsPlain ∧ number.displayText = numeral.plainText := by
  have ofInt : ∀ value, ∃ numeral : Numeral,
      numeral.IsPlain ∧ Decimal.ofInt value = numeral.plainText := fun value =>
    ⟨_, Numeral.isPlain_ofInt value, (Numeral.plainText_ofInt value).symm⟩
  cases number with
  | integer value => exact ofInt value
  | float value =>
    rw [displayText, Binary64.displayText]
    split
    · exact ofInt _
    · obtain ⟨whole, fraction, plain, same⟩ :=
        (Decimal.shortest .up value.units).exists_isPlain_positional
      refine ⟨_, plain value.negative, ?_⟩
      rw [Binary64.positionalText, same]
      rfl

theorem Number.isNumeric_displayText (number : Number) :
    Numeral.isNumeric number.displayText = true := by
  obtain ⟨numeral, plain, same⟩ := number.exists_isPlain_displayText
  rw [same]
  exact plain.isNumeric_plainText

namespace Binary64

theorem roundUnits_zero (denominator : Nat) : roundUnits 0 denominator = 0 := by
  simp [roundUnits, roundQuotient, HalfWay.step]

/-- Digits without an exponent are worth the integer that they write. -/
theorem signedUnits_ofDecimal_zero (negative : Bool) (magnitude : Nat) :
    (ofDecimal negative magnitude 0).signedUnits =
      (ofInt (if negative then -(magnitude : Int) else magnitude)).signedUnits := by
  by_cases zero : magnitude = 0
  · subst zero
    simp [ofDecimal, ofInt, ofFraction, roundUnits_zero, signedUnits]
  · have sign : decide ((if negative then -(magnitude : Int) else magnitude) < 0) = negative := by
      cases negative with
      | true =>
        simp only [↓reduceIte, decide_eq_true_eq]
        omega
      | false =>
        simp only [Bool.false_eq_true, ↓reduceIte, decide_eq_false_iff_not]
        omega
    have size : (if negative then -(magnitude : Int) else magnitude).natAbs = magnitude := by
      cases negative <;> simp
    have near : ¬ ((0 : Int) + (magnitude.log2 + 1) < -400) := by omega
    rw [ofDecimal, if_neg zero, if_neg (by decide), if_neg near, if_pos (by decide), ofInt, sign,
      size]
    simp [tenTo]

end Binary64

namespace Numeral

/-- What a text is worth is a number, or nothing when it is beyond all numbers. -/
theorem number_or_null_of_textValue? {characters : List Char} {value : Value}
    (written : textValue? characters = some value) :
    value = .null ∨ ∃ number, value = .number number := by
  have ofFloat : ∀ numeral : Numeral, numeral.float?.map Value.ofFloat = some value →
      value = .null ∨ ∃ number, value = .number number := by
    intro numeral found
    obtain ⟨float, -, rfl⟩ := Option.map_eq_some_iff.1 found
    unfold Value.ofFloat
    split
    · exact Or.inr ⟨_, rfl⟩
    · exact Or.inl rfl
  unfold textValue? at written
  split at written
  · cases written
  · split at written
    · split at written
      · cases written
        exact Or.inr ⟨_, rfl⟩
      · exact ofFloat _ written
    · exact ofFloat _ written

theorem text?_of_textValue? {characters : List Char} {value : Value}
    (written : textValue? characters = some value) : value.text? = none := by
  rcases number_or_null_of_textValue? written with rfl | ⟨number, rfl⟩ <;> rfl

theorem exists_float_of_integer? {numeral : Numeral} {integer : Int}
    (whole : numeral.integer? = some integer) :
    ∃ float, numeral.float? = some float ∧
      float.signedUnits = (Binary64.ofInt integer).signedUnits := by
  unfold integer? at whole
  split at whole
  · next shape =>
    simp only [isWhole, Bool.and_eq_true, Option.isNone_iff_eq_none] at shape
    obtain ⟨⟨noFraction, noExponent⟩, ascii⟩ := shape
    obtain rfl := Option.some.inj whole
    refine ⟨_, if_pos ascii, ?_⟩
    simp only [noFraction, noExponent, Option.getD_none, List.append_nil, exponentValue]
    exact Binary64.signedUnits_ofDecimal_zero _ _
  · cases whole

/-- A text that has a value has a number, and its value is that number unless this is infinite. -/
theorem exists_number_of_textValue? {characters : List Char} {value : Value}
    (numeric : textValue? characters = some value)
    (finite : (textFloat? characters).all Binary64.isFinite = true) :
    ∃ number float, value = .number number ∧ textFloat? characters = some float ∧
      number.toFloat.signedUnits = float.signedUnits := by
  unfold textValue? at numeric
  unfold textFloat? at finite ⊢
  cases read : read? (Text.trim characters) with
  | none =>
    rw [read] at numeric
    cases numeric
  | some numeral =>
    simp only [read, Option.bind_some] at numeric finite ⊢
    have asFloat : numeral.float?.map Value.ofFloat = some value →
        ∃ number float, value = .number number ∧ numeral.float? = some float ∧
          number.toFloat.signedUnits = float.signedUnits := by
      intro found
      obtain ⟨float, written, rfl⟩ := Option.map_eq_some_iff.1 found
      rw [written, Option.all_some] at finite
      exact ⟨.float float, float, if_pos finite, written, rfl⟩
    cases whole : numeral.integer? with
    | none =>
      simp only [whole] at numeric
      exact asFloat numeric
    | some integer =>
      simp only [whole] at numeric
      split at numeric
      · obtain rfl := Option.some.inj numeric
        obtain ⟨float, written, same⟩ := exists_float_of_integer? whole
        exact ⟨.integer integer, float, rfl, written, same.symm⟩
      · exact asFloat numeric

end Numeral

namespace Value

theorem looseEqTexts_of_number {stored content : String} {float : Binary64}
    (written : Numeral.textFloat? stored.toList = some float) :
    looseEqTexts stored content =
      ((Numeral.textFloat? content.toList).any fun other => float.eqValue other) := by
  unfold looseEqTexts
  rw [written]
  cases found : Numeral.textFloat? content.toList with
  | some other => rfl
  | none =>
    have different : stored ≠ content := by
      rintro rfl
      rw [written] at found
      cases found
    simpa using different

theorem looseEqNumberText_eq (number : Number) (content : String) :
    looseEqNumberText number content =
      ((Numeral.textFloat? content.toList).any fun other => number.toFloat.eqValue other) := by
  unfold looseEqNumberText
  cases numeric : Numeral.isNumeric content.toList with
  | true =>
    simp only [↓reduceIte]
    cases Numeral.textFloat? content.toList <;> rfl
  | false =>
    have unread : Numeral.textFloat? content.toList = none := by
      rw [Numeral.textFloat?, Numeral.read?_of_not_numeric numeric, Option.bind_none]
    -- The text of the number is numeric, so it is another text.
    have different : number.displayText ≠ content.toList := by
      intro same
      rw [← same, number.isNumeric_displayText] at numeric
      cases numeric
    rw [unread]
    simpa using different

/-- The only text that a text is turned into is itself. -/
theorem toList_of_coerce_eq_text {characters : List Char} {content : String}
    (same : coerce characters = .text content) : content.toList = characters := by
  unfold coerce at same
  split at same
  · next found =>
    have scalar := Numeral.text?_of_textValue? found
    rw [same] at scalar
    cases scalar
  · split_ifs at same
    cases same
    exact String.toList_ofList

theorem coerce_toString (truth : Bool) : coerce (toString truth).toList = .bool truth := by
  cases truth <;> rfl

/-- Neither of the two texts that turn into booleans, and no numeral beyond the finite numbers. -/
structure KeepsText (stored : String) : Prop where
  notTrue : stored ≠ "true"
  notFalse : stored ≠ "false"
  finite : (Numeral.textFloat? stored.toList).all Binary64.isFinite = true

/-- What a text turns into is loosely equal to the same texts. -/
theorem looseEq_coerce {stored : String} (keeps : KeepsText stored) (content : String) :
    (coerce stored.toList).looseEq (.text content) = (text stored).looseEq (.text content) := by
  cases numeric : Numeral.textValue? stored.toList with
  | some value =>
    obtain ⟨number, float, rfl, written, same⟩ :=
      Numeral.exists_number_of_textValue? numeric keeps.finite
    have sameValue : ∀ other, number.toFloat.eqValue other = float.eqValue other := by
      intro other
      rw [Binary64.eqValue, same, Binary64.eqValue]
    simp only [coerce, numeric, looseEq, looseEqNumberText_eq, looseEqTexts_of_number written,
      sameValue]
  | none =>
    have notTrue : stored.toList ≠ "true".toList := fun same =>
      keeps.notTrue (String.toList_inj.1 same)
    have notFalse : stored.toList ≠ "false".toList := fun same =>
      keeps.notFalse (String.toList_inj.1 same)
    simp only [coerce, numeric, notTrue, notFalse, ↓reduceIte, ofChars, String.ofList_toList]

theorem looseEq_text_self (content : String) : (text content).looseEq (.text content) = true := by
  simp only [looseEq, looseEqTexts]
  cases Numeral.textFloat? content.toList with
  | none => exact beq_self_eq_true content
  | some number => exact Binary64.eqValue_iff.2 rfl

end Value

end Intake
