import Intake.Json.Numeral
import Intake.Proofs.Text.Classes
import Intake.Proofs.Text.Runs
import Intake.Value.Text
import Mathlib.Data.List.Induction

/-!
# Digits read back

The decimal digits of a natural number, with any zeros in front, read back as the number. They are
tidy as the interchange format wants them, and a number that fits a 64-bit word is read as the
integer it is. A plain numeral, such as the text of an integer, is read back from its text.
-/

namespace Intake

namespace Decimal

theorem isDigit_of_mem_digits {value : Nat} {digit : Char} (member : digit ∈ digits value) :
    digit.isDigit = true :=
  Nat.isDigit_of_mem_toDigits (by decide) (by decide) member

theorem digits_ne_nil (value : Nat) : digits value ≠ [] :=
  Nat.toDigits_ne_nil

theorem digits_of_lt_ten {value : Nat} (small : value < 10) :
    digits value = [value.digitChar] :=
  Nat.toDigits_of_lt_base small

theorem digits_append_digit {front digit : Nat} (positive : 0 < front) (small : digit < 10) :
    digits (10 * front + digit) = digits front ++ [digit.digitChar] := by
  have joined := Nat.toDigits_append_toDigits (b := 10) (by decide) positive small
  rw [Nat.toDigits_of_lt_base small] at joined
  exact joined.symm

theorem length_digits_le {value width : Nat} (positive : 0 < width)
    (bound : value < tenTo width) : (digits value).length ≤ width :=
  (Nat.length_toDigits_le_iff (by decide) positive).2 bound

@[simp] theorem digitsValue_digits (value : Nat) :
    Numeral.digitsValue (digits value) = value :=
  Nat.ofDigitChars_ten_toDigits

theorem digitsValue_zeros_append (count : Nat) (written : List Char) :
    Numeral.digitsValue (List.replicate count '0' ++ written) = Numeral.digitsValue written := by
  change Nat.ofDigitChars 10 (List.replicate count '0' ++ written) 0 =
    Nat.ofDigitChars 10 written 0
  rw [Nat.ofDigitChars_append, Nat.ofDigitChars_replicate_zero, Nat.mul_zero]

/-- A number is below the power of ten of its digits. -/
theorem digitsValue_lt {written : List Char} (digits : ∀ digit ∈ written, digit.isDigit = true) :
    Numeral.digitsValue written < tenTo written.length := by
  induction written using List.reverseRecOn with
  | nil => decide
  | append_singleton front digit ih =>
    rw [List.forall_mem_append, List.forall_mem_singleton] at digits
    have below := ih digits.1
    have high := (Character.code_of_isDigit digits.2).2
    have value : Numeral.digitsValue (front ++ [digit]) =
        10 * Numeral.digitsValue front + (digit.toNat - 48) := List.foldl_append
    have power : tenTo (front ++ [digit]).length = tenTo front.length * 10 := by
      rw [List.length_append]
      rfl
    omega

theorem head?_digits_ne_zero {value : Nat} (positive : 0 < value) :
    (digits value).head? ≠ some '0' := by
  induction value using Nat.base_induction 10 (by decide) with
  | single value small =>
    have notZero : ∀ digit < 10, 0 < digit → digit.digitChar ≠ '0' := by decide
    rw [digits_of_lt_ten small]
    simpa using notZero value small positive
  | digit front digit small frontPositive ih =>
    have kept : (digits front ++ [digit.digitChar]).head? = (digits front).head? := by
      cases written : digits front with
      | nil => exact absurd written (digits_ne_nil front)
      | cons first rest => rfl
    rw [digits_append_digit frontPositive small, kept]
    exact ih frontPositive

theorem isTidy_digits (value : Nat) : JsonNumeral.isTidy (digits value) = true := by
  by_cases positive : 0 < value
  · have head := head?_digits_ne_zero positive
    cases written : digits value with
    | nil => exact absurd written (digits_ne_nil value)
    | cons first rest =>
      rw [written] at head
      unfold JsonNumeral.isTidy
      split <;> simp_all
  · obtain rfl : value = 0 := by omega
    decide

end Decimal

namespace Numeral

open Decimal

theorem takeSign_of_isDigit {first : Char} (digit : first.isDigit = true) (rest : List Char) :
    takeSign (first :: rest) = (false, first :: rest) := by
  unfold takeSign
  split
  · next same =>
    obtain ⟨rfl, -⟩ := List.cons.inj same
    exact absurd digit (by decide)
  · next same =>
    obtain ⟨rfl, -⟩ := List.cons.inj same
    exact absurd digit (by decide)
  · rfl

/-- The text of a numeral, less its exponent. -/
def plainText (numeral : Numeral) : List Char :=
  (if numeral.negative then ['-'] else []) ++
    (numeral.whole ++ (numeral.fraction.map ('.' :: ·)).getD [])

/-- ASCII digits, some of them before the point, and no exponent. -/
structure IsPlain (numeral : Numeral) : Prop where
  started : numeral.whole ≠ []
  wholeDigits : ∀ digit ∈ numeral.whole, digit.isDigit = true
  fractionDigits : ∀ digit ∈ numeral.fraction.getD [], digit.isDigit = true
  noExponent : numeral.exponent = none

namespace IsPlain

variable {numeral : Numeral} (plain : numeral.IsPlain)

include plain

theorem takeSign_plainText :
    takeSign numeral.plainText =
      (numeral.negative, numeral.whole ++ (numeral.fraction.map ('.' :: ·)).getD []) := by
  unfold plainText
  cases negative : numeral.negative with
  | true => rfl
  | false =>
    obtain ⟨first, others, same⟩ := List.exists_cons_of_ne_nil plain.started
    rw [same]
    exact takeSign_of_isDigit (plain.wholeDigits first (by simp [same])) _

/-- A plain numeral is read back from its text. -/
theorem read?_plainText : read? numeral.plainText = some numeral := by
  have whole : ∀ digit ∈ numeral.whole, Character.isDecimalDigit digit = true :=
    fun digit member => Character.isDecimalDigit_of_isDigit (plain.wholeDigits digit member)
  have fraction : ∀ digit ∈ numeral.fraction.getD [], Character.isDecimalDigit digit = true :=
    fun digit member => Character.isDecimalDigit_of_isDigit (plain.fractionDigits digit member)
  have pointed : Text.Stops Character.isDecimalDigit
      ((numeral.fraction.map ('.' :: ·)).getD []) := by
    cases numeral.fraction with
    | none => exact Text.stops_nil _
    | some digits => exact Text.stops_cons (by decide)
  have point : takeFraction ((numeral.fraction.map ('.' :: ·)).getD []) =
      (numeral.fraction, []) := by
    cases written : numeral.fraction with
    | none => rfl
    | some digits =>
      rw [written] at fraction
      have taken := Text.takeWhile_run fraction (Text.stops_nil _)
      have dropped := Text.dropWhile_run fraction (Text.stops_nil _)
      rw [List.append_nil] at taken dropped
      exact Prod.ext (congrArg some taken) dropped
  simp only [read?, plain.takeSign_plainText, Text.takeWhile_run whole pointed,
    Text.dropWhile_run whole pointed, point, plain.started, false_and, ↓reduceIte,
    readExponent?, Option.map_some]
  rw [← plain.noExponent]

/-- A plain numeral is made of digits, a sign and a point. -/
theorem characters_of_mem {character : Char} (member : character ∈ numeral.plainText) :
    character.isDigit = true ∨ character = '-' ∨ character = '.' := by
  simp only [plainText, List.mem_append] at member
  rcases member with sign | inWhole | inFraction
  · split at sign
    · exact Or.inr (Or.inl (List.mem_singleton.1 sign))
    · cases sign
  · exact Or.inl (plain.wholeDigits character inWhole)
  · cases written : numeral.fraction with
    | none =>
      rw [written] at inFraction
      cases inFraction
    | some digits =>
      rw [written] at inFraction
      rcases List.mem_cons.1 inFraction with point | digit
      · exact Or.inr (Or.inr point)
      · exact Or.inl (plain.fractionDigits character (by rw [written]; exact digit))

theorem not_isBlank_of_mem {character : Char} (member : character ∈ numeral.plainText) :
    Character.isBlank character = false := by
  rcases plain.characters_of_mem member with digit | rfl | rfl
  · exact Character.not_isBlank_of_isDigit digit
  · rfl
  · rfl

theorem trim_plainText : Text.trim numeral.plainText = numeral.plainText :=
  Text.trim_of_not_blank fun _ member => plain.not_isBlank_of_mem member

/-- The text of a plain numeral is numeric. -/
theorem isNumeric_plainText : isNumeric numeral.plainText = true := by
  rw [isNumeric, plain.trim_plainText, plain.read?_plainText, Option.isSome_some]

/-- All digits of a plain numeral have a value, and so has its text. -/
theorem isSome_textFloat?_plainText : (textFloat? numeral.plainText).isSome = true := by
  have whole : numeral.whole.all Char.isDigit = true := List.all_eq_true.2 plain.wholeDigits
  have fraction : (numeral.fraction.getD []).all Char.isDigit = true :=
    List.all_eq_true.2 plain.fractionDigits
  have ascii : numeral.isAsciiNumeral = true := by
    rw [isAsciiNumeral, whole, fraction, plain.noExponent]
    rfl
  rw [textFloat?, plain.trim_plainText, plain.read?_plainText, Option.bind_some, float?,
    if_pos ascii, Option.isSome_some]

end IsPlain

/-- The numeral that the text of an integer is. -/
def ofInt (value : Int) : Numeral where
  negative := value < 0
  whole := digits value.natAbs
  fraction := none
  exponent := none

theorem isPlain_ofInt (value : Int) : (ofInt value).IsPlain where
  started := digits_ne_nil _
  wholeDigits _ member := isDigit_of_mem_digits member
  fractionDigits := by simp [ofInt]
  noExponent := rfl

theorem plainText_ofInt (value : Int) : (ofInt value).plainText = Decimal.ofInt value := by
  rw [Decimal.ofInt]
  split <;> simp_all [ofInt, plainText]

/-- The text of an integer is a numeral without point and exponent. -/
theorem read?_ofInt (value : Int) : read? (Decimal.ofInt value) = some (ofInt value) := by
  rw [← plainText_ofInt]
  exact (isPlain_ofInt value).read?_plainText

theorem integer?_ofInt (value : Int) : integer? (ofInt value) = some value := by
  have all : (digits value.natAbs).all Char.isDigit = true :=
    List.all_eq_true.2 fun digit member => isDigit_of_mem_digits member
  have whole : isWhole (ofInt value) = true := rfl
  have ascii : isAsciiNumeral (ofInt value) = true := by
    rw [isAsciiNumeral, ofInt, all]
    rfl
  rw [integer?, whole, ascii]
  simp only [Bool.and_self, ↓reduceIte, ofInt, digitsValue_digits, decide_eq_true_eq,
    Option.some.injEq]
  split
  · next negative => omega
  · next positive => omega

theorem trim_ofInt (value : Int) : Text.trim (Decimal.ofInt value) = Decimal.ofInt value := by
  rw [← plainText_ofInt]
  exact (isPlain_ofInt value).trim_plainText

theorem textValue?_ofInt {value : Int} (fits : Number.fitsSigned value = true) :
    textValue? (Decimal.ofInt value) = some (.ofInt value) := by
  simp only [textValue?, trim_ofInt, read?_ofInt, integer?_ofInt, fits, ↓reduceIte]

/-- A numeral starts with a sign, a digit or a point. -/
theorem read?_of_first {first : Char} (unsigned : first ≠ '+' ∧ first ≠ '-') (noPoint : first ≠ '.')
    (noDigit : Character.isDecimalDigit first = false) (rest : List Char) :
    read? (first :: rest) = none := by
  have sign : takeSign (first :: rest) = (false, first :: rest) := by
    unfold takeSign
    split <;> simp_all
  have point : takeFraction (first :: rest) = (none, first :: rest) := by
    unfold takeFraction
    split <;> simp_all
  simp [read?, sign, point, noDigit]

theorem read?_of_not_numeric {text : List Char} (plain : isNumeric text = false) :
    read? (Text.trim text) = none := by
  simpa [isNumeric] using plain

theorem textValue?_of_not_numeric {text : List Char} (plain : isNumeric text = false) :
    textValue? text = none := by
  rw [textValue?, read?_of_not_numeric plain]

theorem textValue?_of_first {first : Char} (unsigned : first ≠ '+' ∧ first ≠ '-')
    (noPoint : first ≠ '.') (noDigit : Character.isDecimalDigit first = false) {rest : List Char}
    (kept : Text.trim (first :: rest) = first :: rest) : textValue? (first :: rest) = none := by
  simp only [textValue?, kept, read?_of_first unsigned noPoint noDigit]

end Numeral

namespace JsonNumeral

open Decimal

/-- Digits whose number stays below the limit all find room in a significand. -/
theorem pushAll_eq {start : Nat} {digits : List Char}
    (bound : Nat.ofDigitChars 10 digits start < significandLimit) :
    Significand.pushAll ⟨start, 0, false⟩ digits =
      ⟨Nat.ofDigitChars 10 digits start, 0, false⟩ := by
  induction digits generalizing start with
  | nil => simp [Significand.pushAll]
  | cons digit rest ih =>
    have grows : 10 * start + (digit.toNat - 48) ≤
        Nat.ofDigitChars 10 (digit :: rest) start := by
      rw [Nat.ofDigitChars_cons, Nat.ofDigitChars_eq_ofDigitChars_zero]
      have power : 1 ≤ 10 ^ rest.length := Nat.one_le_pow _ _ (by decide)
      exact Nat.le_add_right_of_le (Nat.le_mul_of_pos_left _ power)
    have room : ¬ significandLimit ≤ 10 * start + (digit.toNat - 48) := by omega
    have pushed : Significand.push ⟨start, 0, false⟩ digit =
        ⟨10 * start + (digit.toNat - 48), 0, false⟩ := by
      simp [Significand.push, room]
    change Significand.pushAll (Significand.push ⟨start, 0, false⟩ digit) rest = _
    rw [pushed, ih (by simpa [Nat.ofDigitChars_cons] using bound)]
    rfl

/-- An integer of a signed or an unsigned word is read as itself. -/
theorem number?_ofInt {value : Int} (low : -(twoTo 63 : Int) ≤ value) (high : value < twoTo 64) :
    number? (Numeral.ofInt value) = some (.integer value) := by
  have words : twoTo 64 = 2 * twoTo 63 := rfl
  have written : Nat.ofDigitChars 10 (digits value.natAbs) 0 = value.natAbs :=
    digitsValue_digits value.natAbs
  have bound : Nat.ofDigitChars 10 (digits value.natAbs) 0 < significandLimit := by
    rw [written, significandLimit]
    omega
  have pushed := pushAll_eq bound
  rw [written] at pushed
  have integer : integer? (value < 0) value.natAbs = some value := by
    rw [integer?]
    split_ifs with negative room room
    · exact congrArg some (by simp at negative; omega)
    · simp at negative room
      omega
    · exact congrArg some (by simp at negative; omega)
    · simp [significandLimit] at negative room
      omega
  simp only [number?, Numeral.ofInt, pushed, integer, Numeral.isWhole]
  rfl

theorem number?_digits {value : Nat} (fits : value < twoTo 64) :
    number? ⟨false, digits value, none, none⟩ = some (.integer value) := by
  have positive : Numeral.ofInt value = ⟨false, digits value, none, none⟩ := by
    simp [Numeral.ofInt]
  rw [← positive]
  exact number?_ofInt (by omega) (by omega)

/-- An integer that is read fits a word. -/
theorem number?_lt {numeral : Numeral} {value : Int}
    (read : number? numeral = some (.integer value)) : value < twoTo 64 := by
  simp only [number?] at read
  split at read
  · next word fits =>
    cases read
    rw [integer?, significandLimit] at fits
    split at fits
    · split at fits
      · cases fits
        have positive : 0 < twoTo 64 := by decide
        omega
      · cases fits
    · split at fits
      · cases fits
        omega
      · cases fits
  · obtain ⟨units, -, float⟩ := Option.map_eq_some_iff.1 read
    cases float

/-- Whether a numeral could go on with a character. -/
def continues (character : Char) : Bool :=
  character.isDigit || character == '.' || character == 'e' || character == 'E'

/-- The text of an integer is a numeral, whatever follows that does not continue it. -/
theorem take?_ofInt_append (value : Int) {rest : List Char} (stops : Text.Stops continues rest) :
    take? (Decimal.ofInt value ++ rest) = some (Numeral.ofInt value, rest) := by
  have all : ∀ digit ∈ digits value.natAbs, digit.isDigit = true :=
    fun digit member => isDigit_of_mem_digits member
  have ends : Text.Stops Char.isDigit rest := by
    intro character first
    have outside := stops character first
    simp only [continues, Bool.or_eq_false_iff] at outside
    exact outside.1.1.1
  have taken := Text.takeWhile_run all ends
  have dropped := Text.dropWhile_run all ends
  have fraction : takeFraction? rest = some (none, rest) := by
    unfold takeFraction?
    split
    · exact absurd (stops '.' rfl) (by decide)
    · rfl
  have exponent : takeExponent? rest = some (none, rest) := by
    unfold takeExponent?
    split
    · next mark others =>
      have outside := stops mark rfl
      simp only [continues, Bool.or_eq_false_iff, beq_eq_false_iff_ne] at outside
      rw [if_neg (not_or.2 ⟨outside.1.2, outside.2⟩)]
    · rfl
  have unsigned : ∀ others, digits value.natAbs ++ rest ≠ '-' :: others := by
    intro others same
    obtain ⟨first, more, written⟩ := List.exists_cons_of_ne_nil (digits_ne_nil value.natAbs)
    rw [written, List.cons_append] at same
    obtain ⟨rfl, -⟩ := List.cons.inj same
    exact absurd (all '-' (by simp [written])) (by decide)
  by_cases negative : value < 0
  · simp [take?, Decimal.ofInt, Numeral.ofInt, negative, taken, dropped, isTidy_digits, fraction,
      exponent]
  · simp [take?, Decimal.ofInt, Numeral.ofInt, negative, taken, dropped, isTidy_digits, fraction,
      exponent]

theorem take?_digits (value : Nat) :
    take? (digits value) = some (⟨false, digits value, none, none⟩, []) := by
  have whole := take?_ofInt_append value (Text.stops_nil _)
  have positive : ¬ (value : Int) < 0 := by omega
  simpa [Decimal.ofInt, Numeral.ofInt, positive] using whole

end JsonNumeral

end Intake
