import Intake.Proofs.Number.Nearest

/-!
# Comparing integers and their texts

An integer and its decimal text are compared by the same floating point number, so it does not
matter which of the two a document has. The comparisons are those of the nearest numbers with 53
significant bits: they never put two integers in the wrong order, and they tell different integers
apart when one is below `2 ^ 53` or the two are more than 1024 apart. Other integers can meet.
-/

namespace Intake

/-- Pairs of integers that are in the same order compare alike. -/
theorem compare_congr {left right other another : Int} (less : left < right → other < another)
    (equal : left = right → other = another) (greater : right < left → another < other) :
    compare other another = compare left right := by
  rcases Int.lt_trichotomy left right with below | same | above
  · rw [Int.compare_eq_lt.2 below, Int.compare_eq_lt.2 (less below)]
  · rw [Int.compare_eq_eq.2 same, Int.compare_eq_eq.2 (equal same)]
  · rw [Int.compare_eq_gt.2 above, Int.compare_eq_gt.2 (greater above)]

namespace Binary64

variable {left right : Int}

theorem natAbs_le_of_fitsSigned {value : Int} (fits : Number.fitsSigned value = true) :
    value.natAbs ≤ twoTo 63 := by
  simp only [Number.fitsSigned, Bool.and_eq_true, decide_eq_true_eq] at fits
  omega

/-- Far enough apart, or one of them small enough, for their comparison to be exact. -/
def Apart (left right : Int) : Prop :=
  left.natAbs < twoTo 53 ∨ right.natAbs < twoTo 53 ∨ 1024 < (left - right).natAbs

theorem Apart.symm (apart : Apart left right) : Apart right left := by
  rcases apart with small | small | far
  · exact .inr (.inl small)
  · exact .inl small
  · exact .inr (.inr (by omega))

/-- An integer of more than 53 bits does not come down to a smaller one. -/
theorem eq_of_nearestInt_eq_small (small : left.natAbs < twoTo 53)
    (same : nearestInt left = nearestInt right) : left = right := by
  rw [nearestInt_of_le (Nat.le_of_lt small)] at same
  rcases Nat.le_total right.natAbs (twoTo 53) with little | large
  · rw [same, nearestInt_of_le little]
  · have magnitude : (nearestInt right).natAbs = nearestWhole right.natAbs := by
      unfold nearestInt
      split_ifs <;> omega
    have above : nearestWhole (twoTo 53) ≤ nearestWhole right.natAbs := nearestWhole_mono large
    rw [nearestWhole_of_le (Nat.le_refl _), ← magnitude, ← same] at above
    omega

theorem eq_of_nearestInt_eq (fitsLeft : left.natAbs ≤ twoTo 63)
    (fitsRight : right.natAbs ≤ twoTo 63)
    (apart : Apart left right) (same : nearestInt left = nearestInt right) : left = right := by
  rcases apart with small | small | far
  · exact eq_of_nearestInt_eq_small small same
  · exact (eq_of_nearestInt_eq_small small same.symm).symm
  · have leftError := nearestInt_error fitsLeft
    have rightError := nearestInt_error fitsRight
    omega

theorem nearestInt_lt (fitsLeft : left.natAbs ≤ twoTo 63) (fitsRight : right.natAbs ≤ twoTo 63)
    (apart : Apart left right) (lt : left < right) : nearestInt left < nearestInt right := by
  have le := nearestInt_mono (Int.le_of_lt lt)
  have different : nearestInt left ≠ nearestInt right := fun same =>
    Int.ne_of_lt lt (eq_of_nearestInt_eq fitsLeft fitsRight apart same)
  omega

theorem compare_nearestInt (fitsLeft : left.natAbs ≤ twoTo 63) (fitsRight : right.natAbs ≤ twoTo 63)
    (apart : Apart left right) :
    compare (nearestInt left) (nearestInt right) = compare left right := by
  refine compare_congr (nearestInt_lt fitsLeft fitsRight apart) (congrArg nearestInt) ?_
  exact nearestInt_lt fitsRight fitsLeft apart.symm

/-- The numbers of whole counts of one are compared by the counts. -/
theorem compareValue_of_whole {number other : Binary64}
    (first : number.signedUnits = left * unitsPerOne)
    (second : other.signedUnits = right * unitsPerOne) :
    number.compareValue other = compare left right := by
  have one : (0 : Int) < unitsPerOne := Int.natCast_pos.2 unitsPerOne_pos
  rw [compareValue, first, second]
  exact compare_congr (fun less => Int.mul_lt_mul_of_pos_right less one)
    (congrArg (· * (unitsPerOne : Int))) (fun greater => Int.mul_lt_mul_of_pos_right greater one)

end Binary64

namespace Numeral

/-- The text of an integer is worth the integer. -/
theorem exists_textFloat?_ofInt (integer : Int) :
    ∃ float, textFloat? (Decimal.ofInt integer) = some float ∧
      float.signedUnits = (Binary64.ofInt integer).signedUnits := by
  rw [textFloat?, trim_ofInt, read?_ofInt, Option.bind_some]
  exact exists_float_of_integer? (integer?_ofInt integer)

end Numeral

namespace Value

open Binary64 (nearestInt unitsPerOne Apart)

section Numbers

variable {value other : Value} {number otherNumber : Binary64}

/-- Values that both have a number are loosely equal by it. -/
theorem looseEq_of_asFloat? (has : value.asFloat? = some number)
    (otherHas : other.asFloat? = some otherNumber) :
    value.looseEq other = number.eqValue otherNumber := by
  unfold asFloat? at has otherHas
  split at has <;> split at otherHas <;> try contradiction
  · next first _ second =>
    rw [looseEq, Option.some.inj has, Option.some.inj otherHas]
  · next first _ content =>
    rw [looseEq, looseEqNumberText_eq, otherHas, Option.any_some, Option.some.inj has]
  · next content _ second =>
    rw [looseEq, looseEqNumberText_eq, has, Option.any_some, Option.some.inj otherHas,
      Binary64.eqValue, Binary64.eqValue, BEq.comm]
  · next first _ second => rw [looseEq, looseEqTexts_of_number has, otherHas, Option.any_some]

/-- Values that both have a number are ordered by it. -/
theorem looseCompare_of_asFloat? (has : value.asFloat? = some number)
    (otherHas : other.asFloat? = some otherNumber) :
    value.looseCompare other = some (number.compareValue otherNumber) := by
  have scalars : value.compareScalars other = number.compareValue otherNumber := by
    rw [compareScalars, has, otherHas]
  cases value <;> cases other <;> simp_all [asFloat?, looseCompare]

end Numbers

/-- The values that stand for an integer: the integer, and its decimal text. -/
inductive Writes (integer : Int) : Value → Prop
  | number : Writes integer (.ofInt integer)
  | text : Writes integer (.ofChars (Decimal.ofInt integer))

theorem Writes.exists_asFloat? {integer : Int} {value : Value}
    (fits : Number.fitsSigned integer = true) (writes : Writes integer value) :
    ∃ number, value.asFloat? = some number ∧
      number.signedUnits = nearestInt integer * unitsPerOne := by
  have units := Binary64.signedUnits_ofInt (Binary64.natAbs_le_of_fitsSigned fits)
  cases writes with
  | number => exact ⟨_, rfl, units⟩
  | text =>
    obtain ⟨number, written, same⟩ := Numeral.exists_textFloat?_ofInt integer
    exact ⟨number, by rw [ofChars, asFloat?, String.toList_ofList, written], same.trans units⟩

section Integers

variable {left right : Int} {value other : Value}

theorem looseCompare_of_writes (fitsLeft : Number.fitsSigned left = true)
    (fitsRight : Number.fitsSigned right = true) (writesLeft : Writes left value)
    (writesRight : Writes right other) :
    value.looseCompare other = some (compare (nearestInt left) (nearestInt right)) := by
  obtain ⟨number, has, units⟩ := writesLeft.exists_asFloat? fitsLeft
  obtain ⟨otherNumber, otherHas, otherUnits⟩ := writesRight.exists_asFloat? fitsRight
  rw [looseCompare_of_asFloat? has otherHas, Binary64.compareValue_of_whole units otherUnits]

theorem looseEq_of_writes (fitsLeft : Number.fitsSigned left = true)
    (fitsRight : Number.fitsSigned right = true) (writesLeft : Writes left value)
    (writesRight : Writes right other) :
    value.looseEq other = true ↔ nearestInt left = nearestInt right := by
  obtain ⟨number, has, units⟩ := writesLeft.exists_asFloat? fitsLeft
  obtain ⟨otherNumber, otherHas, otherUnits⟩ := writesRight.exists_asFloat? fitsRight
  rw [looseEq_of_asFloat? has otherHas, ← Binary64.compareValue_eq_eq_iff,
    Binary64.compareValue_of_whole units otherUnits, Int.compare_eq_eq]

theorem strictEq_ofInt (left right : Int) :
    (ofInt left).strictEq (.ofInt right) = (ofInt left).looseEq (.ofInt right) := by
  rw [ofInt, ofInt, strictEq, looseEq]

/-- Integers and their texts are compared as the nearest numbers with 53 significant bits. The
order is never reversed, and the comparison is that of the integers when these are apart. -/
theorem comparison_of_integers (fitsLeft : Number.fitsSigned left = true)
    (fitsRight : Number.fitsSigned right = true) (writesLeft : Writes left value)
    (writesRight : Writes right other) :
    (value.looseEq other = true ↔ nearestInt left = nearestInt right) ∧
      ((ofInt left).strictEq (.ofInt right) = true ↔ nearestInt left = nearestInt right) ∧
      value.looseCompare other = some (compare (nearestInt left) (nearestInt right)) ∧
      (left < right → value.looseCompare other ≠ some .gt) ∧
      (Apart left right →
        (value.looseEq other = true ↔ left = right) ∧
          ((ofInt left).strictEq (.ofInt right) = true ↔ left = right) ∧
          value.looseCompare other = some (compare left right)) := by
  have equal := looseEq_of_writes fitsLeft fitsRight writesLeft writesRight
  have same : (ofInt left).strictEq (.ofInt right) = true ↔ nearestInt left = nearestInt right := by
    rw [strictEq_ofInt]
    exact looseEq_of_writes fitsLeft fitsRight .number .number
  have ordered := looseCompare_of_writes fitsLeft fitsRight writesLeft writesRight
  refine ⟨equal, same, ordered, fun less reversed => ?_, fun apart => ?_⟩
  · have above := Int.compare_eq_gt.1 (Option.some.inj (ordered.symm.trans reversed))
    have le := Binary64.nearestInt_mono (Int.le_of_lt less)
    omega
  · have sizeLeft := Binary64.natAbs_le_of_fitsSigned fitsLeft
    have sizeRight := Binary64.natAbs_le_of_fitsSigned fitsRight
    have meets : nearestInt left = nearestInt right ↔ left = right :=
      ⟨Binary64.eq_of_nearestInt_eq sizeLeft sizeRight apart, congrArg nearestInt⟩
    refine ⟨equal.trans meets, same.trans meets, ?_⟩
    rw [ordered, Binary64.compare_nearestInt sizeLeft sizeRight apart]

end Integers

/-- Two amounts, the second of them as a text, that are just far enough apart. -/
theorem comparison_of_integers_amounts :
    Number.fitsSigned 9007199254740993 = true ∧ Number.fitsSigned 9007199254742018 = true ∧
      Apart 9007199254740993 9007199254742018 ∧
      (ofInt 9007199254740993).looseEq (.ofChars (Decimal.ofInt 9007199254742018)) = false ∧
      (ofInt 9007199254740993).looseCompare (.ofChars (Decimal.ofInt 9007199254742018)) =
        some .lt := by
  have fits : Number.fitsSigned 9007199254740993 = true := by decide +kernel
  have otherFits : Number.fitsSigned 9007199254742018 = true := by decide +kernel
  have apart : Apart 9007199254740993 9007199254742018 := .inr (.inr (by decide))
  obtain ⟨-, -, -, -, exact⟩ := comparison_of_integers fits otherFits .number .text
  obtain ⟨equal, -, ordered⟩ := exact apart
  exact ⟨fits, otherFits, apart, Bool.eq_false_iff.2 fun same => absurd (equal.1 same) (by decide),
    ordered.trans rfl⟩

/-- Two integers that no comparison tells apart, whether as numbers or as texts. -/
theorem different_integers_meet :
    let account : Int := 9007199254740992
    let other : Int := 9007199254740993
    Number.fitsSigned account = true ∧ Number.fitsSigned other = true ∧ account ≠ other ∧
      (ofInt account).strictEq (.ofInt other) = true ∧
      (∀ value ∈ [ofInt account, .ofChars (Decimal.ofInt account)],
        ∀ second ∈ [ofInt other, .ofChars (Decimal.ofInt other)],
          value.looseEq second = true ∧ value.looseCompare second = some .eq) := by
  decide +kernel

end Value

end Intake
