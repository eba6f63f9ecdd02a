import Intake.Yaml.Document

/-!
# Scalars that are null

A scalar that is read as null is absent, with two exceptions. A number that is not finite has no
other value, and a tag for null can stand on a text that is quoted or in lines of its own, which is
never taken for absent.
-/

namespace Intake

namespace Yaml

/-- The words for infinity, with or without a sign, and for no number. -/
def isNotFinite (text : List Char) : Bool :=
  [".inf", ".Inf", ".INF"].contains (String.ofList (Numeral.takeSign text).2) ||
    [".nan", ".NaN", ".NAN"].contains (String.ofList text)

theorem float?_eq_null_iff (text : List Char) :
    (float? text).map Value.ofFloat = some .null ↔ isNotFinite text = true := by
  have infinite (negative : Bool) :
      Value.ofFloat ⟨negative, Binary64.infinityUnits⟩ = .null := by
    rw [Value.ofFloat, Binary64.isFinite, decide_eq_false (Nat.lt_irrefl _)]
    rfl
  rw [float?, isNotFinite, Bool.or_eq_true]
  generalize Numeral.takeSign text = signed
  obtain ⟨negative, unsigned⟩ := signed
  dsimp only
  split
  · next word => exact ⟨fun _ => Or.inl word, fun _ => congrArg some (infinite negative)⟩
  · next notInfinite =>
    split
    · next word => exact ⟨fun _ => Or.inr word, fun _ => congrArg some (infinite false)⟩
    · next notMissing =>
      constructor
      · -- what remains are numerals, and only finite numbers are taken from them
        intro isNull
        obtain ⟨number, isNumber, isNull⟩ := Option.map_eq_some_iff.1 isNull
        rw [Value.ofFloat, (Option.filter_eq_some_iff.1 isNumber).2] at isNull
        cases isNull
      · rintro (word | word)
        · exact absurd word notInfinite
        · exact absurd word notMissing

theorem isNotFinite_of_nonInteger {text : List Char} (isNull : nonInteger text = .null) :
    isNotFinite text = true := by
  rw [nonInteger] at isNull
  split at isNull
  · cases isNull
  · rw [← float?_eq_null_iff]
    cases number : float? text with
    | none =>
      rw [number] at isNull
      cases isNull
    | some value =>
      rw [number, Option.elim_some] at isNull
      rw [Option.map_some, isNull]

/-- All words for a number that is not finite. -/
def notFiniteWords : List (List Char) :=
  let infinities := [".inf", ".Inf", ".INF"].map String.toList
  infinities ++ infinities.map (List.cons '+') ++ infinities.map (List.cons '-') ++
    [".nan", ".NaN", ".NAN"].map String.toList

theorem mem_notFiniteWords {text : List Char} (word : isNotFinite text = true) :
    text ∈ notFiniteWords := by
  have mem_words {words : List String} {text : List Char}
      (word : words.contains (String.ofList text) = true) : text ∈ words.map String.toList :=
    List.mem_map.2 ⟨_, List.contains_iff_mem.1 word, String.toList_ofList⟩
  have signed : text = (Numeral.takeSign text).2 ∨ text = '+' :: (Numeral.takeSign text).2 ∨
      text = '-' :: (Numeral.takeSign text).2 := by
    unfold Numeral.takeSign
    split <;> simp
  rw [isNotFinite, Bool.or_eq_true] at word
  simp only [notFiniteWords, List.mem_append, or_assoc]
  rcases word with infinite | missing
  · have inside := mem_words infinite
    rcases signed with same | same | same
    · exact Or.inl (same ▸ inside)
    · exact Or.inr (Or.inl (List.mem_map.2 ⟨_, inside, same.symm⟩))
    · exact Or.inr (Or.inr (Or.inl (List.mem_map.2 ⟨_, inside, same.symm⟩)))
  · exact Or.inr (Or.inr (Or.inr (mem_words missing)))

/-- A plain scalar is null exactly if it is a spelling of null or a word for a number that is not
finite. -/
theorem plainValue?_eq_null_iff (text : List Char) :
    plainValue? text = some .null ↔ isNull text = true ∨ isNotFinite text = true := by
  constructor
  · intro null
    rw [plainValue?] at null
    split at null
    · next spelled => exact Or.inl spelled
    · apply Or.inr
      split at null
      · cases null
      · split at null
        · split at null
          · cases null
          · split at null
            · cases null
            · exact isNotFinite_of_nonInteger (Option.some.inj null)
        · exact isNotFinite_of_nonInteger (Option.some.inj null)
  · rintro (spelled | word)
    · exact if_pos spelled
    · have words : ∀ text ∈ notFiniteWords, plainValue? text = some .null := by
        decide +kernel
      exact words text (mem_notFiniteWords word)

namespace Node

/-- Whether a scalar is null although it is not absent: it is a number that is not finite, or its
tag alone makes its text null. -/
inductive IsMarkedNull : Node → Prop
  | number {anchor : Option Nat} {tag : Option Tag} {style : ScalarStyle} {text : List Char}
    (typed : tag = some .float ∨ tag = none ∧ style = .plain) (word : isNotFinite text = true) :
    IsMarkedNull (.scalar anchor tag style text)
  | tagged {anchor : Option Nat} {style : ScalarStyle} {text : List Char}
    (marked : style ≠ .plain) (word : isNullWord text = true) :
    IsMarkedNull (.scalar anchor (some .null) style text)

theorem isAbsent?_of_ne_plain (anchor : Option Nat) (tag : Option Tag) {style : ScalarStyle}
    (marked : style ≠ .plain) (text : List Char) :
    isAbsent? (.scalar anchor tag style text) = some false := by
  cases style with
  | plain => exact absurd rfl marked
  | quoted | literal | folded =>
    cases tag with
    | none => rfl
    | some tag => cases tag <;> rfl

theorem isNull_eq_false_of_isNotFinite {text : List Char} (word : isNotFinite text = true) :
    isNull text = false := by
  have words : ∀ text ∈ notFiniteWords, isNull text = false := by decide
  exact words text (mem_notFiniteWords word)

/-- A scalar that is read as null is either absent or marked. -/
theorem isMarkedNull_scalar_iff {anchor : Option Nat} {tag : Option Tag} {style : ScalarStyle}
    {text : List Char} :
    IsMarkedNull (.scalar anchor tag style text) ↔
      scalarValue? tag style text = some .null ∧
        isAbsent? (.scalar anchor tag style text) = some false := by
  constructor
  · rintro (⟨rfl | ⟨rfl, rfl⟩, word⟩ | ⟨marked, word⟩)
    · exact ⟨(float?_eq_null_iff text).2 word, by cases style <;> rfl⟩
    · refine ⟨(plainValue?_eq_null_iff text).2 (Or.inr word), ?_⟩
      exact congrArg some (isNull_eq_false_of_isNotFinite word)
    · exact ⟨if_pos word, isAbsent?_of_ne_plain anchor _ marked text⟩
  · rintro ⟨isNull, present⟩
    cases tag with
    | none =>
      rw [scalarValue?] at isNull
      split at isNull
      · next plain =>
        subst plain
        rcases (plainValue?_eq_null_iff text).1 isNull with spelled | word
        · rw [isAbsent?, spelled] at present
          cases present
        · exact .number (Or.inr ⟨rfl, rfl⟩) word
      · cases isNull
    | some tag =>
      cases tag with
      | null =>
        rw [scalarValue?] at isNull
        split at isNull
        · next word =>
          apply IsMarkedNull.tagged _ word
          rintro rfl
          rw [isAbsent?, if_pos word] at present
          cases present
        · cases isNull
      | float => exact .number (Or.inl rfl) ((float?_eq_null_iff text).1 isNull)
      | boolean =>
        obtain ⟨_, -, isNull⟩ := Option.map_eq_some_iff.1 isNull
        cases isNull
      | integer =>
        obtain ⟨_, -, isNull⟩ := Option.map_eq_some_iff.1 isNull
        cases isNull
      | custom | foreign => cases isNull

end Node

end Yaml

end Intake
