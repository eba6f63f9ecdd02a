import Intake.Text.Character

/-!
# How the classes of characters lie

White space has no digit, no letter and no character of a word in it. The characters above U+007F
that are white space are few, so the tables are looked up for each of them.
-/

namespace Intake

namespace Character

/-- The code points above U+007F that are white space. -/
def blankCodes : List Nat :=
  [0x85, 0xA0, 0x1680, 0x2000, 0x2001, 0x2002, 0x2003, 0x2004, 0x2005, 0x2006, 0x2007, 0x2008,
    0x2009, 0x200A, 0x2028, 0x2029, 0x202F, 0x205F, 0x3000]

/-- The tables that words and names are made of. -/
def wordTables : List (List (Nat × Nat)) :=
  [CharacterRange.letters, CharacterRange.otherAlphabetic, CharacterRange.marks,
    CharacterRange.decimalDigits, CharacterRange.connectors, CharacterRange.numbers]

/-- White space is one of five control characters, a space, or beyond the 7-bit set. -/
theorem code_of_isBlank {character : Char} (blank : isBlank character = true) :
    (character.toNat = 32 ∨ (9 ≤ character.toNat ∧ character.toNat ≤ 13)) ∨
      (isAscii character = false ∧ character.toNat ∈ blankCodes) := by
  simp only [isBlank, inRanges, Bool.or_eq_true, beq_iff_eq, Bool.and_eq_true,
    decide_eq_true_eq, List.any_cons, List.any_nil, Bool.or_false, Bool.not_eq_true'] at blank
  simp only [blankCodes, List.mem_cons, List.not_mem_nil, or_false]
  rcases blank with (rfl | control) | ⟨beyond, inside⟩
  · exact Or.inl (Or.inl rfl)
  · exact Or.inl (Or.inr control)
  · refine Or.inr ⟨beyond, ?_⟩
    omega

-- The comparisons are written with `Nat.ble`, which the kernel computes at once.
private theorem blankCodes_outside :
    blankCodes.all (fun code => wordTables.all fun table =>
      !table.any fun range => range.1.ble code && code.ble range.2) = true := by
  decide +kernel

theorem not_inRanges_of_mem_blankCodes {character : Char}
    (blank : character.toNat ∈ blankCodes) :
    ∀ table ∈ wordTables, inRanges table character = false := by
  intro table member
  have outside := List.all_eq_true.1 (List.all_eq_true.1 blankCodes_outside _ blank) _ member
  have same : ∀ low high : Nat, low.ble high = decide (low ≤ high) := by
    intro low high
    rw [Bool.eq_iff_iff, Nat.ble_eq, decide_eq_true_eq]
  simpa [inRanges, same] using outside

theorem code_of_isDigit {character : Char} (digit : character.isDigit = true) :
    48 ≤ character.toNat ∧ character.toNat ≤ 57 :=
  Char.isDigit_iff_toNat.1 digit

theorem code_of_isAlpha {character : Char} (letter : character.isAlpha = true) :
    65 ≤ character.toNat ∧ character.toNat ≤ 122 := by
  rcases Bool.or_eq_true_iff.1 letter with upper | lower
  · obtain ⟨low, high⟩ := of_decide_eq_true upper
    change 65 ≤ character.toNat at low
    change character.toNat ≤ 90 at high
    omega
  · obtain ⟨low, high⟩ := Bool.and_eq_true_iff.1 lower
    have low : 97 ≤ character.toNat := of_decide_eq_true low
    have high : character.toNat ≤ 122 := of_decide_eq_true high
    omega

theorem le_code_of_isAlphanum {character : Char} (member : character.isAlphanum = true) :
    48 ≤ character.toNat := by
  rcases Bool.or_eq_true_iff.1 member with letter | digit
  · exact Nat.le_trans (by decide) (code_of_isAlpha letter).1
  · exact (code_of_isDigit digit).1

theorem not_isWord_of_isBlank {character : Char} (blank : isBlank character = true) :
    isWord character = false := by
  rcases code_of_isBlank blank with low | ⟨beyond, code⟩
  · have ascii : isAscii character = true := decide_eq_true (by omega)
    have notMark : character ≠ '_' := by
      rintro rfl
      exact absurd low (by decide)
    have notMember : character.isAlphanum = false := by
      rw [Bool.eq_false_iff]
      intro member
      have high := le_code_of_isAlphanum member
      omega
    simp [isWord, ascii, notMember, notMark]
  · have outside := not_inRanges_of_mem_blankCodes code
    simp only [wordTables, List.forall_mem_cons] at outside
    simp [isWord, beyond, isEstablished, outside]

theorem not_isAlphanumeric_of_isBlank {character : Char} (blank : isBlank character = true) :
    isAlphanumeric character = false := by
  rcases code_of_isBlank blank with low | ⟨beyond, code⟩
  · have ascii : isAscii character = true := decide_eq_true (by omega)
    have notMember : character.isAlphanum = false := by
      rw [Bool.eq_false_iff]
      intro member
      have high := le_code_of_isAlphanum member
      omega
    simp [isAlphanumeric, ascii, notMember]
  · have outside := not_inRanges_of_mem_blankCodes code
    simp only [wordTables, List.forall_mem_cons] at outside
    simp [isAlphanumeric, beyond, outside]

theorem not_isBlank_of_isWord {character : Char} (word : isWord character = true) :
    isBlank character = false := by
  cases blank : isBlank character with
  | false => rfl
  | true => exact absurd word (by simp [not_isWord_of_isBlank blank])

theorem isWord_of_isAlpha {character : Char} (letter : character.isAlpha = true) :
    isWord character = true := by
  have ascii : isAscii character = true := by
    have high := (code_of_isAlpha letter).2
    exact decide_eq_true (by omega)
  rw [isWord, if_pos ascii, Char.isAlphanum, letter, Bool.true_or, Bool.true_or]

theorem not_isDecimalDigit_of_isAlpha {character : Char} (letter : character.isAlpha = true) :
    isDecimalDigit character = false := by
  obtain ⟨low, high⟩ := code_of_isAlpha letter
  have ascii : isAscii character = true := decide_eq_true (by omega)
  rw [isDecimalDigit, if_pos ascii, Bool.eq_false_iff]
  intro digit
  have small := (code_of_isDigit digit).2
  omega

theorem isAscii_of_isDigit {character : Char} (digit : character.isDigit = true) :
    isAscii character = true := by
  have high := (code_of_isDigit digit).2
  exact decide_eq_true (by omega)

theorem isDecimalDigit_of_isDigit {character : Char} (digit : character.isDigit = true) :
    isDecimalDigit character = true := by
  rw [isDecimalDigit, if_pos (isAscii_of_isDigit digit), digit]

theorem isWord_of_isDigit {character : Char} (digit : character.isDigit = true) :
    isWord character = true := by
  rw [isWord, if_pos (isAscii_of_isDigit digit), Char.isAlphanum, digit, Bool.or_true,
    Bool.true_or]

/-- A character that is an ASCII letter in lower case is one as it stands. -/
theorem isAlpha_of_isAlpha_toLower {character : Char} (letter : character.toLower.isAlpha = true) :
    character.isAlpha = true := by
  by_cases capital : 65 ≤ character.val ∧ character.val ≤ 90
  · exact Bool.or_eq_true_iff.2 (Or.inl (decide_eq_true capital))
  · have same : character.toLower = character := dif_neg capital
    rwa [same] at letter

theorem not_isBlank_of_isDigit {character : Char} (digit : character.isDigit = true) :
    isBlank character = false :=
  not_isBlank_of_isWord (isWord_of_isDigit digit)

end Character

end Intake
