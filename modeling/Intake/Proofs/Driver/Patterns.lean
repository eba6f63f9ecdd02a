import Intake.Driver.Identifier
import Intake.Proofs.Text.Cuts
import Mathlib.Computability.Language

/-!
# Versions and type identifiers as languages

Both shapes are regular. A version is two or three runs of digits with points between them. A type
identifier is a chain of names with separators between them, and a backslash may stand in front.
The two checks accept exactly the texts of these languages.
-/

namespace Intake

namespace Identifier

open Text
open scoped Computability

/-- The texts of one character of a class. -/
def single (isMember : Char → Bool) : Language Char :=
  {text | ∃ character, isMember character = true ∧ text = [character]}

def numberPattern : Language Char :=
  single Character.isDecimalDigit * (single Character.isDecimalDigit)∗

def versionPattern : Language Char :=
  numberPattern * {['.']} * numberPattern * (1 + {['.']} * numberPattern)

def namePattern : Language Char :=
  single startsName * (single continuesName)∗

def separator : Language Char :=
  {['\\']} + {[':', ':']}

/-- Names with separators between them. -/
def chainPattern : Language Char :=
  namePattern * (separator * namePattern)∗

def identifierPattern : Language Char :=
  (1 + {['\\']}) * chainPattern

section Single

variable {isMember : Char → Bool} {language : Language Char}

theorem cons_mem_single_mul {character : Char} {rest : List Char} :
    character :: rest ∈ single isMember * language ↔
      isMember character = true ∧ rest ∈ language := by
  rw [Language.mem_mul]
  constructor
  · rintro ⟨_, ⟨first, member, rfl⟩, others, inside, same⟩
    obtain ⟨rfl, rfl⟩ := List.cons.inj same
    exact ⟨member, inside⟩
  · rintro ⟨member, inside⟩
    exact ⟨[character], ⟨character, member, rfl⟩, rest, inside, rfl⟩

theorem nil_not_mem_single_mul : [] ∉ single isMember * language := by
  rw [Language.mem_mul]
  rintro ⟨_, ⟨first, -, rfl⟩, others, -, same⟩
  cases same

/-- The words over a class are the texts with all characters in it. -/
theorem mem_kstar_single {text : List Char} :
    text ∈ (single isMember)∗ ↔ ∀ character ∈ text, isMember character = true := by
  induction text with
  | nil => simp [Language.nil_mem_kstar]
  | cons character rest ih =>
    rw [← Language.one_add_self_mul_kstar_eq_kstar, Language.mem_add, Language.mem_one,
      cons_mem_single_mul, ih, List.forall_mem_cons]
    simp

theorem mem_singleton_mul {front text : List Char} :
    text ∈ {front} * language ↔ ∃ rest ∈ language, text = front ++ rest := by
  rw [Language.mem_mul]
  constructor
  · rintro ⟨_, rfl, rest, inside, rfl⟩
    exact ⟨rest, inside, rfl⟩
  · rintro ⟨rest, inside, rfl⟩
    exact ⟨front, rfl, rest, inside, rfl⟩

end Single

/-- What may follow a name that was begun. -/
def restPattern : Language Char :=
  (single continuesName)∗ * (separator * namePattern)∗

theorem chainPattern_eq : chainPattern = single startsName * restPattern := by
  rw [chainPattern, restPattern, ← mul_assoc, ← namePattern]

/-- A name that was begun ends with the text or with a separator, or it goes on. -/
theorem restPattern_eq :
    restPattern = 1 + separator * chainPattern + single continuesName * restPattern := by
  have links : (separator * namePattern)∗ = 1 + separator * chainPattern := by
    rw [chainPattern, ← mul_assoc, Language.one_add_self_mul_kstar_eq_kstar]
  calc
    restPattern =
        (1 + single continuesName * (single continuesName)∗) * (separator * namePattern)∗ := by
      rw [Language.one_add_self_mul_kstar_eq_kstar, restPattern]
    _ = (separator * namePattern)∗ + single continuesName * restPattern := by
      rw [add_mul, one_mul, mul_assoc, restPattern]
    _ = _ := by rw [links]

theorem mem_separator_mul {language : Language Char} {text : List Char} :
    text ∈ separator * language ↔
      ∃ rest ∈ language, text = '\\' :: rest ∨ text = ':' :: ':' :: rest := by
  rw [separator, add_mul, Language.mem_add, mem_singleton_mul, mem_singleton_mul]
  constructor
  · rintro (⟨rest, inside, same⟩ | ⟨rest, inside, same⟩)
    · exact ⟨rest, inside, Or.inl same⟩
    · exact ⟨rest, inside, Or.inr same⟩
  · rintro ⟨rest, inside, same | same⟩
    · exact Or.inl ⟨rest, inside, same⟩
    · exact Or.inr ⟨rest, inside, same⟩

theorem nil_mem_restPattern : [] ∈ restPattern := by
  rw [restPattern_eq]
  exact Or.inl (Or.inl rfl)

theorem cons_mem_restPattern {character : Char} {rest : List Char} :
    character :: rest ∈ restPattern ↔
      (∃ others ∈ chainPattern, character :: rest = '\\' :: others ∨
        character :: rest = ':' :: ':' :: others) ∨
      continuesName character = true ∧ rest ∈ restPattern := by
  conv_lhs => rw [restPattern_eq]
  rw [Language.mem_add, Language.mem_add, Language.mem_one, mem_separator_mul, cons_mem_single_mul]
  simp only [reduceCtorEq, false_or]

/-- What the check of a chain accepts: a chain, or the rest of one in which a name was begun. -/
theorem isChain_iff (atStart : Bool) (text : List Char) :
    isChain atStart text = true ↔ text ∈ if atStart then chainPattern else restPattern := by
  have colon : startsName ':' = false ∧ continuesName ':' = false := by decide
  have backslash : continuesName '\\' = false := by decide
  fun_induction isChain atStart text with
  | case1 atStart =>
    cases atStart with
    | false => simpa using nil_mem_restPattern
    | true => simpa [chainPattern_eq] using nil_not_mem_single_mul
  | case2 atStart rest ih =>
    simp only [↓reduceIte] at ih
    cases atStart with
    | false => simp [cons_mem_restPattern, colon.2, ih]
    | true => simp [chainPattern_eq, cons_mem_single_mul, colon.1]
  | case3 character rest noColons ih =>
    simp only [Bool.false_eq_true, ↓reduceIte] at ih
    simp [chainPattern_eq, cons_mem_single_mul, ih]
  | case4 atStart rest notStart _ ih =>
    simp only [↓reduceIte] at ih
    simp [notStart, cons_mem_restPattern, backslash, ih]
  | case5 atStart character rest noColons notStart different ih =>
    simp only [Bool.false_eq_true, ↓reduceIte] at ih
    have noSeparator : ∀ others, ¬ (character :: rest = '\\' :: others ∨
        character :: rest = ':' :: ':' :: others) := by
      rintro others (same | same)
      · exact different (List.cons.inj same).1
      · exact noColons others (List.cons.inj same).1 (List.cons.inj same).2
    simp [notStart, cons_mem_restPattern, noSeparator, ih, -List.cons.injEq]

/-- The check of type identifiers accepts exactly the language of them. -/
theorem isIdentifier_iff {text : List Char} :
    isIdentifier text = true ↔ text ∈ identifierPattern := by
  have chains (rest : List Char) : isChain true rest = true ↔ rest ∈ chainPattern :=
    isChain_iff true rest
  have backslash : startsName '\\' = false := by decide
  rw [identifierPattern, add_mul, one_mul, Language.mem_add, mem_singleton_mul]
  unfold isIdentifier
  split
  · next rest =>
    have notChain : '\\' :: rest ∉ chainPattern := by
      simp [chainPattern_eq, cons_mem_single_mul, backslash]
    simp [chains, notChain]
  · next other =>
    rw [chains]
    refine ⟨Or.inl, ?_⟩
    rintro (chain | ⟨rest, -, same⟩)
    · exact chain
    · exact absurd same (other rest)

theorem mem_numberPattern {text : List Char} :
    text ∈ numberPattern ↔
      text ≠ [] ∧ ∀ digit ∈ text, Character.isDecimalDigit digit = true := by
  cases text with
  | nil => simpa [numberPattern] using nil_not_mem_single_mul
  | cons first others =>
    rw [numberPattern, cons_mem_single_mul, mem_kstar_single, List.forall_mem_cons]
    simp

/-- A version has two or three numbers. -/
theorem mem_versionPattern {text : List Char} :
    text ∈ versionPattern ↔
      ∃ major ∈ numberPattern, ∃ minor ∈ numberPattern,
        text = major ++ '.' :: minor ∨
          ∃ patch ∈ numberPattern, text = major ++ '.' :: (minor ++ '.' :: patch) := by
  simp only [versionPattern, mul_assoc, mul_add, mul_one, Language.mem_add, Language.mem_mul]
  constructor
  · rintro (⟨major, isMajor, _, ⟨_, rfl, minor, isMinor, rfl⟩, rfl⟩ |
      ⟨major, isMajor, _, ⟨_, rfl, _, ⟨minor, isMinor, _, ⟨_, rfl, patch, isPatch, rfl⟩, rfl⟩, rfl⟩,
        rfl⟩)
    · exact ⟨major, isMajor, minor, isMinor, Or.inl rfl⟩
    · exact ⟨major, isMajor, minor, isMinor, Or.inr ⟨patch, isPatch, rfl⟩⟩
  · rintro ⟨major, isMajor, minor, isMinor, rfl | ⟨patch, isPatch, rfl⟩⟩
    · exact Or.inl ⟨major, isMajor, _, ⟨_, rfl, minor, isMinor, rfl⟩, rfl⟩
    · exact Or.inr ⟨major, isMajor, _, ⟨_, rfl, _, ⟨minor, isMinor, _,
        ⟨_, rfl, patch, isPatch, rfl⟩, rfl⟩, rfl⟩, rfl⟩

theorem point_not_mem {number : List Char} (inside : number ∈ numberPattern) : '.' ∉ number := by
  intro member
  have point : Character.isDecimalDigit '.' = false := by decide
  rw [(mem_numberPattern.1 inside).2 '.' member] at point
  cases point

/-- The check of versions accepts exactly the language of them. -/
theorem isVersion_iff {text : List Char} : isVersion text = true ↔ text ∈ versionPattern := by
  have numbers (parts : List (List Char)) :
      (parts.all fun part => !part.isEmpty && part.all Character.isDecimalDigit) = true ↔
        ∀ part ∈ parts, part ∈ numberPattern := by
    simp [mem_numberPattern]
  rw [mem_versionPattern, isVersion, Bool.and_eq_true, numbers, Bool.or_eq_true, beq_iff_eq,
    beq_iff_eq]
  constructor
  · rintro ⟨two | three, inside⟩
    · have whole := joined_pieces '.' text
      obtain ⟨major, minor, parts⟩ := List.length_eq_two.1 two
      rw [parts] at inside whole
      refine ⟨major, inside _ (by simp), minor, inside _ (by simp), Or.inl ?_⟩
      simpa [joined] using whole.symm
    · have whole := joined_pieces '.' text
      obtain ⟨major, minor, patch, parts⟩ := List.length_eq_three.1 three
      rw [parts] at inside whole
      refine ⟨major, inside _ (by simp), minor, inside _ (by simp),
        Or.inr ⟨patch, inside _ (by simp), ?_⟩⟩
      simpa [joined] using whole.symm
  · rintro ⟨major, isMajor, minor, isMinor, rfl | ⟨patch, isPatch, rfl⟩⟩
    · rw [pieces_append_of_not_mem (point_not_mem isMajor),
        pieces_of_not_mem (point_not_mem isMinor)]
      simp [isMajor, isMinor]
    · rw [pieces_append_of_not_mem (point_not_mem isMajor),
        pieces_append_of_not_mem (point_not_mem isMinor), pieces_of_not_mem (point_not_mem isPatch)]
      simp [isMajor, isMinor, isPatch]

end Identifier

end Intake
