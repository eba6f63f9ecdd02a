import Intake.Bytewise.Scope
import Intake.Proofs.Text.Runs
import Intake.Proofs.Time.RoundTrip

/-!
# Digits in groups

A number with a fixed count of places is written with the digits of its magnitude, rounded to that
many places. The digits before the point are cut into groups of three from the right, so that the
first group has one to three digits; they are neither changed nor lost. A sign stands in front of
them exactly if the number is negative and is not written with zeros alone.
-/

namespace Intake

namespace JsonNumeral

theorem isTidy_iff {digits : List Char} :
    isTidy digits = true ↔ digits ≠ [] ∧ ∀ rest, digits = '0' :: rest → rest = [] := by
  rcases digits with _ | ⟨first, _ | ⟨second, rest⟩⟩
  · simp [isTidy]
  · simp [isTidy]
  · by_cases zero : first = '0' <;> simp [isTidy, zero]

theorem isTidy_take {digits : List Char} (tidy : isTidy digits = true) {count : Nat}
    (positive : 0 < count) : isTidy (digits.take count) = true := by
  obtain ⟨started, noZero⟩ := isTidy_iff.1 tidy
  obtain ⟨first, others, rfl⟩ := List.exists_cons_of_ne_nil started
  obtain ⟨count, rfl⟩ := Nat.exists_eq_add_one.2 positive
  rw [List.take_succ_cons, isTidy_iff]
  refine ⟨List.cons_ne_nil _ _, ?_⟩
  intro rest same
  obtain ⟨rfl, rfl⟩ := List.cons.inj same
  rw [noZero others rfl, List.take_nil]

end JsonNumeral

namespace Timestamp

theorem lt_length_padded (width value : Nat) : width < (padded (width + 1) value).length := by
  rw [padded, List.length_append, List.length_replicate]
  omega

/-- In front of so many digits stands a single zero, or a digit that is none. -/
theorem isTidy_take_padded (width value : Nat) :
    JsonNumeral.isTidy
      ((padded (width + 1) value).take ((padded (width + 1) value).length - width)) = true := by
  have long := lt_length_padded width value
  by_cases short : (Decimal.digits value).length ≤ width
  · obtain ⟨zeros, filled⟩ : ∃ zeros, width + 1 - (Decimal.digits value).length = zeros + 1 :=
      ⟨width - (Decimal.digits value).length, by omega⟩
    have one : (padded (width + 1) value).length - width = 1 := by
      rw [padded, List.length_append, List.length_replicate]
      omega
    rw [one, padded, filled, List.replicate_succ]
    rfl
  · have noZeros : width + 1 - (Decimal.digits value).length = 0 := by omega
    have plain : padded (width + 1) value = Decimal.digits value := by
      rw [padded, noZeros]
      rfl
    rw [plain] at long ⊢
    apply JsonNumeral.isTidy_take (Decimal.isTidy_digits value)
    omega

end Timestamp

namespace Binary64

open Timestamp

/-- A magnitude as a count of the last of some places. -/
def countAt (number : Binary64) (places : Nat) : Nat :=
  roundQuotient .toEven (number.units * tenTo places) unitsPerOne

/-- Digits before and behind the point that write a magnitude with a number of places. -/
structure IsFixedPoint (number : Binary64) (places : Nat) (whole fraction : List Char) : Prop where
  tidy : JsonNumeral.isTidy whole = true
  digits : ∀ digit ∈ whole ++ fraction, digit.isDigit = true
  length : fraction.length = places
  value : Numeral.digitsValue (whole ++ fraction) = number.countAt places

theorem fixedPlaces_append (number : Binary64) (places : Nat) :
    (number.fixedPlaces places).1 ++ (number.fixedPlaces places).2 =
      padded (places + 1) (number.countAt places) :=
  List.take_append_drop _ _

theorem length_fraction (number : Binary64) (places : Nat) :
    (number.fixedPlaces places).2.length = places := by
  have long := lt_length_padded places (number.countAt places)
  change ((padded (places + 1) (number.countAt places)).drop
    ((padded (places + 1) (number.countAt places)).length - places)).length = places
  rw [List.length_drop]
  omega

theorem isFixedPoint_fixedPlaces (number : Binary64) (places : Nat) :
    IsFixedPoint number places (number.fixedPlaces places).1 (number.fixedPlaces places).2 where
  tidy := isTidy_take_padded places (number.countAt places)
  digits := by
    intro digit member
    rw [fixedPlaces_append] at member
    exact isDigit_of_mem_padded member
  length := number.length_fraction places
  value := by rw [fixedPlaces_append, digitsValue_padded]

end Binary64

namespace Grouped

/-- A first group of one to three digits and others of three that make up a run of digits. -/
structure IsGrouping (digits first : List Char) (others : List (List Char)) : Prop where
  flatten : first ++ others.flatten = digits
  first : 1 ≤ first.length ∧ first.length ≤ 3
  others : ∀ group ∈ others, group.length = 3

theorem length_flatten_of_three {groups : List (List Char)}
    (three : ∀ group ∈ groups, group.length = 3) : groups.flatten.length = 3 * groups.length := by
  induction groups with
  | nil => rfl
  | cons group groups ih =>
    rw [List.forall_mem_cons] at three
    rw [List.flatten_cons, List.length_append, three.1, ih three.2, List.length_cons]
    omega

namespace IsGrouping

variable {digits first : List Char} {others : List (List Char)}
  (grouping : IsGrouping digits first others)

include grouping

/-- The first group has three digits exactly if the count of digits is a multiple of three. -/
theorem length_first_iff : first.length = 3 ↔ digits.length % 3 = 0 := by
  have length : digits.length = first.length + 3 * others.length := by
    rw [← grouping.flatten, List.length_append, length_flatten_of_three grouping.others]
  have bounds := grouping.first
  omega

theorem start_group (digit : Char) (full : first.length = 3) :
    IsGrouping (digit :: digits) [digit] (first :: others) where
  flatten := by rw [← grouping.flatten]; rfl
  first := ⟨Nat.le_refl 1, by simp⟩
  others := List.forall_mem_cons.2 ⟨full, grouping.others⟩

theorem grow_first (digit : Char) (room : first.length ≠ 3) :
    IsGrouping (digit :: digits) (digit :: first) others where
  flatten := by rw [← grouping.flatten]; rfl
  first := by
    have bounds := grouping.first
    rw [List.length_cons]
    omega
  others := grouping.others

end IsGrouping

/-- What is written are the groups, with the separator between them. -/
theorem exists_grouping (separator : List Char) {digits : List Char} (any : digits ≠ []) :
    ∃ first others, IsGrouping digits first others ∧
      groups separator digits = Text.joined separator (first :: others) := by
  induction digits with
  | nil => exact absurd rfl any
  | cons digit rest ih =>
    by_cases last : rest = []
    · subst last
      exact ⟨[digit], [], ⟨rfl, ⟨Nat.le_refl 1, by simp⟩, by simp⟩, by simp [groups, Text.joined]⟩
    · obtain ⟨first, others, grouping, written⟩ := ih last
      rw [groups, written]
      by_cases full : rest.length % 3 = 0
      · refine ⟨_, _, grouping.start_group digit (grouping.length_first_iff.2 full), ?_⟩
        rw [if_pos ⟨last, full⟩]
        rfl
      · have room := mt grouping.length_first_iff.1 full
        refine ⟨_, _, grouping.grow_first digit room, ?_⟩
        rw [if_neg fun both => full both.2]
        cases others <;> rfl

example : groups [','] "1234567".toList = "1,234,567".toList := by
  decide

/-- Whether a number has a sign when it is written with some digits. -/
def IsSigned (number : Binary64) (digits : List Char) : Prop :=
  number.signedUnits < 0 ∧ ∃ digit ∈ digits, digit ≠ '0'

theorem isSigned_iff {number : Binary64} {digits : List Char} :
    IsSigned number digits ↔ (number.signedUnits < 0 && !digits.all (· == '0')) = true := by
  simp [IsSigned]

instance (number : Binary64) (digits : List Char) : Decidable (IsSigned number digits) :=
  decidable_of_iff _ isSigned_iff.symm

theorem format_eq (number : Binary64) (places : Nat) (point separator : List Char) :
    format number places point separator =
      (if IsSigned number ((number.fixedPlaces places).1 ++ (number.fixedPlaces places).2) then
          ['-']
        else []) ++
        (groups separator (number.fixedPlaces places).1 ++
          if places = 0 then [] else point ++ (number.fixedPlaces places).2) := by
  simp only [isSigned_iff]
  rfl

end Grouped

namespace Bytewise

open Grouped

/-- A number is written with a sign if it is negative and not written with zeros alone, with the
digits before the point of its magnitude in groups of three, and with the digits behind the point
if there are any. -/
theorem format_in_groups {places : Nat} (writable : places ≤ placesLimit) (number : Binary64)
    (point separator : List Char) :
    ∃ whole fraction first others,
      number.fixedPlaces places = (whole, fraction) ∧ number.IsFixedPoint places whole fraction ∧
        IsGrouping whole first others ∧
        format number places point separator =
          .ok ((if IsSigned number (whole ++ fraction) then ['-'] else []) ++
            (Text.joined separator (first :: others) ++
              if places = 0 then [] else point ++ fraction)) := by
  have fixed := number.isFixedPoint_fixedPlaces places
  obtain ⟨first, others, grouping, written⟩ :=
    exists_grouping separator (JsonNumeral.isTidy_iff.1 fixed.tidy).1
  refine ⟨_, _, first, others, rfl, fixed, grouping, ?_⟩
  rw [Bytewise.format, if_neg (Nat.not_lt.2 writable), Grouped.format_eq, written]
  rfl

theorem format_in_groups_balance :
    2 ≤ placesLimit ∧
      (⟨true, 2469135 * twoTo 1073⟩ : Binary64).fixedPlaces 2 = ("1234567".toList, "50".toList) ∧
      ∃ first others, IsGrouping "1234567".toList first others ∧
        format ⟨true, 2469135 * twoTo 1073⟩ 2 ['.'] [','] =
          .ok ('-' :: (Text.joined [','] (first :: others) ++ ".50".toList)) := by
  have writable : 2 ≤ placesLimit := by decide
  have fixed : (⟨true, 2469135 * twoTo 1073⟩ : Binary64).fixedPlaces 2 =
      ("1234567".toList, "50".toList) := by
    decide +kernel
  have signed : IsSigned ⟨true, 2469135 * twoTo 1073⟩ ("1234567".toList ++ "50".toList) := by
    have positive : ∀ power, 0 < twoTo power := fun power => Nat.two_pow_pos power
    refine ⟨?_, '1', by simp, by decide⟩
    change -((2469135 * twoTo 1073 : Nat) : Int) < 0
    have units := positive 1073
    omega
  obtain ⟨whole, fraction, first, others, same, -, grouping, written⟩ :=
    format_in_groups writable ⟨true, 2469135 * twoTo 1073⟩ ['.'] [',']
  obtain ⟨rfl, rfl⟩ := Prod.mk.inj (same.symm.trans fixed)
  refine ⟨writable, fixed, first, others, grouping, ?_⟩
  rw [written, if_pos signed, if_neg (by decide)]
  rfl

end Bytewise

end Intake
