import Intake.Bytewise.Slice
import Intake.Proofs.Text.Cuts
import Mathlib.Data.List.Basic

/-!
# Offsets of characters

A byte offset can be cut at exactly if some characters at the front of the text have that many bytes
together. The bytes of a character that takes several are all unlike those that take one, so a mark
that is one byte is found in the bytes of a text only where the text has it.
-/

namespace Intake

namespace Bytewise

section Sizes

@[simp] theorem bytes_nil : bytes [] = [] := rfl

@[simp] theorem bytes_cons (character : Char) (rest : List Char) :
    bytes (character :: rest) = String.utf8EncodeChar character ++ bytes rest := rfl

@[simp] theorem bytes_append (front back : List Char) :
    bytes (front ++ back) = bytes front ++ bytes back :=
  List.flatMap_append

@[simp] theorem size_nil : size [] = 0 := rfl

@[simp] theorem size_cons (character : Char) (rest : List Char) :
    size (character :: rest) = character.utf8Size + size rest := by
  simp [size]

@[simp] theorem size_append (front back : List Char) :
    size (front ++ back) = size front + size back := by
  simp [size]

end Sizes

section Cuts

/-- A text can be cut at an offset exactly if that is how many bytes some of its first characters
have. -/
theorem cut?_eq_some_iff {offset : Nat} {text front back : List Char} :
    cut? offset text = some (front, back) ↔ text = front ++ back ∧ size front = offset := by
  induction text generalizing offset front with
  | nil =>
    cases offset with
    | zero =>
      constructor
      · intro cut
        cases cut
        exact ⟨rfl, rfl⟩
      · rintro ⟨same, -⟩
        obtain ⟨rfl, rfl⟩ := List.append_eq_nil_iff.1 same.symm
        rfl
    | succ offset =>
      refine iff_of_false (by simp [cut?]) ?_
      rintro ⟨same, sized⟩
      obtain ⟨rfl, -⟩ := List.append_eq_nil_iff.1 same.symm
      cases sized
  | cons character rest ih =>
    have positive := character.utf8Size_pos
    cases offset with
    | zero =>
      constructor
      · intro cut
        cases cut
        exact ⟨rfl, rfl⟩
      · rintro ⟨same, sized⟩
        cases front with
        | nil => rw [cut?, same, List.nil_append]
        | cons first others =>
          have first := first.utf8Size_pos
          rw [size_cons] at sized
          omega
    | succ offset =>
      rw [cut?]
      constructor
      · intro cut
        split at cut
        · obtain ⟨⟨before, after⟩, found, same⟩ := Option.map_eq_some_iff.1 cut
          cases same
          obtain ⟨rfl, sized⟩ := ih.1 found
          rw [size_cons, sized]
          exact ⟨rfl, by omega⟩
        · cases cut
      · rintro ⟨same, sized⟩
        cases front with
        | nil => cases sized
        | cons first others =>
          rw [List.cons_append, List.cons.injEq] at same
          obtain ⟨rfl, rfl⟩ := same
          rw [size_cons] at sized
          rw [if_pos (by omega), ih.2 ⟨rfl, by omega⟩, Option.map_some]

/-- A slice is taken exactly if characters lie between its offsets, and then it is those. -/
theorem slice_eq_ok_iff {start stop : Nat} {text part : List Char} :
    slice start stop text = .ok part ↔
      ∃ front back, text = front ++ (part ++ back) ∧ size front = start ∧
        size front + size part = stop := by
  rw [slice]
  constructor
  · intro found
    split at found
    · next whole back cutStop =>
      split at found
      · next front inner cutStart =>
        cases found
        obtain ⟨rfl, sizeWhole⟩ := cut?_eq_some_iff.1 cutStop
        obtain ⟨rfl, sizeFront⟩ := cut?_eq_some_iff.1 cutStart
        exact ⟨front, back, by rw [List.append_assoc], sizeFront, by
          rw [← size_append, sizeWhole]⟩
      · cases found
    · cases found
  · rintro ⟨front, back, rfl, sizeFront, sizeWhole⟩
    have cutStop : cut? stop (front ++ (part ++ back)) = some (front ++ part, back) :=
      cut?_eq_some_iff.2 ⟨by rw [List.append_assoc], by rw [size_append, sizeWhole]⟩
    have cutStart : cut? start (front ++ part) = some (front, part) :=
      cut?_eq_some_iff.2 ⟨rfl, sizeFront⟩
    rw [cutStop]
    simp only [cutStart]

theorem slice_append {start stop : Nat} {front part : List Char} (starts : start = size front)
    (stops : stop = size front + size part) (back : List Char) :
    slice start stop (front ++ (part ++ back)) = .ok part :=
  slice_eq_ok_iff.2 ⟨front, back, rfl, starts.symm, stops.symm⟩

theorem slice_zero {stop : Nat} {part : List Char} (stops : stop = size part)
    (back : List Char) : slice 0 stop (part ++ back) = .ok part :=
  slice_eq_ok_iff.2 ⟨[], back, rfl, rfl, by rw [stops, size_nil, Nat.zero_add]⟩

theorem sliceFrom_append {start : Nat} {front : List Char} (starts : start = size front)
    (back : List Char) : sliceFrom start (front ++ back) = .ok back :=
  slice_eq_ok_iff.2 ⟨front, [], by rw [List.append_nil], starts.symm, by rw [size_append]⟩

/-- What stands between a first and a last character of one byte each. -/
theorem slice_inner {first last : Char} (narrowFirst : first.utf8Size = 1)
    (narrowLast : last.utf8Size = 1) (inside : List Char) :
    slice 1 (size (first :: (inside ++ [last])) - 1) (first :: (inside ++ [last])) =
      .ok inside := by
  refine slice_eq_ok_iff.2 ⟨[first], [last], rfl, ?_, ?_⟩
  · simp [narrowFirst]
  · simp only [size_cons, size_append, size_nil]
    omega

end Cuts

section Marks

/-- A character of one byte is that byte, and the bytes of any other are larger than such. -/
theorem encoded_cases (character : Char) :
    (character.utf8Size = 1 ∧ String.utf8EncodeChar character = [character.toUInt8]) ∨
      (character.utf8Size ≠ 1 ∧ ∀ byte ∈ String.utf8EncodeChar character, 128 ≤ byte) := by
  by_cases narrow : character.utf8Size = 1
  · exact Or.inl ⟨narrow, String.utf8EncodeChar_eq_singleton narrow⟩
  · refine Or.inr ⟨narrow, ?_⟩
    have wide : ¬ character.val.toNat ≤ 127 := fun small =>
      narrow (Char.utf8Size_eq_one_iff.2 (UInt32.le_iff_toNat_le.2 small))
    simp only [String.utf8EncodeChar, if_neg wide]
    repeat' split
    all_goals
      simp only [List.forall_mem_cons, List.not_mem_nil, false_implies, implies_true, and_true,
        UInt8.le_iff_toNat_le, UInt8.toNat_ofNat', UInt8.toNat_ofNat]
      omega

theorem encoded_ne_nil (character : Char) : String.utf8EncodeChar character ≠ [] := by
  rw [← List.length_pos_iff, String.length_utf8EncodeChar]
  exact character.utf8Size_pos

theorem toUInt8_lt {character : Char} (narrow : character.utf8Size = 1) :
    character.toUInt8 < 128 := by
  have small := UInt32.le_iff_toNat_le.1 (Char.utf8Size_eq_one_iff.1 narrow)
  rw [UInt8.lt_iff_toNat_lt, Char.toUInt8, UInt32.toNat_toUInt8]
  exact Nat.lt_of_le_of_lt (Nat.mod_le _ _) (Nat.lt_succ_of_le small)

theorem toUInt8_inj {first second : Char} (narrowFirst : first.utf8Size = 1)
    (narrowSecond : second.utf8Size = 1) :
    first.toUInt8 = second.toUInt8 ↔ first = second := by
  refine ⟨fun same => ?_, fun same => by rw [same]⟩
  have smallFirst := UInt32.le_iff_toNat_le.1 (Char.utf8Size_eq_one_iff.1 narrowFirst)
  have smallSecond := UInt32.le_iff_toNat_le.1 (Char.utf8Size_eq_one_iff.1 narrowSecond)
  have values := congrArg UInt8.toNat same
  simp only [Char.toUInt8, UInt32.toNat_toUInt8] at values
  have bound : (127 : UInt32).toNat = 127 := rfl
  rw [bound] at smallFirst smallSecond
  apply Char.ext
  apply UInt32.toNat_inj.1
  omega

theorem ne_toUInt8_of_le {byte : UInt8} {mark : Char} (large : 128 ≤ byte)
    (narrow : mark.utf8Size = 1) : byte ≠ mark.toUInt8 := by
  rintro rfl
  exact absurd (toUInt8_lt narrow) (UInt8.not_lt.2 large)

variable {mark : Char} (narrow : mark.utf8Size = 1)

include narrow

/-- A text starts with a mark of one byte exactly if its bytes start with that one. -/
theorem head?_bytes_eq_some_iff (text : List Char) :
    (bytes text).head? = some mark.toUInt8 ↔ text.head? = some mark := by
  cases text with
  | nil => simp
  | cons character rest =>
    rw [bytes_cons]
    rcases encoded_cases character with ⟨same, encoded⟩ | ⟨wide, large⟩
    · rw [encoded]
      simpa using toUInt8_inj same narrow
    · refine iff_of_false ?_ ?_
      · intro head
        rw [List.head?_append_of_ne_nil _ (encoded_ne_nil character)] at head
        exact ne_toUInt8_of_le (large _ (List.mem_of_head? head)) narrow rfl
      · rintro ⟨rfl⟩
        exact wide narrow

theorem getLast?_bytes_eq_some_iff (text : List Char) :
    (bytes text).getLast? = some mark.toUInt8 ↔ text.getLast? = some mark := by
  rcases List.eq_nil_or_concat' text with rfl | ⟨start, character, rfl⟩
  · simp
  · rw [bytes_append, bytes_cons, bytes_nil, List.append_nil, List.getLast?_concat]
    rcases encoded_cases character with ⟨same, encoded⟩ | ⟨wide, large⟩
    · rw [encoded, List.getLast?_concat]
      simpa using toUInt8_inj same narrow
    · refine iff_of_false ?_ ?_
      · intro last
        rw [List.getLast?_append_of_ne_nil _ (encoded_ne_nil character)] at last
        exact ne_toUInt8_of_le (large _ (List.mem_of_getLast? last)) narrow rfl
      · rintro ⟨rfl⟩
        exact wide narrow

end Marks

end Bytewise

end Intake
