import Intake.Bytewise.Block
import Intake.Proofs.Bytewise.Slice

/-!
# Slices of templates

The search for the end of a block by bytes stops where the one by characters does: a character that
takes several bytes changes nothing that the search remembers. So every offset at which a template
is sliced lies between characters, and the slices are the segments of the template.
-/

namespace Intake

theorem Nesting.narrow_of_isQuote {mark : Char} (quote : isQuote mark = true) :
    mark.utf8Size = 1 := by
  simp only [isQuote, Bool.or_eq_true, beq_iff_eq] at quote
  rcases quote with rfl | rfl <;> rfl

namespace Block

/-- A character of several bytes is passed over. -/
theorem endingFrom_of_wide {depth : Nat} {quote previous : Option Char} {character : Char}
    (wide : character.utf8Size ≠ 1) (inQuote : ∀ open' ∈ quote, Nesting.isQuote open' = true)
    (rest : List Char) :
    endingFrom depth quote previous (character :: rest) =
      (endingFrom depth quote (some character) rest).cons character := by
  have unlike (mark : Char) (narrow : mark.utf8Size = 1) : character ≠ mark := by
    rintro rfl
    exact wide narrow
  cases quote with
  | some open' =>
    have differs := unlike _ (Nesting.narrow_of_isQuote (inQuote open' rfl))
    simp [endingFrom, differs]
  | none =>
    have unquoted : Nesting.isQuote character = false := by
      rw [Bool.eq_false_iff]
      exact fun quote => wide (Nesting.narrow_of_isQuote quote)
    simp [endingFrom, unquoted, unlike '{' rfl, unlike '}' rfl]

/-- Outside quotes, one case after the other. -/
theorem endingFrom_none (depth : Nat) (previous : Option Char) (character : Char)
    (rest : List Char) :
    endingFrom depth none previous (character :: rest) =
      if Nesting.isQuote character then
        (endingFrom depth (some character) (some character) rest).cons character
      else if character = '{' then
        (endingFrom (depth + 1) none (some character) rest).cons character
      else if character = '}' ∧ 0 < depth then
        (endingFrom (depth - 1) none (some character) rest).cons character
      else if character = '}' ∧ rest.head? = some '}' then .found [] rest.tail
      else (endingFrom depth none (some character) rest).cons character := by
  rw [endingFrom]
  by_cases quoted : Nesting.isQuote character = true
  · have unlike (mark : Char) (plain : Nesting.isQuote mark = false) : character ≠ mark := by
      rintro rfl
      simp [quoted] at plain
    simp [quoted, unlike '{' rfl, unlike '}' rfl]
  · by_cases closing : character = '}'
    · subst closing
      cases depth <;> simp [quoted]
    · simp only [quoted, closing, false_and, if_false, Bool.false_eq_true]
      split <;> rfl

theorem eq_of_endingFrom {depth : Nat} {quote previous : Option Char} {text inside rest : List Char}
    (found : endingFrom depth quote previous text = .found inside rest) :
    text = inside ++ '}' :: '}' :: rest := by
  induction text generalizing depth quote previous inside with
  | nil => cases found
  | cons character others ih =>
    have step : ∀ {ending : Ending}, ending.cons character = .found inside rest →
        (∀ {inside}, ending = .found inside rest → others = inside ++ '}' :: '}' :: rest) →
        character :: others = inside ++ '}' :: '}' :: rest := by
      intro ending ends behind
      cases ending with
      | found before after =>
        cases ends
        rw [List.cons_append, ← behind rfl]
      | missing inQuote => cases ends
    unfold endingFrom at found
    split at found
    · exact step found fun {_} => ih
    · split at found
      · next closes =>
        obtain ⟨rfl, -, next⟩ := closes
        obtain ⟨after, rfl⟩ := List.head?_eq_some_iff.1 next
        cases found
        rfl
      · exact step found fun {_} => ih

theorem eq_of_split? {text inside rest : List Char} (found : split? text = some (inside, rest)) :
    text = inside ++ '}' :: '}' :: rest := by
  rw [split?] at found
  split at found
  · next ended =>
    cases found
    exact eq_of_endingFrom ended
  · exact Text.eq_of_splitOnce? found
  · cases found

end Block

namespace Bytewise

/-- The ending that a search by characters finds, by its offset. -/
def Ending.at (offset : Nat) : Block.Ending → Ending
  | .found inside _ => .found (offset + size inside)
  | .missing inQuote => .missing inQuote

theorem Ending.at_cons (offset : Nat) (character : Char) (ending : Block.Ending) :
    Ending.at offset (ending.cons character) = Ending.at (offset + character.utf8Size) ending := by
  cases ending with
  | found inside rest => simp [Ending.at, Block.Ending.cons, Nat.add_assoc]
  | missing inQuote => rfl

theorem isQuote_toUInt8 {character : Char} (narrow : character.utf8Size = 1) :
    isQuote character.toUInt8 = Nesting.isQuote character := by
  rw [Bool.eq_iff_iff]
  simp only [isQuote, Nesting.isQuote, Bool.or_eq_true, beq_iff_eq]
  rw [toUInt8_inj narrow rfl, toUInt8_inj narrow rfl]

/-- Bytes that are larger than every mark are passed over. -/
theorem endingFrom_of_large {offset depth : Nat} {quote previous : Option UInt8}
    {front : List UInt8} (large : ∀ byte ∈ front, 128 ≤ byte)
    (inQuote : ∀ open' ∈ quote, open' < 128) (rest : List UInt8) :
    endingFrom offset depth quote previous (front ++ rest) =
      endingFrom (offset + front.length) depth quote (front.getLast?.or previous) rest := by
  induction front generalizing offset previous with
  | nil => rfl
  | cons byte others ih =>
    have largeByte : 128 ≤ byte := large byte List.mem_cons_self
    have behind :
        endingFrom (offset + 1) depth quote (some byte) (others ++ rest) =
          endingFrom (offset + 1 + others.length) depth quote (others.getLast?.or (some byte))
            rest :=
      ih fun other member => large other (List.mem_cons_of_mem _ member)
    have last : (byte :: others).getLast?.or previous = others.getLast?.or (some byte) := by
      rw [List.getLast?_cons]
      cases others.getLast? <;> rfl
    have count : offset + (byte :: others).length = offset + 1 + others.length := by
      rw [List.length_cons]
      omega
    rw [last, count, ← behind, List.cons_append]
    cases quote with
    | some open' =>
      have other : byte ≠ open' := by
        rintro rfl
        exact absurd (inQuote byte rfl) (UInt8.not_lt.2 largeByte)
      simp [endingFrom, other]
    | none =>
      have unlike (mark : Char) (narrow : mark.utf8Size = 1) : byte ≠ mark.toUInt8 :=
        ne_toUInt8_of_le largeByte narrow
      have unquoted : isQuote byte = false := by
        simp only [isQuote, Bool.or_eq_false_iff, beq_eq_false_iff_ne]
        exact ⟨unlike _ rfl, unlike _ rfl⟩
      simp [endingFrom, unquoted, unlike '{' rfl, unlike '}' rfl]

/-- The end of a block lies at the same place for the bytes of a text and for its characters. -/
theorem endingFrom_bytes {text : List Char} {offset depth : Nat} {quote previous : Option Char}
    {previousByte : Option UInt8} (inQuote : ∀ open' ∈ quote, Nesting.isQuote open' = true)
    (escaped : previousByte = some '\\'.toUInt8 ↔ previous = some '\\') :
    endingFrom offset depth (quote.map Char.toUInt8) previousByte (bytes text) =
      Ending.at offset (Block.endingFrom depth quote previous text) := by
  induction text generalizing offset depth quote previous previousByte with
  | nil => simp [endingFrom, Block.endingFrom, Ending.at]
  | cons character rest ih =>
    rw [bytes_cons]
    rcases encoded_cases character with ⟨narrow, encoded⟩ | ⟨wide, large⟩
    · have like (mark : Char) (narrowMark : mark.utf8Size = 1) :=
        toUInt8_inj narrow narrowMark
      have behind (depth : Nat) (quote : Option Char)
          (inQuote : ∀ open' ∈ quote, Nesting.isQuote open' = true) :
          endingFrom (offset + 1) depth (quote.map Char.toUInt8) (some character.toUInt8)
              (bytes rest) =
            Ending.at (offset + 1) (Block.endingFrom depth quote (some character) rest) :=
        ih inQuote (by simpa using like '\\' rfl)
      rw [encoded, List.singleton_append]
      cases quote with
      | some open' =>
        have narrowQuote := Nesting.narrow_of_isQuote (inQuote open' rfl)
        simp only [endingFrom, Block.endingFrom, Option.map_some, like _ narrowQuote, ne_eq,
          escaped, Ending.at_cons, narrow]
        split
        · exact behind depth none (by simp)
        · exact behind depth (some open') inQuote
      | none =>
        have next := head?_bytes_eq_some_iff (show '}'.utf8Size = 1 from rfl) rest
        rw [Block.endingFrom_none]
        simp only [endingFrom, Option.map_none, isQuote_toUInt8 narrow, like '{' rfl, like '}' rfl,
          next, apply_ite (Ending.at offset), Ending.at_cons, narrow]
        split_ifs with quoted
        · exact behind depth (some character) (by simpa using quoted)
        · exact behind (depth + 1) none (by simp)
        · exact behind (depth - 1) none (by simp)
        · rfl
        · exact behind depth none (by simp)
    · -- None of several bytes is a mark, so that only `previous` changes for them.
      have inQuoteByte : ∀ open' ∈ quote.map Char.toUInt8, open' < 128 := by
        intro byte member
        obtain ⟨mark, found, rfl⟩ := Option.map_eq_some_iff.1 member
        exact toUInt8_lt (Nesting.narrow_of_isQuote (inQuote mark found))
      have unescaped : (String.utf8EncodeChar character).getLast?.or previousByte =
          some '\\'.toUInt8 ↔ some character = some '\\' := by
        have last := List.getLast?_eq_some_getLast (encoded_ne_nil character)
        rw [last, Option.some_or]
        refine iff_of_false ?_ ?_
        · rw [Option.some.injEq]
          exact ne_toUInt8_of_le (large _ (List.getLast_mem _)) rfl
        · rintro ⟨rfl⟩
          exact wide rfl
      rw [endingFrom_of_large large inQuoteByte, String.length_utf8EncodeChar,
        ih inQuote unescaped, ← Ending.at_cons, Block.endingFrom_of_wide wide inQuote]

/-- A block ends behind its inside. -/
theorem blockEnd?_eq (text : List Char) :
    blockEnd? text = (Block.split? text).map fun parts => size parts.1 := by
  have located : endingFrom 0 0 (Option.map Char.toUInt8 none) none (bytes text) =
      Ending.at 0 (Block.endingFrom 0 none none text) :=
    endingFrom_bytes (by simp) (by simp)
  rw [Option.map_none] at located
  rw [blockEnd?, located, Block.split?]
  cases Block.endingFrom 0 none none text with
  | found inside rest => simp [Ending.at]
  | missing inQuote => cases inQuote <;> rfl

theorem size_braced (inside : List Char) :
    size ('{' :: '{' :: inside ++ ['}', '}']) = 2 + size inside + 2 := by
  have closing : size ['}', '}'] = 2 := rfl
  have opening : size ['{', '{'] = 2 := rfl
  have parts : '{' :: '{' :: inside ++ ['}', '}'] = ['{', '{'] ++ inside ++ ['}', '}'] := rfl
  rw [parts, size_append, size_append, opening, closing]

theorem blockSegment_eq (before inside rest : List Char) :
    blockSegment (size before) (size inside)
        (before ++ ('{' :: '{' :: (inside ++ '}' :: '}' :: rest))) inside =
      .ok (if Text.isBlankText inside then .literal ('{' :: '{' :: inside ++ ['}', '}'])
        else .block (Text.trim inside)) := by
  rw [blockSegment]
  by_cases blank : Text.isBlankText inside = true
  · have braced : slice (size before) (size before + 2 + size inside + 2)
        (before ++ (('{' :: '{' :: inside ++ ['}', '}']) ++ rest)) =
          .ok ('{' :: '{' :: inside ++ ['}', '}']) := by
      refine slice_append rfl ?_ rest
      rw [size_braced]
      omega
    rw [if_pos (Text.trim_of_blank blank), if_pos blank]
    simp only [List.cons_append, List.append_assoc, List.nil_append] at braced ⊢
    rw [braced]
    rfl
  · rw [if_neg fun empty => blank (Text.isBlankText_of_trim_eq_nil empty), if_neg blank]

section Segments

variable {template before after : List Char}
  (opened : Text.splitOnce? ['{', '{'] template = some (before, after))

include opened

theorem slice_before : slice 0 (size before) template = .ok before := by
  rw [Text.eq_of_splitOnce? opened]
  exact slice_zero rfl _

theorem sliceFrom_opening : sliceFrom (size before) template = .ok ('{' :: '{' :: after) := by
  rw [Text.eq_of_splitOnce? opened]
  exact sliceFrom_append rfl _

theorem sliceFrom_inside : sliceFrom (size before + 2) template = .ok after := by
  rw [Text.eq_of_splitOnce? opened, ← List.append_assoc]
  exact sliceFrom_append (size_append _ _).symm _

end Segments

/-- Every slice of a template is taken between characters, and the slices are its segments. -/
theorem segments_eq (template : List Char) :
    segments template = .ok (Block.segments template) := by
  fun_induction Block.segments template with
  | case1 template unopened =>
    rw [segments, find?, unopened]
    rfl
  | case2 template before after opened unclosed =>
    rw [segments, find?, opened]
    simp only [Option.map_some, slice_before opened, bind, Except.bind]
    split
    · next stopped => cases (sliceFrom_inside opened).symm.trans stopped
    · next found =>
      cases (sliceFrom_inside opened).symm.trans found
      rw [blockEnd?_eq, unclosed]
      simp only [Option.map_none, sliceFrom_opening opened]
      rw [Text.eq_of_splitOnce? opened]
      rfl
  | case3 template before after opened inside rest closed block ih =>
    have ended := Block.eq_of_split? closed
    rw [segments, find?, opened]
    simp only [Option.map_some, slice_before opened, bind, Except.bind]
    split
    · next stopped => cases (sliceFrom_inside opened).symm.trans stopped
    · next found =>
      cases (sliceFrom_inside opened).symm.trans found
      rw [blockEnd?_eq, closed]
      have whole : slice 0 (size inside) after = .ok inside := by
        rw [ended]
        exact slice_zero rfl _
      have behind : sliceFrom (size inside + 2) after = .ok rest := by
        rw [ended, List.append_cons, List.append_cons]
        exact sliceFrom_append (by rw [size_append, size_append]; rfl) rest
      have joined : template = before ++ '{' :: '{' :: after := Text.eq_of_splitOnce? opened
      have segment := blockSegment_eq before inside rest
      rw [← ended, ← joined] at segment
      simp only [Option.map_some, whole, segment]
      split
      · next stopped => cases behind.symm.trans stopped
      · next found =>
        cases behind.symm.trans found
        rw [ih]
        rfl

end Bytewise

end Intake
