import Intake.Json.Reader
import Intake.Proofs.Number.Digits
import Intake.Proofs.Value.Equality

/-!
# Reading back what was written

The compact text of a value is read back as that value, whatever stands behind it. For this the
value has to be a document, its numbers have to be integers of a word, and it may not nest deeper
than a reader goes. The steps that a reader takes are counted against the length of the text: every
item and every field takes at least one character for its end.
-/

namespace Intake

open Text

namespace Quoted

theorem codeUnit?_of_control :
    ∀ code < 32, codeUnit? '0' '0' (hexDigit (code / 16)) (hexDigit (code % 16)) = some code := by
  decide

/-- A character stands for itself, behind a backslash under a letter of its own, or by its code. -/
theorem escape_cases (character : Char) :
    (escape character = [character] ∧ 32 ≤ character.toNat ∧ character ≠ '"' ∧ character ≠ '\\') ∨
      (∃ mark, escape character = ['\\', mark] ∧ mark ≠ 'u' ∧
        simpleEscape? mark = some character) ∨
      (character.toNat < 32 ∧ escape character = ['\\', 'u', '0', '0',
        hexDigit (character.toNat / 16), hexDigit (character.toNat % 16)]) := by
  have lettered : ∀ other mark, character = other → escape other = ['\\', mark] → mark ≠ 'u' →
      simpleEscape? mark = some other → ∃ mark, escape character = ['\\', mark] ∧ mark ≠ 'u' ∧
        simpleEscape? mark = some character := by
    rintro other mark rfl escaped noCode letter
    exact ⟨mark, escaped, noCode, letter⟩
  by_cases quote : character = '"'
  · exact .inr (.inl (lettered _ '"' quote rfl (by decide) rfl))
  by_cases backslash : character = '\\'
  · exact .inr (.inl (lettered _ '\\' backslash rfl (by decide) rfl))
  by_cases visible : 32 ≤ character.toNat
  · refine .inl ⟨?_, visible, quote, backslash⟩
    rw [escape, if_neg quote, if_neg backslash, if_pos visible]
  by_cases line : character = '\n'
  · exact .inr (.inl (lettered _ 'n' line rfl (by decide) rfl))
  by_cases return_ : character = '\r'
  · exact .inr (.inl (lettered _ 'r' return_ rfl (by decide) rfl))
  by_cases tab : character = '\t'
  · exact .inr (.inl (lettered _ 't' tab rfl (by decide) rfl))
  by_cases back : character = '\x08'
  · exact .inr (.inl (lettered _ 'b' back rfl (by decide) rfl))
  by_cases feed : character = '\x0c'
  · exact .inr (.inl (lettered _ 'f' feed rfl (by decide) rfl))
  refine .inr (.inr ⟨Nat.lt_of_not_le visible, ?_⟩)
  rw [escape, if_neg quote, if_neg backslash, if_neg visible, if_neg line, if_neg return_,
    if_neg tab, if_neg back, if_neg feed]

theorem step?_escape (character : Char) (rest : List Char) :
    step? (escape character ++ rest) = some (.character character rest) := by
  rcases escape_cases character with ⟨same, visible, noQuote, noBackslash⟩ |
    ⟨mark, same, noCode, letter⟩ | ⟨control, same⟩
  · have shown : ¬ (character.toNat < 32 ∨ character = '\\') := by
      rw [not_or]
      exact ⟨by omega, noBackslash⟩
    rw [same, List.singleton_append, step?, if_neg shown]
    all_goals simp [noQuote, noBackslash]
  · rw [same, List.cons_append, List.singleton_append, step?, letter]
    · rfl
    · simp [noCode]
  · have high : isHighHalf character.toNat = false := by
      simp [isHighHalf]
      omega
    have low : isLowHalf character.toNat = false := by
      simp [isLowHalf]
      omega
    rw [same]
    simp only [List.cons_append, List.nil_append, step?, codeUnit?_of_control _ control,
      Option.bind_eq_bind, Option.bind_some, high, low, Char.ofNat_toNat]
    rfl

theorem escape_ne_nil (character : Char) : escape character ≠ [] := by
  rcases escape_cases character with ⟨same, -⟩ | ⟨mark, same, -⟩ | ⟨-, same⟩
  all_goals
    rw [same]
    exact List.cons_ne_nil _ _

theorem decodeSteps_escaped {fuel : Nat} {content : List Char} (enough : content.length < fuel)
    (rest : List Char) :
    decodeSteps fuel (content.flatMap escape ++ '"' :: rest) = some (content, rest) := by
  induction content generalizing fuel with
  | nil =>
    cases fuel with
    | zero => cases enough
    | succ fuel => rfl
  | cons character others ih =>
    cases fuel with
    | zero => cases enough
    | succ fuel =>
      rw [List.flatMap_cons, List.append_assoc, decodeSteps, step?_escape]
      simp only [ih (Nat.lt_of_succ_lt_succ enough), Option.map_some]

theorem length_le_escaped (content : List Char) :
    content.length ≤ (content.flatMap escape).length := by
  induction content with
  | nil => simp
  | cons character others ih =>
    have visible := List.length_pos_of_ne_nil (escape_ne_nil character)
    rw [List.flatMap_cons, List.length_append, List.length_cons]
    omega

/-- A text in quotes is read up to its closing quote. -/
theorem decode_escaped (content rest : List Char) :
    decode (content.flatMap escape ++ '"' :: rest) = some (content, rest) := by
  have longer := length_le_escaped content
  rw [decode]
  apply decodeSteps_escaped
  rw [List.length_append]
  omega

end Quoted

namespace Number

/-- Whether a number is an integer of a signed or an unsigned word. -/
def fitsWord : Number → Bool
  | integer value => decide (-(twoTo 63 : Int) ≤ value) && decide (value < twoTo 64)
  | float _ => false

end Number

namespace Value

def isFloatFreeLeaf : Value → Bool
  | number value => value.fitsWord
  | _ => true

/-- Whether all numbers in a value are integers of a word. -/
def isFloatFree : Value → Bool :=
  fold isFloatFreeLeaf (fun items => items.all id) fun fields => (Fields.contents fields).all id

theorem isFloatFree_array {items : List Value} :
    (array items).isFloatFree = true ↔ ∀ item ∈ items, item.isFloatFree = true := by
  simp [isFloatFree]

theorem isFloatFree_object {fields : Fields Value} :
    (object fields).isFloatFree = true ↔ ∀ field ∈ fields, field.2.isFloatFree = true := by
  simp [isFloatFree, Fields.contents]

/-- The levels of brackets in the text of a value. Other than in its depth, an empty collection has
one as well. -/
def nesting : Value → Nat :=
  fold (fun _ => 0) (fun levels => max 1 (levelsOver levels)) fun levels =>
    max 1 (levelsOver (Fields.contents levels))

theorem max_levelsOver_le_iff {levels : List Nat} {bound : Nat} :
    max 1 (levelsOver levels) ≤ bound + 1 ↔ ∀ level ∈ levels, level ≤ bound := by
  have deep : 1 ≤ bound + 1 := Nat.le_add_left 1 bound
  rw [Nat.max_le, and_iff_right deep, levelsOver_le_iff]
  exact forall₂_congr fun level _ => Nat.lt_succ_iff

theorem nesting_array_le_iff {items : List Value} {bound : Nat} :
    (array items).nesting ≤ bound + 1 ↔ ∀ item ∈ items, item.nesting ≤ bound := by
  rw [nesting, fold_array, max_levelsOver_le_iff, List.forall_mem_map]

theorem nesting_object_le_iff {fields : Fields Value} {bound : Nat} :
    (object fields).nesting ≤ bound + 1 ↔ ∀ field ∈ fields, field.2.nesting ≤ bound := by
  rw [nesting, fold_object, max_levelsOver_le_iff, Fields.contents, List.map_map,
    List.forall_mem_map]
  rfl

theorem not_nesting_array_le_zero (items : List Value) : ¬ (array items).nesting ≤ 0 := by
  simp [nesting]

theorem not_nesting_object_le_zero (fields : Fields Value) : ¬ (object fields).nesting ≤ 0 := by
  simp [nesting]

theorem compactText_integer (value : Int) :
    compactText (.number (.integer value)) = Decimal.ofInt value :=
  rfl

theorem compactText_text (content : String) :
    compactText (.text content) = '"' :: (content.toList.flatMap Quoted.escape ++ ['"']) :=
  rfl

theorem compactText_array (items : List Value) :
    compactText (.array items) = '[' :: (compactItems items ++ [']']) :=
  rfl

theorem compactText_object (fields : Fields Value) :
    compactText (.object fields) = '{' :: (compactFields fields ++ ['}']) :=
  rfl

theorem mergedItems_eq_map (items : List Value) : mergedItems items = items.map merged := by
  induction items with
  | nil => rfl
  | cons item others ih => rw [mergedItems, ih, List.map_cons]

theorem mergedFields_eq_insertAll (written fields : Fields Value) :
    mergedFields written fields =
      Fields.insertAll (fields.map fun field => (field.1, field.2.merged)) written := by
  induction fields generalizing written with
  | nil => rfl
  | cons field others ih =>
    rw [mergedFields, ih]
    rfl

/-- Without repeated names there is nothing to merge. -/
theorem merged_of_hasDistinctNames {value : Value} (distinct : value.hasDistinctNames) :
    value.merged = value := by
  induction value using memberInduction with
  | null | bool | number | text => rfl
  | array items ih =>
    rw [hasDistinctNames_array] at distinct
    rw [merged, mergedItems_eq_map,
      map_eq_self fun item member => ih item member (distinct item member)]
  | object fields ih =>
    rw [hasDistinctNames_object] at distinct
    have kept : fields.map (fun field => (field.1, field.2.merged)) = fields :=
      map_eq_self fun field member => by rw [ih field member (distinct.2 field member)]
    rw [merged, mergedFields_eq_insertAll, kept]
    exact congrArg object (Fields.ofPairs_of_nodup distinct.1)

end Value

namespace Json

open Value

theorem readName?_quotedName (name : String) (rest : List Char) :
    readName? (quotedName name ++ ':' :: rest) = some (name, rest) := by
  have quoted : skipSpace (quotedName name ++ ':' :: rest) =
      '"' :: (name.toList.flatMap Quoted.escape ++ '"' :: ':' :: rest) := by
    simp [quotedName, Quoted.encode, skipSpace, isSpace]
  have colon : skipSpace (':' :: rest) = ':' :: rest := rfl
  simp only [readName?, quoted, Quoted.decode_escaped, colon, String.ofList_toList]

/-- What starts with no bracket, brace or quote is a word or a number. -/
theorem readValue_of_first {first : Char} (solid : isSpace first = false) (noQuote : first ≠ '"')
    (noBracket : first ≠ '[') (noBrace : first ≠ '{') (fuel depth : Nat) (others : List Char) :
    readValue (fuel + 1) depth (first :: others) = readScalar (first :: others) := by
  have kept : skipSpace (first :: others) = first :: others := dropWhile_of_stops (stops_cons solid)
  rw [readValue, kept]
  split
  · next same => exact absurd (List.cons.inj same).1 noQuote
  · next same => exact absurd (List.cons.inj same).1 noBracket
  · next same => exact absurd (List.cons.inj same).1 noBrace
  · rfl

/-- A value that is read from the start of a text, given the steps and the levels for it. -/
structure ReadsBack (value : Value) : Prop where
  starts : ∃ first others, value.compactText = first :: others ∧
    isSpace first = false ∧ first ≠ ']'
  read : ∀ (fuel depth : Nat) (rest : List Char), value.compactText.length ≤ fuel →
    value.nesting ≤ depth → Stops JsonNumeral.continues rest →
      readValue fuel depth (value.compactText ++ rest) = some (value, rest)

theorem readsBack_null : ReadsBack .null where
  starts := ⟨'n', "ull".toList, rfl, rfl, by decide⟩
  read fuel depth rest enough _ _ := by
    cases fuel with
    | zero => cases enough
    | succ fuel => rfl

theorem readsBack_bool (truth : Bool) : ReadsBack (.bool truth) := by
  cases truth with
  | false =>
    refine ⟨⟨'f', "alse".toList, rfl, rfl, by decide⟩, fun fuel depth rest enough _ _ => ?_⟩
    cases fuel with
    | zero => cases enough
    | succ fuel => rfl
  | true =>
    refine ⟨⟨'t', "rue".toList, rfl, rfl, by decide⟩, fun fuel depth rest enough _ _ => ?_⟩
    cases fuel with
    | zero => cases enough
    | succ fuel => rfl

theorem readsBack_text (content : String) : ReadsBack (.text content) where
  starts := ⟨'"', _, rfl, rfl, by decide⟩
  read fuel depth rest enough _ _ := by
    cases fuel with
    | zero => cases enough
    | succ fuel =>
      have quoted : skipSpace (compactText (.text content) ++ rest) =
          '"' :: (content.toList.flatMap Quoted.escape ++ '"' :: rest) := by
        simp [compactText_text, skipSpace, isSpace]
      simp only [readValue, quoted, Quoted.decode_escaped, Option.map_some, Value.ofChars,
        String.ofList_toList]

/-- The characters that an integer starts with. -/
def startsInteger (character : Char) : Bool :=
  character == '-' || character.isDigit

theorem exists_first_ofInt (value : Int) :
    ∃ first others, Decimal.ofInt value = first :: others ∧ startsInteger first = true := by
  obtain ⟨first, others, same⟩ :=
    List.exists_cons_of_ne_nil (Decimal.digits_ne_nil value.natAbs)
  have digit : first.isDigit = true :=
    Decimal.isDigit_of_mem_digits (by rw [same]; exact List.mem_cons_self)
  by_cases negative : value < 0
  · exact ⟨'-', Decimal.digits value.natAbs, by simp [Decimal.ofInt, negative], rfl⟩
  · exact ⟨first, others, by simp [Decimal.ofInt, negative, same], by simp [startsInteger, digit]⟩

theorem not_isSpace_of_startsInteger {first : Char} (starts : startsInteger first = true) :
    isSpace first = false := by
  have apart : ∀ {other}, startsInteger other = false → (first == other) = false :=
    fun outside => beq_eq_false_iff_ne.2 (ne_of_isMember starts outside)
  simp only [isSpace, apart (show startsInteger ' ' = false from rfl),
    apart (show startsInteger '\n' = false from rfl),
    apart (show startsInteger '\t' = false from rfl),
    apart (show startsInteger '\r' = false from rfl), Bool.or_self]

theorem readScalar_ofInt {value : Int} (low : -(twoTo 63 : Int) ≤ value)
    (high : value < twoTo 64) {rest : List Char} (stops : Stops JsonNumeral.continues rest) :
    readScalar (Decimal.ofInt value ++ rest) = some (.ofInt value, rest) := by
  obtain ⟨first, others, same, starts⟩ := exists_first_ofInt value
  -- None of the three words starts like an integer.
  have noWord : ∀ {letter}, startsInteger letter = false → ∀ word,
      afterPrefix? (letter :: word) (Decimal.ofInt value ++ rest) = none := by
    intro letter outside word
    rw [same, List.cons_append, afterPrefix?, if_neg (ne_of_isMember starts outside).symm]
  have noNull : afterPrefix? "null".toList (Decimal.ofInt value ++ rest) = none := noWord rfl _
  have noTrue : afterPrefix? "true".toList (Decimal.ofInt value ++ rest) = none := noWord rfl _
  have noFalse : afterPrefix? "false".toList (Decimal.ofInt value ++ rest) = none := noWord rfl _
  simp only [readScalar, noNull, noTrue, noFalse, JsonNumeral.take?_ofInt_append value stops,
    JsonNumeral.number?_ofInt low high, Option.bind_eq_bind, Option.bind_some]
  rfl

theorem readsBack_number {number : Number} (fits : number.fitsWord = true) :
    ReadsBack (.number number) := by
  cases number with
  | float value => cases fits
  | integer value =>
    simp only [Number.fitsWord, Bool.and_eq_true, decide_eq_true_eq] at fits
    obtain ⟨first, others, same, starts⟩ := exists_first_ofInt value
    have solid := not_isSpace_of_startsInteger starts
    have apart : ∀ {other}, startsInteger other = false → first ≠ other :=
      ne_of_isMember starts
    refine ⟨⟨first, others, same, solid, apart rfl⟩, fun fuel depth rest enough _ stops => ?_⟩
    rw [compactText_integer] at enough ⊢
    cases fuel with
    | zero => simp [same] at enough
    | succ fuel =>
      have scalar := readScalar_ofInt fits.1 fits.2 stops
      rw [same, List.cons_append] at scalar ⊢
      rw [readValue_of_first solid (apart rfl) (apart rfl) (apart rfl), scalar]
      rfl

/-- One or more items are read up to the closing bracket. -/
theorem readItems_compactItems {item : Value} {others : List Value}
    (each : ∀ member ∈ item :: others, ReadsBack member) {fuel depth : Nat}
    (enough : (compactItems (item :: others)).length < fuel)
    (shallow : ∀ member ∈ item :: others, member.nesting ≤ depth) (rest : List Char) :
    readItems fuel depth (compactItems (item :: others) ++ ']' :: rest) =
      some (item :: others, rest) := by
  induction others generalizing item fuel with
  | nil =>
    rw [List.forall_mem_singleton] at each shallow
    cases fuel with
    | zero => cases enough
    | succ fuel =>
      simp only [compactItems, compactMoreItems, List.append_nil] at enough ⊢
      have first := each.read fuel depth (']' :: rest) (by omega) shallow (stops_cons rfl)
      simp only [readItems, first, skipSpace]
      rfl
  | cons second others ih =>
    rw [List.forall_mem_cons] at each shallow
    cases fuel with
    | zero => cases enough
    | succ fuel =>
      have split : compactItems (item :: second :: others) =
          compactText item ++ ',' :: compactItems (second :: others) := by
        simp [compactItems, compactMoreItems]
      rw [split, List.length_append, List.length_cons] at enough
      rw [split, List.append_assoc, List.cons_append]
      have first := each.1.read fuel depth
        (',' :: (compactItems (second :: others) ++ ']' :: rest)) (by omega) shallow.1
        (stops_cons rfl)
      have comma : skipSpace (',' :: (compactItems (second :: others) ++ ']' :: rest)) =
          ',' :: (compactItems (second :: others) ++ ']' :: rest) := rfl
      simp only [readItems, first, comma]
      rw [ih each.2 (by omega) shallow.2]
      rfl

theorem readsBack_array {items : List Value} (each : ∀ item ∈ items, ReadsBack item) :
    ReadsBack (.array items) where
  starts := ⟨'[', _, rfl, rfl, by decide⟩
  read fuel depth rest enough shallow _ := by
    rw [compactText_array, List.length_cons, List.length_append, List.length_singleton] at enough
    cases depth with
    | zero => exact absurd shallow (not_nesting_array_le_zero items)
    | succ depth =>
      rw [nesting_array_le_iff] at shallow
      cases fuel with
      | zero => cases enough
      | succ fuel =>
        have opened : skipSpace (compactText (.array items) ++ rest) =
            '[' :: (compactItems items ++ ']' :: rest) := by
          simp [compactText_array, skipSpace, isSpace]
        cases items with
        | nil =>
          simp only [readValue, opened, compactItems]
          rfl
        | cons item others =>
          obtain ⟨first, more, same, solid, inner⟩ := (each item List.mem_cons_self).starts
          have started : compactItems (item :: others) ++ ']' :: rest =
              first :: (more ++ compactMoreItems others ++ ']' :: rest) := by
            simp [compactItems, same]
          have kept : skipSpace (compactItems (item :: others) ++ ']' :: rest) =
              first :: (more ++ compactMoreItems others ++ ']' :: rest) := by
            rw [started]
            exact dropWhile_of_stops (stops_cons solid)
          have read : readItems fuel depth (compactItems (item :: others) ++ ']' :: rest) =
              some (item :: others, rest) :=
            readItems_compactItems each (by omega) shallow rest
          simp only [readValue, opened, kept]
          split
          · next closed => exact absurd (List.cons.inj closed).1 inner
          · rw [read]
            rfl

/-- One or more fields are read up to the closing brace. -/
theorem readFields_compactFields {field : String × Value} {others : Fields Value}
    (each : ∀ member ∈ field :: others, ReadsBack member.2) {fuel depth : Nat}
    (enough : (compactFields (field :: others)).length < fuel)
    (shallow : ∀ member ∈ field :: others, member.2.nesting ≤ depth) (rest : List Char) :
    readFields fuel depth (compactFields (field :: others) ++ '}' :: rest) =
      some (field :: others, rest) := by
  induction others generalizing field fuel with
  | nil =>
    obtain ⟨name, content⟩ := field
    rw [List.forall_mem_singleton] at each shallow
    cases fuel with
    | zero => cases enough
    | succ fuel =>
      simp only [compactFields, compactMoreFields, List.append_nil, List.length_append,
        List.length_cons, List.append_assoc, List.cons_append] at enough ⊢
      have steps : content.compactText.length ≤ fuel := by omega
      have first := each.read fuel depth ('}' :: rest) steps shallow (stops_cons rfl)
      simp only [readFields, readName?_quotedName, first, skipSpace]
      rfl
  | cons second others ih =>
    obtain ⟨name, content⟩ := field
    rw [List.forall_mem_cons] at each shallow
    cases fuel with
    | zero => cases enough
    | succ fuel =>
      have split : compactFields ((name, content) :: second :: others) =
          quotedName name ++
            ':' :: (compactText content ++ ',' :: compactFields (second :: others)) := by
        simp [compactFields, compactMoreFields]
      rw [split, List.length_append, List.length_cons, List.length_append,
        List.length_cons] at enough
      rw [split, List.append_assoc, List.cons_append, List.append_assoc, List.cons_append]
      have steps : content.compactText.length ≤ fuel := by omega
      have first := each.1.read fuel depth
        (',' :: (compactFields (second :: others) ++ '}' :: rest)) steps shallow.1
        (stops_cons rfl)
      have comma : skipSpace (',' :: (compactFields (second :: others) ++ '}' :: rest)) =
          ',' :: (compactFields (second :: others) ++ '}' :: rest) := rfl
      simp only [readFields, readName?_quotedName, first, comma]
      rw [ih each.2 (by omega) shallow.2]
      rfl

theorem readsBack_object {fields : Fields Value} (each : ∀ field ∈ fields, ReadsBack field.2) :
    ReadsBack (.object fields) where
  starts := ⟨'{', _, rfl, rfl, by decide⟩
  read fuel depth rest enough shallow _ := by
    rw [compactText_object, List.length_cons, List.length_append, List.length_singleton] at enough
    cases depth with
    | zero => exact absurd shallow (not_nesting_object_le_zero fields)
    | succ depth =>
      rw [nesting_object_le_iff] at shallow
      cases fuel with
      | zero => cases enough
      | succ fuel =>
        have opened : skipSpace (compactText (.object fields) ++ rest) =
            '{' :: (compactFields fields ++ '}' :: rest) := by
          simp [compactText_object, skipSpace, isSpace]
        cases fields with
        | nil =>
          simp only [readValue, opened, compactFields]
          rfl
        | cons field others =>
          have read : readFields fuel depth (compactFields (field :: others) ++ '}' :: rest) =
              some (field :: others, rest) :=
            readFields_compactFields each (by omega) shallow rest
          -- A name starts with its quote, so no closing brace is taken for the end.
          simp only [readValue, opened]
          split
          · next closed => cases closed
          · rw [read]
            rfl

/-- Every value without floating point numbers is read from the start of a text. -/
theorem readsBack_of_isFloatFree {value : Value} (free : value.isFloatFree = true) :
    ReadsBack value := by
  induction value using memberInduction with
  | null => exact readsBack_null
  | bool truth => exact readsBack_bool truth
  | number number => exact readsBack_number free
  | text content => exact readsBack_text content
  | array items ih =>
    rw [isFloatFree_array] at free
    exact readsBack_array fun item member => ih item member (free item member)
  | object fields ih =>
    rw [isFloatFree_object] at free
    exact readsBack_object fun field member => ih field member (free field member)

theorem readWritten?_compactText {value : Value} (free : value.isFloatFree = true) {levels : Nat}
    (shallow : value.nesting ≤ levels) : readWritten? levels value.compactText = some value := by
  have read := (readsBack_of_isFloatFree free).read (value.compactText.length + 1) levels []
    (Nat.le_succ _) shallow (stops_nil _)
  rw [List.append_nil] at read
  rw [readWritten?, read]
  rfl

/-- A document without floating point numbers is read back from its compact text. -/
theorem parse?_compact {value : Value} (free : value.isFloatFree = true)
    (distinct : value.hasDistinctNames) (shallow : value.nesting ≤ maxLevels) :
    parse? value.compact = some value := by
  rw [parse?, compact, String.toList_ofList, read?, readWritten?_compactText free shallow,
    Option.map_some, merged_of_hasDistinctNames distinct]

end Json

end Intake
