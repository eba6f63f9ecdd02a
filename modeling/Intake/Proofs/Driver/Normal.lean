import Intake.Driver.Reader
import Intake.Proofs.Driver.Patterns
import Intake.Proofs.Value.Equality

/-!
# Driver documents in normal form

A driver is read from a document whose header may have white space around its texts and numbers in
their place, and whose rules may be an empty list. Each document has a normal form without these
liberties, in which every name keeps its place. Reading a document is reading its normal form, so a
driver, its fingerprint included, depends on the normal form alone.
-/

namespace Intake

open Character (isBlank not_isBlank_of_isDigit)

namespace Decimal

theorem not_isBlank_of_mem_scientific {decimal : Decimal} {character : Char}
    (member : character ∈ decimal.scientific) : isBlank character = false := by
  have written : ∀ {value : Nat}, ∀ digit ∈ digits value, isBlank digit = false :=
    fun digit inside => not_isBlank_of_isDigit (isDigit_of_mem_digits inside)
  have mantissa : ∀ digit ∈ digits decimal.significand, isBlank digit = false := written
  simp only [scientific, List.mem_append, List.mem_cons] at member
  rcases member with inFront | rfl | sign | power
  · split at inFront
    · next first second others shape =>
      rw [shape] at mantissa
      simp only [List.mem_cons] at inFront mantissa
      rcases inFront with rfl | rfl | rfl | inside
      · exact mantissa _ (Or.inl rfl)
      · rfl
      · exact mantissa _ (Or.inr (Or.inl rfl))
      · exact mantissa _ (Or.inr (Or.inr inside))
    · exact mantissa _ inFront
  · rfl
  · split at sign <;> subst sign <;> rfl
  · exact written character power

end Decimal

namespace Number

/-- The precise text of a number has no white space. -/
theorem not_isBlank_of_mem_preciseText {number : Number} {character : Char}
    (member : character ∈ number.preciseText) : isBlank character = false := by
  cases number with
  | integer value =>
    rw [preciseText, ← Numeral.plainText_ofInt] at member
    exact (Numeral.isPlain_ofInt value).not_isBlank_of_mem member
  | float value =>
    simp only [preciseText, Binary64.preciseText, List.mem_append] at member
    rcases member with sign | inside
    · split at sign
      · rw [List.mem_singleton.1 sign]
        rfl
      · cases sign
    · split at inside
      · simp only [List.mem_cons, List.not_mem_nil, or_false] at inside
        rcases inside with rfl | rfl | rfl <;> rfl
      · split at inside
        · rcases List.mem_append.1 inside with digits | point
          · obtain ⟨whole, fraction, plain, same⟩ :=
              (Decimal.shortest .toEven value.units).exists_isPlain_positional
            apply (plain false).not_isBlank_of_mem
            rw [same] at digits
            exact digits
          · split at point
            · simp only [List.mem_cons, List.not_mem_nil, or_false] at point
              rcases point with rfl | rfl <;> rfl
            · cases point
        · exact Decimal.not_isBlank_of_mem_scientific inside

theorem preciseText_ne_nil (number : Number) : number.preciseText ≠ [] := by
  cases number with
  | integer value =>
    rw [preciseText, Decimal.ofInt]
    split
    · exact List.cons_ne_nil _ _
    · exact Decimal.digits_ne_nil _
  | float value =>
    rw [preciseText, Binary64.preciseText]
    apply List.append_ne_nil_of_right_ne_nil
    split
    · exact List.cons_ne_nil _ _
    · split
      · obtain ⟨whole, fraction, plain, same⟩ :=
          (Decimal.shortest .toEven value.units).exists_isPlain_positional
        rw [same]
        exact List.append_ne_nil_of_left_ne_nil
          (List.append_ne_nil_of_left_ne_nil (plain false).started _) _
      · exact List.append_ne_nil_of_right_ne_nil _ (List.cons_ne_nil _ _)

end Number

namespace Fields

variable {α : Type}

/-- A field after a change that keeps names. -/
theorem get?_map_of_named (change : String × α → String × α)
    (named : ∀ field, (change field).1 = field.1) (name : String) (fields : Fields α) :
    get? name (fields.map change) =
      (get? name fields).map fun content => (change (name, content)).2 := by
  induction fields with
  | nil => rfl
  | cons field rest ih =>
    obtain ⟨key, content⟩ := field
    have same : change (key, content) = (key, (change (key, content)).2) :=
      Prod.ext (named _) rfl
    rw [List.map_cons, same, get?, get?, ih]
    split
    · next found => rw [found, Option.map_some]
    · rfl

theorem names_map_of_named (change : String × α → String × α)
    (named : ∀ field, (change field).1 = field.1) (fields : Fields α) :
    names (fields.map change) = names fields := by
  rw [names, names, List.map_map]
  exact List.map_congr_left fun field _ => named field

/-- Writing a name that is there changes the one field of that name. -/
theorem insert_eq_map {name : String} {old : α} (content : α) {fields : Fields α}
    (distinct : (names fields).Nodup) (found : get? name fields = some old) :
    insert name content fields =
      fields.map fun field => if field.1 = name then (name, content) else field := by
  induction fields with
  | nil => cases found
  | cons field rest ih =>
    obtain ⟨key, first⟩ := field
    obtain ⟨fresh, restDistinct⟩ := List.nodup_cons.1 distinct
    rw [insert, List.map_cons]
    by_cases same : key = name
    · subst same
      have others :
          rest.map (fun field => if field.1 = key then (key, content) else field) = rest := by
        apply map_eq_self
        intro field member
        have different : field.1 ≠ key := fun found =>
          fresh (List.mem_map.2 ⟨field, member, found⟩)
        rw [if_neg different]
      simp [others]
    · rw [get?, if_neg same] at found
      simp [same, ih restDistinct found]

end Fields

namespace Driver

open Text Identifier

/-- A header field as it is read: texts lose the white space around them, and numbers become their
texts. -/
def tidyContent (content : Value) : Value :=
  ((headerText? content).map Value.text).getD content

def tidyField (names : List String) (field : String × Value) : String × Value :=
  (field.1, if field.1 ∈ names then tidyContent field.2 else field.2)

/-- A header with the fields of some names as they are read. -/
def tidyFields (names : List String) (header : Fields Value) : Fields Value :=
  header.map (tidyField names)

def tidyHeader : Value → Value
  | .object header => .object (tidyFields headerFields header)
  | content => content

def tidySection (field : String × Value) : String × Value :=
  (field.1,
    if field.1 = "driver" then tidyHeader field.2
    else if field.1 = "mappings" ∧ field.2 = .array [] then .object []
    else field.2)

/-- The normal form of a document: every name stays in its place. -/
def tidy : Value → Value
  | .object root => .object (root.map tidySection)
  | value => value

/-- A text that is not blank and has no white space at its ends. -/
def IsTrimmed (content : String) : Prop :=
  isBlankText content.toList = false ∧ trim content.toList = content.toList

theorem isTrimmed_of_headerText? {content : Value} {text : String}
    (read : headerText? content = some text) : IsTrimmed text := by
  unfold headerText? at read
  split at read
  · next written =>
    simp only [Option.ite_none_left_eq_some, Option.some.injEq] at read
    obtain ⟨visible, rfl⟩ := read
    rw [IsTrimmed, String.toList_ofList]
    refine ⟨?_, trim_trim _⟩
    rw [Bool.eq_false_iff]
    intro blank
    apply visible
    rw [← trim_trim, trim_of_blank blank]
  · next number =>
    obtain rfl := Option.some.inj read
    rw [IsTrimmed, String.toList_ofList]
    have solid : ∀ character ∈ number.preciseText, isBlank character = false :=
      fun character member => number.not_isBlank_of_mem_preciseText member
    refine ⟨?_, trim_of_not_blank solid⟩
    obtain ⟨first, others, same⟩ := List.exists_cons_of_ne_nil number.preciseText_ne_nil
    rw [same, isBlankText, List.all_cons, solid first (by simp [same]), Bool.false_and]
  · cases read

theorem headerText?_text {content : String} (trimmed : IsTrimmed content) :
    headerText? (.text content) = some content := by
  have visible : content.toList ≠ [] := by
    intro empty
    have solid := trimmed.1
    rw [empty] at solid
    cases solid
  simp [headerText?, trimmed.2, visible]

/-- What is read from a header field is read from its normal form. -/
theorem headerText?_tidyContent (content : Value) :
    headerText? (tidyContent content) = headerText? content := by
  cases read : headerText? content with
  | none => rw [tidyContent, read, Option.map_none, Option.getD_none, read]
  | some text =>
    rw [tidyContent, read]
    exact headerText?_text (isTrimmed_of_headerText? read)

theorem tidyContent_of_headerText? {content : Value} {text : String}
    (read : headerText? content = some text) : tidyContent content = .text text := by
  rw [tidyContent, read]
  rfl

theorem tidyContent_tidyContent (content : Value) :
    tidyContent (tidyContent content) = tidyContent content := by
  rw [tidyContent, headerText?_tidyContent]
  cases read : headerText? content with
  | none => rfl
  | some text => rw [tidyContent_of_headerText? read]; rfl

section Header

variable {header : Fields Value}

theorem get?_tidyFields (names : List String) (field : String) (header : Fields Value) :
    Fields.get? field (tidyFields names header) =
      (Fields.get? field header).map fun content =>
        if field ∈ names then tidyContent content else content :=
  Fields.get?_map_of_named (tidyField names) (fun _ => rfl) field header

theorem names_tidyFields (names : List String) (header : Fields Value) :
    Fields.names (tidyFields names header) = Fields.names header :=
  Fields.names_map_of_named (tidyField names) (fun _ => rfl) header

theorem headerText?_tidyFields (names : List String) (field : String) (header : Fields Value) :
    (Fields.get? field (tidyFields names header)).bind headerText? =
      (Fields.get? field header).bind headerText? := by
  rw [get?_tidyFields]
  cases Fields.get? field header with
  | none => rfl
  | some content =>
    rw [Option.map_some, Option.bind_some, Option.bind_some]
    split
    · exact headerText?_tidyContent content
    · rfl

theorem tidyFields_tidyFields (names : List String) (header : Fields Value) :
    tidyFields names (tidyFields names header) = tidyFields names header := by
  rw [tidyFields, tidyFields, List.map_map]
  apply List.map_congr_left
  intro field _
  by_cases member : field.1 ∈ names
  · simp [tidyField, member, tidyContent_tidyContent]
  · simp [tidyField, member]

/-- Writing what was read into the place of a header field, and then tidying up others. -/
theorem tidyFields_insert (distinct : (Fields.names header).Nodup) {field : String}
    {text : String} (read : (Fields.get? field header).bind headerText? = some text)
    (others : List String) :
    tidyFields others (Fields.insert field (.text text) header) =
      tidyFields (field :: others) header := by
  obtain ⟨content, found, written⟩ := Option.bind_eq_some_iff.1 read
  rw [Fields.insert_eq_map _ distinct found, tidyFields, tidyFields, List.map_map]
  apply List.map_congr_left
  intro entry member
  by_cases same : entry.1 = field
  · subst same
    have this := (Fields.get?_of_mem distinct member).symm.trans found
    have tidied : tidyContent entry.2 = .text text := by
      rw [Option.some.inj this]
      exact tidyContent_of_headerText? written
    have again : tidyContent (.text text) = .text text :=
      tidyContent_of_headerText? (headerText?_text (isTrimmed_of_headerText? written))
    simp [tidyField, tidied, again]
  · simp [tidyField, same]

/-- The header is normalised if all fields can be read, and otherwise the first that cannot is
missing. -/
theorem normalHeader_eq (distinct : (Fields.names header).Nodup) (fields : List String) :
    normalHeader fields header =
      match fields.find? fun field => ((Fields.get? field header).bind headerText?).isNone with
      | some field => .error (.missingField field)
      | none => .ok (tidyFields fields header) := by
  induction fields generalizing header with
  | nil =>
    have unchanged : tidyField [] = id := by
      funext field
      simp [tidyField]
    simp [normalHeader, tidyFields, unchanged]
  | cons field others ih =>
    rw [normalHeader, List.find?_cons]
    cases read : (Fields.get? field header).bind headerText? with
    | none => rfl
    | some text =>
      obtain ⟨content, -, written⟩ := Option.bind_eq_some_iff.1 read
      have kept := headerText?_text (isTrimmed_of_headerText? written)
      have sameText : ∀ other,
          ((Fields.get? other (Fields.insert field (.text text) header)).bind headerText?).isNone =
            ((Fields.get? other header).bind headerText?).isNone := by
        intro other
        by_cases same : other = field
        · subst same
          rw [Fields.get?_insert_self, Option.bind_some, read,
            headerText?_text
              (isTrimmed_of_headerText? (Option.bind_eq_some_iff.1 read).choose_spec.2)]
        · rw [Fields.get?_insert_of_ne _ _ same]
      simp only [Option.isNone_some, ih (Fields.nodup_names_insert distinct field (.text text)),
        sameText, tidyFields_insert distinct read]

theorem normalHeader_tidyFields (distinct : (Fields.names header).Nodup) (fields : List String) :
    normalHeader fields (tidyFields fields header) = normalHeader fields header := by
  have tidyDistinct : (Fields.names (tidyFields fields header)).Nodup := by
    rwa [names_tidyFields]
  simp only [normalHeader_eq tidyDistinct, normalHeader_eq distinct, headerText?_tidyFields,
    tidyFields_tidyFields]

end Header

section Document

variable {root header : Fields Value}

theorem get?_map_tidySection (name : String) (root : Fields Value) :
    Fields.get? name (root.map tidySection) =
      (Fields.get? name root).map fun content => (tidySection (name, content)).2 :=
  Fields.get?_map_of_named tidySection (fun _ => rfl) name root

theorem names_map_tidySection (root : Fields Value) :
    Fields.names (root.map tidySection) = Fields.names root :=
  Fields.names_map_of_named tidySection (fun _ => rfl) root

theorem tidyHeader_tidyHeader (content : Value) :
    tidyHeader (tidyHeader content) = tidyHeader content := by
  cases content with
  | object header => rw [tidyHeader, tidyHeader, tidyFields_tidyFields]
  | null | bool | number | text | array => rfl

theorem tidySection_tidySection (field : String × Value) :
    tidySection (tidySection field) = tidySection field := by
  unfold tidySection
  by_cases isHeader : field.1 = "driver"
  · simp [isHeader, tidyHeader_tidyHeader]
  · by_cases isEmpty : field.1 = "mappings" ∧ field.2 = .array []
    · simp [isEmpty]
    · simp [isHeader, isEmpty]

theorem isNull_tidySection (field : String × Value) :
    (tidySection field).2.isNull = field.2.isNull := by
  unfold tidySection
  by_cases isHeader : field.1 = "driver"
  · simp only [isHeader, ↓reduceIte]
    cases field.2 <;> rfl
  · by_cases isEmpty : field.1 = "mappings" ∧ field.2 = .array []
    · simp [isEmpty, Value.isNull]
    · simp [isHeader, isEmpty]

theorem missingSection?_map_tidySection (root : Fields Value) :
    missingSection? (root.map tidySection) = missingSection? root := by
  have sameNull : ∀ name, (Fields.get? name (root.map tidySection)).all Value.isNull =
      (Fields.get? name root).all Value.isNull := by
    intro name
    rw [get?_map_tidySection]
    cases Fields.get? name root with
    | none => rfl
    | some content => exact isNull_tidySection (name, content)
  simp only [missingSection?, sameNull]

/-- A document whose header has been normalised is in normal form. -/
theorem normalMappings_insert (distinct : (Fields.names root).Nodup)
    (found : Fields.get? "driver" root = some (.object header)) :
    normalMappings (Fields.insert "driver" (.object (tidyFields headerFields header)) root) =
      root.map tidySection := by
  have apart : "mappings" ≠ "driver" := by decide
  have mappings := Fields.get?_insert_of_ne (.object (tidyFields headerFields header)) root apart
  have header_of_mem : ∀ field ∈ root, field.1 = "driver" → field.2 = .object header := by
    intro field member named
    have content := Fields.get?_of_mem distinct member
    rw [named, found] at content
    exact (Option.some.inj content).symm
  by_cases empty : Fields.get? "mappings" root = some (.array [])
  · have written := Fields.nodup_names_insert distinct "driver"
      (.object (tidyFields headerFields header))
    have rules_of_mem : ∀ field ∈ root, field.1 = "mappings" → field.2 = .array [] := by
      intro field member named
      have content := Fields.get?_of_mem distinct member
      rw [named, empty] at content
      exact (Option.some.inj content).symm
    rw [normalMappings, if_pos (mappings.trans empty),
      Fields.insert_eq_map _ written (mappings.trans empty), Fields.insert_eq_map _ distinct found,
      List.map_map]
    apply List.map_congr_left
    intro field member
    by_cases isHeader : field.1 = "driver"
    · simp [tidySection, tidyHeader, isHeader, header_of_mem field member isHeader]
    · by_cases isRules : field.1 = "mappings"
      · simp [tidySection, isRules, rules_of_mem field member isRules]
      · simp [tidySection, isHeader, isRules]
  · rw [normalMappings, if_neg (by rwa [mappings]), Fields.insert_eq_map _ distinct found]
    apply List.map_congr_left
    intro field member
    by_cases isHeader : field.1 = "driver"
    · simp [tidySection, tidyHeader, isHeader, header_of_mem field member isHeader]
    · have full : ¬ (field.1 = "mappings" ∧ field.2 = .array []) := by
        rintro ⟨named, content⟩
        apply empty
        rw [← named, ← content]
        exact Fields.get?_of_mem distinct member
      simp [tidySection, isHeader, full]

/-- A document with a header is normalised if its header is. -/
theorem normalDocument_object (distinct : (Fields.names root).Nodup)
    (found : Fields.get? "driver" root = some (.object header))
    (headerDistinct : (Fields.names header).Nodup) (complete : missingSection? root = none) :
    normalDocument (.object root) =
      (normalHeader headerFields header).map fun _ => root.map tidySection := by
  simp only [normalDocument, complete, found, Option.bind_some, Value.object?]
  rw [normalHeader_eq headerDistinct]
  split
  · rfl
  · exact congrArg Except.ok (normalMappings_insert distinct found)

/-- The three ways of an object: a section is missing, the header is no mapping, or there is one. -/
theorem document_cases (root : Fields Value) :
    (∃ name, missingSection? root = some name) ∨
      missingSection? root = none ∧
        ((Fields.get? "driver" root).bind Value.object? = none ∨
          ∃ header, Fields.get? "driver" root = some (.object header)) := by
  cases missing : missingSection? root with
  | some name => exact Or.inl ⟨name, rfl⟩
  | none =>
    refine Or.inr ⟨rfl, ?_⟩
    cases found : Fields.get? "driver" root with
    | none => exact Or.inl rfl
    | some content =>
      cases content with
      | object header => exact Or.inr ⟨header, rfl⟩
      | null | bool | number | text | array => exact Or.inl rfl

/-- What comes out of the first step of reading is the normal form of an object, in whose header all
texts can be read. -/
theorem exists_of_normalDocument {value : Value} (distinct : value.hasDistinctNames)
    {document : Fields Value} (normal : normalDocument value = .ok document) :
    ∃ root header, value = .object root ∧ document = root.map tidySection ∧
      Fields.get? "driver" root = some (.object header) ∧
      ∀ field ∈ headerFields, ∃ text, (Fields.get? field header).bind headerText? = some text := by
  cases value with
  | object root =>
    rw [Value.hasDistinctNames_object] at distinct
    rcases document_cases root with ⟨name, missing⟩ | ⟨complete, noHeader | ⟨header, found⟩⟩
    · simp [normalDocument, missing] at normal
    · simp [normalDocument, complete, noHeader] at normal
    · have inside := Value.hasDistinctNames_object.1 (distinct.2 _ (Fields.mem_of_get? found))
      rw [normalDocument_object distinct.1 found inside.1 complete, normalHeader_eq inside.1]
        at normal
      split at normal
      · cases normal
      · next allRead =>
        refine ⟨root, header, rfl, (Except.ok.inj normal).symm, found, ?_⟩
        intro field member
        have isRead := List.find?_eq_none.1 allRead field member
        rw [Option.isNone_iff_eq_none] at isRead
        exact Option.ne_none_iff_exists'.1 isRead
  | null | bool | number | text | array => cases normal

theorem normalDocument_tidy {value : Value} (distinct : value.hasDistinctNames) :
    normalDocument (tidy value) = normalDocument value := by
  cases value with
  | object root =>
    rw [Value.hasDistinctNames_object] at distinct
    have complete := missingSection?_map_tidySection root
    have tidyHeaders := get?_map_tidySection "driver" root
    rcases document_cases root with ⟨name, missing⟩ | ⟨isComplete, noHeader | ⟨header, found⟩⟩
    · simp [tidy, normalDocument, complete, missing]
    · have noTidyHeader :
          (Fields.get? "driver" (root.map tidySection)).bind Value.object? = none := by
        rw [tidyHeaders]
        cases found : Fields.get? "driver" root with
        | none => rfl
        | some content =>
          cases content with
          | object header => simp [found, Value.object?] at noHeader
          | null | bool | number | text | array => rfl
      simp [tidy, normalDocument, complete, isComplete, noHeader, noTidyHeader]
    · have inside := Value.hasDistinctNames_object.1 (distinct.2 _ (Fields.mem_of_get? found))
      have tidyFound : Fields.get? "driver" (root.map tidySection) =
          some (.object (tidyFields headerFields header)) := by
        rw [tidyHeaders, found]
        rfl
      have tidyDistinct : (Fields.names (root.map tidySection)).Nodup := by
        rw [names_map_tidySection]
        exact distinct.1
      have tidyInside : (Fields.names (tidyFields headerFields header)).Nodup := by
        rw [names_tidyFields]
        exact inside.1
      have again : (root.map tidySection).map tidySection = root.map tidySection := by
        rw [List.map_map]
        exact List.map_congr_left fun field _ => tidySection_tidySection field
      rw [tidy, normalDocument_object tidyDistinct tidyFound tidyInside (complete.trans isComplete),
        normalDocument_object distinct.1 found inside.1 isComplete, again,
        normalHeader_tidyFields inside.1]
  | null | bool | number | text | array => rfl

/-- Reading a document is reading its normal form, the errors included. -/
theorem ofValue_tidy {value : Value} (distinct : value.hasDistinctNames) :
    ofValue (tidy value) = ofValue value := by
  rw [ofValue, normalDocument_tidy distinct, ofValue]

end Document

end Driver

end Intake
