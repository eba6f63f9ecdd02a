import Intake.Proofs.Condition.Grammar
import Intake.Proofs.Driver.Normal
import Intake.Proofs.Value.Fold

/-!
# Accepted documents

What is known of a driver because it was read. Its document can be replaced by the normal form. The
four texts of its header are there, without white space around them, and the version and the types
are of the languages for them. Its rules are those of the fields of the document, each once and in
their order, read from the raw values.
-/

namespace Intake

namespace Driver

open Identifier

/-- The rules that are read from the fields of a table are theirs, in their order. -/
theorem forall₂_of_readMappings {mappings : Fields Value} {rules : List (String × Rule)}
    (read : readMappings mappings = .ok rules) :
    List.Forall₂ (fun entry mapping => mapping.1 = entry.1 ∧
      Rule.read ("mappings." ++ entry.1) entry.2 = .ok mapping.2) mappings rules := by
  refine (forall₂_of_mapM read).imp ?_
  intro entry mapping written
  cases rule : Rule.read ("mappings." ++ entry.1) entry.2 with
  | error fault => simp [rule] at written
  | ok value =>
    simp only [rule, Except.ok.injEq] at written
    subst written
    exact ⟨rfl, rfl⟩

/-- As many rules as fields, under the same names. -/
theorem names_of_readMappings {mappings : Fields Value} {rules : List (String × Rule)}
    (read : readMappings mappings = .ok rules) : Fields.names rules = Fields.names mappings := by
  have same : List.Forall₂ Eq (Fields.names mappings) (Fields.names rules) := by
    rw [Fields.names, Fields.names, List.forall₂_map_left_iff, List.forall₂_map_right_iff]
    exact (forall₂_of_readMappings read).imp fun _ _ both => both.1.symm
  rw [List.forall₂_eq_eq_eq] at same
  exact same.symm

theorem required_eq_some {α : Type} {read : Value → Option α} {content : Option Value} {value : α} :
    Record.required read content = some value ↔ content.bind read = some value := by
  cases content <;> rfl

/-- The texts of the header fields of a driver by their names. -/
def headerTexts (driver : Driver) : List (String × String) :=
  [("name", driver.name), ("version", driver.version), ("source", driver.source),
    ("target", driver.target)]

/-- What a document says of the driver that is read from it. -/
structure WrittenIn (value : Value) (driver : Driver) : Prop where
  /-- The normal form of the document says the same. -/
  normal : ofValue (tidy value) = .ok driver
  header : ∃ header, value.field? "driver" = some (.object header) ∧
    ∀ field ∈ driver.headerTexts,
      (Fields.get? field.1 header).bind headerText? = some field.2
  trimmed : ∀ field ∈ driver.headerTexts, IsTrimmed field.2
  version : driver.version.toList ∈ versionPattern
  source : driver.source.toList ∈ identifierPattern
  target : driver.target.toList ∈ identifierPattern
  /-- No field has two rules. -/
  once : (Fields.names driver.mappings).Nodup
  rules : ∃ raw, (value.field? "mappings" = some (.object raw) ∨
      value.field? "mappings" = some (.array []) ∧ raw = []) ∧
    List.Forall₂ (fun entry mapping => mapping.1 = entry.1 ∧
      Rule.read ("mappings." ++ entry.1) entry.2 = .ok mapping.2) raw driver.mappings

theorem eq_text_of_text? {content : Value} {text : String} (read : content.text? = some text) :
    content = .text text := by
  cases content with
  | text written => rw [Option.some.inj read]
  | null | bool | number | array | object => cases read

theorem eq_object_of_object? {content : Value} {fields : Fields Value}
    (read : content.object? = some fields) : content = .object fields := by
  cases content with
  | object written => rw [Option.some.inj read]
  | null | bool | number | text | array => cases read

/-- A header that is read has its texts from the fields of these names. -/
theorem texts_of_header {fields : Fields Value} {header : Header}
    (read : Header.ofValue? (.object fields) = some header) :
    ∀ field ∈ [("name", header.name), ("version", header.version), ("source", header.source),
      ("target", header.target)], Fields.get? field.1 fields = some (.text field.2) := by
  simp only [Header.ofValue?, Record.contents?, Option.bind_eq_bind, Option.bind_some,
    Option.bind_eq_some_iff, required_eq_some, Option.pure_def, Option.some.injEq] at read
  obtain ⟨name, ⟨_, isName, readName⟩, version, ⟨_, isVersion, readVersion⟩, source,
    ⟨_, isSource, readSource⟩, target, ⟨_, isTarget, readTarget⟩, description, -, rfl⟩ := read
  simp [isName, isVersion, isSource, isTarget, eq_text_of_text? readName,
    eq_text_of_text? readVersion, eq_text_of_text? readSource, eq_text_of_text? readTarget]

/-- The header and the rules of an outline come from the fields of these names. -/
theorem sections_of_outline {fields : Fields Value} {outline : Outline}
    (read : Outline.ofValue? (.object fields) = some outline) :
    (∃ header, Fields.get? "driver" fields = some header ∧
        Header.ofValue? header = some outline.header) ∧
      Fields.get? "mappings" fields = some (.object outline.mappings) := by
  simp only [Outline.ofValue?, Record.contents?, Option.bind_eq_bind, Option.bind_some,
    Option.bind_eq_some_iff, required_eq_some, Option.pure_def, Option.some.injEq] at read
  obtain ⟨header, isHeader, mappings, ⟨_, isMappings, readMappings⟩, constants, -, filters, -,
    rfl⟩ :=
    read
  exact ⟨isHeader, by rw [isMappings, eq_object_of_object? readMappings]⟩

theorem patterns_of_check {header : Header} (checked : header.check = .ok ()) :
    header.version.toList ∈ versionPattern ∧ header.source.toList ∈ identifierPattern ∧
      header.target.toList ∈ identifierPattern := by
  unfold Header.check at checked
  split_ifs at checked with version source target
  simp only [Bool.not_eq_true', Bool.not_eq_false] at version source target
  exact ⟨isVersion_iff.1 version, isIdentifier_iff.1 source, isIdentifier_iff.1 target⟩

/-- A driver has the header of its outline, and the rules that are read from its table. -/
theorem ofOutline_eq_ok {fingerprint : String} {outline : Outline} {driver : Driver}
    (read : ofOutline fingerprint outline = .ok driver) :
    outline.header.check = .ok () ∧ readMappings outline.mappings = .ok driver.mappings ∧
      driver.headerTexts = [("name", outline.header.name), ("version", outline.header.version),
        ("source", outline.header.source), ("target", outline.header.target)] := by
  obtain ⟨⟨⟩, checked, read⟩ := Condition.bind_eq_ok read
  obtain ⟨mappings, readRules, read⟩ := Condition.bind_eq_ok read
  obtain ⟨skipFlowIf, -, read⟩ := Condition.bind_eq_ok read
  obtain ⟨steps, -, read⟩ := Condition.bind_eq_ok read
  cases read
  exact ⟨checked, readRules, rfl⟩

/-- The rules of a document in normal form are those of the document, or it has an empty list. -/
theorem rules_of_tidySection {root raw : Fields Value}
    (found : Fields.get? "mappings" (root.map tidySection) = some (.object raw)) :
    Fields.get? "mappings" root = some (.object raw) ∨
      Fields.get? "mappings" root = some (.array []) ∧ raw = [] := by
  rw [get?_map_tidySection, Option.map_eq_some_iff] at found
  obtain ⟨content, present, tidied⟩ := found
  by_cases empty : content = .array []
  · subst empty
    refine Or.inr ⟨present, ?_⟩
    simpa [tidySection, eq_comm] using tidied
  · refine Or.inl ?_
    simpa [tidySection, empty, present] using tidied

/-- What the first step leaves in a header field is the text that it read there. -/
theorem headerText?_of_tidied {header : Fields Value} {name text : String}
    (named : name ∈ headerFields)
    (isRead : ∃ text, (Fields.get? name header).bind headerText? = some text)
    (tidied : Fields.get? name (tidyFields headerFields header) = some (.text text)) :
    (Fields.get? name header).bind headerText? = some text := by
  obtain ⟨written, readText⟩ := isRead
  obtain ⟨content, present, readContent⟩ := Option.bind_eq_some_iff.1 readText
  rw [get?_tidyFields, present, Option.map_some, if_pos named,
    tidyContent_of_headerText? readContent] at tidied
  rw [readText, Value.text.inj (Option.some.inj tidied)]

/-- The rules of a document have different names, as its own fields have. -/
theorem nodup_names_of_rules {root raw : Fields Value}
    (distinct : (Value.object root).hasDistinctNames)
    (rules : Fields.get? "mappings" root = some (.object raw) ∨
      Fields.get? "mappings" root = some (.array []) ∧ raw = []) : (Fields.names raw).Nodup := by
  rcases rules with present | ⟨-, empty⟩
  · have inside := (Value.hasDistinctNames_object.1 distinct).2 _ (Fields.mem_of_get? present)
    exact (Value.hasDistinctNames_object.1 inside).1
  · rw [empty]
    exact List.nodup_nil

/-- A document that is accepted says the same in its normal form, and what the driver must have
stands in it. -/
theorem writtenIn_of_ofValue {value : Value} (distinct : value.hasDistinctNames) {driver : Driver}
    (read : ofValue value = .ok driver) : WrittenIn value driver := by
  have normal := (ofValue_tidy distinct).trans read
  obtain ⟨document, normalised, read⟩ := Condition.bind_eq_ok read
  obtain ⟨root, header, rfl, rfl, found, allRead⟩ := exists_of_normalDocument distinct normalised
  cases outlined : Outline.ofValue? (.object (root.map tidySection)) with
  | none => simp [outlined] at read
  | some outline =>
    simp only [outlined] at read
    obtain ⟨⟨written, isHeader, readHeader⟩, isRules⟩ := sections_of_outline outlined
    obtain ⟨checked, readRules, texts⟩ := ofOutline_eq_ok read
    rw [get?_map_tidySection, found, Option.map_some, Option.some.injEq] at isHeader
    subst isHeader
    have isText : ∀ field ∈ driver.headerTexts,
        Fields.get? field.1 (tidyFields headerFields header) = some (.text field.2) :=
      texts ▸ texts_of_header readHeader
    have fromHeader : ∀ field ∈ driver.headerTexts,
        (Fields.get? field.1 header).bind headerText? = some field.2 := by
      intro field member
      have named : field.1 ∈ headerFields := List.mem_map_of_mem member
      exact headerText?_of_tidied named (allRead field.1 named) (isText field member)
    have rules := rules_of_tidySection isRules
    have patterns := patterns_of_check checked
    simp only [headerTexts, List.cons.injEq, Prod.mk.injEq, true_and, and_true] at texts
    rw [← texts.2.1, ← texts.2.2.1, ← texts.2.2.2] at patterns
    refine ⟨normal, ⟨header, found, fromHeader⟩, ?_, patterns.1, patterns.2.1, patterns.2.2, ?_,
      outline.mappings, rules, forall₂_of_readMappings readRules⟩
    · intro field member
      obtain ⟨content, -, readContent⟩ := Option.bind_eq_some_iff.1 (fromHeader field member)
      exact isTrimmed_of_headerText? readContent
    · rw [names_of_readMappings readRules]
      exact nodup_names_of_rules distinct rules

/-- A header with white space and a number in it, and rules in an order of their own. -/
def paddedDocument : Value :=
  .object
    [("mappings", .object
        [("title", .text "{{ source.title }}"),
          ("amount", .object
            [("source", .text "source.items"), ("transform", .text "count")])]),
      ("driver", .object
        [("target", .text " FormFlowInstructions"), ("name", .ofInt 7), ("owner", .text " desk "),
          ("version", .number (.float ⟨false, 3 * twoTo 1073⟩)),
          ("source", .text "\t\\App\\Models::Voucher\n")])]

theorem writtenIn_of_ofValue_padded :
    paddedDocument.hasDistinctNames ∧
      ∃ driver, ofValue paddedDocument = .ok driver ∧ WrittenIn paddedDocument driver ∧
        driver.headerTexts = [("name", "7"), ("version", "1.5"),
          ("source", "\\App\\Models::Voucher"), ("target", "FormFlowInstructions")] ∧
        Fields.names driver.mappings = ["title", "amount"] := by
  have distinct : paddedDocument.hasDistinctNames := by decide
  have answered : (ofValue paddedDocument).toOption.map
      (fun driver => (driver.headerTexts, Fields.names driver.mappings)) =
        some ([("name", "7"), ("version", "1.5"), ("source", "\\App\\Models::Voucher"),
          ("target", "FormFlowInstructions")], ["title", "amount"]) := by
    decide +kernel
  obtain ⟨driver, isDriver, same⟩ := Option.map_eq_some_iff.1 answered
  have read := eq_ok_of_toOption isDriver
  exact ⟨distinct, driver, read, writtenIn_of_ofValue distinct read, Prod.mk.inj same⟩

end Driver

end Intake
