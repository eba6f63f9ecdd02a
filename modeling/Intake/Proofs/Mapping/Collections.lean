import Intake.Mapping.Engine
import Intake.Proofs.Condition.Compose
import Intake.Proofs.Value.Fold

/-!
# Operations on collections

A filter and the one with the negated condition tell the items of a collection apart: each item goes
to one of the two, and both keep the order. Mapping a list yields one value for each item, made of
this item alone. Without a condition or a handler the items come out as they are.
-/

namespace Intake

/-- How two lists are put together to one that keeps the order of both. -/
inductive Interleaved {α : Type} : List α → List α → List α → Prop
  | nil : Interleaved [] [] []
  | left {item : α} {lefts rights whole : List α} (others : Interleaved lefts rights whole) :
    Interleaved (item :: lefts) rights (item :: whole)
  | right {item : α} {lefts rights whole : List α} (others : Interleaved lefts rights whole) :
    Interleaved lefts (item :: rights) (item :: whole)

namespace Interleaved

variable {α : Type} {lefts rights whole : List α}

theorem length_add (parts : Interleaved lefts rights whole) :
    lefts.length + rights.length = whole.length := by
  induction parts with
  | nil => rfl
  | left _ ih =>
    rw [List.length_cons, List.length_cons, ← ih]
    omega
  | right _ ih =>
    rw [List.length_cons, List.length_cons, ← ih]
    omega

theorem filter (keeps : α → Bool) (items : List α) :
    Interleaved (items.filter keeps) (items.filter fun item => !keeps item) items := by
  induction items with
  | nil => exact .nil
  | cons item others ih =>
    cases kept : keeps item with
    | true => simpa [kept] using ih.left
    | false => simpa [kept] using ih.right

end Interleaved

namespace Rule

section Reading

variable {read : String → Value → Except RuleError Rule} {field : String} {fields : Fields Value}
  {path : List Char} {kind : Transformation} {handler : Option Rule} {condition : Option Condition}
  {separator : Option String}

/-- The rule under the key `handler`, which may be missing or null. -/
def readHandler (read : String → Value → Except RuleError Rule) (field : String)
    (fields : Fields Value) : Except RuleError (Option Rule) :=
  match Fields.get? "handler" fields with
  | none | some .null => .ok none
  | some value => (read (field ++ ".handler") value).map some

theorem readTransform_unfolded :
    readTransform read field fields = (do
      let source ← readSource (field ++ ".source") (Fields.get? "source" fields)
      let kind ← readTransformation (field ++ ".transform") (Fields.get? "transform" fields)
      let handler ← readHandler read field fields
      let condition ←
        readOptionalCondition (field ++ ".condition") (Fields.get? "condition" fields)
      let separator ← readSeparator (field ++ ".separator") (Fields.get? "separator" fields)
      return .transform source kind handler condition separator) := by
  rw [readTransform, readHandler]
  cases Fields.get? "handler" fields with
  | none => rfl
  | some value => cases value <;> rfl

theorem readObject_of_transforms (noTemplate : Fields.get? "template" fields = none)
    (transforms : (Fields.has "source" fields && Fields.has "transform" fields) = true) :
    readObject read field fields = readTransform read field fields := by
  rw [readObject, noTemplate]
  exact if_pos transforms

/-- Only an object with the keys of a transformation is read as one. -/
theorem transforms_of_readObject
    (found : readObject read field fields =
      .ok (.transform path kind handler condition separator)) :
    Fields.get? "template" fields = none ∧
      (Fields.has "source" fields && Fields.has "transform" fields) = true := by
  rw [readObject] at found
  split at found
  · cases found
  · cases found
  · next noTemplate =>
    refine ⟨noTemplate, ?_⟩
    by_contra others
    rw [if_neg others] at found
    split at found
    · obtain ⟨origin, -, found⟩ := Condition.bind_eq_ok found
      obtain ⟨test, -, found⟩ := Condition.bind_eq_ok found
      cases found
    · split at found
      · obtain ⟨test, -, found⟩ := Condition.bind_eq_ok found
        obtain ⟨whenTrue, -, found⟩ := Condition.bind_eq_ok found
        obtain ⟨whenFalse, -, found⟩ := Condition.bind_eq_ok found
        cases found
      · obtain ⟨rules, -, found⟩ := Condition.bind_eq_ok found
        cases found

/-- A transformation with another condition is read as the same one with that condition. -/
theorem readObject_insert_condition {content other : String} {first second : Condition}
    (parsed : Condition.parse other.toList = .ok second)
    (found : readObject read field (Fields.insert "condition" (.text content) fields) =
      .ok (.transform path kind handler (some first) separator)) :
    readObject read field (Fields.insert "condition" (.text other) fields) =
      .ok (.transform path kind handler (some second) separator) := by
  obtain ⟨noTemplate, transforms⟩ := transforms_of_readObject found
  rw [readObject_of_transforms noTemplate transforms] at found
  have kept : ∀ name ≠ "condition", ∀ written : Value,
      Fields.get? name (Fields.insert "condition" written fields) = Fields.get? name fields :=
    fun name different written => Fields.get?_insert_of_ne written fields different
  have otherTemplate : Fields.get? "template"
      (Fields.insert "condition" (.text other) fields) = none := by
    rw [kept _ (by decide)] at noTemplate ⊢
    exact noTemplate
  have otherTransforms : (Fields.has "source" (Fields.insert "condition" (.text other) fields) &&
      Fields.has "transform" (Fields.insert "condition" (.text other) fields)) = true := by
    simpa [Fields.has_insert] using transforms
  have written : readOptionalCondition (field ++ ".condition") (some (.text other)) =
      .ok (some second) := by
    simp only [readOptionalCondition, readCondition, parsed]
    rfl
  rw [readObject_of_transforms otherTemplate otherTransforms]
  simp only [readTransform_unfolded, readHandler, kept "source" (by decide),
    kept "transform" (by decide), kept "handler" (by decide), kept "separator" (by decide),
    Fields.get?_insert_self] at found ⊢
  obtain ⟨source, readsSource, found⟩ := Condition.bind_eq_ok found
  obtain ⟨transformation, readsKind, found⟩ := Condition.bind_eq_ok found
  obtain ⟨inner, readsHandler, found⟩ := Condition.bind_eq_ok found
  obtain ⟨test, -, found⟩ := Condition.bind_eq_ok found
  obtain ⟨between, readsSeparator, found⟩ := Condition.bind_eq_ok found
  cases found
  rw [readsSource, readsKind, readsHandler, written, readsSeparator]
  rfl

/-- A document of a transformation is read with any other condition that is accepted. -/
theorem readLevels_insert_condition {levels : Nat} {content other : String}
    {first second : Condition} (parsed : Condition.parse other.toList = .ok second)
    (found : readLevels levels field (.object (Fields.insert "condition" (.text content) fields)) =
      .ok (.transform path kind handler (some first) separator)) :
    readLevels levels field (.object (Fields.insert "condition" (.text other) fields)) =
      .ok (.transform path kind handler (some second) separator) := by
  cases levels with
  | zero => cases found
  | succ levels => exact readObject_insert_condition parsed found

end Reading

end Rule

namespace Engine

theorem itemsOf_of_children? {collection : Value} {items : List Value}
    (listed : Path.children? collection = some items) : itemsOf collection = items := by
  cases collection with
  | array _ => exact Option.some.inj listed
  | object _ => exact Option.some.inj listed
  | null | bool | number | text => cases listed

section Items

variable (engine : Engine) (constants : Fields Value) {context : Context} {path : List Char}
  {collection : Value} {items : List Value}
  (found : (context.get? "source").bind (Value.get? path) = some collection)
  (listed : Path.children? collection = some items)

include found listed

theorem sourceAt?_of_children? : sourceAt? context path = some collection := by
  have present : (!collection.isNull) = true := by
    cases collection with
    | null => cases listed
    | bool | number | text | array | object => rfl
  rw [sourceAt?, found, Option.filter_some, if_pos present]

variable (levels : Nat) (handler : Option Rule) (condition : Option Condition)
  (separator : Option String)

theorem valueAt_filter (test : Condition) :
    engine.valueAt constants (levels + 1) (.transform path .filter handler (some test) separator)
        context =
      .array (items.filter fun item =>
        test.evaluate engine.renderer (context.bind "item" item)) := by
  simp only [valueAt, sourceAt?_of_children? found listed, itemsOf_of_children? listed, holds]

theorem valueAt_filter_none :
    engine.valueAt constants (levels + 1) (.transform path .filter handler none separator)
        context = .array items := by
  simp only [valueAt, sourceAt?_of_children? found listed, itemsOf_of_children? listed]

theorem valueAt_arrayMap (rule : Rule) :
    engine.valueAt constants (levels + 1)
        (.transform path .arrayMap (some rule) condition separator) context =
      .array (items.map fun item =>
        engine.valueAt constants levels rule
          ((context.bind "item" item).bind "priorities" (prioritiesOf constants))) := by
  simp only [valueAt, sourceAt?_of_children? found listed, itemsOf_of_children? listed]

theorem valueAt_arrayMap_none :
    engine.valueAt constants (levels + 1) (.transform path .arrayMap none condition separator)
        context = .array items := by
  simp only [valueAt, sourceAt?_of_children? found listed, itemsOf_of_children? listed]

end Items

/-- What filters and lists make of the items of a collection. A condition and its negation, as it
is written in front of parentheses, tell the items apart; a handler yields one value for each. -/
theorem valueAt_of_items (engine : Engine) (driver : Driver) {context : Context}
    {path : List Char} {collection : Value} {items : List Value}
    (found : (context.get? "source").bind (Value.get? path) = some collection)
    (listed : Path.children? collection = some items) {content : String} {condition : Condition}
    (ok : Condition.parse content.toList = .ok condition)
    (fits : Condition.textNesting content.toList ≤ 62) (levels : Nat) :
    let negated := String.ofList ('!' :: Condition.grouped content.toList)
    let yields := fun rule => engine.valueAt driver.constants (levels + 1) rule context
    (∃ negation, Condition.parse negated.toList = .ok negation ∧
      (∀ depth field fields handler separator,
        Rule.readLevels depth field (.object (Fields.insert "condition" (.text content) fields)) =
            .ok (.transform path .filter handler (some condition) separator) →
          Rule.readLevels depth field (.object (Fields.insert "condition" (.text negated) fields)) =
            .ok (.transform path .filter handler (some negation) separator)) ∧
      ∀ handler separator, ∃ kept dropped,
        yields (.transform path .filter handler (some condition) separator) = .array kept ∧
        yields (.transform path .filter handler (some negation) separator) = .array dropped ∧
        Interleaved kept dropped items ∧ kept.length + dropped.length = items.length ∧
        (∀ item ∈ kept,
          condition.evaluate engine.renderer (context.bind "item" item) = true) ∧
        ∀ item ∈ dropped,
          condition.evaluate engine.renderer (context.bind "item" item) = false) ∧
    (∀ handler condition separator, ∃ results,
      yields (.transform path .arrayMap (some handler) condition separator) = .array results ∧
      results.length = items.length ∧
      ∀ (index : Nat) (item : Value), items[index]? = some item →
        results[index]? =
          some (engine.valueAt driver.constants levels handler
            ((context.bind "item" item).bind "priorities"
              ((Fields.get? "priorities" driver.constants).getD (.array []))))) ∧
    (∀ condition separator,
      yields (.transform path .arrayMap none condition separator) = .array items) ∧
    ∀ handler separator,
      yields (.transform path .filter handler none separator) = .array items := by
  intro negated yields
  have negatedText : negated.toList = '!' :: Condition.grouped content.toList :=
    String.toList_ofList
  have negates := Condition.parse_not_grouped ok fits
  rw [← negatedText] at negates
  refine ⟨⟨_, negates, ?_, ?_⟩, ?_, ?_, ?_⟩
  · intro depth field fields handler separator read
    exact Rule.readLevels_insert_condition negates read
  · intro handler separator
    have parts := Interleaved.filter
      (fun item => condition.evaluate engine.renderer (context.bind "item" item)) items
    refine ⟨_, _, engine.valueAt_filter _ found listed levels handler separator condition,
      ?_, parts, parts.length_add, ?_, ?_⟩
    · refine (engine.valueAt_filter _ found listed levels handler separator _).trans ?_
      simp only [Condition.evaluate, Condition.treeHolds]
    · intro item member
      exact (List.mem_filter.1 member).2
    · intro item member
      simpa using (List.mem_filter.1 member).2
  · intro handler condition separator
    refine ⟨_, engine.valueAt_arrayMap _ found listed levels condition separator handler,
      List.length_map _, ?_⟩
    intro index item inside
    rw [List.getElem?_map, inside]
    rfl
  · intro condition separator
    exact engine.valueAt_arrayMap_none _ found listed levels condition separator
  · intro handler separator
    exact engine.valueAt_filter_none _ found listed levels handler separator

def billDriver : Driver :=
  { name := "bill", version := "1.0", source := "Bill", target := "Record"
    fingerprint := "", constants := [("priorities", .array [.text "high"])] }

/-- A source with a collection of amounts, two of them the same. -/
def billSource : Value :=
  .object [("amounts", .object [("net", .ofInt 5), ("tax", .ofInt 1), ("fee", .ofInt 5)])]

theorem valueAt_of_items_bill :
    let engine : Engine := {}
    let context := engine.contextOf billDriver billSource
    let path := "amounts".toList
    let items := [Value.ofInt 5, .ofInt 1, .ofInt 5]
    let yields := fun rule => engine.valueAt billDriver.constants 2 rule context
    ∃ collection condition negation,
      (context.get? "source").bind (Value.get? path) = some collection ∧
        Path.children? collection = some items ∧
        Condition.parse "item >= 2".toList = .ok condition ∧
        Condition.textNesting "item >= 2".toList ≤ 62 ∧
        Condition.parse "!(item >= 2)".toList = .ok negation ∧
        (∃ dropped,
          yields (.transform path .filter none (some condition) none) =
            .array [.ofInt 5, .ofInt 5] ∧
          yields (.transform path .filter none (some negation) none) = .array dropped ∧
          Interleaved [.ofInt 5, .ofInt 5] dropped items) ∧
        ∃ results,
          yields (.transform path .arrayMap (some (.template "{{ item }} {{ priorities }}"))
            none none) = .array results ∧
          results.length = 3 ∧ results[1]? = some (.text "1 [\"high\"]") := by
  intro engine context path items yields
  have found : (context.get? "source").bind (Value.get? path) =
      some (.object [("net", .ofInt 5), ("tax", .ofInt 1), ("fee", .ofInt 5)]) := by
    decide +kernel
  have listed : Path.children?
      (.object [("net", .ofInt 5), ("tax", .ofInt 1), ("fee", .ofInt 5)]) = some items := rfl
  have fits : Condition.textNesting "item >= 2".toList ≤ 62 := by decide +kernel
  have large : ((Condition.parse "item >= 2".toList).toOption.map fun condition =>
      yields (.transform path .filter none (some condition) none)) =
        some (.array [.ofInt 5, .ofInt 5]) := by
    decide +kernel
  obtain ⟨condition, isCondition, amounts⟩ := Option.map_eq_some_iff.1 large
  have ok := eq_ok_of_toOption isCondition
  obtain ⟨⟨negation, negates, -, told⟩, mapped, -, -⟩ :=
    engine.valueAt_of_items billDriver found listed ok fits 1
  obtain ⟨kept, dropped, keeps, drops, parts, -, -, -⟩ := told none none
  obtain ⟨results, maps, same, each⟩ := mapped (.template "{{ item }} {{ priorities }}") none none
  obtain rfl : kept = [.ofInt 5, .ofInt 5] := Value.array.inj (keeps.symm.trans amounts)
  refine ⟨_, condition, negation, found, listed, ok, fits, ?_, ⟨dropped, keeps, drops, parts⟩,
    results, maps, same, ?_⟩
  · simpa [Condition.grouped] using negates
  · rw [each 1 (.ofInt 1) rfl]
    decide +kernel

end Engine

end Intake
