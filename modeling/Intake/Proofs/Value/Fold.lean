import Intake.Value.Basic
import Mathlib.Data.List.Forall2

/-!
# Values from the leaves up

A value is a tree: its leaves are null, booleans, numbers, and texts, and arrays and objects hold
members, which are read one after the other. What is computed from the members of a collection
alone is a fold. Three folds are used throughout: the depth of nesting, the texts in a value, and
the value with every text changed in its place.
-/

namespace Intake

theorem map_eq_self {α : Type} {change : α → α} {items : List α}
    (kept : ∀ item ∈ items, change item = item) : items.map change = items :=
  (List.map_congr_left kept).trans (List.map_id items)

theorem eq_ok_of_toOption {ε α : Type} {result : Except ε α} {answer : α}
    (answered : result.toOption = some answer) : result = .ok answer := by
  cases result with
  | error fault => cases answered
  | ok other =>
    cases answered
    rfl

/-- Reading a list succeeds when reading each item does. -/
theorem mapM_eq_ok {ε α β : Type} {read : α → Except ε β} {result : α → β} {items : List α}
    (reads : ∀ item ∈ items, read item = .ok (result item)) :
    items.mapM read = .ok (items.map result) := by
  induction items with
  | nil => rfl
  | cons item others ih =>
    rw [List.forall_mem_cons] at reads
    rw [List.mapM_cons, reads.1, ih reads.2]
    rfl

/-- What is read from a list without a fault is read item by item. -/
theorem forall₂_of_mapM {ε α β : Type} {read : α → Except ε β} {items : List α} {results : List β}
    (reads : items.mapM read = .ok results) :
    List.Forall₂ (fun item result => read item = .ok result) items results := by
  induction items generalizing results with
  | nil =>
    cases reads
    exact .nil
  | cons item others ih =>
    rw [List.mapM_cons] at reads
    cases first : read item with
    | error fault =>
      rw [first] at reads
      cases reads
    | ok result =>
      cases rest : others.mapM read with
      | error fault =>
        rw [first, rest] at reads
        cases reads
      | ok more =>
        rw [first, rest] at reads
        cases reads
        exact .cons first (ih rest)

/-- Each of the results is read from one of the items. -/
theorem exists_mem_of_mapM {α β : Type} {read : α → Option β} {items : List α} {results : List β}
    (reads : items.mapM read = some results) {result : β} (member : result ∈ results) :
    ∃ item ∈ items, read item = some result := by
  induction items generalizing results with
  | nil =>
    cases reads
    cases member
  | cons item others ih =>
    simp only [List.mapM_cons, Option.bind_eq_bind, Option.bind_eq_some_iff, Option.pure_def,
      Option.some.injEq] at reads
    obtain ⟨first, readFirst, rest, readRest, rfl⟩ := reads
    rcases List.mem_cons.1 member with rfl | later
    · exact ⟨item, List.mem_cons_self, readFirst⟩
    · obtain ⟨other, inside, readOther⟩ := ih readRest later
      exact ⟨other, List.mem_cons_of_mem _ inside, readOther⟩

namespace Value

/-- What holds of the leaves, and of a collection when it holds of the members, holds of all
values. -/
theorem memberInduction {motive : Value → Prop} (null : motive .null)
    (bool : ∀ value, motive (.bool value)) (number : ∀ value, motive (.number value))
    (text : ∀ value, motive (.text value))
    (array : ∀ items, (∀ item ∈ items, motive item) → motive (.array items))
    (object : ∀ fields, (∀ field ∈ fields, motive field.2) → motive (.object fields)) :
    ∀ value, motive value
  | .null => null
  | .bool value => bool value
  | .number value => number value
  | .text value => text value
  | .array items => array items fun item _ =>
      memberInduction null bool number text array object item
  | .object fields => object fields fun field member =>
      have smaller : sizeOf field.2 < sizeOf fields := by
        have inside := List.sizeOf_lt_of_mem member
        have content : sizeOf field.2 < sizeOf field := by
          rw [Prod.mk.sizeOf_spec]
          omega
        exact Nat.lt_trans content inside
      memberInduction null bool number text array object field.2

section Fold

variable {α : Type} (leaf : Value → α) (array : List α → α) (object : Fields α → α)

mutual

/-- What the leaves of a value yield, put together by collections. -/
def fold : Value → α
  | .array items => array (foldItems items)
  | .object fields => object (foldFields fields)
  | value => leaf value

/-- What the items of an array yield. -/
def foldItems : List Value → List α
  | [] => []
  | item :: others => fold item :: foldItems others

/-- What the fields of an object yield, under their names. -/
def foldFields : List (String × Value) → Fields α
  | [] => []
  | (name, content) :: others => (name, fold content) :: foldFields others

end

theorem foldItems_eq_map (items : List Value) :
    foldItems leaf array object items = items.map (fold leaf array object) := by
  induction items with
  | nil => rfl
  | cons item others ih => rw [foldItems, ih, List.map_cons]

theorem foldFields_eq_map (fields : Fields Value) :
    foldFields leaf array object fields =
      fields.map fun field => (field.1, fold leaf array object field.2) := by
  induction fields with
  | nil => rfl
  | cons field others ih => rw [foldFields, ih, List.map_cons]

@[simp] theorem fold_array (items : List Value) :
    fold leaf array object (.array items) = array (items.map (fold leaf array object)) := by
  rw [fold, foldItems_eq_map]

@[simp] theorem fold_object (fields : Fields Value) :
    fold leaf array object (.object fields) =
      object (fields.map fun field => (field.1, fold leaf array object field.2)) := by
  rw [fold, foldFields_eq_map]

end Fold

/-- A leaf with another text, if it is one. -/
def mapText (change : List Char → List Char) : Value → Value
  | .text content => .ofChars (change content.toList)
  | value => value

/-- A value with every text in it changed; the rest of it stays, names and their order included. -/
def mapTexts (change : List Char → List Char) : Value → Value :=
  fold (mapText change) .array .object

/-- The text of a leaf, if it is one. -/
def leafTexts : Value → List String
  | .text content => [content]
  | _ => []

/-- The texts in a value, in order; names of fields are not among them. -/
def texts : Value → List String :=
  fold leafTexts List.flatten fun fields => (Fields.contents fields).flatten

section MapTexts

variable (change : List Char → List Char)

@[simp] theorem mapTexts_text (content : String) :
    (text content).mapTexts change = .ofChars (change content.toList) :=
  rfl

@[simp] theorem mapTexts_array (items : List Value) :
    (array items).mapTexts change = .array (items.map (mapTexts change)) :=
  fold_array _ _ _ items

@[simp] theorem mapTexts_object (fields : Fields Value) :
    (object fields).mapTexts change =
      .object (fields.map fun field => (field.1, field.2.mapTexts change)) :=
  fold_object _ _ _ fields

theorem mem_texts_array {items : List Value} {item : Value} {content : String}
    (member : item ∈ items) (inside : content ∈ item.texts) : content ∈ (array items).texts := by
  rw [texts, fold_array, List.mem_flatten]
  exact ⟨item.texts, List.mem_map_of_mem member, inside⟩

theorem mem_texts_object {fields : Fields Value} {field : String × Value} {content : String}
    (member : field ∈ fields) (inside : content ∈ field.2.texts) :
    content ∈ (object fields).texts := by
  rw [texts, fold_object, List.mem_flatten]
  refine ⟨field.2.texts, ?_, inside⟩
  rw [Fields.contents, List.map_map]
  exact List.mem_map.2 ⟨field, member, rfl⟩

variable {change}

/-- A value whose texts stay as they are stays as it is. -/
theorem mapTexts_eq_self {value : Value}
    (kept : ∀ content ∈ value.texts, change content.toList = content.toList) :
    value.mapTexts change = value := by
  induction value using memberInduction with
  | null => rfl
  | bool value => rfl
  | number value => rfl
  | text content =>
    rw [mapTexts_text, kept content (List.mem_singleton_self content), ofChars,
      String.ofList_toList]
  | array items ih =>
    rw [mapTexts_array]
    congr 1
    apply map_eq_self
    intro item member
    exact ih item member fun content inside => kept content (mem_texts_array member inside)
  | object fields ih =>
    rw [mapTexts_object]
    congr 1
    apply map_eq_self
    intro field member
    have same := ih field member fun content inside =>
      kept content (mem_texts_object member inside)
    rw [same]

end MapTexts

/-- The levels of a collection whose members have these: one more than the deepest member. -/
def levelsOver (depths : List Nat) : Nat :=
  depths.foldr (fun depth deepest => max (depth + 1) deepest) 0

/-- The levels of nesting in a value; a leaf has none, and neither has an empty collection. -/
def depth : Value → Nat :=
  fold (fun _ => 0) levelsOver fun depths => levelsOver (Fields.contents depths)

theorem levelsOver_le_iff {depths : List Nat} {bound : Nat} :
    levelsOver depths ≤ bound ↔ ∀ depth ∈ depths, depth < bound := by
  induction depths with
  | nil => simp [levelsOver]
  | cons depth depths ih =>
    rw [List.forall_mem_cons, ← ih]
    simp only [levelsOver, List.foldr_cons]
    omega

theorem depth_array_le_iff {items : List Value} {bound : Nat} :
    (array items).depth ≤ bound ↔ ∀ item ∈ items, item.depth < bound := by
  rw [depth, fold_array, levelsOver_le_iff, List.forall_mem_map]

theorem depth_object_le_iff {fields : Fields Value} {bound : Nat} :
    (object fields).depth ≤ bound ↔ ∀ field ∈ fields, field.2.depth < bound := by
  rw [depth, fold_object, levelsOver_le_iff, Fields.contents, List.map_map, List.forall_mem_map]
  rfl

end Value

end Intake
