import Intake.Proofs.Value.Fold
import Intake.Proofs.Value.Retyping
import Mathlib.Data.List.Forall2
import Mathlib.Data.List.Perm.Subperm

/-!
# Laws of equality

Both equalities of values go through arrays item by item and through objects name by name, and look
the names up on one side only. For documents, in which no object has a name twice, that is enough:
strict equality is an equivalence that does not see the order of fields, and loose equality, which
is reflexive and symmetric, holds wherever strict equality does.
-/

namespace Intake

namespace Fields

variable {α : Type}

/-- As many fields on both sides, and for each of the left a namesake on the right to which its
content is related. -/
def Match (relates : α → α → Prop) (left right : Fields α) : Prop :=
  left.length = right.length ∧
    ∀ field ∈ left, ∃ content, get? field.1 right = some content ∧ relates field.2 content

namespace Match

variable {relates other : α → α → Prop} {left middle right : Fields α}

theorem imp (matched : Match relates left right)
    (related : ∀ field ∈ left, ∀ content, relates field.2 content → other field.2 content) :
    Match other left right := by
  refine ⟨matched.1, fun field member => ?_⟩
  obtain ⟨content, found, holds⟩ := matched.2 field member
  exact ⟨content, found, related field member content holds⟩

theorem trans (first : Match relates left middle) (second : Match relates middle right)
    (composes : ∀ field ∈ left, ∀ between content, relates field.2 between →
      relates between content → relates field.2 content) : Match relates left right := by
  refine ⟨first.1.trans second.1, fun field member => ?_⟩
  obtain ⟨between, found, holds⟩ := first.2 field member
  obtain ⟨content, isFound, goesOn⟩ := second.2 _ (mem_of_get? found)
  exact ⟨content, isFound, composes field member between content holds goesOn⟩

theorem of_perm (perm : left.Perm right) (distinct : (names left).Nodup)
    (related : ∀ field ∈ left, relates field.2 field.2) : Match relates left right := by
  have rightDistinct : (names right).Nodup := (perm.map Prod.fst).nodup_iff.1 distinct
  refine ⟨perm.length_eq, fun field member => ⟨field.2, ?_, related field member⟩⟩
  exact get?_of_mem rightDistinct (perm.mem_iff.1 member)

/-- Where no name is there twice, matching fields have the same names. -/
theorem names_perm (matched : Match relates left right) (distinct : (names left).Nodup) :
    (names left).Perm (names right) := by
  have inside : names left ⊆ names right := by
    intro name member
    obtain ⟨field, inLeft, rfl⟩ := List.mem_map.1 member
    obtain ⟨content, found, -⟩ := matched.2 field inLeft
    exact List.mem_map.2 ⟨_, mem_of_get? found, rfl⟩
  have length : (names right).length ≤ (names left).length := by
    rw [names, names, List.length_map, List.length_map, matched.1]
  exact (List.subperm_of_subset distinct inside).perm_of_length_le length

/-- Names that are looked up on the right alone are there on both sides. -/
theorem turn (matched : Match relates left right) (leftDistinct : (names left).Nodup)
    (rightDistinct : (names right).Nodup)
    (turned : ∀ field ∈ left, ∀ opposite ∈ right, relates field.2 opposite.2 →
      other opposite.2 field.2) :
    Match other right left := by
  refine ⟨matched.1.symm, fun opposite member => ?_⟩
  have named : opposite.1 ∈ names right := List.mem_map_of_mem member
  obtain ⟨⟨name, content⟩, inLeft, same⟩ :=
    List.mem_map.1 ((matched.names_perm leftDistinct).mem_iff.2 named)
  obtain rfl : name = opposite.1 := same
  obtain ⟨found, isFound, holds⟩ := matched.2 _ inLeft
  obtain rfl : opposite.2 = found :=
    Option.some.inj ((get?_of_mem rightDistinct member).symm.trans isFound)
  exact ⟨content, get?_of_mem leftDistinct inLeft, turned _ inLeft opposite member holds⟩

end Match

end Fields

namespace Value

/-- Whether no object in a value has a name twice. -/
def hasDistinctNames : Value → Bool :=
  fold (fun _ => true) (fun items => items.all id) fun fields =>
    decide (Fields.names fields).Nodup && (Fields.contents fields).all id

theorem hasDistinctNames_array {items : List Value} :
    (array items).hasDistinctNames ↔ ∀ item ∈ items, item.hasDistinctNames := by
  simp [hasDistinctNames]

theorem hasDistinctNames_object {fields : Fields Value} :
    (object fields).hasDistinctNames ↔
      (Fields.names fields).Nodup ∧ ∀ field ∈ fields, field.2.hasDistinctNames := by
  simp [hasDistinctNames, Fields.contents, Fields.names, Function.comp_def]

/-- Changing texts leaves names different from each other. -/
theorem hasDistinctNames_mapTexts (change : List Char → List Char) {value : Value}
    (distinct : value.hasDistinctNames) : (value.mapTexts change).hasDistinctNames := by
  induction value using memberInduction with
  | null => rfl
  | bool value => rfl
  | number value => rfl
  | text content => rfl
  | array items ih =>
    rw [hasDistinctNames_array] at distinct
    rw [mapTexts_array, hasDistinctNames_array, List.forall_mem_map]
    exact fun item member => ih item member (distinct item member)
  | object fields ih =>
    rw [hasDistinctNames_object] at distinct
    rw [mapTexts_object, hasDistinctNames_object, List.forall_mem_map]
    refine ⟨?_, fun field member => ih field member (distinct.2 field member)⟩
    rw [Fields.names, List.map_map]
    exact distinct.1

section Members

variable {equal : Value → Value → Bool}

theorem eachItem_iff {items : List Value → List Value → Bool} (nil : items [] [] = true)
    (cons : ∀ left lefts right rights,
      items (left :: lefts) (right :: rights) = (equal left right && items lefts rights))
    (longer : ∀ left lefts, items (left :: lefts) [] = false)
    (shorter : ∀ right rights, items [] (right :: rights) = false) {left right : List Value} :
    items left right = true ↔
      List.Forall₂ (fun item other => equal item other = true) left right := by
  induction left generalizing right with
  | nil =>
    cases right with
    | nil => simp [nil]
    | cons other others => simp [shorter]
  | cons item lefts ih =>
    cases right with
    | nil => simp [longer]
    | cons other rights => simp [cons, ih]

theorem eachField_iff {fields : Fields Value → Fields Value → Bool}
    (nil : ∀ right, fields [] right = true)
    (cons : ∀ name left lefts right, fields ((name, left) :: lefts) right =
      ((match Fields.get? name right with
        | some content => equal left content
        | none => false) && fields lefts right)) {left right : Fields Value} :
    fields left right = true ↔
      ∀ field ∈ left, ∃ content, Fields.get? field.1 right = some content ∧
        equal field.2 content = true := by
  induction left with
  | nil => simp [nil]
  | cons field lefts ih =>
    obtain ⟨name, content⟩ := field
    rw [cons, Bool.and_eq_true, ih, List.forall_mem_cons]
    refine and_congr_left fun _ => ?_
    cases Fields.get? name right <;> simp

end Members

/-- Two arrays or two objects. -/
def areCollections : Value → Value → Bool
  | array _, array _ | object _, object _ => true
  | _, _ => false

/-- An equality that goes through arrays item by item and through objects name by name. -/
structure Memberwise (equal : Value → Value → Bool) : Prop where
  array : ∀ left right, equal (.array left) (.array right) = true ↔
    List.Forall₂ (fun item other => equal item other = true) left right
  object : ∀ left right, equal (.object left) (.object right) = true ↔
    Fields.Match (fun content other => equal content other = true) left right

theorem memberwise_strictEq : Memberwise strictEq where
  array left right := by
    rw [strictEq]
    exact eachItem_iff rfl (fun _ _ _ _ => rfl) (fun _ _ => rfl) (fun _ _ => rfl)
  object left right := by
    rw [strictEq, Bool.and_eq_true, beq_iff_eq]
    exact and_congr_right fun _ => eachField_iff (fun _ => rfl) (fun _ _ _ _ => rfl)

theorem memberwise_looseEq : Memberwise looseEq where
  array left right := by
    rw [looseEq]
    exact eachItem_iff rfl (fun _ _ _ _ => rfl) (fun _ _ => rfl) (fun _ _ => rfl)
  object left right := by
    rw [looseEq, Bool.and_eq_true, beq_iff_eq]
    exact and_congr_right fun _ => eachField_iff (fun _ => rfl) (fun _ _ _ _ => rfl)

section Items

variable {relates other : Value → Value → Prop} {left middle right : List Value}

theorem forall₂_imp_of_mem (related : List.Forall₂ relates left right)
    (imp : ∀ item ∈ left, ∀ opposite ∈ right, relates item opposite → other item opposite) :
    List.Forall₂ other left right := by
  induction related with
  | nil => exact .nil
  | cons holds _ ih =>
    refine .cons (imp _ List.mem_cons_self _ List.mem_cons_self holds) (ih ?_)
    exact fun item inLeft opposite inRight =>
      imp item (List.mem_cons_of_mem _ inLeft) opposite (List.mem_cons_of_mem _ inRight)

theorem forall₂_trans_of_mem (first : List.Forall₂ relates left middle)
    (second : List.Forall₂ relates middle right)
    (composes : ∀ item ∈ left, ∀ between opposite, relates item between →
      relates between opposite → relates item opposite) : List.Forall₂ relates left right := by
  induction first generalizing right with
  | nil => exact second
  | cons holds _ ih =>
    cases second with
    | cons goesOn others =>
      refine .cons (composes _ List.mem_cons_self _ _ holds goesOn) (ih others ?_)
      exact fun item inLeft => composes item (List.mem_cons_of_mem _ inLeft)

end Items

namespace Memberwise

variable {equal : Value → Value → Bool} (memberwise : Memberwise equal) {left right : Value}

include memberwise

/-- An equality is reflexive on documents if it is on scalars. -/
theorem refl (scalars : ∀ value, areCollections value value = false → equal value value = true)
    {value : Value} (distinct : value.hasDistinctNames) : equal value value = true := by
  induction value using memberInduction with
  | null | bool | number | text => exact scalars _ rfl
  | array items ih =>
    rw [hasDistinctNames_array] at distinct
    rw [memberwise.array, List.forall₂_same]
    exact fun item member => ih item member (distinct item member)
  | object fields ih =>
    rw [hasDistinctNames_object] at distinct
    rw [memberwise.object]
    exact .of_perm (.refl _) distinct.1 fun field member =>
      ih field member (distinct.2 field member)

theorem turn (scalars : ∀ left right, areCollections left right = false →
      equal left right = true → equal right left = true)
    (leftDistinct : left.hasDistinctNames) (rightDistinct : right.hasDistinctNames)
    (holds : equal left right = true) : equal right left = true := by
  induction left using memberInduction generalizing right with
  | null | bool | number | text => exact scalars _ _ rfl holds
  | array items ih =>
    cases right with
    | array others =>
      rw [hasDistinctNames_array] at leftDistinct rightDistinct
      rw [memberwise.array] at holds ⊢
      refine (forall₂_imp_of_mem holds ?_).flip
      exact fun item member other inOthers =>
        ih item member (leftDistinct item member) (rightDistinct other inOthers)
    | _ => exact scalars _ _ rfl holds
  | object fields ih =>
    cases right with
    | object others =>
      rw [hasDistinctNames_object] at leftDistinct rightDistinct
      rw [memberwise.object] at holds ⊢
      refine holds.turn leftDistinct.1 rightDistinct.1 ?_
      exact fun field member other inOthers =>
        ih field member (leftDistinct.2 field member) (rightDistinct.2 other inOthers)
    | _ => exact scalars _ _ rfl holds

/-- An equality is symmetric on documents if it is on scalars. -/
theorem symm (scalars : ∀ left right, areCollections left right = false →
      equal left right = true → equal right left = true)
    (leftDistinct : left.hasDistinctNames) (rightDistinct : right.hasDistinctNames) :
    equal left right = equal right left :=
  Bool.eq_iff_iff.2 ⟨memberwise.turn scalars leftDistinct rightDistinct,
    memberwise.turn scalars rightDistinct leftDistinct⟩

end Memberwise

section Strict

variable {left middle right : Value}

theorem strictEq_turn (leftDistinct : left.hasDistinctNames)
    (rightDistinct : right.hasDistinctNames) (holds : left.strictEq right = true) :
    right.strictEq left = true := by
  refine memberwise_strictEq.turn (fun left right scalars holds => ?_) leftDistinct rightDistinct
    holds
  cases left <;> cases right <;> simp_all [areCollections, strictEq, Binary64.eqValue]

theorem strictEq_self (distinct : left.hasDistinctNames) : left.strictEq left = true := by
  refine memberwise_strictEq.refl (fun value scalar => ?_) distinct
  cases value <;> simp_all [areCollections, strictEq, Binary64.eqValue]

theorem strictEq_trans (first : left.strictEq middle = true)
    (second : middle.strictEq right = true) : left.strictEq right = true := by
  induction left using memberInduction generalizing middle right with
  | null | bool | number | text =>
    cases middle <;> cases right <;> simp_all [strictEq, Binary64.eqValue]
  | array items ih =>
    cases middle with
    | array between =>
      cases right with
      | array others =>
        rw [memberwise_strictEq.array] at first second ⊢
        exact forall₂_trans_of_mem first second fun item member _ _ => ih item member
      | _ => simp [strictEq] at second
    | _ => simp [strictEq] at first
  | object fields ih =>
    cases middle with
    | object between =>
      cases right with
      | object others =>
        rw [memberwise_strictEq.object] at first second ⊢
        exact first.trans second fun field member _ _ => ih field member
      | _ => simp [strictEq] at second
    | _ => simp [strictEq] at first

/-- Strict equality is the finer one. -/
theorem looseEq_of_strictEq (holds : left.strictEq right = true) :
    left.looseEq right = true := by
  induction left using memberInduction generalizing right with
  | null | bool | number => cases right <;> simp_all [strictEq, looseEq, isTruthy]
  | text content =>
    cases right with
    | text other =>
      obtain rfl : content = other := by simpa [strictEq] using holds
      exact looseEq_text_self content
    | _ => simp [strictEq] at holds
  | array items ih =>
    cases right with
    | array others =>
      rw [memberwise_strictEq.array] at holds
      rw [memberwise_looseEq.array]
      exact forall₂_imp_of_mem holds fun item member _ _ => ih item member
    | _ => simp [strictEq] at holds
  | object fields ih =>
    cases right with
    | object others =>
      rw [memberwise_strictEq.object] at holds
      rw [memberwise_looseEq.object]
      exact holds.imp fun field member _ => ih field member
    | _ => simp [strictEq] at holds

end Strict

theorem looseEqTexts_comm (left right : String) :
    looseEqTexts left right = looseEqTexts right left := by
  unfold looseEqTexts
  cases Numeral.textFloat? left.toList <;> cases Numeral.textFloat? right.toList <;>
    simp [Binary64.eqValue, Bool.beq_comm]

theorem looseEq_comm {left right : Value} (leftDistinct : left.hasDistinctNames)
    (rightDistinct : right.hasDistinctNames) : left.looseEq right = right.looseEq left := by
  refine memberwise_looseEq.symm (fun left right scalars holds => ?_) leftDistinct rightDistinct
  cases left <;> cases right <;>
    simp_all [areCollections, looseEq, isTruthy, Binary64.eqValue, looseEqTexts_comm]

theorem looseEq_self {value : Value} (distinct : value.hasDistinctNames) :
    value.looseEq value = true := by
  refine memberwise_looseEq.refl (fun value scalar => ?_) distinct
  cases value with
  | text content => exact looseEq_text_self content
  | _ => simp_all [areCollections, looseEq, isTruthy, Binary64.eqValue]

/-- The same value but for the order of the fields of its objects. -/
inductive Reordered : Value → Value → Prop
  | refl (value : Value) : Reordered value value
  | trans {left middle right : Value} (first : Reordered left middle)
      (second : Reordered middle right) : Reordered left right
  | fields {left right : Fields Value} (perm : left.Perm right) :
    Reordered (.object left) (.object right)
  | item {left right : Value} (front back : List Value) (inside : Reordered left right) :
    Reordered (.array (front ++ left :: back)) (.array (front ++ right :: back))
  | content {left right : Value} (name : String) (front back : Fields Value)
      (inside : Reordered left right) :
    Reordered (.object (front ++ (name, left) :: back)) (.object (front ++ (name, right) :: back))

namespace Reordered

variable {left right : Value} (reordered : Reordered left right)

include reordered

theorem hasDistinctNames (distinct : left.hasDistinctNames) : right.hasDistinctNames := by
  induction reordered with
  | refl => exact distinct
  | trans _ _ first second => exact second (first distinct)
  | fields perm =>
    rw [hasDistinctNames_object] at distinct ⊢
    refine ⟨(perm.map Prod.fst).nodup_iff.1 distinct.1, fun field member => ?_⟩
    exact distinct.2 field (perm.mem_iff.2 member)
  | item front back _ ih =>
    simp only [hasDistinctNames_array, List.forall_mem_append, List.forall_mem_cons] at distinct ⊢
    exact ⟨distinct.1, ih distinct.2.1, distinct.2.2⟩
  | content name front back _ ih =>
    simp only [hasDistinctNames_object, List.forall_mem_append, List.forall_mem_cons,
      Fields.names, List.map_append, List.map_cons] at distinct ⊢
    exact ⟨distinct.1, distinct.2.1, ih distinct.2.2.1, distinct.2.2.2⟩

/-- Strict equality does not see the order of fields. -/
theorem strictEq (distinct : left.hasDistinctNames) : left.strictEq right = true := by
  induction reordered with
  | refl => exact strictEq_self distinct
  | trans first _ ihFirst ihSecond =>
    exact strictEq_trans (ihFirst distinct) (ihSecond (first.hasDistinctNames distinct))
  | fields perm =>
    rw [hasDistinctNames_object] at distinct
    rw [memberwise_strictEq.object]
    exact .of_perm perm distinct.1 fun field member => strictEq_self (distinct.2 field member)
  | item front back _ ih =>
    rw [hasDistinctNames_array, List.forall_mem_append, List.forall_mem_cons] at distinct
    obtain ⟨frontDistinct, insideDistinct, backDistinct⟩ := distinct
    have same : ∀ items : List Value, (∀ item ∈ items, item.hasDistinctNames) →
        List.Forall₂ (fun item other => item.strictEq other = true) items items :=
      fun items each => List.forall₂_same.2 fun item member => strictEq_self (each item member)
    rw [memberwise_strictEq.array]
    exact List.rel_append (same front frontDistinct)
      (.cons (ih insideDistinct) (same back backDistinct))
  | @content _ right name front back inside ih =>
    have rightDistinct := (content name front back inside).hasDistinctNames distinct
    rw [hasDistinctNames_object] at distinct rightDistinct
    have kept : ∀ field ∈ front ++ back, field.2.hasDistinctNames → ∃ found,
        Fields.get? field.1 (front ++ (name, right) :: back) = some found ∧
          field.2.strictEq found = true := by
      intro field member fieldDistinct
      have inRight : field ∈ front ++ (name, right) :: back := by
        rw [List.mem_append] at member
        simp [member.imp_right Or.inr]
      exact ⟨field.2, Fields.get?_of_mem rightDistinct.1 inRight, strictEq_self fieldDistinct⟩
    have changed := Fields.get?_of_mem rightDistinct.1
      (List.mem_append_right front (List.mem_cons_self (a := (name, right))))
    obtain ⟨-, contents⟩ := distinct
    rw [List.forall_mem_append, List.forall_mem_cons] at contents
    rw [memberwise_strictEq.object]
    refine ⟨by simp, ?_⟩
    rw [List.forall_mem_append, List.forall_mem_cons]
    exact ⟨fun field member => kept field (List.mem_append_left _ member) (contents.1 field member),
      ⟨right, changed, ih contents.2.1⟩, fun field member =>
        kept field (List.mem_append_right _ member) (contents.2.2 field member)⟩

end Reordered

/-- A value in which no object has a name twice. -/
abbrev Document :=
  { value : Value // value.hasDistinctNames = true }

/-- On documents strict equality is an equivalence, and documents that differ in the order of fields
alone are strictly equal, to each other and to the same others. Loose equality is reflexive and
symmetric, and documents that are strictly equal are loosely equal. -/
theorem equality_laws :
    (Equivalence fun left right : Document => left.1.strictEq right.1 = true) ∧
    (∀ left right other : Document, Reordered left.1 right.1 →
      left.1.strictEq right.1 = true ∧ left.1.strictEq other.1 = right.1.strictEq other.1) ∧
    (∀ document : Document, document.1.looseEq document.1 = true) ∧
    (∀ left right : Document, left.1.looseEq right.1 = right.1.looseEq left.1) ∧
    ∀ left right : Document, left.1.strictEq right.1 = true → left.1.looseEq right.1 = true := by
  refine ⟨⟨fun document => strictEq_self document.2, ?_, strictEq_trans⟩, ?_,
    fun document => looseEq_self document.2, fun left right => looseEq_comm left.2 right.2,
    fun left right => looseEq_of_strictEq⟩
  · exact fun {left right} => strictEq_turn left.2 right.2
  · intro left right other reordered
    have same := reordered.strictEq left.2
    have turned := strictEq_turn left.2 right.2 same
    exact ⟨same, Bool.eq_iff_iff.2 ⟨strictEq_trans turned, strictEq_trans same⟩⟩

def parcel : Document :=
  ⟨.object [("id", .ofInt 7),
      ("lines", .array [.object [("sku", .text "a"), ("count", .ofInt 2)]])],
    by decide +kernel⟩

/-- The parcel with other places for its fields. -/
def turnedParcel : Document :=
  ⟨.object [("lines", .array [.object [("count", .ofInt 2), ("sku", .text "a")]]),
      ("id", .ofInt 7)],
    by decide +kernel⟩

/-- The parcel with a floating point number. -/
def pointedParcel : Document :=
  ⟨.object [("id", .number (.float (.ofInt 7))),
      ("lines", .array [.object [("sku", .text "a"), ("count", .ofInt 2)]])],
    by decide +kernel⟩

theorem equality_laws_parcel :
    Reordered parcel.1 turnedParcel.1 ∧ parcel.1.strictEq pointedParcel.1 = true ∧
      turnedParcel.1.strictEq pointedParcel.1 = true ∧
      pointedParcel.1.looseEq turnedParcel.1 = true := by
  have line : Reordered (.object [("sku", .text "a"), ("count", .ofInt 2)])
      (.object [("count", .ofInt 2), ("sku", .text "a")]) := .fields (.swap _ _ _)
  have inside : Reordered parcel.1 _ :=
    .content "lines" [("id", .ofInt 7)] [] (.item [] [] line)
  have reordered : Reordered parcel.1 turnedParcel.1 := inside.trans (.fields (.swap _ _ _))
  have pointed : parcel.1.strictEq pointedParcel.1 = true := by decide +kernel
  obtain ⟨equivalence, unseen, -, -, finer⟩ := equality_laws
  have same := (unseen parcel turnedParcel pointedParcel reordered).2
  have turned : turnedParcel.1.strictEq pointedParcel.1 = true := same.symm.trans pointed
  exact ⟨reordered, pointed, turned, finer _ _ (equivalence.symm turned)⟩

end Value

end Intake
