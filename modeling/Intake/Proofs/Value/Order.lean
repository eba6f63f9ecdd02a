import Intake.Condition.Evaluation
import Intake.Proofs.Value.Equality

/-!
# Laws of the loose order

Equality and order of values are two separate readings of the same pairs, and they agree. Turning
the sides of a comparison around turns its answer around, values of the same rank are loosely equal,
and loosely equal values have the same rank unless there is an object in them, since two objects
have no order. So the operators of a condition do not contradict each other.
-/

namespace Intake

open Std (LawfulEqOrd OrientedOrd)

theorem swap_compare {α : Type} [Ord α] [OrientedOrd α] (left right : α) :
    (compare left right).swap = compare right left :=
  OrientedOrd.eq_swap.symm

namespace Value

theorem swap_compareScalars (left right : Value) :
    (left.compareScalars right).swap = right.compareScalars left := by
  unfold compareScalars
  cases left.asFloat? <;> cases right.asFloat? <;> exact swap_compare _ _

theorem swap_looseCompareItems {lefts rights : List Value}
    (turns : ∀ item ∈ lefts, ∀ other,
      (item.looseCompare other).map Ordering.swap = other.looseCompare item) :
    (looseCompareItems lefts rights).map Ordering.swap = looseCompareItems rights lefts := by
  induction lefts generalizing rights with
  | nil => cases rights <;> rfl
  | cons item lefts ih =>
    rw [List.forall_mem_cons] at turns
    cases rights with
    | nil => rfl
    | cons other rights =>
      rw [looseCompareItems, looseCompareItems, ← turns.1 other]
      cases item.looseCompare other with
      | none => rfl
      | some order =>
        cases order with
        | eq => exact ih turns.2
        | lt | gt => rfl

/-- Turning the sides of a comparison around turns its answer around. -/
theorem swap_looseCompare (left right : Value) :
    (left.looseCompare right).map Ordering.swap = right.looseCompare left := by
  induction left using memberInduction generalizing right with
  | null | bool | number | text | object =>
    cases right <;> simp [looseCompare, isTruthy, swap_compare, swap_compareScalars]
  | array items ih =>
    cases right with
    | array others =>
      rw [looseCompare, looseCompare]
      by_cases same : items.length = others.length
      · rw [if_pos same, if_pos same.symm]
        exact swap_looseCompareItems ih
      · rw [if_neg same, if_neg (Ne.symm same)]
        exact congrArg some (swap_compare _ _)
    | _ => simp [looseCompare, swap_compare]

section Equal

variable {left right : Value}

theorem compareScalars_numbers_iff {number other : Number} :
    (Value.number number).compareScalars (.number other) = .eq ↔
      number.toFloat.eqValue other.toFloat = true :=
  Binary64.compareValue_eq_eq_iff

theorem compareScalars_number_text_iff {number : Number} {content : String} :
    (Value.number number).compareScalars (.text content) = .eq ↔
      looseEqNumberText number content = true := by
  rw [looseEqNumberText_eq]
  cases found : Numeral.textFloat? content.toList with
  | some other =>
    simp only [compareScalars, asFloat?, found, Option.any_some]
    exact Binary64.compareValue_eq_eq_iff
  | none =>
    -- The text of a number is worth a number, so it is not this one.
    have different : number.displayText ≠ content.toList := by
      obtain ⟨numeral, plain, same⟩ := number.exists_isPlain_displayText
      have worth := plain.isSome_textFloat?_plainText
      intro equal
      rw [← same, equal, found] at worth
      cases worth
    simp [compareScalars, asFloat?, found, display, different]

theorem compareScalars_text_number_iff {number : Number} {content : String} :
    (text content).compareScalars (.number number) = .eq ↔
      looseEqNumberText number content = true := by
  rw [← swap_compareScalars, ← compareScalars_number_text_iff, Ordering.swap_eq_eq]

theorem compareScalars_texts_iff {content other : String} :
    (text content).compareScalars (.text other) = .eq ↔ looseEqTexts content other = true := by
  unfold compareScalars looseEqTexts
  simp only [asFloat?, display]
  cases Numeral.textFloat? content.toList with
  | none => simp [String.toList_inj]
  | some number =>
    cases Numeral.textFloat? other.toList with
    | none => simp [String.toList_inj]
    | some otherNumber => exact Binary64.compareValue_eq_eq_iff

theorem looseCompare_bool_eq_iff {truth : Bool} :
    left.looseCompare (.bool truth) = some .eq ↔ left.looseEq (.bool truth) = true := by
  have compared : left.looseCompare (.bool truth) = some (compare left.isTruthy truth) := by
    cases left <;> simp [looseCompare, isTruthy]
  have equated : left.looseEq (.bool truth) = (truth == left.isTruthy) := by
    cases left <;> simp [looseEq, isTruthy, Bool.beq_comm]
  rw [compared, equated, Option.some.injEq, LawfulEqOrd.compare_eq_iff_eq, beq_iff_eq, eq_comm]

/-- Values that are not two collections of one kind have the same rank if they are equal. -/
theorem looseCompare_eq_iff_of_scalars (scalars : areCollections left right = false) :
    left.looseCompare right = some .eq ↔ left.looseEq right = true := by
  cases right with
  | bool truth => exact looseCompare_bool_eq_iff
  | _ =>
    cases left <;>
      simp_all [areCollections, looseCompare, looseEq, isTruthy, compareScalars_numbers_iff,
        compareScalars_number_text_iff, compareScalars_text_number_iff, compareScalars_texts_iff]

theorem looseCompareItems_eq_iff {lefts rights : List Value}
    (length : lefts.length = rights.length) :
    looseCompareItems lefts rights = some .eq ↔
      List.Forall₂ (fun item other => item.looseCompare other = some .eq) lefts rights := by
  induction lefts generalizing rights with
  | nil =>
    obtain rfl := List.length_eq_zero_iff.1 length.symm
    simp [looseCompareItems]
  | cons item lefts ih =>
    cases rights with
    | nil => cases length
    | cons other rights =>
      rw [looseCompareItems, List.forall₂_cons, ← ih (Nat.succ.inj length)]
      cases item.looseCompare other with
      | none => simp
      | some order => cases order <;> simp

theorem looseCompare_arrays_eq_iff {items others : List Value} :
    (array items).looseCompare (array others) = some .eq ↔
      List.Forall₂ (fun item other => item.looseCompare other = some .eq) items others := by
  rw [looseCompare]
  by_cases same : items.length = others.length
  · rw [if_pos same, looseCompareItems_eq_iff same]
  · rw [if_neg same, Option.some.injEq, LawfulEqOrd.compare_eq_iff_eq]
    exact ⟨fun equal => absurd equal same, fun related => absurd related.length_eq same⟩

/-- Values of the same rank are loosely equal. -/
theorem looseEq_of_looseCompare (equal : left.looseCompare right = some .eq) :
    left.looseEq right = true := by
  induction left using memberInduction generalizing right with
  | null | bool | number | text => exact (looseCompare_eq_iff_of_scalars rfl).1 equal
  | array items ih =>
    cases right with
    | array others =>
      rw [looseCompare_arrays_eq_iff] at equal
      rw [memberwise_looseEq.array]
      exact forall₂_imp_of_mem equal fun item member _ _ => ih item member
    | _ => exact (looseCompare_eq_iff_of_scalars rfl).1 equal
  | object fields =>
    cases right with
    | object others => simp [looseCompare] at equal
    | _ => exact (looseCompare_eq_iff_of_scalars rfl).1 equal

/-- Whether there is no object in a value. -/
def isObjectFree : Value → Bool :=
  fold (fun _ => true) (fun items => items.all id) fun _ => false

theorem isObjectFree_array {items : List Value} :
    (array items).isObjectFree ↔ ∀ item ∈ items, item.isObjectFree := by
  simp [isObjectFree]

theorem not_isObjectFree_object {fields : Fields Value} : ¬ (object fields).isObjectFree := by
  simp [isObjectFree]

/-- Loosely equal values have the same rank if there is no object in them. -/
theorem looseCompare_of_looseEq (leftFree : left.isObjectFree) (rightFree : right.isObjectFree)
    (equal : left.looseEq right = true) : left.looseCompare right = some .eq := by
  induction left using memberInduction generalizing right with
  | null | bool | number | text => exact (looseCompare_eq_iff_of_scalars rfl).2 equal
  | array items ih =>
    cases right with
    | array others =>
      rw [isObjectFree_array] at leftFree rightFree
      rw [memberwise_looseEq.array] at equal
      rw [looseCompare_arrays_eq_iff]
      exact forall₂_imp_of_mem equal fun item member other inOthers =>
        ih item member (leftFree item member) (rightFree other inOthers)
    | _ => exact (looseCompare_eq_iff_of_scalars rfl).2 equal
  | object fields => exact absurd leftFree not_isObjectFree_object

end Equal

end Value

namespace Condition

section Operators

variable {left right : Value}

theorem compareHolds_less (left right : Value) :
    compareHolds .less left right = compareHolds .greater right left := by
  simp only [compareHolds]
  rw [← Value.swap_looseCompare left right]
  cases left.looseCompare right with
  | none => rfl
  | some order => cases order <;> rfl

theorem looseCompare_beq_eq (leftFree : left.isObjectFree) (rightFree : right.isObjectFree) :
    (left.looseCompare right == some .eq) = left.looseEq right := by
  rw [Bool.eq_iff_iff, beq_iff_eq]
  exact ⟨Value.looseEq_of_looseCompare, Value.looseCompare_of_looseEq leftFree rightFree⟩

theorem not_less_and_equal (leftFree : left.isObjectFree) (rightFree : right.isObjectFree) :
    ¬ (compareHolds .less left right = true ∧ compareHolds .equal left right = true) := by
  rintro ⟨less, equal⟩
  have rank := Value.looseCompare_of_looseEq leftFree rightFree equal
  rw [compareHolds, rank] at less
  cases less

end Operators

/-- Whether a comparison of two operands holds. -/
def testHolds (renderer : Renderer) (context : Context) (left : Operand) (operator : Comparison)
    (right : Operand) : Bool :=
  treeHolds renderer context (.compare left operator right)

/-- Turning two values around turns their order around, and values of the same rank are loosely
equal. Where there are no objects, loosely equal values have the same rank, so the operators of a
condition fit together. -/
theorem order_laws :
    (∀ left right : Value,
      right.looseCompare left = (left.looseCompare right).map Ordering.swap) ∧
    (∀ left right : Value, left.looseCompare right = some .eq → left.looseEq right = true) ∧
    (∀ left right : Value, left.isObjectFree → right.isObjectFree → left.looseEq right = true →
      left.looseCompare right = some .eq) ∧
    ∀ (renderer : Renderer) (context : Context) (left right : Operand),
      (resolve renderer context left).isObjectFree →
      (resolve renderer context right).isObjectFree →
        let holds := testHolds renderer context
        holds left .less right = holds right .greater left ∧
        holds left .greaterOrEqual right =
          (holds left .greater right || holds left .equal right) ∧
        holds left .lessOrEqual right = (holds left .less right || holds left .equal right) ∧
        ¬ (holds left .less right = true ∧ holds left .equal right = true) := by
  refine ⟨fun left right => (Value.swap_looseCompare left right).symm,
    fun left right => Value.looseEq_of_looseCompare,
    fun left right => Value.looseCompare_of_looseEq, ?_⟩
  intro renderer context left right leftFree rightFree
  simp only [testHolds, treeHolds]
  have ranked := looseCompare_beq_eq leftFree rightFree
  refine ⟨compareHolds_less _ _, ?_, ?_, not_less_and_equal leftFree rightFree⟩
  · exact congrArg (compareHolds .greater _ _ || ·) ranked
  · exact congrArg (compareHolds .less _ _ || ·) ranked

/-- Two lists that are equal item by item, one of them with texts for the numbers, and a list that
comes behind both. -/
def seatContext : Context where
  base := [("row", .array [.ofInt 7, .null]), ("label", .array [.text " 7.0", .text ""]),
    ("next", .array [.text "1e1", .bool true])]

theorem order_laws_seats :
    let row := Operand.path "row".toList
    let label := Operand.path "label".toList
    let next := Operand.path "next".toList
    let holds := testHolds {} seatContext
    (resolve {} seatContext row).isObjectFree ∧ (resolve {} seatContext label).isObjectFree ∧
      (resolve {} seatContext next).isObjectFree ∧ holds row .equal label = true ∧
      holds row .greaterOrEqual label = true ∧ holds row .less label = false ∧
      holds row .less next = true ∧ holds next .greater row = true := by
  intro row label next holds
  have rowFree : (resolve {} seatContext row).isObjectFree := by decide +kernel
  have labelFree : (resolve {} seatContext label).isObjectFree := by decide +kernel
  have nextFree : (resolve {} seatContext next).isObjectFree := by decide +kernel
  have equal : testHolds {} seatContext row .equal label = true := by decide +kernel
  have less : holds row .less next = true := by decide +kernel
  obtain ⟨-, fromRank, toRank, coherent⟩ := order_laws
  obtain ⟨-, greaterOrEqual, -, exclusive⟩ := coherent {} seatContext row label rowFree labelFree
  obtain ⟨turned, -⟩ := coherent {} seatContext row next rowFree nextFree
  -- The two lists have the same rank because they are equal, and equal because of their rank.
  have equated := fromRank _ _ (toRank _ _ rowFree labelFree equal)
  refine ⟨rowFree, labelFree, nextFree, equated, ?_, ?_, less, turned.symm.trans less⟩
  · rw [equal, Bool.or_true] at greaterOrEqual
    exact greaterOrEqual
  · exact Bool.eq_false_iff.2 fun below => exclusive ⟨below, equal⟩

end Condition

end Intake
