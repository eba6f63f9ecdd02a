import Intake.Json.Shaped

/-!
# What is read for a shape

A list that is read for a shape has only items that are, and a record only known fields with
contents that are read for their shapes. An optional field of a record that is null is not there.
-/

namespace Intake

namespace Json

/-- Whether a value is read for a shape from some text. -/
def IsRead (shape : Shape) (value : Value) : Prop :=
  ∃ fuel levels text rest, shapedValue? fuel levels shape text = some (value, rest)

/-- Whether the content of a field is read for the shape that a record knows for it. -/
def IsKnown (known : List (String × Shape)) (field : String × Value) : Prop :=
  ∃ shape, (field.1, shape) ∈ known ∧ IsRead shape field.2

theorem isRead_of_shapedItems? {fuel levels : Nat} {shape : Shape} {text rest : List Char}
    {items : List Value} (read : shapedItems? fuel levels shape text = some (items, rest)) :
    ∀ item ∈ items, IsRead shape item := by
  induction fuel generalizing text items with
  | zero => simp [shapedItems?] at read
  | succ fuel ih =>
    rw [shapedItems?] at read
    split at read
    · cases read
    · next item after found =>
      have isRead : IsRead shape item := ⟨fuel, levels, text, after, found⟩
      split at read
      · obtain ⟨⟨others, behind⟩, readOthers, same⟩ := Option.map_eq_some_iff.1 read
        cases same
        exact List.forall_mem_cons.2 ⟨isRead, ih readOthers⟩
      · cases read
        exact List.forall_mem_singleton.2 isRead
      · cases read

theorem isKnown_of_shapedFields? {fuel levels : Nat} {known : List (String × Shape)}
    {written fields : Fields Value} {text rest : List Char}
    (read : shapedFields? fuel levels known written text = some (fields, rest))
    (before : ∀ field ∈ written, IsKnown known field) : ∀ field ∈ fields, IsKnown known field := by
  induction fuel generalizing text written with
  | zero => simp [shapedFields?] at read
  | succ fuel ih =>
    rw [shapedFields?] at read
    split at read
    · cases read
    · next name after found =>
      extract_lets field at read
      cases isField : field with
      | none =>
        rw [isField] at read
        cases read
      | some parts =>
        obtain ⟨written', behind⟩ := parts
        -- a field that is not known leaves what has been read as it is
        have extended : ∀ field ∈ written', IsKnown known field := by
          unfold field at isField
          split at isField
          · obtain ⟨skipped, -, same⟩ := Option.map_eq_some_iff.1 isField
            cases same
            exact before
          · next shape isShape =>
            split at isField
            · cases isField
            · obtain ⟨⟨content, skipped⟩, readContent, same⟩ := Option.map_eq_some_iff.1 isField
              cases same
              have isKnown : IsKnown known (name, content) :=
                ⟨shape, Fields.mem_of_get? isShape, fuel, levels, after, skipped, readContent⟩
              exact List.forall_mem_append.2 ⟨before, List.forall_mem_singleton.2 isKnown⟩
        rw [isField] at read
        simp only at read
        split at read
        · exact ih read extended
        · cases read
          exact extended
        · cases read

theorem isKnown_of_shapedRow? {fuel levels : Nat} {known : List (String × Shape)}
    {fields : Fields Value} {text rest : List Char}
    (read : shapedRow? fuel levels known text = some (fields, rest)) :
    ∀ field ∈ fields, IsKnown known field := by
  induction fuel generalizing text known fields with
  | zero => simp [shapedRow?] at read
  | succ fuel ih =>
    cases known with
    | nil => simp [shapedRow?] at read
    | cons first known =>
      obtain ⟨name, shape⟩ := first
      rw [shapedRow?] at read
      split at read
      · cases read
      · next content after found =>
        have isKnown : IsKnown ((name, shape) :: known) (name, content) :=
          ⟨shape, List.mem_cons_self, fuel, levels, text, after, found⟩
        split at read
        · obtain ⟨⟨others, behind⟩, readOthers, same⟩ := Option.map_eq_some_iff.1 read
          cases same
          refine List.forall_mem_cons.2 ⟨isKnown, ?_⟩
          intro field member
          obtain ⟨shape', inside, isRead⟩ := ih readOthers field member
          exact ⟨shape', List.mem_cons_of_mem _ inside, isRead⟩
        · cases read
          exact List.forall_mem_singleton.2 isKnown
        · cases read

/-- A list that is read for a shape has only items that are. -/
theorem IsRead.items {shape : Shape} {value : Value} (isRead : IsRead (.list shape) value) :
    ∃ items, value = .array items ∧ ∀ item ∈ items, IsRead shape item := by
  obtain ⟨fuel, levels, text, rest, read⟩ := isRead
  cases fuel with
  | zero => simp [shapedValue?] at read
  | succ fuel =>
    unfold shapedValue? at read
    split at read
    case h_6 inner levels behind sameShape opened =>
      cases sameShape
      split at read
      · cases read
        exact ⟨[], rfl, List.forall_mem_nil _⟩
      · obtain ⟨⟨items, after⟩, readItems, same⟩ := Option.map_eq_some_iff.1 read
        cases same
        exact ⟨items, rfl, isRead_of_shapedItems? readItems⟩
    all_goals contradiction

/-- A record that is read has only fields that are known, without those that are optional and
null. -/
theorem IsRead.fields {known : List (String × Shape)} {value : Value}
    (isRead : IsRead (.record known) value) :
    ∃ fields, value = .object (present known fields) ∧ ∀ field ∈ fields, IsKnown known field := by
  obtain ⟨fuel, levels, text, rest, read⟩ := isRead
  cases fuel with
  | zero => simp [shapedValue?] at read
  | succ fuel =>
    unfold shapedValue? at read
    split at read
    case h_8 inner levels behind sameShape opened =>
      cases sameShape
      split at read
      · cases read
        exact ⟨[], rfl, List.forall_mem_nil _⟩
      · obtain ⟨⟨fields, after⟩, readFields, same⟩ := Option.map_eq_some_iff.1 read
        cases same
        exact ⟨fields, rfl, isKnown_of_shapedFields? readFields (List.forall_mem_nil _)⟩
    case h_9 inner levels behind sameShape opened =>
      cases sameShape
      split at read
      · cases read
        exact ⟨[], rfl, List.forall_mem_nil _⟩
      · obtain ⟨⟨fields, after⟩, readRow, same⟩ := Option.map_eq_some_iff.1 read
        cases same
        exact ⟨fields, rfl, isKnown_of_shapedRow? readRow⟩
    all_goals contradiction

theorem isRead_of_readShaped? {shape : Shape} {text : List Char} {value : Value}
    (read : readShaped? shape text = some value) : IsRead shape value := by
  rw [readShaped?] at read
  split at read
  · next value' rest found =>
    split at read
    · cases read
      exact ⟨_, _, _, _, found⟩
    · cases read
  · cases read

end Json

end Intake
