/-!
# Ordered fields

Named fields in the order in which they were first written. Writing a name again keeps its place
and replaces its content, so every name that was inserted occurs once. The lemmas read a field
back after `insert`, `insertSorted` and `erase`, and after a change to all contents. Fields that are
written with `insertSorted` alone stay in the order of their names.
-/

namespace Intake

/-- Names with their contents, in insertion order. -/
abbrev Fields (α : Type) := List (String × α)

namespace Fields

variable {α : Type}

/-- The content of the first field with a name. -/
def get? (name : String) : Fields α → Option α
  | [] => none
  | (key, content) :: rest => if key = name then some content else get? name rest

def has (name : String) (fields : Fields α) : Bool :=
  (fields.get? name).isSome

/-- The fields with one of them written: in its place if the name is there, at the end if not. -/
def insert (name : String) (content : α) : Fields α → Fields α
  | [] => [(name, content)]
  | (key, old) :: rest =>
    if key = name then (name, content) :: rest else (key, old) :: insert name content rest

/-- The fields without the first one of a name; the others keep their order. -/
def erase (name : String) : Fields α → Fields α
  | [] => []
  | (key, content) :: rest => if key = name then rest else (key, content) :: erase name rest

/-- Pairs written one after the other into fields. -/
def insertAll (pairs fields : Fields α) : Fields α :=
  pairs.foldl (fun written pair => insert pair.1 pair.2 written) fields

/-- The fields that a sequence of writes leaves. -/
def ofPairs (pairs : List (String × α)) : Fields α :=
  insertAll pairs []

def names (fields : Fields α) : List String :=
  fields.map Prod.fst

def contents (fields : Fields α) : List α :=
  fields.map Prod.snd

/-- The fields with a name inserted before the first larger one, for fields kept in the order of
their names. -/
def insertSorted (name : String) (content : α) : Fields α → Fields α
  | [] => [(name, content)]
  | (key, old) :: rest =>
    if key = name then (name, content) :: rest
    else if name < key then (name, content) :: (key, old) :: rest
    else (key, old) :: insertSorted name content rest

@[simp] theorem get?_insert_self (name : String) (content : α) (fields : Fields α) :
    get? name (insert name content fields) = some content := by
  induction fields with
  | nil => simp [insert, get?]
  | cons field rest ih =>
    obtain ⟨key, old⟩ := field
    by_cases same : key = name
    · simp [insert, get?, same]
    · simp [insert, get?, same, ih]

theorem get?_insert_of_ne {name other : String} (content : α) (fields : Fields α)
    (distinct : other ≠ name) :
    get? other (insert name content fields) = get? other fields := by
  induction fields with
  | nil => simp [insert, get?, Ne.symm distinct]
  | cons field rest ih =>
    obtain ⟨key, old⟩ := field
    by_cases same : key = name
    · subst same
      simp [insert, get?, Ne.symm distinct]
    · by_cases found : key = other
      · subst found
        simp [insert, get?, same]
      · simp [insert, get?, same, found, ih]

theorem erase_of_get?_eq_none {name : String} {fields : Fields α}
    (missing : get? name fields = none) : erase name fields = fields := by
  induction fields with
  | nil => rfl
  | cons field rest ih =>
    obtain ⟨key, content⟩ := field
    by_cases same : key = name
    · simp [get?, same] at missing
    · rw [get?, if_neg same] at missing
      rw [erase, if_neg same, ih missing]

/-- Writing what is there already changes nothing. -/
theorem insert_of_get? {name : String} {content : α} {fields : Fields α}
    (found : get? name fields = some content) : insert name content fields = fields := by
  induction fields with
  | nil => cases found
  | cons field rest ih =>
    obtain ⟨key, old⟩ := field
    by_cases same : key = name
    · simp only [get?, if_pos same, Option.some.injEq] at found
      simp [insert, same, found]
    · simp only [get?, if_neg same] at found
      simp [insert, same, ih found]

/-- Of two writes of a name the later one counts. -/
theorem insert_insert (name : String) (first second : α) (fields : Fields α) :
    insert name second (insert name first fields) = insert name second fields := by
  induction fields with
  | nil => simp [insert]
  | cons field rest ih =>
    obtain ⟨key, old⟩ := field
    by_cases same : key = name
    · simp [insert, same]
    · simp [insert, same, ih]

/-- Writing a name that is there keeps all names in their places. -/
theorem names_insert_of_get? {name : String} {old : α} (content : α) {fields : Fields α}
    (found : get? name fields = some old) : names (insert name content fields) = names fields := by
  induction fields with
  | nil => cases found
  | cons field rest ih =>
    obtain ⟨key, first⟩ := field
    by_cases same : key = name
    · simp [insert, names, same]
    · rw [get?, if_neg same] at found
      have others := ih found
      simp only [names] at others
      simp [insert, names, same, others]

theorem mem_of_get? {name : String} {content : α} {fields : Fields α}
    (found : get? name fields = some content) : (name, content) ∈ fields := by
  induction fields with
  | nil => cases found
  | cons field rest ih =>
    obtain ⟨key, first⟩ := field
    by_cases same : key = name
    · rw [get?, if_pos same, Option.some.injEq] at found
      rw [same, found]
      exact List.mem_cons_self
    · rw [get?, if_neg same] at found
      exact List.mem_cons_of_mem _ (ih found)

/-- Where no name is there twice, every field is the one of its name. -/
theorem get?_of_mem {name : String} {content : α} {fields : Fields α}
    (distinct : (names fields).Nodup) (member : (name, content) ∈ fields) :
    get? name fields = some content := by
  induction fields with
  | nil => cases member
  | cons field rest ih =>
    obtain ⟨key, first⟩ := field
    obtain ⟨fresh, restDistinct⟩ := List.nodup_cons.1 distinct
    rcases List.mem_cons.1 member with same | inside
    · obtain ⟨rfl, rfl⟩ := Prod.mk.inj same
      exact if_pos rfl
    · have different : key ≠ name := by
        rintro rfl
        exact fresh (List.mem_map.2 ⟨_, inside, rfl⟩)
      rw [get?, if_neg different]
      exact ih restDistinct inside

theorem get?_map {β : Type} (change : α → β) (name : String) (fields : Fields α) :
    get? name (fields.map fun field => (field.1, change field.2)) =
      (get? name fields).map change := by
  induction fields with
  | nil => rfl
  | cons field rest ih =>
    obtain ⟨key, content⟩ := field
    by_cases same : key = name
    · simp [get?, same]
    · simpa [get?, same] using ih

@[simp] theorem has_map {β : Type} (change : α → β) (name : String) (fields : Fields α) :
    has name (fields.map fun field => (field.1, change field.2)) = has name fields := by
  rw [has, get?_map, Option.isSome_map, has]

theorem mem_names_iff {name : String} {fields : Fields α} :
    name ∈ names fields ↔ has name fields = true := by
  induction fields with
  | nil => simp [names, has, get?]
  | cons field rest ih =>
    obtain ⟨key, content⟩ := field
    by_cases same : key = name
    · simp [names, has, get?, same]
    · simpa [names, has, get?, same, Ne.symm same] using ih

/-- Where no name is there twice, an erased one is gone. -/
theorem has_erase_self {fields : Fields α} (distinct : (names fields).Nodup) (name : String) :
    has name (erase name fields) = false := by
  induction fields with
  | nil => rfl
  | cons field rest ih =>
    obtain ⟨key, content⟩ := field
    obtain ⟨fresh, restDistinct⟩ := List.nodup_cons.1 distinct
    by_cases same : key = name
    · subst same
      rw [erase, if_pos rfl, ← Bool.not_eq_true, ← mem_names_iff]
      exact fresh
    · have later := ih restDistinct
      rw [has] at later ⊢
      rwa [erase, if_neg same, get?, if_neg same]

theorem has_insert (name other : String) (content : α) (fields : Fields α) :
    has other (insert name content fields) = (decide (name = other) || has other fields) := by
  by_cases same : name = other
  · subst same
    simp [has]
  · simp [has, get?_insert_of_ne content fields (Ne.symm same), same]

theorem insert_of_not_mem {name : String} (content : α) {fields : Fields α}
    (unknown : name ∉ names fields) : insert name content fields = fields ++ [(name, content)] := by
  induction fields with
  | nil => rfl
  | cons field others ih =>
    rw [names, List.map_cons, List.mem_cons, not_or] at unknown
    rw [insert, if_neg (Ne.symm unknown.1), ih unknown.2, List.cons_append]

theorem insertAll_of_nodup {pairs fields : Fields α} (distinct : (names (fields ++ pairs)).Nodup) :
    insertAll pairs fields = fields ++ pairs := by
  induction pairs generalizing fields with
  | nil => rw [insertAll, List.foldl_nil, List.append_nil]
  | cons pair others ih =>
    have unknown : pair.1 ∉ names fields := by
      simp only [names, List.map_append, List.map_cons, List.nodup_append] at distinct
      exact fun member => distinct.2.2 _ member _ List.mem_cons_self rfl
    have moved : fields ++ pair :: others = fields ++ [pair] ++ others := by simp
    rw [moved] at distinct ⊢
    rw [← ih distinct, ← insert_of_not_mem pair.2 unknown]
    rfl

/-- Different names stay as they were written. -/
theorem ofPairs_of_nodup {pairs : Fields α} (distinct : (names pairs).Nodup) :
    ofPairs pairs = pairs :=
  insertAll_of_nodup distinct

/-- Writing a name keeps the names different from each other. -/
theorem nodup_names_insert {fields : Fields α} (distinct : (names fields).Nodup) (name : String)
    (content : α) : (names (insert name content fields)).Nodup := by
  cases found : get? name fields with
  | some old => rwa [names_insert_of_get? content found]
  | none =>
    have unknown : name ∉ names fields := by
      rw [mem_names_iff, has, found]
      simp
    have longer : names (fields ++ [(name, content)]) = names fields ++ [name] := by simp [names]
    rw [insert_of_not_mem content unknown, longer, List.nodup_append]
    refine ⟨distinct, by simp, ?_⟩
    intro key member other last same
    rw [List.mem_singleton] at last
    exact unknown (last ▸ same ▸ member)

theorem nodup_names_insertAll (pairs : Fields α) {fields : Fields α}
    (distinct : (names fields).Nodup) : (names (insertAll pairs fields)).Nodup := by
  induction pairs generalizing fields with
  | nil => exact distinct
  | cons pair others ih => exact ih (nodup_names_insert distinct pair.1 pair.2)

/-- Of different names, none comes again behind its place. -/
theorem not_mem_names_of_nodup {earlier later : Fields α} {name : String} {content : α}
    (distinct : (names (earlier ++ (name, content) :: later)).Nodup) : name ∉ names later := by
  rw [names, List.map_append, List.map_cons] at distinct
  exact (List.nodup_cons.1 (List.nodup_append.1 distinct).2.1).1

/-- Of fields that are written over others, a name has the content that was written for it, or else
the one that was there. -/
theorem get?_insertAll {pairs : Fields α} (distinct : (names pairs).Nodup) (name : String)
    (fields : Fields α) :
    get? name (insertAll pairs fields) = (get? name pairs).or (get? name fields) := by
  induction pairs generalizing fields with
  | nil => rfl
  | cons pair others ih =>
    obtain ⟨key, content⟩ := pair
    obtain ⟨unknown, othersDistinct⟩ := List.nodup_cons.1 distinct
    have written : insertAll ((key, content) :: others) fields =
        insertAll others (insert key content fields) := rfl
    rw [written, ih othersDistinct, get?]
    by_cases same : key = name
    · subst same
      have absent : get? key others = none := by
        rwa [← Option.not_isSome_iff_eq_none, ← has, ← mem_names_iff]
      simp [absent]
    · rw [if_neg same, get?_insert_of_ne content fields (Ne.symm same)]

theorem get?_insertSorted (name other : String) (content : α) (fields : Fields α) :
    get? other (insertSorted name content fields) =
      if name = other then some content else get? other fields := by
  induction fields with
  | nil => rfl
  | cons field rest ih =>
    obtain ⟨key, old⟩ := field
    simp only [insertSorted]
    split
    · next same =>
      subst same
      by_cases found : key = other <;> simp [get?, found]
    · next different =>
      split
      · rfl
      · by_cases found : key = other
        · subst found
          simp [get?, Ne.symm different]
        · simp [get?, found, ih]

theorem has_insertSorted (name other : String) (content : α) (fields : Fields α) :
    has other (insertSorted name content fields) =
      (decide (name = other) || has other fields) := by
  rw [has, get?_insertSorted]
  by_cases same : name = other <;> simp [same, has]

theorem mem_insertSorted {name : String} {content : α} {fields : Fields α}
    {field : String × α} (member : field ∈ insertSorted name content fields) :
    field = (name, content) ∨ field ∈ fields := by
  induction fields with
  | nil => simpa [insertSorted] using member
  | cons first rest ih =>
    obtain ⟨key, old⟩ := first
    simp only [insertSorted] at member
    split at member
    · exact (List.mem_cons.1 member).imp_right (List.mem_cons_of_mem _)
    · split at member
      · exact List.mem_cons.1 member
      · rcases List.mem_cons.1 member with rfl | member
        · exact Or.inr List.mem_cons_self
        · exact (ih member).imp_right (List.mem_cons_of_mem _)

/-- Fields in the strict order of their names. -/
def Ordered (fields : Fields α) : Prop :=
  fields.Pairwise fun left right => left.1 < right.1

namespace Ordered

variable {fields : Fields α} (ordered : fields.Ordered) (name : String) (content : α)

include ordered

theorem insertSorted : (Fields.insertSorted name content fields).Ordered := by
  unfold Ordered at ordered ⊢
  induction fields with
  | nil => simp [Fields.insertSorted]
  | cons first rest ih =>
    obtain ⟨key, old⟩ := first
    obtain ⟨firstBelow, restOrdered⟩ := List.pairwise_cons.1 ordered
    simp only [Fields.insertSorted]
    split
    · next same =>
      subst same
      exact List.pairwise_cons.2 ⟨firstBelow, restOrdered⟩
    · next different =>
      split
      · next below =>
        apply List.pairwise_cons.2
        refine ⟨?_, ordered⟩
        intro field member
        rcases List.mem_cons.1 member with rfl | member
        · exact below
        · exact String.lt_trans below (firstBelow field member)
      · next notBelow =>
        apply List.pairwise_cons.2
        refine ⟨?_, ih restOrdered⟩
        intro field member
        rcases mem_insertSorted member with rfl | member
        · exact Std.lt_of_le_of_ne (String.not_lt.1 notBelow) different
        · exact firstBelow field member

/-- Only a name that is not there yet makes the fields longer. -/
theorem length_insertSorted :
    (Fields.insertSorted name content fields).length =
      fields.length + if has name fields then 0 else 1 := by
  unfold Ordered at ordered
  induction fields with
  | nil => rfl
  | cons first rest ih =>
    obtain ⟨key, old⟩ := first
    obtain ⟨firstBelow, restOrdered⟩ := List.pairwise_cons.1 ordered
    simp only [Fields.insertSorted]
    split
    · next same => simp [has, get?, same]
    · next different =>
      have later : has name ((key, old) :: rest) = has name rest := by
        simp [has, get?, different]
      rw [later]
      split
      · next below =>
        have absent : ¬ has name rest = true := by
          rw [← mem_names_iff, names, List.mem_map]
          rintro ⟨field, member, rfl⟩
          exact String.lt_asymm below (firstBelow field member)
        simp [absent]
      · rw [List.length_cons, ih restOrdered, List.length_cons]
        omega

end Ordered

end Fields

end Intake
