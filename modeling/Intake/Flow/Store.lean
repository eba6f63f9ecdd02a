import Intake.Value.Basic

/-!
# The session store

Documents by key, kept in the order of their keys, so that two stores with the same contents are
the same store. The lemmas read a key after `put` and `forget`, and `ext` compares stores by what
they hold.
-/

namespace Intake

/-- Documents by key. -/
structure Store where
  entries : List (String × Value) := []
  ordered : entries.Pairwise (fun left right => left.1 < right.1) := by exact List.Pairwise.nil

namespace Store

/-- The document under a key of a list of entries. -/
def find? (key : String) : List (String × Value) → Option Value
  | [] => none
  | (name, value) :: rest => if name = key then some value else find? key rest

/-- Entries with one more, in the order of the keys. -/
def putEntry (key : String) (value : Value) : List (String × Value) → List (String × Value)
  | [] => [(key, value)]
  | (name, old) :: rest =>
    if key < name then (key, value) :: (name, old) :: rest
    else if name = key then (key, value) :: rest
    else (name, old) :: putEntry key value rest

/-- Entries without those of a key. -/
def forgetEntry (key : String) (entries : List (String × Value)) : List (String × Value) :=
  entries.filter fun entry => entry.1 ≠ key

theorem find?_eq_get? (key : String) (entries : List (String × Value)) :
    find? key entries = Fields.get? key entries := by
  induction entries with
  | nil => rfl
  | cons first rest ih => simp [find?, Fields.get?, ih]

theorem putEntry_eq_insertSorted (key : String) (value : Value)
    (entries : List (String × Value)) :
    putEntry key value entries = Fields.insertSorted key value entries := by
  induction entries with
  | nil => rfl
  | cons first rest ih =>
    obtain ⟨name, old⟩ := first
    by_cases same : name = key
    · subst same
      simp [putEntry, Fields.insertSorted]
    · simp [putEntry, Fields.insertSorted, same, ih]

theorem ordered_putEntry (key : String) (value : Value) {entries : List (String × Value)}
    (ordered : entries.Pairwise fun left right => left.1 < right.1) :
    (putEntry key value entries).Pairwise fun left right => left.1 < right.1 := by
  rw [putEntry_eq_insertSorted]
  exact Fields.Ordered.insertSorted ordered key value

def get? (store : Store) (key : String) : Option Value :=
  find? key store.entries

def put (store : Store) (key : String) (value : Value) : Store :=
  ⟨putEntry key value store.entries, ordered_putEntry key value store.ordered⟩

def forget (store : Store) (key : String) : Store :=
  ⟨forgetEntry key store.entries, store.ordered.filter _⟩

def keys (store : Store) : List String :=
  store.entries.map Prod.fst

@[simp] theorem get?_put (store : Store) (key other : String) (value : Value) :
    (store.put key value).get? other = if other = key then some value else store.get? other := by
  simp only [get?, put, find?_eq_get?, putEntry_eq_insertSorted, Fields.get?_insertSorted, eq_comm]

@[simp] theorem get?_forget (store : Store) (key other : String) :
    (store.forget key).get? other = if other = key then none else store.get? other := by
  obtain ⟨entries, ordered⟩ := store
  simp only [get?, forget, forgetEntry]
  clear ordered
  induction entries with
  | nil => simp [find?]
  | cons first rest ih =>
    obtain ⟨name, old⟩ := first
    by_cases same : name = key
    · subst same
      by_cases found : other = name
      · simp_all
      · simp_all [find?, Ne.symm found]
    · by_cases found : name = other
      · subst found
        simp [find?, same]
      · simp_all [find?]

theorem find?_eq_some_iff {key : String} {value : Value} {entries : List (String × Value)}
    (ordered : entries.Pairwise fun left right => left.1 < right.1) :
    find? key entries = some value ↔ (key, value) ∈ entries := by
  induction entries with
  | nil => simp [find?]
  | cons first rest ih =>
    obtain ⟨name, old⟩ := first
    have firstBelow := (List.pairwise_cons.1 ordered).1
    have recursive := ih (List.pairwise_cons.1 ordered).2
    by_cases same : name = key
    · subst same
      simp only [find?, ↓reduceIte, Option.some.injEq, List.mem_cons, Prod.mk.injEq, true_and]
      constructor
      · exact fun equal => Or.inl equal.symm
      · rintro (equal | member)
        · exact equal.symm
        · exact absurd (firstBelow _ member) (String.lt_irrefl _)
    · simp [find?, same, Ne.symm same, recursive]

/-- Two stores that hold the same documents are the same. -/
theorem ext {left right : Store} (same : ∀ key, left.get? key = right.get? key) :
    left = right := by
  obtain ⟨leftEntries, leftOrdered⟩ := left
  obtain ⟨rightEntries, rightOrdered⟩ := right
  simp only [mk.injEq]
  have members : ∀ entry, entry ∈ leftEntries ↔ entry ∈ rightEntries := by
    rintro ⟨key, value⟩
    have equal : find? key leftEntries = find? key rightEntries := same key
    rw [← find?_eq_some_iff leftOrdered, ← find?_eq_some_iff rightOrdered, equal]
  clear same
  induction leftEntries generalizing rightEntries with
  | nil =>
    cases rightEntries with
    | nil => rfl
    | cons first rest => exact absurd ((members first).2 List.mem_cons_self) (by simp)
  | cons first rest ih =>
    cases rightEntries with
    | nil => exact absurd ((members first).1 List.mem_cons_self) (by simp)
    | cons other others =>
      have firstBelow := (List.pairwise_cons.1 leftOrdered).1
      have otherBelow := (List.pairwise_cons.1 rightOrdered).1
      have heads : first = other := by
        rcases List.mem_cons.1 ((members first).1 List.mem_cons_self) with equal | inOthers
        · exact equal
        · rcases List.mem_cons.1 ((members other).2 List.mem_cons_self) with equal | inRest
          · exact equal.symm
          · exact absurd (firstBelow _ inRest) (String.lt_asymm (otherBelow _ inOthers))
      subst heads
      congr 1
      refine ih (List.pairwise_cons.1 leftOrdered).2 others
        (List.pairwise_cons.1 rightOrdered).2 ?_
      intro entry
      constructor
      · intro member
        rcases List.mem_cons.1 ((members entry).1 (List.mem_cons_of_mem _ member)) with
          equal | member'
        · subst equal
          exact absurd (firstBelow _ member) (String.lt_irrefl _)
        · exact member'
      · intro member
        rcases List.mem_cons.1 ((members entry).2 (List.mem_cons_of_mem _ member)) with
          equal | member'
        · subst equal
          exact absurd (otherBelow _ member) (String.lt_irrefl _)
        · exact member'

end Store

end Intake
