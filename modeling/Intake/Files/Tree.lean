import Intake.Files.Path

/-!
# File trees

What lies below the root, place by place, and the place that paths are relative to. A place is the
list of names that leads to it. Looking a path up goes through its parts one by one: each part needs
a directory to start from, and `..` leads back to the one around it. Directories are made in the
same walk: one that a later `..` leaves again is made as well, and what was made before something
was in the way stays.
-/

namespace Intake

/-- The names that lead from the root to a file or a directory. -/
abbrev Place := List String

/-- What lies at a place. -/
inductive FileEntry where
  | directory
  /-- A file with its text; one that cannot be read as text has none. -/
  | file (content : Option String)
deriving DecidableEq

/-- Files and directories by place. -/
structure FileTree where
  entries : List (Place × FileEntry) := []
  /-- The place that paths are relative to. -/
  here : Place := []

namespace FileTree

/-- What lies at a place. The root is a directory. -/
def entry? (tree : FileTree) (place : Place) : Option FileEntry :=
  if place = [] then some .directory else tree.entries.lookup place

/-- The place that one part of a path leads to. -/
def step? (tree : FileTree) (place : Place) (part : List Char) : Option Place :=
  if tree.entry? place ≠ some .directory then none
  else if part = [] ∨ part = ['.'] then some place
  else if part = ['.', '.'] then some place.dropLast
  else if (String.ofList part).utf8ByteSize ≤ FilePath.longestName then
    some (place ++ [String.ofList part])
  else none

def start (tree : FileTree) (path : String) : Place :=
  if FilePath.isAbsolute path then [] else tree.here

/-- The place that a path leads to; nothing need lie there. -/
def place? (tree : FileTree) (path : String) : Option Place :=
  if FilePath.canLead path then (FilePath.parts path).foldlM tree.step? (tree.start path) else none

/-- What a path leads to. -/
def find? (tree : FileTree) (path : String) : Option FileEntry :=
  (tree.place? path).bind tree.entry?

def isThere (tree : FileTree) (path : String) : Bool :=
  (tree.find? path).isSome

def isDirectory (tree : FileTree) (path : String) : Bool :=
  tree.find? path == some .directory

def isFile (tree : FileTree) (path : String) : Bool :=
  match tree.find? path with
  | some (.file _) => true
  | _ => false

def read? (tree : FileTree) (path : String) : Option String :=
  match tree.find? path with
  | some (.file content) => content
  | _ => none

/-- The name of a place that lies directly in another one. -/
def nameIn? (directory place : Place) : Option String :=
  if place.dropLast = directory then place.getLast? else none

/-- The names in the directory that a path leads to, in order. -/
def names? (tree : FileTree) (path : String) : Option (List String) :=
  (tree.place? path).bind fun place =>
    if tree.entry? place = some .directory then
      some ((tree.entries.filterMap fun entry => nameIn? place entry.1).mergeSort
        fun left right => decide (left ≤ right))
    else none

theorem nameIn?_eq_some_iff {directory place : Place} {name : String} :
    nameIn? directory place = some name ↔ place = directory ++ [name] := by
  rw [nameIn?]
  constructor
  · intro last
    split at last
    · next inside =>
      obtain ⟨before, rfl⟩ := List.getLast?_eq_some_iff.1 last
      rw [List.dropLast_concat] at inside
      rw [inside]
    · cases last
  · rintro rfl
    rw [List.dropLast_concat, if_pos rfl, List.getLast?_concat]

theorem names?_eq_some_iff {tree : FileTree} {path : String} {names : List String} :
    tree.names? path = some names ↔
      ∃ place, tree.place? path = some place ∧ tree.entry? place = some .directory ∧
        names = (tree.entries.filterMap fun entry => nameIn? place entry.1).mergeSort
          fun left right => decide (left ≤ right) := by
  rw [names?, Option.bind_eq_some_iff]
  apply exists_congr
  intro place
  rw [Option.ite_none_right_eq_some, Option.some_inj, eq_comm (a := names)]

/-- Whether no name on the way to a place has a slash in it. -/
def IsSolid (place : Place) : Prop :=
  ∀ name ∈ place, '/' ∉ name.toList

instance (place : Place) : Decidable (IsSolid place) :=
  inferInstanceAs (Decidable (∀ name ∈ place, '/' ∉ name.toList))

/-- Entries as a file system has them: at most one for a place, and no slash in a name. -/
structure IsProper (tree : FileTree) : Prop where
  distinct : (tree.entries.map Prod.fst).Nodup
  solid : ∀ entry ∈ tree.entries, IsSolid entry.1
  here : IsSolid tree.here

section Names

variable {tree : FileTree} {path : String} {names : List String}
  (listed : tree.names? path = some names)

include listed

/-- The names in a directory are the last ones of the places that lie directly in it. -/
theorem mem_names?_iff {place : Place} (leads : tree.place? path = some place) {name : String} :
    name ∈ names ↔ ∃ entry, (place ++ [name], entry) ∈ tree.entries := by
  obtain ⟨place', leads', -, rfl⟩ := names?_eq_some_iff.1 listed
  obtain rfl : place = place' := Option.some.inj (leads.symm.trans leads')
  simp [List.mem_mergeSort, nameIn?_eq_some_iff]

theorem sorted_names? : names.Pairwise (· ≤ ·) := by
  obtain ⟨place, -, -, rfl⟩ := names?_eq_some_iff.1 listed
  have transitive (first second third : String) (below : decide (first ≤ second) = true)
      (above : decide (second ≤ third) = true) : decide (first ≤ third) = true :=
    decide_eq_true (String.le_trans (of_decide_eq_true below) (of_decide_eq_true above))
  have total (first second : String) :
      (decide (first ≤ second) || decide (second ≤ first)) = true := by
    simpa using String.le_total first second
  exact (List.pairwise_mergeSort transitive total _).imp of_decide_eq_true

theorem nodup_names? (proper : tree.IsProper) : names.Nodup := by
  obtain ⟨place, -, -, rfl⟩ := names?_eq_some_iff.1 listed
  rw [(List.mergeSort_perm _ _).nodup_iff, List.Nodup, List.pairwise_filterMap]
  -- two entries with one name in one directory have the same place
  apply (List.pairwise_map.1 proper.distinct).imp
  intro entry other different name isName name' isName' same
  apply different
  rw [nameIn?_eq_some_iff.1 isName, nameIn?_eq_some_iff.1 isName', same]

theorem not_slash_of_mem_names? (proper : tree.IsProper) {name : String} (member : name ∈ names) :
    '/' ∉ name.toList := by
  obtain ⟨place, leads, -, -⟩ := names?_eq_some_iff.1 listed
  obtain ⟨entry, inside⟩ := (mem_names?_iff listed leads).1 member
  exact proper.solid _ inside name (List.mem_append_right place (List.mem_singleton_self name))

end Names

def relativeTo (tree : FileTree) (place : Place) : FileTree :=
  { tree with here := place }

def put (tree : FileTree) (place : Place) (entry : FileEntry) : FileTree :=
  { tree with
    entries := (place, entry) :: tree.entries.filter fun other => other.1 ≠ place }

/-- The tree with a directory at a place, unless something lies there. -/
def makeDirectory (tree : FileTree) (place : Place) : FileTree :=
  if (tree.entry? place).isSome then tree else tree.put place .directory

/-- A tree and the place that has been reached in it; none if something is in the way. -/
structure Walk where
  tree : FileTree
  reached : Option Place

/-- A walk after one more part of a path, with a directory there unless something lies there. -/
def Walk.makeStep (walk : Walk) (part : List Char) : Walk :=
  match walk.reached.bind fun place => walk.tree.step? place part with
  | some place => ⟨walk.tree.makeDirectory place, some place⟩
  | none => { walk with reached := none }

/-- The tree with directories on the way to a path and at its end, up to where something is in the
way. -/
def makeDirectories (tree : FileTree) (path : String) : FileTree :=
  if FilePath.canLead path then
    ((FilePath.partsToMake path).foldl Walk.makeStep ⟨tree, some (tree.start path)⟩).tree
  else tree

/-- The tree with a file where a path leads to, and with the directories on the way to it. No file
takes the place of a directory. -/
def write (tree : FileTree) (path : String) (content : Option String) : FileTree :=
  let tree := (FilePath.parent? path).elim tree tree.makeDirectories
  match tree.place? path with
  | some place =>
    if tree.entry? place = some .directory then tree else tree.put place (.file content)
  | none => tree

def remove (tree : FileTree) (path : String) : FileTree :=
  match tree.place? path with
  | some place =>
    if tree.isFile path then
      { tree with entries := tree.entries.filter fun other => other.1 ≠ place }
    else tree
  | none => tree

end FileTree

end Intake
