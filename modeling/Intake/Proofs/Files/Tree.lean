import Intake.Files.Tree
import Intake.Proofs.Text.Cuts

/-!
# Trees as a file system has them

A place is reached by the parts of a path, and between slashes there is none. So however files are
written and removed and directories are made, there is at most one entry for a place, and no name
has a slash in it.
-/

namespace Intake

namespace FilePath

theorem mem_of_mem_withoutEmptyEnd {parts : List (List Char)} {part : List Char}
    (member : part ∈ withoutEmptyEnd parts) : part ∈ parts := by
  rw [withoutEmptyEnd, List.mem_reverse] at member
  exact List.mem_reverse.1 ((List.dropWhile_sublist _).subset member)

theorem mem_parts_of_mem_solidParts {path : String} {part : List Char}
    (member : part ∈ solidParts path) : part ∈ parts path := by
  rw [solidParts] at member
  split at member
  · next rest cut =>
    rw [cut]
    rcases List.mem_cons.1 member with rfl | inside
    · exact List.mem_cons_self
    · exact List.mem_cons_of_mem _ (mem_of_mem_withoutEmptyEnd inside)
  · exact mem_of_mem_withoutEmptyEnd member

theorem mem_parts_of_mem_partsToMake {path : String} {part : List Char}
    (member : part ∈ partsToMake path) : part ∈ parts path := by
  rw [partsToMake] at member
  split at member
  · exact mem_parts_of_mem_solidParts (List.dropLast_subset _ member)
  · exact member

theorem not_slash_of_mem_parts {path : String} {part : List Char} (member : part ∈ parts path) :
    '/' ∉ part :=
  Text.not_mem_of_mem_pieces member

end FilePath

namespace FileTree

theorem IsSolid.concat {place : Place} (solid : IsSolid place) {name : String}
    (single : '/' ∉ name.toList) : IsSolid (place ++ [name]) :=
  List.forall_mem_append.2 ⟨solid, List.forall_mem_singleton.2 single⟩

theorem IsSolid.step? {tree : FileTree} {place next : Place} {part : List Char}
    (solid : IsSolid place) (single : '/' ∉ part) (leads : tree.step? place part = some next) :
    IsSolid next := by
  rw [FileTree.step?] at leads
  split at leads
  · cases leads
  · split at leads
    · cases leads
      exact solid
    · split at leads
      · cases leads
        exact fun name member => solid name (List.dropLast_subset place member)
      · split at leads
        · cases leads
          exact solid.concat (by rwa [String.toList_ofList])
        · cases leads

/-- One part after the other leads to places without slashes. -/
theorem IsSolid.foldlM {tree : FileTree} {parts : List (List Char)} {place next : Place}
    (solid : IsSolid place) (single : ∀ part ∈ parts, '/' ∉ part)
    (leads : parts.foldlM tree.step? place = some next) : IsSolid next := by
  induction parts generalizing place with
  | nil =>
    cases leads
    exact solid
  | cons part others ih =>
    rw [List.forall_mem_cons] at single
    rw [List.foldlM_cons, Option.bind_eq_bind, Option.bind_eq_some_iff] at leads
    obtain ⟨between, first, rest⟩ := leads
    exact ih (solid.step? single.1 first) single.2 rest

namespace IsProper

variable {tree : FileTree} (proper : tree.IsProper)

include proper

theorem start (path : String) : IsSolid (tree.start path) := by
  rw [FileTree.start]
  split
  · exact List.forall_mem_nil _
  · exact proper.here

theorem place? {path : String} {place : Place} (leads : tree.place? path = some place) :
    IsSolid place := by
  obtain ⟨-, walked⟩ := Option.ite_none_right_eq_some.1 leads
  exact (proper.start path).foldlM (fun part => FilePath.not_slash_of_mem_parts) walked

theorem put {place : Place} (solid : IsSolid place) (entry : FileEntry) :
    (tree.put place entry).IsProper := by
  constructor
  case distinct =>
    rw [FileTree.put, List.map_cons, List.nodup_cons]
    constructor
    · -- what was at the place has been taken out
      intro member
      obtain ⟨other, inside, same⟩ := List.mem_map.1 member
      exact absurd same (by simpa using (List.mem_filter.1 inside).2)
    · exact proper.distinct.sublist (List.filter_sublist.map Prod.fst)
  case solid =>
    intro other member
    rcases List.mem_cons.1 member with rfl | old
    · exact solid
    · exact proper.solid other (List.mem_of_mem_filter old)
  case here => exact proper.here

theorem makeDirectory {place : Place} (solid : IsSolid place) :
    (tree.makeDirectory place).IsProper := by
  rw [FileTree.makeDirectory]
  split
  · exact proper
  · exact proper.put solid .directory

end IsProper

/-- A walk that makes directories keeps the tree proper, and does not reach a place with a slash. -/
theorem Walk.isProper_foldl {walk : Walk} {parts : List (List Char)}
    (single : ∀ part ∈ parts, '/' ∉ part) (proper : walk.tree.IsProper)
    (solid : ∀ place ∈ walk.reached, IsSolid place) :
    (parts.foldl Walk.makeStep walk).tree.IsProper := by
  induction parts generalizing walk with
  | nil => exact proper
  | cons part others ih =>
    rw [List.forall_mem_cons] at single
    rw [List.foldl_cons, Walk.makeStep]
    split
    · next place leads =>
      obtain ⟨reached, isReached, stepped⟩ := Option.bind_eq_some_iff.1 leads
      have next : IsSolid place := (solid reached isReached).step? single.1 stepped
      apply ih single.2 (proper.makeDirectory next)
      rintro place' ⟨⟩
      exact next
    · refine ih single.2 ?_ ?_
      · exact proper
      · rintro place ⟨⟩

namespace IsProper

variable {tree : FileTree} (proper : tree.IsProper)

include proper

theorem makeDirectories (path : String) : (tree.makeDirectories path).IsProper := by
  rw [FileTree.makeDirectories]
  split
  · have single (part : List Char) (member : part ∈ FilePath.partsToMake path) : '/' ∉ part :=
      FilePath.not_slash_of_mem_parts (FilePath.mem_parts_of_mem_partsToMake member)
    apply Walk.isProper_foldl single proper
    rintro place ⟨⟩
    exact proper.start path
  · exact proper

theorem write (path : String) (content : Option String) : (tree.write path content).IsProper := by
  have around : ((FilePath.parent? path).elim tree tree.makeDirectories).IsProper := by
    cases FilePath.parent? path with
    | none => exact proper
    | some parent => exact proper.makeDirectories parent
  rw [FileTree.write]
  split
  · next place leads =>
    split
    · exact around
    · exact around.put (around.place? leads) (.file content)
  · exact around

theorem remove (path : String) : (tree.remove path).IsProper := by
  rw [FileTree.remove]
  split
  · split
    · constructor
      case distinct => exact proper.distinct.sublist (List.filter_sublist.map Prod.fst)
      case solid => exact fun other member => proper.solid other (List.mem_of_mem_filter member)
      case here => exact proper.here
    · exact proper
  · exact proper

end IsProper

end FileTree

end Intake
