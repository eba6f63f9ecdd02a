import Intake.Text.LetterCase
import Intake.Text.Basic

/-!
# Paths

Paths are texts with slashes. Nothing is normalised when a path is joined or shown. For the name of
a file and the directory around it, empty parts and `.` parts at the end do not count, except for a
`.` that is the first part.
-/

namespace Intake

namespace FilePath

/-- The parts of a path between slashes. -/
def parts (path : String) : List (List Char) :=
  Text.pieces '/' path.toList

/-- Whether a path starts at the root. -/
def isAbsolute (path : String) : Bool :=
  path.toList.head? == some '/'

/-- A path below another one. An absolute path stands alone, and an empty base adds nothing. -/
def join (base path : String) : String :=
  if isAbsolute path then path
  else if base = "" then path
  else if base.toList.getLast? = some '/' then base ++ path
  else base ++ "/" ++ path

/-- Paths below another one are in the order of their names. -/
theorem join_lt_join (base : String) {path other : String} (solid : '/' ∉ path.toList)
    (solid' : '/' ∉ other.toList) (before : path < other) : join base path < join base other := by
  have relative {path : String} (solid : '/' ∉ path.toList) : isAbsolute path = false := by
    rw [isAbsolute, beq_eq_false_iff_ne]
    intro first
    exact solid (List.mem_of_head? first)
  have behind (front : String) : front ++ path < front ++ other := by
    rw [String.lt_iff, String.toList_append, String.toList_append]
    exact List.append_left_lt (String.lt_iff.1 before)
  rw [join, join, relative solid, relative solid']
  simp only [Bool.false_eq_true, if_false]
  split
  · exact before
  · split
    · exact behind base
    · exact behind (base ++ "/")

/-- Parts without empty ones and `.` at the end. -/
def withoutEmptyEnd (parts : List (List Char)) : List (List Char) :=
  (parts.reverse.dropWhile fun part => part = [] ∨ part = ['.']).reverse

/-- The parts of a path that count. -/
def solidParts (path : String) : List (List Char) :=
  match parts path with
  | ['.'] :: rest => ['.'] :: withoutEmptyEnd rest
  | parts => withoutEmptyEnd parts

/-- The parts of a path that directories may be made for. A `.` at the end asks for the directory
before it to be there. -/
def partsToMake (path : String) : List (List Char) :=
  if ((parts path).filter fun part => part ≠ []).getLast? = some ['.'] then
    (solidParts path).dropLast
  else parts path

def longestName : Nat := 255

def longestPath : Nat := 4095

/-- Whether a path can lead anywhere: it is not empty, not too long, and has no null character. -/
def canLead (path : String) : Bool :=
  path ≠ "" && decide (path.utf8ByteSize ≤ longestPath) && !path.toList.contains '\x00'

/-- Whether two paths have the same parts that count, between slashes and at the end. -/
def isSame (left right : String) : Bool :=
  let essential (path : String) : List (List Char) :=
    match parts path with
    | first :: rest =>
      first :: rest.filter fun part => part ≠ [] ∧ part ≠ ['.']
    | [] => []
  essential left == essential right

def fileName? (path : String) : Option (List Char) :=
  (solidParts path).getLast?.filter fun last => last ≠ ['.'] ∧ last ≠ ['.', '.']

/-- The extension of the file at a path: what follows the last dot of its name, unless that dot is
the first character. -/
def extension? (path : String) : Option (List Char) :=
  (fileName? path).bind fun name =>
    if name.tail.contains '.' then some (Text.lastPiece '.' name) else none

/-- The directory that a path lies in; the empty path and the root have none. -/
def parent? (path : String) : Option String :=
  match solidParts path with
  | [] => none
  | solid =>
    match solidParts (String.ofList (Text.joined ['/'] solid.dropLast)) with
    | [] => some (if isAbsolute path then "/" else "")
    | before => some (String.ofList (Text.joined ['/'] before))

end FilePath

inductive FileFormat where
  | yaml
  | json
deriving DecidableEq, Repr

namespace FileFormat

/-- The format that the extension of a path names, in any letter case. -/
def ofPath? (path : String) : Option FileFormat :=
  match (FilePath.extension? path).map LetterCase.asciiLower with
  | some extension =>
    if extension = "yaml".toList ∨ extension = "yml".toList then some .yaml
    else if extension = "json".toList then some .json
    else none
  | none => none

end FileFormat

end Intake
