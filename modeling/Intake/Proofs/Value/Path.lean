import Intake.Proofs.Text.Cuts
import Intake.Value.Path

/-!
# Paths behind paths

A path that is written behind another one with a point between is followed from where the first one
leads. White space around the two does not matter, nor does an empty segment of one of them, and a
place that the first does not lead to is missing for both. With the wildcard between them, the
second path is followed from every child.
-/

namespace Intake

open Text

namespace Text

variable {separator : Char}

/-- A text with a separator in it is cut there. -/
theorem pieces_append_separator (front rest : List Char) :
    pieces separator (front ++ separator :: rest) =
      pieces separator front ++ pieces separator rest := by
  induction front with
  | nil => exact if_pos rfl
  | cons character front ih =>
    rw [List.cons_append, pieces, pieces, ih]
    by_cases same : character = separator
    · rw [if_pos same, if_pos same, List.cons_append]
    · obtain ⟨piece, others, cut⟩ := List.exists_cons_of_ne_nil (pieces_ne_nil separator front)
      rw [if_neg same, if_neg same, cut]
      rfl

/-- The last occurrence of a character. -/
theorem exists_last_of_mem {character : Char} {text : List Char} (member : character ∈ text) :
    ∃ front back, text = front ++ character :: back ∧ character ∉ back := by
  obtain ⟨back, front, same, absent⟩ := List.eq_append_cons_of_mem (List.mem_reverse.2 member)
  refine ⟨front.reverse, back.reverse, ?_, by simpa using absent⟩
  have turned := congrArg List.reverse same
  simpa using turned

end Text

namespace Path

theorem point_not_mem_blank {blanks : List Char} (blank : isBlankText blanks = true) :
    '.' ∉ blanks :=
  not_mem_of_all blank rfl

theorem segments_of_not_mem {path : List Char} (absent : '.' ∉ path) :
    segments path = [trim path] := by
  rw [segments, pieces_of_not_mem absent, List.map_singleton]

/-- The segments of two paths with a point between them are those of the one and the other. -/
theorem segments_append_point (path rest : List Char) :
    segments (path ++ '.' :: rest) = segments path ++ segments rest := by
  rw [segments, pieces_append_separator, List.map_append, segments, segments]

theorem segments_blank_append {blanks : List Char} (blank : isBlankText blanks = true)
    (path : List Char) : segments (blanks ++ path) = segments path := by
  have absent := point_not_mem_blank blank
  by_cases member : '.' ∈ path
  · obtain ⟨first, rest, rfl, outside⟩ := List.eq_append_cons_of_mem member
    have whole : '.' ∉ blanks ++ first := by simp [absent, outside]
    rw [← List.append_assoc, segments_append_point, segments_append_point,
      segments_of_not_mem whole, segments_of_not_mem outside, trim_blank_append blank]
  · have whole : '.' ∉ blanks ++ path := by simp [absent, member]
    rw [segments_of_not_mem whole, segments_of_not_mem member, trim_blank_append blank]

theorem segments_append_blank {blanks : List Char} (blank : isBlankText blanks = true)
    (path : List Char) : segments (path ++ blanks) = segments path := by
  have absent := point_not_mem_blank blank
  by_cases member : '.' ∈ path
  · obtain ⟨front, last, rfl, outside⟩ := exists_last_of_mem member
    have whole : '.' ∉ last ++ blanks := by simp [absent, outside]
    rw [List.append_assoc, List.cons_append, segments_append_point, segments_append_point,
      segments_of_not_mem whole, segments_of_not_mem outside, trim_append_blank blank]
  · have whole : '.' ∉ path ++ blanks := by simp [absent, member]
    rw [segments_of_not_mem whole, segments_of_not_mem member, trim_append_blank blank]

/-- White space around a path is white space around its outer segments. -/
theorem segments_trim (path : List Char) : segments (trim path) = segments path := by
  obtain ⟨before, after, beforeBlank, afterBlank, same⟩ := exists_margins path
  calc
    segments (trim path) = segments (before ++ trim path ++ after) := by
      rw [segments_append_blank afterBlank, segments_blank_append beforeBlank]
    _ = segments path := by rw [← same]

/-- Segments that name one child each are followed one after the other. -/
theorem follow_append {front : List (List Char)} (direct : wildcard ∉ front)
    (back : List (List Char)) (value : Value) :
    follow (front ++ back) value = (follow front value).bind (follow back) := by
  induction front generalizing value with
  | nil => rfl
  | cons segment front ih =>
    rw [List.mem_cons, not_or] at direct
    have named : segment ≠ wildcard := Ne.symm direct.1
    rw [List.cons_append, follow, follow, if_neg named, if_neg named]
    cases child? segment value with
    | none => rfl
    | some child => exact ih direct.2 child

/-- The only wildcard of a path collects what the rest of the path finds in each child. -/
theorem follow_wildcard {rest : List (List Char)} (direct : wildcard ∉ rest) (value : Value) :
    follow (wildcard :: rest) value =
      (children? value).map fun children =>
        .array (children.map fun child => (follow rest child).getD .null) := by
  have single : rest.contains wildcard = false := by simpa using direct
  rw [follow, if_pos rfl, single]
  rfl

end Path

namespace Value

theorem get?_of_not_blank {path : List Char} (written : isBlankText path = false) (value : Value) :
    get? path value = Path.follow (Path.segments path) value := by
  have kept : trim path ≠ [] := by
    intro empty
    rw [isBlankText_of_trim_eq_nil empty] at written
    cases written
  simp only [get?, if_neg kept, Path.segments_trim]

theorem get?_append_point {path : List Char} (written : isBlankText path = false)
    (direct : Path.wildcard ∉ Path.segments path) {rest : List Char}
    (restWritten : isBlankText rest = false) (value : Value) :
    get? (path ++ '.' :: rest) value = (get? path value).bind (get? rest) := by
  have whole : isBlankText (path ++ '.' :: rest) = false := by
    rw [isBlankText_append, written, Bool.false_and]
  have follows : get? rest = Path.follow (Path.segments rest) :=
    funext fun child => get?_of_not_blank restWritten child
  rw [get?_of_not_blank whole, get?_of_not_blank written, follows, Path.segments_append_point,
    Path.follow_append direct]

/-- What a path of named children finds behind a path of named children, and behind the wildcard
behind one. -/
theorem get?_composed {path rest : List Char} (written : isBlankText path = false)
    (restWritten : isBlankText rest = false) (direct : Path.wildcard ∉ Path.segments path)
    (value : Value) :
    get? (path ++ '.' :: rest) value = (get? path value).bind (get? rest) ∧
      (Path.wildcard ∉ Path.segments rest →
        get? (path ++ ".*.".toList ++ rest) value =
          match get? path value with
          | some (.array items) => some (.array (items.map fun item => (get? rest item).getD .null))
          | some (.object fields) =>
            some (.array (fields.map fun field => (get? rest field.2).getD .null))
          | _ => none) := by
  refine ⟨get?_append_point written direct restWritten value, ?_⟩
  intro restDirect
  have spelled : path ++ ".*.".toList ++ rest = path ++ '.' :: (Path.wildcard ++ '.' :: rest) := by
    simp [Path.wildcard]
  have starWritten : isBlankText (Path.wildcard ++ '.' :: rest) = false := by
    rw [isBlankText_append]
    rfl
  have starSegments : Path.segments (Path.wildcard ++ '.' :: rest) =
      Path.wildcard :: Path.segments rest := Path.segments_append_point _ _
  have collects : ∀ place, get? (Path.wildcard ++ '.' :: rest) place =
      (Path.children? place).map fun children =>
        .array (children.map fun child => (get? rest child).getD .null) := by
    intro place
    simp only [get?_of_not_blank starWritten, starSegments, Path.follow_wildcard restDirect,
      get?_of_not_blank restWritten]
  rw [spelled, get?_append_point written direct starWritten]
  cases get? path value with
  | none => rfl
  | some place =>
    rw [Option.bind_some, collects]
    cases place with
    | array items => rfl
    | object fields => simp [Path.children?, Fields.contents, Function.comp_def]
    | null | bool | number | text => rfl

def orderDocument : Value :=
  .object [("orders", .array [.object [("items",
    .object [("id", .object [("id", .ofInt 7)]), ("gift", .text "bow")])]])]

theorem get?_composed_orders :
    let path := " orders . +0.items ".toList
    let rest := " id".toList
    isBlankText path = false ∧ isBlankText rest = false ∧
      Path.wildcard ∉ Path.segments path ∧ Path.wildcard ∉ Path.segments rest ∧
      get? path orderDocument =
        some (.object [("id", .object [("id", .ofInt 7)]), ("gift", .text "bow")]) ∧
      get? (path ++ '.' :: rest) orderDocument = some (.object [("id", .ofInt 7)]) ∧
      get? (path ++ ".*.".toList ++ rest) orderDocument = some (.array [.ofInt 7, .null]) := by
  intro path rest
  have written : isBlankText path = false := by decide
  have restWritten : isBlankText rest = false := by decide
  have direct : Path.wildcard ∉ Path.segments path := by decide
  have restDirect : Path.wildcard ∉ Path.segments rest := by decide
  have found : get? path orderDocument =
      some (.object [("id", .object [("id", .ofInt 7)]), ("gift", .text "bow")]) := by
    decide
  obtain ⟨behind, collected⟩ := get?_composed written restWritten direct orderDocument
  refine ⟨written, restWritten, direct, restDirect, found, ?_, ?_⟩
  · rw [behind, found]
    decide
  · rw [collected restDirect, found]
    decide

end Value

end Intake
