import Intake.Bytewise.Route
import Intake.Proofs.Bytewise.Slice

/-!
# Slices of route patterns

The braces of a placeholder are one byte each, so the offsets of the first ones lie between
characters, and so do those right behind them. A pattern that is sliced at its braces is filled as
one that is read character by character.
-/

namespace Intake

namespace Url

theorem dropOptionalFrom_none_append {front : List Char} (absent : '{' ∉ front)
    (rest : List Char) :
    dropOptionalFrom none (front ++ rest) = front ++ dropOptionalFrom none rest := by
  induction front with
  | nil => rfl
  | cons character front ih =>
    rw [List.mem_cons, not_or] at absent
    rw [List.cons_append, dropOptionalFrom, if_neg (Ne.symm absent.1), ih absent.2,
      List.cons_append]

theorem dropOptionalFrom_some_append {front : List Char} (absent : '}' ∉ front)
    (inside rest : List Char) :
    dropOptionalFrom (some inside) (front ++ rest) =
      dropOptionalFrom (some (front.reverse ++ inside)) rest := by
  induction front generalizing inside with
  | nil => rfl
  | cons character front ih =>
    rw [List.mem_cons, not_or] at absent
    rw [List.cons_append, dropOptionalFrom, if_neg (Ne.symm absent.1), ih absent.2]
    simp

theorem isSuffixOf_placeholder (inside : List Char) :
    ['?', '}'].isSuffixOf ('{' :: (inside ++ ['}'])) = true ↔ inside.getLast? = some '?' := by
  rcases List.eq_nil_or_concat' inside with rfl | ⟨start, last, rfl⟩
  · decide
  · rw [List.getLast?_concat, Option.some.injEq, eq_comm, List.isSuffixOf]
    simp [eq_comm (a := last)]

/-- What becomes of a placeholder with a text inside. -/
theorem dropOptionalFrom_placeholder {inside : List Char} (absent : '}' ∉ inside)
    (rest : List Char) :
    dropOptionalFrom none ('{' :: (inside ++ '}' :: rest)) =
      (if ['?', '}'].isSuffixOf ('{' :: (inside ++ ['}'])) then []
        else '{' :: (inside ++ ['}'])) ++ dropOptionalFrom none rest := by
  rw [dropOptionalFrom, if_pos rfl, dropOptionalFrom_some_append absent, dropOptionalFrom,
    if_pos rfl, List.append_nil, List.reverse_reverse, List.head?_reverse]
  simp only [isSuffixOf_placeholder, List.cons_append]

end Url

namespace Bytewise

theorem find?_singleton (mark : Char) (text : List Char) :
    find? [mark] text = (Text.splitAt? mark text).map fun parts => size parts.1 := by
  rw [find?, Text.splitOnce?_singleton]

section Placeholder

variable (before inside rest : List Char)

theorem slice_placeholder :
    slice (size before) (size before + size ('{' :: inside) + 1)
        (before ++ '{' :: (inside ++ '}' :: rest)) = .ok ('{' :: (inside ++ ['}'])) := by
  have parts : '{' :: (inside ++ '}' :: rest) = '{' :: (inside ++ ['}']) ++ rest := by simp
  rw [parts]
  refine slice_append rfl ?_ rest
  rw [← List.cons_append, size_append, Nat.add_assoc]
  rfl

theorem sliceFrom_placeholder :
    sliceFrom (size before + size ('{' :: inside) + 1)
        (before ++ '{' :: (inside ++ '}' :: rest)) = .ok rest := by
  have parts : before ++ '{' :: (inside ++ '}' :: rest) =
      before ++ '{' :: inside ++ ['}'] ++ rest := by simp
  rw [parts]
  refine sliceFrom_append ?_ rest
  rw [size_append, size_append]
  rfl

end Placeholder

theorem fillFirst_eq (segment pattern : List Char) :
    fillFirst segment pattern = .ok (Url.fillFirst segment pattern) := by
  rw [fillFirst, Url.fillFirst, find?_singleton, find?_singleton]
  cases opened : Text.splitAt? '{' pattern with
  | none => rfl
  | some parts =>
    obtain ⟨before, after⟩ := parts
    obtain ⟨rfl, unopened⟩ := Text.splitAt?_eq_some_iff.1 opened
    by_cases early : '}' ∈ before
    · obtain ⟨⟨front, back⟩, closed⟩ := Option.ne_none_iff_exists'.1
        (mt Text.splitAt?_eq_none_iff.1 (not_not.2 early))
      obtain ⟨rfl, unclosed⟩ := Text.splitAt?_eq_some_iff.1 closed
      have first : Text.splitAt? '}' (front ++ '}' :: back ++ '{' :: after) =
          some (front, back ++ '{' :: after) :=
        Text.splitAt?_eq_some_iff.2 ⟨by simp, unclosed⟩
      have notLater : ¬ size (front ++ '}' :: back) < size front := by
        rw [size_append]
        omega
      simp only [first, Option.map_some, if_neg notLater, List.contains_eq_mem, early]
      rfl
    · have first := Text.splitAt?_append_of_not_mem
        (show '}' ∉ before ++ ['{'] by simpa using early) after
      simp only [List.append_assoc, List.singleton_append] at first
      rw [first]
      simp only [Option.map_some, List.contains_eq_mem, early]
      cases closed : Text.splitAt? '}' after with
      | none => rfl
      | some parts =>
        obtain ⟨inside, rest⟩ := parts
        obtain ⟨rfl, -⟩ := Text.splitAt?_eq_some_iff.1 closed
        have later : size before < size (before ++ '{' :: inside) := by
          rw [size_append, size_cons]
          have positive := '{'.utf8Size_pos
          omega
        have front :
            slice 0 (size before) (before ++ '{' :: (inside ++ '}' :: rest)) = .ok before :=
          slice_zero rfl _
        have behind := sliceFrom_placeholder before inside rest
        rw [← size_append] at behind
        simp only [Option.map_some, if_pos later, front, behind]
        rfl

theorem dropPlaceholders_eq (pattern : List Char) :
    dropPlaceholders pattern = .ok (Url.dropOptionalFrom none pattern) := by
  rw [dropPlaceholders, find?_singleton]
  cases opened : Text.splitAt? '{' pattern with
  | none =>
    have absent := Text.splitAt?_eq_none_iff.1 opened
    have same := Url.dropOptionalFrom_none_append absent []
    rw [List.append_nil] at same
    rw [same, Url.dropOptionalFrom, List.append_nil]
    rfl
  | some parts =>
    obtain ⟨before, after⟩ := parts
    obtain ⟨rfl, unopened⟩ := Text.splitAt?_eq_some_iff.1 opened
    have brace : sliceFrom (size before) (before ++ '{' :: after) = .ok ('{' :: after) :=
      sliceFrom_append rfl _
    have ends := Text.splitAt?_append_of_not_mem (show '}' ∉ ['{'] by decide) after
    rw [List.singleton_append] at ends
    simp only [Option.map_some, brace, bind, Except.bind, find?_singleton, ends]
    cases closed : Text.splitAt? '}' after with
    | none =>
      have unchanged := Url.dropOptionalFrom_some_append (Text.splitAt?_eq_none_iff.1 closed) [] []
      rw [List.append_nil, List.append_nil, Url.dropOptionalFrom, List.reverse_reverse] at unchanged
      rw [Url.dropOptionalFrom_none_append unopened, Url.dropOptionalFrom, if_pos rfl, unchanged]
      rfl
    | some parts =>
      obtain ⟨inside, rest⟩ := parts
      obtain ⟨rfl, unclosed⟩ := Text.splitAt?_eq_some_iff.1 closed
      have placeholder := slice_placeholder before inside rest
      have front : slice 0 (size before) (before ++ '{' :: (inside ++ '}' :: rest)) = .ok before :=
        slice_zero rfl _
      have behind := sliceFrom_placeholder before inside rest
      simp only [Option.map_some, List.singleton_append, placeholder, front]
      split
      · next stopped => cases behind.symm.trans stopped
      · next found =>
        cases behind.symm.trans found
        rw [dropPlaceholders_eq rest, Url.dropOptionalFrom_none_append unopened,
          Url.dropOptionalFrom_placeholder unclosed, ← List.append_assoc]
        rfl
termination_by pattern.length
decreasing_by
  simp_all only [List.length_append, List.length_cons]
  omega

theorem dropOptional_eq (pattern : List Char) :
    dropOptional pattern = .ok (Url.dropOptional pattern) := by
  rw [dropOptional, dropPlaceholders_eq]
  rfl

theorem foldlM_eq_ok {α β : Type} {step : β → α → Guarded β} {next : β → α → β}
    (answers : ∀ state item, step state item = .ok (next state item)) (items : List α)
    (state : β) : items.foldlM step state = .ok (items.foldl next state) := by
  induction items generalizing state with
  | nil => rfl
  | cons item others ih =>
    rw [List.foldlM_cons, answers]
    exact ih (next state item)

theorem fillRoute_eq (pattern : List Char) (parameters : Value) :
    fillRoute pattern parameters = .ok (Host.fillRoute pattern parameters) := by
  have fills (path : List Char) (item : Value) :
      fillFirst (Percent.pathSegment item.display) path =
        .ok (Url.fillFirst (Percent.pathSegment item.display) path) := fillFirst_eq _ _
  cases parameters with
  | object fields => rfl
  | array items =>
    rw [fillRoute, foldlM_eq_ok fills]
    rfl
  | null => rfl
  | bool _ | number _ | text _ =>
    simp only [fillRoute, fills, Host.fillRoute, bind, Except.bind, pure, Except.pure]

/-- Every slice of a route pattern is taken between characters, and the address is that of the
route. -/
theorem route_eq (host : Host) (name : String) (parameters : Value) :
    route host name parameters = .ok (host.route name parameters) := by
  rw [route, Host.route]
  cases Fields.get? name host.routes with
  | none => rfl
  | some pattern =>
    simp only [fillRoute_eq, dropOptional_eq]
    rfl

end Bytewise

end Intake
