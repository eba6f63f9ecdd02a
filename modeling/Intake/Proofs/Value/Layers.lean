import Intake.Context
import Intake.Markup.Processor
import Intake.Proofs.Value.Path

/-!
# Layers of variables

Variables that are bound later lie in front of those a context was made with. Written over these,
they make one object in which every name has the value that the context gives it. So a path that
starts with the name of a variable leads to the same place in the context and in that object, and
the texts that are filled from one of them can be filled from the other.
-/

namespace Intake

open Text

namespace Path

/-- A path that starts with a name and does not end in the point behind it. -/
structure StartsWithName (path : List Char) : Prop where
  named : ∀ first ∈ (segments path).head?, isBlankText first = false ∧ first ≠ wildcard
  goesOn : ∀ parts ∈ splitAt? '.' path, isBlankText parts.2 = false

/-- Such a path is a name, or a name and a path behind it, with white space around them. -/
theorem StartsWithName.cases {path : List Char} (starts : StartsWithName path) :
    ('.' ∉ trim path ∧ trim path ≠ wildcard) ∨
      ∃ head rest, splitAt? '.' (trim path) = some (head, rest) ∧ '.' ∉ head ∧
        trim head ≠ wildcard ∧ isBlankText rest = false := by
  obtain ⟨before, after, beforeBlank, afterBlank, same⟩ := exists_margins path
  cases cut : splitAt? '.' (trim path) with
  | none =>
    have absent := splitAt?_eq_none_iff.1 cut
    have first : (segments path).head? = some (trim path) := by
      rw [← segments_trim, segments_of_not_mem absent, trim_trim]
      rfl
    exact Or.inl ⟨absent, (starts.named _ first).2⟩
  | some parts =>
    obtain ⟨head, rest⟩ := parts
    obtain ⟨whole, absent⟩ := splitAt?_eq_some_iff.1 cut
    have first : (segments path).head? = some (trim head) := by
      rw [← segments_trim, whole, segments_append_point, segments_of_not_mem absent]
      rfl
    have cutPath : splitAt? '.' path = some (before ++ head, rest ++ after) := by
      rw [splitAt?_eq_some_iff, same, whole]
      have outside := point_not_mem_blank beforeBlank
      exact ⟨by simp, by simp [outside, absent]⟩
    have goesOn := starts.goesOn _ cutPath
    rw [isBlankText_append, afterBlank, Bool.and_true] at goesOn
    exact Or.inr ⟨head, rest, rfl, absent, (starts.named _ first).2, goesOn⟩

theorem StartsWithName.not_blank {path : List Char} (starts : StartsWithName path) :
    isBlankText path = false := by
  by_contra blank
  rw [Bool.not_eq_false] at blank
  have first : (segments path).head? = some [] := by
    rw [segments_of_not_mem (point_not_mem_blank blank), trim_of_blank blank]
    rfl
  cases (starts.named _ first).1

/-- A name is looked up among the fields of an object. -/
theorem follow_object {name : List Char} (named : name ≠ wildcard) (rest : List (List Char))
    (fields : Fields Value) :
    follow (name :: rest) (.object fields) =
      (Fields.get? (String.ofList name) fields).bind (follow rest) := by
  rw [follow, if_neg named]
  rfl

end Path

namespace Context

/-- The context with variables bound one after the other. -/
def bindAll (context : Context) (bindings : List (String × Value)) : Context :=
  bindings.foldl (fun inner binding => inner.bind binding.1 binding.2) context

theorem nodup_locals_bindAll {context : Context} (distinct : (Fields.names context.locals).Nodup)
    (bindings : List (String × Value)) :
    (Fields.names (context.bindAll bindings).locals).Nodup := by
  induction bindings generalizing context with
  | nil => exact distinct
  | cons binding others ih =>
    exact ih (Fields.nodup_names_insert distinct binding.1 binding.2)

/-- A name has the same value in the layers of a context and in the object made of them. -/
theorem get?_eq_field? {context : Context} (distinct : (Fields.names context.locals).Nodup)
    (name : String) : context.get? name = context.toValue.field? name := by
  rw [toValue, Value.field?, Fields.get?_insertAll distinct, get?]
  cases Fields.get? name context.locals <;> rfl

/-- A path that starts with a name leads to the same place in a context and in its object. -/
theorem lookup_eq_get? {context : Context} (distinct : (Fields.names context.locals).Nodup)
    {path : List Char} (starts : Path.StartsWithName path) :
    context.lookup path = context.toValue.get? path := by
  rw [Value.get?_of_not_blank starts.not_blank, ← Path.segments_trim]
  rcases starts.cases with ⟨absent, named⟩ | ⟨head, rest, cut, absent, named, goesOn⟩
  · simp only [lookup, splitAt?_eq_none_iff.2 absent]
    rw [Path.segments_of_not_mem absent, trim_trim, get?_eq_field? distinct, toValue,
      Path.follow_object named, Value.field?]
    exact (Option.bind_fun_some _).symm
  · simp only [lookup, cut]
    have follows : Value.get? rest = Path.follow (Path.segments rest) :=
      funext fun child => Value.get?_of_not_blank goesOn child
    rw [(splitAt?_eq_some_iff.1 cut).1, Path.segments_append_point,
      Path.segments_of_not_mem absent, List.singleton_append, get?_eq_field? distinct, toValue,
      Path.follow_object named, Value.field?, follows]

/-- In a context of any value, whatever variables are bound in front of it and whatever functions go
with them, a path that starts with a name leads to what it leads to in the one object that step
templates are filled from. -/
theorem lookup_bindAll (value : Value) (functions : FunctionTable)
    (bindings : List (String × Value)) {path : List Char} (starts : Path.StartsWithName path) :
    let context := { ofValue value with functions := functions }.bindAll bindings
    context.lookup path = context.toValue.get? path ∧
      Processor.resolvePath context.toValue path =
        ((context.lookup path).map Value.stepDisplay).getD [] := by
  intro context
  have unbound : (Fields.names { ofValue value with functions := functions }.locals).Nodup := by
    cases value <;> exact List.nodup_nil
  have same := lookup_eq_get? (nodup_locals_bindAll unbound bindings) starts
  refine ⟨same, ?_⟩
  rw [Processor.resolvePath, same]

/-- An item in front of another one of the same name. -/
def itemBindings : List (String × Value) :=
  [("item", .text "bow"), ("priorities", .null),
    ("item", .object [("", .object [("parts", .array [.object [("id", .ofInt 7)], .null])])])]

theorem lookup_bindAll_item :
    let path := " item .. parts.*.id ".toList
    let context := { ofValue (.ofInt 5) with functions := [] }.bindAll itemBindings
    Path.StartsWithName path ∧
      context.lookup path = context.toValue.get? path ∧
      Processor.resolvePath context.toValue path =
        ((context.lookup path).map Value.stepDisplay).getD [] ∧
      context.lookup path = some (.array [.ofInt 7, .null]) := by
  intro path context
  have starts : Path.StartsWithName path := ⟨by decide, by decide⟩
  obtain ⟨same, text⟩ := lookup_bindAll (.ofInt 5) [] itemBindings starts
  exact ⟨starts, same, text, by decide +kernel⟩

end Context

end Intake
