import Intake.Proofs.Json.RoundTrip
import Intake.Proofs.Mapping.Collections
import Intake.Proofs.Template.Calls

/-!
# Aggregates in rules and in templates

Collections of the source are counted and joined in two places. A transformation has the value
itself; a function of a template is given the text of the value and reads it again. For documents
without floating point numbers that nest no deeper than a reader goes, nothing is lost on the way,
and both come to the same.
-/

namespace Intake

open Text
open Expression (applied quotedText parseArgument)

namespace Context

/-- A path into a variable. -/
def pathInto (name path : List Char) : List Char :=
  name ++ '.' :: path

variable {name path : List Char}

theorem isPath_pathInto (isName : Operand.isPath name = true) (single : '.' ∉ name)
    (named : ∀ segment ∈ pieces '.' path,
      segment ≠ [] ∧ segment.all Operand.continuesSegment = true) :
    Operand.isPath (pathInto name path) = true := by
  have segments : (pieces '.' path).all (fun segment =>
      !segment.isEmpty && segment.all Operand.continuesSegment) = true := by
    rw [List.all_eq_true]
    intro segment member
    obtain ⟨nonempty, continues⟩ := named segment member
    simp [nonempty, continues]
  rw [Operand.isPath, pieces_of_not_mem single] at isName
  rw [Operand.isPath, pathInto, pieces_append_of_not_mem single]
  cases name with
  | nil => cases isName
  | cons first rest =>
    simp only [List.all_nil, Bool.and_true] at isName
    simp only [isName, segments, Bool.and_self]

theorem pathInto_not_mem_literalWords (name path : List Char) :
    pathInto name path ∉ Operand.literalWords := by
  have pointless : ∀ word ∈ Operand.literalWords, '.' ∉ word := by decide
  intro member
  exact pointless _ member (by simp [pathInto])

/-- A path into a variable leads to where the rest of it leads from the variable's value. -/
theorem lookup_pathInto (context : Context) (isPath : Operand.isPath (pathInto name path) = true)
    (single : '.' ∉ name) :
    context.lookup (pathInto name path) =
      (context.get? (String.ofList name)).bind (Value.get? path) := by
  have kept : trim (pathInto name path) = pathInto name path :=
    (Concatenation.Segment.path _ isPath).trim_text
  have cut : splitAt? '.' (pathInto name path) = some (name, path) :=
    splitAt?_eq_some_iff.2 ⟨rfl, single⟩
  have solid : trim name = name := by
    apply trim_of_not_blank
    intro character member
    have inPath : character ∈ pathInto name path := List.mem_append_left _ member
    have isSolid := List.all_eq_true.1 (Operand.isSolid_of_isPath isPath) character inPath
    exact (Condition.isSolid_iff.1 isSolid).2.1
  simp only [lookup, kept, cut, solid]

end Context

theorem Value.display_ofNat (value : Nat) : (Value.ofNat value).display = Decimal.digits value := by
  have positive : ¬ (value : Int) < 0 := by omega
  change Decimal.ofInt value = _
  rw [Decimal.ofInt, if_neg positive, Int.natAbs_natCast]

namespace Builtin

/-- Every built-in function has a word for its name. -/
theorem names_of_words : ∀ name ∈ Fields.names table,
    name.toList ≠ [] ∧ name.toList.all Character.isWord = true := by
  decide

theorem listOf?_compact {items : List Value}
    (parsed : Json.parse? (Value.array items).compact = some (.array items)) :
    listOf? (.text (Value.array items).compact) = some items := by
  simp only [listOf?, parsed]

/-- The text of a collection counts as the collection does. -/
theorem countOf_compact {collection : Value} {items : List Value}
    (parsed : Json.parse? collection.compact = some collection)
    (listed : Path.children? collection = some items) :
    countOf (.text collection.compact) = items.length := by
  cases collection with
  | array elements =>
    obtain rfl : elements = items := Option.some.inj listed
    simp only [countOf, listOf?_compact parsed]
  | object fields =>
    obtain rfl : Fields.contents fields = items := Option.some.inj listed
    have visible : (Value.object fields).compact ≠ "" := by
      intro empty
      have characters := congrArg String.toList empty
      simp [Value.compact, Value.compactText_object] at characters
    have noList : listOf? (.text (Value.object fields).compact) = none := by
      simp only [listOf?, parsed]
    simp only [countOf, noList, visible, ↓reduceIte, parsed, Fields.contents, List.length_map]
  | null | bool | number | text => cases listed

end Builtin

namespace Renderer

section Calls

variable {renderer : Renderer} (builtin : renderer.globals = Builtin.table) {context : Context}
  {path : List Char} (isPath : Operand.isPath (Context.pathInto "source".toList path) = true)
  {collection : Value} {items : List Value}
  (found : (context.get? "source").bind (Value.get? path) = some collection)
  (listed : Path.children? collection = some items)
  (parsed : Json.parse? collection.compact = some collection)

include isPath found listed in
/-- A function is given the compact text of a collection. -/
theorem argumentValue_collection :
    renderer.argumentValue context (parseArgument (Context.pathInto "source".toList path)) =
      .text collection.compact := by
  have text : collection.display = collection.compactText := by
    cases collection with
    | array | object => rfl
    | null | bool | number | text => cases listed
  rw [Expression.argumentValue_path isPath (Context.pathInto_not_mem_literalWords _ path),
    Context.shown, context.lookup_pathInto isPath (by decide), String.ofList_toList, found,
    Option.map_some, Option.getD_some, text]
  rfl

include builtin in
/-- A block with a call of a built-in function shows what that function answers, unless the context
has one of the same name. -/
theorem render_builtin {name : String} (free : Fields.get? name context.functions = none)
    {function : Callable} (known : Fields.get? name Builtin.table = some function)
    {parts : List (List Char)} (fit : ∀ part ∈ parts, Expression.IsPart part) :
    renderer.render (Block.spaced (applied name.toList parts)) context =
      Expression.resultText (function
        (parts.map fun part => renderer.argumentValue context (parseArgument part))) := by
  have member : name ∈ Fields.names Builtin.table :=
    List.mem_map.2 ⟨_, Fields.mem_of_get? known, rfl⟩
  obtain ⟨nonempty, word⟩ := Builtin.names_of_words name member
  have called : renderer.function? context name = some function := by
    simp only [function?, free, builtin, known]
  exact Expression.render_applied nonempty word fit renderer context called

include builtin isPath found listed parsed in
theorem render_count (free : Fields.get? "count" context.functions = none) :
    renderer.render (Block.spaced (applied "count".toList
        [Context.pathInto "source".toList path])) context =
      Decimal.digits items.length := by
  have fit := List.forall_mem_singleton.2
    (Expression.isPart_path isPath (Context.pathInto_not_mem_literalWords _ path))
  refine (render_builtin builtin free rfl fit).trans ?_
  rw [List.map_singleton, argumentValue_collection isPath found listed]
  change (Value.ofNat (Builtin.countOf (.text collection.compact))).display = _
  rw [Builtin.countOf_compact parsed listed, Value.display_ofNat]

include builtin isPath found parsed in
theorem render_join (free : Fields.get? "join" context.functions = none)
    (isArray : collection = .array items) {separator : String}
    (quotable : Value.isQuotable separator.toList = true) :
    renderer.render (Block.spaced (applied "join".toList
        [quotedText '\'' separator.toList, Context.pathInto "source".toList path])) context =
      joined separator.toList (items.map Value.display) := by
  subst isArray
  have fit := List.forall_mem_cons.2 ⟨Expression.isPart_quoted quotable,
    List.forall_mem_singleton.2
      (Expression.isPart_path isPath (Context.pathInto_not_mem_literalWords _ path))⟩
  have quoted : renderer.argumentValue context
      (parseArgument (quotedText '\'' separator.toList)) = .text separator :=
    (Expression.isArgument_text quotable).read renderer context
  have answer : Builtin.join [.text separator, .text (Value.array items).compact] =
      .ok (.ofChars (joined separator.toList (items.map Value.display))) := by
    simp only [Builtin.join, List.getElem?_cons_succ, List.getElem?_cons_zero, Option.bind_some,
      Builtin.listOf?_compact parsed]
    rfl
  refine (render_builtin builtin free rfl fit).trans ?_
  rw [List.map_cons, List.map_singleton, quoted, argumentValue_collection isPath found rfl, answer]
  exact String.toList_ofList

end Calls

end Renderer

namespace Engine

section Aggregates

variable (engine : Engine) (constants : Fields Value) {context : Context} {path : List Char}
  {collection : Value} {items : List Value}
  (found : (context.get? "source").bind (Value.get? path) = some collection)
  (listed : Path.children? collection = some items) (levels : Nat) (handler : Option Rule)
  (condition : Option Condition)

include found listed

theorem valueAt_count (separator : Option String) :
    engine.valueAt constants (levels + 1) (.transform path .count handler condition separator)
        context = .ofNat items.length := by
  simp only [valueAt, sourceAt?_of_children? found listed, itemsOf_of_children? listed]

theorem valueAt_join (isArray : collection = .array items) (separator : String) :
    engine.valueAt constants (levels + 1)
        (.transform path .join handler condition (some separator)) context =
      .ofChars (joined separator.toList (items.map Value.display)) := by
  subst isArray
  simp only [valueAt, sourceAt?_of_children? found listed, Option.getD_some, joinedText]

end Aggregates

/-- What the transformations `count` and `join` make of a collection, the functions of the same
names show in a template: the count of an array or an object, and the joined texts of an array. The
segments of the path are made of the characters of words, of dollar signs and of wildcards. -/
theorem render_aggregates (engine : Engine) (constants : Fields Value) (levels : Nat)
    (builtin : engine.renderer.globals = Builtin.table) {context : Context}
    (noCount : Fields.get? "count" context.functions = none)
    (noJoin : Fields.get? "join" context.functions = none) {path : List Char}
    (named : ∀ segment ∈ pieces '.' path,
      segment ≠ [] ∧ segment.all Operand.continuesSegment = true)
    {collection : Value} {items : List Value}
    (found : (context.get? "source").bind (Value.get? path) = some collection)
    (listed : Path.children? collection = some items) (free : collection.isFloatFree = true)
    (distinct : collection.hasDistinctNames = true) (shallow : collection.nesting ≤ 127) :
    let yields := fun rule => engine.valueAt constants (levels + 1) rule context
    let shows := fun call => engine.renderer.render (Block.spaced call) context
    let place := Context.pathInto "source".toList path
    (∀ handler condition separator,
      yields (.transform path .count handler condition separator) = .ofNat items.length ∧
        shows (applied "count".toList [place]) = Decimal.digits items.length) ∧
    (collection = .array items →
      ∀ separator : String, Value.isQuotable separator.toList = true →
        ∀ handler condition, ∃ text,
          yields (.transform path .join handler condition (some separator)) = .ofChars text ∧
            shows (applied "join".toList [quotedText '\'' separator.toList, place]) = text) := by
  intro yields shows place
  have isPath : Operand.isPath place = true :=
    Context.isPath_pathInto (by decide) (by decide) named
  have parsed := Json.parse?_compact free distinct shallow
  constructor
  · intro handler condition separator
    exact ⟨engine.valueAt_count constants found listed levels handler condition separator,
      Renderer.render_count builtin isPath found listed parsed noCount⟩
  · intro isArray separator quotable handler condition
    exact ⟨joined separator.toList (items.map Value.display),
      engine.valueAt_join constants found listed levels handler condition isArray separator,
      Renderer.render_join builtin isPath found parsed noJoin isArray quotable⟩

/-- A source with a list of tags of several kinds. -/
def tagSource : Value :=
  .object [("order", .object [("tags", .array [.text "new, \"red\"", .ofInt (-7), .null,
    .array [.bool true], .object [("key", .text "\n")]])])]

theorem render_aggregates_tags :
    let engine : Engine := {}
    let context := engine.contextOf billDriver tagSource
    let path := "order.tags".toList
    let items := [.text "new, \"red\"", .ofInt (-7), .null, .array [.bool true],
      .object [("key", .text "\n")]]
    let place := Context.pathInto "source".toList path
    let count := Block.spaced (applied "count".toList [place])
    let join := Block.spaced (applied "join".toList
      [quotedText '\'' " \x7d\x7d, (".toList, place])
    engine.renderer.globals = Builtin.table ∧
      Fields.get? "count" context.functions = none ∧ Fields.get? "join" context.functions = none ∧
      (∀ segment ∈ pieces '.' path,
        segment ≠ [] ∧ segment.all Operand.continuesSegment = true) ∧
      (context.get? "source").bind (Value.get? path) = some (.array items) ∧
      (Value.array items).isFloatFree = true ∧ (Value.array items).hasDistinctNames = true ∧
      (Value.array items).nesting ≤ 127 ∧ Value.isQuotable " \x7d\x7d, (".toList = true ∧
      count = "\x7b\x7b count(source.order.tags) \x7d\x7d".toList ∧
      engine.renderer.render count context = "5".toList ∧
      join = "\x7b\x7b join(' \x7d\x7d, (', source.order.tags) \x7d\x7d".toList ∧
      ∃ text, engine.valueAt billDriver.constants 1
          (.transform path .join none none (some " \x7d\x7d, (")) context = .ofChars text ∧
        engine.renderer.render join context = text := by
  intro engine context path items place count join
  have noCount : Fields.get? "count" context.functions = none := rfl
  have noJoin : Fields.get? "join" context.functions = none := rfl
  have named : ∀ segment ∈ pieces '.' path,
      segment ≠ [] ∧ segment.all Operand.continuesSegment = true := by decide
  have found : (context.get? "source").bind (Value.get? path) = some (.array items) := by
    decide
  have free : (Value.array items).isFloatFree = true := by decide
  have distinct : (Value.array items).hasDistinctNames = true := by decide
  have shallow : (Value.array items).nesting ≤ 127 := by decide
  have quotable : Value.isQuotable " \x7d\x7d, (".toList = true := by decide
  obtain ⟨counts, joins⟩ := engine.render_aggregates billDriver.constants 0 rfl noCount noJoin named
    found rfl free distinct shallow
  refine ⟨rfl, noCount, noJoin, named, found, free, distinct, shallow, quotable, by decide, ?_,
    by decide, joins rfl " \x7d\x7d, (" quotable none none⟩
  exact (counts none none none).2.trans (by decide)

end Engine

end Intake
