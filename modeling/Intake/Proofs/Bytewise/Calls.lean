import Intake.Bytewise.Scope
import Intake.Proofs.Bytewise.Block
import Intake.Proofs.Bytewise.Expression
import Intake.Proofs.Bytewise.Route

/-!
# Calls that stop the program

To render a template is to make certain calls, one after the other. All slices on the way are taken
between characters, so that nothing but such a call can stop the program: a call of `number_format`
with a number and with more decimal places than can be written. As long as there is none, the text
is the one that the renderer answers.
-/

namespace Intake

namespace Bytewise

/-- An answer, unless a call before it asks for too many decimal places. -/
def settled {α : Type} (excess : Option Nat) (answer : α) : Guarded α :=
  match excess with
  | some count => .error (.places count)
  | none => .ok answer

theorem settled_bind {α β : Type} {next : α → Guarded β} {answer : α} {second : Option Nat}
    {last : β} (first : Option Nat) (continues : next answer = settled second last) :
    (settled first answer >>= next) = settled (first.or second) last := by
  cases first with
  | none => exact continues
  | some count => rfl

theorem settled_map {α β : Type} (change : α → β) (excess : Option Nat) (answer : α) :
    (settled excess answer >>= fun found => (return change found : Guarded β)) =
      settled excess (change answer) := by
  cases excess <;> rfl

theorem settled_eq_ok_iff {α : Type} {excess : Option Nat} {answer : α} :
    settled excess answer = .ok answer ↔ excess = none := by
  cases excess <;> simp [settled]

theorem settled_eq_error_iff {α : Type} {excess : Option Nat} {answer : α} {stop : Stop} :
    settled excess answer = .error stop ↔ ∃ count, excess = some count ∧ stop = .places count := by
  cases excess <;> simp [settled, eq_comm]

namespace Registered

/-- The function as the renderer calls it. -/
def callable : Registered → Callable
  | numberFormat => Builtin.numberFormat
  | route host => fun arguments =>
    match arguments with
    | [] => .error (.expects "route" "a name")
    | name :: _ =>
      (host.route (String.ofList name.display) (Host.argumentValue arguments 1)).map Value.ofChars
  | other function => function

/-- The count of decimal places that a call writes, if it writes a number. -/
def places? : Registered → List Value → Option Nat
  | numberFormat, arguments =>
    (arguments.head?.bind Builtin.numberOf?).map fun _ =>
      ((arguments[1]?.bind Builtin.numberOf?).map Builtin.placesOf).getD 0
  | route _, _ => none
  | other _, _ => none

/-- A call answers what the renderer's function answers, unless it writes too many places. -/
theorem run_eq (function : Registered) (arguments : List Value) :
    function.run arguments =
      settled ((function.places? arguments).filter (placesLimit < ·))
        (function.callable arguments) := by
  cases function with
  | numberFormat =>
    simp only [run, Bytewise.numberFormat, callable, Builtin.numberFormat, places?]
    cases arguments.head?.bind Builtin.numberOf? with
    | none => rfl
    | some number =>
      simp only [Option.map_some, Option.filter_some, Bytewise.format, decide_eq_true_eq]
      split <;> rfl
  | route host =>
    cases arguments with
    | nil => rfl
    | cons name others =>
      simp only [run, routeCall, route_eq]
      rfl
  | other function => rfl

end Registered

/-- The functions of a table as the renderer calls them. -/
def callables (functions : Fields Registered) : FunctionTable :=
  functions.map fun field => (field.1, field.2.callable)

end Bytewise

open Bytewise

namespace Scope

def renderer (scope : Scope) : Renderer where
  globals := callables scope.globals

def context (scope : Scope) : Context where
  base := scope.base
  locals := scope.locals
  functions := callables scope.functions

/-- Templates are rendered with the built-in functions and with those of a host. -/
theorem renderer_and_context (host : Host) (base locals : Fields Value) :
    let scope : Scope := { functions := hostFunctions host, base, locals }
    scope.renderer = {} ∧ scope.context = { base, locals, functions := host.functions } :=
  ⟨rfl, rfl⟩

theorem function?_callable (scope : Scope) (name : String) :
    scope.renderer.function? scope.context name =
      (scope.function? name).map Registered.callable := by
  rw [Renderer.function?, function?, renderer, context, callables, callables, Fields.get?_map,
    Fields.get?_map]
  cases Fields.get? name scope.functions <;> rfl

end Scope

/-- A call of a function. -/
structure Call where
  function : Registered
  arguments : List Value

/-- The count of decimal places that a call writes, if it writes a number. -/
def Call.places? (call : Call) : Option Nat :=
  call.function.places? call.arguments

/-- The first count of decimal places that is too large. -/
def firstExcess (calls : List Call) : Option Nat :=
  (calls.filterMap Call.places?).find? (placesLimit < ·)

theorem firstExcess_append (first second : List Call) :
    firstExcess (first ++ second) = (firstExcess first).or (firstExcess second) := by
  rw [firstExcess, List.filterMap_append, List.find?_append, firstExcess, firstExcess]

theorem firstExcess_singleton (call : Call) :
    firstExcess [call] = call.places?.filter (placesLimit < ·) := by
  cases written : call.places? with
  | none => simp [firstExcess, written]
  | some places => simp [firstExcess, written, Option.filter_some, List.find?_singleton]

theorem firstExcess_eq_none_iff {calls : List Call} :
    firstExcess calls = none ↔ ∀ call ∈ calls, ∀ places ∈ call.places?, places ≤ placesLimit := by
  simp only [firstExcess, List.find?_eq_none, List.mem_filterMap, decide_eq_true_eq, Nat.not_lt]
  constructor
  · exact fun within call member places found => within places ⟨call, member, found⟩
  · rintro within places ⟨call, member, found⟩
    exact within call member places found

namespace Scope

variable (scope : Scope)

/-- The call of a name, if there is a function of that name. -/
def namedCalls (name : String) (arguments : List Value) : List Call :=
  ((scope.function? name).map fun function => ⟨function, arguments⟩).toList

mutual

/-- The calls that evaluate an expression. -/
def treeCalls : Expression → List Call
  | .coalesce left right =>
    let value := scope.renderer.evaluateTree scope.context left
    treeCalls left ++ if value ≠ [] ∧ value ≠ "null".toList then [] else treeCalls right
  | .concat parts => partsCalls parts
  | .call name arguments =>
    argumentsCalls arguments ++
      scope.namedCalls name (scope.renderer.argumentValues scope.context arguments)
  | .unreadable => []
  | .literal _ => []
  | .path _ => []

def partsCalls : List Expression → List Call
  | [] => []
  | part :: others => treeCalls part ++ partsCalls others

def argumentCalls : Argument → List Call
  | .value _ => []
  | .array items => argumentsCalls items
  | .object fields => fieldsCalls fields
  | .rendered expression => treeCalls expression

def argumentsCalls : List Argument → List Call
  | [] => []
  | argument :: others => argumentCalls argument ++ argumentsCalls others

def fieldsCalls : List (String × Argument) → List Call
  | [] => []
  | (_, argument) :: others => argumentCalls argument ++ fieldsCalls others

end

def segmentCalls : Block.Segment → List Call
  | .literal _ => []
  | .block inside => scope.treeCalls (Expression.parse inside)

/-- The calls that render a template. -/
def calls (template : List Char) : List Call :=
  (Block.segments template).flatMap scope.segmentCalls

theorem callText_eq (name : String) (arguments : List Value) :
    scope.callText name arguments =
      settled (firstExcess (scope.namedCalls name arguments))
        (scope.renderer.callText scope.context name arguments) := by
  rw [callText, Renderer.callText, namedCalls, function?_callable]
  cases scope.function? name with
  | none => rfl
  | some function =>
    simp only [Option.map_some, Option.toList_some, firstExcess_singleton, Call.places?,
      function.run_eq]
    cases (function.places? arguments).filter (placesLimit < ·) with
    | some count => rfl
    | none => cases function.callable arguments <;> rfl

mutual

theorem evaluateTree_eq (tree : Expression) :
    scope.evaluateTree tree =
      settled (firstExcess (scope.treeCalls tree))
        (scope.renderer.evaluateTree scope.context tree) := by
  cases tree with
  | coalesce left right =>
    rw [evaluateTree, treeCalls, firstExcess_append, evaluateTree_eq left, Renderer.evaluateTree]
    -- The right side makes its calls only where the left one is empty.
    apply settled_bind
    split
    · rfl
    · exact evaluateTree_eq right
  | concat parts => exact evaluateParts_eq parts
  | call name arguments =>
    rw [evaluateTree, treeCalls, firstExcess_append, argumentValues_eq arguments]
    exact settled_bind _ (scope.callText_eq _ _)
  | unreadable => rfl
  | literal text => rfl
  | path path => rfl

theorem evaluateParts_eq (parts : List Expression) :
    scope.evaluateParts parts =
      settled (firstExcess (scope.partsCalls parts))
        (scope.renderer.evaluateParts scope.context parts) := by
  cases parts with
  | nil => rfl
  | cons part others =>
    rw [evaluateParts, partsCalls, firstExcess_append, evaluateTree_eq part,
      evaluateParts_eq others]
    exact settled_bind _ (settled_map _ _ _)

theorem argumentValue_eq (argument : Argument) :
    scope.argumentValue argument =
      settled (firstExcess (scope.argumentCalls argument))
        (scope.renderer.argumentValue scope.context argument) := by
  cases argument with
  | value value => rfl
  | array items =>
    rw [argumentValue, argumentCalls, argumentValues_eq items]
    exact settled_map Value.array _ _
  | object fields =>
    rw [argumentValue, argumentCalls, argumentFields_eq fields]
    exact settled_map (fun values => Value.object (Fields.ofPairs values)) _ _
  | rendered expression =>
    rw [argumentValue, argumentCalls, evaluateTree_eq expression]
    exact settled_map Value.ofChars _ _

theorem argumentValues_eq (arguments : List Argument) :
    scope.argumentValues arguments =
      settled (firstExcess (scope.argumentsCalls arguments))
        (scope.renderer.argumentValues scope.context arguments) := by
  cases arguments with
  | nil => rfl
  | cons argument others =>
    rw [argumentValues, argumentsCalls, firstExcess_append, argumentValue_eq argument,
      argumentValues_eq others]
    exact settled_bind _ (settled_map _ _ _)

theorem argumentFields_eq (fields : List (String × Argument)) :
    scope.argumentFields fields =
      settled (firstExcess (scope.fieldsCalls fields))
        (scope.renderer.argumentFields scope.context fields) := by
  cases fields with
  | nil => rfl
  | cons field others =>
    obtain ⟨name, argument⟩ := field
    rw [argumentFields, fieldsCalls, firstExcess_append, argumentValue_eq argument,
      argumentFields_eq others]
    exact settled_bind _ (settled_map _ _ _)

end

theorem segmentText_eq (segment : Block.Segment) :
    scope.segmentText segment =
      settled (firstExcess (scope.segmentCalls segment))
        (scope.renderer.segmentText scope.context segment) := by
  cases segment with
  | literal text => rfl
  | block inside =>
    rw [segmentText, evaluate, parse_eq]
    exact scope.evaluateTree_eq (Expression.parse inside)

theorem mapM_segmentText_eq (segments : List Block.Segment) :
    segments.mapM scope.segmentText =
      settled (firstExcess (segments.flatMap scope.segmentCalls))
        (segments.map (scope.renderer.segmentText scope.context)) := by
  induction segments with
  | nil => rfl
  | cons segment others ih =>
    rw [List.mapM_cons, List.flatMap_cons, firstExcess_append, segmentText_eq, ih]
    exact settled_bind _ (settled_map _ _ _)

/-- To render a template answers what the renderer answers, unless a call asks for too many decimal
places. -/
theorem render_eq (template : List Char) :
    scope.render template =
      settled (firstExcess (scope.calls template))
        (scope.renderer.render template scope.context) := by
  rw [render, segments_eq]
  show (Block.segments template).mapM scope.segmentText >>= _ = _
  rw [mapM_segmentText_eq, calls, Renderer.render, List.flatMap_def]
  exact settled_map List.flatten _ _

/-- No slice stops the program when it renders a template. What stops it is the first call that
writes a number with too many decimal places, and if there is none the text is the one that the
renderer answers. -/
theorem render_stops_iff (template : List Char) :
    (∀ start stop text, scope.render template ≠ .error (.slice start stop text)) ∧
    (∀ count, scope.render template = .error (.places count) ↔
      ((scope.calls template).filterMap Call.places?).find? (placesLimit < ·) = some count) ∧
    (scope.render template = .ok (scope.renderer.render template scope.context) ↔
      ∀ call ∈ scope.calls template, ∀ places ∈ call.places?, places ≤ placesLimit) := by
  rw [render_eq]
  refine ⟨?_, ?_, ?_⟩
  · intro start stop text sliced
    obtain ⟨count, -, same⟩ := settled_eq_error_iff.1 sliced
    cases same
  · intro count
    rw [settled_eq_error_iff]
    simp [firstExcess]
  · rw [settled_eq_ok_iff, firstExcess_eq_none_iff]

/-- A place too many stops the program. -/
theorem render_stops_at_places :
    ({ base := [] } : Scope).render "\x7b\x7b number_format(1, 65536) \x7d\x7d".toList =
      .error (.places 65536) := by
  decide +kernel

end Scope

end Intake
