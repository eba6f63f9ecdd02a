import Intake.Proofs.FlowTemplate.Availability
import Mathlib.Tactic.SplitIfs

/-!
# What a template sees

The context of a flow template has three layers: the fields of the source, the source itself with
the three fields of the host, and the variables. A variable is processed in the context of those
before it, and nothing that is bound later reaches back. Names are bound once, so a name has the
content of the topmost layer that has it.
-/

namespace Intake

namespace Planner

variable (planner : Planner)

/-- The names that a source cannot take for itself. -/
def reservedNames : List String :=
  ["source", "base_url", "now", "timestamp"]

/-- The layers of a context. -/
structure IsLayered (template : FlowTemplate) (source : Value) : Prop where
  /-- No name is bound twice. -/
  distinct : (Fields.names (planner.contextFields template source)).Nodup
  /-- A variable has what its template comes to in the context of the variables before it. -/
  bound : ∀ (earlier later : Fields Value) (name : String) (raw : Value),
    template.bindings = earlier ++ (name, raw) :: later →
      (planner.contextOf template source).field? name =
        some (planner.processor.processValue
          (planner.contextOf { template with bindings := earlier } source) raw)
  whole : "source" ∉ Fields.names template.bindings →
    (planner.contextOf template source).field? "source" = some source
  baseUrl : "base_url" ∉ Fields.names template.bindings →
    (planner.contextOf template source).field? "base_url" = some (.text planner.host.baseUrl)
  now : "now" ∉ Fields.names template.bindings →
    (planner.contextOf template source).field? "now" = some (.ofChars planner.host.now.offsetText)
  timestamp : "timestamp" ∉ Fields.names template.bindings →
    (planner.contextOf template source).field? "timestamp" = some (.ofInt planner.host.now.seconds)
  /-- Any other name is one of the source's own, or it is not bound. -/
  given : ∀ name ∉ Fields.names template.bindings, name ∉ reservedNames →
    (planner.contextOf template source).field? name = source.field? name
  /-- More variables at the end leave those that were there as they are. -/
  extended : ∀ more : Fields Value, (Fields.names (template.bindings ++ more)).Nodup →
    ∀ name ∈ Fields.names template.bindings,
      (planner.contextOf { template with bindings := template.bindings ++ more } source).field?
          name =
        (planner.contextOf template source).field? name

/-- One more variable has its processed value, and every other name what it had. -/
theorem get?_bindVariable (context : Fields Value) (entry : String × Value) (name : String) :
    Fields.get? name (planner.bindVariable context entry) =
      if name = entry.1 then some (planner.processor.processValue (.object context) entry.2)
      else Fields.get? name context := by
  rw [bindVariable]
  split_ifs with same
  · rw [same, Fields.get?_insert_self]
  · exact Fields.get?_insert_of_ne _ context same

/-- Variables of other names do not change what a name has. -/
theorem get?_foldl_bindVariable {bindings : Fields Value} {name : String}
    (unbound : name ∉ Fields.names bindings) (context : Fields Value) :
    Fields.get? name (bindings.foldl planner.bindVariable context) = Fields.get? name context := by
  induction bindings generalizing context with
  | nil => rfl
  | cons entry others ih =>
    rw [Fields.names, List.map_cons, List.mem_cons, not_or] at unbound
    rw [List.foldl_cons, ih unbound.2, get?_bindVariable, if_neg unbound.1]

theorem nodup_names_foldl_bindVariable (bindings : Fields Value) {context : Fields Value}
    (distinct : (Fields.names context).Nodup) :
    (Fields.names (bindings.foldl planner.bindVariable context)).Nodup := by
  induction bindings generalizing context with
  | nil => exact distinct
  | cons entry others ih => exact ih (Fields.nodup_names_insert distinct entry.1 _)

/-- Below the variables, the source and the host stand in front of the fields of the source. -/
theorem get?_baseContext {source : Value}
    (distinct : (Fields.names (source.object?.getD [])).Nodup) (name : String) :
    Fields.get? name (planner.baseContext source) =
      (Fields.get? name (("source", source) :: planner.hostFields)).or (source.field? name) := by
  have reserved : (Fields.names (("source", source) :: planner.hostFields)).Nodup := by
    change reservedNames.Nodup
    decide
  rw [baseContext, Fields.get?_insertAll reserved, Fields.ofPairs_of_nodup distinct]
  cases source <;> rfl

/-- A name without a variable has what the source and the host give it. -/
theorem field?_contextOf_of_not_mem {template : FlowTemplate} {source : Value}
    (distinct : (Fields.names (source.object?.getD [])).Nodup) {name : String}
    (unbound : name ∉ Fields.names template.bindings) :
    (planner.contextOf template source).field? name =
      (Fields.get? name (("source", source) :: planner.hostFields)).or (source.field? name) := by
  rw [contextOf, Value.field?, contextFields, planner.get?_foldl_bindVariable unbound,
    planner.get?_baseContext distinct]

/-- A variable with no other of its name behind it has the value that it got when it was bound. -/
theorem field?_contextOf_of_eq {template : FlowTemplate} {earlier later : Fields Value}
    {name : String}
    {raw : Value} (split : template.bindings = earlier ++ (name, raw) :: later)
    (last : name ∉ Fields.names later) (source : Value) :
    (planner.contextOf template source).field? name =
      some (planner.processor.processValue
        (planner.contextOf { template with bindings := earlier } source) raw) := by
  rw [contextOf, Value.field?, contextFields, split, List.foldl_append, List.foldl_cons,
    planner.get?_foldl_bindVariable last, get?_bindVariable, if_pos rfl]
  rfl

/-- The context of a template is layered, whatever names its source and its variables share. -/
theorem isLayered {template : FlowTemplate} {source : Value}
    (named : (Fields.names template.bindings).Nodup)
    (distinct : (Fields.names (source.object?.getD [])).Nodup) :
    planner.IsLayered template source where
  distinct := by
    refine planner.nodup_names_foldl_bindVariable _ (Fields.nodup_names_insertAll _ ?_)
    rw [Fields.ofPairs_of_nodup distinct]
    exact distinct
  bound earlier later name raw split :=
    planner.field?_contextOf_of_eq split (Fields.not_mem_names_of_nodup (split ▸ named)) source
  whole unbound := planner.field?_contextOf_of_not_mem distinct unbound
  baseUrl unbound := planner.field?_contextOf_of_not_mem distinct unbound
  now unbound := planner.field?_contextOf_of_not_mem distinct unbound
  timestamp unbound := planner.field?_contextOf_of_not_mem distinct unbound
  given name unbound free := by
    rw [planner.field?_contextOf_of_not_mem distinct unbound]
    have absent : Fields.get? name (("source", source) :: planner.hostFields) = none := by
      rw [← Option.not_isSome_iff_eq_none, ← Fields.has, ← Fields.mem_names_iff]
      exact free
    rw [absent, Option.none_or]
  extended more longer name bound := by
    obtain ⟨raw, member⟩ : ∃ raw, (name, raw) ∈ template.bindings := by
      simpa [Fields.names] using bound
    obtain ⟨earlier, later, split⟩ := List.append_of_mem member
    have longSplit : template.bindings ++ more = earlier ++ (name, raw) :: (later ++ more) := by
      rw [split, List.append_assoc, List.cons_append]
    have last := Fields.not_mem_names_of_nodup (split ▸ named)
    have stillLast := Fields.not_mem_names_of_nodup (longSplit ▸ longer)
    rw [planner.field?_contextOf_of_eq split last source]
    exact planner.field?_contextOf_of_eq longSplit stillLast source

/-- A source with names of the host in it. -/
def greedySource : Value :=
  .object
    [("base_url", .text "https://elsewhere"), ("code", .text "K9"), ("source", .text "mine"),
      ("timestamp", .null)]

/-- Variables of which the second reads the first, and the third takes a name of the source. -/
def callbackTemplate : FlowTemplate :=
  { bindings :=
      [("link", .text "{{ base_url }}/{{ code }}"),
        ("done", .text "{{ link }}/done"),
        ("code", .text "{{ source.code }}-2")] }

def callbackPlanner : Planner :=
  { host := { baseUrl := "https://here" } }

theorem isLayered_callback :
    (Fields.names callbackTemplate.bindings).Nodup ∧
      (Fields.names (greedySource.object?.getD [])).Nodup ∧
      callbackPlanner.IsLayered callbackTemplate greedySource ∧
      (callbackPlanner.contextOf callbackTemplate greedySource).field? "done" =
        some (.text "https://here/K9/done") ∧
      (callbackPlanner.contextOf callbackTemplate greedySource).field? "code" =
        some (.text "K9-2") ∧
      (callbackPlanner.contextOf callbackTemplate greedySource).field? "base_url" =
        some (.text "https://here") := by
  have named : (Fields.names callbackTemplate.bindings).Nodup := by decide
  have distinct : (Fields.names (greedySource.object?.getD [])).Nodup := by decide
  have layered := callbackPlanner.isLayered named distinct
  have values :
      (callbackPlanner.contextOf callbackTemplate greedySource).field? "done" =
          some (.text "https://here/K9/done") ∧
        (callbackPlanner.contextOf callbackTemplate greedySource).field? "code" =
          some (.text "K9-2") := by
    decide +kernel
  refine ⟨named, distinct, layered, values.1, values.2, ?_⟩
  rw [layered.baseUrl (by decide)]
  rfl

end Planner

end Intake
