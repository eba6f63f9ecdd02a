import Intake.Mapping.Engine
import Intake.Proofs.Value.Fold
import Mathlib.Data.List.Forall2

/-!
# Levels of rules

The engine looks at a bounded number of levels of a rule. What it yields is what the rule would
yield without a bound if all that lies deeper were replaced by null, so the bound does not show in
rules that do not nest deeper, and a larger bound only fills in what was cut off.

The rules directly inside a rule are the one view that all of this rests on: one step of the engine
asks for nothing but what they yield (`yields_congr`), and cutting, depth and the mapping without a
bound are recursions over them.
-/

namespace Intake

namespace Rule

/-- The rules directly inside a rule, each a level below it. A handler counts where it is used. -/
def inner : Rule → List Rule
  | .transform _ .arrayMap handler _ _ => handler.toList
  | .conditional _ whenTrue whenFalse => whenTrue.toList ++ whenFalse.toList
  | .reference (.rule rule) _ => [rule]
  | .nested fields => Fields.contents fields
  | .sequence items => items
  | _ => []

/-- A rule with the rules directly inside it replaced. -/
def mapInner (change : Rule → Rule) : Rule → Rule
  | .transform source .arrayMap handler condition separator =>
    .transform source .arrayMap (handler.map change) condition separator
  | .conditional test whenTrue whenFalse =>
    .conditional test (whenTrue.map change) (whenFalse.map change)
  | .reference (.rule rule) test => .reference (.rule (change rule)) test
  | .nested fields => .nested (fields.map fun field => (field.1, change field.2))
  | .sequence items => .sequence (items.map change)
  | rule => rule

theorem sizeOf_lt_of_mem_inner {part rule : Rule} (member : part ∈ rule.inner) :
    sizeOf part < sizeOf rule := by
  cases rule with
  | literal | template | templateObject => cases member
  | transform source kind handler condition separator =>
    cases kind with
    | arrayMap =>
      rw [inner, Option.mem_toList] at member
      subst member
      simp only [transform.sizeOf_spec, Option.some.sizeOf_spec]
      omega
    | filter | first | count | join => cases member
  | conditional test whenTrue whenFalse =>
    rw [inner, List.mem_append, Option.mem_toList, Option.mem_toList] at member
    rcases member with rfl | rfl <;>
      simp only [conditional.sizeOf_spec, Option.some.sizeOf_spec] <;> omega
  | reference origin test =>
    cases origin with
    | rule rule =>
      rw [inner, List.mem_singleton] at member
      subst member
      simp only [reference.sizeOf_spec, Origin.rule.sizeOf_spec]
      omega
    | template | path | literal => cases member
  | nested fields =>
    obtain ⟨field, inside, rfl⟩ := List.mem_map.1 member
    have smaller := List.sizeOf_lt_of_mem inside
    have content : sizeOf field.2 < sizeOf field := by
      rw [Prod.mk.sizeOf_spec]
      omega
    rw [nested.sizeOf_spec]
    omega
  | sequence items =>
    have smaller := List.sizeOf_lt_of_mem (show part ∈ items from member)
    rw [sequence.sizeOf_spec]
    omega

/-- The levels of rules below a rule. -/
def depth (rule : Rule) : Nat :=
  Value.levelsOver (rule.inner.attach.map fun part => depth part.1)
termination_by sizeOf rule
decreasing_by exact sizeOf_lt_of_mem_inner part.2

theorem depth_le_iff {rule : Rule} {bound : Nat} :
    rule.depth ≤ bound ↔ ∀ part ∈ rule.inner, part.depth < bound := by
  have unattached : (rule.inner.attach.map fun part => depth part.1) = rule.inner.map depth :=
    List.attach_map_val
  rw [depth, unattached, Value.levelsOver_le_iff, List.forall_mem_map]

theorem depth_lt_of_mem_inner {part rule : Rule} (member : part ∈ rule.inner) :
    part.depth < rule.depth :=
  depth_le_iff.1 (Nat.le_refl _) part member

/-- The first levels of a rule, itself counted, with null for each rule that lies deeper. -/
def cut : Nat → Rule → Rule
  | 0, _ => .literal .null
  | levels + 1, rule => rule.mapInner fun part => cut levels part

section MapInner

variable {change other : Rule → Rule} {rule : Rule}

theorem mapInner_eq_self (kept : ∀ part ∈ rule.inner, change part = part) :
    rule.mapInner change = rule := by
  have optional : ∀ part : Option Rule, (∀ inside ∈ part.toList, change inside = inside) →
      part.map change = part := by
    intro part kept
    cases part with
    | none => rfl
    | some inside => exact congrArg some (kept inside (List.mem_singleton_self _))
  cases rule with
  | literal | template | templateObject => rfl
  | transform source kind handler condition separator =>
    cases kind with
    | arrayMap => rw [mapInner, optional handler kept]
    | filter | first | count | join => rfl
  | conditional test whenTrue whenFalse =>
    obtain ⟨keptTrue, keptFalse⟩ := List.forall_mem_append.1 kept
    rw [mapInner, optional whenTrue keptTrue, optional whenFalse keptFalse]
  | reference origin test =>
    cases origin with
    | rule rule => rw [mapInner, kept rule (List.mem_singleton_self _)]
    | template | path | literal => rfl
  | nested fields =>
    have each : ∀ field ∈ fields, (field.1, change field.2) = field := fun field member =>
      congrArg (Prod.mk field.1) (kept field.2 (List.mem_map_of_mem member))
    rw [mapInner, map_eq_self each]
  | sequence items => exact congrArg sequence (map_eq_self kept)

theorem mapInner_mapInner (rule : Rule) :
    (rule.mapInner change).mapInner other = rule.mapInner fun part => other (change part) := by
  cases rule with
  | literal | template | templateObject => rfl
  | transform source kind handler condition separator =>
    cases kind <;> simp [mapInner, Function.comp_def]
  | conditional test whenTrue whenFalse => simp [mapInner, Function.comp_def]
  | reference origin test => cases origin <;> rfl
  | nested fields => simp [mapInner, Function.comp_def]
  | sequence items => simp [mapInner, Function.comp_def]

end MapInner

/-- A rule that does not nest deeper is left whole. -/
theorem cut_of_depth_lt {levels : Nat} {rule : Rule} (shallow : rule.depth < levels) :
    rule.cut levels = rule := by
  induction levels generalizing rule with
  | zero => exact absurd shallow (Nat.not_lt_zero _)
  | succ levels ih =>
    apply mapInner_eq_self
    intro part member
    exact ih (depth_le_iff.1 (Nat.le_of_lt_succ shallow) part member)

/-- Of two cuts the deeper one does not show. -/
theorem cut_cut {levels more : Nat} (le : levels ≤ more) (rule : Rule) :
    (rule.cut more).cut levels = rule.cut levels := by
  induction levels generalizing more rule with
  | zero => rfl
  | succ levels ih =>
    obtain ⟨more, rfl⟩ := Nat.exists_eq_add_one_of_ne_zero (Nat.ne_zero_of_lt le)
    rw [cut, cut, mapInner_mapInner, cut]
    congr 1
    funext part
    exact ih (Nat.le_of_succ_le_succ le) part

end Rule

/-- Whether a value comes from another one by null in the place of some parts. -/
inductive Value.Covers : Value → Value → Prop where
  | blank (value : Value) : Covers .null value
  | same (value : Value) : Covers value value
  | array {items others : List Value} (covers : List.Forall₂ Covers items others) :
      Covers (.array items) (.array others)
  | object {fields others : Fields Value} (names : Fields.names fields = Fields.names others)
      (covers : List.Forall₂ Covers (Fields.contents fields) (Fields.contents others)) :
      Covers (.object fields) (.object others)

namespace Engine

variable (engine : Engine) (constants : Fields Value)

/-- One step of applying a rule, given what the rules directly inside it yield. -/
def yields (apply : Rule → Context → Value) (rule : Rule) (context : Context) : Value :=
  match rule with
  | .literal value => value
  | .template text | .templateObject text =>
    .ofChars (engine.renderer.render text.toList context)
  | .transform path kind handler condition separator =>
    match sourceAt? context path with
    | none => .null
    | some value =>
      match kind with
      | .arrayMap =>
        match handler with
        | none => .array (itemsOf value)
        | some handler =>
          .array ((itemsOf value).map fun item =>
            apply handler
              ((context.bind "item" item).bind "priorities" (prioritiesOf constants)))
      | .filter =>
        match condition with
        | none => .array (itemsOf value)
        | some condition =>
          .array ((itemsOf value).filter fun item =>
            engine.holds (context.bind "item" item) condition)
      | .first => firstOf value
      | .count => .ofNat (itemsOf value).length
      | .join => .ofChars (joinedText (separator.getD defaultSeparator).toList value)
  | .conditional test whenTrue whenFalse =>
    if engine.holds context test then
      (whenTrue.map fun rule => apply rule context).getD (.bool true)
    else (whenFalse.map fun rule => apply rule context).getD .null
  | .reference origin test =>
    if test.all (engine.holds context) then
      match origin with
      | .rule rule => apply rule context
      | .template text => .ofChars (engine.renderer.render text.toList context)
      | .path text => (context.lookup text.toList).getD .null
      | .literal value => value
    else .null
  | .nested fields => .object (fields.map fun field => (field.1, apply field.2 context))
  | .sequence items => .array (items.map fun item => apply item context)

theorem valueAt_succ (levels : Nat) (rule : Rule) (context : Context) :
    engine.valueAt constants (levels + 1) rule context =
      engine.yields constants (engine.valueAt constants levels) rule context := by
  cases rule with
  | conditional test whenTrue whenFalse => cases whenTrue <;> cases whenFalse <;> rfl
  | _ => rfl

section Yields

variable {engine constants} {apply other : Rule → Context → Value} {rule : Rule}

theorem yields_congr
    (same : ∀ part ∈ rule.inner, ∀ context, apply part context = other part context)
    (context : Context) :
    engine.yields constants apply rule context = engine.yields constants other rule context := by
  have optional : ∀ part : Option Rule,
      (∀ inside ∈ part.toList, ∀ context, apply inside context = other inside context) →
      (part.map fun rule => apply rule context) = part.map fun rule => other rule context := by
    intro part same
    cases part with
    | none => rfl
    | some inside => exact congrArg some (same inside (List.mem_singleton_self _) context)
  cases rule with
  | literal | template | templateObject => rfl
  | transform source kind handler condition separator =>
    cases kind with
    | arrayMap =>
      cases handler with
      | none => rfl
      | some handler => simp only [yields, same handler (List.mem_singleton_self _)]
    | filter | first | count | join => rfl
  | conditional test whenTrue whenFalse =>
    obtain ⟨sameTrue, sameFalse⟩ := List.forall_mem_append.1 same
    simp only [yields, optional whenTrue sameTrue, optional whenFalse sameFalse]
  | reference origin test =>
    cases origin with
    | rule rule => simp only [yields, same rule (List.mem_singleton_self _)]
    | template | path | literal => rfl
  | nested fields =>
    have each : ∀ field ∈ fields, (field.1, apply field.2 context) =
        (field.1, other field.2 context) := fun field member =>
      congrArg (Prod.mk field.1) (same field.2 (List.mem_map_of_mem member) context)
    exact congrArg Value.object (List.map_congr_left each)
  | sequence items =>
    exact congrArg Value.array (List.map_congr_left fun item member => same item member context)

theorem yields_mapInner (change : Rule → Rule) (context : Context) :
    engine.yields constants apply (rule.mapInner change) context =
      engine.yields constants (fun part => apply (change part)) rule context := by
  cases rule with
  | literal | template | templateObject => rfl
  | transform source kind handler condition separator =>
    cases kind with
    | arrayMap => cases handler <;> rfl
    | filter | first | count | join => rfl
  | conditional test whenTrue whenFalse =>
    simp only [Rule.mapInner, yields, Option.map_map, Function.comp_def]
  | reference origin test => cases origin <;> rfl
  | nested fields => simp only [Rule.mapInner, yields, List.map_map, Function.comp_def]
  | sequence items => simp only [Rule.mapInner, yields, List.map_map, Function.comp_def]

theorem forall₂_map_map {α β γ : Type} {relates : β → γ → Prop} {left : α → β} {right : α → γ}
    {items : List α} (related : ∀ item, relates (left item) (right item)) :
    List.Forall₂ relates (items.map left) (items.map right) := by
  rw [List.forall₂_map_left_iff, List.forall₂_map_right_iff, List.forall₂_same]
  exact fun item _ => related item

/-- A step yields less where the rules directly inside a rule yield less, and else the same. -/
theorem covers_yields (covers : ∀ part context, (apply part context).Covers (other part context))
    (context : Context) :
    (engine.yields constants apply rule context).Covers
      (engine.yields constants other rule context) := by
  have optional : ∀ (part : Option Rule) (fallback : Value),
      ((part.map fun rule => apply rule context).getD fallback).Covers
        ((part.map fun rule => other rule context).getD fallback) := by
    intro part fallback
    cases part with
    | none => exact .same fallback
    | some inside => exact covers inside context
  cases rule with
  | literal | template | templateObject => exact .same _
  | transform source kind handler condition separator =>
    rw [yields, yields]
    cases sourceAt? context source with
    | none => exact .same _
    | some value =>
      cases kind with
      | arrayMap =>
        cases handler with
        | none => exact .same _
        | some handler =>
          exact .array (forall₂_map_map fun item => covers handler _)
      | filter | first | count | join => exact .same _
  | conditional test whenTrue whenFalse =>
    rw [yields, yields]
    split
    · exact optional whenTrue _
    · exact optional whenFalse _
  | reference origin test =>
    cases origin with
    | rule rule =>
      simp only [yields]
      split
      · exact covers rule context
      · exact .same _
    | template | path | literal => exact .same _
  | nested fields =>
    refine .object ?_ ?_
    · simp only [Fields.names, List.map_map, Function.comp_def]
    · simp only [Fields.contents, List.map_map]
      exact forall₂_map_map fun field => covers field.2 context
  | sequence items => exact .array (forall₂_map_map fun item => covers item context)

end Yields

/-- What a rule yields without any bound on its levels. The test only shows that this ends: the
rules directly inside a rule are less deep. -/
def unbounded (rule : Rule) (context : Context) : Value :=
  engine.yields constants
    (fun part context => if part.depth < rule.depth then unbounded part context else .null)
    rule context
termination_by rule.depth

theorem unbounded_eq_yields (rule : Rule) (context : Context) :
    engine.unbounded constants rule context =
      engine.yields constants (engine.unbounded constants) rule context := by
  rw [unbounded]
  apply yields_congr
  intro part member context
  exact if_pos (Rule.depth_lt_of_mem_inner member)

/-- With a bound on the levels, a rule yields what it does without one when it is cut there. -/
theorem valueAt_eq_unbounded_cut (levels : Nat) (rule : Rule) (context : Context) :
    engine.valueAt constants levels rule context =
      engine.unbounded constants (rule.cut levels) context := by
  induction levels generalizing rule context with
  | zero =>
    rw [unbounded_eq_yields]
    rfl
  | succ levels ih =>
    have inside : engine.valueAt constants levels =
        fun part => engine.unbounded constants (part.cut levels) :=
      funext fun part => funext fun context => ih part context
    calc
      engine.valueAt constants (levels + 1) rule context =
          engine.yields constants (fun part => engine.unbounded constants (part.cut levels)) rule
            context := by rw [valueAt_succ, inside]
      _ = engine.yields constants (engine.unbounded constants) (rule.cut (levels + 1)) context := by
        rw [Rule.cut, yields_mapInner]
      _ = engine.unbounded constants (rule.cut (levels + 1)) context :=
        (engine.unbounded_eq_yields constants _ context).symm

/-- With more levels a rule yields the same, but for nulls that are filled in. -/
theorem covers_valueAt {levels more : Nat} (le : levels ≤ more) (rule : Rule) (context : Context) :
    (engine.valueAt constants levels rule context).Covers
      (engine.valueAt constants more rule context) := by
  induction levels generalizing more rule context with
  | zero => exact .blank _
  | succ levels ih =>
    obtain ⟨more, rfl⟩ := Nat.exists_eq_add_one_of_ne_zero (Nat.ne_zero_of_lt le)
    rw [valueAt_succ, valueAt_succ]
    exact covers_yields (ih (Nat.le_of_succ_le_succ le)) context

/-- The engine with another bound on the levels of nesting. -/
def withMaxDepth (limit : Nat) : Engine :=
  { engine with maxDepth := limit }

theorem valueAt_withMaxDepth (limit levels : Nat) (rule : Rule) (context : Context) :
    (engine.withMaxDepth limit).valueAt constants levels rule context =
      engine.valueAt constants levels rule context := by
  induction levels generalizing rule context with
  | zero => rfl
  | succ levels ih =>
    have step : (engine.withMaxDepth limit).yields = engine.yields := rfl
    rw [valueAt_succ, valueAt_succ, step]
    exact yields_congr (fun part _ context => ih part context) context

theorem value_withMaxDepth_eq (driver : Driver) (limit : Nat) (rule : Rule) (context : Context) :
    (engine.withMaxDepth limit).value driver rule context =
      engine.valueAt driver.constants (limit + 1) rule context :=
  engine.valueAt_withMaxDepth driver.constants limit (limit + 1) rule context

/-- The engine yields what it would yield without a bound of the rule with all that lies below the
bound replaced by null. So a rule within the bound is not changed by it, and a larger bound yields
the same but for what had been cut off. -/
theorem value_withMaxDepth (driver : Driver) (limit : Nat) (rule : Rule) (context : Context) :
    let unbounded := engine.unbounded driver.constants
    let value := fun limit => (engine.withMaxDepth limit).value driver rule context
    (∀ rule context,
      unbounded rule context = engine.yields driver.constants unbounded rule context) ∧
      value limit = unbounded (rule.cut (limit + 1)) context ∧
      (rule.depth ≤ limit → value limit = unbounded rule context) ∧
      ∀ more, limit ≤ more →
        (rule.cut (more + 1)).cut (limit + 1) = rule.cut (limit + 1) ∧
          (value limit).Covers (value more) := by
  intro unbounded value
  have cutAt : ∀ limit, value limit = unbounded (rule.cut (limit + 1)) context := fun limit =>
    (engine.value_withMaxDepth_eq driver limit rule context).trans
      (engine.valueAt_eq_unbounded_cut driver.constants (limit + 1) rule context)
  refine ⟨engine.unbounded_eq_yields driver.constants, cutAt limit, ?_, ?_⟩
  · intro shallow
    rw [cutAt, Rule.cut_of_depth_lt (Nat.lt_succ_of_le shallow)]
  · intro more le
    refine ⟨Rule.cut_cut (Nat.succ_le_succ le) rule, ?_⟩
    simp only [value, value_withMaxDepth_eq]
    exact engine.covers_valueAt driver.constants (Nat.succ_le_succ le) rule context

def parcelDriver : Driver :=
  { name := "parcel", version := "1.0", source := "Parcel", target := "Record"
    fingerprint := "", constants := [("priorities", .array [.ofInt 2])] }

/-- A choice whose branch lists the items of the source, two levels below. -/
def parcelRule : Rule :=
  .nested [("kind", .literal (.text "parcel")),
    ("items", .conditional ⟨"true".toList, .constant true⟩
      (some (.transform "items".toList .arrayMap
        (some (.sequence [.template "{{ item }}"])) none none)) none)]

theorem value_withMaxDepth_parcel :
    let engine : Engine := {}
    let context := engine.contextOf parcelDriver (.object [("items", .array [.text "a", .ofInt 1])])
    let value := fun limit => (engine.withMaxDepth limit).value parcelDriver parcelRule context
    parcelRule.depth ≤ 4 ∧ 3 ≤ 4 ∧
      value 4 = engine.unbounded parcelDriver.constants parcelRule context ∧
      value 3 = .object [("kind", .text "parcel"),
        ("items", .array [.array [.null], .array [.null]])] ∧
      (value 3).Covers (value 4) := by
  intro engine context value
  have shallow : parcelRule.depth ≤ 4 := by decide +kernel
  have le : 3 ≤ 4 := by decide
  obtain ⟨-, -, whole, -⟩ := engine.value_withMaxDepth parcelDriver 4 parcelRule context
  obtain ⟨-, cut, -, more⟩ := engine.value_withMaxDepth parcelDriver 3 parcelRule context
  refine ⟨shallow, le, whole shallow, ?_, (more 4 le).2⟩
  decide +kernel

end Engine

end Intake
