import Intake.Proofs.Flow.Entries

/-!
# Where references lead

Beside the documents of flows a store keeps an entry for each reference, which leads to the flow
that was started with it last. Starts write entries and clearings remove them, so an index in which
every entry leads to a flow with that reference stays so, with one exception: a start under the id
of a flow that is kept with another reference. The old reference then leads to a flow that has left
it, and no clearing will find the entry.
-/

namespace Intake

namespace Flow

/-- Every entry leads to a flow that is kept, and no reference leads to a flow with another one. -/
structure Indexed (store : Store) : Prop where
  reference : ∀ referenceId state, stateByReference? store referenceId = some state →
    state.referenceId = referenceId
  stored : ∀ referenceId document, store.get? (referenceKey referenceId) = some document →
    ∃ flowId, document = .text flowId ∧ isStored store flowId = true

theorem indexed_iff {store : Store} (consistent : Consistent store) :
    Indexed store ↔
      ∀ referenceId document, store.get? (referenceKey referenceId) = some document →
        ∃ flowId state, document = .text flowId ∧ state? store flowId = some state ∧
          state.referenceId = referenceId := by
  constructor
  · intro indexed referenceId document found
    obtain ⟨flowId, rfl, stored⟩ := indexed.stored referenceId document found
    rw [isStored, ← consistent.state?_isSome, Option.isSome_iff_exists] at stored
    obtain ⟨state, kept⟩ := stored
    have reached : stateByReference? store referenceId = some state := by
      simp [stateByReference?, found, Value.text?, kept]
    exact ⟨flowId, state, rfl, kept, indexed.reference referenceId state reached⟩
  · intro leads
    constructor
    · intro referenceId state reached
      simp only [stateByReference?, Option.bind_eq_some_iff] at reached
      obtain ⟨reached, ⟨document, found, text⟩, kept⟩ := reached
      obtain ⟨flowId, other, rfl, keptOther, same⟩ := leads referenceId document found
      obtain rfl := Option.some.inj text
      exact Option.some.inj (keptOther.symm.trans kept) ▸ same
    · intro referenceId document found
      obtain ⟨flowId, state, rfl, kept, -⟩ := leads referenceId document found
      refine ⟨flowId, rfl, ?_⟩
      rw [isStored, ← consistent.state?_isSome, kept, Option.isSome_some]

theorem indexed_empty : Indexed {} := by
  rw [indexed_iff Consistent.empty]
  simp [Store.get?, Store.find?]

/-- A start that abandons an entry: the flow under its id is kept with another reference, which
still leads to it. -/
def Abandons (store : Store) (call : Call) : Prop :=
  ∃ freshId instructions state, call.operation = .start freshId instructions ∧
    instructions.fault? = none ∧ state? store call.flowId = some state ∧
    state.referenceId ≠ instructions.referenceId ∧
    store.get? (referenceKey state.referenceId) = some (.text call.flowId)

/-- An entry after a call was there before, or an accepted start has written it. -/
theorem entryAfter_cases {call : Call} {state : Option FlowState} {referenceId : String}
    {entry : Option Value} {document : Value}
    (found : call.entryAfter state referenceId entry = some document) :
    entry = some document ∨ ∃ freshId instructions, call.operation = .start freshId instructions ∧
      instructions.fault? = none ∧ referenceId = instructions.referenceId ∧
      document = .text call.flowId := by
  cases lasting : call.operation.replaces with
  | false => exact Or.inl (entryAfter_of_lasting lasting state referenceId entry ▸ found)
  | true =>
    obtain ⟨now, operation⟩ := call
    cases operation with
    | start freshId instructions =>
      simp only [Call.entryAfter] at found
      split at found
      · next begun =>
        refine Or.inr ⟨freshId, instructions, rfl, by simpa using begun.1, begun.2, ?_⟩
        exact (Option.some.inj found).symm
      · exact Or.inl found
    | clear flowId =>
      simp only [Call.entryAfter] at found
      split at found
      · simp at found
      · exact Or.inl found
    | update | updateChecked | complete | cancel => simp [Operation.replaces] at lasting

/-- As long as a call leaves the entry of a flow's reference and does not start the flow with
another one, the flow goes on with its reference. -/
theorem referenceId_react {call : Call} {state : FlowState}
    (entry : call.entryAfter (some state) state.referenceId (some (.text call.flowId)) ≠ none)
    (stays : ∀ freshId instructions, call.operation = .start freshId instructions →
      instructions.fault? = none → instructions.referenceId = state.referenceId) :
    ∃ next, (call.react (some state)).2 = some next ∧ next.referenceId = state.referenceId := by
  obtain ⟨now, operation⟩ := call
  have written : ∀ flowId index data name admitted, ∃ next,
      (reactWrite flowId now index data name admitted (some state)).2 = some next ∧
        next.referenceId = state.referenceId := by
    intro flowId index data name admitted
    rcases reactWrite_cases flowId now index data name admitted state with
      ⟨error, outcome, -⟩ | ⟨active, -, outcome⟩
    · exact ⟨state, by rw [outcome], rfl⟩
    · exact ⟨recorded state now index data name, by rw [outcome], rfl⟩
  have finished : ∀ flowId status, ∃ next,
      (reactFinish flowId now status (some state)).2 = some next ∧
        next.referenceId = state.referenceId := by
    intro flowId status
    rcases reactFinish_cases flowId now status state with
      ⟨error, outcome⟩ | ⟨same, outcome⟩ | ⟨active, outcome⟩
    · exact ⟨state, by rw [outcome], rfl⟩
    · exact ⟨state, by rw [outcome], rfl⟩
    · exact ⟨ended state now status, by rw [outcome], rfl⟩
  cases operation with
  | start freshId instructions =>
    cases fault : instructions.fault? with
    | some fault' => exact ⟨state, by simp [Call.react, fault], rfl⟩
    | none =>
      refine
        ⟨initialState now (Call.flowId ⟨now, .start freshId instructions⟩) instructions, ?_, ?_⟩
      · simp only [Call.react, fault]
      · exact stays freshId instructions rfl fault
  | update flowId index data name => exact written flowId index data name _
  | updateChecked flowId index data name expected => exact written flowId index data name _
  | complete flowId => exact finished flowId .completed
  | cancel flowId => exact finished flowId .cancelled
  | clear flowId => simp [Call.entryAfter, Call.flowId] at entry

section Step

variable {store : Store} (consistent : Consistent store) {call : Call} (valid : call.Valid)

include consistent valid

theorem not_indexed_of_abandons (abandons : Abandons store call) :
    ¬ Indexed (call.run store).2 := by
  have follows := run_follows consistent valid
  intro indexed
  obtain ⟨freshId, instructions, state, asked, faultless, -, moved, entry⟩ := abandons
  have left : (call.run store).2.get? (referenceKey state.referenceId) =
      some (.text call.flowId) := by
    rw [get?_referenceKey_run, Call.entryAfter, asked]
    simp [moved, entry]
  obtain ⟨flowId, next, same, kept, referenceNext⟩ :=
    (indexed_iff follows.consistent).1 indexed _ _ left
  obtain rfl := Value.text.inj same
  rw [follows.states, if_pos rfl, Call.react, asked] at kept
  simp only [faultless, Option.some.injEq] at kept
  apply moved
  rw [← referenceNext, ← kept]
  rfl

theorem indexed_run (indexed : Indexed store) (keeps : ¬ Abandons store call) :
    Indexed (call.run store).2 := by
  have follows := run_follows consistent valid
  rw [indexed_iff follows.consistent]
  intro referenceId document found
  rw [get?_referenceKey_run] at found
  rcases entryAfter_cases found with before | ⟨freshId, instructions, asked, faultless, rfl, rfl⟩
  · obtain ⟨flowId, state, rfl, kept, rfl⟩ :=
      (indexed_iff consistent).1 indexed referenceId document before
    by_cases about : flowId = call.flowId
    · subst about
      rw [kept, before] at found
      have stays : ∀ freshId instructions, call.operation = .start freshId instructions →
          instructions.fault? = none → instructions.referenceId = state.referenceId := by
        intro freshId instructions asked faultless
        by_contra moved
        exact keeps ⟨freshId, instructions, state, asked, faultless, kept, Ne.symm moved, before⟩
      obtain ⟨next, made, same⟩ := referenceId_react (by simp [found]) stays
      refine ⟨call.flowId, next, rfl, ?_, same⟩
      rw [follows.states, if_pos rfl, kept, made]
    · refine ⟨flowId, state, rfl, ?_, rfl⟩
      rw [follows.states, if_neg about, kept]
  · refine ⟨call.flowId, initialState call.now call.flowId instructions, rfl, ?_, rfl⟩
    rw [follows.states, if_pos rfl, Call.react, asked]
    simp only [faultless]

end Step

/-- No start of a run on an empty store abandons an entry. -/
def KeepsReferences (calls : List Call) : Prop :=
  ∀ before call, before ++ [call] <+: calls → ¬ Abandons (storeAfter {} before) call

def Operation.begins : Operation → Bool
  | start _ instructions => instructions.fault?.isNone
  | update .. | updateChecked .. | complete _ | cancel _ | clear _ => false

/-- Every accepted start in a run is followed by a clearing of its flow. -/
def ClearsAll (calls : List Call) : Prop :=
  ∀ before call after, calls = before ++ call :: after → call.operation.begins = true →
    ∃ later ∈ after, later.operation = .clear call.flowId

theorem indexed_throughout_iff {calls : List Call} (valid : ∀ call ∈ calls, call.Valid) :
    (∀ before, before <+: calls → Indexed (storeAfter {} before)) ↔ KeepsReferences calls := by
  constructor
  · intro indexed before call within abandons
    have validBefore := List.forall_mem_append.1 fun call member =>
      valid call (within.subset member)
    apply not_indexed_of_abandons (Consistent.empty.storeAfter validBefore.1)
      (validBefore.2 call List.mem_cons_self) abandons
    rw [← storeAfter_concat]
    exact indexed _ within
  · intro keeps before within
    induction before using List.reverseRecOn with
    | nil => exact indexed_empty
    | append_singleton before call ih =>
      have validBefore :=
        List.forall_mem_append.1 fun call member => valid call (within.subset member)
      rw [storeAfter_concat]
      apply indexed_run (Consistent.empty.storeAfter validBefore.1)
        (validBefore.2 call List.mem_cons_self)
      · exact ih ((List.prefix_append before [call]).trans within)
      · exact keeps before call within

/-- A call after which a flow is kept has begun the flow, or found it and did not clear it. -/
theorem react_eq_some {call : Call} {state : Option FlowState} {next : FlowState}
    (made : (call.react state).2 = some next) (goesOn : call.operation.begins = false) :
    state.isSome = true ∧ ∀ flowId, call.operation ≠ .clear flowId := by
  obtain ⟨now, operation⟩ := call
  cases operation with
  | start freshId instructions =>
    simp only [Operation.begins, Option.isNone_eq_false_iff, Option.isSome_iff_exists] at goesOn
    obtain ⟨fault, faulty⟩ := goesOn
    simp only [Call.react, faulty] at made
    simp [made]
  | clear flowId => simp [Call.react] at made
  | update | updateChecked =>
    cases state with
    | none => simp [Call.react, reactWrite] at made
    | some state => simp
  | complete | cancel =>
    cases state with
    | none => simp [Call.react, reactFinish] at made
    | some state => simp

/-- A flow that is kept after a run was begun in the run and not cleared since. -/
theorem exists_begins_of_kept {calls : List Call} (valid : ∀ call ∈ calls, call.Valid)
    {flowId : String} {state : FlowState}
    (kept : state? (storeAfter {} calls) flowId = some state) :
    ∃ before call after, calls = before ++ call :: after ∧ call.flowId = flowId ∧
      call.operation.begins = true ∧ ∀ later ∈ after, later.operation ≠ .clear flowId := by
  induction calls using List.reverseRecOn generalizing state with
  | nil => simp [storeAfter, state?, Store.get?, Store.find?] at kept
  | append_singleton calls call ih =>
    rw [List.forall_mem_append] at valid
    have follows := run_follows (Consistent.empty.storeAfter valid.1)
      (valid.2 call List.mem_cons_self)
    rw [storeAfter_concat, follows.states] at kept
    have earlier : ∀ {state}, state? (storeAfter {} calls) flowId = some state →
        call.operation ≠ .clear flowId → ∃ before call' after,
          calls ++ [call] = before ++ call' :: after ∧ call'.flowId = flowId ∧
          call'.operation.begins = true ∧ ∀ later ∈ after, later.operation ≠ .clear flowId := by
      intro state found uncleared
      obtain ⟨before, start, after, rfl, about, begins, lasts⟩ := ih valid.1 found
      refine ⟨before, start, after ++ [call], by simp, about, begins, ?_⟩
      rw [List.forall_mem_append]
      exact ⟨lasts, by simpa using uncleared⟩
    by_cases about : call.flowId = flowId
    · cases begins : call.operation.begins with
      | true => exact ⟨calls, call, [], rfl, about, begins, by simp⟩
      | false =>
        rw [if_pos about.symm] at kept
        obtain ⟨found, uncleared⟩ := react_eq_some kept begins
        obtain ⟨earlierState, found⟩ := Option.isSome_iff_exists.1 found
        exact earlier (about ▸ found) (uncleared flowId)
    · rw [if_neg (Ne.symm about)] at kept
      apply earlier kept
      rintro cleared
      apply about
      rw [Call.flowId, cleared]

theorem get?_storeAfter_of_ne (store : Store) (calls : List Call) {key : String}
    (noState : ∀ flowId, key ≠ stateKey flowId)
    (noReference : ∀ referenceId, key ≠ referenceKey referenceId) :
    (storeAfter store calls).get? key = store.get? key := by
  induction calls using List.reverseRecOn with
  | nil => rfl
  | append_singleton calls call ih =>
    rw [storeAfter_concat, get?_run_of_ne _ _ noState noReference, ih]

/-- A run that clears what it starts leaves nothing behind, if its index is sound at the end. -/
theorem storeAfter_of_clearsAll {calls : List Call} (valid : ∀ call ∈ calls, call.Valid)
    (indexed : Indexed (storeAfter {} calls)) (cleared : ClearsAll calls) :
    storeAfter {} calls = {} := by
  have consistent := Consistent.empty.storeAfter valid
  have gone : ∀ flowId, state? (storeAfter {} calls) flowId = none := by
    intro flowId
    by_contra kept
    obtain ⟨state, kept⟩ := Option.ne_none_iff_exists'.1 kept
    obtain ⟨before, call, after, split, rfl, begins, uncleared⟩ := exists_begins_of_kept valid kept
    obtain ⟨later, member, clears⟩ := cleared before call after split begins
    exact uncleared later member clears
  apply consistent.ext Consistent.empty
  · intro flowId
    rw [gone]
    rfl
  · intro referenceId
    cases found : (storeAfter {} calls).get? (referenceKey referenceId) with
    | none => rfl
    | some document =>
      obtain ⟨flowId, state, -, kept, -⟩ :=
        (indexed_iff consistent).1 indexed referenceId document found
      simp [gone] at kept
  · intro key noState noReference
    exact get?_storeAfter_of_ne {} calls noState noReference

/-- At every point of a run references lead to flows that have them, and every entry to a flow that
is kept, exactly if no start abandons an entry. Such a run leaves an empty store when it has
cleared every flow that it started. -/
theorem indexed_run_iff_keepsReferences {calls : List Call} (valid : ∀ call ∈ calls, call.Valid) :
    ((∀ before, before <+: calls → Indexed (storeAfter {} before)) ↔ KeepsReferences calls) ∧
      (KeepsReferences calls → ClearsAll calls → storeAfter {} calls = {}) := by
  refine ⟨indexed_throughout_iff valid, ?_⟩
  intro keeps cleared
  apply storeAfter_of_clearsAll valid _ cleared
  exact (indexed_throughout_iff valid).2 keeps calls (List.prefix_refl calls)

/-- Two surveys that share a reference; the first one is cleared after the second one has claimed
the reference. -/
def sharedSurveyCalls : List Call :=
  [⟨⟨0, 0⟩, .start "survey-1" surveyInstructions⟩, ⟨⟨1, 0⟩, .start "survey-2" surveyInstructions⟩,
    ⟨⟨2, 0⟩, .clear "survey-1"⟩, ⟨⟨3, 0⟩, .clear "survey-2"⟩]

theorem indexed_shared_surveys :
    (∀ before, before <+: sharedSurveyCalls → Indexed (storeAfter {} before)) ∧
      storeAfter {} sharedSurveyCalls = {} := by
  have valid : ∀ call ∈ sharedSurveyCalls, call.Valid := by
    simp only [sharedSurveyCalls, List.forall_mem_cons]
    refine ⟨⟨by decide, by decide⟩, ⟨by decide, by decide⟩, ⟨by decide, by decide⟩,
      ⟨by decide, by decide⟩, by simp⟩
  have keeps : KeepsReferences sharedSurveyCalls := by
    rintro before call within ⟨freshId, instructions, state, asked, -, kept, -, -⟩
    have validBefore : ∀ call ∈ before, call.Valid := fun call member =>
      valid call (within.subset (List.mem_append_left _ member))
    rw [state?_storeAfter Consistent.empty validBefore] at kept
    rcases before with _ | ⟨first, _ | ⟨second, others⟩⟩
    · simp [state?, Store.get?, Store.find?] at kept
    · simp only [sharedSurveyCalls, List.cons_append, List.nil_append, List.cons_prefix_cons]
        at within
      obtain ⟨rfl, rfl, -⟩ := within
      simp [Call.flowId, Instructions.givenId?, surveyInstructions, state?, Store.get?,
        Store.find?] at kept
    · simp only [sharedSurveyCalls, List.cons_append, List.cons_prefix_cons] at within
      have member := within.2.2.subset (List.mem_append_right others List.mem_cons_self)
      simp only [List.mem_cons, List.not_mem_nil, or_false] at member
      rcases member with rfl | rfl <;> simp at asked
  have cleared : ClearsAll sharedSurveyCalls := by
    intro before call after split begins
    rcases before with _ | ⟨first, _ | ⟨second, others⟩⟩
    · simp only [sharedSurveyCalls, List.nil_append, List.cons.injEq] at split
      obtain ⟨rfl, rfl⟩ := split
      exact ⟨⟨⟨2, 0⟩, .clear "survey-1"⟩, by simp, rfl⟩
    · simp only [sharedSurveyCalls, List.cons_append, List.nil_append, List.cons.injEq] at split
      obtain ⟨rfl, rfl, rfl⟩ := split
      exact ⟨⟨⟨3, 0⟩, .clear "survey-2"⟩, by simp, rfl⟩
    · simp only [sharedSurveyCalls, List.cons_append, List.cons.injEq] at split
      have member : call ∈ others ++ call :: after := by simp
      rw [← split.2.2] at member
      simp only [List.mem_cons, List.not_mem_nil, or_false] at member
      rcases member with rfl | rfl <;> simp [Operation.begins] at begins
  obtain ⟨indexed, empties⟩ := indexed_run_iff_keepsReferences valid
  exact ⟨indexed.2 keeps, empties keeps cleared⟩

/-- A survey that is started again with another reference. -/
def movedSurveyCalls : List Call :=
  [⟨⟨0, 0⟩, .start "survey-1" surveyInstructions⟩,
    ⟨⟨1, 0⟩, .start "survey-1" { surveyInstructions with referenceId := "poll" }⟩]

/-- The old reference of a moved survey leads to the survey under its new reference, and goes on to
lead there when the survey is cleared. -/
theorem moved_survey_leaves_entry :
    (∃ state, stateByReference? (storeAfter {} movedSurveyCalls) "survey" = some state ∧
      state.referenceId = "poll") ∧
    (storeAfter {} (movedSurveyCalls ++ [⟨⟨2, 0⟩, .clear "survey-1"⟩])).get?
      (referenceKey "survey") = some (.text "survey-1") ∧
    isStored (storeAfter {} (movedSurveyCalls ++ [⟨⟨2, 0⟩, .clear "survey-1"⟩])) "survey-1" =
      false := by
  have valid : ∀ call ∈ movedSurveyCalls ++ [⟨⟨2, 0⟩, .clear "survey-1"⟩], Call.Valid call := by
    simp only [movedSurveyCalls, List.cons_append, List.nil_append, List.forall_mem_cons]
    refine ⟨⟨by decide, by decide⟩, ⟨by decide, by decide⟩, ⟨by decide, by decide⟩, by simp⟩
  have validBefore := (List.forall_mem_append.1 valid).1
  have entry : (storeAfter {} movedSurveyCalls).get? (referenceKey "survey") =
      some (.text "survey-1") := by
    simp only [movedSurveyCalls, storeAfter, List.foldl_cons, List.foldl_nil,
      get?_referenceKey_run]
    rfl
  have state := state?_storeAfter Consistent.empty validBefore "survey-1"
  refine ⟨?_, ?_, ?_⟩
  · rw [stateByReference?, entry]
    exact ⟨_, state, rfl⟩
  · rw [storeAfter_concat, get?_referenceKey_run, entry]
    simp only [Call.flowId, state]
    rfl
  · rw [isStored, ← (Consistent.empty.storeAfter valid).state?_isSome,
      state?_storeAfter Consistent.empty valid]
    rfl

end Flow

end Intake
