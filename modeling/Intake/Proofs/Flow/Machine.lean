import Intake.Flow.Service
import Intake.Proofs.Flow.Document

/-!
# Flows one by one

A call is about one flow. What it answers and what it makes of that flow depend on the state of the
flow alone (`Call.react`), and it leaves the states of all other flows as they are. The session
store refines this: as long as every document kept for a flow is that of a sound state of the flow,
a run of calls on the store is a run of the flows one by one.
-/

namespace Intake

namespace Flow

/-- An operation and the moment at which it is asked for. -/
structure Call where
  now : Timestamp
  operation : Operation

def Operation.index? : Operation → Option Nat
  | update _ index _ _ | updateChecked _ index _ _ _ => some index
  | start .. | complete _ | cancel _ | clear _ => none

namespace Call

/-- A call that can be made: a clock can show its moment, and its step index fits a word. -/
structure Valid (call : Call) : Prop where
  now : call.now.Valid
  index : ∀ index ∈ call.operation.index?, index < twoTo 64

def flowId (call : Call) : String :=
  match call.operation with
  | .start freshId instructions => instructions.givenId?.getD freshId
  | .update flowId .. | .updateChecked flowId .. | .complete flowId | .cancel flowId
  | .clear flowId => flowId

def run (call : Call) (store : Store) : Answer × Store :=
  call.operation.run call.now store

end Call

/-- What a write answers and makes of a flow. It is refused unless it is admitted. -/
def reactWrite (flowId : String) (now : Timestamp) (index : Nat) (data : Fields Value)
    (name : Option String) (admitted : FlowState → Except FlowError Unit) :
    Option FlowState → Answer × Option FlowState
  | none => (.error (.notFound flowId), none)
  | some state =>
    if state.status.isTerminal then (.error (.closed flowId state.status), some state)
    else
      match admitted state with
      | .error error => (.error error, some state)
      | .ok () =>
        let next := recorded state now index data name
        (.ok (some next), some next)

/-- A write is admitted unless the flow was written since a revision. -/
def unlessStale (flowId : String) (expected : Nat) (state : FlowState) : Except FlowError Unit :=
  if state.revision = expected then .ok ()
  else .error (.stale flowId expected state.revision)

/-- A write to a kept flow that goes on and admits it. -/
def writeAdmitted (store : Store) (now : Timestamp) (flowId : String) (index : Nat)
    (data : Fields Value) (name : Option String) (admitted : FlowState → Except FlowError Unit) :
    Except FlowError (FlowState × Store) :=
  match loadActive store flowId with
  | .error error => .error error
  | .ok state =>
    match admitted state with
    | .error error => .error error
    | .ok () =>
      let next := recorded state now index data name
      .ok (next, save store next)

theorem updateChecked_eq (store : Store) (now : Timestamp) (flowId : String) (index : Nat)
    (data : Fields Value) (name : Option String) (expected : Nat) :
    updateChecked store now flowId index data name expected =
      writeAdmitted store now flowId index data name (unlessStale flowId expected) := by
  rw [updateChecked, writeAdmitted]
  cases loadActive store flowId with
  | error error => rfl
  | ok state => by_cases same : state.revision = expected <;> simp [unlessStale, same]

/-- What the end of a flow answers and makes of it. -/
def reactFinish (flowId : String) (now : Timestamp) (status : FlowStatus) :
    Option FlowState → Answer × Option FlowState
  | none => (.error (.notFound flowId), none)
  | some state =>
    if state.status = status then (.ok (some state), some state)
    else if state.status.isTerminal then
      (.error (.closed flowId state.status), some state)
    else
      let next := ended state now status
      (.ok (some next), some next)

/-- What a call answers and makes of the flow that it is about. -/
def Call.react (call : Call) (state : Option FlowState) : Answer × Option FlowState :=
  match call.operation with
  | .start _ instructions =>
    match instructions.fault? with
    | some fault => (.error (.invalidInstructions fault), state)
    | none =>
      let first := initialState call.now call.flowId instructions
      (.ok (some first), some first)
  | .update flowId index data name =>
    reactWrite flowId call.now index data name (fun _ => .ok ()) state
  | .updateChecked flowId index data name expected =>
    reactWrite flowId call.now index data name (unlessStale flowId expected) state
  | .complete flowId => reactFinish flowId call.now .completed state
  | .cancel flowId => reactFinish flowId call.now .cancelled state
  | .clear _ => (.ok none, none)

theorem unlessStale_eq_ok (flowId : String) {expected : Nat} {state : FlowState} :
    unlessStale flowId expected state = .ok () ↔ state.revision = expected := by
  by_cases same : state.revision = expected <;> simp [unlessStale, same]

/-- A write to a flow that is kept is refused or recorded. -/
theorem reactWrite_cases (flowId : String) (now : Timestamp) (index : Nat) (data : Fields Value)
    (name : Option String) (admitted : FlowState → Except FlowError Unit) (state : FlowState) :
    (∃ error, reactWrite flowId now index data name admitted (some state) =
        (.error error, some state) ∧
      (state.status.isTerminal = true ∨ admitted state = .error error)) ∨
    (state.status.isTerminal = false ∧ admitted state = .ok () ∧
      reactWrite flowId now index data name admitted (some state) =
        (.ok (some (recorded state now index data name)),
          some (recorded state now index data name))) := by
  cases terminal : state.status.isTerminal with
  | true => exact Or.inl ⟨.closed flowId state.status, by simp [reactWrite, terminal], Or.inl rfl⟩
  | false =>
    cases admission : admitted state with
    | error error =>
      exact Or.inl ⟨error, by simp [reactWrite, terminal, admission], Or.inr rfl⟩
    | ok => exact Or.inr ⟨rfl, rfl, by simp [reactWrite, terminal, admission]⟩

/-- The end of a flow that is kept is refused, or the flow has ended so before, or it ends. -/
theorem reactFinish_cases (flowId : String) (now : Timestamp) (status : FlowStatus)
    (state : FlowState) :
    (∃ error, reactFinish flowId now status (some state) = (.error error, some state)) ∨
    (state.status = status ∧
      reactFinish flowId now status (some state) = (.ok (some state), some state)) ∨
    (state.status.isTerminal = false ∧
      reactFinish flowId now status (some state) =
        (.ok (some (ended state now status)), some (ended state now status))) := by
  by_cases same : state.status = status
  · exact Or.inr (Or.inl ⟨same, by simp [reactFinish, same]⟩)
  · cases terminal : state.status.isTerminal with
    | true => exact Or.inl ⟨.closed flowId state.status, by simp [reactFinish, same, terminal]⟩
    | false => exact Or.inr (Or.inr ⟨rfl, by simp [reactFinish, same, terminal]⟩)

theorem stateKey_inj {first second : String} :
    stateKey first = stateKey second ↔ first = second := by
  simp [stateKey]

theorem stateKey_ne_referenceKey (flowId referenceId : String) :
    stateKey flowId ≠ referenceKey referenceId := by
  intro equal
  have texts := congrArg String.toList equal
  simp [stateKey, referenceKey] at texts

/-- Every document that is kept for a flow is that of a sound state of the flow. -/
def Consistent (store : Store) : Prop :=
  ∀ flowId document, store.get? (stateKey flowId) = some document →
    ∃ state : FlowState, state.Sound ∧ state.flowId = flowId ∧ document = state.toValue

namespace Consistent

variable {store : Store}

theorem empty : Consistent {} := by
  intro flowId document found
  simp [Store.get?, Store.find?] at found

theorem state?_eq_some (consistent : Consistent store) {flowId : String} {state : FlowState} :
    state? store flowId = some state ↔
      state.Sound ∧ state.flowId = flowId ∧
        store.get? (stateKey flowId) = some state.toValue := by
  constructor
  · intro found
    obtain ⟨document, kept, read⟩ := Option.bind_eq_some_iff.1 found
    obtain ⟨written, sound, same, rfl⟩ := consistent flowId document kept
    rw [FlowState.ofValue?_toValue sound, Option.some.injEq] at read
    subst read
    exact ⟨sound, same, kept⟩
  · rintro ⟨sound, -, kept⟩
    rw [state?, kept, Option.bind_some, FlowState.ofValue?_toValue sound]

theorem state?_isSome (consistent : Consistent store) (flowId : String) :
    (state? store flowId).isSome = (store.get? (stateKey flowId)).isSome := by
  cases kept : store.get? (stateKey flowId) with
  | none => simp [state?, kept]
  | some document =>
    obtain ⟨state, sound, -, rfl⟩ := consistent flowId document kept
    simp [state?, kept, FlowState.ofValue?_toValue sound]

theorem get?_stateKey (consistent : Consistent store) (flowId : String) :
    store.get? (stateKey flowId) = (state? store flowId).map FlowState.toValue := by
  cases kept : store.get? (stateKey flowId) with
  | none => simp [state?, kept]
  | some document =>
    obtain ⟨state, sound, same, rfl⟩ := consistent flowId document kept
    rw [consistent.state?_eq_some.2 ⟨sound, same, kept⟩, Option.map_some]

/-- Two stores keep the same document for a flow if they keep the same state of it. -/
theorem get?_stateKey_eq_iff {other : Store} (consistent : Consistent store)
    (consistentOther : Consistent other) {flowId : String} :
    store.get? (stateKey flowId) = other.get? (stateKey flowId) ↔
      state? store flowId = state? other flowId := by
  constructor
  · intro same
    rw [state?, state?, same]
  · intro same
    rw [consistent.get?_stateKey, consistentOther.get?_stateKey, same]

end Consistent

/-- A document under another key than that of a flow does not touch the flow. -/
theorem state?_put_of_ne (store : Store) {key : String} (document : Value) {flowId : String}
    (different : stateKey flowId ≠ key) :
    state? (store.put key document) flowId = state? store flowId := by
  simp [state?, different]

theorem state?_forget_of_ne (store : Store) {key flowId : String}
    (different : stateKey flowId ≠ key) :
    state? (store.forget key) flowId = state? store flowId := by
  simp [state?, different]

theorem state?_save (store : Store) {state : FlowState} (sound : state.Sound) (flowId : String) :
    state? (save store state) flowId =
      if flowId = state.flowId then some state else state? store flowId := by
  by_cases same : flowId = state.flowId
  · subst same
    simp [state?, save, FlowState.ofValue?_toValue sound]
  · rw [save, state?_put_of_ne _ _ (by simpa [stateKey_inj] using same), if_neg same]

theorem state?_forgetReference (store : Store) (cleared flowId : String) :
    state? (forgetReference store cleared) flowId = state? store flowId := by
  rw [forgetReference]
  split
  · rfl
  · split
    · exact state?_forget_of_ne _ (stateKey_ne_referenceKey _ _)
    · rfl

theorem state?_clear (store : Store) (cleared flowId : String) :
    state? (clear store cleared) flowId =
      if flowId = cleared then none else state? store flowId := by
  by_cases same : flowId = cleared
  · subst same
    simp [state?, clear]
  · rw [clear, state?_forget_of_ne _ (by simpa [stateKey_inj] using same),
      state?_forgetReference, if_neg same]

namespace Consistent

variable {store : Store}

theorem save (consistent : Consistent store) {state : FlowState} (sound : state.Sound) :
    Consistent (Flow.save store state) := by
  intro flowId document found
  rw [Flow.save, Store.get?_put] at found
  split at found
  · next same =>
    rw [stateKey_inj] at same
    exact ⟨state, sound, same.symm, (Option.some.inj found).symm⟩
  · exact consistent flowId document found

theorem putReference (consistent : Consistent store) (referenceId : String) (document : Value) :
    Consistent (store.put (referenceKey referenceId) document) := by
  intro flowId kept found
  rw [Store.get?_put, if_neg (stateKey_ne_referenceKey _ _)] at found
  exact consistent flowId kept found

theorem forget (consistent : Consistent store) (key : String) :
    Consistent (store.forget key) := by
  intro flowId document found
  rw [Store.get?_forget] at found
  split at found
  · simp at found
  · exact consistent flowId document found

theorem clear (consistent : Consistent store) (cleared : String) :
    Consistent (Flow.clear store cleared) := by
  refine Consistent.forget ?_ _
  rw [forgetReference]
  split
  · exact consistent
  · split
    · exact consistent.forget _
    · exact consistent

end Consistent

theorem sound_initialState {now : Timestamp} (valid : now.Valid) (flowId : String)
    (instructions : Instructions) : (initialState now flowId instructions).Sound where
  started := valid
  updated := by simp [initialState]
  completed := by simp [initialState]
  cancelled := by simp [initialState]
  ordered := List.Pairwise.nil
  fits := by simp [initialState]

theorem sound_recorded {state : FlowState} (sound : state.Sound) {now : Timestamp}
    (valid : now.Valid) {index : Nat} (fits : index < twoTo 64) (data : Fields Value)
    (name : Option String) : (recorded state now index data name).Sound where
  started := sound.started
  updated := by simpa [recorded] using valid
  completed := sound.completed
  cancelled := sound.cancelled
  ordered := CollectedData.ordered_insert sound.ordered
  fits := by
    intro entry member
    rcases CollectedData.mem_insert member with rfl | old
    · exact fits
    · exact sound.fits entry old

theorem sound_ended {state : FlowState} (sound : state.Sound) {now : Timestamp}
    (valid : now.Valid) (status : FlowStatus) : (ended state now status).Sound where
  started := sound.started
  updated := by simpa [ended] using valid
  completed := by
    intro time member
    simp only [ended] at member
    split at member
    · exact Option.some.inj member ▸ valid
    · exact sound.completed time member
  cancelled := by
    intro time member
    simp only [ended] at member
    split at member
    · exact Option.some.inj member ▸ valid
    · exact sound.cancelled time member
  ordered := sound.ordered
  fits := sound.fits

/-- A result on the store that is an outcome for one flow and touches no other. -/
structure Follows (store : Store) (flowId : String) (outcome : Answer × Option FlowState)
    (result : Answer × Store) : Prop where
  answer : result.1 = outcome.1
  consistent : Consistent result.2
  states : ∀ other, state? result.2 other =
    if other = flowId then outcome.2 else state? store other

section Following

variable {store : Store} (consistent : Consistent store)

include consistent

theorem follows_unchanged (flowId : String) (answer : Answer) :
    Follows store flowId (answer, state? store flowId) (answer, store) where
  answer := rfl
  consistent := consistent
  states := by
    intro other
    split
    · next same => rw [same]
    · rfl

theorem follows_save {state : FlowState} (sound : state.Sound) :
    Follows store state.flowId (.ok (some state), some state)
      (.ok (some state), save store state) where
  answer := rfl
  consistent := consistent.save sound
  states := state?_save store sound

theorem writeAdmitted_follows {now : Timestamp} (valid : now.Valid) (flowId : String)
    {index : Nat} (fits : index < twoTo 64) (data : Fields Value) (name : Option String)
    (admitted : FlowState → Except FlowError Unit) :
    Follows store flowId
      (reactWrite flowId now index data name admitted (state? store flowId))
      (settle store (writeAdmitted store now flowId index data name admitted)) := by
  have unchanged := follows_unchanged consistent flowId
  rw [writeAdmitted, loadActive, load]
  cases found : state? store flowId with
  | none =>
    rw [found] at unchanged
    exact unchanged _
  | some state =>
    obtain ⟨sound, rfl, -⟩ := consistent.state?_eq_some.1 found
    rw [found] at unchanged
    simp only [reactWrite]
    split
    · exact unchanged _
    · cases admission : admitted state with
      | error error =>
        simp only [admission]
        exact unchanged _
      | ok admittance =>
        simp only [admission]
        exact follows_save consistent (sound_recorded sound valid fits data name)

theorem finish_follows {now : Timestamp} (valid : now.Valid) (flowId : String)
    (status : FlowStatus) :
    Follows store flowId (reactFinish flowId now status (state? store flowId))
      (settle store (finish store now flowId status)) := by
  have unchanged := follows_unchanged consistent flowId
  rw [finish, load]
  cases found : state? store flowId with
  | none =>
    rw [found] at unchanged
    exact unchanged _
  | some state =>
    obtain ⟨sound, rfl, -⟩ := consistent.state?_eq_some.1 found
    rw [found] at unchanged
    simp only [reactFinish]
    split
    · exact unchanged _
    · split
      · exact unchanged _
      · exact follows_save consistent (sound_ended sound valid status)

theorem start_follows {now : Timestamp} (valid : now.Valid) (freshId : String)
    (instructions : Instructions) :
    Follows store (Call.flowId ⟨now, .start freshId instructions⟩)
      (Call.react ⟨now, .start freshId instructions⟩
        (state? store (Call.flowId ⟨now, .start freshId instructions⟩)))
      (settle store (start store now freshId instructions)) := by
  simp only [Call.react, start]
  cases instructions.fault? with
  | some fault => exact follows_unchanged consistent _ _
  | none =>
    have sound := sound_initialState valid (instructions.givenId?.getD freshId) instructions
    have saved := follows_save consistent sound
    exact
      { answer := saved.answer
        consistent := saved.consistent.putReference _ _
        states := fun other =>
          (state?_put_of_ne _ _ (stateKey_ne_referenceKey _ _)).trans (saved.states other) }

/-- A call on the store is a call on the flow that it is about. -/
theorem run_follows {call : Call} (valid : call.Valid) :
    Follows store call.flowId (call.react (state? store call.flowId)) (call.run store) := by
  obtain ⟨now, operation⟩ := call
  have time := valid.now
  have fits := valid.index
  cases operation with
  | start freshId instructions => exact start_follows consistent time freshId instructions
  | update flowId index data name =>
    exact writeAdmitted_follows consistent time flowId (fits index rfl) data name fun _ => .ok ()
  | updateChecked flowId index data name expected =>
    have follows := writeAdmitted_follows consistent time flowId (fits index rfl) data name
      (unlessStale flowId expected)
    rw [← updateChecked_eq] at follows
    exact follows
  | complete flowId => exact finish_follows consistent time flowId .completed
  | cancel flowId => exact finish_follows consistent time flowId .cancelled
  | clear flowId =>
    exact ⟨rfl, consistent.clear flowId, state?_clear store flowId⟩

end Following

structure Event where
  call : Call
  answer : Answer

def storeAfter (store : Store) (calls : List Call) : Store :=
  calls.foldl (fun store call => (call.run store).2) store

def events (store : Store) : List Call → List Event
  | [] => []
  | call :: others => ⟨call, (call.run store).1⟩ :: events (call.run store).2 others

theorem storeAfter_append (store : Store) (calls later : List Call) :
    storeAfter store (calls ++ later) = storeAfter (storeAfter store calls) later := by
  simp [storeAfter]

theorem storeAfter_concat (store : Store) (calls : List Call) (call : Call) :
    storeAfter store (calls ++ [call]) = (call.run (storeAfter store calls)).2 := by
  simp [storeAfter]

theorem events_concat (store : Store) (calls : List Call) (call : Call) :
    events store (calls ++ [call]) =
      events store calls ++ [⟨call, (call.run (storeAfter store calls)).1⟩] := by
  induction calls generalizing store with
  | nil => rfl
  | cons first others ih => simp [events, ih, storeAfter]

/-- A run of calls keeps a store consistent. -/
theorem Consistent.storeAfter {store : Store} (consistent : Consistent store) {calls : List Call}
    (valid : ∀ call ∈ calls, call.Valid) : Consistent (storeAfter store calls) := by
  induction calls generalizing store with
  | nil => exact consistent
  | cons call others ih =>
    rw [List.forall_mem_cons] at valid
    exact ih (run_follows consistent valid.1).consistent valid.2

/-- What a run of calls makes of a flow is what the calls about the flow make of it. -/
theorem state?_storeAfter {store : Store} (consistent : Consistent store) {calls : List Call}
    (valid : ∀ call ∈ calls, call.Valid) (flowId : String) :
    state? (storeAfter store calls) flowId =
      (calls.filter fun call => call.flowId == flowId).foldl
        (fun state call => (call.react state).2) (state? store flowId) := by
  induction calls generalizing store with
  | nil => rfl
  | cons call others ih =>
    rw [List.forall_mem_cons] at valid
    have follows := run_follows consistent valid.1
    have later : state? (storeAfter store (call :: others)) flowId =
        state? (storeAfter (call.run store).2 others) flowId := rfl
    rw [later, ih follows.consistent valid.2, follows.states]
    by_cases about : call.flowId = flowId
    · simp [about]
    · simp [about, Ne.symm about]

def surveyInstructions : Instructions where
  referenceId := "survey"
  steps := [⟨"form", [("step_name", .text "contact")]⟩, ⟨"form", []⟩]
  callbacks := { onComplete := some "/done" }

end Flow

end Intake
