import Intake.Proofs.Flow.Clients

/-!
# Flows that have ended

A flow that was completed or cancelled is kept as it is. A write to it is refused, ending it once
more is refused or changes nothing, and calls about other flows do not touch it. Only a call that
replaces the flow changes what is kept: a clearing, or an accepted start under the same id, which
forgets that the flow has ended.
-/

namespace Intake

namespace Flow

/-- Whether a call was accepted and begins a flow anew or removes it. -/
def Event.replaces (flowId : String) (event : Event) : Bool :=
  event.call.operation.replaces && event.concerns flowId

section Ended

variable {state : FlowState} (ended : state.status.isTerminal = true)

include ended

/-- What a call makes of a flow that has ended: the same, unless the call replaces the flow and is
accepted. -/
theorem react_ne_of_ended (call : Call) :
    (call.react (some state)).2 ≠ some state ↔
      call.operation.replaces = true ∧ (call.react (some state)).1.isOk = true := by
  cases lasting : call.operation.replaces with
  | false =>
    have effect := effect_react lasting state
    generalize call.react (some state) = outcome at effect
    cases effect with
    | refused error => simp
    | repeated terminal unchecked => simp
    | changed next active => simp [ended] at active
  | true =>
    obtain ⟨now, operation⟩ := call
    cases operation with
    | start freshId instructions =>
      cases fault : instructions.fault? with
      | some fault' => simp [Call.react, fault, Except.isOk, Except.toBool]
      | none =>
        have reopened : initialState now (Call.flowId ⟨now, .start freshId instructions⟩)
            instructions ≠ state := by
          rintro rfl
          simp [initialState, FlowStatus.isTerminal] at ended
        simp [Call.react, fault, reopened, Except.isOk, Except.toBool]
    | clear flowId => simp [Call.react, Except.isOk, Except.toBool]
    | update | updateChecked | complete | cancel => simp [Operation.replaces] at lasting

variable {store : Store} {flowId : String}

theorem state?_run_ne_of_ended (consistent : Consistent store)
    (kept : state? store flowId = some state) {call : Call} (valid : call.Valid) :
    state? (call.run store).2 flowId ≠ some state ↔
      Event.replaces flowId ⟨call, (call.run store).1⟩ = true := by
  have follows := run_follows consistent valid
  rw [follows.states, follows.answer]
  by_cases about : call.flowId = flowId
  · subst about
    rw [if_pos rfl, kept, react_ne_of_ended ended]
    simp [Event.replaces, Event.concerns]
  · rw [if_neg (Ne.symm about), kept]
    simp [Event.replaces, Event.concerns, about]

/-- A run that never replaces an ended flow leaves it as it is. -/
theorem state?_storeAfter_of_ended (consistent : Consistent store)
    (kept : state? store flowId = some state) {later : List Call}
    (valid : ∀ call ∈ later, call.Valid)
    (unreplaced : ∀ event ∈ events store later, event.replaces flowId = false) :
    state? (storeAfter store later) flowId = some state := by
  induction later generalizing store with
  | nil => exact kept
  | cons call others ih =>
    rw [List.forall_mem_cons] at valid
    rw [events, List.forall_mem_cons] at unreplaced
    have stays : state? (call.run store).2 flowId = some state := by
      by_contra changed
      have replaced := (state?_run_ne_of_ended ended consistent kept valid.1).1 changed
      exact absurd replaced (by simp [unreplaced.1])
    apply ih (run_follows consistent valid.1).consistent stays valid.2
    exact unreplaced.2

end Ended

/-- Whatever was called before, the document of an ended flow stays until the flow is replaced, and
the next call changes it exactly if the call replaces the flow and is accepted. -/
theorem kept_until_replaced {calls later : List Call}
    (valid : ∀ call ∈ calls ++ later, call.Valid) {flowId : String} {state : FlowState}
    (kept : state? (storeAfter {} calls) flowId = some state)
    (ended : state.status.isTerminal = true)
    (unreplaced : ∀ event ∈ events (storeAfter {} calls) later, event.replaces flowId = false) :
    (storeAfter {} (calls ++ later)).get? (stateKey flowId) =
        (storeAfter {} calls).get? (stateKey flowId) ∧
      ∀ call : Call, call.Valid →
        ((storeAfter {} (calls ++ later ++ [call])).get? (stateKey flowId) ≠
            (storeAfter {} calls).get? (stateKey flowId) ↔
          Event.replaces flowId ⟨call, (call.run (storeAfter {} (calls ++ later))).1⟩ = true) := by
  have consistent := Consistent.empty.storeAfter (List.forall_mem_append.1 valid).1
  have consistentLater := Consistent.empty.storeAfter valid
  have lasts : state? (storeAfter {} (calls ++ later)) flowId = some state := by
    rw [storeAfter_append]
    exact state?_storeAfter_of_ended ended consistent kept (List.forall_mem_append.1 valid).2
      unreplaced
  constructor
  · rw [consistentLater.get?_stateKey_eq_iff consistent, lasts, kept]
  · intro call validCall
    have next := run_follows consistentLater validCall
    rw [storeAfter_concat, ne_eq, next.consistent.get?_stateKey_eq_iff consistent, kept]
    exact state?_run_ne_of_ended ended consistentLater lasts validCall

/-- A survey that is answered in part and completed. -/
def completedSurveyCalls : List Call :=
  [⟨⟨0, 0⟩, .start "survey-1" surveyInstructions⟩,
    ⟨⟨60, 0⟩, .update "survey-1" 0 [("name", .text "A. Reader")] none⟩,
    ⟨⟨61, 0⟩, .complete "survey-1"⟩]

/-- Calls after its completion that do not replace the survey: a late answer, a second completion,
a cancellation, and the start of another survey. -/
def lateSurveyCalls : List Call :=
  [⟨⟨62, 0⟩, .update "survey-1" 1 [("size", .text "M")] none⟩, ⟨⟨63, 0⟩, .complete "survey-1"⟩,
    ⟨⟨64, 0⟩, .cancel "survey-1"⟩, ⟨⟨65, 0⟩, .start "survey-2" surveyInstructions⟩]

theorem kept_until_replaced_survey :
    (storeAfter {} (completedSurveyCalls ++ lateSurveyCalls)).get? (stateKey "survey-1") =
        (storeAfter {} completedSurveyCalls).get? (stateKey "survey-1") ∧
      ∀ call : Call, call.Valid →
        ((storeAfter {} (completedSurveyCalls ++ lateSurveyCalls ++ [call])).get?
            (stateKey "survey-1") ≠
            (storeAfter {} completedSurveyCalls).get? (stateKey "survey-1") ↔
          Event.replaces "survey-1"
            ⟨call, (call.run (storeAfter {} (completedSurveyCalls ++ lateSurveyCalls))).1⟩ =
              true) := by
  have valid : ∀ call ∈ completedSurveyCalls ++ lateSurveyCalls, call.Valid := by
    simp only [completedSurveyCalls, lateSurveyCalls, List.cons_append, List.nil_append,
      List.forall_mem_cons]
    refine ⟨⟨by decide, by decide⟩, ⟨by decide, by decide⟩, ⟨by decide, by decide⟩,
      ⟨by decide, by decide⟩, ⟨by decide, by decide⟩, ⟨by decide, by decide⟩,
      ⟨by decide, by decide⟩, by simp⟩
  have isKept : (state? (storeAfter {} completedSurveyCalls) "survey-1").isSome = true := by
    rw [state?_storeAfter Consistent.empty (List.forall_mem_append.1 valid).1]
    rfl
  obtain ⟨state, kept⟩ := Option.isSome_iff_exists.1 isKept
  have ended : state.status.isTerminal = true := by
    rw [state?_storeAfter Consistent.empty (List.forall_mem_append.1 valid).1] at kept
    exact Option.some.inj kept ▸ rfl
  have unreplaced : ∀ event ∈ events (storeAfter {} completedSurveyCalls) lateSurveyCalls,
      event.replaces "survey-1" = false := by
    simp only [lateSurveyCalls, events, List.forall_mem_cons]
    refine ⟨rfl, rfl, rfl, ?_, by simp⟩
    simp [Event.replaces, Event.concerns, Call.flowId, surveyInstructions, Instructions.givenId?]
  exact kept_until_replaced valid kept ended unreplaced

/-- An ended flow does not stay ended against a start under its own id: it goes on again, and
counts its revisions anew. -/
theorem completed_survey_restarts :
    ∃ before after,
      state? (storeAfter {} completedSurveyCalls) "survey-1" = some before ∧
      before.status = .completed ∧ before.revision = 2 ∧
      state? (storeAfter {} (completedSurveyCalls ++
        [⟨⟨70, 0⟩, .start "survey-1" surveyInstructions⟩])) "survey-1" = some after ∧
      after.status = .active ∧ after.revision = 0 := by
  have valid : ∀ call ∈ completedSurveyCalls ++
      [⟨⟨70, 0⟩, .start "survey-1" surveyInstructions⟩], Call.Valid call := by
    simp only [completedSurveyCalls, List.cons_append, List.nil_append, List.forall_mem_cons]
    refine ⟨⟨by decide, by decide⟩, ⟨by decide, by decide⟩, ⟨by decide, by decide⟩,
      ⟨by decide, by decide⟩, by simp⟩
  rw [state?_storeAfter Consistent.empty valid,
    state?_storeAfter Consistent.empty (List.forall_mem_append.1 valid).1]
  exact ⟨_, _, rfl, rfl, rfl, rfl, rfl, rfl⟩

end Flow

end Intake
