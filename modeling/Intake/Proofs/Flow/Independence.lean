import Intake.Proofs.Flow.Entries

/-!
# Calls about different flows

Two calls about different flows can be made in either order: each answers what it answers alone, and
they leave the same store. Their documents lie under different keys, and where they meet in the
entry of a reference that both flows have, a clearing removes the entry only if it leads to its own
flow. Only two starts that claim the same reference depend on the order.
-/

namespace Intake

namespace Flow

/-- The reference that an operation claims for its flow. -/
def Operation.reference? : Operation → Option String
  | start _ instructions => some instructions.referenceId
  | update .. | updateChecked .. | complete _ | cancel _ | clear _ => none

theorem entryAfter_start_clear {now later : Timestamp} {freshId flowId : String}
    {instructions : Instructions} (apart : Call.flowId ⟨now, .start freshId instructions⟩ ≠ flowId)
    (firstState secondState : Option FlowState) (referenceId : String) (entry : Option Value) :
    Call.entryAfter ⟨later, .clear flowId⟩ secondState referenceId
        (Call.entryAfter ⟨now, .start freshId instructions⟩ firstState referenceId entry) =
      Call.entryAfter ⟨now, .start freshId instructions⟩ firstState referenceId
        (Call.entryAfter ⟨later, .clear flowId⟩ secondState referenceId entry) := by
  by_cases claims : instructions.fault?.isNone ∧ referenceId = instructions.referenceId
  · -- The entry leads to the flow that was started, so that the clearing passes it over.
    rw [entryAfter_start _ claims, entryAfter_start _ claims, entryAfter_clear_of_ne]
    simpa using apart
  · rw [entryAfter_start_of_not _ claims, entryAfter_start_of_not _ claims]

/-- Calls about different flows commute on an entry, unless both of them claim its reference. -/
theorem entryAfter_comm {first second : Call} (apart : first.flowId ≠ second.flowId)
    (unshared : ∀ referenceId ∈ first.operation.reference?,
      referenceId ∉ second.operation.reference?)
    (firstState secondState : Option FlowState) (referenceId : String) (entry : Option Value) :
    second.entryAfter secondState referenceId (first.entryAfter firstState referenceId entry) =
      first.entryAfter firstState referenceId
        (second.entryAfter secondState referenceId entry) := by
  cases firstLasting : first.operation.replaces with
  | false => simp only [entryAfter_of_lasting firstLasting]
  | true =>
    cases secondLasting : second.operation.replaces with
    | false => simp only [entryAfter_of_lasting secondLasting]
    | true =>
      obtain ⟨now, operation⟩ := first
      obtain ⟨later, other⟩ := second
      cases operation with
      | update | updateChecked | complete | cancel => simp [Operation.replaces] at firstLasting
      | start freshId instructions =>
        cases other with
        | update | updateChecked | complete | cancel => simp [Operation.replaces] at secondLasting
        | clear flowId =>
          exact entryAfter_start_clear apart firstState secondState referenceId entry
        | start otherId others =>
          simp only [Operation.reference?, Option.mem_def, Option.some.injEq, forall_eq']
            at unshared
          by_cases claims : instructions.fault?.isNone ∧ referenceId = instructions.referenceId
          · have passes : ¬ (others.fault?.isNone ∧ referenceId = others.referenceId) :=
              fun shared => unshared (shared.2.symm.trans claims.2)
            rw [entryAfter_start_of_not _ passes, entryAfter_start_of_not _ passes]
          · rw [entryAfter_start_of_not _ claims, entryAfter_start_of_not _ claims]
      | clear flowId =>
        cases other with
        | update | updateChecked | complete | cancel => simp [Operation.replaces] at secondLasting
        | start otherId others =>
          exact (entryAfter_start_clear apart.symm secondState firstState referenceId entry).symm
        | clear otherFlow =>
          by_cases leads : entry = some (.text flowId)
          · have foreign : entry ≠ some (.text otherFlow) := by
              rintro rfl
              exact apart (Value.text.inj (Option.some.inj leads)).symm
            rw [entryAfter_clear_of_ne _ (entryAfter_clear_ne _ foreign),
              entryAfter_clear_of_ne _ foreign]
          · rw [entryAfter_clear_of_ne _ leads,
              entryAfter_clear_of_ne _ (entryAfter_clear_ne _ leads)]

section Pair

variable {store : Store} (consistent : Consistent store) {first second : Call}
  (valid : first.Valid) (validSecond : second.Valid) (apart : first.flowId ≠ second.flowId)

include consistent valid validSecond apart

theorem answer_run_run : (second.run (first.run store).2).1 = (second.run store).1 := by
  have follows := run_follows consistent valid
  rw [(run_follows follows.consistent validSecond).answer,
    (run_follows consistent validSecond).answer, follows.states, if_neg apart.symm]

theorem state?_run_run (flowId : String) :
    state? (second.run (first.run store).2).2 flowId =
      if flowId = first.flowId then (first.react (state? store first.flowId)).2
      else if flowId = second.flowId then (second.react (state? store second.flowId)).2
      else state? store flowId := by
  have follows := run_follows consistent valid
  rw [(run_follows follows.consistent validSecond).states]
  by_cases about : flowId = second.flowId
  · rw [if_pos about, if_neg (fun same => apart (same.symm.trans about)), if_pos about,
      follows.states, if_neg apart.symm]
  · rw [if_neg about, if_neg about, follows.states]

omit validSecond in
theorem get?_referenceKey_run_run (referenceId : String) :
    (second.run (first.run store).2).2.get? (referenceKey referenceId) =
      second.entryAfter (state? store second.flowId) referenceId
        (first.entryAfter (state? store first.flowId) referenceId
          (store.get? (referenceKey referenceId))) := by
  rw [get?_referenceKey_run, get?_referenceKey_run, (run_follows consistent valid).states,
    if_neg apart.symm]

end Pair

/-- In every store that a run on an empty one can reach, two calls about different flows can be made
in either order, unless both start a flow with the same reference. -/
theorem run_run_comm {calls : List Call} (reached : ∀ call ∈ calls, call.Valid)
    {first second : Call} (valid : first.Valid) (validSecond : second.Valid)
    (apart : first.flowId ≠ second.flowId)
    (unshared : ∀ referenceId ∈ first.operation.reference?,
      referenceId ∉ second.operation.reference?) :
    let store := storeAfter {} calls
    (second.run (first.run store).2).1 = (second.run store).1 ∧
      (first.run (second.run store).2).1 = (first.run store).1 ∧
      (second.run (first.run store).2).2 = (first.run (second.run store).2).2 := by
  intro store
  have consistent : Consistent store := Consistent.empty.storeAfter reached
  refine ⟨answer_run_run consistent valid validSecond apart,
    answer_run_run consistent validSecond valid apart.symm, ?_⟩
  have consistentFirst := (run_follows consistent valid).consistent
  have consistentSecond := (run_follows consistent validSecond).consistent
  apply (run_follows consistentFirst validSecond).consistent.ext
    (run_follows consistentSecond valid).consistent
  · intro flowId
    rw [state?_run_run consistent valid validSecond apart,
      state?_run_run consistent validSecond valid apart.symm]
    by_cases about : flowId = first.flowId
    · rw [if_pos about, if_pos about, if_neg (fun same => apart (about.symm.trans same))]
    · rw [if_neg about, if_neg about]
  · intro referenceId
    rw [get?_referenceKey_run_run consistent valid apart,
      get?_referenceKey_run_run consistent validSecond apart.symm]
    exact entryAfter_comm apart unshared _ _ _ _
  · intro key noState noReference
    simp only [get?_run_of_ne _ _ noState noReference]

/-- The first of two surveys with the same reference is cleared while the second one is started. -/
theorem run_run_comm_shared_surveys :
    let store := storeAfter {} [⟨⟨0, 0⟩, .start "survey-1" surveyInstructions⟩]
    let first : Call := ⟨⟨60, 0⟩, .clear "survey-1"⟩
    let second : Call := ⟨⟨60, 0⟩, .start "survey-2" surveyInstructions⟩
    (second.run (first.run store).2).1 = (second.run store).1 ∧
      (first.run (second.run store).2).1 = (first.run store).1 ∧
      (second.run (first.run store).2).2 = (first.run (second.run store).2).2 := by
  have reached : ∀ call ∈ [⟨⟨0, 0⟩, .start "survey-1" surveyInstructions⟩], Call.Valid call := by
    rw [List.forall_mem_singleton]
    exact ⟨by decide, by decide⟩
  exact run_run_comm reached ⟨by decide, by decide⟩ ⟨by decide, by decide⟩ (by decide)
    (by simp [Operation.reference?])

end Flow

end Intake
