import Intake.Proofs.Flow.Clients

/-!
# What calls do to the keys of a store

A store keeps a document for each flow and an entry for each reference that leads to a flow. A start
writes the entry of its reference, a clearing removes the entry that leads to its flow, and no other
call touches an entry. Keys of other kinds are never touched, so that two stores which agree on the
flows and on the references are the same if they agree on what was there before.
-/

namespace Intake

namespace Flow

/-- What a call makes of the entry of a reference, when it finds its flow in a state. -/
def Call.entryAfter (call : Call) (state : Option FlowState) (referenceId : String)
    (entry : Option Value) : Option Value :=
  match call.operation with
  | .start _ instructions =>
    if instructions.fault?.isNone ∧ referenceId = instructions.referenceId then
      some (.text call.flowId)
    else entry
  | .clear flowId =>
    if state.map FlowState.referenceId = some referenceId ∧ entry = some (.text flowId) then none
    else entry
  | .update .. | .updateChecked .. | .complete _ | .cancel _ => entry

theorem entryAfter_of_lasting {call : Call} (lasting : call.operation.replaces = false)
    (state : Option FlowState) (referenceId : String) (entry : Option Value) :
    call.entryAfter state referenceId entry = entry := by
  obtain ⟨now, operation⟩ := call
  cases operation with
  | start | clear => simp [Operation.replaces] at lasting
  | update | updateChecked | complete | cancel => rfl

section Replacing

variable {now : Timestamp} {freshId flowId referenceId : String} {instructions : Instructions}
  {entry : Option Value} (state : Option FlowState)

theorem entryAfter_start
    (claims : instructions.fault?.isNone ∧ referenceId = instructions.referenceId)
    (entry : Option Value) :
    Call.entryAfter ⟨now, .start freshId instructions⟩ state referenceId entry =
      some (.text (Call.flowId ⟨now, .start freshId instructions⟩)) :=
  if_pos claims

theorem entryAfter_start_of_not
    (passes : ¬ (instructions.fault?.isNone ∧ referenceId = instructions.referenceId))
    (entry : Option Value) :
    Call.entryAfter ⟨now, .start freshId instructions⟩ state referenceId entry = entry :=
  if_neg passes

theorem entryAfter_clear_of_ne (foreign : entry ≠ some (.text flowId)) :
    Call.entryAfter ⟨now, .clear flowId⟩ state referenceId entry = entry :=
  if_neg fun removes => foreign removes.2

theorem entryAfter_clear_ne {other : String} (foreign : entry ≠ some (.text other)) :
    Call.entryAfter ⟨now, .clear flowId⟩ state referenceId entry ≠ some (.text other) := by
  simp only [Call.entryAfter]
  split
  · simp
  · exact foreign

end Replacing

theorem referenceKey_inj {first second : String} :
    referenceKey first = referenceKey second ↔ first = second := by
  simp [referenceKey]

/-- A call that does not replace its flow writes at most a state of a flow. -/
theorem run_of_lasting {call : Call} (lasting : call.operation.replaces = false) (store : Store) :
    (call.run store).2 = store ∨ ∃ state, (call.run store).2 = save store state := by
  have finished : ∀ now flowId status,
      (settle store (finish store now flowId status)).2 = store ∨
        ∃ state, (settle store (finish store now flowId status)).2 = save store state := by
    intro now flowId status
    rw [finish]
    cases load store flowId with
    | error error => exact Or.inl rfl
    | ok state =>
      simp only
      split
      · exact Or.inl rfl
      · split
        · exact Or.inl rfl
        · exact Or.inr ⟨_, rfl⟩
  obtain ⟨now, operation⟩ := call
  cases operation with
  | start | clear => simp [Operation.replaces] at lasting
  | update flowId index data name =>
    simp only [Call.run, Operation.run, update]
    cases loadActive store flowId with
    | error error => exact Or.inl rfl
    | ok state => exact Or.inr ⟨_, rfl⟩
  | updateChecked flowId index data name expected =>
    simp only [Call.run, Operation.run, updateChecked]
    cases loadActive store flowId with
    | error error => exact Or.inl rfl
    | ok state =>
      simp only
      split
      · exact Or.inl rfl
      · exact Or.inr ⟨_, rfl⟩
  | complete flowId => exact finished now flowId .completed
  | cancel flowId => exact finished now flowId .cancelled

theorem get?_save_of_ne (store : Store) (state : FlowState) {key : String}
    (different : ∀ flowId, key ≠ stateKey flowId) :
    (save store state).get? key = store.get? key := by
  simp [save, different]

theorem get?_referenceKey_clear (store : Store) (flowId referenceId : String) :
    (clear store flowId).get? (referenceKey referenceId) =
      if (state? store flowId).map FlowState.referenceId = some referenceId ∧
          store.get? (referenceKey referenceId) = some (.text flowId) then none
      else store.get? (referenceKey referenceId) := by
  have different : referenceKey referenceId ≠ stateKey flowId := (stateKey_ne_referenceKey _ _).symm
  rw [clear, Store.get?_forget, if_neg different, forgetReference]
  cases state? store flowId with
  | none => simp
  | some state =>
    by_cases same : state.referenceId = referenceId
    · subst same
      by_cases leads : store.get? (referenceKey state.referenceId) = some (.text flowId)
      · simp [leads]
      · simp [leads]
    · by_cases leads : store.get? (referenceKey state.referenceId) = some (.text flowId)
      · simp [leads, same, referenceKey_inj, Ne.symm same]
      · simp [leads, same]

/-- The entries of references after a call. -/
theorem get?_referenceKey_run (call : Call) (store : Store) (referenceId : String) :
    (call.run store).2.get? (referenceKey referenceId) =
      call.entryAfter (state? store call.flowId) referenceId
        (store.get? (referenceKey referenceId)) := by
  cases lasting : call.operation.replaces with
  | false =>
    rw [entryAfter_of_lasting lasting]
    rcases run_of_lasting lasting store with same | ⟨state, saved⟩
    · rw [same]
    · rw [saved, get?_save_of_ne]
      exact fun flowId => (stateKey_ne_referenceKey _ _).symm
  | true =>
    obtain ⟨now, operation⟩ := call
    cases operation with
    | start freshId instructions =>
      simp only [Call.run, Operation.run, start, Call.entryAfter]
      cases instructions.fault? with
      | some fault => simp [settle]
      | none =>
        simp only [settle, Store.get?_put, referenceKey_inj]
        rw [get?_save_of_ne _ _ fun flowId => (stateKey_ne_referenceKey _ _).symm]
        by_cases same : referenceId = instructions.referenceId
        · simp [initialState, Call.flowId, same]
        · simp [initialState, same]
    | clear flowId => exact get?_referenceKey_clear store flowId referenceId
    | update | updateChecked | complete | cancel => simp [Operation.replaces] at lasting

/-- A key that belongs to no flow and no reference is never touched. -/
theorem get?_run_of_ne (call : Call) (store : Store) {key : String}
    (noState : ∀ flowId, key ≠ stateKey flowId)
    (noReference : ∀ referenceId, key ≠ referenceKey referenceId) :
    (call.run store).2.get? key = store.get? key := by
  cases lasting : call.operation.replaces with
  | false =>
    rcases run_of_lasting lasting store with same | ⟨state, saved⟩
    · rw [same]
    · rw [saved, get?_save_of_ne _ _ noState]
  | true =>
    obtain ⟨now, operation⟩ := call
    cases operation with
    | start freshId instructions =>
      simp only [Call.run, Operation.run, start]
      cases instructions.fault? with
      | some fault => simp [settle]
      | none => simp [settle, noReference, get?_save_of_ne _ _ noState]
    | clear flowId =>
      simp only [Call.run, Operation.run, clear, forgetReference, Store.get?_forget,
        if_neg (noState flowId)]
      split
      · rfl
      · split
        · simp [noReference]
        · rfl
    | update | updateChecked | complete | cancel => simp [Operation.replaces] at lasting

/-- Stores are the same if they agree on the flows, on the entries of references, and elsewhere. -/
theorem Consistent.ext {first second : Store} (consistent : Consistent first)
    (consistentSecond : Consistent second)
    (states : ∀ flowId, state? first flowId = state? second flowId)
    (entries : ∀ referenceId,
      first.get? (referenceKey referenceId) = second.get? (referenceKey referenceId))
    (others : ∀ key, (∀ flowId, key ≠ stateKey flowId) →
      (∀ referenceId, key ≠ referenceKey referenceId) → first.get? key = second.get? key) :
    first = second := by
  apply Store.ext
  intro key
  by_cases ofFlow : ∃ flowId, key = stateKey flowId
  · obtain ⟨flowId, rfl⟩ := ofFlow
    rw [consistent.get?_stateKey_eq_iff consistentSecond]
    exact states flowId
  · by_cases ofReference : ∃ referenceId, key = referenceKey referenceId
    · obtain ⟨referenceId, rfl⟩ := ofReference
      exact entries referenceId
    · apply others key
      · exact not_exists.1 ofFlow
      · exact not_exists.1 ofReference

end Flow

end Intake
