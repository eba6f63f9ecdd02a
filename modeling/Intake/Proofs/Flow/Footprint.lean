import Intake.Proofs.Flow.Entries

/-!
# What a call touches

A refused call leaves the store as it was. An accepted one touches the document of its own flow, and
only two kinds of calls touch an entry of a reference besides: a start writes the one of its
reference, and a clearing removes the one of its flow's reference if it still leads to the flow.
To end a flow again as it has ended, or to clear it again, changes nothing.
-/

namespace Intake

namespace Flow

/-- Whether two stores hold the same under every key but some. -/
def SameBut (keys : List String) (before after : Store) : Prop :=
  ∀ key, key ∉ keys → after.get? key = before.get? key

/-- A call in a store touches no more than it is about, and a repetition of it touches nothing. -/
structure Contained (call : Call) (store : Store) : Prop where
  refused : ∀ error, (call.run store).1 = .error error → (call.run store).2 = store
  started : ∀ freshId instructions, call.operation = .start freshId instructions →
    SameBut [stateKey call.flowId, referenceKey instructions.referenceId] store (call.run store).2
  /-- A write, and the end of a flow. -/
  written : call.operation.replaces = false →
    SameBut [stateKey call.flowId] store (call.run store).2
  ended : ∀ flowId, call.operation = .complete flowId ∨ call.operation = .cancel flowId →
    ∀ answer, (call.run store).1 = .ok answer →
      ∀ later, Call.run ⟨later, call.operation⟩ (call.run store).2 =
        (.ok answer, (call.run store).2)
  cleared : ∀ flowId, call.operation = .clear flowId →
    (call.run store).2.get? (stateKey flowId) = none ∧
    (∃ referenceId,
      SameBut [stateKey flowId, referenceKey referenceId] store (call.run store).2 ∧
      ((call.run store).2.get? (referenceKey referenceId) =
          store.get? (referenceKey referenceId) ∨
        store.get? (referenceKey referenceId) = some (.text flowId) ∧
          (call.run store).2.get? (referenceKey referenceId) = none)) ∧
    ∀ later, (Call.run ⟨later, call.operation⟩ (call.run store).2).2 = (call.run store).2

section Frame

variable {store : Store} (consistent : Consistent store) {call : Call} (valid : call.Valid)

include consistent valid

/-- A key is left alone that is not the one of the call's flow, and not of an entry which the call
changes. -/
theorem get?_run_of_left {key : String} (foreign : key ≠ stateKey call.flowId)
    (left : ∀ referenceId, key = referenceKey referenceId →
      call.entryAfter (state? store call.flowId) referenceId (store.get? key) = store.get? key) :
    (call.run store).2.get? key = store.get? key := by
  have follows := run_follows consistent valid
  by_cases ofFlow : ∃ flowId, key = stateKey flowId
  · obtain ⟨flowId, rfl⟩ := ofFlow
    rw [follows.consistent.get?_stateKey_eq_iff consistent, follows.states, if_neg]
    exact fun same => foreign (stateKey_inj.2 same)
  · by_cases ofReference : ∃ referenceId, key = referenceKey referenceId
    · obtain ⟨referenceId, rfl⟩ := ofReference
      rw [get?_referenceKey_run, left referenceId rfl]
    · exact get?_run_of_ne call store (not_exists.1 ofFlow) (not_exists.1 ofReference)

theorem sameBut_of_lasting (lasting : call.operation.replaces = false) :
    SameBut [stateKey call.flowId] store (call.run store).2 := by
  intro key untouched
  apply get?_run_of_left consistent valid (by simpa using untouched)
  exact fun referenceId _ => entryAfter_of_lasting lasting _ referenceId _

theorem sameBut_of_start {freshId : String} {instructions : Instructions}
    (asked : call.operation = .start freshId instructions) :
    SameBut [stateKey call.flowId, referenceKey instructions.referenceId] store
      (call.run store).2 := by
  obtain ⟨now, operation⟩ := call
  obtain rfl : operation = .start freshId instructions := asked
  intro key untouched
  simp only [List.mem_cons, List.not_mem_nil, or_false, not_or] at untouched
  apply get?_run_of_left consistent valid untouched.1
  rintro referenceId rfl
  exact entryAfter_start_of_not _ (fun claims => untouched.2 (by rw [claims.2])) _

/-- A clearing touches the entry of one reference at most: that of the flow's own. -/
theorem sameBut_of_clear {flowId : String} (asked : call.operation = .clear flowId) :
    ∃ referenceId,
      SameBut [stateKey flowId, referenceKey referenceId] store (call.run store).2 ∧
      ((call.run store).2.get? (referenceKey referenceId) =
          store.get? (referenceKey referenceId) ∨
        store.get? (referenceKey referenceId) = some (.text flowId) ∧
          (call.run store).2.get? (referenceKey referenceId) = none) := by
  obtain ⟨now, operation⟩ := call
  obtain rfl : operation = .clear flowId := asked
  refine ⟨((state? store flowId).map FlowState.referenceId).getD "", ?_, ?_⟩
  · intro key untouched
    simp only [List.mem_cons, List.not_mem_nil, or_false, not_or] at untouched
    apply get?_run_of_left consistent valid untouched.1
    rintro referenceId rfl
    refine if_neg fun removes => untouched.2 ?_
    have own : (state? store flowId).map FlowState.referenceId = some referenceId := removes.1
    rw [own, Option.getD_some]
  · rw [get?_referenceKey_run]
    simp only [Call.entryAfter]
    split
    · next removes => exact Or.inr ⟨removes.2, rfl⟩
    · exact Or.inl rfl

end Frame

theorem finish_of_ended {store : Store} {flowId : String} {state : FlowState}
    (kept : state? store flowId = some state) (later : Timestamp) :
    finish store later flowId state.status = .ok (state, store) := by
  simp only [finish, load, kept, ↓reduceIte]

/-- A flow that was ended is kept in the state that was answered, so that ending it so again
answers that state and writes nothing. -/
theorem finish_again {store after : Store} (consistent : Consistent store) {now : Timestamp}
    (valid : now.Valid) {flowId : String} {status : FlowStatus} {answer : Option FlowState}
    (accepted : settle store (finish store now flowId status) = (.ok answer, after))
    (later : Timestamp) :
    settle after (finish after later flowId status) = (.ok answer, after) := by
  have follows := finish_follows consistent valid flowId status
  rw [accepted] at follows
  have answered := follows.answer
  have kept := follows.states flowId
  rw [if_pos rfl] at kept
  cases found : state? store flowId with
  | none => simp [found, reactFinish] at answered
  | some state =>
    rw [found] at answered kept
    obtain ⟨final, rfl, same, outcome⟩ : ∃ final : FlowState, answer = some final ∧
        final.status = status ∧ (reactFinish flowId now status (some state)).2 = some final := by
      rcases reactFinish_cases flowId now status state with
        ⟨error, refused⟩ | ⟨same, repeated⟩ | ⟨active, ended⟩
      · simp [refused] at answered
      · exact ⟨state, by simpa [repeated] using answered, same, by rw [repeated]⟩
      · exact ⟨_, by simpa [ended] using answered, rfl, by rw [ended]⟩
    rw [← same, finish_of_ended (kept.trans outcome) later]
    rfl

theorem get?_stateKey_clear (store : Store) (flowId : String) :
    (clear store flowId).get? (stateKey flowId) = none := by
  simp [clear]

theorem clear_clear (store : Store) (flowId : String) :
    clear (clear store flowId) flowId = clear store flowId := by
  have gone : state? (clear store flowId) flowId = none := by simp [state?_clear]
  have left : forgetReference (clear store flowId) flowId = clear store flowId := by
    simp only [forgetReference, gone]
  apply Store.ext
  intro key
  rw [clear, left, Store.get?_forget]
  split
  · next same => rw [same, get?_stateKey_clear]
  · rfl

/-- Every call in a store that a run on an empty one can reach touches no more than it is about. -/
theorem contained_of_reached {calls : List Call} (reached : ∀ call ∈ calls, call.Valid)
    {call : Call} (valid : call.Valid) : Contained call (storeAfter {} calls) := by
  have consistent := Consistent.empty.storeAfter reached
  refine
    { refused := fun error refused => run_of_refused (by rw [refused]; rfl)
      started := fun freshId instructions => sameBut_of_start consistent valid
      written := sameBut_of_lasting consistent valid
      ended := ?_
      cleared := ?_ }
  · obtain ⟨now, operation⟩ := call
    intro flowId asked answer accepted later
    rcases asked with rfl | rfl
    · exact finish_again consistent valid.now (Prod.ext accepted rfl) later
    · exact finish_again consistent valid.now (Prod.ext accepted rfl) later
  · intro flowId asked
    have touched := sameBut_of_clear consistent valid asked
    obtain ⟨now, operation⟩ := call
    obtain rfl : operation = .clear flowId := asked
    exact ⟨get?_stateKey_clear _ flowId, touched, fun later => clear_clear _ flowId⟩

/-- The survey that has claimed the reference of both is cleared. -/
theorem contained_shared_surveys :
    Contained ⟨⟨60, 0⟩, .clear "survey-2"⟩
      (storeAfter {}
        [⟨⟨0, 0⟩, .start "survey-1" surveyInstructions⟩,
          ⟨⟨1, 0⟩, .start "survey-2" surveyInstructions⟩]) := by
  have reached : ∀ call ∈ [⟨⟨0, 0⟩, .start "survey-1" surveyInstructions⟩,
      ⟨⟨1, 0⟩, .start "survey-2" surveyInstructions⟩], Call.Valid call := by
    simp only [List.forall_mem_cons]
    refine ⟨⟨by decide, by decide⟩, ⟨by decide, by decide⟩, by simp⟩
  exact contained_of_reached reached ⟨by decide, by decide⟩

end Flow

end Intake
