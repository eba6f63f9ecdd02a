import Intake.Proofs.Flow.History

/-!
# The fields of a stored state in closed form

A replay of writes is read off field by field: the completed steps are the indexes in the order of
their first writes, the data of a step is that of its last write, and the due step ends the longest
run of steps that were written in order. With `chronicled_storeAfter` this tells every field of a
stored state from the calls that were accepted for its flow.
-/

namespace Intake

namespace Flow

/-- The last of some writes that is made to a step. -/
def lastWrite? (index : Nat) (writes : List Write) : Option Write :=
  (writes.filter fun write => write.index == index).getLast?

theorem lastWrite?_concat (index : Nat) (past : List Write) (write : Write) :
    lastWrite? index (past ++ [write]) =
      if write.index = index then some write else lastWrite? index past := by
  by_cases same : write.index = index
  · simp [lastWrite?, same]
  · simp [lastWrite?, same]

theorem namedData_recordedName? {first second : FlowState}
    (same : first.instructions = second.instructions) (write : Write) :
    namedData write.data (recordedName? first write.index write.name) =
      namedData write.data (recordedName? second write.index write.name) := by
  simp only [recordedName?, same]

private theorem eraseDups_concat (past : List Nat) (index : Nat) :
    (past ++ [index]).eraseDups =
      if index ∈ past then past.eraseDups else past.eraseDups ++ [index] := by
  rw [List.eraseDups_append]
  split
  · next known => simp [List.removeAll, known]
  · next new => simp [List.removeAll, new, List.eraseDups_cons]

section Replay

variable {state : FlowState} (past : List Write)

theorem completedSteps_replay (fresh : state.completedSteps = []) :
    (replay state past).completedSteps = (past.map Write.index).eraseDups := by
  induction past using List.reverseRecOn with
  | nil => simpa [replay] using fresh
  | append_singleton past write ih =>
    have members : write.index ∈ (replay state past).completedSteps ↔
        write.index ∈ past.map Write.index := by
      rw [ih, List.mem_eraseDups]
    rw [replay_concat, List.map_append, List.map_cons, List.map_nil, eraseDups_concat, ← ih]
    simp only [recorded, members]

theorem keys_replay (fresh : state.collectedData = []) (index : Nat) :
    index ∈ (replay state past).collectedData.map Prod.fst ↔ index ∈ past.map Write.index := by
  induction past using List.reverseRecOn with
  | nil => simp [replay, fresh]
  | append_singleton past write ih =>
    rw [replay_concat, List.map_append, List.mem_append, ← ih]
    simp only [recorded, CollectedData.mem_keys_insert, List.map_cons, List.map_nil,
      List.mem_singleton]
    exact or_comm

theorem distinct_replay (fresh : state.collectedData = []) :
    ((replay state past).collectedData.map Prod.fst).Nodup := by
  have ordered : (replay state past).collectedData.Pairwise
      fun left right => left.1 < right.1 := by
    induction past using List.reverseRecOn with
    | nil => simp [replay, fresh]
    | append_singleton past write ih =>
      rw [replay_concat]
      exact CollectedData.ordered_insert ih
  exact List.pairwise_map.2 (ordered.imp Nat.ne_of_lt)

theorem stepData?_replay (fresh : state.collectedData = []) (index : Nat) :
    (replay state past).stepData? index =
      (lastWrite? index past).map fun write =>
        namedData write.data (recordedName? state index write.name) := by
  induction past using List.reverseRecOn with
  | nil => simp [replay, fresh, FlowState.stepData?, CollectedData.get?, lastWrite?]
  | append_singleton past write ih =>
    have name := namedData_recordedName? (replay_frame state past).1 write
    rw [FlowState.stepData?] at ih
    rw [replay_concat, lastWrite?_concat, FlowState.stepData?, recorded, name,
      CollectedData.get?_insert, ih]
    by_cases same : write.index = index
    · simp [same]
    · simp [same]

theorem revision_replay : (replay state past).revision = state.revision + past.length := by
  induction past using List.reverseRecOn with
  | nil => rfl
  | append_singleton past write ih =>
    rw [replay_concat, List.length_append, recorded, ih]
    rfl

/-- The due step ends a run of steps that were written in order, and it is the longest such run: the
first step that breaks it would have moved the due step on. -/
theorem currentStep_replay (fresh : state.currentStep = 0) :
    IsGreatest {count | (List.range count).Sublist (past.map Write.index)}
      (replay state past).currentStep := by
  induction past using List.reverseRecOn with
  | nil =>
    constructor
    · simp [replay, fresh]
    · intro count run
      simpa [replay, fresh] using run
  | append_singleton past write ih =>
    obtain ⟨run, longest⟩ := ih
    rw [replay_concat, List.map_append, List.map_cons, List.map_nil]
    -- A run over one more write either does without it or ends with it.
    have shorter : ∀ count, (List.range count).Sublist (past.map Write.index ++ [write.index]) →
        (List.range count).Sublist (past.map Write.index) ∨
          count = write.index + 1 ∧ (List.range write.index).Sublist (past.map Write.index) := by
      intro count extended
      obtain ⟨front, back, split, inFront, inBack⟩ := List.sublist_append_iff.1 extended
      rcases List.sublist_singleton.1 inBack with rfl | rfl
      · rw [List.append_nil] at split
        exact Or.inl (split ▸ inFront)
      · cases count with
        | zero => simp at split
        | succ count =>
          rw [List.range_succ] at split
          obtain ⟨rfl, last⟩ := List.append_inj' split rfl
          obtain rfl := List.singleton_inj.1 last
          exact Or.inr ⟨rfl, inFront⟩
    by_cases due : (replay state past).currentStep = write.index
    · have moved : (recorded (replay state past) write.now write.index write.data
          write.name).currentStep = write.index + 1 := by
        simp [recorded, due]
      rw [moved]
      constructor
      · rw [Set.mem_ofPred_eq, List.range_succ]
        exact List.Sublist.append (due ▸ run) (List.Sublist.refl _)
      · intro count extended
        rcases shorter count extended with inPast | ⟨rfl, -⟩
        · exact Nat.le_succ_of_le (due ▸ longest inPast)
        · exact Nat.le_refl _
    · have stayed : (recorded (replay state past) write.now write.index write.data
          write.name).currentStep = (replay state past).currentStep := by
        simp [recorded, due]
      rw [stayed]
      constructor
      · exact run.trans (List.sublist_append_left _ _)
      · intro count extended
        rcases shorter count extended with inPast | ⟨rfl, before⟩
        · exact longest inPast
        · exact Nat.lt_of_le_of_ne (longest before) (Ne.symm due)

end Replay

/-- A state whose progress is that of some writes and that has ended as told. -/
structure Records (past : List Write) (ending : Option (Timestamp × FlowStatus))
    (state : FlowState) : Prop where
  completedSteps : state.completedSteps = (past.map Write.index).eraseDups
  distinct : (state.collectedData.map Prod.fst).Nodup
  keys : ∀ index, index ∈ state.collectedData.map Prod.fst ↔ index ∈ past.map Write.index
  data : ∀ index, state.stepData? index =
    (lastWrite? index past).map fun write =>
      namedData write.data (recordedName? state index write.name)
  currentStep :
    IsGreatest {count | (List.range count).Sublist (past.map Write.index)} state.currentStep
  revision : state.revision = past.length + if ending.isSome then 1 else 0
  status : state.status = (ending.map Prod.snd).getD .active
  completedAt : state.completedAt.isSome ↔ state.status = .completed
  cancelledAt : state.cancelledAt.isSome ↔ state.status = .cancelled

theorem records_replay (now : Timestamp) (flowId : String) (instructions : Instructions)
    (past : List Write) :
    Records past none (replay (initialState now flowId instructions) past) := by
  obtain ⟨sameInstructions, status, completedAt, cancelledAt⟩ :=
    replay_frame (initialState now flowId instructions) past
  constructor
  case completedSteps => exact completedSteps_replay past rfl
  case distinct => exact distinct_replay past rfl
  case keys => exact keys_replay past rfl
  case data =>
    intro index
    rw [stepData?_replay past rfl]
    simp only [recordedName?, sameInstructions]
  case currentStep => exact currentStep_replay past rfl
  case revision => simp [revision_replay, initialState]
  case status => exact status
  case completedAt =>
    rw [status, completedAt]
    simp [initialState]
  case cancelledAt =>
    rw [status, cancelledAt]
    simp [initialState]

/-- The end of a flow is written on top of its progress. -/
theorem Records.ended {past : List Write} {state : FlowState} (records : Records past none state)
    (active : state.completedAt = none ∧ state.cancelledAt = none) (now : Timestamp)
    {status : FlowStatus} (terminal : status.isTerminal = true) :
    Records past (some (now, status)) (ended state now status) where
  completedSteps := records.completedSteps
  distinct := records.distinct
  keys := records.keys
  data := records.data
  currentStep := records.currentStep
  revision := by simp [Flow.ended, records.revision]
  status := rfl
  completedAt := by
    cases status with
    | active => simp [FlowStatus.isTerminal] at terminal
    | completed => simp [Flow.ended]
    | cancelled => simp [Flow.ended, active.1]
  cancelledAt := by
    cases status with
    | active => simp [FlowStatus.isTerminal] at terminal
    | completed => simp [Flow.ended, active.2]
    | cancelled => simp [Flow.ended]

/-- Whatever calls were made on an empty store, a document that it keeps for a flow is that of a
state which records the writes that were accepted since the flow was last started. -/
theorem records_of_kept {calls : List Call} (valid : ∀ call ∈ calls, call.Valid)
    {flowId : String} {document : Value}
    (kept : (storeAfter {} calls).get? (stateKey flowId) = some document) :
    ∃ state started instructions,
      document = state.toValue ∧ state? (storeAfter {} calls) flowId = some state ∧
      lastStart? flowId (events {} calls) = some (started, instructions) ∧
      state.instructions = { instructions with flowId := some flowId } ∧
      Records (writes flowId (events {} calls)) (ending? flowId (events {} calls)) state := by
  obtain ⟨state, sound, same, rfl⟩ := Consistent.empty.storeAfter valid flowId document kept
  have found : state? (storeAfter {} calls) flowId = some state :=
    (Consistent.empty.storeAfter valid).state?_eq_some.2 ⟨sound, same, kept⟩
  obtain ⟨started, instructions, lastStart, made⟩ :=
    chronicled_storeAfter valid flowId state found
  have frame := replay_frame (initialState started flowId instructions)
    (writes flowId (events {} calls))
  have records := records_replay started flowId instructions (writes flowId (events {} calls))
  refine ⟨state, started, instructions, rfl, found, lastStart, ?_, ?_⟩
  · rw [made]
    cases ending? flowId (events {} calls) <;> exact frame.1
  · rw [made]
    cases ending : ending? flowId (events {} calls) with
    | none => exact records
    | some finish =>
      exact records.ended ⟨frame.2.2.1, frame.2.2.2⟩ finish.1 (isTerminal_of_ending? ending)

/-- A survey that is answered out of order, with a second answer to its last step. -/
def surveyCalls : List Call :=
  [⟨⟨0, 0⟩, .start "survey-1" surveyInstructions⟩,
    ⟨⟨60, 0⟩, .update "survey-1" 1 [("size", .text "S")] none⟩,
    ⟨⟨61, 0⟩, .update "survey-1" 0 [("name", .text "A. Reader")] none⟩,
    ⟨⟨62, 0⟩, .updateChecked "survey-1" 1 [("size", .text "M")] (some "size") 2⟩,
    ⟨⟨63, 0⟩, .updateChecked "survey-1" 1 [("size", .text "L")] none 2⟩,
    ⟨⟨64, 0⟩, .complete "survey-1"⟩]

theorem records_of_kept_survey :
    ∃ document, (storeAfter {} surveyCalls).get? (stateKey "survey-1") = some document ∧
      ∃ state started instructions,
        document = state.toValue ∧ state? (storeAfter {} surveyCalls) "survey-1" = some state ∧
        lastStart? "survey-1" (events {} surveyCalls) = some (started, instructions) ∧
        state.instructions = { instructions with flowId := some "survey-1" } ∧
        Records (writes "survey-1" (events {} surveyCalls))
          (ending? "survey-1" (events {} surveyCalls)) state := by
  have valid : ∀ call ∈ surveyCalls, call.Valid := by
    simp only [surveyCalls, List.forall_mem_cons]
    refine ⟨⟨by decide, by decide⟩, ⟨by decide, by decide⟩, ⟨by decide, by decide⟩,
      ⟨by decide, by decide⟩, ⟨by decide, by decide⟩, ⟨by decide, by decide⟩, by simp⟩
  have isKept : ((storeAfter {} surveyCalls).get? (stateKey "survey-1")).isSome = true := by
    rw [← (Consistent.empty.storeAfter valid).state?_isSome,
      state?_storeAfter Consistent.empty valid]
    rfl
  obtain ⟨document, kept⟩ := Option.isSome_iff_exists.1 isKept
  exact ⟨document, kept, records_of_kept valid kept⟩

end Flow

end Intake
