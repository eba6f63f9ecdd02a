import Intake.Proofs.Flow.Progress

/-!
# The names of recorded steps

With the data of a step stands the name that its last write recorded: the one given with the write,
or else the one that the instructions have for the step. A write that records no name leaves under
the same key whatever its data brought along, which from then on counts as the name of the step. So
a step is found exactly by the names that were recorded if no last write brought along one of its
own.
-/

namespace Intake

namespace CollectedData

theorem get?_eq_some_iff {index : Nat} {data : Fields Value} {collected : CollectedData}
    (ordered : collected.Pairwise fun left right => left.1 < right.1) :
    get? index collected = some data ↔ (index, data) ∈ collected := by
  induction collected with
  | nil => simp [get?]
  | cons entry rest ih =>
    obtain ⟨key, old⟩ := entry
    obtain ⟨below, restOrdered⟩ := List.pairwise_cons.1 ordered
    rw [get?, List.mem_cons, Prod.mk.injEq]
    by_cases same : key = index
    · subst same
      have fresh : (key, data) ∉ rest := fun member => Nat.lt_irrefl key (below _ member)
      simp [fresh, eq_comm]
    · simp [same, Ne.symm same, ih restOrdered]

/-- The first data that pass a test are those of the least index with such data. -/
theorem find?_eq_some_iff_isLeast {collected : CollectedData}
    (ordered : collected.Pairwise fun left right => left.1 < right.1) (test : Fields Value → Bool)
    {index : Nat} {data : Fields Value} :
    collected.find? (fun entry => test entry.2) = some (index, data) ↔
      get? index collected = some data ∧
        IsLeast {place | ∃ content ∈ get? place collected, test content = true} index := by
  simp only [Option.mem_def, get?_eq_some_iff ordered]
  rw [List.find?_eq_some_iff_append]
  constructor
  · rintro ⟨passes, earlier, later, rfl, others⟩
    have member : (index, data) ∈ earlier ++ (index, data) :: later := by simp
    refine ⟨member, ⟨data, member, passes⟩, ?_⟩
    rintro place ⟨content, inside, alsoPasses⟩
    rcases List.mem_append.1 inside with before | fromHere
    · have fails := others _ before
      simp [alsoPasses] at fails
    · rcases List.mem_cons.1 fromHere with same | after
      · exact (Prod.mk.inj same).1.ge
      · have behind := (List.pairwise_append.1 ordered).2.1
        exact Nat.le_of_lt ((List.pairwise_cons.1 behind).1 _ after)
  · rintro ⟨member, ⟨content, inside, passes⟩, least⟩
    rw [← get?_eq_some_iff ordered] at member inside
    obtain rfl : data = content := Option.some.inj (member.symm.trans inside)
    rw [get?_eq_some_iff ordered] at member
    obtain ⟨earlier, later, rfl⟩ := List.append_of_mem member
    refine ⟨passes, earlier, later, rfl, ?_⟩
    rintro ⟨place, content⟩ before
    have smaller : place < index :=
      (List.pairwise_append.1 ordered).2.2 _ before _ List.mem_cons_self
    rw [Bool.not_eq_true', ← Bool.not_eq_true]
    intro alsoPasses
    have notSmaller : index ≤ place :=
      least ⟨content, List.mem_append_left _ before, alsoPasses⟩
    exact Nat.not_lt_of_ge notSmaller smaller

end CollectedData

/-- What stands under the key of the step's name in the data of a step. -/
def FlowState.nameValue? (state : FlowState) (index : Nat) : Option Value :=
  (state.stepData? index).bind (Fields.get? stepNameKey)

namespace Flow

/-- What a write leaves under the key of the step's name: the name that it records, or else what its
data bring along. -/
def nameValue? (state : FlowState) (write : Write) : Option Value :=
  ((recordedName? state write.index write.name).map Value.text).or
    (Fields.get? FlowState.stepNameKey write.data)

theorem get?_namedData (data : Fields Value) (name : Option String) :
    Fields.get? FlowState.stepNameKey (namedData data name) =
      (name.map Value.text).or (Fields.get? FlowState.stepNameKey data) := by
  cases name with
  | none => rfl
  | some name => simp [namedData]

theorem index_of_lastWrite? {index : Nat} {past : List Write} {write : Write}
    (last : lastWrite? index past = some write) : write.index = index := by
  have member := List.mem_of_getLast? last
  simpa using (List.mem_filter.1 member).2

/-- Whether the entry of every recorded step is the name that its last write records. -/
def NamesRecorded (past : List Write) (state : FlowState) : Prop :=
  ∀ index, ∀ write ∈ lastWrite? index past,
    state.nameValue? index = (recordedName? state index write.name).map Value.text

/-- Whether no last write that records no name brings along an entry of its own. -/
def NoneBrought (past : List Write) (state : FlowState) : Prop :=
  ∀ index, ∀ write ∈ lastWrite? index past, recordedName? state index write.name = none →
    Fields.get? FlowState.stepNameKey write.data = none

section Recorded

variable {past : List Write} {ending : Option (Timestamp × FlowStatus)} {state : FlowState}
  (records : Records past ending state)

include records

theorem nameValue?_of_records (index : Nat) :
    state.nameValue? index = (lastWrite? index past).bind (nameValue? state) := by
  rw [FlowState.nameValue?, records.data]
  cases last : lastWrite? index past with
  | none => rfl
  | some write =>
    have place := index_of_lastWrite? last
    simp only [Option.map_some, Option.bind_some, get?_namedData, nameValue?, place]

theorem namesRecorded_iff : NamesRecorded past state ↔ NoneBrought past state := by
  have each : ∀ index, ∀ write ∈ lastWrite? index past,
      (state.nameValue? index = (recordedName? state index write.name).map Value.text ↔
        (recordedName? state index write.name = none →
          Fields.get? FlowState.stepNameKey write.data = none)) := by
    intro index write last
    rw [nameValue?_of_records records, Option.mem_def.1 last, Option.bind_some, nameValue?,
      index_of_lastWrite? last]
    cases recordedName? state index write.name <;> simp
  constructor
  · exact fun recorded index write last => (each index write last).1 (recorded index write last)
  · exact fun clean index write last => (each index write last).2 (clean index write last)

theorem findStep?_of_records
    (ordered : state.collectedData.Pairwise fun left right => left.1 < right.1) (name : String)
    (index : Nat) (data : Fields Value) :
    state.findStep? name = some (index, data) ↔
      state.stepData? index = some data ∧
        IsLeast {place | ∃ write ∈ lastWrite? place past,
          nameValue? state write = some (.text name)} index := by
  have carries : ∀ place,
      (∃ content ∈ state.stepData? place,
        ((Fields.get? FlowState.stepNameKey content).bind Value.text? == some name) = true) ↔
        ∃ write ∈ lastWrite? place past, nameValue? state write = some (.text name) := by
    intro place
    have entry := nameValue?_of_records records place
    rw [FlowState.nameValue?] at entry
    have isText : ∀ content : Option Value,
        content.bind Value.text? = some name ↔ content = some (.text name) := by
      intro content
      rcases content with _ | (_ | _ | _ | text | _ | _) <;> simp [Value.text?]
    simp only [beq_iff_eq, isText, Option.mem_def, ← Option.bind_eq_some_iff, entry]
  rw [FlowState.findStep?, CollectedData.find?_eq_some_iff_isLeast ordered fun content =>
    (Fields.get? FlowState.stepNameKey content).bind Value.text? == some name]
  simp only [FlowState.stepData?] at carries ⊢
  simp only [carries]

end Recorded

/-- Whatever was called on an empty store, the entry of a step's name is what the last write of the
step leaves there, and a step is found by the first such entry. The entries are the recorded names
exactly if no last write brought along an entry of its own, and then a step is found by a name if it
is the first whose last write recorded it. -/
theorem stepNames_of_kept {calls : List Call} (valid : ∀ call ∈ calls, call.Valid)
    {flowId : String} {state : FlowState}
    (kept : state? (storeAfter {} calls) flowId = some state) :
    let past := writes flowId (events {} calls)
    (∀ index, state.nameValue? index = (lastWrite? index past).bind (nameValue? state)) ∧
      (NamesRecorded past state ↔ NoneBrought past state) ∧
      (∀ name index data, findStep? (storeAfter {} calls) flowId name = some (index, data) ↔
        state.stepData? index = some data ∧
          IsLeast {place | ∃ write ∈ lastWrite? place past,
            nameValue? state write = some (.text name)} index) ∧
      (NoneBrought past state →
        ∀ name index data, findStep? (storeAfter {} calls) flowId name = some (index, data) ↔
          state.stepData? index = some data ∧
            IsLeast {place | ∃ write ∈ lastWrite? place past,
              recordedName? state place write.name = some name} index) := by
  intro past
  have consistent := Consistent.empty.storeAfter valid
  obtain ⟨sound, -, document⟩ := consistent.state?_eq_some.1 kept
  obtain ⟨same, started, instructions, -, found, -, -, records⟩ := records_of_kept valid document
  obtain rfl : same = state := Option.some.inj (found.symm.trans kept)
  have finds : ∀ name index data,
      findStep? (storeAfter {} calls) flowId name = some (index, data) ↔
        same.stepData? index = some data ∧
          IsLeast {place | ∃ write ∈ lastWrite? place past,
            nameValue? same write = some (.text name)} index := by
    intro name index data
    rw [findStep?, kept, Option.bind_some]
    exact findStep?_of_records records sound.ordered name index data
  refine ⟨nameValue?_of_records records, namesRecorded_iff records, finds, ?_⟩
  intro clean name index data
  rw [finds]
  -- Without entries that were brought along, what a write leaves is the name that it records.
  have leaves : ∀ place, ∀ write ∈ lastWrite? place past,
      (nameValue? same write = some (.text name) ↔
        recordedName? same place write.name = some name) := by
    intro place write last
    rw [nameValue?, index_of_lastWrite? last]
    cases recorded : recordedName? same place write.name with
    | none => simp [clean place write last recorded]
    | some other => simp
  have places : {place | ∃ write ∈ lastWrite? place past,
      nameValue? same write = some (.text name)} =
        {place | ∃ write ∈ lastWrite? place past,
          recordedName? same place write.name = some name} := by
    ext place
    exact exists_congr fun write => and_congr_right (leaves place write)
  rw [places]

/-- A survey whose second step, which has no name, brings along the name of the first one. -/
def borrowedSurveyCalls : List Call :=
  [⟨⟨0, 0⟩, .start "survey-1" surveyInstructions⟩,
    ⟨⟨60, 0⟩, .update "survey-1" 1 [("_step_name", .text "contact")] none⟩]

/-- The survey goes on, and its second step is written once more under a name of its own. -/
def renamedSurveyCalls : List Call :=
  borrowedSurveyCalls ++
    [⟨⟨61, 0⟩, .update "survey-1" 0 [("name", .text "A. Reader")] none⟩,
      ⟨⟨62, 0⟩, .updateChecked "survey-1" 1 [("_step_name", .text "contact")] (some "size") 2⟩]

theorem valid_renamedSurveyCalls : ∀ call ∈ renamedSurveyCalls, call.Valid := by
  simp only [renamedSurveyCalls, borrowedSurveyCalls, List.cons_append, List.nil_append,
    List.forall_mem_cons]
  refine ⟨⟨by decide, by decide⟩, ⟨by decide, by decide⟩, ⟨by decide, by decide⟩,
    ⟨by decide, by decide⟩, by simp⟩

theorem stepNames_of_kept_survey :
    ∃ state, state? (storeAfter {} renamedSurveyCalls) "survey-1" = some state ∧
      NoneBrought (writes "survey-1" (events {} renamedSurveyCalls)) state ∧
      (∀ index, state.nameValue? index =
        (lastWrite? index (writes "survey-1" (events {} renamedSurveyCalls))).bind
          (nameValue? state)) ∧
      ∀ name index data,
        findStep? (storeAfter {} renamedSurveyCalls) "survey-1" name = some (index, data) ↔
          state.stepData? index = some data ∧
            IsLeast {place |
              ∃ write ∈ lastWrite? place (writes "survey-1" (events {} renamedSurveyCalls)),
                recordedName? state place write.name = some name} index := by
  have consistent := Consistent.empty
  have isKept : (state? (storeAfter {} renamedSurveyCalls) "survey-1").isSome = true := by
    rw [state?_storeAfter consistent valid_renamedSurveyCalls]
    rfl
  obtain ⟨state, kept⟩ := Option.isSome_iff_exists.1 isKept
  obtain ⟨entries, recorded, -, finds⟩ := stepNames_of_kept valid_renamedSurveyCalls kept
  have clean : NoneBrought (writes "survey-1" (events {} renamedSurveyCalls)) state := by
    rw [state?_storeAfter consistent valid_renamedSurveyCalls] at kept
    obtain rfl := Option.some.inj kept
    have past : writes "survey-1" (events {} renamedSurveyCalls) =
        [⟨⟨60, 0⟩, 1, [("_step_name", .text "contact")], none⟩,
          ⟨⟨61, 0⟩, 0, [("name", .text "A. Reader")], none⟩,
          ⟨⟨62, 0⟩, 1, [("_step_name", .text "contact")], some "size"⟩] := by
      rfl
    rw [past]
    intro index write last nameless
    -- The last write of the first step is named by the instructions, that of the second by itself.
    rcases index with _ | _ | index
    · obtain rfl := Option.some.inj last
      cases nameless
    · obtain rfl := Option.some.inj last
      cases nameless
    · simp [lastWrite?] at last
  exact ⟨state, kept, clean, entries, finds clean⟩

/-- A step that no name was recorded for is found by the name that its data brought along. -/
theorem borrowed_name_found :
    ∃ state, state? (storeAfter {} borrowedSurveyCalls) "survey-1" = some state ∧
      (∀ write ∈ writes "survey-1" (events {} borrowedSurveyCalls),
        recordedName? state write.index write.name = none) ∧
      findStep? (storeAfter {} borrowedSurveyCalls) "survey-1" "contact" =
        some (1, [("_step_name", .text "contact")]) ∧
      ¬ NamesRecorded (writes "survey-1" (events {} borrowedSurveyCalls)) state := by
  have valid : ∀ call ∈ borrowedSurveyCalls, call.Valid := fun call member =>
    valid_renamedSurveyCalls call (List.mem_append_left _ member)
  have isKept : (state? (storeAfter {} borrowedSurveyCalls) "survey-1").isSome = true := by
    rw [state?_storeAfter Consistent.empty valid]
    rfl
  obtain ⟨state, kept⟩ := Option.isSome_iff_exists.1 isKept
  refine ⟨state, kept, ?_⟩
  rw [findStep?, kept, Option.bind_some]
  rw [state?_storeAfter Consistent.empty valid] at kept
  obtain rfl := Option.some.inj kept
  have past : writes "survey-1" (events {} borrowedSurveyCalls) =
      [⟨⟨60, 0⟩, 1, [("_step_name", .text "contact")], none⟩] := by
    rfl
  rw [past]
  refine ⟨?_, by rfl, ?_⟩
  · intro write member
    rw [List.mem_singleton.1 member]
    rfl
  · intro recorded
    have entry := recorded 1 _ rfl
    cases entry

end Flow

end Intake
