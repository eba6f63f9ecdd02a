import Intake.Proofs.Flow.Document
import Intake.Proofs.Mapping.Filters

/-!
# Documents accepted again

Instructions and states survive being written and read, and what a driver makes for the target of
flow instructions is the document of instructions: the target accepts its own answers and leaves
them as they are. So reading the answer of a driver as instructions never fails where the driver
did not.
-/

namespace Intake

namespace FlowState

/-- The names under which the document of a state holds the data of its steps. -/
def collectedNames? (state : FlowState) : Option (List String) :=
  ((state.toValue.field? "collected_data").bind Value.object?).map Fields.names

theorem collectedNames?_eq (state : FlowState) :
    state.collectedNames? = some (state.collectedData.map fun entry =>
      String.ofList (Decimal.digits entry.1)) := by
  have found : state.toValue.field? "collected_data" =
      some (CollectedData.toValue state.collectedData) := rfl
  rw [collectedNames?, found]
  simp [CollectedData.toValue, Value.object?, Fields.names, Function.comp_def]

/-- The data of the steps is written in the numeric order of their indexes. -/
theorem collectedNames?_of_sound {state : FlowState} (sound : state.Sound) :
    ∃ indexes : List Nat, indexes.Pairwise (· < ·) ∧
      state.collectedNames? =
        some (indexes.map fun index => String.ofList (Decimal.digits index)) := by
  refine ⟨state.collectedData.map Prod.fst, List.pairwise_map.2 sound.ordered, ?_⟩
  rw [collectedNames?_eq, List.map_map]
  rfl

end FlowState

namespace Target

theorem instructions_eq_ok_iff {document built : Value} :
    instructions document = .ok built ↔
      ∃ read, Instructions.ofValue? document = some read ∧ built = read.toValue := by
  unfold instructions
  cases Instructions.ofValue? document with
  | none => simp
  | some read => simp [eq_comm]

theorem instructions_toValue (made : Instructions) :
    instructions made.toValue = .ok made.toValue :=
  instructions_eq_ok_iff.2 ⟨made, made.ofValue?_toValue, rfl⟩

theorem instructions_again {document built : Value} (accepted : instructions document = .ok built) :
    instructions built = .ok built := by
  obtain ⟨read, -, rfl⟩ := instructions_eq_ok_iff.1 accepted
  exact instructions_toValue read

end Target

namespace TargetTable

/-- The target of flow instructions may be qualified in any way. -/
theorem resolve?_builtin {name : String}
    (short : Identifier.shortName name.toList = Target.instructionsName.toList) :
    builtin.resolve? name = some Target.instructions := by
  have known : Fields.get? Target.instructionsName builtin = some Target.instructions := rfl
  rw [resolve?, short, String.ofList_toList, known]
  by_cases same : Target.instructionsName = name
  · rw [← same, known]
  · have unknown : Fields.get? name builtin = none := by simp [builtin, Fields.get?, same]
    rw [unknown]

end TargetTable

namespace Engine

variable (engine : Engine) {driver : Driver}

section Resolved

variable (resolved : engine.targets.resolve? driver.target = some Target.instructions)
include resolved

theorem exists_instructions_of_transform {source document : Value}
    (answered : engine.transform driver source = .ok (some document)) :
    ∃ made : Instructions, document = made.toValue := by
  rw [engine.transform_of_resolved resolved] at answered
  split at answered
  · cases answered
  · cases built : Target.instructions (.object (engine.targetRecord driver source)) with
    | error fault =>
      rw [built] at answered
      cases answered
    | ok value =>
      rw [built] at answered
      cases answered
      obtain ⟨made, -, written⟩ := Target.instructions_eq_ok_iff.1 built
      exact ⟨made, written⟩

theorem transform_of_instructions (source : Value) :
    engine.transform driver source =
      (engine.transformInstructions driver source).map (Option.map Instructions.toValue) := by
  rw [transformInstructions]
  cases answered : engine.transform driver source with
  | error fault => rfl
  | ok answer =>
    cases answer with
    | none => rfl
    | some document =>
      obtain ⟨made, rfl⟩ := engine.exists_instructions_of_transform resolved answered
      simp only [bind, Except.bind, made.ofValue?_toValue]
      rfl

end Resolved

/-- Instructions and states read back from their documents as they were, with the data of a state
in the numeric order of the steps; whatever is read as a state is one that reads back. What the
target of flow instructions answers, it accepts and answers again. So what a driver with that target
answers as instructions is what it answers as a document, and fails only where that fails. -/
theorem documents_accepted_again :
    (∀ instructions : Instructions,
        Instructions.ofValue? instructions.toValue = some instructions) ∧
      (∀ state : FlowState, state.Sound →
        FlowState.ofValue? state.toValue = some state ∧
          ∃ indexes : List Nat, indexes.Pairwise (· < ·) ∧
            state.collectedNames? =
              some (indexes.map fun index => String.ofList (Decimal.digits index))) ∧
      (∀ document state, FlowState.ofValue? document = some state → state.Sound) ∧
      (∀ document built, Target.instructions document = .ok built →
        Target.instructions built = .ok built) ∧
      ∀ driver source, engine.targets.resolve? driver.target = some Target.instructions →
        engine.transform driver source =
          (engine.transformInstructions driver source).map (Option.map Instructions.toValue) := by
  refine ⟨Instructions.ofValue?_toValue, ?_, ?_, ?_, ?_⟩
  · intro state sound
    exact ⟨FlowState.ofValue?_toValue sound, FlowState.collectedNames?_of_sound sound⟩
  · intro document state
    exact FlowState.sound_of_ofValue?
  · intro document built
    exact Target.instructions_again
  · intro driver source resolved
    exact engine.transform_of_instructions resolved source

/-- A state with data for its third and its eleventh step. -/
def orderState : FlowState :=
  { flowId := "flow-1", referenceId := "order-1"
    instructions := { referenceId := "order-1", steps := [⟨"form", []⟩] }
    collectedData := [(2, [("_step_name", .text "kyc")]), (10, [])]
    startedAt := ⟨1767323045, 500000000⟩ }

theorem sound_orderState : orderState.Sound where
  started := by decide +kernel
  updated := by simp [orderState]
  completed := by simp [orderState]
  cancelled := by simp [orderState]
  ordered := by decide
  fits := by decide

/-- A driver that makes the instructions of one step, under a qualified target. -/
def orderDriver : Driver :=
  { name := "order", version := "1.0", source := "Order"
    target := "App\\Data\\FormFlowInstructions"
    mappings :=
      [("reference_id", .template "order-{{ source.id }}"),
        ("steps", .literal (.array [.object [("handler", .text "form")]])),
        ("title", .literal .null)]
    fingerprint := "" }

/-- The document of the instructions for the first order. -/
def orderDocument : Value :=
  .object
    [("reference_id", .text "order-1"),
      ("steps", .array [.object [("handler", .text "form"), ("config", .object [])]]),
      ("callbacks", .object [])]

theorem documents_accepted_again_order :
    orderState.Sound ∧
      FlowState.ofValue? orderState.toValue = some orderState ∧
      (∃ indexes : List Nat, indexes.Pairwise (· < ·) ∧
        orderState.collectedNames? =
          some (indexes.map fun index => String.ofList (Decimal.digits index))) ∧
      orderState.collectedNames? = some ["2", "10"] ∧
      Target.instructions (.object [("reference_id", .text "order-1"),
        ("steps", .array [.array [.text "form"]])]) = .ok orderDocument ∧
      Target.instructions orderDocument = .ok orderDocument ∧
      (({} : Engine).transformInstructions orderDriver (.object [("id", .text "1")])).map
        (Option.map Instructions.toValue) = .ok (some orderDocument) := by
  obtain ⟨-, states, sound, again, answers⟩ := documents_accepted_again {}
  have reads := (states orderState sound_orderState).1
  have accepted : Target.instructions (.object [("reference_id", .text "order-1"),
      ("steps", .array [.array [.text "form"]])]) = .ok orderDocument := by decide +kernel
  have resolved : ({} : Engine).targets.resolve? orderDriver.target = some Target.instructions :=
    TargetTable.resolve?_builtin (by decide)
  refine ⟨sound _ _ reads, reads, (states orderState sound_orderState).2, by decide +kernel,
    accepted, again _ _ accepted, ?_⟩
  rw [← answers orderDriver _ resolved]
  decide +kernel

end Engine

end Intake
