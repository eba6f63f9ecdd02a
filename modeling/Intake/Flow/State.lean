import Intake.Flow.Instructions
import Intake.Json.Numeral
import Intake.Time.Reader

/-!
# Flow states

How far a flow has come: the step that is due, the steps that were completed in the order of their
first completion, the data collected for each step, and when it was started, changed and ended. A
state is kept as a document and reads back from it as it was.
-/

namespace Intake

/-- Whether a flow is going on or has ended. -/
inductive FlowStatus where
  | active
  | completed
  | cancelled
deriving DecidableEq, Repr

namespace FlowStatus

def name : FlowStatus → String
  | active => "active"
  | completed => "completed"
  | cancelled => "cancelled"

def ofName? (name : String) : Option FlowStatus :=
  [active, completed, cancelled].find? fun status => status.name == name

def isTerminal : FlowStatus → Bool
  | active => false
  | _ => true

/-- The status that a document writes: its word, or an object with that word and null. -/
def ofValue? : Value → Option FlowStatus
  | .text name => ofName? name
  | .object [(name, .null)] => ofName? name
  | _ => none

end FlowStatus

/-- Data by step index, in the order of the indexes. -/
abbrev CollectedData := List (Nat × Fields Value)

namespace CollectedData

def get? (index : Nat) : CollectedData → Option (Fields Value)
  | [] => none
  | (key, content) :: rest => if key = index then some content else get? index rest

/-- The data with that of one step written. -/
def insert (index : Nat) (content : Fields Value) : CollectedData → CollectedData
  | [] => [(index, content)]
  | (key, old) :: rest =>
    if index < key then (index, content) :: (key, old) :: rest
    else if key = index then (index, content) :: rest
    else (key, old) :: insert index content rest

/-- The step index that a key writes: an integer without needless zeros. -/
def keyIndex? (key : String) : Option Nat :=
  match JsonNumeral.take? key.toList with
  | some (numeral, []) =>
    match JsonNumeral.number? numeral with
    | some (.integer value) => if 0 ≤ value then some value.toNat else none
    | _ => none
  | _ => none

/-- The data that an object's fields write, added to what is there. -/
def readFields? (written : CollectedData) : List (String × Value) → Option CollectedData
  | [] => some written
  | (key, value) :: rest => do
    let index ← keyIndex? key
    let content ← value.object?
    readFields? (insert index content written) rest

def ofValue? (value : Value) : Option CollectedData :=
  value.object?.bind (readFields? [])

def toValue (collected : CollectedData) : Value :=
  .object (collected.map fun entry =>
    (String.ofList (Decimal.digits entry.1), .object entry.2))

end CollectedData

structure FlowState where
  flowId : String
  referenceId : String
  instructions : Instructions
  currentStep : Nat := 0
  completedSteps : List Nat := []
  collectedData : CollectedData := []
  status : FlowStatus := .active
  /-- How often the state was written since the flow was started. -/
  revision : Nat := 0
  startedAt : Timestamp
  updatedAt : Option Timestamp := none
  completedAt : Option Timestamp := none
  cancelledAt : Option Timestamp := none

namespace FlowState

/-- The field of a step's data that holds the step's name. -/
def stepNameKey : String := "_step_name"

def isComplete (state : FlowState) : Bool :=
  state.status == .completed

def totalSteps (state : FlowState) : Nat :=
  state.instructions.steps.length

def stepData? (state : FlowState) (index : Nat) : Option (Fields Value) :=
  CollectedData.get? index state.collectedData

/-- The first step whose data carries a name, with its data. -/
def findStep? (state : FlowState) (name : String) : Option (Nat × Fields Value) :=
  state.collectedData.find? fun entry =>
    (Fields.get? stepNameKey entry.2).bind Value.text? == some name

def fieldNames : List String :=
  ["flow_id", "reference_id", "instructions", "current_step", "completed_steps",
    "collected_data", "status", "revision", "started_at", "updated_at", "completed_at",
    "cancelled_at"]

/-- The moment that a document writes. -/
def readTime? (value : Value) : Option Timestamp :=
  value.text?.bind fun content => Timestamp.read? content.toList

def ofValue? (value : Value) : Option FlowState := do
  let content ← Record.contents? fieldNames value
  let flowId ← Record.required Value.text? (content "flow_id")
  let referenceId ← Record.required Value.text? (content "reference_id")
  let instructions ← Record.required Instructions.ofValue? (content "instructions")
  let currentStep ← Record.required Record.natural? (content "current_step")
  let completedSteps ← Record.required (Record.listOf? Record.natural?) (content "completed_steps")
  let collectedData ← Record.required CollectedData.ofValue? (content "collected_data")
  let status ← Record.required FlowStatus.ofValue? (content "status")
  let revision ← Record.defaulted 0 Record.natural? (content "revision")
  let startedAt ← Record.required readTime? (content "started_at")
  let updatedAt ← Record.optional readTime? (content "updated_at")
  let completedAt ← Record.optional readTime? (content "completed_at")
  let cancelledAt ← Record.optional readTime? (content "cancelled_at")
  return {
    flowId, referenceId, instructions, currentStep, completedSteps, collectedData, status,
    revision, startedAt, updatedAt, completedAt, cancelledAt }

def timeValue (time : Timestamp) : Value :=
  .ofChars time.zuluText

/-- A state as a document; moments that have not come are left out. -/
def toValue (state : FlowState) : Value :=
  .object
    ([("flow_id", .text state.flowId),
      ("reference_id", .text state.referenceId),
      ("instructions", state.instructions.toValue),
      ("current_step", .ofNat state.currentStep),
      ("completed_steps", .array (state.completedSteps.map Value.ofNat)),
      ("collected_data", CollectedData.toValue state.collectedData),
      ("status", .text state.status.name),
      ("revision", .ofNat state.revision),
      ("started_at", timeValue state.startedAt)] ++
      Record.fieldOf "updated_at" (state.updatedAt.map timeValue) ++
      Record.fieldOf "completed_at" (state.completedAt.map timeValue) ++
      Record.fieldOf "cancelled_at" (state.cancelledAt.map timeValue))

end FlowState

end Intake
