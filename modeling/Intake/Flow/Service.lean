import Intake.Flow.State
import Intake.Flow.Store
import Intake.Json.Quoted

/-!
# Running flows

The operations on flows kept in a session store. Each reads the state of a flow, changes it and
writes it back, and counts the write in the state's revision. A flow that was completed or
cancelled takes no more data, and completing or cancelling it again changes nothing. The time and
the id of a new flow are given by the caller.
-/

namespace Intake

/-- Why an operation on a flow was refused. -/
inductive FlowError where
  | invalidInstructions (fault : InstructionsFault)
  | notFound (flowId : String)
  | closed (flowId : String) (status : FlowStatus)
  | stale (flowId : String) (expected actual : Nat)
deriving DecidableEq, Repr

namespace FlowError

def message : FlowError → String
  | invalidInstructions fault => "Invalid flow instructions: " ++ fault.message
  | notFound flowId => "Flow not found: " ++ flowId
  | closed flowId status => "Flow " ++ flowId ++ " is already " ++ status.name
  | stale flowId expected actual =>
    "Stale write to flow " ++ flowId ++ ": expected revision " ++ toString expected ++
      ", found " ++ toString actual

end FlowError

namespace FlowId

def lastDigits : Nat → Nat → List Char
  | 0, _ => []
  | count + 1, number =>
    lastDigits count (number / 16) ++ [Quoted.hexDigit (number % 16)]

/-- The id of a number: 128 bits in five groups of hexadecimal digits. Six bits are fixed and mark
the others as random, so only the last 122 bits of the number count. -/
def ofNumber (number : Nat) : String :=
  let low := lastDigits 12 number
  let variant := Quoted.hexDigit (8 + number / twoTo 60 % 4) :: lastDigits 3 (number / twoTo 48)
  let middle := '4' :: lastDigits 3 (number / twoTo 62)
  let second := lastDigits 4 (number / twoTo 74)
  let first := lastDigits 8 (number / twoTo 90)
  String.ofList (Text.joined ['-'] [first, second, middle, variant, low])

end FlowId

namespace Flow

def stateKey (flowId : String) : String :=
  "form_flow." ++ flowId

/-- The key under which a reference leads to a flow's id. -/
def referenceKey (referenceId : String) : String :=
  "form_flow_ref." ++ referenceId

/-- The state of a flow; a document that is no state counts as none. -/
def state? (store : Store) (flowId : String) : Option FlowState :=
  (store.get? (stateKey flowId)).bind FlowState.ofValue?

def stateByReference? (store : Store) (referenceId : String) : Option FlowState :=
  ((store.get? (referenceKey referenceId)).bind Value.text?).bind (state? store)

def save (store : Store) (state : FlowState) : Store :=
  store.put (stateKey state.flowId) state.toValue

def initialState (now : Timestamp) (flowId : String) (instructions : Instructions) : FlowState :=
  { flowId := flowId
    referenceId := instructions.referenceId
    instructions := { instructions with flowId := some flowId }
    startedAt := now }

/-- Starts a flow under the id that its instructions carry, or else under a fresh one. -/
def start (store : Store) (now : Timestamp) (freshId : String) (instructions : Instructions) :
    Except FlowError (FlowState × Store) :=
  match instructions.fault? with
  | some fault => .error (.invalidInstructions fault)
  | none =>
    let state := initialState now (instructions.givenId?.getD freshId) instructions
    .ok (state, (save store state).put (referenceKey state.referenceId) (.text state.flowId))

/-- The state of a flow, which must be known. -/
def load (store : Store) (flowId : String) : Except FlowError FlowState :=
  match state? store flowId with
  | some state => .ok state
  | none => .error (.notFound flowId)

/-- The state of a flow, which must be known and must not have ended. -/
def loadActive (store : Store) (flowId : String) : Except FlowError FlowState :=
  match load store flowId with
  | .error error => .error error
  | .ok state =>
    if state.status.isTerminal then .error (.closed flowId state.status) else .ok state

/-- The name recorded with a step's data: the one given, or else the one of the instructions. -/
def recordedName? (state : FlowState) (index : Nat) (given : Option String) : Option String :=
  match given with
  | some name => some name
  | none => (state.instructions.steps[index]?).bind Step.name?

/-- A step's data with the step's name, if it has one. -/
def namedData (data : Fields Value) : Option String → Fields Value
  | some name => Fields.insert FlowState.stepNameKey (.text name) data
  | none => data

/-- The state after data for a step. The step counts as completed from its first data on, and the
due step moves on only past itself. -/
def recorded (state : FlowState) (now : Timestamp) (index : Nat) (data : Fields Value)
    (name : Option String) : FlowState :=
  { state with
    collectedData :=
      CollectedData.insert index (namedData data (recordedName? state index name))
        state.collectedData
    completedSteps :=
      if index ∈ state.completedSteps then state.completedSteps
      else state.completedSteps ++ [index]
    currentStep := if state.currentStep = index then index + 1 else state.currentStep
    updatedAt := some now
    revision := state.revision + 1 }

/-- Writes data for a step of an active flow. -/
def update (store : Store) (now : Timestamp) (flowId : String) (index : Nat)
    (data : Fields Value) (name : Option String) : Except FlowError (FlowState × Store) :=
  match loadActive store flowId with
  | .error error => .error error
  | .ok state =>
    let next := recorded state now index data name
    .ok (next, save store next)

/-- Writes data for a step unless the flow was written since the revision that the caller saw. -/
def updateChecked (store : Store) (now : Timestamp) (flowId : String) (index : Nat)
    (data : Fields Value) (name : Option String) (expected : Nat) :
    Except FlowError (FlowState × Store) :=
  match loadActive store flowId with
  | .error error => .error error
  | .ok state =>
    if state.revision ≠ expected then .error (.stale flowId expected state.revision)
    else
      let next := recorded state now index data name
      .ok (next, save store next)

def ended (state : FlowState) (now : Timestamp) (status : FlowStatus) : FlowState :=
  { state with
    status := status
    completedAt := if status = .completed then some now else state.completedAt
    cancelledAt := if status = .cancelled then some now else state.cancelledAt
    updatedAt := some now
    revision := state.revision + 1 }

/-- Ends a flow. A flow that has ended in the same way stays as it is. -/
def finish (store : Store) (now : Timestamp) (flowId : String) (status : FlowStatus) :
    Except FlowError (FlowState × Store) :=
  match load store flowId with
  | .error error => .error error
  | .ok state =>
    if state.status = status then .ok (state, store)
    else if state.status.isTerminal then .error (.closed flowId state.status)
    else
      let next := ended state now status
      .ok (next, save store next)

/-- Completes a flow, whether or not all of its steps were done. -/
def complete (store : Store) (now : Timestamp) (flowId : String) :
    Except FlowError (FlowState × Store) :=
  finish store now flowId .completed

def cancel (store : Store) (now : Timestamp) (flowId : String) :
    Except FlowError (FlowState × Store) :=
  finish store now flowId .cancelled

/-- The store without the reference of a flow, if the reference still leads to that flow. -/
def forgetReference (store : Store) (flowId : String) : Store :=
  match state? store flowId with
  | none => store
  | some state =>
    if store.get? (referenceKey state.referenceId) = some (.text flowId) then
      store.forget (referenceKey state.referenceId)
    else store

/-- Removes a flow and its reference. -/
def clear (store : Store) (flowId : String) : Store :=
  (forgetReference store flowId).forget (stateKey flowId)

def isStored (store : Store) (flowId : String) : Bool :=
  (store.get? (stateKey flowId)).isSome

/-- The due step of a flow; zero for an unknown one. -/
def currentStep (store : Store) (flowId : String) : Nat :=
  ((state? store flowId).map FlowState.currentStep).getD 0

/-- The data collected by a flow; none for an unknown one. -/
def collected (store : Store) (flowId : String) : CollectedData :=
  ((state? store flowId).map FlowState.collectedData).getD []

/-- Whether a flow is known and was completed. -/
def isComplete (store : Store) (flowId : String) : Bool :=
  ((state? store flowId).map FlowState.isComplete).getD false

def stepData? (store : Store) (flowId : String) (index : Nat) : Option (Fields Value) :=
  (state? store flowId).bind fun state => state.stepData? index

/-- The first step of a flow whose data carries a name, with its data. -/
def findStep? (store : Store) (flowId name : String) : Option (Nat × Fields Value) :=
  (state? store flowId).bind fun state => state.findStep? name

inductive Operation where
  | start (freshId : String) (instructions : Instructions)
  | update (flowId : String) (index : Nat) (data : Fields Value) (name : Option String)
  | updateChecked (flowId : String) (index : Nat) (data : Fields Value) (name : Option String)
      (expected : Nat)
  | complete (flowId : String)
  | cancel (flowId : String)
  | clear (flowId : String)

/-- What an operation answers: a state, nothing, or a refusal. -/
abbrev Answer := Except FlowError (Option FlowState)

/-- The answer and the store after a step that succeeds with a state or is refused; a refusal
leaves the store as it was. -/
def settle (store : Store) : Except FlowError (FlowState × Store) → Answer × Store
  | .ok (state, next) => (.ok (some state), next)
  | .error error => (.error error, store)

def Operation.run (operation : Operation) (now : Timestamp) (store : Store) : Answer × Store :=
  match operation with
  | start freshId instructions => settle store (Flow.start store now freshId instructions)
  | update flowId index data name => settle store (Flow.update store now flowId index data name)
  | updateChecked flowId index data name expected =>
    settle store (Flow.updateChecked store now flowId index data name expected)
  | complete flowId => settle store (Flow.complete store now flowId)
  | cancel flowId => settle store (Flow.cancel store now flowId)
  | clear flowId => (.ok none, Flow.clear store flowId)

end Flow

end Intake
