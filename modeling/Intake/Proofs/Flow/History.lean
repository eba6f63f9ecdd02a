import Intake.Proofs.Flow.Machine
import Mathlib.Data.List.DropRight
import Mathlib.Order.Bounds.Basic

/-!
# What a stored state tells of its history

After any run of calls on an empty store, the state that is kept for a flow is the replay of the
writes accepted for it since it was last started, followed by its end if it has ended. All fields of
the state can be read off that history: the completed steps in the order of their first writes, the
last data of each step, the due step as the longest run of steps in order, and the revision as the
number of accepted changes.
-/

namespace Intake

namespace Flow

structure Write where
  now : Timestamp
  index : Nat
  data : Fields Value
  name : Option String

namespace Event

/-- Whether a call was accepted and is about a flow. -/
def concerns (flowId : String) (event : Event) : Bool :=
  event.answer.isOk && event.call.flowId == flowId

def start? (event : Event) : Option (Timestamp × Instructions) :=
  match event.call.operation with
  | .start _ instructions => some (event.call.now, instructions)
  | _ => none

def write? (event : Event) : Option Write :=
  match event.call.operation with
  | .update _ index data name | .updateChecked _ index data name _ =>
    some ⟨event.call.now, index, data, name⟩
  | _ => none

/-- The moment and the way in which a flow ends. -/
def ending? (event : Event) : Option (Timestamp × FlowStatus) :=
  match event.call.operation with
  | .complete _ => some (event.call.now, .completed)
  | .cancel _ => some (event.call.now, .cancelled)
  | _ => none

end Event

/-- The accepted calls of a run that are about a flow. -/
def accepted (flowId : String) (events : List Event) : List Event :=
  events.filter (Event.concerns flowId)

/-- The accepted calls about a flow since it was last started. -/
def sinceStart (flowId : String) (events : List Event) : List Event :=
  (accepted flowId events).rtakeWhile fun event => event.start?.isNone

def lastStart? (flowId : String) (events : List Event) : Option (Timestamp × Instructions) :=
  ((accepted flowId events).filterMap Event.start?).getLast?

/-- The writes accepted for a flow since it was last started. -/
def writes (flowId : String) (events : List Event) : List Write :=
  (sinceStart flowId events).filterMap Event.write?

/-- How a flow ended since it was last started, if it did: the first of its accepted endings. -/
def ending? (flowId : String) (events : List Event) : Option (Timestamp × FlowStatus) :=
  ((sinceStart flowId events).filterMap Event.ending?).head?

def replay (state : FlowState) (writes : List Write) : FlowState :=
  writes.foldl
    (fun state write => recorded state write.now write.index write.data write.name) state

def concluded (state : FlowState) : Option (Timestamp × FlowStatus) → FlowState
  | none => state
  | some (now, status) => ended state now status

section Histories

variable {flowId : String} (past : List Event) {event : Event}

theorem accepted_concat_of_concerns (concerned : event.concerns flowId = true) :
    accepted flowId (past ++ [event]) = accepted flowId past ++ [event] := by
  simp [accepted, concerned]

theorem accepted_concat_of_not (unconcerned : event.concerns flowId = false) :
    accepted flowId (past ++ [event]) = accepted flowId past := by
  simp [accepted, unconcerned]

/-- A call that is refused or about another flow changes nothing in the history of a flow. -/
theorem history_concat_of_not (unconcerned : event.concerns flowId = false) :
    lastStart? flowId (past ++ [event]) = lastStart? flowId past ∧
      writes flowId (past ++ [event]) = writes flowId past ∧
      ending? flowId (past ++ [event]) = ending? flowId past := by
  simp only [lastStart?, writes, ending?, sinceStart, accepted_concat_of_not past unconcerned,
    and_self]

theorem sinceStart_concat (concerned : event.concerns flowId = true) :
    sinceStart flowId (past ++ [event]) =
      if event.start?.isNone then sinceStart flowId past ++ [event] else [] := by
  rw [sinceStart, accepted_concat_of_concerns past concerned, List.rtakeWhile_concat]
  rfl

/-- A start begins the history of a flow anew. -/
theorem history_concat_of_start (concerned : event.concerns flowId = true)
    {start : Timestamp × Instructions} (starts : event.start? = some start) :
    lastStart? flowId (past ++ [event]) = some start ∧
      writes flowId (past ++ [event]) = [] ∧ ending? flowId (past ++ [event]) = none := by
  have since : sinceStart flowId (past ++ [event]) = [] := by
    simp [sinceStart_concat past concerned, starts]
  have last : lastStart? flowId (past ++ [event]) = some start := by
    simp [lastStart?, accepted_concat_of_concerns past concerned, starts]
  exact ⟨last, by simp [writes, since], by simp [ending?, since]⟩

/-- Any other accepted call is added to the history. -/
theorem history_concat (concerned : event.concerns flowId = true) (goesOn : event.start? = none) :
    lastStart? flowId (past ++ [event]) = lastStart? flowId past ∧
      writes flowId (past ++ [event]) = writes flowId past ++ event.write?.toList ∧
      ending? flowId (past ++ [event]) = (ending? flowId past).or event.ending? := by
  have since : sinceStart flowId (past ++ [event]) = sinceStart flowId past ++ [event] := by
    simp [sinceStart_concat past concerned, goesOn]
  have last : lastStart? flowId (past ++ [event]) = lastStart? flowId past := by
    simp [lastStart?, accepted_concat_of_concerns past concerned, goesOn]
  refine ⟨last, ?_, ?_⟩
  · rw [writes, since, List.filterMap_append]
    cases written : event.write? <;> simp [writes, written]
  · rw [ending?, since, List.filterMap_append, List.head?_append]
    cases ended : event.ending? <;> simp [ending?, ended]

end Histories

theorem isTerminal_of_ending? {flowId : String} {past : List Event}
    {finish : Timestamp × FlowStatus} (ended : ending? flowId past = some finish) :
    finish.2.isTerminal = true := by
  obtain ⟨event, -, ending⟩ := List.mem_filterMap.1 (List.mem_of_head? ended)
  unfold Event.ending? at ending
  split at ending
  · exact Option.some.inj ending ▸ rfl
  · exact Option.some.inj ending ▸ rfl
  · simp at ending

theorem replay_concat (state : FlowState) (past : List Write) (write : Write) :
    replay state (past ++ [write]) =
      recorded (replay state past) write.now write.index write.data write.name := by
  simp [replay]

/-- Writes touch nothing but the progress of a flow. -/
theorem replay_frame (state : FlowState) (past : List Write) :
    (replay state past).instructions = state.instructions ∧
      (replay state past).status = state.status ∧
      (replay state past).completedAt = state.completedAt ∧
      (replay state past).cancelledAt = state.cancelledAt := by
  induction past using List.reverseRecOn with
  | nil => simp [replay]
  | append_singleton past write ih => simpa [replay_concat, recorded] using ih

/-- The state of a flow, if there is one, is what the history of the flow makes of its start. -/
def Chronicled (flowId : String) (past : List Event) (state : Option FlowState) : Prop :=
  ∀ current ∈ state, ∃ now instructions,
    lastStart? flowId past = some (now, instructions) ∧
      current = concluded (replay (initialState now flowId instructions) (writes flowId past))
        (ending? flowId past)

namespace Chronicled

variable {flowId : String} {past : List Event} {state : Option FlowState}
  (chronicled : Chronicled flowId past state)

include chronicled

theorem unconcerned {event : Event} (unconcerned : event.concerns flowId = false) :
    Chronicled flowId (past ++ [event]) state := by
  obtain ⟨start, writes, ending⟩ := history_concat_of_not past unconcerned
  simpa only [Chronicled, start, writes, ending] using chronicled

theorem refused (call : Call) (error : FlowError) :
    Chronicled flowId (past ++ [⟨call, .error error⟩]) state :=
  chronicled.unconcerned (by simp [Event.concerns, Except.isOk, Except.toBool])

/-- A flow that goes on has no end in its history. -/
theorem ending?_eq_none {current : FlowState} (kept : state = some current)
    (active : current.status.isTerminal = false) : ending? flowId past = none := by
  obtain ⟨now, instructions, -, made⟩ := chronicled current kept
  cases ending : ending? flowId past with
  | none => rfl
  | some finish =>
    have terminal := isTerminal_of_ending? ending
    rw [made, ending] at active
    simp [concluded, ended, terminal] at active

theorem reactWrite {call : Call} (about : call.flowId = flowId) {index : Nat}
    {data : Fields Value} {name : Option String} {answer : Answer}
    (written : Event.write? ⟨call, answer⟩ = some ⟨call.now, index, data, name⟩)
    (goesOn : Event.start? ⟨call, answer⟩ = none) (endless : Event.ending? ⟨call, answer⟩ = none)
    (admitted : FlowState → Except FlowError Unit)
    (answered : answer = (Flow.reactWrite flowId call.now index data name admitted state).1) :
    Chronicled flowId (past ++ [⟨call, answer⟩])
      (Flow.reactWrite flowId call.now index data name admitted state).2 := by
  cases kept : state with
  | none => simp [Chronicled, Flow.reactWrite]
  | some current =>
    rw [kept] at answered
    rcases reactWrite_cases flowId call.now index data name admitted current with
      ⟨error, outcome, -⟩ | ⟨active, -, outcome⟩
    · rw [outcome] at answered ⊢
      subst answered
      exact kept ▸ chronicled.refused call error
    · rw [outcome] at answered ⊢
      have concerned : Event.concerns flowId ⟨call, answer⟩ = true := by
        simp [Event.concerns, answered, about, Except.isOk, Except.toBool]
      have unended := chronicled.ending?_eq_none kept active
      obtain ⟨lastStart, newWrites, newEnding⟩ := history_concat past concerned goesOn
      obtain ⟨now, instructions, started, made⟩ := chronicled current kept
      rw [unended, concluded] at made
      rintro next ⟨⟩
      refine ⟨now, instructions, lastStart.trans started, ?_⟩
      rw [newWrites, newEnding, unended, endless, written, Option.toList_some, replay_concat, made]
      rfl

theorem reactFinish {call : Call} (about : call.flowId = flowId) {status : FlowStatus}
    {answer : Answer} (ends : Event.ending? ⟨call, answer⟩ = some (call.now, status))
    (goesOn : Event.start? ⟨call, answer⟩ = none) (silent : Event.write? ⟨call, answer⟩ = none)
    (terminal : status.isTerminal = true)
    (answered : answer = (Flow.reactFinish flowId call.now status state).1) :
    Chronicled flowId (past ++ [⟨call, answer⟩])
      (Flow.reactFinish flowId call.now status state).2 := by
  cases kept : state with
  | none => simp [Chronicled, Flow.reactFinish]
  | some current =>
    rw [kept] at answered
    obtain ⟨now, instructions, started, made⟩ := chronicled current kept
    -- Whether the flow ends now or has ended so before, the call is one of its history.
    have extended : answer.isOk = true →
        lastStart? flowId (past ++ [⟨call, answer⟩]) = some (now, instructions) ∧
          writes flowId (past ++ [⟨call, answer⟩]) = writes flowId past ∧
          ending? flowId (past ++ [⟨call, answer⟩]) =
            (ending? flowId past).or (some (call.now, status)) := by
      intro ok
      have concerned : Event.concerns flowId ⟨call, answer⟩ = true := by
        simp [Event.concerns, ok, about]
      obtain ⟨lastStart, newWrites, newEnding⟩ := history_concat past concerned goesOn
      exact ⟨lastStart.trans started, by simpa [silent] using newWrites, ends ▸ newEnding⟩
    rcases reactFinish_cases flowId call.now status current with
      ⟨error, outcome⟩ | ⟨same, outcome⟩ | ⟨active, outcome⟩
    · rw [outcome] at answered ⊢
      subst answered
      exact kept ▸ chronicled.refused call error
    · rw [outcome] at answered ⊢
      obtain ⟨lastStart, newWrites, newEnding⟩ := extended (by rw [answered]; rfl)
      obtain ⟨finish, ending⟩ : ∃ finish, ending? flowId past = some finish := by
        cases ending : ending? flowId past with
        | some finish => exact ⟨finish, rfl⟩
        | none =>
          rw [ending, concluded] at made
          rw [← same, made, (replay_frame _ _).2.1] at terminal
          simp [initialState, FlowStatus.isTerminal] at terminal
      rintro next ⟨⟩
      refine ⟨now, instructions, lastStart, ?_⟩
      rw [newWrites, newEnding, made, ending]
      rfl
    · rw [outcome] at answered ⊢
      obtain ⟨lastStart, newWrites, newEnding⟩ := extended (by rw [answered]; rfl)
      have unended := chronicled.ending?_eq_none kept active
      rw [unended, concluded] at made
      rintro next ⟨⟩
      refine ⟨now, instructions, lastStart, ?_⟩
      rw [newWrites, newEnding, unended, made]
      rfl

/-- A call about the flow goes on with its history. -/
theorem react {call : Call} (about : call.flowId = flowId) :
    Chronicled flowId (past ++ [⟨call, (call.react state).1⟩]) (call.react state).2 := by
  obtain ⟨now, operation⟩ := call
  subst about
  cases operation with
  | start freshId instructions =>
    cases fault : instructions.fault? with
    | some fault' => simpa [Call.react, fault] using chronicled.refused _ _
    | none =>
      have concerned : Event.concerns (Call.flowId ⟨now, .start freshId instructions⟩)
          ⟨⟨now, .start freshId instructions⟩,
            (Call.react ⟨now, .start freshId instructions⟩ state).1⟩ = true := by
        simp [Event.concerns, Call.react, fault, Except.isOk, Except.toBool]
      obtain ⟨lastStart, noWrites, noEnding⟩ :=
        history_concat_of_start past concerned rfl
      intro next same
      simp only [Call.react, fault, Option.mem_def, Option.some.injEq] at same
      refine ⟨now, instructions, lastStart, ?_⟩
      rw [noWrites, noEnding, ← same]
      rfl
  | update flowId index data name => exact chronicled.reactWrite rfl rfl rfl rfl _ rfl
  | updateChecked flowId index data name expected =>
    exact chronicled.reactWrite rfl rfl rfl rfl _ rfl
  | complete flowId => exact chronicled.reactFinish rfl rfl rfl rfl rfl rfl
  | cancel flowId => exact chronicled.reactFinish rfl rfl rfl rfl rfl rfl
  | clear flowId => simp [Chronicled, Call.react]

end Chronicled

/-- The states that a run of calls leaves are what the histories of the flows make of them. -/
theorem chronicled_storeAfter {calls : List Call} (valid : ∀ call ∈ calls, call.Valid)
    (flowId : String) :
    Chronicled flowId (events {} calls) (state? (storeAfter {} calls) flowId) := by
  induction calls using List.reverseRecOn with
  | nil => simp [Chronicled, storeAfter, state?, Store.get?, Store.find?]
  | append_singleton calls call ih =>
    rw [List.forall_mem_append] at valid
    have consistent := Consistent.empty.storeAfter valid.1
    have follows := run_follows consistent (valid.2 call List.mem_cons_self)
    have before := ih valid.1
    rw [events_concat, storeAfter_concat, follows.answer, follows.states]
    split
    · next about =>
      subst about
      exact before.react rfl
    · next other =>
      refine before.unconcerned ?_
      simp [Event.concerns, Ne.symm other]

end Flow

end Intake
