import Intake.Proofs.Flow.History
import Mathlib.Logic.Function.Basic

/-!
# Clients that share a flow

Any number of clients read a flow and write to it, one action after the other. A checked write
carries the revision that its author read last. Every accepted change counts the revision up and no
other call does, so an equal revision means an unchanged state: a checked write is accepted exactly
if the flow goes on and nothing was written to it since its author's reading.
-/

namespace Intake

namespace Flow

/-- Whether an operation begins a flow anew or removes it. -/
def Operation.replaces : Operation → Bool
  | start .. | clear _ => true
  | update .. | updateChecked .. | complete _ | cancel _ => false

/-- The revision that an operation carries. -/
def Operation.expected? : Operation → Option Nat
  | updateChecked _ _ _ _ expected => some expected
  | start .. | update .. | complete _ | cancel _ | clear _ => none

/-- What is done to a flow: a client reads it, a client writes to it with the revision that it read
last, or anyone makes a call. -/
inductive Action (Client : Type) where
  | read (client : Client)
  | writeChecked (client : Client) (now : Timestamp) (index : Nat) (data : Fields Value)
      (name : Option String)
  | ask (call : Call)

/-- An action between the start of a flow and its removal, at moments that a clock can show. -/
def Action.Admissible {Client : Type} (flowId : String) : Action Client → Prop
  | read _ => True
  | writeChecked _ now index _ _ => now.Valid ∧ index < twoTo 64
  | ask call => call.Valid ∧ (call.flowId = flowId → call.operation.replaces = false)

/-- A store and what each client has seen of a flow. -/
structure Session (Client : Type) where
  store : Store
  seen : Client → Option FlowState

/-- An action, and the call that it led to with its answer. -/
structure Deed (Client : Type) where
  action : Action Client
  event : Option Event

namespace Deed

variable {Client : Type}

def reads [DecidableEq Client] (client : Client) (deed : Deed Client) : Bool :=
  match deed.action with
  | .read reader => reader = client
  | _ => false

def writes (flowId : String) (deed : Deed Client) : Bool :=
  deed.event.any (Event.concerns flowId)

/-- The revision that an accepted checked write to a flow carried. -/
def checkedRevision? (flowId : String) (deed : Deed Client) : Option Nat :=
  (deed.event.filter (Event.concerns flowId)).bind fun event => event.call.operation.expected?

end Deed

namespace Session

variable {Client : Type} [DecidableEq Client]

/-- The call that an action leads to. A client that has not read the flow has no revision to
write with. -/
def call? (flowId : String) (session : Session Client) : Action Client → Option Call
  | .read _ => none
  | .writeChecked client now index data name =>
    (session.seen client).map fun state =>
      ⟨now, .updateChecked flowId index data name state.revision⟩
  | .ask call => some call

/-- The session after an action. -/
def after (flowId : String) (session : Session Client) (action : Action Client) :
    Session Client where
  store :=
    match session.call? flowId action with
    | some call => (call.run session.store).2
    | none => session.store
  seen :=
    match action with
    | .read client => Function.update session.seen client (state? session.store flowId)
    | _ => session.seen

def deed (flowId : String) (session : Session Client) (action : Action Client) : Deed Client where
  action := action
  event := (session.call? flowId action).map fun call => ⟨call, (call.run session.store).1⟩

def afterAll (flowId : String) (session : Session Client) (actions : List (Action Client)) :
    Session Client :=
  actions.foldl (after flowId) session

def deeds (flowId : String) (session : Session Client) : List (Action Client) → List (Deed Client)
  | [] => []
  | action :: others =>
    session.deed flowId action :: (session.after flowId action).deeds flowId others

theorem afterAll_concat (flowId : String) (session : Session Client)
    (actions : List (Action Client)) (action : Action Client) :
    session.afterAll flowId (actions ++ [action]) =
      (session.afterAll flowId actions).after flowId action := by
  simp [afterAll]

theorem deeds_concat (flowId : String) (session : Session Client)
    (actions : List (Action Client)) (action : Action Client) :
    session.deeds flowId (actions ++ [action]) =
      session.deeds flowId actions ++ [(session.afterAll flowId actions).deed flowId action] := by
  induction actions generalizing session with
  | nil => rfl
  | cons first others ih => simp [deeds, ih, afterAll]

end Session

/-- The revisions that the accepted checked writes to a flow carried. -/
def checkedRevisions {Client : Type} (flowId : String) (past : List (Deed Client)) : List Nat :=
  past.filterMap (Deed.checkedRevision? flowId)

section Revisions

variable {Client : Type} {flowId : String} {past : List (Deed Client)} {deed : Deed Client}

theorem checkedRevision?_of_not_writes (silent : deed.writes flowId = false) :
    deed.checkedRevision? flowId = none := by
  cases happened : deed.event with
  | none => simp [Deed.checkedRevision?, happened]
  | some event =>
    have unconcerned : event.concerns flowId = false := by
      simpa [Deed.writes, happened] using silent
    simp [Deed.checkedRevision?, happened, Option.filter, unconcerned]

theorem checkedRevisions_concat :
    checkedRevisions flowId (past ++ [deed]) =
      checkedRevisions flowId past ++ (deed.checkedRevision? flowId).toList := by
  rw [checkedRevisions, List.filterMap_append]
  cases carried : deed.checkedRevision? flowId <;> simp [checkedRevisions, carried]

end Revisions

section Trace

variable {Client : Type} [DecidableEq Client]

/-- The deeds since a client last read the flow. -/
def sinceRead (client : Client) (past : List (Deed Client)) : List (Deed Client) :=
  past.rtakeWhile fun deed => !deed.reads client

/-- No write to a flow was accepted since a client last read the flow. -/
def Untouched (flowId : String) (client : Client) (past : List (Deed Client)) : Prop :=
  ∀ deed ∈ sinceRead client past, deed.writes flowId = false

variable {flowId : String} {client : Client} {past : List (Deed Client)} {deed : Deed Client}

theorem untouched_concat_of_read (reads : deed.reads client = true) :
    Untouched flowId client (past ++ [deed]) := by
  simp [Untouched, sinceRead, reads]

theorem untouched_concat (reads : deed.reads client = false) :
    Untouched flowId client (past ++ [deed]) ↔
      Untouched flowId client past ∧ deed.writes flowId = false := by
  simp [Untouched, sinceRead, reads, or_imp, forall_and]

end Trace

/-- What a call that neither begins a flow anew nor removes it can make of the flow. It is refused,
or ends the flow as it has ended before, or changes it and counts its revision up. -/
inductive Effect (state : FlowState) (expected? : Option Nat) : Answer × Option FlowState → Prop
  | refused (error : FlowError) : Effect state expected? (.error error, some state)
  | repeated (terminal : state.status.isTerminal = true) (unchecked : expected? = none) :
    Effect state expected? (.ok (some state), some state)
  | changed (next : FlowState) (active : state.status.isTerminal = false)
    (current : ∀ expected ∈ expected?, expected = state.revision)
    (counted : next.revision = state.revision + 1) :
    Effect state expected? (.ok (some next), some next)

theorem effect_reactFinish (flowId : String) (now : Timestamp) {status : FlowStatus}
    (terminal : status.isTerminal = true) (state : FlowState) :
    Effect state none (reactFinish flowId now status (some state)) := by
  rcases reactFinish_cases flowId now status state with
    ⟨error, outcome⟩ | ⟨same, outcome⟩ | ⟨active, outcome⟩
  · exact outcome ▸ .refused error
  · exact outcome ▸ .repeated (same ▸ terminal) rfl
  · exact outcome ▸ .changed _ active (by simp) rfl

theorem effect_react {call : Call} (lasting : call.operation.replaces = false)
    (state : FlowState) :
    Effect state call.operation.expected? (call.react (some state)) := by
  obtain ⟨now, operation⟩ := call
  cases operation with
  | start freshId instructions => simp [Operation.replaces] at lasting
  | clear flowId => simp [Operation.replaces] at lasting
  | update flowId index data name =>
    change Effect state none
      (reactWrite flowId now index data name (fun _ => .ok ()) (some state))
    rcases reactWrite_cases flowId now index data name (fun _ => .ok ()) state with
      ⟨error, outcome, -⟩ | ⟨active, -, outcome⟩
    · exact outcome ▸ .refused error
    · exact outcome ▸ .changed _ active (by simp) rfl
  | updateChecked flowId index data name expected =>
    change Effect state (some expected) (reactWrite flowId now index data name _ (some state))
    rcases reactWrite_cases flowId now index data name (unlessStale flowId expected) state with
      ⟨error, outcome, -⟩ | ⟨active, admitted, outcome⟩
    · exact outcome ▸ .refused error
    · exact outcome ▸ .changed _ active (by simp [(unlessStale_eq_ok flowId).1 admitted]) rfl
  | complete flowId => exact effect_reactFinish flowId now rfl state
  | cancel flowId => exact effect_reactFinish flowId now rfl state

/-- A checked write to a flow that is kept is accepted if the flow goes on and has the revision that
the write carries. -/
theorem react_updateChecked (now : Timestamp) (flowId : String) (index : Nat) (data : Fields Value)
    (name : Option String) (expected : Nat) (state : FlowState) :
    ((Call.react ⟨now, .updateChecked flowId index data name expected⟩ (some state)).1.isOk ↔
      state.status.isTerminal = false ∧ state.revision = expected) ∧
    ((Call.react ⟨now, .updateChecked flowId index data name expected⟩ (some state)).1.isOk →
      (Call.react ⟨now, .updateChecked flowId index data name expected⟩ (some state)).2 =
        some (recorded state now index data name)) := by
  simp only [Call.react]
  rcases reactWrite_cases flowId now index data name (unlessStale flowId expected) state with
    ⟨error, outcome, refused⟩ | ⟨active, admitted, outcome⟩
  · rw [outcome, ← unlessStale_eq_ok flowId]
    rcases refused with terminal | refused
    · simp [terminal, Except.isOk, Except.toBool]
    · simp [refused, Except.isOk, Except.toBool]
  · rw [outcome, ← unlessStale_eq_ok flowId]
    simp [active, admitted, Except.isOk, Except.toBool]

/-- The state of a flow that goes on in a session, told from what was done in the session. A client
has seen that state exactly if it was not changed since. -/
structure Tracked {Client : Type} [DecidableEq Client] (flowId : String)
    (session : Session Client) (past : List (Deed Client)) (current : FlowState) : Prop where
  consistent : Consistent session.store
  kept : state? session.store flowId = some current
  bounded : ∀ client, ∀ seen ∈ session.seen client, seen.revision ≤ current.revision
  same : ∀ client, ∀ seen ∈ session.seen client, seen.revision = current.revision → seen = current
  untouched : current.status.isTerminal = false → ∀ client, ∀ seen ∈ session.seen client,
    (Untouched flowId client past ↔ seen.revision = current.revision)
  passed : ∀ revision ∈ checkedRevisions flowId past, revision < current.revision
  once : (checkedRevisions flowId past).Nodup

namespace Tracked

variable {Client : Type} [DecidableEq Client] {flowId : String} {session : Session Client}
  {past : List (Deed Client)} {current : FlowState}
  (tracked : Tracked flowId session past current)

include tracked

theorem read (client : Client) :
    Tracked flowId (session.after flowId (.read client))
      (past ++ [session.deed flowId (.read client)]) current := by
  have silent : (session.deed flowId (.read client)).writes flowId = false := rfl
  have seenAfter : ∀ other, (session.after flowId (.read client)).seen other =
      if other = client then some current else session.seen other := by
    intro other
    simp [Session.after, Function.update_apply, tracked.kept]
  have revisions : checkedRevisions flowId (past ++ [session.deed flowId (.read client)]) =
      checkedRevisions flowId past := by
    simp [checkedRevisions_concat, checkedRevision?_of_not_writes silent]
  constructor
  case consistent => exact tracked.consistent
  case kept => exact tracked.kept
  case bounded =>
    intro other seen saw
    rw [seenAfter] at saw
    split at saw
    · exact (Option.some.inj saw) ▸ Nat.le_refl _
    · exact tracked.bounded other seen saw
  case same =>
    intro other seen saw equal
    rw [seenAfter] at saw
    split at saw
    · exact (Option.some.inj saw).symm
    · exact tracked.same other seen saw equal
  case untouched =>
    intro active other seen saw
    rw [seenAfter] at saw
    split at saw
    · next reader =>
      have reads : (session.deed flowId (.read client)).reads other = true := by
        simp [Deed.reads, Session.deed, reader]
      exact iff_of_true (untouched_concat_of_read reads) ((Option.some.inj saw) ▸ rfl)
    · next different =>
      have reads : (session.deed flowId (.read client)).reads other = false := by
        simp [Deed.reads, Session.deed, Ne.symm different]
      rw [untouched_concat reads, and_iff_left silent]
      exact tracked.untouched active other seen saw
  case passed => exact revisions ▸ tracked.passed
  case once => exact revisions ▸ tracked.once

/-- A deed that neither reads nor writes the flow leaves everything as it is. -/
theorem idle {store : Store} (consistent : Consistent store)
    (kept : state? store flowId = some current) {deed : Deed Client}
    (blind : ∀ client, deed.reads client = false) (silent : deed.writes flowId = false) :
    Tracked flowId ⟨store, session.seen⟩ (past ++ [deed]) current := by
  have revisions : checkedRevisions flowId (past ++ [deed]) = checkedRevisions flowId past := by
    simp [checkedRevisions_concat, checkedRevision?_of_not_writes silent]
  constructor
  case consistent => exact consistent
  case kept => exact kept
  case bounded => exact tracked.bounded
  case same => exact tracked.same
  case untouched =>
    intro active client seen saw
    rw [untouched_concat (blind client), and_iff_left silent]
    exact tracked.untouched active client seen saw
  case passed => exact revisions ▸ tracked.passed
  case once => exact revisions ▸ tracked.once

/-- To end a flow as it has ended before changes nothing, and no checked write gets through
afterwards. -/
theorem repeated {store : Store} (consistent : Consistent store)
    (kept : state? store flowId = some current) {deed : Deed Client}
    (terminal : current.status.isTerminal = true)
    (unchecked : deed.checkedRevision? flowId = none) :
    Tracked flowId ⟨store, session.seen⟩ (past ++ [deed]) current := by
  have revisions : checkedRevisions flowId (past ++ [deed]) = checkedRevisions flowId past := by
    simp [checkedRevisions_concat, unchecked]
  constructor
  case consistent => exact consistent
  case kept => exact kept
  case bounded => exact tracked.bounded
  case same => exact tracked.same
  case untouched => simp [terminal]
  case passed => exact revisions ▸ tracked.passed
  case once => exact revisions ▸ tracked.once

/-- A change makes every state that was seen before it an old one. -/
theorem changed {store : Store} {next : FlowState} (consistent : Consistent store)
    (kept : state? store flowId = some next) (counted : next.revision = current.revision + 1)
    {deed : Deed Client} (blind : ∀ client, deed.reads client = false)
    (written : deed.writes flowId = true)
    (carried : ∀ expected ∈ deed.checkedRevision? flowId, expected = current.revision) :
    Tracked flowId ⟨store, session.seen⟩ (past ++ [deed]) next := by
  have older : ∀ client, ∀ seen ∈ session.seen client, seen.revision < next.revision := by
    intro client seen saw
    rw [counted]
    exact Nat.lt_succ_of_le (tracked.bounded client seen saw)
  constructor
  case consistent => exact consistent
  case kept => exact kept
  case bounded =>
    intro client seen saw
    exact Nat.le_of_lt (older client seen saw)
  case same =>
    intro client seen saw equal
    exact absurd equal (Nat.ne_of_lt (older client seen saw))
  case untouched =>
    intro active client seen saw
    rw [untouched_concat (blind client)]
    exact iff_of_false (by simp [written]) (Nat.ne_of_lt (older client seen saw))
  case passed =>
    intro revision member
    rw [checkedRevisions_concat, List.mem_append, Option.mem_toList] at member
    rw [counted]
    rcases member with before | now
    · exact Nat.lt_succ_of_lt (tracked.passed revision before)
    · exact carried revision now ▸ Nat.lt_succ_self _
  case once =>
    rw [checkedRevisions_concat, List.nodup_append]
    refine ⟨tracked.once, ?_, ?_⟩
    · cases deed.checkedRevision? flowId <;> simp
    · intro revision before carriedNow now equal
      have latest := carried carriedNow (Option.mem_toList.1 now)
      exact Nat.ne_of_lt (tracked.passed revision before) (equal.trans latest)

/-- A call is made whatever it is, unless it begins the flow anew or removes it. -/
theorem called {call : Call} (valid : call.Valid)
    (lasting : call.flowId = flowId → call.operation.replaces = false) {action : Action Client}
    (blind : ∀ client,
      Deed.reads client ⟨action, some ⟨call, (call.run session.store).1⟩⟩ = false) :
    ∃ next, Tracked flowId ⟨(call.run session.store).2, session.seen⟩
      (past ++ [⟨action, some ⟨call, (call.run session.store).1⟩⟩]) next := by
  obtain ⟨answer, consistent, states⟩ := run_follows tracked.consistent valid
  have kept := states flowId
  by_cases about : call.flowId = flowId
  · subst about
    rw [if_pos rfl, tracked.kept] at kept
    rw [tracked.kept] at answer
    have effect := effect_react (lasting rfl) current
    generalize call.react (some current) = outcome at effect kept answer
    rw [answer] at blind ⊢
    cases effect with
    | refused error =>
      exact ⟨current, tracked.idle consistent kept blind rfl⟩
    | repeated terminal unchecked =>
      refine ⟨current, tracked.repeated consistent kept terminal ?_⟩
      simp [Deed.checkedRevision?, Event.concerns, Option.filter, Except.isOk, Except.toBool,
        unchecked]
    | changed next active carried counted =>
      refine ⟨next, tracked.changed consistent kept counted blind ?_ ?_⟩
      · simp [Deed.writes, Event.concerns, Except.isOk, Except.toBool]
      · simpa [Deed.checkedRevision?, Event.concerns, Option.filter, Except.isOk, Except.toBool]
          using carried
  · rw [if_neg (Ne.symm about), tracked.kept] at kept
    refine ⟨current, tracked.idle consistent kept blind ?_⟩
    simp [Deed.writes, Event.concerns, about]

/-- Whatever is done next, the flow goes on to be tracked. -/
theorem after {action : Action Client} (admissible : action.Admissible flowId) :
    ∃ next, Tracked flowId (session.after flowId action)
      (past ++ [session.deed flowId action]) next := by
  cases action with
  | read client => exact ⟨current, tracked.read client⟩
  | ask call => exact tracked.called admissible.1 admissible.2 fun _ => rfl
  | writeChecked client now index data name =>
    cases saw : session.seen client with
    | none =>
      have event : session.deed flowId (.writeChecked client now index data name) =
          ⟨.writeChecked client now index data name, none⟩ := by
        simp [Session.deed, Session.call?, saw]
      have unmoved : session.after flowId (.writeChecked client now index data name) =
          ⟨session.store, session.seen⟩ := by
        simp [Session.after, Session.call?, saw]
      rw [event, unmoved]
      exact ⟨current, tracked.idle tracked.consistent tracked.kept (fun _ => rfl) rfl⟩
    | some seen =>
      have call : session.call? flowId (.writeChecked client now index data name) =
          some ⟨now, .updateChecked flowId index data name seen.revision⟩ := by
        simp [Session.call?, saw]
      simp only [Session.deed, Session.after, call, Option.map_some]
      refine tracked.called ⟨admissible.1, ?_⟩ (fun _ => rfl) fun _ => rfl
      simpa [Operation.index?] using admissible.2

/-- A checked write is accepted if its author has seen the state of the flow, and changes that
state. -/
theorem writeChecked {client : Client} {seen : FlowState} (saw : session.seen client = some seen)
    {now : Timestamp} (clock : now.Valid) {index : Nat} (fits : index < twoTo 64)
    (data : Fields Value) (name : Option String) :
    let write : Call := ⟨now, .updateChecked flowId index data name seen.revision⟩
    ((write.run session.store).1.isOk ↔
      current.status = .active ∧ Untouched flowId client past) ∧
    ((write.run session.store).1.isOk → seen = current ∧
      state? (write.run session.store).2 flowId = some (recorded seen now index data name)) := by
  intro write
  have valid : write.Valid := ⟨clock, by simpa [write, Operation.index?] using fits⟩
  have follows := run_follows tracked.consistent valid
  have about : write.flowId = flowId := rfl
  have answer := follows.answer
  have states := follows.states flowId
  rw [about, tracked.kept] at answer states
  rw [if_pos rfl] at states
  rw [answer, states]
  obtain ⟨accepted_iff, accepted⟩ :=
    react_updateChecked now flowId index data name seen.revision current
  constructor
  · have active : current.status.isTerminal = false ↔ current.status = .active := by
      cases current.status <;> simp [FlowStatus.isTerminal]
    rw [accepted_iff, active]
    refine and_congr_right fun goesOn => ?_
    rw [eq_comm, tracked.untouched (active.2 goesOn) client seen saw]
  · intro ok
    have same := tracked.same client seen saw (accepted_iff.1 ok).2.symm
    exact ⟨same, same ▸ accepted ok⟩

end Tracked

def freshSession (Client : Type) (store : Store) : Session Client :=
  ⟨store, fun _ => none⟩

/-- The flow of a session is tracked from its start on. -/
theorem tracked_afterAll {Client : Type} [DecidableEq Client] {store : Store}
    (consistent : Consistent store) {flowId : String} {first : FlowState}
    (kept : state? store flowId = some first) {actions : List (Action Client)}
    (admissible : ∀ action ∈ actions, action.Admissible flowId) :
    ∃ current, Tracked flowId ((freshSession Client store).afterAll flowId actions)
      ((freshSession Client store).deeds flowId actions) current := by
  induction actions using List.reverseRecOn with
  | nil =>
    refine ⟨first, ?_⟩
    constructor
    case consistent => exact consistent
    case kept => exact kept
    all_goals simp [freshSession, Session.afterAll, Session.deeds, checkedRevisions]
  | append_singleton actions action ih =>
    rw [List.forall_mem_append] at admissible
    obtain ⟨current, tracked⟩ := ih admissible.1
    rw [Session.afterAll_concat, Session.deeds_concat]
    exact tracked.after (admissible.2 action List.mem_cons_self)

theorem run_of_refused {call : Call} {store : Store}
    (refused : (call.run store).1.isOk = false) : (call.run store).2 = store := by
  have settled : ∀ result, (settle store result).1.isOk = false →
      (settle store result).2 = store := by
    intro result failed
    cases result with
    | error error => rfl
    | ok result => simp [settle, Except.isOk, Except.toBool] at failed
  obtain ⟨now, operation⟩ := call
  cases operation with
  | clear flowId => simp [Call.run, Operation.run, Except.isOk, Except.toBool] at refused
  | _ => exact settled _ refused

/-- In a session on a flow that was started in any store, a checked write is accepted exactly if the
flow goes on and no write to it was accepted since its author last read it. What it then changes is
the state that its author read, refused calls leave the store as it was, and no two accepted checked
writes carry the same revision. -/
theorem checkedWrites_in_session {Client : Type} [DecidableEq Client] {earlier : List Call}
    {now : Timestamp} {freshId : String} {instructions : Instructions}
    (valid : ∀ call ∈ earlier ++ [⟨now, .start freshId instructions⟩], call.Valid)
    (faultless : instructions.fault? = none) {flowId : String}
    (started : Call.flowId ⟨now, .start freshId instructions⟩ = flowId)
    {actions : List (Action Client)} (admissible : ∀ action ∈ actions, action.Admissible flowId) :
    let store := storeAfter {} (earlier ++ [⟨now, .start freshId instructions⟩])
    let session := (freshSession Client store).afterAll flowId actions
    let past := (freshSession Client store).deeds flowId actions
    ∃ current, state? session.store flowId = some current ∧
      (∀ client, ∀ seen ∈ session.seen client, ∀ now : Timestamp, now.Valid →
        ∀ index < twoTo 64, ∀ data name,
          let write : Call := ⟨now, .updateChecked flowId index data name seen.revision⟩
          ((write.run session.store).1.isOk ↔
            current.status = .active ∧ Untouched flowId client past) ∧
          ((write.run session.store).1.isOk → seen = current ∧
            state? (write.run session.store).2 flowId =
              some (recorded seen now index data name))) ∧
      (∀ call : Call, (call.run session.store).1.isOk = false →
        (call.run session.store).2 = session.store) ∧
      ∀ revision, (checkedRevisions flowId past).count revision ≤ 1 := by
  intro store session past
  have consistent : Consistent store := Consistent.empty.storeAfter valid
  have kept : ∃ first, state? store flowId = some first := by
    rw [List.forall_mem_append, List.forall_mem_singleton] at valid
    have follows := run_follows (Consistent.empty.storeAfter valid.1) valid.2
    refine ⟨initialState now flowId instructions, ?_⟩
    rw [show store = _ from storeAfter_concat _ _ _, follows.states, if_pos started.symm]
    simp [Call.react, faultless, started]
  obtain ⟨first, kept⟩ := kept
  obtain ⟨current, tracked⟩ := tracked_afterAll consistent kept admissible
  refine ⟨current, tracked.kept, ?_, fun call => run_of_refused,
    List.nodup_iff_count.1 tracked.once⟩
  intro client seen saw now clock index fits data name
  exact tracked.writeChecked saw clock fits data name

/-- Two clients of a survey: both read it, the first one writes, and the second one writes unaware
of that. -/
def surveyActions : List (Action Bool) :=
  [.read true, .read false, .writeChecked true ⟨60, 0⟩ 0 [("name", .text "A. Reader")] none,
    .writeChecked false ⟨61, 0⟩ 0 [("name", .text "B. Reader")] none,
    .ask ⟨⟨62, 0⟩, .update "survey-1" 1 [("size", .text "M")] none⟩, .read false]

theorem checkedWrites_in_survey :
    let store := storeAfter {} [⟨⟨0, 0⟩, .start "survey-1" surveyInstructions⟩]
    let session := (freshSession Bool store).afterAll "survey-1" surveyActions
    let past := (freshSession Bool store).deeds "survey-1" surveyActions
    ∃ current, state? session.store "survey-1" = some current ∧
      (∀ client, ∀ seen ∈ session.seen client, ∀ now : Timestamp, now.Valid →
        ∀ index < twoTo 64, ∀ data name,
          let write : Call := ⟨now, .updateChecked "survey-1" index data name seen.revision⟩
          ((write.run session.store).1.isOk ↔
            current.status = .active ∧ Untouched "survey-1" client past) ∧
          ((write.run session.store).1.isOk → seen = current ∧
            state? (write.run session.store).2 "survey-1" =
              some (recorded seen now index data name))) ∧
      (∀ call : Call, (call.run session.store).1.isOk = false →
        (call.run session.store).2 = session.store) ∧
      ∀ revision, (checkedRevisions "survey-1" past).count revision ≤ 1 := by
  have valid :
      ∀ call ∈ [] ++ [⟨⟨0, 0⟩, .start "survey-1" surveyInstructions⟩], Call.Valid call := by
    rw [List.nil_append, List.forall_mem_singleton]
    exact ⟨by decide, by decide⟩
  have admissible : ∀ action ∈ surveyActions, action.Admissible "survey-1" := by
    simp only [surveyActions, List.forall_mem_cons]
    exact ⟨trivial, trivial, ⟨by decide, by decide⟩, ⟨by decide, by decide⟩,
      ⟨⟨by decide, by decide⟩, fun _ => rfl⟩, trivial, by simp⟩
  exact checkedWrites_in_session valid rfl rfl admissible

end Flow

end Intake
