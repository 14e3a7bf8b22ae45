import Revenant.Modules.State
import Revenant.Library.Call
import Revenant.Operations.Catalog

namespace Revenant
namespace Operations

open Library

/-!
# The route operation of a session

One operation accompanies a session.  It opens its choice window when the drone
group is cleared, and leaves the window once, with a route or with the plain
baseline.  A route ends in success before its deadline or in a timeout after it.
-/

structure RouteSelectionOutcome where
  operationId : String
  leaderId : String
  routeId : RouteId
  seed : RouteSeed
  eventId : RouteEventId
  effect : RouteEffect
  reward : RouteReward
  objectivePath : List RouteObjectiveId
  durationBudgetMs : Nat
  deriving DecidableEq

inductive TerminalOutcome where
  | succeeded
  | failedTimeout
  deriving DecidableEq, Repr

def TerminalOutcome.phase : TerminalOutcome → RoutePhase
  | succeeded => .succeeded
  | failedTimeout => .failed

structure RouteOperationSummary where
  catalogRevision : String
  resolverRevision : String
  operationId : String
  leaderId : String
  participantIds : List String
  routeId : RouteId
  seed : RouteSeed
  eventId : RouteEventId
  effect : RouteEffect
  objectivePath : List RouteObjectiveId
  durationBudgetMs : Nat
  elapsedMs : Nat
  outcome : TerminalOutcome
  reward : Option RouteReward
  deriving DecidableEq

structure ParticipantCapability where
  participantId : String
  capable : Bool
  deriving DecidableEq

structure RouteOperationState where
  participants : List ParticipantCapability
  phase : RoutePhase
  selection : Option RouteSelectionOutcome
  terminal : Option RouteOperationSummary
  deriving DecidableEq

namespace RouteOperationState

def new (participantIds : List String) : Except RouteError RouteOperationState := do
  rejectIf (participantIds = [] ∨ participantIds.length > maxRouteParticipants) .invalidParticipants
  rejectIf ((∃ participantId ∈ participantIds, validParticipantId participantId = false) ∨
    ¬ participantIds.Nodup) .invalidParticipants
  return {
    participants := participantIds.map (fun participantId => { participantId, capable := false })
    phase := .drone, selection := none, terminal := none }

def leaderId (state : RouteOperationState) : Option String :=
  state.participants.head?.map ParticipantCapability.participantId

def allCapable (state : RouteOperationState) : Bool :=
  state.participants.all ParticipantCapability.capable

/-- The first participant of that name becomes capable. -/
def markFirst (participantId : String) : List ParticipantCapability → List ParticipantCapability
  | [] => []
  | participant :: rest =>
      if participant.participantId = participantId then { participant with capable := true } :: rest
      else participant :: markFirst participantId rest

/-- The choice a request in an open window makes. -/
def chosen (requesterId operationId : String) (routeId : RouteId) (seed : RouteSeed) :
    RouteSelectionOutcome :=
  let definition := routeDefinition routeId
  let resolved := resolveEvent routeId seed
  { operationId, leaderId := requesterId, routeId, seed, eventId := resolved.eventId
    effect := resolved.effect, reward := definition.reward
    objectivePath := definition.objectivePath, durationBudgetMs := definition.durationMs }

def summary (state : RouteOperationState) (selection : RouteSelectionOutcome)
    (outcome : TerminalOutcome) (elapsedMs : Nat) : RouteOperationSummary :=
  { catalogRevision, resolverRevision, operationId := selection.operationId
    leaderId := selection.leaderId
    participantIds := state.participants.map ParticipantCapability.participantId
    routeId := selection.routeId, seed := selection.seed, eventId := selection.eventId
    effect := selection.effect, objectivePath := selection.objectivePath
    durationBudgetMs := selection.durationBudgetMs, elapsedMs, outcome
    reward := if outcome = .succeeded then some selection.reward else none }

/-- What a stored choice answers to another request, whatever its seed. -/
def earlierSelection (state : RouteOperationState) (requesterId operationId : String)
    (routeId : RouteId) : Except RouteError (Option RouteSelectionOutcome) :=
  match state.selection with
  | some selection => do
      rejectIf (selection.operationId ≠ operationId) .routeAlreadySelected
      rejectIf (selection.routeId ≠ routeId ∨ selection.leaderId ≠ requesterId) .idempotencyConflict
      return some selection
  | none => return none

/-- What a stored result answers to another one. -/
def earlierTerminal (state : RouteOperationState) (requested : TerminalOutcome) (elapsedMs : Nat) :
    Except RouteError (Option RouteOperationSummary) :=
  match state.terminal with
  | some stored => do
      rejectIf (stored.outcome ≠ requested ∨ stored.elapsedMs ≠ elapsedMs) .terminalConflict
      return some stored
  | none => return none

/-- The selection that may end with the requested outcome at that time. -/
def finishable (state : RouteOperationState) (requested : TerminalOutcome) (elapsedMs : Nat) :
    Except RouteError RouteSelectionOutcome := do
  rejectIf (state.phase ≠ .routed) (.wrongPhase state.phase)
  let selection ← require state.selection (.wrongPhase state.phase)
  rejectIf (requested = .succeeded ∧ elapsedMs > selection.durationBudgetMs)
    (.deadlineExceeded elapsedMs selection.durationBudgetMs)
  rejectIf (requested = .failedTimeout ∧ elapsedMs ≤ selection.durationBudgetMs)
    (.deadlineNotReached elapsedMs selection.durationBudgetMs)
  return selection

end RouteOperationState

/-! ## Calls -/

/-- A call on the route operation of a session. -/
abbrev RouteCall (Value : Type) : Type := Call RouteOperationState RouteError Value

def markCapable (participantId : String) : RouteCall Unit := do
  Call.check (fun state => do
    rejectIf (state.phase ≠ .drone ∧ state.phase ≠ .choiceOpen) (.wrongPhase state.phase)
    rejectIf (¬ ∃ participant ∈ state.participants, participant.participantId = participantId)
      (.unknownParticipant participantId))
  Call.update (fun state =>
    { state with
      participants := RouteOperationState.markFirst participantId state.participants })

def openChoice : RouteCall Unit := do
  Call.check (fun state => rejectIf (state.phase ≠ .drone) (.wrongPhase state.phase))
  Call.update (fun state => { state with phase := .choiceOpen })

def lockBaseline : RouteCall Unit := do
  Call.check (fun state =>
    rejectIf (state.phase ≠ .choiceOpen ∨ state.selection.isSome) (.wrongPhase state.phase))
  Call.update (fun state => { state with phase := .baselineLocked })

/-- A retry with the same input answers with the stored choice. -/
def select (requesterId operationId : String) (routeId : RouteId) (candidateSeed : RouteSeed) :
    RouteCall (OperationReceipt RouteSelectionOutcome) := do
  let earlier ← Call.check (fun state => do
    validateOperationId operationId
    rejectIf (¬ ∃ participant ∈ state.participants, participant.participantId = requesterId)
      (.unknownParticipant requesterId)
    state.earlierSelection requesterId operationId routeId)
  match earlier with
  | some selection => return { disposition := .replayed, outcome := selection }
  | none => do
      Call.check (fun state => do
        rejectIf (state.phase ≠ .choiceOpen) (.wrongPhase state.phase)
        rejectIf (state.leaderId ≠ some requesterId) .notLeader
        rejectIf (state.allCapable = false) .capabilityIncomplete
        validateCatalog routeCatalog routeEventCatalog)
      let outcome := RouteOperationState.chosen requesterId operationId routeId candidateSeed
      Call.update (fun state => { state with phase := .routed, selection := some outcome })
      return { disposition := .applied, outcome }

def finish (requested : TerminalOutcome) (elapsedMs : Nat) :
    RouteCall (OperationReceipt RouteOperationSummary) := do
  let earlier ← Call.check (RouteOperationState.earlierTerminal · requested elapsedMs)
  match earlier with
  | some stored => return { disposition := .replayed, outcome := stored }
  | none => do
      let outcome ← Call.check (fun state => do
        let selection ← state.finishable requested elapsedMs
        return state.summary selection requested elapsedMs)
      Call.update (fun state => { state with phase := requested.phase, terminal := some outcome })
      return { disposition := .applied, outcome }

def complete (elapsedMs : Nat) : RouteCall (OperationReceipt RouteOperationSummary) :=
  finish .succeeded elapsedMs

def failTimeout (elapsedMs : Nat) : RouteCall (OperationReceipt RouteOperationSummary) :=
  finish .failedTimeout elapsedMs

inductive RouteCommand where
  | markCapable (participantId : String)
  | openChoice
  | lockBaseline
  | select (requesterId operationId : String) (routeId : RouteId) (candidateSeed : RouteSeed)
  | complete (elapsedMs : Nat)
  | failTimeout (elapsedMs : Nat)
  deriving DecidableEq

/-- What a command answers with. -/
inductive RouteAnswer where
  | done
  | selected (receipt : OperationReceipt RouteSelectionOutcome)
  | finished (receipt : OperationReceipt RouteOperationSummary)
  deriving DecidableEq

def perform : RouteCommand → RouteCall RouteAnswer
  | .markCapable participantId => do
      markCapable participantId
      return .done
  | .openChoice => do
      openChoice
      return .done
  | .lockBaseline => do
      lockBaseline
      return .done
  | .select requesterId operationId routeId candidateSeed => do
      let receipt ← select requesterId operationId routeId candidateSeed
      return .selected receipt
  | .complete elapsedMs => do
      let receipt ← complete elapsedMs
      return .finished receipt
  | .failTimeout elapsedMs => do
      let receipt ← failTimeout elapsedMs
      return .finished receipt

end Operations
end Revenant
