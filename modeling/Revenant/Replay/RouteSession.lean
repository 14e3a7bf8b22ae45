import Revenant.Library.EventFold
import Revenant.Replay.Session

namespace Revenant
namespace Replay

open Library Operations

/-!
# Reading a routed session

The reader collects the admission snapshots, takes one route selection against
them, counts completions and rewards until the terminal, and compares the counts
with it.
-/

structure SnapshotEvidence where
  accountId : String
  actorId : Nat
  protocolGeneration : ReplayProtocolGeneration
  state : ReplayModuleStateEvidence
  deriving DecidableEq

structure RouteReplayAccumulator where
  snapshots : List (String × SnapshotEvidence)
  snapshotOrder : List String
  selection : Option RouteSelectedPayload
  terminal : Option RouteTerminalPayload
  activityCompletions : Nat
  lootGrants : List (String × Nat × Nat)
  progressionGrants : List (String × Nat × Nat)
  observedActivityId : Option String
  mixedActivity : Bool
  deriving DecidableEq

inductive ReconstructedRouteState where
  | legacy
  | routedIncomplete
  | succeeded
  | failed
  deriving DecidableEq, Repr

structure ReconstructedRouteReplay where
  state : ReconstructedRouteState
  selection : Option RouteSelectedPayload
  terminal : Option RouteTerminalPayload
  deriving DecidableEq

/-- The whole payload is decoded as one kind of route evidence. -/
def decodeRoute {Evidence : Type} (view : RouteReplayPayload → Option Evidence)
    (payload : Payload) : Except ReplayError Evidence := do
  let encoded ← require payload.route? (routeError "invalid route replay JSON")
  rejectIf (encoded.length > maxRouteReplayPayloadBytes)
    (routeError "route replay payload exceeds 8192 UTF-8 bytes")
  require (encoded.value.bind view) (routeError "invalid route replay JSON")

/-! ## The texts of rewards -/

/-- The quantity behind `loot granted: relay_core_fragment x<n> (total <t>)`. -/
def routeFragmentQuantity (payload : Payload) : Option Nat := do
  let letters ← payload.letters?
  let suffix ← Text.stripPrefix "loot granted: relay_core_fragment x".toList letters
  let (quantity, total) ← Text.splitOnce " (total ".toList suffix
  let digits ← Text.stripSuffix ")".toList total
  let _ ← Text.parseUnsigned u32Max digits
  Text.parseUnsigned u32Max quantity

/-- The experience behind `progression granted: +<e> XP (total <t>, level <p> -> <l>)`. -/
def routeExperienceQuantity (payload : Payload) : Option Nat := do
  let letters ← payload.letters?
  let suffix ← Text.stripPrefix "progression granted: +".toList letters
  let (experience, suffix) ← Text.splitOnce " XP (total ".toList suffix
  let (total, levels) ← Text.splitOnce ", level ".toList suffix
  let levels ← Text.stripSuffix ")".toList levels
  let (previousLevel, level) ← Text.splitOnce " -> ".toList levels
  let _ ← Text.parseUnsigned u64Max total
  let _ ← Text.parseUnsigned u32Max previousLevel
  let _ ← Text.parseUnsigned u32Max level
  Text.parseUnsigned u64Max experience

/-! ## One event -/

namespace RouteReplayAccumulator

def start : RouteReplayAccumulator :=
  { snapshots := [], snapshotOrder := [], selection := none, terminal := none
    activityCompletions := 0, lootGrants := [], progressionGrants := []
    observedActivityId := none, mixedActivity := false }

/-- The first activity is noted; a different one later marks the session as mixed. -/
def observe (reading : RouteReplayAccumulator) (event : ReplayEvent) : RouteReplayAccumulator :=
  match event.activityId, reading.observedActivityId with
  | none, _ => reading
  | some activityId, none => { reading with observedActivityId := some activityId }
  | some activityId, some observed =>
      { reading with mixedActivity := reading.mixedActivity || decide (observed ≠ activityId) }

/-- An admission: the character of a snapshot row with what it records. -/
def recordSnapshot (reading : RouteReplayAccumulator) (event : ReplayEvent) :
    Except ReplayError RouteReplayAccumulator := do
  let payload ← decodeModule ModuleReplayPayload.stateSnapshot? event.payload
  payload.validate
  let actorId ← require event.actorId (routeError "module snapshot has no actor")
  rejectIf (payload.characterId ∈ reading.snapshots.map Prod.fst)
    (routeError "participant module snapshot is duplicated")
  return { reading with
    snapshotOrder := reading.snapshotOrder ++ [payload.characterId]
    snapshots := reading.snapshots ++ [(payload.characterId,
      { accountId := event.accountId, actorId, protocolGeneration := payload.protocolGeneration
        state := payload.state })] }

def recordAdmission (reading : RouteReplayAccumulator) (event : ReplayEvent) :
    Except ReplayError RouteReplayAccumulator :=
  if event.kind = .moduleStateSnapshot then do
    rejectIf reading.selection.isSome
      (routeError "routed admission snapshot appears after route selection")
    reading.recordSnapshot event
  else .ok reading

/-- Insert a grant under an account that has none. -/
def insertGrant (grants : List (String × Nat × Nat)) (accountId : String) (grant : Nat × Nat)
    (duplicate : String) : Except ReplayError (List (String × Nat × Nat)) := do
  rejectIf (accountId ∈ grants.map Prod.fst) (routeError duplicate)
  return grants ++ [(accountId, grant)]

def recordCompletion (reading : RouteReplayAccumulator) (selection : RouteSelectedPayload)
    (event : ReplayEvent) : Except ReplayError RouteReplayAccumulator := do
  rejectIf (event.activityId ≠ some selection.activityId ∨
      ¬ ∃ leader ∈ selection.participants.head?,
        event.accountId = leader.participantId ∧ event.actorId = some leader.actorId)
    (routeError "routed activity completion row disagrees with its leader")
  rejectIf (reading.activityCompletions ≥ u64Max)
    (routeError "activity completion count overflowed")
  return { reading with activityCompletions := reading.activityCompletions + 1 }

def recordLoot (reading : RouteReplayAccumulator) (selection : RouteSelectedPayload)
    (event : ReplayEvent) : Except ReplayError RouteReplayAccumulator := do
  rejectIf (event.activityId ≠ some selection.activityId)
    (routeError "routed loot grant activity disagrees with selection")
  let quantity ← require (routeFragmentQuantity event.payload)
    (routeError "routed loot replay payload is not the exact fragment grant")
  let actorId ← require event.actorId (routeError "routed loot grant has no actor")
  let lootGrants ← insertGrant reading.lootGrants event.accountId (actorId, quantity)
    "routed participant has duplicate loot grants"
  return { reading with lootGrants }

def recordProgression (reading : RouteReplayAccumulator) (selection : RouteSelectedPayload)
    (event : ReplayEvent) : Except ReplayError RouteReplayAccumulator := do
  rejectIf (event.activityId ≠ some selection.activityId)
    (routeError "routed progression grant activity disagrees with selection")
  let experience ← require (routeExperienceQuantity event.payload)
    (routeError "routed progression replay payload is malformed")
  let actorId ← require event.actorId (routeError "routed progression grant has no actor")
  let progressionGrants ← insertGrant reading.progressionGrants event.accountId
    (actorId, experience) "routed participant has duplicate progression grants"
  return { reading with progressionGrants }

/-- A completion or a reward between the selection and the terminal. -/
def recordGenericEvent (reading : RouteReplayAccumulator) (event : ReplayEvent) :
    Except ReplayError RouteReplayAccumulator :=
  match reading.selection, reading.terminal with
  | some selection, none =>
      match event.kind with
      | .activityCompleted => reading.recordCompletion selection event
      | .lootGranted => reading.recordLoot selection event
      | .progressionGranted => reading.recordProgression selection event
      | _ => .ok reading
  | _, _ => .ok reading

/-- The evidence a participant's admission must have recorded. -/
def admittedEvidence (participant : ReplayRouteParticipantEvidence) : SnapshotEvidence :=
  { accountId := participant.participantId, actorId := participant.actorId
    protocolGeneration := .v2, state := participant.moduleState }

def validateAdmission (snapshots : List (String × SnapshotEvidence)) :
    List ReplayRouteParticipantEvidence → Except ReplayError Unit
  | [] => .ok ()
  | participant :: rest => do
      let snapshot ← require (snapshots.lookup participant.characterId)
        (routeError "route participant has no M26 module snapshot")
      rejectIf (snapshot ≠ admittedEvidence participant)
        (routeError "route participant disagrees with immutable admission evidence")
      validateAdmission snapshots rest

def validateSelectionEvent (reading : RouteReplayAccumulator) (event : ReplayEvent)
    (payload : RouteSelectedPayload) : Except ReplayError Unit := do
  validateBoundedIdentity event.sessionId "session"
  rejectIf (event.activityId ≠ some payload.activityId)
    (routeError "selection row activity disagrees with payload")
  let leader ← require payload.participants.head? (routeError "route selection has no leader")
  rejectIf (event.accountId ≠ leader.participantId ∨ event.actorId ≠ some leader.actorId ∨
      payload.leaderId ≠ leader.participantId)
    (routeError "selection row identity disagrees with the admitted leader")
  rejectIf (reading.snapshots.length ≠ payload.participants.length ∨
      reading.snapshotOrder ≠
        payload.participants.map ReplayRouteParticipantEvidence.characterId)
    (routeError "route participants disagree with immutable admission order")
  validateAdmission reading.snapshots payload.participants

def validateTerminalEvent (outcome : TerminalOutcome) (event : ReplayEvent)
    (payload : RouteTerminalPayload) (selection : RouteSelectedPayload) :
    Except ReplayError Unit := do
  validateTerminalPayload outcome payload selection
  let leader ← require selection.participants.head? (routeError "route selection has no leader")
  rejectIf (event.activityId ≠ some selection.activityId ∨
      event.accountId ≠ leader.participantId ∨ event.actorId ≠ some leader.actorId)
    (routeError "terminal row identity disagrees with the admitted leader")

/-- The counted completions and rewards against the terminal. -/
def validateGenericTerminalEvidence (reading : RouteReplayAccumulator) (outcome : TerminalOutcome)
    (selection : RouteSelectedPayload) (terminal : RouteTerminalPayload) :
    Except ReplayError Unit :=
  match outcome with
  | .failedTimeout =>
      rejectIf (reading.activityCompletions ≠ 0 ∨ reading.lootGrants ≠ [] ∨
          reading.progressionGrants ≠ [])
        (routeError "failed route contains generic completion or reward evidence")
  | .succeeded => do
      rejectIf (reading.activityCompletions ≠ 1 ∨
          reading.lootGrants.length ≠ selection.participants.length ∨
          reading.progressionGrants.length ≠ selection.participants.length)
        (routeError "successful route generic completion/reward evidence is incomplete")
      rejectIf (∃ pair ∈ selection.participants.zip terminal.grants,
          reading.lootGrants.lookup pair.1.participantId ≠
            some (pair.1.actorId, pair.2.itemQuantity) ∨
          reading.progressionGrants.lookup pair.1.participantId ≠
            some (pair.1.actorId, pair.2.experience))
        (routeError "generic reward replay disagrees with route terminal grants")

def recordSelection (reading : RouteReplayAccumulator) (event : ReplayEvent) :
    Except ReplayError RouteReplayAccumulator := do
  rejectIf (reading.selection.isSome ∨ reading.terminal.isSome)
    (routeError "route selection is duplicated or post-terminal")
  let payload ← decodeRoute RouteReplayPayload.selected? event.payload
  validateSelectionPayload payload
  reading.validateSelectionEvent event payload
  return { reading with selection := some payload }

def recordTerminal (reading : RouteReplayAccumulator) (outcome : TerminalOutcome)
    (event : ReplayEvent) : Except ReplayError RouteReplayAccumulator := do
  rejectIf reading.terminal.isSome (routeError "route terminal evidence is duplicated")
  let selection ← require reading.selection
    (routeError "route terminal precedes route selection")
  let payload ← decodeRoute RouteReplayPayload.terminal? event.payload
  validateTerminalShape payload
  validateTerminalEvent outcome event payload selection
  reading.validateGenericTerminalEvidence outcome selection payload
  return { reading with terminal := some payload }

/-- The outcome the kind of a terminal row stands for. -/
def terminalOutcome? : ReplayEventKind → Option TerminalOutcome
  | .routeOperationSucceeded => some .succeeded
  | .routeOperationFailed => some .failedTimeout
  | _ => none

def recordRouteEvent (reading : RouteReplayAccumulator) (event : ReplayEvent) :
    Except ReplayError RouteReplayAccumulator :=
  if event.kind = .routeSelected then reading.recordSelection event
  else match terminalOutcome? event.kind with
    | some outcome => reading.recordTerminal outcome event
    | none => .ok reading

/-- The kinds that complete the activity or grant a reward. -/
def concludes : ReplayEventKind → Bool
  | .activityCompleted | .lootGranted | .progressionGranted => true
  | _ => false

def apply (reading : RouteReplayAccumulator) (event : ReplayEvent) :
    Except ReplayError RouteReplayAccumulator := do
  let admitted ← (reading.observe event).recordAdmission event
  rejectIf (admitted.terminal.isSome ∧ concludes event.kind = true)
    (routeError "generic completion or reward evidence appears after route terminal")
  let counted ← admitted.recordGenericEvent event
  let next ← counted.recordRouteEvent event
  rejectIf (next.selection.isSome ∧ next.mixedActivity = true)
    (routeError "routed session mixes activity identifiers")
  return next

def finish (reading : RouteReplayAccumulator) : Except ReplayError ReconstructedRouteReplay :=
  match reading.selection with
  | none => .ok { state := .legacy, selection := none, terminal := none }
  | some selection =>
      match reading.terminal.map (fun payload : RouteTerminalPayload => payload.summary.outcome) with
      | none => do
          rejectIf (reading.activityCompletions ≠ 0 ∨ reading.lootGrants ≠ [] ∨
              reading.progressionGrants ≠ [])
            (routeError "incomplete route has completion or reward replay evidence")
          return { state := .routedIncomplete, selection := some selection
                   terminal := reading.terminal }
      | some .succeeded =>
          .ok { state := .succeeded, selection := some selection, terminal := reading.terminal }
      | some .failedTimeout =>
          .ok { state := .failed, selection := some selection, terminal := reading.terminal }

end RouteReplayAccumulator

def readRoute (events : List ReplayEvent) : Except ReplayError RouteReplayAccumulator :=
  events.foldlM RouteReplayAccumulator.apply .start

def reconstructRouteReplay (events : List ReplayEvent) :
    Except ReplayError ReconstructedRouteReplay := do
  let reading ← readRoute events
  reading.finish

end Replay
end Revenant
