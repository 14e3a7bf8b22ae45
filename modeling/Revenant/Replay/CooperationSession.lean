import Revenant.Replay.Cooperation

namespace Revenant
namespace Replay

open Library Cooperation

/-!
# Reading a cooperative session

The reader collects the admission snapshots and takes one cooperation start
against them, after the drone and before the Warden.  Behind the start it takes
the ping, the downing and the revive in their order, counts completions and
rewards, and ends at a terminal that the counts must settle.

A row comes with what its text decodes to as cooperation evidence; only the rows
of a cooperation are decoded so.
-/

structure CooperationReplayAccumulator where
  snapshots : List (String × SnapshotEvidence)
  snapshotOrder : List String
  started : Option CooperationStartedPayload
  pinged : Option CooperationPingedPayload
  downed : Option PlayerDownedPayload
  revived : Option PlayerRevivedPayload
  terminal : Option CooperationTerminalPayload
  activityCompletions : Nat
  lootGrants : List (String × Nat × Nat)
  progressionGrants : List (String × Nat × Nat)
  sawActivityStarted : Bool
  enemyDefeats : Nat
  bossSpawned : Bool
  sawRouteEvent : Bool
  deriving DecidableEq

inductive ReconstructedCooperationState where
  | legacy
  | active
  | succeeded
  | failed
  deriving DecidableEq, Repr

structure ReconstructedCooperationReplay where
  state : ReconstructedCooperationState
  started : Option CooperationStartedPayload
  pinged : Option CooperationPingedPayload
  downed : Option PlayerDownedPayload
  revived : Option PlayerRevivedPayload
  terminal : Option CooperationTerminalPayload
  deriving DecidableEq

/-- A row with the cooperation evidence of its text, and the length of that text. -/
structure CooperationEvent where
  row : ReplayEvent
  evidence : Encoded CooperationReplayPayload
  deriving DecidableEq

/-- The whole payload is decoded as one kind of cooperation evidence. -/
def decodeCooperation {Evidence : Type} (view : CooperationReplayPayload → Option Evidence)
    (event : CooperationEvent) : Except ReplayError Evidence := do
  rejectIf (event.evidence.length > maxCooperationReplayPayloadBytes)
    (cooperationError "cooperation replay payload exceeds 8192 UTF-8 bytes")
  require (event.evidence.value.bind view) (cooperationError "invalid cooperation replay JSON")

/-- The quantity of a fragment grant, read as a route reads it. -/
def fragmentQuantity (payload : Payload) : Option Nat := routeFragmentQuantity payload

/-- The experience of a progression grant, read as a route reads it. -/
def experienceQuantity (payload : Payload) : Option Nat := routeExperienceQuantity payload

namespace CooperationReplayAccumulator

open CooperationReplay

def start : CooperationReplayAccumulator :=
  { snapshots := [], snapshotOrder := [], started := none, pinged := none, downed := none
    revived := none, terminal := none, activityCompletions := 0, lootGrants := []
    progressionGrants := [], sawActivityStarted := false, enemyDefeats := 0, bossSpawned := false
    sawRouteEvent := false }

/-- A route row is noted, and must come before any cooperation. -/
def noteRoute (reading : CooperationReplayAccumulator) (event : ReplayEvent) :
    Except ReplayError CooperationReplayAccumulator :=
  if event.kind.isRouteEvent = true then do
    rejectIf (reading.started.isSome = true)
      (cooperationError "route and cooperation replay coexist")
    return { reading with sawRouteEvent := true }
  else .ok reading

def recordSnapshot (reading : CooperationReplayAccumulator) (event : ReplayEvent) :
    Except ReplayError CooperationReplayAccumulator :=
  if event.kind = .moduleStateSnapshot then do
    rejectIf (reading.started.isSome = true)
      (cooperationError "cooperation admission snapshot appears after start")
    let payload ← decodeModule ModuleReplayPayload.stateSnapshot? event.payload
    payload.validate
    let actorId ← require event.actorId (cooperationError "module snapshot has no actor")
    rejectIf (payload.characterId ∈ reading.snapshots.map Prod.fst)
      (cooperationError "module snapshot is duplicated")
    return { reading with
      snapshotOrder := reading.snapshotOrder ++ [payload.characterId]
      snapshots := reading.snapshots ++ [(payload.characterId,
        { accountId := event.accountId, actorId, protocolGeneration := payload.protocolGeneration
          state := payload.state })] }
  else .ok reading

/-- What the rows say about the main mission. -/
def noteMission (reading : CooperationReplayAccumulator) (event : ReplayEvent) :
    Except ReplayError CooperationReplayAccumulator :=
  match event.kind with
  | .activityStarted => .ok { reading with sawActivityStarted := true }
  | .enemyDied => do
      rejectIf (reading.enemyDefeats ≥ u64Max) (cooperationError "enemy defeat count overflowed")
      return { reading with enemyDefeats := reading.enemyDefeats + 1 }
  | .bossSpawned => .ok { reading with bossSpawned := true }
  | _ => .ok reading

/-- Insert a grant under an account that has none. -/
def insertGrant (grants : List (String × Nat × Nat)) (accountId : String) (grant : Nat × Nat)
    (duplicate : String) : Except ReplayError (List (String × Nat × Nat)) := do
  rejectIf (accountId ∈ grants.map Prod.fst) (cooperationError duplicate)
  return grants ++ [(accountId, grant)]

def recordCompletion (reading : CooperationReplayAccumulator) (started : CooperationStartedPayload)
    (event : ReplayEvent) : Except ReplayError CooperationReplayAccumulator := do
  let anchor ← participantOf started .anchor
  rejectIf (event.activityId ≠ some started.activityId ∨ event.accountId ≠ anchor.participantId ∨
      event.actorId ≠ some anchor.actorId ∨ event.payload ≠ .text "activity completed")
    (cooperationError "cooperation completion row disagrees with anchor")
  rejectIf (reading.activityCompletions ≥ u64Max) (cooperationError "completion count overflowed")
  return { reading with activityCompletions := reading.activityCompletions + 1 }

def recordLoot (reading : CooperationReplayAccumulator) (started : CooperationStartedPayload)
    (event : ReplayEvent) : Except ReplayError CooperationReplayAccumulator := do
  rejectIf (event.activityId ≠ some started.activityId)
    (cooperationError "cooperation loot activity is wrong")
  let quantity ← require (fragmentQuantity event.payload)
    (cooperationError "cooperation loot payload is malformed")
  let actorId ← require event.actorId (cooperationError "cooperation loot has no actor")
  let lootGrants ← insertGrant reading.lootGrants event.accountId (actorId, quantity)
    "cooperation loot is duplicated"
  return { reading with lootGrants }

def recordProgression (reading : CooperationReplayAccumulator)
    (started : CooperationStartedPayload) (event : ReplayEvent) :
    Except ReplayError CooperationReplayAccumulator := do
  rejectIf (event.activityId ≠ some started.activityId)
    (cooperationError "cooperation progression activity is wrong")
  let experience ← require (experienceQuantity event.payload)
    (cooperationError "cooperation progression payload is malformed")
  let actorId ← require event.actorId (cooperationError "cooperation progression has no actor")
  let progressionGrants ← insertGrant reading.progressionGrants event.accountId
    (actorId, experience) "cooperation progression is duplicated"
  return { reading with progressionGrants }

/-- A completion or a reward between the start and the terminal. -/
def recordGenericEvent (reading : CooperationReplayAccumulator) (event : ReplayEvent) :
    Except ReplayError CooperationReplayAccumulator :=
  match reading.started, reading.terminal with
  | some started, none =>
      match event.kind with
      | .activityCompleted => reading.recordCompletion started event
      | .lootGranted => reading.recordLoot started event
      | .progressionGranted => reading.recordProgression started event
      | _ => .ok reading
  | _, _ => .ok reading

/-! ## The rows of a cooperation -/

/-- A row of the participant in a role's place. -/
def validateEventIdentity (event : ReplayEvent) (started : CooperationStartedPayload)
    (role : Role) : Except ReplayError Unit := do
  let participant ← participantOf started role
  rejectIf (event.activityId ≠ some started.activityId ∨
      event.accountId ≠ participant.participantId ∨ event.actorId ≠ some participant.actorId)
    (cooperationError "cooperation replay row identity disagrees with participant")

/-- The evidence a participant's admission must have recorded. -/
def admittedEvidence (participant : ReplayCooperationParticipantEvidence) : SnapshotEvidence :=
  { accountId := participant.participantId, actorId := participant.actorId
    protocolGeneration := .v2, state := participant.moduleState }

def validateAdmission (snapshots : List (String × SnapshotEvidence)) :
    List ReplayCooperationParticipantEvidence → Except ReplayError Unit
  | [] => .ok ()
  | participant :: rest => do
      let snapshot ← require (snapshots.lookup participant.characterId)
        (cooperationError "cooperation participant has no snapshot")
      rejectIf (snapshot ≠ admittedEvidence participant)
        (cooperationError "cooperation participant disagrees with admission snapshot")
      validateAdmission snapshots rest

def validateStartedEvent (reading : CooperationReplayAccumulator) (event : ReplayEvent)
    (payload : CooperationStartedPayload) : Except ReplayError Unit := do
  validateEventIdentity event payload .anchor
  rejectIf (reading.snapshots.length ≠ participantCount ∨
      reading.snapshotOrder.length ≠ participantCount ∨
      ∃ pair ∈ reading.snapshotOrder.zip payload.participants, pair.1 ≠ pair.2.characterId)
    (cooperationError "cooperation participants disagree with admission order")
  validateAdmission reading.snapshots payload.participants

def recordStarted (reading : CooperationReplayAccumulator) (event : CooperationEvent) :
    Except ReplayError CooperationReplayAccumulator := do
  rejectIf (reading.started.isSome = true ∨ reading.sawRouteEvent = true ∨
      reading.sawActivityStarted = false)
    (cooperationError "cooperation start is duplicate, routed, or precedes activity")
  rejectIf (reading.enemyDefeats ≠ 1 ∨ reading.bossSpawned = true)
    (cooperationError "cooperation start is outside the Drone-to-Warden boundary")
  let payload ← decodeCooperation CooperationReplayPayload.started? event
  validateStartedPayload payload
  reading.validateStartedEvent event.row payload
  return { reading with started := some payload }

def recordPinged (reading : CooperationReplayAccumulator) (event : CooperationEvent) :
    Except ReplayError CooperationReplayAccumulator := do
  rejectIf (reading.pinged.isSome = true ∨ reading.downed.isSome = true ∨
      reading.revived.isSome = true) (cooperationError "cooperation ping is duplicate or late")
  let started ← require reading.started (cooperationError "cooperation ping precedes start")
  let payload ← decodeCooperation CooperationReplayPayload.pinged? event
  validatePingedPayload payload started
  validateEventIdentity event.row started .anchor
  return { reading with pinged := some payload }

def recordDowned (reading : CooperationReplayAccumulator) (event : CooperationEvent) :
    Except ReplayError CooperationReplayAccumulator := do
  rejectIf (reading.downed.isSome = true ∨ reading.revived.isSome = true)
    (cooperationError "player downing is duplicate or late")
  let started ← require reading.started (cooperationError "player downing precedes start")
  let pinged ← require reading.pinged (cooperationError "player downing precedes ping")
  let payload ← decodeCooperation CooperationReplayPayload.downed? event
  validateDownedPayload payload started pinged
  validateEventIdentity event.row started .runner
  return { reading with downed := some payload }

def recordRevived (reading : CooperationReplayAccumulator) (event : CooperationEvent) :
    Except ReplayError CooperationReplayAccumulator := do
  rejectIf (reading.revived.isSome = true) (cooperationError "player revive is duplicated")
  let started ← require reading.started (cooperationError "player revive precedes start")
  let downed ← require reading.downed (cooperationError "player revive precedes downing")
  let payload ← decodeCooperation CooperationReplayPayload.revived? event
  validateRevivedPayload payload started downed
  validateEventIdentity event.row started .runner
  return { reading with revived := some payload }

def rows (reading : CooperationReplayAccumulator) : CooperationReplayPrefix :=
  { pinged := reading.pinged, downed := reading.downed, revived := reading.revived }

/-- The counted completions and rewards against the terminal. -/
def validateGenericTerminal (reading : CooperationReplayAccumulator) (success : Bool)
    (started : CooperationStartedPayload) (payload : CooperationTerminalPayload) :
    Except ReplayError Unit :=
  if success = false then
    rejectIf (reading.activityCompletions ≠ 0 ∨ reading.lootGrants ≠ [] ∨
        reading.progressionGrants ≠ []) (cooperationError "failed cooperation has generic rewards")
  else do
    rejectIf (reading.activityCompletions ≠ 1 ∨ reading.lootGrants.length ≠ participantCount ∨
        reading.progressionGrants.length ≠ participantCount)
      (cooperationError "successful cooperation generic evidence is incomplete")
    rejectIf (∃ participant ∈ started.participants,
        reading.lootGrants.lookup participant.participantId ≠
          some (participant.actorId, successReward.fragments) ∨
        reading.progressionGrants.lookup participant.participantId ≠
          some (participant.actorId, successReward.experience))
      (cooperationError "successful cooperation generic grant disagrees")
    rejectIf (payload.grants.length ≠ participantCount)
      (cooperationError "successful cooperation grants are incomplete")

def recordTerminal (success : Bool) (reading : CooperationReplayAccumulator)
    (event : CooperationEvent) :
    Except ReplayError CooperationReplayAccumulator := do
  let started ← require reading.started (cooperationError "cooperation terminal precedes start")
  let payload ← decodeCooperation CooperationReplayPayload.terminal? event
  CooperationReplay.validateTerminalPayload success payload started reading.rows
  validateEventIdentity event.row started .anchor
  reading.validateGenericTerminal success started payload
  return { reading with terminal := some payload }

def recordCooperationEvent (reading : CooperationReplayAccumulator) (event : CooperationEvent) :
    Except ReplayError CooperationReplayAccumulator :=
  match event.row.kind with
  | .cooperationStarted => reading.recordStarted event
  | .cooperationPinged => reading.recordPinged event
  | .playerDowned => reading.recordDowned event
  | .playerRevived => reading.recordRevived event
  | .cooperationSucceeded => reading.recordTerminal true event
  | .cooperationFailed => reading.recordTerminal false event
  | _ => .ok reading

def apply (reading : CooperationReplayAccumulator) (event : CooperationEvent) :
    Except ReplayError CooperationReplayAccumulator := do
  let routed ← reading.noteRoute event.row
  let admitted ← routed.recordSnapshot event.row
  rejectIf (admitted.terminal.isSome = true ∧ (event.row.kind.isCooperationEvent = true ∨
      RouteReplayAccumulator.concludes event.row.kind = true))
    (cooperationError "cooperation or generic reward evidence appears after terminal")
  let noted ← admitted.noteMission event.row
  let counted ← noted.recordGenericEvent event.row
  counted.recordCooperationEvent event

def finish (reading : CooperationReplayAccumulator) :
    Except ReplayError ReconstructedCooperationReplay :=
  match reading.started with
  | none =>
      .ok { state := .legacy, started := none, pinged := none, downed := none, revived := none
            terminal := none }
  | some started => do
      rejectIf (reading.terminal = none ∧ (reading.activityCompletions ≠ 0 ∨
          reading.lootGrants ≠ [] ∨ reading.progressionGrants ≠ []))
        (cooperationError "incomplete cooperation has completion or reward evidence")
      return {
        state := match reading.terminal.map CooperationTerminalPayload.outcome with
          | some .succeeded => .succeeded
          | some _ => .failed
          | none => .active
        started := some started, pinged := reading.pinged, downed := reading.downed
        revived := reading.revived, terminal := reading.terminal }

end CooperationReplayAccumulator

def readCooperation (events : List CooperationEvent) :
    Except ReplayError CooperationReplayAccumulator :=
  events.foldlM CooperationReplayAccumulator.apply .start

def reconstructCooperationReplay (events : List CooperationEvent) :
    Except ReplayError ReconstructedCooperationReplay := do
  let reading ← readCooperation events
  reading.finish

end Replay
end Revenant
