import Revenant.Campaign.Policy
import Revenant.Replay.Elite
import Revenant.Replay.FieldActivity
import Revenant.Replay.Prism
import Revenant.Replay.Support

namespace Revenant
namespace Replay

open Library

/-!
# The authority of a campaign session

A checkpoint row carries the transition it stands for.  The reader follows the
save from checkpoint to checkpoint and demands, for every confirmed milestone
and every story choice, a row of the world between the checkpoint before and
this one.
-/

structure CampaignReplayPayload where
  schemaVersion : Nat
  characterId : String
  operationId : String
  transition : Campaign.Transition
  proofEventId : Option Int
  deriving DecidableEq

structure CampaignStoryProof where
  revision : String
  characterId : String
  stateRevision : Nat
  runId : String
  chapter : ChapterId
  checkpoint : Nat
  position : Position
  action : Campaign.Story.Command
  deriving DecidableEq

structure ReconstructedCampaign where
  characterId : String
  state : CampaignState
  checkpoints : Nat
  firstClears : Nat
  deriving DecidableEq

/-- How the texts of campaign rows read as JSON.  The encounter validators see
the state of such a row through `Payload.campaign?`. -/
structure CampaignReaders where
  checkpoint : Payload → Encoded CampaignReplayPayload
  resume : Payload → Encoded CampaignResumePayload
  story : Payload → Encoded CampaignStoryProof

/-- Entering a chapter records a choice; everything else cites a row. -/
def CampaignReplayPayload.citesProof (entry : CampaignReplayPayload) : Bool :=
  match entry.transition.command with
  | .enter _ _ _ => entry.proofEventId.isNone
  | .confirm _ _ | .story _ _ _ => entry.proofEventId.any (fun id => decide (0 < id))

def CampaignReplayPayload.validate (entry : CampaignReplayPayload) : Except ReplayError Unit := do
  entry.transition.validate.mapError (fun _ => invalidModule "campaign transition")
  rejectIf (entry.schemaVersion ≠ 1 ∨ entry.characterId = "" ∨
    entry.characterId.utf8ByteSize > 256 ∨ ¬ Campaign.PlainRunId entry.operationId ∨
    entry.citesProof = false)
    (invalidModule "invalid campaign identity or proof reference")

namespace Campaign

/-! ## Texts of the authored objectives -/

def counterObjective : Revenant.Milestone → Option String
  | .counterApproachReached => some "counter-v1:approach:2,0,6"
  | .counterSupportCleared => some "counter-v1:support-cleared"
  | .counterSignalDecoded => some "counter-v1:transmission:7,0,6"
  | .counterBastionReached => some "counter-v1:bastion:5,0,-6"
  | .counterBastionCleared => some "counter-v1:bastion-cleared"
  | .counterSignalIsolated => some "counter-v1:emitter:9,0,-6"
  | _ => none

def breachObjective : Revenant.Milestone → Option String
  | .breachDoorReached => some "breach-v1:door:6,0,0"
  | .breachCircuitStabilized => some "breach-v1:stabilizer:3,0,3"
  | .breachCoreReached => some "breach-v1:core:10,0,0"
  | _ => none

def prismObjective : Revenant.Milestone → Option String
  | .prismChamberReached => some "prism-core-v1:arrival:5,0,2"
  | .prismWardenCleared => some "prism-core-v1:warden-cleared"
  | .prismSourceStopped => some "prism-core-v1:shutdown:8,0,0"
  | .prismReturnCompleted => some "prism-core-v1:return:0,0,0"
  | _ => none

def authoredObjective : Revenant.Milestone → Option String
  | .supplyRouteReached => some "supply-v1:route:-4,0,4"
  | .supplyCellRecovered => some "supply-v1:cell:-4,0,-3"
  | .supplyDelivered => some "supply-v1:delivery:-1,0,-5"
  | milestone =>
      (counterObjective milestone).or ((breachObjective milestone).or (prismObjective milestone))

def serviceObjective : String := "supply-service-v1:route:-8,0,-3"

/-- The service approach moves the first station of the third chapter. -/
def authoredForState (state : CampaignState) (milestone : Revenant.Milestone) : Option String :=
  if milestone = .supplyRouteReached ∧ state.story.supplyApproach = .service then
    some serviceObjective
  else authoredObjective milestone

section Readers

variable (readers : CampaignReaders)

def decodeCampaignPayload (payload : Payload) : Except ReplayError CampaignReplayPayload := do
  rejectIf ((readers.checkpoint payload).length > 8192)
    (invalidModule "campaign payload exceeds its bound")
  let entry ← require (readers.checkpoint payload).value (invalidModule "campaign payload")
  entry.validate
  return entry

/-- The save a boundary leaves behind. -/
def boundaryState (boundary : ReplayEvent) : Except ReplayError CampaignState :=
  if boundary.kind = .campaignCheckpoint then do
    let entry ← decodeCampaignPayload readers boundary.payload
    return entry.transition.after
  else do
    let resume ← FieldActivity.decodeCampaignResume readers.resume boundary.payload
    return resume.state

def objectiveAtBoundary (events : List ReplayEvent) (proof : ReplayEvent)
    (milestone : Revenant.Milestone) : Except ReplayError (Option String) :=
  if milestone ≠ .supplyRouteReached then return authoredObjective milestone
  else do
    let boundary ← require (boundaryBefore events proof)
      (invalidModule "supply approach lacks its admitted choice")
    let state ← boundaryState readers boundary
    return authoredForState state milestone

/-! ## Evidence of a milestone -/

/-- A spawn of the given archetype, by the name the row has for it. -/
def isSpawnOf (archetype : String) (event : ReplayEvent) : Bool :=
  decide (event.kind = .enemySpawned ∧ event.payload = .text ("enemy spawned: " ++ archetype)) ||
    decide (event.kind = .bossSpawned ∧ event.payload = .text ("boss spawned: " ++ archetype))

/-- The row is the death of an enemy that an earlier row spawned. -/
def enemyDied (events : List ReplayEvent) (accountId : String) (proof : ReplayEvent)
    (archetype : String) : Bool :=
  decide (proof.kind = .enemyDied ∧ proof.payload = .text ("enemy died: " ++ archetype)) &&
    proof.actorId.any (fun enemy => events.any (fun event =>
      decide (event.id < proof.id ∧ event.actorId = some enemy ∧ event.accountId = accountId) &&
        isSpawnOf archetype event))

/-- The rows older than the proof. -/
def olderRows (events : List ReplayEvent) (proof : ReplayEvent) : List ReplayEvent :=
  events.filter (fun event => event.id < proof.id)

/-- The rows before the proof show an encounter that started behind the last
boundary and was completed. -/
def verifyEncounter (kind : ReplayEventKind) (own : Payload → Bool)
    (completed : List ReplayEvent → Except ReplayError Bool) (events : List ReplayEvent)
    (proof : ReplayEvent) : Except ReplayError Bool :=
  match (olderRows events proof).reverse.find? isBoundary with
  | none => return false
  | some boundary =>
      if ∃ spawn ∈ olderRows events proof, boundary.id < spawn.id ∧ spawn.kind = kind ∧
          own spawn.payload = true ∧ spawn.accountId = proof.accountId ∧
          spawn.activityId = proof.activityId then
        completed (olderRows events proof)
      else return false

variable (authority : List ReplayEvent → ReplayEvent → Except ReplayError Bool)

def prismCompleted (events : List ReplayEvent) : Except ReplayError Bool := do
  return decide ((← Prism.validate authority events) = some .completed)

def supportCompleted (events : List ReplayEvent) : Except ReplayError Bool := do
  return decide ((← Support.validate events) = some .completed)

def bastionCompleted (events : List ReplayEvent) : Except ReplayError Bool := do
  return decide ((← Elite.validate events) = some (.bastionLink, .completed))

def verifyPrismEncounter (events : List ReplayEvent) (proof : ReplayEvent) :
    Except ReplayError Bool :=
  verifyEncounter .bossSpawned Prism.own (prismCompleted authority) events proof

def verifyCounterEncounter (events : List ReplayEvent) (proof : ReplayEvent) :
    Revenant.Milestone → Except ReplayError Bool
  | .counterSupportCleared =>
      verifyEncounter .enemySpawned Support.own supportCompleted events proof
  | .counterBastionCleared =>
      verifyEncounter .enemySpawned Elite.own bastionCompleted events proof
  | _ => return true

/-- An objective row of the player. -/
def isObjective (proof : ReplayEvent) (actorId : Nat) : Bool :=
  decide (proof.kind = .campaignObjective ∧ proof.actorId = some actorId)

/-- The row completes one station of the expedition, of which all rows so far
are the player's. -/
def verifyMeridian (events : List ReplayEvent) (accountId : String) (actorId : Nat)
    (proof : ReplayEvent) (expected : String) : Except ReplayError Bool := do
  let rows := events.filter (fun event => event.id ≤ proof.id)
  let objectives ← FieldActivity.validateFieldActivityEvents readers.resume rows
  return decide (proof.kind = .fieldActivity ∧ proof.actorId = some actorId ∧
    proof.payload = .text ("meridian-v1:" ++ expected) ∧ objectives expected = some .completed ∧
    ∀ row ∈ rows, row.kind = .fieldActivity →
      row.accountId = accountId ∧ row.actorId = some actorId)

/-- What the world has to show for each milestone. -/
def milestoneHolds (events : List ReplayEvent) (accountId : String) (actorId : Nat)
    (proof : ReplayEvent) (milestone : Revenant.Milestone) : Except ReplayError Bool :=
  match milestone with
  | .relayGuardCleared => return enemyDied events accountId proof "relay-drone"
  | .returnSignalRecovered | .breachGuardCleared =>
      return enemyDied events accountId proof "warden"
  | .supplyGuardCleared => return enemyDied events accountId proof "signal-sentinel"
  | .supplyRouteReached | .supplyCellRecovered | .supplyDelivered | .breachDoorReached
  | .breachCircuitStabilized | .breachCoreReached | .prismChamberReached | .prismSourceStopped
  | .prismReturnCompleted =>
      if isObjective proof actorId then do
        let expected ← objectiveAtBoundary readers events proof milestone
        return decide (expected.map Payload.text = some proof.payload)
      else return false
  | .prismWardenCleared =>
      if isObjective proof actorId ∧
          (prismObjective milestone).map Payload.text = some proof.payload then
        verifyPrismEncounter authority events proof
      else return false
  | .counterApproachReached | .counterSupportCleared | .counterSignalDecoded
  | .counterBastionReached | .counterBastionCleared | .counterSignalIsolated =>
      if isObjective proof actorId ∧
          (counterObjective milestone).map Payload.text = some proof.payload then
        verifyCounterEncounter events proof milestone
      else return false
  | .meridianReached => verifyMeridian readers events accountId actorId proof "meridian_arrival"
  | .surveyLinked => verifyMeridian readers events accountId actorId proof "meridian_gallery"
  | .recoveryDelivered => verifyMeridian readers events accountId actorId proof "meridian_return"

def verifyCampaignMilestone (events : List ReplayEvent) (accountId : String) (actorId : Nat)
    (milestone : Revenant.Milestone) (proofEventId : Int) : Except ReplayError Unit := do
  let proof ← require (events.find? (fun event => event.id = proofEventId))
    (invalidModule "campaign proof event is absent")
  rejectIf (proof.accountId ≠ accountId) (invalidModule "campaign proof belongs to another account")
  let valid ← milestoneHolds readers authority events accountId actorId proof milestone
  rejectIf (valid = false) (invalidModule "campaign milestone lacks matching world evidence")

/-! ## Objective rows -/

/-- The chapters whose objectives are rows of their own. -/
def authorsObjectives : ChapterId → Bool
  | .brokenSupplyLine | .counterSignal | .theBreach | .prismCore => true
  | .returnSignal | .meridianReadings => false

/-- Evidence is legal only at its boundary, once, and by the boundary's owner. -/
def checkObjective (before : List ReplayEvent) (event : ReplayEvent) : Except ReplayError Unit := do
  let boundary ← require (before.reverse.find? isBoundary)
    (invalidModule "authored objective has no campaign boundary")
  let state ← boundaryState readers boundary
  let run ← require state.active (invalidModule "authored objective after campaign terminal")
  rejectIf (authorsObjectives run.chapter = false ∨
    (state.nextMilestone.bind (authoredForState state)).map Payload.text ≠ some event.payload ∨
    event.actorId = none ∨ event.actorId ≠ boundary.actorId ∨
    event.accountId ≠ boundary.accountId ∨ event.activityId ≠ some run.chapter.asStr ∨
    ∃ row ∈ before.reverse.takeWhile (fun row => !isBoundary row),
      row.kind = .campaignObjective ∨ row.kind = .activityCompleted)
    (invalidModule "authored objective violates its admitted boundary")

def validateAuthoredObjectives (before : List ReplayEvent) :
    List ReplayEvent → Except ReplayError Unit
  | [] => .ok ()
  | event :: rest => do
      if event.kind = .campaignObjective then checkObjective readers before event
      validateAuthoredObjectives (before ++ [event]) rest

/-! ## Story rows -/

def storyRevision : String := "m36-story-v1"

/-- The evidence of a story command at an admitted save. -/
def CampaignStoryProof.new (characterId : String) (state : CampaignState)
    (command : Campaign.Command) : Except ReplayError CampaignStoryProof := do
  let _ ← (Campaign.proposePolicy .current state state.revision command).mapError
    (fun _ => invalidModule "campaign command")
  match command with
  | .story runId position action => do
      let run ← require state.active (invalidModule "story proof lacks a run")
      rejectIf (characterId = "" ∨ characterId.utf8ByteSize > 256)
        (invalidModule "invalid story character")
      return { revision := storyRevision, characterId, stateRevision := state.revision, runId
               chapter := run.chapter, checkpoint := run.checkpoint, position, action }
  | _ => .error (invalidModule "story proof requires a story command")

def verifyStory (before : List ReplayEvent) (checkpoint : ReplayEvent)
    (entry : CampaignReplayPayload) : Except ReplayError Unit := do
  let proof ← require (before.find? (fun event => some event.id = entry.proofEventId))
    (invalidModule "story interaction lacks spatial evidence")
  let boundary ← require (before.reverse.find? isBoundary)
    (invalidModule "story interaction lacks campaign admission")
  let expected ← CampaignStoryProof.new entry.characterId entry.transition.before
    entry.transition.command
  let actual ← require (readers.story proof.payload).value (invalidModule "story proof")
  rejectIf (proof.kind ≠ .campaignStory ∨ proof.id ≤ boundary.id ∨
    proof.actorId ≠ checkpoint.actorId ∨ proof.accountId ≠ checkpoint.accountId ∨
    proof.activityId ≠ checkpoint.activityId ∨ proof.sessionId ≠ checkpoint.sessionId ∨
    actual ≠ expected) (invalidModule "story proof differs from the admitted interaction")

/-- A story row is written together with the checkpoint that uses it. -/
def checkStory (before : List ReplayEvent) (proof : ReplayEvent) (next : Option ReplayEvent) :
    Except ReplayError Unit := do
  rejectIf ((readers.story proof.payload).length > 2048)
    (invalidModule "story proof exceeds its bound")
  let checkpoint ← require (next.filter (fun next => next.kind = .campaignCheckpoint))
    (invalidModule "story proof lacks its atomic checkpoint")
  let entry ← decodeCampaignPayload readers checkpoint.payload
  rejectIf (entry.proofEventId ≠ some proof.id ∨ entry.transition.command.isStory = false)
    (invalidModule "story proof does not belong to the next checkpoint")
  verifyStory readers (before ++ [proof]) checkpoint entry

def validateStoryProofs (before : List ReplayEvent) : List ReplayEvent → Except ReplayError Unit
  | [] => .ok ()
  | event :: rest => do
      if event.kind = .campaignStory then checkStory readers before event rest.head?
      validateStoryProofs (before ++ [event]) rest

/-! ## The fold -/

/-- What the reader keeps between two rows: the rows before, the campaigns by
their characters and the operations seen. -/
structure CampaignReading where
  before : List ReplayEvent
  campaigns : List ReconstructedCampaign
  operations : List String

/-- The chapter a checkpoint belongs to. -/
def entryChapter (transition : Campaign.Transition) : Option ChapterId :=
  match transition.command with
  | .enter _ chapter _ => some chapter
  | .confirm _ _ | .story _ _ _ => transition.before.active.map ChapterRun.chapter

/-- A row behind which the proof of a milestone must lie. -/
def isSessionBoundary (event : ReplayEvent) : Bool :=
  isBoundary event || decide (event.kind = .moduleStateSnapshot)

def verifyConfirm (before : List ReplayEvent) (event : ReplayEvent)
    (entry : CampaignReplayPayload) (actorId : Nat) (milestone : Revenant.Milestone) :
    Except ReplayError Unit := do
  let proofId ← require entry.proofEventId (invalidModule "campaign confirmation has no proof")
  let boundary ← require (before.reverse.find? isSessionBoundary)
    (invalidModule "campaign confirmation has no session boundary")
  rejectIf (proofId ≤ boundary.id ∨
    ¬ ∃ row ∈ before, row.id = proofId ∧ row.activityId = event.activityId)
    (invalidModule "campaign proof predates its checkpoint or uses a different chapter")
  verifyCampaignMilestone readers authority before event.accountId actorId milestone proofId

def verifyEntry (reading : CampaignReading) (event : ReplayEvent) (entry : CampaignReplayPayload)
    (actorId : Nat) : Except ReplayError Unit :=
  match entry.transition.command with
  | .enter _ _ _ => .ok ()
  | .confirm _ milestone => verifyConfirm readers authority reading.before event entry actorId milestone
  | .story _ _ _ => do
      verifyStory readers reading.before event entry
      rejectIf (∀ campaign ∈ reading.campaigns, campaign.characterId ≠ entry.characterId)
        (invalidModule "story interaction has no admitted campaign state")

/-- The record of a character, a new one when there is none. -/
def recordOf (campaigns : List ReconstructedCampaign) (entry : CampaignReplayPayload) :
    ReconstructedCampaign :=
  (campaigns.find? (fun campaign => campaign.characterId = entry.characterId)).getD
    { characterId := entry.characterId, state := entry.transition.before
      checkpoints := 0, firstClears := 0 }

/-- The records in the order of their characters. -/
def putCampaign (record : ReconstructedCampaign) (campaigns : List ReconstructedCampaign) :
    List ReconstructedCampaign :=
  (campaigns.filter (fun campaign => campaign.characterId ≠ record.characterId)).orderedInsert
    (fun left right => left.characterId < right.characterId ∨ left.characterId = right.characterId)
    record

def advanceRecord (record : ReconstructedCampaign) (transition : Campaign.Transition) :
    ReconstructedCampaign :=
  { record with
    state := transition.after, checkpoints := record.checkpoints + 1
    firstClears := record.firstClears + if transition.firstClear.isSome then 1 else 0 }

def applyCheckpoint (participants : List ReconstructedModuleParticipant)
    (reading : CampaignReading) (event : ReplayEvent) : Except ReplayError CampaignReading := do
  let entry ← decodeCampaignPayload readers event.payload
  let participant ← require
    (participants.find? (fun participant => participant.characterId = entry.characterId))
    (invalidModule "campaign character has no admission snapshot")
  let chapter ← require (entryChapter entry.transition)
    (invalidModule "campaign confirmation has no active chapter")
  rejectIf (participants.length ≠ 1 ∨ participant.protocolGeneration ≠ .v2 ∨
    event.actorId ≠ some participant.actorId ∨ event.activityId ≠ some chapter.asStr ∨
    entry.operationId ∈ reading.operations ∨
    ¬ ∃ row ∈ reading.before, row.kind = .moduleStateSnapshot ∧ row.actorId = event.actorId ∧
      row.accountId = event.accountId ∧ row.activityId = event.activityId)
    (invalidModule "campaign is not a unique, admitted solo V2 transition")
  verifyEntry readers authority reading event entry participant.actorId
  let record := recordOf reading.campaigns entry
  rejectIf (record.state ≠ entry.transition.before)
    (invalidModule "campaign checkpoint chain is discontinuous")
  return { before := reading.before ++ [event]
           campaigns := putCampaign (advanceRecord record entry.transition) reading.campaigns
           operations := entry.operationId :: reading.operations }

def applyRow (participants : List ReconstructedModuleParticipant) (reading : CampaignReading)
    (event : ReplayEvent) : Except ReplayError CampaignReading :=
  if event.kind = .campaignCheckpoint then
    applyCheckpoint readers authority participants reading event
  else return { reading with before := reading.before ++ [event] }

/-- A resumed session begins with the record its resume row admits. -/
def initialCampaigns (events : List ReplayEvent)
    (participants : List ReconstructedModuleParticipant) :
    Except ReplayError (List ReconstructedCampaign) := do
  match ← FieldActivity.resumeSnapshot readers.resume events with
  | none => return []
  | some (event, resume) => do
      rejectIf (participants.length ≠ 1 ∨ ∃ participant ∈ participants,
        participant.characterId ≠ resume.characterId ∨ some participant.actorId ≠ event.actorId)
        (invalidModule "campaign resume is not solo")
      return [{ characterId := resume.characterId, state := resume.state
                checkpoints := 0, firstClears := 0 }]

def reconstruct (events : List ReplayEvent) (participants : List ReconstructedModuleParticipant) :
    Except ReplayError (List ReconstructedCampaign) := do
  validateAuthoredObjectives readers [] events
  validateStoryProofs readers [] events
  let campaigns ← initialCampaigns readers events participants
  let reading ← events.foldlM (applyRow readers authority participants)
    { before := [], campaigns, operations := [] }
  return reading.campaigns

/-- The authority as the session reader calls it: behind the check of the order,
with the participants that the reducer found.  The reader also runs every other
family's validator, which can only refuse more sessions. -/
def reconstructSession (events : List ReplayEvent) :
    Except ReplayError (List ReconstructedCampaign) := do
  let session ← reconstructModules events
  reconstruct readers authority events session.participants

end Readers

end Campaign
end Replay
end Revenant
