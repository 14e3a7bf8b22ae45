import Revenant.Cooperation.State
import Revenant.Replay.RouteSession

namespace Revenant
namespace Replay

open Library Cooperation

/-!
# Evidence of a cooperation

The start freezes who takes part and with what; the ping, the downing and the
revive each repeat it and add their times; the terminal repeats every
contribution.  A reader performs the recorded contributions again with the
operations of the cooperation and compares what comes out.
-/

def cooperationReplaySchemaVersion : Nat := 1
def maxCooperationReplayPayloadBytes : Nat := 8192
def cooperationActivityId : String := "relay_awakening"

structure ReplayCooperationParticipantEvidence where
  participantId : String
  characterId : String
  actorId : Nat
  role : Role
  weaponItemId : String
  moduleState : ReplayModuleStateEvidence
  admittedHealth : Nat
  deriving DecidableEq

structure ReplayCooperationTargetEvidence where
  target : Target
  position : List Int
  deriving DecidableEq

structure ReplayCooperationTimingEvidence where
  operationDurationMs : Nat
  pingTtlMs : Nat
  reviveWindowMs : Nat
  reviveChannelMs : Nat
  reviveHealth : Nat
  maximumDistanceSquared : Int
  deriving DecidableEq

structure ReplayCooperationRewardEvidence where
  itemId : String
  itemQuantity : Nat
  experience : Nat
  deriving DecidableEq

structure CooperationStartedPayload where
  schemaVersion : Nat
  activityId : String
  catalogRevision : String
  startOperationId : String
  participants : List ReplayCooperationParticipantEvidence
  anchorTarget : ReplayCooperationTargetEvidence
  runnerTarget : ReplayCooperationTargetEvidence
  timing : ReplayCooperationTimingEvidence
  reward : ReplayCooperationRewardEvidence
  deriving DecidableEq

structure CooperationPingedPayload where
  schemaVersion : Nat
  catalogRevision : String
  startOperationId : String
  anchorElapsedMs : Nat
  pingOperationId : String
  sourceParticipantId : String
  sourceActorId : Nat
  target : Target
  pingElapsedMs : Nat
  expiresElapsedMs : Nat
  deriving DecidableEq

inductive ReplayCooperationHazard where
  | relayFeedback
  deriving DecidableEq, Repr

structure PlayerDownedPayload where
  schemaVersion : Nat
  catalogRevision : String
  startOperationId : String
  participantId : String
  actorId : Nat
  role : Role
  target : Target
  runnerElapsedMs : Nat
  hazard : ReplayCooperationHazard
  healthBefore : Nat
  damage : Nat
  healthAfter : Nat
  lifeBefore : LifeState
  lifeAfter : LifeState
  deriving DecidableEq

structure PlayerRevivedPayload where
  schemaVersion : Nat
  catalogRevision : String
  startOperationId : String
  reviveOperationId : String
  sourceParticipantId : String
  sourceActorId : Nat
  targetParticipantId : String
  targetActorId : Nat
  targetRole : Role
  reviveStartedElapsedMs : Nat
  reviveCompletedElapsedMs : Nat
  channelDurationMs : Nat
  maximumDistanceSquared : Int
  healthBefore : Nat
  healthAfter : Nat
  lifeBefore : LifeState
  lifeAfter : LifeState
  reviveCount : Nat
  deriving DecidableEq

structure ReplayCooperationContributionEvidence where
  anchorArrived : Bool
  anchorElapsedMs : Option Nat
  pinged : Bool
  pingOperationId : Option String
  pingElapsedMs : Option Nat
  runnerArrived : Bool
  runnerElapsedMs : Option Nat
  downedElapsedMs : Option Nat
  reviveOperationId : Option String
  reviveStartedElapsedMs : Option Nat
  revived : Bool
  reviveCompletedElapsedMs : Option Nat
  reviveCount : Nat
  wardenCompleted : Bool
  wardenElapsedMs : Option Nat
  deriving DecidableEq

structure ReplayCooperationTerminalParticipantEvidence where
  participantId : String
  characterId : String
  actorId : Nat
  role : Role
  currentHealth : Nat
  life : LifeState
  deriving DecidableEq

structure ReplayCooperationGrantEvidence where
  participantId : String
  characterId : String
  actorId : Nat
  itemId : String
  itemQuantity : Nat
  experience : Nat
  deriving DecidableEq

structure CooperationTerminalPayload where
  schemaVersion : Nat
  catalogRevision : String
  startOperationId : String
  lastNonterminalPhase : Phase
  contributions : ReplayCooperationContributionEvidence
  participants : List ReplayCooperationTerminalParticipantEvidence
  outcome : TerminalOutcome
  subjectRole : Option Role
  terminalElapsedMs : Nat
  grants : List ReplayCooperationGrantEvidence
  deriving DecidableEq

/-- What the JSON of a cooperation row can hold. -/
inductive CooperationReplayPayload where
  | started (payload : CooperationStartedPayload)
  | pinged (payload : CooperationPingedPayload)
  | downed (payload : PlayerDownedPayload)
  | revived (payload : PlayerRevivedPayload)
  | terminal (payload : CooperationTerminalPayload)
  deriving DecidableEq

namespace CooperationReplayPayload

def started? : CooperationReplayPayload → Option CooperationStartedPayload
  | started payload => some payload
  | _ => none

def pinged? : CooperationReplayPayload → Option CooperationPingedPayload
  | pinged payload => some payload
  | _ => none

def downed? : CooperationReplayPayload → Option PlayerDownedPayload
  | downed payload => some payload
  | _ => none

def revived? : CooperationReplayPayload → Option PlayerRevivedPayload
  | revived payload => some payload
  | _ => none

def terminal? : CooperationReplayPayload → Option CooperationTerminalPayload
  | terminal payload => some payload
  | _ => none

end CooperationReplayPayload

/-- The rows a terminal is read against. -/
structure CooperationReplayPrefix where
  pinged : Option CooperationPingedPayload
  downed : Option PlayerDownedPayload
  revived : Option PlayerRevivedPayload
  deriving DecidableEq

def cooperationError (reason : String) : ReplayError := .invalidCooperationEvidence reason

/-- A domain answer of the cooperation with its error worded for the journal. -/
def domainError {Value : Type} (answer : Except CooperationError Value) :
    Except ReplayError Value :=
  answer.mapError (fun failure => cooperationError failure.text)

namespace CooperationReplay

/-! ## One payload -/

def validateSchemaRevision (schemaVersion : Nat) (revision operationId : String) :
    Except ReplayError Unit := do
  rejectIf (schemaVersion ≠ cooperationReplaySchemaVersion ∨
      revision ≠ Cooperation.catalogRevision)
    (cooperationError "cooperation schema or catalog revision is unknown")
  domainError (Cooperation.validateOperationId operationId)

def validateCooperationIdentifier (limit : Nat) (allowed : Char → Bool) (value context : String) :
    Except ReplayError Unit :=
  rejectIf (Operations.plainIdentifier limit allowed value = false)
    (cooperationError s!"cooperation {context} identifier is outside bounds")

def validateBoundedIdentity (value context : String) : Except ReplayError Unit :=
  validateCooperationIdentifier 64 Operations.identityLetter value context

def validateSnakeIdentifier (value context : String) : Except ReplayError Unit :=
  validateCooperationIdentifier 32
    (fun letter => letter.isLower || letter.isDigit || letter == '_') value context

def participantProfile (participant : ReplayCooperationParticipantEvidence) :
    Except ReplayError CombatProfile :=
  match participant.moduleState.weapons.filter
      (fun weapon => weapon.itemId = participant.weaponItemId) with
  | [weapon] => .ok weapon.effective
  | _ => .error (cooperationError "selected weapon does not identify one effective profile")

/-- The participant in a role's place; a start that passed its check has both. -/
def participantOf (started : CooperationStartedPayload) (role : Role) :
    Except ReplayError ReplayCooperationParticipantEvidence :=
  require started.participants[role.index]?
    (cooperationError "cooperation participant is missing")

def targets : ReplayCooperationTargetEvidence × ReplayCooperationTargetEvidence :=
  ({ target := .relayAnchor, position := [3, 0, 3] },
    { target := .relayConsole, position := [4, 0, 3] })

def timing : ReplayCooperationTimingEvidence :=
  { operationDurationMs, pingTtlMs, reviveWindowMs, reviveChannelMs, reviveHealth
    maximumDistanceSquared := maxReviveDistanceSquared }

def reward : ReplayCooperationRewardEvidence :=
  { itemId := relayCoreFragment, itemQuantity := successReward.fragments
    experience := successReward.experience }

/-- Each participant in its role's place, behind those already read. -/
def validateParticipants (earlier : List ReplayCooperationParticipantEvidence) :
    List (Role × ReplayCooperationParticipantEvidence) → Except ReplayError Unit
  | [] => .ok ()
  | (role, participant) :: rest => do
      validateBoundedIdentity participant.participantId "participant"
      validateBoundedIdentity participant.characterId "character"
      validateSnakeIdentifier participant.weaponItemId "weapon"
      rejectIf (participant.role ≠ role ∨
          (∃ other ∈ earlier, other.participantId = participant.participantId ∨
            other.characterId = participant.characterId ∨ other.actorId = participant.actorId) ∨
          participant.moduleState.moduleEffectsActive = false)
        (cooperationError "cooperation participant identity, role, or generation is invalid")
      validateModuleState participant.moduleState
      let profile ← participantProfile participant
      rejectIf (participant.admittedHealth = 0 ∨ participant.admittedHealth > profile.maxHealth)
        (cooperationError "cooperation admitted health is outside profile bounds")
      validateParticipants (earlier ++ [participant]) rest

def validateStartedPayload (payload : CooperationStartedPayload) : Except ReplayError Unit := do
  validateSchemaRevision payload.schemaVersion payload.catalogRevision payload.startOperationId
  rejectIf (payload.activityId ≠ cooperationActivityId ∨
      payload.participants.length ≠ participantCount ∨
      (payload.anchorTarget, payload.runnerTarget) ≠ targets ∨
      payload.timing ≠ timing ∨ payload.reward ≠ reward)
    (cooperationError "cooperation start constants or cardinality drifted")
  validateParticipants [] (Role.all.zip payload.participants)

def validatePingedPayload (payload : CooperationPingedPayload)
    (started : CooperationStartedPayload) : Except ReplayError Unit := do
  validateSchemaRevision payload.schemaVersion payload.catalogRevision payload.startOperationId
  let anchor ← participantOf started .anchor
  rejectIf (payload.pingElapsedMs + pingTtlMs > u64Max) (cooperationError "ping expiry overflowed")
  domainError (Cooperation.validateOperationId payload.pingOperationId)
  rejectIf (payload.catalogRevision ≠ started.catalogRevision ∨
      payload.startOperationId ≠ started.startOperationId ∨
      payload.sourceParticipantId ≠ anchor.participantId ∨
      payload.sourceActorId ≠ anchor.actorId ∨ payload.target ≠ .relayConsole ∨
      payload.anchorElapsedMs > payload.pingElapsedMs ∨
      payload.pingElapsedMs > operationDurationMs ∨
      payload.expiresElapsedMs ≠ payload.pingElapsedMs + pingTtlMs)
    (cooperationError "cooperation ping evidence is invalid")

def validateDownedPayload (payload : PlayerDownedPayload) (started : CooperationStartedPayload)
    (pinged : CooperationPingedPayload) : Except ReplayError Unit := do
  validateSchemaRevision payload.schemaVersion payload.catalogRevision payload.startOperationId
  let runner ← participantOf started .runner
  rejectIf (payload.catalogRevision ≠ started.catalogRevision ∨
      payload.startOperationId ≠ started.startOperationId ∨
      payload.participantId ≠ runner.participantId ∨ payload.actorId ≠ runner.actorId ∨
      payload.role ≠ .runner ∨ payload.target ≠ .relayConsole ∨
      payload.runnerElapsedMs < pinged.pingElapsedMs ∨
      payload.runnerElapsedMs > pinged.expiresElapsedMs ∨
      payload.runnerElapsedMs > operationDurationMs ∨
      payload.healthBefore ≠ runner.admittedHealth ∨ payload.damage ≠ payload.healthBefore ∨
      payload.healthAfter ≠ 0 ∨ payload.lifeBefore ≠ .active ∨ payload.lifeAfter ≠ .downed)
    (cooperationError "player downing evidence is invalid")

def validateRevivedPayload (payload : PlayerRevivedPayload) (started : CooperationStartedPayload)
    (downed : PlayerDownedPayload) : Except ReplayError Unit := do
  validateSchemaRevision payload.schemaVersion payload.catalogRevision payload.startOperationId
  domainError (Cooperation.validateOperationId payload.reviveOperationId)
  let anchor ← participantOf started .anchor
  let runner ← participantOf started .runner
  rejectIf (payload.reviveStartedElapsedMs + reviveChannelMs > u64Max)
    (cooperationError "revive channel overflowed")
  rejectIf (downed.runnerElapsedMs + reviveWindowMs > u64Max)
    (cooperationError "revive window overflowed")
  rejectIf (payload.catalogRevision ≠ started.catalogRevision ∨
      payload.startOperationId ≠ started.startOperationId ∨
      payload.sourceParticipantId ≠ anchor.participantId ∨
      payload.sourceActorId ≠ anchor.actorId ∨
      payload.targetParticipantId ≠ runner.participantId ∨
      payload.targetActorId ≠ runner.actorId ∨ payload.targetRole ≠ .runner ∨
      payload.reviveStartedElapsedMs < downed.runnerElapsedMs ∨
      payload.reviveStartedElapsedMs > downed.runnerElapsedMs + reviveWindowMs ∨
      payload.reviveCompletedElapsedMs < payload.reviveStartedElapsedMs + reviveChannelMs ∨
      payload.reviveCompletedElapsedMs > downed.runnerElapsedMs + reviveWindowMs ∨
      payload.reviveCompletedElapsedMs > operationDurationMs ∨
      payload.channelDurationMs ≠ reviveChannelMs ∨
      payload.maximumDistanceSquared ≠ maxReviveDistanceSquared ∨
      payload.healthBefore ≠ 0 ∨ payload.healthAfter ≠ reviveHealth ∨
      payload.lifeBefore ≠ .downed ∨ payload.lifeAfter ≠ .active ∨ payload.reviveCount ≠ 1)
    (cooperationError "player revive evidence is invalid")

/-! ## The terminal -/

/-- Each contribution carries its times and identifiers, and none comes before
the one it builds on. -/
def validateContributionNullability (evidence : ReplayCooperationContributionEvidence) :
    Except ReplayError Unit := do
  rejectIf (evidence.anchorArrived ≠ evidence.anchorElapsedMs.isSome ∨
      evidence.pinged ≠ evidence.pingOperationId.isSome ∨
      evidence.pinged ≠ evidence.pingElapsedMs.isSome ∨
      evidence.runnerArrived ≠ evidence.runnerElapsedMs.isSome ∨
      evidence.runnerArrived ≠ evidence.downedElapsedMs.isSome ∨
      evidence.reviveOperationId.isSome ≠ evidence.reviveStartedElapsedMs.isSome ∨
      evidence.revived ≠ evidence.reviveCompletedElapsedMs.isSome ∨
      evidence.revived ≠ decide (evidence.reviveCount = 1) ∨
      evidence.wardenCompleted ≠ evidence.wardenElapsedMs.isSome)
    (cooperationError "cooperation contribution nullability is invalid")
  rejectIf (evidence.reviveCount > 1 ∨ evidence.pinged = true ∧ evidence.anchorArrived = false ∨
      evidence.runnerArrived = true ∧ evidence.pinged = false ∨
      evidence.reviveOperationId.isSome = true ∧ evidence.runnerArrived = false ∨
      evidence.revived = true ∧ evidence.reviveOperationId = none ∨
      evidence.wardenCompleted = true ∧ evidence.revived = false)
    (cooperationError "cooperation contribution prefix is invalid")

def domainFailure (failure : CooperationError) : ReplayError := cooperationError failure.text

/-- One more operation of the cooperation, which must not fail. -/
def advance (operation : Operation) (state : CooperationState) :
    Except ReplayError CooperationState :=
  advanceWith domainFailure operation state

def replayAnchor (evidence : ReplayCooperationContributionEvidence) (state : CooperationState) :
    Except ReplayError CooperationState :=
  match evidence.anchorArrived, evidence.anchorElapsedMs with
  | true, some elapsedMs => advance (.arriveAnchor .anchor .relayAnchor elapsedMs) state
  | _, _ => .ok state

def replayPing (evidence : ReplayCooperationContributionEvidence)
    (pinged : Option CooperationPingedPayload) (state : CooperationState) :
    Except ReplayError CooperationState :=
  if evidence.pinged = true then do
    let pinged ← require pinged (cooperationError "terminal ping has no ping event")
    rejectIf (evidence.pingOperationId ≠ some pinged.pingOperationId ∨
        evidence.pingElapsedMs ≠ some pinged.pingElapsedMs ∨
        evidence.anchorElapsedMs ≠ some pinged.anchorElapsedMs)
      (cooperationError "terminal ping disagrees with prefix")
    advance (.ping .anchor .relayConsole pinged.pingOperationId pinged.pingElapsedMs) state
  else do
    rejectIf (pinged.isSome = true) (cooperationError "terminal omits accepted ping")
    return state

def replayDowning (evidence : ReplayCooperationContributionEvidence)
    (downed : Option PlayerDownedPayload) (state : CooperationState) :
    Except ReplayError CooperationState :=
  if evidence.runnerArrived = true then do
    let downed ← require downed (cooperationError "terminal downing has no event")
    rejectIf (evidence.runnerElapsedMs ≠ some downed.runnerElapsedMs ∨
        evidence.downedElapsedMs ≠ some downed.runnerElapsedMs)
      (cooperationError "terminal downing disagrees with prefix")
    advance (.arriveRunner .runner .relayConsole downed.runnerElapsedMs) state
  else do
    rejectIf (downed.isSome = true) (cooperationError "terminal omits accepted downing")
    return state

/-- An open channel, and its completion when the runner was revived. -/
def replayRevive (evidence : ReplayCooperationContributionEvidence)
    (revived : Option PlayerRevivedPayload) (state : CooperationState) :
    Except ReplayError CooperationState :=
  match evidence.reviveOperationId, evidence.reviveStartedElapsedMs with
  | some operationId, some startedElapsedMs => do
      let channel ← advance
        (.startRevive .anchor .runner maxReviveDistanceSquared operationId startedElapsedMs) state
      if evidence.revived = true then do
        let revived ← require revived (cooperationError "terminal revive has no event")
        rejectIf (operationId ≠ revived.reviveOperationId ∨
            evidence.reviveStartedElapsedMs ≠ some revived.reviveStartedElapsedMs ∨
            evidence.reviveCompletedElapsedMs ≠ some revived.reviveCompletedElapsedMs)
          (cooperationError "terminal revive disagrees with prefix")
        advance (.observeRevive .anchor .runner maxReviveDistanceSquared operationId
          revived.reviveCompletedElapsedMs) channel
      else return channel
  | _, _ => do
      rejectIf (evidence.revived = true ∨ revived.isSome = true)
        (cooperationError "terminal revive evidence is partial")
      return state

/-- The operation that ends the cooperation as a terminal says.  A timeout is
observed, and must be the one recorded. -/
def applyTerminal (payload : CooperationTerminalPayload) (state : CooperationState) :
    Except ReplayError CooperationState :=
  match payload.outcome with
  | .succeeded => do
      rejectIf (payload.subjectRole.isSome = true ∨
          payload.contributions.wardenElapsedMs ≠ some payload.terminalElapsedMs)
        (cooperationError "success terminal evidence is invalid")
      advance (.completeWarden payload.terminalElapsedMs) state
  | .failedPingTimeout | .failedReviveTimeout | .failedOperationTimeout =>
      match payload.subjectRole, observeDeadlines payload.terminalElapsedMs state with
      | none, (.error (.deadlineExpired outcome), next) => do
          rejectIf (outcome ≠ payload.outcome)
            (cooperationError "timeout terminal evidence is invalid")
          return next
      | _, _ => .error (cooperationError "timeout terminal evidence is invalid")
  | .failedParticipantDefeated => do
      let subject ← require payload.subjectRole (cooperationError "defeat terminal has no subject")
      advance (.defeatParticipant subject payload.terminalElapsedMs) state
  | .abandonedDisconnect => do
      let subject ← require payload.subjectRole (cooperationError "abandonment has no subject")
      advance (.disconnect subject payload.terminalElapsedMs) state

def contributionsOf (evidence : ReplayCooperationContributionEvidence) : Contributions :=
  { anchorArrived := evidence.anchorArrived, pinged := evidence.pinged
    runnerArrived := evidence.runnerArrived, revived := evidence.revived
    wardenCompleted := evidence.wardenCompleted }

/-- What a terminal says of a participant that ends in a state. -/
def terminalEvidence (participantId characterId : String) (actorId : Nat) (role : Role)
    (actual : ParticipantState) : ReplayCooperationTerminalParticipantEvidence :=
  { participantId, characterId, actorId, role, currentHealth := actual.currentHealth
    life := actual.life }

/-- What a success grants a participant. -/
def grantEvidence (participantId characterId : String) (actorId : Nat) :
    ReplayCooperationGrantEvidence :=
  { participantId, characterId, actorId, itemId := relayCoreFragment
    itemQuantity := successReward.fragments, experience := successReward.experience }

/-- The terminal evidence of an admitted participant in a final state. -/
def terminalParticipant (admitted : ReplayCooperationParticipantEvidence)
    (actual : ParticipantState) : ReplayCooperationTerminalParticipantEvidence :=
  terminalEvidence admitted.participantId admitted.characterId admitted.actorId admitted.role actual

def validateTerminalState (payload : CooperationTerminalPayload)
    (started : CooperationStartedPayload) (state : CooperationState) : Except ReplayError Unit := do
  rejectIf (state.contributions ≠ contributionsOf payload.contributions ∨
      state.reviveCount ≠ payload.contributions.reviveCount ∨
      state.terminal ≠ some payload.outcome)
    (cooperationError "terminal contribution state disagrees with pure domain")
  let anchor ← participantOf started .anchor
  let runner ← participantOf started .runner
  rejectIf (payload.participants ≠
      [terminalParticipant anchor state.anchor, terminalParticipant runner state.runner])
    (cooperationError "terminal participant state disagrees with pure domain")

/-- The contributions of a terminal performed once more, from the admitted start. -/
def replayContributions (evidence : ReplayCooperationContributionEvidence)
    (started : CooperationStartedPayload) (rows : CooperationReplayPrefix) :
    Except ReplayError CooperationState := do
  let anchor ← participantOf started .anchor
  let runner ← participantOf started .runner
  let anchorProfile ← participantProfile anchor
  let runnerProfile ← participantProfile runner
  let admitted ← domainError (CooperationState.startWithHealth started.startOperationId
    anchorProfile runnerProfile anchor.admittedHealth runner.admittedHealth)
  let arrived ← replayAnchor evidence admitted
  let pinged ← replayPing evidence rows.pinged arrived
  let downed ← replayDowning evidence rows.downed pinged
  replayRevive evidence rows.revived downed

def validateTerminalPrefix (payload : CooperationTerminalPayload)
    (started : CooperationStartedPayload) (rows : CooperationReplayPrefix) :
    Except ReplayError Unit := do
  validateContributionNullability payload.contributions
  let state ← replayContributions payload.contributions started rows
  rejectIf (state.phase ≠ payload.lastNonterminalPhase)
    (cooperationError "terminal last phase disagrees with lifecycle")
  let ended ← applyTerminal payload state
  validateTerminalState payload started ended

/-- The grant of an admitted participant. -/
def grantOf (participant : ReplayCooperationParticipantEvidence) : ReplayCooperationGrantEvidence :=
  grantEvidence participant.participantId participant.characterId participant.actorId

def validateTerminalGrants (payload : CooperationTerminalPayload)
    (started : CooperationStartedPayload) : Except ReplayError Unit :=
  if payload.outcome ≠ .succeeded then
    rejectIf (payload.grants ≠ [] ∨ payload.contributions.wardenCompleted = true)
      (cooperationError "failed cooperation has success evidence")
  else do
    rejectIf (payload.grants.length ≠ participantCount)
      (cooperationError "successful cooperation grant count is wrong")
    rejectIf (∃ pair ∈ payload.grants.zip started.participants, pair.1 ≠ grantOf pair.2)
      (cooperationError "cooperation grant evidence drifted")

/-- `success` tells the row's kind. -/
def validateTerminalPayload (success : Bool) (payload : CooperationTerminalPayload)
    (started : CooperationStartedPayload) (rows : CooperationReplayPrefix) :
    Except ReplayError Unit := do
  validateSchemaRevision payload.schemaVersion payload.catalogRevision payload.startOperationId
  rejectIf (payload.catalogRevision ≠ started.catalogRevision ∨
      payload.startOperationId ≠ started.startOperationId ∨
      payload.participants.length ≠ participantCount)
    (cooperationError "cooperation terminal identity drifted")
  rejectIf (success ≠ decide (payload.outcome = .succeeded))
    (cooperationError "cooperation terminal kind and outcome disagree")
  validateTerminalPrefix payload started rows
  validateTerminalGrants payload started

end CooperationReplay
end Replay
end Revenant
