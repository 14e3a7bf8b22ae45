import Revenant.Persistence.CooperationRows
import Revenant.Persistence.Modules
import Revenant.Library.Call

namespace Revenant
namespace Persistence
namespace Cooperative

open Library Replay Cooperation

/-!
# Cooperation persistence

Every request loads the rows, asks the domain, and writes the columns its answer
changes, in one transaction.  A session that journals its cooperation appends the
evidence in the same transaction and reads its whole journal again before it
commits; a request that fails in any part writes nothing.
-/

structure CooperationParticipant where
  accountId : String
  characterId : String
  actorId : Nat
  weaponItemId : String
  modules : List ModuleId
  profile : CombatProfile
  currentHealth : Nat
  deriving DecidableEq

structure CooperationOperationInput where
  sessionId : String
  activityId : String
  requesterAccountId : String
  operationId : String
  participants : List CooperationParticipant
  deriving DecidableEq

structure CooperationReceipt where
  disposition : MutationDisposition
  state : CooperationState
  deriving DecidableEq

structure Progression where
  level : Nat
  experience : Nat
  deriving DecidableEq, Repr

/-- The tables a cooperation touches.  `rewardGrants` and `experienceGrants` list
the sessions and characters that were rewarded. -/
structure Database where
  owners : String → Option String
  operations : String → Option OperationRows
  rewardGrants : List (String × String)
  experienceGrants : List (String × String)
  fragments : String → Nat
  progression : String → Option Progression
  replayEvents : List CooperationEvent
  sequence : Int

namespace Database

def stream (database : Database) (sessionId : String) : List CooperationEvent :=
  database.replayEvents.filter (fun event => event.row.sessionId = sessionId)

def write (database : Database) (sessionId : String) (rows : OperationRows) : Database :=
  { database with operations := Function.update database.operations sessionId (some rows) }

def append (database : Database) (event : Int → CooperationEvent) : Database :=
  { database with
    replayEvents := database.replayEvents ++ [event database.sequence]
    sequence := database.sequence + 1 }

end Database

/-! ## Checks on what a caller supplies -/

def validateStorageId (value context : String) : Except CooperationPersistenceError Unit :=
  rejectIf (Operations.plainIdentifier 64 Operations.identityLetter value = false)
    (invalidState s!"invalid cooperation {context} identifier")

def elapsedI64 (elapsedMs : Nat) : Except CooperationPersistenceError Unit :=
  rejectIf (elapsedMs > i64Max) (invalidState "elapsed value exceeds BIGINT")

/-- A supplied participant has the profile of its weapon and modules, and a
health the domain admits. -/
def validateProfile (participant : CooperationParticipant) :
    Except CooperationPersistenceError Unit := do
  let expected ← resolvedProfile "cooperation weapon is unknown" participant.weaponItemId
    participant.modules
  rejectIf (participant.profile ≠ expected)
    (invalidState "cooperation profile does not match weapon/module admission")
  let _ ← liftDomain (CooperationState.startWithHealth "profile-check" expected expected
    participant.currentHealth participant.currentHealth)
  return ()

def validateSupplied (participant : CooperationParticipant) :
    Except CooperationPersistenceError Unit := do
  validateStorageId participant.accountId "account"
  validateStorageId participant.characterId "character"
  validateProfile participant

def validateStartInput (input : CooperationOperationInput) :
    Except CooperationPersistenceError (CooperationParticipant × CooperationParticipant) :=
  match input.participants with
  | [anchor, runner] => do
      rejectIf (input.activityId ≠ cooperationActivityId ∨
          input.requesterAccountId ≠ anchor.accountId) (invalidState
        "cooperation start requires exact activity, leader, and two participants")
      rejectIf (anchor.accountId = runner.accountId ∨ anchor.characterId = runner.characterId ∨
          anchor.actorId = runner.actorId)
        (invalidState "cooperation participant identities repeat")
      validateSupplied anchor
      validateSupplied runner
      return (anchor, runner)
  | _ => .error (invalidState
      "cooperation start requires exact activity, leader, and two participants")

def validateParticipantIdentity (database : Database) (participant : CooperationParticipant) :
    Except CooperationPersistenceError Unit := do
  let owner ← require (database.owners participant.characterId)
    (invalidState "cooperation character was not found")
  rejectIf (owner ≠ participant.accountId)
    (invalidState "cooperation character does not belong to account")

/-- A repeated start names what the first one stored. -/
def validateStartRetry (stored : StoredOperation) (input : CooperationOperationInput)
    (anchor runner : CooperationParticipant) : Except CooperationPersistenceError Unit := do
  let _ ← liftDomain (stored.state.retryAnswer input.operationId anchor.profile runner.profile
    anchor.currentHealth runner.currentHealth)
  rejectIf (stored.rows.parent.activityId ≠ input.activityId ∨
      stored.rows.parent.anchorAccountId ≠ input.requesterAccountId ∨
      ∃ pair ∈ [(stored.rows.anchor, anchor), (stored.rows.runner, runner)],
        pair.1.accountId ≠ pair.2.accountId ∨ pair.1.characterId ≠ pair.2.characterId ∨
        pair.1.actorId ≠ pair.2.actorId ∨ pair.1.weaponItemId ≠ pair.2.weaponItemId ∨
        pair.1.moduleLoadout ≠ pair.2.modules)
    (invalidState "cooperation start retry conflicts")

/-! ## Statements on the rows -/

def loadOperation (database : Database) (sessionId : String) :
    Except CooperationPersistenceError (Option StoredOperation) :=
  match database.operations sessionId with
  | none => .ok none
  | some rows => do
      let state ← reconstructState database.owners rows
      return some { sessionId, rows, state }

def requireOperation (database : Database) (sessionId : String) :
    Except CooperationPersistenceError StoredOperation := do
  let loaded ← loadOperation database sessionId
  require loaded (invalidState "cooperation operation was not found")

def insertedParent (input : CooperationOperationInput) : StoredParent where
  activityId := input.activityId
  startOperationId := input.operationId
  catalogRevision := Cooperation.catalogRevision
  anchorAccountId := input.requesterAccountId
  participantCount := 2
  phase := .awaitingAnchor
  operationDurationMs := Cooperation.operationDurationMs
  pingTtlMs := Cooperation.pingTtlMs
  reviveWindowMs := Cooperation.reviveWindowMs
  reviveChannelMs := Cooperation.reviveChannelMs
  reviveHealth := Cooperation.reviveHealth
  maxReviveDistanceSquared := Cooperation.maxReviveDistanceSquared
  rewardItemId := relayCoreFragment
  rewardQuantity := successReward.fragments
  rewardExperience := successReward.experience
  anchorArrived := false
  anchorElapsedMs := none
  pinged := false
  pingOperationId := none
  pingTarget := none
  pingElapsedMs := none
  runnerArrived := false
  runnerElapsedMs := none
  downedElapsedMs := none
  reviveOperationId := none
  reviveTarget := none
  reviveStartedElapsedMs := none
  revived := false
  reviveCompletedElapsedMs := none
  reviveCount := 0
  wardenCompleted := false
  wardenElapsedMs := none
  terminalOutcome := none
  terminalElapsedMs := none

def insertedParticipant (role : Role) (participant : CooperationParticipant) :
    StoredParticipant :=
  { role, accountId := participant.accountId, characterId := participant.characterId
    actorId := participant.actorId, weaponItemId := participant.weaponItemId
    moduleLoadout := participant.modules, profile := participant.profile
    admittedHealth := participant.currentHealth, currentHealth := participant.currentHealth
    life := .active }

/-- Insert the parent, then the two participants, whose accounts, characters and
actors must differ. -/
def insertStart (database : Database) (input : CooperationOperationInput)
    (anchor runner : CooperationParticipant) : Except CooperationPersistenceError Database := do
  rejectIf (¬ (insertedParent input).Checks) .database
  rejectIf (anchor.actorId > i64Max) (invalidState "participant actor exceeds BIGINT")
  rejectIf (¬ (insertedParticipant .anchor anchor).Checks) .database
  rejectIf (runner.actorId > i64Max) (invalidState "participant actor exceeds BIGINT")
  rejectIf (¬ (insertedParticipant .runner runner).Checks ∨ anchor.accountId = runner.accountId ∨
    anchor.characterId = runner.characterId ∨ anchor.actorId = runner.actorId) .database
  return database.write input.sessionId {
    parent := insertedParent input, anchor := insertedParticipant .anchor anchor
    runner := insertedParticipant .runner runner }

def unexpectedRows : CooperationPersistenceError :=
  invalidState "cooperation mutation affected an unexpected row count"

/-- `UPDATE cooperation_operations ... AND terminal_outcome IS NULL`, of one row. -/
def updateParent (sessionId : String) (change : StoredParent → StoredParent)
    (database : Database) : Except CooperationPersistenceError Database := do
  let rows ← require (database.operations sessionId) unexpectedRows
  rejectIf (rows.parent.terminalOutcome.isSome = true) unexpectedRows
  rejectIf (¬ (change rows.parent).Checks) .database
  return database.write sessionId { rows with parent := change rows.parent }

def OperationRows.withParticipant (rows : OperationRows) (role : Role)
    (currentHealth : Nat) (life : LifeState) : OperationRows :=
  match role with
  | .anchor => { rows with anchor := { rows.anchor with currentHealth, life } }
  | .runner => { rows with runner := { rows.runner with currentHealth, life } }

/-- `UPDATE cooperation_operation_participants` of one role. -/
def updateParticipant (sessionId : String) (role : Role) (currentHealth : Nat) (life : LifeState)
    (database : Database) : Except CooperationPersistenceError Database := do
  let rows ← require (database.operations sessionId) unexpectedRows
  let next := rows.withParticipant role currentHealth life
  rejectIf (¬ (next.participant role).Checks) .database
  return database.write sessionId next

def closeParent (outcome : TerminalOutcome) (elapsedMs : Nat) (parent : StoredParent) :
    StoredParent :=
  { parent with terminalOutcome := some outcome, terminalElapsedMs := some elapsedMs }

def persistFailureTerminal (database : Database) (sessionId : String) (outcome : TerminalOutcome)
    (elapsedMs : Nat) : Except CooperationPersistenceError Database := do
  rejectIf (outcome = .succeeded) (invalidState "failure persistence received success")
  elapsedI64 elapsedMs
  updateParent sessionId (closeParent outcome elapsedMs) database

/-! ## The journal of a session -/

/-- A statement of journalled sessions only. -/
def ifJournalled (replayMode : Bool)
    (statement : Database → Except CooperationPersistenceError Database) (database : Database) :
    Except CooperationPersistenceError Database :=
  if replayMode = true then statement database else .ok database

/-- How evidence is written, and what the other readers of a session make of its
rows. -/
structure Journalling where
  serialize : CooperationReplayPayload → String
  others : List ReplayEvent → Except ReplayError Unit

/-- Kinds that follow a success: `omit_terminal_generics` leaves them out. -/
def concludes : ReplayEventKind → Bool
  | .activityCompleted | .lootGranted | .progressionGranted => true
  | _ => false

def insertCooperationEvent (database : Database) (sessionId activityId accountId : String)
    (actorId : Nat) (kind : ReplayEventKind) (payload : String)
    (evidence : Option CooperationReplayPayload) : Except CooperationPersistenceError Database := do
  rejectIf (actorId > i64Max) (invalidState "cooperation replay actor exceeds BIGINT")
  return database.append (fun id =>
    { row :=
        { id, kind, sessionId, accountId, activityId := some activityId, actorId := some actorId
          payload := .text payload }
      evidence := { value := evidence, length := payload.utf8ByteSize } })

/-- The rows before the start, and those behind it that are no rewards. -/
def withoutRewards (events : List CooperationEvent) : List CooperationEvent :=
  let start := (events.find? (fun event => event.row.kind = .cooperationStarted)).map (·.row.id)
  events.filter (fun event => ¬ ((∃ id ∈ start, id < event.row.id) ∧
    concludes event.row.kind = true))

def countKinds (events : List CooperationEvent) (family : ReplayEventKind → Bool) : Nat :=
  events.countP (fun event => family event.row.kind)

def cooperationCount (events : List CooperationEvent) : Nat :=
  countKinds events ReplayEventKind.isCooperationEvent

def routeCount (events : List CooperationEvent) : Nat :=
  countKinds events ReplayEventKind.isRouteEvent

def startCount (events : List CooperationEvent) : Nat :=
  countKinds events (fun kind => decide (kind = .cooperationStarted))

def validateNewReplayMode (events : List CooperationEvent) :
    Except CooperationPersistenceError Unit :=
  rejectIf (cooperationCount events ≠ 0 ∨ routeCount events ≠ 0)
    (invalidState "cooperation start conflicts with existing route/cooperation replay")

def validateReplayMode (events : List CooperationEvent) (expected : Bool) :
    Except CooperationPersistenceError Unit :=
  rejectIf (routeCount events ≠ 0 ∨
      (expected = true ∧ (startCount events ≠ 1 ∨ cooperationCount events < 1)) ∨
      (expected = false ∧ cooperationCount events ≠ 0))
    (invalidState "cooperation replay mode is missing, partial, mixed, or conflicting")

/-- Whether a session journals its cooperation: it has one start, or nothing of one. -/
def replayMode (events : List CooperationEvent) : Except CooperationPersistenceError Bool :=
  match startCount events, cooperationCount events with
  | 0, 0 => .ok false
  | 1, _ + 1 => .ok true
  | _, _ => .error
      (invalidState "cooperation replay start/cardinality is partial or duplicated")

def replayProfile (evidence : ReplayCooperationParticipantEvidence) :
    Except CooperationPersistenceError CombatProfile :=
  match evidence.moduleState.weapons.filter (·.itemId = evidence.weaponItemId) with
  | [] => .error (invalidState "cooperation replay weapon profile is missing")
  | [weapon] => .ok weapon.effective
  | _ => .error (invalidState "cooperation replay weapon profile is duplicated")

/-- One recorded participant is the stored one. -/
def validateParticipantMatches (evidence : ReplayCooperationParticipantEvidence)
    (participant : StoredParticipant) : Except CooperationPersistenceError Unit := do
  let disagrees := invalidState
    "cooperation replay participant disagrees with durable admission"
  rejectIf (evidence.participantId ≠ participant.accountId ∨
      evidence.characterId ≠ participant.characterId ∨ evidence.actorId ≠ participant.actorId ∨
      evidence.role ≠ participant.role ∨ evidence.weaponItemId ≠ participant.weaponItemId ∨
      evidence.moduleState.persistedLoadout ≠ participant.moduleLoadout ∨
      evidence.moduleState.appliedLoadout ≠ participant.moduleLoadout ∨
      evidence.admittedHealth ≠ participant.admittedHealth) disagrees
  let profile ← replayProfile evidence
  rejectIf (profile ≠ participant.profile) disagrees

def validateStartedMatches (started : Option CooperationStartedPayload)
    (rows : OperationRows) : Except CooperationPersistenceError CooperationStartedPayload := do
  let started ← require started (invalidState "cooperation replay start is missing")
  rejectIf (started.activityId ≠ rows.parent.activityId ∨
      started.startOperationId ≠ rows.parent.startOperationId ∨
      started.catalogRevision ≠ rows.parent.catalogRevision ∨ started.participants.length ≠ 2)
    (invalidState "cooperation replay start disagrees with durable parent")
  (started.participants.zip [rows.anchor, rows.runner]).forM
    (fun pair => validateParticipantMatches pair.1 pair.2)
  return started

/-! ## Payloads from the rows -/

def pingPayload (rows : OperationRows) (anchorElapsedMs : Nat) (operationId : String)
    (elapsedMs : Nat) : CooperationPingedPayload where
  schemaVersion := cooperationReplaySchemaVersion
  catalogRevision := rows.parent.catalogRevision
  startOperationId := rows.parent.startOperationId
  anchorElapsedMs := anchorElapsedMs
  pingOperationId := operationId
  sourceParticipantId := rows.anchor.accountId
  sourceActorId := rows.anchor.actorId
  target := .relayConsole
  pingElapsedMs := elapsedMs
  expiresElapsedMs := elapsedMs + pingTtlMs

def downPayload (rows : OperationRows) (elapsedMs : Nat) : PlayerDownedPayload where
  schemaVersion := cooperationReplaySchemaVersion
  catalogRevision := rows.parent.catalogRevision
  startOperationId := rows.parent.startOperationId
  participantId := rows.runner.accountId
  actorId := rows.runner.actorId
  role := .runner
  target := .relayConsole
  runnerElapsedMs := elapsedMs
  hazard := .relayFeedback
  healthBefore := rows.runner.admittedHealth
  damage := rows.runner.admittedHealth
  healthAfter := 0
  lifeBefore := .active
  lifeAfter := .downed

def revivePayload (rows : OperationRows) (startedElapsedMs : Nat) (operationId : String)
    (elapsedMs : Nat) : PlayerRevivedPayload where
  schemaVersion := cooperationReplaySchemaVersion
  catalogRevision := rows.parent.catalogRevision
  startOperationId := rows.parent.startOperationId
  reviveOperationId := operationId
  sourceParticipantId := rows.anchor.accountId
  sourceActorId := rows.anchor.actorId
  targetParticipantId := rows.runner.accountId
  targetActorId := rows.runner.actorId
  targetRole := .runner
  reviveStartedElapsedMs := startedElapsedMs
  reviveCompletedElapsedMs := elapsedMs
  channelDurationMs := Cooperation.reviveChannelMs
  maximumDistanceSquared := Cooperation.maxReviveDistanceSquared
  healthBefore := 0
  healthAfter := Cooperation.reviveHealth
  lifeBefore := .downed
  lifeAfter := .active
  reviveCount := 1

def terminalParticipant (identity : StoredParticipant) (state : ParticipantState) :
    ReplayCooperationTerminalParticipantEvidence :=
  CooperationReplay.terminalEvidence identity.accountId identity.characterId identity.actorId
    state.role state

def grantOf (identity : StoredParticipant) : ReplayCooperationGrantEvidence :=
  CooperationReplay.grantEvidence identity.accountId identity.characterId identity.actorId

def terminalPayload (stored : StoredOperation) (outcome : TerminalOutcome)
    (subjectRole : Option Role) (elapsedMs : Nat) : CooperationTerminalPayload :=
  let parent := stored.rows.parent
  let contributions := stored.state.contributions
  { schemaVersion := cooperationReplaySchemaVersion
    catalogRevision := parent.catalogRevision
    startOperationId := parent.startOperationId
    lastNonterminalPhase := parent.phase
    contributions := {
      anchorArrived := contributions.anchorArrived, anchorElapsedMs := parent.anchorElapsedMs
      pinged := contributions.pinged, pingOperationId := parent.pingOperationId
      pingElapsedMs := parent.pingElapsedMs, runnerArrived := contributions.runnerArrived
      runnerElapsedMs := parent.runnerElapsedMs, downedElapsedMs := parent.downedElapsedMs
      reviveOperationId := parent.reviveOperationId
      reviveStartedElapsedMs := parent.reviveStartedElapsedMs, revived := contributions.revived
      reviveCompletedElapsedMs := parent.reviveCompletedElapsedMs
      reviveCount := stored.state.reviveCount, wardenCompleted := contributions.wardenCompleted
      wardenElapsedMs := if outcome = .succeeded then some elapsedMs else none }
    participants := [terminalParticipant stored.rows.anchor stored.state.anchor,
      terminalParticipant stored.rows.runner stored.state.runner]
    outcome, subjectRole, terminalElapsedMs := elapsedMs
    grants := if outcome = .succeeded then [grantOf stored.rows.anchor, grantOf stored.rows.runner]
      else [] }

/-- A terminal names the start its session was admitted with. -/
def terminalPayloadFromStorage (stored : StoredOperation) (started : CooperationStartedPayload)
    (outcome : TerminalOutcome) (subjectRole : Option Role) (elapsedMs : Nat) :
    Except CooperationPersistenceError CooperationTerminalPayload := do
  rejectIf (started.startOperationId ≠ stored.rows.parent.startOperationId)
    (invalidState "terminal replay start identity disagrees with admission")
  return terminalPayload stored outcome subjectRole elapsedMs

section Journal

variable (journal : Journalling)

def reconstructStream (events : List CooperationEvent) :
    Except CooperationPersistenceError ReconstructedCooperationReplay := do
  liftReplay (journal.others (events.map (·.row)))
  liftReplay (reconstructCooperationReplay events)

/-- Evidence that passed its own check, written within the bound of a payload. -/
def encodePayload (valid : Except ReplayError Unit) (payload : CooperationReplayPayload) :
    Except CooperationPersistenceError Unit :=
  liftReplay (do
    valid
    rejectIf ((journal.serialize payload).utf8ByteSize > maxCooperationReplayPayloadBytes)
      (cooperationError "cooperation replay payload exceeds 8192 UTF-8 bytes"))

def pingPayloadFromStorage (rows : OperationRows) (started : CooperationStartedPayload) :
    Except CooperationPersistenceError CooperationPingedPayload := do
  let elapsedMs ← require rows.parent.pingElapsedMs
    (invalidState "durable ping elapsed is missing")
  let anchorElapsedMs ← require rows.parent.anchorElapsedMs
    (invalidState "durable anchor elapsed is missing")
  let operationId ← require rows.parent.pingOperationId
    (invalidState "durable ping operation is missing")
  rejectIf (elapsedMs + pingTtlMs > u64Max) (invalidState "durable ping expiry overflowed")
  let payload := pingPayload rows anchorElapsedMs operationId elapsedMs
  encodePayload journal (CooperationReplay.validatePingedPayload payload started) (.pinged payload)
  return payload

def downPayloadFromStorage (rows : OperationRows) (started : CooperationStartedPayload) :
    Except CooperationPersistenceError PlayerDownedPayload := do
  let elapsedMs ← require rows.parent.runnerElapsedMs
    (invalidState "durable runner elapsed is missing")
  let payload := downPayload rows elapsedMs
  let ping ← pingPayloadFromStorage journal rows started
  encodePayload journal (CooperationReplay.validateDownedPayload payload started ping)
    (.downed payload)
  return payload

def revivePayloadFromStorage (rows : OperationRows) (started : CooperationStartedPayload) :
    Except CooperationPersistenceError PlayerRevivedPayload := do
  let operationId ← require rows.parent.reviveOperationId
    (invalidState "durable revive operation is missing")
  let elapsedMs ← require rows.parent.reviveCompletedElapsedMs
    (invalidState "durable revive completion is missing")
  let startedElapsedMs ← require rows.parent.reviveStartedElapsedMs
    (invalidState "durable revive start is missing")
  let payload := revivePayload rows startedElapsedMs operationId elapsedMs
  let downed ← downPayloadFromStorage journal rows started
  encodePayload journal (CooperationReplay.validateRevivedPayload payload started downed)
    (.revived payload)
  return payload

/-- The payload of a recorded contribution, when it is recorded. -/
def recordedPayload {Evidence : Type} (flag : Bool)
    (payload : Except CooperationPersistenceError Evidence) :
    Except CooperationPersistenceError (Option Evidence) :=
  if flag = true then payload.map some else .ok none

/-- Who a stored end is about. -/
def terminalSubject (reconstructed : ReconstructedCooperationReplay) (state : CooperationState)
    (outcome : TerminalOutcome) : Option Role :=
  match outcome with
  | .failedParticipantDefeated =>
      ([state.anchor, state.runner].find? (·.life = .defeated)).map (·.role)
  | .abandonedDisconnect =>
      reconstructed.terminal.bind CooperationTerminalPayload.subjectRole
  | _ => none

/-- What the journal tells is what the rows hold. -/
def validateMatchesStorage (reconstructed : ReconstructedCooperationReplay)
    (stored : StoredOperation) : Except CooperationPersistenceError Unit := do
  let started ← validateStartedMatches reconstructed.started stored.rows
  let parent := stored.rows.parent
  let ping ← recordedPayload parent.pinged (pingPayloadFromStorage journal stored.rows started)
  rejectIf (reconstructed.pinged ≠ ping)
    (invalidState "cooperation ping replay disagrees with durable state")
  let down ← recordedPayload parent.runnerArrived
    (downPayloadFromStorage journal stored.rows started)
  rejectIf (reconstructed.downed ≠ down)
    (invalidState "cooperation downing replay disagrees with durable state")
  let revive ← recordedPayload parent.revived
    (revivePayloadFromStorage journal stored.rows started)
  rejectIf (reconstructed.revived ≠ revive)
    (invalidState "cooperation revive replay disagrees with durable state")
  match stored.state.terminal with
  | none =>
      rejectIf (reconstructed.terminal.isSome = true)
        (invalidState "active cooperation has unexpected terminal replay")
  | some outcome => do
      let elapsedMs ← require parent.terminalElapsedMs
        (invalidState "durable terminal elapsed is missing")
      let terminal ← terminalPayloadFromStorage stored started outcome
        (terminalSubject reconstructed stored.state outcome) elapsedMs
      rejectIf (reconstructed.terminal ≠ some terminal)
        (invalidState "cooperation terminal replay disagrees with durable state")

/-- Whether the session journals its cooperation, as the caller expects; what it
journalled so far must be what is stored. -/
def validateExistingReplay (database : Database) (stored : StoredOperation)
    (expectation : Option Bool) : Except CooperationPersistenceError Bool := do
  let events := database.stream stored.sessionId
  let mode ← replayMode events
  rejectIf (routeCount events ≠ 0 ∨ ∃ expected ∈ expectation, expected ≠ mode)
    (invalidState "cooperation replay mode conflicts with the requested mutation")
  if mode = true then do
    let reconstructed ← reconstructStream journal events
    validateMatchesStorage journal reconstructed stored
    return true
  else return false

/-! ## Appending evidence -/

/-- One row of the kind, of the participant, with the text. -/
def validateExactEvent (database : Database) (stored : StoredOperation) (kind : ReplayEventKind)
    (role : Role) (payload : String) : Except CooperationPersistenceError Unit :=
  let participant := stored.rows.participant role
  let exact := fun (event : CooperationEvent) => event.row.accountId = participant.accountId ∧
    event.row.activityId = some stored.rows.parent.activityId ∧
    event.row.actorId = some participant.actorId ∧ event.row.payload = .text payload
  let found := (database.stream stored.sessionId).filter (fun event => event.row.kind = kind)
  rejectIf (found.length ≠ 1 ∨ ∃ event ∈ found, ¬ exact event)
    (invalidState "cooperation replay retry disagrees with its exact durable event")

def persistOrValidateEvent (database : Database) (stored : StoredOperation)
    (kind : ReplayEventKind) (role : Role) (payload : CooperationReplayPayload)
    (disposition : MutationDisposition) : Except CooperationPersistenceError Database :=
  match disposition with
  | .applied =>
      insertCooperationEvent database stored.sessionId stored.rows.parent.activityId
        (stored.rows.participant role).accountId (stored.rows.participant role).actorId kind
        (journal.serialize payload) (some payload)
  | .replayed => do
      validateExactEvent database stored kind role (journal.serialize payload)
      return database
  | .pending | .cancelled => .error
      (invalidState "pending/cancelled cooperation cannot persist replay evidence")

def missingStart : CooperationPersistenceError :=
  invalidState "cooperation start replay is missing"

/-- The payload of a ping that was just accepted. -/
def acceptedPing (rows : OperationRows) (operationId : String) (elapsedMs : Nat) :
    Except CooperationPersistenceError CooperationPingedPayload := do
  let anchorElapsedMs ← require rows.parent.anchorElapsedMs
    (invalidState "ping replay has no anchor arrival")
  rejectIf (elapsedMs + pingTtlMs > u64Max) (invalidState "ping replay expiry overflowed")
  return pingPayload rows anchorElapsedMs operationId elapsedMs

/-- A repeated ping is the stored one. -/
def persistedPing (rows : OperationRows) (started : CooperationStartedPayload)
    (operationId : String) (elapsedMs : Nat) (disposition : MutationDisposition) :
    Except CooperationPersistenceError CooperationPingedPayload :=
  if disposition = .replayed then pingPayloadFromStorage journal rows started
  else acceptedPing rows operationId elapsedMs

def persistOrValidatePing (database : Database) (stored : StoredOperation) (operationId : String)
    (elapsedMs : Nat) (disposition : MutationDisposition) :
    Except CooperationPersistenceError Database := do
  let reconstructed ← reconstructStream journal (database.stream stored.sessionId)
  let started ← require reconstructed.started missingStart
  let payload ← persistedPing journal stored.rows started operationId elapsedMs disposition
  encodePayload journal (CooperationReplay.validatePingedPayload payload started) (.pinged payload)
  persistOrValidateEvent journal database stored .cooperationPinged .anchor (.pinged payload)
    disposition

def persistOrValidateDown (database : Database) (stored : StoredOperation) (elapsedMs : Nat)
    (disposition : MutationDisposition) : Except CooperationPersistenceError Database := do
  let reconstructed ← reconstructStream journal (database.stream stored.sessionId)
  let started ← require reconstructed.started missingStart
  let pinged ← require reconstructed.pinged (invalidState "cooperation ping replay is missing")
  let payload := downPayload stored.rows elapsedMs
  encodePayload journal (CooperationReplay.validateDownedPayload payload started pinged)
    (.downed payload)
  persistOrValidateEvent journal database stored .playerDowned .runner (.downed payload)
    disposition

def persistOrValidateRevive (database : Database) (stored : StoredOperation)
    (operationId : String) (elapsedMs : Nat) (disposition : MutationDisposition) :
    Except CooperationPersistenceError Database := do
  let reconstructed ← reconstructStream journal (database.stream stored.sessionId)
  let started ← require reconstructed.started missingStart
  let downed ← require reconstructed.downed (invalidState "cooperation downing replay is missing")
  let startedElapsedMs ← require stored.rows.parent.reviveStartedElapsedMs
    (invalidState "durable revive start is missing")
  let payload := revivePayload stored.rows startedElapsedMs operationId elapsedMs
  encodePayload journal (CooperationReplay.validateRevivedPayload payload started downed)
    (.revived payload)
  persistOrValidateEvent journal database stored .playerRevived .runner (.revived payload)
    disposition

/-- A new end is checked against the journal without the rewards just granted. -/
def persistOrValidateTerminal (database : Database) (stored : StoredOperation)
    (outcome : TerminalOutcome) (subjectRole : Option Role) (elapsedMs : Nat)
    (disposition : MutationDisposition) : Except CooperationPersistenceError Database := do
  let events := database.stream stored.sessionId
  let reconstructed ← reconstructStream journal
    (if disposition = .applied then withoutRewards events else events)
  let started ← require reconstructed.started missingStart
  let payload ← terminalPayloadFromStorage stored started outcome subjectRole elapsedMs
  let rows : CooperationReplayPrefix :=
    { pinged := reconstructed.pinged, downed := reconstructed.downed
      revived := reconstructed.revived }
  encodePayload journal (CooperationReplay.validateTerminalPayload (decide (outcome = .succeeded))
    payload started rows) (.terminal payload)
  persistOrValidateEvent journal database stored
    (if outcome = .succeeded then .cooperationSucceeded else .cooperationFailed) .anchor
    (.terminal payload) disposition

/-! ## Starting -/

/-- The admission snapshot of one supplied participant. -/
def snapshotEvidence (input : CooperationOperationInput) (role : Role) (event : CooperationEvent)
    (participant : CooperationParticipant) :
    Except CooperationPersistenceError ReplayCooperationParticipantEvidence := do
  let actorId ← require event.row.actorId (invalidState "cooperation snapshot has no actor")
  let snapshot ← liftReplay (do
    let snapshot ← decodeModule ModuleReplayPayload.stateSnapshot? event.row.payload
    snapshot.validate
    return snapshot)
  rejectIf (event.row.accountId ≠ participant.accountId ∨
      event.row.activityId ≠ some input.activityId ∨ actorId ≠ participant.actorId ∨
      snapshot.protocolGeneration ≠ .v2 ∨ snapshot.characterId ≠ participant.characterId ∨
      snapshot.state.persistedLoadout ≠ participant.modules ∨
      snapshot.state.appliedLoadout ≠ participant.modules)
    (invalidState "cooperation admission disagrees with its M26 snapshot")
  let evidence : ReplayCooperationParticipantEvidence :=
    { participantId := participant.accountId, characterId := participant.characterId
      actorId := participant.actorId, role, weaponItemId := participant.weaponItemId
      moduleState := snapshot.state, admittedHealth := participant.currentHealth }
  let profile ← replayProfile evidence
  rejectIf (profile ≠ participant.profile)
    (invalidState "cooperation profile disagrees with immutable replay evidence")
  return evidence

def buildStartedReplay (database : Database) (input : CooperationOperationInput)
    (anchor runner : CooperationParticipant) :
    Except CooperationPersistenceError CooperationStartedPayload :=
  match (database.stream input.sessionId).filter (·.row.kind = .moduleStateSnapshot) with
  | [first, second] => do
      let anchorEvidence ← snapshotEvidence input .anchor first anchor
      let runnerEvidence ← snapshotEvidence input .runner second runner
      let payload : CooperationStartedPayload :=
        { schemaVersion := cooperationReplaySchemaVersion, activityId := input.activityId
          catalogRevision := Cooperation.catalogRevision, startOperationId := input.operationId
          participants := [anchorEvidence, runnerEvidence]
          anchorTarget := CooperationReplay.targets.1, runnerTarget := CooperationReplay.targets.2
          timing := CooperationReplay.timing, reward := CooperationReplay.reward }
      encodePayload journal (CooperationReplay.validateStartedPayload payload) (.started payload)
      return payload
  | _ => .error (invalidState
      "cooperation replay requires exactly two admission module snapshots")

/-- A repeated start of a journalled session finds its own row. -/
def validateStartedRetry (stored : StoredOperation) (database : Database) :
    Except CooperationPersistenceError Database := do
  let reconstructed ← reconstructStream journal (database.stream stored.sessionId)
  let started ← validateStartedMatches reconstructed.started stored.rows
  encodePayload journal (CooperationReplay.validateStartedPayload started) (.started started)
  validateExactEvent database stored .cooperationStarted .anchor
    (journal.serialize (.started started))
  return database

/-- Append the start, if there is one, and read the whole journal with it. -/
def insertStartedReplay (input : CooperationOperationInput) (anchor : CooperationParticipant)
    (started : Option CooperationStartedPayload) (database : Database) :
    Except CooperationPersistenceError Database :=
  match started with
  | none => .ok database
  | some payload => do
      let appended ← insertCooperationEvent database input.sessionId input.activityId
        anchor.accountId anchor.actorId .cooperationStarted (journal.serialize (.started payload))
        (some (.started payload))
      let reconstructed ← reconstructStream journal (appended.stream input.sessionId)
      rejectIf (reconstructed.started ≠ some payload)
        (invalidState "committed cooperation start differs from replay reconstruction")
      return appended

def startCooperationOperation (input : CooperationOperationInput) (appendReplay : Bool)
    (database : Database) : Except CooperationPersistenceError (CooperationReceipt × Database) := do
  validateStorageId input.sessionId "session"
  let (anchor, runner) ← validateStartInput input
  let state ← liftDomain (CooperationState.startWithHealth input.operationId anchor.profile
    runner.profile anchor.currentHealth runner.currentHealth)
  let loaded ← loadOperation database input.sessionId
  match loaded with
  | some stored => do
      validateStartRetry stored input anchor runner
      validateReplayMode (database.stream input.sessionId) appendReplay
      let validated ← ifJournalled appendReplay (validateStartedRetry journal stored) database
      return ({ disposition := .replayed, state := stored.state }, validated)
  | none => do
      validateParticipantIdentity database anchor
      validateParticipantIdentity database runner
      let started ← recordedPayload appendReplay
        (buildStartedReplay journal database input anchor runner)
      validateNewReplayMode (database.stream input.sessionId)
      let inserted ← insertStart database input anchor runner
      let journalled ← insertStartedReplay journal input anchor started inserted
      let reloaded ← loadOperation journalled input.sessionId
      let stored ← require reloaded (invalidState "cooperation start disappeared before commit")
      rejectIf (stored.state ≠ state) (invalidState "stored start differs from pure domain")
      return ({ disposition := .applied, state }, journalled)

/-! ## Mutations -/

/-- The database inside a transaction, with the rows as they were loaded and the
state the domain has moved on to. -/
structure Transaction where
  database : Database
  stored : StoredOperation

abbrev Mutation (Value : Type) : Type := Call Transaction CooperationPersistenceError Value

/-- Ask the domain; whatever it leaves stays in the loaded operation. -/
def operate (operation : Operation) : Mutation MutationDisposition := fun transaction =>
  (liftDomain (perform operation transaction.stored.state).1,
    { transaction with stored := { transaction.stored with
        state := (perform operation transaction.stored.state).2 } })

/-- Run a statement. -/
def execute (statement : StoredOperation → Database → Except CooperationPersistenceError Database) :
    Mutation Unit := fun transaction =>
  match statement transaction.stored transaction.database with
  | .ok database => (.ok (), { transaction with database })
  | .error failure => (.error failure, transaction)

def setParent (change : StoredParent → StoredParent) : Mutation Unit :=
  execute (fun stored database => updateParent stored.sessionId change database)

def setParticipant (role : Role) (currentHealth : Nat) (life : LifeState) : Mutation Unit :=
  execute (fun stored database => updateParticipant stored.sessionId role currentHealth life database)

/-- Evidence is appended only in a journalled session. -/
def evidence (replayMode : Bool)
    (statement : StoredOperation → Database → Except CooperationPersistenceError Database) :
    Mutation Unit :=
  execute (fun stored => ifJournalled replayMode (statement stored))

def requireSameElapsed (stored supplied : Nat) : Except CooperationPersistenceError Unit := do
  elapsedI64 supplied
  rejectIf (stored ≠ supplied)
    (invalidState "cooperation transition elapsed value conflicts")

def arriveAnchorColumns (elapsedMs : Nat) (parent : StoredParent) : StoredParent :=
  { parent with phase := .awaitingPing, anchorArrived := true, anchorElapsedMs := some elapsedMs }

def arriveAnchorMutation (elapsedMs : Nat) : Mutation MutationDisposition := do
  let existing ← Call.check (fun transaction =>
    .ok transaction.stored.rows.parent.anchorElapsedMs)
  match existing with
  | some earlier => do
      let _ ← operate (.observeDeadlines elapsedMs)
      Call.check (fun _ => requireSameElapsed earlier elapsedMs)
      return .replayed
  | none => do
      let disposition ← operate (.arriveAnchor .anchor .relayAnchor elapsedMs)
      Call.check (fun _ => elapsedI64 elapsedMs)
      setParent (arriveAnchorColumns elapsedMs)
      return disposition

def pingColumns (operationId : String) (elapsedMs : Nat) (parent : StoredParent) : StoredParent :=
  { parent with
    phase := .awaitingRunner, pinged := true, pingOperationId := some operationId
    pingTarget := some .relayConsole, pingElapsedMs := some elapsedMs }

def recordPing (operationId : String) (elapsedMs : Nat) (replayMode : Bool)
    (disposition : MutationDisposition) : Mutation MutationDisposition := do
  evidence replayMode (fun stored database =>
    persistOrValidatePing journal database stored operationId elapsedMs disposition)
  return disposition

/-- Only a new ping has columns to write. -/
def pingMutation (operationId : String) (elapsedMs : Nat) (replayMode : Bool) :
    Mutation MutationDisposition := do
  let disposition ← operate (.ping .anchor .relayConsole operationId elapsedMs)
  if disposition = .applied then do
    Call.check (fun _ => elapsedI64 elapsedMs)
    setParent (pingColumns operationId elapsedMs)
    recordPing journal operationId elapsedMs replayMode disposition
  else recordPing journal operationId elapsedMs replayMode disposition

def downColumns (elapsedMs : Nat) (parent : StoredParent) : StoredParent :=
  { parent with
    phase := .runnerDowned, runnerArrived := true, runnerElapsedMs := some elapsedMs
    downedElapsedMs := some elapsedMs }

def downRunnerMutation (elapsedMs : Nat) (replayMode : Bool) : Mutation MutationDisposition := do
  let existing ← Call.check (fun transaction =>
    .ok transaction.stored.rows.parent.runnerElapsedMs)
  match existing with
  | some earlier => do
      let _ ← operate (.observeDeadlines elapsedMs)
      Call.check (fun _ => requireSameElapsed earlier elapsedMs)
      evidence replayMode (fun stored database =>
        persistOrValidateDown journal database stored elapsedMs .replayed)
      return .replayed
  | none => do
      let disposition ← operate (.arriveRunner .runner .relayConsole elapsedMs)
      Call.check (fun _ => elapsedI64 elapsedMs)
      setParent (downColumns elapsedMs)
      setParticipant .runner 0 .downed
      evidence replayMode (fun stored database =>
        persistOrValidateDown journal database stored elapsedMs disposition)
      return disposition

def channelColumns (operationId : String) (elapsedMs : Nat) (parent : StoredParent) :
    StoredParent :=
  { parent with
    phase := .reviveChannel, reviveOperationId := some operationId, reviveTarget := some .runner
    reviveStartedElapsedMs := some elapsedMs }

def startReviveMutation (operationId : String) (distanceSquared : Int) (elapsedMs : Nat) :
    Mutation MutationDisposition := do
  let disposition ← operate (.startRevive .anchor .runner distanceSquared operationId elapsedMs)
  if disposition = .replayed then return disposition
  else do
    Call.check (fun _ => elapsedI64 elapsedMs)
    setParent (channelColumns operationId elapsedMs)
    return disposition

def cancelColumns (parent : StoredParent) : StoredParent :=
  { parent with
    phase := .runnerDowned, reviveOperationId := none, reviveTarget := none
    reviveStartedElapsedMs := none }

def reviveColumns (elapsedMs : Nat) (parent : StoredParent) : StoredParent :=
  { parent with
    phase := .encounterActive, revived := true, reviveCompletedElapsedMs := some elapsedMs
    reviveCount := 1 }

def observeReviveMutation (operationId : String) (distanceSquared : Int) (elapsedMs : Nat)
    (replayMode : Bool) : Mutation MutationDisposition := do
  let disposition ← operate (.observeRevive .anchor .runner distanceSquared operationId elapsedMs)
  match disposition with
  | .pending => return disposition
  | .replayed => do
      evidence replayMode (fun stored database =>
        persistOrValidateRevive journal database stored operationId elapsedMs .replayed)
      return disposition
  | .cancelled => do
      setParent cancelColumns
      return disposition
  | .applied => do
      Call.check (fun _ => elapsedI64 elapsedMs)
      setParent (reviveColumns elapsedMs)
      setParticipant .runner 50 .active
      evidence replayMode (fun stored database =>
        persistOrValidateRevive journal database stored operationId elapsedMs .applied)
      return disposition

/-- What a mutation that ran into a deadline commits instead: the failed end. -/
def expire (elapsedMs : Nat) (replayMode : Bool) (outcome : TerminalOutcome)
    (transaction : Transaction) : Except CooperationPersistenceError Database := do
  let closed ← persistFailureTerminal transaction.database transaction.stored.sessionId outcome
    elapsedMs
  ifJournalled replayMode (fun database => persistOrValidateTerminal journal database
    transaction.stored outcome none elapsedMs .applied) closed

/-- What a mutation commits: its own answer, or the deadline it ran into. -/
def settle (elapsedMs : Nat) (replayMode : Bool) :
    Except CooperationPersistenceError MutationDisposition × Transaction →
      Except CooperationPersistenceError (CooperationReceipt × Database)
  | (.ok disposition, after) =>
      .ok ({ disposition, state := after.stored.state }, after.database)
  | (.error (.domain (.deadlineExpired outcome)), after) => do
      let closed ← expire journal elapsedMs replayMode outcome after
      return ({ disposition := .applied, state := after.stored.state }, closed)
  | (.error failure, _) => .error failure

def mutateCooperation (sessionId : String) (elapsedMs : Nat) (expectation : Option Bool)
    (mutation : Bool → Mutation MutationDisposition) (database : Database) :
    Except CooperationPersistenceError (CooperationReceipt × Database) := do
  validateStorageId sessionId "session"
  let stored ← requireOperation database sessionId
  let replayMode ← validateExistingReplay journal database stored expectation
  let settled ← settle journal elapsedMs replayMode (mutation replayMode { database, stored })
  if replayMode = true then do
    let _ ← reconstructStream journal (settled.2.stream sessionId)
    return settled
  else return settled

/-! ## Ends -/

structure CompletionRewards where
  itemQuantity : Nat
  experienceGranted : Nat
  previousLevel : Nat
  level : Nat
  experience : Nat
  deriving DecidableEq, Repr

def experiencePerLevel : Nat := 500

/-- The level a total of experience has reached, in an `INTEGER` column. -/
def levelOf (experience : Nat) : Nat := min (1 + experience / experiencePerLevel) i32Max

/-- Reward a character for a session, unless it was rewarded for it before. -/
def applyCompletionReward (database : Database) (sessionId characterId : String) :
    Except CooperationPersistenceError (Option CompletionRewards × Database) :=
  if database.rewardGrants.contains (sessionId, characterId) then return (none, database)
  else do
    let quantity := database.fragments characterId + successReward.fragments
    rejectIf (quantity > i32Max) .database
    let previous ← require (database.progression characterId) .database
    let total := previous.experience + successReward.experience
    rejectIf (database.experienceGrants.contains (sessionId, characterId)) .database
    let progression : Progression := { level := levelOf total, experience := min total i64Max }
    return (some
      { itemQuantity := quantity, experienceGranted := successReward.experience
        previousLevel := previous.level, level := progression.level
        experience := progression.experience },
      { database with
        rewardGrants := database.rewardGrants ++ [(sessionId, characterId)]
        experienceGrants := database.experienceGrants ++ [(sessionId, characterId)]
        fragments := Function.update database.fragments characterId quantity
        progression := Function.update database.progression characterId (some progression) })

/-- The text of a progression event. -/
def progressionText (rewards : CompletionRewards) : String :=
  s!"progression granted: +{rewards.experienceGranted} XP (total {rewards.experience}, " ++
    s!"level {rewards.previousLevel} -> {rewards.level})"

def insertText (stored : StoredOperation) (participant : StoredParticipant)
    (kind : ReplayEventKind) (text : String) (database : Database) :
    Except CooperationPersistenceError Database :=
  insertCooperationEvent database stored.sessionId cooperationActivityId participant.accountId
    participant.actorId kind text none

def rewardParticipant (stored : StoredOperation) (appendReplay : Bool)
    (participant : StoredParticipant) (database : Database) :
    Except CooperationPersistenceError Database := do
  let (granted, rewarded) ← applyCompletionReward database stored.sessionId participant.characterId
  let rewards ← require granted
    (invalidState "cooperation reward exists without terminal evidence")
  let looted ← ifJournalled appendReplay (insertText stored participant .lootGranted
    (fragmentLoot successReward.fragments rewards.itemQuantity)) rewarded
  ifJournalled appendReplay
    (insertText stored participant .progressionGranted (progressionText rewards)) looted

def applySuccessRewards (stored : StoredOperation) (appendReplay : Bool) (database : Database) :
    Except CooperationPersistenceError Database := do
  let announced ← ifJournalled appendReplay
    (insertText stored stored.rows.anchor .activityCompleted "activity completed") database
  let anchored ← rewardParticipant stored appendReplay stored.rows.anchor announced
  rewardParticipant stored appendReplay stored.rows.runner anchored

def validateTerminalRetry (parent : StoredParent) (expected : TerminalOutcome) (elapsedMs : Nat) :
    Except CooperationPersistenceError Unit := do
  let conflicts := invalidState "cooperation terminal retry conflicts"
  rejectIf (parent.terminalOutcome ≠ some expected) conflicts
  elapsedI64 elapsedMs
  rejectIf (parent.terminalElapsedMs ≠ some elapsedMs) conflicts

/-- A repeated end of a journalled session finds its own row. -/
def retryTerminal (database : Database) (stored : StoredOperation) (outcome : TerminalOutcome)
    (subjectRole : Option Role) (elapsedMs : Nat) (appendReplay : Bool) :
    Except CooperationPersistenceError (CooperationReceipt × Database) := do
  let validated ← ifJournalled appendReplay (fun database =>
    persistOrValidateTerminal journal database stored outcome subjectRole elapsedMs .replayed)
    database
  return ({ disposition := .replayed, state := stored.state }, validated)

def completeColumns (elapsedMs : Nat) (parent : StoredParent) : StoredParent :=
  { parent with
    wardenCompleted := true, wardenElapsedMs := some elapsedMs
    terminalOutcome := some .succeeded, terminalElapsedMs := some elapsedMs }

/-- Append the end to a journalled session and read its whole journal. -/
def journalTerminal (stored : StoredOperation) (outcome : TerminalOutcome)
    (subjectRole : Option Role) (elapsedMs : Nat) (database : Database) :
    Except CooperationPersistenceError Database := do
  let appended ← persistOrValidateTerminal journal database stored outcome subjectRole elapsedMs
    .applied
  let _ ← reconstructStream journal (appended.stream stored.sessionId)
  return appended

def completeCooperationOperation (sessionId : String) (elapsedMs : Nat) (appendReplay : Bool)
    (database : Database) : Except CooperationPersistenceError (CooperationReceipt × Database) := do
  validateStorageId sessionId "session"
  let stored ← requireOperation database sessionId
  let _ ← validateExistingReplay journal database stored (some appendReplay)
  match stored.state.terminal with
  | some outcome => do
      validateTerminalRetry stored.rows.parent .succeeded elapsedMs
      rejectIf (outcome ≠ .succeeded) (invalidState "cooperation terminal outcome conflicts")
      retryTerminal journal database stored .succeeded none elapsedMs appendReplay
  | none => do
      let state ← advance (.completeWarden elapsedMs) stored.state
      let completed : StoredOperation := { stored with state }
      let rewarded ← applySuccessRewards completed appendReplay database
      elapsedI64 elapsedMs
      let closed ← updateParent sessionId (completeColumns elapsedMs) rewarded
      let journalled ← ifJournalled appendReplay
        (journalTerminal journal completed .succeeded none elapsedMs) closed
      return ({ disposition := .applied, state }, journalled)

def isTimeoutOutcome (outcome : TerminalOutcome) : Bool :=
  decide (outcome = .failedPingTimeout ∨ outcome = .failedReviveTimeout ∨
    outcome = .failedOperationTimeout)

/-- The defeated participant's row; a failure that is no defeat leaves both. -/
def defeatRows (sessionId : String) (outcome : TerminalOutcome) (subjectRole : Option Role)
    (database : Database) : Except CooperationPersistenceError Database :=
  if outcome = .failedParticipantDefeated then do
    let role ← require subjectRole (invalidState "defeat terminal has no participant role")
    updateParticipant sessionId role 0 .defeated database
  else .ok database

/-- A failed end: an accepted one, or the deadline that the request ran into. -/
def finishCooperationFailure (sessionId : String) (elapsedMs : Nat) (subjectRole : Option Role)
    (appendReplay : Bool) (retryMatches : TerminalOutcome → Bool)
    (mutation : CooperationState → Except CooperationPersistenceError CooperationState)
    (database : Database) : Except CooperationPersistenceError (CooperationReceipt × Database) := do
  validateStorageId sessionId "session"
  let stored ← requireOperation database sessionId
  let _ ← validateExistingReplay journal database stored (some appendReplay)
  match stored.state.terminal with
  | some outcome => do
      rejectIf (retryMatches outcome = false)
        (invalidState "cooperation terminal outcome conflicts")
      validateTerminalRetry stored.rows.parent outcome elapsedMs
      retryTerminal journal database stored outcome subjectRole elapsedMs appendReplay
  | none => do
      let state ← mutation stored.state
      let outcome ← require state.terminal
        (invalidState "failure mutation did not produce a terminal")
      rejectIf (outcome = .succeeded) (invalidState "failure mutation produced success")
      let defeated ← defeatRows sessionId outcome subjectRole database
      let closed ← persistFailureTerminal defeated sessionId outcome elapsedMs
      let journalled ← ifJournalled appendReplay
        (journalTerminal journal { stored with state } outcome subjectRole elapsedMs) closed
      return ({ disposition := .applied, state }, journalled)

/-- An operation that ends the cooperation, by itself or by running into a deadline. -/
def ending (operation : Operation) (state : CooperationState) :
    Except CooperationPersistenceError CooperationState :=
  match perform operation state with
  | (.ok _, next) | (.error (.deadlineExpired _), next) => .ok next
  | (.error failure, _) => .error (.domain failure)

/-- A timeout must find a deadline that has passed. -/
def timingOut (elapsedMs : Nat) (state : CooperationState) :
    Except CooperationPersistenceError CooperationState :=
  match perform (.observeDeadlines elapsedMs) state with
  | (.error (.deadlineExpired _), next) => .ok next
  | (.ok _, _) => .error (invalidState "cooperation deadline has not expired")
  | (.error failure, _) => .error (.domain failure)

/-! ## Requests -/

/-- What the gateway asks of the database. -/
inductive Request where
  | start (input : CooperationOperationInput) (appendReplay : Bool)
  | arriveAnchor (sessionId : String) (elapsedMs : Nat)
  | ping (sessionId operationId : String) (elapsedMs : Nat) (appendReplay : Bool)
  | downRunner (sessionId : String) (elapsedMs : Nat) (appendReplay : Bool)
  | startRevive (sessionId operationId : String) (distanceSquared : Int) (elapsedMs : Nat)
  | observeRevive (sessionId operationId : String) (distanceSquared : Int) (elapsedMs : Nat)
      (appendReplay : Bool)
  | complete (sessionId : String) (elapsedMs : Nat) (appendReplay : Bool)
  | timeout (sessionId : String) (elapsedMs : Nat) (appendReplay : Bool)
  | defeat (sessionId : String) (role : Role) (elapsedMs : Nat) (appendReplay : Bool)
  | abandon (sessionId : String) (role : Role) (elapsedMs : Nat) (appendReplay : Bool)

def Request.sessionId : Request → String
  | start input _ => input.sessionId
  | arriveAnchor sessionId _ | ping sessionId _ _ _ | downRunner sessionId _ _
  | startRevive sessionId _ _ _ | observeRevive sessionId _ _ _ _ | complete sessionId _ _
  | timeout sessionId _ _ | defeat sessionId _ _ _ | abandon sessionId _ _ _ => sessionId

def answer (request : Request) (database : Database) :
    Except CooperationPersistenceError (CooperationReceipt × Database) :=
  match request with
  | .start input appendReplay => startCooperationOperation journal input appendReplay database
  | .arriveAnchor sessionId elapsedMs =>
      mutateCooperation journal sessionId elapsedMs none
        (fun _ => arriveAnchorMutation elapsedMs) database
  | .ping sessionId operationId elapsedMs appendReplay =>
      mutateCooperation journal sessionId elapsedMs (some appendReplay)
        (pingMutation journal operationId elapsedMs) database
  | .downRunner sessionId elapsedMs appendReplay =>
      mutateCooperation journal sessionId elapsedMs (some appendReplay)
        (downRunnerMutation journal elapsedMs) database
  | .startRevive sessionId operationId distanceSquared elapsedMs =>
      mutateCooperation journal sessionId elapsedMs none
        (fun _ => startReviveMutation operationId distanceSquared elapsedMs) database
  | .observeRevive sessionId operationId distanceSquared elapsedMs appendReplay =>
      mutateCooperation journal sessionId elapsedMs
        (if appendReplay = true then some true else none)
        (observeReviveMutation journal operationId distanceSquared elapsedMs) database
  | .complete sessionId elapsedMs appendReplay =>
      completeCooperationOperation journal sessionId elapsedMs appendReplay database
  | .timeout sessionId elapsedMs appendReplay =>
      finishCooperationFailure journal sessionId elapsedMs none appendReplay isTimeoutOutcome
        (timingOut elapsedMs) database
  | .defeat sessionId role elapsedMs appendReplay =>
      finishCooperationFailure journal sessionId elapsedMs (some role) appendReplay
        (fun outcome => decide (outcome = .failedParticipantDefeated))
        (ending (.defeatParticipant role elapsedMs)) database
  | .abandon sessionId role elapsedMs appendReplay =>
      finishCooperationFailure journal sessionId elapsedMs (some role) appendReplay
        (fun outcome => decide (outcome = .abandonedDisconnect))
        (ending (.disconnect role elapsedMs)) database

/-- One transaction: committed as a whole, or rolled back. -/
def handle (request : Request) : Call Database CooperationPersistenceError CooperationReceipt :=
  Call.commit (answer journal request)

/-- A request, or a row that another part of the server appends to a journal. -/
inductive Move where
  | request (request : Request)
  | record (event : Int → CooperationEvent)
      (foreign : ∀ id, (event id).row.kind.isCooperationEvent = false)

def act : Move → Call Database CooperationPersistenceError (Option CooperationReceipt)
  | .request request => do
      let receipt ← handle journal request
      return some receipt
  | .record event _ => do
      Call.update (fun database => database.append event)
      return none

end Journal

end Cooperative
end Persistence
end Revenant
