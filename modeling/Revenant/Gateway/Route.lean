import Revenant.Gateway.Session
import Revenant.Replay.Route

namespace Revenant
namespace Gateway
namespace Route

open Library Operations Replay

/-!
# The route of a session

The open activity begins with the drone group.  Its fall opens the choice, and a
chosen route leads past its objectives to the Warden or into the timeout.  The
session notes every move of an objective and hands the notes to the database
with the terminal of the route.

An event carries what the rest of the process answers on its way: whether a
write is stored, which seed the database knows, whether another part of the
session takes a movement for itself.  A handler that fails keeps what it wrote
before the failing step.
-/

/-- What the routes read of a participant. -/
structure Participant where
  accountId : String
  characterId : String
  actorId : Nat
  currentV2 : Bool
  routeCapable : Bool
  equippedWeaponItemId : String
  /-- What the evidence of the module state answers. -/
  moduleState : Except ReplayError ReplayModuleStateEvidence

structure RouteEncounter where
  droneHealth : Nat
  droneDamage : Nat
  droneDefeated : Bool
  wardenSpawned : Bool
  wardenBaseHealth : Nat
  wardenEffectiveHealth : Nat
  wardenRemainingHealth : Nat
  acceptedPlayerHits : Nat
  wardenCounterCount : Nat
  totalHostileDamage : Nat
  deriving DecidableEq

structure RouteRuntime where
  operation : RouteOperationState
  selectionReplay : Option RouteSelectedPayload
  startedAt : Option Nat
  lastObservedElapsedMs : Nat
  transitions : List ReplayObjectiveTransition
  encounter : RouteEncounter

/-- A session of the open activity.  `excursion` holds while an optional
encounter or the cooperation occupies the unrouted path. -/
structure RouteSession where
  activityId : String
  expectedPlayers : Nat
  participants : List Participant
  stage : SessionStage
  route : Option RouteRuntime
  excursion : Bool

/-- The session before its activity starts. -/
def RouteSession.waiting (activityId : String) (expectedPlayers : Nat)
    (participants : List Participant) : RouteSession :=
  { activityId, expectedPlayers, participants, stage := .waiting, route := none, excursion := false }

inductive SessionError where
  | route (failure : RouteError)
  | replay (failure : ReplayError)
  | message (text : String)
  /-- The database did not store a write. -/
  | unstored

abbrev RouteSessionCall (Value : Type) : Type := Call RouteSession SessionError Value

/-! ## Transitions -/

def pushRouteTransition (transitions : List ReplayObjectiveTransition)
    (objectiveId : RouteObjectiveId) (fromState toState : ReplayRouteObjectiveState)
    (progress : Nat) : Except SessionError (List ReplayObjectiveTransition) := do
  rejectIf (transitions.length ≥ maxRouteTransitions)
    (.message "route transition limit was exceeded")
  return transitions ++
    [{ ordinal := transitions.length, objectiveId, fromState, toState, progress, target := 1 }]

def initialRouteTransitions (objectivePath : List RouteObjectiveId) :
    Except SessionError (List ReplayObjectiveTransition) := do
  rejectIf (objectivePath.head? ≠ some .clearDroneGroup)
    (.message "route path does not begin with the drone objective")
  let next ← require objectivePath[1]? (.message "route path has no post-drone objective")
  let transitions ← pushRouteTransition [] .clearDroneGroup .active .completed 1
  pushRouteTransition transitions next .pending .active 0

/-- The next transition of a list that counts its ordinals from `index`. -/
def followTransitions (index : Nat)
    (states : List (RouteObjectiveId × ReplayRouteObjectiveState)) :
    List ReplayObjectiveTransition →
      Except SessionError (List (RouteObjectiveId × ReplayRouteObjectiveState))
  | [] => .ok states
  | transition :: rest => do
      rejectIf (transition.ordinal ≠ index)
        (.message "route transition ordinal is not consecutive")
      let position ← require
        (states.findIdx? (fun state => state.1 = transition.objectiveId))
        (.message "route transition names an unknown objective")
      rejectIf (states[position]?.map Prod.snd ≠ some transition.fromState)
        (.message "route transition source state is inconsistent")
      followTransitions (index + 1)
        (states.set position (transition.objectiveId, transition.toState)) rest

def activeRouteObjective (objectivePath : List RouteObjectiveId)
    (transitions : List ReplayObjectiveTransition) : Except SessionError RouteObjectiveId := do
  let states ← followTransitions 0
    (objectivePath.mapIdx (fun index objectiveId =>
      (objectiveId, if index = 0 then .active else .pending))) transitions
  match (states.filter (fun state => state.2 = .active)).map Prod.fst with
  | [] => .error (.message "route operation has no active objective")
  | [objectiveId] => return objectiveId
  | _ => .error (.message "route operation has multiple active objectives")

/-! ## What the database stores -/

def Participant.evidence (participant : Participant) :
    Except SessionError ReplayRouteParticipantEvidence := do
  let moduleState ← participant.moduleState.mapError .replay
  return { participantId := participant.accountId, characterId := participant.characterId
           actorId := participant.actorId, weaponItemId := participant.equippedWeaponItemId
           moduleState }

def RouteSession.routeSelectionReplay (session : RouteSession) (selection : RouteSelectionOutcome) :
    Except SessionError RouteSelectedPayload := do
  let participants ← session.participants.mapM Participant.evidence
  return { schemaVersion := routeReplaySchemaVersion, activityId := session.activityId
           authoringRevision, catalogRevision, resolverRevision
           operationId := selection.operationId, leaderId := selection.leaderId, participants
           routeId := selection.routeId, seed := selection.seed, eventId := selection.eventId
           effect := selection.effect
           objectives := objectiveEvidence (routeDefinition selection.routeId).objectivePath
           durationBudgetMs := selection.durationBudgetMs, reward := selection.reward }

def routeTerminalReplay (selection : RouteSelectedPayload) (summary : RouteOperationSummary)
    (transitions : List ReplayObjectiveTransition) (encounter : RouteEncounter)
    (grants : List ReplayRouteGrantEvidence) : Except SessionError RouteTerminalPayload := do
  rejectIf (selection.participants.length > u8Max)
    (.message "out of range integral type conversion attempted")
  return { schemaVersion := routeReplaySchemaVersion
           authoringRevision := selection.authoringRevision
           catalogRevision := selection.catalogRevision
           resolverRevision := selection.resolverRevision
           operationId := selection.operationId
           routeId := selection.routeId
           eventId := selection.eventId
           transitions
           encounter :=
             { participantCount := selection.participants.length
               droneHealth := encounter.droneHealth, droneDamage := encounter.droneDamage
               droneDefeated := encounter.droneDefeated, wardenSpawned := encounter.wardenSpawned
               wardenBaseHealth := encounter.wardenBaseHealth
               wardenEffectiveHealth := encounter.wardenEffectiveHealth
               wardenRemainingHealth := encounter.wardenRemainingHealth
               acceptedPlayerHits := encounter.acceptedPlayerHits
               wardenCounterCount := encounter.wardenCounterCount
               wardenCounterDamage := selection.effect.wardenCounterDamage
               totalHostileDamage := encounter.totalHostileDamage }
           summary, grants }

/-! ## Pieces of the handlers -/

/-- A call on a copy of the operation: its answer and the copy it leaves. -/
def onCopy {Value : Type} (operation : RouteOperationState) (call : RouteCall Value) :
    Except SessionError (Value × RouteOperationState) :=
  match call operation with
  | (.ok value, next) => .ok (value, next)
  | (.error failure, _) => .error (.route failure)

def scaledEnemyHealth (baseHealth participantCount : Nat) : Except SessionError Nat := do
  rejectIf (participantCount = 0)
    (.message "enemy health scaling requires at least one participant")
  rejectIf (participantCount - 1 > u32Max)
    (.message "participant count exceeds enemy health scaling")
  rejectIf (2 + (participantCount - 1) > u32Max) (.message "enemy health scale overflowed")
  rejectIf (baseHealth * (2 + (participantCount - 1)) > u32Max)
    (.message "scaled enemy health overflowed")
  return baseHealth * (2 + (participantCount - 1)) / 2

def elapsedSince (startedAt now : Nat) : Nat := min (now - startedAt) u64Max

def modifyRoute (change : RouteRuntime → RouteRuntime) : RouteSessionCall Unit :=
  Call.update (fun session => { session with route := session.route.map change })

def setStage (stage : SessionStage) : RouteSessionCall Unit :=
  Call.update (fun session => { session with stage })

def demand {Value : Type} (answer : Option Value) : RouteSessionCall Value :=
  Call.check (fun _ => require answer .unstored)

/-- A call of the session on its operation, which it leaves alone on failure. -/
def operate (missing : String) (call : RouteCall Unit) : RouteSessionCall Unit := do
  let answer ← Call.check (fun session => do
    let route ← require session.route (.message missing)
    onCopy route.operation call)
  modifyRoute (fun route => { route with operation := answer.2 })

/-! ## Handlers -/

/-- Put a changed copy of the operation in its place. -/
def install : Option RouteOperationState → RouteSessionCall Unit
  | some operation => modifyRoute (fun route => { route with operation })
  | none => pure ()

/-- The operation of a new activity, with the participants that opted in. -/
def openOperation (participants : List Participant) : Except SessionError RouteOperationState := do
  let operation ← (RouteOperationState.new (participants.map Participant.accountId)).mapError .route
  (participants.filter Participant.routeCapable).foldlM
    (fun operation participant =>
      (onCopy operation (markCapable participant.accountId)).map Prod.snd) operation

def RouteSession.newRoute (session : RouteSession) : Except SessionError RouteRuntime := do
  rejectIf (session.participants = []) (.message "session has no owner")
  let droneHealth ← scaledEnemyHealth soloDroneHealth session.participants.length
  let operation ← openOperation session.participants
  let wardenBaseHealth ← scaledEnemyHealth soloWardenHealth session.participants.length
  return {
    operation, selectionReplay := none, startedAt := none, lastObservedElapsedMs := 0
    transitions := []
    encounter :=
      { droneHealth, droneDamage, droneDefeated := false, wardenSpawned := false
        wardenBaseHealth, wardenEffectiveHealth := 0, wardenRemainingHealth := 0
        acceptedPlayerHits := 0, wardenCounterCount := 0, totalHostileDamage := 0 } }

/-- A complete party is waiting. -/
def RouteSession.ready (session : RouteSession) : Bool :=
  session.stage = .waiting && session.participants.length = session.expectedPlayers

def startIfReady (started spawned : Option Unit) : RouteSessionCall Unit := do
  let ready ← Call.check (fun session => return session.ready)
  if ready = false then return ()
  else do
    demand started
    let route ← Call.check RouteSession.newRoute
    demand spawned
    Call.update (fun session => { session with stage := .drone, route := some route })

/-- The participant behind an actor, when it may use routes. -/
def RouteSession.routeParticipant (session : RouteSession) (playerId : Nat) :
    Except SessionError Participant := do
  let participant ← require
    (session.participants.find? (fun participant => participant.actorId = playerId))
    (.message "route participant was not found")
  rejectIf (participant.currentV2 = false) (.message "frozen V1 does not expose routes")
  return participant

/-- Capability may be declared before the choice is made. -/
def RouteSession.eligible (session : RouteSession) : Bool :=
  session.stage = .waiting || session.route.any (fun route =>
    route.operation.phase = .drone || route.operation.phase = .choiceOpen)

/-- The first participant behind that actor opts in. -/
def optIn (playerId : Nat) : List Participant → List Participant
  | [] => []
  | participant :: rest =>
      if participant.actorId = playerId then { participant with routeCapable := true } :: rest
      else participant :: optIn playerId rest

def declareCapable (accountId : String) : RouteSessionCall Unit := do
  let operation ← Call.check (fun session =>
    match session.route with
    | some route => (onCopy route.operation (markCapable accountId)).map (some ∘ Prod.snd)
    | none => return none)
  install operation

def requestRouteState (playerId : Nat) : RouteSessionCall Unit := do
  let participant ← Call.check (RouteSession.routeParticipant · playerId)
  let eligible ← Call.check (fun session => return session.eligible)
  if participant.routeCapable = true ∨ eligible = false then return ()
  else do
    declareCapable participant.accountId
    Call.update (fun session =>
      { session with participants := optIn playerId session.participants })

/-- The first stage behind the drones. -/
def routeStage : RouteId → SessionStage
  | .breach => .door
  | .stabilize => .stabilizer

/-- A request for a route, apart from the seed it is resolved with. -/
structure RouteChoice where
  requesterId : String
  operationId : String
  routeId : RouteId
  deriving DecidableEq

namespace RouteChoice

def select (choice : RouteChoice) (operation : RouteOperationState) (seed : RouteSeed) :
    Except SessionError (OperationReceipt RouteSelectionOutcome × RouteOperationState) :=
  onCopy operation (Operations.select choice.requesterId choice.operationId choice.routeId seed)

/-- The outcome the session proposes: the stored one, or one with a fresh seed. -/
def proposed (choice : RouteChoice) (operation : RouteOperationState) (candidate : RouteSeed) :
    Except SessionError (OperationReceipt RouteSelectionOutcome × RouteOperationState) := do
  let probe ← choice.select operation ⟨0⟩
  if probe.1.disposition = .replayed then return probe
  else choice.select operation candidate

def outcome (choice : RouteChoice) (seed : RouteSeed) : RouteSelectionOutcome :=
  RouteOperationState.chosen choice.requesterId choice.operationId choice.routeId seed

/-- The operation behind the seed the database answered with. -/
def durable (choice : RouteChoice) (operation : RouteOperationState) (candidate persisted : RouteSeed) :
    Except SessionError RouteOperationState := do
  let proposal ← choice.proposed operation candidate
  if choice.outcome persisted = proposal.1.outcome then return proposal.2
  else do
    let selected ← choice.select operation persisted
    return selected.2

end RouteChoice

/-- What a choice installs. -/
structure Installation where
  operation : RouteOperationState
  replay : RouteSelectedPayload
  outcome : RouteSelectionOutcome

/-- A choice up to its installation.  `candidate` is the seed the session draws,
and `persisted` the seed of the choice the database stores or already stored. -/
def RouteSession.installation (session : RouteSession) (choice : RouteChoice)
    (candidate persisted : RouteSeed) (stored : Option Unit) : Except SessionError Installation := do
  let route ← require session.route
    (.message "route choice is unavailable before activity start")
  let proposal ← choice.proposed route.operation candidate
  discard (session.routeSelectionReplay proposal.1.outcome)
  require stored .unstored
  let operation ← choice.durable route.operation candidate persisted
  let replay ← session.routeSelectionReplay (choice.outcome persisted)
  return { operation, replay, outcome := choice.outcome persisted }

def RouteSession.wardenHealth (session : RouteSession) (effect : RouteEffect) :
    Except SessionError Nat := do
  let route ← require session.route (.message "route operation disappeared")
  (applyWardenHealthEffect route.encounter.wardenBaseHealth effect).mapError .route

/-- The session of a choice that is not yet installed. -/
def installSelection (installation : Installation) (now : Nat) : RouteSessionCall Unit := do
  modifyRoute (fun route =>
    { route with
      operation := installation.operation, selectionReplay := some installation.replay
      startedAt := some now, lastObservedElapsedMs := 0 })
  let transitions ← Call.check (fun _ =>
    initialRouteTransitions installation.outcome.objectivePath)
  modifyRoute (fun route => { route with transitions })
  let wardenEffectiveHealth ← Call.check
    (RouteSession.wardenHealth · installation.outcome.effect)
  modifyRoute (fun route =>
    { route with encounter := { route.encounter with wardenEffectiveHealth } })
  setStage (routeStage installation.outcome.routeId)

/-- A selection is in force. -/
def RouteSession.selected (session : RouteSession) : Bool :=
  session.route.any (fun route => route.operation.selection.isSome)

/-- A retry of an installed choice is answered and changes nothing. -/
def chooseRoute (playerId : Nat) (operationId : String) (routeId : RouteId)
    (candidate persisted : RouteSeed) (now : Nat) (stored : Option Unit) :
    RouteSessionCall Unit := do
  let requester ← Call.check (RouteSession.routeParticipant · playerId)
  let installation ← Call.check (RouteSession.installation ·
    { requesterId := requester.accountId, operationId, routeId } candidate persisted stored)
  let installed ← Call.check (fun session => return session.selected)
  if installed = true then return () else installSelection installation now

/-- The transitions of the selected route with one more update. -/
def RouteSession.noted (session : RouteSession) (objectiveId : RouteObjectiveId)
    (fromState toState : ReplayRouteObjectiveState) (progress : Nat) :
    Except SessionError (List ReplayObjectiveTransition) := do
  let route ← require session.route (.message "selected route disappeared")
  pushRouteTransition route.transitions objectiveId fromState toState progress

/-- `push_route_transition` on the transitions of the selected route. -/
def noteTransition (objectiveId : RouteObjectiveId) (fromState toState : ReplayRouteObjectiveState)
    (progress : Nat) : RouteSessionCall Unit := do
  let transitions ← Call.check (RouteSession.noted · objectiveId fromState toState progress)
  modifyRoute (fun route => { route with transitions })

/-- An objective is done and the next one begins.  The two updates are pushed one
after the other, so the first stays when the second is refused. -/
def followObjective (done next : RouteObjectiveId) : RouteSessionCall Unit := do
  noteTransition done .active .completed 1
  noteTransition next .pending .active 0

/-- The stabilizer is reached. -/
def reachStabilizer : RouteSessionCall Unit := do
  followObjective .reachRelayStabilizer .reachRelayDoor
  setStage .door

/-- An open choice is locked to the baseline at the door. -/
def lockAtDoor : RouteSessionCall Unit := do
  let operation ← Call.check (fun session =>
    match session.route with
    | some route =>
        if route.operation.phase = .choiceOpen then
          (onCopy route.operation lockBaseline).map (some ∘ Prod.snd)
        else return none
    | none => return none)
  install operation

/-- The health the Warden spawns with. -/
def RouteSession.bossHealth (session : RouteSession) : Except SessionError (Nat × Nat) := do
  let base ← scaledEnemyHealth soloWardenHealth session.participants.length
  match session.route.bind (fun route => route.operation.selection) with
  | none => return (base, base)
  | some selection => do
      let health ← (applyWardenHealthEffect base selection.effect).mapError .route
      return (base, health)

/-- The Warden appears, and a chosen route goes on to it. -/
def spawnWarden (requested stored : Option Unit) : RouteSessionCall Unit := do
  demand requested
  let health ← Call.check RouteSession.bossHealth
  demand stored
  setStage .boss
  let routed ← Call.check (fun session => return session.selected)
  if routed = false then return ()
  else do
    followObjective .reachRelayDoor .defeatWarden
    modifyRoute (fun route =>
      { route with
        encounter :=
          { route.encounter with
            wardenSpawned := true, wardenBaseHealth := health.1
            wardenEffectiveHealth := health.2, wardenRemainingHealth := health.2 } })

def reachDoor (requested stored : Option Unit) : RouteSessionCall Unit := do
  lockAtDoor
  spawnWarden requested stored

/-- A movement the rest of the session left to the objectives. -/
def movePlayer (position : Position) (requested stored : Option Unit) : RouteSessionCall Unit := do
  let stage ← Call.check (fun session => do
    rejectIf (session.stage = .complete ∨ session.stage = .failed)
      (.message "movement is unavailable after completion")
    return session.stage)
  if stage = .stabilizer ∧ position = ⟨3, 0, 3⟩ then reachStabilizer
  else if stage = .door ∧ position = ⟨6, 0, 0⟩ then reachDoor requested stored
  else return ()

/-- The grants of a success. -/
def routeGrants (selection : RouteSelectedPayload) (reward : RouteReward) :
    List ReplayRouteGrantEvidence :=
  selection.participants.map (fun participant =>
    { participantId := participant.participantId, characterId := participant.characterId
      actorId := participant.actorId, itemId := relayCoreFragment
      itemQuantity := reward.fragments, experience := reward.experience })

/-- The completed copy and the terminal the database is to store. -/
def RouteRuntime.completion (route : RouteRuntime) (elapsedMs : Nat) :
    Except SessionError (RouteOperationState × RouteTerminalPayload) := do
  let (receipt, operation) ← onCopy route.operation (complete elapsedMs)
  let transitions ← pushRouteTransition route.transitions .defeatWarden .active .completed 1
  let selection ← require route.selectionReplay
    (.message "routed operation has no replay selection")
  let reward ← require receipt.outcome.reward (.message "successful route has no reward")
  let terminal ← routeTerminalReplay selection receipt.outcome transitions route.encounter
    (routeGrants selection reward)
  return (operation, terminal)

/-- The failed copy and the terminal the database is to store. -/
def RouteRuntime.timeout (route : RouteRuntime) (elapsedMs : Nat) :
    Except SessionError (RouteOperationState × RouteTerminalPayload) := do
  let (receipt, operation) ← onCopy route.operation (failTimeout elapsedMs)
  let active ← activeRouteObjective receipt.outcome.objectivePath route.transitions
  let transitions ← pushRouteTransition route.transitions active .active .failed 0
  let selection ← require route.selectionReplay
    (.message "routed operation has no replay selection")
  let terminal ← routeTerminalReplay selection receipt.outcome transitions route.encounter []
  return (operation, terminal)

/-- The completion of a started route with the time it took. -/
def RouteSession.completion (session : RouteSession) (now : Nat) :
    Except SessionError (Nat × RouteOperationState × RouteTerminalPayload) := do
  let route ← require session.route (.message "routed operation has no monotonic start")
  let startedAt ← require route.startedAt (.message "routed operation has no monotonic start")
  let answer ← route.completion (elapsedSince startedAt now)
  return (elapsedSince startedAt now, answer)

def completeRoutedActivity (now : Nat) (stored : Option Unit) : RouteSessionCall Unit := do
  let answer ← Call.check (RouteSession.completion · now)
  demand stored
  modifyRoute (fun route =>
    { route with
      operation := answer.2.1, transitions := answer.2.2.transitions, startedAt := none
      lastObservedElapsedMs := answer.1 })
  setStage .complete

/-- The open choice or the end of the activity, by the enemy that fell. -/
def enemyDefeated (now : Nat) (appended stored : Option Unit) : RouteSessionCall Unit := do
  demand appended
  let stage ← Call.check (fun session => return session.stage)
  if stage = .drone then do
    operate "route operation was not initialized" openChoice
    modifyRoute (fun route => { route with encounter := { route.encounter with droneDefeated := true } })
    setStage .door
  else do
    let routed ← Call.check (fun session => return session.selected)
    if routed = true then completeRoutedActivity now stored
    else do
      demand stored
      setStage .complete

/-- A hit on the Warden is counted. -/
def noteHit (stage : SessionStage) (remainingHealth : Nat) : RouteSessionCall Unit :=
  if stage = .boss then
    modifyRoute (fun route =>
      { route with
        encounter :=
          { route.encounter with
            acceptedPlayerHits := min (route.encounter.acceptedPlayerHits + 1) u32Max
            wardenRemainingHealth := remainingHealth } })
  else pure ()

/-- An attack the combat rules let through. -/
def attack (remainingHealth now : Nat) (appended stored : Option Unit) : RouteSessionCall Unit := do
  let stage ← Call.check (fun session => do
    rejectIf (session.stage ≠ .drone ∧ session.stage ≠ .boss) (.message "combat is not active")
    return session.stage)
  noteHit stage remainingHealth
  if remainingHealth = 0 then enemyDefeated now appended stored else return ()

/-- An enemy hits a player. -/
def hostileHit (damage : Nat) : RouteSessionCall Unit :=
  Call.update (fun session =>
    { session with
      route := session.route.map (fun route =>
        { route with
          encounter :=
            { route.encounter with
              totalHostileDamage := min (route.encounter.totalHostileDamage + damage) u32Max
              wardenCounterCount :=
                if session.stage = .boss then min (route.encounter.wardenCounterCount + 1) u8Max
                else route.encounter.wardenCounterCount } }) })

/-- The time a route under way has taken, with its budget. -/
def RouteSession.running (session : RouteSession) (now : Nat) :
    Except SessionError (Option (Nat × Nat)) :=
  match session.route with
  | none => return none
  | some route =>
      match route.startedAt with
      | none => return none
      | some startedAt =>
          if route.operation.phase ≠ .routed then return none
          else do
            let selection ← require route.operation.selection
              (.message "routed operation has no selection")
            return some (elapsedSince startedAt now, selection.durationBudgetMs)

/-- A route beyond its budget fails. -/
def failRoute (elapsedMs : Nat) (stored : Option Unit) : RouteSessionCall Unit := do
  let answer ← Call.check (fun session => do
    let route ← require session.route (.message "route operation disappeared after timeout")
    route.timeout elapsedMs)
  demand stored
  modifyRoute (fun route =>
    { route with operation := answer.1, transitions := answer.2.transitions, startedAt := none })
  setStage .failed

/-- The deadline is looked at before most commands. -/
def observeRouteDeadline (now : Nat) (stored : Option Unit) : RouteSessionCall Unit := do
  let running ← Call.check (RouteSession.running · now)
  match running with
  | none => return ()
  | some (elapsedMs, budgetMs) => do
      modifyRoute (fun route => { route with lastObservedElapsedMs := elapsedMs })
      if elapsedMs ≤ budgetMs then return () else failRoute elapsedMs stored

/-- An optional encounter or the cooperation begins: the choice is locked. -/
def beginExcursion (stage : SessionStage) (stored : Option Unit) : RouteSessionCall Unit := do
  Call.check (fun session =>
    rejectIf (session.stage ≠ .door ∨ stage ∉ [.door, .boss]) (.message "no excursion begins here"))
  demand stored
  operate "route operation was not initialized" lockBaseline
  Call.update (fun session => { session with stage, excursion := true })

/-- A stage an excursion leads to: back to the door, or to an end. -/
def excursionStage (stage : SessionStage) : RouteSessionCall Unit := do
  Call.check (fun session =>
    rejectIf (session.excursion = false ∨ stage ∉ [.door, .complete, .failed])
      (.message "no excursion is under way"))
  setStage stage

inductive Event where
  /-- The participants join, leave, change their equipment or their modules. -/
  | participants (participants : List Participant)
  | start (started spawned : Option Unit)
  | requestState (playerId : Nat)
  | choose (playerId : Nat) (operationId : String) (routeId : RouteId)
      (candidate persisted : RouteSeed) (now : Nat) (stored : Option Unit)
  | move (position : Position) (requested stored : Option Unit)
  | attack (remainingHealth now : Nat) (appended stored : Option Unit)
  | hostileHit (damage : Nat)
  | deadline (now : Nat) (stored : Option Unit)
  | excursion (stage : SessionStage) (stored : Option Unit)
  | excursionStage (stage : SessionStage)
  /-- The last participant left, or a write failed for good. -/
  | reset

def perform : Event → RouteSessionCall Unit
  | .participants participants => Call.update (fun session => { session with participants })
  | .start started spawned => startIfReady started spawned
  | .requestState playerId => requestRouteState playerId
  | .choose playerId operationId routeId candidate persisted now stored =>
      chooseRoute playerId operationId routeId candidate persisted now stored
  | .move position requested stored => movePlayer position requested stored
  | .attack remainingHealth now appended stored => attack remainingHealth now appended stored
  | .hostileHit damage => hostileHit damage
  | .deadline now stored => observeRouteDeadline now stored
  | .excursion stage stored => beginExcursion stage stored
  | .excursionStage stage => excursionStage stage
  | .reset => Call.update (fun session => RouteSession.waiting session.activityId session.expectedPlayers [])

end Route
end Gateway
end Revenant
