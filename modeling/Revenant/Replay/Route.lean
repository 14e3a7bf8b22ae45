import Revenant.Operations.State
import Revenant.Replay.ModuleState

namespace Revenant
namespace Replay

open Library Operations

/-!
# Route evidence

A route selection records the admitted players with their modules and everything
its seed resolves to.  The terminal records how the objectives moved, the
encounter and the grants; its checks compare all of that with the selection.

The terminal of a success is checked for what the encounter did to the players
and for the hits that account for the Warden's loss; a failed one for the
objective at which the route failed.  The texts of the errors are those of the
source.
-/

structure ReplayRouteParticipantEvidence where
  participantId : String
  characterId : String
  actorId : Nat
  weaponItemId : String
  moduleState : ReplayModuleStateEvidence
  deriving DecidableEq

inductive ReplayRouteObjectiveKind where
  | killActors
  | reachArea
  | boss
  deriving DecidableEq, Repr

inductive ReplayRouteObjectiveState where
  | pending
  | active
  | completed
  | failed
  deriving DecidableEq, Repr

structure ReplayRouteObjectiveEvidence where
  objectiveId : RouteObjectiveId
  kind : ReplayRouteObjectiveKind
  initialState : ReplayRouteObjectiveState
  target : Nat
  deriving DecidableEq

structure RouteSelectedPayload where
  schemaVersion : Nat
  activityId : String
  authoringRevision : String
  catalogRevision : String
  resolverRevision : String
  operationId : String
  leaderId : String
  participants : List ReplayRouteParticipantEvidence
  routeId : RouteId
  seed : RouteSeed
  eventId : RouteEventId
  effect : RouteEffect
  objectives : List ReplayRouteObjectiveEvidence
  durationBudgetMs : Nat
  reward : RouteReward
  deriving DecidableEq

structure ReplayObjectiveTransition where
  ordinal : Nat
  objectiveId : RouteObjectiveId
  fromState : ReplayRouteObjectiveState
  toState : ReplayRouteObjectiveState
  progress : Nat
  target : Nat
  deriving DecidableEq

structure ReplayRouteEncounterEvidence where
  participantCount : Nat
  droneHealth : Nat
  droneDamage : Nat
  droneDefeated : Bool
  wardenSpawned : Bool
  wardenBaseHealth : Nat
  wardenEffectiveHealth : Nat
  wardenRemainingHealth : Nat
  acceptedPlayerHits : Nat
  wardenCounterCount : Nat
  wardenCounterDamage : Nat
  totalHostileDamage : Nat
  deriving DecidableEq

structure ReplayRouteGrantEvidence where
  participantId : String
  characterId : String
  actorId : Nat
  itemId : String
  itemQuantity : Nat
  experience : Nat
  deriving DecidableEq

structure RouteTerminalPayload where
  schemaVersion : Nat
  authoringRevision : String
  catalogRevision : String
  resolverRevision : String
  operationId : String
  routeId : RouteId
  eventId : RouteEventId
  transitions : List ReplayObjectiveTransition
  encounter : ReplayRouteEncounterEvidence
  summary : RouteOperationSummary
  grants : List ReplayRouteGrantEvidence
  deriving DecidableEq

inductive RouteReplayPayload where
  | selected (payload : RouteSelectedPayload)
  | terminal (payload : RouteTerminalPayload)
  deriving DecidableEq

namespace RouteReplayPayload

def selected? : RouteReplayPayload → Option RouteSelectedPayload
  | selected payload => some payload
  | _ => none

def terminal? : RouteReplayPayload → Option RouteTerminalPayload
  | terminal payload => some payload
  | _ => none

end RouteReplayPayload

def routeReplaySchemaVersion : Nat := 1
def maxRouteReplayPayloadBytes : Nat := 8192
def authoringRevision : String := "m27-v1"
def routeActivityId : String := "relay_awakening"
def relayCoreFragment : String := "relay_core_fragment"
def maxRouteTransitions : Nat := 8
def soloDroneHealth : Nat := 140
def twoPlayerDroneHealth : Nat := 210
def droneDamage : Nat := 10
def soloWardenHealth : Nat := 240
def twoPlayerWardenHealth : Nat := 360
def maxAcceptedPlayerHits : Nat := 64

def validateRouteSchema (schemaVersion : Nat) : Except ReplayError Unit :=
  rejectIf (schemaVersion ≠ routeReplaySchemaVersion)
    (routeError "unknown route replay payload schema version")

/-- A domain answer of the route with its error worded for the journal. -/
def routeAnswer {Value : Type} (answer : Except RouteError Value) : Except ReplayError Value :=
  match answer with
  | .ok value => .ok value
  | .error failure => .error (routeError failure.text)

def validateRouteIdentifier (limit : Nat) (allowed : Char → Bool) (value label : String) :
    Except ReplayError Unit :=
  rejectIf (plainIdentifier limit allowed value = false)
    (routeError s!"route {label} identifier is outside bounds")

def validateBoundedIdentity (value label : String) : Except ReplayError Unit :=
  validateRouteIdentifier 64 identityLetter value label

def validateSnakeIdentifier (value label : String) : Except ReplayError Unit :=
  validateRouteIdentifier 32
    (fun letter => letter.isLower || letter.isDigit || letter == '_') value label

def objectiveKind : RouteObjectiveId → ReplayRouteObjectiveKind
  | .clearDroneGroup => .killActors
  | .reachRelayStabilizer | .reachRelayDoor => .reachArea
  | .defeatWarden => .boss

/-- The profiles a participant brings under the selected weapon's name. -/
def ReplayRouteParticipantEvidence.profiles (participant : ReplayRouteParticipantEvidence) :
    List ReplayWeaponEvidence :=
  participant.moduleState.weapons.filter
    (fun weapon => weapon.itemId = participant.weaponItemId)

/-- One participant, behind those already read. -/
def validateParticipant (earlier : List ReplayRouteParticipantEvidence)
    (participant : ReplayRouteParticipantEvidence) : Except ReplayError Unit := do
  validateBoundedIdentity participant.participantId "participant"
  validateBoundedIdentity participant.characterId "character"
  validateSnakeIdentifier participant.weaponItemId "weapon"
  rejectIf (∃ other ∈ earlier, other.participantId = participant.participantId ∨
      other.characterId = participant.characterId ∨ other.actorId = participant.actorId)
    (routeError "route participant identity is duplicated")
  rejectIf (participant.moduleState.moduleEffectsActive = false)
    (routeError "routed participant has inactive V1 module evidence")
  validateModuleState participant.moduleState
  rejectIf (participant.profiles.length ≠ 1)
    (routeError "selected weapon does not identify one immutable combat profile")

def validateParticipants (earlier : List ReplayRouteParticipantEvidence) :
    List ReplayRouteParticipantEvidence → Except ReplayError Unit
  | [] => .ok ()
  | participant :: rest => do
      validateParticipant earlier participant
      validateParticipants (earlier ++ [participant]) rest

/-- The objectives of a route as a selection records them: the first is active. -/
def objectiveEvidence : List RouteObjectiveId → List ReplayRouteObjectiveEvidence
  | [] => []
  | first :: rest =>
      { objectiveId := first, kind := objectiveKind first, initialState := .active, target := 1 } ::
        rest.map (fun objectiveId =>
          { objectiveId, kind := objectiveKind objectiveId, initialState := .pending, target := 1 })

def validateSelectionPayload (payload : RouteSelectedPayload) : Except ReplayError Unit := do
  validateRouteSchema payload.schemaVersion
  rejectIf (payload.activityId ≠ routeActivityId ∨ payload.authoringRevision ≠ authoringRevision ∨
      payload.catalogRevision ≠ catalogRevision ∨ payload.resolverRevision ≠ resolverRevision)
    (routeError "route selection revision or activity is unknown")
  routeAnswer (Operations.validateOperationId payload.operationId)
  validateBoundedIdentity payload.leaderId "leader"
  rejectIf (payload.participants = [] ∨ payload.participants.length > 2)
    (routeError "route selection requires one or two participants")
  rejectIf (payload.participants.head?.map ReplayRouteParticipantEvidence.participantId ≠
      some payload.leaderId)
    (routeError "first route participant is not the leader")
  validateParticipants [] payload.participants
  rejectIf (payload.eventId ≠ (resolveEvent payload.routeId payload.seed).eventId ∨
      payload.effect ≠ (resolveEvent payload.routeId payload.seed).effect ∨
      payload.reward ≠ (routeDefinition payload.routeId).reward ∨
      payload.durationBudgetMs ≠ (routeDefinition payload.routeId).durationMs)
    (routeError "route selection seed, event, effect, duration, or reward drifted")
  rejectIf (payload.objectives.length ≠ (routeDefinition payload.routeId).objectivePath.length)
    (routeError "route objective path cardinality drifted")
  rejectIf (payload.objectives ≠ objectiveEvidence (routeDefinition payload.routeId).objectivePath)
    (routeError "route objective evidence drifted from catalog")

def validateTerminalShape (payload : RouteTerminalPayload) : Except ReplayError Unit := do
  validateRouteSchema payload.schemaVersion
  rejectIf (payload.authoringRevision ≠ authoringRevision ∨
      payload.catalogRevision ≠ catalogRevision ∨ payload.resolverRevision ≠ resolverRevision)
    (routeError "route terminal revision is unknown")
  routeAnswer (Operations.validateOperationId payload.operationId)
  rejectIf (payload.transitions = [] ∨ payload.transitions.length > maxRouteTransitions)
    (routeError "route transition count is outside bounds")

/-! ## Objective transitions -/

/-- The states of the objectives, and whether one of them failed. -/
structure ObjectiveReading where
  states : List ReplayRouteObjectiveState
  failed : Bool
  deriving DecidableEq

/-- A move an objective may make, at `position` among the objectives. -/
def validateMove (reading : ObjectiveReading) (position index count : Nat)
    (transition : ReplayObjectiveTransition) : Except ReplayError Unit :=
  match transition.fromState, transition.toState with
  | .pending, .active =>
      rejectIf (transition.progress ≠ 0 ∨ position = 0 ∨
          ∃ state ∈ reading.states.take position, state ≠ .completed)
        (routeError "route objective activation is impossible")
  | .active, .completed =>
      rejectIf (transition.progress ≠ transition.target)
        (routeError "completed objective has wrong progress")
  | .active, .failed =>
      rejectIf (transition.progress ≥ transition.target ∨ index + 1 ≠ count)
        (routeError "failed objective transition is impossible")
  | _, _ => .error (routeError "route objective transition is illegal")

def applyTransition (objectives : List ReplayRouteObjectiveEvidence) (index count : Nat)
    (reading : ObjectiveReading) (transition : ReplayObjectiveTransition) :
    Except ReplayError ObjectiveReading := do
  rejectIf (transition.ordinal ≠ index ∨ transition.target ≠ 1)
    (routeError "route transition ordinal or target is invalid")
  let position ← require
    (objectives.findIdx? (fun objective => objective.objectiveId = transition.objectiveId))
    (routeError "route transition names an unknown objective")
  rejectIf (reading.failed = true ∨ reading.states[position]? ≠ some transition.fromState)
    (routeError "route transition source state is impossible")
  validateMove reading position index count transition
  let next : ObjectiveReading :=
    { states := reading.states.set position transition.toState
      failed := decide (transition.toState = .failed) }
  rejectIf (next.failed = false ∧ next.states.count .active > 1)
    (routeError "multiple route objectives are active")
  return next

def readTransitions (objectives : List ReplayRouteObjectiveEvidence) (count : Nat) :
    Nat → ObjectiveReading → List ReplayObjectiveTransition → Except ReplayError ObjectiveReading
  | _, reading, [] => .ok reading
  | index, reading, transition :: rest => do
      let next ← applyTransition objectives index count reading transition
      readTransitions objectives count (index + 1) next rest

def validateTransitions (payload : RouteTerminalPayload) (selection : RouteSelectedPayload)
    (outcome : TerminalOutcome) : Except ReplayError Unit := do
  let reading ← readTransitions selection.objectives payload.transitions.length 0
    { states := selection.objectives.map ReplayRouteObjectiveEvidence.initialState
      failed := false } payload.transitions
  match outcome with
  | .succeeded =>
      rejectIf (reading.failed = true ∨ ∃ state ∈ reading.states, state ≠ .completed)
        (routeError "successful route did not complete its exact path")
  | .failedTimeout =>
      rejectIf (reading.failed = false ∨ reading.states.count .failed ≠ 1)
        (routeError "failed route lacks one terminal objective failure")

/-! ## The encounter -/

/-- What the encounter must look like when a route failed at an objective. -/
def consistentFailure (encounter : ReplayRouteEncounterEvidence) : RouteObjectiveId → Bool
  | .clearDroneGroup => !encounter.droneDefeated && !encounter.wardenSpawned
  | .reachRelayStabilizer | .reachRelayDoor => encounter.droneDefeated && !encounter.wardenSpawned
  | .defeatWarden => encounter.droneDefeated && encounter.wardenSpawned &&
      decide (encounter.wardenRemainingHealth > 0)

def validateFailedEncounterPath (payload : RouteTerminalPayload) : Except ReplayError Unit := do
  let failed ← require
    (payload.transitions.find? (fun transition => transition.toState = .failed))
    (routeError "failed route has no failed objective")
  rejectIf (consistentFailure payload.encounter failed.objectiveId = false)
    (routeError "failed encounter disagrees with its terminal objective")

/-- The hits of the players, each at most the strongest selected weapon's damage,
account for the Warden's loss. -/
def validatePlayerHitEnvelope (encounter : ReplayRouteEncounterEvidence)
    (selection : RouteSelectedPayload) : Except ReplayError Unit :=
  if encounter.wardenSpawned = false ∨ encounter.acceptedPlayerHits = 0 then .ok ()
  else do
    let damages ← selection.participants.mapM (fun participant =>
      require (participant.profiles.head?.map (fun weapon => weapon.effective.damage))
        (routeError "selected weapon profile disappeared"))
    let maximumDamage ← require damages.max? (routeError "route has no admitted weapon damage")
    rejectIf (encounter.wardenRemainingHealth > encounter.wardenEffectiveHealth)
      (routeError "Warden remaining health exceeds effective health")
    let damageDone := encounter.wardenEffectiveHealth - encounter.wardenRemainingHealth
    rejectIf (encounter.acceptedPlayerHits * maximumDamage > u32Max)
      (routeError "player hit arithmetic overflowed")
    rejectIf (damageDone = 0 ∨ encounter.acceptedPlayerHits * maximumDamage < damageDone)
      (routeError "accepted player hits cannot produce recorded Warden damage")

/-- The health of the drone and of the Warden for a party. -/
def partyHealth : Nat → Option (Nat × Nat)
  | 1 => some (soloDroneHealth, soloWardenHealth)
  | 2 => some (twoPlayerDroneHealth, twoPlayerWardenHealth)
  | _ => none

/-- What the encounter did to the players when the route succeeded. -/
def validateSuccessPressure (encounter : ReplayRouteEncounterEvidence) : Except ReplayError Unit := do
  let counters := min (2 * encounter.wardenCounterDamage) u32Max
  rejectIf (droneDamage + counters > u32Max) (routeError "successful hostile damage overflowed")
  rejectIf (encounter.wardenCounterCount ≠ 2 ∨
      encounter.totalHostileDamage ≠ droneDamage + counters)
    (routeError "successful encounter pressure disagrees with M25/M27 evidence")

def validateEncounter (payload : RouteTerminalPayload) (selection : RouteSelectedPayload)
    (outcome : TerminalOutcome) : Except ReplayError Unit := do
  let encounter := payload.encounter
  let participantCount := selection.participants.length
  let (droneHealth, wardenHealth) ← require (partyHealth participantCount)
    (routeError "route encounter participant count is invalid")
  let effectiveHealth ← routeAnswer (applyWardenHealthEffect wardenHealth selection.effect)
  rejectIf (encounter.participantCount ≠ participantCount ∨ encounter.droneHealth ≠ droneHealth ∨
      encounter.droneDamage ≠ droneDamage ∨ encounter.wardenBaseHealth ≠ wardenHealth ∨
      encounter.wardenEffectiveHealth ≠ effectiveHealth ∨
      encounter.wardenCounterDamage ≠ selection.effect.wardenCounterDamage ∨
      encounter.wardenRemainingHealth > encounter.wardenEffectiveHealth ∨
      encounter.acceptedPlayerHits > maxAcceptedPlayerHits ∨ encounter.wardenCounterCount > 2 ∨
      encounter.totalHostileDamage > maxOptimalIncomingDamage)
    (routeError "route encounter evidence is outside exact bounds")
  rejectIf (encounter.wardenSpawned = false ∧ (encounter.wardenRemainingHealth ≠ 0 ∨
      encounter.acceptedPlayerHits ≠ 0 ∨ encounter.wardenCounterCount ≠ 0))
    (routeError "unspawned Warden has recorded combat results")
  let counterDamage := encounter.wardenCounterCount * encounter.wardenCounterDamage
  rejectIf (counterDamage > u32Max) (routeError "hostile damage arithmetic overflowed")
  rejectIf (encounter.totalHostileDamage ≠ counterDamage ∧
      encounter.totalHostileDamage ≠ min (counterDamage + droneDamage) u32Max)
    (routeError "hostile damage disagrees with recorded attacks")
  rejectIf (outcome = .succeeded ∧ (encounter.droneDefeated = false ∨
      encounter.wardenSpawned = false ∨ encounter.wardenRemainingHealth ≠ 0 ∨
      encounter.acceptedPlayerHits = 0))
    (routeError "successful encounter evidence is incomplete")
  rejectIf (encounter.wardenSpawned = true ∧ encounter.droneDefeated = false)
    (routeError "Warden spawned before the drone was defeated")
  match outcome with
  | .succeeded => validateSuccessPressure encounter
  | .failedTimeout => validateFailedEncounterPath payload
  validatePlayerHitEnvelope encounter selection

/-! ## The grants -/

/-- The grant a participant of a succeeded route receives. -/
def routeGrant (reward : RouteReward) (participant : ReplayRouteParticipantEvidence) :
    ReplayRouteGrantEvidence :=
  { participantId := participant.participantId, characterId := participant.characterId
    actorId := participant.actorId, itemId := relayCoreFragment
    itemQuantity := reward.fragments, experience := reward.experience }

def validateGrants (payload : RouteTerminalPayload) (selection : RouteSelectedPayload)
    (outcome : TerminalOutcome) : Except ReplayError Unit :=
  match outcome with
  | .failedTimeout =>
      rejectIf (payload.grants ≠ []) (routeError "failed route contains reward grants")
  | .succeeded => do
      rejectIf (payload.grants.length ≠ selection.participants.length)
        (routeError "successful route grant count is incomplete")
      rejectIf (payload.grants ≠ selection.participants.map (routeGrant selection.reward))
        (routeError "route grant disagrees with participant reward")

/-- The summary a terminal must carry, up to the elapsed time. -/
def expectedSummary (selection : RouteSelectedPayload) (outcome : TerminalOutcome)
    (elapsedMs : Nat) : RouteOperationSummary :=
  { catalogRevision := selection.catalogRevision, resolverRevision := selection.resolverRevision
    operationId := selection.operationId, leaderId := selection.leaderId
    participantIds :=
      selection.participants.map ReplayRouteParticipantEvidence.participantId
    routeId := selection.routeId, seed := selection.seed, eventId := selection.eventId
    effect := selection.effect
    objectivePath := selection.objectives.map ReplayRouteObjectiveEvidence.objectiveId
    durationBudgetMs := selection.durationBudgetMs, elapsedMs, outcome
    reward := if outcome = .succeeded then some selection.reward else none }

/-- A terminal of an outcome against its selection. -/
def validateTerminalPayload (outcome : TerminalOutcome) (payload : RouteTerminalPayload)
    (selection : RouteSelectedPayload) : Except ReplayError Unit := do
  validateTerminalShape payload
  rejectIf (payload.operationId ≠ selection.operationId ∨ payload.routeId ≠ selection.routeId ∨
      payload.eventId ≠ selection.eventId ∨
      payload.authoringRevision ≠ selection.authoringRevision ∨
      payload.catalogRevision ≠ selection.catalogRevision ∨
      payload.resolverRevision ≠ selection.resolverRevision)
    (routeError "route terminal identity disagrees with selection")
  rejectIf (payload.summary ≠ expectedSummary selection outcome payload.summary.elapsedMs)
    (routeError "route terminal summary disagrees with selection")
  rejectIf (outcome = .succeeded ∧ payload.summary.elapsedMs > selection.durationBudgetMs)
    (routeError "successful route exceeds its deadline")
  rejectIf (outcome = .failedTimeout ∧ payload.summary.elapsedMs ≤ selection.durationBudgetMs)
    (routeError "failed route does not exceed its deadline")
  validateTransitions payload selection outcome
  validateEncounter payload selection outcome
  validateGrants payload selection outcome

/-! ## What accepted payloads keep -/

/-- A valid selection has a leader and one or two distinct participants, and
carries the reward of its route. -/
structure RouteSelectedPayload.Sound (payload : RouteSelectedPayload) : Prop where
  activity : payload.activityId = routeActivityId
  led : payload.participants.head?.map ReplayRouteParticipantEvidence.participantId =
    some payload.leaderId
  bounded : payload.participants.length ≤ 2
  accounts : (payload.participants.map ReplayRouteParticipantEvidence.participantId).Nodup
  reward : payload.reward = (routeDefinition payload.routeId).reward

theorem accounts_of_validateParticipants {earlier participants : List ReplayRouteParticipantEvidence}
    (accepted : validateParticipants earlier participants = .ok ()) :
    (participants.map ReplayRouteParticipantEvidence.participantId).Nodup ∧
      ∀ participant ∈ participants, ∀ other ∈ earlier,
        other.participantId ≠ participant.participantId := by
  induction participants generalizing earlier with
  | nil => exact ⟨List.nodup_nil, fun _ member => absurd member List.not_mem_nil⟩
  | cons participant rest inductionHypothesis =>
      rw [validateParticipants, guard_bind_eq_ok] at accepted
      obtain ⟨first, others⟩ := accepted
      obtain ⟨distinct, apart⟩ := inductionHypothesis others
      simp only [validateParticipant, bind_eq_ok, exists_unit, rejectIf_eq_ok, not_exists,
        not_and, not_or] at first
      have fresh := first.2.2.2.1
      refine ⟨List.nodup_cons.mpr ⟨?_, distinct⟩, ?_⟩
      · intro member
        obtain ⟨later, laterMember, same⟩ := List.mem_map.mp member
        exact apart later laterMember participant
          (List.mem_append_right _ List.mem_cons_self) same.symm
      · intro later member other otherMember
        rcases List.mem_cons.mp member with rfl | member
        · exact (fresh other otherMember).1
        · exact apart later member other (List.mem_append_left _ otherMember)

theorem sound_of_validateSelectionPayload {payload : RouteSelectedPayload}
    (accepted : validateSelectionPayload payload = .ok ()) : payload.Sound := by
  simp only [validateSelectionPayload, bind_eq_ok, exists_unit, rejectIf_eq_ok, not_or, not_not,
    gt_iff_lt, Nat.not_lt] at accepted
  obtain ⟨-, revision, -, -, party, led, participants, resolved, -, -⟩ := accepted
  exact { activity := revision.1, led, bounded := party.2
          accounts := (accounts_of_validateParticipants participants).1
          reward := resolved.2.2.1 }

/-- A valid terminal has the outcome of its kind, and a succeeded one grants each
participant the reward of the selection. -/
theorem of_validateTerminalPayload {outcome : TerminalOutcome} {payload : RouteTerminalPayload}
    {selection : RouteSelectedPayload}
    (accepted : validateTerminalPayload outcome payload selection = .ok ()) :
    payload.summary.outcome = outcome ∧ (outcome = .succeeded →
      payload.grants = selection.participants.map (routeGrant selection.reward)) := by
  simp only [validateTerminalPayload, bind_eq_ok, exists_unit, rejectIf_eq_ok, not_not] at accepted
  obtain ⟨-, -, summary, -, -, -, -, grants⟩ := accepted
  refine ⟨?_, ?_⟩
  · rw [summary]
    rfl
  · rintro rfl
    simp only [validateGrants, bind_eq_ok, exists_unit, rejectIf_eq_ok, not_not] at grants
    exact grants.2

end Replay
end Revenant
