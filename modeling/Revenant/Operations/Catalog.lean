import Revenant.Library.Checks
import Revenant.Library.Words

namespace Revenant
namespace Operations

open Library

/-!
# The route catalog

Two routes lead through the relay.  A route fixes its reward, its deadline and
the order of its objectives, and a seed picks one of its two events, whose effect
raises the health or changes the counter damage of the Warden.

Effects are basis points or fixed damages within the bounds that
`validateCatalog` checks once for all.  A seed is stored as it is read back,
in 63 bits.
-/

inductive RouteId where
  | breach
  | stabilize
  deriving DecidableEq, Repr

inductive RouteEventId where
  | overchargedArmor
  | arcSurge
  | shieldedChannel
  | residualFeedback
  deriving DecidableEq, Repr

inductive RouteObjectiveId where
  | clearDroneGroup
  | reachRelayStabilizer
  | reachRelayDoor
  | defeatWarden
  deriving DecidableEq, Repr

def RouteId.all : List RouteId := [.breach, .stabilize]

def RouteEventId.all : List RouteEventId :=
  [.overchargedArmor, .arcSurge, .shieldedChannel, .residualFeedback]

def RouteEventId.route : RouteEventId → RouteId
  | overchargedArmor | arcSurge => .breach
  | shieldedChannel | residualFeedback => .stabilize

def RouteId.asStr : RouteId → String
  | breach => "breach"
  | stabilize => "stabilize"

def RouteEventId.asStr : RouteEventId → String
  | overchargedArmor => "overcharged_armor"
  | arcSurge => "arc_surge"
  | shieldedChannel => "shielded_channel"
  | residualFeedback => "residual_feedback"

def RouteObjectiveId.asStr : RouteObjectiveId → String
  | clearDroneGroup => "clear_drone_group"
  | reachRelayStabilizer => "reach_relay_stabilizer"
  | reachRelayDoor => "reach_relay_door"
  | defeatWarden => "defeat_warden"

structure RouteReward where
  fragments : Nat
  experience : Nat
  deriving DecidableEq, Repr

structure RouteEffect where
  wardenHealthBasisPoints : Nat
  wardenCounterDamage : Nat
  deriving DecidableEq, Repr

structure RouteDefinition where
  routeId : RouteId
  reward : RouteReward
  durationMs : Nat
  objectivePath : List RouteObjectiveId
  events : RouteEventId × RouteEventId
  deriving DecidableEq, Repr

structure RouteEventDefinition where
  eventId : RouteEventId
  routeId : RouteId
  effect : RouteEffect
  deriving DecidableEq, Repr

def catalogRevision : String := "m27-v1"
def resolverRevision : String := "m27-permute63-v1"
def routeOperationDurationMs : Nat := 90000
def maxOptimalIncomingDamage : Nat := 50
def basisPoints : Nat := 10000
def baseWardenCounterDamage : Nat := 15
def minWardenCounterDamage : Nat := 10
def maxWardenCounterDamage : Nat := 20
def minWardenHealthBasisPoints : Nat := 10000
def maxWardenHealthBasisPoints : Nat := 12000
def minRouteDurationMs : Nat := 30000
def maxRouteDurationMs : Nat := 120000
def maxRouteObjectives : Nat := 4
def maxRouteParticipants : Nat := 2

inductive RoutePhase where
  | drone
  | choiceOpen
  | baselineLocked
  | routed
  | succeeded
  | failed
  deriving DecidableEq, Repr

/-- Why the route domain refuses. -/
inductive RouteError where
  | invalidSeed (value : UInt64)
  | invalidCatalog (reason : String)
  | invalidOperationId
  | invalidParticipants
  | unknownParticipant (participantId : String)
  | notLeader
  | capabilityIncomplete
  | wrongPhase (phase : RoutePhase)
  | idempotencyConflict
  | routeAlreadySelected
  | deadlineExceeded (elapsedMs budgetMs : Nat)
  | deadlineNotReached (elapsedMs budgetMs : Nat)
  | terminalConflict
  | arithmeticOverflow
  deriving DecidableEq, Repr

def RoutePhase.text : RoutePhase → String
  | drone => "Drone"
  | choiceOpen => "ChoiceOpen"
  | baselineLocked => "BaselineLocked"
  | routed => "Routed"
  | succeeded => "Succeeded"
  | failed => "Failed"

def RouteError.text : RouteError → String
  | invalidSeed value => s!"route seed exceeds 63 bits: {value}"
  | invalidCatalog reason => s!"invalid route catalog: {reason}"
  | invalidOperationId =>
      "operation identifier must contain 1-32 ASCII alphanumeric/hyphen characters"
  | invalidParticipants =>
      "route operation requires one or two unique bounded participant identifiers"
  | unknownParticipant participantId => s!"unknown route participant: {participantId}"
  | notLeader => "only the first admitted participant may choose"
  | capabilityIncomplete => "every participant must opt into route capability"
  | wrongPhase phase => s!"route operation is locked during {phase.text}"
  | idempotencyConflict => "operation identifier was already used with different route input"
  | routeAlreadySelected => "a route is already selected for this session"
  | deadlineExceeded elapsedMs budgetMs =>
      s!"route completion at {elapsedMs} ms exceeds {budgetMs} ms budget"
  | deadlineNotReached elapsedMs budgetMs =>
      s!"route timeout at {elapsedMs} ms has not exceeded {budgetMs} ms budget"
  | terminalConflict => "route operation already has a different terminal result"
  | arithmeticOverflow => "route arithmetic overflowed"

def breachDefinition : RouteDefinition :=
  { routeId := .breach, reward := { fragments := 2, experience := 100 }
    durationMs := routeOperationDurationMs
    objectivePath := [.clearDroneGroup, .reachRelayDoor, .defeatWarden]
    events := (.overchargedArmor, .arcSurge) }

def stabilizeDefinition : RouteDefinition :=
  { routeId := .stabilize, reward := { fragments := 1, experience := 150 }
    durationMs := routeOperationDurationMs
    objectivePath := [.clearDroneGroup, .reachRelayStabilizer, .reachRelayDoor, .defeatWarden]
    events := (.shieldedChannel, .residualFeedback) }

def routeCatalog : List RouteDefinition := [breachDefinition, stabilizeDefinition]

def routeDefinition : RouteId → RouteDefinition
  | .breach => breachDefinition
  | .stabilize => stabilizeDefinition

def eventEffect : RouteEventId → RouteEffect
  | .overchargedArmor =>
      { wardenHealthBasisPoints := 12000, wardenCounterDamage := baseWardenCounterDamage }
  | .arcSurge => { wardenHealthBasisPoints := 10000, wardenCounterDamage := 20 }
  | .shieldedChannel => { wardenHealthBasisPoints := 10000, wardenCounterDamage := 10 }
  | .residualFeedback =>
      { wardenHealthBasisPoints := 11000, wardenCounterDamage := baseWardenCounterDamage }

def eventDefinition (eventId : RouteEventId) : RouteEventDefinition :=
  { eventId, routeId := eventId.route, effect := eventEffect eventId }

def routeEventCatalog : List RouteEventDefinition := RouteEventId.all.map eventDefinition

/-! ## Seeds -/

/-- A seed as it is stored and read back: `new` keeps it within 63 bits. -/
structure RouteSeed where
  value : UInt64
  deriving DecidableEq, Repr

def maxRouteSeed : UInt64 := 0x7fffffffffffffff

def RouteSeed.new (value : UInt64) : Except RouteError RouteSeed := do
  rejectIf (value > maxRouteSeed) (.invalidSeed value)
  return { value }

def breachSalt : UInt64 := 0x4252454143480001
def stabilizeSalt : UInt64 := 0x53544142494c0002

def RouteId.salt : RouteId → UInt64
  | breach => breachSalt
  | stabilize => stabilizeSalt

/-- One round of mixing within 63 bits. -/
def mixRound (shift factor mixed : UInt64) : UInt64 :=
  ((mixed ^^^ (mixed >>> shift)) * factor) &&& maxRouteSeed

def permute63 (value : UInt64) : UInt64 :=
  let mixed := mixRound 27 0x1c69b3f74ac4ae35
    (mixRound 30 0x3f79d71b4cb0a89d (value &&& maxRouteSeed))
  (mixed ^^^ (mixed >>> 31)) &&& maxRouteSeed

/-- The event a seed picks, with its effect. -/
structure ResolvedRouteEvent where
  routeId : RouteId
  seed : RouteSeed
  eventId : RouteEventId
  effect : RouteEffect
  deriving DecidableEq

def resolveEvent (routeId : RouteId) (seed : RouteSeed) : ResolvedRouteEvent :=
  let events := (routeDefinition routeId).events
  let ticket := permute63 (seed.value ^^^ routeId.salt)
  let eventId := if ticket &&& 1 ≠ 0 then events.2 else events.1
  { routeId, seed, eventId, effect := (eventDefinition eventId).effect }

/-! ## Checks on effects and on the catalog -/

/-- The bounds every effect of the catalog keeps. -/
abbrev RouteEffect.Bounded (effect : RouteEffect) : Prop :=
  (minWardenHealthBasisPoints ≤ effect.wardenHealthBasisPoints ∧
    effect.wardenHealthBasisPoints ≤ maxWardenHealthBasisPoints) ∧
  minWardenCounterDamage ≤ effect.wardenCounterDamage ∧
    effect.wardenCounterDamage ≤ maxWardenCounterDamage

/-- The Warden's health under an effect, rounded half up. -/
def applyWardenHealthEffect (baseHealth : Nat) (effect : RouteEffect) : Except RouteError Nat := do
  rejectIf (baseHealth = 0 ∨ ¬ effect.Bounded) (.invalidCatalog "event effect is outside bounds")
  let scaled := baseHealth * effect.wardenHealthBasisPoints + basisPoints / 2
  rejectIf (scaled > u64Max) .arithmeticOverflow
  rejectIf (scaled / basisPoints > u32Max) .arithmeticOverflow
  return scaled / basisPoints

/-- The event a seed picks has an effect within the bounds. -/
theorem resolveEvent_bounded (routeId : RouteId) (seed : RouteSeed) :
    (resolveEvent routeId seed).effect.Bounded := by
  unfold resolveEvent
  dsimp only
  split <;> cases routeId <;> decide

/-- The checks on one route after its identifier. -/
def validateRoute (route : RouteDefinition) : Except RouteError Unit := do
  rejectIf (¬ (1 ≤ route.reward.fragments ∧ route.reward.fragments ≤ 2) ∨
      route.reward.experience ∉ [100, 125, 150, 175])
    (.invalidCatalog "route reward is outside bounds")
  rejectIf (¬ (minRouteDurationMs ≤ route.durationMs ∧ route.durationMs ≤ maxRouteDurationMs))
    (.invalidCatalog "route duration is outside bounds")
  rejectIf (route.objectivePath.length < 3 ∨ route.objectivePath.length > maxRouteObjectives ∨
      route.objectivePath.head? ≠ some .clearDroneGroup ∨
      route.objectivePath.getLast? ≠ some .defeatWarden ∨ ¬ route.objectivePath.Nodup)
    (.invalidCatalog "route objective path is invalid")
  rejectIf (route.events.1 = route.events.2 ∨ route.events.1.route ≠ route.routeId ∨
      route.events.2.route ≠ route.routeId)
    (.invalidCatalog "route event membership is invalid")

def validateRoutes : List RouteId → List RouteDefinition → Except RouteError Unit
  | _, [] => .ok ()
  | seen, route :: rest => do
      rejectIf (route.routeId ∈ seen) (.invalidCatalog "route identifiers must be unique")
      validateRoute route
      validateRoutes (route.routeId :: seen) rest

def validateEvents : List RouteEventId → List RouteEventDefinition → Except RouteError Unit
  | _, [] => .ok ()
  | seen, event :: rest => do
      rejectIf (event.eventId ∈ seen ∨ event.eventId.route ≠ event.routeId)
        (.invalidCatalog "event identifiers/routes must be unique")
      rejectIf (¬ event.effect.Bounded ∨
          (event.effect.wardenHealthBasisPoints = minWardenHealthBasisPoints ∧
            event.effect.wardenCounterDamage = baseWardenCounterDamage))
        (.invalidCatalog "event effect is invalid or inert")
      validateEvents (event.eventId :: seen) rest

def validateCatalog (routes : List RouteDefinition) (events : List RouteEventDefinition) :
    Except RouteError Unit := do
  rejectIf (routes.length ≠ RouteId.all.length ∨ events.length ≠ RouteEventId.all.length)
    (.invalidCatalog "catalog must contain exactly two routes and four events")
  validateRoutes [] routes
  validateEvents [] events
  rejectIf ((∃ routeId ∈ RouteId.all, routeId ∉ routes.map RouteDefinition.routeId) ∨
      ∃ eventId ∈ RouteEventId.all, eventId ∉ events.map RouteEventDefinition.eventId)
    (.invalidCatalog "catalog identifiers are incomplete")
  let breach ← require (routes.find? (fun route => route.routeId = .breach))
    (.invalidCatalog "breach route is missing")
  let stabilize ← require (routes.find? (fun route => route.routeId = .stabilize))
    (.invalidCatalog "stabilize route is missing")
  rejectIf (breach.reward.fragments ≤ stabilize.reward.fragments ∨
      breach.reward.experience ≥ stabilize.reward.experience ∨
      .reachRelayStabilizer ∉ stabilize.objectivePath ∨
      .reachRelayStabilizer ∈ breach.objectivePath)
    (.invalidCatalog "routes must retain their fragment/experience/objective tradeoff")

/-- The built-in catalog passes its own check. -/
theorem validateCatalog_accepts : validateCatalog routeCatalog routeEventCatalog = .ok () := by
  decide

/-! ## Identifiers -/

/-- 1 to `limit` bytes, every letter of them allowed. -/
def plainIdentifier (limit : Nat) (allowed : Char → Bool) (value : String) : Bool :=
  decide (value ≠ "") && decide (value.utf8ByteSize ≤ limit) && value.toList.all allowed

def maxRouteOperationIdBytes : Nat := 32
def maxParticipantIdBytes : Nat := 64

def validateOperationId (value : String) : Except RouteError Unit :=
  rejectIf (plainIdentifier maxRouteOperationIdBytes
    (fun letter => letter.isAlphanum || letter == '-') value = false) .invalidOperationId

/-- ASCII letters, digits, hyphens, underscores and colons. -/
def identityLetter (letter : Char) : Bool :=
  letter.isAlphanum || letter == '-' || letter == '_' || letter == ':'

def validParticipantId (value : String) : Bool :=
  plainIdentifier maxParticipantIdBytes identityLetter value

end Operations
end Revenant
