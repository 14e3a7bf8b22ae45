import Revenant.Campaign.State
import Revenant.Replay.ChallengeEvidence
import Revenant.Replay.ModuleState
import Revenant.Replay.Acquisition
import Revenant.Replay.Route

namespace Revenant
namespace Replay

open Library

/-!
# Replay events

One row of the durable journal.  A payload is a plain text, the evidence of an
encounter family under that family's prefix, the campaign state a checkpoint or
a resume leads to (nothing when it does not decode), or typed evidence of the
modules, of a claim, of a route or of a challenge.  No plain text the program
writes starts with one of the prefixes or is typed evidence.
-/

inductive ReplayEventKind where
  | playerJoined
  | activityStarted
  | enemySpawned
  | enemyDied
  | bossSpawned
  | activityCompleted
  | lootGranted
  | progressionGranted
  | equipmentChanged
  | fieldActivity
  | moduleStateSnapshot
  | moduleCombined
  | moduleLoadoutChanged
  | acquisitionClaimed
  | campaignCheckpoint
  | campaignResumed
  | campaignObjective
  | campaignStory
  | challengeCheckpoint
  | challengeObjective
  | routeSelected
  | routeOperationSucceeded
  | routeOperationFailed
  | cooperationStarted
  | cooperationPinged
  | playerDowned
  | playerRevived
  | cooperationSucceeded
  | cooperationFailed
  deriving DecidableEq, Repr

namespace ReplayEventKind

def isRouteEvent : ReplayEventKind → Bool
  | routeSelected | routeOperationSucceeded | routeOperationFailed => true
  | _ => false

def isCooperationEvent : ReplayEventKind → Bool
  | cooperationStarted | cooperationPinged | playerDowned | playerRevived | cooperationSucceeded
  | cooperationFailed => true
  | _ => false

/-- The kinds that move the main mission past its optional encounters. -/
def progressesMain : ReplayEventKind → Bool
  | bossSpawned | activityCompleted => true
  | _ => false

end ReplayEventKind

inductive Payload where
  | text (value : String)
  | lancer (evidence : Encoded LancerEvidence)
  | bulwark (evidence : Encoded BulwarkEvidence)
  | support (evidence : Encoded SupportEvidence)
  | elite (evidence : Encoded EliteEvidence)
  | prism (evidence : Encoded PrismEvidence)
  | campaign (state : Option CampaignState)
  | module (payload : Encoded ModuleReplayPayload)
  | acquisition (payload : Encoded AcquisitionClaimedPayload)
  | route (payload : Encoded RouteReplayPayload)
  | challenge (payload : Encoded ChallengeReplayPayload)
  | visit (proof : Encoded ChallengeVisitProof)
  | recovery (evidence : Encoded RecoveryEvidence)
  | survival (evidence : Encoded SurvivalEvidence)
  | signal (evidence : Encoded SignalEvidence)
  | gauntlet (evidence : Encoded GauntletEvidence)
  | circuit (evidence : Encoded RouteEvidence)
  deriving DecidableEq

namespace Payload

/-! `starts_with(PREFIX)` with the body behind the prefix, one view per family. -/

def lancer? : Payload → Option (Encoded LancerEvidence)
  | lancer evidence => some evidence
  | _ => none

def bulwark? : Payload → Option (Encoded BulwarkEvidence)
  | bulwark evidence => some evidence
  | _ => none

def support? : Payload → Option (Encoded SupportEvidence)
  | support evidence => some evidence
  | _ => none

def elite? : Payload → Option (Encoded EliteEvidence)
  | elite evidence => some evidence
  | _ => none

def prism? : Payload → Option (Encoded PrismEvidence)
  | prism evidence => some evidence
  | _ => none

def campaign? : Payload → Option CampaignState
  | campaign state => state
  | _ => none

def module? : Payload → Option (Encoded ModuleReplayPayload)
  | module payload => some payload
  | _ => none

def acquisition? : Payload → Option (Encoded AcquisitionClaimedPayload)
  | acquisition payload => some payload
  | _ => none

def route? : Payload → Option (Encoded RouteReplayPayload)
  | route payload => some payload
  | _ => none

def challenge? : Payload → Option (Encoded ChallengeReplayPayload)
  | challenge payload => some payload
  | _ => none

def visit? : Payload → Option (Encoded ChallengeVisitProof)
  | visit proof => some proof
  | _ => none

def recovery? : Payload → Option (Encoded RecoveryEvidence)
  | recovery evidence => some evidence
  | _ => none

def survival? : Payload → Option (Encoded SurvivalEvidence)
  | survival evidence => some evidence
  | _ => none

def signal? : Payload → Option (Encoded SignalEvidence)
  | signal evidence => some evidence
  | _ => none

def gauntlet? : Payload → Option (Encoded GauntletEvidence)
  | gauntlet evidence => some evidence
  | _ => none

def circuit? : Payload → Option (Encoded RouteEvidence)
  | circuit evidence => some evidence
  | _ => none

/-- The letters of a plain text. -/
def letters? : Payload → Option (List Char)
  | text value => some value.toList
  | _ => none

end Payload

structure ReplayEvent where
  id : Int
  kind : ReplayEventKind
  sessionId : String
  accountId : String
  activityId : Option String
  actorId : Option Nat
  payload : Payload
  deriving DecidableEq

/-- The states an encounter objective reports. -/
inductive EncounterState where
  | active
  | completed
  | failed
  deriving DecidableEq, Repr

/-- The events in which a player joined. -/
def joined (events : List ReplayEvent) : List ReplayEvent :=
  events.filter (fun event => event.kind = .playerJoined)

/-- The actor of the only player, who owns `event` and joined before it. -/
def solePlayer (events : List ReplayEvent) (event : ReplayEvent) : Option Nat :=
  match joined events with
  | [player] =>
      if player.accountId = event.accountId ∧ player.id < event.id then player.actorId else none
  | _ => none

/-- An event that no journal with a solo encounter may contain: `own` tells the
encounter's payloads. -/
def foreign (own : Payload → Bool) (event : ReplayEvent) : Bool :=
  event.kind.isRouteEvent || event.kind.isCooperationEvent ||
    (decide (event.kind = .fieldActivity) && !own event.payload)

variable {events : List ReplayEvent} {event : ReplayEvent}

/-- Appending a row that is no joining leaves the joined players as they were. -/
theorem joined_append (other : event.kind ≠ .playerJoined) :
    joined (events ++ [event]) = joined events := by
  simp [joined, other]

/-- An event before `event` names the actor. -/
def appeared (events : List ReplayEvent) (event : ReplayEvent) (actorId : Nat) : Bool :=
  events.any (fun old => decide (old.id < event.id) && decide (old.actorId = some actorId))

theorem solePlayer_append (other : event.kind ≠ .playerJoined) (spawn : ReplayEvent) :
    solePlayer (events ++ [event]) spawn = solePlayer events spawn := by
  simp only [solePlayer, joined_append other]

/-- A later row is not before any row of the journal. -/
theorem appeared_append {old : ReplayEvent} (actorId : Nat) (later : old.id < event.id) :
    appeared (events ++ [event]) old actorId =
      appeared events old actorId := by
  simp only [appeared, List.any_append, List.any_cons, List.any_nil, Bool.or_false]
  rw [decide_eq_false (by omega), Bool.false_and, Bool.or_false]

/-- An actor whom no row of the journal names did not appear before the next row. -/
theorem appeared_fresh {actorId : Nat} (unused : ∀ old ∈ events, old.actorId ≠ some actorId) :
    appeared (events ++ [event]) event actorId = false := by
  simp only [appeared, List.any_append, List.any_cons, List.any_nil, Bool.or_false,
    Bool.or_eq_false_iff, Bool.and_eq_false_iff, decide_eq_false_iff_not, List.any_eq_false,
    Bool.and_eq_true, decide_eq_true_eq, not_and]
  exact ⟨fun old member _ => unused old member, Or.inl (lt_irrefl _)⟩

end Replay
end Revenant
