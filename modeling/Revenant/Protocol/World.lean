import Revenant.Actors
import Revenant.Library.Variant

namespace Revenant
namespace Protocol

open Library

/-!
# World messages

What a gateway tells a client about actors and about the two contracts that
keep a projection of their own, as the serializer lays the messages out.
-/

structure ActorSpawn where
  actorId : Nat
  actorKind : String
  archetype : String
  position : Position
  health : Nat
  maxHealth : Nat

structure ChargeTelegraph where
  target : Position
  windingUp : Bool
  warningMs : Nat

structure DefenseTelegraph where
  facing : Int × Int
  braced : Bool
  warningMs : Nat

structure ActorUpdate where
  actorId : Nat
  position : Position
  charge : Option ChargeTelegraph
  defense : Option DefenseTelegraph

structure ActorDestroy where
  actorId : Nat

structure DamageApplied where
  sourceActorId : Nat
  targetActorId : Nat
  damage : Nat
  remainingHealth : Nat
  killed : Bool

structure RepairApplied where
  sourceActorId : Nat
  targetActorId : Nat
  amount : Nat
  remainingHealth : Nat

structure ChallengeSurvivalState where
  runId : Nat
  sequence : Nat
  playerActorId : Nat
  phase : String
  health : Nat
  maxHealth : Nat
  reserveUsed : Bool
  recoveredHealth : Nat
  chargeRemainingMs : Option Nat
  recoveryRemainingMs : Option Nat

structure ChallengeGauntletModifier where
  presetId : String
  stageIndex : Nat
  reserveUsed : Bool
  reserveRemainingMs : Option Nat
  elapsedMs : Nat

structure ChallengeGauntletState where
  runId : Nat
  sequence : Nat
  playerActorId : Nat
  stage : Nat
  phase : String
  health : Nat
  maxHealth : Nat
  recoveredHealth : Nat
  transferRemainingMs : Option Nat
  modifier : Option ChallengeGauntletModifier

/-- The messages that reach the client's projection of the world. -/
inductive ServerMessage where
  | actorSpawn (message : ActorSpawn)
  | actorUpdate (message : ActorUpdate)
  | actorDestroy (message : ActorDestroy)
  | damageApplied (message : DamageApplied)
  | repairApplied (message : RepairApplied)
  | challengeSurvivalState (message : ChallengeSurvivalState)
  | challengeGauntletState (message : ChallengeGauntletState)

/-- A position is sent as an array of its coordinates. -/
def serializePosition (position : Position) : Variant :=
  .array [.integer position.x, .integer position.y, .integer position.z]

def ChargeTelegraph.serialize (telegraph : ChargeTelegraph) : Variant :=
  .dictionary [("target", serializePosition telegraph.target),
    ("winding_up", .bool telegraph.windingUp), ("warning_ms", .integer telegraph.warningMs)]

def DefenseTelegraph.serialize (telegraph : DefenseTelegraph) : Variant :=
  .dictionary [("facing", .array [.integer telegraph.facing.1, .integer telegraph.facing.2]),
    ("braced", .bool telegraph.braced), ("warning_ms", .integer telegraph.warningMs)]

def ChallengeGauntletModifier.serialize (modifier : ChallengeGauntletModifier) : Variant :=
  .dictionary [("preset_id", .text modifier.presetId),
    ("stage_index", .integer modifier.stageIndex), ("reserve_used", .bool modifier.reserveUsed),
    ("reserve_remaining_ms", .ofOption modifier.reserveRemainingMs),
    ("elapsed_ms", .integer modifier.elapsedMs)]

namespace ServerMessage

/-- The message with the tag of its kind. -/
def serialize : ServerMessage → Variant
  | actorSpawn message =>
      .dictionary [("type", .text "ActorSpawn"), ("actor_id", .integer message.actorId),
        ("actor_kind", .text message.actorKind), ("archetype", .text message.archetype),
        ("position", serializePosition message.position), ("health", .integer message.health),
        ("max_health", .integer message.maxHealth)]
  | actorUpdate message =>
      .dictionary ([("type", .text "ActorUpdate"), ("actor_id", .integer message.actorId),
        ("position", serializePosition message.position)] ++
        Variant.optional "charge" (message.charge.map ChargeTelegraph.serialize) ++
        Variant.optional "defense" (message.defense.map DefenseTelegraph.serialize))
  | actorDestroy message =>
      .dictionary [("type", .text "ActorDestroy"), ("actor_id", .integer message.actorId)]
  | damageApplied message =>
      .dictionary [("type", .text "DamageApplied"),
        ("source_actor_id", .integer message.sourceActorId),
        ("target_actor_id", .integer message.targetActorId), ("damage", .integer message.damage),
        ("remaining_health", .integer message.remainingHealth), ("killed", .bool message.killed)]
  | repairApplied message =>
      .dictionary [("type", .text "RepairApplied"),
        ("source_actor_id", .integer message.sourceActorId),
        ("target_actor_id", .integer message.targetActorId), ("amount", .integer message.amount),
        ("remaining_health", .integer message.remainingHealth)]
  | challengeSurvivalState message =>
      .dictionary [("type", .text "ChallengeSurvivalState"), ("run_id", .integer message.runId),
        ("sequence", .integer message.sequence),
        ("player_actor_id", .integer message.playerActorId), ("phase", .text message.phase),
        ("health", .integer message.health), ("max_health", .integer message.maxHealth),
        ("reserve_used", .bool message.reserveUsed),
        ("recovered_health", .integer message.recoveredHealth),
        ("charge_remaining_ms", .ofOption message.chargeRemainingMs),
        ("recovery_remaining_ms", .ofOption message.recoveryRemainingMs)]
  | challengeGauntletState message =>
      .dictionary ([("type", .text "ChallengeGauntletState"), ("run_id", .integer message.runId),
        ("sequence", .integer message.sequence),
        ("player_actor_id", .integer message.playerActorId), ("stage", .integer message.stage),
        ("phase", .text message.phase), ("health", .integer message.health),
        ("max_health", .integer message.maxHealth),
        ("recovered_health", .integer message.recoveredHealth),
        ("transfer_remaining_ms", .ofOption message.transferRemainingMs)] ++
        Variant.optional "modifier" (message.modifier.map ChallengeGauntletModifier.serialize))

end ServerMessage

end Protocol

namespace Gateway

open Protocol

/-- How the gateway announces any actor. -/
def actorSpawnMessage (actor : Actor) : ServerMessage :=
  .actorSpawn
    { actorId := actor.id
      actorKind := match actor.kind with
        | .player => "player"
        | .enemy => "enemy"
      archetype := actor.archetype, position := actor.position, health := actor.health
      maxHealth := actor.maxHealth }

end Gateway
end Revenant
