import Revenant.Client.World
import Revenant.Library.Mirror

namespace Revenant
namespace Agreement

open Library Client.World Protocol Gateway

/-!
# What a client knows of its player

A contract's state is checked against the player's position, health and maximum
as the messages before it left them.  Each message below says what it leaves of
that knowledge; none of them touches the state of a contract.
-/

/-- The client takes a message as it arrives. -/
def hear (runId : Int) (preset : String) (client : AuthoritativeState) (message : ServerMessage) :
    Check AuthoritativeState :=
  client.receive runId preset message.serialize

/-- What the client knows of the player between two states. -/
structure Knows (client : AuthoritativeState) (player : Nat) (position : Position)
    (health maximum : Nat) : Prop where
  own : client.playerActorId = player
  actor : ∃ actor, client.actors player = some actor ∧ actor.isDictionary = true ∧
    actor.get "position" = positionValue position
  health : client.actorHealth player = some (.integer health)
  maximum : client.actorMaxHealth player = some (.integer maximum)

section Hear

variable {client : AuthoritativeState} {player health maximum : Nat} {position : Position}
variable {runId : Int} {preset : String}

/-- Damage leaves the health that remains; the rest stays. -/
theorem hear_damage (knows : Knows client player position health maximum)
    (message : DamageApplied) (hit : message.targetActorId = player) :
    ∃ next, hear runId preset client (.damageApplied message) = .ok next ∧
      Knows next player position message.remainingHealth maximum ∧
      next.survivalState = client.survivalState ∧ next.gauntletState = client.gauntletState := by
  refine ⟨_, rfl, ⟨knows.own, knows.actor, ?_, knows.maximum⟩, rfl, rfl⟩
  change Function.update client.actorHealth (message.targetActorId : Int) _ (player : Int) = _
  rw [hit, Function.update_self]
  rfl

/-- A move of a known actor. -/
theorem hear_update (runId : Int) (preset : String) {message : ActorUpdate} {actor : Variant}
    (found : client.actors (message.actorId : Int) = some actor) :
    hear runId preset client (.actorUpdate message) = .ok { client with
      actors := Function.update client.actors (message.actorId : Int)
        (some (actor.set "position" (positionValue message.position))) } := by
  change client.applyActorUpdate (ServerMessage.serialize (.actorUpdate message)) = _
  unfold AuthoritativeState.applyActorUpdate
  rw [bind_eq_ok]
  refine ⟨_, rfl, ?_⟩
  rw [found]
  rfl

/-- A move of an unknown actor is passed over. -/
theorem hear_update_unknown (runId : Int) (preset : String) {message : ActorUpdate}
    (unknown : client.actors (message.actorId : Int) = none) :
    hear runId preset client (.actorUpdate message) = .ok client := by
  change client.applyActorUpdate (ServerMessage.serialize (.actorUpdate message)) = _
  unfold AuthoritativeState.applyActorUpdate
  rw [bind_eq_ok]
  refine ⟨_, rfl, ?_⟩
  rw [unknown]
  rfl

/-- A move leaves the new position. -/
theorem hear_move (knows : Knows client player position health maximum)
    (message : ActorUpdate) (own : message.actorId = player) :
    ∃ next, hear runId preset client (.actorUpdate message) = .ok next ∧
      Knows next player message.position health maximum ∧
      next.survivalState = client.survivalState ∧ next.gauntletState = client.gauntletState := by
  obtain ⟨actor, found, isDict, placed⟩ := knows.actor
  have handled : hear runId preset client (.actorUpdate message) = .ok { client with
      actors := Function.update client.actors (player : Int)
        (some (actor.set "position" (positionValue message.position))) } := by
    have known : client.actors (message.actorId : Int) = some actor := by rw [own, found]
    rw [hear_update runId preset known, own]
  refine ⟨_, handled, ⟨knows.own, ⟨_, Function.update_self _ _ _, ?_, ?_⟩, knows.health,
    knows.maximum⟩, rfl, rfl⟩
  · rw [Variant.isDictionary_set, isDict]
  · exact Variant.get_set isDict _ _

/-- A spawn of the player makes it known. -/
theorem hear_spawn_player (runId : Int) (preset : String) (client : AuthoritativeState) (actor : Actor) (own : client.playerActorId = actor.id) :
    ∃ next, hear runId preset client (actorSpawnMessage actor) = .ok next ∧
      Knows next actor.id actor.position actor.health actor.maxHealth ∧
      next.survivalState = client.survivalState ∧ next.gauntletState = client.gauntletState := by
  refine ⟨_, rfl, ⟨own, ⟨_, Function.update_self _ _ _, rfl, rfl⟩, ?_, ?_⟩, rfl, rfl⟩
  · exact Function.update_self _ _ _
  · exact Function.update_self _ _ _

/-- A spawn of another actor leaves what is known of the player. -/
theorem hear_spawn_other (runId : Int) (preset : String)
    (knows : Knows client player position health maximum) (actor : Actor)
    (other : actor.id ≠ player) :
    ∃ next, hear runId preset client (actorSpawnMessage actor) = .ok next ∧
      Knows next player position health maximum ∧
      next.survivalState = client.survivalState ∧ next.gauntletState = client.gauntletState := by
  have apart : (player : Int) ≠ (actor.id : Int) := fun same => other (Int.ofNat.inj same).symm
  obtain ⟨known, found, isDict, placed⟩ := knows.actor
  refine ⟨_, rfl, ⟨knows.own, ⟨known, ?_, isDict, placed⟩, ?_, ?_⟩, rfl, rfl⟩
  · exact (Function.update_of_ne apart _ _).trans found
  · exact (Function.update_of_ne apart _ _).trans knows.health
  · exact (Function.update_of_ne apart _ _).trans knows.maximum

/-! ## Other actors -/

/-- An actor the client knows has a health there. -/
def Paired (client : AuthoritativeState) : Prop :=
  ∀ actorId, (client.actors actorId).isSome = true → (client.actorHealth actorId).isSome = true

/-- A message about another actor leaves what is known of the player. -/
structure Unconcerned (client next : AuthoritativeState) : Prop where
  own : next.playerActorId = client.playerActorId
  actor : next.actors client.playerActorId = client.actors client.playerActorId
  health : next.actorHealth client.playerActorId = client.actorHealth client.playerActorId
  maximum : next.actorMaxHealth client.playerActorId = client.actorMaxHealth client.playerActorId
  gauntlet : next.gauntletState = client.gauntletState

theorem Unconcerned.knows {next : AuthoritativeState} (same : Unconcerned client next)
    (knows : Knows client player position health maximum) :
    Knows next player position health maximum := by
  obtain ⟨own, actor, known, limit⟩ := knows
  refine ⟨same.own.trans own, ?_, ?_, ?_⟩
  · rw [← own, same.actor, own]
    exact actor
  · rw [← own, same.health, own]
    exact known
  · rw [← own, same.maximum, own]
    exact limit

theorem isSome_update {Value : Type} {values : Int → Option Value} {value : Value}
    {other actorId : Int} (known : (values actorId).isSome = true) :
    (Function.update values other (some value) actorId).isSome = true := by
  by_cases same : actorId = other
  · rw [same, Function.update_self]
    rfl
  · rw [Function.update_of_ne same]
    exact known

/-- The messages that concern no more than one actor, and that actor. -/
inductive Concerns : Nat → ServerMessage → Prop
  | spawn (actor : Actor) : Concerns actor.id (actorSpawnMessage actor)
  | update (message : ActorUpdate) : Concerns message.actorId (.actorUpdate message)
  | destroy (message : ActorDestroy) : Concerns message.actorId (.actorDestroy message)
  | damage (message : DamageApplied) : Concerns message.targetActorId (.damageApplied message)
  | repair (message : RepairApplied) : Concerns message.targetActorId (.repairApplied message)

/-- Whatever is told of an actor is taken, and leaves every other one alone. -/
theorem hear_concerned (runId : Int) (preset : String) (paired : Paired client) {other : Nat}
    {message : ServerMessage} (concerns : Concerns other message) :
    ∃ next, hear runId preset client message = .ok next ∧ Paired next ∧
      (client.playerActorId ≠ other → Unconcerned client next) := by
  cases concerns with
  | spawn actor =>
      refine ⟨_, rfl, ?_, fun apart => ⟨rfl, Function.update_of_ne apart _ _,
        Function.update_of_ne apart _ _, Function.update_of_ne apart _ _, rfl⟩⟩
      intro actorId known
      change (Function.update client.actorHealth (actor.id : Int) _ actorId).isSome = true
      by_cases same : actorId = (actor.id : Int)
      · rw [same, Function.update_self]
        rfl
      · rw [Function.update_of_ne same]
        refine paired actorId ?_
        rw [← known]
        change _ = (Function.update client.actors (actor.id : Int) _ actorId).isSome
        rw [Function.update_of_ne same]
  | update message =>
      cases found : client.actors (message.actorId : Int) with
      | none =>
          exact ⟨client, hear_update_unknown runId preset found, paired,
            fun _ => ⟨rfl, rfl, rfl, rfl, rfl⟩⟩
      | some actor =>
          refine ⟨_, hear_update runId preset found, ?_, fun apart => ⟨rfl, Function.update_of_ne apart _ _, rfl, rfl, rfl⟩⟩
          intro actorId known
          refine paired actorId ?_
          by_cases same : actorId = (message.actorId : Int)
          · rw [same, found]
            rfl
          · rw [← known]
            change _ = (Function.update client.actors (message.actorId : Int) _ actorId).isSome
            rw [Function.update_of_ne same]
  | destroy message =>
      refine ⟨_, rfl, ?_, fun apart => ⟨rfl, Function.update_of_ne apart _ _,
        Function.update_of_ne apart _ _, Function.update_of_ne apart _ _, rfl⟩⟩
      intro actorId known
      change (Function.update client.actors (message.actorId : Int) none actorId).isSome = true
        at known
      change (Function.update client.actorHealth (message.actorId : Int) none actorId).isSome = true
      have different : actorId ≠ (message.actorId : Int) := by
        rintro rfl
        rw [Function.update_self] at known
        cases known
      rw [Function.update_of_ne different] at known ⊢
      exact paired actorId known
  | damage message =>
      refine ⟨_, rfl, ?_, fun apart => ⟨rfl, rfl, Function.update_of_ne apart _ _, rfl, rfl⟩⟩
      intro actorId known
      exact isSome_update (paired actorId known)
  | repair message =>
      have handled : hear runId preset client (.repairApplied message) =
          (if (client.actors (message.targetActorId : Int)).isNone then .ok client
          else require (client.actorHealth (message.targetActorId : Int)) () >>= fun _ =>
            .ok { client with
              actorHealth := Function.update client.actorHealth (message.targetActorId : Int)
                (some (.integer message.remainingHealth)) }) := rfl
      rw [handled]
      cases found : client.actors (message.targetActorId : Int) with
      | none => exact ⟨client, rfl, paired, fun _ => ⟨rfl, rfl, rfl, rfl, rfl⟩⟩
      | some actor =>
          obtain ⟨health, held⟩ := Option.isSome_iff_exists.mp
            (paired (message.targetActorId : Int) (by rw [found]; rfl))
          rw [held]
          refine ⟨_, rfl, ?_, fun apart => ⟨rfl, rfl, Function.update_of_ne apart _ _, rfl, rfl⟩⟩
          intro actorId known
          exact isSome_update (paired actorId known)

end Hear

end Agreement
end Revenant
