import Revenant.Actors
import Revenant.Library.Words

namespace Revenant

open Library

/-!
# Basic attacks with a shared cooldown
-/

structure AttackProfile where
  damage : Nat
  range : Int
  cooldownMs : Nat
  deriving DecidableEq, Repr

structure DamageResult where
  damage : Nat
  remainingHealth : Nat
  killed : Bool
  deriving DecidableEq, Repr

structure PressureProfile where
  damage : Nat
  initialAttacks : Nat
  acceptedHitsPerCounterattack : Nat
  maximumCounterattacks : Nat
  deriving DecidableEq, Repr

inductive CombatError where
  | actorNotFound
  | invalidTarget
  | outOfRange
  | cooldownActive
  deriving DecidableEq, Repr

/-- The instant from which each attacker may fire again. -/
structure CombatRuntime where
  readyAt : Nat → Option Nat

namespace CombatRuntime

def default : CombatRuntime := ⟨fun _ => none⟩

/-- The attacker's cooldown is still running. -/
def coolingDown (combat : CombatRuntime) (attackerId nowMs : Nat) : Bool :=
  (combat.readyAt attackerId).any (fun readyAt => nowMs < readyAt)

def attack (combat : CombatRuntime) (actors : ActorRegistry) (attackerId targetId nowMs : Nat)
    (profile : AttackProfile) :
    Except CombatError (DamageResult × ActorRegistry × CombatRuntime) :=
  match actors.get attackerId, actors.get targetId with
  | some attacker, some target =>
      if attacker.kind ≠ .player ∨ attacker.health = 0 ∨ target.kind ≠ .enemy ∨
          target.health = 0 then
        .error .invalidTarget
      else if attacker.position.squaredDistance target.position > profile.range ^ 2 then
        .error .outOfRange
      else if combat.coolingDown attackerId nowMs then
        .error .cooldownActive
      else
        let remaining := target.health - profile.damage
        .ok ({ damage := profile.damage, remainingHealth := remaining,
               killed := decide (remaining = 0) },
          actors.applyDamage targetId profile.damage,
          ⟨Function.update combat.readyAt attackerId
            (some (saturatingAdd nowMs profile.cooldownMs))⟩)
  | _, _ => .error .actorNotFound

/-- What an accepted attack saw and what it left behind. -/
structure Accepted (combat : CombatRuntime) (actors : ActorRegistry)
    (attackerId targetId nowMs : Nat) (profile : AttackProfile)
    (result : DamageResult) (actors' : ActorRegistry) (combat' : CombatRuntime)
    (attacker target : Actor) : Prop where
  attacker_found : actors.get attackerId = some attacker
  target_found : actors.get targetId = some target
  attacker_player : attacker.kind = .player
  attacker_alive : 0 < attacker.health
  target_enemy : target.kind = .enemy
  target_alive : 0 < target.health
  in_range : attacker.position.squaredDistance target.position ≤ profile.range ^ 2
  cooled : combat.coolingDown attackerId nowMs = false
  damage_eq : result.damage = profile.damage
  remaining_eq : result.remainingHealth = target.health - profile.damage
  killed_eq : result.killed = decide (target.health - profile.damage = 0)
  actors_eq : actors' = actors.applyDamage targetId profile.damage
  ready_eq : combat'.readyAt =
    Function.update combat.readyAt attackerId (some (saturatingAdd nowMs profile.cooldownMs))

/-- The one inversion of an attack: everything an accepted one implies. -/
theorem attack_ok {combat combat' : CombatRuntime} {actors actors' : ActorRegistry}
    {attackerId targetId nowMs : Nat} {profile : AttackProfile} {result : DamageResult}
    (accepted : combat.attack actors attackerId targetId nowMs profile =
      .ok (result, actors', combat')) :
    ∃ attacker target,
      Accepted combat actors attackerId targetId nowMs profile result actors' combat'
        attacker target := by
  unfold attack at accepted
  split at accepted
  · next attacker target attackerFound targetFound =>
    split at accepted
    · cases accepted
    · next eligible =>
      split at accepted
      · cases accepted
      · next near =>
        split at accepted
        · cases accepted
        · next cooled =>
          simp only [not_or, not_not] at eligible
          obtain ⟨isPlayer, alive, isEnemy, targetAlive⟩ := eligible
          cases accepted
          exact ⟨attacker, target, attackerFound, targetFound, isPlayer, Nat.pos_of_ne_zero alive,
            isEnemy, Nat.pos_of_ne_zero targetAlive, not_lt.mp near, by simpa using cooled,
            rfl, rfl, rfl, rfl, rfl⟩
  · cases accepted

end CombatRuntime
end Revenant
