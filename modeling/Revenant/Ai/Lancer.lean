import Revenant.Actors
import Revenant.Library.Words

namespace Revenant
namespace Ai

open Library

/-!
# The Glass Lancer

A telegraphed cardinal charge.  A tick either locks a target or resolves the
locked charge; `tick_cases` says everything a tick can do.
-/

namespace Lancer

def entrance : Position := ⟨4, 0, 8⟩

def spawn : Position := ⟨9, 0, 8⟩

def health : Nat := 200

def damage : Nat := 18

def windupMs : Nat := 1800

def recoveryMs : Nat := 1400

abbrev arenaContains (position : Position) : Prop :=
  position.y = 0 ∧ (2 ≤ position.x ∧ position.x ≤ 10) ∧ 5 ≤ position.z ∧ position.z ≤ 10

/-- The player stands on the charged line between its ends. -/
abbrev chargeHits (origin target player : Position) : Prop :=
  arenaContains origin ∧ arenaContains target ∧ arenaContains player ∧
    ((origin.x = target.x ∧ player.x = origin.x ∧
        min origin.z target.z ≤ player.z ∧ player.z ≤ max origin.z target.z) ∨
      (origin.z = target.z ∧ player.z = origin.z ∧
        min origin.x target.x ≤ player.x ∧ player.x ≤ max origin.x target.x))

/-- The damage of a resolved charge. -/
def chargeDamage (origin target player : Position) : Nat :=
  if chargeHits origin target player then damage else 0

theorem chargeDamage_le (origin target player : Position) :
    chargeDamage origin target player ≤ damage := by
  unfold chargeDamage
  split
  · exact le_refl _
  · exact Nat.zero_le _

inductive ChargeAction where
  | windup (origin target : Position)
  | resolved (origin target : Position) (damage : Nat)
  deriving DecidableEq, Repr

structure GlassLancer where
  readyAtMs : Nat
  locked : Option (Position × Position)
  deriving DecidableEq, Repr

namespace GlassLancer

def default : GlassLancer := { readyAtMs := 700, locked := none }

/-- Preserve the full warning or recovery interval after a slow durable write. -/
def confirmAt (lancer : GlassLancer) (nowMs : Nat) : GlassLancer :=
  let interval := if lancer.locked.isSome then windupMs else recoveryMs
  { lancer with readyAtMs := max lancer.readyAtMs (saturatingAdd nowMs interval) }

/-- The cell a windup aims at: the player's coordinate on the longer axis. -/
def aim (enemy player : Position) : Position :=
  if |player.z - enemy.z| ≤ |player.x - enemy.x| then { enemy with x := player.x }
  else { enemy with z := player.z }

def tick (lancer : GlassLancer) (nowMs : Nat) (enemy player : Position) :
    Option (ChargeAction × GlassLancer) :=
  if nowMs < lancer.readyAtMs ∨ ¬ arenaContains enemy ∨ ¬ arenaContains player then none
  else
    match lancer.locked with
    | some (origin, target) =>
        some (.resolved origin target (chargeDamage origin target player),
          { readyAtMs := saturatingAdd nowMs recoveryMs, locked := none })
    | none =>
        some (.windup enemy (aim enemy player),
          { readyAtMs := saturatingAdd nowMs windupMs, locked := some (enemy, aim enemy player) })

theorem aim_arena {enemy player : Position} (enemyInside : arenaContains enemy)
    (playerInside : arenaContains player) : arenaContains (aim enemy player) := by
  unfold aim
  split <;> simp only [arenaContains] at * <;> omega

theorem aim_aligned (enemy player : Position) :
    enemy.x = (aim enemy player).x ∨ enemy.z = (aim enemy player).z := by
  unfold aim
  split
  · exact Or.inr rfl
  · exact Or.inl rfl

/-- A tick that acts locks a fresh charge or resolves the locked one. -/
theorem tick_cases {lancer next : GlassLancer} {nowMs : Nat} {enemy player : Position}
    {action : ChargeAction} (acted : lancer.tick nowMs enemy player = some (action, next)) :
    lancer.readyAtMs ≤ nowMs ∧ arenaContains enemy ∧ arenaContains player ∧
      ((lancer.locked = none ∧ action = .windup enemy (aim enemy player) ∧
          next = { readyAtMs := saturatingAdd nowMs windupMs
                   locked := some (enemy, aim enemy player) }) ∨
        ∃ origin target, lancer.locked = some (origin, target) ∧
          action = .resolved origin target (chargeDamage origin target player) ∧
          next = { readyAtMs := saturatingAdd nowMs recoveryMs, locked := none }) := by
  unfold tick at acted
  split at acted
  · cases acted
  · next open' =>
    simp only [not_or, not_not, not_lt] at open'
    obtain ⟨ready, enemyInside, playerInside⟩ := open'
    refine ⟨ready, enemyInside, playerInside, ?_⟩
    split at acted
    · next origin target charge =>
      cases acted
      exact Or.inr ⟨origin, target, charge, rfl, rfl⟩
    · next free =>
      cases acted
      exact Or.inl ⟨free, rfl, rfl⟩

/-- A Lancer that is ready earlier acts the same. -/
theorem tick_of_le {lancer earlier next : GlassLancer} {nowMs : Nat} {enemy player : Position}
    {action : ChargeAction} (due : earlier.readyAtMs ≤ lancer.readyAtMs)
    (charge : earlier.locked = lancer.locked)
    (acted : lancer.tick nowMs enemy player = some (action, next)) :
    earlier.tick nowMs enemy player = some (action, next) := by
  unfold tick at acted ⊢
  split at acted
  · cases acted
  · next open' =>
    rw [if_neg (by omega), charge]
    exact acted

@[simp] theorem confirmAt_locked (lancer : GlassLancer) (nowMs : Nat) :
    (lancer.confirmAt nowMs).locked = lancer.locked := rfl

theorem le_confirmAt (lancer : GlassLancer) (nowMs : Nat) :
    lancer.readyAtMs ≤ (lancer.confirmAt nowMs).readyAtMs :=
  Nat.le_max_left _ _

end GlassLancer
end Lancer
end Ai
end Revenant
