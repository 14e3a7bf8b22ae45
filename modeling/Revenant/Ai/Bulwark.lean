import Revenant.Actors
import Revenant.Library.Words

namespace Revenant
namespace Ai

open Library

/-!
# The Steel Bulwark

Cardinal protection: a braced Bulwark blocks what comes from the sector it
faces, then slams that sector and stands open until it braces again.
-/

/-- A cardinal direction with its `[i32; 2]` vector. -/
inductive Facing where
  | north
  | east
  | south
  | west
  deriving DecidableEq, Repr

namespace Facing

def vector : Facing → Int × Int
  | north => (0, -1)
  | east => (1, 0)
  | south => (0, 1)
  | west => (-1, 0)

def fromVector (vector : Int × Int) : Option Facing :=
  if vector = (0, -1) then some north
  else if vector = (1, 0) then some east
  else if vector = (0, 1) then some south
  else if vector = (-1, 0) then some west
  else none

@[simp] theorem fromVector_vector (facing : Facing) : fromVector facing.vector = some facing := by
  cases facing <;> rfl

/-- The dominant direction; coincident actors preserve the current facing. -/
def toward (facing : Facing) (origin target : Position) : Facing :=
  let dx := target.x - origin.x
  let dz := target.z - origin.z
  if dx = 0 ∧ dz = 0 then facing
  else if |dz| ≤ |dx| then (if dx > 0 then east else west)
  else if dz > 0 then south
  else north

/-- Forward and lateral distance of the attacker in the faced direction. -/
def components (facing : Facing) (origin attacker : Position) : Int × Int :=
  let dx := attacker.x - origin.x
  let dz := attacker.z - origin.z
  match facing with
  | north => (-dz, dx)
  | east => (dx, dz)
  | south => (dz, dx)
  | west => (-dx, dz)

/-- The forward quarter is protected; side and rear remain exposed. -/
abbrev protects (facing : Facing) (origin attacker : Position) : Prop :=
  origin.y = attacker.y ∧ 0 < (facing.components origin attacker).1 ∧
    |(facing.components origin attacker).2| ≤ (facing.components origin attacker).1

end Facing

namespace Bulwark

def entrance : Position := ⟨6, 0, -8⟩

def spawn : Position := ⟨8, 0, -8⟩

def health : Nat := 240

def damage : Nat := 14

def windupMs : Nat := 1600

def recoveryMs : Nat := 1800

abbrev arenaContains (position : Position) : Prop :=
  position.y = 0 ∧ (5 ≤ position.x ∧ position.x ≤ 10) ∧ -10 ≤ position.z ∧ position.z ≤ -5

abbrev slamHits (facing : Facing) (origin player : Position) : Prop :=
  arenaContains origin ∧ arenaContains player ∧ facing.protects origin player ∧
    (player.x - origin.x) * (player.x - origin.x) +
      (player.z - origin.z) * (player.z - origin.z) ≤ 4

def slamDamage (facing : Facing) (origin player : Position) : Nat :=
  if slamHits facing origin player then damage else 0

theorem slamDamage_le (facing : Facing) (origin player : Position) :
    slamDamage facing origin player ≤ damage := by
  unfold slamDamage
  split
  · exact le_refl _
  · exact Nat.zero_le _

inductive BulwarkAction where
  | brace (facing : Facing)
  | slam (facing : Facing) (damage : Nat)
  deriving DecidableEq, Repr

structure SteelBulwark where
  facing : Facing
  braced : Bool
  readyAtMs : Nat
  deriving DecidableEq, Repr

namespace SteelBulwark

def default : SteelBulwark := { facing := .west, braced := true, readyAtMs := windupMs }

abbrev blocks (bulwark : SteelBulwark) (origin attacker : Position) : Prop :=
  bulwark.braced = true ∧ bulwark.facing.protects origin attacker

def confirmAt (bulwark : SteelBulwark) (nowMs : Nat) : SteelBulwark :=
  let interval := if bulwark.braced then windupMs else recoveryMs
  { bulwark with readyAtMs := max bulwark.readyAtMs (saturatingAdd nowMs interval) }

def tick (bulwark : SteelBulwark) (nowMs : Nat) (origin player : Position) :
    Option (BulwarkAction × SteelBulwark) :=
  if nowMs < bulwark.readyAtMs ∨ ¬ arenaContains origin ∨ ¬ arenaContains player then none
  else if bulwark.braced then
    some (.slam bulwark.facing (slamDamage bulwark.facing origin player),
      { bulwark with braced := false, readyAtMs := saturatingAdd nowMs recoveryMs })
  else
    let facing := bulwark.facing.toward origin player
    some (.brace facing,
      { facing, braced := true, readyAtMs := saturatingAdd nowMs windupMs })

/-- A tick that acts slams out of a brace or braces toward the player. -/
theorem tick_cases {bulwark next : SteelBulwark} {nowMs : Nat} {origin player : Position}
    {action : BulwarkAction} (acted : bulwark.tick nowMs origin player = some (action, next)) :
    bulwark.readyAtMs ≤ nowMs ∧ arenaContains origin ∧ arenaContains player ∧
      ((bulwark.braced = true ∧
          action = .slam bulwark.facing (slamDamage bulwark.facing origin player) ∧
          next = { bulwark with braced := false, readyAtMs := saturatingAdd nowMs recoveryMs }) ∨
        (bulwark.braced = false ∧ action = .brace (bulwark.facing.toward origin player) ∧
          next = { facing := bulwark.facing.toward origin player, braced := true
                   readyAtMs := saturatingAdd nowMs windupMs })) := by
  unfold tick at acted
  split at acted
  · cases acted
  · next open' =>
    simp only [not_or, not_not, not_lt] at open'
    obtain ⟨ready, originInside, playerInside⟩ := open'
    refine ⟨ready, originInside, playerInside, ?_⟩
    split at acted
    · next braced =>
      cases acted
      exact Or.inl ⟨braced, rfl, rfl⟩
    · next recovering =>
      cases acted
      exact Or.inr ⟨by simpa using recovering, rfl, rfl⟩

@[simp] theorem confirmAt_facing (bulwark : SteelBulwark) (nowMs : Nat) :
    (bulwark.confirmAt nowMs).facing = bulwark.facing := rfl

@[simp] theorem confirmAt_braced (bulwark : SteelBulwark) (nowMs : Nat) :
    (bulwark.confirmAt nowMs).braced = bulwark.braced := rfl

theorem le_confirmAt (bulwark : SteelBulwark) (nowMs : Nat) :
    bulwark.readyAtMs ≤ (bulwark.confirmAt nowMs).readyAtMs :=
  Nat.le_max_left _ _

end SteelBulwark
end Bulwark
end Ai
end Revenant
