import Mathlib.Algebra.Order.Group.Unbundled.Int
import Mathlib.Logic.Function.Basic

namespace Revenant

/-!
# Positions, actors and their registry
-/

/-- A grid position, `[i32; 3]` in the source. -/
structure Position where
  x : Int
  y : Int
  z : Int
  deriving DecidableEq, Repr

namespace Position

/-- The squared distance every range check uses.  The source sums it in 64 bits, which
is exact while no two coordinates lie 2^30 apart; its rooms span some tens of cells. -/
def squaredDistance (left right : Position) : Int :=
  (left.x - right.x) ^ 2 + (left.y - right.y) ^ 2 + (left.z - right.z) ^ 2

/-- The sum of the coordinate distances that spatial challenges bound by one. -/
def stepDistance (left right : Position) : Int :=
  |left.x - right.x| + |left.y - right.y| + |left.z - right.z|

end Position

inductive ActorKind where
  | player
  | enemy
  deriving DecidableEq, Repr

structure Actor where
  id : Nat
  kind : ActorKind
  archetype : String
  position : Position
  health : Nat
  maxHealth : Nat
  deriving DecidableEq, Repr

/-- The actors of one session by identifier. -/
structure ActorRegistry where
  actors : Nat → Option Actor

namespace ActorRegistry

def empty : ActorRegistry := ⟨fun _ => none⟩

def get (registry : ActorRegistry) (actorId : Nat) : Option Actor := registry.actors actorId

def insert (registry : ActorRegistry) (actor : Actor) : ActorRegistry :=
  ⟨Function.update registry.actors actor.id (some actor)⟩

/-- `spawn` with the identifier the global counter returned. -/
def spawn (registry : ActorRegistry) (allocated : Nat) (kind : ActorKind) (archetype : String)
    (position : Position) (maxHealth : Nat) : ActorRegistry × Actor :=
  let actor : Actor :=
    { id := allocated, kind, archetype, position, health := maxHealth, maxHealth }
  (registry.insert actor, actor)

def updatePosition (registry : ActorRegistry) (actorId : Nat) (position : Position) : ActorRegistry :=
  match registry.get actorId with
  | none => registry
  | some actor => ⟨Function.update registry.actors actorId (some { actor with position })⟩

def destroy (registry : ActorRegistry) (actorId : Nat) : ActorRegistry :=
  ⟨Function.update registry.actors actorId none⟩

def applyDamage (registry : ActorRegistry) (actorId damage : Nat) : ActorRegistry :=
  match registry.get actorId with
  | none => registry
  | some actor =>
      ⟨Function.update registry.actors actorId (some { actor with health := actor.health - damage })⟩

variable (registry : ActorRegistry)

@[simp] theorem get_insert (actor : Actor) (actorId : Nat) :
    (registry.insert actor).get actorId =
      if actorId = actor.id then some actor else registry.get actorId := by
  simp only [get, insert, Function.update_apply]

@[simp] theorem get_destroy (removed actorId : Nat) :
    (registry.destroy removed).get actorId =
      if actorId = removed then none else registry.get actorId := by
  simp only [get, destroy, Function.update_apply]

@[simp] theorem get_updatePosition (moved : Nat) (position : Position) (actorId : Nat) :
    (registry.updatePosition moved position).get actorId =
      if actorId = moved then (registry.get moved).map (fun actor => { actor with position })
      else registry.get actorId := by
  cases found : registry.get moved with
  | none =>
      simp only [updatePosition, found, Option.map_none]
      split
      · next same => rw [same, found]
      · rfl
  | some actor =>
      simp only [updatePosition, found, Option.map_some]
      simp only [get, Function.update_apply]

@[simp] theorem get_applyDamage (hurt damage actorId : Nat) :
    (registry.applyDamage hurt damage).get actorId =
      if actorId = hurt then
        (registry.get hurt).map (fun actor => { actor with health := actor.health - damage })
      else registry.get actorId := by
  cases found : registry.get hurt with
  | none =>
      simp only [applyDamage, found, Option.map_none]
      split
      · next same => rw [same, found]
      · rfl
  | some actor =>
      simp only [applyDamage, found, Option.map_some]
      simp only [get, Function.update_apply]

@[simp] theorem applyDamage_zero (actorId : Nat) : registry.applyDamage actorId 0 = registry := by
  unfold applyDamage
  cases found : registry.get actorId with
  | none => rfl
  | some actor =>
      simp only [Nat.sub_zero]
      have same : Function.update registry.actors actorId (some actor) = registry.actors :=
        Function.update_eq_self_iff.mpr found.symm
      rw [same]

end ActorRegistry
end Revenant
