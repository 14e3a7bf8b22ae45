import Revenant.Gateway.Session
import Revenant.Replay.Bulwark

namespace Revenant
namespace Gateway

open Library Ai Replay

/-!
# The live solo Bulwark encounter

A solo player who steps onto the entrance selects the encounter.  Each tick
asks the brain for an action, stores its row, and only then changes the
actors; the brain is confirmed at the time at which the write returned.  The
player's shots are stored as well, blocked ones included, and a fatal one
carries the death.
-/

structure BulwarkEncounter where
  enemyId : Nat
  playerId : Nat
  active : Bool
  startedAt : Nat
  ai : Ai.Bulwark.SteelBulwark
  deriving DecidableEq

abbrev BulwarkSession := Session BulwarkEncounter

namespace BulwarkSession

open Ai.Bulwark

def bulwarkFighting (session : BulwarkSession) : Bool := session.encounter.any (·.active)

/-- A fatal hit and its death share one durable row. -/
def recordBulwark (session : BulwarkSession) (encounter : BulwarkEncounter) (write : Option Write)
    (evidence : BulwarkEvidence) (killed : Bool) : Option BulwarkSession :=
  if killed then
    session.appendEvent write .enemyDied (some encounter.enemyId)
      (.bulwark (encodeBulwarkEvidence evidence))
  else
    session.appendEvent write .fieldActivity (some encounter.playerId)
      (.bulwark (encodeBulwarkEvidence evidence))

def finishBulwark (session : BulwarkSession) (encounter : BulwarkEncounter)
    (state : EncounterState) : BulwarkSession :=
  (session.close { encounter with active := false } state).withdraw encounter.enemyId

/-- Stepping onto the entrance selects the encounter. -/
def enterBulwark (session : BulwarkSession) (allocated : Nat) (write : Option Write) :
    Option BulwarkSession := do
  let (actors, enemy) := session.actors.spawn allocated .enemy "steel-bulwark" spawn health
  let session ← session.appendEvent write .enemySpawned (some enemy.id) Replay.Bulwark.spawnedText
  return { session with
    choiceOpen := false, actors, enemyId := some enemy.id, combat := .default
    combatStarted := session.clock, objective := some .active
    encounter := some
      { enemyId := enemy.id, playerId := session.player.actorId, active := true
        startedAt := session.clock, ai := .default } }

/-- `true` when the encounter keeps the player's step. -/
def handleBulwarkMovement (allocated : Nat) (session : BulwarkSession) (position : Position)
    (write : Option Write) : Option (Bool × BulwarkSession) :=
  match session.encounter with
  | some encounter =>
      if encounter.active then
        if arenaContains position then some (true, session)
        else do
          let session ← session.recordBulwark encounter write
            (.abandoned (elapsedMillis encounter.startedAt session.clock)) false
          return (false, session.finishBulwark encounter .failed)
      else some (false, session)
  | none =>
      if session.stage = .door ∧ session.player.bulwarkCapable ∧ session.choiceOpen ∧
          position = entrance then do
        let session ← session.enterBulwark allocated write
        return (true, session)
      else some (false, session)

/-- Adopt the proposed brain, confirmed at the time its write returned. -/
def confirm (session : BulwarkSession) (proposed : SteelBulwark) (elapsedMs : Nat) :
    BulwarkSession :=
  { session with
    encounter := session.encounter.map (fun encounter =>
      { encounter with
        ai := proposed.confirmAt
          (max (elapsedMillis encounter.startedAt session.clock) elapsedMs) }) }

/-- What a proposed action does once it is recorded. -/
def actBulwark (session : BulwarkSession) (encounter : BulwarkEncounter) (player : Actor)
    (write : Option Write) (elapsedMs : Nat) (action : BulwarkAction) : Option BulwarkSession :=
  match action with
  | .brace facing =>
      session.recordBulwark encounter write (.braced facing.vector player.position elapsedMs) false
  | .slam facing damage => do
      let session ← session.recordBulwark encounter write
        (.slam facing.vector player.position elapsedMs damage player.health
          (player.health - damage)) false
      return session.hurtPlayer { encounter with active := false } encounter.playerId player.health
        damage

def tickBulwarkAt (session : BulwarkSession) (write : Option Write) (elapsedMs : Nat) :
    Option BulwarkSession :=
  match session.encounter with
  | none => some session
  | some encounter =>
      if encounter.active = false ∨ session.stage = .failed then some session
      else
        match session.actors.get encounter.playerId with
        | none => some session
        | some player =>
            if player.health = 0 then some session
            else
              match encounter.ai.tick elapsedMs spawn player.position with
              | none => some session
              | some (action, proposed) => do
                  let session ← session.actBulwark encounter player write elapsedMs action
                  return session.confirm proposed elapsedMs

def tickBulwark (session : BulwarkSession) (write : Option Write) : Option BulwarkSession :=
  session.tickBulwarkAt write
    (session.encounter.elim 0 (fun encounter => elapsedMillis encounter.startedAt session.clock))

def attackBulwark (session : BulwarkSession) (targetId : Nat) (write : Option Write)
    (elapsedMs : Nat) : Option BulwarkSession :=
  match session.encounter with
  | none => none
  | some encounter =>
      if encounter.playerId ≠ session.player.actorId ∨ encounter.enemyId ≠ targetId then none
      else do
        let player ← session.actors.get session.player.actorId
        let enemy ← session.actors.get targetId
        let profile ← session.positionedAttackProfile targetId
        let damage := if encounter.ai.blocks spawn player.position then 0 else profile.damage
        let (result, actors, combat) ← session.shoot targetId elapsedMs { profile with damage }
        let session ← session.recordBulwark encounter write
          (.attack player.position elapsedMs result.damage enemy.health result.remainingHealth)
          result.killed
        let session := { session with actors, combat }
        return if result.killed then session.finishBulwark encounter .completed else session

/-- The steps of a session around the Bulwark.  Before the encounter is chosen
only the step onto its entrance is followed, and a shot belongs to the
encounter only while it is fought. -/
inductive Step (session next : BulwarkSession) : Prop
  | move (now : Nat) (position : Position) (allocated : Nat) (write doorWrite : Option Write)
      (later : session.clock ≤ now) (fresh : session.Fresh allocated)
      (chosen : session.encounter.isSome ∨ position = entrance)
      (moved : (session.advance now).movePlayer (handleBulwarkMovement allocated) position write
        doorWrite allocated = some next)
  | tick (now : Nat) (write : Option Write) (later : session.clock ≤ now)
      (ticked : BulwarkSession.tickBulwark (session.advance now) write = some next)
  | attack (now targetId : Nat) (write : Option Write) (later : session.clock ≤ now)
      (fighting : session.bulwarkFighting = true)
      (attacked : BulwarkSession.attackBulwark (session.advance now) targetId write
        (elapsedMillis session.combatStarted now) = some next)
  | equip (now : Nat) (item : WeaponItem) (write : Option Write) (later : session.clock ≤ now)
      (equipped : (session.advance now).equipWeapon item write = some next)

end BulwarkSession
end Gateway
end Revenant
