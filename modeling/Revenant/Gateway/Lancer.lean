import Revenant.Gateway.Session
import Revenant.Replay.Lancer

namespace Revenant
namespace Gateway

open Library Ai Replay

/-!
# The live solo Lancer encounter

A solo player who steps onto the entrance selects the encounter.  Each tick
asks the brain for an action, stores its row, and only then changes the
actors; the brain is confirmed at the time at which the write returned.  Of
the player's shots only the fatal one leaves a row.
-/

structure LancerEncounter where
  enemyId : Nat
  playerId : Nat
  active : Bool
  startedAt : Nat
  ai : Ai.Lancer.GlassLancer
  deriving DecidableEq

abbrev LancerSession := Session LancerEncounter

namespace LancerSession

open Ai.Lancer

def lancerFighting (session : LancerSession) : Bool := session.encounter.any (·.active)

def recordLancer (session : LancerSession) (encounter : LancerEncounter) (write : Option Write)
    (evidence : LancerEvidence) : Option LancerSession :=
  session.appendEvent write .fieldActivity (some encounter.playerId)
    (.lancer (encodeLancerEvidence evidence))

/-- Stepping onto the entrance selects the encounter.  The source reads the
clock twice here; the second reading only starts the cooldown clock. -/
def enterLancer (session : LancerSession) (allocated : Nat) (write : Option Write) :
    Option LancerSession := do
  let (actors, enemy) := session.actors.spawn allocated .enemy "glass-lancer" spawn health
  let session ← session.appendEvent write .enemySpawned (some enemy.id) Replay.Lancer.spawnedText
  return { session with
    choiceOpen := false, actors, enemyId := some enemy.id, combat := .default
    combatStarted := session.clock, objective := some .active
    encounter := some
      { enemyId := enemy.id, playerId := session.player.actorId, active := true
        startedAt := session.clock, ai := .default } }

/-- `true` when the encounter keeps the player's step. -/
def handleLancerMovement (allocated : Nat) (session : LancerSession) (position : Position)
    (write : Option Write) : Option (Bool × LancerSession) :=
  match session.encounter with
  | some encounter =>
      if encounter.active then
        if arenaContains position then some (true, session)
        else do
          let session ← session.recordLancer encounter write
            (.abandoned (elapsedMillis encounter.startedAt session.clock))
          return (false, (session.close { encounter with active := false } .failed).withdraw
            encounter.enemyId)
      else some (false, session)
  | none =>
      if session.stage = .door ∧ session.player.encounterCapable ∧ session.choiceOpen ∧
          position = entrance then do
        let session ← session.enterLancer allocated write
        return (true, session)
      else some (false, session)

/-- Adopt the proposed brain, confirmed at the time its write returned. -/
def confirm (session : LancerSession) (proposed : GlassLancer) (elapsedMs : Nat) : LancerSession :=
  { session with
    encounter := session.encounter.map (fun encounter =>
      { encounter with
        ai := proposed.confirmAt
          (max (elapsedMillis encounter.startedAt session.clock) elapsedMs) }) }

/-- What a proposed action does once it is recorded. -/
def actLancer (session : LancerSession) (encounter : LancerEncounter) (player : Actor)
    (write : Option Write) (elapsedMs : Nat) (action : ChargeAction) : Option LancerSession :=
  match action with
  | .windup origin target =>
      session.recordLancer encounter write (.windup origin target elapsedMs)
  | .resolved origin target damage => do
      let session ← session.recordLancer encounter write
        (.resolved origin target player.position elapsedMs damage player.health
          (player.health - damage))
      let session :=
        { session with actors := session.actors.updatePosition encounter.enemyId target }
      return session.hurtPlayer { encounter with active := false } encounter.playerId player.health
        damage

def tickLancerAt (session : LancerSession) (write : Option Write) (elapsedMs : Nat) :
    Option LancerSession :=
  match session.encounter with
  | none => some session
  | some encounter =>
      if encounter.active = false ∨ session.stage = .failed then some session
      else
        match session.actors.get encounter.enemyId, session.actors.get encounter.playerId with
        | some enemy, some player =>
            if enemy.health = 0 ∨ player.health = 0 then some session
            else
              match encounter.ai.tick elapsedMs enemy.position player.position with
              | none => some session
              | some (action, proposed) => do
                  let session ← session.actLancer encounter player write elapsedMs action
                  return session.confirm proposed elapsedMs
        | _, _ => some session

def tickLancer (session : LancerSession) (write : Option Write) : Option LancerSession :=
  session.tickLancerAt write
    (session.encounter.elim 0 (fun encounter => elapsedMillis encounter.startedAt session.clock))

/-- Only the fatal shot leaves a row. -/
def recordDeath (session : LancerSession) (targetId : Nat) (write : Option Write)
    (result : DamageResult) : Option LancerSession :=
  if result.killed then
    session.appendEvent write .enemyDied (some targetId) Replay.Lancer.diedText
  else some session

def attackLancer (session : LancerSession) (targetId : Nat) (write : Option Write)
    (elapsedMs : Nat) : Option LancerSession :=
  match session.encounter with
  | none => none
  | some encounter =>
      if encounter.playerId ≠ session.player.actorId ∨ encounter.enemyId ≠ targetId then none
      else do
        let profile ← session.positionedAttackProfile targetId
        let (result, actors, combat) ← session.shoot targetId elapsedMs profile
        let session ← session.recordDeath targetId write result
        let session := { session with actors, combat }
        return if result.killed then
            (session.close { encounter with active := false } .completed).withdraw targetId
          else session

/-- The steps of a session around the Lancer.  Before the encounter is chosen
only the step onto its entrance is followed, and a shot belongs to the
encounter only while it is fought. -/
inductive Step (session next : LancerSession) : Prop
  | move (now : Nat) (position : Position) (allocated : Nat) (write doorWrite : Option Write)
      (later : session.clock ≤ now) (fresh : session.Fresh allocated)
      (chosen : session.encounter.isSome ∨ position = entrance)
      (moved : (session.advance now).movePlayer (handleLancerMovement allocated) position write
        doorWrite allocated = some next)
  | tick (now : Nat) (write : Option Write) (later : session.clock ≤ now)
      (ticked : LancerSession.tickLancer (session.advance now) write = some next)
  | attack (now targetId : Nat) (write : Option Write) (later : session.clock ≤ now)
      (fighting : session.lancerFighting = true)
      (attacked : LancerSession.attackLancer (session.advance now) targetId write
        (elapsedMillis session.combatStarted now) = some next)
  | equip (now : Nat) (item : WeaponItem) (write : Option Write) (later : session.clock ≤ now)
      (equipped : (session.advance now).equipWeapon item write = some next)

end LancerSession
end Gateway
end Revenant
