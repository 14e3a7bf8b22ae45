import Revenant.Gateway.Session
import Revenant.Replay.Elite

namespace Revenant
namespace Gateway

open Library Ai Replay

/-!
# The live elite encounter

Every row carries the instant at which the row before it was confirmed, and
the brain is confirmed at the instant its own row is.

A step onto one of the two entrances picks the composition, and its enemies
appear from one row.  A braced guard takes nothing from its front, which the
row of the hit records together with the damage that was dealt.
-/

open Ai.Elite (EliteComposition EliteAction EliteBrain)

structure EliteEncounter where
  composition : EliteComposition
  bulwarkId : Nat
  partnerId : Nat
  playerId : Nat
  active : Bool
  startedAt : Nat
  confirmedMs : Nat
  brain : EliteBrain
  deriving DecidableEq

namespace EliteEncounter

/-- The guard and its partner, on a clone of the registry. -/
def appear (actors : ActorRegistry) (composition : EliteComposition) (bulwarkId partnerId : Nat) :
    ActorRegistry × Actor × Actor :=
  let (actors, guard) :=
    actors.spawn bulwarkId .enemy "steel-bulwark" Ai.Bulwark.spawn Ai.Bulwark.health
  let (archetype, spawn, health) := composition.partner
  let (actors, partner) := actors.spawn partnerId .enemy archetype spawn health
  (actors, guard, partner)

/-- The encounter as its first row leaves it. -/
def begun (composition : EliteComposition) (bulwarkId partnerId playerId startedAt : Nat)
    (brain : EliteBrain) : EliteEncounter :=
  { composition, bulwarkId, partnerId, playerId, active := true, startedAt, confirmedMs := 0
    brain }

/-- The row of this instant is confirmed when its write returns. -/
def confirmed (encounter : EliteEncounter) (clock elapsedMs : Nat) : EliteEncounter :=
  { encounter with confirmedMs := max (elapsedMillis encounter.startedAt clock) elapsedMs }

/-- A braced guard takes nothing from its front. -/
def dealt (encounter : EliteEncounter) (targetId : Nat) (position : Position) (damage : Nat) :
    Nat :=
  if targetId = encounter.bulwarkId ∧ encounter.brain.defense.blocks Ai.Bulwark.spawn position
  then 0 else damage

end EliteEncounter

abbrev EliteSession := Session EliteEncounter

namespace EliteSession

def eliteFighting (session : EliteSession) : Bool := session.encounter.any (·.active)

/-- Store one row and remember when it was confirmed. -/
def recordElite (session : EliteSession) (encounter : EliteEncounter) (write : Option Write)
    (elapsedMs : Nat) (transition : EliteTransition) (death : Option Nat) :
    Option (EliteEncounter × EliteSession) := do
  let session ← session.appendEvent write (if death.isSome then .enemyDied else .fieldActivity)
    (some (death.getD encounter.playerId))
    (.elite (encodeEliteEvidence ⟨elapsedMs, encounter.confirmedMs, transition⟩))
  let encounter := encounter.confirmed session.clock elapsedMs
  return (encounter, { session with encounter := some encounter })

def finishElite (session : EliteSession) (encounter : EliteEncounter) (state : EncounterState) :
    EliteSession :=
  ((session.close { encounter with active := false } state).withdraw encounter.bulwarkId).withdraw
    encounter.partnerId

/-- Both enemies appear from one durable row.  The counter's identifiers always
make a brain; the source asserts it after the row. -/
def spawnEliteEncounter (session : EliteSession) (composition : EliteComposition)
    (bulwarkId partnerId : Nat) (write : Option Write) : Option EliteSession := do
  let (actors, guard, partner) :=
    EliteEncounter.appear session.actors composition bulwarkId partnerId
  let player ← actors.get session.player.actorId
  let session ← session.appendEvent write .enemySpawned (some guard.id)
    (.elite (encodeEliteEvidence
      ⟨0, 0, .started composition.id guard.id partner.id player.health⟩))
  let brain ← EliteBrain.new composition guard.id partner.id
  return { session with
    choiceOpen := false, actors, enemyId := some guard.id, combat := .default
    combatStarted := session.clock, objective := some .active
    encounter := some
      (.begun composition guard.id partner.id session.player.actorId session.clock brain) }

/-- The composition whose entrance the player steps onto. -/
def chosenComposition (position : Position) : Option EliteComposition :=
  [EliteComposition.bastionLink, .crossedGuard].find? (fun composition =>
    composition.entrance = position)

/-- `true` when the encounter keeps the player's step. -/
def handleEliteMovement (bulwarkId partnerId : Nat) (session : EliteSession)
    (position : Position) (write : Option Write) : Option (Bool × EliteSession) :=
  match session.encounter with
  | some encounter =>
      if encounter.active then
        if Ai.Bulwark.arenaContains position then some (true, session)
        else do
          let (encounter, session) ← recordElite session encounter write
            (elapsedMillis encounter.startedAt session.clock) .abandoned none
          return (false, finishElite session encounter .failed)
      else some (false, session)
  | none =>
      match chosenComposition position with
      | none => some (false, session)
      | some composition =>
          if session.stage = .door ∧ session.player.eliteCapable ∧ session.choiceOpen then do
            let session ← session.spawnEliteEncounter composition bulwarkId partnerId write
            return (true, session)
          else some (false, session)

/-- What an action does once it is recorded and its brain adopted. -/
def actElite (session : EliteSession) (encounter : EliteEncounter) (player : Actor)
    (action : EliteAction) : EliteSession :=
  match action with
  | .defense (.brace _) => session
  | .defense (.slam _ damage) =>
      session.hurtPlayer { encounter with active := false } encounter.playerId player.health damage
  | .charge (.windup _ _) => session
  | .charge (.resolved _ target damage) =>
      ({ session with
        actors := session.actors.updatePosition encounter.partnerId target }).hurtPlayer
          { encounter with active := false } encounter.playerId player.health damage
  | .repair repair =>
      match session.actors.get repair.targetId with
      | none => session
      | some healed =>
          { session with
            actors := session.actors.insert { healed with health := repair.healthAfter } }

def tickEliteAt (session : EliteSession) (write : Option Write) (elapsedMs : Nat) :
    Option EliteSession :=
  match session.encounter with
  | none => some session
  | some encounter =>
      if encounter.active = false ∨ session.stage = .failed then some session
      else
        match session.actors.get encounter.playerId with
        | none => some session
        | some player =>
            match encounter.brain.tick elapsedMs (session.actors.get encounter.bulwarkId)
                (session.actors.get encounter.partnerId) player with
            | none => some session
            | some (action, proposed) => do
                let (encounter, session) ← recordElite session encounter write elapsedMs
                  (.step player.position (EliteStep.fromAction action player.health)) none
                let encounter :=
                  { encounter with brain := proposed.confirmAt action encounter.confirmedMs }
                return actElite { session with encounter := some encounter } encounter player action

def tickElite (session : EliteSession) (write : Option Write) : Option EliteSession :=
  session.tickEliteAt write
    (session.encounter.elim 0 (fun encounter => elapsedMillis encounter.startedAt session.clock))

/-- The surviving enemy the session points at after a kill. -/
def survivor (session : EliteSession) (encounter : EliteEncounter) : Option Nat :=
  [encounter.bulwarkId, encounter.partnerId].find? (fun actorId =>
    (session.actors.get actorId).isSome)

def attackElite (session : EliteSession) (targetId : Nat) (write : Option Write)
    (elapsedMs : Nat) : Option EliteSession :=
  match session.encounter with
  | none => none
  | some encounter =>
      if encounter.playerId ≠ session.player.actorId ∨
          (encounter.bulwarkId ≠ targetId ∧ encounter.partnerId ≠ targetId) then none
      else do
        let player ← session.actors.get session.player.actorId
        let profile ← session.positionedAttackProfile targetId
        let (result, actors, combat) ← session.shoot targetId elapsedMs
          { profile with damage := encounter.dealt targetId player.position profile.damage }
        let target ← session.actors.get targetId
        let (encounter, session) ← recordElite session encounter write elapsedMs
          (.attack targetId player.position result.damage target.health result.remainingHealth)
          (if result.killed then some targetId else none)
        let session : EliteSession := { session with actors, combat }
        if result.killed then
          let encounter :=
            { encounter with brain := encounter.brain.retire targetId encounter.confirmedMs }
          let session := { session with encounter := some encounter }.withdraw targetId
          let session := { session with enemyId := survivor session encounter }
          return if session.enemyId = none then finishElite session encounter .completed
            else session
        else return session

/-- The steps of a session around the elite encounter.  Before the encounter is
chosen only the step onto one of its entrances is followed, and a shot belongs
to the encounter only while it is fought.  No row names the partner, so that
its identifier stays taken is said here. -/
inductive Step (session next : EliteSession) : Prop
  | move (now : Nat) (position : Position) (allocated partnerId : Nat)
      (write doorWrite : Option Write) (later : session.clock ≤ now)
      (fresh : session.Fresh allocated) (freshPartner : session.Fresh partnerId)
      (distinct : allocated ≠ partnerId)
      (unused : ∀ encounter ∈ session.encounter, allocated ≠ encounter.partnerId)
      (chosen : session.encounter.isSome ∨ (chosenComposition position).isSome)
      (moved : (session.advance now).movePlayer (handleEliteMovement allocated partnerId) position
        write doorWrite allocated = some next)
  | tick (now : Nat) (write : Option Write) (later : session.clock ≤ now)
      (ticked : EliteSession.tickElite (session.advance now) write = some next)
  | attack (now targetId : Nat) (write : Option Write) (later : session.clock ≤ now)
      (fighting : session.eliteFighting = true)
      (attacked : EliteSession.attackElite (session.advance now) targetId write
        (elapsedMillis session.combatStarted now) = some next)
  | equip (now : Nat) (item : WeaponItem) (write : Option Write) (later : session.clock ≤ now)
      (equipped : (session.advance now).equipWeapon item write = some next)

end EliteSession
end Gateway
end Revenant
