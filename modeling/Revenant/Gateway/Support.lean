import Revenant.Gateway.Session
import Revenant.Replay.Support

namespace Revenant
namespace Gateway

open Library Ai Replay

/-!
# The live support encounter

One tick may write two rows: the Lancer's charge first, then the mender's
repair.  A repair whose write is refused leaves the charge in place.

Both enemies appear from one row.  The charge and the repair have a brain
each; a proposed one is adopted when its row is stored, at the time at which
that write returned.
-/

structure SupportEncounter where
  lancerId : Nat
  menderId : Nat
  playerId : Nat
  active : Bool
  startedAt : Nat
  chargeAi : Ai.Lancer.GlassLancer
  repairAi : Ai.Support.RelayMender
  deriving DecidableEq

namespace SupportEncounter

/-- Both enemies, on a clone of the registry. -/
def appear (actors : ActorRegistry) (lancerId menderId : Nat) : ActorRegistry × Actor × Actor :=
  let (actors, lancer) :=
    actors.spawn lancerId .enemy "glass-lancer" Ai.Lancer.spawn Ai.Lancer.health
  let (actors, mender) :=
    actors.spawn menderId .enemy "relay-mender" Ai.Support.spawn Ai.Support.health
  (actors, lancer, mender)

/-- The encounter as its first row leaves it. -/
def begun (lancerId menderId playerId startedAt : Nat) : SupportEncounter :=
  { lancerId, menderId, playerId, active := true, startedAt
    chargeAi := .default, repairAi := .default }

/-- Adopt the proposed charge, confirmed at the time its write returned. -/
def confirmCharge (encounter : SupportEncounter) (proposed : Ai.Lancer.GlassLancer)
    (clock elapsedMs : Nat) : SupportEncounter :=
  { encounter with
    chargeAi := proposed.confirmAt (max (elapsedMillis encounter.startedAt clock) elapsedMs) }

def confirmRepair (encounter : SupportEncounter) (proposed : Ai.Support.RelayMender)
    (clock elapsedMs : Nat) : SupportEncounter :=
  { encounter with
    repairAi := proposed.confirmAt (max (elapsedMillis encounter.startedAt clock) elapsedMs) }

end SupportEncounter

abbrev SupportSession := Session SupportEncounter

namespace SupportSession

open Ai.Lancer (GlassLancer ChargeAction)
open Ai.Support (RelayMender RepairAction)

def supportFighting (session : SupportSession) : Bool := session.encounter.any (·.active)

/-- A fatal hit and its death share one durable row. -/
def recordSupport (session : SupportSession) (encounter : SupportEncounter) (write : Option Write)
    (elapsedMs : Nat) (transition : SupportTransition) (death : Option Nat) :
    Option SupportSession :=
  session.appendEvent write (if death.isSome then .enemyDied else .fieldActivity)
    (some (death.getD encounter.playerId)) (.support (encodeSupportEvidence ⟨elapsedMs, transition⟩))

def finishSupport (session : SupportSession) (encounter : SupportEncounter)
    (state : EncounterState) : SupportSession :=
  ((session.close { encounter with active := false } state).withdraw encounter.lancerId).withdraw
    encounter.menderId

/-- Both enemies appear from one durable row. -/
def spawnSupportEncounter (session : SupportSession) (lancerId menderId : Nat)
    (write : Option Write) : Option SupportSession := do
  let (actors, lancer, mender) := SupportEncounter.appear session.actors lancerId menderId
  let player ← actors.get session.player.actorId
  let session ← session.appendEvent write .enemySpawned (some lancer.id)
    (.support (encodeSupportEvidence ⟨0, .started lancer.id mender.id player.health⟩))
  return { session with
    choiceOpen := false, actors, enemyId := some lancer.id, combat := .default
    combatStarted := session.clock, objective := some .active
    encounter := some (.begun lancer.id mender.id session.player.actorId session.clock) }

/-- `true` when the encounter keeps the player's step. -/
def handleSupportMovement (lancerId menderId : Nat) (session : SupportSession)
    (position : Position) (write : Option Write) : Option (Bool × SupportSession) :=
  match session.encounter with
  | some encounter =>
      if encounter.active then
        if Ai.Lancer.arenaContains position then some (true, session)
        else do
          let session ← session.recordSupport encounter write
            (elapsedMillis encounter.startedAt session.clock) .abandoned none
          return (false, session.finishSupport encounter .failed)
      else some (false, session)
  | none =>
      if session.stage = .door ∧ session.player.supportCapable ∧ session.choiceOpen ∧
          position = Ai.Support.entrance then do
        let session ← session.spawnSupportEncounter lancerId menderId write
        return (true, session)
      else some (false, session)

def confirmCharge (session : SupportSession) (proposed : GlassLancer) (elapsedMs : Nat) :
    SupportSession :=
  { session with
    encounter := session.encounter.map (fun encounter =>
      encounter.confirmCharge proposed session.clock elapsedMs) }

def confirmRepair (session : SupportSession) (proposed : RelayMender) (elapsedMs : Nat) :
    SupportSession :=
  { session with
    encounter := session.encounter.map (fun encounter =>
      encounter.confirmRepair proposed session.clock elapsedMs) }

/-- What a proposed charge action does once it is recorded. -/
def actCharge (session : SupportSession) (encounter : SupportEncounter) (player : Actor)
    (write : Option Write) (elapsedMs : Nat) (action : ChargeAction) : Option SupportSession :=
  match action with
  | .windup origin target =>
      session.recordSupport encounter write elapsedMs (.windup player.position origin target) none
  | .resolved origin target damage => do
      let session ← session.recordSupport encounter write elapsedMs
        (.charged player.position origin target damage (player.health - damage)) none
      let session :=
        { session with actors := session.actors.updatePosition encounter.lancerId target }
      return session.hurtPlayer { encounter with active := false } encounter.playerId player.health
        damage

def tickSupportCharge (session : SupportSession) (encounter : SupportEncounter)
    (write : Option Write) (elapsedMs : Nat) : Option SupportSession :=
  match session.actors.get encounter.lancerId, session.actors.get encounter.playerId with
  | some enemy, some player =>
      if enemy.health = 0 ∨ player.health = 0 then some session
      else
        match encounter.chargeAi.tick elapsedMs enemy.position player.position with
        | none => some session
        | some (action, proposed) => do
            let session ← session.actCharge encounter player write elapsedMs action
            return session.confirmCharge proposed elapsedMs
  | _, _ => some session

/-- The second half of `tick_support_at`. -/
def tickSupportRepair (session : SupportSession) (encounter : SupportEncounter)
    (write : Option Write) (elapsedMs : Nat) : Option SupportSession :=
  match session.actors.get encounter.menderId, session.actors.get encounter.lancerId with
  | some source, some target =>
      match encounter.repairAi.tick elapsedMs source [target] with
      | none => some session
      | some (action, proposed) => do
          let session ← session.recordSupport encounter write elapsedMs
            (.repaired action.targetId action.amount action.healthBefore action.healthAfter) none
          let session : SupportSession :=
            { session with
              actors := session.actors.insert { target with health := action.healthAfter } }
          return SupportSession.confirmRepair session proposed elapsedMs
  | _, _ => some session

def tickSupportAt (session : SupportSession) (write repairWrite : Option Write)
    (elapsedMs : Nat) : Option SupportSession :=
  match session.encounter with
  | none => some session
  | some encounter =>
      if encounter.active = false ∨ session.stage = .failed then some session
      else do
        let session ← session.tickSupportCharge encounter write elapsedMs
        match session.encounter with
        | none => return session
        | some encounter =>
            if encounter.active = false then return session
            else return (session.tickSupportRepair encounter repairWrite elapsedMs).getD session

def tickSupport (session : SupportSession) (write repairWrite : Option Write) :
    Option SupportSession :=
  session.tickSupportAt write repairWrite
    (session.encounter.elim 0 (fun encounter => elapsedMillis encounter.startedAt session.clock))

/-- The surviving enemy the session points at after a kill. -/
def survivor (session : SupportSession) (encounter : SupportEncounter) : Option Nat :=
  [encounter.lancerId, encounter.menderId].find? (fun actorId =>
    (session.actors.get actorId).isSome)

def attackSupport (session : SupportSession) (targetId : Nat) (write : Option Write)
    (elapsedMs : Nat) : Option SupportSession :=
  match session.encounter with
  | none => none
  | some encounter =>
      if encounter.playerId ≠ session.player.actorId ∨
          (encounter.lancerId ≠ targetId ∧ encounter.menderId ≠ targetId) then none
      else do
        let profile ← session.positionedAttackProfile targetId
        let (result, actors, combat) ← session.shoot targetId elapsedMs profile
        let player ← session.actors.get session.player.actorId
        let target ← session.actors.get targetId
        let session ← session.recordSupport encounter write elapsedMs
          (.attack targetId player.position result.damage target.health result.remainingHealth)
          (if result.killed then some targetId else none)
        let session := { session with actors, combat }
        if result.killed then
          let session := session.withdraw targetId
          let session := { session with enemyId := SupportSession.survivor session encounter }
          return if session.enemyId = none then session.finishSupport encounter .completed
            else session
        else return session

/-- The steps of a session around the support encounter.  Before the encounter
is chosen only the step onto its entrance is followed, and a shot belongs to
the encounter only while it is fought.  No row names the mender, so that its
identifier stays taken is said here. -/
inductive Step (session next : SupportSession) : Prop
  | move (now : Nat) (position : Position) (allocated menderId : Nat)
      (write doorWrite : Option Write) (later : session.clock ≤ now)
      (fresh : session.Fresh allocated) (freshMender : session.Fresh menderId)
      (distinct : allocated ≠ menderId)
      (unused : ∀ encounter ∈ session.encounter, allocated ≠ encounter.menderId)
      (chosen : session.encounter.isSome ∨ position = Ai.Support.entrance)
      (moved : (session.advance now).movePlayer (handleSupportMovement allocated menderId) position
        write doorWrite allocated = some next)
  | tick (now : Nat) (write repairWrite : Option Write) (later : session.clock ≤ now)
      (ticked : SupportSession.tickSupport (session.advance now) write repairWrite = some next)
  | attack (now targetId : Nat) (write : Option Write) (later : session.clock ≤ now)
      (fighting : session.supportFighting = true)
      (attacked : SupportSession.attackSupport (session.advance now) targetId write
        (elapsedMillis session.combatStarted now) = some next)
  | equip (now : Nat) (item : WeaponItem) (write : Option Write) (later : session.clock ≤ now)
      (equipped : (session.advance now).equipWeapon item write = some next)

end SupportSession
end Gateway
end Revenant
