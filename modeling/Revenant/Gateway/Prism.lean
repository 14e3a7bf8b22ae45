import Revenant.Gateway.Session
import Revenant.Replay.Prism

namespace Revenant
namespace Gateway

open Library Ai Replay

/-!
# The live Prism encounter

The encounter takes the place of the mission's boss: its fatal hit completes
the activity.  The death is durable before the completion is, so a completion
that fails is retried by later ticks and attacks until it is stored.

A player who leaves the arena gives the mission its door back, and the boss is
gone.  `Completion` is the answer of the database to one try: which of the
rows of the completion and of the rewards it stored, and when.
-/

open Ai.Prism (PrismAction PrismWarden)

/-- `Fatal` is what the session keeps of a fatal hit whose completion is owed. -/
structure PrismEncounter (Fatal : Type) where
  bossId : Nat
  playerId : Nat
  active : Bool
  startedAt : Nat
  confirmedMs : Nat
  brain : PrismWarden
  /-- The fatal hit is stored, the completion is not. -/
  pendingFatal : Fatal
  deriving DecidableEq

namespace PrismEncounter

variable {Fatal : Type}

/-- The encounter as its first row leaves it. -/
def begun (bossId playerId startedAt : Nat) (pendingFatal : Fatal) : PrismEncounter Fatal :=
  { bossId, playerId, active := true, startedAt, confirmedMs := 0, brain := .default
    pendingFatal }

/-- The row of this instant is confirmed when its write returns. -/
def confirmed (encounter : PrismEncounter Fatal) (clock elapsedMs : Nat) :
    PrismEncounter Fatal :=
  { encounter with confirmedMs := max (elapsedMillis encounter.startedAt clock) elapsedMs }

end PrismEncounter

/-- An activity's completion is retried without the hit that it follows. -/
abbrev MissionPrism := PrismEncounter Bool

abbrev PrismSession := Session MissionPrism

/-- The rows of one participant's rewards. -/
structure Rewards where
  lootRow : Int
  loot : String
  progressionRow : Int
  progression : String
  deriving DecidableEq, Repr

/-- The database's answer to a completion.  `rewards` is empty when they were
granted before, and `told` is false when a value does not fit its message. -/
structure Completion where
  completedRow : Int
  rewards : Option Rewards
  returned : Nat
  told : Bool
  deriving DecidableEq, Repr

namespace PrismSession

def prismFighting (session : PrismSession) : Bool := session.encounter.any (·.active)

/-- Store one row and remember when it was confirmed. -/
def recordPrism (session : PrismSession) (encounter : MissionPrism) (write : Option Write)
    (elapsedMs : Nat) (transition : PrismTransition) (death : Bool) :
    Option (MissionPrism × PrismSession) := do
  let session ← session.appendEvent write (if death then .enemyDied else .fieldActivity)
    (some (if death then encounter.bossId else encounter.playerId))
    (.prism (encodePrismEvidence ⟨elapsedMs, encounter.confirmedMs, transition⟩))
  let encounter := encounter.confirmed session.clock elapsedMs
  return (encounter, { session with encounter := some encounter })

def spawnPrismEncounter (session : PrismSession) (allocated : Nat) (write : Option Write) :
    Option PrismSession := do
  let (actors, boss) :=
    session.actors.spawn allocated .enemy "prism-warden" Ai.Prism.spawn Ai.Prism.health
  let player ← actors.get session.player.actorId
  let session ← session.appendEvent write .bossSpawned (some boss.id)
    (.prism (encodePrismEvidence ⟨0, 0, .started boss.id player.health⟩))
  return { session with
    choiceOpen := false, actors, stage := .boss, enemyId := some boss.id, combat := .default
    combatStarted := session.clock, objective := some .active
    encounter := some (.begun boss.id session.player.actorId session.clock false) }

/-- `true` when the encounter keeps the player's step.  Leaving the arena gives
the mission its door back. -/
def handlePrismMovement (allocated : Nat) (session : PrismSession) (position : Position)
    (write : Option Write) : Option (Bool × PrismSession) :=
  match session.encounter with
  | some encounter =>
      if encounter.active then
        if encounter.pendingFatal ∨ Ai.Prism.arenaContains position then some (true, session)
        else do
          let (encounter, session) ← recordPrism session encounter write
            (elapsedMillis encounter.startedAt session.clock) .abandoned false
          let session := session.close { encounter with active := false } .failed
          return (false, { session.withdraw encounter.bossId with stage := .door })
      else some (false, session)
  | none =>
      if session.stage = .door ∧ session.player.prismCapable ∧ session.choiceOpen ∧
          position = Ai.Prism.entrance then do
        let session ← session.spawnPrismEncounter allocated write
        return (true, session)
      else some (false, session)

/-- The completion row, unless the session has one. -/
def storeCompletion (session : PrismSession) (completion : Completion) : Option PrismSession :=
  if session.journal.any (fun event => event.kind = .activityCompleted) then some session
  else
    session.appendEvent (some ⟨completion.completedRow, completion.returned⟩) .activityCompleted
      none (.text "activity completed")

/-- The rows of the rewards that are still owed. -/
def storeRewards (session : PrismSession) (completion : Completion) : Option PrismSession :=
  match completion.rewards with
  | none => some session
  | some rewards => do
      let session ← session.appendEvent (some ⟨rewards.lootRow, completion.returned⟩) .lootGranted
        (some session.player.actorId) (.text rewards.loot)
      session.appendEvent (some ⟨rewards.progressionRow, completion.returned⟩) .progressionGranted
        (some session.player.actorId) (.text rewards.progression)

/-- `complete_activity` of a solo mission: one transaction stores both. -/
def completeActivity (session : PrismSession) (completion : Completion) : Option PrismSession := do
  let session ← storeCompletion session completion
  let session ← storeRewards session completion
  return { session with stage := .complete, enemyId := none }

/-- Death is already durable; only the completion is tried. -/
def finishPrism (session : PrismSession) (encounter : MissionPrism)
    (completion : Option Completion) : PrismSession :=
  match completion with
  | none => session
  | some completion =>
      match completeActivity session completion with
      | none => session
      | some session =>
          -- The session is complete even when a reward cannot be told.
          if completion.told then
            (session.close { encounter with active := false, pendingFatal := false }
              .completed).withdraw encounter.bossId
          else session

def tickPrismAt (session : PrismSession) (write : Option Write) (completion : Option Completion)
    (elapsedMs : Nat) : Option PrismSession :=
  match session.encounter with
  | none => some session
  | some encounter =>
      if encounter.active = false ∨ session.stage = .failed then some session
      else if encounter.pendingFatal then some (finishPrism session encounter completion)
      else do
        let player ← session.actors.get encounter.playerId
        if player.health = 0 then return session
        let boss ← session.actors.get encounter.bossId
        match encounter.brain.tick elapsedMs boss.health player.position with
        | none => return session
        | some (action, proposed) =>
            let (encounter, session) ← recordPrism session encounter write elapsedMs
              (.step player.position (PrismStep.fromAction action player.health)) false
            let encounter := { encounter with brain := proposed.confirmAt encounter.confirmedMs }
            let session : PrismSession := { session with encounter := some encounter }
            match action with
            | .warning _ => return session
            | .resolved _ damage =>
                return session.hurtPlayer { encounter with active := false } encounter.playerId
                  player.health damage

def tickPrism (session : PrismSession) (write : Option Write) (completion : Option Completion) :
    Option PrismSession :=
  session.tickPrismAt write completion
    (session.encounter.elim 0 (fun encounter => elapsedMillis encounter.startedAt session.clock))

def attackPrism (session : PrismSession) (targetId : Nat) (write : Option Write)
    (completion : Option Completion) (elapsedMs : Nat) : Option PrismSession :=
  match session.encounter with
  | none => none
  | some encounter =>
      if encounter.playerId ≠ session.player.actorId ∨ encounter.bossId ≠ targetId then none
      else if encounter.pendingFatal then some (finishPrism session encounter completion)
      else do
        let player ← session.actors.get session.player.actorId
        if ¬ Ai.Prism.arenaContains player.position then none
        let target ← session.actors.get targetId
        let profile ← session.positionedAttackProfile targetId
        let (hit, brain) ← encounter.brain.hit elapsedMs target.health profile.damage
        let (result, actors, combat) ←
          session.shoot targetId elapsedMs { profile with damage := hit.damage }
        let (encounter, session) ← recordPrism session encounter write elapsedMs
          (.attack player.position result.damage target.health result.remainingHealth
            hit.phaseChanged) result.killed
        let brain := if hit.phaseChanged then brain.confirmAt encounter.confirmedMs else brain
        let encounter := { encounter with brain, pendingFatal := result.killed }
        let session : PrismSession := { session with actors, combat, encounter := some encounter }
        return if result.killed then finishPrism session encounter completion else session

/-- The steps of a session around the Prism encounter.  Before the encounter is
chosen only the step onto its entrance is followed, and a shot belongs to the
encounter only while it is fought. -/
inductive Step (session next : PrismSession) : Prop
  | move (now : Nat) (position : Position) (allocated : Nat) (write doorWrite : Option Write)
      (later : session.clock ≤ now) (fresh : session.Fresh allocated)
      (chosen : session.encounter.isSome ∨ position = Ai.Prism.entrance)
      (moved : (session.advance now).movePlayer (handlePrismMovement allocated) position write
        doorWrite allocated = some next)
  | tick (now : Nat) (write : Option Write) (completion : Option Completion)
      (later : session.clock ≤ now)
      (ticked : PrismSession.tickPrism (session.advance now) write completion = some next)
  | attack (now targetId : Nat) (write : Option Write) (completion : Option Completion)
      (later : session.clock ≤ now) (fighting : session.prismFighting = true)
      (attacked : PrismSession.attackPrism (session.advance now) targetId write completion
        (elapsedMillis session.combatStarted now) = some next)
  | equip (now : Nat) (item : WeaponItem) (write : Option Write) (later : session.clock ≤ now)
      (equipped : (session.advance now).equipWeapon item write = some next)

end PrismSession
end Gateway
end Revenant
