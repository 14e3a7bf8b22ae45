import Revenant.Challenges.Survival
import Revenant.Persistence.Challenges
import Revenant.Protocol.World
import Revenant.Replay.ChallengeEvidence

namespace Revenant
namespace Gateway
namespace Survival

open Library Ai Revenant.Challenges Revenant.Challenges.Survival Replay Protocol

/-!
# Last Reserve in a gateway session

The gateway plans a step on the accepted world, writes its evidence, and only
then changes its actors and tells the client.  A call answers with the session
it leaves and the messages it broadcast; a call that fails did neither.  The
board the gateway sends after a checkpoint goes to another projection of the
client and is left out here.
-/

structure SurvivalRuntime where
  world : SurvivalRun
  sequence : Nat
  enemyId : Nat

structure Session where
  playerId : Nat
  actors : ActorRegistry
  state : ChallengeState
  survival : SurvivalRuntime

/-! ## Admission -/

/-- What a player asks for when entering the contract. -/
structure ChallengeEntry where
  playerId : Nat
  policy : Policy
  retryRunId : Option Nat
  equipment : Equipment
  contentCapable : Bool

/-- The checks of a prepared entry that concern its save. -/
def prepareChallengeEntry (entry : ChallengeEntry) (state : ChallengeState) : Except String Unit := do
  rejectIf (ContractId.lastReserve.availableIn entry.policy = false)
    "challenge entry requires current solo content"
  rejectIf (state.supportsPolicy entry.policy = false) "challenge save changed; refresh the board"
  match entry.retryRunId with
  | none => return ()
  | some runId =>
      let previous ← require state.latestRun "challenge retry refers to another attempt"
      rejectIf (previous.runId ≠ runId ∨ previous.rules.contract ≠ .lastReserve ∨
        previous.rules.preset ≠ .baseline) "challenge retry refers to another attempt"

def ChallengeEntry.command (entry : ChallengeEntry) : Command :=
  match entry.retryRunId with
  | none => .start .lastReserve entry.equipment
  | some runId => .retry runId entry.equipment

/-- A stored command, with the text of a refusal. -/
def commitCommand (state : ChallengeState) (command : Command) : Except String ChallengeState :=
  match Persistence.commitCommand state command with
  | .ok next => .ok next
  | .error failure => .error failure.text

/-- The admitted player and the save with the run that was started. -/
def commitChallengeEntry (entry : ChallengeEntry) (state : ChallengeState) :
    Except String (Actor × ChallengeState) := do
  prepareChallengeEntry entry state
  match resolvedArsenalProjection entry.equipment.modules true entry.contentCapable (some .m35v2) with
  | .error _ => throw "saved loadout requires the current content client"
  | .ok (_, maxHealth) =>
      let state ← commitCommand state entry.command
      return ({ id := entry.playerId, kind := .player, archetype := "operator", position := spawn
                health := maxHealth, maxHealth }, state)

/-! ## Messages -/

/-- The phase a client is shown. -/
def phaseText (world : SurvivalRun) : String :=
  if world.health = 0 then "defeated"
  else
    match world.phase with
    | .west => "west"
    | .east => "east"
    | .returning => "return"
    | .completed => "completed"

def projectSurvivalState (player : Nat) (proof : SurvivalEvidence) (next : SurvivalRun) :
    ServerMessage :=
  .challengeSurvivalState
    { runId := proof.runId, sequence := proof.sequence, playerActorId := player
      phase := phaseText next, health := next.health, maxHealth := next.maxHealth
      reserveUsed := next.reserveUsed, recoveredHealth := proof.effect.recoveredHealth
      chargeRemainingMs := next.chargeRemainingMs
      recoveryRemainingMs := next.recoveryRemainingMs }

/-- The damage of a step, for the registry and for the client. -/
def projectDamage (player : Nat) (proof : SurvivalEvidence) (next : SurvivalRun)
    (actors : ActorRegistry) : ActorRegistry × List ServerMessage :=
  if proof.effect.incomingDamage > 0 then
    (actors.applyDamage player proof.effect.incomingDamage,
      [.damageApplied
        { sourceActorId := proof.enemyId, targetActorId := player
          damage := proof.effect.incomingDamage, remainingHealth := next.health
          killed := next.health == 0 }])
  else (actors, [])

/-- The move of a living player. -/
def projectMove (player : Nat) (proof : SurvivalEvidence) (next : SurvivalRun)
    (actors : ActorRegistry) : ActorRegistry × List ServerMessage :=
  match proof.action with
  | some (.move _) =>
      if next.health > 0 then
        (actors.updatePosition player next.position,
          [.actorUpdate
            { actorId := player, position := next.position, charge := none, defense := none }])
      else (actors, [])
  | _ => (actors, [])

/-- Recovery is shown by the state alone. -/
def projectRecovery (player : Nat) (proof : SurvivalEvidence) (next : SurvivalRun)
    (actors : ActorRegistry) : ActorRegistry :=
  if proof.effect.recoveredHealth > 0 then
    match actors.get player with
    | some healed => actors.insert { healed with health := next.health }
    | none => actors
  else actors

def projectSurvivalAction (player : Nat) (proof : SurvivalEvidence) (next : SurvivalRun)
    (actors : ActorRegistry) : ActorRegistry × List ServerMessage :=
  let (actors, damage) := projectDamage player proof next actors
  let (actors, move) := projectMove player proof next actors
  let actors := projectRecovery player proof next actors
  (actors, damage ++ move ++ [projectSurvivalState player proof next])

/-! ## Steps -/

/-- The evidence is stored with the checkpoint it reaches, or nothing is.
`stored` is the database's answer. -/
def persistSurvivalProof (state : ChallengeState) (proof : SurvivalEvidence) (stored : Bool) :
    Except String ChallengeState := do
  rejectIf (∀ run ∈ state.active, run.runId ≠ proof.runId ∨ run.rules.contract ≠ .lastReserve)
    "survival step belongs to another active attempt"
  rejectIf (stored = false) "survival step disagrees with accepted world replay"
  match proof.command with
  | none => return state
  | some command => commitCommand state command

/-- The world of a started run, with the sentinel and the first state. -/
def spawnChallengeSurvival (player : Actor) (state : ChallengeState) (enemyId : Nat)
    (stored : Bool) : Except String (Session × List ServerMessage) := do
  let actors := ActorRegistry.empty.insert player
  let run ← require state.active "survival admission missing"
  match SurvivalRun.new run.equipment with
  | .error failure => throw failure.text
  | .ok world =>
      let (actors, enemy) :=
        actors.spawn enemyId .enemy "signal-sentinel" Sentinel.position Sentinel.health
      let proof : SurvivalEvidence :=
        { runId := run.runId, sequence := 1, elapsedMs := 0, enemyId := enemy.id, action := none
          effect := Effect.default }
      let state ← persistSurvivalProof state proof stored
      return ({ playerId := player.id, actors, state
                survival := { world, sequence := 1, enemyId := enemy.id } },
        [actorSpawnMessage player, actorSpawnMessage enemy,
          projectSurvivalState player.id proof world])

/-- The actors are where the accepted world has them. -/
def Session.agreesWith (session : Session) (player : Nat) (actor : Actor) : Prop :=
  player = session.playerId ∧ actor.position = session.survival.world.position ∧
    actor.health = session.survival.world.health ∧
    actor.maxHealth = session.survival.world.maxHealth ∧
    ∃ enemy ∈ session.actors.get session.survival.enemyId, enemy.health = Sentinel.health

instance (session : Session) (player : Nat) (actor : Actor) :
    Decidable (session.agreesWith player actor) :=
  inferInstanceAs (Decidable (_ ∧ _ ∧ _ ∧ _ ∧ _))

def applySurvivalActionAt (session : Session) (player elapsedMs : Nat) (action : Action)
    (stored : Bool) : Except String (Session × List ServerMessage) :=
  match session.state.active with
  | none => .ok (session, [])
  | some run => do
      let survival := session.survival
      let actor ← require (session.actors.get player) "survival player missing"
      rejectIf (¬ session.agreesWith player actor) "survival actors differ from accepted world"
      match survival.world.apply elapsedMs action with
      | .error .invalidMovement => return (session, [])
      | .error _ => throw "survival clock or terminal changed"
      | .ok proposed =>
          rejectIf (survival.sequence + 1 > u64Max) "survival sequence exhausted"
          let proof : SurvivalEvidence :=
            { runId := run.runId, sequence := survival.sequence + 1, elapsedMs
              enemyId := survival.enemyId, action := some action, effect := proposed.effect }
          let state ← persistSurvivalProof session.state proof stored
          let (actors, messages) :=
            projectSurvivalAction player proof proposed.run session.actors
          return ({ session with
              actors, state
              survival := { survival with world := proposed.run, sequence := proof.sequence } },
            messages)

/-- One attempt at a step: by a player, at a time, with the database's answer. -/
structure Attempt where
  player : Nat
  elapsedMs : Nat
  action : Action
  stored : Bool

/-- A call that fails leaves the session as it was and sends nothing. -/
def step (session : Session) (attempt : Attempt) : Session × List ServerMessage :=
  match applySurvivalActionAt session attempt.player attempt.elapsedMs attempt.action
      attempt.stored with
  | .ok answer => answer
  | .error _ => (session, [])

end Survival
end Gateway
end Revenant
