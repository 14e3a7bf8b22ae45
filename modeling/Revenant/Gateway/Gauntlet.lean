import Revenant.Challenges.Gauntlet
import Revenant.Gateway.Elite
import Revenant.Gateway.Prism
import Revenant.Gateway.Support
import Revenant.Gateway.Survival
import Revenant.Replay.ChallengeProofs

namespace Revenant
namespace Gateway
namespace Gauntlet

open Library Revenant.Challenges Revenant.Challenges.Gauntlet Protocol Replay

/-!
# Relay Gauntlet in a gateway session

The contract plays the retained encounters and records each of their rows as a
step of its own.  A session keeps every message it broadcast in `sent`, so an
operation is a function from session to session, and an error is an operation
the gateway refused.

Writes succeed here, each after some time.  The board, the objectives of the
encounters and the Prism's own state go to other projections of the client and
are left out.
-/

structure GauntletRuntime where
  world : GauntletRun
  sequence : Nat
  startedAt : Nat
  lastElapsedMs : Nat
  encounterStartedMs : Nat
  pendingSpawn : Bool
  lastStage : Stage
  recoveredHealth : Nat

namespace GauntletRuntime

def start (world : GauntletRun) (first : Stage) (clock : Nat) : GauntletRuntime :=
  { world, sequence := 0, startedAt := clock, lastElapsedMs := 0, encounterStartedMs := 0
    pendingSpawn := true, lastStage := first, recoveredHealth := 0 }

/-- The clock of a run never goes back. -/
def elapsed (runtime : GauntletRuntime) (clock : Nat) : Nat :=
  max (elapsedMillis runtime.startedAt clock) runtime.lastElapsedMs

end GauntletRuntime

/-- An attempt keeps the message of the fatal hit until its completion is told. -/
abbrev StagePrism := PrismEncounter (Option ServerMessage)

/-- `clock` is the instant up to which the session has run, and `lastActorId`
the last identifier it took from the counter that all sessions share. -/
structure Session where
  player : Participant
  stage : SessionStage
  actors : ActorRegistry
  combat : CombatRuntime
  combatStarted : Nat
  support : Option SupportEncounter
  elite : Option EliteEncounter
  prism : Option StagePrism
  state : ChallengeState
  gauntlet : GauntletRuntime
  clock : Nat
  lastActorId : Nat
  sent : List ServerMessage

/-- What the world outside decides during one call: how long its writes take,
and how many identifiers other sessions take before each of its own. -/
structure Pace where
  firstWrite : Nat
  secondWrite : Nat
  firstSkipped : Nat
  secondSkipped : Nat

/-! ## What a state shows -/

def stageNumber : Stage → Nat
  | .support => 1
  | .bastion => 2
  | .prism => 3

def shownStage (runtime : GauntletRuntime) : Stage :=
  match runtime.world.phase with
  | .combat stage | .transfer stage => stage
  | .completed => .prism
  | .defeated => runtime.lastStage

def phaseText (phase : Phase) : String :=
  match phase with
  | .combat _ => "combat"
  | .transfer _ => "transfer"
  | .completed => "completed"
  | .defeated => "defeated"

def lastOutcome (state : ChallengeState) : Option Outcome :=
  state.lastResult.map AttemptResult.outcome

/-- An attempt that was given up shows how, whatever its phase was. -/
def shownPhase (state : ChallengeState) (phase : Phase) : String :=
  if state.active.isSome then phaseText phase
  else
    match lastOutcome state with
    | some .abandoned => "abandoned"
    | some .interrupted => "interrupted"
    | _ => phaseText phase

/-- What the state shows of a preset that is not the baseline. -/
def shownModifier (state : ChallengeState) (preset : Preset) (runtime : GauntletRuntime) :
    Option ChallengeGauntletModifier :=
  if preset = .baseline then none
  else
    some
      { presetId := preset.asStr
        stageIndex := preset.gauntletStages.idxOf (shownStage runtime) + 1
        reserveUsed := runtime.world.reserveUsed
        reserveRemainingMs := if state.active.isSome then runtime.world.reserveRemainingMs else none
        elapsedMs := runtime.lastElapsedMs }

def gauntletState (state : ChallengeState) (run : Challenges.ChallengeRun) (runtime : GauntletRuntime)
    (playerId : Nat) (player : Actor) : ChallengeGauntletState :=
  { runId := run.runId, sequence := runtime.sequence, playerActorId := playerId
    modifier := shownModifier state run.rules.preset runtime
    stage := stageNumber (shownStage runtime)
    phase := shownPhase state runtime.world.phase
    health := player.health, maxHealth := player.maxHealth
    recoveredHealth := runtime.recoveredHealth
    transferRemainingMs :=
      if state.active.isSome then runtime.world.transferRemainingMs else none }

/-! ## Rows and steps -/

/-- The save after a stored step: the checkpoint it reaches, if it reaches one. -/
def applyChallengeGauntletStep (state : ChallengeState) (proof : GauntletEvidence) :
    Except String ChallengeState := do
  let run ← require state.active "gauntlet step belongs to another active attempt"
  rejectIf (run.runId ≠ proof.runId ∨ run.rules.contract ≠ .relayGauntlet)
    "gauntlet step belongs to another active attempt"
  match proof.commandFor run.rules with
  | none => return state
  | some command => Survival.commitCommand state command

/-- The encounter's own time of a row. -/
def nestedTime : GauntletAction → Nat
  | .support evidence => evidence.elapsedMs
  | .elite evidence => evidence.elapsedMs
  | .prism evidence => evidence.elapsedMs
  | .move _ | .observe => 0

/-- The player's health after a row: the rows of a hit carry it. -/
def healthAfter (action : GauntletAction) (health : Nat) : Nat :=
  match action with
  | .support { transition := .charged _ _ _ _ healthAfter, .. } => healthAfter
  | .elite { transition := .step _ (.slam _ _ healthAfter), .. } => healthAfter
  | .prism { transition := .step _ (.resolved _ _ healthAfter), .. } => healthAfter
  | _ => health

def noEffect : GauntletEffect :=
  { cleared := none, defeated := false, recoveredHealth := 0, nextStage := none }

/-- The world after a row that ends its encounter, and the unchanged one after
any other. -/
def finished (world : GauntletRun) (elapsedMs : Nat) (stage : Stage) (cleared : Bool)
    (health : Nat) : Except String GauntletRun :=
  if cleared = true ∨ health = 0 then
    match world.finishEncounter elapsedMs stage health with
    | .ok next => .ok next
    | .error _ => .error "invalid gauntlet terminal"
  else .ok world

/-- The place an action leads to, or a refusal; a step off the stage is ignored. -/
def spatialTarget (world : GauntletRun) (stage : Stage) (position : Position)
    (action : GauntletAction) : Except String (Option Position) :=
  match action, world.phase with
  | .move next, _ =>
      if ¬ stage.walkable next ∨ position.stepDistance next ≠ 1 then .ok none else .ok (some next)
  | .observe, .transfer _ => .ok (some position)
  | _, _ => .error "invalid gauntlet spatial action"

/-- The world after an observation during a transfer. -/
def observed (world : GauntletRun) (elapsedMs : Nat) (position : Position) :
    Except String TransferUpdate :=
  match world.phase with
  | .transfer _ =>
      match world.observeAt elapsedMs position with
      | .ok update => .ok update
      | .error _ => .error "invalid gauntlet transfer clock"
  | _ => .ok { run := world, recoveredHealth := 0, nextStage := none }

/-- A stage that opens moves the player to its entrance and owes its enemies. -/
def opened (runtime : GauntletRuntime) (update : TransferUpdate) : GauntletRuntime :=
  match update.nextStage with
  | some next => { runtime with world := update.run, pendingSpawn := true, lastStage := next }
  | none => { runtime with world := update.run }

def isMove : GauntletAction → Bool
  | .move _ => true
  | _ => false

/-- The stage an attempt plays, while it plays one. -/
def playedStage (world : GauntletRun) : Option Stage :=
  match world.phase with
  | .combat stage | .transfer stage => some stage
  | _ => none

def inTransfer (world : GauntletRun) : Bool :=
  match world.phase with
  | .transfer _ => true
  | _ => false

/-- The player's actor differs from the accepted world. -/
def strayed (world : GauntletRun) (player : Actor) : Prop :=
  player.maxHealth ≠ world.maxHealth ∨ (inTransfer world = true ∧ player.health ≠ world.health)

instance (world : GauntletRun) (player : Actor) : Decidable (strayed world player) :=
  inferInstanceAs (Decidable (_ ∨ (_ ∧ _)))

namespace Session

def broadcast (session : Session) (message : ServerMessage) : Session :=
  { session with sent := session.sent ++ [message] }

def own (session : Session) : Option Actor := session.actors.get session.player.actorId

/-! ## The projection -/

def projectGauntlet (session : Session) : Session :=
  match session.state.latestRun, session.own with
  | some run, some player =>
      session.broadcast (.challengeGauntletState
        (gauntletState session.state run session.gauntlet session.player.actorId player))
  | _, _ => session

/-- An ended attempt ends the session's stage with it. -/
def projectChallenge (session : Session) : Session :=
  let stage :=
    if session.state.active.isSome then session.stage
    else if lastOutcome session.state = some .completed then .complete else .failed
  { session with stage }.projectGauntlet

/-! ## Recording -/

def persistGauntlet (session : Session) (proof : GauntletEvidence) (proposed : GauntletRuntime)
    (took : Nat) : Except String Session := do
  let state ← applyChallengeGauntletStep session.state proof
  return { session with
    state, clock := session.clock + took
    gauntlet := { proposed with
      sequence := proof.sequence, lastElapsedMs := proof.elapsedMs
      recoveredHealth := proof.effect.recoveredHealth } }

def gauntletProof (session : Session) (proposed : GauntletRuntime) (elapsedMs actorId : Nat)
    (action : GauntletAction) (effect : GauntletEffect) : Except String GauntletEvidence := do
  let run ← require session.state.active "gauntlet attempt ended"
  rejectIf (proposed.sequence + 1 > u64Max) "gauntlet sequence exhausted"
  return { runId := run.runId, sequence := proposed.sequence + 1, elapsedMs, actorId, action, effect }

/-- No enemy of the pair but the target is left. -/
def lastOfPair (session : Session) (first second target : Nat) : Bool :=
  ([first, second].filter (fun actorId => actorId ≠ target)).all
    (fun actorId => (session.actors.get actorId).isNone)

def gauntletLastEnemy (session : Session) (stage : Stage) (target : Nat) : Except String Bool := do
  match stage with
  | .support =>
      let encounter ← require session.support "gauntlet encounter absent"
      return session.lastOfPair encounter.lancerId encounter.menderId target
  | .bastion =>
      let encounter ← require session.elite "gauntlet encounter absent"
      return session.lastOfPair encounter.bulwarkId encounter.partnerId target
  | .prism => return true

/-- Only a death can clear a stage. -/
def stageCleared (session : Session) (kind : ReplayEventKind) (stage : Stage) (target : Nat) :
    Except String Bool :=
  if kind = .enemyDied then session.gauntletLastEnemy stage target else .ok false

def recordGauntletCombat (session : Session) (kind : ReplayEventKind) (actorId : Nat)
    (action : GauntletAction) (took : Nat) : Except String Session := do
  match session.gauntlet.world.phase with
  | .combat stage =>
      let elapsedMs := max (session.gauntlet.elapsed session.clock)
        (saturatingAdd session.gauntlet.encounterStartedMs (nestedTime action))
      let encounterStartedMs :=
        if kind = .enemySpawned ∨ kind = .bossSpawned then elapsedMs
        else session.gauntlet.encounterStartedMs
      let player ← require session.own "gauntlet player absent"
      let health := healthAfter action player.health
      let cleared ← session.stageCleared kind stage actorId
      let effect := { noEffect with
        cleared := if cleared = true then some stage else none, defeated := decide (health = 0) }
      let world ← finished session.gauntlet.world elapsedMs stage cleared health
      let proposed := { session.gauntlet with world, encounterStartedMs }
      let proof ← session.gauntletProof proposed elapsedMs actorId action effect
      rejectIf (kind ≠ proof.kind) "gauntlet event kind differs"
      session.persistGauntlet proof proposed took
  | _ => throw "gauntlet combat is inactive"

/-! ## The encounters of the stages -/

def spawnSupportEncounter (session : Session) (playerId took firstSkipped secondSkipped : Nat) :
    Except String Session := do
  let lancerId := session.lastActorId + 1 + firstSkipped
  let menderId := lancerId + 1 + secondSkipped
  let (actors, lancer, mender) := SupportEncounter.appear session.actors lancerId menderId
  let player ← require (actors.get playerId) "gauntlet player absent"
  let session ← session.recordGauntletCombat .enemySpawned lancer.id
    (.support ⟨0, .started lancer.id mender.id player.health⟩) took
  let session := { session with
    actors, lastActorId := menderId, combat := .default, combatStarted := session.clock
    support := some (.begun lancer.id mender.id playerId session.clock) }
  return (session.broadcast (actorSpawnMessage lancer)).broadcast (actorSpawnMessage mender)

/-- The Bulwark's stance goes out with an update of its place. -/
def broadcastEliteDefense (session : Session) (encounter : EliteEncounter) : Session :=
  session.broadcast (.actorUpdate
    { actorId := encounter.bulwarkId, position := Ai.Bulwark.spawn, charge := none
      defense := some
        { facing := encounter.brain.defense.facing.vector
          braced := encounter.brain.defense.braced, warningMs := Ai.Bulwark.windupMs } })

def spawnEliteEncounter (session : Session) (playerId : Nat)
    (composition : Ai.Elite.EliteComposition) (took firstSkipped secondSkipped : Nat) :
    Except String Session := do
  let bulwarkId := session.lastActorId + 1 + firstSkipped
  let partnerId := bulwarkId + 1 + secondSkipped
  let (actors, guard, partner) :=
    EliteEncounter.appear session.actors composition bulwarkId partnerId
  let player ← require (actors.get playerId) "gauntlet player absent"
  let session ← session.recordGauntletCombat .enemySpawned guard.id
    (.elite ⟨0, 0, .started composition.id guard.id partner.id player.health⟩) took
  let brain ← require (Ai.Elite.EliteBrain.new composition guard.id partner.id)
    "gauntlet actors share an identifier"
  let encounter : EliteEncounter :=
    .begun composition guard.id partner.id playerId session.clock brain
  let session := { session with
    actors, lastActorId := partnerId, combat := .default, combatStarted := session.clock
    elite := some encounter }
  return ((session.broadcast (actorSpawnMessage guard)).broadcast
    (actorSpawnMessage partner)).broadcastEliteDefense encounter

def spawnPrismEncounter (session : Session) (playerId took skipped : Nat) :
    Except String Session := do
  let bossId := session.lastActorId + 1 + skipped
  let (actors, boss) :=
    session.actors.spawn bossId .enemy "prism-warden" Ai.Prism.spawn Ai.Prism.health
  let player ← require (actors.get playerId) "gauntlet player absent"
  let session ← session.recordGauntletCombat .bossSpawned boss.id
    (.prism ⟨0, 0, .started boss.id player.health⟩) took
  let session := { session with
    actors, lastActorId := bossId, combat := .default, combatStarted := session.clock
    stage := .boss
    prism := some (.begun boss.id playerId session.clock none) }
  return session.broadcast (actorSpawnMessage boss)

def spawnStage (session : Session) (stage : Stage) (took firstSkipped secondSkipped : Nat) :
    Except String Session :=
  match stage with
  | .support =>
      session.spawnSupportEncounter session.player.actorId took firstSkipped secondSkipped
  | .bastion =>
      session.spawnEliteEncounter session.player.actorId .bastionLink took firstSkipped
        secondSkipped
  | .prism => session.spawnPrismEncounter session.player.actorId took firstSkipped

def spawnGauntletStage (session : Session) (took firstSkipped secondSkipped : Nat) :
    Except String Session :=
  if session.gauntlet.pendingSpawn = false then .ok session
  else
    match session.gauntlet.world.phase with
    | .combat stage => do
        let session ← session.spawnStage stage took firstSkipped secondSkipped
        return { session with gauntlet := { session.gauntlet with pendingSpawn := false } }
    | _ => .ok session

def startGauntlet (session : Session) (pace : Pace) : Except String Session := do
  let session ← session.spawnGauntletStage pace.firstWrite pace.firstSkipped pace.secondSkipped
  return session.projectChallenge

/-! ## Steps of the player -/

/-- The recorded step, its messages, and the stage it may have opened. -/
def takeStep (session : Session) (player : Actor) (elapsedMs : Nat) (action : GauntletAction)
    (place : Position) (update : TransferUpdate) (pace : Pace) : Except String Session := do
  let position := update.nextStage.elim place Stage.entrance
  let proposed := opened session.gauntlet update
  let effect := { noEffect with
    recoveredHealth := update.recoveredHealth, nextStage := update.nextStage }
  let proof ← session.gauntletProof proposed elapsedMs session.player.actorId action effect
  let session ← session.persistGauntlet proof proposed pace.firstWrite
  let session := { session with
    actors := session.actors.insert
      { player with position, health := player.health + update.recoveredHealth } }
  let session :=
    if isMove action || update.nextStage.isSome then
      session.broadcast (.actorUpdate
        { actorId := session.player.actorId, position, charge := none, defense := none })
    else session
  let session := session.projectGauntlet
  if update.nextStage.isSome then
    let session ←
      session.spawnGauntletStage pace.secondWrite pace.firstSkipped pace.secondSkipped
    return session.projectChallenge
  else return session

def gauntletStepAt (session : Session) (playerId elapsedMs : Nat) (action : GauntletAction)
    (pace : Pace) : Except String Session :=
  if session.state.active = none then .ok session
  else do
    let player ← require (session.actors.get playerId) "gauntlet player absent"
    match playedStage session.gauntlet.world with
    | none => return session
    | some stage =>
        if session.player.actorId ≠ playerId ∨ player.health = 0 ∨
            session.gauntlet.pendingSpawn = true then
          return session
        else
          rejectIf (strayed session.gauntlet.world player)
            "gauntlet actor health differs from accepted stage"
          match ← spatialTarget session.gauntlet.world stage player.position action with
          | none => return session
          | some place =>
              let update ← observed session.gauntlet.world elapsedMs place
              session.takeStep player elapsedMs action place update pace

def moveGauntlet (session : Session) (playerId : Nat) (position : Position) (pace : Pace) :
    Except String Session :=
  session.gauntletStepAt playerId (session.gauntlet.elapsed session.clock) (.move position) pace

def tickGauntlet (session : Session) (pace : Pace) : Except String Session :=
  if session.state.active = none then .ok session
  else if session.gauntlet.pendingSpawn = true then
    session.spawnGauntletStage pace.firstWrite pace.firstSkipped pace.secondSkipped
  else
    let elapsedMs := session.gauntlet.elapsed session.clock
    if session.gauntlet.world.observationDeadlineMs.any (fun deadline => deadline ≤ elapsedMs) then
      session.gauntletStepAt session.player.actorId elapsedMs .observe pace
    else .ok session

/-! ## Giving up -/

structure ChallengeAbandonIntent where
  runId : Nat
  expectedRevision : Nat

def abandonChallenge (session : Session) (playerId : Nat) (intent : ChallengeAbandonIntent)
    (pace : Pace) : Except String Session := do
  rejectIf (session.player.actorId ≠ playerId) "challenge participant missing"
  rejectIf (intent.expectedRevision ≠ session.state.revision) "challenge revision is stale"
  let state ← Survival.commitCommand session.state (.endRun intent.runId .abandoned)
  return { session with state, clock := session.clock + pace.firstWrite }.projectChallenge

/-! ## Admission -/

/-- What a player asks for when entering the contract, and the capabilities of
its client. -/
structure ChallengeEntry where
  accountId : String
  playerId : Nat
  policy : Policy
  preset : Preset
  retryRunId : Option Nat
  expectedRevision : Nat
  loadoutRevision : Nat
  loadout : List ModuleId
  equipped : WeaponItem
  contentCapable : Bool
  supportCapable : Bool
  eliteCapable : Bool
  prismCapable : Bool

def ChallengeEntry.equipment (entry : ChallengeEntry) : Equipment :=
  { loadoutRevision := entry.loadoutRevision, catalogRevision := CatalogRevision.m35v2.text
    weaponId := entry.equipped.itemId, modules := entry.loadout }

def ChallengeEntry.command (entry : ChallengeEntry) : Revenant.Challenges.Command :=
  match entry.retryRunId with
  | some runId => .retry runId entry.equipment
  | none =>
      if entry.preset = .baseline then .start .relayGauntlet entry.equipment
      else .startModified .relayGauntlet entry.preset entry.equipment

def prepareChallengeEntry (entry : ChallengeEntry) (state : ChallengeState) : Except String Unit := do
  rejectIf (ContractId.relayGauntlet.availableIn entry.policy = false ∨
      entry.prismCapable = false ∨ entry.eliteCapable = false ∨ entry.supportCapable = false)
    "challenge entry requires current solo content"
  rejectIf (state.supportsPolicy entry.policy = false ∨ state.revision ≠ entry.expectedRevision)
    "challenge save changed; refresh the board"
  match entry.retryRunId with
  | none => return ()
  | some runId =>
      let previous ← require state.latestRun "challenge retry refers to another attempt"
      rejectIf (previous.runId ≠ runId ∨ previous.rules.contract ≠ .relayGauntlet ∨
        previous.rules.preset ≠ entry.preset) "challenge retry refers to another attempt"

/-- The participant with the weapons of its loadout, if the client can show them. -/
def ChallengeEntry.participant (entry : ChallengeEntry) : Except String Participant :=
  match admitted : resolvedArsenalProjection entry.loadout true entry.contentCapable (some .m35v2) with
  | .error _ => .error "saved loadout requires the current content client"
  | .ok (weapons, maxHealth) =>
      .ok { accountId := entry.accountId, actorId := entry.playerId, encounterCapable := true
            bulwarkCapable := true, supportCapable := entry.supportCapable
            eliteCapable := entry.eliteCapable, prismCapable := entry.prismCapable, weapons, maxHealth
            equipped := entry.equipped
            admitted := ⟨entry.loadout, true, entry.contentCapable, some .m35v2, admitted⟩ }

/-- The session that `start_challenge` opens for an admitted entry. -/
def enterGauntlet (entry : ChallengeEntry) (state : ChallengeState) (clock : Nat) (pace : Pace) :
    Except String Session := do
  prepareChallengeEntry entry state
  let player ← entry.participant
  let state ← Survival.commitCommand state entry.command
  let run ← require state.active "challenge run missing"
  match GauntletRun.withPreset run.equipment run.rules.preset with
  | .error failure => throw failure.text
  | .ok world =>
      let actor : Actor :=
        { id := entry.playerId, kind := .player, archetype := "operator"
          position := entry.preset.firstStage.entrance, health := player.maxHealth
          maxHealth := player.maxHealth }
      let session : Session :=
        { player, stage := .door, actors := ActorRegistry.empty.insert actor, combat := .default
          combatStarted := clock, support := none, elite := none, prism := none, state
          gauntlet := .start world run.rules.preset.firstStage clock, clock
          lastActorId := entry.playerId, sent := [actorSpawnMessage actor] }
      session.startGauntlet pace

end Session
end Gauntlet
end Gateway
end Revenant
