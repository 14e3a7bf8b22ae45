import Revenant.Agreement.GauntletCombat

namespace Revenant
namespace Agreement
namespace Gauntlet

open Library Challenges Challenges.Gauntlet Client.World Gateway.Gauntlet Protocol Replay
open Gateway (SupportEncounter EliteEncounter actorSpawnMessage)

/-!
# The commands of a gauntlet on both sides

What the spawn of a stage, a step of the player, an abandonment and the
admission of an entry leave of a session.
-/

/-! ## The enemies of a stage -/

/-- Before the first row the client shows nothing, and the player is whole. -/
structure Begins (preset : Preset) (actor : Actor) (shown : Option View) (_ : ChallengeState)
    (runtime : GauntletRuntime) : Prop where
  nothing : shown = none
  full : actor.health = actor.maxHealth
  phase : runtime.world.phase = .combat preset.firstStage

section Spawn

variable {runId player : Nat} {preset : Preset} {session next : Session}
variable {before after : Showing} {took firstSkipped secondSkipped : Nat}

/-- The first row makes the first state due. -/
theorem Standing.record_first {kind : ReplayEventKind} {actorId : Nat} {action : GauntletAction}
    (standing : Standing runId player preset (Begins preset) session)
    (recorded : session.recordGauntletCombat kind actorId action took = .ok next)
    (harmless : kind ≠ .enemyDied) (quiet : ∀ health, healthAfter action health = health) :
    Due runId player preset next := by
  obtain ⟨actor, shown, held, begins⟩ := standing
  obtain rfl : shown = none := begins.nothing
  have row := recorded_spec held.core.fits held.core.own recorded
  rw [quiet] at row
  have alive := (held.core.running row.running).1
  obtain ⟨stage, fought, outcome⟩ := row.outcome
  have sequence := row.sequence
  cases outcome with
  | ends cause => exact absurd cause (by simp only [harmless, alive, or_self, not_false_eq_true])
  | goesOn _ world state =>
      have phase : next.gauntlet.world.phase = .combat preset.firstStage := by
        rw [world]
        exact begins.phase
      refine ⟨actor, none, row.held held, .first (by omega) ⟨?_, ?_, begins.full, row.recovered⟩⟩
      · rw [state, viewPhase_running row.running, phase]
        rfl
      · unfold shownStage
        rw [phase]

/-- What one row of a spawn does, whichever encounter it opens. -/
def Rows (runId player : Nat) (preset : Preset) (after : Showing) (session : Session) (took : Nat) :
    Prop :=
  ∀ kind actorId action stored,
    session.recordGauntletCombat kind actorId action took = .ok stored →
      kind ≠ .enemyDied → (∀ health, healthAfter action health = health) →
        Standing runId player preset after stored

theorem Standing.spawnSupportEncounter (standing : Standing runId player preset before session)
    (rows : Rows runId player preset after session took)
    (spawned : session.spawnSupportEncounter player took firstSkipped secondSkipped = .ok next) :
    Standing runId player preset after next := by
  have counted := standing.guarded.counted
  unfold Session.spawnSupportEncounter at spawned
  simp only [bind_eq_ok, require_eq_ok, pure_eq_ok] at spawned
  obtain ⟨actor, -, stored, recorded, rfl⟩ := spawned
  have stands := rows _ _ _ _ recorded (by rintro ⟨⟩) (fun _ => rfl)
  have registry : stored.actors = session.actors :=
    (congrArg Session.actors (recordGauntletCombat_frame recorded)).trans rfl
  have lancer : session.lastActorId + 1 + firstSkipped ≠ player := by omega
  have mender : session.lastActorId + 1 + firstSkipped + 1 + secondSkipped ≠ player := by omega
  have last : player ≤ session.lastActorId + 1 + firstSkipped + 1 + secondSkipped := by omega
  refine Standing.tell (Standing.tell ?_ (.spawn _) lancer) (.spawn _) mender
  refine stands.reframe rfl rfl rfl rfl ?_
    { stands.guarded with
      registry := (standing.guarded.registry.insert _).insert _
      counted := last
      support := ?_ }
  · change ((session.actors.insert _).insert _).get stored.player.actorId = _
    rw [stands.identity, ActorRegistry.get_insert, if_neg mender.symm, ActorRegistry.get_insert,
      if_neg lancer.symm, ← registry, ← stands.identity]
    rfl
  · intro encounter same
    cases same
    exact ⟨rfl, lancer, mender⟩

theorem Standing.spawnEliteEncounter (standing : Standing runId player preset before session)
    (rows : Rows runId player preset after session took)
    (spawned : session.spawnEliteEncounter player .bastionLink took firstSkipped secondSkipped =
      .ok next) : Standing runId player preset after next := by
  have counted := standing.guarded.counted
  unfold Session.spawnEliteEncounter at spawned
  simp only [bind_eq_ok, require_eq_ok, pure_eq_ok] at spawned
  obtain ⟨actor, -, stored, recorded, brain, created, rfl⟩ := spawned
  have stands := rows _ _ _ _ recorded (by rintro ⟨⟩) (fun _ => rfl)
  have registry : stored.actors = session.actors :=
    (congrArg Session.actors (recordGauntletCombat_frame recorded)).trans rfl
  have guard : session.lastActorId + 1 + firstSkipped ≠ player := by omega
  have partner : session.lastActorId + 1 + firstSkipped + 1 + secondSkipped ≠ player := by omega
  have last : player ≤ session.lastActorId + 1 + firstSkipped + 1 + secondSkipped := by omega
  have linked : brain.composition = .bastionLink := by
    unfold Ai.Elite.EliteBrain.new at created
    split at created
    · cases created
    · cases created
      rfl
  refine Standing.broadcastEliteDefense
    (Standing.tell (Standing.tell ?_ (.spawn _) guard) (.spawn _) partner)
    ⟨rfl, guard, partner, linked⟩
  refine stands.reframe rfl rfl rfl rfl ?_
    { stands.guarded with
      registry := (standing.guarded.registry.insert _).insert _
      counted := last
      elite := ?_ }
  · change ((session.actors.insert _).insert _).get stored.player.actorId = _
    rw [stands.identity, ActorRegistry.get_insert, if_neg partner.symm, ActorRegistry.get_insert,
      if_neg guard.symm, ← registry, ← stands.identity]
    rfl
  · intro encounter same
    cases same
    exact ⟨rfl, guard, partner, linked⟩

theorem Standing.spawnPrismEncounter (standing : Standing runId player preset before session)
    (rows : Rows runId player preset after session took)
    (spawned : session.spawnPrismEncounter player took firstSkipped = .ok next) :
    Standing runId player preset after next := by
  have counted := standing.guarded.counted
  unfold Session.spawnPrismEncounter at spawned
  simp only [ActorRegistry.spawn, bind_eq_ok, require_eq_ok, pure_eq_ok] at spawned
  obtain ⟨actor, -, stored, recorded, rfl⟩ := spawned
  have stands := rows _ _ _ _ recorded (by rintro ⟨⟩) (fun _ => rfl)
  have registry : stored.actors = session.actors :=
    (congrArg Session.actors (recordGauntletCombat_frame recorded)).trans rfl
  have boss : session.lastActorId + 1 + firstSkipped ≠ player := by omega
  have last : player ≤ session.lastActorId + 1 + firstSkipped := by omega
  refine Standing.tell ?_ (.spawn _) boss
  refine stands.reframe rfl rfl rfl rfl ?_
    { stands.guarded with
      registry := standing.guarded.registry.insert _
      counted := last
      prism := ?_ }
  · change (session.actors.insert _).get stored.player.actorId = _
    rw [stands.identity, ActorRegistry.get_insert, if_neg boss.symm, ← registry, ← stands.identity]
    rfl
  · intro encounter same
    cases same
    exact ⟨rfl, boss, rfl⟩

/-- The enemies of a stage that is owed them; then nothing is owed. -/
theorem Standing.spawnGauntletStage (standing : Standing runId player preset before session)
    (rows : Rows runId player preset after session took)
    (settles : ∀ actor shown state runtime, after actor shown state runtime →
      after actor shown state { runtime with pendingSpawn := false }) {stage : Stage}
    (owed : session.gauntlet.pendingSpawn = true)
    (fought : session.gauntlet.world.phase = .combat stage)
    (spawned : session.spawnGauntletStage took firstSkipped secondSkipped = .ok next) :
    Standing runId player preset after next := by
  unfold Session.spawnGauntletStage at spawned
  rw [owed, if_neg (by decide), fought] at spawned
  obtain ⟨opened, enemies, same⟩ := bind_eq_ok.mp spawned
  cases same
  unfold Session.spawnStage at enemies
  rw [standing.identity] at enemies
  have stands : Standing runId player preset after opened := by
    cases stage with
    | support => exact standing.spawnSupportEncounter rows enemies
    | bastion => exact standing.spawnEliteEncounter rows enemies
    | prism => exact standing.spawnPrismEncounter rows enemies
  obtain ⟨actor, shown, held, showing⟩ := stands
  exact ⟨actor, shown, ⟨held.identity, { held.core with }, held.guarded, held.told⟩,
    settles _ _ _ _ showing⟩

/-- A row of a spawn during an attempt makes its state due, and leaves the one that
is shown current. -/
theorem Standing.rows_owing (live : Live runId player preset session) :
    Rows runId player preset (Owing preset) session took :=
  fun _ _ _ _ recorded _ quiet => (live.record_quiet recorded quiet).1

theorem Standing.rows_shows (live : Live runId player preset session) :
    Rows runId player preset (Shows preset) session took :=
  fun _ _ _ _ recorded harmless quiet => (live.record_quiet recorded quiet).2 harmless

theorem Standing.rows_first (standing : Standing runId player preset (Begins preset) session) :
    Rows runId player preset (Owing preset) session took :=
  fun _ _ _ _ => standing.record_first

theorem owing_settles (actor : Actor) (shown : Option View) (state : ChallengeState)
    (runtime : GauntletRuntime) (owing : Owing preset actor shown state runtime) :
    Owing preset actor shown state { runtime with pendingSpawn := false } := by
  cases owing with
  | first counted opens => exact .first counted { opens with }
  | next owes => exact .next { owes with }

theorem shows_settles (actor : Actor) (shown : Option View) (state : ChallengeState)
    (runtime : GauntletRuntime) (shows : Shows preset actor shown state runtime) :
    Shows preset actor shown state { runtime with pendingSpawn := false } := by
  obtain ⟨view, same, current⟩ := shows
  exact ⟨view, same, { current with }⟩

end Spawn

/-! ## Steps of the player -/

/-- The player's actor after a step. -/
def walked (actor : Actor) (place : Position) (update : TransferUpdate) : Actor :=
  { actor with
    position := update.nextStage.elim place Stage.entrance
    health := actor.health + update.recoveredHealth }

/-- The run after a recorded step. -/
def recordedRun (runtime : GauntletRuntime) (elapsedMs : Nat) (update : TransferUpdate) :
    GauntletRuntime :=
  { opened runtime update with
    sequence := (opened runtime update).sequence + 1, lastElapsedMs := elapsedMs
    recoveredHealth := update.recoveredHealth }

/-- The session of a recorded step, before its state is shown. -/
def stepped (session : Session) (actor : Actor) (elapsedMs : Nat) (action : GauntletAction)
    (place : Position) (update : TransferUpdate) (took : Nat) : Session :=
  let session := { session with
    clock := session.clock + took
    gauntlet := recordedRun session.gauntlet elapsedMs update
    actors := session.actors.insert (walked actor place update) }
  if isMove action || update.nextStage.isSome then
    session.broadcast (.actorUpdate
      { actorId := session.player.actorId, position := (walked actor place update).position
        charge := none, defense := none })
  else session

section Step

variable {runId player : Nat} {preset : Preset} {session next : Session} {actor : Actor}
variable {view : View} {elapsedMs took : Nat} {action : GauntletAction} {place : Position}
variable {update : TransferUpdate} {pace : Pace}

/-- A recorded step changes no save, and a stage that it opens gets its enemies. -/
theorem takeStep_ok
    (fits : Fits runId preset session.state session.gauntlet.world.phase)
    (taken : session.takeStep actor elapsedMs action place update pace = .ok next) :
    session.state.active.isSome = true ∧
      if update.nextStage.isSome = true then
        ∃ spawned, (stepped session actor elapsedMs action place update
            pace.firstWrite).projectGauntlet.spawnGauntletStage pace.secondWrite pace.firstSkipped
              pace.secondSkipped = .ok spawned ∧ next = spawned.projectChallenge
      else next = (stepped session actor elapsedMs action place update
        pace.firstWrite).projectGauntlet := by
  unfold Session.takeStep at taken
  simp only [bind_eq_ok, exists_unit, require_eq_ok, rejectIf_eq_ok, Session.gauntletProof,
    pure_eq_ok, Session.persistGauntlet] at taken
  obtain ⟨proof, ⟨run, active, -, rfl⟩, recorded, ⟨state, stored, rfl⟩, taken⟩ := taken
  obtain ⟨running, -, -, silent⟩ := fits_stored fits stored
  obtain rfl : state = session.state := silent rfl rfl
  refine ⟨running, ?_⟩
  split at taken
  · next opens =>
    rw [if_pos opens]
    obtain ⟨spawned, enemies, same⟩ := bind_eq_ok.mp taken
    cases same
    exact ⟨spawned, enemies, rfl⟩
  · next stays =>
    rw [if_neg stays]
    cases taken
    rfl

/-- A step of a running attempt leaves the player alive in a phase that goes on. -/
theorem Core.stepped {own : Option Actor} {state : ChallengeState} {runtime after : GauntletRuntime}
    {walker : Actor} {stage : Stage} (core : Core runId preset own state runtime actor)
    (running : state.active.isSome = true) (alive : walker.health ≠ 0)
    (healthy : walker.health ≤ walker.maxHealth) (sound : after.world.Sound walker.position)
    (chosen : after.world.preset = runtime.world.preset)
    (phase : after.world.phase = .combat stage ∨ after.world.phase = .transfer stage)
    (last : after.lastStage = stage)
    (clock : after.world.lastElapsedMs ≤ after.lastElapsedMs)
    (agreed : (∃ stage, after.world.phase = .combat stage) ∨ walker.health = after.world.health) :
    Core runId preset (some walker) state after walker := by
  refine ⟨rfl, healthy, ?_, sound, chosen.trans core.chosen,
    ⟨core.fits.named, fun _ => ⟨stage, phase⟩, ?_⟩, ?_, clock, agreed⟩
  · rw [viewPhase_running running]
    refine ⟨fun fell => ?_, fun fell => absurd fell alive⟩
    rcases phase with fights | waits
    · rw [fights] at fell
      cases fell
    · rw [waits] at fell
      cases fell
  · intro isOver
    rw [isOver] at running
    cases running
  · intro other same
    rw [last]
    rcases phase with fights | waits
    · rcases same with same | same
      · exact Phase.combat.inj (fights.symm.trans same)
      · cases fights.symm.trans same
    · rcases same with same | same
      · cases waits.symm.trans same
      · exact Phase.transfer.inj (waits.symm.trans same)

/-- The state after a step may be shown. -/
theorem stepped_ready (held : Held runId player preset session actor (some view))
    (current : Current preset view session.state session.gauntlet)
    (running : session.state.active.isSome = true)
    (later : session.gauntlet.lastElapsedMs ≤ elapsedMs)
    (still : isMove action = false → place = actor.position)
    (core : Core runId preset (some (walked actor place update)) session.state
      (recordedRun session.gauntlet elapsedMs update) (walked actor place update))
    (limited : update.recoveredHealth ≤ transferHealth)
    (moves : Moves preset (walked actor place update).position actor.health view
      (viewOf session.state (recordedRun session.gauntlet elapsedMs update)
        (walked actor place update))) :
    Ready runId player preset (stepped session actor elapsedMs action place update took)
      (walked actor place update) actor.health (some view) := by
  have registered := held.guarded.registry
  have counted : (opened session.gauntlet update).sequence = session.gauntlet.sequence := by
    unfold opened
    split <;> rfl
  have own : (session.actors.insert (walked actor place update)).get session.player.actorId =
      some (walked actor place update) := by
    have name : session.player.actorId = (walked actor place update).id :=
      (registered _ actor held.core.own).symm
    rw [ActorRegistry.get_insert, if_pos name]
  have continues : Continues preset (walked actor place update).position actor.health (some view)
      (viewOf session.state (recordedRun session.gauntlet elapsedMs update)
        (walked actor place update)) := by
    refine .follows ?_ (Or.inl ?_) (current.clock.trans later) moves
    · rw [current.phase]
      exact (held.core.running running).2
    · change view.sequence < (opened session.gauntlet update).sequence + 1
      rw [counted]
      exact Nat.lt_succ_of_le current.sequence
  have before : elapsedMs < u64Max → ∀ last ∈ some view, ∃ place, last.Sound preset place := by
    intro far last same
    cases same
    exact current.sound (later.trans_lt far)
  unfold stepped
  dsimp only
  split
  · refine ⟨held.identity, { core with own := own },
      { held.guarded with registry := registered.insert _ }, ?_, before, continues,
      Nat.succ_pos _, rfl, limited⟩
    intro far
    exact (held.told (later.trans_lt far)).move _ held.identity
  · next silent =>
    refine ⟨held.identity, { core with own := own },
      { held.guarded with registry := registered.insert _ }, ?_, before, continues,
      Nat.succ_pos _, rfl, limited⟩
    intro far
    rw [Bool.or_eq_true, not_or] at silent
    have here : (walked actor place update).position = actor.position := by
      unfold walked
      rw [Option.not_isSome_iff_eq_none.mp silent.2]
      exact still (Bool.eq_false_of_not_eq_true silent.1)
    rw [here]
    exact held.told (later.trans_lt far)

/-- A move while an encounter is fought leaves everything but the place. -/
theorem fought_moves (held : Held runId player preset session actor (some view))
    (current : Current preset view session.state session.gauntlet)
    (running : session.state.active.isSome = true)
    (later : session.gauntlet.lastElapsedMs ≤ elapsedMs) {stage : Stage}
    (fought : session.gauntlet.world.phase = .combat stage)
    (same : update = ⟨session.gauntlet.world, 0, none⟩) :
    Core runId preset (some (walked actor place update)) session.state
        (recordedRun session.gauntlet elapsedMs update) (walked actor place update) ∧
      Moves preset (walked actor place update).position actor.health view
        (viewOf session.state (recordedRun session.gauntlet elapsedMs update)
          (walked actor place update)) := by
  subst same
  constructor
  · exact held.core.stepped running (held.core.running running).1 held.core.healthy
      (held.core.sound.moved fought _) rfl (Or.inl fought) (held.core.stage stage (Or.inl fought))
      (held.core.clock.trans later) (Or.inl ⟨stage, fought⟩)
  · refine .stays current.stage.symm current.used.symm rfl ?_
    intro waits
    rw [current.phase, viewPhase_running running, fought] at waits
    cases waits

/-- An observation between two stages waits, heals, or enters the next stage. -/
theorem observed_moves (held : Held runId player preset session actor (some view))
    (current : Current preset view session.state session.gauntlet)
    (running : session.state.active.isSome = true) {stage : Stage}
    (waits : session.gauntlet.world.phase = .transfer stage)
    (near : ¬ strayed session.gauntlet.world actor)
    (observed : session.gauntlet.world.observeAt elapsedMs place = .ok update) :
    Core runId preset (some (walked actor place update)) session.state
        (recordedRun session.gauntlet elapsedMs update) (walked actor place update) ∧
      update.recoveredHealth ≤ transferHealth ∧
      Moves preset (walked actor place update).position actor.health view
        (viewOf session.state (recordedRun session.gauntlet elapsedMs update)
          (walked actor place update)) := by
  obtain ⟨observes, does, sound⟩ := GauntletRun.observeAt_spec held.core.sound waits observed
  have alive := (held.core.running running).1
  have maximum : actor.maxHealth = session.gauntlet.world.maxHealth := by
    by_contra other
    exact near (Or.inl other)
  have health : actor.health = session.gauntlet.world.health := by
    by_contra other
    refine near (Or.inr ⟨?_, other⟩)
    unfold inTransfer
    rw [waits]
  have phase : view.phase = .transfer := by
    rw [current.phase, viewPhase_running running, waits]
    rfl
  have shown : view.stage = stage := by
    rw [current.stage]
    unfold shownStage
    rw [waits]
  have bounded := sound.healthy
  rw [observes.maximum, ← maximum] at bounded
  have last := held.core.stage stage (Or.inr waits)
  cases does with
  | waits after phaseNext healthNext usedNext =>
      have still : (viewOf session.state (recordedRun session.gauntlet elapsedMs ⟨after, 0, none⟩)
          (walked actor place ⟨after, 0, none⟩)).phase = .transfer := by
        change viewPhase session.state after.phase = _
        rw [viewPhase_running running, phaseNext]
        rfl
      refine ⟨?_, Nat.zero_le _, .stays ?_ (usedNext.trans current.used.symm) rfl
        (fun _ => Or.inl still)⟩
      · exact held.core.stepped running alive held.core.healthy sound observes.preset
          (Or.inr phaseNext) last (le_of_eq observes.clock) (Or.inr (health.trans healthNext.symm))
      · rw [shown]
        change shownStage (recordedRun session.gauntlet elapsedMs ⟨after, 0, none⟩) = stage
        unfold shownStage recordedRun opened
        dsimp only
        rw [phaseNext]
  | heals after recovered phaseNext single pad unused usedNext restored wounded healthNext =>
      have still : (viewOf session.state
          (recordedRun session.gauntlet elapsedMs ⟨after, recovered, none⟩)
          (walked actor place ⟨after, recovered, none⟩)).phase = .transfer := by
        change viewPhase session.state after.phase = _
        rw [viewPhase_running running, phaseNext]
        rfl
      have stays : (viewOf session.state
          (recordedRun session.gauntlet elapsedMs ⟨after, recovered, none⟩)
          (walked actor place ⟨after, recovered, none⟩)).stage = stage := by
        change shownStage (recordedRun session.gauntlet elapsedMs ⟨after, recovered, none⟩) = stage
        unfold shownStage recordedRun opened
        dsimp only
        rw [phaseNext]
      refine ⟨?_, ?_, .heals (stays.trans shown.symm) ?_ phase still ?_ usedNext ?_ ?_ wounded⟩
      · refine held.core.stepped running ?_ ?_ sound observes.preset (Or.inr phaseNext) last
          (le_of_eq observes.clock) (Or.inr ?_)
        · change actor.health + recovered ≠ 0
          omega
        · change actor.health + recovered ≤ actor.maxHealth
          rw [health, ← healthNext]
          exact bounded
        · change actor.health + recovered = after.health
          rw [health, healthNext]
      · rw [restored]
        exact Nat.min_le_left _ _
      · rw [← held.core.chosen]
        exact single
      · rw [current.used]
        exact unused
      · rw [stays]
        exact pad
      · change recovered = min transferHealth (actor.maxHealth - actor.health)
        rw [maximum, health]
        exact restored
  | leaves after recovered stageNext follows phaseNext restored usedNext healthNext =>
      have enters : (viewOf session.state
          (recordedRun session.gauntlet elapsedMs ⟨after, recovered, some stageNext⟩)
          (walked actor place ⟨after, recovered, some stageNext⟩)).stage = stageNext := by
        change shownStage
          (recordedRun session.gauntlet elapsedMs ⟨after, recovered, some stageNext⟩) = stageNext
        unfold shownStage recordedRun opened
        dsimp only
        rw [phaseNext]
      refine ⟨?_, ?_, .enters ?_ phase ?_ ?_ (usedNext.trans current.used.symm) ?_⟩
      · refine held.core.stepped running ?_ ?_ (sound.moved phaseNext _) observes.preset
          (Or.inl phaseNext) rfl (le_of_eq observes.clock) (Or.inl ⟨stageNext, phaseNext⟩)
        · change actor.health + recovered ≠ 0
          omega
        · change actor.health + recovered ≤ actor.maxHealth
          rw [health, ← healthNext]
          exact bounded
      · rw [restored]
        split
        · exact Nat.zero_le _
        · exact Nat.min_le_left _ _
      · rw [enters, shown, ← held.core.chosen]
        exact idxOf_next follows
      · change viewPhase session.state after.phase = _
        rw [viewPhase_running running, phaseNext]
        rfl
      · rw [enters]
        rfl
      · change recovered = if preset.has .singleReserve = true then 0
          else min transferHealth (actor.maxHealth - actor.health)
        rw [maximum, health, ← held.core.chosen]
        exact restored

/-- The state of a recorded step is taken, and a stage that it opens is too. -/
theorem takeStep_live (named : 0 < runId)
    (held : Held runId player preset session actor (some view))
    (current : Current preset view session.state session.gauntlet)
    (later : session.gauntlet.lastElapsedMs ≤ elapsedMs)
    (still : isMove action = false → place = actor.position)
    (moves : session.state.active.isSome = true →
      Core runId preset (some (walked actor place update)) session.state
          (recordedRun session.gauntlet elapsedMs update) (walked actor place update) ∧
        update.recoveredHealth ≤ transferHealth ∧
        Moves preset (walked actor place update).position actor.health view
          (viewOf session.state (recordedRun session.gauntlet elapsedMs update)
            (walked actor place update)))
    (enters : ∀ after, update.nextStage = some after → update.run.phase = .combat after)
    (taken : session.takeStep actor elapsedMs action place update pace = .ok next) :
    Live runId player preset next := by
  obtain ⟨running, done⟩ := takeStep_ok held.core.fits taken
  obtain ⟨core, limited, moves⟩ := moves running
  have live := (@stepped_ready runId player preset session actor view elapsedMs pace.firstWrite
    action place update held current running later still core limited moves).projectGauntlet named
  split at done
  · next opens =>
    obtain ⟨spawned, enemies, rfl⟩ := done
    obtain ⟨after, follows⟩ := Option.isSome_iff_exists.mp opens
    have run : (stepped session actor elapsedMs action place update
        pace.firstWrite).projectGauntlet.gauntlet = recordedRun session.gauntlet elapsedMs update := by
      unfold Session.projectGauntlet stepped
      dsimp only
      split <;> split <;> rfl
    have arrived : recordedRun session.gauntlet elapsedMs update =
        { session.gauntlet with
          world := update.run, pendingSpawn := true, lastStage := after
          sequence := session.gauntlet.sequence + 1, lastElapsedMs := elapsedMs
          recoveredHealth := update.recoveredHealth } := by
      unfold recordedRun opened
      rw [follows]
    rw [arrived] at run
    have owed := congrArg GauntletRuntime.pendingSpawn run
    have fought := (congrArg (fun runtime : GauntletRuntime => runtime.world.phase) run).trans
      (enters after follows)
    exact Standing.project named
      (live.spawnGauntletStage live.rows_owing owing_settles owed fought enemies)
  · cases done
    exact live

/-- A step that is taken, or ignored. -/
theorem Standing.gauntletStepAt (named : 0 < runId) (live : Live runId player preset session)
    {playerId : Nat} (later : session.gauntlet.lastElapsedMs ≤ elapsedMs)
    (taken : session.gauntletStepAt playerId elapsedMs action pace = .ok next) :
    Live runId player preset next := by
  obtain ⟨own, _, held, view, rfl, current⟩ := id live
  unfold Session.gauntletStepAt at taken
  split at taken
  · cases taken
    exact live
  · next running =>
    obtain ⟨actor, found, taken⟩ := bind_eq_ok.mp taken
    rw [require_eq_ok] at found
    split at taken
    · cases taken
      exact live
    · next stage played =>
      split at taken
      · cases taken
        exact live
      · next able =>
        simp only [not_or, not_not] at able
        simp only [bind_eq_ok, exists_unit, rejectIf_eq_ok] at taken
        obtain ⟨near, target, aimed, taken⟩ := taken
        rw [← able.1] at found
        obtain rfl : actor = own := Option.some.inj (found.symm.trans held.core.own)
        split at taken
        · cases taken
          exact live
        · next place =>
          obtain ⟨update, seen, taken⟩ := bind_eq_ok.mp taken
          have still : isMove action = false → place = actor.position := by
            intro stays
            unfold spatialTarget at aimed
            split at aimed
            · cases stays
            · cases aimed
              rfl
            · cases aimed
          unfold observed at seen
          cases phase : session.gauntlet.world.phase with
          | transfer waited =>
              rw [phase] at seen
              dsimp only at seen
              split at seen
              · next accepted =>
                cases seen
                refine takeStep_live named held current later still ?_ ?_ taken
                · intro active
                  exact observed_moves held current active phase near accepted
                · intro after follows
                  obtain ⟨-, does, -⟩ := GauntletRun.observeAt_spec held.core.sound phase accepted
                  cases does with
                  | leaves _ _ _ _ fights =>
                      cases follows
                      exact fights
                  | waits | heals => cases follows
              · cases seen
          | combat fought =>
              rw [phase] at seen
              cases seen
              refine takeStep_live named held current later still ?_ ?_ taken
              · intro active
                obtain ⟨core, moves⟩ := fought_moves held current active later phase rfl
                exact ⟨core, Nat.zero_le _, moves⟩
              · intro after follows
                cases follows
          | completed | defeated =>
              unfold playedStage at played
              rw [phase] at played
              cases played

theorem Standing.moveGauntlet (named : 0 < runId) (live : Live runId player preset session)
    {playerId : Nat} {position : Position}
    (moved : session.moveGauntlet playerId position pace = .ok next) :
    Live runId player preset next :=
  live.gauntletStepAt named (Nat.le_max_right _ _) moved

theorem Standing.tickGauntlet (named : 0 < runId) (live : Live runId player preset session)
    (ticked : session.tickGauntlet pace = .ok next) : Live runId player preset next := by
  unfold Session.tickGauntlet at ticked
  split at ticked
  · cases ticked
    exact live
  · split at ticked
    · next owed =>
      cases phase : session.gauntlet.world.phase with
      | combat stage =>
          exact live.spawnGauntletStage live.rows_shows shows_settles owed phase ticked
      | transfer | completed | defeated =>
          unfold Session.spawnGauntletStage at ticked
          rw [owed, if_neg (by decide), phase] at ticked
          cases ticked
          exact live
    · dsimp only at ticked
      split at ticked
      · exact live.gauntletStepAt named (Nat.le_max_right _ _) ticked
      · cases ticked
        exact live

end Step

/-! ## Giving up -/

section Abandon

variable {runId player : Nat} {preset : Preset} {session next : Session} {playerId : Nat}
variable {intent : Session.ChallengeAbandonIntent} {pace : Pace}

/-- The save of an attempt that was given up, and what it leaves of the session. -/
structure GivenUp (runId : Nat) (preset : Preset) (session : Session) (actor : Actor)
    (state : ChallengeState) : Prop where
  running : session.state.active.isSome = true
  isOver : state.active = none
  outcome : lastOutcome state = some .abandoned
  phase : viewPhase state session.gauntlet.world.phase = .abandoned
  core : Core runId preset session.own state session.gauntlet actor

theorem abandonChallenge_ok {actor : Actor} {shown : Option View}
    (held : Held runId player preset session actor shown)
    (abandoned : session.abandonChallenge playerId intent pace = .ok next) :
    ∃ state clock, next = Session.projectChallenge { session with state, clock } ∧
      GivenUp runId preset session actor state := by
  unfold Session.abandonChallenge at abandoned
  simp only [bind_eq_ok, exists_unit, rejectIf_eq_ok, pure_eq_ok] at abandoned
  obtain ⟨-, -, state, committed, rfl⟩ := abandoned
  obtain ⟨run, active, -, isOver, last⟩ := commit_end committed
  obtain ⟨latest, same, identity⟩ := held.core.fits.named
  have running : session.state.active.isSome = true := by rw [active]; rfl
  obtain rfl : latest = run := by
    unfold ChallengeState.latestRun at same
    rw [active] at same
    exact (Option.some.inj same).symm
  have outcome : lastOutcome state = some .abandoned := by
    unfold lastOutcome
    rw [last]
    rfl
  have phase : viewPhase state session.gauntlet.world.phase = .abandoned := by
    unfold viewPhase
    rw [isOver, outcome]
    rfl
  have fits : Fits runId preset state session.gauntlet.world.phase := by
    refine ⟨⟨latest, ?_, identity⟩, ?_, fun _ => Or.inl outcome⟩
    · unfold ChallengeState.latestRun
      rw [isOver, last]
      rfl
    · rw [isOver]
      rintro ⟨⟩
  have fallen : viewPhase state session.gauntlet.world.phase = .defeated ↔ actor.health = 0 := by
    rw [phase]
    exact ⟨by rintro ⟨⟩, fun fell => absurd fell (held.core.running running).1⟩
  exact ⟨state, _, rfl, running, isOver, outcome, phase, { held.core with fits, fallen }⟩

/-- An attempt that is given up shows its end, unless the last state reported a
recovery, which would be reported again. -/
theorem Standing.abandonChallenge (named : 0 < runId) (live : Live runId player preset session)
    (nothing : session.gauntlet.recoveredHealth = 0)
    (abandoned : session.abandonChallenge playerId intent pace = .ok next) :
    Live runId player preset next := by
  obtain ⟨actor, _, held, view, rfl, current⟩ := live
  obtain ⟨state, clock, rfl, gaveUp⟩ := abandonChallenge_ok held abandoned
  refine Standing.project named ⟨actor, some view,
    ⟨held.identity, gaveUp.core, held.guarded, held.told⟩, .next ?_⟩
  refine ⟨current.sound, current.counted.trans_le current.sequence, ?_, current.stage.symm,
    current.used.symm, fun _ => Or.inr gaveUp.phase, Or.inr ⟨current.sequence, gaveUp.phase⟩,
    current.clock, nothing⟩
  rw [current.phase]
  exact (held.core.running gaveUp.running).2

end Abandon

/-! ## Admission -/

section Entry

variable {entry : Session.ChallengeEntry} {before after : ChallengeState} {session : Session}
variable {clock : Nat} {pace : Pace}

/-- The command of a prepared entry starts a run of the contract. -/
theorem run_of_entry (prepared : Session.prepareChallengeEntry entry before = .ok ())
    (committed : Gateway.Survival.commitCommand before entry.command = .ok after) :
    ∃ run, after.active = some run ∧ 0 < run.runId ∧ run.rules.contract = .relayGauntlet ∧
      run.rules.preset = entry.preset := by
  obtain ⟨_, _, valid, stepped⟩ := commit_steps committed
  suffices named : ∃ run, after.active = some run ∧ run.rules.contract = .relayGauntlet ∧
      run.rules.preset = entry.preset by
    obtain ⟨run, active, identity⟩ := named
    exact ⟨run, active, (valid.active run active).started, identity⟩
  unfold Session.prepareChallengeEntry at prepared
  unfold Session.ChallengeEntry.command at stepped
  cases retried : entry.retryRunId with
  | none =>
      rw [retried] at stepped
      dsimp only at stepped
      by_cases plain : entry.preset = .baseline
      · rw [if_pos plain] at stepped
        cases stepped with
        | start available idle admitted published =>
            obtain ⟨contract, preset, -⟩ := rulesWithPreset_ok published
            exact ⟨_, rfl, contract, preset.trans plain.symm⟩
        | confirm active asked | complete active asked => cases asked
      · rw [if_neg plain] at stepped
        cases stepped with
        | startModified latest modified idle admitted published =>
            obtain ⟨contract, preset, -⟩ := rulesWithPreset_ok published
            exact ⟨_, rfl, contract, preset⟩
        | confirm active asked | complete active asked => cases asked
  | some runId =>
      simp only [retried, bind_eq_ok, exists_unit, require_eq_ok, rejectIf_eq_ok, not_or,
        not_not] at prepared
      obtain ⟨-, -, previous, latest, -, own, same⟩ := prepared
      rw [retried] at stepped
      dsimp only at stepped
      cases stepped with
      | @retryActive run _ _ active admitted published =>
          obtain rfl : previous = run := by
            unfold ChallengeState.latestRun at latest
            rw [show before.active = some run from active] at latest
            exact (Option.some.inj latest).symm
          obtain ⟨contract, preset, -⟩ := rulesWithPreset_ok published
          exact ⟨_, rfl, contract.trans own, preset.trans same⟩
      | @retryEnded result _ _ idle last admitted published =>
          obtain rfl : previous = result.run := by
            unfold ChallengeState.latestRun at latest
            rw [show before.active = none from idle,
              show before.lastResult = some result from last] at latest
            exact (Option.some.inj latest).symm
          obtain ⟨contract, preset, -⟩ := rulesWithPreset_ok published
          exact ⟨_, rfl, contract.trans own, preset.trans same⟩
      | confirm active asked | complete active asked => cases asked

/-- The client takes the spawn of its player into an empty world. -/
theorem told_spawn (runId : Nat) (preset : Preset) (actor : Actor) :
    Told runId actor.id preset [actorSpawnMessage actor] actor.position actor.health
      actor.maxHealth none := by
  obtain ⟨client, taken, knows, -, shows⟩ :=
    hear_spawn_player runId preset.asStr (joinWorld actor.id) actor rfl
  obtain ⟨other, same, paired, -⟩ := @hear_concerned (joinWorld actor.id) runId preset.asStr
    (fun _ known => by cases known) actor.id _ (.spawn actor)
  cases taken.symm.trans same
  refine ⟨?_, client, feed_cons_of_ok taken, knows, paired, shows⟩
  intro earlier state later split
  have impossible : ServerMessage.challengeGauntletState state ∈ [actorSpawnMessage actor] := by
    rw [split]
    exact List.mem_append_right _ List.mem_cons_self
  cases List.mem_singleton.mp impossible

/-- The player as the contract opens, whole at the first entrance. -/
def operator (entry : Session.ChallengeEntry) (maxHealth : Nat) : Actor :=
  { id := entry.playerId, kind := .player, archetype := "operator"
    position := entry.preset.firstStage.entrance, health := maxHealth, maxHealth }

/-- The session of an entry before its first enemies. -/
def opening (entry : Session.ChallengeEntry) (player : Gateway.Participant) (state : ChallengeState)
    (world : GauntletRun) (clock : Nat) : Session :=
  { player, stage := .door, actors := ActorRegistry.empty.insert (operator entry player.maxHealth)
    combat := .default, combatStarted := clock, support := none, elite := none, prism := none, state
    gauntlet := .start world entry.preset.firstStage clock, clock, lastActorId := entry.playerId
    sent := [actorSpawnMessage (operator entry player.maxHealth)] }

theorem opening_begins {player : Gateway.Participant} {state : ChallengeState} {world : GauntletRun}
    {run : Challenges.ChallengeRun} (identity : player.actorId = entry.playerId) (whole : 0 < player.maxHealth)
    (active : state.active = some run) (contract : run.rules.contract = .relayGauntlet)
    (chosen : run.rules.preset = entry.preset) (preset : world.preset = entry.preset)
    (phase : world.phase = .combat entry.preset.firstStage) (sound : ∀ place, world.Sound place)
    (idle : world.lastElapsedMs = 0) :
    Standing run.runId entry.playerId entry.preset (Begins entry.preset)
      (opening entry player state world clock) := by
  have running : state.active.isSome = true := by rw [active]; rfl
  have own : (opening entry player state world clock).own =
      some (operator entry player.maxHealth) := by
    change (ActorRegistry.empty.insert _).get player.actorId = _
    rw [ActorRegistry.get_insert]
    exact if_pos identity
  have guarded : Guarded entry.playerId entry.playerId
      (ActorRegistry.empty.insert (operator entry player.maxHealth)) none none none := by
    refine ⟨Registered.insert ?_ _, le_refl _, ?_, ?_, ?_⟩
    · intro actorId actor found
      cases found
    · intro encounter fought
      cases fought
    · intro encounter fought
      cases fought
    · intro encounter fought
      cases fought
  have fits : Fits run.runId entry.preset state world.phase := by
    refine ⟨⟨run, ?_, rfl, contract, chosen⟩, fun _ => ⟨_, Or.inl phase⟩, ?_⟩
    · unfold ChallengeState.latestRun
      rw [active]
    · intro isOver
      rw [isOver] at running
      cases running
  have fallen : viewPhase state world.phase = .defeated ↔ player.maxHealth = 0 := by
    rw [viewPhase_running running, phase]
    exact ⟨nofun, fun fell => absurd fell whole.ne'⟩
  have first : ∀ stage, world.phase = .combat stage ∨ world.phase = .transfer stage →
      entry.preset.firstStage = stage := by
    intro stage same
    rw [phase] at same
    rcases same with same | same
    · exact Phase.combat.inj same
    · cases same
  have told := told_spawn run.runId entry.preset (operator entry player.maxHealth)
  exact ⟨operator entry player.maxHealth, none, ⟨identity, ⟨own, le_refl _, fallen, sound _, preset,
    fits, first, idle.le, Or.inl ⟨_, phase⟩⟩, guarded, fun _ => told⟩, rfl, rfl, phase⟩

/-- An admitted entry opens a session that is followed. -/
theorem enterGauntlet_live (entered : Session.enterGauntlet entry before clock pace = .ok session) :
    ∃ runId, 0 < runId ∧ Live runId entry.playerId entry.preset session := by
  unfold Session.enterGauntlet at entered
  simp only [bind_eq_ok, exists_unit, require_eq_ok] at entered
  obtain ⟨prepared, player, admitted, state, committed, run, active, entered⟩ := entered
  obtain ⟨same, found, named, contract, chosen⟩ := run_of_entry prepared committed
  cases active.symm.trans found
  split at entered
  · cases entered
  · next world opened =>
    obtain ⟨-, preset, phase, -, -, idle, sound⟩ := GauntletRun.withPreset_spec opened
    obtain ⟨started, spawned, same⟩ := bind_eq_ok.mp entered
    cases same
    have own : player.actorId = entry.playerId ∧ 80 ≤ player.maxHealth := by
      unfold Session.ChallengeEntry.participant at admitted
      split at admitted
      · cases admitted
      · next weapons maxHealth projected =>
        cases admitted
        exact ⟨rfl, (bounds_of_projection projected).2.1⟩
    rw [chosen] at phase preset spawned
    have begins := @opening_begins entry clock player state world run own.1 (by omega) active contract
      chosen preset phase sound idle
    exact ⟨run.runId, named, Standing.project named
      (begins.spawnGauntletStage begins.rows_first owing_settles rfl phase spawned)⟩

end Entry

end Gauntlet
end Agreement
end Revenant
