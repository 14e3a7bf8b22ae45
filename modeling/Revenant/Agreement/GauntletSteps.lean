import Revenant.Agreement.GauntletSession

namespace Revenant
namespace Agreement
namespace Gauntlet

open Library Challenges Challenges.Gauntlet Client.World Gateway.Gauntlet Protocol Replay
open Gateway (SupportEncounter EliteEncounter actorSpawnMessage)

/-!
# The parts of a gauntlet step

Every operation of a session stores a row, changes actors, tells about enemies
or about the player, and shows a state.  Each part has its rule here; the
operations are put together from them.
-/

/-! ## Registries -/

/-- Every actor is kept under its own identifier. -/
def Registered (actors : ActorRegistry) : Prop :=
  ∀ actorId actor, actors.get actorId = some actor → actor.id = actorId

section Registry

variable {actors : ActorRegistry} {player : Nat}

theorem Registered.insert (registered : Registered actors) (actor : Actor) :
    Registered (actors.insert actor) := by
  intro actorId other found
  rw [ActorRegistry.get_insert] at found
  split at found
  · next same =>
    cases found
    exact same.symm
  · exact registered actorId other found

theorem Registered.destroy (registered : Registered actors) (removed : Nat) :
    Registered (actors.destroy removed) := by
  intro actorId other found
  rw [ActorRegistry.get_destroy] at found
  split at found
  · cases found
  · exact registered actorId other found

theorem Registered.applyDamage (registered : Registered actors) (hurt damage : Nat) :
    Registered (actors.applyDamage hurt damage) := by
  intro actorId other found
  rw [ActorRegistry.get_applyDamage] at found
  split at found
  · next same =>
    obtain ⟨victim, present, rfl⟩ := Option.map_eq_some_iff.mp found
    exact (registered hurt victim present).trans same.symm
  · exact registered actorId other found

theorem Registered.updatePosition (registered : Registered actors) (moved : Nat)
    (position : Position) : Registered (actors.updatePosition moved position) := by
  intro actorId other found
  rw [ActorRegistry.get_updatePosition] at found
  split at found
  · next same =>
    obtain ⟨walker, present, rfl⟩ := Option.map_eq_some_iff.mp found
    exact (registered moved walker present).trans same.symm
  · exact registered actorId other found

end Registry

/-! ## Enemies -/

/-- The encounters are fought by the player, whose identifier no enemy has. -/
structure Guarded (player lastActorId : Nat) (actors : ActorRegistry)
    (support : Option SupportEncounter) (elite : Option EliteEncounter)
    (prism : Option StagePrism) : Prop where
  registry : Registered actors
  counted : player ≤ lastActorId
  support : ∀ encounter, support = some encounter → encounter.playerId = player ∧
    encounter.lancerId ≠ player ∧ encounter.menderId ≠ player
  elite : ∀ encounter, elite = some encounter → encounter.playerId = player ∧
    encounter.bulwarkId ≠ player ∧ encounter.partnerId ≠ player ∧
      encounter.brain.composition = Ai.Elite.EliteComposition.bastionLink
  prism : ∀ encounter, prism = some encounter → encounter.playerId = player ∧
    encounter.bossId ≠ player ∧ encounter.pendingFatal = none

/-- What holds of a session after every part of an operation, once the player's
actor has the health of the row. -/
structure Held (runId player : Nat) (preset : Preset) (session : Session) (actor : Actor)
    (shown : Option View) : Prop where
  identity : session.player.actorId = player
  core : Core runId preset session.own session.state session.gauntlet actor
  guarded : Guarded player session.lastActorId session.actors session.support session.elite
    session.prism
  told : session.gauntlet.lastElapsedMs < u64Max → Told runId player preset session.sent
    actor.position actor.health actor.maxHealth shown

/-- What the client shows, compared with the player and what the session is at. -/
abbrev Showing : Type := Actor → Option View → ChallengeState → GauntletRuntime → Prop

def Standing (runId player : Nat) (preset : Preset) (shows : Showing) (session : Session) : Prop :=
  ∃ actor shown, Held runId player preset session actor shown ∧
    shows actor shown session.state session.gauntlet

/-- The client shows what the session is at. -/
def Shows (preset : Preset) : Showing := fun _ shown state runtime =>
  ∃ view, shown = some view ∧ Current preset view state runtime

/-- What the client shows may be followed by what the session is at. -/
structure Owes (preset : Preset) (view : View) (state : ChallengeState) (runtime : GauntletRuntime) :
    Prop where
  sound : runtime.lastElapsedMs < u64Max → ∃ place, view.Sound preset place
  counted : 0 < runtime.sequence
  running : view.phase.Open
  stage : shownStage runtime = view.stage
  used : runtime.world.reserveUsed = view.reserveUsed
  left : view.phase = .transfer → viewPhase state runtime.world.phase = .transfer ∨
    viewPhase state runtime.world.phase = .abandoned
  later : view.sequence < runtime.sequence ∨
    (view.sequence ≤ runtime.sequence ∧ viewPhase state runtime.world.phase = .abandoned)
  clock : view.elapsedMs ≤ runtime.lastElapsedMs
  nothing : runtime.recoveredHealth = 0

/-- The first state of an attempt, before which the client shows none. -/
structure Opens (preset : Preset) (actor : Actor) (state : ChallengeState)
    (runtime : GauntletRuntime) : Prop where
  fights : viewPhase state runtime.world.phase = .combat
  stage : shownStage runtime = preset.firstStage
  full : actor.health = actor.maxHealth
  nothing : runtime.recoveredHealth = 0

/-- The client is owed a state: the first one, or one that follows. -/
inductive Owing (preset : Preset) : Showing
  | first {actor : Actor} {state : ChallengeState} {runtime : GauntletRuntime}
      (counted : 0 < runtime.sequence) (opens : Opens preset actor state runtime) :
      Owing preset actor none state runtime
  | next {actor : Actor} {view : View} {state : ChallengeState} {runtime : GauntletRuntime}
      (owes : Owes preset view state runtime) : Owing preset actor (some view) state runtime

/-- What holds of a session between its operations. -/
abbrev Live (runId player : Nat) (preset : Preset) : Session → Prop :=
  Standing runId player preset (Shows preset)

/-- What holds of a session that is going to show its state. -/
abbrev Due (runId player : Nat) (preset : Preset) : Session → Prop :=
  Standing runId player preset (Owing preset)

/-! ## A stored row -/

/-- How a row leaves the world: unchanged, or with its encounter ended by the
last enemy's death or by the player's. -/
inductive Outcome (runId : Nat) (preset : Preset) (session : Session) (kind : ReplayEventKind)
    (health : Nat) (next : Session) (stage : Stage) : Prop
  | goesOn (lives : health ≠ 0) (world : next.gauntlet.world = session.gauntlet.world)
      (state : next.state = session.state)
  | ends (cause : kind = .enemyDied ∨ health = 0)
      (finished : session.gauntlet.world.Finished next.gauntlet.lastElapsedMs stage health
        next.gauntlet.world)
      (fits : Fits runId preset next.state next.gauntlet.world.phase)
      (shown : viewPhase next.state next.gauntlet.world.phase =
        worldPhase next.gauntlet.world.phase)

/-- Everything that storing one row of an encounter does. -/
structure Recorded (runId : Nat) (preset : Preset) (session : Session) (kind : ReplayEventKind)
    (health : Nat) (next : Session) : Prop where
  frame : next = { session with state := next.state, clock := next.clock, gauntlet := next.gauntlet }
  running : session.state.active.isSome = true
  outcome : ∃ stage, session.gauntlet.world.phase = .combat stage ∧
    Outcome runId preset session kind health next stage
  sequence : next.gauntlet.sequence = session.gauntlet.sequence + 1
  recovered : next.gauntlet.recoveredHealth = 0
  pending : next.gauntlet.pendingSpawn = session.gauntlet.pendingSpawn
  lastStage : next.gauntlet.lastStage = session.gauntlet.lastStage
  clock : session.gauntlet.lastElapsedMs ≤ next.gauntlet.lastElapsedMs

section Row

variable {runId : Nat} {preset : Preset} {session next : Session} {kind : ReplayEventKind}
variable {actorId took : Nat} {action : GauntletAction} {actor : Actor} {view : View}

/-- Storing a row changes the save, the clock and the run alone. -/
theorem recordGauntletCombat_frame
    (recorded : session.recordGauntletCombat kind actorId action took = .ok next) :
    next = { session with state := next.state, clock := next.clock, gauntlet := next.gauntlet } := by
  unfold Session.recordGauntletCombat at recorded
  split at recorded
  · simp only [bind_eq_ok, exists_unit, Session.persistGauntlet, pure_eq_ok] at recorded
    obtain ⟨-, -, -, -, -, -, -, -, -, -, -, rfl⟩ := recorded
    rfl
  · cases recorded

theorem recorded_spec (fits : Fits runId preset session.state session.gauntlet.world.phase)
    (own : session.own = some actor)
    (recorded : session.recordGauntletCombat kind actorId action took = .ok next) :
    Recorded runId preset session kind (healthAfter action actor.health) next := by
  unfold Session.recordGauntletCombat at recorded
  split at recorded
  · next stage fought =>
    simp only [own, bind_eq_ok, exists_unit, require_eq_ok, rejectIf_eq_ok, Option.some.injEq,
      exists_eq_left', Session.gauntletProof, pure_eq_ok, Session.persistGauntlet] at recorded
    obtain ⟨cleared, dies, world, ended, proof, ⟨run, active, -, rfl⟩, -, state, stored, rfl⟩ :=
      recorded
    obtain ⟨running, falls, clears, silent⟩ := fits_stored fits stored
    refine ⟨rfl, running, ⟨stage, fought, ?_⟩, rfl, rfl, rfl, rfl, ?_⟩
    · unfold finished at ended
      by_cases isOver : cleared = true ∨ healthAfter action actor.health = 0
      · rw [if_pos isOver] at ended
        split at ended
        · next after closed =>
          cases ended
          have finished := GauntletRun.finishEncounter_spec closed
          have result : Fits runId preset state world.phase ∧
              viewPhase state world.phase = worldPhase world.phase := by
            rw [finished.phase]
            by_cases fell : healthAfter action actor.health = 0
            · rw [if_pos fell]
              exact falls (decide_eq_true fell)
            · rw [if_neg fell]
              exact clears (decide_eq_false fell) stage (if_pos (isOver.resolve_right fell))
          refine .ends ?_ finished result.1 result.2
          · rcases isOver with isOver | fell
            · left
              by_contra other
              unfold Session.stageCleared at dies
              rw [if_neg other] at dies
              cases dies
              cases isOver
            · exact Or.inr fell
        · cases ended
      · rw [if_neg isOver] at ended
        cases ended
        obtain ⟨open', lives⟩ := not_or.mp isOver
        exact .goesOn lives rfl (silent (decide_eq_false lives) (if_neg open'))
    · change session.gauntlet.lastElapsedMs ≤ max (max _ session.gauntlet.lastElapsedMs) _
      omega
  · cases recorded

/-- After a row the client is owed the next state. -/
theorem Recorded.owes {health : Nat}
    (core : Core runId preset session.own session.state session.gauntlet actor)
    (current : Current preset view session.state session.gauntlet)
    (recorded : Recorded runId preset session kind health next) :
    Owes preset view next.state next.gauntlet := by
  obtain ⟨stage, fought, outcome⟩ := recorded.outcome
  have combat : view.phase = .combat := by
    rw [current.phase, viewPhase_running recorded.running, fought]
    rfl
  have shown : view.stage = stage := by
    rw [current.stage]
    unfold shownStage
    rw [fought]
  have counted := current.sequence
  have clock := current.clock.trans recorded.clock
  have sequence := recorded.sequence
  refine ⟨fun far => current.sound (recorded.clock.trans_lt far), by omega, Or.inl combat, ?_, ?_,
    ?_, Or.inl (by omega), clock, recorded.recovered⟩
  · rw [shown]
    unfold shownStage
    cases outcome with
    | goesOn lives world state => rw [world, fought]
    | ends cause finished fits =>
        have last := core.stage stage (Or.inl fought)
        have phase := finished.phase
        by_cases fell : health = 0
        · rw [if_pos fell] at phase
          rw [phase]
          exact recorded.lastStage.trans last
        · rw [if_neg fell] at phase
          by_cases final : stage = .prism
          · rw [if_pos final] at phase
            rw [phase, final]
          · rw [if_neg final] at phase
            rw [phase]
  · rw [current.used]
    cases outcome with
    | goesOn lives world state => rw [world]
    | ends cause finished fits => rw [finished.run]
  · intro waits
    rw [combat] at waits
    cases waits

/-- A row that ends nothing leaves what the client shows current. -/
theorem Recorded.current {health : Nat} (current : Current preset view session.state session.gauntlet)
    (recorded : Recorded runId preset session kind health next) (lives : health ≠ 0)
    (harmless : kind ≠ .enemyDied) : Current preset view next.state next.gauntlet := by
  obtain ⟨stage, fought, outcome⟩ := recorded.outcome
  cases outcome with
  | ends cause => exact absurd cause (by simp only [harmless, lives, or_self, not_false_eq_true])
  | goesOn _ world state =>
      have counted := current.sequence
      have sequence := recorded.sequence
      refine ⟨fun far => current.sound (recorded.clock.trans_lt far), current.counted, ?_, ?_, ?_,
        by omega, current.clock.trans recorded.clock⟩
      · rw [current.stage]
        unfold shownStage
        rw [world, recorded.lastStage]
      · rw [world, state]
        exact current.phase
      · rw [world]
        exact current.used

/-- The player's actor after a row, with the health that the row carries. -/
theorem Recorded.core {health : Nat} {own : Option Actor} {after : Actor}
    (core : Core runId preset session.own session.state session.gauntlet actor)
    (recorded : Recorded runId preset session kind health next)
    (found : own = some after) (position : after.position = actor.position) (maximum : after.maxHealth = actor.maxHealth)
    (carried : after.health = health) (lost : health ≤ actor.health) :
    Core runId preset own next.state next.gauntlet after := by
  obtain ⟨stage, fought, outcome⟩ := recorded.outcome
  have healthy := core.healthy
  have sequence := recorded.sequence
  have last := core.stage stage (Or.inl fought)
  refine ⟨found, by omega, ?_, ?_, ?_, ?_, ?_, ?_, ?_⟩
  · rw [carried]
    cases outcome with
    | goesOn lives world state =>
        rw [world, state, viewPhase_running recorded.running, fought]
        exact ⟨nofun, fun fell => absurd fell lives⟩
    | ends cause finished fits shown =>
        rw [shown, finished.phase]
        by_cases fell : health = 0
        · rw [if_pos fell]
          exact ⟨fun _ => fell, fun _ => rfl⟩
        · rw [if_neg fell]
          split
          · exact ⟨nofun, fun zero => absurd zero fell⟩
          · exact ⟨nofun, fun zero => absurd zero fell⟩
  · rw [position]
    cases outcome with
    | goesOn lives world state =>
        rw [world]
        exact core.sound
    | ends cause finished fits shown => exact finished.sound core.sound
  · cases outcome with
    | goesOn lives world state =>
        rw [world]
        exact core.chosen
    | ends cause finished fits shown =>
        rw [finished.run]
        exact core.chosen
  · cases outcome with
    | goesOn lives world state =>
        rw [world, state]
        exact core.fits
    | ends cause finished fits shown => exact fits
  · intro other phase
    rw [recorded.lastStage, last]
    cases outcome with
    | goesOn lives world state =>
        rw [world, fought] at phase
        rcases phase with same | same
        · exact Phase.combat.inj same
        · cases same
    | ends cause finished fits shown =>
        rw [finished.phase] at phase
        split at phase
        · rcases phase with same | same <;> cases same
        · split at phase
          · rcases phase with same | same <;> cases same
          · rcases phase with same | same
            · cases same
            · exact Phase.transfer.inj same
  · cases outcome with
    | goesOn lives world state =>
        rw [world]
        exact core.clock.trans recorded.clock
    | ends cause finished fits shown => rw [finished.run]
  · cases outcome with
    | goesOn lives world state =>
        rw [world]
        exact Or.inl ⟨stage, fought⟩
    | ends cause finished fits shown =>
        rw [carried, finished.run]
        exact Or.inr rfl

end Row

/-! ## What leaves the run alone -/

section Standing

variable {runId player : Nat} {preset : Preset} {session : Session}
variable {shows : Showing}

theorem Standing.guarded (standing : Standing runId player preset shows session) :
    Guarded player session.lastActorId session.actors session.support session.elite
      session.prism := by
  obtain ⟨_, _, held, -⟩ := standing
  exact held.guarded

theorem Standing.identity (standing : Standing runId player preset shows session) :
    session.player.actorId = player := by
  obtain ⟨_, _, held, -⟩ := standing
  exact held.identity

/-- A message about an enemy. -/
theorem Standing.tell (standing : Standing runId player preset shows session) {other : Nat}
    {message : ServerMessage} (concerns : Concerns other message)
    (apart : other ≠ player) :
    Standing runId player preset shows (session.broadcast message) := by
  obtain ⟨actor, shown, held, showing⟩ := standing
  exact ⟨actor, shown,
    { held with told := fun far => (held.told far).other concerns apart }, showing⟩

/-- A change of anything but the run, the log and the player's actor. -/
theorem Standing.reframe (standing : Standing runId player preset shows session) {next : Session}
    (same : next.player = session.player) (state : next.state = session.state)
    (gauntlet : next.gauntlet = session.gauntlet) (sent : next.sent = session.sent)
    (own : next.own = session.own)
    (guarded : Guarded player next.lastActorId next.actors next.support next.elite next.prism) :
    Standing runId player preset shows next := by
  obtain ⟨actor, shown, held, showing⟩ := standing
  refine ⟨actor, shown, ⟨?_, ?_, guarded, ?_⟩, ?_⟩
  · rw [same]
    exact held.identity
  · rw [own, state, gauntlet]
    exact held.core
  · rw [gauntlet, sent]
    exact held.told
  · rw [state, gauntlet]
    exact showing

theorem Standing.removeEnemy (standing : Standing runId player preset shows session) {actorId : Nat}
    (apart : actorId ≠ player) :
    Standing runId player preset shows (session.removeEnemy actorId) := by
  unfold Session.removeEnemy
  split
  · refine Standing.tell ?_ (.destroy { actorId }) apart
    refine standing.reframe rfl rfl rfl rfl ?_
      { standing.guarded with registry := standing.guarded.registry.destroy actorId }
    change (session.actors.destroy actorId).get session.player.actorId = _
    rw [ActorRegistry.get_destroy, if_neg (standing.identity ▸ apart.symm)]
    rfl
  · exact standing

theorem Standing.tellHit (standing : Standing runId player preset shows session) (playerId : Nat)
    {targetId : Nat} (result : DamageResult) (apart : targetId ≠ player) :
    Standing runId player preset shows (session.tellHit playerId targetId result) :=
  standing.tell (.damage _) apart

theorem Standing.tellCharge (standing : Standing runId player preset shows session) {enemyId : Nat}
    (action : Ai.Lancer.ChargeAction) (apart : enemyId ≠ player) :
    Standing runId player preset shows (session.tellCharge enemyId action) :=
  standing.tell (.update _) apart

/-- A repair of an enemy is kept and told. -/
theorem Standing.tellRepair (standing : Standing runId player preset shows session) (sourceId : Nat)
    {healed : Actor} {action : Ai.Support.RepairAction} (target : healed.id = action.targetId)
    (apart : action.targetId ≠ player) :
    Standing runId player preset shows (session.tellRepair sourceId healed action) := by
  refine Standing.tell ?_ (.repair _) apart
  refine standing.reframe rfl rfl rfl rfl ?_
    { standing.guarded with registry := standing.guarded.registry.insert _ }
  change (session.actors.insert _).get session.player.actorId = _
  rw [ActorRegistry.get_insert, standing.identity, if_neg]
  · rw [← standing.identity]
    rfl
  · intro same
    exact apart (target.symm.trans same.symm)

theorem Standing.closeSupport (standing : Standing runId player preset shows session) :
    Standing runId player preset shows session.closeSupport := by
  refine standing.reframe rfl rfl rfl rfl rfl { standing.guarded with support := ?_ }
  intro closed same
  obtain ⟨encounter, fought, rfl⟩ := Option.map_eq_some_iff.mp same
  exact standing.guarded.support encounter fought

theorem Standing.closeElite (standing : Standing runId player preset shows session) :
    Standing runId player preset shows session.closeElite := by
  refine standing.reframe rfl rfl rfl rfl rfl { standing.guarded with elite := ?_ }
  intro closed same
  obtain ⟨encounter, fought, rfl⟩ := Option.map_eq_some_iff.mp same
  exact standing.guarded.elite encounter fought

theorem Standing.closePrism (standing : Standing runId player preset shows session) :
    Standing runId player preset shows session.closePrism := by
  refine standing.reframe rfl rfl rfl rfl rfl { standing.guarded with prism := ?_ }
  intro closed same
  obtain ⟨encounter, fought, rfl⟩ := Option.map_eq_some_iff.mp same
  exact standing.guarded.prism encounter fought

theorem Standing.finishSupport (standing : Standing runId player preset shows session)
    {encounter : SupportEncounter} (lancer : encounter.lancerId ≠ player)
    (mender : encounter.menderId ≠ player) :
    Standing runId player preset shows (session.finishSupport encounter) :=
  (standing.closeSupport.removeEnemy lancer).removeEnemy mender

theorem Standing.finishElite (standing : Standing runId player preset shows session)
    {encounter : EliteEncounter} (guard : encounter.bulwarkId ≠ player)
    (partner : encounter.partnerId ≠ player) :
    Standing runId player preset shows (session.finishElite encounter) :=
  (standing.closeElite.removeEnemy guard).removeEnemy partner

end Standing

/-! ## Showing the state -/

section Tell

variable {runId player : Nat} {preset : Preset} {session : Session} {actor : Actor} {view : View}

/-- The state that a session shows, as a message of its view. -/
theorem projectGauntlet_eq
    (core : Core runId preset session.own session.state session.gauntlet actor) :
    session.projectGauntlet = session.broadcast (.challengeGauntletState
      ((viewOf session.state session.gauntlet actor).message runId session.player.actorId preset)) := by
  obtain ⟨run, latest, rfl, -, rfl⟩ := core.fits.named
  unfold Session.projectGauntlet
  rw [latest, core.own, ← gauntletState_viewOf]

/-- Showing the attempt's end or its stage changes nothing else. -/
theorem projectChallenge_eq
    (core : Core runId preset session.own session.state session.gauntlet actor) :
    ∃ stage, session.projectChallenge = Session.broadcast { session with stage }
      (.challengeGauntletState
        ((viewOf session.state session.gauntlet actor).message runId session.player.actorId
          preset)) :=
  ⟨_, @projectGauntlet_eq runId preset { session with stage := _ } actor core⟩

/-- A session whose state may be shown now: `known` is the health that the client
derived from what it was told since the last state. -/
structure Ready (runId player : Nat) (preset : Preset) (session : Session) (actor : Actor)
    (known : Nat) (shown : Option View) : Prop where
  identity : session.player.actorId = player
  core : Core runId preset session.own session.state session.gauntlet actor
  guarded : Guarded player session.lastActorId session.actors session.support session.elite
    session.prism
  told : session.gauntlet.lastElapsedMs < u64Max → Told runId player preset session.sent
    actor.position known actor.maxHealth shown
  before : session.gauntlet.lastElapsedMs < u64Max → ∀ last ∈ shown, ∃ place, last.Sound preset place
  continues : Continues preset actor.position known shown
    (viewOf session.state session.gauntlet actor)
  counted : 0 < session.gauntlet.sequence
  derived : actor.health = known + session.gauntlet.recoveredHealth
  limited : session.gauntlet.recoveredHealth ≤ transferHealth

/-- The state is taken, and then the client's view is the session's own. -/
theorem Ready.show {known : Nat} {shown : Option View} (named : 0 < runId)
    (ready : Ready runId player preset session actor known shown) :
    Live runId player preset (session.broadcast (.challengeGauntletState
      ((viewOf session.state session.gauntlet actor).message runId session.player.actorId
        preset))) := by
  refine ⟨actor, some (viewOf session.state session.gauntlet actor),
    ⟨ready.identity, ready.core, ready.guarded, ?_⟩,
    _, rfl, ready.core.view_current ready.counted ready.limited⟩
  intro far
  change Told runId player preset (session.sent ++ _) _ _ _ _
  rw [ready.identity]
  exact (ready.told far).view named (ready.before far)
    (ready.core.view_sound ready.counted ready.limited far) ready.continues ready.derived

theorem Ready.projectGauntlet {known : Nat} {shown : Option View} (named : 0 < runId)
    (ready : Ready runId player preset session actor known shown) :
    Live runId player preset session.projectGauntlet := by
  rw [projectGauntlet_eq ready.core]
  exact ready.show named

/-- What is owed is shown. -/
theorem Standing.project (named : 0 < runId) (due : Due runId player preset session) :
    Live runId player preset session.projectChallenge := by
  obtain ⟨actor, shown, held, owing⟩ := due
  have nothing : session.gauntlet.recoveredHealth = 0 := by
    cases owing with
    | first _ opens => exact opens.nothing
    | next owes => exact owes.nothing
  have ready : ∀ stage, Ready runId player preset { session with stage } actor actor.health shown := by
    intro stage
    refine ⟨held.identity, held.core, held.guarded, held.told, ?_, ?_, ?_, ?_, ?_⟩
    · intro far last same
      cases owing with
      | first => cases same
      | next owes =>
          cases same
          exact owes.sound far
    · cases owing with
      | first counted opens => exact .opens opens.stage opens.fights opens.nothing opens.full
      | next owes =>
          refine .follows owes.running ?_ owes.clock
            (.stays owes.stage owes.used owes.nothing owes.left)
          rcases owes.later with later | ⟨later, abandoned⟩
          · exact Or.inl later
          · rcases Nat.lt_or_eq_of_le later with later | same
            · exact Or.inl later
            · exact Or.inr ⟨same, abandoned⟩
    · cases owing with
      | first counted => exact counted
      | next owes => exact owes.counted
    · rw [nothing]
      rfl
    · rw [nothing]
      exact Nat.zero_le _
  obtain ⟨stage, projected⟩ := projectChallenge_eq held.core
  rw [projected]
  exact (ready stage).show named

end Tell

/-! ## A row and what it does to the player -/

/-- The player's actor after a hit. -/
def struck (actor : Actor) (damage : Nat) : Actor := { actor with health := actor.health - damage }

/-- What holds of a session whose last row carries a hit that the player's actor
has not taken yet. -/
structure Hit (runId player : Nat) (preset : Preset) (session : Session) (actor : Actor)
    (view : View) (damage : Nat) : Prop where
  identity : session.player.actorId = player
  own : session.own = some actor
  core : Core runId preset (some (struck actor damage)) session.state session.gauntlet
    (struck actor damage)
  guarded : Guarded player session.lastActorId session.actors session.support session.elite
    session.prism
  told : session.gauntlet.lastElapsedMs < u64Max → Told runId player preset session.sent
    actor.position actor.health actor.maxHealth (some view)
  owes : Owes preset view session.state session.gauntlet
  alive : actor.health ≠ 0

/-- A hit that only kills the player is shown. -/
def Struck (runId player : Nat) (preset : Preset) (damage : Nat) (session : Session) : Prop :=
  ∃ actor view, Hit runId player preset session actor view damage ∧
    (damage < actor.health → Current preset view session.state session.gauntlet)

section Hits

variable {runId player : Nat} {preset : Preset} {session next : Session} {kind : ReplayEventKind}
variable {actorId took damage : Nat} {action : GauntletAction} {actor : Actor} {view : View}

theorem Recorded.hit (held : Held runId player preset session actor (some view))
    (current : Current preset view session.state session.gauntlet)
    (recorded : Recorded runId preset session kind (actor.health - damage) next) :
    Hit runId player preset next actor view damage := by
  have same : next.player = session.player := (congrArg Session.player recorded.frame).trans rfl
  have sent : next.sent = session.sent := (congrArg Session.sent recorded.frame).trans rfl
  refine ⟨(congrArg Gateway.Participant.actorId same).trans held.identity,
    (congrArg Session.own recorded.frame).trans held.core.own, ?_, ?_, ?_,
    recorded.owes held.core current, (held.core.running recorded.running).1⟩
  · exact recorded.core held.core rfl rfl rfl rfl (Nat.sub_le _ _)
  · rw [recorded.frame]
    exact held.guarded
  · intro far
    rw [sent]
    exact held.told (recorded.clock.trans_lt far)

/-- A row that hurts nobody keeps what is held. -/
theorem Recorded.held {shown : Option View} (held : Held runId player preset session actor shown)
    (recorded : Recorded runId preset session kind actor.health next) :
    Held runId player preset next actor shown := by
  have same : next.player = session.player := (congrArg Session.player recorded.frame).trans rfl
  have sent : next.sent = session.sent := (congrArg Session.sent recorded.frame).trans rfl
  refine ⟨(congrArg Gateway.Participant.actorId same).trans held.identity, ?_, ?_, ?_⟩
  · exact recorded.core held.core ((congrArg Session.own recorded.frame).trans held.core.own) rfl
      rfl rfl (le_refl _)
  · rw [recorded.frame]
    exact held.guarded
  · intro far
    rw [sent]
    exact held.told (recorded.clock.trans_lt far)

/-- A hit of nothing was taken. -/
theorem Hit.held (hit : Hit runId player preset session actor view 0) :
    Held runId player preset session actor (some view) :=
  ⟨hit.identity, { hit.core with own := hit.own }, hit.guarded, hit.told⟩

/-- A row that is no death carries the hit it reports. -/
theorem Standing.record (live : Live runId player preset session)
    (recorded : session.recordGauntletCombat kind actorId action took = .ok next)
    (harmless : kind ≠ .enemyDied)
    (carried : ∀ actor, session.own = some actor →
      healthAfter action actor.health = actor.health - damage) :
    Struck runId player preset damage next := by
  obtain ⟨actor, _, held, view, rfl, current⟩ := live
  have row := recorded_spec held.core.fits held.core.own recorded
  rw [carried actor held.core.own] at row
  refine ⟨actor, view, row.hit held current, ?_⟩
  intro survives
  exact row.current current (Nat.sub_ne_zero_of_lt survives) harmless

/-- A row that hurts nobody leaves only its state to show, if it is a death. -/
theorem Standing.record_quiet (live : Live runId player preset session)
    (recorded : session.recordGauntletCombat kind actorId action took = .ok next)
    (quiet : ∀ health, healthAfter action health = health) :
    Due runId player preset next ∧ (kind ≠ .enemyDied → Live runId player preset next) := by
  obtain ⟨actor, _, held, view, rfl, current⟩ := live
  have row := recorded_spec held.core.fits held.core.own recorded
  rw [quiet] at row
  have alive := (held.core.running row.running).1
  have hit : Hit runId player preset next actor view 0 := Recorded.hit held current row
  refine ⟨⟨actor, some view, hit.held, .next hit.owes⟩, ?_⟩
  intro harmless
  exact ⟨actor, some view, hit.held, view, rfl, row.current current alive harmless⟩

/-- What changes between a row and its hit: neither the run nor the player. -/
theorem Struck.reframe (hit : Struck runId player preset damage session)
    (same : next.player = session.player) (state : next.state = session.state)
    (gauntlet : next.gauntlet = session.gauntlet) (sent : next.sent = session.sent)
    (own : next.own = session.own)
    (guarded : Guarded player next.lastActorId next.actors next.support next.elite next.prism) :
    Struck runId player preset damage next := by
  obtain ⟨actor, view, hit, current⟩ := hit
  refine ⟨actor, view, ⟨?_, own.trans hit.own, ?_, guarded, ?_, ?_, hit.alive⟩, ?_⟩
  · rw [same]
    exact hit.identity
  · rw [state, gauntlet]
    exact hit.core
  · rw [gauntlet, sent]
    exact hit.told
  · rw [state, gauntlet]
    exact hit.owes
  · rw [state, gauntlet]
    exact current

theorem Struck.guarded (hit : Struck runId player preset damage session) :
    Guarded player session.lastActorId session.actors session.support session.elite
      session.prism := by
  obtain ⟨_, _, hit, -⟩ := hit
  exact hit.guarded

theorem Struck.identity (hit : Struck runId player preset damage session) :
    session.player.actorId = player := by
  obtain ⟨_, _, hit, -⟩ := hit
  exact hit.identity

/-- The hit is taken and told, and the attempt's end shown if it is fatal. -/
theorem Struck.hurtPlayer (named : 0 < runId) (hit : Struck runId player preset damage session)
    (sourceId : Nat) {close : Session → Session}
    (closes : ∀ session, Due runId player preset session → Due runId player preset (close session)) :
    Live runId player preset
      (session.hurtPlayer sourceId player damage close) := by
  obtain ⟨actor, view, hit, current⟩ := hit
  unfold Session.hurtPlayer
  by_cases missed : damage = 0
  · rw [if_pos missed]
    subst missed
    exact ⟨actor, some view, hit.held, view, rfl, current (Nat.pos_of_ne_zero hit.alive)⟩
  · rw [if_neg missed]
    have own : (session.actors.applyDamage player damage).get player =
        some (struck actor damage) := by
      rw [ActorRegistry.get_applyDamage, if_pos rfl, ← hit.identity]
      exact congrArg (Option.map _) hit.own
    dsimp only
    rw [own]
    have held : Held runId player preset
        ({ session with
            actors := session.actors.applyDamage player damage }.broadcast
          (.damageApplied
            { sourceActorId := sourceId, targetActorId := player, damage
              remainingHealth := actor.health - damage, killed := actor.health - damage == 0 }))
        (struck actor damage) (some view) := by
      have found : (session.actors.applyDamage player damage).get session.player.actorId =
          some (struck actor damage) := by
        rw [hit.identity]
        exact own
      refine ⟨hit.identity, { hit.core with own := found },
        { hit.guarded with registry := hit.guarded.registry.applyDamage _ _ }, ?_⟩
      intro far
      exact (hit.told far).hurt _ rfl
    change Live runId player preset (if actor.health - damage = 0 then _ else _)
    split
    · refine Standing.project named (closes _ ?_)
      exact Standing.reframe ⟨_, some view, held, .next hit.owes⟩ rfl rfl rfl rfl rfl held.guarded
    · next survives =>
      exact ⟨_, some view, held, view, rfl, current (by omega)⟩

end Hits

end Gauntlet
end Agreement
end Revenant
