import Revenant.Agreement.GauntletMoves

namespace Revenant
namespace Agreement
namespace Gauntlet

open Library Challenges Challenges.Gauntlet Client.World Gateway.Gauntlet Protocol Replay

/-!
# Relay Gauntlet on both sides

Every operation of the gateway leaves a session `Live`: the client took all that
was sent and shows what the session is at.  The one operation that may fail to
is giving up right after the reserve restored health: the state that is shown
then reports the recovery a second time, to a client that has counted it.

The condition is on the session before the abandonment, and it is exact: a
session outside it sends a state that the client refuses.  Presets and
equipment change the numbers and the stages and nothing of the argument.
-/

section Run

variable {runId player : Nat} {preset : Preset} {session next : Session}

/-- Time passes without a change of the session. -/
theorem Standing.wait (live : Live runId player preset session) (clock : Nat) :
    Live runId player preset { session with clock } :=
  live.reframe rfl rfl rfl rfl rfl live.guarded

/-- Giving up is the one request that a recovery may spoil. -/
def Restful (session : Session) (request : Session.Request) : Prop :=
  (∃ playerId intent, request = .abandon playerId intent) → session.gauntlet.recoveredHealth = 0

theorem Standing.step (named : 0 < runId) (live : Live runId player preset session)
    {input : Session.Input} (restful : Restful session input.request)
    (stepped : session.step input = .ok next) : Live runId player preset next := by
  obtain ⟨waited, request, pace⟩ := input
  have waits := live.wait (session.clock + waited)
  cases request with
  | tickGauntlet => exact waits.tickGauntlet named stepped
  | tickPrism => exact waits.tickPrism named stepped
  | tickElite => exact waits.tickElite named stepped
  | tickSupport => exact waits.tickSupport named stepped
  | move playerId position => exact waits.moveGauntlet named stepped
  | observe playerId => exact waits.gauntletStepAt named (Nat.le_max_right _ _) stepped
  | attack playerId targetId => exact waits.attack named stepped
  | abandon playerId intent =>
      exact waits.abandonChallenge named (restful ⟨playerId, intent, rfl⟩) stepped

/-! ## An attempt that is over -/

/-- An attempt that was given up. -/
structure Over (session : Session) : Prop where
  ended : session.state.active = none
  failed : session.stage = .failed

theorem projectGauntlet_same (session : Session) :
    session.projectGauntlet.state = session.state ∧ session.projectGauntlet.stage = session.stage := by
  unfold Session.projectGauntlet
  split <;> exact ⟨rfl, rfl⟩

section Abandon

variable {playerId : Nat} {intent : Session.ChallengeAbandonIntent} {pace : Pace}

theorem abandonChallenge_running
    (abandoned : session.abandonChallenge playerId intent pace = .ok next) :
    session.state.active ≠ none := by
  unfold Session.abandonChallenge at abandoned
  simp only [bind_eq_ok, exists_unit, rejectIf_eq_ok] at abandoned
  obtain ⟨-, -, state, committed, -⟩ := abandoned
  obtain ⟨run, active, -⟩ := commit_end committed
  rw [active]
  rintro ⟨⟩

theorem abandonChallenge_gauntlet
    (abandoned : session.abandonChallenge playerId intent pace = .ok next) :
    next.gauntlet = session.gauntlet := by
  unfold Session.abandonChallenge at abandoned
  simp only [bind_eq_ok, exists_unit, rejectIf_eq_ok, pure_eq_ok] at abandoned
  obtain ⟨-, -, state, -, rfl⟩ := abandoned
  unfold Session.projectChallenge Session.projectGauntlet
  dsimp only
  split <;> rfl

theorem abandonChallenge_over
    (abandoned : session.abandonChallenge playerId intent pace = .ok next) : Over next := by
  unfold Session.abandonChallenge at abandoned
  simp only [bind_eq_ok, exists_unit, rejectIf_eq_ok, pure_eq_ok] at abandoned
  obtain ⟨-, -, state, committed, rfl⟩ := abandoned
  obtain ⟨run, -, -, isOver, last⟩ := commit_end committed
  unfold Session.projectChallenge
  obtain ⟨sameState, sameStage⟩ := projectGauntlet_same { session with
    state, clock := session.clock + pace.firstWrite
    stage := if state.active.isSome then session.stage
      else if lastOutcome state = some .completed then .complete else .failed }
  refine ⟨(congrArg ChallengeState.active sameState).trans isOver, sameStage.trans ?_⟩
  unfold lastOutcome
  rw [isOver, last]
  rfl

end Abandon

/-- Whatever comes after the end changes nothing and is told nothing. -/
theorem Over.step (isOver : Over session) {input : Session.Input}
    (stepped : session.step input = .ok next) :
    next = { session with clock := session.clock + input.waited } := by
  obtain ⟨waited, request, pace⟩ := input
  have ended : ({ session with clock := session.clock + waited } : Session).state.active = none :=
    isOver.ended
  have failed : ({ session with clock := session.clock + waited } : Session).stage = .failed :=
    isOver.failed
  change Session.perform { session with clock := session.clock + waited } request pace = .ok next
    at stepped
  generalize ({ session with clock := session.clock + waited } : Session) = waiting at *
  cases request with
  | tickGauntlet =>
      dsimp only [Session.perform] at stepped
      unfold Session.tickGauntlet at stepped
      rw [if_pos ended] at stepped
      exact (Except.ok.inj stepped).symm
  | tickPrism =>
      dsimp only [Session.perform] at stepped
      unfold Session.tickPrism at stepped
      cases fought : waiting.prism with
      | none =>
          simp only [fought] at stepped
          exact (Except.ok.inj stepped).symm
      | some encounter =>
          simp only [fought, failed, or_true, if_true] at stepped
          exact (Except.ok.inj stepped).symm
  | tickElite =>
      dsimp only [Session.perform] at stepped
      unfold Session.tickElite at stepped
      cases fought : waiting.elite with
      | none =>
          simp only [fought] at stepped
          exact (Except.ok.inj stepped).symm
      | some encounter =>
          simp only [fought, failed, or_true, if_true] at stepped
          exact (Except.ok.inj stepped).symm
  | tickSupport =>
      dsimp only [Session.perform] at stepped
      unfold Session.tickSupport at stepped
      cases fought : waiting.support with
      | none =>
          simp only [fought] at stepped
          exact (Except.ok.inj stepped).symm
      | some encounter =>
          simp only [fought, failed, or_true, if_true] at stepped
          exact (Except.ok.inj stepped).symm
  | move playerId position =>
      dsimp only [Session.perform] at stepped
      unfold Session.moveGauntlet Session.gauntletStepAt at stepped
      rw [if_pos ended] at stepped
      exact (Except.ok.inj stepped).symm
  | observe playerId =>
      dsimp only [Session.perform] at stepped
      unfold Session.gauntletStepAt at stepped
      rw [if_pos ended] at stepped
      exact (Except.ok.inj stepped).symm
  | attack playerId targetId =>
      dsimp only [Session.perform] at stepped
      unfold Session.attack at stepped
      rw [if_pos ended] at stepped
      exact (Except.ok.inj stepped).symm
  | abandon playerId intent =>
      exact absurd ended (abandonChallenge_running stepped)

theorem Over.later (isOver : Over session) (clock : Nat) : Over { session with clock } :=
  ⟨isOver.ended, isOver.failed⟩

theorem Over.steps {inputs : List Session.Input} (isOver : Over session)
    (ran : session.steps inputs = .ok next) : ∃ clock, next = { session with clock } := by
  induction inputs generalizing session with
  | nil =>
      cases ran
      exact ⟨_, rfl⟩
  | cons input rest inductionHypothesis =>
      obtain ⟨first, stepped, ran⟩ := bind_eq_ok.mp ran
      obtain rfl := isOver.step stepped
      obtain ⟨clock, rfl⟩ := inductionHypothesis (isOver.later _) ran
      exact ⟨clock, rfl⟩

/-- A recovery that is reported twice is refused: the client knows the health that
it led to. -/
theorem abandon_refused (live : Live runId player preset session)
    (far : session.gauntlet.lastElapsedMs < u64Max) {playerId : Nat}
    {intent : Session.ChallengeAbandonIntent} {pace : Pace}
    (restored : session.gauntlet.recoveredHealth ≠ 0)
    (abandoned : session.abandonChallenge playerId intent pace = .ok next) :
    ∀ client, feed (hear runId preset.asStr) (joinWorld player) next.sent ≠ .ok client := by
  obtain ⟨actor, _, held, view, rfl, current⟩ := live
  obtain ⟨state, clock, rfl, gaveUp⟩ := abandonChallenge_ok held abandoned
  obtain ⟨stage, projected⟩ :=
    @projectChallenge_eq runId preset { session with state, clock } actor gaveUp.core
  intro client heard
  obtain ⟨-, known, before, knows, -, shows⟩ := held.told far
  rw [projected] at heard
  change feed _ _ (session.sent ++ [_]) = _ at heard
  rw [feed_append_of_ok before, feed_cons, bind_eq_ok] at heard
  obtain ⟨next, taken, -⟩ := heard
  obtain ⟨own, found, isDict, placed⟩ := knows.actor
  have self : known.player = .ok (own, (actor.health : Int), .integer actor.maxHealth) := by
    unfold AuthoritativeState.player
    rw [knows.own, found, knows.health, knows.maximum]
    rfl
  change known.applyGauntletState (View.value _ runId _ preset) runId preset.asStr = _ at taken
  unfold AuthoritativeState.applyGauntletState at taken
  simp only [bind_eq_ok, exists_unit, require_eq_ok, rejectIf_eq_ok, self, Except.ok.injEq] at taken
  obtain ⟨-, _, rfl, shownStage, -, -, phase, -, sequence, -, earlier, -, -, taken⟩ := taken
  rw [if_neg] at taken
  · unfold AuthoritativeState.validGauntletHealth at taken
    simp only [bind_eq_ok, exists_unit, rejectIf_eq_ok, pure_eq_ok] at taken
    obtain ⟨_, ⟨health, read, limit, -, recovered, given, -, derived, -⟩, -⟩ := taken
    cases read
    cases given
    apply derived
    right
    right
    change (actor.health : Int) ≠ actor.health + session.gauntlet.recoveredHealth
    omega
  · rw [shows]
    intro same
    have phase := congrArg (fun value => value.get "phase") same
    change Variant.text (viewPhase state session.gauntlet.world.phase).text = .text view.phase.text
      at phase
    rw [Variant.text.injEq, ViewPhase.text_inj, gaveUp.phase, current.phase] at phase
    obtain open' := (held.core.running gaveUp.running).2
    rw [← phase] at open'
    rcases open' with impossible | impossible <;> cases impossible

end Run

/-! ## Runs -/

/-- The client of a session took every message in its turn, and shows what the run
is at: its stage, its phase, the player's health and the reserve flag. -/
structure Agrees (runId player : Nat) (preset : Preset) (session : Session) : Prop where
  followed : Followed runId player preset session.sent
  shows : ∃ client actor,
    feed (hear runId preset.asStr) (joinWorld player) session.sent = .ok client ∧
    session.own = some actor ∧ client.actorHealth player = some (.integer actor.health) ∧
    ((∃ stage, session.gauntlet.world.phase = .combat stage) ∨
      actor.health = session.gauntlet.world.health) ∧
    client.gauntletState.get "stage" = .integer (stageNumber (shownStage session.gauntlet)) ∧
    client.gauntletState.get "phase" =
      .text (shownPhase session.state session.gauntlet.world.phase) ∧
    ∃ modifier,
      AuthoritativeState.readModifier (AuthoritativeState.modifierOf client.gauntletState) =
        .ok modifier ∧ modifier.reserveUsed = session.gauntlet.world.reserveUsed

/-- No attempt of a run is given up while the last recorded step restored health
from the reserve. -/
def Rested (opened : Session) (inputs : List Session.Input) : Prop :=
  ∀ before input after reached, inputs = before ++ input :: after →
    opened.steps before = .ok reached → Restful reached input.request

section Runs

variable {runId player : Nat} {preset : Preset} {opened session : Session}
variable {inputs before after : List Session.Input} {input : Session.Input}

theorem Standing.agrees (live : Live runId player preset session)
    (far : session.gauntlet.lastElapsedMs < u64Max) : Agrees runId player preset session := by
  obtain ⟨actor, _, held, view, rfl, current⟩ := live
  obtain ⟨followed, client, heard, knows, -, shows⟩ := held.told far
  obtain ⟨place, sound⟩ := current.sound far
  refine ⟨followed, client, actor, heard, held.core.own, knows.health, held.core.agreed, ?_, ?_,
    view.read preset, ?_, current.used⟩
  · rw [shows, ← current.stage]
    rfl
  · rw [shows, ← viewPhase_text, ← current.phase]
    rfl
  · rw [shows]
    exact readModifier_value sound runId player

theorem steps_append (opened : Session) (before after : List Session.Input) :
    opened.steps (before ++ after) = opened.steps before >>= fun reached => reached.steps after := by
  unfold Session.steps
  exact List.foldlM_append

/-- A run goes through every session that its inputs reach. -/
theorem steps_through {reached : Session} (ran : opened.steps (before ++ input :: after) = .ok session)
    (reachedRan : opened.steps before = .ok reached) :
    ∃ next, reached.step input = .ok next ∧ next.steps after = .ok session := by
  rw [steps_append, reachedRan] at ran
  exact bind_eq_ok.mp (show (reached.step input >>= fun next => next.steps after) = _ from ran)

/-- Along a run in which no abandonment follows a recovery, the session stays live. -/
theorem Standing.steps (named : 0 < runId) (live : Live runId player preset opened)
    (rested : Rested opened inputs) (ran : opened.steps inputs = .ok session) :
    Live runId player preset session := by
  induction inputs using List.reverseRecOn generalizing session with
  | nil =>
      cases ran
      exact live
  | append_singleton before input inductionHypothesis =>
      rw [steps_append, bind_eq_ok] at ran
      obtain ⟨reached, ran, last⟩ := ran
      obtain ⟨next, stepped, same⟩ := bind_eq_ok.mp last
      cases same
      have earlier : Rested opened before := by
        rintro first other later middle rfl middleRan
        exact rested first other (later ++ [input]) middle (by simp) middleRan
      exact (inductionHypothesis earlier ran).step named (rested before input [] reached rfl ran)
        stepped

/-- The first abandonment of a run is its only one. -/
theorem rested_before {reached : Session} (ran : opened.steps before = .ok reached)
    (running : reached.state.active ≠ none) : Rested opened before := by
  rintro first ⟨waited, request, pace⟩ later middle rfl middleRan ⟨playerId, intent, rfl⟩
  obtain ⟨next, stepped, ran⟩ := steps_through ran middleRan
  have gaveUp : Session.abandonChallenge { middle with clock := middle.clock + waited } playerId
    intent pace = .ok next := stepped
  have isOver : Over next := abandonChallenge_over gaveUp
  obtain ⟨clock, rfl⟩ := isOver.steps ran
  exact absurd isOver.ended running

/-- The client agrees with every session that a run reaches if, and only if, the
run gives nothing up right after a recovery. -/
theorem agrees_iff (named : 0 < runId) (live : Live runId player preset opened)
    (ran : opened.steps inputs = .ok session) (far : session.gauntlet.lastElapsedMs < u64Max) :
    Agrees runId player preset session ↔ Rested opened inputs := by
  constructor
  · intro agrees before input after reached split reachedRan asked
    by_contra restored
    obtain ⟨waited, request, pace⟩ := input
    obtain ⟨playerId, intent, rfl⟩ := asked
    rw [split] at ran
    obtain ⟨next, stepped, ran⟩ := steps_through ran reachedRan
    have gaveUp : Session.abandonChallenge { reached with clock := reached.clock + waited } playerId
      intent pace = .ok next := stepped
    have running := abandonChallenge_running gaveUp
    have isOver : Over next := abandonChallenge_over gaveUp
    have waiting := (live.steps named (rested_before reachedRan running) reachedRan).wait
      (reached.clock + waited)
    obtain ⟨clock, rfl⟩ := isOver.steps ran
    have kept : next.gauntlet = reached.gauntlet :=
      (abandonChallenge_gauntlet gaveUp).trans rfl
    have bounded : reached.gauntlet.lastElapsedMs < u64Max := by
      rw [← kept]
      exact far
    obtain ⟨client, -, heard, -⟩ := agrees.shows
    exact abandon_refused waiting bounded restored gaveUp client heard
  · intro rested
    exact (live.steps named rested ran).agrees far

end Runs

/-- A client of Relay Gauntlet takes every message of its session and shows what the
run is at, whatever the preset and the equipment and in whatever order the
session's own ticks and the player's commands come, if and only if the attempt is
not given up while the last recorded step restored health from the reserve. -/
theorem gauntlet_projection {entry : Session.ChallengeEntry} {before : ChallengeState} {clock : Nat}
    {pace : Pace} {opened session : Session} {inputs : List Session.Input}
    (entered : Session.enterGauntlet entry before clock pace = .ok opened)
    (ran : opened.steps inputs = .ok session) (far : session.gauntlet.lastElapsedMs < u64Max) :
    ∃ run, opened.state.latestRun = some run ∧ run.rules.contract = .relayGauntlet ∧
      run.rules.preset = entry.preset ∧
      (Agrees run.runId entry.playerId entry.preset session ↔ Rested opened inputs) := by
  obtain ⟨runId, named, live⟩ := enterGauntlet_live entered
  obtain ⟨run, latest, rfl, contract, preset⟩ : ∃ run, opened.state.latestRun = some run ∧
      run.runId = runId ∧ run.rules.contract = .relayGauntlet ∧ run.rules.preset = entry.preset := by
    obtain ⟨_, _, held, -⟩ := live
    exact held.core.fits.named
  exact ⟨run, latest, contract, preset, agrees_iff named live ran far⟩

/-! ## A recovery that is reported twice -/

/-- A first entry with the single reserve. -/
def reserveEntry : Session.ChallengeEntry :=
  { accountId := "account", playerId := 1, policy := .modifier, preset := .singleReserve
    retryRunId := none, expectedRevision := 0, loadoutRevision := 1, loadout := []
    equipped := .coilLance, contentCapable := true, supportCapable := true, eliteCapable := true
    prismCapable := true }

/-- Writes that take a millisecond, and no other session. -/
def promptPace : Pace := { firstWrite := 1, secondWrite := 1, firstSkipped := 0, secondSkipped := 0 }

/-- One turn of the session thread, and then the player's commands. -/
def turn (waited : Nat) (commands : List Session.Request) : List Session.Input :=
  ⟨waited, .tickGauntlet, promptPace⟩ ::
    (.tickPrism :: .tickElite :: .tickSupport :: commands).map
      (fun request => ⟨0, request, promptPace⟩)

/-- The player is hit by one charge, clears the first pair, and rests on the pad of
the reserve until it restores what was lost. -/
def restedTurns : List Session.Input :=
  turn 50 [.move 1 ⟨2, 0, 7⟩] ++ turn 50 [.move 1 ⟨2, 0, 8⟩, .attack 1 3] ++
    turn 400 [.attack 1 3] ++ turn 400 [.attack 1 3] ++ turn 400 [.attack 1 2] ++
    turn 400 [.attack 1 2] ++ turn 400 [.attack 1 2] ++ turn 400 [.attack 1 2] ++
    turn 400 [.attack 1 2] ++ turn 50 [.move 1 ⟨2, 0, 7⟩] ++ turn 50 [.move 1 ⟨2, 0, 6⟩] ++
    turn 50 [.move 1 ⟨3, 0, 6⟩] ++ turn 1201 []

/-- Then the attempt is given up. -/
def givenUpTurns : List Session.Input :=
  restedTurns ++ turn 50 [.abandon 1 { runId := 1, expectedRevision := 2 }]

/-- What the client of a run makes of its log, with the run's own clock and health. -/
def outcome (inputs : List Session.Input) : Option (Nat × Nat × Bool) :=
  match Session.enterGauntlet reserveEntry .default 0 promptPace with
  | .error _ => none
  | .ok opened =>
      match opened.steps inputs with
      | .error _ => none
      | .ok session =>
          some (session.gauntlet.lastElapsedMs, session.gauntlet.world.health,
            (feed (hear 1 Preset.singleReserve.asStr) (joinWorld 1) session.sent).toOption.isSome)

/-- What a run makes of its log comes from its sessions. -/
theorem outcome_some {inputs : List Session.Input} {elapsedMs health : Nat} {taken : Bool}
    (found : outcome inputs = some (elapsedMs, health, taken)) :
    ∃ opened session, Session.enterGauntlet reserveEntry .default 0 promptPace = .ok opened ∧
      opened.steps inputs = .ok session ∧ session.gauntlet.lastElapsedMs = elapsedMs ∧
      (feed (hear 1 Preset.singleReserve.asStr) (joinWorld 1) session.sent).toOption.isSome =
        taken := by
  unfold outcome at found
  split at found
  · cases found
  · next opened entered =>
    split at found
    · cases found
    · next session ran =>
      cases found
      exact ⟨opened, session, entered, ran, rfl, rfl⟩

theorem restedTurns_taken : outcome restedTurns = some (4267, 100, true) := by decide +kernel

theorem givenUpTurns_refused : outcome givenUpTurns = some (4267, 100, false) := by decide +kernel

/-- Until then the client agrees with the run. -/
theorem gauntlet_projection_rested :
    ∃ opened session, Session.enterGauntlet reserveEntry .default 0 promptPace = .ok opened ∧
      opened.steps restedTurns = .ok session ∧ ∃ run, opened.state.latestRun = some run ∧
        run.rules.contract = .relayGauntlet ∧ run.rules.preset = .singleReserve ∧
        (Agrees run.runId 1 .singleReserve session ↔ Rested opened restedTurns) := by
  obtain ⟨opened, session, entered, ran, elapsed, -⟩ := outcome_some restedTurns_taken
  refine ⟨opened, session, entered, ran, gauntlet_projection entered ran ?_⟩
  rw [elapsed]
  decide

/-- The abandonment is accepted, and the client refuses the state that tells it. -/
theorem gauntlet_projection_givenUp :
    ∃ opened session, Session.enterGauntlet reserveEntry .default 0 promptPace = .ok opened ∧
      opened.steps givenUpTurns = .ok session ∧ session.gauntlet.lastElapsedMs < u64Max ∧
      ¬ Agrees 1 1 .singleReserve session := by
  obtain ⟨opened, session, entered, ran, elapsed, refused⟩ := outcome_some givenUpTurns_refused
  refine ⟨opened, session, entered, ran, ?_, ?_⟩
  · rw [elapsed]
    decide
  · intro agrees
    obtain ⟨client, -, heard, -⟩ := agrees.shows
    change (feed (hear (1 : Nat) Preset.singleReserve.asStr) (joinWorld (1 : Nat)) _).toOption.isSome =
      false at refused
    rw [heard] at refused
    cases refused

end Gauntlet
end Agreement
end Revenant
