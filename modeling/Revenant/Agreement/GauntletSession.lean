import Revenant.Agreement.GauntletState
import Revenant.Gateway.GauntletCombat

namespace Revenant
namespace Agreement
namespace Gauntlet

open Library Challenges Challenges.Gauntlet Client.World Gateway.Gauntlet Protocol Replay

/-!
# What a gauntlet session keeps

`Told` is what the client makes of everything the session sent.  `Fits` ties the
save to the phase of the world, `Core` the player's actor to both, and
`Recorded` is everything that storing one row of an encounter does.

An operation is the composition of a few parts, each of which keeps `Live` by
one lemma of `GauntletSteps`.
-/

/-! ## What was told -/

/-- Every state of a log is taken in its turn; then the client shows it, and knows
the health that it reports. -/
def Followed (runId player : Nat) (preset : Preset) (sent : List ServerMessage) : Prop :=
  ∀ before message after, sent = before ++ .challengeGauntletState message :: after →
    ∃ client, feed (hear runId preset.asStr) (joinWorld player)
        (before ++ [.challengeGauntletState message]) = .ok client ∧
      client.gauntletState = (ServerMessage.challengeGauntletState message).serialize ∧
      client.actorHealth player = some (.integer message.health)

/-- The client took every message; it knows the player so, and shows this view. -/
def Told (runId player : Nat) (preset : Preset) (sent : List ServerMessage) (position : Position)
    (health maximum : Nat) (shown : Option View) : Prop :=
  Followed runId player preset sent ∧
    ∃ client, feed (hear runId preset.asStr) (joinWorld player) sent = .ok client ∧
      Knows client player position health maximum ∧ Paired client ∧
      client.gauntletState = shownValue runId player preset shown

section Told

variable {runId player : Nat} {preset : Preset} {sent : List ServerMessage} {position : Position}
variable {health maximum : Nat} {shown : Option View}

theorem feed_snoc {client next : AuthoritativeState} {message : ServerMessage}
    (heard : feed (hear runId preset.asStr) (joinWorld player) sent = .ok client)
    (taken : hear runId preset.asStr client message = .ok next) :
    feed (hear runId preset.asStr) (joinWorld player) (sent ++ [message]) = .ok next :=
  (feed_append_of_ok heard).trans ((feed_cons_of_ok taken).trans (feed_nil _))

/-- One more message, which is followed if it is a state. -/
theorem Followed.snoc (followed : Followed runId player preset sent) {message : ServerMessage}
    (new : ∀ state, message = .challengeGauntletState state →
      ∃ client, feed (hear runId preset.asStr) (joinWorld player)
          (sent ++ [.challengeGauntletState state]) = .ok client ∧
        client.gauntletState = (ServerMessage.challengeGauntletState state).serialize ∧
        client.actorHealth player = some (.integer state.health)) :
    Followed runId player preset (sent ++ [message]) := by
  intro before state after split
  rcases List.eq_nil_or_concat after with rfl | ⟨rest, last, rfl⟩
  · obtain ⟨rfl, same⟩ := List.append_inj' split rfl
    exact new state (List.singleton_inj.mp same)
  · rw [List.concat_eq_append, ← List.cons_append, ← List.append_assoc] at split
    obtain ⟨rfl, -⟩ := List.append_inj' split rfl
    exact followed before state rest rfl

/-- A message about another actor changes nothing of it. -/
theorem Told.other (told : Told runId player preset sent position health maximum shown)
    {other : Nat} {message : ServerMessage} (concerns : Concerns other message)
    (apart : other ≠ player) :
    Told runId player preset (sent ++ [message]) position health maximum shown := by
  obtain ⟨followed, client, heard, knows, paired, shows⟩ := told
  obtain ⟨next, taken, pairedNext, same⟩ := hear_concerned runId preset.asStr paired concerns
  have unconcerned := same (by
    rw [knows.own]
    exact fun equal => apart (Int.ofNat.inj equal).symm)
  refine ⟨followed.snoc ?_, next, feed_snoc heard taken, unconcerned.knows knows, pairedNext,
    unconcerned.gauntlet.trans shows⟩
  rintro state rfl
  cases concerns

/-- A move of the player leaves its new place. -/
theorem Told.move (told : Told runId player preset sent position health maximum shown)
    (message : ActorUpdate) (own : message.actorId = player) :
    Told runId player preset (sent ++ [.actorUpdate message]) message.position health maximum
      shown := by
  obtain ⟨followed, client, heard, knows, paired, shows⟩ := told
  obtain ⟨next, taken, knowsNext, -, kept⟩ :=
    @hear_move _ _ _ _ _ runId preset.asStr knows message own
  obtain ⟨other, same, pairedNext, -⟩ :=
    hear_concerned runId preset.asStr paired (.update message)
  cases taken.symm.trans same
  exact ⟨followed.snoc nofun, next, feed_snoc heard taken, knowsNext, pairedNext, kept.trans shows⟩

/-- Damage of the player leaves the health that remains. -/
theorem Told.hurt (told : Told runId player preset sent position health maximum shown)
    (message : DamageApplied) (own : message.targetActorId = player) :
    Told runId player preset (sent ++ [.damageApplied message]) position message.remainingHealth
      maximum shown := by
  obtain ⟨followed, client, heard, knows, paired, shows⟩ := told
  obtain ⟨next, taken, knowsNext, -, kept⟩ :=
    @hear_damage _ _ _ _ _ runId preset.asStr knows message own
  obtain ⟨other, same, pairedNext, -⟩ :=
    hear_concerned runId preset.asStr paired (.damage message)
  cases taken.symm.trans same
  exact ⟨followed.snoc nofun, next, feed_snoc heard taken, knowsNext, pairedNext, kept.trans shows⟩

/-- A state that may follow is shown, with the health it reports. -/
theorem Told.view {view : View} (named : 0 < runId)
    (told : Told runId player preset sent position health view.maxHealth shown)
    (before : ∀ last ∈ shown, ∃ place, last.Sound preset place)
    (sound : view.Sound preset position) (continues : Continues preset position health shown view)
    (derived : view.health = health + view.recovered) :
    Told runId player preset
      (sent ++ [.challengeGauntletState (view.message runId player preset)]) position view.health
      view.maxHealth (some view) := by
  obtain ⟨followed, client, heard, knows, paired, shows⟩ := told
  have taken := hear_view named knows shows before sound continues derived
  have health : (client.settle view.health).actorHealth player = some (.integer view.health) := by
    change Function.update client.actorHealth client.playerActorId _ (player : Int) = _
    rw [knows.own, Function.update_self]
  refine ⟨followed.snoc ?_, _, feed_snoc heard taken,
    ⟨knows.own, knows.actor, health, knows.maximum⟩, ?_, rfl⟩
  · intro state same
    cases same
    exact ⟨_, feed_snoc heard taken, rfl, health⟩
  · intro actorId known
    exact isSome_update (paired actorId known)

end Told

/-! ## The save -/

/-- The save of a session whose world is in a phase. -/
structure Fits (runId : Nat) (preset : Preset) (state : ChallengeState) (phase : Phase) : Prop where
  named : ∃ run, state.latestRun = some run ∧ run.runId = runId ∧
    run.rules.contract = .relayGauntlet ∧ run.rules.preset = preset
  running : state.active.isSome = true → ∃ stage, phase = .combat stage ∨ phase = .transfer stage
  ended : state.active = none → lastOutcome state = some .abandoned ∨
    (lastOutcome state = some .completed ∧ phase = .completed) ∨
    (lastOutcome state = some .defeated ∧ phase = .defeated)

def worldPhase : Phase → ViewPhase
  | .combat _ => .combat
  | .transfer _ => .transfer
  | .completed => .completed
  | .defeated => .defeated

def viewPhase (state : ChallengeState) (phase : Phase) : ViewPhase :=
  if state.active.isSome then worldPhase phase
  else
    match lastOutcome state with
    | some .abandoned => .abandoned
    | some .interrupted => .interrupted
    | _ => worldPhase phase

theorem viewPhase_text (state : ChallengeState) (phase : Phase) :
    (viewPhase state phase).text = shownPhase state phase := by
  have world : (worldPhase phase).text = phaseText phase := by cases phase <;> rfl
  unfold viewPhase shownPhase
  split
  · exact world
  · generalize lastOutcome state = ended
    cases ended with
    | none => exact world
    | some outcome =>
        cases outcome with
        | abandoned | interrupted => rfl
        | completed | defeated => exact world

/-- While an attempt runs, its phase is the world's. -/
theorem viewPhase_running {state : ChallengeState} (running : state.active.isSome = true)
    (phase : Phase) :
    viewPhase state phase = worldPhase phase := by
  unfold viewPhase
  rw [if_pos running]

/-- The phase after a stage was cleared. -/
def afterClear (stage : Stage) : Phase := if stage = .prism then .completed else .transfer stage

def clearedObjective : Stage → Objective
  | .support => .gauntletSupportCleared
  | .bastion => .gauntletBastionCleared
  | .prism => .gauntletPrismCleared

section Save

variable {runId : Nat} {preset : Preset} {state next : ChallengeState} {phase : Phase}
variable {run : Challenges.ChallengeRun}

/-- A stored command stepped from the active run. -/
theorem commit_steps {command : Revenant.Challenges.Command}
    (committed : Gateway.Survival.commitCommand state command = .ok next) :
    ∃ policy first, next.Valid ∧ Step policy state.advanced command ⟨next, first⟩ := by
  unfold Gateway.Survival.commitCommand at committed
  split at committed
  · next stored =>
    cases committed
    obtain ⟨-, -, valid, first, stepped⟩ := Persistence.commitCommand_ok stored
    exact ⟨_, first, valid, stepped⟩
  · cases committed

/-- Ending a run ends the active one and keeps which it was. -/
theorem commit_end {reason : EndReason}
    (committed : Gateway.Survival.commitCommand state (.endRun runId reason) = .ok next) :
    ∃ run, state.active = some run ∧ run.runId = runId ∧ next.active = none ∧
      next.lastResult = some ⟨run, reason.outcome⟩ := by
  obtain ⟨_, _, _, stepped⟩ := commit_steps committed
  generalize asked : Revenant.Challenges.Command.endRun runId reason = command at stepped
  cases stepped with
  | @endRun ended _ found =>
      obtain ⟨named, same⟩ := Revenant.Challenges.Command.endRun.inj asked
      rw [same]
      exact ⟨ended, found, named.symm, rfl, rfl⟩
  | confirm _ confirms | complete _ confirms =>
      subst asked
      cases confirms
  | start | startModified | retryActive | retryEnded => cases asked

/-- Only the last objective of the gauntlet completes it. -/
theorem completes_iff {stage : Stage} {bit : BitVec 8} {elapsedMs : Option Nat}
    (contract : run.rules.contract = .relayGauntlet)
    (confirms : Confirms run (clearedObjective stage) bit elapsedMs) :
    run.completes bit = true ↔ stage = .prism := by
  have ordered : run.objectives = bit - 1 := by
    by_contra other
    refine confirms.allowed (Or.inr (Or.inr ⟨?_, other⟩))
    rw [contract]
    rfl
  have known := confirms.known
  unfold Rules.objectiveBit at known
  unfold ChallengeRun.completes ChallengeRun.mask
  rw [contract, ordered]
  rw [contract] at known
  cases first : run.rules.preset.has .bastionFirst <;> rw [first] at known <;>
    cases stage <;> cases known <;> decide

/-- A cleared stage keeps which run it was, and ends it after the last one. -/
theorem commit_clear {stage : Stage} {command : Revenant.Challenges.Command} {elapsedMs : Option Nat}
    (active : state.active = some run) (contract : run.rules.contract = .relayGauntlet)
    (asked : command.confirmation = some (run.runId, clearedObjective stage, elapsedMs))
    (committed : Gateway.Survival.commitCommand state command = .ok next) :
    ∃ after, after.runId = run.runId ∧ after.rules = run.rules ∧
      if stage = .prism then next.active = none ∧ next.lastResult = some ⟨after, .completed⟩
      else next.active = some after := by
  obtain ⟨_, _, _, stepped⟩ := commit_steps committed
  cases stepped with
  | @confirm _ held objective bit _ found confirmed confirms open' =>
      cases active.symm.trans (show state.active = some held from found)
      cases asked.symm.trans confirmed
      refine ⟨run.confirmed bit elapsedMs, rfl, rfl, ?_⟩
      rw [if_neg]
      intro final
      rw [(completes_iff contract confirms).mpr final] at open'
      cases open'
  | @complete _ held objective bit _ found confirmed confirms full =>
      cases active.symm.trans (show state.active = some held from found)
      cases asked.symm.trans confirmed
      refine ⟨run.confirmed bit elapsedMs, rfl, rfl, ?_⟩
      rw [if_pos ((completes_iff contract confirms).mp full)]
      exact ⟨rfl, rfl⟩
  | start | startModified | retryActive | retryEnded | endRun => cases asked

/-- The command of a row that clears a stage. -/
theorem commandFor_clear {proof : GauntletEvidence} (rules : Rules) {stage : Stage}
    (lives : proof.effect.defeated = false) (cleared : proof.effect.cleared = some stage) :
    ∃ command elapsedMs, proof.commandFor rules = some command ∧
      command.confirmation = some (proof.runId, clearedObjective stage, elapsedMs) := by
  unfold GauntletEvidence.commandFor GauntletEvidence.command
  rw [lives, cleared]
  cases stage with
  | support | bastion => exact ⟨_, _, rfl, rfl⟩
  | prism =>
      by_cases timed : (rules.preset.timeGoalMs rules.contract).isSome = true
      · exact ⟨_, some proof.elapsedMs, if_pos timed, rfl⟩
      · exact ⟨_, none, if_neg timed, rfl⟩

/-- The save after a stored row: the same, or with its stage or its defeat. -/
theorem fits_stored {proof : GauntletEvidence} (fits : Fits runId preset state phase)
    (stored : applyChallengeGauntletStep state proof = .ok next) :
    state.active.isSome = true ∧
    (proof.effect.defeated = true →
      Fits runId preset next .defeated ∧ viewPhase next .defeated = .defeated) ∧
    (proof.effect.defeated = false → ∀ stage, proof.effect.cleared = some stage →
      Fits runId preset next (afterClear stage) ∧
        viewPhase next (afterClear stage) = worldPhase (afterClear stage)) ∧
    (proof.effect.defeated = false → proof.effect.cleared = none → next = state) := by
  obtain ⟨run, latest, named, contract, chosen⟩ := fits.named
  unfold applyChallengeGauntletStep at stored
  simp only [bind_eq_ok, exists_unit, require_eq_ok, rejectIf_eq_ok, not_or, not_not] at stored
  obtain ⟨held, active, ⟨same, -⟩, stored⟩ := stored
  have current : held = run := by
    unfold ChallengeState.latestRun at latest
    rw [active] at latest
    exact Option.some.inj latest
  subst current
  refine ⟨by rw [active]; rfl, ?_, ?_, ?_⟩
  · intro fell
    have asked : proof.commandFor held.rules = some (.endRun held.runId .defeated) := by
      unfold GauntletEvidence.commandFor GauntletEvidence.command
      rw [fell, same]
      rfl
    rw [asked] at stored
    obtain ⟨ended, found, -, isOver, last⟩ := commit_end stored
    cases active.symm.trans found
    have outcome : lastOutcome next = some .defeated := by
      unfold lastOutcome
      rw [last]
      rfl
    refine ⟨⟨⟨held, ?_, named, contract, chosen⟩, ?_, fun _ => Or.inr (Or.inr ⟨outcome, rfl⟩)⟩, ?_⟩
    · unfold ChallengeState.latestRun
      rw [isOver, last]
      rfl
    · rw [isOver]
      rintro ⟨⟩
    · unfold viewPhase
      rw [isOver, outcome]
      rfl
  · intro lives stage cleared
    obtain ⟨command, elapsedMs, asked, confirms⟩ := commandFor_clear held.rules lives cleared
    rw [asked] at stored
    rw [← same] at confirms
    obtain ⟨after, sameRun, sameRules, result⟩ := commit_clear active contract confirms stored
    have identity : after.runId = runId ∧ after.rules.contract = .relayGauntlet ∧
        after.rules.preset = preset := by
      rw [sameRun, sameRules]
      exact ⟨named, contract, chosen⟩
    unfold afterClear
    by_cases final : stage = .prism
    · rw [if_pos final] at result ⊢
      obtain ⟨isOver, last⟩ := result
      have outcome : lastOutcome next = some .completed := by
        unfold lastOutcome
        rw [last]
        rfl
      refine ⟨⟨⟨after, ?_, identity⟩, ?_, fun _ => Or.inr (Or.inl ⟨outcome, rfl⟩)⟩, ?_⟩
      · unfold ChallengeState.latestRun
        rw [isOver, last]
        rfl
      · rw [isOver]
        rintro ⟨⟩
      · unfold viewPhase
        rw [isOver, outcome]
        rfl
    · rw [if_neg final] at result ⊢
      refine ⟨⟨⟨after, ?_, identity⟩, fun _ => ⟨stage, Or.inr rfl⟩, ?_⟩, viewPhase_running ?_ _⟩
      · unfold ChallengeState.latestRun
        rw [result]
      · rw [result]
        rintro ⟨⟩
      · rw [result]
        rfl
  · intro lives open'
    have silent : proof.commandFor held.rules = none := by
      unfold GauntletEvidence.commandFor GauntletEvidence.command
      rw [lives, open']
      rfl
    rw [silent] at stored
    exact (pure_eq_ok.mp stored).symm

end Save

/-! ## The session and its view -/

/-- The view of a session whose player is this actor. -/
def viewOf (state : ChallengeState) (runtime : GauntletRuntime) (actor : Actor) : View :=
  { sequence := runtime.sequence, stage := shownStage runtime
    phase := viewPhase state runtime.world.phase, health := actor.health
    maxHealth := actor.maxHealth, recovered := runtime.recoveredHealth
    transferHold := if state.active.isSome then runtime.world.transferRemainingMs else none
    reserveHold := if state.active.isSome then runtime.world.reserveRemainingMs else none
    reserveUsed := runtime.world.reserveUsed, elapsedMs := runtime.lastElapsedMs }

theorem gauntletState_viewOf (state : ChallengeState) (run : Challenges.ChallengeRun)
    (runtime : GauntletRuntime) (player : Nat) (actor : Actor) :
    gauntletState state run runtime player actor =
      (viewOf state runtime actor).message run.runId player run.rules.preset := by
  unfold gauntletState View.message
  rw [show (viewOf state runtime actor).phase.text = shownPhase state runtime.world.phase from
    viewPhase_text state runtime.world.phase]
  rfl

/-- The player's actor, the save and the world belong together. -/
structure Core (runId : Nat) (preset : Preset) (own : Option Actor) (state : ChallengeState)
    (runtime : GauntletRuntime) (actor : Actor) : Prop where
  own : own = some actor
  healthy : actor.health ≤ actor.maxHealth
  fallen : viewPhase state runtime.world.phase = .defeated ↔ actor.health = 0
  sound : runtime.world.Sound actor.position
  chosen : runtime.world.preset = preset
  fits : Fits runId preset state runtime.world.phase
  stage : ∀ stage, runtime.world.phase = .combat stage ∨ runtime.world.phase = .transfer stage →
    runtime.lastStage = stage
  clock : runtime.world.lastElapsedMs ≤ runtime.lastElapsedMs
  agreed : (∃ stage, runtime.world.phase = .combat stage) ∨ actor.health = runtime.world.health

/-- A view that still shows what the session is at.  A hold is reported with
what is left of it, which a saturated clock would make nothing. -/
structure Current (preset : Preset) (view : View) (state : ChallengeState)
    (runtime : GauntletRuntime) : Prop where
  sound : runtime.lastElapsedMs < u64Max → ∃ place, view.Sound preset place
  counted : 0 < view.sequence
  stage : view.stage = shownStage runtime
  phase : view.phase = viewPhase state runtime.world.phase
  used : view.reserveUsed = runtime.world.reserveUsed
  sequence : view.sequence ≤ runtime.sequence
  clock : view.elapsedMs ≤ runtime.lastElapsedMs

section View

variable {runId player : Nat} {preset : Preset} {own : Option Actor} {state : ChallengeState}
variable {runtime : GauntletRuntime} {actor : Actor} {view : View}

/-- What is left of a hold that is under way. -/
theorem remains_of_holding {began last : Nat} (holding : Holding began last) (far : last < u64Max) :
    Remains (saturatingAdd began transferHoldMs - last) := by
  unfold Holding transferHoldMs at holding
  unfold Remains saturatingAdd transferHoldMs
  omega

/-- A phase that goes on is the world's. -/
theorem viewPhase_open {phase : Phase} (open' : (viewPhase state phase).Open) :
    viewPhase state phase = worldPhase phase := by
  unfold viewPhase at *
  split at open'
  · next running => rw [if_pos running]
  · next ended =>
    rw [if_neg ended]
    split at open'
    · rcases open' with impossible | impossible <;> cases impossible
    · rcases open' with impossible | impossible <;> cases impossible
    · rfl

theorem Core.viewPhase_transfer (core : Core runId preset own state runtime actor)
    (waits : viewPhase state runtime.world.phase = .transfer) :
    ∃ stage, runtime.world.phase = .transfer stage ∧ stage ≠ .prism := by
  rw [viewPhase_open (Or.inr waits)] at waits
  cases phase : runtime.world.phase with
  | transfer stage =>
      refine ⟨stage, rfl, ?_⟩
      have unfinished := core.sound.unfinished stage phase
      exact GauntletRun.nextStage_isSome.mp unfinished
  | combat | completed | defeated =>
      rw [phase] at waits
      cases waits

/-- A session's own view is acceptable. -/
theorem Core.view_sound (core : Core runId preset own state runtime actor)
    (counted : 0 < runtime.sequence) (limited : runtime.recoveredHealth ≤ transferHealth)
    (far : runtime.lastElapsedMs < u64Max) :
    (viewOf state runtime actor).Sound preset actor.position := by
  have clock := core.clock
  refine ⟨counted, core.healthy, limited, core.fallen, ?_, ?_, ?_, ?_, ?_⟩
  · intro waits
    obtain ⟨stage, phase, other⟩ := core.viewPhase_transfer waits
    change shownStage runtime ≠ .prism
    unfold shownStage
    rw [phase]
    exact other
  · intro isOver
    change viewPhase state runtime.world.phase = .completed at isOver
    change shownStage runtime = .prism
    have phase : runtime.world.phase = .completed := by
      unfold viewPhase at isOver
      cases world : runtime.world.phase with
      | completed => rfl
      | combat | transfer | defeated =>
          rw [world] at isOver
          unfold worldPhase at isOver
          split at isOver
          · cases isOver
          · split at isOver <;> cases isOver
    unfold shownStage
    rw [phase]
  · intro used
    rw [← core.chosen]
    exact core.sound.spent used
  · intro held shown
    change (if state.active.isSome = true then runtime.world.reserveRemainingMs else none) = some held
      at shown
    split at shown
    · next running =>
      obtain ⟨began, started, rfl⟩ := Option.map_eq_some_iff.mp shown
      obtain ⟨stage, phase, pad, single, unused, holding⟩ := core.sound.reserve began started
      refine ⟨remains_of_holding holding (by omega), ?_, ?_, unused, ?_⟩
      · rw [← core.chosen]
        exact single
      · change viewPhase state runtime.world.phase = _
        rw [viewPhase_running running, phase]
        rfl
      · change (shownStage runtime).reservePosition = _
        unfold shownStage
        rw [phase]
        exact pad
    · cases shown
  · intro held shown
    change (if state.active.isSome = true then runtime.world.transferRemainingMs else none) =
      some held at shown
    split at shown
    · next running =>
      obtain ⟨deadline, due, rfl⟩ := Option.map_eq_some_iff.mp shown
      obtain ⟨began, started, rfl⟩ := Option.map_eq_some_iff.mp due
      obtain ⟨stage, phase, place, holding⟩ := core.sound.transfer began started
      refine ⟨remains_of_holding holding (by omega), ?_, ?_⟩
      · change viewPhase state runtime.world.phase = _
        rw [viewPhase_running running, phase]
        rfl
      · change _ = (shownStage runtime).entrance
        unfold shownStage
        rw [phase]
        exact place
    · cases shown

/-- A session's own view is current. -/
theorem Core.view_current (core : Core runId preset own state runtime actor)
    (counted : 0 < runtime.sequence) (limited : runtime.recoveredHealth ≤ transferHealth) :
    Current preset (viewOf state runtime actor) state runtime :=
  ⟨fun far => ⟨_, core.view_sound counted limited far⟩, counted, rfl, rfl, rfl, le_refl _, le_refl _⟩

/-- A running attempt has a player alive, and shows a phase that goes on. -/
theorem Core.running (core : Core runId preset own state runtime actor)
    (running : state.active.isSome = true) :
    actor.health ≠ 0 ∧ (viewPhase state runtime.world.phase).Open := by
  have phase := viewPhase_running running runtime.world.phase
  have open' : (viewPhase state runtime.world.phase).Open := by
    obtain ⟨stage, fights | waits⟩ := core.fits.running running
    · rw [phase, fights]
      exact Or.inl rfl
    · rw [phase, waits]
      exact Or.inr rfl
  refine ⟨?_, open'⟩
  intro fell
  rw [core.fallen.mpr fell] at open'
  rcases open' with impossible | impossible <;> cases impossible

end View

end Gauntlet
end Agreement
end Revenant
