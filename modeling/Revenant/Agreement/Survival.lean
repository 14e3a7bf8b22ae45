import Revenant.Agreement.World
import Revenant.Gateway.Survival

namespace Revenant
namespace Agreement
namespace Survival

open Library Ai Challenges Challenges.Survival Client.World Gateway Gateway.Survival Protocol Replay

/-!
# Last Reserve on both sides

The client checks each state against the damage it saw before.  `Shows` is what
the client knows of an accepted world, and `Kept` what the gateway's session
keeps; each attempt keeps both, so the client takes every message of a run.

The damage of a step is announced with the health after the whole step.  That
is the health the client must add the recovery to only because a step that
restores health did no damage.

Equipment, actions and the answers of the database are arbitrary, and the
client reads the messages of an attempt in the order they were sent.
-/

/-! ## The session's invariant -/

/-- The objectives that are confirmed when a phase begins. -/
def confirmedBits : Phase → BitVec 8
  | .west => 0
  | .east => 1
  | .returning => 3
  | .completed => 7

/-- The run of the contract a session was started for. -/
structure Playing (run : Challenges.ChallengeRun) (runId : Nat) (phase : Phase) : Prop where
  named : run.runId = runId
  contract : run.rules.contract = .lastReserve
  preset : run.rules.preset = .baseline
  objectives : run.objectives = confirmedBits phase

/-- The save belongs to the world of a step. -/
structure Fits (runId : Nat) (state : ChallengeState) (world : SurvivalRun) : Prop where
  valid : state.Valid
  playing : world.health ≠ 0 → world.phase ≠ .completed →
    ∃ run, state.active = some run ∧ Playing run runId world.phase
  ended : world.health = 0 ∨ world.phase = .completed → state.active = none

/-- What every step of a session keeps: the world is sound, the player's actor
is where the world has it, and the save fits the phase of the run. -/
structure Kept (runId : Nat) (session : Session) : Prop where
  sound : session.survival.world.Sound
  actor : ∃ actor, session.actors.get session.playerId = some actor ∧
    actor.id = session.playerId ∧ session.agreesWith session.playerId actor
  apart : session.survival.enemyId ≠ session.playerId
  fits : Fits runId session.state session.survival.world

/-- What the client's last state said; before the first one, the defaults. -/
structure Precedes (client : AuthoritativeState) (sequence : Nat) (used : Bool) : Prop where
  sequence : client.survivalState.getOr "sequence" (.integer 0) = .integer sequence
  used : client.survivalState.getOr "reserve_used" (.bool false) = .bool used

/-- What the client knows of the accepted world. -/
structure Shows (client : AuthoritativeState) (session : Session) : Prop where
  knows : Knows client session.playerId session.survival.world.position
    session.survival.world.health session.survival.world.maxHealth
  opened : client.survivalState ≠ noFields
  precedes : Precedes client session.survival.sequence session.survival.world.reserveUsed
  phase : client.survivalState.get "phase" = .text (phaseText session.survival.world)

/-! ## The save -/

/-- The objective of a checkpoint and its bit. -/
def objectiveOf : Checkpoint → Objective × BitVec 8
  | .westCharged => (.westRelayCharged, 1)
  | .eastCharged => (.eastRelayCharged, 2)
  | .returned => (.reserveReturned, 4)

variable {run : Challenges.ChallengeRun} {runId : Nat}

/-- The next objective of a run may be confirmed. -/
theorem confirms_next {phase next : Phase} {checkpoint : Checkpoint}
    (playing : Playing run runId phase) (passes : Passes phase next (some checkpoint)) :
    Confirms run (objectiveOf checkpoint).1 (objectiveOf checkpoint).2 none ∧
      run.objectives ||| (objectiveOf checkpoint).2 = confirmedBits next := by
  have untimed : run.timeGoalMs = none := by
    unfold ChallengeRun.timeGoalMs
    rw [playing.contract, playing.preset]
    rfl
  have known : run.rules.objectiveBit (objectiveOf checkpoint).1 =
      some (objectiveOf checkpoint).2 := by
    unfold Rules.objectiveBit
    rw [playing.contract]
    cases checkpoint <;> rfl
  have allowed : ¬ run.refuses (objectiveOf checkpoint).1 (objectiveOf checkpoint).2 := by
    unfold ChallengeRun.refuses
    rw [playing.contract, playing.objectives]
    cases passes <;> decide
  refine ⟨⟨known, allowed, ?_⟩, ?_⟩
  · rw [untimed, Option.isSome_none, Bool.and_false]
  · rw [playing.objectives]
    cases passes <;> rfl

variable {state : ChallengeState}

/-- A checkpoint is stored, and the save goes on or ends with the run. -/
theorem commit_checkpoint {phase next : Phase} {checkpoint : Checkpoint} (valid : state.Valid)
    (room : state.revision < maxRevision) (active : state.active = some run)
    (playing : Playing run runId phase) (passes : Passes phase next (some checkpoint)) :
    ∃ after, Persistence.commitCommand state (.confirm runId (objectiveOf checkpoint).1) =
        .ok after ∧
      (next ≠ .completed → ∃ run, after.active = some run ∧ Playing run runId next) ∧
      (next = .completed → after.active = none) := by
  obtain ⟨confirms, grown⟩ := confirms_next playing passes
  have asked : (Command.confirm runId (objectiveOf checkpoint).1).confirmation =
      some (run.runId, (objectiveOf checkpoint).1, none) := by
    rw [playing.named]
    rfl
  have recordable : (Command.confirm runId (objectiveOf checkpoint).1).Recordable := nofun
  have mask : run.mask = 7 := by
    unfold ChallengeRun.mask
    rw [playing.contract]
    rfl
  by_cases last : next = .completed
  · have full : run.completes (objectiveOf checkpoint).2 = true := by
      unfold ChallengeRun.completes
      rw [grown, mask, last]
      rfl
    refine ⟨_, Persistence.commitCommand_of_step valid room recordable
      (Step.complete active asked confirms full), ?_, fun _ => rfl⟩
    intro goesOn
    exact absurd last goesOn
  · have open' : run.completes (objectiveOf checkpoint).2 = false := by
      unfold ChallengeRun.completes
      rw [grown, mask]
      cases passes with
      | west => rfl
      | east => rfl
      | returned => exact absurd rfl last
    refine ⟨_, Persistence.commitCommand_of_step valid room recordable
      (Step.confirm active asked confirms open'), fun _ => ⟨_, rfl, ?_⟩, ?_⟩
    · exact ⟨playing.named, playing.contract, playing.preset, grown⟩
    · intro ends
      exact absurd ends last

/-- A defeat is stored and ends the run. -/
theorem commit_defeat {phase : Phase} (valid : state.Valid) (room : state.revision < maxRevision)
    (active : state.active = some run) (playing : Playing run runId phase) :
    ∃ after, Persistence.commitCommand state (.endRun runId .defeated) = .ok after ∧
      after.active = none := by
  have stepped : Step .modifier state.advanced (.endRun run.runId .defeated)
      ⟨state.advanced.withResult run .defeated, none⟩ :=
    Step.endRun (show state.advanced.active = some run from active)
  rw [playing.named] at stepped
  exact ⟨_, Persistence.commitCommand_of_step valid room nofun stepped, rfl⟩

/-- The evidence of an accepted action. -/
structure Proves (runId : Nat) (proof : SurvivalEvidence) (update : Update) : Prop where
  run : proof.runId = runId
  effect : proof.effect = update.effect

section Stored

variable {runId elapsedMs : Nat} {state : ChallengeState} {run : Challenges.ChallengeRun}
variable {world : SurvivalRun} {action : Action} {update : Update} {proof : SurvivalEvidence}

/-- The command of a step, if it has one, is the checkpoint or the defeat. -/
theorem command_cases (advanced : world.Advanced elapsedMs action update)
    (proves : Proves runId proof update) :
    (proof.command = none ∧ update.run.health ≠ 0 ∧ update.run.phase = world.phase) ∨
    (proof.command = some (.endRun runId .defeated) ∧ update.run.health = 0) ∨
    (∃ checkpoint, proof.command = some (.confirm runId (objectiveOf checkpoint).1) ∧
      update.run.health ≠ 0 ∧ Passes world.phase update.run.phase (some checkpoint)) := by
  unfold SurvivalEvidence.command
  rw [proves.effect, proves.run, advanced.defeated]
  by_cases fell : update.run.health = 0
  · refine Or.inr (Or.inl ⟨?_, fell⟩)
    rw [decide_eq_true fell, if_pos rfl]
  · have passes := advanced.passes
    rw [decide_eq_false fell, if_neg Bool.false_ne_true]
    cases reached : update.effect.checkpoint with
    | none =>
        rw [reached] at passes
        refine Or.inl ⟨rfl, fell, ?_⟩
        generalize update.run.phase = after at passes
        generalize world.phase = before at passes
        cases passes
        rfl
    | some checkpoint =>
        rw [reached] at passes
        refine Or.inr (Or.inr ⟨checkpoint, ?_, fell, passes⟩)
        cases checkpoint <;> rfl

/-- The save after a stored step. -/
theorem stored_step (valid : state.Valid) (active : state.active = some run)
    (playing : Playing run runId world.phase) (open' : world.phase ≠ .completed)
    (advanced : world.Advanced elapsedMs action update) (proves : Proves runId proof update)
    (room : proof.command ≠ none → state.revision < maxRevision) :
    ∃ after, persistSurvivalProof state proof true = .ok after ∧ Fits runId after update.run := by
  have admitted : ¬ ∀ other ∈ state.active,
      other.runId ≠ proof.runId ∨ other.rules.contract ≠ .lastReserve := by
    intro refused
    rcases refused run active with other | other
    · exact other (playing.named.trans proves.run.symm)
    · exact other playing.contract
  have answered : ∀ command, proof.command = command →
      persistSurvivalProof state proof true =
        command.elim (.ok state) (commitCommand state) := by
    intro command asked
    unfold persistSurvivalProof rejectIf
    rw [if_neg admitted, if_neg (by decide), asked]
    cases command <;> rfl
  rcases command_cases advanced proves with ⟨silent, lives, same⟩ | ⟨ends, fell⟩ |
    ⟨checkpoint, confirms, lives, passes⟩
  · rw [answered none silent]
    refine ⟨state, rfl, valid, fun _ _ => ⟨run, active, ?_⟩, ?_⟩
    · rw [same]
      exact playing
    · rintro (fell | completed)
      · exact absurd fell lives
      · exact absurd (same.symm.trans completed) open'
  · rw [answered _ ends, Option.elim_some]
    rw [ends] at room
    obtain ⟨after, committed, isOver⟩ := commit_defeat valid (room (by rintro ⟨⟩)) active playing
    refine ⟨after, ?_, (Persistence.commitCommand_ok committed).2.2.1, ?_, fun _ => isOver⟩
    · simp only [commitCommand, committed]
    · intro lives
      exact absurd fell lives
  · rw [answered _ confirms, Option.elim_some]
    rw [confirms] at room
    obtain ⟨after, committed, goesOn, isOver⟩ :=
      commit_checkpoint valid (room (by rintro ⟨⟩)) active playing passes
    refine ⟨after, ?_, (Persistence.commitCommand_ok committed).2.2.1, fun _ => goesOn, ?_⟩
    · simp only [commitCommand, committed]
    · rintro (fell | completed)
      · exact absurd fell lives
      · exact isOver completed

/-- Whatever was stored fits the world of the step. -/
theorem fits_of_stored {stored : Bool} {after : ChallengeState} (valid : state.Valid)
    (active : state.active = some run) (playing : Playing run runId world.phase)
    (open' : world.phase ≠ .completed) (advanced : world.Advanced elapsedMs action update)
    (proves : Proves runId proof update)
    (persisted : persistSurvivalProof state proof stored = .ok after) :
    Fits runId after update.run := by
  have written : stored = true := by
    unfold persistSurvivalProof at persisted
    simp only [guard_bind_eq_ok, rejectIf_eq_ok, Bool.not_eq_false] at persisted
    exact persisted.2.1
  subst written
  have room : proof.command ≠ none → state.revision < maxRevision := by
    intro asks
    unfold persistSurvivalProof at persisted
    simp only [guard_bind_eq_ok, rejectIf_eq_ok] at persisted
    cases command : proof.command with
    | none => exact absurd command asks
    | some command =>
        simp only [command, commitCommand] at persisted
        split at persisted
        · next committed => exact (Persistence.commitCommand_ok committed).2.1
        · cases persisted.2.2
  obtain ⟨result, answered, fits⟩ := stored_step valid active playing open' advanced proves room
  rw [persisted] at answered
  cases answered
  exact fits

end Stored

/-! ## A state the client takes -/

section State

variable {world : SurvivalRun} {elapsedMs : Nat} {action : Action} {update : Update}
variable {player : Nat} {proof : SurvivalEvidence}

/-- The holds a sound world reports are at their stations, and one at a time. -/
theorem validHolds_sent (sound : world.Sound) :
    AuthoritativeState.validSurvivalHolds
      (projectSurvivalState player proof world).serialize (phaseText world) world.reserveUsed
      (positionValue world.position) = .ok () := by
  have charge : (projectSurvivalState player proof world).serialize.get "charge_remaining_ms" =
    .ofOption world.chargeRemainingMs := rfl
  have recovery : (projectSurvivalState player proof world).serialize.get "recovery_remaining_ms" =
    .ofOption world.recoveryRemainingMs := rfl
  unfold AuthoritativeState.validSurvivalHolds
  rw [charge, recovery]
  cases charging : world.chargeRemainingMs with
  | none =>
      cases resting : world.recoveryRemainingMs with
      | none =>
          simp [Variant.ofOption, Variant.isNil, rejectIf]
      | some remaining =>
          obtain ⟨alive, ⟨positive, bound⟩, there, unused, playing⟩ := sound.recovery_reported resting
          have text : phaseText world ≠ "completed" ∧ phaseText world ≠ "defeated" := by
            unfold phaseText
            rw [if_neg alive]
            cases phase : world.phase with
            | completed => exact absurd phase playing
            | west | east | returning => decide
          simp only [recoveryMs] at bound
          simp [Variant.ofOption, Variant.isNil, AuthoritativeState.validHold, Variant.integer?,
            there, unused, text]
          exact ⟨⟨positive, bound⟩, rfl⟩
  | some remaining =>
      obtain ⟨alive, bound, station⟩ := sound.charge_reported charging
      have idle : world.recoveryRemainingMs = none := by
        cases resting : world.recoveryRemainingMs with
        | none => rfl
        | some other =>
            obtain ⟨-, -, there, -, -⟩ := sound.recovery_reported resting
            rcases station with ⟨-, elsewhere⟩ | ⟨-, elsewhere⟩
            · exact absurd (there.symm.trans elsewhere) (by decide)
            · exact absurd (there.symm.trans elsewhere) (by decide)
      rw [idle]
      have text : (phaseText world = "west" ∧ world.position = ⟨-8, 0, 0⟩) ∨
          (phaseText world = "east" ∧ world.position = ⟨0, 0, 0⟩) := by
        unfold phaseText
        rw [if_neg alive]
        rcases station with ⟨phase, there⟩ | ⟨phase, there⟩
        · rw [phase]
          exact Or.inl ⟨rfl, there⟩
        · rw [phase]
          exact Or.inr ⟨rfl, there⟩
      rcases text with ⟨text, there⟩ | ⟨text, there⟩
      · simp [Variant.ofOption, Variant.isNil, AuthoritativeState.validHold, Variant.integer?,
          there, text]
        exact bound
      · simp [Variant.ofOption, Variant.isNil, AuthoritativeState.validHold, Variant.integer?,
          there, text]
        exact bound

theorem phaseText_mem (world : SurvivalRun) :
    phaseText world ∈ AuthoritativeState.survivalPhases := by
  unfold phaseText
  by_cases fell : world.health = 0
  · rw [if_pos fell]
    decide
  · rw [if_neg fell]
    cases world.phase <;> decide

theorem phaseText_defeated (world : SurvivalRun) :
    phaseText world = "defeated" ↔ world.health = 0 := by
  unfold phaseText
  by_cases fell : world.health = 0
  · simp [fell]
  · rw [if_neg fell]
    cases world.phase <;> simp [fell]

/-- A state is taken when its health is the known one and what was recovered,
and its phase may follow. -/
theorem hear_state {client : AuthoritativeState} (preset : String) {known sequence : Nat}
    {used : Bool} (sound : world.Sound) (named : 0 < proof.runId)
    (knows : Knows client player world.position known world.maxHealth)
    (recovers : world.health = known + proof.effect.recoveredHealth)
    (limited : proof.effect.recoveredHealth ≤ recoveryHealth)
    (precedes : Precedes client sequence used) (next : proof.sequence = sequence + 1)
    (spent : world.reserveUsed = (used || decide (0 < proof.effect.recoveredHealth)))
    (once : used = true → proof.effect.recoveredHealth = 0)
    (order : AuthoritativeState.validSurvivalOrder client.survivalState (phaseText world)
      world.health proof.effect.recoveredHealth (.integer world.maxHealth) = .ok ()) :
    hear proof.runId preset client (projectSurvivalState player proof world) = .ok
      { client.settle world.health with
        survivalState := (projectSurvivalState player proof world).serialize } := by
  obtain ⟨actor, found, isDict, placed⟩ := knows.actor
  have bounded := sound.bounded
  have subject : client.validSubject (projectSurvivalState player proof world).serialize
      proof.runId = .ok () := by
    unfold AuthoritativeState.validSubject
    rw [rejectIf_eq_ok, knows.own]
    rintro (other | unnamed | other)
    · exact other rfl
    · omega
    · exact other rfl
  have own : client.player = .ok (actor, (known : Int), .integer world.maxHealth) := by
    unfold AuthoritativeState.player
    rw [knows.own, found, knows.health, knows.maximum]
    rfl
  have health : AuthoritativeState.validSurvivalHealth
      (projectSurvivalState player proof world).serialize (phaseText world) used world.reserveUsed
      known (.integer world.maxHealth) =
      .ok ((world.health : Int), (proof.effect.recoveredHealth : Int)) := by
    unfold AuthoritativeState.validSurvivalHealth
    simp only [bind_eq_ok, exists_unit, rejectIf_eq_ok, pure_eq_ok]
    refine ⟨(world.health : Int), rfl, (world.maxHealth : Int), rfl,
      (proof.effect.recoveredHealth : Int), rfl, ?_, ?_, ?_, ?_, rfl⟩
    · rintro (other | negative | above)
      · exact other rfl
      · omega
      · omega
    · unfold recoveryHealth at limited
      rintro (negative | above | other)
      · omega
      · omega
      · omega
    · rw [not_not, phaseText_defeated]
      omega
    · rw [spent]
      rintro (⟨before, restores⟩ | other)
      · have nothing := once before
        omega
      · apply other
        congr 1
        rw [decide_eq_decide]
        omega
  change client.applySurvivalState _ _ = _
  unfold AuthoritativeState.applySurvivalState
  simp only [bind_eq_ok, exists_unit, require_eq_ok, rejectIf_eq_ok, pure_eq_ok]
  refine ⟨subject, _, own, phaseText world, rfl, sequence, ?_, ?_, world.reserveUsed, rfl, used, ?_,
    _, health, order, ?_⟩
  · unfold number
    rw [precedes.sequence]
    rfl
  · rintro (unknown | other)
    · exact unknown (phaseText_mem world)
    · apply other
      change Variant.integer (proof.sequence : Int) = _
      rw [next]
      rfl
  · rw [precedes.used]
    rfl
  · rw [placed]
    exact ⟨_, rfl, validHolds_sent sound, rfl⟩

end State

/-! ## One step on both sides -/

section Projected

variable {world : SurvivalRun} {elapsedMs player : Nat} {action : Action} {update : Update}
variable {proof : SurvivalEvidence} {actors : ActorRegistry} {actor : Actor}

/-- The phase after an accepted action may follow the one before. -/
theorem order_step {previous : Variant} {health recovered : Int} {maximum : Variant}
    (alive : world.health ≠ 0) (playing : world.phase ≠ .completed)
    (advanced : world.Advanced elapsedMs action update) (opened : previous ≠ noFields)
    (phase : previous.get "phase" = .text (phaseText world)) :
    AuthoritativeState.validSurvivalOrder previous (phaseText update.run) health recovered
      maximum = .ok () := by
  have passes := advanced.passes
  unfold AuthoritativeState.validSurvivalOrder phaseText at *
  rw [if_neg opened, phase, if_neg alive]
  by_cases fell : update.run.health = 0
  · rw [if_pos fell]
    cases before : world.phase with
    | completed => exact absurd before playing
    | west | east | returning => rfl
  · rw [if_neg fell]
    generalize update.run.phase = after at passes
    generalize update.effect.checkpoint = reached at passes
    generalize world.phase = before at passes playing
    cases passes with
    | stay =>
        cases after with
        | completed => exact absurd rfl playing
        | west | east | returning => rfl
    | west | east | returned => rfl

/-- Without a move of a living player the position stays. -/
theorem position_kept (advanced : world.Advanced elapsedMs action update)
    (acted : proof.action = some action) :
    (∀ target, proof.action ≠ some (.move target)) ∨ update.run.health = 0 →
      update.run.position = world.position := by
  rintro (still | fell)
  · by_cases fell : update.run.health = 0
    · exact (advanced.fallen fell).2
    · rw [advanced.placed fell]
      cases action with
      | move target => exact absurd acted (still target)
      | observe => rfl
  · exact (advanced.fallen fell).2

theorem registry_damage (proof : SurvivalEvidence) (next : SurvivalRun)
    (found : actors.get player = some actor) (other : Nat) : (projectDamage player proof next actors).1.get other =
      if other = player then
        some { actor with health := actor.health - proof.effect.incomingDamage }
      else actors.get other := by
  unfold projectDamage
  by_cases hit : proof.effect.incomingDamage > 0
  · rw [if_pos hit, ActorRegistry.get_applyDamage, found, Option.map_some]
  · rw [if_neg hit, Nat.eq_zero_of_not_pos hit, Nat.sub_zero]
    by_cases same : other = player
    · rw [if_pos same, same]
      exact found
    · rw [if_neg same]

theorem registry_move (proof : SurvivalEvidence) (next : SurvivalRun)
    (found : actors.get player = some actor)
    (kept : (∀ target, proof.action ≠ some (.move target)) ∨ next.health = 0 →
      next.position = actor.position) (other : Nat) :
    (projectMove player proof next actors).1.get other =
      if other = player then some { actor with position := next.position }
      else actors.get other := by
  have stays : next.position = actor.position →
      actors.get other = if other = player then some { actor with position := next.position }
        else actors.get other := by
    intro same
    by_cases own : other = player
    · rw [if_pos own, own, same]
      exact found
    · rw [if_neg own]
  unfold projectMove
  split
  · next target moves =>
    by_cases alive : next.health > 0
    · rw [if_pos alive, ActorRegistry.get_updatePosition, found, Option.map_some]
    · rw [if_neg alive]
      exact stays (kept (Or.inr (Nat.eq_zero_of_not_pos alive)))
  · next still =>
    exact stays (kept (Or.inl still))

theorem registry_recovery (proof : SurvivalEvidence) (next : SurvivalRun)
    (found : actors.get player = some actor) (own : actor.id = player)
    (kept : proof.effect.recoveredHealth = 0 → next.health = actor.health) (other : Nat) :
    (projectRecovery player proof next actors).get other =
      if other = player then some { actor with health := next.health } else actors.get other := by
  unfold projectRecovery
  by_cases restores : proof.effect.recoveredHealth > 0
  · rw [if_pos restores, found]
    simp only [ActorRegistry.get_insert, own]
  · rw [if_neg restores, kept (Nat.eq_zero_of_not_pos restores)]
    by_cases same : other = player
    · rw [if_pos same, same]
      exact found
    · rw [if_neg same]

/-- The registry after a projected step: the player as the world has it, and
every other actor as before. -/
theorem registry_projected (advanced : world.Advanced elapsedMs action update)
    (acted : proof.action = some action) (effect : proof.effect = update.effect)
    (found : actors.get player = some actor) (own : actor.id = player)
    (position : actor.position = world.position) (health : actor.health = world.health)
    (other : Nat) :
    (projectSurvivalAction player proof update.run actors).1.get other =
      if other = player then
        some { actor with position := update.run.position, health := update.run.health }
      else actors.get other := by
  have damaged := registry_damage proof update.run found
  have stays : (∀ target, proof.action ≠ some (.move target)) ∨ update.run.health = 0 →
      update.run.position = actor.position := by
    rw [position]
    exact position_kept advanced acted
  have moved := registry_move proof update.run ((damaged player).trans (if_pos rfl)) stays
  have restored := registry_recovery proof update.run ((moved player).trans (if_pos rfl)) own (fun nothing => by
      have exact' := advanced.health
      rw [← effect, nothing] at exact'
      simp only [health]
      omega)
  change (projectRecovery player proof update.run
    (projectMove player proof update.run (projectDamage player proof update.run actors).1).1).get
      other = _
  rw [restored other]
  by_cases same : other = player
  · rw [if_pos same, if_pos same]
  · rw [if_neg same, if_neg same, moved other, if_neg same, damaged other, if_neg same]

variable {client : AuthoritativeState}
variable {position : Position} {health maximum : Nat}

theorem heard_damage (runId : Int) (preset : String) (actors : ActorRegistry)
    (proof : SurvivalEvidence) (next : SurvivalRun)
    (knows : Knows client player position health maximum) :
    ∃ after, feed (hear runId preset) client (projectDamage player proof next actors).2 =
        .ok after ∧
      Knows after player position
        (if proof.effect.incomingDamage > 0 then next.health else health) maximum ∧
      after.survivalState = client.survivalState := by
  unfold projectDamage
  by_cases hit : proof.effect.incomingDamage > 0
  · rw [if_pos hit, if_pos hit]
    obtain ⟨after, taken, left, kept, -⟩ := hear_damage knows
      { sourceActorId := proof.enemyId, targetActorId := player
        damage := proof.effect.incomingDamage, remainingHealth := next.health
        killed := next.health == 0 } rfl
    exact ⟨after, (feed_cons_of_ok taken).trans (feed_nil _), left, kept⟩
  · rw [if_neg hit, if_neg hit]
    exact ⟨client, rfl, knows, rfl⟩

theorem heard_move (runId : Int) (preset : String) (actors : ActorRegistry)
    (proof : SurvivalEvidence) (next : SurvivalRun)
    (knows : Knows client player position health maximum)
    (kept : (∀ target, proof.action ≠ some (.move target)) ∨ next.health = 0 →
      next.position = position) :
    ∃ after, feed (hear runId preset) client (projectMove player proof next actors).2 =
        .ok after ∧
      Knows after player next.position health maximum ∧
      after.survivalState = client.survivalState := by
  have stays : next.position = position → Knows client player next.position health maximum := by
    rintro rfl
    exact knows
  unfold projectMove
  split
  · next target moves =>
    by_cases alive : next.health > 0
    · rw [if_pos alive]
      obtain ⟨after, taken, left, same, -⟩ := hear_move knows
        { actorId := player, position := next.position, charge := none, defense := none } rfl
      exact ⟨after, (feed_cons_of_ok taken).trans (feed_nil _), left, same⟩
    · rw [if_neg alive]
      exact ⟨client, rfl, stays (kept (Or.inr (Nat.eq_zero_of_not_pos alive))), rfl⟩
  · next still => exact ⟨client, rfl, stays (kept (Or.inl still)), rfl⟩

end Projected

/-- The evidence of the next step of a session. -/
def nextProof (session : Session) (runId elapsedMs : Nat) (action : Action) (update : Update) :
    SurvivalEvidence :=
  { runId, sequence := session.survival.sequence + 1, elapsedMs
    enemyId := session.survival.enemyId, action := some action, effect := update.effect }

/-- The session after a stored step. -/
def advancedSession (session : Session) (proof : SurvivalEvidence) (update : Update)
    (state : ChallengeState) : Session :=
  { session with
    actors := (projectSurvivalAction session.playerId proof update.run session.actors).1, state
    survival := { session.survival with world := update.run, sequence := proof.sequence } }

/-- An attempt changes and sends nothing, or it is a stored step of the world. -/
theorem step_cases (session : Session) (attempt : Survival.Attempt) :
    step session attempt = (session, []) ∨
    ∃ run update state, session.state.active = some run ∧
      session.survival.world.apply attempt.elapsedMs attempt.action = .ok update ∧
      persistSurvivalProof session.state
        (nextProof session run.runId attempt.elapsedMs attempt.action update) attempt.stored =
          .ok state ∧
      step session attempt =
        (advancedSession session
          (nextProof session run.runId attempt.elapsedMs attempt.action update) update state,
        (projectSurvivalAction session.playerId
          (nextProof session run.runId attempt.elapsedMs attempt.action update) update.run
          session.actors).2) := by
  unfold step
  cases answered : applySurvivalActionAt session attempt.player attempt.elapsedMs attempt.action
      attempt.stored with
  | error failure => exact Or.inl rfl
  | ok answer =>
      unfold applySurvivalActionAt at answered
      cases active : session.state.active with
      | none =>
          rw [active] at answered
          cases answered
          exact Or.inl rfl
      | some run =>
          simp only [active, bind_eq_ok, exists_unit, require_eq_ok, rejectIf_eq_ok,
            not_not] at answered
          obtain ⟨actor, found, agrees, answered⟩ := answered
          cases applied : session.survival.world.apply attempt.elapsedMs attempt.action with
          | error failure =>
              rw [applied] at answered
              cases failure with
              | invalidMovement =>
                  cases answered
                  exact Or.inl rfl
              | clockReversed | terminal => cases answered
          | ok update =>
              simp only [applied, bind_eq_ok, exists_unit, rejectIf_eq_ok, pure_eq_ok] at answered
              obtain ⟨-, state, persisted, rfl⟩ := answered
              have own : attempt.player = session.playerId := agrees.1
              refine Or.inr ⟨run, update, state, rfl, rfl, persisted, ?_⟩
              simp only [own]
              rfl

variable {session : Session}

/-- The client takes the messages of a stored step and then shows its world. -/
theorem shows_step {client : AuthoritativeState} (preset : String) {elapsedMs : Nat}
    {action : Action} {update : Update} {proof : SurvivalEvidence} (state : ChallengeState)
    (shows : Shows client session) (named : 0 < proof.runId)
    (alive : session.survival.world.health ≠ 0)
    (playing : session.survival.world.phase ≠ .completed)
    (advanced : session.survival.world.Advanced elapsedMs action update) (sound : update.run.Sound)
    (acted : proof.action = some action) (effect : proof.effect = update.effect)
    (numbered : proof.sequence = session.survival.sequence + 1) :
    ∃ next, feed (hear proof.runId preset) client
        (projectSurvivalAction session.playerId proof update.run session.actors).2 = .ok next ∧
      Shows next (advancedSession session proof update state) := by
  have balance := advanced.health
  have exclusive := advanced.exclusive
  rw [← effect] at balance exclusive
  obtain ⟨hurt, takenDamage, knowsHurt, keptHurt⟩ :=
    heard_damage proof.runId preset session.actors proof update.run shows.knows
  have stays : (∀ target, proof.action ≠ some (.move target)) ∨ update.run.health = 0 →
      update.run.position = session.survival.world.position :=
    position_kept advanced acted
  obtain ⟨moved, takenMove, knowsMoved, keptMoved⟩ :=
    heard_move proof.runId preset
      (projectDamage session.playerId proof update.run session.actors).1 proof update.run knowsHurt
      stays
  rw [keptHurt] at keptMoved
  rw [← advanced.maximum] at knowsMoved
  have precedes : Precedes moved session.survival.sequence session.survival.world.reserveUsed :=
    ⟨by rw [keptMoved]; exact shows.precedes.sequence, by rw [keptMoved]; exact shows.precedes.used⟩
  have taken := hear_state preset sound named knowsMoved (by
      -- Damage is announced with the health after the step, and then nothing was restored.
      split
      · omega
      · omega)
    (by rw [effect]; exact advanced.limited) precedes numbered
    (by rw [effect]; exact advanced.used) (by rw [effect]; exact advanced.once)
    (by rw [keptMoved]; exact order_step alive playing advanced shows.opened shows.phase)
  refine ⟨_, (feed_append_of_ok ((feed_append_of_ok takenDamage).trans takenMove)).trans
    ((feed_cons_of_ok taken).trans (feed_nil _)), ?_⟩
  refine ⟨⟨knowsMoved.own, knowsMoved.actor, ?_, knowsMoved.maximum⟩, nofun, ⟨rfl, rfl⟩, rfl⟩
  change Function.update moved.actorHealth moved.playerActorId _ (session.playerId : Int) = _
  rw [knowsMoved.own, Function.update_self]
  rfl

/-- One attempt leaves client and session in agreement. -/
theorem step_followed (preset : String) (named : 0 < runId) (client : AuthoritativeState)
    (session : Session) (attempt : Survival.Attempt)
    (agrees : Kept runId session ∧ Shows client session) :
    Followed (hear runId preset) (fun client session => Kept runId session ∧ Shows client session)
      client (step session attempt) := by
  obtain ⟨kept, shows⟩ := agrees
  rcases step_cases session attempt with quiet | ⟨run, update, state, active, applied, persisted,
    stepped⟩
  · rw [quiet]
    exact followed_quiet ⟨kept, shows⟩
  · rw [stepped]
    obtain ⟨advanced, sound⟩ := SurvivalRun.apply_spec kept.sound applied
    obtain ⟨alive, playing⟩ := SurvivalRun.apply_playing applied
    obtain ⟨other, activeRun, plays⟩ := kept.fits.playing alive playing
    cases active.symm.trans activeRun
    obtain ⟨actor, found, own, -, position, health, maximum, enemy⟩ := kept.actor
    generalize proven : nextProof session run.runId attempt.elapsedMs attempt.action update = proof
      at persisted ⊢
    have acted : proof.action = some attempt.action := by rw [← proven]; rfl
    have effect : proof.effect = update.effect := by rw [← proven]; rfl
    have fits := fits_of_stored kept.fits.valid active plays playing advanced
      ⟨by rw [← proven]; exact plays.named, effect⟩ persisted
    have registry := registry_projected advanced acted effect found own position health
    have kept' : Kept runId (advancedSession session proof update state) := by
      refine ⟨sound, ⟨_, (registry _).trans (if_pos rfl), own, rfl, rfl, rfl, ?_, ?_⟩, kept.apart,
        fits⟩
      · exact maximum.trans advanced.maximum.symm
      · obtain ⟨enemy, present, unhurt⟩ := enemy
        exact ⟨enemy, (registry _).trans ((if_neg kept.apart).trans present), unhurt⟩
    have proofRun : proof.runId = runId := by rw [← proven]; exact plays.named
    obtain ⟨next, taken, showsNext⟩ := shows_step preset state shows
      (by rw [proofRun]; exact named) alive playing advanced sound acted effect
      (by rw [← proven]; rfl)
    rw [proofRun] at taken
    exact ⟨next, taken, kept', showsNext⟩

/-! ## The start of a session -/

variable {entry : ChallengeEntry} {before : ChallengeState}

/-- The command of a prepared entry starts a run of the contract. -/
theorem run_of_entry {policy : Policy} {transition : Transition}
    (prepared : prepareChallengeEntry entry before = .ok ())
    (stepped : Step policy before.advanced entry.command transition) :
    ∃ run, transition.state.active = some run ∧ run.rules.contract = .lastReserve ∧
      run.rules.preset = .baseline ∧ run.objectives = 0 ∧ run.equipment = entry.equipment := by
  unfold prepareChallengeEntry at prepared
  unfold ChallengeEntry.command at stepped
  cases retried : entry.retryRunId with
  | none =>
      simp only [retried] at stepped
      cases stepped with
      | start available idle admitted published =>
          obtain ⟨contract, preset, -⟩ := rulesWithPreset_ok published
          exact ⟨_, rfl, contract, preset, rfl, rfl⟩
      | confirm active asked | complete active asked => cases asked
  | some runId =>
      simp only [retried, bind_eq_ok, exists_unit, require_eq_ok, rejectIf_eq_ok, not_or,
        not_not] at prepared
      obtain ⟨-, -, previous, latest, -, own, plain⟩ := prepared
      simp only [retried] at stepped
      cases stepped with
      | @retryActive run _ _ active admitted published =>
          have same : previous = run := by
            unfold ChallengeState.latestRun at latest
            rw [show before.active = some run from active] at latest
            exact (Option.some.inj latest).symm
          obtain ⟨contract, preset, -⟩ := rulesWithPreset_ok published
          rw [same] at own plain
          exact ⟨_, rfl, contract.trans own, preset.trans plain, rfl, rfl⟩
      | @retryEnded result _ _ idle last admitted published =>
          have same : previous = result.run := by
            unfold ChallengeState.latestRun at latest
            rw [show before.active = none from idle, show before.lastResult = some result from last]
              at latest
            exact (Option.some.inj latest).symm
          obtain ⟨contract, preset, -⟩ := rulesWithPreset_ok published
          rw [same] at own plain
          exact ⟨_, rfl, contract.trans own, preset.trans plain, rfl, rfl⟩
      | confirm active asked | complete active asked => cases asked

/-- A committed entry leaves a fresh run of the contract. -/
theorem entry_started {after : ChallengeState} {player : Actor}
    (committed : commitChallengeEntry entry before = .ok (player, after)) :
    after.Valid ∧ ∃ run, after.active = some run ∧ Playing run run.runId .west ∧
      0 < run.runId ∧ run.equipment = entry.equipment ∧ player.id = entry.playerId ∧
      player.position = spawn ∧ player.health = player.maxHealth ∧
      ∀ profile, entry.equipment.profile = .ok profile → profile.maxHealth = player.maxHealth := by
  unfold commitChallengeEntry at committed
  simp only [guard_bind_eq_ok] at committed
  obtain ⟨prepared, committed⟩ := committed
  split at committed
  · cases committed
  · next weapons maxHealth projected =>
    simp only [bind_eq_ok, pure_eq_ok] at committed
    obtain ⟨state, stored, same⟩ := committed
    cases same
    have written : Persistence.commitCommand before entry.command = .ok after := by
      unfold commitCommand at stored
      split at stored
      · next saved =>
        cases stored
        exact saved
      · cases stored
    obtain ⟨-, -, valid, first, stepped⟩ := Persistence.commitCommand_ok written
    refine ⟨valid, ?_⟩
    obtain ⟨run, active, contract, preset, objectives, equipment⟩ := run_of_entry prepared stepped
    refine ⟨run, active, ⟨rfl, contract, preset, objectives⟩, (valid.active run active).started,
      equipment, rfl, rfl, rfl, ?_⟩
    intro profile resolved
    exact entry.equipment.maxHealth_admitted projected resolved

/-- The sentinel as it is spawned. -/
def sentinel (enemyId : Nat) : Actor :=
  { id := enemyId, kind := .enemy, archetype := "signal-sentinel", position := Sentinel.position
    health := Sentinel.health, maxHealth := Sentinel.health }

/-- The evidence of the spawn. -/
def openingProof (runId enemyId : Nat) : SurvivalEvidence :=
  { runId, sequence := 1, elapsedMs := 0, enemyId, action := none, effect := Effect.default }

/-- The messages that open the contract are taken, and client and session agree. -/
theorem spawn_followed {player : Actor} {enemyId : Nat} {stored : Bool}
    {messages : List ServerMessage} (preset : String)
    (committed : commitChallengeEntry entry before = .ok (player, state))
    (fresh : enemyId ≠ entry.playerId)
    (spawned : spawnChallengeSurvival player state enemyId stored = .ok (session, messages)) :
    ∃ run, state.active = some run ∧ 0 < run.runId ∧ Kept run.runId session ∧
      SurvivalRun.new entry.equipment = .ok session.survival.world ∧
      session.survival.sequence = 1 ∧
      Followed (hear run.runId preset)
        (fun client session => Kept run.runId session ∧ Shows client session)
        (joinWorld entry.playerId) (session, messages) := by
  obtain ⟨valid, run, active, plays, named, equipment, own, position, full, maximum⟩ :=
    entry_started committed
  unfold spawnChallengeSurvival at spawned
  simp only [active, require, equipment, bind_eq_ok, Except.ok.injEq, exists_eq_left'] at spawned
  split at spawned
  · cases spawned
  · next world opened =>
    obtain ⟨sound, there, phase, unused, healthy, alive, -, -⟩ := SurvivalRun.new_sound opened
    have limit : world.maxHealth = player.maxHealth := by
      unfold SurvivalRun.new at opened
      simp only [bind_eq_ok, exists_unit, pure_eq_ok] at opened
      obtain ⟨-, profile, resolved, rfl⟩ := opened
      exact maximum profile resolved
    simp only [bind_eq_ok, pure_eq_ok] at spawned
    obtain ⟨after, persisted, same⟩ := spawned
    cases same
    have unchanged : after = state := by
      unfold persistSurvivalProof at persisted
      simp only [guard_bind_eq_ok] at persisted
      cases persisted.2.2
      rfl
    subst unchanged
    have playing : Playing run run.runId world.phase := by
      rw [phase]
      exact plays
    have kept : Kept run.runId
        { playerId := player.id
          actors := ((ActorRegistry.empty.insert player).spawn enemyId .enemy "signal-sentinel"
            Sentinel.position Sentinel.health).1
          state := after, survival := { world, sequence := 1, enemyId } } := by
      have apart : enemyId ≠ player.id := by
        rw [own]
        exact fresh
      have present : ∀ other, ((ActorRegistry.empty.insert player).spawn enemyId .enemy
          "signal-sentinel" Sentinel.position Sentinel.health).1.get other =
          if other = enemyId then some (sentinel enemyId)
          else if other = player.id then some player else none := by
        intro other
        simp only [ActorRegistry.spawn, ActorRegistry.get_insert]
        rfl
      refine ⟨sound, ⟨player, ?_, rfl, rfl, ?_, ?_, limit.symm, sentinel enemyId, ?_, rfl⟩, apart,
        ⟨valid, fun _ _ => ⟨run, active, playing⟩, ?_⟩⟩
      · rw [present, if_neg apart.symm, if_pos rfl]
      · exact position.trans there.symm
      · exact full.trans (limit.symm.trans healthy.symm)
      · rw [present, if_pos rfl]
        rfl
      · rintro (fell | completed)
        · exact absurd fell alive.ne'
        · exact absurd (phase.symm.trans completed) (by decide)
    refine ⟨run, active, named, kept, opened, rfl, ?_⟩
    obtain ⟨first, takenPlayer, knowsPlayer, closedPlayer, -⟩ :=
      hear_spawn_player run.runId preset (joinWorld entry.playerId) player
        (congrArg Int.ofNat own.symm)
    obtain ⟨second, takenEnemy, knowsEnemy, closedEnemy, -⟩ :=
      hear_spawn_other run.runId preset knowsPlayer (sentinel enemyId) (own ▸ fresh)
    rw [closedPlayer] at closedEnemy
    have knows : Knows second player.id world.position world.health world.maxHealth := by
      rw [there, healthy, limit, ← position]
      rw [full] at knowsEnemy
      exact knowsEnemy
    have precedes : Precedes second 0 false := by
      constructor
      · rw [closedEnemy]
        rfl
      · rw [closedEnemy]
        rfl
    have west : phaseText world = "west" := by
      unfold phaseText
      rw [if_neg alive.ne', phase]
    have taken : hear run.runId preset second
        (projectSurvivalState player.id (openingProof run.runId enemyId) world) = .ok _ :=
      hear_state preset sound named knows rfl (Nat.zero_le _) precedes rfl unused (by rintro ⟨⟩) (by
        rw [closedEnemy, west, healthy]
        unfold AuthoritativeState.validSurvivalOrder
        rw [if_pos (show (joinWorld entry.playerId).survivalState = noFields from rfl),
          rejectIf_eq_ok]
        simp [openingProof, Effect.default])
    refine ⟨_, (feed_cons_of_ok takenPlayer).trans ((feed_cons_of_ok takenEnemy).trans
      ((feed_cons_of_ok taken).trans (feed_nil _))), kept, ?_⟩
    refine ⟨⟨knows.own, knows.actor, ?_, knows.maximum⟩, by rintro ⟨⟩, ⟨rfl, rfl⟩, rfl⟩
    change Function.update second.actorHealth second.playerActorId _ (player.id : Int) = _
    rw [knows.own, Function.update_self]

/-! ## Accepted actions -/

/-- A run through actions that are all accepted. -/
def performs (world : SurvivalRun) : List (Nat × Action) → Except Survival.Error SurvivalRun
  | [] => .ok world
  | (elapsedMs, action) :: rest => do
      let update ← world.apply elapsedMs action
      performs update.run rest

/-- The participant's own attempt, which the database stores. -/
def ownAttempt (session : Session) (timed : Nat × Action) : Survival.Attempt :=
  { player := session.playerId, elapsedMs := timed.1, action := timed.2, stored := true }

/-- What the world accepts, the session performs. -/
theorem step_of_accepted {elapsedMs : Nat} {action : Action} {update : Update}
    (kept : Kept runId session) (room : session.state.revision < maxRevision)
    (counts : session.survival.sequence < u64Max)
    (applied : session.survival.world.apply elapsedMs action = .ok update) :
    ∃ proof state, (step session (ownAttempt session (elapsedMs, action))).1 =
        advancedSession session proof update state ∧
      proof.sequence = session.survival.sequence + 1 ∧
      state.revision ≤ session.state.revision + 1 := by
  obtain ⟨advanced, -⟩ := SurvivalRun.apply_spec kept.sound applied
  obtain ⟨alive, playing⟩ := SurvivalRun.apply_playing applied
  obtain ⟨run, active, plays⟩ := kept.fits.playing alive playing
  obtain ⟨actor, found, -, agrees⟩ := kept.actor
  have proves : Proves runId (nextProof session run.runId elapsedMs action update) update :=
    ⟨plays.named, rfl⟩
  obtain ⟨state, persisted, -⟩ :=
    stored_step kept.fits.valid active plays playing advanced proves (fun _ => room)
  refine ⟨nextProof session run.runId elapsedMs action update, state, ?_, rfl, ?_⟩
  · have answered : applySurvivalActionAt session session.playerId elapsedMs action true =
        .ok (advancedSession session (nextProof session run.runId elapsedMs action update) update
            state,
          (projectSurvivalAction session.playerId
            (nextProof session run.runId elapsedMs action update) update.run session.actors).2) := by
      unfold applySurvivalActionAt
      simp only [active, bind_eq_ok, exists_unit, require_eq_ok, rejectIf_eq_ok, not_not]
      refine ⟨actor, found, agrees, ?_⟩
      simp only [applied, bind_eq_ok, exists_unit, rejectIf_eq_ok, pure_eq_ok]
      exact ⟨by omega, state, persisted, rfl⟩
    unfold step ownAttempt
    rw [answered]
  · unfold persistSurvivalProof at persisted
    simp only [guard_bind_eq_ok] at persisted
    obtain ⟨-, -, written⟩ := persisted
    split at written
    · cases written
      exact Nat.le_succ _
    · unfold commitCommand at written
      split at written
      · next committed =>
        cases written
        exact (Persistence.commitCommand_revision committed).le
      · cases written

/-- What the world accepts in a row, the session performs, one state for each. -/
theorem play_of_accepted (preset : String) (named : 0 < runId) {client : AuthoritativeState}
    {actions : List (Nat × Action)} {last : SurvivalRun}
    (agrees : Kept runId session ∧ Shows client session)
    (room : session.state.revision + actions.length ≤ maxRevision)
    (counts : session.survival.sequence + actions.length ≤ u64Max)
    (performed : performs session.survival.world actions = .ok last) :
    (play step session (actions.map (ownAttempt session))).1.survival.world = last ∧
      (play step session (actions.map (ownAttempt session))).1.survival.sequence =
        session.survival.sequence + actions.length := by
  induction actions generalizing session client with
  | nil =>
      cases performed
      exact ⟨rfl, rfl⟩
  | cons timed rest inductionHypothesis =>
      rw [List.length_cons] at room counts
      simp only [performs, bind_eq_ok] at performed
      obtain ⟨update, applied, performed⟩ := performed
      obtain ⟨proof, state, stepped, numbered, revision⟩ :=
        step_of_accepted agrees.1 (by omega) (by omega) applied
      obtain ⟨next, -, agreesNext⟩ :=
        step_followed preset named client session (ownAttempt session timed) agrees
      have later : (play step session ((timed :: rest).map (ownAttempt session))).1 =
          (play step (advancedSession session proof update state)
            (rest.map (ownAttempt session))).1 := by
        rw [← stepped]
        rfl
      rw [stepped] at agreesNext
      rw [later]
      have sequence : (advancedSession session proof update state).survival.sequence =
          session.survival.sequence + 1 := numbered
      have kept : (advancedSession session proof update state).state.revision ≤
          session.state.revision + 1 := revision
      obtain ⟨world, count⟩ := inductionHypothesis agreesNext (by omega) (by omega) performed
      refine ⟨world, count.trans ?_⟩
      rw [List.length_cons]
      omega

/-- The client takes every message of a session that plays Last Reserve, whatever
is attempted and whatever the database answers, and shows the accepted world
after each attempt.  Every sequence of actions that the world accepts is
performed, and the client then shows the world it ends in. -/
theorem survival_projection {entry : ChallengeEntry} {before state : ChallengeState}
    {player : Actor} {enemyId : Nat} {stored : Bool} {session : Session}
    {opening : List ServerMessage} (preset : String)
    (committed : commitChallengeEntry entry before = .ok (player, state))
    (fresh : enemyId ≠ entry.playerId)
    (spawned : spawnChallengeSurvival player state enemyId stored = .ok (session, opening)) :
    ∃ run, state.active = some run ∧
      SurvivalRun.new entry.equipment = .ok session.survival.world ∧
      (∀ attempts, ∃ client,
        feed (hear run.runId preset) (joinWorld entry.playerId)
          (opening ++ (play step session attempts).2) = .ok client ∧
        Shows client (play step session attempts).1) ∧
      ∀ actions last, performs session.survival.world actions = .ok last →
        session.state.revision + actions.length ≤ maxRevision → actions.length < u64Max →
        (play step session (actions.map (ownAttempt session))).1.survival.world = last := by
  obtain ⟨run, active, named, kept, opened, first, client, taken, -, shows⟩ :=
    spawn_followed preset committed fresh spawned
  refine ⟨run, active, opened, ?_, ?_⟩
  · intro attempts
    obtain ⟨last, takenLater, -, shown⟩ :=
      followed_play (step_followed preset named) ⟨kept, shows⟩ attempts
    exact ⟨last, (feed_append_of_ok taken).trans takenLater, shown⟩
  · intro actions last performed room counts
    exact (play_of_accepted preset named ⟨kept, shows⟩ room (by omega) performed).1

/-- A first entry of a new character. -/
def plainEntry : ChallengeEntry :=
  { playerId := 1, policy := .modifier, retryRunId := none, equipment := Challenges.plainEquipment
    contentCapable := true }

/-- Its player, as admitted. -/
def plainPlayer : Actor :=
  { id := 1, kind := .player, archetype := "operator", position := spawn, health := 100
    maxHealth := 100 }

/-- Its save, with the run that was started. -/
def plainSave : ChallengeState :=
  { revision := 1
    active := some
      { runId := 1, rules := ContractId.lastReserve.rules, equipment := Challenges.plainEquipment
        objectives := 0, elapsedMs := none }
    lastResult := none, records := [] }

def plainWorld : SurvivalRun :=
  { position := spawn, health := 100, maxHealth := 100, phase := .west, reserveUsed := false
    lastElapsedMs := 0, nextShotMs := 1800, chargeStartedMs := none, recoveryStartedMs := none }

/-- The session and its opening messages. -/
def plainOpening : Session × List ServerMessage :=
  ({ playerId := 1
     actors := (ActorRegistry.empty.insert plainPlayer).insert (sentinel 2), state := plainSave
     survival := { world := plainWorld, sequence := 1, enemyId := 2 } },
    [actorSpawnMessage plainPlayer, actorSpawnMessage (sentinel 2),
      projectSurvivalState 1 (openingProof 1 2) plainWorld])

theorem plain_spawned :
    spawnChallengeSurvival plainPlayer plainSave 2 true = .ok (plainOpening.1, plainOpening.2) :=
  rfl

/-- The first session of a new character. -/
theorem survival_projection_plain :
    ∃ run, plainSave.active = some run ∧
      SurvivalRun.new plainEntry.equipment = .ok plainOpening.1.survival.world ∧
      (∀ attempts, ∃ client,
        feed (hear run.runId "baseline") (joinWorld plainEntry.playerId)
          (plainOpening.2 ++ (play step plainOpening.1 attempts).2) = .ok client ∧
        Shows client (play step plainOpening.1 attempts).1) ∧
      ∀ actions last, performs plainOpening.1.survival.world actions = .ok last →
        plainOpening.1.state.revision + actions.length ≤ maxRevision → actions.length < u64Max →
        (play step plainOpening.1
          (actions.map (ownAttempt plainOpening.1))).1.survival.world = last :=
  @survival_projection plainEntry .default plainSave plainPlayer 2 true plainOpening.1
    plainOpening.2 "baseline" (by decide +kernel) (by decide) plain_spawned

end Survival
end Agreement
end Revenant
