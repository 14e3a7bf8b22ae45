import Revenant.Persistence.CooperationRewards

namespace Revenant
namespace Persistence
namespace Cooperative

open Library Replay Cooperation

/-!
# The tables take what the domain accepts

The checks of the tables repeat the order and the deadlines of the domain.  A
request that is not earlier than what is recorded passes them whenever the
domain accepts it, so a session that journals nothing is refused by the domain
or not at all.

A load refuses what the checks let through and the domain would not have done;
that side is in `CooperationRows`.
-/

namespace Stage

/-- The operations a stage records have plain names. -/
def Plain : Stage → Prop
  | awaitingAnchor | awaitingPing _ => True
  | awaitingRunner _ ping | runnerDowned _ ping _ => plainOperationId ping.operationId = true
  | reviveChannel _ ping _ channel | encounterActive _ ping _ channel _ =>
      plainOperationId ping.operationId = true ∧ plainOperationId channel.operationId = true

/-- The times of a stage follow one another within the deadlines. -/
def InTime : Stage → Prop
  | awaitingAnchor => True
  | awaitingPing anchorAt => anchorAt ≤ 60000
  | awaitingRunner anchorAt ping =>
      anchorAt ≤ ping.acceptedElapsedMs ∧ ping.acceptedElapsedMs ≤ 60000
  | runnerDowned anchorAt ping downedAt =>
      anchorAt ≤ ping.acceptedElapsedMs ∧ ping.acceptedElapsedMs ≤ downedAt ∧
      downedAt ≤ ping.acceptedElapsedMs + 5000 ∧ downedAt ≤ 60000
  | reviveChannel anchorAt ping downedAt channel =>
      anchorAt ≤ ping.acceptedElapsedMs ∧ ping.acceptedElapsedMs ≤ downedAt ∧
      downedAt ≤ ping.acceptedElapsedMs + 5000 ∧ downedAt ≤ channel.acceptedElapsedMs ∧
      channel.acceptedElapsedMs ≤ downedAt + 15000 ∧ channel.acceptedElapsedMs ≤ 60000
  | encounterActive anchorAt ping downedAt channel revivedAt =>
      anchorAt ≤ ping.acceptedElapsedMs ∧ ping.acceptedElapsedMs ≤ downedAt ∧
      downedAt ≤ ping.acceptedElapsedMs + 5000 ∧ downedAt ≤ channel.acceptedElapsedMs ∧
      channel.acceptedElapsedMs ≤ downedAt + 15000 ∧
      channel.acceptedElapsedMs + 2000 ≤ revivedAt ∧ revivedAt ≤ downedAt + 15000 ∧
      revivedAt ≤ 60000

end Stage

/-- The checks of a stage's columns, without the columns. -/
theorem checks_columns (input : CooperationOperationInput) (stage : Stage) :
    (stage.columns (insertedParent input)).Checks ↔
      (insertedParent input).ConstantColumns ∧ stage.Plain ∧ stage.InTime := by
  cases stage <;>
    simp [StoredParent.Checks, StoredParent.ConstantColumns, StoredParent.PairedColumns,
      StoredParent.PhaseColumns, StoredParent.recorded, StoredParent.TimeColumns,
      StoredParent.TerminalColumns, StoredParent.TemporalContract, StoredParent.InStage, upTo,
      apart, StoredParent.times, Stage.columns, insertedParent, Stage.Plain, Stage.InTime,
      arriveAnchorColumns, pingColumns, downColumns, channelColumns, reviveColumns,
      Cooperation.operationDurationMs, Cooperation.pingTtlMs, Cooperation.reviveWindowMs,
      Cooperation.reviveChannelMs]
  all_goals omega

/-! ## Endings -/

/-- When a deadline is met: which one, and that no other came before it. -/
theorem overdue_cases {state : CooperationState} {elapsedMs : Nat} {outcome : TerminalOutcome}
    (due : state.overdue elapsedMs = some outcome) :
    (outcome = .failedPingTimeout ∧ state.phase = .awaitingRunner ∧ ∃ record ∈ state.ping,
      isStrictlyAfter elapsedMs record.acceptedElapsedMs Cooperation.pingTtlMs = true) ∨
    (outcome = .failedReviveTimeout ∧ state.phase.isDown = true ∧ ∃ downedAt ∈ state.downedElapsedMs,
      isStrictlyAfter elapsedMs downedAt Cooperation.reviveWindowMs = true) ∨
    (outcome = .failedOperationTimeout ∧ Cooperation.operationDurationMs < elapsedMs ∧
      (state.phase = .awaitingRunner → ∀ record ∈ state.ping,
        isStrictlyAfter elapsedMs record.acceptedElapsedMs Cooperation.pingTtlMs = false) ∧
      (state.phase.isDown = true → ∀ downedAt ∈ state.downedElapsedMs,
        isStrictlyAfter elapsedMs downedAt Cooperation.reviveWindowMs = false)) := by
  simp only [CooperationState.overdue, Option.or_eq_some_iff] at due
  rcases due with stage | ⟨undue, total⟩
  · split at stage
    · next phase =>
      split at stage <;> cases stage
      exact Or.inl ⟨rfl, phase, ‹_›⟩
    · next phase =>
      split at stage <;> cases stage
      exact Or.inr (Or.inl ⟨rfl, by rw [phase]; rfl, ‹_›⟩)
    · next phase =>
      split at stage <;> cases stage
      exact Or.inr (Or.inl ⟨rfl, by rw [phase]; rfl, ‹_›⟩)
    · cases stage
  · split at total <;> cases total
    refine Or.inr (Or.inr ⟨rfl, ‹_›, ?_, ?_⟩)
    · intro phase record pinged
      rw [phase] at undue
      by_contra after
      simp only [ite_eq_right_iff, reduceCtorEq, imp_false] at undue
      exact undue ⟨record, pinged, Bool.eq_true_of_not_eq_false after⟩
    · intro down downedAt downed
      by_contra after
      cases phase : state.phase with
      | runnerDowned | reviveChannel =>
          rw [phase] at undue
          simp only [ite_eq_right_iff, reduceCtorEq, imp_false] at undue
          exact undue ⟨downedAt, downed, Bool.eq_true_of_not_eq_false after⟩
      | awaitingAnchor | awaitingPing | awaitingRunner | encounterActive | succeeded | failed =>
          rw [phase] at down
          cases down

/-- The recorded contributions are not after the time. -/
def StoredParent.Before (parent : StoredParent) (elapsedMs : Nat) : Prop :=
  ∀ time ∈ parent.times, upTo 0 time (some elapsedMs)

section Endings

variable {parent : StoredParent} {elapsedMs : Nat} {outcome : TerminalOutcome}

namespace StoredParent.Before

theorem anchor (later : parent.Before elapsedMs) : upTo 0 parent.anchorElapsedMs (some elapsedMs) :=
  later _ (by simp [times])

theorem ping (later : parent.Before elapsedMs) : upTo 0 parent.pingElapsedMs (some elapsedMs) :=
  later _ (by simp [times])

theorem runner (later : parent.Before elapsedMs) : upTo 0 parent.runnerElapsedMs (some elapsedMs) :=
  later _ (by simp [times])

theorem revive (later : parent.Before elapsedMs) :
    upTo 0 parent.reviveCompletedElapsedMs (some elapsedMs) :=
  later _ (by simp [times])

end StoredParent.Before

/-- An end is only checked against its own columns. -/
theorem checks_closeParent (checks : parent.Checks) (running : parent.terminalOutcome = none)
    (later : parent.Before elapsedMs) (failed : outcome ≠ .succeeded)
    (fits : (closeParent outcome elapsedMs parent).TerminalColumns)
    (staged : outcome = .failedOperationTimeout → (closeParent outcome elapsedMs parent).InStage) :
    (closeParent outcome elapsedMs parent).Checks := by
  obtain ⟨constants, paired, phased, timed, -, ⟨within, warden, -, -⟩⟩ := checks
  obtain ⟨first, second, third, fourth, fifth, sixth, seventh, eighth, ninth, tenth, counted,
    wardened, -, named⟩ := paired
  rw [running] at warden
  refine ⟨constants, ⟨first, second, third, fourth, fifth, sixth, seventh, eighth, ninth, tenth,
    counted, wardened, rfl, named⟩, phased, timed, fits, within, ?_, later, ?_⟩
  · rw [show (closeParent outcome elapsedMs parent).wardenCompleted = false from warden]
    exact (decide_eq_false (fun same => failed (Option.some.inj same))).symm
  · intro same
    exact staged (Option.some.inj same)

end Endings

section Stages

variable {admission : Admission} {stage : Stage} {elapsedMs : Nat} {outcome : TerminalOutcome}

/-- The columns of a stage of the admission. -/
abbrev Admission.columns (admission : Admission) (stage : Stage) : StoredParent :=
  stage.columns (insertedParent admission.input)

theorem inStage_laid
    (pinged : (admission.reached stage).phase = .awaitingRunner →
      ∀ record ∈ (admission.reached stage).ping,
        elapsedMs ≤ record.acceptedElapsedMs + Cooperation.pingTtlMs)
    (downed : (admission.reached stage).phase.isDown = true →
      ∀ downedAt ∈ (admission.reached stage).downedElapsedMs,
        elapsedMs ≤ downedAt + Cooperation.reviveWindowMs) :
    (closeParent outcome elapsedMs (admission.columns stage)).InStage := by
  constructor
  · intro phase
    cases stage with
    | awaitingRunner anchorAt ping =>
        rintro _ ⟨⟩ _ ⟨⟩
        exact pinged rfl ping rfl
    | awaitingAnchor | awaitingPing | runnerDowned | reviveChannel | encounterActive => cases phase
  · intro phase
    cases stage with
    | runnerDowned _ _ downedAt | reviveChannel _ _ downedAt =>
        rintro _ ⟨⟩ _ ⟨⟩
        exact downed rfl downedAt rfl
    | awaitingAnchor | awaitingPing | awaitingRunner | encounterActive =>
        rcases phase with phase | phase <;> cases phase

theorem inStage_of_timely (timely : Timely (admission.reached stage) elapsedMs) :
    (closeParent outcome elapsedMs (admission.columns stage)).InStage :=
  inStage_laid (fun phase _ pinged => timely.ping phase pinged)
    (fun down _ downed => timely.revive down downed)

theorem after_of_isStrictlyAfter {startMs durationMs : Nat} (early : startMs ≤ 60000)
    (short : durationMs ≤ 60000) (after : isStrictlyAfter elapsedMs startMs durationMs = true) :
    startMs + durationMs + 1 ≤ elapsedMs := by
  have bounded : startMs + durationMs ≤ u64Max := by
    unfold u64Max
    omega
  simp only [isStrictlyAfter, Bool.or_eq_true, decide_eq_true_eq] at after
  omega

/-- The tables take a timeout that the domain reports. -/
theorem checks_timedOut (checks : (admission.columns stage).Checks)
    (later : (admission.columns stage).Before elapsedMs)
    (due : (admission.reached stage).overdue elapsedMs = some outcome) :
    (closeParent outcome elapsedMs (admission.columns stage)).Checks := by
  obtain ⟨-, -, inTime⟩ := (checks_columns _ _).mp checks
  have running : (admission.columns stage).terminalOutcome = none := by cases stage <;> rfl
  rcases overdue_cases due with ⟨rfl, phase, record, pinged, after⟩ |
    ⟨rfl, down, downedAt, downed, after⟩ | ⟨rfl, long, ping, revive⟩
  · apply checks_closeParent checks running later (by decide) _ (by rintro ⟨⟩)
    refine ⟨?_, ?_, ?_, ?_, ?_, ?_⟩ <;> rintro ⟨⟩
    cases stage with
    | awaitingRunner anchorAt ping =>
        cases pinged
        refine ⟨rfl, ?_⟩
        rintro _ ⟨⟩ _ ⟨⟩
        exact after_of_isStrictlyAfter inTime.2 (show (5000 : Nat) ≤ 60000 by decide) after
    | awaitingAnchor | awaitingPing | runnerDowned | reviveChannel | encounterActive => cases phase
  · apply checks_closeParent checks running later (by decide) _ (by rintro ⟨⟩)
    refine ⟨?_, ?_, ?_, ?_, ?_, ?_⟩ <;> rintro ⟨⟩
    cases stage with
    | runnerDowned anchorAt ping fellAt =>
        cases downed
        refine ⟨Or.inl rfl, ?_⟩
        rintro _ ⟨⟩ _ ⟨⟩
        exact after_of_isStrictlyAfter inTime.2.2.2 (show (15000 : Nat) ≤ 60000 by decide) after
    | reviveChannel anchorAt ping fellAt channel =>
        cases downed
        refine ⟨Or.inr rfl, ?_⟩
        rintro _ ⟨⟩ _ ⟨⟩
        exact after_of_isStrictlyAfter (inTime.2.2.2.1.trans inTime.2.2.2.2.2)
          (show (15000 : Nat) ≤ 60000 by decide) after
    | awaitingAnchor | awaitingPing | awaitingRunner | encounterActive => cases down
  · have staged : (closeParent .failedOperationTimeout elapsedMs (admission.columns stage)).InStage :=
      inStage_laid (fun phase record pinged => within_of_isStrictlyAfter (ping phase record pinged))
        (fun down downedAt downed => within_of_isStrictlyAfter (revive down downedAt downed))
    apply checks_closeParent checks running later (by decide) _ (fun _ => staged)
    refine ⟨?_, ?_, ?_, ?_, ?_, ?_⟩ <;> rintro ⟨⟩
    rintro _ ⟨⟩ _ ⟨⟩
    cases stage <;> exact long

theorem checks_abandoned (checks : (admission.columns stage).Checks)
    (later : (admission.columns stage).Before elapsedMs)
    (timely : Timely (admission.reached stage) elapsedMs) :
    (closeParent .abandonedDisconnect elapsedMs (admission.columns stage)).Checks := by
  have running : (admission.columns stage).terminalOutcome = none := by cases stage <;> rfl
  apply checks_closeParent checks running later (by decide) _ (by rintro ⟨⟩)
  refine ⟨?_, ?_, ?_, ?_, ?_, ?_⟩ <;> rintro ⟨⟩
  refine ⟨?_, inStage_of_timely timely⟩
  rintro _ ⟨⟩ _ ⟨⟩
  cases stage <;> exact timely.operation

theorem checks_defeated (checks : (admission.columns stage).Checks)
    (later : (admission.columns stage).Before elapsedMs)
    (timely : Timely (admission.reached stage) elapsedMs)
    (phase : (admission.reached stage).phase = .encounterActive) :
    (closeParent .failedParticipantDefeated elapsedMs (admission.columns stage)).Checks := by
  have running : (admission.columns stage).terminalOutcome = none := by cases stage <;> rfl
  apply checks_closeParent checks running later (by decide) _ (by rintro ⟨⟩)
  refine ⟨?_, ?_, ?_, ?_, ?_, ?_⟩ <;> rintro ⟨⟩
  refine ⟨?_, ?_⟩
  · exact (phase_laid admission stage .running).symm.trans phase
  · rintro _ ⟨⟩ _ ⟨⟩
    cases stage <;> exact timely.operation

theorem checks_succeeded (checks : (admission.columns stage).Checks)
    (later : (admission.columns stage).Before elapsedMs)
    (timely : Timely (admission.reached stage) elapsedMs)
    (phase : (admission.reached stage).phase = .encounterActive) :
    (completeColumns elapsedMs (admission.columns stage)).Checks := by
  obtain ⟨constants, paired, ⟨recorded, -⟩, timed, -, ⟨within, -, -, -⟩⟩ := checks
  obtain ⟨first, second, third, fourth, fifth, sixth, seventh, eighth, ninth, tenth, counted, -, -,
    named⟩ := paired
  obtain ⟨pinged, downed, channelled, revived, -⟩ := timed
  have active : (admission.columns stage).phase = .encounterActive :=
    (phase_laid admission stage .running).symm.trans phase
  have done : (admission.columns stage).revived = true := by
    cases stage with
    | encounterActive => rfl
    | awaitingAnchor | awaitingPing | awaitingRunner | runnerDowned | reviveChannel => cases phase
  have early : upTo 0 (some elapsedMs) (some (admission.columns stage).operationDurationMs) := by
    rintro _ ⟨⟩ _ ⟨⟩
    cases stage <;> exact timely.operation
  refine ⟨constants, ⟨first, second, third, fourth, fifth, sixth, seventh, eighth, ninth, tenth,
    counted, rfl, rfl, named⟩, ⟨recorded, Or.inl active⟩,
    ⟨pinged, downed, channelled, revived, fun _ => ⟨done, ?_, early⟩⟩, ?_, within, rfl, later, ?_⟩
  · exact later.revive
  · refine ⟨fun _ => ⟨active, rfl, rfl⟩, ?_, ?_, ?_, ?_, ?_⟩ <;> rintro ⟨⟩
  · rintro ⟨⟩

end Stages

/-! ## Contributions -/

/-- A participant's row is checked against its new health and life. -/
theorem participant_checks {participant : StoredParticipant} {currentHealth : Nat} {life : LifeState}
    (checks : participant.Checks) (fits : currentHealth ≤ participant.profile.maxHealth)
    (alive : life = .active ↔ 0 < currentHealth) :
    { participant with currentHealth, life }.Checks := by
  obtain ⟨weapon, modules, damage, range, cooldown, health, admitted, bounded, -, -⟩ := checks
  exact ⟨weapon, modules, damage, range, cooldown, health, admitted, bounded, fits, alive⟩

namespace Durable

variable {owners : String → Option String} {rows : OperationRows} {state next : CooperationState}
  {elapsedMs : Nat} {operationId : String} {distanceSquared : Int}

/-- The rows of a session that an operation is applied to have no end. -/
theorem open_of_live (durable : Durable owners rows state) (live : state.terminal = none) :
    rows.parent.terminalOutcome = none :=
  durable.terminal.trans live

theorem arriveAnchor_checks (durable : Durable owners rows state) (checks : rows.parent.Checks)
    (answered : perform (.arriveAnchor .anchor .relayAnchor elapsedMs) state =
      (.ok .applied, next)) : (arriveAnchorColumns elapsedMs rows.parent).Checks := by
  obtain ⟨timely, phase, -, rfl⟩ := arriveAnchor_answers.mp answered
  obtain ⟨admission, stage, valid, reached, rfl, rfl⟩ := durable.running timely.live
  cases stage with
  | awaitingAnchor =>
      obtain ⟨constants, -, -⟩ := (checks_columns admission.input .awaitingAnchor).mp checks
      exact (checks_columns admission.input (.awaitingPing elapsedMs)).mpr
        ⟨constants, trivial, timely.operation⟩
  | awaitingPing | awaitingRunner | runnerDowned | reviveChannel | encounterActive => cases phase

theorem ping_checks (durable : Durable owners rows state) (checks : rows.parent.Checks)
    (later : rows.parent.Before elapsedMs)
    (answered : perform (.ping .anchor .relayConsole operationId elapsedMs) state =
      (.ok .applied, next)) : (pingColumns operationId elapsedMs rows.parent).Checks := by
  obtain ⟨timely, plain, ⟨-, impossible, -⟩ | ⟨-, phase, -, rfl⟩⟩ := ping_answers.mp answered
  · cases impossible
  obtain ⟨admission, stage, valid, reached, rfl, rfl⟩ := durable.running timely.live
  cases stage with
  | awaitingPing anchorAt =>
      obtain ⟨constants, -, -⟩ := (checks_columns admission.input (.awaitingPing anchorAt)).mp checks
      have ordered : anchorAt ≤ elapsedMs := later.anchor anchorAt rfl elapsedMs rfl
      exact (checks_columns admission.input (.awaitingRunner anchorAt ⟨operationId, elapsedMs⟩)).mpr
        ⟨constants, plain, ordered, timely.operation⟩
  | awaitingAnchor | awaitingRunner | runnerDowned | reviveChannel | encounterActive => cases phase

theorem arriveRunner_checks (durable : Durable owners rows state) (checks : rows.parent.Checks)
    (later : rows.parent.Before elapsedMs)
    (answered : perform (.arriveRunner .runner .relayConsole elapsedMs) state =
      (.ok .applied, next)) : (downColumns elapsedMs rows.parent).Checks := by
  obtain ⟨timely, phase, -, -, rfl⟩ := arriveRunner_answers.mp answered
  obtain ⟨admission, stage, valid, reached, rfl, rfl⟩ := durable.running timely.live
  cases stage with
  | awaitingRunner anchorAt ping =>
      obtain ⟨constants, plain, first, -⟩ :=
        (checks_columns admission.input (.awaitingRunner anchorAt ping)).mp checks
      have ordered : ping.acceptedElapsedMs ≤ elapsedMs := later.ping _ rfl elapsedMs rfl
      exact (checks_columns admission.input (.runnerDowned anchorAt ping elapsedMs)).mpr
        ⟨constants, plain, first, ordered, timely.ping rfl rfl, timely.operation⟩
  | awaitingAnchor | awaitingPing | runnerDowned | reviveChannel | encounterActive => cases phase

theorem startRevive_checks (durable : Durable owners rows state) (checks : rows.parent.Checks)
    (later : rows.parent.Before elapsedMs)
    (answered : perform (.startRevive .anchor .runner distanceSquared operationId elapsedMs) state =
      (.ok .applied, next)) : (channelColumns operationId elapsedMs rows.parent).Checks := by
  obtain ⟨timely, -, plain, ⟨_, earlier, rfl, -⟩ | ⟨-, phase, -, -, rfl⟩⟩ :=
    startRevive_answers.mp answered
  · cases CooperationState.earlierRevive_replayed earlier
  obtain ⟨admission, stage, valid, reached, rfl, rfl⟩ := durable.running timely.live
  cases stage with
  | runnerDowned anchorAt ping downedAt =>
      obtain ⟨constants, named, first, second, third, -⟩ :=
        (checks_columns admission.input (.runnerDowned anchorAt ping downedAt)).mp checks
      have ordered : downedAt ≤ elapsedMs := later.runner downedAt rfl elapsedMs rfl
      exact (checks_columns admission.input
        (.reviveChannel anchorAt ping downedAt ⟨operationId, elapsedMs⟩)).mpr
          ⟨constants, ⟨named, plain⟩, first, second, third, ordered, timely.revive rfl rfl,
            timely.operation⟩
  | awaitingAnchor | awaitingPing | awaitingRunner | reviveChannel | encounterActive => cases phase

/-- An observation that closes the channel undoes its columns, one that was held
long enough records the revive. -/
theorem observeRevive_checks {given : MutationDisposition} (durable : Durable owners rows state)
    (checks : rows.parent.Checks)
    (answered : perform (.observeRevive .anchor .runner distanceSquared operationId elapsedMs)
      state = (.ok given, next)) :
    (given = .cancelled → (cancelColumns rows.parent).Checks) ∧
      (given = .applied → (reviveColumns elapsedMs rows.parent).Checks) := by
  obtain ⟨timely, plain, observed⟩ := observed_of_observeRevive answered
  obtain ⟨admission, stage, valid, reached, rfl, rfl⟩ := durable.running timely.live
  cases observed with
  | repeated => exact ⟨by rintro ⟨⟩, by rintro ⟨⟩⟩
  | running => exact ⟨by rintro ⟨⟩, by rintro ⟨⟩⟩
  | outside phase =>
      refine ⟨fun _ => ?_, by rintro ⟨⟩⟩
      cases stage with
      | reviveChannel anchorAt ping downedAt channel =>
          obtain ⟨constants, ⟨named, -⟩, first, second, third, fourth, fifth, sixth⟩ :=
            (checks_columns admission.input (.reviveChannel anchorAt ping downedAt channel)).mp checks
          exact (checks_columns admission.input (.runnerDowned anchorAt ping downedAt)).mpr
            ⟨constants, named, first, second, third, fourth.trans sixth⟩
      | awaitingAnchor | awaitingPing | awaitingRunner | runnerDowned | encounterActive =>
          cases phase
  | done phase opened same held =>
      refine ⟨by rintro ⟨⟩, fun _ => ?_⟩
      cases stage with
      | reviveChannel anchorAt ping downedAt channel =>
          obtain rfl : channel = _ := Option.some.inj opened
          obtain ⟨constants, named, first, second, third, fourth, fifth, -⟩ :=
            (checks_columns admission.input (.reviveChannel anchorAt ping downedAt channel)).mp checks
          exact (checks_columns admission.input
            (.encounterActive anchorAt ping downedAt channel elapsedMs)).mpr
              ⟨constants, named, first, second, third, fourth, fifth, held, timely.revive rfl rfl,
                timely.operation⟩
      | awaitingAnchor | awaitingPing | awaitingRunner | runnerDowned | encounterActive =>
          cases phase

/-- The tables take the deadline an operation runs into. -/
theorem expired_checks {operation : Operation} {outcome : TerminalOutcome}
    (durable : Durable owners rows state) (checks : rows.parent.Checks)
    (later : rows.parent.Before elapsedMs) (timed : operation.elapsedMs = some elapsedMs)
    (answered : perform operation state = (.error (.deadlineExpired outcome), next)) :
    (closeParent outcome elapsedMs rows.parent).Checks := by
  obtain ⟨live, rfl, _, observed, due⟩ := perform_expired answered
  cases timed.symm.trans observed
  obtain ⟨admission, stage, valid, reached, rfl, rfl⟩ := durable.running live
  exact checks_timedOut checks later due

end Durable

/-! ## Answers -/

/-- The call does not fail. -/
def Answers {Value : Type} (call : Mutation Value) (transaction : Transaction) : Prop :=
  ∃ value after, call transaction = (.ok value, after)

section Answers

variable {start transaction : Transaction} {operation : Operation} {Value : Type}
  {given : MutationDisposition} {next : CooperationState} {rows : OperationRows}

theorem answers_return (value : Value) : Answers (return value) transaction :=
  ⟨value, transaction, rfl⟩

theorem answers_bind {First : Type} {first : Mutation First} {rest : First → Mutation Value}
    {value : First} {between : Transaction} (ran : first transaction = (.ok value, between))
    (answers : Answers (rest value) between) : Answers (first >>= rest) transaction := by
  obtain ⟨result, after, finished⟩ := answers
  exact ⟨result, after, (Call.bind_of_ok ran).trans finished⟩

theorem answers_operate {rest : MutationDisposition → Mutation Value}
    (answered : perform operation transaction.stored.state = (.ok given, next))
    (answers : Answers (rest given) (transaction.moved next)) :
    Answers (operate operation >>= rest) transaction := by
  apply answers_bind _ answers
  unfold operate
  rw [answered]
  rfl

variable {rest : Unit → Mutation Value}

theorem answers_check {look : Transaction → Except CooperationPersistenceError Unit}
    (passed : look transaction = .ok ()) (answers : Answers (rest ()) transaction) :
    Answers (Call.check look >>= rest) transaction := by
  apply answers_bind _ answers
  rw [Call.check, passed]

theorem answers_execute
    {statement : StoredOperation → Database → Except CooperationPersistenceError Database}
    {database : Database} (ran : statement transaction.stored transaction.database = .ok database)
    (answers : Answers (rest ()) { transaction with database }) :
    Answers (execute statement >>= rest) transaction := by
  apply answers_bind _ answers
  unfold execute
  rw [ran]

theorem answers_setParent {change : StoredParent → StoredParent}
    (stored : transaction.database.operations transaction.stored.sessionId = some rows)
    (running : rows.parent.terminalOutcome = none) (checks : (change rows.parent).Checks)
    (answers : Answers (rest ()) { transaction with
      database := transaction.database.write transaction.stored.sessionId
        { rows with parent := change rows.parent } }) :
    Answers (setParent change >>= rest) transaction :=
  answers_execute ((updateParent_eq_ok stored).mpr ⟨running, checks, rfl⟩) answers

theorem answers_setParticipant {role : Role} {currentHealth : Nat} {life : LifeState}
    (stored : transaction.database.operations transaction.stored.sessionId = some rows)
    (checks : ((rows.withParticipant role currentHealth life).participant role).Checks)
    (answers : Answers (rest ()) { transaction with
      database := transaction.database.write transaction.stored.sessionId
        (rows.withParticipant role currentHealth life) }) :
    Answers (setParticipant role currentHealth life >>= rest) transaction :=
  answers_execute ((updateParticipant_eq_ok stored).mpr ⟨checks, rfl⟩) answers

/-- A session that journals nothing has no evidence to write. -/
theorem answers_evidence
    {statement : StoredOperation → Database → Except CooperationPersistenceError Database}
    (answers : Answers (rest ()) transaction) :
    Answers (evidence false statement >>= rest) transaction :=
  answers_execute rfl answers

end Answers

/-! ## Mutations of sessions that journal nothing -/

section Plain

variable {journal : Journalling} {start : Transaction} {elapsedMs : Nat} {next : CooperationState}
  {given : MutationDisposition}

theorem elapsedI64_eq_ok (fits : elapsedMs ≤ i64Max) : elapsedI64 elapsedMs = .ok () := by
  simp only [elapsedI64, rejectIf_eq_ok, gt_iff_lt, Nat.not_lt]
  exact fits

theorem arriveAnchorMutation_answers (held : Held start) (checked : start.stored.rows.Checked)
    (fits : elapsedMs ≤ i64Max)
    (answered : perform (anchorOperation elapsedMs
      start.stored.rows.parent.anchorElapsedMs.isSome) start.stored.state = (.ok given, next))
    (moves : next ≠ start.stored.state) : Answers (arriveAnchorMutation elapsedMs) start := by
  apply answers_bind rfl
  cases arrived : start.stored.rows.parent.anchorElapsedMs with
  | some earlier =>
      rw [arrived] at answered
      exact absurd (observeDeadlines_answers.mp answered).2.2 moves
  | none =>
      rw [arrived] at answered
      obtain ⟨rfl, -⟩ := held.durable.arriveAnchor answered
      apply answers_operate answered
      apply answers_check (elapsedI64_eq_ok fits)
      exact answers_setParent (held.moved next)
        (held.durable.open_of_live (live_of_applied answered))
        (held.durable.arriveAnchor_checks checked.parent answered) (answers_return _)

variable {operationId : String}

theorem pingMutation_answers (held : Held start) (checked : start.stored.rows.Checked)
    (fits : elapsedMs ≤ i64Max) (later : start.stored.rows.parent.Before elapsedMs)
    (answered : perform (.ping .anchor .relayConsole operationId elapsedMs) start.stored.state =
      (.ok given, next)) (moves : next ≠ start.stored.state) :
    Answers (pingMutation journal operationId elapsedMs false) start := by
  rcases held.durable.ping answered with ⟨-, same⟩ | ⟨rfl, -⟩
  · exact absurd same moves
  apply answers_operate answered
  apply answers_check (elapsedI64_eq_ok fits)
  apply answers_setParent (held.moved next)
    (held.durable.open_of_live (live_of_applied answered))
    (held.durable.ping_checks checked.parent later answered)
  exact answers_evidence (answers_return _)

theorem downRunnerMutation_answers (held : Held start) (checked : start.stored.rows.Checked)
    (fits : elapsedMs ≤ i64Max) (later : start.stored.rows.parent.Before elapsedMs)
    (answered : perform (runnerOperation elapsedMs
      start.stored.rows.parent.runnerElapsedMs.isSome) start.stored.state = (.ok given, next))
    (moves : next ≠ start.stored.state) :
    Answers (downRunnerMutation journal elapsedMs false) start := by
  apply answers_bind rfl
  cases arrived : start.stored.rows.parent.runnerElapsedMs with
  | some earlier =>
      rw [arrived] at answered
      exact absurd (observeDeadlines_answers.mp answered).2.2 moves
  | none =>
      rw [arrived] at answered
      obtain ⟨rfl, -⟩ := held.durable.arriveRunner answered
      apply answers_operate answered
      apply answers_check (elapsedI64_eq_ok fits)
      apply answers_setParent (held.moved next)
        (held.durable.open_of_live (live_of_applied answered))
        (held.durable.arriveRunner_checks checked.parent later answered)
      have fallen : { start.stored.rows.runner with currentHealth := 0, life := .downed }.Checks :=
        participant_checks checked.runner (Nat.zero_le _) (by decide)
      refine answers_setParticipant (write_operations _ _ _) ?_ (answers_evidence (answers_return _))
      exact fallen

theorem startReviveMutation_answers {distanceSquared : Int} (held : Held start)
    (checked : start.stored.rows.Checked) (fits : elapsedMs ≤ i64Max)
    (later : start.stored.rows.parent.Before elapsedMs)
    (answered : perform (.startRevive .anchor .runner distanceSquared operationId elapsedMs)
      start.stored.state = (.ok given, next)) (moves : next ≠ start.stored.state) :
    Answers (startReviveMutation operationId distanceSquared elapsedMs) start := by
  rcases held.durable.startRevive answered with ⟨-, same⟩ | ⟨rfl, -⟩
  · exact absurd same moves
  apply answers_operate answered
  apply answers_check (elapsedI64_eq_ok fits)
  exact answers_setParent (held.moved next)
    (held.durable.open_of_live (live_of_applied answered))
    (held.durable.startRevive_checks checked.parent later answered) (answers_return _)

theorem observeReviveMutation_answers {distanceSquared : Int} (held : Held start)
    (checked : start.stored.rows.Checked) (fits : elapsedMs ≤ i64Max)
    (answered : perform (.observeRevive .anchor .runner distanceSquared operationId elapsedMs)
      start.stored.state = (.ok given, next)) (moves : next ≠ start.stored.state) :
    Answers (observeReviveMutation journal operationId distanceSquared elapsedMs false) start := by
  have live := (observed_of_observeRevive answered).1.live
  obtain ⟨cancels, revives⟩ := held.durable.observeRevive_checks checked.parent answered
  rcases held.durable.observeRevive answered with ⟨-, same⟩ | ⟨rfl, -⟩ | ⟨rfl, -⟩
  · exact absurd same moves
  · apply answers_operate answered
    exact answers_setParent (held.moved next) (held.durable.open_of_live live) (cancels rfl)
      (answers_return _)
  · apply answers_operate answered
    apply answers_check (elapsedI64_eq_ok fits)
    apply answers_setParent (held.moved next) (held.durable.open_of_live live) (revives rfl)
    have healthy : 50 ≤ start.stored.rows.runner.profile.maxHealth := by
      obtain ⟨-, -, -, -, -, ⟨low, -⟩, -⟩ := checked.runner
      omega
    have risen : { start.stored.rows.runner with currentHealth := 50, life := .active }.Checks :=
      participant_checks checked.runner healthy (by decide)
    refine answers_setParticipant (write_operations _ _ _) ?_ (answers_evidence (answers_return _))
    exact risen

end Plain

/-! ## Requests of sessions that journal nothing -/

/-- The session's journal holds no cooperation and no route. -/
def Quiet (database : Database) (sessionId : String) : Prop :=
  cooperationCount (database.stream sessionId) = 0 ∧ routeCount (database.stream sessionId) = 0

/-- Whether a request asks for a journal. -/
def Request.journals : Request → Bool
  | .start _ appendReplay | .ping _ _ _ appendReplay | .downRunner _ _ appendReplay
  | .observeRevive _ _ _ _ appendReplay | .complete _ _ appendReplay | .timeout _ _ appendReplay
  | .defeat _ _ _ appendReplay | .abandon _ _ _ appendReplay => appendReplay
  | .arriveAnchor _ _ | .startRevive _ _ _ _ => false

section Requests

variable {journal : Journalling} {database : Database} {sessionId : String}
  {stored : StoredOperation} {elapsedMs : Nat} {next : CooperationState}

theorem validateExistingReplay_quiet {expectation : Option Bool}
    (quiet : Quiet database stored.sessionId) (expects : expectation ≠ some true) :
    validateExistingReplay journal database stored expectation = .ok false := by
  have starts : startCount (database.stream stored.sessionId) = 0 := by
    have fewer : startCount (database.stream stored.sessionId) ≤
        cooperationCount (database.stream stored.sessionId) := by
      apply List.countP_mono_left
      intro event _ started
      rw [of_decide_eq_true started]
      rfl
    have none := quiet.1
    omega
  have mode : replayMode (database.stream stored.sessionId) = .ok false := by
    unfold replayMode
    rw [starts, quiet.1]
    rfl
  simp only [validateExistingReplay, bind_eq_ok, exists_unit, rejectIf_eq_ok, not_or, not_not]
  refine ⟨false, mode, ⟨quiet.2, ?_⟩, rfl⟩
  rintro ⟨expected, asked, other⟩
  cases expected with
  | true => exact expects asked
  | false => exact other rfl

theorem mutateCooperation_settles {expectation : Option Bool}
    {mutation : Bool → Mutation MutationDisposition} {settled : CooperationReceipt × Database}
    (named : validateStorageId sessionId "session" = .ok ())
    (loaded : requireOperation database sessionId = .ok stored)
    (quiet : Quiet database stored.sessionId) (expects : expectation ≠ some true)
    (settles : settle journal elapsedMs false (mutation false { database, stored }) = .ok settled) :
    mutateCooperation journal sessionId elapsedMs expectation mutation database = .ok settled := by
  simp only [mutateCooperation, bind_eq_ok, exists_unit]
  exact ⟨named, stored, loaded, false, validateExistingReplay_quiet quiet expects, settled, settles,
    rfl⟩

variable {start : Transaction}

theorem settle_of_answers {mutation : Mutation MutationDisposition}
    (answers : Answers mutation start) :
    ∃ settled, settle journal elapsedMs false (mutation start) = .ok settled := by
  obtain ⟨disposition, after, ran⟩ := answers
  rw [ran]
  exact ⟨_, rfl⟩

variable {outcome : TerminalOutcome}

/-- A mutation that asks the domain first reports its deadline. -/
theorem operate_missed {operation : Operation}
    {rest : MutationDisposition → Mutation MutationDisposition}
    (missed : perform operation start.stored.state = (.error (.deadlineExpired outcome), next)) :
    (operate operation >>= rest) start =
      (.error (.domain (.deadlineExpired outcome)), start.moved next) := by
  apply Call.bind_of_error
  unfold operate
  rw [missed]
  rfl

theorem arriveAnchorMutation_missed
    (missed : perform (anchorOperation elapsedMs start.stored.rows.parent.anchorElapsedMs.isSome)
      start.stored.state = (.error (.deadlineExpired outcome), next)) :
    arriveAnchorMutation elapsedMs start =
      (.error (.domain (.deadlineExpired outcome)), start.moved next) := by
  have asked : Call.check (fun transaction : Transaction =>
      (.ok transaction.stored.rows.parent.anchorElapsedMs :
        Except CooperationPersistenceError (Option Nat))) start =
      (.ok start.stored.rows.parent.anchorElapsedMs, start) := rfl
  refine (Call.bind_of_ok asked).trans ?_
  cases arrived : start.stored.rows.parent.anchorElapsedMs <;> rw [arrived] at missed <;>
    exact operate_missed missed

theorem downRunnerMutation_missed {replayMode : Bool}
    (missed : perform (runnerOperation elapsedMs start.stored.rows.parent.runnerElapsedMs.isSome)
      start.stored.state = (.error (.deadlineExpired outcome), next)) :
    downRunnerMutation journal elapsedMs replayMode start =
      (.error (.domain (.deadlineExpired outcome)), start.moved next) := by
  have asked : Call.check (fun transaction : Transaction =>
      (.ok transaction.stored.rows.parent.runnerElapsedMs :
        Except CooperationPersistenceError (Option Nat))) start =
      (.ok start.stored.rows.parent.runnerElapsedMs, start) := rfl
  refine (Call.bind_of_ok asked).trans ?_
  cases arrived : start.stored.rows.parent.runnerElapsedMs <;> rw [arrived] at missed <;>
    exact operate_missed missed

theorem settle_of_missed {operation : Operation} {mutation : Mutation MutationDisposition}
    (held : Held start) (checked : start.stored.rows.Checked) (fits : elapsedMs ≤ i64Max)
    (later : start.stored.rows.parent.Before elapsedMs)
    (timed : operation.elapsedMs = some elapsedMs)
    (missed : perform operation start.stored.state = (.error (.deadlineExpired outcome), next))
    (ran : mutation start = (.error (.domain (.deadlineExpired outcome)), start.moved next)) :
    ∃ settled, settle journal elapsedMs false (mutation start) = .ok settled := by
  obtain ⟨live, -⟩ := perform_expired missed
  obtain ⟨-, timeout⟩ := unsucceeded_of_expired missed
  have closes : persistFailureTerminal start.database start.stored.sessionId outcome elapsedMs =
      .ok (start.database.write start.stored.sessionId
        { start.stored.rows with
          parent := closeParent outcome elapsedMs start.stored.rows.parent }) := by
    simp only [persistFailureTerminal, bind_eq_ok, exists_unit, rejectIf_eq_ok]
    refine ⟨?_, elapsedI64_eq_ok fits, (updateParent_eq_ok held.stored).mpr
      ⟨held.durable.open_of_live live,
        held.durable.expired_checks checked.parent later timed missed, rfl⟩⟩
    rintro rfl
    cases timeout
  rw [ran]
  simp only [settle, expire, bind_eq_ok, pure_eq_ok]
  exact ⟨_, _, ⟨_, closes, rfl⟩, rfl⟩

/-! ### Rewards -/

theorem rewardParticipant_of_payable {participant : StoredParticipant} {previous : Progression}
    (payable : Payable database stored.sessionId participant.characterId previous) :
    rewardParticipant stored false participant database =
      .ok (database.granted stored.sessionId participant.characterId previous) := by
  simp only [rewardParticipant, applyCompletionReward, List.contains_iff_mem, payable.unpaid,
    if_false, bind_eq_ok, require_eq_ok, exists_unit, rejectIf_eq_ok, pure_eq_ok, gt_iff_lt,
    Nat.not_lt]
  exact ⟨_, ⟨payable.room, previous, payable.progression, payable.fresh, rfl⟩, _, rfl, _, rfl, rfl⟩

/-- A character that can take a reward. -/
def Room (database : Database) (characterId : String) : Prop :=
  database.fragments characterId + successReward.fragments ≤ i32Max ∧
    ∃ previous, database.progression characterId = some previous

variable {rows : OperationRows}

theorem payable_of_room {origin : Database} {characterId : String}
    (accounts : Accounts origin database) (found : database.operations sessionId = some rows)
    (running : rows.parent.terminalOutcome = none) (room : Room database characterId) :
    ∃ previous, Payable database sessionId characterId previous := by
  have unpaid : (sessionId, characterId) ∉ database.rewardGrants := by
    rw [accounts.earned]
    rintro ⟨other, stands, ended, -⟩
    cases found.symm.trans stands
    cases running.symm.trans ended
  obtain ⟨previous, progression⟩ := room.2
  exact ⟨previous, unpaid, accounts.balanced.same ▸ unpaid, room.1, progression⟩

/-- The first reward leaves room for the second. -/
theorem Payable.granted {first second : String} {before previous : Progression}
    (payable : Payable database sessionId second previous) (apart : first ≠ second) :
    Payable (database.granted sessionId first before) sessionId second previous where
  unpaid := by
    simp only [Database.granted, List.mem_append, List.mem_singleton, Prod.mk.injEq, true_and,
      not_or]
    exact ⟨payable.unpaid, Ne.symm apart⟩
  fresh := by
    simp only [Database.granted, List.mem_append, List.mem_singleton, Prod.mk.injEq, true_and,
      not_or]
    exact ⟨payable.fresh, Ne.symm apart⟩
  room := by
    simp only [Database.granted, Function.update_of_ne (Ne.symm apart)]
    exact payable.room
  progression := by
    simp only [Database.granted, Function.update_of_ne (Ne.symm apart)]
    exact payable.progression

/-! ### Completions and failures -/

variable {state : CooperationState}

theorem requireOperation_durable (found : database.operations sessionId = some rows)
    (durable : Durable database.owners rows state) :
    requireOperation database sessionId = .ok { sessionId, rows, state } := by
  simp only [requireOperation, bind_eq_ok, require_eq_ok]
  exact ⟨_, loadOperation_durable found durable, rfl⟩

/-- The tables take an ending that the domain accepts. -/
theorem Durable.ending_checks {owners : String → Option String}
    (durable : Durable owners rows state) (checks : rows.parent.Checks)
    (later : rows.parent.Before elapsedMs) (timely : Timely state elapsedMs) :
    (closeParent .abandonedDisconnect elapsedMs rows.parent).Checks ∧
    (state.phase = .encounterActive →
      (closeParent .failedParticipantDefeated elapsedMs rows.parent).Checks ∧
      (completeColumns elapsedMs rows.parent).Checks) := by
  obtain ⟨admission, stage, valid, reached, rfl, rfl⟩ := durable.running timely.live
  exact ⟨checks_abandoned checks later timely, fun phase =>
    ⟨checks_defeated checks later timely phase, checks_succeeded checks later timely phase⟩⟩

theorem completeCooperationOperation_answers {origin : Database} {given : MutationDisposition}
    (accounts : Accounts origin database) (checked : rows.Checked)
    (named : validateStorageId sessionId "session" = .ok ())
    (found : database.operations sessionId = some rows)
    (durable : Durable database.owners rows state) (quiet : Quiet database sessionId)
    (fits : elapsedMs ≤ i64Max) (later : rows.parent.Before elapsedMs)
    (answered : perform (.completeWarden elapsedMs) state = (.ok given, next))
    (live : state.terminal = none) (anchor : Room database rows.anchor.characterId)
    (runner : Room database rows.runner.characterId) :
    ∃ settled, completeCooperationOperation journal sessionId elapsedMs false database =
      .ok settled := by
  obtain ⟨timely, phase, -, rfl, -⟩ := (completeWarden_answers live).mp answered
  have running := durable.open_of_live live
  obtain ⟨anchorBefore, anchorPayable⟩ := payable_of_room accounts found running anchor
  obtain ⟨runnerBefore, runnerPayable⟩ := payable_of_room accounts found running runner
  obtain ⟨paid, rewarded, stands⟩ : ∃ paid, applySuccessRewards
      { sessionId, rows, state := next } false database = .ok paid ∧
      paid.operations sessionId = some rows := by
    simp only [applySuccessRewards, bind_eq_ok]
    exact ⟨_, ⟨database, rfl, _, rewardParticipant_of_payable anchorPayable,
      rewardParticipant_of_payable (runnerPayable.granted checked.distinct)⟩, found⟩
  have closes := (updateParent_eq_ok stands).mpr
    ⟨running, ((durable.ending_checks checked.parent later timely).2 phase).2, rfl⟩
  refine ⟨({ disposition := .applied, state := next }, paid.write sessionId
    { rows with parent := completeColumns elapsedMs rows.parent }), ?_⟩
  simp only [completeCooperationOperation, bind_eq_ok, exists_unit]
  refine ⟨named, _, requireOperation_durable found durable, false,
    validateExistingReplay_quiet quiet (by decide), ?_⟩
  simp only [live, bind_eq_ok, exists_unit]
  exact ⟨next, advanceWith_eq_ok.mpr ⟨_, answered⟩, _, rewarded, elapsedI64_eq_ok fits, _, closes, _,
    rfl, rfl⟩

/-- A failed end is written when its rows pass their checks. -/
theorem finishCooperationFailure_answers {subjectRole : Option Role}
    {retryMatches : TerminalOutcome → Bool}
    {mutation : CooperationState → Except CooperationPersistenceError CooperationState}
    (named : validateStorageId sessionId "session" = .ok ())
    (found : database.operations sessionId = some rows)
    (durable : Durable database.owners rows state) (quiet : Quiet database sessionId)
    (fits : elapsedMs ≤ i64Max) (live : state.terminal = none) (mutated : mutation state = .ok next)
    (ended : next.terminal = some outcome) (failed : outcome ≠ .succeeded)
    (marked : ∃ marked, defeatRows sessionId outcome subjectRole database = .ok marked ∧
      ∃ others, marked.operations sessionId = some others ∧ others.parent = rows.parent)
    (checks : (closeParent outcome elapsedMs rows.parent).Checks) :
    ∃ settled, finishCooperationFailure journal sessionId elapsedMs subjectRole false retryMatches
      mutation database = .ok settled := by
  obtain ⟨marked, marks, others, stands, same⟩ := marked
  have running : others.parent.terminalOutcome = none := by
    rw [same]
    exact durable.open_of_live live
  have closes : persistFailureTerminal marked sessionId outcome elapsedMs = .ok
      (marked.write sessionId
        { others with parent := closeParent outcome elapsedMs others.parent }) := by
    simp only [persistFailureTerminal, bind_eq_ok, exists_unit, rejectIf_eq_ok]
    exact ⟨failed, elapsedI64_eq_ok fits,
      (updateParent_eq_ok stands).mpr ⟨running, same ▸ checks, rfl⟩⟩
  refine ⟨({ disposition := .applied, state := next }, marked.write sessionId
    { others with parent := closeParent outcome elapsedMs others.parent }), ?_⟩
  simp only [finishCooperationFailure, bind_eq_ok, exists_unit]
  refine ⟨named, _, requireOperation_durable found durable, false,
    validateExistingReplay_quiet quiet (by decide), ?_⟩
  simp only [live, bind_eq_ok, exists_unit, require_eq_ok, rejectIf_eq_ok]
  exact ⟨next, mutated, outcome, ended, failed, marked, marks, _, closes, _, rfl, rfl⟩

theorem defeatRows_timeout {subjectRole : Option Role}
    (found : database.operations sessionId = some rows)
    (other : outcome ≠ .failedParticipantDefeated) :
    ∃ marked, defeatRows sessionId outcome subjectRole database = .ok marked ∧
      ∃ others, marked.operations sessionId = some others ∧ others.parent = rows.parent := by
  unfold defeatRows
  rw [if_neg other]
  exact ⟨database, rfl, rows, found, rfl⟩

theorem defeatRows_defeat (role : Role) (checked : rows.Checked)
    (found : database.operations sessionId = some rows) :
    ∃ marked, defeatRows sessionId .failedParticipantDefeated (some role) database = .ok marked ∧
      ∃ others, marked.operations sessionId = some others ∧ others.parent = rows.parent := by
  have checks : ((rows.withParticipant role 0 .defeated).participant role).Checks := by
    cases role with
    | anchor => exact participant_checks checked.anchor (Nat.zero_le _) (by decide)
    | runner => exact participant_checks checked.runner (Nat.zero_le _) (by decide)
  refine ⟨_, ?_, _, write_operations database sessionId
    (rows.withParticipant role 0 .defeated), by cases role <;> rfl⟩
  simp only [defeatRows, if_true, bind_eq_ok, require_eq_ok, Option.some.injEq, exists_eq_left']
  exact (updateParticipant_eq_ok found).mpr ⟨checks, rfl⟩

end Requests

/-! ## Runs -/

/-- What the tables hold after any run. -/
structure Sane (origin database : Database) : Prop where
  accounts : Accounts origin database
  checked : ∀ sessionId rows, database.operations sessionId = some rows → rows.Checked
  named : ∀ sessionId rows, database.operations sessionId = some rows →
    validateStorageId sessionId "session" = .ok ()

section Runs

variable {journal : Journalling} {origin database : Database} {request : Request}
  {receipt : CooperationReceipt}

/-- Every request checks the name of its session first. -/
theorem answer_named {next : Database}
    (answered : answer journal request database = .ok (receipt, next)) :
    validateStorageId request.sessionId "session" = .ok () := by
  cases request <;>
    simp only [answer, startCooperationOperation, mutateCooperation, completeCooperationOperation,
      finishCooperationFailure, bind_eq_ok, exists_unit] at answered <;>
    exact answered.1

theorem Sane.committed {next : Database} (sane : Sane origin database)
    (answered : answer journal request database = .ok (receipt, next)) : Sane origin next := by
  have committed := answer_committed sane.accounts.durable answered
  obtain ⟨rows, paid, durable, pays, wrote⟩ := committed.written
  have operations := wrote.operations
  have checks := wrote.checked
  rw [pays.operations] at operations checks
  constructor
  case accounts => exact sane.accounts.committed committed
  case checked =>
    intro sessionId stored found
    rw [operations] at found
    by_cases same : sessionId = request.sessionId
    · subst same
      rw [Function.update_self] at found
      cases found
      exact checks (sane.checked request.sessionId)
    · rw [Function.update_of_ne same] at found
      exact sane.checked sessionId stored found
  case named =>
    intro sessionId stored found
    by_cases same : sessionId = request.sessionId
    · subst same
      exact answer_named answered
    · rw [operations, Function.update_of_ne same] at found
      exact sane.named sessionId stored found

theorem sane_final (journal : Journalling) (moves : List Move)
    (empty : ∀ sessionId, origin.operations sessionId = none)
    (unpaid : origin.rewardGrants = [] ∧ origin.experienceGrants = []) :
    Sane origin (Call.final (act journal) moves origin) := by
  refine Call.final_keeps (Sane origin) ?_ moves ?_
  · intro move database sane
    cases move with
    | request request =>
        cases answered : answer journal request database with
        | error failure =>
            rw [show act journal (.request request) database = (.error failure, database) from
              Call.bind_of_error (Call.commit_of_error answered)]
            exact sane
        | ok pair =>
            rw [show act journal (.request request) database = (.ok (some pair.1), pair.2) from
              Call.bind_of_ok (Call.commit_of_ok answered)]
            exact sane.committed answered
    | record event foreign =>
        exact ⟨⟨sane.accounts.durable, ⟨sane.accounts.balanced.same,
          sane.accounts.balanced.fragments, sane.accounts.balanced.progression⟩,
          sane.accounts.nodup, sane.accounts.earned⟩, sane.checked, sane.named⟩
  · constructor
    case accounts => exact accounts_start empty unpaid
    case checked =>
      intro sessionId rows found
      cases (empty sessionId).symm.trans found
    case named =>
      intro sessionId rows found
      cases (empty sessionId).symm.trans found

/-- An operation that changes the state finds a running session. -/
theorem live_of_moved {operation : Operation} {state next : CooperationState}
    {given : MutationDisposition} (answered : perform operation state = (.ok given, next))
    (moves : next ≠ state) : state.terminal = none := by
  have step := perform_step operation state
  rw [answered] at step
  cases step with
  | replayed | pending => exact absurd rfl moves
  | anchored timely | pinged timely | downed timely | channelled timely | cancelled timely
  | revived timely | completed timely | defeated timely | disconnected timely => exact timely.live

/-- Whether a request commits the deadline it runs into. -/
def Request.commitsDeadlines : Request → Bool
  | .start _ _ | .complete _ _ _ => false
  | _ => true

/-- The domain goes on: it takes the operation, or it meets a deadline that the
request commits. -/
def Request.Pushes (request : Request) (operation : Operation) (state next : CooperationState) :
    Prop :=
  ((∃ given, perform operation state = (.ok given, next)) ∧ next ≠ state) ∨
    ((∃ outcome, perform operation state = (.error (.deadlineExpired outcome), next)) ∧
      request.commitsDeadlines = true)

section Pushes

variable {rows : OperationRows} {state next : CooperationState} {operation : Operation}
  {elapsedMs : Nat}

theorem mutateCooperation_pushes {expectation : Option Bool}
    {mutation : Bool → Mutation MutationDisposition} (sane : Sane origin database)
    (found : database.operations request.sessionId = some rows)
    (durable : Durable database.owners rows state) (quiet : Quiet database request.sessionId)
    (expects : expectation ≠ some true) (timed : operation.elapsedMs = some elapsedMs)
    (fits : elapsedMs ≤ i64Max) (later : rows.parent.Before elapsedMs)
    (pushes : request.Pushes operation state next)
    (answers : ∀ given, Held ⟨database, request.sessionId, rows, state⟩ →
      perform operation state = (.ok given, next) → next ≠ state →
        Answers (mutation false) ⟨database, request.sessionId, rows, state⟩)
    (misses : ∀ outcome, perform operation state = (.error (.deadlineExpired outcome), next) →
      mutation false ⟨database, request.sessionId, rows, state⟩ =
        (.error (.domain (.deadlineExpired outcome)),
          Transaction.moved ⟨database, request.sessionId, rows, state⟩ next)) :
    ∃ settled, mutateCooperation journal request.sessionId elapsedMs expectation mutation database =
      .ok settled := by
  have held : Held ⟨database, request.sessionId, rows, state⟩ := ⟨found, durable⟩
  have checked := sane.checked _ _ found
  obtain ⟨settled, settles⟩ : ∃ settled, settle journal elapsedMs false
      (mutation false ⟨database, request.sessionId, rows, state⟩) = .ok settled := by
    rcases pushes with ⟨⟨given, answered⟩, moves⟩ | ⟨⟨outcome, missed⟩, -⟩
    · exact settle_of_answers (answers given held answered moves)
    · exact settle_of_missed held checked fits later timed missed (misses outcome missed)
  exact ⟨settled, mutateCooperation_settles (sane.named _ _ found)
    (requireOperation_durable found durable) quiet expects settles⟩

theorem ending_of_performed {given : MutationDisposition}
    (answered : perform operation state = (.ok given, next)) : ending operation state = .ok next := by
  unfold ending
  rw [answered]

theorem ending_of_missed {outcome : TerminalOutcome}
    (missed : perform operation state = (.error (.deadlineExpired outcome), next)) :
    ending operation state = .ok next := by
  unfold ending
  rw [missed]

/-- A failure that runs into a deadline commits the timeout. -/
theorem finish_of_missed {sessionId : String} {subjectRole : Option Role}
    {retryMatches : TerminalOutcome → Bool} {outcome : TerminalOutcome}
    {mutation : CooperationState → Except CooperationPersistenceError CooperationState}
    (sane : Sane origin database) (found : database.operations sessionId = some rows)
    (durable : Durable database.owners rows state) (quiet : Quiet database sessionId)
    (fits : elapsedMs ≤ i64Max) (later : rows.parent.Before elapsedMs)
    (timed : operation.elapsedMs = some elapsedMs)
    (missed : perform operation state = (.error (.deadlineExpired outcome), next))
    (mutated : mutation state = .ok next) :
    ∃ settled, finishCooperationFailure journal sessionId elapsedMs subjectRole false retryMatches
      mutation database = .ok settled := by
  have live := (perform_expired missed).1
  obtain ⟨ended, timeout⟩ := unsucceeded_of_expired missed
  have checks := durable.expired_checks (sane.checked _ _ found).parent later timed missed
  have failed : outcome ≠ .succeeded ∧ outcome ≠ .failedParticipantDefeated := by
    constructor <;> rintro rfl <;> cases timeout
  exact finishCooperationFailure_answers (sane.named _ _ found) found durable quiet fits live mutated
    ended failed.1 (defeatRows_timeout found failed.2) checks

/-- A request of a session that journals nothing is answered when it pushes the domain. -/
theorem answer_of_pushes (journal : Journalling) (sane : Sane origin database)
    (found : database.operations request.sessionId = some rows)
    (durable : Durable database.owners rows state) (quiet : Quiet database request.sessionId)
    (plain : request.journals = false) (asked : request.operation state = some operation)
    (timed : operation.elapsedMs = some elapsedMs) (fits : elapsedMs ≤ i64Max)
    (later : rows.parent.Before elapsedMs) (pushes : request.Pushes operation state next)
    (room : operation = .completeWarden elapsedMs →
      Room database rows.anchor.characterId ∧ Room database rows.runner.characterId) :
    ∃ settled, answer journal request database = .ok settled := by
  have checked := sane.checked _ _ found
  have named := sane.named _ _ found
  cases request with
  | start input appendReplay => cases asked
  | arriveAnchor sessionId time =>
      cases asked
      obtain rfl : time = elapsedMs := by
        unfold anchorOperation at timed
        split at timed <;> exact Option.some.inj timed
      rw [← durable.arrivals.1] at pushes timed
      exact mutateCooperation_pushes sane found durable quiet (by decide) timed fits later pushes
        (fun given held answered moves => arriveAnchorMutation_answers held checked fits answered moves)
        (fun outcome missed => arriveAnchorMutation_missed missed)
  | ping sessionId operationId time appendReplay =>
      cases asked
      cases timed
      cases plain
      exact mutateCooperation_pushes sane found durable quiet (by decide) rfl fits later pushes
        (fun given held answered moves => pingMutation_answers held checked fits later answered moves)
        (fun outcome missed => operate_missed missed)
  | downRunner sessionId time appendReplay =>
      cases asked
      cases plain
      obtain rfl : time = elapsedMs := by
        unfold runnerOperation at timed
        split at timed <;> exact Option.some.inj timed
      rw [← durable.arrivals.2] at pushes timed
      exact mutateCooperation_pushes sane found durable quiet (by decide) timed fits later pushes
        (fun given held answered moves =>
          downRunnerMutation_answers held checked fits later answered moves)
        (fun outcome missed => downRunnerMutation_missed missed)
  | startRevive sessionId operationId distanceSquared time =>
      cases asked
      cases timed
      exact mutateCooperation_pushes sane found durable quiet (by decide) rfl fits later pushes
        (fun given held answered moves =>
          startReviveMutation_answers held checked fits later answered moves)
        (fun outcome missed => operate_missed missed)
  | observeRevive sessionId operationId distanceSquared time appendReplay =>
      cases asked
      cases timed
      cases plain
      exact mutateCooperation_pushes sane found durable quiet (by decide) rfl fits later pushes
        (fun given held answered moves =>
          observeReviveMutation_answers held checked fits answered moves)
        (fun outcome missed => operate_missed missed)
  | complete sessionId time appendReplay =>
      cases asked
      cases timed
      cases plain
      rcases pushes with ⟨⟨given, answered⟩, moves⟩ | ⟨-, impossible⟩
      · exact completeCooperationOperation_answers sane.accounts checked named found durable quiet
          fits later answered (live_of_moved answered moves) (room rfl).1 (room rfl).2
      · cases impossible
  | timeout sessionId time appendReplay =>
      cases asked
      cases timed
      cases plain
      rcases pushes with ⟨⟨given, answered⟩, moves⟩ | ⟨⟨outcome, missed⟩, -⟩
      · exact absurd (observeDeadlines_answers.mp answered).2.2 moves
      · have mutated : timingOut elapsedMs state = .ok next := by
          unfold timingOut
          rw [missed]
        exact finish_of_missed sane found durable quiet fits later rfl missed mutated
  | defeat sessionId role time appendReplay =>
      cases asked
      cases timed
      cases plain
      rcases pushes with ⟨⟨given, answered⟩, -⟩ | ⟨⟨outcome, missed⟩, -⟩
      · obtain ⟨timely, phase, -, rfl⟩ := defeatParticipant_answers.mp answered
        exact finishCooperationFailure_answers named found durable quiet fits timely.live
          (ending_of_performed answered) rfl (by decide) (defeatRows_defeat role checked found)
          ((durable.ending_checks checked.parent later timely).2 phase).1
      · exact finish_of_missed sane found durable quiet fits later rfl missed
          (ending_of_missed missed)
  | abandon sessionId role time appendReplay =>
      cases asked
      cases timed
      cases plain
      rcases pushes with ⟨⟨given, answered⟩, moves⟩ | ⟨⟨outcome, missed⟩, -⟩
      · have live := live_of_moved answered moves
        obtain ⟨timely, -, rfl⟩ := (disconnect_answers role live).mp answered
        exact finishCooperationFailure_answers named found durable quiet fits live
          (ending_of_performed answered) rfl (by decide) (defeatRows_timeout found (by decide))
          (durable.ending_checks checked.parent later timely).1
      · exact finish_of_missed sane found durable quiet fits later rfl missed
          (ending_of_missed missed)

/-- The receipt of a request that pushes the domain shows where it went. -/
theorem Accepted.state_of_pushes (accepted : Accepted request (some state) receipt)
    (asked : request.operation state = some operation)
    (pushes : request.Pushes operation state next) : receipt.state = next := by
  cases accepted with
  | restarted started =>
      subst started
      cases asked
  | performed asked' answered =>
      cases asked.symm.trans asked'
      rcases pushes with ⟨⟨given, same⟩, -⟩ | ⟨⟨outcome, missed⟩, -⟩
      · cases answered.symm.trans same
        rfl
      · cases answered.symm.trans missed
  | expired asked' answered =>
      cases asked.symm.trans asked'
      rcases pushes with ⟨⟨given, same⟩, -⟩ | ⟨⟨outcome, missed⟩, -⟩
      · cases answered.symm.trans same
      · cases answered.symm.trans missed
        rfl
  | closed ended =>
      have live : state.terminal = none := by
        rcases pushes with ⟨⟨given, same⟩, moves⟩ | ⟨⟨outcome, missed⟩, -⟩
        · exact live_of_moved same moves
        · exact (perform_expired missed).1
      cases live.symm.trans ended

end Pushes

/-- From a database without cooperations and rewards, after any moves: in a
session that journals nothing, a request that is not earlier than what is
recorded, and that the domain goes on with, is committed, and its receipt shows
where the domain went. -/
theorem cooperation_store_answers (journal : Journalling) (moves : List Move)
    (origin : Database) (empty : ∀ sessionId, origin.operations sessionId = none)
    (unpaid : origin.rewardGrants = [] ∧ origin.experienceGrants = []) :
    let reached := Call.final (act journal) moves origin
    ∀ (request : Request) (rows : OperationRows) (state next : CooperationState)
      (operation : Operation) (elapsedMs : Nat),
      reached.operations request.sessionId = some rows →
      reached.state request.sessionId = some state →
      Quiet reached request.sessionId → request.journals = false →
      request.operation state = some operation → operation.elapsedMs = some elapsedMs →
      elapsedMs ≤ i64Max → rows.parent.Before elapsedMs →
      request.Pushes operation state next →
      (operation = .completeWarden elapsedMs →
        Room reached rows.anchor.characterId ∧ Room reached rows.runner.characterId) →
      ∃ receipt after, handle journal request reached = (.ok receipt, after) ∧
        receipt.state = next := by
  intro reached request rows state next operation elapsedMs found loads quiet plain asked timed fits
    later pushes room
  have sane : Sane origin reached := sane_final journal moves empty unpaid
  obtain ⟨other, durable⟩ := sane.accounts.durable _ _ found
  obtain rfl : other = state := Option.some.inj ((state_durable found durable).symm.trans loads)
  obtain ⟨settled, answered⟩ := answer_of_pushes journal sane found durable quiet plain asked timed
    fits later pushes room
  refine ⟨settled.1, settled.2, Call.commit_of_ok answered, ?_⟩
  have accepted := (answer_committed sane.accounts.durable answered).accepted
  rw [loads] at accepted
  exact accepted.state_of_pushes asked pushes

theorem cooperation_store_answers_squad :
    let request := Request.complete "coop-session" 12000 false
    let reached := Call.final (act squadJournal) squadMoves squadDatabase
    ∃ receipt after, handle squadJournal request reached = (.ok receipt, after) ∧
      receipt.state.terminal = some .succeeded := by
  intro request reached
  have ready : (reached.operations "coop-session").bind (fun rows =>
      (reached.state "coop-session").map (fun state =>
        let answered := perform (.completeWarden 12000) state
        decide ((∀ time ∈ rows.parent.times, upTo 0 time (some 12000)) ∧
          answered.1.toOption.isSome = true ∧ answered.2 ≠ state ∧
          answered.2.terminal = some .succeeded ∧
          reached.fragments rows.anchor.characterId + successReward.fragments ≤ i32Max ∧
          reached.fragments rows.runner.characterId + successReward.fragments ≤ i32Max ∧
          (reached.progression rows.anchor.characterId).isSome = true ∧
          (reached.progression rows.runner.characterId).isSome = true))) = some true := by
    decide +kernel
  obtain ⟨rows, found, ready⟩ := Option.bind_eq_some_iff.mp ready
  obtain ⟨state, loads, ready⟩ := Option.map_eq_some_iff.mp ready
  obtain ⟨later, accepted, moves, ends, anchorRoom, runnerRoom, anchorLevel, runnerLevel⟩ :=
    of_decide_eq_true ready
  have quiet : Quiet reached "coop-session" := by
    constructor <;> decide +kernel
  cases answered : perform (.completeWarden 12000) state with
  | mk result next =>
      rw [answered] at accepted moves ends
      cases result with
      | error failure => cases accepted
      | ok given =>
          obtain ⟨receipt, after, committed, leads⟩ :=
            cooperation_store_answers squadJournal squadMoves squadDatabase (fun _ => rfl)
              ⟨rfl, rfl⟩ request rows state next (.completeWarden 12000) 12000 found
              loads quiet rfl rfl rfl (by decide) later (Or.inl ⟨⟨given, answered⟩, moves⟩)
              (fun _ => ⟨⟨anchorRoom, Option.isSome_iff_exists.mp anchorLevel⟩,
                ⟨runnerRoom, Option.isSome_iff_exists.mp runnerLevel⟩⟩)
          exact ⟨receipt, after, committed, leads ▸ ends⟩

end Runs

end Cooperative
end Persistence
end Revenant
