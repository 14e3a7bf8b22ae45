import Revenant.Cooperation.Timing

namespace Revenant
namespace Cooperation

open Library

/-!
# When an operation is accepted

Each operation that does not fail is told by its guards, its answer and the state
it leaves, in both directions: rows that record an accepted operation can perform
it again.

Each equivalence is proved by running the guards of the operation in their
order; the store reads them in both directions.
-/

variable {state next : CooperationState} {elapsedMs : Nat} {disposition : MutationDisposition}

theorem observeDeadlines_answers : observeDeadlines elapsedMs state = (.ok disposition, next) ↔
    Timely state elapsedMs ∧ disposition = .pending ∧ next = state := by
  simp only [observeDeadlines, Call.bind_answers, Call.check_answers]
  constructor
  · rintro ⟨timeout, between, ⟨looked, rfl⟩, answered⟩
    cases running : state.terminal with
    | some outcome =>
        rw [running] at looked
        cases looked
    | none =>
        rw [running] at looked
        cases due : state.overdue elapsedMs with
        | some outcome =>
            rw [due] at looked
            cases looked
            simp only [Call.bind_answers, Call.check_answers, reduceCtorEq, false_and, and_false,
              exists_false] at answered
        | none =>
            rw [due] at looked
            cases looked
            obtain ⟨rfl, rfl⟩ := Call.pure_answers.mp answered
            exact ⟨⟨running, due⟩, rfl, rfl⟩
  · rintro ⟨timely, rfl, rfl⟩
    refine ⟨none, next, ⟨?_, rfl⟩, rfl⟩
    rw [timely.live, timely.undue]

/-- An answered operation with a time came before every deadline. -/
theorem observe_bind_answers {rest : MutationDisposition → Operate MutationDisposition} :
    (observeDeadlines elapsedMs >>= rest) state = (.ok disposition, next) ↔
      Timely state elapsedMs ∧ rest .pending state = (.ok disposition, next) := by
  simp only [Call.bind_answers, observeDeadlines_answers]
  constructor
  · rintro ⟨_, _, ⟨timely, rfl, rfl⟩, answered⟩
    exact ⟨timely, answered⟩
  · rintro ⟨timely, answered⟩
    exact ⟨.pending, state, ⟨timely, rfl, rfl⟩, answered⟩

/-- A write and an answer. -/
theorem update_answers {change : CooperationState → CooperationState}
    {given : MutationDisposition} :
    (do Call.update change; return given : Operate MutationDisposition) state =
      (.ok disposition, next) ↔ disposition = given ∧ next = change state := by
  rw [Call.update_bind, Call.pure_answers]
  exact ⟨fun ⟨given, left⟩ => ⟨given.symm, left.symm⟩, fun ⟨given, left⟩ => ⟨given.symm, left.symm⟩⟩

theorem arriveAnchor_answers :
    arriveAnchor .anchor .relayAnchor elapsedMs state = (.ok disposition, next) ↔
      Timely state elapsedMs ∧ state.phase = .awaitingAnchor ∧ disposition = .applied ∧
      next = { state with
        contributions := { state.contributions with anchorArrived := true }
        phase := .awaitingPing } := by
  simp only [arriveAnchor, observe_bind_answers, Call.check_bind_answers, update_answers,
    bind_eq_ok, exists_unit, requireRoleTarget_eq_ok, CooperationState.requirePhase_eq_ok, true_and]

variable {operationId : String}

theorem validateOperationId_eq_ok :
    validateOperationId operationId = .ok () ↔ plainOperationId operationId = true := by
  simp only [validateOperationId, rejectIf_eq_ok, Bool.not_eq_false]

theorem ping_answers :
    ping .anchor .relayConsole operationId elapsedMs state = (.ok disposition, next) ↔
      Timely state elapsedMs ∧ plainOperationId operationId = true ∧
      ((∃ record ∈ state.ping, record.operationId = operationId) ∧ disposition = .replayed ∧
          next = state ∨
        state.ping = none ∧ state.phase = .awaitingPing ∧ disposition = .applied ∧
          next = { state with
            ping := some { operationId, acceptedElapsedMs := elapsedMs }
            contributions := { state.contributions with pinged := true }
            phase := .awaitingRunner }) := by
  simp only [ping, observe_bind_answers, Call.check_bind_answers, bind_eq_ok, exists_unit,
    requireRoleTarget_eq_ok, validateOperationId_eq_ok, true_and, and_true,
    CooperationState.earlierPing]
  refine and_congr_right (fun _ => ?_)
  cases state.ping with
  | some record =>
      simp only [bind_eq_ok, exists_unit, rejectIf_eq_ok, not_not, pure_eq_ok, Option.mem_def,
        Option.some.injEq, exists_eq_left', reduceCtorEq, false_and, or_false]
      constructor
      · rintro ⟨_, ⟨plain, same, rfl⟩, answered⟩
        obtain ⟨rfl, rfl⟩ := Call.pure_answers.mp answered
        exact ⟨plain, same, rfl, rfl⟩
      · rintro ⟨plain, same, rfl, rfl⟩
        exact ⟨_, ⟨plain, same, rfl⟩, rfl⟩
  | none =>
      simp only [pure_eq_ok, Option.mem_def, reduceCtorEq, false_and, exists_false, false_or,
        true_and]
      constructor
      · rintro ⟨_, ⟨plain, rfl⟩, answered⟩
        simp only [Call.check_bind_answers, exists_unit, update_answers,
          CooperationState.requirePhase_eq_ok] at answered
        exact ⟨plain, answered⟩
      · rintro ⟨plain, answered⟩
        refine ⟨_, ⟨plain, rfl⟩, ?_⟩
        simp only [Call.check_bind_answers, exists_unit, update_answers,
          CooperationState.requirePhase_eq_ok]
        exact answered

theorem arriveRunner_answers :
    arriveRunner .runner .relayConsole elapsedMs state = (.ok disposition, next) ↔
      Timely state elapsedMs ∧ state.phase = .awaitingRunner ∧
      (state.runner.life = .active ∧ state.runner.currentHealth ≠ 0) ∧ disposition = .applied ∧
      next = { state with
        runner := { state.runner with currentHealth := 0, life := .downed }
        contributions := { state.contributions with runnerArrived := true }
        downedElapsedMs := some elapsedMs
        phase := .runnerDowned } := by
  simp only [arriveRunner, observe_bind_answers, Call.check_bind_answers, update_answers,
    bind_eq_ok, exists_unit, requireRoleTarget_eq_ok, CooperationState.requirePhase_eq_ok, rejectIf_eq_ok,
    not_or, not_not, true_and, and_assoc]

variable {distanceSquared : Int}

theorem validateDistance_eq_ok :
    validateDistance distanceSquared = .ok () ↔
      0 ≤ distanceSquared ∧ distanceSquared ≤ maxReviveDistanceSquared := by
  simp only [validateDistance, rejectIf_eq_ok, not_not]

theorem startRevive_answers :
    startRevive .anchor .runner distanceSquared operationId elapsedMs state =
        (.ok disposition, next) ↔
      Timely state elapsedMs ∧ (0 ≤ distanceSquared ∧ distanceSquared ≤ maxReviveDistanceSquared) ∧
      plainOperationId operationId = true ∧
      ((∃ given, state.earlierRevive operationId = .ok (some given) ∧ disposition = given ∧
          next = state) ∨
        state.earlierRevive operationId = .ok none ∧ state.phase = .runnerDowned ∧
        (state.anchor.life = .active ∧ state.runner.life = .downed) ∧ disposition = .applied ∧
          next = { state with
            reviveChannel := some { operationId, acceptedElapsedMs := elapsedMs }
            phase := .reviveChannel }) := by
  simp only [startRevive, observe_bind_answers, Call.check_bind_answers, bind_eq_ok, exists_unit,
    requireReviveAuthority_eq_ok, validateDistance_eq_ok, validateOperationId_eq_ok, true_and,
    and_true]
  refine and_congr_right (fun _ => ?_)
  constructor
  · rintro ⟨earlier, ⟨near, plain, earlierFound⟩, answered⟩
    refine ⟨near, plain, ?_⟩
    cases earlier with
    | some given =>
        obtain ⟨rfl, rfl⟩ := Call.pure_answers.mp answered
        exact Or.inl ⟨_, earlierFound, rfl, rfl⟩
    | none =>
        simp only [Call.check_bind_answers, exists_unit, update_answers, bind_eq_ok,
          rejectIf_eq_ok, CooperationState.requirePhase_eq_ok, not_or, not_not] at answered
        obtain ⟨⟨phase, lives⟩, answered⟩ := answered
        exact Or.inr ⟨earlierFound, phase, lives, answered⟩
  · rintro ⟨near, plain, ⟨given, earlierFound, rfl, rfl⟩ | ⟨fresh, phase, lives, answered⟩⟩
    · exact ⟨_, ⟨near, plain, earlierFound⟩, rfl⟩
    · refine ⟨none, ⟨near, plain, fresh⟩, ?_⟩
      simp only [Call.check_bind_answers, exists_unit, update_answers, bind_eq_ok, rejectIf_eq_ok,
        CooperationState.requirePhase_eq_ok, not_or, not_not]
      exact ⟨⟨phase, lives⟩, answered⟩

/-- What an answered observation of the channel read. -/
inductive Observed (state : CooperationState) (distanceSquared : Int) (operationId : String)
    (elapsedMs : Nat) : MutationDisposition → CooperationState → Prop
  | repeated (done : state.completedReviveOperationId = some operationId) :
      Observed state distanceSquared operationId elapsedMs .replayed state
  | outside (phase : state.phase = .reviveChannel)
      (opened : ∃ record ∈ state.reviveChannel, record.operationId = operationId)
      (far : maxReviveDistanceSquared < distanceSquared) :
      Observed state distanceSquared operationId elapsedMs .cancelled
        { state with reviveChannel := none, phase := .runnerDowned }
  | running (phase : state.phase = .reviveChannel) :
      Observed state distanceSquared operationId elapsedMs .pending state
  | done {record : OperationRecord} (phase : state.phase = .reviveChannel)
      (opened : state.reviveChannel = some record) (same : record.operationId = operationId)
      (held : record.acceptedElapsedMs + reviveChannelMs ≤ elapsedMs)
      (counted : state.reviveCount + 1 ≤ u8Max) :
      Observed state distanceSquared operationId elapsedMs .applied
        { state with
          runner := { state.runner with
            currentHealth := min reviveHealth state.runner.profile.maxHealth, life := .active }
          reviveCount := state.reviveCount + 1
          contributions := { state.contributions with revived := true }
          completedReviveOperationId := some operationId
          reviveChannel := none
          phase := .encounterActive }

theorem finishRevive_answers :
    finishRevive operationId state = (.ok disposition, next) ↔
      state.reviveCount + 1 ≤ u8Max ∧ disposition = .applied ∧
      next = { state with
        runner := { state.runner with
          currentHealth := min reviveHealth state.runner.profile.maxHealth, life := .active }
        reviveCount := state.reviveCount + 1
        contributions := { state.contributions with revived := true }
        completedReviveOperationId := some operationId
        reviveChannel := none
        phase := .encounterActive } := by
  simp only [finishRevive, Call.update_bind, Call.check_bind_answers, exists_unit, rejectIf_eq_ok, gt_iff_lt,
    Nat.not_lt, Call.pure_answers]
  exact and_congr_right (fun _ => and_congr eq_comm eq_comm)

theorem observed_of_observeRevive
    (answered : observeRevive .anchor .runner distanceSquared operationId elapsedMs state =
      (.ok disposition, next)) : Timely state elapsedMs ∧
      plainOperationId operationId = true ∧
      Observed state distanceSquared operationId elapsedMs disposition next := by
  simp only [observeRevive, observe_bind_answers, Call.check_bind_answers] at answered
  obtain ⟨timely, reading, seen, answered⟩ := answered
  have plain : plainOperationId operationId = true := by
    simp only [readChannel, bind_eq_ok, exists_unit, validateOperationId_eq_ok] at seen
    exact seen.2.1
  refine ⟨timely, plain, ?_⟩
  obtain ⟨-, -, rfl | ⟨phase, record, opened, same, ⟨rfl, far⟩ | ⟨-, rfl | ⟨rfl, held⟩⟩⟩⟩ :=
    readChannel_open seen
  · obtain ⟨rfl, rfl⟩ := Call.pure_answers.mp answered
    simp only [readChannel, bind_eq_ok, exists_unit] at seen
    obtain ⟨-, -, seen⟩ := seen
    split at seen
    · next done => exact Observed.repeated done
    · exfalso
      simp only [bind_eq_ok, exists_unit, require_eq_ok] at seen
      obtain ⟨-, _, -, -, -, seen⟩ := seen
      split at seen
      · cases seen
      · simp only [bind_eq_ok, exists_unit] at seen
        obtain ⟨-, seen⟩ := seen
        split at seen <;> cases seen
  · rw [update_answers] at answered
    obtain ⟨rfl, rfl⟩ := answered
    exact Observed.outside phase ⟨record, opened, same⟩ far
  · obtain ⟨rfl, rfl⟩ := Call.pure_answers.mp answered
    exact Observed.running phase
  · obtain ⟨counted, rfl, rfl⟩ := finishRevive_answers.mp answered
    subst same
    exact Observed.done phase opened rfl held counted

/-- A channel that was held long enough can be observed again from the edge of its range. -/
theorem observeRevive_done {record : OperationRecord} (timely : Timely state elapsedMs)
    (plain : plainOperationId record.operationId = true)
    (fresh : state.completedReviveOperationId = none) (phase : state.phase = .reviveChannel)
    (opened : state.reviveChannel = some record)
    (held : record.acceptedElapsedMs + reviveChannelMs ≤ elapsedMs)
    (counted : state.reviveCount + 1 ≤ u8Max) :
    observeRevive .anchor .runner maxReviveDistanceSquared record.operationId elapsedMs state =
      (.ok .applied, { state with
        runner := { state.runner with
          currentHealth := min reviveHealth state.runner.profile.maxHealth, life := .active }
        reviveCount := state.reviveCount + 1
        contributions := { state.contributions with revived := true }
        completedReviveOperationId := some record.operationId
        reviveChannel := none
        phase := .encounterActive }) := by
  simp only [observeRevive, observe_bind_answers, Call.check_bind_answers]
  refine ⟨timely, .done record.operationId, ?_, finishRevive_answers.mpr ⟨counted, rfl, rfl⟩⟩
  simp only [readChannel, bind_eq_ok, exists_unit, requireReviveAuthority_eq_ok,
    validateOperationId_eq_ok, fresh, reduceCtorEq, if_false, require_eq_ok, rejectIf_eq_ok,
    CooperationState.requirePhase_eq_ok]
  refine ⟨⟨trivial, trivial⟩, plain, phase, record, opened, not_not.mpr rfl, by decide, ?_⟩
  rw [if_neg (by decide)]
  simp only [bind_eq_ok, exists_unit, rejectIf_eq_ok]
  refine ⟨by omega, ?_⟩
  rw [if_neg (by omega), pure_eq_ok]

theorem completeWarden_answers (running : state.terminal = none) :
    completeWarden elapsedMs state = (.ok disposition, next) ↔
      Timely state elapsedMs ∧ state.phase = .encounterActive ∧
      { state.contributions with wardenCompleted := true }.complete = true ∧
      disposition = .applied ∧
      next = ({ state with contributions := { state.contributions with wardenCompleted := true } }
        |>.committed .succeeded) := by
  simp only [completeWarden, Call.check_bind_answers, running, reduceCtorEq, decide_false,
    Except.ok.injEq, exists_eq_left', Bool.false_eq_true, if_false, observe_bind_answers,
    exists_unit, Call.update_bind, CooperationState.requirePhase_eq_ok, rejectIf_eq_ok,
    Bool.not_eq_false, Call.pure_answers]
  refine and_congr_right (fun _ => and_congr_right (fun _ => and_congr_right (fun _ => ?_)))
  exact and_congr eq_comm eq_comm

theorem defeatParticipant_answers {role : Role} :
    defeatParticipant role elapsedMs state = (.ok disposition, next) ↔
      Timely state elapsedMs ∧ state.phase = .encounterActive ∧ disposition = .applied ∧
      next = (state.defeat role).committed .failedParticipantDefeated := by
  simp only [defeatParticipant, observe_bind_answers, Call.check_bind_answers, exists_unit,
    Call.update_bind, CooperationState.requirePhase_eq_ok, Call.pure_answers]
  exact and_congr_right (fun _ => and_congr_right (fun _ => and_congr eq_comm eq_comm))

theorem disconnect_answers (role : Role) (running : state.terminal = none) :
    disconnect role elapsedMs state = (.ok disposition, next) ↔
      Timely state elapsedMs ∧ disposition = .applied ∧
      next = state.committed .abandonedDisconnect := by
  simp only [disconnect, Call.check_bind_answers, running, reduceCtorEq, decide_false,
    Except.ok.injEq, exists_eq_left', Bool.false_eq_true, if_false, observe_bind_answers,
    update_answers]

/-- An operation reports a deadline exactly when it runs into one. -/
theorem perform_expired {operation : Operation} {outcome : TerminalOutcome}
    (answered : perform operation state = (.error (.deadlineExpired outcome), next)) :
    state.terminal = none ∧ next = state.committed outcome ∧
      ∃ elapsedMs, operation.elapsedMs = some elapsedMs ∧
        state.overdue elapsedMs = some outcome := by
  have step := perform_step operation state
  rw [answered] at step
  cases step with
  | refused ordinary => cases ordinary
  | expired live timed due => exact ⟨live, rfl, _, timed, due⟩

end Cooperation
end Revenant
