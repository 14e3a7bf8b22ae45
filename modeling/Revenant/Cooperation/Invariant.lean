import Revenant.Cooperation.Steps

namespace Revenant
namespace Cooperation

open Library

/-!
# What every cooperation keeps

A cooperation holds the progress of a phase: its own while it runs, and the one
it left when it failed.  `Kept` ties contributions, lives, records and outcome to
that phase, and every operation keeps it.  The errors of the code's own
bookkeeping cannot arise from a kept state, and every other error writes nothing
but an expired deadline.
-/

namespace Phase

/-- How many contributions a phase has behind it. -/
def progress : Phase → Nat
  | awaitingAnchor | failed => 0
  | awaitingPing => 1
  | awaitingRunner => 2
  | runnerDowned | reviveChannel => 3
  | encounterActive => 4
  | succeeded => 5

def isTerminal : Phase → Bool
  | succeeded | failed => true
  | _ => false

/-- The phases in which the runner waits for a revive. -/
def isDown : Phase → Bool
  | runnerDowned | reviveChannel => true
  | _ => false

end Phase

/-- The first `count` contributions of the authored order. -/
def Contributions.recorded (count : Nat) : Contributions :=
  { anchorArrived := decide (1 ≤ count), pinged := decide (2 ≤ count)
    runnerArrived := decide (3 ≤ count), revived := decide (4 ≤ count)
    wardenCompleted := decide (5 ≤ count) }

/-- Built by one of the constructors. -/
def Started (state : CooperationState) : Prop :=
  ∃ operationId anchor runner anchorHealth runnerHealth,
    CooperationState.startWithHealth operationId anchor runner anchorHealth runnerHealth = .ok state

/-- The phase a run is in, or the one it was in when it failed. -/
def leftPhase (left : Phase) : List Operation → CooperationState → Phase
  | [], _ => left
  | operation :: rest, state =>
      let next := (perform operation state).2
      leftPhase (if next.phase = .failed then left else next.phase) rest next

/-- Outcome and phase, while the progress is that of `left`. -/
inductive Standing (left : Phase) : Option TerminalOutcome → Phase → Prop
  | running (live : left.isTerminal = false) : Standing left none left
  | succeeded (done : left = .succeeded) : Standing left (some .succeeded) .succeeded
  | failed {outcome : TerminalOutcome} (other : outcome ≠ .succeeded)
      (live : left.isTerminal = false) : Standing left (some outcome) .failed

structure Kept (left : Phase) (state : CooperationState) : Prop where
  standing : Standing left state.terminal state.phase
  contributions : state.contributions = Contributions.recorded left.progress
  ping : state.ping.isSome = decide (2 ≤ left.progress)
  downed : state.downedElapsedMs.isSome = decide (3 ≤ left.progress)
  channel : state.reviveChannel.isSome = decide (state.phase = .reviveChannel)
  revived : state.completedReviveOperationId.isSome = decide (4 ≤ left.progress)
  reviveCount : state.reviveCount = if 4 ≤ left.progress then 1 else 0
  runnerDown : decide (state.runner.life = .downed) = left.isDown
  runnerFaint : left.isDown = true → state.runner.currentHealth = 0
  runnerUp : state.phase ≠ .failed → left.isDown = false →
    state.runner.life = .active ∧ 0 < state.runner.currentHealth
  anchorUp : state.phase ≠ .failed → state.anchor.life = .active ∧ 0 < state.anchor.currentHealth
  anchorHealth : state.anchor.currentHealth ≤ state.anchor.profile.maxHealth
  runnerHealth : state.runner.currentHealth ≤ state.runner.profile.maxHealth
  admission : reviveHealth ≤ state.runner.profile.maxHealth

namespace Kept

variable {left : Phase} {state : CooperationState}

theorem left_of_live (kept : Kept left state) (live : state.terminal = none) :
    left = state.phase ∧ left.isTerminal = false := by
  have standing := kept.standing
  rw [live] at standing
  generalize state.phase = phase at standing ⊢
  cases standing with
  | running open' => exact ⟨rfl, open'⟩

/-- Succeeding means having made every contribution, the one revive included. -/
theorem succeeded_iff (kept : Kept left state) :
    state.terminal = some .succeeded ↔ state.contributions.complete = true := by
  rw [kept.contributions]
  have standing := kept.standing
  generalize state.terminal = terminal at standing ⊢
  generalize state.phase = phase at standing
  cases standing with
  | running live =>
      revert live
      cases left <;> decide
  | succeeded done =>
      subst done
      decide
  | failed other live =>
      have unfinished : (Contributions.recorded left.progress).complete = false := by
        revert live
        cases left <;> decide
      rw [unfinished]
      simp [other]

theorem revived_of_complete (kept : Kept left state)
    (complete : state.contributions.complete = true) : state.reviveCount = 1 := by
  rw [kept.contributions] at complete
  rw [kept.reviveCount, if_pos]
  revert complete
  cases left <;> decide

end Kept

theorem kept_of_started {state : CooperationState} (started : Started state) :
    Kept .awaitingAnchor state ∧ state.phase = .awaitingAnchor := by
  obtain ⟨operationId, anchor, runner, anchorHealth, runnerHealth, built⟩ := started
  simp only [CooperationState.startWithHealth, bind_eq_ok, exists_unit, rejectIf_eq_ok,
    pure_eq_ok] at built
  obtain ⟨-, profiles, healths, rfl⟩ := built
  have runnerProfile : reviveHealth ≤ runner.maxHealth := by
    have valid : validProfile runner = true := by
      by_contra invalid
      exact profiles (Or.inr (Bool.not_eq_true _ ▸ invalid))
    simp only [validProfile, Bool.and_eq_true, decide_eq_true_eq] at valid
    exact valid.2
  refine ⟨?_, rfl⟩
  constructor
  case standing => exact Standing.running rfl
  case runnerUp => exact fun _ _ => ⟨rfl, show 0 < runnerHealth by omega⟩
  case anchorUp => exact fun _ => ⟨rfl, show 0 < anchorHealth by omega⟩
  case anchorHealth => show anchorHealth ≤ anchor.maxHealth; omega
  case runnerHealth => show runnerHealth ≤ runner.maxHealth; omega
  case admission => exact runnerProfile
  case runnerFaint => rintro ⟨⟩
  all_goals rfl

/-! ## One operation -/

variable {outcome : TerminalOutcome}

theorem overdue_outcome {state : CooperationState} {elapsedMs : Nat}
    (due : state.overdue elapsedMs = some outcome) : outcome ≠ .succeeded := by
  rintro rfl
  unfold CooperationState.overdue at due
  dsimp only at due
  rw [Option.or_eq_some_iff] at due
  rcases due with stage | ⟨-, isOver⟩
  · split at stage
    · split at stage <;> cases stage
    · split at stage <;> cases stage
    · split at stage <;> cases stage
    · cases stage
  · split at isOver <;> cases isOver

/-- A failure freezes everything but the channel. -/
theorem committed_failed {state : CooperationState} (other : outcome ≠ .succeeded) :
    state.committed outcome =
      { state with terminal := some outcome, phase := .failed, reviveChannel := none } := by
  rw [CooperationState.committed, if_neg other]

theorem Kept.at {left phase : Phase} {state : CooperationState} (kept : Kept left state)
    (live : state.terminal = none) (here : state.phase = phase) : Kept phase state := by
  obtain ⟨rfl, -⟩ := kept.left_of_live live
  exact here ▸ kept

theorem Kept.committed {left : Phase} {state : CooperationState} (kept : Kept left state)
    (live : state.terminal = none) (other : outcome ≠ .succeeded) :
    Kept left (state.committed outcome) := by
  rw [committed_failed other]
  exact { kept with
    standing := Standing.failed other (kept.left_of_live live).2
    channel := rfl
    runnerUp := fun running => absurd rfl running
    anchorUp := fun running => absurd rfl running }

variable {operation : Operation} {left : Phase} {state next : CooperationState}
  {result : Except CooperationError MutationDisposition}

/-- The phase left behind by one operation. -/
def leftAfter (left : Phase) (next : CooperationState) : Phase :=
  if next.phase = .failed then left else next.phase

theorem leftAfter_failed (failed : next.phase = .failed) : leftAfter left next = left :=
  if_pos failed

theorem leftAfter_same (kept : Kept left state) : leftAfter left state = left := by
  unfold leftAfter
  have standing := kept.standing
  generalize state.phase = phase at standing ⊢
  generalize state.terminal = terminal at standing
  cases standing with
  | running live => exact ite_self _
  | succeeded done => exact done.symm
  | failed other live => exact if_pos rfl

theorem CooperationError.internal_of_ordinary {failure : CooperationError}
    (ordinary : failure.ordinary = true) : failure.internal = false := by
  cases failure <;> first | rfl | cases ordinary

/-- Every operation keeps it, and none reports an error of the bookkeeping. -/
theorem kept_step (kept : Kept left state) (step : Step operation state result next) :
    Kept (leftAfter left next) next ∧ ∀ failure, result = .error failure → failure.internal = false := by
  have answered : ∀ disposition : MutationDisposition, ∀ failure : CooperationError,
      (Except.ok disposition : Except CooperationError MutationDisposition) = .error failure →
        failure.internal = false := fun _ _ impossible => nomatch impossible
  cases step with
  | refused ordinary =>
      rw [leftAfter_same kept]
      refine ⟨kept, ?_⟩
      rintro failure ⟨⟩
      exact CooperationError.internal_of_ordinary ordinary
  | replayed | pending =>
      rw [leftAfter_same kept]
      exact ⟨kept, answered _⟩
  | expired live timed due =>
      have other := overdue_outcome due
      rw [leftAfter_failed (by rw [committed_failed other])]
      refine ⟨kept.committed live other, ?_⟩
      rintro failure ⟨⟩
      rfl
  | anchored timely phase =>
      have now := kept.at timely.live phase
      refine ⟨?_, answered _⟩
      exact { now with
        standing := by
          rw [timely.live]
          exact Standing.running rfl
        contributions := by
          rw [now.contributions]
          rfl
        channel := by
          rw [now.channel, phase]
          rfl
        runnerUp := fun _ _ => now.runnerUp (by rw [phase]; decide) rfl
        anchorUp := fun _ => now.anchorUp (by rw [phase]; decide) }
  | pinged timely phase =>
      have now := kept.at timely.live phase
      refine ⟨?_, answered _⟩
      exact { now with
        standing := by
          rw [timely.live]
          exact Standing.running rfl
        contributions := by
          rw [now.contributions]
          rfl
        ping := rfl
        channel := by
          rw [now.channel, phase]
          rfl
        runnerUp := fun _ _ => now.runnerUp (by rw [phase]; decide) rfl
        anchorUp := fun _ => now.anchorUp (by rw [phase]; decide) }
  | downed timely phase =>
      have now := kept.at timely.live phase
      refine ⟨?_, answered _⟩
      exact { now with
        standing := by
          rw [timely.live]
          exact Standing.running rfl
        contributions := by
          rw [now.contributions]
          rfl
        downed := rfl
        channel := by
          rw [now.channel, phase]
          rfl
        runnerDown := rfl
        runnerFaint := fun _ => rfl
        runnerUp := fun _ standing => nomatch standing
        anchorUp := fun _ => now.anchorUp (by rw [phase]; decide)
        runnerHealth := Nat.zero_le _ }
  | runnerFallen phase live fallen =>
      obtain ⟨active, healthy⟩ := (kept.at live phase).runnerUp (by rw [phase]; decide) rfl
      rcases fallen with inactive | faint
      · exact absurd active inactive
      · omega
  | channelled timely phase plain fresh =>
      have now := kept.at timely.live phase
      refine ⟨?_, answered _⟩
      exact { now with
        standing := by
          rw [timely.live]
          exact Standing.running rfl
        channel := rfl
        runnerUp := fun _ standing => nomatch standing
        anchorUp := fun _ => now.anchorUp (by rw [phase]; decide) }
  | pairFallen phase live fallen =>
      have now := kept.at live phase
      rcases fallen with inactive | standing
      · exact absurd (now.anchorUp (by rw [phase]; decide)).1 inactive
      · exact absurd (of_decide_eq_true now.runnerDown) standing
  | cancelled timely phase =>
      have now := kept.at timely.live phase
      refine ⟨?_, answered _⟩
      exact { now with
        standing := by
          rw [timely.live]
          exact Standing.running rfl
        channel := rfl
        runnerUp := fun _ standing => nomatch standing
        anchorUp := fun _ => now.anchorUp (by rw [phase]; decide) }
  | revived timely phase channel held counted =>
      have now := kept.at timely.live phase
      refine ⟨?_, answered _⟩
      exact { now with
        standing := by
          rw [timely.live]
          exact Standing.running rfl
        contributions := by
          rw [now.contributions]
          rfl
        channel := rfl
        revived := rfl
        reviveCount := by
          rw [now.reviveCount]
          rfl
        runnerDown := rfl
        runnerFaint := fun down => nomatch down
        runnerUp := fun _ _ => ⟨rfl, lt_min (by decide) (lt_of_lt_of_le (by decide) now.admission)⟩
        anchorUp := fun _ => now.anchorUp (by rw [phase]; decide)
        runnerHealth := min_le_right _ _ }
  | overflowed phase live uncounted =>
      have none : state.reviveCount = 0 := (kept.at live phase).reviveCount
      rw [none] at uncounted
      exact absurd uncounted (by decide)
  | unfinished phase live incomplete =>
      rw [(kept.at live phase).contributions] at incomplete
      cases incomplete
  | completed timely phase complete =>
      have now := kept.at timely.live phase
      refine ⟨?_, answered _⟩
      exact { now with
        standing := Standing.succeeded rfl
        contributions := by
          show { state.contributions with wardenCompleted := true } = _
          rw [now.contributions]
          rfl
        channel := rfl
        runnerUp := fun _ _ => now.runnerUp (by rw [phase]; decide) rfl
        anchorUp := fun _ => now.anchorUp (by rw [phase]; decide) }
  | @defeated _ role _ timely phase =>
      have now := kept.at timely.live phase
      have fallen : Kept .encounterActive ((state.defeat role).committed .failedParticipantDefeated) := by
        rw [committed_failed (by decide)]
        cases role with
        | anchor =>
            exact { now with
              standing := Standing.failed (by decide) rfl
              channel := rfl
              runnerUp := fun running => absurd rfl running
              anchorUp := fun running => absurd rfl running
              anchorHealth := Nat.zero_le _ }
        | runner =>
            exact { now with
              standing := Standing.failed (by decide) rfl
              channel := rfl
              runnerDown := rfl
              runnerFaint := fun _ => rfl
              runnerUp := fun running => absurd rfl running
              anchorUp := fun running => absurd rfl running
              runnerHealth := Nat.zero_le _ }
      rw [leftAfter_failed rfl]
      obtain ⟨rfl, -⟩ := kept.left_of_live timely.live
      rw [phase]
      exact ⟨fallen, answered _⟩
  | disconnected timely =>
      rw [leftAfter_failed (by rw [committed_failed (by decide)])]
      exact ⟨kept.committed timely.live (by decide), answered _⟩

/-! ## Whole runs -/

theorem kept_final (kept : Kept left state) (operations : List Operation) :
    Kept (leftPhase left operations state) (Call.final perform operations state) := by
  induction operations generalizing left state with
  | nil => exact kept
  | cons operation rest inductionHypothesis =>
      exact inductionHypothesis (kept_step kept (perform_step operation state)).1

theorem kept_log (kept : Kept left state) (operations : List Operation) :
    ∀ entry ∈ Call.log perform operations state,
      ∀ failure, entry.2 = .error failure → failure.internal = false := by
  induction operations generalizing left state with
  | nil => exact fun entry member => absurd member List.not_mem_nil
  | cons operation rest inductionHypothesis =>
      obtain ⟨next, clean⟩ := kept_step kept (perform_step operation state)
      intro entry member
      rcases List.mem_cons.mp member with rfl | later
      · exact clean
      · exact inductionHypothesis next entry later

/-- Any run of a cooperation keeps contributions, lives, records, revives and
outcome consistent with its phase, or with the phase it failed in. -/
theorem cooperation_consistent {state : CooperationState} (started : Started state)
    (operations : List Operation) :
    Kept (leftPhase .awaitingAnchor operations state) (Call.final perform operations state) ∧
      ((Call.final perform operations state).terminal = some .succeeded ↔
        (Call.final perform operations state).contributions.complete = true) ∧
      ((Call.final perform operations state).contributions.complete = true →
        (Call.final perform operations state).reviveCount = 1) ∧
      ∀ entry ∈ Call.log perform operations state, ∀ failure, entry.2 = .error failure →
        failure.internal = false := by
  have begun := (kept_of_started started).1
  have kept := kept_final begun operations
  exact ⟨kept, kept.succeeded_iff, kept.revived_of_complete, kept_log begun operations⟩

/-- A profile and a start that the constructor admits. -/
def plainProfile : CombatProfile := { damage := 40, range := 6, cooldownMs := 250, maxHealth := 100 }

def plainStart : CooperationState :=
  { catalogRevision, startOperationId := "start-1", phase := .awaitingAnchor
    anchor := admitted .anchor plainProfile 100, runner := admitted .runner plainProfile 80
    contributions := .none, ping := none, downedElapsedMs := none, reviveChannel := none
    completedReviveOperationId := none, reviveCount := 0, terminal := none }

theorem plainStart_started : Started plainStart :=
  ⟨"start-1", plainProfile, plainProfile, 100, 80, by decide +kernel⟩

/-- The contributions of a whole run in their order. -/
def plainRun : List Operation :=
  [.arriveAnchor .anchor .relayAnchor 100, .ping .anchor .relayConsole "ping-1" 200,
    .arriveRunner .runner .relayConsole 300, .startRevive .anchor .runner 4 "revive-1" 400,
    .observeRevive .anchor .runner 4 "revive-1" 2400, .completeWarden 2500]

theorem cooperation_consistent_plain : Started plainStart ∧
    (Call.final perform plainRun plainStart).contributions.complete = true ∧
    (Call.final perform plainRun plainStart).reviveCount = 1 := by
  have succeeded : (Call.final perform plainRun plainStart).terminal = some .succeeded := by
    decide +kernel
  obtain ⟨-, outcome, revives, -⟩ := cooperation_consistent plainStart_started plainRun
  exact ⟨plainStart_started, outcome.mp succeeded, revives (outcome.mp succeeded)⟩

/-! ## What an operation leaves alone -/

/-- An operation on a finished cooperation changes nothing. -/
theorem step_over (step : Step operation state result next) (isOver : state.terminal ≠ none) :
    next = state := by
  cases step with
  | refused | replayed | pending | runnerFallen | pairFallen => rfl
  | expired live | overflowed _ live | unfinished _ live => exact absurd live isOver
  | anchored timely | pinged timely | downed timely | channelled timely | cancelled timely
  | revived timely | completed timely | defeated timely | disconnected timely =>
      exact absurd timely.live isOver

/-- From a kept state only an applied or a cancelling operation and an expired
deadline write. -/
theorem step_frame (kept : Kept left state) (step : Step operation state result next) :
    (∀ failure, result = .error failure → (∀ outcome, failure ≠ .deadlineExpired outcome) →
      next = state) ∧
      (result = .ok .replayed ∨ result = .ok .pending → next = state) ∧
      ∀ outcome, result = .error (.deadlineExpired outcome) →
        next = { state with terminal := some outcome, phase := .failed, reviveChannel := none } := by
  have clean := (kept_step kept step).2
  cases step with
  | refused ordinary =>
      refine ⟨fun _ _ _ => rfl, fun _ => rfl, ?_⟩
      rintro outcome ⟨⟩
      cases ordinary
  | replayed | pending => exact ⟨fun _ _ _ => rfl, fun _ => rfl, fun _ impossible => nomatch impossible⟩
  | @expired _ _ _ due live timed found =>
      refine ⟨?_, ?_, ?_⟩
      · rintro failure ⟨⟩ other
        exact absurd rfl (other due)
      · rintro (impossible | impossible) <;> cases impossible
      · rintro outcome ⟨⟩
        exact committed_failed (overdue_outcome found)
  | runnerFallen | pairFallen | overflowed | unfinished => exact absurd (clean _ rfl) (by decide)
  | anchored | pinged | downed | channelled | cancelled | revived | completed | defeated
  | disconnected =>
      refine ⟨fun _ impossible => (nomatch impossible), ?_, fun _ impossible => nomatch impossible⟩
      rintro (impossible | impossible) <;> cases impossible

/-- Errors other than an expired deadline and repeated or pending answers leave
the state of any run as it was, an expired deadline only ends it, and a finished
cooperation never changes again. -/
theorem cooperation_atomic {state : CooperationState} (started : Started state)
    (operations : List Operation) (operation : Operation) :
    (∀ failure, (perform operation (Call.final perform operations state)).1 = .error failure →
      (∀ outcome, failure ≠ .deadlineExpired outcome) →
        (perform operation (Call.final perform operations state)).2 =
          Call.final perform operations state) ∧
      ((perform operation (Call.final perform operations state)).1 = .ok .replayed ∨
        (perform operation (Call.final perform operations state)).1 = .ok .pending →
        (perform operation (Call.final perform operations state)).2 =
          Call.final perform operations state) ∧
      (∀ outcome,
        (perform operation (Call.final perform operations state)).1 =
          .error (.deadlineExpired outcome) →
        (perform operation (Call.final perform operations state)).2 =
          { Call.final perform operations state with
            terminal := some outcome, phase := .failed, reviveChannel := none }) ∧
      ((Call.final perform operations state).terminal ≠ none → ∀ later,
        Call.final perform later (Call.final perform operations state) =
          Call.final perform operations state) := by
  have kept := kept_final (kept_of_started started).1 operations
  obtain ⟨errors, answers, deadline⟩ := step_frame kept (perform_step operation _)
  refine ⟨errors, answers, deadline, ?_⟩
  intro isOver later
  have still : Call.final perform later (Call.final perform operations state) =
      Call.final perform operations state := by
    apply Call.final_keeps (· = Call.final perform operations state) ?_ later rfl
    rintro operation state rfl
    exact step_over (perform_step operation _) isOver
  exact still

theorem cooperation_atomic_late :
    Started plainStart ∧
      (perform (.arriveAnchor .anchor .relayAnchor 60001) plainStart).2 =
        { plainStart with
          terminal := some .failedOperationTimeout, phase := .failed, reviveChannel := none } := by
  have late : (perform (.arriveAnchor .anchor .relayAnchor 60001) plainStart).1 =
      .error (.deadlineExpired .failedOperationTimeout) := by
    decide +kernel
  exact ⟨plainStart_started,
    (cooperation_atomic plainStart_started [] (.arriveAnchor .anchor .relayAnchor 60001)).2.2.1
      _ late⟩

end Cooperation
end Revenant
