import Mathlib.Data.Option.NAry
import Revenant.Cooperation.Invariant
import Revenant.Replay.CooperationSafety

namespace Revenant
namespace Replay

open Library Cooperation

/-!
# The run behind a terminal

A terminal repeats contributions, times and what is left of the participants.
Accepting it means that the admitted cooperation, given exactly the recorded
contributions, ends in the recorded state; whatever holds of every run of a
cooperation therefore holds of what the journal says.
-/

namespace CooperationReplay

/-- Operations that all succeed are a run without failures. -/
theorem run_of_advanceAll {operations : List Operation} {state last : CooperationState}
    (advanced : advanceAllWith domainFailure operations state = .ok last) :
    Call.final perform operations state = last ∧
      ∀ entry ∈ Call.log perform operations state, ∃ disposition, entry.2 = .ok disposition := by
  induction operations generalizing state with
  | nil =>
      cases advanced
      exact ⟨rfl, fun _ member => absurd member List.not_mem_nil⟩
  | cons operation rest inductionHypothesis =>
      simp only [advanceAllWith, List.foldlM_cons, bind_eq_ok] at advanced
      obtain ⟨next, first, others⟩ := advanced
      obtain ⟨disposition, performed⟩ := advanceWith_eq_ok.mp first
      obtain ⟨ends, succeeded⟩ := inductionHypothesis others
      have left : (perform operation state).2 = next := by rw [performed]
      rw [Call.final_cons, Call.log, left]
      refine ⟨ends, ?_⟩
      intro entry member
      rcases List.mem_cons.mp member with rfl | later
      · exact ⟨disposition, by rw [performed]⟩
      · exact succeeded entry later

/-! ## The recorded contributions -/

/-- The operations the contributions of a terminal stand for. -/
def contributionOperations (evidence : ReplayCooperationContributionEvidence) : List Operation :=
  (evidence.anchorElapsedMs.map (Operation.arriveAnchor .anchor .relayAnchor)).toList ++
    (Option.map₂ (Operation.ping .anchor .relayConsole) evidence.pingOperationId
      evidence.pingElapsedMs).toList ++
    (evidence.runnerElapsedMs.map (Operation.arriveRunner .runner .relayConsole)).toList ++
    (Option.map₂ (Operation.startRevive .anchor .runner maxReviveDistanceSquared)
      evidence.reviveOperationId evidence.reviveStartedElapsedMs).toList ++
    (Option.map₂ (Operation.observeRevive .anchor .runner maxReviveDistanceSquared)
      evidence.reviveOperationId evidence.reviveCompletedElapsedMs).toList

/-- The operation an outcome stands for. -/
def closingOperation (payload : CooperationTerminalPayload) : Operation :=
  match payload.outcome, payload.subjectRole with
  | .succeeded, _ => .completeWarden payload.terminalElapsedMs
  | .failedParticipantDefeated, some role => .defeatParticipant role payload.terminalElapsedMs
  | .abandonedDisconnect, some role => .disconnect role payload.terminalElapsedMs
  | _, _ => .observeDeadlines payload.terminalElapsedMs

variable {evidence : ReplayCooperationContributionEvidence}
variable {started : CooperationStartedPayload} {rows : CooperationReplayPrefix}
variable {state next : CooperationState}

theorem replayAnchor_run (flag : evidence.anchorArrived = evidence.anchorElapsedMs.isSome)
    (accepted : replayAnchor evidence state = .ok next) :
    advanceAllWith domainFailure (evidence.anchorElapsedMs.map
      (Operation.arriveAnchor .anchor .relayAnchor)).toList state = .ok next := by
  unfold replayAnchor at accepted
  cases elapsed : evidence.anchorElapsedMs with
  | none =>
      rw [elapsed] at accepted
      cases arrived : evidence.anchorArrived <;> rw [arrived] at accepted <;> exact accepted
  | some elapsedMs =>
      rw [flag, elapsed] at accepted
      rw [Option.map_some, Option.toList_some, advanceAllWith_singleton]
      exact accepted

theorem replayPing_run (flag : evidence.pinged = evidence.pingOperationId.isSome)
    (accepted : replayPing evidence rows.pinged state = .ok next) :
    advanceAllWith domainFailure (Option.map₂ (Operation.ping .anchor .relayConsole) evidence.pingOperationId
      evidence.pingElapsedMs).toList state = .ok next := by
  unfold replayPing at accepted
  split at accepted
  · simp only [bind_eq_ok, exists_unit, require_eq_ok, rejectIf_eq_ok, not_or, not_not] at accepted
    obtain ⟨pinged, -, ⟨named, timed, -⟩, advanced⟩ := accepted
    rw [named, timed, Option.map₂_some_some, Option.toList_some, advanceAllWith_singleton]
    exact advanced
  · next absent =>
      simp only [bind_eq_ok, exists_unit, rejectIf_eq_ok, pure_eq_ok] at accepted
      obtain ⟨-, rfl⟩ := accepted
      have unnamed : evidence.pingOperationId = none := by
        rw [← Option.not_isSome_iff_eq_none, ← flag]
        exact absent
      rw [unnamed, Option.map₂_none_left]
      rfl

theorem replayDowning_run (flag : evidence.runnerArrived = evidence.runnerElapsedMs.isSome)
    (accepted : replayDowning evidence rows.downed state = .ok next) :
    advanceAllWith domainFailure (evidence.runnerElapsedMs.map
      (Operation.arriveRunner .runner .relayConsole)).toList state = .ok next := by
  unfold replayDowning at accepted
  split at accepted
  · simp only [bind_eq_ok, exists_unit, require_eq_ok, rejectIf_eq_ok, not_or, not_not] at accepted
    obtain ⟨downed, -, ⟨timed, -⟩, advanced⟩ := accepted
    rw [timed, Option.map_some, Option.toList_some, advanceAllWith_singleton]
    exact advanced
  · next absent =>
      simp only [bind_eq_ok, exists_unit, rejectIf_eq_ok, pure_eq_ok] at accepted
      obtain ⟨-, rfl⟩ := accepted
      have untimed : evidence.runnerElapsedMs = none := by
        rw [← Option.not_isSome_iff_eq_none, ← flag]
        exact absent
      rw [untimed]
      rfl

theorem replayRevive_run
    (opened : evidence.reviveOperationId.isSome = evidence.reviveStartedElapsedMs.isSome)
    (flag : evidence.revived = evidence.reviveCompletedElapsedMs.isSome)
    (accepted : replayRevive evidence rows.revived state = .ok next) :
    advanceAllWith domainFailure ((Option.map₂ (Operation.startRevive .anchor .runner maxReviveDistanceSquared)
        evidence.reviveOperationId evidence.reviveStartedElapsedMs).toList ++
      (Option.map₂ (Operation.observeRevive .anchor .runner maxReviveDistanceSquared)
        evidence.reviveOperationId evidence.reviveCompletedElapsedMs).toList) state = .ok next := by
  unfold replayRevive at accepted
  split at accepted
  · next operationId startedElapsedMs operation start =>
      simp only [bind_eq_ok] at accepted
      obtain ⟨channel, begun, accepted⟩ := accepted
      rw [operation, start, Option.map₂_some_some, Option.toList_some]
      refine advanceAllWith_append ((advanceAllWith_singleton _ _).trans begun) ?_
      split at accepted
      · simp only [bind_eq_ok, exists_unit, require_eq_ok, rejectIf_eq_ok, not_or,
          not_not] at accepted
        obtain ⟨revived, -, ⟨-, -, completed⟩, advanced⟩ := accepted
        rw [completed, Option.map₂_some_some, Option.toList_some, advanceAllWith_singleton]
        exact advanced
      · next unrevived =>
          cases accepted
          have uncompleted : evidence.reviveCompletedElapsedMs = none := by
            rw [← Option.not_isSome_iff_eq_none, ← flag]
            exact unrevived
          rw [uncompleted, Option.map₂_none_right]
          rfl
  · next unopened =>
      simp only [bind_eq_ok, exists_unit, rejectIf_eq_ok, pure_eq_ok, not_or] at accepted
      obtain ⟨-, rfl⟩ := accepted
      have unnamed : evidence.reviveOperationId = none := by
        cases operation : evidence.reviveOperationId with
        | none => rfl
        | some operationId =>
            rw [operation] at opened
            obtain ⟨elapsedMs, start⟩ := Option.isSome_iff_exists.mp opened.symm
            exact absurd start (unopened operationId elapsedMs operation)
      rw [unnamed, Option.map₂_none_left, Option.map₂_none_left]
      rfl

/-- The recorded contributions are a run of the admitted cooperation. -/
theorem replayContributions_run {anchor runner : ReplayCooperationParticipantEvidence}
    (paired : Paired started anchor runner)
    (shaped : validateContributionNullability evidence = .ok ())
    (accepted : replayContributions evidence started rows = .ok next) :
    ∃ anchorProfile runnerProfile initial, participantProfile anchor = .ok anchorProfile ∧
      participantProfile runner = .ok runnerProfile ∧
      CooperationState.startWithHealth started.startOperationId anchorProfile runnerProfile
        anchor.admittedHealth runner.admittedHealth = .ok initial ∧
      advanceAllWith domainFailure (contributionOperations evidence) initial = .ok next := by
  simp only [validateContributionNullability, bind_eq_ok, exists_unit, rejectIf_eq_ok, not_or,
    not_not, not_and] at shaped
  obtain ⟨⟨arrived, pinged, -, downed, -, opened, completed, -, -⟩, -⟩ := shaped
  simp only [replayContributions, paired.anchorOf, paired.runnerOf, domainError, bind_eq_ok,
    mapError_eq_ok, Except.ok.injEq, exists_eq_left'] at accepted
  obtain ⟨anchorProfile, anchorFound, runnerProfile, runnerFound, initial, begun, first,
    arriving, second, pinging, third, downing, reviving⟩ := accepted
  refine ⟨anchorProfile, runnerProfile, initial, anchorFound, runnerFound, begun, ?_⟩
  have toPing := advanceAllWith_append (replayAnchor_run arrived arriving)
    (replayPing_run pinged pinging)
  have toDowning := advanceAllWith_append toPing (replayDowning_run downed downing)
  rw [contributionOperations, List.append_assoc (_ ++ _ ++ _)]
  exact advanceAllWith_append toDowning (replayRevive_run opened completed reviving)

/-- The closing operation leaves the state a terminal is compared with. -/
theorem applyTerminal_run {payload : CooperationTerminalPayload}
    (accepted : applyTerminal payload state = .ok next) :
    (perform (closingOperation payload) state).2 = next := by
  unfold applyTerminal at accepted
  unfold closingOperation
  split at accepted
  · next outcome =>
      simp only [bind_eq_ok, exists_unit] at accepted
      obtain ⟨disposition, performed⟩ := advanceWith_eq_ok.mp accepted.2
      simp only [outcome, performed]
  iterate 3
    next outcome =>
      split at accepted
      · next observed =>
          simp only [bind_eq_ok, exists_unit, pure_eq_ok] at accepted
          obtain ⟨-, rfl⟩ := accepted
          simp only [outcome, perform, observed]
      · cases accepted
  · next outcome =>
      simp only [bind_eq_ok, require_eq_ok] at accepted
      obtain ⟨role, subject, advanced⟩ := accepted
      obtain ⟨disposition, performed⟩ := advanceWith_eq_ok.mp advanced
      simp only [outcome, subject, performed]
  · next outcome =>
      simp only [bind_eq_ok, require_eq_ok] at accepted
      obtain ⟨role, subject, advanced⟩ := accepted
      obtain ⟨disposition, performed⟩ := advanceWith_eq_ok.mp advanced
      simp only [outcome, subject, performed]

end CooperationReplay

/-- What the contributions and the end of an accepted journal were. -/
structure CooperationEnded (started : CooperationStartedPayload)
    (anchor runner : ReplayCooperationParticipantEvidence) (terminal : CooperationTerminalPayload)
    (initial ended : CooperationState) : Prop where
  admission : ∃ anchorProfile runnerProfile,
    CooperationReplay.participantProfile anchor = .ok anchorProfile ∧
    CooperationReplay.participantProfile runner = .ok runnerProfile ∧
    CooperationState.startWithHealth started.startOperationId anchorProfile runnerProfile
      anchor.admittedHealth runner.admittedHealth = .ok initial
  contributed : ∀ entry ∈ Call.log perform
      (CooperationReplay.contributionOperations terminal.contributions) initial,
    ∃ disposition, entry.2 = .ok disposition
  left : (Call.final perform
      (CooperationReplay.contributionOperations terminal.contributions) initial).phase =
    terminal.lastNonterminalPhase
  closed : Call.final perform
      (CooperationReplay.contributionOperations terminal.contributions ++
        [CooperationReplay.closingOperation terminal]) initial = ended
  outcome : ended.terminal = some terminal.outcome
  contributions : ended.contributions = CooperationReplay.contributionsOf terminal.contributions
  revives : ended.reviveCount = terminal.contributions.reviveCount
  participants : terminal.participants =
    [CooperationReplay.terminalParticipant anchor ended.anchor,
      CooperationReplay.terminalParticipant runner ended.runner]
  grants : terminal.grants = if terminal.outcome = .succeeded then
    [CooperationReplay.grantOf anchor, CooperationReplay.grantOf runner] else []

/-- The recorded times keep the order and every deadline of the cooperation. -/
structure CooperationTimes (result : ReconstructedCooperationReplay) : Prop where
  ping : ∀ pinged ∈ result.pinged, pinged.anchorElapsedMs ≤ pinged.pingElapsedMs ∧
    pinged.pingElapsedMs ≤ operationDurationMs
  downing : ∀ downed ∈ result.downed, ∃ pinged ∈ result.pinged,
    pinged.pingElapsedMs ≤ downed.runnerElapsedMs ∧
    downed.runnerElapsedMs ≤ pinged.pingElapsedMs + pingTtlMs ∧
    downed.runnerElapsedMs ≤ operationDurationMs
  revive : ∀ revived ∈ result.revived, ∃ downed ∈ result.downed,
    downed.runnerElapsedMs ≤ revived.reviveStartedElapsedMs ∧
    revived.reviveStartedElapsedMs + reviveChannelMs ≤ revived.reviveCompletedElapsedMs ∧
    revived.reviveCompletedElapsedMs ≤ downed.runnerElapsedMs + reviveWindowMs ∧
    revived.reviveCompletedElapsedMs ≤ operationDurationMs

theorem ended_of_validate {started : CooperationStartedPayload}
    {anchor runner : ReplayCooperationParticipantEvidence} {rows : CooperationReplayPrefix}
    {terminal : CooperationTerminalPayload} {success : Bool} (paired : Paired started anchor runner)
    (valid : CooperationReplay.validateTerminalPayload success terminal started rows = .ok ()) :
    ∃ initial ended, CooperationEnded started anchor runner terminal initial ended := by
  simp only [CooperationReplay.validateTerminalPayload, CooperationReplay.validateTerminalPrefix,
    bind_eq_ok, exists_unit, rejectIf_eq_ok, not_not] at valid
  obtain ⟨-, -, -, ⟨shaped, state, contributed, phase, ended, closed, compared⟩, granted⟩ := valid
  obtain ⟨anchorProfile, runnerProfile, initial, anchorFound, runnerFound, begun, advanced⟩ :=
    CooperationReplay.replayContributions_run paired shaped contributed
  obtain ⟨reached, succeeded⟩ := CooperationReplay.run_of_advanceAll advanced
  simp only [CooperationReplay.validateTerminalState, paired.anchorOf, paired.runnerOf, bind_eq_ok,
    exists_unit, rejectIf_eq_ok, not_or, not_not, Except.ok.injEq, exists_eq_left'] at compared
  obtain ⟨⟨contributions, revives, outcome⟩, participants⟩ := compared
  refine ⟨initial, ended, ?_⟩
  constructor
  · exact ⟨anchorProfile, runnerProfile, anchorFound, runnerFound, begun⟩
  · exact succeeded
  · rw [reached]
    exact phase
  · rw [Call.final_append, reached]
    exact CooperationReplay.applyTerminal_run closed
  · exact outcome
  · exact contributions
  · exact revives
  · exact participants
  · unfold CooperationReplay.validateTerminalGrants at granted
    split at granted
    · next failure =>
        simp only [rejectIf_eq_ok, not_or, not_not] at granted
        rw [if_neg failure]
        exact granted.1
    · next success =>
        simp only [bind_eq_ok, exists_unit, rejectIf_eq_ok, not_not, not_exists, not_and,
          paired.both] at granted
        obtain ⟨pair, agreed⟩ := granted
        obtain ⟨first, second, both⟩ := List.length_eq_two.mp pair
        simp only [both, List.zip_cons_cons, List.zip_nil_right, List.mem_cons,
          List.not_mem_nil, or_false, forall_eq_or_imp, forall_eq] at agreed
        rw [if_pos (not_not.mp success), both, agreed.1, agreed.2]

/-- A terminal in an accepted journal is the end of a run: the admitted
cooperation, given the recorded contributions and the recorded end, is left in
the recorded state.  A success leaves both standing with every contribution
made, and only a success grants. -/
theorem cooperative_terminal {events : List CooperationEvent}
    {result : ReconstructedCooperationReplay} {terminal : CooperationTerminalPayload}
    (accepted : reconstructCooperationReplay events = .ok result)
    (found : result.terminal = some terminal) :
    ∃ started anchor runner initial ended, result.started = some started ∧
      Paired started anchor runner ∧ CooperationEnded started anchor runner terminal initial ended ∧
      CooperationTimes result ∧
      (∃ left, Kept left ended) ∧
      (terminal.outcome = .succeeded → ended.contributions.complete = true ∧
        ended.anchor.life = .active ∧ 0 < ended.anchor.currentHealth ∧
        ended.runner.life = .active ∧ 0 < ended.runner.currentHealth) := by
  rw [reconstructCooperationReplay, bind_eq_ok] at accepted
  obtain ⟨reading, read, finished⟩ := accepted
  cases CooperationReplayAccumulator.stands_of_readCooperation read with
  | gathering gathering =>
      rw [gathering.held] at finished
      cases finished
      cases found
  | behind before row after started anchor runner split opened behind =>
      obtain ⟨rfl, -⟩ := CooperationReplayAccumulator.finish_started behind.opened finished
      have linked := behind.linked
      obtain ⟨initial, ended, run⟩ := ended_of_validate opened.paired (linked.ended terminal found).1
      obtain ⟨anchorProfile, runnerProfile, -, -, begun⟩ := run.admission
      have kept := run.closed ▸ kept_final
        (kept_of_started ⟨_, _, _, _, _, begun⟩).1
        (CooperationReplay.contributionOperations terminal.contributions ++
          [CooperationReplay.closingOperation terminal])
      refine ⟨started, anchor, runner, initial, ended, rfl, opened.paired, run, ?_, ⟨_, kept⟩, ?_⟩
      · constructor
        · intro pinged member
          have valid := linked.pinged pinged member
          simp only [CooperationReplay.validatePingedPayload, bind_eq_ok, exists_unit,
            rejectIf_eq_ok, not_or, not_lt] at valid
          obtain ⟨-, -, -, -, -, -, -, -, -, -, order, within, -⟩ := valid
          exact ⟨order, within⟩
        · intro downed member
          obtain ⟨pinged, earlier, valid⟩ := linked.downed downed member
          have expires := linked.pinged pinged earlier
          simp only [CooperationReplay.validatePingedPayload, bind_eq_ok, exists_unit,
            rejectIf_eq_ok, not_or, not_not] at expires
          simp only [CooperationReplay.validateDownedPayload, bind_eq_ok, exists_unit,
            rejectIf_eq_ok, not_or, not_lt] at valid
          obtain ⟨-, -, -, -, -, -, -, -, -, -, -, -, expiry⟩ := expires
          obtain ⟨-, -, -, -, -, -, -, -, -, order, inTime, within, -⟩ := valid
          exact ⟨pinged, earlier, order, expiry ▸ inTime, within⟩
        · intro revived member
          obtain ⟨downed, earlier, valid⟩ := linked.revived revived member
          simp only [CooperationReplay.validateRevivedPayload, bind_eq_ok, exists_unit,
            rejectIf_eq_ok, not_or, not_lt] at valid
          obtain ⟨-, -, -, -, -, -, -, -, -, -, -, -, -, -, -, order, -, held, inTime, within,
            -⟩ := valid
          exact ⟨downed, earlier, order, held, inTime, within⟩
      · intro success
        have decided : ended.terminal = some .succeeded := run.outcome.trans (congrArg some success)
        have standing : ended.phase ≠ .failed := by
          have phase := kept.standing
          rw [decided] at phase
          generalize ended.phase = last at phase ⊢
          cases phase with
          | succeeded done => decide
          | failed other live => exact absurd rfl other
        have up : Phase.isDown (leftPhase .awaitingAnchor
            (CooperationReplay.contributionOperations terminal.contributions ++
              [CooperationReplay.closingOperation terminal]) initial) = false := by
          have phase := kept.standing
          rw [decided] at phase
          generalize ended.phase = last at phase
          cases phase with
          | succeeded done => rw [done]; rfl
          | failed other live => exact absurd rfl other
        obtain ⟨anchorLife, anchorHealth⟩ := kept.anchorUp standing
        obtain ⟨runnerLife, runnerHealth⟩ := kept.runnerUp standing up
        exact ⟨kept.succeeded_iff.mp decided, anchorLife, anchorHealth, runnerLife, runnerHealth⟩

theorem cooperative_terminal_pair :
    ∃ result, reconstructCooperationReplay pairJournal = .ok result ∧
      result.terminal = some pairSuccess ∧
      ∃ started anchor runner initial ended, result.started = some started ∧
        Paired started anchor runner ∧
        CooperationEnded started anchor runner pairSuccess initial ended ∧
        CooperationTimes result ∧ ended.contributions.complete = true := by
  have succeeds := pairJournal_succeeds
  cases accepted : reconstructCooperationReplay pairJournal with
  | error failure => rw [accepted] at succeeds; cases succeeds
  | ok result =>
      rw [accepted] at succeeds
      have found : result.terminal = some pairSuccess :=
        congrArg Prod.snd (Option.some.inj succeeds)
      obtain ⟨started, anchor, runner, initial, ended, recorded, paired, run, times, -, success⟩ :=
        cooperative_terminal accepted found
      exact ⟨result, rfl, found, started, anchor, runner, initial, ended, recorded, paired, run,
        times, (success rfl).1⟩

end Replay
end Revenant
