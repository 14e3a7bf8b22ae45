import Revenant.Cooperation.Accepted
import Revenant.Persistence.Cooperation

namespace Revenant
namespace Persistence
namespace Cooperative

open Library Replay Cooperation

/-!
# The stages of stored rows

A stage lists the contributions made so far with their times; it says both what
the columns hold and what state the domain is in.  An ending is laid over it.
Rows of a stage that was reached by accepted operations load again, into the
state of that stage.

A stage names its contributions in the order of the domain, so its columns are
computed and never searched for.  What follows is stated once for the columns
and once for the state.
-/

inductive Stage where
  | awaitingAnchor
  | awaitingPing (anchorAt : Nat)
  | awaitingRunner (anchorAt : Nat) (ping : OperationRecord)
  | runnerDowned (anchorAt : Nat) (ping : OperationRecord) (downedAt : Nat)
  | reviveChannel (anchorAt : Nat) (ping : OperationRecord) (downedAt : Nat)
      (channel : OperationRecord)
  | encounterActive (anchorAt : Nat) (ping : OperationRecord) (downedAt : Nat)
      (channel : OperationRecord) (revivedAt : Nat)
  deriving DecidableEq

inductive Ending where
  | running
  | succeeded (elapsedMs : Nat)
  | timedOut (outcome : TerminalOutcome) (elapsedMs : Nat)
  | defeated (role : Role) (elapsedMs : Nat)
  | abandoned (elapsedMs : Nat)
  deriving DecidableEq

/-! ## What a contribution makes of a state -/

def anchored (state : CooperationState) : CooperationState :=
  { state with
    contributions := { state.contributions with anchorArrived := true }
    phase := .awaitingPing }

def pinged (ping : OperationRecord) (state : CooperationState) : CooperationState :=
  { state with
    ping := some ping
    contributions := { state.contributions with pinged := true }
    phase := .awaitingRunner }

def downed (downedAt : Nat) (state : CooperationState) : CooperationState :=
  { state with
    runner := { state.runner with currentHealth := 0, life := .downed }
    contributions := { state.contributions with runnerArrived := true }
    downedElapsedMs := some downedAt
    phase := .runnerDowned }

def channelled (channel : OperationRecord) (state : CooperationState) : CooperationState :=
  { state with reviveChannel := some channel, phase := .reviveChannel }

def revived (operationId : String) (state : CooperationState) : CooperationState :=
  { state with
    runner := { state.runner with
      currentHealth := min Cooperation.reviveHealth state.runner.profile.maxHealth, life := .active }
    reviveCount := state.reviveCount + 1
    contributions := { state.contributions with revived := true }
    completedReviveOperationId := some operationId
    reviveChannel := none
    phase := .encounterActive }

namespace Stage

def state (initial : CooperationState) : Stage → CooperationState
  | awaitingAnchor => initial
  | awaitingPing _ => anchored initial
  | awaitingRunner _ ping => pinged ping (anchored initial)
  | runnerDowned _ ping downedAt => downed downedAt (pinged ping (anchored initial))
  | reviveChannel _ ping downedAt channel =>
      channelled channel (downed downedAt (pinged ping (anchored initial)))
  | encounterActive _ ping downedAt channel _ =>
      revived channel.operationId
        (channelled channel (downed downedAt (pinged ping (anchored initial))))

def columns (parent : StoredParent) : Stage → StoredParent
  | awaitingAnchor => parent
  | awaitingPing anchorAt => arriveAnchorColumns anchorAt parent
  | awaitingRunner anchorAt ping =>
      pingColumns ping.operationId ping.acceptedElapsedMs (arriveAnchorColumns anchorAt parent)
  | runnerDowned anchorAt ping downedAt =>
      downColumns downedAt (pingColumns ping.operationId ping.acceptedElapsedMs
        (arriveAnchorColumns anchorAt parent))
  | reviveChannel anchorAt ping downedAt channel =>
      channelColumns channel.operationId channel.acceptedElapsedMs (downColumns downedAt
        (pingColumns ping.operationId ping.acceptedElapsedMs
          (arriveAnchorColumns anchorAt parent)))
  | encounterActive anchorAt ping downedAt channel revivedAt =>
      reviveColumns revivedAt (channelColumns channel.operationId channel.acceptedElapsedMs
        (downColumns downedAt (pingColumns ping.operationId ping.acceptedElapsedMs
          (arriveAnchorColumns anchorAt parent))))

def runnerRow (runner : StoredParticipant) : Stage → StoredParticipant
  | awaitingAnchor | awaitingPing _ | awaitingRunner _ _ => runner
  | runnerDowned _ _ _ | reviveChannel _ _ _ _ => { runner with currentHealth := 0, life := .downed }
  | encounterActive _ _ _ _ _ => { runner with currentHealth := 50, life := .active }

def rows (fresh : OperationRows) (stage : Stage) : OperationRows :=
  { fresh with parent := stage.columns fresh.parent, runner := stage.runnerRow fresh.runner }

def operations : Stage → List Operation
  | awaitingAnchor => []
  | awaitingPing anchorAt => [.arriveAnchor .anchor .relayAnchor anchorAt]
  | awaitingRunner anchorAt ping =>
      [.arriveAnchor .anchor .relayAnchor anchorAt,
        .ping .anchor .relayConsole ping.operationId ping.acceptedElapsedMs]
  | runnerDowned anchorAt ping downedAt =>
      [.arriveAnchor .anchor .relayAnchor anchorAt,
        .ping .anchor .relayConsole ping.operationId ping.acceptedElapsedMs,
        .arriveRunner .runner .relayConsole downedAt]
  | reviveChannel anchorAt ping downedAt channel =>
      [.arriveAnchor .anchor .relayAnchor anchorAt,
        .ping .anchor .relayConsole ping.operationId ping.acceptedElapsedMs,
        .arriveRunner .runner .relayConsole downedAt,
        .startRevive .anchor .runner maxReviveDistanceSquared channel.operationId
          channel.acceptedElapsedMs]
  | encounterActive anchorAt ping downedAt channel revivedAt =>
      [.arriveAnchor .anchor .relayAnchor anchorAt,
        .ping .anchor .relayConsole ping.operationId ping.acceptedElapsedMs,
        .arriveRunner .runner .relayConsole downedAt,
        .startRevive .anchor .runner maxReviveDistanceSquared channel.operationId
          channel.acceptedElapsedMs,
        .observeRevive .anchor .runner maxReviveDistanceSquared channel.operationId revivedAt]

end Stage

/-- Every contribution of a stage was accepted at its time. -/
inductive Reached (initial : CooperationState) : Stage → Prop
  | admitted : Reached initial .awaitingAnchor
  | anchored {anchorAt : Nat} (timely : Timely (Stage.awaitingAnchor.state initial) anchorAt) :
      Reached initial (.awaitingPing anchorAt)
  | pinged {anchorAt : Nat} {ping : OperationRecord}
      (before : Reached initial (.awaitingPing anchorAt))
      (timely : Timely ((Stage.awaitingPing anchorAt).state initial) ping.acceptedElapsedMs)
      (plain : plainOperationId ping.operationId = true) :
      Reached initial (.awaitingRunner anchorAt ping)
  | downed {anchorAt downedAt : Nat} {ping : OperationRecord}
      (before : Reached initial (.awaitingRunner anchorAt ping))
      (timely : Timely ((Stage.awaitingRunner anchorAt ping).state initial) downedAt) :
      Reached initial (.runnerDowned anchorAt ping downedAt)
  | channelled {anchorAt downedAt : Nat} {ping channel : OperationRecord}
      (before : Reached initial (.runnerDowned anchorAt ping downedAt))
      (timely : Timely ((Stage.runnerDowned anchorAt ping downedAt).state initial)
        channel.acceptedElapsedMs) (plain : plainOperationId channel.operationId = true) :
      Reached initial (.reviveChannel anchorAt ping downedAt channel)
  | revived {anchorAt downedAt revivedAt : Nat} {ping channel : OperationRecord}
      (before : Reached initial (.reviveChannel anchorAt ping downedAt channel))
      (timely : Timely ((Stage.reviveChannel anchorAt ping downedAt channel).state initial)
        revivedAt) (held : channel.acceptedElapsedMs + Cooperation.reviveChannelMs ≤ revivedAt) :
      Reached initial (.encounterActive anchorAt ping downedAt channel revivedAt)

namespace Ending

def state (reached : CooperationState) : Ending → CooperationState
  | running => reached
  | succeeded _ =>
      { reached with contributions := { reached.contributions with wardenCompleted := true } }
        |>.committed .succeeded
  | timedOut outcome _ => reached.committed outcome
  | defeated role _ => (reached.defeat role).committed .failedParticipantDefeated
  | abandoned _ => reached.committed .abandonedDisconnect

def rows (rows : OperationRows) : Ending → OperationRows
  | running => rows
  | succeeded elapsedMs => { rows with parent := completeColumns elapsedMs rows.parent }
  | timedOut outcome elapsedMs => { rows with parent := closeParent outcome elapsedMs rows.parent }
  | defeated role elapsedMs =>
      { rows.withParticipant role 0 .defeated with
        parent := closeParent .failedParticipantDefeated elapsedMs rows.parent }
  | abandoned elapsedMs =>
      { rows with parent := closeParent .abandonedDisconnect elapsedMs rows.parent }

/-- The domain ends a state of a stage so, at that time. -/
def Sound (reached : CooperationState) : Ending → Prop
  | running => True
  | succeeded elapsedMs | defeated _ elapsedMs =>
      Timely reached elapsedMs ∧ reached.phase = .encounterActive
  | timedOut outcome elapsedMs => reached.overdue elapsedMs = some outcome
  | abandoned elapsedMs => Timely reached elapsedMs

end Ending

/-- What a session was started with. -/
structure Admission where
  input : CooperationOperationInput
  anchor : CooperationParticipant
  runner : CooperationParticipant

namespace Admission

def rows (admission : Admission) : OperationRows :=
  { parent := insertedParent admission.input
    anchor := insertedParticipant .anchor admission.anchor
    runner := insertedParticipant .runner admission.runner }

def initial (admission : Admission) : CooperationState :=
  { catalogRevision := Cooperation.catalogRevision
    startOperationId := admission.input.operationId
    phase := .awaitingAnchor
    anchor := admitted .anchor admission.anchor.profile admission.anchor.currentHealth
    runner := admitted .runner admission.runner.profile admission.runner.currentHealth
    contributions := .none, ping := none, downedElapsedMs := none, reviveChannel := none
    completedReviveOperationId := none, reviveCount := 0, terminal := none }

def reached (admission : Admission) (stage : Stage) : CooperationState :=
  stage.state admission.initial

/-- The rows of a stage of the admission, with an ending over it. -/
def laid (admission : Admission) (stage : Stage) (ending : Ending) : OperationRows :=
  ending.rows (stage.rows admission.rows)

/-- Everything that a load checks of the admission. -/
structure Valid (owners : String → Option String) (admission : Admission) : Prop where
  constants : validateParentConstants admission.rows.parent = .ok ()
  anchor : validateStoredParticipant owners admission.rows.parent admission.rows.anchor .anchor =
    .ok admission.anchor.profile
  runner : validateStoredParticipant owners admission.rows.parent admission.rows.runner .runner =
    .ok admission.runner.profile
  begun : CooperationState.startWithHealth admission.input.operationId admission.anchor.profile
    admission.runner.profile admission.anchor.currentHealth admission.runner.currentHealth =
      .ok admission.initial

theorem initial_of_start {admission : Admission} {state : CooperationState}
    (begun : CooperationState.startWithHealth admission.input.operationId admission.anchor.profile
      admission.runner.profile admission.anchor.currentHealth admission.runner.currentHealth =
        .ok state) : state = admission.initial := by
  simp only [CooperationState.startWithHealth, bind_eq_ok, exists_unit, pure_eq_ok] at begun
  exact begun.2.2.2.symm

theorem participant_of_validate {owners : String → Option String} {parent : StoredParent}
    {participant : StoredParticipant} {role : Role} {profile : CombatProfile}
    (valid : validateStoredParticipant owners parent participant role = .ok profile) :
    profile = participant.profile := by
  simp only [validateStoredParticipant, bind_eq_ok, exists_unit, pure_eq_ok] at valid
  obtain ⟨-, _, -, -, _, -, -, same⟩ := valid
  exact same.symm

variable {owners : String → Option String} {admission : Admission}

theorem Valid.started (valid : admission.Valid owners) : Started admission.initial :=
  ⟨_, _, _, _, _, valid.begun⟩

theorem Valid.reviveHealth (valid : admission.Valid owners) :
    min Cooperation.reviveHealth admission.runner.profile.maxHealth = 50 :=
  Nat.min_eq_left (kept_of_started valid.started).1.admission

theorem Valid.admittedHealth (valid : admission.Valid owners) :
    admission.runner.currentHealth ≠ 0 := by
  have begun := valid.begun
  simp only [CooperationState.startWithHealth, bind_eq_ok, exists_unit, rejectIf_eq_ok,
    not_or] at begun
  exact begun.2.2.1.2.1

end Admission

/-! ## Loading a stage -/

theorem liftDomain_eq_ok {Value : Type} {answer : Except CooperationError Value} {value : Value} :
    liftDomain answer = .ok value ↔ answer = .ok value := by
  cases answer with
  | ok found => simp only [liftDomain, Except.mapError, Except.ok.injEq]
  | error failure => simp only [liftDomain, Except.mapError, reduceCtorEq]

variable {state : CooperationState}

theorem advanceAll_snoc {operations : List Operation} (operation : Operation)
    {middle next : CooperationState}
    (first : advanceAllWith CooperationPersistenceError.domain operations state = .ok middle)
    (last : ∃ disposition, perform operation middle = (.ok disposition, next)) :
    advanceAllWith CooperationPersistenceError.domain (operations ++ [operation]) state =
      .ok next :=
  advanceAllWith_append first
    ((advanceAllWith_singleton operation middle).trans (advanceWith_eq_ok.mpr last))

/-- The timeouts an overdue time can name. -/
theorem isTimeoutOutcome_of_overdue {elapsedMs : Nat} {outcome : TerminalOutcome}
    (due : state.overdue elapsedMs = some outcome) : isTimeoutOutcome outcome = true := by
  simp only [CooperationState.overdue, Option.or_eq_some_iff] at due
  rcases due with stage | ⟨-, total⟩
  · split at stage
    · split at stage <;> cases stage
      rfl
    · split at stage <;> cases stage
      rfl
    · split at stage <;> cases stage
      rfl
    · cases stage
  · split at total <;> cases total
    rfl

variable {owners : String → Option String} {admission : Admission} {stage : Stage}

namespace Reached

/-- The contributions of a reached stage can be performed again. -/
theorem run (valid : admission.Valid owners) (reached : Reached admission.initial stage) :
    advanceAllWith CooperationPersistenceError.domain stage.operations admission.initial = .ok (admission.reached stage) := by
  induction reached with
  | admitted => rfl
  | anchored timely =>
      have begun : advanceAllWith CooperationPersistenceError.domain [] admission.initial =
          .ok admission.initial := rfl
      exact advanceAll_snoc (.arriveAnchor .anchor .relayAnchor _) begun
        ⟨_, arriveAnchor_answers.mpr ⟨timely, rfl, rfl, rfl⟩⟩
  | pinged before timely plain inductionHypothesis =>
      exact advanceAll_snoc (.ping .anchor .relayConsole _ _) inductionHypothesis
        ⟨_, ping_answers.mpr ⟨timely, plain, Or.inr ⟨rfl, rfl, rfl, rfl⟩⟩⟩
  | downed before timely inductionHypothesis =>
      exact advanceAll_snoc (.arriveRunner .runner .relayConsole _) inductionHypothesis
        ⟨_, arriveRunner_answers.mpr ⟨timely, rfl, ⟨rfl, valid.admittedHealth⟩, rfl, rfl⟩⟩
  | channelled before timely plain inductionHypothesis =>
      exact advanceAll_snoc (.startRevive .anchor .runner _ _ _) inductionHypothesis
        ⟨_, startRevive_answers.mpr
          ⟨timely, by decide, plain, Or.inr ⟨rfl, rfl, ⟨rfl, rfl⟩, rfl, rfl⟩⟩⟩
  | revived before timely held inductionHypothesis =>
      refine advanceAll_snoc (.observeRevive .anchor .runner _ _ _) inductionHypothesis
        ⟨.applied, ?_⟩
      cases before with
      | channelled _ _ plain =>
          exact observeRevive_done timely plain rfl rfl rfl held (Nat.le_add_left 1 254)

theorem live (_reached : Reached admission.initial stage) :
    (admission.reached stage).terminal = none := by
  cases stage <;> rfl

end Reached

/-- The recorded end of a reached stage is found again. -/
theorem replayStoredTerminal_laid (reached : Reached admission.initial stage) {ending : Ending}
    (sound : ending.Sound (admission.reached stage)) :
    replayStoredTerminal (admission.laid stage ending) (admission.reached stage) =
      .ok (ending.state (admission.reached stage)) := by
  have live := reached.live
  cases ending with
  | running => cases stage <;> rfl
  | succeeded elapsedMs =>
      obtain ⟨timely, phase⟩ := sound
      have complete : { (admission.reached stage).contributions with
          wardenCompleted := true }.complete = true := by
        cases stage with
        | encounterActive => rfl
        | awaitingAnchor | awaitingPing | awaitingRunner | runnerDowned | reviveChannel =>
            cases phase
      exact advanceWith_eq_ok.mpr
        ⟨_, (completeWarden_answers live).mpr ⟨timely, phase, complete, rfl, rfl⟩⟩
  | timedOut outcome elapsedMs =>
      have due : (admission.reached stage).overdue elapsedMs = some outcome := sound
      obtain ⟨answered, left⟩ := perform_overdue live
        (show (Operation.observeDeadlines elapsedMs).elapsedMs = some elapsedMs from rfl) due
      have timeout := isTimeoutOutcome_of_overdue due
      change replayTerminal _ outcome elapsedMs _ = .ok ((admission.reached stage).committed outcome)
      cases outcome with
      | failedPingTimeout | failedReviveTimeout | failedOperationTimeout =>
          simp only [replayTerminal, answered, left, ne_eq, not_true_eq_false, bind_eq_ok,
            exists_unit, rejectIf_eq_ok, not_false_eq_true, pure_eq_ok, and_self]
      | succeeded | failedParticipantDefeated | abandonedDisconnect => cases timeout
  | defeated role elapsedMs =>
      obtain ⟨timely, phase⟩ := sound
      cases stage with
      | encounterActive =>
          cases role with
          | anchor | runner =>
              exact advanceWith_eq_ok.mpr
                ⟨_, defeatParticipant_answers.mpr ⟨timely, phase, rfl, rfl⟩⟩
      | awaitingAnchor | awaitingPing | awaitingRunner | runnerDowned | reviveChannel =>
          cases phase
  | abandoned elapsedMs =>
      have left : perform (.disconnect .anchor elapsedMs) (admission.reached stage) = (.ok .applied,
          (admission.reached stage).committed .abandonedDisconnect) :=
        (disconnect_answers .anchor live).mpr ⟨sound, rfl, rfl⟩
      exact advanceWith_eq_ok.mpr ⟨_, left⟩

/-- What the columns repeat of a state. -/
structure Parity (rows : OperationRows) (state : CooperationState) : Prop where
  contributions : state.contributions =
    { anchorArrived := rows.parent.anchorArrived, pinged := rows.parent.pinged
      runnerArrived := rows.parent.runnerArrived, revived := rows.parent.revived
      wardenCompleted := rows.parent.wardenCompleted }
  reviveCount : state.reviveCount = rows.parent.reviveCount
  anchor : rows.anchor.currentHealth = state.anchor.currentHealth ∧
    rows.anchor.life = state.anchor.life
  runner : rows.runner.currentHealth = state.runner.currentHealth ∧
    rows.runner.life = state.runner.life
  pingTarget : rows.parent.pingTarget =
    if rows.parent.pinged = true then some .relayConsole else none
  reviveTarget : rows.parent.reviveTarget =
    rows.parent.reviveOperationId.map (fun _ => Role.runner)
  down : rows.parent.runnerElapsedMs = rows.parent.downedElapsedMs
  warden : rows.parent.wardenElapsedMs.isSome = rows.parent.wardenCompleted

variable {rows : OperationRows}

theorem Parity.validate (parity : Parity rows state) : validateStateParity rows state = .ok () := by
  simp only [validateStateParity, bind_eq_ok, exists_unit, rejectIf_eq_ok, ne_eq, not_or, not_not]
  exact ⟨⟨parity.contributions, parity.reviveCount⟩,
    ⟨parity.anchor.1, parity.anchor.2, parity.runner.1, parity.runner.2⟩,
    parity.pingTarget, parity.reviveTarget, parity.down, parity.warden⟩

theorem parity_running (valid : admission.Valid owners) (stage : Stage) :
    Parity (admission.laid stage .running) (admission.reached stage) where
  contributions := by cases stage <;> rfl
  reviveCount := by cases stage <;> rfl
  anchor := by cases stage <;> exact ⟨rfl, rfl⟩
  runner := by
    cases stage with
    | encounterActive => exact ⟨valid.reviveHealth.symm, rfl⟩
    | awaitingAnchor | awaitingPing | awaitingRunner | runnerDowned | reviveChannel =>
        exact ⟨rfl, rfl⟩
  pingTarget := by cases stage <;> rfl
  reviveTarget := by cases stage <;> rfl
  down := by cases stage <;> rfl
  warden := by cases stage <;> rfl

/-- An ending changes the columns as it changes the state. -/
theorem Parity.ended (parity : Parity rows state) (ending : Ending) :
    Parity (ending.rows rows) (ending.state state) := by
  obtain ⟨contributions, reviveCount, anchor, runner, pingTarget, reviveTarget, down, warden⟩ :=
    parity
  cases ending with
  | running => exact ⟨contributions, reviveCount, anchor, runner, pingTarget, reviveTarget, down, warden⟩
  | succeeded elapsedMs =>
      refine ⟨?_, reviveCount, anchor, runner, pingTarget, reviveTarget, down, rfl⟩
      change { state.contributions with wardenCompleted := true } = _
      rw [contributions]
      rfl
  | timedOut | abandoned =>
      exact ⟨contributions, reviveCount, anchor, runner, pingTarget, reviveTarget, down, warden⟩
  | defeated role elapsedMs =>
      cases role with
      | anchor =>
          exact ⟨contributions, reviveCount, ⟨rfl, rfl⟩, runner, pingTarget, reviveTarget, down,
            warden⟩
      | runner =>
          exact ⟨contributions, reviveCount, anchor, ⟨rfl, rfl⟩, pingTarget, reviveTarget, down,
            warden⟩

/-! ## Rows that stand for a state -/

/-- The rows are a stage of some admission, and the state is the one they lead to. -/
def Durable (owners : String → Option String) (rows : OperationRows) (state : CooperationState) :
    Prop :=
  ∃ (admission : Admission) (stage : Stage) (ending : Ending), admission.Valid owners ∧
    Reached admission.initial stage ∧ ending.Sound (admission.reached stage) ∧
    rows = admission.laid stage ending ∧ state = ending.state (admission.reached stage)

/-! No contribution and no ending changes what a load reads first. -/

theorem validateParentConstants_laid (valid : admission.Valid owners) (stage : Stage)
    (ending : Ending) : validateParentConstants (admission.laid stage ending).parent = .ok () := by
  have constants := valid.constants
  cases ending with
  | running | succeeded | timedOut | abandoned => cases stage <;> exact constants
  | defeated role => cases role <;> cases stage <;> exact constants

theorem validateAnchor_laid (valid : admission.Valid owners) (stage : Stage) (ending : Ending) :
    validateStoredParticipant owners (admission.laid stage ending).parent
      (admission.laid stage ending).anchor .anchor = .ok admission.anchor.profile := by
  have anchor := valid.anchor
  cases ending with
  | running | succeeded | timedOut | abandoned => cases stage <;> exact anchor
  | defeated role => cases role <;> cases stage <;> exact anchor

theorem validateRunner_laid (valid : admission.Valid owners) (stage : Stage) (ending : Ending) :
    validateStoredParticipant owners (admission.laid stage ending).parent
      (admission.laid stage ending).runner .runner = .ok admission.runner.profile := by
  have runner := valid.runner
  cases ending with
  | running | succeeded | timedOut | abandoned => cases stage <;> exact runner
  | defeated role => cases role <;> cases stage <;> exact runner

theorem startWithHealth_laid (valid : admission.Valid owners) (stage : Stage) (ending : Ending) :
    CooperationState.startWithHealth (admission.laid stage ending).parent.startOperationId
      admission.anchor.profile admission.runner.profile
      (admission.laid stage ending).anchor.admittedHealth
      (admission.laid stage ending).runner.admittedHealth = .ok admission.initial := by
  have begun := valid.begun
  cases ending with
  | running | succeeded | timedOut | abandoned => cases stage <;> exact begun
  | defeated role => cases role <;> cases stage <;> exact begun

theorem storedContributions_laid (admission : Admission) (stage : Stage) (ending : Ending) :
    storedContributions (admission.laid stage ending).parent = stage.operations := by
  cases ending with
  | running | succeeded | timedOut | abandoned => cases stage <;> rfl
  | defeated role => cases role <;> cases stage <;> rfl

theorem phase_laid (admission : Admission) (stage : Stage) (ending : Ending) :
    (admission.reached stage).phase = (admission.laid stage ending).parent.phase := by
  cases ending with
  | running | succeeded | timedOut | abandoned => cases stage <;> rfl
  | defeated role => cases role <;> cases stage <;> rfl

/-- Rows that stand for a state are loaded as it. -/
theorem Durable.loads (durable : Durable owners rows state) :
    reconstructState owners rows = .ok state := by
  obtain ⟨admission, stage, ending, valid, reached, sound, rfl, rfl⟩ := durable
  have ran := reached.run valid
  rw [← storedContributions_laid admission stage ending] at ran
  simp only [reconstructState, bind_eq_ok, exists_unit, rejectIf_eq_ok, not_not, pure_eq_ok,
    liftDomain_eq_ok]
  exact ⟨validateParentConstants_laid valid stage ending, _, validateAnchor_laid valid stage ending,
    _, validateRunner_laid valid stage ending, _, startWithHealth_laid valid stage ending, _, ran,
    phase_laid admission stage ending, _, replayStoredTerminal_laid reached sound,
    ((parity_running valid stage).ended ending).validate, rfl⟩

/-- Fresh rows that load stand for the state they load as. -/
theorem durable_of_fresh (loaded : reconstructState owners admission.rows = .ok state) :
    Durable owners admission.rows state := by
  simp only [reconstructState, bind_eq_ok, exists_unit, pure_eq_ok, liftDomain_eq_ok] at loaded
  obtain ⟨constants, anchor, anchorValid, runner, runnerValid, admitted, begun, reached, run, -,
    ended, closed, -, rfl⟩ := loaded
  obtain rfl := Admission.participant_of_validate anchorValid
  obtain rfl := Admission.participant_of_validate runnerValid
  obtain rfl := Admission.initial_of_start begun
  cases run
  cases closed
  exact ⟨admission, .awaitingAnchor, .running, ⟨constants, anchorValid, runnerValid, begun⟩,
    .admitted, trivial, rfl, rfl⟩

/-! ## What an accepted operation makes of the rows -/

namespace Durable

variable {rows : OperationRows} {state next : CooperationState} {elapsedMs : Nat}
  {disposition : MutationDisposition}

/-- The rows of a state that has not ended are a stage without an ending. -/
theorem running (durable : Durable owners rows state) (live : state.terminal = none) :
    ∃ (admission : Admission) (stage : Stage), admission.Valid owners ∧
      Reached admission.initial stage ∧ rows = admission.laid stage .running ∧
      state = admission.reached stage := by
  obtain ⟨admission, stage, ending, valid, reached, -, rfl, rfl⟩ := durable
  cases ending with
  | running => exact ⟨admission, stage, valid, reached, rfl, rfl⟩
  | succeeded | timedOut | defeated | abandoned => cases live

theorem arriveAnchor (durable : Durable owners rows state)
    (answered : perform (.arriveAnchor .anchor .relayAnchor elapsedMs) state =
      (.ok disposition, next)) : disposition = .applied ∧
    Durable owners { rows with parent := arriveAnchorColumns elapsedMs rows.parent } next := by
  obtain ⟨timely, phase, rfl, rfl⟩ := arriveAnchor_answers.mp answered
  obtain ⟨admission, stage, valid, reached, rfl, rfl⟩ := durable.running timely.live
  cases stage with
  | awaitingAnchor =>
      exact ⟨rfl, admission, .awaitingPing elapsedMs, .running, valid, .anchored timely, trivial,
        rfl, rfl⟩
  | awaitingPing | awaitingRunner | runnerDowned | reviveChannel | encounterActive => cases phase

variable {operationId : String}

theorem ping (durable : Durable owners rows state)
    (answered : perform (.ping .anchor .relayConsole operationId elapsedMs) state =
      (.ok disposition, next)) : disposition = .replayed ∧ next = state ∨
    disposition = .applied ∧
      Durable owners { rows with parent := pingColumns operationId elapsedMs rows.parent } next := by
  obtain ⟨timely, plain, ⟨-, rfl, rfl⟩ | ⟨-, phase, rfl, rfl⟩⟩ := ping_answers.mp answered
  · exact Or.inl ⟨rfl, rfl⟩
  obtain ⟨admission, stage, valid, reached, rfl, rfl⟩ := durable.running timely.live
  cases stage with
  | awaitingPing anchorAt =>
      exact Or.inr ⟨rfl, admission, .awaitingRunner anchorAt ⟨operationId, elapsedMs⟩, .running,
        valid, .pinged reached timely plain, trivial, rfl, rfl⟩
  | awaitingAnchor | awaitingRunner | runnerDowned | reviveChannel | encounterActive => cases phase

theorem arriveRunner (durable : Durable owners rows state)
    (answered : perform (.arriveRunner .runner .relayConsole elapsedMs) state =
      (.ok disposition, next)) : disposition = .applied ∧
    Durable owners ({ rows with parent := downColumns elapsedMs rows.parent }.withParticipant
      .runner 0 .downed) next := by
  obtain ⟨timely, phase, -, rfl, rfl⟩ := arriveRunner_answers.mp answered
  obtain ⟨admission, stage, valid, reached, rfl, rfl⟩ := durable.running timely.live
  cases stage with
  | awaitingRunner anchorAt ping =>
      exact ⟨rfl, admission, .runnerDowned anchorAt ping elapsedMs, .running, valid,
        .downed reached timely, trivial, rfl, rfl⟩
  | awaitingAnchor | awaitingPing | runnerDowned | reviveChannel | encounterActive => cases phase

theorem startRevive {distanceSquared : Int} (durable : Durable owners rows state)
    (answered : perform (.startRevive .anchor .runner distanceSquared operationId elapsedMs) state =
      (.ok disposition, next)) : disposition = .replayed ∧ next = state ∨
    disposition = .applied ∧ Durable owners
      { rows with parent := channelColumns operationId elapsedMs rows.parent } next := by
  obtain ⟨timely, -, plain, ⟨_, earlier, rfl, rfl⟩ | ⟨-, phase, -, rfl, rfl⟩⟩ :=
    startRevive_answers.mp answered
  · exact Or.inl ⟨CooperationState.earlierRevive_replayed earlier, rfl⟩
  obtain ⟨admission, stage, valid, reached, rfl, rfl⟩ := durable.running timely.live
  cases stage with
  | runnerDowned anchorAt ping downedAt =>
      exact Or.inr ⟨rfl, admission, .reviveChannel anchorAt ping downedAt ⟨operationId, elapsedMs⟩,
        .running, valid, .channelled reached timely plain, trivial, rfl, rfl⟩
  | awaitingAnchor | awaitingPing | awaitingRunner | reviveChannel | encounterActive => cases phase

theorem observeRevive {distanceSquared : Int} (durable : Durable owners rows state)
    (answered : perform (.observeRevive .anchor .runner distanceSquared operationId elapsedMs)
      state = (.ok disposition, next)) :
    (disposition = .pending ∨ disposition = .replayed) ∧ next = state ∨
    disposition = .cancelled ∧ Durable owners { rows with parent := cancelColumns rows.parent } next ∨
    disposition = .applied ∧ Durable owners
      ({ rows with parent := reviveColumns elapsedMs rows.parent }.withParticipant .runner 50 .active)
      next := by
  obtain ⟨timely, plain, observed⟩ := observed_of_observeRevive answered
  cases observed with
  | repeated => exact Or.inl ⟨Or.inr rfl, rfl⟩
  | running => exact Or.inl ⟨Or.inl rfl, rfl⟩
  | outside phase =>
      obtain ⟨admission, stage, valid, reached, rfl, rfl⟩ := durable.running timely.live
      cases stage with
      | reviveChannel anchorAt ping downedAt channel =>
          cases reached with
          | channelled before =>
              exact Or.inr (Or.inl ⟨rfl, admission, .runnerDowned anchorAt ping downedAt, .running,
                valid, before, trivial, rfl, rfl⟩)
      | awaitingAnchor | awaitingPing | awaitingRunner | runnerDowned | encounterActive =>
          cases phase
  | done phase opened same held =>
      obtain ⟨admission, stage, valid, reached, rfl, rfl⟩ := durable.running timely.live
      cases stage with
      | reviveChannel anchorAt ping downedAt channel =>
          obtain rfl : channel = _ := Option.some.inj opened
          subst same
          exact Or.inr (Or.inr ⟨rfl, admission,
            .encounterActive anchorAt ping downedAt channel elapsedMs, .running, valid,
            .revived reached timely held, trivial, rfl, rfl⟩)
      | awaitingAnchor | awaitingPing | awaitingRunner | runnerDowned | encounterActive =>
          cases phase

/-- An ending that the domain accepts is laid over the rows. -/
theorem ends (durable : Durable owners rows state) (live : state.terminal = none) {ending : Ending}
    (sound : ending.Sound state) : Durable owners (ending.rows rows) (ending.state state) := by
  obtain ⟨admission, stage, valid, reached, rfl, rfl⟩ := durable.running live
  exact ⟨admission, stage, ending, valid, reached, sound, rfl, rfl⟩

theorem expires {operation : Operation} {outcome : TerminalOutcome}
    (durable : Durable owners rows state) (timed : operation.elapsedMs = some elapsedMs)
    (answered : perform operation state = (.error (.deadlineExpired outcome), next)) :
    Durable owners { rows with parent := closeParent outcome elapsedMs rows.parent } next := by
  obtain ⟨live, rfl, _, observed, due⟩ := perform_expired answered
  cases timed.symm.trans observed
  have sound : (Ending.timedOut outcome elapsedMs).Sound state := due
  exact durable.ends live sound

end Durable

end Cooperative
end Persistence
end Revenant
