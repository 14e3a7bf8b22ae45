import Revenant.Modules
import Revenant.Library.Call
import Revenant.Library.Words

namespace Revenant
namespace Cooperation

open Library

/-!
# The cooperation of two players

An anchor and a runner go through a fixed order of contributions: the anchor
arrives and pings, the runner arrives and is downed, the anchor revives them over
a channel, and both beat the Warden.  Every operation carries the authoritative
time it is observed at; deadlines are noticed by whichever operation comes next.
-/

def catalogRevision : String := "m28-v1"
def operationDurationMs : Nat := 60000
def pingTtlMs : Nat := 5000
def reviveWindowMs : Nat := 15000
def reviveChannelMs : Nat := 2000
def reviveHealth : Nat := 50
def maxReviveDistanceSquared : Int := 4
def maxOperationIdBytes : Nat := 32
def participantCount : Nat := 2

structure ParticipantReward where
  fragments : Nat
  experience : Nat
  deriving DecidableEq, Repr

def successReward : ParticipantReward := { fragments := 2, experience := 125 }

inductive Role where
  | anchor
  | runner
  deriving DecidableEq, Repr

namespace Role

def all : List Role := [anchor, runner]

def index : Role → Nat
  | anchor => 0
  | runner => 1

def text : Role → String
  | anchor => "anchor"
  | runner => "runner"

end Role

inductive Target where
  | relayAnchor
  | relayConsole
  deriving DecidableEq, Repr

inductive Phase where
  | awaitingAnchor
  | awaitingPing
  | awaitingRunner
  | runnerDowned
  | reviveChannel
  | encounterActive
  | succeeded
  | failed
  deriving DecidableEq, Repr

inductive LifeState where
  | active
  | downed
  | defeated
  deriving DecidableEq, Repr

inductive TerminalOutcome where
  | succeeded
  | failedPingTimeout
  | failedReviveTimeout
  | failedOperationTimeout
  | failedParticipantDefeated
  | abandonedDisconnect
  deriving DecidableEq, Repr

/-- A profile the operation admits. -/
def validProfile (profile : CombatProfile) : Bool :=
  decide (0 < profile.damage) && decide (0 ≤ profile.range) && decide (0 < profile.cooldownMs) &&
    decide (reviveHealth ≤ profile.maxHealth)

structure ParticipantState where
  role : Role
  profile : CombatProfile
  admittedHealth : Nat
  currentHealth : Nat
  life : LifeState
  deriving DecidableEq

structure Contributions where
  anchorArrived : Bool
  pinged : Bool
  runnerArrived : Bool
  revived : Bool
  wardenCompleted : Bool
  deriving DecidableEq, Repr

def Contributions.none : Contributions :=
  { anchorArrived := false, pinged := false, runnerArrived := false, revived := false
    wardenCompleted := false }

def Contributions.complete (contributions : Contributions) : Bool :=
  contributions.anchorArrived && contributions.pinged && contributions.runnerArrived &&
    contributions.revived && contributions.wardenCompleted

inductive MutationDisposition where
  | applied
  | replayed
  | pending
  | cancelled
  deriving DecidableEq, Repr

structure OperationRecord where
  operationId : String
  acceptedElapsedMs : Nat
  deriving DecidableEq

structure CooperationState where
  catalogRevision : String
  startOperationId : String
  phase : Phase
  anchor : ParticipantState
  runner : ParticipantState
  contributions : Contributions
  ping : Option OperationRecord
  downedElapsedMs : Option Nat
  reviveChannel : Option OperationRecord
  completedReviveOperationId : Option String
  reviveCount : Nat
  terminal : Option TerminalOutcome
  deriving DecidableEq

inductive CooperationError where
  | invalidOperationId
  | invalidProfile
  | invalidCurrentHealth
  | wrongRole (expected actual : Role)
  | wrongTarget (expected actual : Target)
  | wrongReviveTarget (actual : Role)
  | wrongPhase (expected actual : Phase)
  | alreadyPinged
  | alreadyStarted
  | alreadyRevived
  | reviveChannelActive
  | operationConflict
  | outOfRange (distance : Int)
  | invalidLifeState
  | timeReversal
  | incompleteContributions
  | arithmeticOverflow
  | terminal (outcome : TerminalOutcome)
  | deadlineExpired (outcome : TerminalOutcome)
  deriving DecidableEq, Repr

/-! The names `Debug` prints. -/

def Target.debug : Target → String
  | relayAnchor => "RelayAnchor"
  | relayConsole => "RelayConsole"

def Phase.debug : Phase → String
  | awaitingAnchor => "AwaitingAnchor"
  | awaitingPing => "AwaitingPing"
  | awaitingRunner => "AwaitingRunner"
  | runnerDowned => "RunnerDowned"
  | reviveChannel => "ReviveChannel"
  | encounterActive => "EncounterActive"
  | succeeded => "Succeeded"
  | failed => "Failed"

def TerminalOutcome.debug : TerminalOutcome → String
  | succeeded => "Succeeded"
  | failedPingTimeout => "FailedPingTimeout"
  | failedReviveTimeout => "FailedReviveTimeout"
  | failedOperationTimeout => "FailedOperationTimeout"
  | failedParticipantDefeated => "FailedParticipantDefeated"
  | abandonedDisconnect => "AbandonedDisconnect"

def CooperationError.text : CooperationError → String
  | invalidOperationId => "invalid cooperation operation id"
  | invalidProfile => "invalid admitted combat profile"
  | invalidCurrentHealth => "invalid admitted current health"
  | wrongRole expected actual => s!"expected role {expected.text}, received {actual.text}"
  | wrongTarget expected actual => s!"expected target {expected.debug}, received {actual.debug}"
  | wrongReviveTarget actual => s!"expected runner revive target, received {actual.text}"
  | wrongPhase expected actual => s!"expected phase {expected.debug}, received {actual.debug}"
  | alreadyPinged => "cooperation ping already accepted"
  | alreadyStarted => "cooperation operation already started"
  | alreadyRevived => "cooperation revive already completed"
  | reviveChannelActive => "a revive channel is already active"
  | operationConflict => "cooperation operation id conflict"
  | outOfRange distance => s!"revive distance {distance} is invalid"
  | invalidLifeState => "participant life state is invalid"
  | timeReversal => "elapsed time predates accepted operation"
  | incompleteContributions => "required cooperation contributions are incomplete"
  | arithmeticOverflow => "cooperation arithmetic overflowed"
  | terminal outcome => s!"operation is terminal: {outcome.debug}"
  | deadlineExpired outcome => s!"operation deadline expired: {outcome.debug}"

/-- 1 to 32 ASCII letters, digits and hyphens. -/
def plainOperationId (value : String) : Bool :=
  decide (value ≠ "") && decide (value.utf8ByteSize ≤ maxOperationIdBytes) &&
    value.toList.all (fun letter => letter.isAlphanum || letter == '-')

def validateOperationId (operationId : String) : Except CooperationError Unit :=
  rejectIf (plainOperationId operationId = false) .invalidOperationId

/-- The deadline after `start` has passed; one past the end of the clock always has. -/
def isStrictlyAfter (elapsedMs startMs durationMs : Nat) : Bool :=
  decide (u64Max < startMs + durationMs) || decide (startMs + durationMs < elapsedMs)

def requireRoleTarget (actualRole expectedRole : Role) (actualTarget expectedTarget : Target) :
    Except CooperationError Unit := do
  rejectIf (actualRole ≠ expectedRole) (.wrongRole expectedRole actualRole)
  rejectIf (actualTarget ≠ expectedTarget) (.wrongTarget expectedTarget actualTarget)

def requireReviveAuthority (role targetRole : Role) : Except CooperationError Unit := do
  rejectIf (role ≠ .anchor) (.wrongRole .anchor role)
  rejectIf (targetRole ≠ .runner) (.wrongReviveTarget targetRole)

def validateDistance (distanceSquared : Int) : Except CooperationError Unit :=
  rejectIf (¬ (0 ≤ distanceSquared ∧ distanceSquared ≤ maxReviveDistanceSquared))
    (.outOfRange distanceSquared)

def admitted (role : Role) (profile : CombatProfile) (health : Nat) : ParticipantState :=
  { role, profile, admittedHealth := health, currentHealth := health, life := .active }

namespace CooperationState

/-- The operation of the anchor's and the runner's profiles, with the health each
enters with. -/
def startWithHealth (operationId : String) (anchor runner : CombatProfile)
    (anchorHealth runnerHealth : Nat) : Except CooperationError CooperationState := do
  validateOperationId operationId
  rejectIf (validProfile anchor = false ∨ validProfile runner = false) .invalidProfile
  rejectIf ((anchorHealth = 0 ∨ anchorHealth > anchor.maxHealth) ∨
    (runnerHealth = 0 ∨ runnerHealth > runner.maxHealth)) .invalidCurrentHealth
  return {
    catalogRevision := Cooperation.catalogRevision, startOperationId := operationId, phase := .awaitingAnchor
    anchor := admitted .anchor anchor anchorHealth, runner := admitted .runner runner runnerHealth
    contributions := .none, ping := none, downedElapsedMs := none, reviveChannel := none
    completedReviveOperationId := none, reviveCount := 0, terminal := none }

def start (operationId : String) (anchor runner : CombatProfile) :
    Except CooperationError CooperationState :=
  startWithHealth operationId anchor runner anchor.maxHealth runner.maxHealth

/-- The timeout that the time since the last contribution or the start has run into. -/
def overdue (state : CooperationState) (elapsedMs : Nat) : Option TerminalOutcome :=
  let stage := match state.phase with
    | .awaitingRunner =>
        if ∃ record ∈ state.ping, isStrictlyAfter elapsedMs record.acceptedElapsedMs pingTtlMs = true
        then some TerminalOutcome.failedPingTimeout else none
    | .runnerDowned | .reviveChannel =>
        if ∃ downedAt ∈ state.downedElapsedMs,
            isStrictlyAfter elapsedMs downedAt reviveWindowMs = true
        then some .failedReviveTimeout else none
    | _ => none
  stage.or (if elapsedMs > operationDurationMs then some .failedOperationTimeout else none)

/-- What `commit_terminal` makes of a state. -/
def committed (state : CooperationState) (outcome : TerminalOutcome) : CooperationState :=
  { state with
    terminal := some outcome
    phase := if outcome = .succeeded then .succeeded else .failed
    reviveChannel := none }

def requirePhase (state : CooperationState) (expected : Phase) : Except CooperationError Unit :=
  rejectIf (state.phase ≠ expected) (.wrongPhase expected state.phase)

def retryAnswer (state : CooperationState) (operationId : String) (anchor runner : CombatProfile)
    (anchorHealth runnerHealth : Nat) : Except CooperationError MutationDisposition := do
  validateOperationId operationId
  rejectIf (operationId ≠ state.startOperationId) .alreadyStarted
  rejectIf (state.anchor.profile ≠ anchor ∨ state.runner.profile ≠ runner ∨
    state.anchor.admittedHealth ≠ anchorHealth ∨ state.runner.admittedHealth ≠ runnerHealth)
    .operationConflict
  return .replayed

/-- What an earlier ping answers to another one. -/
def earlierPing (state : CooperationState) (operationId : String) :
    Except CooperationError (Option MutationDisposition) :=
  match state.ping with
  | some record => do
      rejectIf (record.operationId ≠ operationId) .alreadyPinged
      return some .replayed
  | none => return none

/-- What an earlier revive or an open channel answers to another start. -/
def earlierRevive (state : CooperationState) (operationId : String) :
    Except CooperationError (Option MutationDisposition) :=
  if state.completedReviveOperationId = some operationId then return some .replayed
  else do
    rejectIf (state.reviveCount > 0) .alreadyRevived
    match state.reviveChannel with
    | some record => do
        rejectIf (record.operationId ≠ operationId) .reviveChannelActive
        return some .replayed
    | none => return none

end CooperationState

/-! ## Operations -/

/-- A call on the state of a cooperation. -/
abbrev Operate (Value : Type) : Type := Call CooperationState CooperationError Value

/-- Either the run is over, or a deadline has passed, or nothing happened yet. -/
def observeDeadlines (elapsedMs : Nat) : Operate MutationDisposition := do
  let timeout ← Call.check (fun state =>
    match state.terminal with
    | some outcome => .error (CooperationError.terminal outcome)
    | none => .ok (state.overdue elapsedMs))
  match timeout with
  | some outcome => do
      Call.update (CooperationState.committed · outcome)
      Call.check (fun _ => .error (.deadlineExpired outcome))
  | none => return .pending

def retryStart (operationId : String) (anchor runner : CombatProfile)
    (anchorHealth runnerHealth : Nat) : Operate MutationDisposition :=
  Call.check (fun state => state.retryAnswer operationId anchor runner anchorHealth runnerHealth)

def arriveAnchor (role : Role) (target : Target) (elapsedMs : Nat) :
    Operate MutationDisposition := do
  let _ ← observeDeadlines elapsedMs
  Call.check (fun state => do
    requireRoleTarget role .anchor target .relayAnchor
    state.requirePhase .awaitingAnchor)
  Call.update (fun state => { state with
    contributions := { state.contributions with anchorArrived := true }
    phase := .awaitingPing })
  return .applied

def ping (role : Role) (target : Target) (operationId : String) (elapsedMs : Nat) :
    Operate MutationDisposition := do
  let _ ← observeDeadlines elapsedMs
  let earlier ← Call.check (fun state => do
    requireRoleTarget role .anchor target .relayConsole
    validateOperationId operationId
    state.earlierPing operationId)
  match earlier with
  | some disposition => return disposition
  | none => do
      Call.check (CooperationState.requirePhase · .awaitingPing)
      Call.update (fun state => { state with
        ping := some { operationId, acceptedElapsedMs := elapsedMs }
        contributions := { state.contributions with pinged := true }
        phase := .awaitingRunner })
      return .applied

def arriveRunner (role : Role) (target : Target) (elapsedMs : Nat) :
    Operate MutationDisposition := do
  let _ ← observeDeadlines elapsedMs
  Call.check (fun state => do
    requireRoleTarget role .runner target .relayConsole
    state.requirePhase .awaitingRunner
    rejectIf (state.runner.life ≠ .active ∨ state.runner.currentHealth = 0) .invalidLifeState)
  Call.update (fun state => { state with
    runner := { state.runner with currentHealth := 0, life := .downed }
    contributions := { state.contributions with runnerArrived := true }
    downedElapsedMs := some elapsedMs
    phase := .runnerDowned })
  return .applied

def startRevive (role targetRole : Role) (distanceSquared : Int) (operationId : String)
    (elapsedMs : Nat) : Operate MutationDisposition := do
  let _ ← observeDeadlines elapsedMs
  let earlier ← Call.check (fun state => do
    requireReviveAuthority role targetRole
    validateDistance distanceSquared
    validateOperationId operationId
    state.earlierRevive operationId)
  match earlier with
  | some disposition => return disposition
  | none => do
      Call.check (fun state => do
        state.requirePhase .runnerDowned
        rejectIf (state.anchor.life ≠ .active ∨ state.runner.life ≠ .downed) .invalidLifeState)
      Call.update (fun state => { state with
        reviveChannel := some { operationId, acceptedElapsedMs := elapsedMs }
        phase := .reviveChannel })
      return .applied

/-- What an observation of the open channel finds. -/
inductive ChannelReading where
  | repeated
  | outside
  | running
  | done (operationId : String)
  deriving DecidableEq

def readChannel (state : CooperationState) (role targetRole : Role) (distanceSquared : Int)
    (operationId : String) (elapsedMs : Nat) : Except CooperationError ChannelReading := do
  requireReviveAuthority role targetRole
  validateOperationId operationId
  if state.completedReviveOperationId = some operationId then return .repeated
  else do
    state.requirePhase .reviveChannel
    let record ← require state.reviveChannel (.wrongPhase .reviveChannel state.phase)
    rejectIf (record.operationId ≠ operationId) .operationConflict
    rejectIf (distanceSquared < 0) (.outOfRange distanceSquared)
    if distanceSquared > maxReviveDistanceSquared then return .outside
    else do
      rejectIf (elapsedMs < record.acceptedElapsedMs) .timeReversal
      if elapsedMs - record.acceptedElapsedMs < reviveChannelMs then return .running
      else return .done record.operationId

/-- The runner stands again before the revive is counted. -/
def finishRevive (operationId : String) : Operate MutationDisposition := do
  Call.update (fun state => { state with
    runner := { state.runner with
      currentHealth := min reviveHealth state.runner.profile.maxHealth, life := .active } })
  Call.check (fun state => rejectIf (state.reviveCount + 1 > u8Max) .arithmeticOverflow)
  Call.update (fun state => { state with
    reviveCount := state.reviveCount + 1
    contributions := { state.contributions with revived := true }
    completedReviveOperationId := some operationId
    reviveChannel := none
    phase := .encounterActive })
  return .applied

def observeRevive (role targetRole : Role) (distanceSquared : Int) (operationId : String)
    (elapsedMs : Nat) : Operate MutationDisposition := do
  let _ ← observeDeadlines elapsedMs
  let reading ← Call.check (fun state =>
    readChannel state role targetRole distanceSquared operationId elapsedMs)
  match reading with
  | .repeated => return .replayed
  | .outside => do
      Call.update (fun state => { state with reviveChannel := none, phase := .runnerDowned })
      return .cancelled
  | .running => return .pending
  | .done recorded => finishRevive recorded

/-- The last contribution is recorded before all of them are checked. -/
def completeWarden (elapsedMs : Nat) : Operate MutationDisposition := do
  let finished ← Call.check (fun state => .ok (decide (state.terminal = some .succeeded)))
  if finished = true then return .replayed
  else do
    let _ ← observeDeadlines elapsedMs
    Call.check (CooperationState.requirePhase · .encounterActive)
    Call.update (fun state => { state with
      contributions := { state.contributions with wardenCompleted := true } })
    Call.check (fun state =>
      rejectIf (state.contributions.complete = false) .incompleteContributions)
    Call.update (CooperationState.committed · .succeeded)
    return .applied

/-- A participant loses all health in the encounter. -/
def CooperationState.defeat (state : CooperationState) : Role → CooperationState
  | .anchor => { state with anchor := { state.anchor with currentHealth := 0, life := .defeated } }
  | .runner => { state with runner := { state.runner with currentHealth := 0, life := .defeated } }

def defeatParticipant (role : Role) (elapsedMs : Nat) : Operate MutationDisposition := do
  let _ ← observeDeadlines elapsedMs
  Call.check (CooperationState.requirePhase · .encounterActive)
  Call.update (CooperationState.defeat · role)
  Call.update (CooperationState.committed · .failedParticipantDefeated)
  return .applied

/-- Either participant may leave; the source ignores which one does. -/
def disconnect (_role : Role) (elapsedMs : Nat) : Operate MutationDisposition := do
  let gone ← Call.check (fun state => .ok (decide (state.terminal = some .abandonedDisconnect)))
  if gone = true then return .replayed
  else do
    let _ ← observeDeadlines elapsedMs
    Call.update (CooperationState.committed · .abandonedDisconnect)
    return .applied

inductive Operation where
  | retryStart (operationId : String) (anchor runner : CombatProfile)
      (anchorHealth runnerHealth : Nat)
  | arriveAnchor (role : Role) (target : Target) (elapsedMs : Nat)
  | ping (role : Role) (target : Target) (operationId : String) (elapsedMs : Nat)
  | arriveRunner (role : Role) (target : Target) (elapsedMs : Nat)
  | startRevive (role targetRole : Role) (distanceSquared : Int) (operationId : String)
      (elapsedMs : Nat)
  | observeRevive (role targetRole : Role) (distanceSquared : Int) (operationId : String)
      (elapsedMs : Nat)
  | completeWarden (elapsedMs : Nat)
  | defeatParticipant (role : Role) (elapsedMs : Nat)
  | disconnect (role : Role) (elapsedMs : Nat)
  | observeDeadlines (elapsedMs : Nat)
  deriving DecidableEq

/-- When an operation is observed; a retried start carries no time. -/
def Operation.elapsedMs : Operation → Option Nat
  | retryStart _ _ _ _ _ => none
  | arriveAnchor _ _ elapsedMs | ping _ _ _ elapsedMs | arriveRunner _ _ elapsedMs
  | startRevive _ _ _ _ elapsedMs | observeRevive _ _ _ _ elapsedMs | completeWarden elapsedMs
  | defeatParticipant _ elapsedMs | disconnect _ elapsedMs | observeDeadlines elapsedMs =>
      some elapsedMs

def perform : Operation → Operate MutationDisposition
  | .retryStart operationId anchor runner anchorHealth runnerHealth =>
      retryStart operationId anchor runner anchorHealth runnerHealth
  | .arriveAnchor role target elapsedMs => arriveAnchor role target elapsedMs
  | .ping role target operationId elapsedMs => ping role target operationId elapsedMs
  | .arriveRunner role target elapsedMs => arriveRunner role target elapsedMs
  | .startRevive role targetRole distanceSquared operationId elapsedMs =>
      startRevive role targetRole distanceSquared operationId elapsedMs
  | .observeRevive role targetRole distanceSquared operationId elapsedMs =>
      observeRevive role targetRole distanceSquared operationId elapsedMs
  | .completeWarden elapsedMs => completeWarden elapsedMs
  | .defeatParticipant role elapsedMs => defeatParticipant role elapsedMs
  | .disconnect role elapsedMs => disconnect role elapsedMs
  | .observeDeadlines elapsedMs => observeDeadlines elapsedMs

/-! ## Recorded operations -/

section Recorded

variable {Failure : Type} (fail : CooperationError → Failure)

/-- A recorded operation is performed once more and must not fail; what a
failure means is the reader's. -/
def advanceWith (operation : Operation) (state : CooperationState) :
    Except Failure CooperationState :=
  match perform operation state with
  | (.ok _, next) => .ok next
  | (.error failure, _) => .error (fail failure)

/-- Operations in a row, none of which fails. -/
def advanceAllWith (operations : List Operation) (state : CooperationState) :
    Except Failure CooperationState :=
  operations.foldlM (fun state operation => advanceWith fail operation state) state

variable {fail} {state middle last next : CooperationState}

theorem advanceWith_eq_ok {operation : Operation} :
    advanceWith fail operation state = .ok next ↔
      ∃ disposition, perform operation state = (.ok disposition, next) := by
  unfold advanceWith
  rcases perform operation state with ⟨answer, left⟩
  cases answer with
  | ok disposition => simp
  | error failure => simp

theorem advanceAllWith_append {first second : List Operation}
    (front : advanceAllWith fail first state = .ok middle)
    (back : advanceAllWith fail second middle = .ok last) :
    advanceAllWith fail (first ++ second) state = .ok last := by
  rw [advanceAllWith, List.foldlM_append]
  change (advanceAllWith fail first state >>= fun middle => advanceAllWith fail second middle) =
    .ok last
  rw [front]
  exact back

theorem advanceAllWith_singleton (operation : Operation) (state : CooperationState) :
    advanceAllWith fail [operation] state = advanceWith fail operation state := by
  simp only [advanceAllWith, List.foldlM_cons, List.foldlM_nil, bind_pure]

end Recorded

end Cooperation
end Revenant
