import Revenant.Inventory
import Revenant.Operations.Catalog
import Revenant.Cooperation.Invariant
import Revenant.Replay.CooperationSession

namespace Revenant
namespace Persistence
namespace Cooperative

open Library Replay Cooperation

/-!
# The rows of a cooperation

A cooperation is stored as one row of columns and one row for each participant.
The tables check every row they are given: which columns a phase fills, and
which times may follow which.  A load performs the recorded contributions again
and refuses rows that do not lead to the phase, the lives and the end they name.
-/

def i64Max : Nat := 2 ^ 63 - 1
def i32Max : Nat := 2 ^ 31 - 1

inductive CooperationPersistenceError where
  /-- The database refused a statement. -/
  | database
  | domain (error : CooperationError)
  | replay (error : ReplayError)
  | invalidPersistedState (reason : String)
  deriving DecidableEq

/-- `invalid_state` of the source. -/
def invalidState (reason : String) : CooperationPersistenceError := .invalidPersistedState reason

def liftDomain {Value : Type} (answer : Except CooperationError Value) :
    Except CooperationPersistenceError Value :=
  answer.mapError .domain

def liftReplay {Value : Type} (answer : Except ReplayError Value) :
    Except CooperationPersistenceError Value :=
  answer.mapError .replay

/-! ## Columns -/

/-- Times and counts are `BIGINT` and `INTEGER` columns that the tables keep from
being negative. -/
structure StoredParent where
  activityId : String
  startOperationId : String
  catalogRevision : String
  anchorAccountId : String
  participantCount : Nat
  phase : Phase
  operationDurationMs : Nat
  pingTtlMs : Nat
  reviveWindowMs : Nat
  reviveChannelMs : Nat
  reviveHealth : Nat
  maxReviveDistanceSquared : Int
  rewardItemId : String
  rewardQuantity : Nat
  rewardExperience : Nat
  anchorArrived : Bool
  anchorElapsedMs : Option Nat
  pinged : Bool
  pingOperationId : Option String
  pingTarget : Option Target
  pingElapsedMs : Option Nat
  runnerArrived : Bool
  runnerElapsedMs : Option Nat
  downedElapsedMs : Option Nat
  reviveOperationId : Option String
  reviveTarget : Option Role
  reviveStartedElapsedMs : Option Nat
  revived : Bool
  reviveCompletedElapsedMs : Option Nat
  reviveCount : Nat
  wardenCompleted : Bool
  wardenElapsedMs : Option Nat
  terminalOutcome : Option TerminalOutcome
  terminalElapsedMs : Option Nat
  deriving DecidableEq

structure StoredParticipant where
  role : Role
  accountId : String
  characterId : String
  actorId : Nat
  weaponItemId : String
  moduleLoadout : List ModuleId
  profile : CombatProfile
  admittedHealth : Nat
  currentHealth : Nat
  life : LifeState
  deriving DecidableEq

/-- The rows of one session: `participant_index` 0 is the anchor's, 1 the runner's. -/
structure OperationRows where
  parent : StoredParent
  anchor : StoredParticipant
  runner : StoredParticipant
  deriving DecidableEq

def OperationRows.participant (rows : OperationRows) : Role → StoredParticipant
  | .anchor => rows.anchor
  | .runner => rows.runner

/-- Loaded rows with the state they lead to. -/
structure StoredOperation where
  sessionId : String
  rows : OperationRows
  state : CooperationState
  deriving DecidableEq

/-! ## What the tables check

A comparison with a column that is NULL is unknown, and a check that is unknown
passes. -/

/-- `earlier <= later + allowance`. -/
def upTo (allowance : Nat) (earlier later : Option Nat) : Prop :=
  ∀ first ∈ earlier, ∀ second ∈ later, first ≤ second + allowance

/-- `earlier + distance <= later`. -/
def apart (distance : Nat) (earlier later : Option Nat) : Prop :=
  ∀ first ∈ earlier, ∀ second ∈ later, first + distance ≤ second

instance (allowance : Nat) (earlier later : Option Nat) : Decidable (upTo allowance earlier later) :=
  inferInstanceAs (Decidable (∀ first ∈ earlier, ∀ second ∈ later, first ≤ second + allowance))

instance (distance : Nat) (earlier later : Option Nat) : Decidable (apart distance earlier later) :=
  inferInstanceAs (Decidable (∀ first ∈ earlier, ∀ second ∈ later, first + distance ≤ second))

namespace StoredParent

/-- The columns every start fills with the same values. -/
def ConstantColumns (parent : StoredParent) : Prop :=
  parent.activityId = cooperationActivityId ∧
  plainOperationId parent.startOperationId = true ∧
  parent.catalogRevision = Cooperation.catalogRevision ∧
  parent.participantCount = 2 ∧
  parent.operationDurationMs = 60000 ∧ parent.pingTtlMs = 5000 ∧
  parent.reviveWindowMs = 15000 ∧ parent.reviveChannelMs = 2000 ∧ parent.reviveHealth = 50 ∧
  parent.maxReviveDistanceSquared = 4 ∧ parent.rewardItemId = relayCoreFragment ∧
  parent.rewardQuantity = 2 ∧ parent.rewardExperience = 125

/-- Columns that belong together are filled together. -/
def PairedColumns (parent : StoredParent) : Prop :=
  parent.anchorArrived = parent.anchorElapsedMs.isSome ∧
  parent.pinged = parent.pingOperationId.isSome ∧
  parent.pinged = parent.pingTarget.isSome ∧
  parent.pinged = parent.pingElapsedMs.isSome ∧
  parent.runnerArrived = parent.runnerElapsedMs.isSome ∧
  parent.runnerArrived = parent.downedElapsedMs.isSome ∧
  parent.reviveOperationId.isSome = parent.reviveTarget.isSome ∧
  parent.reviveOperationId.isSome = parent.reviveStartedElapsedMs.isSome ∧
  parent.revived = parent.reviveCompletedElapsedMs.isSome ∧
  parent.revived = decide (parent.reviveCount = 1) ∧ parent.reviveCount ≤ 1 ∧
  parent.wardenCompleted = parent.wardenElapsedMs.isSome ∧
  parent.terminalOutcome.isSome = parent.terminalElapsedMs.isSome ∧
  (∀ operationId ∈ parent.pingOperationId, plainOperationId operationId = true) ∧
  (∀ target ∈ parent.pingTarget, target = .relayConsole) ∧
  (∀ operationId ∈ parent.reviveOperationId, plainOperationId operationId = true) ∧
  (∀ target ∈ parent.reviveTarget, target = .runner)

/-- Anchor, ping, runner, open channel and revive, as each phase that is no end
must record them. -/
def recorded : Phase → Option (Bool × Bool × Bool × Bool × Bool)
  | .awaitingAnchor => some (false, false, false, false, false)
  | .awaitingPing => some (true, false, false, false, false)
  | .awaitingRunner => some (true, true, false, false, false)
  | .runnerDowned => some (true, true, true, false, false)
  | .reviveChannel => some (true, true, true, true, false)
  | .encounterActive => some (true, true, true, true, true)
  | .succeeded | .failed => none

def PhaseColumns (parent : StoredParent) : Prop :=
  recorded parent.phase = some (parent.anchorArrived, parent.pinged, parent.runnerArrived,
    parent.reviveOperationId.isSome, parent.revived) ∧
  (parent.phase = .encounterActive ∨ parent.wardenCompleted = false)

def TimeColumns (parent : StoredParent) : Prop :=
  (parent.pinged = true → upTo 0 parent.anchorElapsedMs parent.pingElapsedMs) ∧
  (parent.runnerArrived = true →
    upTo 0 parent.pingElapsedMs parent.runnerElapsedMs ∧
    upTo parent.pingTtlMs parent.runnerElapsedMs parent.pingElapsedMs ∧
    parent.downedElapsedMs = parent.runnerElapsedMs) ∧
  (parent.reviveOperationId.isSome = true →
    upTo 0 parent.downedElapsedMs parent.reviveStartedElapsedMs ∧
    upTo parent.reviveWindowMs parent.reviveStartedElapsedMs parent.downedElapsedMs) ∧
  (parent.revived = true →
    apart parent.reviveChannelMs parent.reviveStartedElapsedMs parent.reviveCompletedElapsedMs ∧
    upTo parent.reviveWindowMs parent.reviveCompletedElapsedMs parent.downedElapsedMs) ∧
  (parent.wardenCompleted = true → parent.revived = true ∧
    upTo 0 parent.reviveCompletedElapsedMs parent.wardenElapsedMs ∧
    upTo 0 parent.wardenElapsedMs (some parent.operationDurationMs))

/-- The stage the end came in kept its own deadline. -/
def InStage (parent : StoredParent) : Prop :=
  (parent.phase = .awaitingRunner →
    upTo parent.pingTtlMs parent.terminalElapsedMs parent.pingElapsedMs) ∧
  ((parent.phase = .runnerDowned ∨ parent.phase = .reviveChannel) →
    upTo parent.reviveWindowMs parent.terminalElapsedMs parent.downedElapsedMs)

instance (parent : StoredParent) : Decidable parent.InStage :=
  inferInstanceAs (Decidable (_ ∧ _))

def TerminalColumns (parent : StoredParent) : Prop :=
  (parent.terminalOutcome = some .succeeded → parent.phase = .encounterActive ∧
    parent.wardenCompleted = true ∧ parent.terminalElapsedMs = parent.wardenElapsedMs) ∧
  (parent.terminalOutcome = some .failedPingTimeout → parent.phase = .awaitingRunner ∧
    apart (parent.pingTtlMs + 1) parent.pingElapsedMs parent.terminalElapsedMs) ∧
  (parent.terminalOutcome = some .failedReviveTimeout →
    (parent.phase = .runnerDowned ∨ parent.phase = .reviveChannel) ∧
    apart (parent.reviveWindowMs + 1) parent.downedElapsedMs parent.terminalElapsedMs) ∧
  (parent.terminalOutcome = some .failedOperationTimeout →
    apart 1 (some parent.operationDurationMs) parent.terminalElapsedMs) ∧
  (parent.terminalOutcome = some .failedParticipantDefeated → parent.phase = .encounterActive ∧
    upTo 0 parent.terminalElapsedMs (some parent.operationDurationMs)) ∧
  (parent.terminalOutcome = some .abandonedDisconnect →
    upTo 0 parent.terminalElapsedMs (some parent.operationDurationMs) ∧ parent.InStage)

/-- The contributions before an end, in their columns. -/
def times (parent : StoredParent) : List (Option Nat) :=
  [parent.anchorElapsedMs, parent.pingElapsedMs, parent.runnerElapsedMs,
    parent.reviveStartedElapsedMs, parent.reviveCompletedElapsedMs]

/-- `cooperation_operations_temporal_contract`. -/
def TemporalContract (parent : StoredParent) : Prop :=
  (∀ time ∈ parent.times, upTo 0 time (some parent.operationDurationMs)) ∧
  parent.wardenCompleted = decide (parent.terminalOutcome = some .succeeded) ∧
  (∀ time ∈ parent.times, upTo 0 time parent.terminalElapsedMs) ∧
  (parent.terminalOutcome = some .failedOperationTimeout → parent.InStage)

def Checks (parent : StoredParent) : Prop :=
  parent.ConstantColumns ∧ parent.PairedColumns ∧ parent.PhaseColumns ∧ parent.TimeColumns ∧
    parent.TerminalColumns ∧ parent.TemporalContract

instance (parent : StoredParent) : Decidable parent.ConstantColumns :=
  inferInstanceAs (Decidable (_ ∧ _))

instance (parent : StoredParent) : Decidable parent.PairedColumns :=
  inferInstanceAs (Decidable (_ ∧ _))

instance (parent : StoredParent) : Decidable parent.PhaseColumns :=
  inferInstanceAs (Decidable (_ ∧ _))

instance (parent : StoredParent) : Decidable parent.TimeColumns :=
  inferInstanceAs (Decidable (_ ∧ _))

instance (parent : StoredParent) : Decidable parent.TerminalColumns :=
  inferInstanceAs (Decidable (_ ∧ _))

instance (parent : StoredParent) : Decidable parent.TemporalContract :=
  inferInstanceAs (Decidable (_ ∧ _))

instance (parent : StoredParent) : Decidable parent.Checks :=
  inferInstanceAs (Decidable (_ ∧ _))

end StoredParent

namespace StoredParticipant

/-- The table knows two of the five weapons. -/
def Checks (participant : StoredParticipant) : Prop :=
  (participant.weaponItemId = "pulse_rifle" ∨ participant.weaponItemId = "arc_sidearm") ∧
  participant.moduleLoadout.length ≤ 3 ∧
  between 18 participant.profile.damage 52 ∧ between 4 participant.profile.range 10 ∧
  between 120 participant.profile.cooldownMs 350 ∧ between 100 participant.profile.maxHealth 130 ∧
  0 < participant.admittedHealth ∧ participant.admittedHealth ≤ participant.profile.maxHealth ∧
  participant.currentHealth ≤ participant.profile.maxHealth ∧
  (participant.life = .active ↔ 0 < participant.currentHealth)

instance (participant : StoredParticipant) : Decidable participant.Checks :=
  inferInstanceAs (Decidable (_ ∧ _))

end StoredParticipant

/-! ## Loading -/

/-- One more operation of the cooperation, which must not fail. -/
def advance (operation : Operation) (state : CooperationState) :
    Except CooperationPersistenceError CooperationState :=
  advanceWith .domain operation state

def validateParentConstants (parent : StoredParent) : Except CooperationPersistenceError Unit :=
  rejectIf (parent.activityId ≠ cooperationActivityId ∨
      parent.catalogRevision ≠ Cooperation.catalogRevision ∨ parent.participantCount ≠ 2 ∨
      parent.operationDurationMs ≠ operationDurationMs ∨ parent.pingTtlMs ≠ pingTtlMs ∨
      parent.reviveWindowMs ≠ reviveWindowMs ∨ parent.reviveChannelMs ≠ reviveChannelMs ∨
      parent.reviveHealth ≠ reviveHealth ∨
      parent.maxReviveDistanceSquared ≠ maxReviveDistanceSquared ∨
      parent.rewardItemId ≠ relayCoreFragment ∨ parent.rewardQuantity ≠ successReward.fragments ∨
      parent.rewardExperience ≠ successReward.experience ∨ parent.anchorAccountId = "")
    (invalidState "stored cooperation constants are invalid")

/-- What a weapon and a loadout resolve to under the first catalog. -/
def resolvedProfile (unknown : String) (weaponItemId : String) (modules : List ModuleId) :
    Except CooperationPersistenceError CombatProfile := do
  let weapon ← require (weaponProfile weaponItemId) (invalidState unknown)
  (resolveBuild .m26v1
    { damage := weapon.damage, range := weapon.range, cooldownMs := weapon.cooldownMs
      maxHealth := 100 } modules).mapError (fun failure => invalidState failure.text)

/-- A stored participant in its role's place, whose character the account still owns. -/
def validateStoredParticipant (owners : String → Option String) (parent : StoredParent)
    (participant : StoredParticipant) (expectedRole : Role) :
    Except CooperationPersistenceError CombatProfile := do
  rejectIf (participant.role ≠ expectedRole ∨
      (expectedRole = .anchor ∧ participant.accountId ≠ parent.anchorAccountId))
    (invalidState "stored participant identity/order is invalid")
  let owner ← require (owners participant.characterId)
    (invalidState "stored cooperation character was not found")
  rejectIf (owner ≠ participant.accountId)
    (invalidState "stored cooperation character ownership is invalid")
  let resolved ← resolvedProfile "stored cooperation weapon is invalid" participant.weaponItemId
    participant.moduleLoadout
  rejectIf (participant.profile ≠ resolved)
    (invalidState "stored profile differs from canonical weapon/module resolution")
  return participant.profile

/-- The contributions the columns record, as the operations that made them. -/
def storedContributions (parent : StoredParent) : List Operation :=
  (parent.anchorElapsedMs.map (Operation.arriveAnchor .anchor .relayAnchor)).toList ++
  (match parent.pingOperationId, parent.pingElapsedMs with
    | some operationId, some elapsedMs => [.ping .anchor .relayConsole operationId elapsedMs]
    | _, _ => []) ++
  (parent.runnerElapsedMs.map (Operation.arriveRunner .runner .relayConsole)).toList ++
  match parent.reviveOperationId, parent.reviveStartedElapsedMs with
  | some operationId, some started =>
      .startRevive .anchor .runner maxReviveDistanceSquared operationId started ::
        (parent.reviveCompletedElapsedMs.map
          (Operation.observeRevive .anchor .runner maxReviveDistanceSquared operationId)).toList
  | _, _ => []

/-- The end the columns record, reached from the last contribution. -/
def replayTerminal (rows : OperationRows) (outcome : TerminalOutcome) (elapsedMs : Nat)
    (state : CooperationState) : Except CooperationPersistenceError CooperationState :=
  match outcome with
  | .succeeded => advance (.completeWarden elapsedMs) state
  | .failedPingTimeout | .failedReviveTimeout | .failedOperationTimeout => do
      rejectIf ((perform (.observeDeadlines elapsedMs) state).1 ≠
          .error (.deadlineExpired outcome))
        (invalidState "stored timeout does not match pure deadline")
      return (perform (.observeDeadlines elapsedMs) state).2
  | .failedParticipantDefeated =>
      match [rows.anchor, rows.runner].filter (·.life = .defeated) with
      | [defeated] => advance (.defeatParticipant defeated.role elapsedMs) state
      | _ => .error (invalidState "participant defeat cardinality is invalid")
  | .abandonedDisconnect => advance (.disconnect .anchor elapsedMs) state

def replayStoredTerminal (rows : OperationRows) (state : CooperationState) :
    Except CooperationPersistenceError CooperationState :=
  match rows.parent.terminalOutcome, rows.parent.terminalElapsedMs with
  | some outcome, some elapsedMs => replayTerminal rows outcome elapsedMs state
  | none, none => .ok state
  | _, _ => .error (invalidState "stored terminal evidence is partial")

def validateStateParity (rows : OperationRows) (state : CooperationState) :
    Except CooperationPersistenceError Unit := do
  let parent := rows.parent
  rejectIf (state.contributions ≠ { anchorArrived := parent.anchorArrived, pinged := parent.pinged
                                    runnerArrived := parent.runnerArrived
                                    revived := parent.revived
                                    wardenCompleted := parent.wardenCompleted } ∨
      state.reviveCount ≠ parent.reviveCount)
    (invalidState "stored contribution evidence differs from domain")
  rejectIf (rows.anchor.currentHealth ≠ state.anchor.currentHealth ∨
      rows.anchor.life ≠ state.anchor.life ∨
      rows.runner.currentHealth ≠ state.runner.currentHealth ∨
      rows.runner.life ≠ state.runner.life)
    (invalidState "stored participant life differs from domain")
  rejectIf (parent.pingTarget ≠ (if parent.pinged = true then some .relayConsole else none) ∨
      parent.reviveTarget ≠ parent.reviveOperationId.map (fun _ => Role.runner) ∨
      parent.runnerElapsedMs ≠ parent.downedElapsedMs ∨
      parent.wardenElapsedMs.isSome ≠ parent.wardenCompleted)
    (invalidState "stored target/downing evidence is invalid")

/-- The state the rows lead to. -/
def reconstructState (owners : String → Option String) (rows : OperationRows) :
    Except CooperationPersistenceError CooperationState := do
  validateParentConstants rows.parent
  let anchor ← validateStoredParticipant owners rows.parent rows.anchor .anchor
  let runner ← validateStoredParticipant owners rows.parent rows.runner .runner
  let admitted ← liftDomain (CooperationState.startWithHealth rows.parent.startOperationId anchor
    runner rows.anchor.admittedHealth rows.runner.admittedHealth)
  let reached ← advanceAllWith .domain (storedContributions rows.parent) admitted
  rejectIf (reached.phase ≠ rows.parent.phase)
    (invalidState "stored phase differs from reconstructed phase")
  let state ← replayStoredTerminal rows reached
  validateStateParity rows state
  return state

end Cooperative
end Persistence
end Revenant
