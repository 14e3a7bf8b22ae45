import Mathlib.Algebra.Group.Nat.Defs
import Revenant.Ai.Support
import Revenant.Replay.ChallengeProofs
import Revenant.Replay.Session

namespace Revenant
namespace Replay

open Library Challenges

/-!
# The authority of a challenge session

One session holds one attempt.  The reader binds its first checkpoint to the
admitted equipment, follows the save from checkpoint to checkpoint, and demands
for every transition the row that proves it, between the checkpoint before and
the transition itself.
-/

structure ReconstructedChallenge where
  characterId : String
  state : ChallengeState
  checkpoints : Nat
  deriving DecidableEq

/-- The check each contract with a stream of its own makes of the whole stream,
one module of the source each.  They only read the rows and the final run and
answer with a refusal or nothing, so the authority is stated for any seven of
them and no result assumes anything of one. -/
structure StreamChecks where
  route : List ReplayEvent → ChallengeRun → Except ReplayError Unit
  gauntlet : List ReplayEvent → ChallengeRun → Except ReplayError Unit
  survival : List ReplayEvent → ChallengeRun → Except ReplayError Unit
  signal : List ReplayEvent → ChallengeRun → Except ReplayError Unit
  prism : List ReplayEvent → ChallengeRun → Except ReplayError Unit
  recovery : List ReplayEvent → ChallengeRun → Except ReplayError Unit
  elite : List ReplayEvent → ChallengeRun → Except ReplayError Unit

/-! ## Admission -/

def admissionKind : ReplayEventKind → Bool
  | .playerJoined | .moduleStateSnapshot | .activityStarted => true
  | _ => false

def sameSessionOwner (left right : ReplayEvent) : Prop :=
  left.sessionId = right.sessionId ∧ left.accountId = right.accountId ∧
    left.activityId = right.activityId

instance (left right : ReplayEvent) : Decidable (sameSessionOwner left right) :=
  inferInstanceAs (Decidable (_ ∧ _))

/-- Rows of a contract's own stream, of a healer or of a pair. -/
def Payload.contractStream (payload : Payload) : Bool :=
  payload.circuit?.isSome || payload.gauntlet?.isSome || payload.survival?.isSome ||
    payload.signal?.isSome || payload.support?.isSome || payload.elite?.isSome

def worldKind (event : ReplayEvent) : Bool :=
  decide (event.kind ∈ [.challengeCheckpoint, .challengeObjective]) ||
    (decide (event.kind ∈ [.enemySpawned, .bossSpawned, .enemyDied, .fieldActivity]) &&
      event.payload.contractStream) ||
    (decide (event.kind = .fieldActivity) && event.payload.recovery?.isSome) ||
    (decide (event.kind ∈ [.bossSpawned, .enemyDied, .fieldActivity]) &&
      event.payload.prism?.isSome)

/-- The equipment a command starts an attempt with. -/
def startEquipment : Command → Option Equipment
  | .start _ equipment => some equipment
  | .startModified _ _ equipment => some equipment
  | .retry _ equipment => some equipment
  | _ => none

/-- The only entry of a list of one. -/
def sole {Row : Type} : List Row → Option Row
  | [row] => some row
  | _ => none

theorem sole_eq_some {Row : Type} {rows : List Row} {row : Row} :
    sole rows = some row ↔ rows = [row] := by
  constructor
  · intro found
    unfold sole at found
    split at found
    · cases found
      rfl
    · cases found
  · rintro rfl
    rfl

/-- The admission names the equipment its only snapshot recorded. -/
def validateChallengeAdmission (before : List ReplayEvent) (event : ReplayEvent)
    (payload : ChallengeReplayPayload) : Except ReplayError Unit := do
  let equipment ← require (startEquipment payload.command)
    (invalidModule "challenge session must start a fresh attempt")
  let run ← require payload.after.active
    (invalidModule "challenge admission lacks its attempt")
  let fresh := invalidModule "challenge requires one fresh solo V2 admission"
  rejectIf ((event.actorId = none ∨ event.actorId = some 0) ∨ event.accountId = "" ∨
      event.sessionId = "" ∨ event.activityId ≠ some run.rules.contract.activityId) fresh
  let snapshot ← require (sole (before.filter (fun old => old.kind = .moduleStateSnapshot))) fresh
  rejectIf ((before.filter (fun old => old.kind = .playerJoined)).length ≠ 1 ∨
      ∃ old ∈ before, admissionKind old.kind = false ∨ ¬ sameSessionOwner event old ∨
        old.actorId ≠ event.actorId) fresh
  let module ← decodeModule ModuleReplayPayload.stateSnapshot? snapshot.payload
  module.validate
  rejectIf (payload.proofEventId ≠ some snapshot.id ∨ module.characterId ≠ payload.characterId ∨
      module.protocolGeneration ≠ .v2 ∨
      equipment.catalogRevision ≠ module.state.catalogRevision ∨
      equipment.loadoutRevision ≠ module.state.loadoutRevision ∨
      equipment.modules ≠ module.state.appliedLoadout ∨
      ¬ ∃ weapon ∈ module.state.weapons, weapon.itemId = equipment.weaponId)
    (invalidModule "challenge equipment differs from admitted modules")

/-! ## Proofs of a transition -/

/-- The position of a visit under the policy it was recorded for. -/
def visitProofForPolicy (policy character : String) (state : ChallengeState) (command : Command)
    (position : Position) : Except ReplayError ChallengeVisitProof := do
  rejectIf (∃ run ∈ state.active, run.rules.contract = .coolantRecovery)
    (invalidModule "recovery requires continuous-hold evidence")
  match applyNamed policy state state.revision command with
  | .error failure => .error (invalidModule failure.text)
  | .ok _ =>
      match command with
      | .confirm runId objective => do
          rejectIf (character = "" ∨ character.utf8ByteSize > 256 ∨
              state.active.bind (fun run => run.rules.objectivePosition objective) ≠ some position)
            (invalidModule "challenge visit differs from the actual station")
          return { policyRevision := policy, characterId := character
                   stateRevision := state.revision, runId, objective, position }
      | _ => .error (invalidModule "challenge visit requires a confirm command")

def verifySpecialTerminal (before : List ReplayEvent) (proof : ReplayEvent)
    (entry : ChallengeReplayPayload) (player : Option Nat) : Option (Except ReplayError Unit) := do
  let run ← entry.before.active
  match run.rules.contract with
  | .meridianCircuit =>
      if run.rules.preset = .baseline then none
      else some (verifyRouteTerminal before proof entry.command run)
  | .relayGauntlet => some (verifyGauntletTerminal before proof entry.command)
  | .lastReserve => some (verifySurvivalTerminal before proof entry.command player)
  | .distantSignal => some (verifySignalTerminal before proof entry.command player)
  | .prismDiscipline => some (verifyPrismTerminal before proof entry.command player)
  | .bastionLink => some (verifyEliteTerminal before proof entry.command player)
  | _ => none

/-- The Lancer and the mender of a support spawn. -/
def SupportEvidence.pair? (evidence : SupportEvidence) : Option (Nat × Nat) :=
  match evidence.transition with
  | .started lancerId menderId _ => some (lancerId, menderId)
  | _ => none

def SupportEvidence.fatalShot (evidence : SupportEvidence) (target : Nat) : Bool :=
  match evidence.transition with
  | .attack targetId _ _ _ healthAfter => targetId == target && healthAfter == 0
  | _ => false

def SupportEvidence.fatalCharge (evidence : SupportEvidence) : Bool :=
  match evidence.transition with
  | .charged _ _ _ damage healthAfter => decide (1 ≤ damage) && healthAfter == 0
  | _ => false

def verifyCombat (before : List ReplayEvent) (proof : ReplayEvent) (objective : Objective) :
    Except ReplayError Unit := do
  let spawn ← require (before.find? (fun event => event.kind = .enemySpawned))
    (invalidModule "challenge combat lacks its spawn")
  let started ← supportCodec.decode spawn.payload
  let (lancerId, menderId) ← require started.pair?
    (invalidModule "challenge spawn has the wrong evidence")
  let target ← require (match objective with
    | .lancerCleared => some lancerId
    | .menderCleared => some menderId
    | _ => none) (invalidModule "challenge combat objective is invalid")
  let fatal := invalidModule "challenge clear lacks the correct fatal attack"
  rejectIf (proof.kind ≠ .enemyDied ∨ proof.actorId ≠ some target) fatal
  let evidence ← supportCodec.decode proof.payload
  rejectIf (evidence.fatalShot target = false) fatal

/-- A hold of the recovery circuit ends in the row right before its checkpoint. -/
def verifyHold (before : List ReplayEvent) (proof event : ReplayEvent) (runId : Nat)
    (objective : Objective) : Except ReplayError Unit := do
  let evidence ← recoveryCodec.decode proof.payload
  rejectIf (proof.kind ≠ .fieldActivity ∨ proof.actorId ≠ event.actorId ∨
      before.getLast? ≠ some proof ∨ evidence.runId ≠ runId ∨
      evidence.objective ≠ some objective)
    (invalidModule "recovery checkpoint lacks its atomic server step")

def verifyVisit (before : List ReplayEvent) (proof event : ReplayEvent)
    (entry : ChallengeReplayPayload) : Except ReplayError Unit := do
  rejectIf (proof.kind ≠ .challengeObjective ∨ proof.actorId ≠ event.actorId ∨
      (∃ encoded ∈ proof.payload.visit?, encoded.length > 2048) ∨
      before.getLast? ≠ some proof)
    (invalidModule "challenge visit is not an atomic actor proof")
  let encoded ← require proof.payload.visit? (invalidModule "invalid challenge visit JSON")
  let actual ← require encoded.value (invalidModule "invalid challenge visit JSON")
  let expected ← visitProofForPolicy entry.policyRevision entry.characterId entry.before
    entry.command actual.position
  rejectIf (actual ≠ expected) (invalidModule "challenge visit belongs to another attempt")

def verifyDefeat (proof event : ReplayEvent) : Except ReplayError Unit := do
  let evidence ← supportCodec.decode proof.payload
  rejectIf (proof.kind ≠ .fieldActivity ∨ proof.actorId ≠ event.actorId ∨
      evidence.fatalCharge = false)
    (invalidModule "challenge defeat lacks a fatal hit")

/-- The run before a checkpoint belongs to the recovery circuit. -/
def recovering (entry : ChallengeReplayPayload) : Bool :=
  entry.before.active.any (fun run => run.rules.contract = .coolantRecovery)

/-- How the contracts without a terminal of their own read a proof. -/
def verifyPlain (before : List ReplayEvent) (proof event : ReplayEvent)
    (entry : ChallengeReplayPayload) : Except ReplayError Unit :=
  match entry.command with
  | .confirm runId objective =>
      if recovering entry = true then verifyHold before proof event runId objective
      else if objective.position.isSome then verifyVisit before proof event entry
      else verifyCombat before proof objective
  | .endRun _ .defeated => verifyDefeat proof event
  | _ => .error (invalidModule "unsupported challenge proof command")

/-- The row an entry refers to, when it is newer than the last checkpoint. -/
def proofWithin (before : List ReplayEvent) (boundary event : ReplayEvent)
    (entry : ChallengeReplayPayload) : Option ReplayEvent :=
  (before.find? (fun old => some old.id = entry.proofEventId)).filter
    (fun proof => decide (proof.id > boundary.id) && decide (sameSessionOwner event proof))

/-- The run was given up, by the player or by the connection. -/
def withdrawn : Command → Bool
  | .endRun _ .abandoned | .endRun _ .interrupted => true
  | _ => false

def verifyTransition (before : List ReplayEvent) (boundary event : ReplayEvent)
    (entry : ChallengeReplayPayload) : Except ReplayError Unit := do
  rejectIf (startEquipment entry.command).isSome
    (invalidModule "challenge retry requires a fresh session")
  if withdrawn entry.command = true then return ()
  let proof ← require (proofWithin before boundary event entry)
    (invalidModule "challenge proof is outside the current attempt boundary")
  match verifySpecialTerminal before proof entry event.actorId with
  | some answer => answer
  | none => verifyPlain before proof event entry

/-! ## The whole encounter -/

structure CombatReading where
  lancerId : Option Nat
  lancerPosition : Position
  readyAt : Nat
  deriving DecidableEq

def i64Max : Nat := 2 ^ 63 - 1

/-- One support row against the admitted weapon and build. -/
def readCombatRow (weapon : WeaponProfile) (profile : CombatProfile) (entryHealth : Option Nat)
    (reading : CombatReading) (event : ReplayEvent) : Except ReplayError CombatReading := do
  let invalid := invalidModule "challenge combat differs from admitted equipment"
  if event.payload.support?.isNone then return reading
  let evidence ← supportCodec.decode event.payload
  match evidence.transition with
  | .started lancerId _ playerHealth => do
      rejectIf (playerHealth ≠ entryHealth.getD profile.maxHealth) invalid
      return { reading with lancerId := some lancerId }
  | .charged _ _ target _ _ => return { reading with lancerPosition := target }
  | .attack targetId playerPosition damage _ _ => do
      let target := if some targetId = reading.lancerId then reading.lancerPosition
        else Ai.Support.spawn
      let distance := playerPosition.squaredDistance target
      rejectIf (distance > i64Max) invalid
      rejectIf (distance > profile.range ^ 2 ∨
          positionedDamage weapon.itemId profile.damage distance ≠ some damage ∨
          evidence.elapsedMs < reading.readyAt) invalid
      return { reading with readyAt := saturatingAdd evidence.elapsedMs profile.cooldownMs }
  | _ => return reading

def validateCombatEntry (events : List ReplayEvent) (equipment : Equipment)
    (entryHealth : Option Nat) : Except ReplayError Unit := do
  let invalid := invalidModule "challenge combat differs from admitted equipment"
  let weapon ← require (weaponProfile equipment.weaponId) invalid
  let build ← require (resolveNamed equipment.catalogRevision
    { damage := weapon.damage, range := weapon.range, cooldownMs := weapon.cooldownMs
      maxHealth := 100 } equipment.modules).toOption invalid
  let _ ← events.foldlM (readCombatRow weapon build.profile entryHealth)
    { lancerId := none, lancerPosition := Ai.Lancer.spawn, readyAt := 0 }
  return ()

/-- The contracts without a stream of their own. -/
def validatePlainEncounter (events : List ReplayEvent) (run : ChallengeRun) :
    Except ReplayError Unit := do
  rejectIf (∃ event ∈ events, event.payload.circuit?.isSome ∨ event.payload.elite?.isSome ∨
      event.payload.signal?.isSome ∨ event.payload.survival?.isSome ∨
      event.payload.gauntlet?.isSome ∨ event.payload.prism?.isSome)
    (invalidModule "elite evidence belongs to another contract")
  rejectIf (∃ event ∈ events, event.payload.recovery?.isSome)
    (invalidModule "recovery evidence belongs to another contract")
  if run.rules.contract = .meridianCircuit then
    rejectIf (∃ event ∈ events, event.kind ∉ [.challengeCheckpoint, .challengeObjective])
      (invalidModule "exploration challenge contains combat")
  else do
    rejectIf (∃ event ∈ events, event.kind = .challengeObjective)
      (invalidModule "combat challenge contains exploration")
    validateCombatEntry events run.equipment none

def validateChallengeEncounter (checks : StreamChecks) (events : List ReplayEvent)
    (result : ReconstructedChallenge) : Except ReplayError Unit := do
  let run ← require
    (result.state.active.orElse (fun _ => result.state.lastResult.map (·.run)))
    (invalidModule "challenge encounter lacks a run")
  match run.rules.contract with
  | .meridianCircuit =>
      if run.rules.preset = .baseline then validatePlainEncounter events run
      else checks.route events run
  | .relayGauntlet => checks.gauntlet events run
  | .lastReserve => checks.survival events run
  | .distantSignal => checks.signal events run
  | .prismDiscipline => checks.prism events run
  | .coolantRecovery => checks.recovery events run
  | .bastionLink => checks.elite events run
  | .closeQuarters => validatePlainEncounter events run

/-! ## The fold -/

/-- What the reader keeps between two rows of an attempt. -/
structure AttemptReading where
  result : ReconstructedChallenge
  operations : List String
  boundary : ReplayEvent
  deriving DecidableEq

/-- A visit is followed at once by the checkpoint that uses it. -/
def validateVisitPairing (event : ReplayEvent) (next : Option ReplayEvent) :
    Except ReplayError Unit :=
  if event.kind = .challengeObjective then do
    let next ← require (next.filter (fun next => next.kind = .challengeCheckpoint))
      (invalidModule "challenge visit lacks its atomic checkpoint")
    let payload ← decodeChallengePayload next.payload
    rejectIf (payload.proofEventId ≠ some event.id)
      (invalidModule "challenge visit is not consumed by its checkpoint")
  else .ok ()

def applyCheckpoint (admission : ReplayEvent) (before : List ReplayEvent)
    (reading : AttemptReading) (event : ReplayEvent) : Except ReplayError AttemptReading := do
  let entry ← decodeChallengePayload event.payload
  rejectIf (entry.characterId ≠ reading.result.characterId ∨ entry.before ≠ reading.result.state ∨
      entry.operationId ∈ reading.operations ∨ event.actorId ≠ admission.actorId)
    (invalidModule "challenge session branches or changes participant")
  verifyTransition before reading.boundary event entry
  return {
    result := { reading.result with
      state := entry.after, checkpoints := reading.result.checkpoints + 1 }
    operations := entry.operationId :: reading.operations, boundary := event }

def applyAttemptRow (admission : ReplayEvent) (before : List ReplayEvent)
    (reading : AttemptReading) (event : ReplayEvent) (next : Option ReplayEvent) :
    Except ReplayError AttemptReading := do
  rejectIf (¬ sameSessionOwner admission event ∨ worldKind event = false)
    (invalidModule "challenge session contains foreign or unrelated events")
  rejectIf reading.result.state.active.isNone
    (invalidModule "challenge session continued after its terminal")
  validateVisitPairing event next
  if event.kind = .challengeCheckpoint then applyCheckpoint admission before reading event
  else return reading

/-- The rows behind an admission, with those read before them. -/
def readAttempt (admission : ReplayEvent) (before : List ReplayEvent) (reading : AttemptReading) :
    List ReplayEvent → Except ReplayError AttemptReading
  | [] => .ok reading
  | event :: rest => do
      let next ← applyAttemptRow admission before reading event rest.head?
      readAttempt admission (before ++ [event]) next rest

/-- Any row that only a challenge session contains. -/
def challengeRow (event : ReplayEvent) : Bool :=
  decide (event.kind ∈ [.challengeCheckpoint, .challengeObjective]) ||
    event.payload.recovery?.isSome || event.payload.signal?.isSome ||
    event.payload.survival?.isSome || event.payload.gauntlet?.isSome ||
    event.payload.circuit?.isSome ||
    ContractId.all.any (fun contract => event.activityId = some contract.activityId)

/-- The rows in front of the first checkpoint, that checkpoint, and those behind it. -/
def splitAdmission : List ReplayEvent →
    Option (List ReplayEvent × ReplayEvent × List ReplayEvent)
  | [] => none
  | event :: rest =>
      if event.kind = .challengeCheckpoint then some ([], event, rest)
      else (splitAdmission rest).map (fun (before, admission, after) =>
        (event :: before, admission, after))

def reconstructChallenge (checks : StreamChecks) (events : List ReplayEvent) :
    Except ReplayError (Option ReconstructedChallenge) :=
  if events.any challengeRow = false then .ok none
  else match splitAdmission events with
    | none => do
        rejectIf (∃ event ∈ events, admissionKind event.kind = false)
          (invalidModule "challenge world evidence precedes admission")
        return none
    | some (before, admission, after) => do
        let payload ← decodeChallengePayload admission.payload
        validateChallengeAdmission before admission payload
        let reading ← readAttempt admission (before ++ [admission])
          { result :=
              { characterId := payload.characterId, state := payload.after, checkpoints := 1 }
            operations := [payload.operationId], boundary := admission } after
        validateChallengeEncounter checks (admission :: after) reading.result
        return some reading.result

/-- The authority as the session reader calls it, behind the check of the order. -/
def reconstructChallengeSession (checks : StreamChecks) (events : List ReplayEvent) :
    Except ReplayError (Option ReconstructedChallenge) := do
  let first ← require events.head? .emptySession
  validateEventOrder first.sessionId none events
  reconstructChallenge checks events

end Replay
end Revenant
