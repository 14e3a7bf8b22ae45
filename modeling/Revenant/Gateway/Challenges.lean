import Revenant.Persistence.Mastery
import Revenant.Protocol.Challenges

namespace Revenant
namespace Gateway
namespace Challenges

open Library Revenant.Challenges

/-!
# The challenge board

The gateway's projection of a save and its archive.  Only the snapshot that
answers a board query is built here; the running time of an active session is
filled in by the session and absent from a board.
-/

def contract (id : ContractId) : Protocol.ChallengeContract :=
  { contractId := id.asStr
    contractRevision := id.rules.contractRevision
    gameplayRevision := id.rules.gameplayRevision
    seed := id.rules.seed
    presetId := none
    objectiveCount :=
      match id with
      | .closeQuarters | .bastionLink => 2
      | .meridianCircuit => 4
      | .coolantRecovery | .lastReserve | .relayGauntlet => 3
      | .prismDiscipline | .distantSignal => 1 }

/-- The contract of a run, under the run's own rules. -/
def ruledContract (rules : Rules) : Protocol.ChallengeContract :=
  { contract rules.contract with
    contractRevision := rules.contractRevision
    gameplayRevision := rules.gameplayRevision
    presetId := if rules.preset = .baseline then none else some rules.preset.asStr }

def run (value : ChallengeRun) : Protocol.ChallengeRun :=
  { runId := value.runId
    contract := ruledContract value.rules
    elapsedMs := value.elapsedMs
    objectives := value.objectives.toNat
    equipment :=
      { loadoutRevision := value.equipment.loadoutRevision
        catalogRevision := value.equipment.catalogRevision
        weaponId := value.equipment.weaponId
        modules := value.equipment.modules.map ModuleId.asStr } }

def outcomeText : Outcome → String
  | .completed => "completed"
  | .abandoned => "abandoned"
  | .defeated => "defeated"
  | .interrupted => "interrupted"

def result (value : AttemptResult) : Protocol.ChallengeResult :=
  { run := run value.run, outcome := outcomeText value.outcome }

def variants (policy : Policy) : List Protocol.ChallengeVariant :=
  if policy = .modifier then
    ContractId.all.flatMap (fun id =>
      (Preset.all.filter (fun preset => preset ≠ .baseline ∧ preset.availableFor id = true)).map
        (fun preset =>
          { contractId := id.asStr, presetId := preset.asStr, timeGoalMs := preset.timeGoalMs id }))
  else []

def snapshot (character : String) (state : ChallengeState) (policy : Policy) :
    Protocol.ChallengeSnapshot :=
  { characterId := character
    policyRevision := policy.text
    stateRevision := state.revision
    contracts := (ContractId.all.filter (fun id => id.availableIn policy)).map contract
    active := state.active.map run
    lastResult := state.lastResult.map result
    records := state.records.map run
    elapsedMs := none
    mastery := none
    variants := variants policy }

def masterySnapshot (archive : Archive) : Protocol.ChallengeMasteryArchive :=
  { revision := "m37-mastery-v1"
    records := archive.records.map (fun record =>
      { goal := record.goal.asStr, runId := record.runId })
    badges := archive.badges.map (fun record =>
      { badge := record.badge.asStr, runId := record.runId })
    lastAttempt := archive.lastAttempt.map (fun attempt =>
      { runId := attempt.runId
        assessments := attempt.assessments.map (fun assessment =>
          { goal := assessment.goal.asStr, reason := assessment.reason.asStr })
        routeMoves := attempt.routeMoves
        prismDamage := attempt.prismDamage }) }

/-- A board query with the session it comes from: the characters its account
owns and what the client declared to understand. -/
structure BoardQuery where
  account : String
  ownedCharacters : List String
  currentContent : Bool
  policy : Policy
  masteryCapable : Bool
  characterId : String

def validateQuery (query : BoardQuery) : Except String Unit :=
  rejectIf (query.currentContent = false ∨ query.characterId ∉ query.ownedCharacters)
    "challenge query requires current capability and owned character"

/-- The answer to a query about a character with the given journal. -/
def board (facts : Entry → Facts) (entries : List Entry) (state : ChallengeState)
    (query : BoardQuery) : Except String Protocol.ChallengeSnapshot := do
  validateQuery query
  let archive ←
    if query.masteryCapable then
      (Persistence.challengeArchiveFor facts entries state).map some
    else .ok none
  rejectIf (state.supportsPolicy query.policy = false)
    "challenge save requires expanded challenge content"
  return { snapshot query.characterId state query.policy with
    mastery := archive.map masterySnapshot }

end Challenges
end Gateway
end Revenant
