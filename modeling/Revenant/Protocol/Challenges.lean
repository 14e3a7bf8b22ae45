import Revenant.Library.Variant

namespace Revenant
namespace Protocol

open Library

/-!
# Challenge messages

The board a gateway sends, as its serializer lays it out: one dictionary for
each structure, the fields in their order.  `Variant.optional` is a field that
is skipped when empty; the other optional fields are sent as null.
-/

structure ChallengeContract where
  contractId : String
  contractRevision : String
  gameplayRevision : String
  seed : Nat
  objectiveCount : Nat
  presetId : Option String

structure ChallengeEquipment where
  loadoutRevision : Nat
  catalogRevision : String
  weaponId : String
  modules : List String

structure ChallengeRun where
  runId : Nat
  contract : ChallengeContract
  equipment : ChallengeEquipment
  objectives : Nat
  elapsedMs : Option Nat

structure ChallengeResult where
  run : ChallengeRun
  outcome : String

structure ChallengeVariant where
  contractId : String
  presetId : String
  timeGoalMs : Option Nat

structure ChallengeMasteryRecord where
  goal : String
  runId : Nat

structure ChallengeBadgeRecord where
  badge : String
  runId : Nat

structure ChallengeMasteryAssessment where
  goal : String
  reason : String

structure ChallengeMasteryAttempt where
  runId : Nat
  assessments : List ChallengeMasteryAssessment
  routeMoves : Option Nat
  prismDamage : Option Nat

structure ChallengeMasteryArchive where
  revision : String
  records : List ChallengeMasteryRecord
  badges : List ChallengeBadgeRecord
  lastAttempt : Option ChallengeMasteryAttempt

structure ChallengeSnapshot where
  characterId : String
  policyRevision : String
  stateRevision : Nat
  contracts : List ChallengeContract
  active : Option ChallengeRun
  lastResult : Option ChallengeResult
  records : List ChallengeRun
  variants : List ChallengeVariant
  elapsedMs : Option Nat
  mastery : Option ChallengeMasteryArchive

namespace ChallengeContract

def serialize (contract : ChallengeContract) : Variant :=
  .dictionary ([("contract_id", .text contract.contractId),
    ("contract_revision", .text contract.contractRevision),
    ("gameplay_revision", .text contract.gameplayRevision),
    ("seed", .integer contract.seed),
    ("objective_count", .integer contract.objectiveCount)] ++
    Variant.optional "preset_id" (contract.presetId.map .text))

end ChallengeContract

namespace ChallengeEquipment

def serialize (equipment : ChallengeEquipment) : Variant :=
  .dictionary [("loadout_revision", .integer equipment.loadoutRevision),
    ("catalog_revision", .text equipment.catalogRevision),
    ("weapon_id", .text equipment.weaponId),
    ("modules", .array (equipment.modules.map .text))]

end ChallengeEquipment

namespace ChallengeRun

def serialize (run : ChallengeRun) : Variant :=
  .dictionary ([("run_id", .integer run.runId), ("contract", run.contract.serialize),
    ("equipment", run.equipment.serialize), ("objectives", .integer run.objectives)] ++
    Variant.optional "elapsed_ms" (run.elapsedMs.map (fun elapsed => .integer elapsed)))

end ChallengeRun

namespace ChallengeResult

def serialize (result : ChallengeResult) : Variant :=
  .dictionary [("run", result.run.serialize), ("outcome", .text result.outcome)]

end ChallengeResult

namespace ChallengeVariant

def serialize (variant : ChallengeVariant) : Variant :=
  .dictionary [("contract_id", .text variant.contractId), ("preset_id", .text variant.presetId),
    ("time_goal_ms", .ofOption variant.timeGoalMs)]

end ChallengeVariant

namespace ChallengeMasteryArchive

def serializeRecord (record : ChallengeMasteryRecord) : Variant :=
  .dictionary [("goal", .text record.goal), ("run_id", .integer record.runId)]

def serializeBadge (record : ChallengeBadgeRecord) : Variant :=
  .dictionary [("badge", .text record.badge), ("run_id", .integer record.runId)]

def serializeAssessment (assessment : ChallengeMasteryAssessment) : Variant :=
  .dictionary [("goal", .text assessment.goal), ("reason", .text assessment.reason)]

def serializeAttempt (attempt : ChallengeMasteryAttempt) : Variant :=
  .dictionary [("run_id", .integer attempt.runId),
    ("assessments", .array (attempt.assessments.map serializeAssessment)),
    ("route_moves", .ofOption attempt.routeMoves),
    ("prism_damage", .ofOption attempt.prismDamage)]

def serialize (archive : ChallengeMasteryArchive) : Variant :=
  .dictionary [("revision", .text archive.revision),
    ("records", .array (archive.records.map serializeRecord)),
    ("badges", .array (archive.badges.map serializeBadge)),
    ("last_attempt", (archive.lastAttempt.map serializeAttempt).getD .nil)]

end ChallengeMasteryArchive

namespace ChallengeSnapshot

/-- The message with the tag of its kind. -/
def serialize (snapshot : ChallengeSnapshot) : Variant :=
  .dictionary ([("type", .text "ChallengeSnapshot"),
    ("character_id", .text snapshot.characterId),
    ("policy_revision", .text snapshot.policyRevision),
    ("state_revision", .integer snapshot.stateRevision),
    ("contracts", .array (snapshot.contracts.map ChallengeContract.serialize)),
    ("active", (snapshot.active.map ChallengeRun.serialize).getD .nil),
    ("last_result", (snapshot.lastResult.map ChallengeResult.serialize).getD .nil),
    ("records", .array (snapshot.records.map ChallengeRun.serialize))] ++
    Variant.optional "variants" (if snapshot.variants.isEmpty then none
      else some (.array (snapshot.variants.map ChallengeVariant.serialize))) ++
    Variant.optional "elapsed_ms" (snapshot.elapsedMs.map (fun elapsed => .integer elapsed)) ++
    Variant.optional "mastery" (snapshot.mastery.map ChallengeMasteryArchive.serialize))

end ChallengeSnapshot

end Protocol
end Revenant
