import Revenant.Library.Json
import Revenant.Ai.Elite
import Revenant.Ai.Prism

namespace Revenant
namespace Replay

open Library Ai

/-!
# Encounter evidence and its encoding

Each encounter family records typed evidence under its own prefix.  The JSON
of a value is written down field by field, so the length that the readers
bound is the length of the real text; `WordNumber` says that a number of that
text fits its machine word.
-/

namespace Json

def position (place : Position) : Json :=
  .array [.number place.x, .number place.y, .number place.z]

def vector (direction : Int × Int) : Json := .array [.number direction.1, .number direction.2]

def natural (value : Nat) : Json := .number value

/-- A record whose first field is the serde tag. -/
def tagged (tag name : String) (fields : List (String × Json)) : Json :=
  .object ((tag, .text name) :: fields)

end Json

/-- A position whose coordinates fit their words. -/
def WordPosition (place : Position) : Prop :=
  Json.WordNumber place.x ∧ Json.WordNumber place.y ∧ Json.WordNumber place.z

theorem words_position {place : Position} (word : WordPosition place) :
    (Json.position place).Words :=
  ⟨word.1, word.2.1, word.2.2, trivial⟩

theorem words_natural {value : Nat} (bound : value ≤ u64Max) : (Json.natural value).Words :=
  Json.wordNumber_natCast bound

theorem wordPosition_of_small {place : Position} (x : -100 ≤ place.x ∧ place.x ≤ 100)
    (y : place.y = 0) (z : -100 ≤ place.z ∧ place.z ≤ 100) : WordPosition place := by
  unfold WordPosition Json.WordNumber u64Max
  omega

theorem words_vector (facing : Facing) : (Json.vector facing.vector).Words := by
  cases facing <;>
    simp [Json.vector, Facing.vector, Json.Words, Json.WordItems, Json.WordNumber, u64Max]

/-- The payload text of a value: its prefix and its compact JSON. -/
def encode {Evidence : Type} (tag : String) (toJson : Evidence → Json) (evidence : Evidence) :
    Encoded Evidence :=
  { value := some evidence, length := tag.length + (toJson evidence).size }

theorem encode_length_le {Evidence : Type} {tag : String} {toJson : Evidence → Json}
    {evidence : Evidence} {limit : Nat} (words : (toJson evidence).Words)
    (room : tag.length + (toJson evidence).cap ≤ limit) :
    (encode tag toJson evidence).length ≤ limit :=
  le_trans (Nat.add_le_add_left (Json.size_le_cap _ words) _) room

/-! ## The solo Lancer -/

inductive LancerEvidence where
  | windup (origin target : Position) (elapsedMs : Nat)
  | resolved (origin target playerPosition : Position) (elapsedMs damage healthBefore healthAfter : Nat)
  | abandoned (elapsedMs : Nat)
  deriving DecidableEq, Repr

namespace LancerEvidence

def tag : String := "lancer-v1:"

def toJson : LancerEvidence → Json
  | windup origin target elapsedMs =>
      Json.tagged "phase" "windup"
        [("origin", Json.position origin), ("target", Json.position target),
          ("elapsed_ms", Json.natural elapsedMs)]
  | resolved origin target playerPosition elapsedMs damage healthBefore healthAfter =>
      Json.tagged "phase" "resolved"
        [("origin", Json.position origin), ("target", Json.position target),
          ("player_position", Json.position playerPosition),
          ("elapsed_ms", Json.natural elapsedMs), ("damage", Json.natural damage),
          ("health_before", Json.natural healthBefore), ("health_after", Json.natural healthAfter)]
  | abandoned elapsedMs => Json.tagged "phase" "abandoned" [("elapsed_ms", Json.natural elapsedMs)]

end LancerEvidence

def encodeLancerEvidence : LancerEvidence → Encoded LancerEvidence :=
  encode LancerEvidence.tag LancerEvidence.toJson

/-- Evidence made of machine words stays within the limit the reader sets. -/
theorem encodeLancerEvidence_length {evidence : LancerEvidence} (words : evidence.toJson.Words) :
    (encodeLancerEvidence evidence).length ≤ 1024 := by
  refine encode_length_le words ?_
  cases evidence
  all_goals simp only [LancerEvidence.tag, LancerEvidence.toJson,
    Json.tagged, Json.position, Json.natural, Json.cap, Json.capFields, Json.capItems]
  all_goals decide +kernel

/-! ## The solo Bulwark -/

inductive BulwarkEvidence where
  | braced (facing : Int × Int) (playerPosition : Position) (elapsedMs : Nat)
  | slam (facing : Int × Int) (playerPosition : Position)
      (elapsedMs damage healthBefore healthAfter : Nat)
  | attack (playerPosition : Position) (elapsedMs damage healthBefore healthAfter : Nat)
  | abandoned (elapsedMs : Nat)
  deriving DecidableEq, Repr

namespace BulwarkEvidence

def tag : String := "bulwark-v1:"

def toJson : BulwarkEvidence → Json
  | braced facing playerPosition elapsedMs =>
      Json.tagged "phase" "braced"
        [("facing", Json.vector facing), ("player_position", Json.position playerPosition),
          ("elapsed_ms", Json.natural elapsedMs)]
  | slam facing playerPosition elapsedMs damage healthBefore healthAfter =>
      Json.tagged "phase" "slam"
        [("facing", Json.vector facing), ("player_position", Json.position playerPosition),
          ("elapsed_ms", Json.natural elapsedMs), ("damage", Json.natural damage),
          ("health_before", Json.natural healthBefore), ("health_after", Json.natural healthAfter)]
  | attack playerPosition elapsedMs damage healthBefore healthAfter =>
      Json.tagged "phase" "attack"
        [("player_position", Json.position playerPosition), ("elapsed_ms", Json.natural elapsedMs),
          ("damage", Json.natural damage), ("health_before", Json.natural healthBefore),
          ("health_after", Json.natural healthAfter)]
  | abandoned elapsedMs => Json.tagged "phase" "abandoned" [("elapsed_ms", Json.natural elapsedMs)]

end BulwarkEvidence

def encodeBulwarkEvidence : BulwarkEvidence → Encoded BulwarkEvidence :=
  encode BulwarkEvidence.tag BulwarkEvidence.toJson

theorem encodeBulwarkEvidence_length {evidence : BulwarkEvidence} (words : evidence.toJson.Words) :
    (encodeBulwarkEvidence evidence).length ≤ 1024 := by
  refine encode_length_le words ?_
  cases evidence
  all_goals simp only [BulwarkEvidence.tag, BulwarkEvidence.toJson,
    Json.tagged, Json.position, Json.vector, Json.natural, Json.cap, Json.capFields, Json.capItems]
  all_goals decide +kernel

/-! ## The Lancer with its mender -/

inductive SupportTransition where
  | started (lancerId menderId playerHealth : Nat)
  | windup (playerPosition origin target : Position)
  | charged (playerPosition origin target : Position) (damage healthAfter : Nat)
  | repaired (targetId amount healthBefore healthAfter : Nat)
  | attack (targetId : Nat) (playerPosition : Position) (damage healthBefore healthAfter : Nat)
  | abandoned
  deriving DecidableEq, Repr

structure SupportEvidence where
  elapsedMs : Nat
  transition : SupportTransition
  deriving DecidableEq, Repr

namespace SupportTransition

def toJson : SupportTransition → Json
  | started lancerId menderId playerHealth =>
      Json.tagged "phase" "started"
        [("lancer_id", Json.natural lancerId), ("mender_id", Json.natural menderId),
          ("player_health", Json.natural playerHealth)]
  | windup playerPosition origin target =>
      Json.tagged "phase" "windup"
        [("player_position", Json.position playerPosition), ("origin", Json.position origin),
          ("target", Json.position target)]
  | charged playerPosition origin target damage healthAfter =>
      Json.tagged "phase" "charged"
        [("player_position", Json.position playerPosition), ("origin", Json.position origin),
          ("target", Json.position target), ("damage", Json.natural damage),
          ("health_after", Json.natural healthAfter)]
  | repaired targetId amount healthBefore healthAfter =>
      Json.tagged "phase" "repaired"
        [("target_id", Json.natural targetId), ("amount", Json.natural amount),
          ("health_before", Json.natural healthBefore), ("health_after", Json.natural healthAfter)]
  | attack targetId playerPosition damage healthBefore healthAfter =>
      Json.tagged "phase" "attack"
        [("target_id", Json.natural targetId), ("player_position", Json.position playerPosition),
          ("damage", Json.natural damage), ("health_before", Json.natural healthBefore),
          ("health_after", Json.natural healthAfter)]
  | abandoned => Json.tagged "phase" "abandoned" []

end SupportTransition

namespace SupportEvidence

def tag : String := "support-v1:"

def toJson (evidence : SupportEvidence) : Json :=
  .object [("elapsed_ms", Json.natural evidence.elapsedMs),
    ("transition", evidence.transition.toJson)]

end SupportEvidence

def encodeSupportEvidence : SupportEvidence → Encoded SupportEvidence :=
  encode SupportEvidence.tag SupportEvidence.toJson

theorem encodeSupportEvidence_length {evidence : SupportEvidence} (words : evidence.toJson.Words) :
    (encodeSupportEvidence evidence).length ≤ 1024 := by
  refine encode_length_le words ?_
  rcases evidence with ⟨elapsedMs, transition⟩
  cases transition
  all_goals simp only [SupportEvidence.tag, SupportEvidence.toJson, SupportTransition.toJson,
    Json.tagged, Json.position, Json.natural, Json.cap, Json.capFields, Json.capItems]
  all_goals decide +kernel

/-! ## The elite pair -/

inductive EliteStep where
  | braced (facing : Int × Int)
  | slam (facing : Int × Int) (damage healthAfter : Nat)
  | windup (origin target : Position)
  | charged (origin target : Position) (damage healthAfter : Nat)
  | repaired (targetId amount healthBefore healthAfter : Nat)
  deriving DecidableEq, Repr

inductive EliteTransition where
  | started (composition : String) (bulwarkId partnerId playerHealth : Nat)
  | step (playerPosition : Position) (step : EliteStep)
  | attack (targetId : Nat) (playerPosition : Position) (damage healthBefore healthAfter : Nat)
  | abandoned
  deriving DecidableEq, Repr

structure EliteEvidence where
  elapsedMs : Nat
  previousConfirmedMs : Nat
  transition : EliteTransition
  deriving DecidableEq, Repr

namespace EliteStep

def fromAction (action : Elite.EliteAction) (playerHealth : Nat) : EliteStep :=
  match action with
  | .defense (.brace facing) => braced facing.vector
  | .defense (.slam facing damage) => slam facing.vector damage (playerHealth - damage)
  | .charge (.windup origin target) => windup origin target
  | .charge (.resolved origin target damage) => charged origin target damage (playerHealth - damage)
  | .repair action =>
      repaired action.targetId action.amount action.healthBefore action.healthAfter

def toJson : EliteStep → Json
  | braced facing => Json.tagged "action" "braced" [("facing", Json.vector facing)]
  | slam facing damage healthAfter =>
      Json.tagged "action" "slam"
        [("facing", Json.vector facing), ("damage", Json.natural damage),
          ("health_after", Json.natural healthAfter)]
  | windup origin target =>
      Json.tagged "action" "windup"
        [("origin", Json.position origin), ("target", Json.position target)]
  | charged origin target damage healthAfter =>
      Json.tagged "action" "charged"
        [("origin", Json.position origin), ("target", Json.position target),
          ("damage", Json.natural damage), ("health_after", Json.natural healthAfter)]
  | repaired targetId amount healthBefore healthAfter =>
      Json.tagged "action" "repaired"
        [("target_id", Json.natural targetId), ("amount", Json.natural amount),
          ("health_before", Json.natural healthBefore), ("health_after", Json.natural healthAfter)]

end EliteStep

namespace EliteEvidence

def tag : String := "elite-v1:"

def transitionJson : EliteTransition → Json
  | .started composition bulwarkId partnerId playerHealth =>
      Json.tagged "phase" "started"
        [("composition", .text composition), ("bulwark_id", Json.natural bulwarkId),
          ("partner_id", Json.natural partnerId), ("player_health", Json.natural playerHealth)]
  | .step playerPosition step =>
      Json.tagged "phase" "step"
        [("player_position", Json.position playerPosition), ("step", step.toJson)]
  | .attack targetId playerPosition damage healthBefore healthAfter =>
      Json.tagged "phase" "attack"
        [("target_id", Json.natural targetId), ("player_position", Json.position playerPosition),
          ("damage", Json.natural damage), ("health_before", Json.natural healthBefore),
          ("health_after", Json.natural healthAfter)]
  | .abandoned => Json.tagged "phase" "abandoned" []

def toJson (evidence : EliteEvidence) : Json :=
  .object [("elapsed_ms", Json.natural evidence.elapsedMs),
    ("previous_confirmed_ms", Json.natural evidence.previousConfirmedMs),
    ("transition", transitionJson evidence.transition)]

end EliteEvidence

def encodeEliteEvidence : EliteEvidence → Encoded EliteEvidence :=
  encode EliteEvidence.tag EliteEvidence.toJson

/-- The composition is the one free text; a known identifier is short. -/
theorem encodeEliteEvidence_length {evidence : EliteEvidence} (words : evidence.toJson.Words)
    (known : ∀ composition bulwarkId partnerId playerHealth,
      evidence.transition = .started composition bulwarkId partnerId playerHealth →
        ∃ known : Elite.EliteComposition, composition = known.id) :
    (encodeEliteEvidence evidence).length ≤ 2048 := by
  refine encode_length_le words ?_
  rcases evidence with ⟨elapsedMs, previousConfirmedMs, transition⟩
  cases transition
  case' started composition bulwarkId partnerId playerHealth =>
    obtain ⟨named, rfl⟩ := known _ _ _ _ rfl
    cases named
  case' step playerPosition step => cases step
  all_goals simp only [EliteEvidence.tag, EliteEvidence.toJson, EliteEvidence.transitionJson, EliteStep.toJson,
    Elite.EliteComposition.id,    Json.tagged, Json.position, Json.vector, Json.natural, Json.cap, Json.capFields, Json.capItems]
  all_goals decide +kernel

/-! ## The Prism Warden -/

inductive PrismStep where
  | warning (pattern : Prism.PrismPattern)
  | resolved (pattern : Prism.PrismPattern) (damage healthAfter : Nat)
  deriving DecidableEq, Repr

inductive PrismTransition where
  | started (bossId playerHealth : Nat)
  | step (playerPosition : Position) (step : PrismStep)
  | attack (playerPosition : Position) (damage healthBefore healthAfter : Nat) (phaseChanged : Bool)
  | abandoned
  deriving DecidableEq, Repr

structure PrismEvidence where
  elapsedMs : Nat
  previousConfirmedMs : Nat
  transition : PrismTransition
  deriving DecidableEq, Repr

namespace PrismStep

def fromAction (action : Prism.PrismAction) (playerHealth : Nat) : PrismStep :=
  match action with
  | .warning pattern => warning pattern
  | .resolved pattern damage => resolved pattern damage (playerHealth - damage)

end PrismStep

namespace PrismEvidence

def tag : String := "prism-v1:"

/-- The evidence pattern mirrors the AI's pattern constructor by constructor. -/
def patternJson : Prism.PrismPattern → Json
  | .acrossX z => Json.tagged "shape" "across_x" [("z", .number z)]
  | .acrossZ x => Json.tagged "shape" "across_z" [("x", .number x)]
  | .center => Json.tagged "shape" "center" []
  | .perimeter => Json.tagged "shape" "perimeter" []

def stepJson : PrismStep → Json
  | .warning pattern => Json.tagged "action" "warning" [("pattern", patternJson pattern)]
  | .resolved pattern damage healthAfter =>
      Json.tagged "action" "resolved"
        [("pattern", patternJson pattern), ("damage", Json.natural damage),
          ("health_after", Json.natural healthAfter)]

def transitionJson : PrismTransition → Json
  | .started bossId playerHealth =>
      Json.tagged "phase" "started"
        [("boss_id", Json.natural bossId), ("player_health", Json.natural playerHealth)]
  | .step playerPosition step =>
      Json.tagged "phase" "step"
        [("player_position", Json.position playerPosition), ("step", stepJson step)]
  | .attack playerPosition damage healthBefore healthAfter phaseChanged =>
      Json.tagged "phase" "attack"
        [("player_position", Json.position playerPosition), ("damage", Json.natural damage),
          ("health_before", Json.natural healthBefore), ("health_after", Json.natural healthAfter),
          ("phase_changed", .bool phaseChanged)]
  | .abandoned => Json.tagged "phase" "abandoned" []

def toJson (evidence : PrismEvidence) : Json :=
  .object [("elapsed_ms", Json.natural evidence.elapsedMs),
    ("previous_confirmed_ms", Json.natural evidence.previousConfirmedMs),
    ("transition", transitionJson evidence.transition)]

end PrismEvidence

def encodePrismEvidence : PrismEvidence → Encoded PrismEvidence :=
  encode PrismEvidence.tag PrismEvidence.toJson

theorem encodePrismEvidence_length {evidence : PrismEvidence} (words : evidence.toJson.Words) :
    (encodePrismEvidence evidence).length ≤ 2048 := by
  refine encode_length_le words ?_
  rcases evidence with ⟨elapsedMs, previousConfirmedMs, transition⟩
  cases transition
  case' step playerPosition step =>
    rcases step with pattern | ⟨pattern, damage, healthAfter⟩ <;> cases pattern
  all_goals simp only [PrismEvidence.tag, PrismEvidence.toJson, PrismEvidence.transitionJson,
    PrismEvidence.stepJson, PrismEvidence.patternJson,
    Json.tagged, Json.position, Json.natural, Json.cap, Json.capFields, Json.capItems]
  all_goals decide +kernel

end Replay
end Revenant
