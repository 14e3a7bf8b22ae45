import Revenant.Library.Checks
import Revenant.Library.Variant

namespace Revenant
namespace Client
namespace ChallengeMastery

open Library

/-!
# The client's check of a mastery archive

The client keeps its own table of goals and badges and reads an archive against
the board it came with.  A check either passes or refuses; the message always
carries numbers as integers, so a number needs no rounding test.
-/

abbrev Check := Except Unit

/-- The goals with their contracts. -/
def goals : List (String × String) :=
  [("breacher", "close_quarters"), ("marksman", "distant_signal"), ("guard", "last_reserve"),
    ("route_planner", "meridian_circuit"), ("target_priority", "bastion_link"),
    ("prism_execution", "prism_discipline")]

def badges : List (String × List String) :=
  [("arsenal_adept", ["breacher", "marksman", "guard"]),
    ("field_tactician", ["route_planner", "target_priority"]),
    ("prism_adept", ["prism_execution"])]

def reasons : List String :=
  ["achieved", "complete_contract", "use_build", "preserve_reserve", "use_west_route",
    "reduce_route_moves", "mender_first", "avoid_prism_damage"]

/-- A run number of the board. -/
def validRunId (value : Variant) (stateRevision : Int) : Check Int := do
  let runId ← require value.integer? ()
  rejectIf (¬ (0 < runId ∧ runId ≤ stateRevision)) ()
  return runId

/-- An optional number that is not negative. -/
def validNumber (value : Variant) : Check Unit :=
  if value.isNil then .ok ()
  else do
    let number ← require value.integer? ()
    rejectIf (number < 0) ()

/-- The contracts of the board's records. -/
def recordedContracts (snapshot : Variant) : List String :=
  ((snapshot.get "records").array?.getD []).filterMap
    (fun record => ((record.get "contract").get "contract_id").text?)

/-- The archive's records, as the dictionary from goals to runs. -/
def readRecords (snapshot : Variant) (stateRevision : Int) :
    List (String × Int) → List Variant → Check (List (String × Int))
  | records, [] => .ok records
  | records, record :: rest => do
      let goal ← require (record.get "goal").text? ()
      let contract ← require (goals.lookup goal) ()
      rejectIf ((records.lookup goal).isSome) ()
      let runId ← validRunId (record.get "run_id") stateRevision
      rejectIf (contract ∉ recordedContracts snapshot) ()
      readRecords snapshot stateRevision (records ++ [(goal, runId)]) rest

/-- The latest run among the goals of a badge. -/
def expectedRun (records : List (String × Int)) : Int → List String → Check Int
  | expected, [] => .ok expected
  | expected, goal :: rest => do
      let runId ← require (records.lookup goal) ()
      expectedRun records (max expected runId) rest

def readBadges (records : List (String × Int)) : List String → List Variant → Check (List String)
  | seen, [] => .ok seen
  | seen, badge :: rest => do
      let name ← require (badge.get "badge").text? ()
      let needed ← require (badges.lookup name) ()
      rejectIf (name ∈ seen) ()
      let expected ← expectedRun records 0 needed
      rejectIf ((badge.get "run_id").integer? ≠ some expected) ()
      readBadges records (seen ++ [name]) rest

def validAssessment (records : List (String × Int)) (expectedGoals : List String)
    (outcome : Option String) (runId : Int) (assessment : Variant) : Check Unit := do
  let goal ← require (assessment.get "goal").text? ()
  let reason ← require (assessment.get "reason").text? ()
  rejectIf (goal ∉ expectedGoals ∨ reason ∉ reasons) ()
  rejectIf (reason = "achieved" ∧
    (outcome ≠ some "completed" ∨ ∀ record ∈ records.lookup goal, record > runId)) ()

def validAttempt (records : List (String × Int)) (snapshot : Variant) (stateRevision : Int)
    (attempt : Variant) : Check Unit := do
  let runId ← validRunId (attempt.get "run_id") stateRevision
  let result := snapshot.get "last_result"
  rejectIf (((result.get "run").get "run_id").integer? ≠ some runId) ()
  let assessments ← require (attempt.get "assessments").array? ()
  let contract := (((result.get "run").get "contract").get "contract_id").text?
  let expectedGoals := (goals.filter (fun goal => some goal.2 = contract)).map (·.1)
  rejectIf (assessments.length ≠ expectedGoals.length) ()
  assessments.forM (validAssessment records expectedGoals (result.get "outcome").text? runId)
  validNumber (attempt.get "route_moves")
  validNumber (attempt.get "prism_damage")

def valid (value snapshot : Variant) : Check Unit := do
  rejectIf ((value.get "revision").text? ≠ some "m37-mastery-v1") ()
  let entries ← require (value.get "records").array? ()
  rejectIf (entries.length > 6) ()
  let awarded ← require (value.get "badges").array? ()
  rejectIf (awarded.length > 3) ()
  let stateRevision ← require (snapshot.get "state_revision").integer? ()
  let records ← readRecords snapshot stateRevision [] entries
  let seen ← readBadges records [] awarded
  rejectIf (∃ badge ∈ badges,
    badge.2.all (fun goal => (records.lookup goal).isSome) ≠ decide (badge.1 ∈ seen)) ()
  let attempt := value.get "last_attempt"
  if attempt.isNil then rejectIf (records ≠ []) ()
  else validAttempt records snapshot stateRevision attempt

end ChallengeMastery
end Client
end Revenant
