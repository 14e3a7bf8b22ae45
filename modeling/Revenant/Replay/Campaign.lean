import Revenant.Replay.Event
import Revenant.Library.Checks

namespace Revenant
namespace Replay

open Library

/-!
# Encounters inside the counter-signal chapter

A session of that chapter plays two encounters in one journal.  Each validator
then reads the journal without the other encounter's field activity.
-/

namespace Campaign

/-- A row that moved or resumed the campaign. -/
def isBoundary (event : ReplayEvent) : Bool :=
  match event.kind with
  | .campaignCheckpoint | .campaignResumed => true
  | _ => false

def inCounterSignal (events : List ReplayEvent) : Bool :=
  events.any (fun event => decide (event.activityId = some "counter_signal") && isBoundary event)

/-- The last campaign row before a spawned encounter has to admit it. -/
def checkAdmission (boundary : Option ReplayEvent) (event : ReplayEvent) :
    Except ReplayError Unit := do
  let boundary ← require boundary (invalidModule "counter encounter lacks admission")
  -- The source passes the decoder's own message on.
  let state ← require boundary.payload.campaign? (invalidModule "campaign payload")
  let expected :=
    if event.payload.support?.isSome then Milestone.counterSupportCleared
    else Milestone.counterBastionCleared
  rejectIf (¬ (∃ run ∈ state.active, run.chapter = .counterSignal ∧
      run.nextMilestone = some expected) ∨
    event.accountId ≠ boundary.accountId ∨ event.activityId ≠ boundary.activityId)
    (invalidModule "counter encounter violates its admitted boundary")

def checkAdmissions (boundary : Option ReplayEvent) : List ReplayEvent → Except ReplayError Unit
  | [] => .ok ()
  | event :: rest => do
      if event.kind = .enemySpawned ∧ (event.payload.support?.isSome ∨ event.payload.elite?.isSome)
      then checkAdmission boundary event
      checkAdmissions (if isBoundary event then some event else boundary) rest

/-- The journal of one of the two encounters, when the chapter plays them;
`other` tells the payloads of the other one. -/
def counterEncounterEvents (events : List ReplayEvent) (other : Payload → Bool) :
    Except ReplayError (Option (List ReplayEvent)) := do
  if inCounterSignal events then
    checkAdmissions none events
    return some (events.filter (fun event =>
      !(decide (event.kind = .fieldActivity) && other event.payload)))
  else return none

variable {events : List ReplayEvent}

theorem counterEncounterEvents_elsewhere (other : Payload → Bool)
    (elsewhere : inCounterSignal events = false) :
    counterEncounterEvents events other = .ok none := by
  simp only [counterEncounterEvents, elsewhere, Bool.false_eq_true, if_false]
  rfl

theorem inCounterSignal_append {event : ReplayEvent} (elsewhere : inCounterSignal events = false)
    (ordinary : isBoundary event = false) : inCounterSignal (events ++ [event]) = false := by
  unfold inCounterSignal at elsewhere ⊢
  simp only [List.any_append, elsewhere, List.any_cons, List.any_nil, ordinary, Bool.and_false,
    Bool.or_false]

/-! ## The chapter of the Prism Warden -/

/-- The last campaign row before a spawn. -/
def boundaryBefore (events : List ReplayEvent) (spawn : ReplayEvent) : Option ReplayEvent :=
  events.reverse.find? (fun event => decide (event.id < spawn.id) && isBoundary event)

/-- The owner of `spawn` joined, as the given actor, before `boundary`. -/
def joinedBefore (events : List ReplayEvent) (spawn boundary : ReplayEvent) : Bool :=
  events.any (fun event => decide (event.id < boundary.id) &&
    decide (event.kind = .playerJoined ∧ event.actorId = boundary.actorId ∧
      event.accountId = spawn.accountId))

/-- The chapter admits its boss at the milestone before it.  Spawns of other
activities are not the chapter's to admit. -/
def prismAdmission (events : List ReplayEvent) (spawn : ReplayEvent) : Except ReplayError Bool :=
  if spawn.activityId ≠ some "prism_core" then return false
  else do
    let boundary ← require (boundaryBefore events spawn)
      (invalidModule "Prism core spawn has no campaign admission")
    let state ← require boundary.payload.campaign? (invalidModule "campaign payload")
    rejectIf (¬ (∃ run ∈ state.active, run.chapter = .prismCore ∧
        run.nextMilestone = some .prismWardenCleared) ∨
      boundary.actorId = none ∨ boundary.accountId ≠ spawn.accountId ∨
      boundary.activityId ≠ spawn.activityId ∨ joinedBefore events spawn boundary = false)
      (invalidModule "Prism core spawn violates its campaign boundary")
    return true

theorem prismAdmission_elsewhere {spawn : ReplayEvent}
    (elsewhere : spawn.activityId ≠ some "prism_core") :
    prismAdmission events spawn = .ok false := by
  rw [prismAdmission, if_pos elsewhere]
  rfl

/-- A later row admits nothing. -/
theorem prismAdmission_append {event spawn : ReplayEvent} (later : spawn.id < event.id) :
    prismAdmission (events ++ [event]) spawn = prismAdmission events spawn := by
  have same : boundaryBefore (events ++ [event]) spawn = boundaryBefore events spawn := by
    simp only [boundaryBefore, List.reverse_append, List.reverse_cons, List.reverse_nil,
      List.nil_append, List.singleton_append, List.find?_cons]
    rw [decide_eq_false (by omega), Bool.false_and]
  unfold prismAdmission
  rw [same]
  cases found : boundaryBefore events spawn with
  | none => rfl
  | some boundary =>
      have early := List.find?_some found
      simp only [Bool.and_eq_true, decide_eq_true_eq] at early
      have joined : joinedBefore (events ++ [event]) spawn boundary =
          joinedBefore events spawn boundary := by
        simp only [joinedBefore, List.any_append, List.any_cons, List.any_nil, Bool.or_false]
        rw [decide_eq_false (by omega), Bool.false_and, Bool.or_false]
      simp only [require, bind, Except.bind, joined]

end Campaign
end Replay
end Revenant
