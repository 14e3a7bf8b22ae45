import Revenant.Activities.Script
import Revenant.Actors

namespace Revenant
namespace Activities
namespace Meridian

/-!
# The Meridian annex

Untimed exploration west of the hub: two scripts of stations in order and one
optional station.  The enclosing mission owns all rewards.  An expedition is
told from how far each script went (`Progress`), and what was visited in it is
a first part of each authored order.

A visit that is not open changes nothing and reports nothing, so the caller
may show every position.  `Explored` lists the visits of a run; it is stated
for visits in any order and repeated at will.
-/

def entrance : Position := ⟨-12, 0, 0⟩
def revision : String := "meridian-v1"

/-- Authored safe boundaries; partial work between them restarts on reconnect. -/
inductive Checkpoint where
  | entrance
  | arrival
  | surveyComplete
  deriving DecidableEq, Repr

/-- The stations behind a boundary. -/
def Checkpoint.completed : Checkpoint → List String
  | entrance => []
  | arrival => ["meridian_arrival"]
  | surveyComplete => ["meridian_arrival", "meridian_lens", "meridian_gallery"]

structure Station where
  id : String
  position : Position
  deriving DecidableEq, Repr

/-- `meridian.json`: the floors as `x` from, `x` to, `z` from, `z` to. -/
def floors : List (Int × Int × Int × Int) :=
  [(-14, -12, -1, 1), (-20, -14, -3, 3), (-25, -19, -1, 1), (-25, -23, -6, 6), (-32, -24, -10, -2),
    (-32, -24, 2, 10), (-31, -29, -6, 6)]

def stations : List Station :=
  [⟨"meridian_arrival", ⟨-16, 0, 0⟩⟩, ⟨"meridian_lens", ⟨-28, 0, -7⟩⟩,
    ⟨"meridian_gallery", ⟨-28, 0, 7⟩⟩, ⟨"meridian_log", ⟨-30, 0, 0⟩⟩,
    ⟨"meridian_return", ⟨-16, 0, 0⟩⟩, ⟨"meridian_memory", ⟨-31, 0, 8⟩⟩]

def walkable (position : Position) : Bool :=
  decide (position.y = 0) && floors.any (fun (west, east, north, south) =>
    decide ((west ≤ position.x ∧ position.x ≤ east) ∧ north ≤ position.z ∧ position.z ≤ south))

def navigable (position : Position) : Bool :=
  walkable position || decide (position.y = 0 ∧ (-12 ≤ position.x ∧ position.x ≤ 12) ∧
    -12 ≤ position.z ∧ position.z ≤ 12)

/-- Crossing uses adjacent cells; diagonal moves cannot cut rail corners. -/
def validStep (source target : Position) : Bool :=
  decide (|source.x - target.x| ≤ 1 ∧ |source.z - target.z| ≤ 1 ∧ source.y = 0) &&
    navigable target && navigable ⟨target.x, 0, source.z⟩ && navigable ⟨source.x, 0, target.z⟩

/-- `meridian_survey.lua`. -/
def surveySource : ScriptedActivity :=
  { id := "meridian_survey"
    objectives := [.reachArea "meridian_arrival" .active, .reachArea "meridian_lens" .pending,
      .reachArea "meridian_gallery" .pending]
    triggers := [.station "meridian_arrival" (some "meridian_lens"),
      .station "meridian_lens" (some "meridian_gallery"), .station "meridian_gallery" none] }

/-- `meridian_return.lua`. -/
def returnSource : ScriptedActivity :=
  { id := "meridian_return"
    objectives := [.reachArea "meridian_log" .active, .reachArea "meridian_return" .pending]
    triggers := [.station "meridian_log" (some "meridian_return"),
      .station "meridian_return" none] }

structure Expedition where
  survey : ScriptedActivity
  recovery : ScriptedActivity
  memory : Bool
  deriving DecidableEq, Repr

def memoryObjective : Objective :=
  { id := "meridian_memory", kind := .reachArea, state := .completed, progress := 1, target := 1 }

namespace Expedition

def start : Expedition := { survey := surveySource, recovery := returnSource, memory := false }

/-- The survey as if stations had been reached, without the events of reaching
them. -/
def surveyed (expedition : Expedition) (reached : List String) : Expedition :=
  { expedition with
    survey := reached.foldl (fun script id => (script.applyTrigger (.areaReached id)).1)
      expedition.survey }

def restore (checkpoint : Checkpoint) : Expedition := start.surveyed checkpoint.completed

/-- The objectives of both scripts in their authored order. -/
def authored (expedition : Expedition) : List Objective :=
  expedition.survey.objectives ++ expedition.recovery.objectives

def objectives (expedition : Expedition) : List ActivityEvent :=
  expedition.authored.map .objectiveUpdated

def isActive (script : ScriptedActivity) (id : String) : Bool :=
  (script.objective id).any (fun objective => decide (objective.state = .active))

/-- A station that may be visited now. -/
def opens (expedition : Expedition) (id : String) : Bool :=
  (decide (id = "meridian_memory") && !expedition.memory) || isActive expedition.survey id ||
    isActive expedition.recovery id

/-- A script that has the objective takes its trigger. -/
def triggered (script : ScriptedActivity) (id : String) : ScriptedActivity × List ActivityEvent :=
  if (script.objective id).isSome then script.applyTrigger (.areaReached id) else (script, [])

def reach (expedition : Expedition) (id : String) : Expedition × List ActivityEvent :=
  if id = "meridian_memory" then
    ({ expedition with memory := true }, [.objectiveUpdated memoryObjective])
  else
    let (survey, surveyEvents) := triggered expedition.survey id
    let (recovery, recoveryEvents) := triggered expedition.recovery id
    ({ expedition with survey, recovery },
      (surveyEvents ++ recoveryEvents).filter ActivityEvent.isObjective)

/-- Resolves only active authored stations: the expedition after the visit, its
payload and its events.  Repeated visits do nothing. -/
def visit (expedition : Expedition) (position : Position) :
    Option (Expedition × String × List ActivityEvent) := do
  let station ← stations.find? (fun station =>
    decide (station.position = position) && expedition.opens station.id)
  let (after, events) := expedition.reach station.id
  return (after, revision ++ ":" ++ station.id, events)

end Expedition

/-! ## How far an expedition went -/

/-- The stations of each script, in their authored order. -/
def surveyOrder : List String := surveySource.objectives.map Objective.id

def returnOrder : List String := returnSource.objectives.map Objective.id

structure Progress where
  surveyed : Nat
  returned : Nat
  memory : Bool
  deriving DecidableEq, Repr

namespace Progress

/-- No more stations were reached than there are. -/
def Bounded (progress : Progress) : Prop := progress.surveyed < 4 ∧ progress.returned < 3

def expedition (progress : Progress) : Expedition :=
  { survey := (surveyOrder.take progress.surveyed).foldl
      (fun script id => (script.applyTrigger (.areaReached id)).1) surveySource
    recovery := (returnOrder.take progress.returned).foldl
      (fun script id => (script.applyTrigger (.areaReached id)).1) returnSource
    memory := progress.memory }

/-- The progress after a visit of an open station. -/
def visit (progress : Progress) (id : String) : Option Progress :=
  if surveyOrder[progress.surveyed]? = some id then
    some { progress with surveyed := progress.surveyed + 1 }
  else if returnOrder[progress.returned]? = some id then
    some { progress with returned := progress.returned + 1 }
  else if id = "meridian_memory" ∧ progress.memory = false then some { progress with memory := true }
  else none

variable {progress : Progress}

/-- A visit stays within the authored orders. -/
theorem Bounded.visit {next : Progress} {id : String} (bounded : progress.Bounded)
    (moved : progress.visit id = some next) : next.Bounded := by
  have three : surveyOrder.length = 3 := rfl
  have two : returnOrder.length = 2 := rfl
  unfold Progress.visit at moved
  split_ifs at moved with surveying returning optional
  · cases moved
    have early := (List.getElem?_eq_some_iff.mp surveying).1
    refine ⟨?_, bounded.2⟩
    change progress.surveyed + 1 < 4
    omega
  · cases moved
    have early := (List.getElem?_eq_some_iff.mp returning).1
    refine ⟨bounded.1, ?_⟩
    change progress.returned + 1 < 3
    omega
  · cases moved
    exact bounded

/-- The scripts and the optional station against the counts, at every progress
and every station. -/
theorem reach_expedition (bounded : progress.Bounded) {station : Station}
    (member : station ∈ stations) (open' : progress.expedition.opens station.id = true) :
    ∃ next, progress.visit station.id = some next ∧
      (progress.expedition.reach station.id).1 = next.expedition := by
  obtain ⟨surveyed, returned, memory⟩ := progress
  have every : ∀ surveyed < 4, ∀ returned < 3, ∀ memory : Bool, ∀ station ∈ stations,
      (expedition ⟨surveyed, returned, memory⟩).opens station.id = true →
        (visit ⟨surveyed, returned, memory⟩ station.id).map expedition =
          some ((expedition ⟨surveyed, returned, memory⟩).reach station.id).1 := by
    decide +kernel
  have reached := every surveyed bounded.1 returned bounded.2 memory station member open'
  obtain ⟨next, found, same⟩ := Option.map_eq_some_iff.mp reached
  exact ⟨next, found, same.symm⟩

/-- The identifiers of the objectives never change. -/
theorem authored_ids (bounded : progress.Bounded) :
    progress.expedition.authored.map Objective.id = surveyOrder ++ returnOrder := by
  obtain ⟨surveyed, returned, memory⟩ := progress
  have every : ∀ surveyed < 4, ∀ returned < 3,
      (expedition ⟨surveyed, returned, false⟩).authored.map Objective.id =
        surveyOrder ++ returnOrder := by
    decide +kernel
  exact every surveyed bounded.1 returned bounded.2

/-- Every station but the optional one reports authored objectives. -/
theorem reach_reports (bounded : progress.Bounded) {station : Station} (member : station ∈ stations)
    (other : station.id ≠ "meridian_memory") :
    ∀ event ∈ (progress.expedition.reach station.id).2, ∀ objective ∈ event.objective?,
      objective.id ∈ surveyOrder ++ returnOrder := by
  obtain ⟨surveyed, returned, memory⟩ := progress
  have every : ∀ surveyed < 4, ∀ returned < 3, ∀ memory : Bool, ∀ station ∈ stations,
      station.id ≠ "meridian_memory" →
        ((expedition ⟨surveyed, returned, memory⟩).reach station.id).2.all (fun event =>
          event.objective?.all (fun objective =>
            decide (objective.id ∈ surveyOrder ++ returnOrder))) = true := by
    decide +kernel
  intro event reported objective names
  have all := List.all_eq_true.mp
    (every surveyed bounded.1 returned bounded.2 memory station member other) event reported
  rw [Option.mem_def.mp names, Option.all_some, decide_eq_true_eq] at all
  exact all

end Progress

namespace Expedition

/-- The state an expedition shows for an objective. -/
def shown (expedition : Expedition) (id : String) : Option ObjectiveState :=
  match expedition.authored.find? (fun objective => objective.id = id) with
  | some objective => some objective.state
  | none => if id = "meridian_memory" ∧ expedition.memory then some .completed else none

/-- Only the optional station changes the flag. -/
theorem reach_memory {expedition after : Expedition} {id : String} {events : List ActivityEvent}
    (reached : expedition.reach id = (after, events)) :
    id = "meridian_memory" ∧ after.memory = true ∧ events = [.objectiveUpdated memoryObjective] ∨
      id ≠ "meridian_memory" ∧ after.memory = expedition.memory := by
  unfold reach at reached
  split at reached
  · next optional =>
    cases reached
    exact Or.inl ⟨optional, rfl, rfl⟩
  · next other =>
    cases reached
    exact Or.inr ⟨other, rfl⟩

end Expedition

variable {progress : Progress}

/-- What a visit does at a progress. -/
theorem visit_eq_some {position : Position} {after : Expedition} {payload : String}
    {events : List ActivityEvent} (bounded : progress.Bounded)
    (visited : progress.expedition.visit position = some (after, payload, events)) :
    ∃ station ∈ stations, station.position = position ∧
      payload = revision ++ ":" ++ station.id ∧
      progress.expedition.reach station.id = (after, events) ∧
      ∃ next, progress.visit station.id = some next ∧ after = next.expedition := by
  simp only [Expedition.visit, Option.bind_eq_bind, Option.bind_eq_some_iff, Option.pure_def,
    Option.some.injEq, Prod.mk.injEq] at visited
  obtain ⟨station, found, rfl, rfl, rfl⟩ := visited
  have member := List.mem_of_find?_eq_some found
  have chosen := List.find?_some found
  simp only [Bool.and_eq_true, decide_eq_true_eq] at chosen
  obtain ⟨next, moved, same⟩ := Progress.reach_expedition bounded member chosen.2
  exact ⟨station, member, chosen.1, rfl, rfl, next, moved, same⟩

/-! ## What was visited -/

/-- A sequence of visits with the progress it leads to. -/
structure Explored (visited : List String) (progress : Progress) : Prop where
  bounded : progress.Bounded
  survey : visited.filter (· ∈ surveyOrder) = surveyOrder.take progress.surveyed
  recovery : visited.filter (· ∈ returnOrder) = returnOrder.take progress.returned
  optional : visited.count "meridian_memory" = progress.memory.toNat
  known : ∀ id ∈ visited, ∃ station ∈ stations, station.id = id

/-- The visits of each script are a first part of its authored order, and the
optional station is visited at most once. -/
structure InOrder (visited : List String) : Prop where
  survey : visited.filter (· ∈ surveyOrder) <+: surveyOrder
  recovery : visited.filter (· ∈ returnOrder) <+: returnOrder
  optional : visited.count "meridian_memory" ≤ 1
  known : ∀ id ∈ visited, ∃ station ∈ stations, station.id = id

theorem Explored.inOrder {visited : List String} (explored : Explored visited progress) :
    InOrder visited := by
  constructor
  · rw [explored.survey]
    exact List.take_prefix _ _
  · rw [explored.recovery]
    exact List.take_prefix _ _
  · rw [explored.optional]
    cases progress.memory <;> decide
  · exact explored.known

theorem explored_nil : Explored [] ⟨0, 0, false⟩ :=
  ⟨⟨by decide, by decide⟩, rfl, rfl, rfl, fun _ member => absurd member List.not_mem_nil⟩

/-- A restored expedition, as if its stations had been visited. -/
theorem restore_explored (checkpoint : Checkpoint) : ∃ progress,
    Explored checkpoint.completed progress ∧ Expedition.restore checkpoint = progress.expedition ∧
      progress.memory = false := by
  cases checkpoint with
  | entrance => exact ⟨⟨0, 0, false⟩, explored_nil, rfl, rfl⟩
  | arrival =>
      exact ⟨⟨1, 0, false⟩, ⟨⟨by decide, by decide⟩, rfl, rfl, rfl, by decide⟩, rfl, rfl⟩
  | surveyComplete =>
      exact ⟨⟨3, 0, false⟩, ⟨⟨by decide, by decide⟩, rfl, rfl, rfl, by decide⟩, rfl, rfl⟩

/-- A station of one order is in no other, and is not the optional one. -/
theorem orders_apart : ∀ id ∈ surveyOrder, id ∉ returnOrder ∧ id ≠ "meridian_memory" := by
  decide

theorem returnOrder_apart : ∀ id ∈ returnOrder, id ∉ surveyOrder ∧ id ≠ "meridian_memory" := by
  decide

theorem take_succ_of_getElem? {order : List String} {count : Nat} {id : String}
    (next : order[count]? = some id) : order.take (count + 1) = order.take count ++ [id] := by
  rw [List.take_add_one, next, Option.toList_some]

/-- One more visit. -/
theorem Explored.visit {visited : List String} {next : Progress} {station : Station}
    (explored : Explored visited progress) (member : station ∈ stations)
    (moved : progress.visit station.id = some next) : Explored (visited ++ [station.id]) next := by
  have known : ∀ id ∈ visited ++ [station.id], ∃ station ∈ stations, station.id = id := by
    intro id present
    rw [List.mem_append, List.mem_singleton] at present
    rcases present with old | rfl
    · exact explored.known id old
    · exact ⟨station, member, rfl⟩
  have bounded := explored.bounded.visit moved
  unfold Progress.visit at moved
  split_ifs at moved with surveying returning optional
  · cases moved
    have inside := List.mem_of_getElem? surveying
    obtain ⟨outside, other⟩ := orders_apart _ inside
    refine ⟨bounded, ?_, ?_, ?_, known⟩
    · rw [List.filter_append, explored.survey, take_succ_of_getElem? surveying]
      simp [inside]
    · rw [List.filter_append, explored.recovery]
      simp [outside]
    · rw [List.count_append, explored.optional]
      simp [other]
  · cases moved
    have inside := List.mem_of_getElem? returning
    obtain ⟨outside, other⟩ := returnOrder_apart _ inside
    refine ⟨bounded, ?_, ?_, ?_, known⟩
    · rw [List.filter_append, explored.survey]
      simp [outside]
    · rw [List.filter_append, explored.recovery, take_succ_of_getElem? returning]
      simp [inside]
    · rw [List.count_append, explored.optional]
      simp [other]
  · cases moved
    obtain ⟨same, unseen⟩ := optional
    rw [same] at known ⊢
    refine ⟨bounded, ?_, ?_, ?_, known⟩
    · rw [List.filter_append, explored.survey]
      simp [surveyOrder, surveySource, Objective.reachArea]
    · rw [List.filter_append, explored.recovery]
      simp [returnOrder, returnSource, Objective.reachArea]
    · rw [List.count_append, explored.optional, unseen]
      rfl

end Meridian
end Activities
end Revenant
