import Revenant.Activities.Acyclicity
import Revenant.Activities.Script
import Revenant.Inventory
import Revenant.Operations.Catalog

namespace Revenant
namespace Activities

open Library
open Operations (RouteId RouteEventId RouteObjectiveId)

/-!
# Authored activities

An activity is read from a table of objectives, triggers and routes.  The tables
are taken here as they are decoded; every check on what they say is made in the
order of the source.  An accepted activity without routes starts from one active
objective, each objective is completed by one trigger, and the objectives that
its triggers connect form a graph without cycles.
-/

def maxActivityIdBytes : Nat := 32
def maxObjectives : Nat := 8
def maxTriggers : Nat := 12
def maxRoutes : Nat := 2
def maxEventsPerRoute : Nat := 2
def maxObjectiveTarget : Nat := 100
def maxActivityExperience : Nat := 10000

structure AuthoringObjective where
  id : String
  kind : String
  state : String
  target : Nat
  deriving DecidableEq, Repr

structure AuthoringTrigger where
  event : String
  subject : String
  complete : List String
  activate : List String
  openDoor : Option String
  spawnBoss : Option String
  completeActivity : Bool
  deriving DecidableEq, Repr

structure AuthoringReward where
  itemId : String
  quantity : Nat
  deriving DecidableEq, Repr

structure AuthoringRouteEvent where
  eventId : String
  wardenHealthBasisPoints : Nat
  wardenCounterDamage : Nat
  deriving DecidableEq, Repr

structure AuthoringRoute where
  routeId : String
  durationMs : Nat
  reward : AuthoringReward
  experience : Nat
  objectivePath : List String
  events : List AuthoringRouteEvent
  deriving DecidableEq, Repr

/-- The table of an activity.  A field that may be left out is an option. -/
structure AuthoringActivity where
  id : String
  authoringRevision : Option String
  kind : Option String
  reward : AuthoringReward
  experience : Nat
  objectives : List AuthoringObjective
  triggers : List AuthoringTrigger
  routes : Option (List AuthoringRoute)
  deriving DecidableEq, Repr

inductive ActivityKind where
  | mission
  | fieldExcursion
  | campaignChapter
  deriving DecidableEq, Repr

structure ParsedActivity where
  kind : ActivityKind
  reward : AuthoringReward
  experienceReward : Nat
  script : ScriptedActivity
  routes : List (RouteId × List RouteObjectiveId)
  deriving DecidableEq, Repr

/-! ## Identifiers, sequences and rewards -/

def validateIdentifier (value context : String) : Except ActivityError Unit :=
  rejectIf (value = "" ∨ value.utf8ByteSize > maxActivityIdBytes ∨
      ¬ value.toList.all (fun letter => letter.isLower || letter.isDigit || letter == '_') = true)
    ⟨context ++ " must match [a-z0-9_]\x7b1,32\x7d"⟩

def validateSequenceShape (length maximum : Nat) (context : String) : Except ActivityError Unit :=
  rejectIf (length > maximum) ⟨s!"{context} contains {length} entries; maximum is {maximum}"⟩

def optionalStringSequence (values : List String) (key : String) (maximum : Nat) :
    Except ActivityError (List String) := do
  validateSequenceShape values.length maximum key
  values.forM (fun value => validateIdentifier value key)
  return values

def validateUniqueReferences (values : List String) (context : String) : Except ActivityError Unit :=
  rejectIf (¬ values.Nodup) ⟨s!"{context} contains a duplicate objective"⟩

def inventoryItems : List String := WeaponItem.all.map WeaponItem.itemId ++ ["relay_core_fragment"]

/-- `Reward::validated`, after the check of the identifier. -/
def parseReward (reward : AuthoringReward) : Except ActivityError AuthoringReward := do
  validateIdentifier reward.itemId "reward item id"
  rejectIf (reward.itemId ∉ inventoryItems) ⟨s!"unknown inventory item: {reward.itemId}"⟩
  rejectIf (reward.quantity = 0) ⟨"inventory quantity must be positive"⟩
  return reward

/-- `ExperienceReward::validated`. -/
def parseProgression (experience : Nat) : Except ActivityError Nat := do
  rejectIf (experience = 0) ⟨"experience reward must be positive"⟩
  rejectIf (experience > maxActivityExperience)
    ⟨s!"experience reward exceeds server limit: {experience}"⟩
  return experience

/-! ## Objectives -/

def parseObjectiveKind : String → Except ActivityError ObjectiveKind
  | "KillActors" => .ok .killActors
  | "ReachArea" => .ok .reachArea
  | "Boss" => .ok .boss
  | value => .error ⟨s!"unknown objective kind: {value}"⟩

def parseObjectiveState : String → Except ActivityError ObjectiveState
  | "Pending" => .ok .pending
  | "Active" => .ok .active
  | value => .error ⟨s!"invalid initial objective state: {value}"⟩

/-- One turn of the loop over the objectives. -/
def parseObjective (objectives : List Objective) (table : AuthoringObjective) :
    Except ActivityError (List Objective) := do
  validateIdentifier table.id "objective id"
  let kind ← parseObjectiveKind table.kind
  let state ← parseObjectiveState table.state
  rejectIf (¬ (1 ≤ table.target ∧ table.target ≤ maxObjectiveTarget))
    ⟨s!"objective target must be 1-{maxObjectiveTarget}"⟩
  rejectIf (table.id ∈ objectives.map Objective.id) ⟨s!"duplicate objective id: {table.id}"⟩
  return objectives ++ [{ id := table.id, kind, state, progress := 0, target := table.target }]

def parseObjectives (tables : List AuthoringObjective) : Except ActivityError (List Objective) := do
  validateSequenceShape tables.length maxObjectives "objectives"
  rejectIf (tables.length = 0) ⟨"activity requires at least one objective"⟩
  let objectives ← tables.foldlM parseObjective []
  rejectIf (objectives.countP (fun objective => objective.state = .active) ≠ 1)
    ⟨"activity must contain exactly one initially active objective"⟩
  return objectives

/-! ## Triggers -/

def worldEvents : List String := ["ActorGroupDead", "AreaReached"]

/-- A trigger may refer to the objectives only. -/
def knownReference (objectives : List Objective) (id : String) : Except ActivityError Unit :=
  rejectIf (id ∉ objectives.map Objective.id) ⟨s!"trigger references unknown objective: {id}"⟩

def parseTrigger (objectives : List Objective) (table : AuthoringTrigger) :
    Except ActivityError TriggerDefinition := do
  rejectIf (table.event ∉ worldEvents) ⟨s!"unknown trigger event: {table.event}"⟩
  validateIdentifier table.subject "trigger subject"
  let complete ← optionalStringSequence table.complete "complete" maxObjectives
  let activate ← optionalStringSequence table.activate "activate" maxObjectives
  validateUniqueReferences complete "trigger complete"
  validateUniqueReferences activate "trigger activate"
  (complete ++ activate).forM (knownReference objectives)
  rejectIf (∃ id ∈ complete, id ∈ activate)
    ⟨"trigger cannot complete and activate the same objective"⟩
  table.openDoor.toList.forM (fun id => validateIdentifier id "door id")
  table.spawnBoss.toList.forM (fun id => validateIdentifier id "boss archetype")
  rejectIf (table.completeActivity = true ∧
      (activate ≠ [] ∨ table.openDoor.isSome = true ∨ table.spawnBoss.isSome = true))
    ⟨"terminal trigger cannot activate or spawn later state"⟩
  rejectIf (complete = [] ∧ activate = [] ∧ table.openDoor.isNone = true ∧
      table.spawnBoss.isNone = true ∧ table.completeActivity = false)
    ⟨"trigger must have one bounded effect"⟩
  return { event := table.event, subject := table.subject, complete, activate
           openDoor := table.openDoor, spawnBoss := table.spawnBoss
           completeActivity := table.completeActivity }

def TriggerDefinition.identity (trigger : TriggerDefinition) : String × String :=
  (trigger.event, trigger.subject)

/-- One turn of the loop over the triggers. -/
def addTrigger (objectives : List Objective) (triggers : List TriggerDefinition)
    (table : AuthoringTrigger) : Except ActivityError (List TriggerDefinition) := do
  let trigger ← parseTrigger objectives table
  rejectIf (trigger.identity ∈ triggers.map TriggerDefinition.identity)
    ⟨s!"duplicate trigger identity: {trigger.event}/{trigger.subject}"⟩
  return triggers ++ [trigger]

def parseTriggers (tables : List AuthoringTrigger) (objectives : List Objective) :
    Except ActivityError (List TriggerDefinition) := do
  validateSequenceShape tables.length maxTriggers "triggers"
  rejectIf (tables.length = 0) ⟨"activity requires at least one trigger"⟩
  let triggers ← tables.foldlM (addTrigger objectives) []
  rejectIf (triggers.countP TriggerDefinition.completeActivity ≠ 1)
    ⟨"activity must contain exactly one terminal trigger"⟩
  return triggers

/-! ## Routes -/

def parseRouteObjective (objectives : List Objective) (path : List RouteObjectiveId)
    (value : String) : Except ActivityError (List RouteObjectiveId) := do
  rejectIf (value ∉ objectives.map Objective.id)
    ⟨s!"route path references unknown objective: {value}"⟩
  let objectiveId ← require
    ([RouteObjectiveId.clearDroneGroup, .reachRelayStabilizer, .reachRelayDoor, .defeatWarden].find?
      (fun objectiveId => objectiveId.asStr = value)) ⟨s!"unknown route objective: {value}"⟩
  rejectIf (objectiveId ∈ path) ⟨s!"route path repeats objective: {value}"⟩
  return path ++ [objectiveId]

def parseRouteObjectivePath (values : List String) (objectives : List Objective) :
    Except ActivityError (List RouteObjectiveId) := do
  validateSequenceShape values.length Operations.maxRouteObjectives "route objective path"
  rejectIf (values.length < 3) ⟨"route objective path requires three or four entries"⟩
  values.foldlM (parseRouteObjective objectives) []

def parseRouteEvent (routeId : RouteId) (expected : RouteEventId) (table : AuthoringRouteEvent) :
    Except ActivityError Unit := do
  let eventId ← require (RouteEventId.all.find? (fun eventId => eventId.asStr = table.eventId))
    ⟨s!"unknown route event: {table.eventId}"⟩
  rejectIf (eventId ≠ expected)
    ⟨s!"route {routeId.asStr} events must use canonical catalog order"⟩
  let effect := (Operations.eventDefinition eventId).effect
  rejectIf (table.wardenHealthBasisPoints ≠ effect.wardenHealthBasisPoints ∨
      table.wardenCounterDamage ≠ effect.wardenCounterDamage)
    ⟨s!"event {eventId.asStr} effect does not match {Operations.catalogRevision}"⟩

def parseRouteEvents (tables : List AuthoringRouteEvent) (routeId : RouteId) :
    Except ActivityError Unit := do
  validateSequenceShape tables.length maxEventsPerRoute "route events"
  rejectIf (tables.length ≠ maxEventsPerRoute)
    ⟨"route must contain exactly two event definitions"⟩
  let expected := (Operations.routeDefinition routeId).events
  (tables.zip [expected.1, expected.2]).forM
    (fun (table, event) => parseRouteEvent routeId event table)

/-- One of the two routes, with the identifier that stands at its place. -/
def parseExactRoute (objectives : List Objective) (canonical : RouteId) (table : AuthoringRoute) :
    Except ActivityError (RouteId × List RouteObjectiveId) := do
  let routeId ← require (RouteId.all.find? (fun routeId => routeId.asStr = table.routeId))
    ⟨s!"unknown route: {table.routeId}"⟩
  rejectIf (routeId ≠ canonical) ⟨"routes must use canonical catalog order"⟩
  let expected := Operations.routeDefinition routeId
  let mismatch (what : String) : ActivityError :=
    ⟨s!"route {routeId.asStr} {what} does not match {Operations.catalogRevision}"⟩
  rejectIf (table.durationMs ≠ expected.durationMs) (mismatch "duration")
  let reward ← parseReward table.reward
  rejectIf (reward.itemId ≠ "relay_core_fragment" ∨ reward.quantity ≠ expected.reward.fragments)
    (mismatch "reward")
  let experience ← parseProgression table.experience
  rejectIf (experience ≠ expected.reward.experience) (mismatch "experience")
  let objectivePath ← parseRouteObjectivePath table.objectivePath objectives
  rejectIf (objectivePath ≠ expected.objectivePath) (mismatch "objective path")
  parseRouteEvents table.events routeId
  return (routeId, objectivePath)

def parseRoutes (authoringRevision : Option String) (routes : Option (List AuthoringRoute))
    (objectives : List Objective) : Except ActivityError (List (RouteId × List RouteObjectiveId)) :=
  match authoringRevision, routes with
  | none, none => .ok []
  | none, some _ => .error ⟨"routed activity requires an authoring revision"⟩
  | some _, none => .error ⟨"authoring revision requires exactly two routes"⟩
  | some revision, some tables => do
      rejectIf (revision ≠ Operations.catalogRevision)
        ⟨s!"unknown activity authoring revision: {revision}"⟩
      validateSequenceShape tables.length maxRoutes "routes"
      rejectIf (tables.length ≠ maxRoutes) ⟨"activity must contain exactly two routes"⟩
      (tables.zip RouteId.all).mapM
        (fun (table, canonical) => parseExactRoute objectives canonical table)

/-! ## The graph of the objectives -/

/-- The edges and the completed objectives so far, in the order of insertion: no
result depends on the order of the source's trees. -/
structure ObjectiveGraph where
  edges : List Edge
  completed : List String

def addCompletion (completed : List String) (id : String) : Except ActivityError (List String) := do
  rejectIf (id ∈ completed) ⟨s!"objective has multiple completion transitions: {id}"⟩
  return completed ++ [id]

def addEdge (edges : List Edge) (edge : Edge) : Except ActivityError (List Edge) := do
  rejectIf (edge.1 = edge.2 ∨ edge ∈ edges)
    ⟨"objective graph contains a self-edge or duplicate edge"⟩
  return edges ++ [edge]

def ObjectiveGraph.add (graph : ObjectiveGraph) (trigger : TriggerDefinition) :
    Except ActivityError ObjectiveGraph := do
  let completed ← trigger.complete.foldlM addCompletion graph.completed
  let edges ← (trigger.complete ×ˢ trigger.activate).foldlM addEdge graph.edges
  return { edges, completed }

def reachTarget (reachable : List String) (edge : Edge) : List String :=
  if edge.1 ∈ reachable then reachable.insert edge.2 else reachable

/-- One turn of the loop that spreads along the edges. -/
def spread (edges : List Edge) (reachable : List String) : List String :=
  edges.foldl reachTarget reachable

/-- The loop stops when a turn reaches nothing new.  It is run for so many turns at
most; one more than there are edges is enough, by `mem_flood_iff`. -/
def flood (edges : List Edge) : Nat → List String → List String
  | 0, reachable => reachable
  | turns + 1, reachable =>
      let next := spread edges reachable
      if next.length = reachable.length then next else flood edges turns next

/-- The checks on the kind of an activity. -/
def validateKind (objectives : List Objective) (triggers : List TriggerDefinition)
    (routes : List (RouteId × List RouteObjectiveId)) (terminal : TriggerDefinition) :
    ActivityKind → Except ActivityError Unit
  | .fieldExcursion =>
      rejectIf (routes ≠ [] ∨ terminal.complete.length ≠ 1 ∨ terminal.activate ≠ [] ∨
          (∃ objective ∈ objectives, objective.kind ≠ .reachArea) ∨
          ∃ trigger ∈ triggers, trigger.event ≠ "AreaReached" ∨ trigger.spawnBoss.isSome = true ∨
            trigger.openDoor.isSome = true)
        ⟨"field excursions require area objectives and one final terminal, without combat, doors, " ++
          "or routes"⟩
  | .campaignChapter =>
      rejectIf (routes ≠ [] ∨ terminal.complete.length ≠ 1 ∨
          ∃ trigger ∈ triggers, trigger.spawnBoss.isSome = true ∨ trigger.openDoor.isSome = true)
        ⟨"campaign chapters require one final objective and gateway staging, without route or " ++
          "spawn side effects"⟩
  | .mission =>
      rejectIf (terminal.complete ≠ [RouteObjectiveId.defeatWarden.asStr])
        ⟨"terminal trigger must complete defeat_warden exactly"⟩

/-- A `usize` has 64 bits. -/
def validateObjectiveGraph (objectives : List Objective) (triggers : List TriggerDefinition)
    (routes : List (RouteId × List RouteObjectiveId)) (kind : ActivityKind) :
    Except ActivityError Unit := do
  let graph ← triggers.foldlM ObjectiveGraph.add { edges := [], completed := [] }
  rejectIf (∃ id ∈ objectives.map Objective.id, id ∉ graph.completed)
    ⟨"every objective must have one authored completion transition"⟩
  -- the loop of the check ends within its turns, so there is an outcome
  (validateAcyclic u64Max (objectives.map Objective.id) graph.edges).getD (.error cycleError)
  let active := (objectives.filter (fun objective => objective.state = .active)).map Objective.id
  let reachable := flood graph.edges (graph.edges.length + 1) active ++
    routes.flatMap (fun route => route.2.map RouteObjectiveId.asStr)
  (objectives.map Objective.id).forM (fun id => rejectIf (id ∉ reachable)
    ⟨s!"objective is unreachable from baseline or route path: {id}"⟩)
  let terminal ← require (triggers.find? TriggerDefinition.completeActivity)
    ⟨"activity terminal trigger is missing"⟩
  validateKind objectives triggers routes terminal kind

/-! ## The activity -/

def parseKind : Option String → Except ActivityError ActivityKind
  | none => .ok .mission
  | some "field_excursion" => .ok .fieldExcursion
  | some "campaign_chapter" => .ok .campaignChapter
  | some _ => .error ⟨"unknown activity kind"⟩

def parseDefinition (definition : AuthoringActivity) : Except ActivityError ParsedActivity := do
  validateIdentifier definition.id "activity id"
  let kind ← parseKind definition.kind
  let reward ← parseReward definition.reward
  let experienceReward ← parseProgression definition.experience
  let objectives ← parseObjectives definition.objectives
  let triggers ← parseTriggers definition.triggers objectives
  let routes ← parseRoutes definition.authoringRevision definition.routes objectives
  validateObjectiveGraph objectives triggers routes kind
  return { kind, reward, experienceReward
           script := { id := definition.id, objectives, triggers }, routes }

end Activities
end Revenant
