import Mathlib.Data.List.Basic

namespace Revenant
namespace Activities

/-!
# Scripted activities

An activity is a list of objectives and of triggers.  The first trigger that
names an event of the world completes and activates objectives and reports what
it changed.
-/

inductive ObjectiveKind where
  | killActors
  | reachArea
  | boss
  deriving DecidableEq, Repr

inductive ObjectiveState where
  | pending
  | active
  | completed
  | failed
  deriving DecidableEq, Repr

structure Objective where
  id : String
  kind : ObjectiveKind
  state : ObjectiveState
  progress : Nat
  target : Nat
  deriving DecidableEq, Repr

inductive WorldTrigger where
  | actorGroupDead (groupId : String)
  | areaReached (areaId : String)
  deriving DecidableEq, Repr

inductive ActivityEvent where
  | started (activityId : String)
  | objectiveUpdated (objective : Objective)
  | doorOpened (doorId : String)
  | bossRequested (archetype : String)
  | completed (activityId : String)
  deriving DecidableEq, Repr

structure TriggerDefinition where
  event : String
  subject : String
  complete : List String
  activate : List String
  openDoor : Option String
  spawnBoss : Option String
  completeActivity : Bool
  deriving DecidableEq, Repr

/-- An objective reached by walking, as the field scripts author it. -/
def Objective.reachArea (id : String) (state : ObjectiveState) : Objective :=
  { id, kind := .reachArea, state, progress := 0, target := 1 }

/-- A station of a field script: reaching it completes it and opens the next
one, or ends the activity. -/
def TriggerDefinition.station (subject : String) (next : Option String) : TriggerDefinition :=
  { event := "AreaReached", subject, complete := [subject], activate := next.toList
    openDoor := none, spawnBoss := none, completeActivity := next.isNone }

/-- The objectives stand in their authored order. -/
structure ScriptedActivity where
  id : String
  objectives : List Objective
  triggers : List TriggerDefinition
  deriving DecidableEq, Repr

namespace ScriptedActivity

def objective (script : ScriptedActivity) (id : String) : Option Objective :=
  script.objectives.find? (fun objective => objective.id = id)

def write (script : ScriptedActivity) (objective : Objective) : ScriptedActivity :=
  { script with
    objectives := script.objectives.map (fun old =>
      if old.id = objective.id then objective else old) }

/-- Changes one objective and reports it; an unknown one is passed over. -/
def change (how : Objective → Objective) (progress : ScriptedActivity × List ActivityEvent)
    (id : String) : ScriptedActivity × List ActivityEvent :=
  match progress.1.objective id with
  | none => progress
  | some objective =>
      (progress.1.write (how objective), progress.2 ++ [.objectiveUpdated (how objective)])

def eventName : WorldTrigger → String × String
  | .actorGroupDead groupId => ("ActorGroupDead", groupId)
  | .areaReached areaId => ("AreaReached", areaId)

def applyTrigger (script : ScriptedActivity) (trigger : WorldTrigger) :
    ScriptedActivity × List ActivityEvent :=
  match script.triggers.find? (fun definition =>
      (definition.event, definition.subject) = eventName trigger) with
  | none => (script, [])
  | some definition =>
      let progress := definition.complete.foldl
        (change (fun objective =>
          { objective with progress := objective.target, state := .completed })) (script, [])
      let progress := definition.activate.foldl
        (change (fun objective => { objective with state := .active })) progress
      (progress.1, progress.2 ++ definition.openDoor.toList.map .doorOpened ++
        definition.spawnBoss.toList.map .bossRequested ++
        if definition.completeActivity then [.completed script.id] else [])

end ScriptedActivity

namespace ActivityEvent

def objective? : ActivityEvent → Option Objective
  | objectiveUpdated objective => some objective
  | _ => none

def isObjective : ActivityEvent → Bool
  | objectiveUpdated _ => true
  | _ => false

end ActivityEvent

end Activities
end Revenant
