import Revenant.Activities.Authored
import Mathlib.Data.List.Pairwise

namespace Revenant
namespace Activities

open Library

/-!
# Firing the triggers of an activity

A trigger fires once, while all objectives it completes are active.  As long as
no objective is activated after it was completed, the triggers that have fired
tell the state of every objective.

The source keeps a state for each objective and nothing else.  `Fired` ties
these states to the list of triggers that have fired, which is what the
results on completion and on regression reason about.
-/

namespace TriggerDefinition

/-- The event of the world that a trigger waits for. -/
def world (trigger : TriggerDefinition) : WorldTrigger :=
  if trigger.event = "ActorGroupDead" then .actorGroupDead trigger.subject
  else .areaReached trigger.subject

theorem eventName_world {trigger : TriggerDefinition} (known : trigger.event ∈ worldEvents) :
    ScriptedActivity.eventName trigger.world = trigger.identity := by
  unfold world identity
  split
  · next dead => rw [dead]; rfl
  · next other =>
      rcases List.mem_cons.mp known with dead | reached
      · exact absurd dead other
      · rw [List.mem_singleton.mp reached]; rfl

end TriggerDefinition

namespace ScriptedActivity

/-- The definition an event of the world fires. -/
def named (script : ScriptedActivity) (trigger : WorldTrigger) : Option TriggerDefinition :=
  script.triggers.find? (fun definition =>
    (definition.event, definition.subject) = eventName trigger)

def standing (script : ScriptedActivity) (id : String) : Option ObjectiveState :=
  (script.objective id).map Objective.state

/-- Everything that an event of the world completes is active. -/
def Enabled (script : ScriptedActivity) (trigger : WorldTrigger) : Prop :=
  ∀ definition ∈ script.named trigger, ∀ id ∈ definition.complete,
    script.standing id = some .active

instance (script : ScriptedActivity) (trigger : WorldTrigger) : Decidable (script.Enabled trigger) :=
  inferInstanceAs (Decidable (∀ definition ∈ script.named trigger, ∀ id ∈ definition.complete,
    script.standing id = some .active))

def after (script : ScriptedActivity) (triggers : List WorldTrigger) : ScriptedActivity :=
  triggers.foldl (fun script trigger => (script.applyTrigger trigger).1) script

/-- The events of a sequence of triggers. -/
def emitted : ScriptedActivity → List WorldTrigger → List ActivityEvent
  | _, [] => []
  | script, trigger :: rest =>
      (script.applyTrigger trigger).2 ++ emitted (script.applyTrigger trigger).1 rest

/-- Each trigger fires at most once, and only while it is enabled. -/
def Orderly (script : ScriptedActivity) (triggers : List WorldTrigger) : Prop :=
  triggers.Nodup ∧ ∀ front trigger back, triggers = front ++ trigger :: back →
    (script.after front).Enabled trigger

section Sequences

variable {script : ScriptedActivity}

theorem after_append (first second : List WorldTrigger) :
    script.after (first ++ second) = (script.after first).after second :=
  List.foldl_append

theorem after_snoc (triggers : List WorldTrigger) (trigger : WorldTrigger) :
    script.after (triggers ++ [trigger]) = ((script.after triggers).applyTrigger trigger).1 := by
  rw [after_append]
  rfl

theorem emitted_append (first second : List WorldTrigger) :
    script.emitted (first ++ second) = script.emitted first ++ (script.after first).emitted second := by
  induction first generalizing script with
  | nil => rfl
  | cons trigger rest inductionHypothesis =>
      rw [List.cons_append, emitted, inductionHypothesis, emitted, List.append_assoc]
      rfl

theorem Orderly.snoc {triggers : List WorldTrigger} {trigger : WorldTrigger}
    (orderly : script.Orderly triggers) (fresh : trigger ∉ triggers)
    (enabled : (script.after triggers).Enabled trigger) :
    script.Orderly (triggers ++ [trigger]) := by
  constructor
  · refine List.nodup_append.mpr ⟨orderly.1, List.nodup_singleton _, ?_⟩
    rintro earlier member other only rfl
    exact fresh (List.mem_singleton.mp only ▸ member)
  · exact forall_split_snoc (fun front trigger _ => (script.after front).Enabled trigger)
      orderly.2 enabled

theorem orderly_nil : script.Orderly [] := by
  refine ⟨List.nodup_nil, ?_⟩
  intro front trigger back split
  simp at split

theorem Orderly.of_append {first second : List WorldTrigger}
    (orderly : script.Orderly (first ++ second)) : script.Orderly first := by
  constructor
  · exact (List.nodup_append.mp orderly.1).1
  · intro front trigger back split
    refine orderly.2 front trigger (back ++ second) ?_
    rw [split, List.append_assoc, List.cons_append]

end Sequences

/-! ## One trigger -/

section Step

variable {script : ScriptedActivity} {how : Objective → Objective} {target : ObjectiveState}

theorem objective_id {id : String} {objective : Objective}
    (found : script.objective id = some objective) : objective.id = id := by
  simpa using List.find?_some found

theorem objective_write (written : Objective) (id : String) :
    (script.write written).objective id =
      (script.objective id).map (fun old => if old.id = written.id then written else old) := by
  have same : ((fun old : Objective => decide (old.id = id)) ∘ fun old =>
      if old.id = written.id then written else old) = fun old => decide (old.id = id) := by
    funext old
    simp only [Function.comp_apply]
    split
    · next equal => rw [equal]
    · rfl
  unfold objective write
  rw [List.find?_map, same]

theorem standing_change (keeps : ∀ objective, (how objective).id = objective.id)
    (sets : ∀ objective, (how objective).state = target)
    (progress : ScriptedActivity × List ActivityEvent) (changed id : String) :
    (change how progress changed).1.standing id =
      if id = changed then (progress.1.standing id).map (fun _ => target)
      else progress.1.standing id := by
  cases found : progress.1.objective changed with
  | none =>
      simp only [change, standing, found]
      split
      · next same => rw [same, found]; rfl
      · rfl
  | some objective =>
      simp only [change, standing, found]
      rw [objective_write, keeps, objective_id found]
      cases other : progress.1.objective id with
      | none => split <;> rfl
      | some old =>
          have same : old.id = id := objective_id other
          rw [Option.map_some, Option.map_some, same]
          split
          · rw [sets]; rfl
          · rfl

theorem standing_changes (keeps : ∀ objective, (how objective).id = objective.id)
    (sets : ∀ objective, (how objective).state = target) (ids : List String)
    (progress : ScriptedActivity × List ActivityEvent) (id : String) :
    (ids.foldl (change how) progress).1.standing id =
      if id ∈ ids then (progress.1.standing id).map (fun _ => target)
      else progress.1.standing id := by
  induction ids generalizing progress with
  | nil => rfl
  | cons changed rest inductionHypothesis =>
      rw [List.foldl_cons, inductionHypothesis, standing_change keeps sets]
      by_cases here : id = changed
      · rw [if_pos here, if_pos (List.mem_cons.mpr (Or.inl here)), Option.map_map]
        split <;> rfl
      · simp only [List.mem_cons, here, false_or, if_false]

/-- What a change of objectives leaves as it is. -/
theorem change_frame (how : Objective → Objective) (ids : List String)
    (progress : ScriptedActivity × List ActivityEvent) :
    (ids.foldl (change how) progress).1.triggers = progress.1.triggers ∧
      (ids.foldl (change how) progress).1.id = progress.1.id ∧
      (ids.foldl (change how) progress).1.objectives.map Objective.id =
        progress.1.objectives.map Objective.id ∧
      ∃ updates, (ids.foldl (change how) progress).2 = progress.2 ++ updates ∧
        ∀ event ∈ updates, event.isObjective = true := by
  induction ids generalizing progress with
  | nil =>
      exact ⟨rfl, rfl, rfl, [], (List.append_nil _).symm, fun _ member =>
        absurd member List.not_mem_nil⟩
  | cons changed rest inductionHypothesis =>
      obtain ⟨triggers, identity, ids, updates, events, all⟩ :=
        inductionHypothesis (change how progress changed)
      rw [List.foldl_cons, triggers, identity, ids, events]
      unfold change
      cases found : progress.1.objective changed with
      | none => exact ⟨rfl, rfl, rfl, updates, rfl, all⟩
      | some objective =>
          refine ⟨rfl, rfl, ?_, .objectiveUpdated (how objective) :: updates, ?_, ?_⟩
          · dsimp only [write]
            rw [List.map_map]
            apply List.map_congr_left
            intro old _
            simp only [Function.comp_apply]
            split
            · next same => exact same.symm
            · rfl
          · exact List.append_assoc _ _ _
          · exact List.forall_mem_cons.mpr ⟨rfl, all⟩

theorem applyTrigger_frame (trigger : WorldTrigger) :
    (script.applyTrigger trigger).1.triggers = script.triggers ∧
      (script.applyTrigger trigger).1.id = script.id ∧
      (script.applyTrigger trigger).1.objectives.map Objective.id =
        script.objectives.map Objective.id := by
  unfold applyTrigger
  split
  · exact ⟨rfl, rfl, rfl⟩
  · next definition _ =>
      obtain ⟨triggers, identity, ids, -⟩ := change_frame
        (fun objective => { objective with progress := objective.target, state := .completed })
        definition.complete (script, [])
      obtain ⟨triggers', identity', ids', -⟩ := change_frame
        (fun objective => { objective with state := .active }) definition.activate
        (definition.complete.foldl (change fun objective =>
          { objective with progress := objective.target, state := .completed }) (script, []))
      exact ⟨triggers'.trans triggers, identity'.trans identity, ids'.trans ids⟩

variable {trigger : WorldTrigger}

theorem standing_applyTrigger {definition : TriggerDefinition}
    (found : script.named trigger = some definition) (id : String) :
    (script.applyTrigger trigger).1.standing id =
      if id ∈ definition.activate then (script.standing id).map (fun _ => .active)
      else if id ∈ definition.complete then (script.standing id).map (fun _ => .completed)
      else script.standing id := by
  unfold named at found
  unfold applyTrigger
  rw [found]
  dsimp only
  have activated := fun progress => @standing_changes
    (fun objective => { objective with state := .active }) .active (fun _ => rfl) (fun _ => rfl)
    definition.activate progress id
  have completed := fun progress => @standing_changes
    (fun objective => { objective with progress := objective.target, state := .completed })
    .completed (fun _ => rfl) (fun _ => rfl) definition.complete progress id
  rw [activated, completed]
  by_cases listed : id ∈ definition.complete
  · simp only [listed, if_true, Option.map_map]
    rfl
  · simp only [listed, if_false]

theorem applyTrigger_none (unnamed : script.named trigger = none) :
    script.applyTrigger trigger = (script, []) := by
  unfold named at unnamed
  unfold applyTrigger
  rw [unnamed]

/-- A trigger announces the end of the activity exactly when it is the terminal one. -/
theorem count_applyTrigger {definition : TriggerDefinition}
    (found : script.named trigger = some definition) :
    (script.applyTrigger trigger).2.count (.completed script.id) =
      if definition.completeActivity = true then 1 else 0 := by
  unfold named at found
  unfold applyTrigger
  rw [found]
  obtain ⟨-, -, -, completions, first, objectives⟩ := change_frame
    (fun objective => { objective with progress := objective.target, state := .completed })
    definition.complete (script, [])
  obtain ⟨-, identity, -, activations, second, objectives'⟩ := change_frame
    (fun objective => { objective with state := .active }) definition.activate
    (definition.complete.foldl (change fun objective =>
      { objective with progress := objective.target, state := .completed }) (script, []))
  have silent : ∀ updates : List ActivityEvent, (∀ event ∈ updates, event.isObjective = true) →
      updates.count (.completed script.id) = 0 := by
    intro updates all
    rw [List.count_eq_zero]
    intro member
    cases all _ member
  have doors : (definition.openDoor.toList.map ActivityEvent.doorOpened).count
      (.completed script.id) = 0 := by
    rw [List.count_eq_zero]
    simp
  have bosses : (definition.spawnBoss.toList.map ActivityEvent.bossRequested).count
      (.completed script.id) = 0 := by
    rw [List.count_eq_zero]
    simp
  dsimp only
  rw [second, first, List.nil_append]
  simp only [List.count_append, silent _ objectives, silent _ objectives', doors, bosses]
  split
  · simp
  · rfl

end Step

end ScriptedActivity

/-! ## What the fired triggers tell -/

/-- The state of an objective that was never activated after its completion. -/
def told (script : ScriptedActivity) (fired : List TriggerDefinition) (id : String) :
    Option ObjectiveState :=
  if id ∈ fired.flatMap TriggerDefinition.complete then some .completed
  else if id ∈ fired.flatMap TriggerDefinition.activate then some .active
  else script.standing id

/-- A state of the activity after some of its triggers have fired. -/
structure Fired (script : ScriptedActivity) (fired : List TriggerDefinition)
    (state : ScriptedActivity) : Prop where
  triggers : state.triggers = script.triggers
  identity : state.id = script.id
  ids : state.objectives.map Objective.id = script.objectives.map Objective.id
  tells : ∀ id ∈ script.objectives.map Objective.id, state.standing id = told script fired id

section Firing

variable {script state : ScriptedActivity} {fired : List TriggerDefinition}
variable {definition : TriggerDefinition} {trigger : WorldTrigger}

variable {id : String}

theorem standing_isSome (known : id ∈ state.objectives.map Objective.id) :
    ∃ current, state.standing id = some current := by
  obtain ⟨objective, member, same⟩ := List.mem_map.mp known
  cases search : state.objective id with
  | none =>
      rw [ScriptedActivity.objective, List.find?_eq_none] at search
      exact absurd (decide_eq_true same) (search objective member)
  | some found => exact ⟨found.state, congrArg (Option.map Objective.state) search⟩

/-- Identifiers are unique, so an objective has the state its identifier tells. -/
theorem standing_of_mem (distinct : (state.objectives.map Objective.id).Nodup)
    {objective : Objective} (member : objective ∈ state.objectives) :
    state.standing objective.id = some objective.state := by
  cases search : state.objective objective.id with
  | none =>
      rw [ScriptedActivity.objective, List.find?_eq_none] at search
      exact absurd (decide_eq_true rfl) (search objective member)
  | some found =>
      have same := List.inj_on_of_nodup_map distinct (List.mem_of_find?_eq_some search) member
        (ScriptedActivity.objective_id search)
      exact same ▸ congrArg (Option.map Objective.state) search

theorem fired_nil : Fired script [] script := by
  constructor
  · rfl
  · rfl
  · rfl
  · intro id _
    exact (if_neg List.not_mem_nil).trans (if_neg List.not_mem_nil) |>.symm

/-- A state names its triggers as the script does. -/
theorem Fired.named (now : Fired script fired state) (trigger : WorldTrigger) :
    state.named trigger = script.named trigger := by
  rw [ScriptedActivity.named, now.triggers]
  rfl

/-- One more trigger, which activates nothing that was completed. -/
theorem Fired.snoc (now : Fired script fired state) (found : script.named trigger = some definition)
    (apart : ∀ id ∈ definition.complete, id ∉ definition.activate)
    (early : ∀ id ∈ definition.activate, id ∉ fired.flatMap TriggerDefinition.complete) :
    Fired script (fired ++ [definition]) (state.applyTrigger trigger).1 := by
  obtain ⟨triggers, identity, ids⟩ := @ScriptedActivity.applyTrigger_frame state trigger
  constructor
  · exact triggers.trans now.triggers
  · exact identity.trans now.identity
  · exact ids.trans now.ids
  · intro id known
    have here := now.tells id known
    obtain ⟨current, standing⟩ := standing_isSome (now.ids ▸ known)
    rw [ScriptedActivity.standing_applyTrigger ((now.named trigger).trans found), standing]
    unfold told at here ⊢
    simp only [List.flatMap_append, List.flatMap_singleton, List.mem_append]
    by_cases activated : id ∈ definition.activate
    · have completed : id ∉ definition.complete := fun member => apart id member activated
      simp only [activated, early id activated, completed, or_self, or_true, if_false, if_true,
        Option.map_some]
    · by_cases completed : id ∈ definition.complete
      · simp only [activated, completed, or_true, if_false, if_true, Option.map_some]
      · simp only [activated, completed, or_false, if_false]
        rw [← standing]
        exact here

/-- In a state that the fired triggers tell, an active objective was active from
the beginning or was activated. -/
theorem Fired.of_active (now : Fired script fired state)
    (known : id ∈ script.objectives.map Objective.id) (active : state.standing id = some .active) :
    script.standing id = some .active ∨ id ∈ fired.flatMap TriggerDefinition.activate := by
  rw [now.tells id known, told] at active
  split at active
  · cases active
  · split at active
    · next activated => exact Or.inr activated
    · exact Or.inl active

theorem Fired.active (now : Fired script fired state)
    (known : id ∈ script.objectives.map Objective.id)
    (open' : id ∉ fired.flatMap TriggerDefinition.complete)
    (cause : script.standing id = some .active ∨ id ∈ fired.flatMap TriggerDefinition.activate) :
    state.standing id = some .active := by
  rw [now.tells id known, told, if_neg open']
  rcases cause with initial | activated
  · split
    · rfl
    · exact initial
  · rw [if_pos activated]

theorem Fired.completed_iff (now : Fired script fired state)
    (known : id ∈ script.objectives.map Objective.id) (fresh : script.standing id ≠ some .completed) :
    state.standing id = some .completed ↔ id ∈ fired.flatMap TriggerDefinition.complete := by
  rw [now.tells id known, told]
  split
  · next completed => exact ⟨fun _ => completed, fun _ => rfl⟩
  · next missing =>
      refine ⟨fun impossible => ?_, fun completed => absurd completed missing⟩
      split at impossible
      · cases impossible
      · exact absurd impossible fresh

end Firing

/-! ## Authored scripts -/

section Authored

variable {script : ScriptedActivity}

/-- Identities are unique, so an event of the world fires its own trigger. -/
theorem Authored.named_world (authored : Authored script) {trigger : TriggerDefinition}
    (member : trigger ∈ script.triggers) : script.named trigger.world = some trigger := by
  have name := TriggerDefinition.eventName_world (authored.wellformed trigger member).event
  unfold ScriptedActivity.named
  rw [name]
  cases search : script.triggers.find? (fun definition =>
      (definition.event, definition.subject) = trigger.identity) with
  | none =>
      rw [List.find?_eq_none] at search
      exact absurd (decide_eq_true rfl) (search trigger member)
  | some found =>
      have same := List.find?_some search
      rw [decide_eq_true_eq] at same
      rw [List.inj_on_of_nodup_map authored.identities (List.mem_of_find?_eq_some search) member same]

theorem mem_of_named {trigger : WorldTrigger} {definition : TriggerDefinition}
    (found : script.named trigger = some definition) : definition ∈ script.triggers :=
  List.mem_of_find?_eq_some found

/-- Two events of the world that name one trigger are the same. -/
theorem eq_of_named {first second : WorldTrigger} {definition : TriggerDefinition}
    (found : script.named first = some definition)
    (found' : script.named second = some definition) : first = second := by
  have name : (definition.event, definition.subject) = ScriptedActivity.eventName first := by
    simpa using List.find?_some found
  have name' : (definition.event, definition.subject) = ScriptedActivity.eventName second := by
    simpa using List.find?_some found'
  have same := name.symm.trans name'
  cases first <;> cases second <;> simp_all [ScriptedActivity.eventName]

/-- Each objective is completed by one trigger. -/
theorem Authored.completer_unique (authored : Authored script) {first second : TriggerDefinition}
    {id : String} (member : first ∈ script.triggers) (member' : second ∈ script.triggers)
    (completes : id ∈ first.complete) (completes' : id ∈ second.complete) : first = second := by
  by_contra different
  obtain ⟨-, disjoint⟩ := List.nodup_flatMap.mp authored.once
  have symmetric : Std.Symm (Function.onFun List.Disjoint TriggerDefinition.complete) :=
    ⟨fun _ _ apart => apart.symm⟩
  exact List.Pairwise.forall disjoint member member' different completes completes'

theorem Authored.standing (authored : Authored script) {objective : Objective}
    (member : objective ∈ script.objectives) :
    script.standing objective.id = some objective.state :=
  standing_of_mem authored.distinct member

theorem Authored.not_completed (authored : Authored script) {id : String}
    (known : id ∈ script.objectives.map Objective.id) : script.standing id ≠ some .completed := by
  obtain ⟨objective, member, rfl⟩ := List.mem_map.mp known
  rw [authored.standing member]
  rcases authored.initial objective member with pending | active
  · rw [pending]; exact nofun
  · rw [active]; exact nofun

end Authored

end Activities
end Revenant
