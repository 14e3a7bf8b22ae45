import Revenant.Activities.Authoring
import Revenant.Library.EventFold
import Mathlib.Data.List.ProdSigma

namespace Revenant
namespace Activities

open Library
open Operations (RouteId RouteObjectiveId)

/-!
# What an accepted activity keeps

The checks of the reader are collected into one statement about the script of an
accepted activity without routes.

`Authored` is what later results use in place of the reader: which objectives
there are, who completes each of them, and that everything is reached from the
first one.  It says nothing about scripts with routes, which have a reader of
their own.
-/

/-- The objectives that one trigger connects. -/
def ScriptedActivity.Connects (script : ScriptedActivity) (source target : String) : Prop :=
  ∃ trigger ∈ script.triggers, source ∈ trigger.complete ∧ target ∈ trigger.activate

/-- What the reader checks of one trigger. -/
structure TriggerDefinition.Wellformed (objectives : List Objective) (trigger : TriggerDefinition) :
    Prop where
  event : trigger.event ∈ worldEvents
  known : ∀ id ∈ trigger.complete ++ trigger.activate, id ∈ objectives.map Objective.id
  apart : ∀ id ∈ trigger.complete, id ∉ trigger.activate
  last : trigger.completeActivity = true → trigger.activate = []

/-- A script the reader accepts without routes. -/
structure Authored (script : ScriptedActivity) : Prop where
  distinct : (script.objectives.map Objective.id).Nodup
  initial : ∀ objective ∈ script.objectives, objective.state = .pending ∨ objective.state = .active
  wellformed : ∀ trigger ∈ script.triggers, trigger.Wellformed script.objectives
  identities : (script.triggers.map TriggerDefinition.identity).Nodup
  terminal : script.triggers.countP TriggerDefinition.completeActivity = 1
  once : (script.triggers.flatMap TriggerDefinition.complete).Nodup
  completes : ∀ id ∈ script.objectives.map Objective.id,
    id ∈ script.triggers.flatMap TriggerDefinition.complete
  acyclic : Acyclic script.Connects
  provided : ∀ objective ∈ script.objectives, objective.state = .active ∨
    ∃ trigger ∈ script.triggers, objective.id ∈ trigger.activate

/-! ## Objectives and triggers -/

theorem parseObjectiveState_initial {text : String} {state : ObjectiveState}
    (parsed : parseObjectiveState text = .ok state) : state = .pending ∨ state = .active := by
  unfold parseObjectiveState at parsed
  split at parsed
  · cases parsed
    exact Or.inl rfl
  · cases parsed
    exact Or.inr rfl
  · cases parsed

variable {objectives : List Objective}

theorem parseObjectives_spec {tables : List AuthoringObjective}
    (parsed : parseObjectives tables = .ok objectives) :
    (objectives.map Objective.id).Nodup ∧ objectives.length ≤ maxObjectives ∧
      ∀ objective ∈ objectives, objective.state = .pending ∨ objective.state = .active := by
  simp only [parseObjectives, bind_eq_ok, exists_unit, rejectIf_eq_ok, validateSequenceShape,
    pure_eq_ok] at parsed
  obtain ⟨bounded, -, read, folded, -, rfl⟩ := parsed
  have history := @foldlM_history _ _ _ _ (fun seen read =>
      (read.map Objective.id).Nodup ∧ read.length = seen.length ∧
        ∀ objective ∈ read, objective.state = .pending ∨ objective.state = .active) _ _ _
    folded ⟨List.nodup_nil, rfl, fun _ member => absurd member List.not_mem_nil⟩ (by
      rintro seen read table next ⟨distinct, count, initial⟩ step
      simp only [parseObjective, bind_eq_ok, exists_unit, rejectIf_eq_ok, pure_eq_ok] at step
      obtain ⟨-, kind, -, state, parsedState, -, new, rfl⟩ := step
      refine ⟨?_, by simp only [List.length_append, List.length_singleton, count], ?_⟩
      · rw [List.map_append]
        refine List.nodup_append.mpr ⟨distinct, List.nodup_singleton _, ?_⟩
        rintro id member other only rfl
        rw [List.map_singleton, List.mem_singleton] at only
        subst only
        exact new member
      · intro objective member
        rcases List.mem_append.mp member with old | only
        · exact initial objective old
        · rw [List.mem_singleton] at only
          exact only ▸ parseObjectiveState_initial parsedState)
  exact ⟨history.1, history.2.1 ▸ not_lt.mp bounded, history.2.2⟩

theorem parseTrigger_wellformed {table : AuthoringTrigger} {trigger : TriggerDefinition}
    (parsed : parseTrigger objectives table = .ok trigger) : trigger.Wellformed objectives := by
  simp only [parseTrigger, optionalStringSequence, validateUniqueReferences, bind_eq_ok, exists_unit,
    rejectIf_eq_ok, pure_eq_ok, forM_eq_ok, knownReference, not_not] at parsed
  obtain ⟨event, -, -, ⟨-, -, rfl⟩, -, ⟨-, -, rfl⟩, -, -, known, apart, -, -, last, -, rfl⟩ := parsed
  constructor
  · exact event
  · exact known
  · intro id completed activated
    exact apart ⟨id, completed, activated⟩
  · intro terminal
    by_contra some
    exact last ⟨terminal, Or.inl some⟩

variable {triggers : List TriggerDefinition}

theorem parseTriggers_spec {tables : List AuthoringTrigger}
    (parsed : parseTriggers tables objectives = .ok triggers) :
    (triggers.map TriggerDefinition.identity).Nodup ∧
      (∀ trigger ∈ triggers, trigger.Wellformed objectives) ∧
      triggers.countP TriggerDefinition.completeActivity = 1 := by
  simp only [parseTriggers, bind_eq_ok, exists_unit, rejectIf_eq_ok, pure_eq_ok, not_not] at parsed
  obtain ⟨-, -, read, folded, terminal, rfl⟩ := parsed
  have history := @foldlM_history _ _ _ _ (fun _ read =>
      (read.map TriggerDefinition.identity).Nodup ∧
        ∀ trigger ∈ read, trigger.Wellformed objectives) _ _ _
    folded ⟨List.nodup_nil, fun _ member => absurd member List.not_mem_nil⟩ (by
      rintro seen read table next ⟨distinct, wellformed⟩ step
      simp only [addTrigger, bind_eq_ok, exists_unit, rejectIf_eq_ok, pure_eq_ok] at step
      obtain ⟨trigger, parsed, new, rfl⟩ := step
      constructor
      · rw [List.map_append]
        refine List.nodup_append.mpr ⟨distinct, List.nodup_singleton _, ?_⟩
        rintro identity member other only rfl
        rw [List.map_singleton, List.mem_singleton] at only
        subst only
        exact new member
      · intro other member
        rcases List.mem_append.mp member with old | only
        · exact wellformed other old
        · rw [List.mem_singleton] at only
          exact only ▸ parseTrigger_wellformed parsed)
  exact ⟨history.1, history.2, terminal⟩

/-! ## The graph -/

theorem addCompletion_fresh {completed next : List String} {id : String}
    (added : addCompletion completed id = .ok next) : id ∉ completed ∧ next = completed ++ [id] := by
  simp only [addCompletion, bind_eq_ok, exists_unit, rejectIf_eq_ok, pure_eq_ok] at added
  exact ⟨added.1, added.2.symm⟩

theorem addEdge_fresh {edges next : List Edge} {edge : Edge}
    (added : addEdge edges edge = .ok next) : edge ∉ edges ∧ next = edges ++ [edge] := by
  simp only [addEdge, bind_eq_ok, exists_unit, rejectIf_eq_ok, pure_eq_ok, not_or] at added
  exact ⟨added.1.2, added.2.symm⟩

/-- The graph holds the completions and the edges of all triggers, each once. -/
theorem graph_spec {graph : ObjectiveGraph}
    (built : triggers.foldlM ObjectiveGraph.add { edges := [], completed := [] } = .ok graph) :
    graph.completed = triggers.flatMap TriggerDefinition.complete ∧ graph.completed.Nodup ∧
      graph.edges = triggers.flatMap (fun trigger => trigger.complete ×ˢ trigger.activate) ∧
      graph.edges.Nodup := by
  refine @foldlM_history _ _ _ _ (fun read graph =>
    graph.completed = read.flatMap TriggerDefinition.complete ∧ graph.completed.Nodup ∧
      graph.edges = read.flatMap (fun trigger => trigger.complete ×ˢ trigger.activate) ∧
      graph.edges.Nodup) _ _ _ built ⟨rfl, List.nodup_nil, rfl, List.nodup_nil⟩ ?_
  rintro read graph trigger next ⟨completed, once, edges, distinct⟩ step
  simp only [ObjectiveGraph.add, bind_eq_ok, pure_eq_ok] at step
  obtain ⟨completions, pushed, connections, joined, rfl⟩ := step
  obtain ⟨rfl, onceAfter⟩ := foldlM_push addCompletion_fresh pushed
  obtain ⟨rfl, distinctAfter⟩ := foldlM_push addEdge_fresh joined
  refine ⟨?_, onceAfter once, ?_, distinctAfter distinct⟩
  · rw [List.flatMap_append, ← completed, List.flatMap_singleton]
  · rw [List.flatMap_append, ← edges, List.flatMap_singleton]

/-! ## Reachability -/

section Reachability

variable {edges : List Edge} {reachable : List String}

theorem le_spread (edges : List Edge) (reachable : List String) :
    reachable.length ≤ (spread edges reachable).length := by
  induction edges generalizing reachable with
  | nil => exact le_rfl
  | cons edge rest inductionHypothesis =>
      refine le_trans ?_ (inductionHypothesis (reachTarget reachable edge))
      unfold reachTarget
      split
      · exact List.length_le_length_insert
      · exact le_rfl

/-- A turn of the loop reaches something new, or nothing is left to be reached. -/
theorem spread_cases (edges : List Edge) (reachable : List String) :
    (spread edges reachable = reachable ∧ ∀ edge ∈ edges, edge.1 ∈ reachable → edge.2 ∈ reachable) ∨
      reachable.length < (spread edges reachable).length := by
  induction edges generalizing reachable with
  | nil => exact Or.inl ⟨rfl, fun _ member => absurd member List.not_mem_nil⟩
  | cons edge rest inductionHypothesis =>
      by_cases new : edge.1 ∈ reachable ∧ edge.2 ∉ reachable
      · right
        have turn : spread (edge :: rest) reachable = spread rest (reachable.insert edge.2) := by
          rw [spread, List.foldl_cons, reachTarget, if_pos new.1]
          rfl
        rw [turn]
        refine lt_of_lt_of_le ?_ (le_spread rest _)
        rw [List.length_insert_of_not_mem new.2]
        exact Nat.lt_succ_self _
      · have turn : spread (edge :: rest) reachable = spread rest reachable := by
          rw [spread, List.foldl_cons, reachTarget]
          split
          · next reached =>
              rw [List.insert_of_mem (not_not.mp (fun missing => new ⟨reached, missing⟩))]
              rfl
          · rfl
        rw [turn]
        rcases inductionHypothesis reachable with ⟨same, closed⟩ | grown
        · refine Or.inl ⟨same, ?_⟩
          intro other member
          rcases List.mem_cons.mp member with rfl | member
          · exact fun reached => not_not.mp (fun missing => new ⟨reached, missing⟩)
          · exact closed other member
        · exact Or.inr grown

theorem spread_nodup (distinct : reachable.Nodup) : (spread edges reachable).Nodup := by
  induction edges generalizing reachable with
  | nil => exact distinct
  | cons edge rest inductionHypothesis =>
      refine inductionHypothesis ?_
      unfold reachTarget
      split
      · exact distinct.insert
      · exact distinct

theorem subset_spread (edges : List Edge) (reachable : List String) :
    reachable ⊆ spread edges reachable := by
  induction edges generalizing reachable with
  | nil => exact List.Subset.refl _
  | cons edge rest inductionHypothesis =>
      refine List.Subset.trans ?_ (inductionHypothesis (reachTarget reachable edge))
      unfold reachTarget
      split
      · exact fun id member => List.mem_insert_of_mem member
      · exact List.Subset.refl _

/-- What follows along the edges, once it holds of what is reached, holds of all a
turn reaches. -/
theorem spread_follows {Holds : String → Prop}
    (follows : ∀ edge ∈ edges, Holds edge.1 → Holds edge.2) (first : ∀ id ∈ reachable, Holds id) :
    ∀ id ∈ spread edges reachable, Holds id := by
  induction edges generalizing reachable with
  | nil => exact first
  | cons edge rest inductionHypothesis =>
      refine inductionHypothesis (fun other member => follows other (List.mem_cons_of_mem _ member))
        (fun id member => ?_)
      unfold reachTarget at member
      split at member
      · next source =>
          rcases List.mem_insert_iff.mp member with rfl | early
          · exact follows edge List.mem_cons_self (first _ source)
          · exact first id early
      · exact first id member

theorem flood_follows {Holds : String → Prop} {turns : Nat}
    (follows : ∀ edge ∈ edges, Holds edge.1 → Holds edge.2) (first : ∀ id ∈ reachable, Holds id) :
    ∀ id ∈ flood edges turns reachable, Holds id := by
  induction turns generalizing reachable with
  | zero => exact first
  | succ turns inductionHypothesis =>
      simp only [flood]
      split
      · exact spread_follows follows first
      · exact inductionHypothesis (spread_follows follows first)

theorem subset_flood (turns : Nat) : reachable ⊆ flood edges turns reachable := by
  induction turns generalizing reachable with
  | zero => exact List.Subset.refl _
  | succ turns inductionHypothesis =>
      simp only [flood]
      split
      · exact subset_spread edges reachable
      · exact List.Subset.trans (subset_spread edges reachable) inductionHypothesis

/-- The loop stops by itself within enough turns, and then nothing is left to be
reached. -/
theorem flood_closed {turns : Nat} {known : List String} (distinct : reachable.Nodup)
    (inside : reachable ⊆ known) (targets : edges.map Prod.snd ⊆ known)
    (enough : known.length < turns + reachable.length) :
    ∀ edge ∈ edges, edge.1 ∈ flood edges turns reachable → edge.2 ∈ flood edges turns reachable := by
  induction turns generalizing reachable with
  | zero =>
      have few := (distinct.subperm inside).length_le
      omega
  | succ turns inductionHypothesis =>
      unfold flood
      rcases spread_cases edges reachable with ⟨same, closed⟩ | grown
      · rw [same, if_pos rfl]
        exact closed
      · rw [if_neg grown.ne']
        exact inductionHypothesis (spread_nodup distinct)
          (spread_follows (fun edge member _ => targets (List.mem_map_of_mem member)) inside)
          (by omega)

/-- One turn more than there are edges reaches exactly what paths along the edges
reach, so the bound on the turns never shows. -/
theorem mem_flood_iff (distinct : reachable.Nodup) {id : String} :
    id ∈ flood edges (edges.length + 1) reachable ↔
      ∃ start ∈ reachable, Relation.ReflTransGen (Leads edges) start id := by
  constructor
  · intro member
    have follows : ∀ edge ∈ edges,
        (∃ start ∈ reachable, Relation.ReflTransGen (Leads edges) start edge.1) →
          ∃ start ∈ reachable, Relation.ReflTransGen (Leads edges) start edge.2 := by
      rintro edge inside ⟨start, first, path⟩
      exact ⟨start, first, path.tail inside⟩
    exact @flood_follows edges reachable
      (fun id => ∃ start ∈ reachable, Relation.ReflTransGen (Leads edges) start id) _ follows
      (fun start first => ⟨start, first, Relation.ReflTransGen.refl⟩) id member
  · rintro ⟨start, first, path⟩
    have closed := @flood_closed edges reachable (edges.length + 1)
      (reachable ++ edges.map Prod.snd) distinct (List.subset_append_left _ _)
      (List.subset_append_right _ _) (by
        rw [List.length_append, List.length_map]
        omega)
    induction path with
    | refl => exact subset_flood _ first
    | tail earlier last inductionHypothesis => exact closed (_, _) last inductionHypothesis

end Reachability

/-! ## Acceptance -/

theorem mem_edges {edge : Edge} :
    edge ∈ triggers.flatMap (fun trigger => trigger.complete ×ˢ trigger.activate) ↔
      ∃ trigger ∈ triggers, edge.1 ∈ trigger.complete ∧ edge.2 ∈ trigger.activate := by
  obtain ⟨source, target⟩ := edge
  simp only [List.mem_flatMap, List.mem_product]

/-- The reader accepts only authored scripts. -/
theorem authored_of_parse {definition : AuthoringActivity} {activity : ParsedActivity}
    (parsed : parseDefinition definition = .ok activity) (plain : activity.routes = []) :
    Authored activity.script := by
  simp only [parseDefinition, bind_eq_ok, exists_unit, pure_eq_ok] at parsed
  obtain ⟨-, kind, -, reward, -, experience, -, objectives, parsedObjectives, triggers,
    parsedTriggers, routes, -, validated, rfl⟩ := parsed
  cases plain
  obtain ⟨distinct, few, initial⟩ := parseObjectives_spec parsedObjectives
  obtain ⟨identities, wellformed, terminal⟩ := parseTriggers_spec parsedTriggers
  simp only [validateObjectiveGraph, bind_eq_ok, exists_unit, rejectIf_eq_ok, forM_eq_ok,
    List.flatMap_nil, List.append_nil, not_exists, not_and, not_not] at validated
  obtain ⟨graph, built, completes, checked, reached, -⟩ := validated
  obtain ⟨completed, once, edges, distinctEdges⟩ := graph_spec built
  have known : ∀ edge ∈ graph.edges, edge.1 ∈ objectives.map Objective.id ∧
      edge.2 ∈ objectives.map Objective.id := by
    intro edge member
    rw [edges, mem_edges] at member
    obtain ⟨trigger, inside, source, target⟩ := member
    exact ⟨(wellformed trigger inside).known _ (List.mem_append_left _ source),
      (wellformed trigger inside).known _ (List.mem_append_right _ target)⟩
  -- at most eight objectives leave room for so many edges only
  have fits : graph.edges.length ≤ u64Max := by
    have pairs : graph.edges ⊆ objectives.map Objective.id ×ˢ objectives.map Objective.id :=
      fun edge member => List.mem_product.mpr (known edge member)
    have few' := (distinctEdges.subperm pairs).length_le
    rw [List.length_product, List.length_map] at few'
    have square : objectives.length * objectives.length ≤ 8 * 8 := Nat.mul_le_mul few few
    exact few'.trans (square.trans (by decide))
  have acyclic : Acyclic (Leads graph.edges) := by
    refine acyclic_of_validateAcyclic distinct (fun edge member => (known edge member).2) fits ?_
    cases outcome : validateAcyclic u64Max (objectives.map Objective.id) graph.edges with
    | none => rw [outcome] at checked; cases checked
    | some result => rw [outcome] at checked; exact congrArg some checked
  let script : ScriptedActivity := { id := definition.id, objectives, triggers }
  change Authored script
  constructor
  · exact distinct
  · exact initial
  · exact wellformed
  · exact identities
  · exact terminal
  · exact completed ▸ once
  · exact fun id member => completed ▸ completes id member
  · intro id cycle
    have inside : script.Connects ≤ Leads graph.edges := by
      intro source target connects
      rw [Leads, edges, mem_edges]
      exact connects
    exact acyclic id (Relation.TransGen.mono inside id id cycle)
  · intro objective member
    have active : ((objectives.filter (fun objective => objective.state = .active)).map
        Objective.id).Nodup := distinct.sublist (List.filter_sublist.map _)
    obtain ⟨start, initially, path⟩ :=
      (mem_flood_iff active).mp (reached objective.id (List.mem_map_of_mem member))
    rcases path.cases_tail with same | ⟨source, -, inside⟩
    · obtain ⟨same, inside, equal⟩ := List.mem_map.mp (same ▸ initially)
      obtain ⟨inside, state⟩ := List.mem_filter.mp inside
      rw [List.inj_on_of_nodup_map distinct inside member equal] at state
      exact Or.inl (of_decide_eq_true state)
    · rw [Leads, edges, mem_edges] at inside
      obtain ⟨trigger, listed, -, activated⟩ := inside
      exact Or.inr ⟨trigger, listed, activated⟩

end Activities
end Revenant
