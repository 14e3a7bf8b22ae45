import Revenant.Library.Acyclic
import Revenant.Library.Checks
import Revenant.Library.Words
import Mathlib.Data.List.Perm.Subperm
import Mathlib.Logic.Function.Basic

namespace Revenant
namespace Activities

open Library

/-!
# The acyclicity check of objective graphs

Nodes without open predecessors are visited in turn, and each visit closes the
edges that leave the node.  While the loop runs, the indegree of a node is the
number of edges that reach it from nodes that were not visited, so it is taken
down only where it is positive, and every visited node stands behind all of its
predecessors.

The queue, the counts and the visited nodes are the variables of the source,
with its checked additions and subtractions: a count that would leave its
range there stops the loop here as well.  `Kept` is the invariant of one
visit, and `Leads` the relation whose cycles the check is about.
-/

/-- `ActivityError` is its message. -/
structure ActivityError where
  message : String
  deriving DecidableEq, Repr

/-- An edge from a completed objective to an activated one. -/
abbrev Edge := String × String

/-- The variables of the loop.  The source counts the visited nodes. -/
structure Sorting where
  indegree : String → Option Nat
  queue : List String
  visited : List String

/-- `checked_add(1)` of a machine word. -/
def checkedSucc (usizeMax value : Nat) : Option Nat :=
  if value + 1 ≤ usizeMax then some (value + 1) else none

/-- `checked_sub(1)`. -/
def checkedPred (value : Nat) : Option Nat := if 1 ≤ value then some (value - 1) else none

def countEdge (usizeMax : Nat) (indegree : String → Option Nat) (edge : Edge) :
    Except ActivityError (String → Option Nat) := do
  let value ← require (indegree edge.2) ⟨"objective graph edge target is unknown"⟩
  let value ← require (checkedSucc usizeMax value) ⟨"objective graph indegree overflowed"⟩
  return Function.update indegree edge.2 (some value)

/-- One edge of the node that is visited. -/
def closeEdge (sorting : Sorting) (edge : Edge) : Except ActivityError Sorting := do
  let degree ← require (sorting.indegree edge.2) ⟨"objective graph target disappeared"⟩
  let degree ← require (checkedPred degree) ⟨"objective graph indegree underflowed"⟩
  return { sorting with
    indegree := Function.update sorting.indegree edge.2 (some degree)
    queue := if degree = 0 then sorting.queue ++ [edge.2] else sorting.queue }

/-- The loop over the queue, for so many turns at most; `none` when it goes on. -/
def drain (edges : List Edge) : Nat → Sorting → Option (Except ActivityError Sorting)
  | 0, _ => none
  | turns + 1, sorting =>
      match sorting.queue with
      | [] => some (.ok sorting)
      | id :: queue =>
          let sorting := { sorting with queue, visited := sorting.visited ++ [id] }
          match (edges.filter (fun edge => edge.1 = id)).foldlM closeEdge sorting with
          | .error failure => some (.error failure)
          | .ok next => drain edges turns next

def initialSorting (objectives : List String) (indegree : String → Option Nat) : Sorting :=
  { indegree, queue := objectives.filter (fun id => indegree id = some 0), visited := [] }

def cycleError : ActivityError := ⟨"objective graph contains a cycle"⟩

/-- `validate_acyclic`, with the objectives and the edges in the order of their
trees.  `none` when the loop has not ended after one turn for each objective. -/
def validateAcyclic (usizeMax : Nat) (objectives : List String) (edges : List Edge) :
    Option (Except ActivityError Unit) :=
  let indegree : String → Option Nat := fun id => if id ∈ objectives then some 0 else none
  match edges.foldlM (countEdge usizeMax) indegree with
  | .error failure => some (.error failure)
  | .ok indegree =>
      (drain edges (objectives.length + 1) (initialSorting objectives indegree)).map
        (fun outcome => do
          let sorting ← outcome
          rejectIf (sorting.visited.length ≠ objectives.length) cycleError)

/-- The relation the edges make. -/
def Leads (edges : List Edge) (source target : String) : Prop := (source, target) ∈ edges

/-! ## Counting the edges into a node -/

/-- The edges into a node. -/
def arriving (edges : List Edge) (id : String) : Nat := edges.countP (fun edge => edge.2 = id)

/-- The edges into a node from nodes that were not visited. -/
def waiting (edges : List Edge) (visited : List String) (id : String) : Nat :=
  edges.countP (fun edge => decide (edge.2 = id) && decide (edge.1 ∉ visited))

section Counting

variable {edges : List Edge} {visited : List String} {id node : String}

theorem arriving_cons (edge : Edge) (edges : List Edge) (id : String) :
    arriving (edge :: edges) id = arriving edges id + if edge.2 = id then 1 else 0 := by
  simp only [arriving, List.countP_cons, decide_eq_true_eq]

theorem waiting_nil (edges : List Edge) (id : String) : waiting edges [] id = arriving edges id := by
  simp [waiting, arriving]

/-- Visiting a node leaves the edges that leave it to be closed. -/
theorem waiting_visit (fresh : node ∉ visited) :
    waiting edges visited id = waiting edges (visited ++ [node]) id +
      arriving (edges.filter (fun edge => edge.1 = node)) id := by
  induction edges with
  | nil => rfl
  | cons edge edges inductionHypothesis =>
      unfold waiting arriving at inductionHypothesis ⊢
      by_cases leaves : edge.1 = node
      · have unseen : edge.1 ∉ visited := leaves ▸ fresh
        have seen : edge.1 ∈ visited ++ [node] := by simp [leaves]
        rw [List.countP_cons, List.countP_cons, List.filter_cons_of_pos (by simpa using leaves),
          List.countP_cons, inductionHypothesis]
        simp only [unseen, seen, not_true_eq_false, not_false_eq_true, decide_true, decide_false,
          Bool.and_true, Bool.and_false, Bool.false_eq_true, if_false]
        omega
      · have same : edge.1 ∈ visited ++ [node] ↔ edge.1 ∈ visited := by simp [leaves]
        rw [List.countP_cons, List.countP_cons, List.filter_cons_of_neg (by simpa using leaves),
          inductionHypothesis]
        simp only [same]
        omega

/-- No open edge reaches a node when all of its predecessors were visited. -/
theorem waiting_eq_zero : waiting edges visited id = 0 ↔ ∀ source, Leads edges source id →
    source ∈ visited := by
  unfold waiting Leads
  rw [List.countP_eq_zero]
  simp only [Bool.and_eq_true, decide_eq_true_eq, not_and, not_not, Prod.forall]
  constructor
  · exact fun none source member => none source id member rfl
  · rintro all source target member rfl
    exact all source member

end Counting

/-! ## What the loop keeps -/

/-- The variables of the loop with the edges that the present visit has still
to close. -/
structure Kept (objectives : List String) (edges closing : List Edge) (sorting : Sorting) : Prop where
  degree : ∀ id ∈ objectives, sorting.indegree id =
    some (waiting edges sorting.visited id + arriving closing id)
  free : ∀ id ∈ objectives, id ∈ sorting.visited ++ sorting.queue ↔ sorting.indegree id = some 0
  distinct : (sorting.visited ++ sorting.queue).Nodup
  inside : ∀ id ∈ sorting.visited ++ sorting.queue, id ∈ objectives
  sorted : Sorted (Leads edges) sorting.visited

section Loop

variable {objectives : List String} {edges closing : List Edge} {sorting : Sorting}

/-- Closing an edge never takes an indegree below zero. -/
theorem Kept.closeEdge {edge : Edge} (kept : Kept objectives edges (edge :: closing) sorting)
    (known : edge.2 ∈ objectives) : ∃ next, closeEdge sorting edge = .ok next ∧
      Kept objectives edges closing next ∧ next.visited = sorting.visited := by
  have degree := kept.degree edge.2 known
  rw [arriving_cons, if_pos rfl] at degree
  generalize rest : waiting edges sorting.visited edge.2 + arriving closing edge.2 = remaining
    at degree
  have counted : sorting.indegree edge.2 = some (remaining + 1) := by
    rw [degree, ← rest]
    congr 1
  -- an open edge reaches the target, so it was neither visited nor queued
  have later : edge.2 ∉ sorting.visited ++ sorting.queue := by
    intro early
    rw [(kept.free edge.2 known).mp early] at counted
    cases counted
  have closed : Activities.closeEdge sorting edge = .ok { sorting with
      indegree := Function.update sorting.indegree edge.2 (some remaining)
      queue := if remaining = 0 then sorting.queue ++ [edge.2] else sorting.queue } := by
    simp only [Activities.closeEdge, counted, checkedPred, require, bind, Except.bind, pure,
      Except.pure, Nat.le_add_left, if_true, Nat.add_sub_cancel]
  refine ⟨_, closed, ?_, rfl⟩
  have degrees : ∀ id ∈ objectives, Function.update sorting.indegree edge.2 (some remaining) id =
      some (waiting edges sorting.visited id + arriving closing id) := by
    intro id member
    by_cases same : id = edge.2
    · rw [same, Function.update_self, rest]
    · rw [Function.update_of_ne same, kept.degree id member, arriving_cons,
        if_neg (fun equal => same equal.symm), Nat.add_zero]
  by_cases last : remaining = 0
  · have queued : (sorting.visited ++ (sorting.queue ++ [edge.2])) =
        sorting.visited ++ sorting.queue ++ [edge.2] := (List.append_assoc _ _ _).symm
    constructor
    · exact degrees
    · intro id member
      dsimp only
      rw [if_pos last, queued, List.mem_append, List.mem_singleton, kept.free id member]
      by_cases same : id = edge.2
      · rw [same, Function.update_self, last]
        exact ⟨fun _ => rfl, fun _ => Or.inr rfl⟩
      · rw [Function.update_of_ne same]
        exact ⟨fun either => either.resolve_right same, Or.inl⟩
    · dsimp only
      rw [if_pos last, queued]
      exact List.nodup_append.mpr ⟨kept.distinct, List.nodup_singleton _, by
        intro id early other only same
        rw [List.mem_singleton] at only
        exact later (only ▸ same ▸ early)⟩
    · dsimp only
      rw [if_pos last, queued]
      intro id member
      rw [List.mem_append, List.mem_singleton] at member
      rcases member with early | rfl
      · exact kept.inside id early
      · exact known
    · exact kept.sorted
  · constructor
    · exact degrees
    · intro id member
      dsimp only
      rw [if_neg last, kept.free id member]
      by_cases same : id = edge.2
      · rw [same, Function.update_self, counted]
        constructor
        · intro impossible
          cases impossible
        · intro impossible
          exact absurd (Option.some.inj impossible) last
      · rw [Function.update_of_ne same]
    · dsimp only
      rw [if_neg last]
      exact kept.distinct
    · dsimp only
      rw [if_neg last]
      exact kept.inside
    · exact kept.sorted

theorem Kept.closeEdges (kept : Kept objectives edges closing sorting)
    (known : ∀ edge ∈ closing, edge.2 ∈ objectives) :
    ∃ next, closing.foldlM Activities.closeEdge sorting = .ok next ∧
      Kept objectives edges [] next ∧ next.visited = sorting.visited := by
  induction closing generalizing sorting with
  | nil => exact ⟨sorting, rfl, kept, rfl⟩
  | cons edge closing inductionHypothesis =>
      obtain ⟨middle, closed, keptMiddle, same⟩ := kept.closeEdge (known edge List.mem_cons_self)
      obtain ⟨next, folded, keptNext, same'⟩ := inductionHypothesis keptMiddle
        (fun later member => known later (List.mem_cons_of_mem _ member))
      refine ⟨next, ?_, keptNext, same'.trans same⟩
      rw [List.foldlM_cons, closed]
      exact folded

/-- Taking a node from the queue. -/
theorem Kept.pop {id : String} {queue : List String} (kept : Kept objectives edges [] sorting)
    (waits : sorting.queue = id :: queue) :
    Kept objectives edges (edges.filter (fun edge => edge.1 = id))
      { sorting with queue, visited := sorting.visited ++ [id] } := by
  have moved : sorting.visited ++ [id] ++ queue = sorting.visited ++ sorting.queue := by
    rw [waits, List.append_assoc]
    rfl
  have member : id ∈ sorting.visited ++ sorting.queue := by simp [waits]
  have fresh : id ∉ sorting.visited := by
    have distinct := kept.distinct
    rw [waits, List.nodup_append] at distinct
    exact fun seen => distinct.2.2 id seen id List.mem_cons_self rfl
  have known := kept.inside id member
  constructor
  · intro node inside
    rw [kept.degree node inside, waiting_visit fresh]
    simp only [arriving, List.countP_nil, Nat.add_zero]
  · intro node inside
    dsimp only
    rw [moved]
    exact kept.free node inside
  · dsimp only
    rw [moved]
    exact kept.distinct
  · dsimp only
    rw [moved]
    exact kept.inside
  · refine kept.sorted.snoc ?_
    have degree := (kept.free id known).mp member
    rw [kept.degree id known] at degree
    exact waiting_eq_zero.mp (Nat.eq_zero_of_add_eq_zero_right (Option.some.inj degree))

/-- No node is visited twice, so the loop ends in time. -/
theorem Kept.drain {turns : Nat} (kept : Kept objectives edges [] sorting)
    (known : ∀ edge ∈ edges, edge.2 ∈ objectives)
    (enough : objectives.length < turns + sorting.visited.length) :
    ∃ last, drain edges turns sorting = some (.ok last) ∧ Kept objectives edges [] last ∧
      last.queue = [] := by
  induction turns generalizing sorting with
  | zero =>
      have distinct := (List.nodup_append.mp kept.distinct).1
      have inside : sorting.visited ⊆ objectives :=
        fun id member => kept.inside id (List.mem_append_left _ member)
      have few := (distinct.subperm inside).length_le
      omega
  | succ turns inductionHypothesis =>
      unfold Activities.drain
      cases waits : sorting.queue with
      | nil => exact ⟨sorting, rfl, kept, waits⟩
      | cons id queue =>
          obtain ⟨next, closed, keptNext, same⟩ := (kept.pop waits).closeEdges
            (fun edge member => known edge (List.mem_filter.mp member).1)
          simp only [closed]
          refine inductionHypothesis keptNext ?_
          rw [same, List.length_append, List.length_singleton]
          omega

end Loop

/-! ## The initial indegrees -/

section Initial

variable {usizeMax : Nat} {objectives : List String} {edges : List Edge}

theorem countEdges (known : ∀ edge ∈ edges, edge.2 ∈ objectives)
    {front back : List Edge} (split : edges = front ++ back) (fits : edges.length ≤ usizeMax)
    {indegree : String → Option Nat}
    (counted : ∀ id ∈ objectives, indegree id = some (arriving front id)) :
    ∃ final, back.foldlM (countEdge usizeMax) indegree = .ok final ∧
      ∀ id ∈ objectives, final id = some (arriving edges id) := by
  induction back generalizing front indegree with
  | nil =>
      rw [List.append_nil] at split
      exact ⟨indegree, rfl, split ▸ counted⟩
  | cons edge back inductionHypothesis =>
      have target : edge.2 ∈ objectives := known edge (by rw [split]; simp)
      have room : arriving front edge.2 + 1 ≤ usizeMax := by
        have few : arriving front edge.2 ≤ front.length := List.countP_le_length
        rw [split, List.length_append, List.length_cons] at fits
        omega
      have here : countEdge usizeMax indegree edge =
          .ok (Function.update indegree edge.2 (some (arriving front edge.2 + 1))) := by
        simp only [countEdge, counted edge.2 target, checkedSucc, room, if_true, require, bind,
          Except.bind, pure, Except.pure]
      have next : edges = (front ++ [edge]) ++ back := by
        rw [split, List.append_assoc]
        rfl
      obtain ⟨final, folded, all⟩ := @inductionHypothesis (front ++ [edge]) next
        (Function.update indegree edge.2 (some (arriving front edge.2 + 1))) (by
          intro id member
          have grown : arriving (front ++ [edge]) id =
              arriving front id + if edge.2 = id then 1 else 0 := by
            simp [arriving, List.countP_append, List.countP_cons]
          by_cases same : id = edge.2
          · rw [same, Function.update_self, ← same, grown, if_pos same.symm]
          · rw [Function.update_of_ne same, counted id member, grown,
              if_neg (fun equal => same equal.symm), Nat.add_zero])
      refine ⟨final, ?_, all⟩
      rw [List.foldlM_cons, here]
      exact folded

theorem kept_initial (distinct : objectives.Nodup) {indegree : String → Option Nat}
    (counted : ∀ id ∈ objectives, indegree id = some (arriving edges id)) :
    Kept objectives edges [] (initialSorting objectives indegree) := by
  constructor
  · intro id member
    simp only [initialSorting, counted id member, waiting_nil, arriving, List.countP_nil,
      Nat.add_zero]
  · intro id member
    simp only [initialSorting, List.nil_append, List.mem_filter, decide_eq_true_eq, member, true_and]
  · exact distinct.filter _
  · intro id member
    exact (List.mem_filter.mp member).1
  · exact sorted_nil

end Initial

/-! ## The check -/

section Check

variable {usizeMax : Nat} {objectives : List String} {edges : List Edge}

/-- A loop that has ended visited every node when there is no cycle. -/
theorem complete_of_acyclic {last : Sorting} (kept : Kept objectives edges [] last)
    (ended : last.queue = []) (sources : ∀ edge ∈ edges, edge.1 ∈ objectives)
    (acyclic : Acyclic (Leads edges)) : ∀ id ∈ objectives, id ∈ last.visited := by
  by_contra some
  push Not at some
  obtain ⟨missing, member, unseen⟩ := some
  have left : objectives.filter (fun id => id ∉ last.visited) ≠ [] :=
    List.ne_nil_of_mem (List.mem_filter.mpr ⟨member, decide_eq_true unseen⟩)
  obtain ⟨source, inside, first⟩ := acyclic.exists_source left
  obtain ⟨known, unvisited⟩ := List.mem_filter.mp inside
  -- an element that nothing unvisited points to was queued
  have free : last.indegree source = some 0 := by
    rw [kept.degree source known]
    have none : waiting edges last.visited source = 0 := by
      rw [waiting_eq_zero]
      intro other points
      by_contra open'
      exact first other (List.mem_filter.mpr ⟨sources _ points, decide_eq_true open'⟩) points
    rw [none]
    rfl
  have early := (kept.free source known).mpr free
  rw [ended, List.append_nil] at early
  exact of_decide_eq_true unvisited early

theorem acyclic_of_complete {last : Sorting} (kept : Kept objectives edges [] last)
    (targets : ∀ edge ∈ edges, edge.2 ∈ objectives)
    (complete : ∀ id ∈ objectives, id ∈ last.visited) : Acyclic (Leads edges) :=
  acyclic_of_sorted kept.sorted (List.nodup_append.mp kept.distinct).1
    (fun _ target points => complete target (targets _ points))

/-- The loop ends in time and leaves nothing in the queue. -/
theorem exists_drained (distinct : objectives.Nodup)
    (targets : ∀ edge ∈ edges, edge.2 ∈ objectives) (fits : edges.length ≤ usizeMax) :
    ∃ indegree last, edges.foldlM (countEdge usizeMax)
        (fun id => if id ∈ objectives then some 0 else none) = .ok indegree ∧
      drain edges (objectives.length + 1) (initialSorting objectives indegree) = some (.ok last) ∧
      Kept objectives edges [] last ∧ last.queue = [] := by
  obtain ⟨indegree, counted, degrees⟩ := @countEdges usizeMax objectives edges targets [] edges rfl
    fits (fun id => if id ∈ objectives then some 0 else none) (fun id member => if_pos member)
  obtain ⟨last, drained, kept, ended⟩ := @Kept.drain objectives edges
    (initialSorting objectives indegree) (objectives.length + 1) (kept_initial distinct degrees)
    targets (by simp [initialSorting])
  exact ⟨indegree, last, counted, drained, kept, ended⟩

theorem validateAcyclic_eq {indegree : String → Option Nat} {last : Sorting}
    (counted : edges.foldlM (countEdge usizeMax)
      (fun id => if id ∈ objectives then some 0 else none) = .ok indegree)
    (drained : drain edges (objectives.length + 1) (initialSorting objectives indegree) =
      some (.ok last)) :
    validateAcyclic usizeMax objectives edges =
      some (rejectIf (last.visited.length ≠ objectives.length) cycleError) := by
  simp only [validateAcyclic, counted, drained, Option.map_some]
  rfl

/-- The count of the visited nodes tells whether all were visited. -/
theorem Kept.visited_length {last : Sorting} (kept : Kept objectives edges [] last)
    (distinct : objectives.Nodup) :
    last.visited.length = objectives.length ↔ ∀ id ∈ objectives, id ∈ last.visited := by
  have once := (List.nodup_append.mp kept.distinct).1
  have known : last.visited ⊆ objectives :=
    fun id member => kept.inside id (List.mem_append_left _ member)
  constructor
  · intro same id member
    exact ((once.subperm known).perm_of_length_le same.ge).mem_iff.mpr member
  · intro all
    exact ((once.subperm known).perm_of_length_le (distinct.subperm all).length_le).length_eq

theorem acyclic_of_validateAcyclic (distinct : objectives.Nodup)
    (targets : ∀ edge ∈ edges, edge.2 ∈ objectives) (fits : edges.length ≤ usizeMax)
    (accepted : validateAcyclic usizeMax objectives edges = some (.ok ())) :
    Acyclic (Leads edges) := by
  obtain ⟨indegree, last, counted, drained, kept, -⟩ := exists_drained distinct targets fits
  rw [validateAcyclic_eq counted drained, Option.some_inj, rejectIf_eq_ok, not_not] at accepted
  exact acyclic_of_complete kept targets ((kept.visited_length distinct).mp accepted)

end Check

/-- The loop ends in time without an underflow and visits no node twice, and the
check accepts exactly the edges without a cycle.  What the parser has checked by
then is assumed: distinct objectives, and edges between them only. -/
theorem validateAcyclic_iff (usizeMax : Nat) (objectives : List String) (edges : List Edge)
    (distinct : objectives.Nodup)
    (inside : ∀ edge ∈ edges, edge.1 ∈ objectives ∧ edge.2 ∈ objectives)
    (fits : edges.length ≤ usizeMax) :
    (∃ outcome, validateAcyclic usizeMax objectives edges = some outcome ∧
      (outcome = .ok () ↔ Acyclic (Leads edges)) ∧ (outcome = .ok () ∨ outcome = .error cycleError)) ∧
    ∃ indegree last, edges.foldlM (countEdge usizeMax)
        (fun id => if id ∈ objectives then some 0 else none) = .ok indegree ∧
      drain edges (objectives.length + 1) (initialSorting objectives indegree) = some (.ok last) ∧
      last.visited.Nodup ∧ last.visited ⊆ objectives := by
  have targets : ∀ edge ∈ edges, edge.2 ∈ objectives := fun edge member => (inside edge member).2
  obtain ⟨indegree, last, counted, drained, kept, ended⟩ := exists_drained distinct targets fits
  refine ⟨⟨_, validateAcyclic_eq counted drained, ?_, ?_⟩, indegree, last, counted, drained,
    (List.nodup_append.mp kept.distinct).1,
    fun id member => kept.inside id (List.mem_append_left _ member)⟩
  · rw [rejectIf_eq_ok, not_not, kept.visited_length distinct]
    constructor
    · exact acyclic_of_complete kept targets
    · exact complete_of_acyclic kept ended (fun edge member => (inside edge member).1)
  · by_cases all : last.visited.length = objectives.length
    · exact Or.inl (rejectIf_eq_ok.mpr (not_not.mpr all))
    · exact Or.inr (rejectIf_eq_error.mpr ⟨all, rfl⟩)

/-- Two paths from one node to another. -/
def diamond : List Edge := [("a", "b"), ("a", "c"), ("b", "d"), ("c", "d")]

theorem diamond_acyclic : Acyclic (Leads diamond) := by
  obtain ⟨⟨outcome, checked, accepts, -⟩, -⟩ := validateAcyclic_iff u64Max ["a", "b", "c", "d"]
    diamond (by decide) (by decide) (by decide)
  have accepted : validateAcyclic u64Max ["a", "b", "c", "d"] diamond = some (.ok ()) := by rfl
  rw [accepted] at checked
  cases checked
  exact accepts.mp rfl

end Activities
end Revenant
