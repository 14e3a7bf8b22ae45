import Revenant.Replay.Route

namespace Revenant
namespace Replay

open Library Operations

/-!
# The transition lists of a route

A route begins with its first objective active.  Each objective is completed in
turn, and each of the later ones is activated first.  The transitions of that
walk form one list, and `readTransitions` is shown to accept its first parts,
followed perhaps by one failure, and nothing else.

After `index` transitions the objectives before `(index + 1) / 2` are completed,
and the one at `index / 2` is active when `index` is even; so the ordinal alone
says which transition comes next.
-/

def completion (ordinal : Nat) (objectiveId : RouteObjectiveId) : ReplayObjectiveTransition :=
  { ordinal, objectiveId, fromState := .active, toState := .completed, progress := 1, target := 1 }

def activation (ordinal : Nat) (objectiveId : RouteObjectiveId) : ReplayObjectiveTransition :=
  { ordinal, objectiveId, fromState := .pending, toState := .active, progress := 0, target := 1 }

def failureAt (ordinal : Nat) (objectiveId : RouteObjectiveId) : ReplayObjectiveTransition :=
  { ordinal, objectiveId, fromState := .active, toState := .failed, progress := 0, target := 1 }

/-- The walk through a path whose first objective is active. -/
def walkFrom (ordinal : Nat) : List RouteObjectiveId → List ReplayObjectiveTransition
  | [] => []
  | [last] => [completion ordinal last]
  | objectiveId :: next :: rest =>
      completion ordinal objectiveId :: activation (ordinal + 1) next ::
        walkFrom (ordinal + 2) (next :: rest)

/-- The transitions that complete a path. -/
def successTransitions (path : List RouteObjectiveId) : List ReplayObjectiveTransition :=
  walkFrom 0 path

/-- The walk up to the objective at a position, which then fails. -/
def failureTransitions (path : List RouteObjectiveId) (position : Nat)
    (objectiveId : RouteObjectiveId) : List ReplayObjectiveTransition :=
  (successTransitions path).take (2 * position) ++ [failureAt (2 * position) objectiveId]

example : successTransitions [.clearDroneGroup, .reachRelayDoor] =
    [completion 0 .clearDroneGroup, activation 1 .reachRelayDoor, completion 2 .reachRelayDoor] := rfl

/-! ## The walk by ordinals -/

/-- The transition with an ordinal, counted from a base. -/
def walkStep (base : Nat) (path : List RouteObjectiveId) (index : Nat) :
    Option ReplayObjectiveTransition :=
  if index % 2 = 0 then path[index / 2]?.map (completion (base + index))
  else path[(index + 1) / 2]?.map (activation (base + index))

theorem walkFrom_getElem? (base : Nat) (path : List RouteObjectiveId) (index : Nat) :
    (walkFrom base path)[index]? = walkStep base path index := by
  induction base, path using walkFrom.induct generalizing index with
  | case1 base => simp [walkFrom, walkStep]
  | case2 base last =>
      cases index with
      | zero => rfl
      | succ index =>
          rw [walkFrom, List.getElem?_cons_succ, List.getElem?_nil, walkStep]
          split
          · rw [List.getElem?_eq_none (by simp; omega), Option.map_none]
          · rw [List.getElem?_eq_none (by simp; omega), Option.map_none]
  | case3 base objectiveId next rest inductionHypothesis =>
      match index with
      | 0 => rfl
      | 1 => rfl
      | index + 2 =>
          have half : (index + 2) / 2 = index / 2 + 1 := by omega
          have other : (index + 2 + 1) / 2 = (index + 1) / 2 + 1 := by omega
          rw [walkFrom, List.getElem?_cons_succ, List.getElem?_cons_succ, inductionHypothesis,
            walkStep, walkStep, half, other, List.getElem?_cons_succ, List.getElem?_cons_succ,
            Nat.add_mod_right, Nat.add_assoc base 2 index, Nat.add_comm 2 index]

theorem successTransitions_getElem? (path : List RouteObjectiveId) (index : Nat) :
    (successTransitions path)[index]? = walkStep 0 path index := walkFrom_getElem? 0 path index

/-! ## The states on the way -/

/-- The state of an objective after a number of transitions. -/
def stateAt (index position : Nat) : ReplayRouteObjectiveState :=
  if position < (index + 1) / 2 then .completed
  else if 2 * position = index then .active
  else .pending

def statesAt (count index : Nat) : List ReplayRouteObjectiveState :=
  (List.range count).map (stateAt index)

theorem statesAt_getElem? {count position : Nat} (inside : position < count) (index : Nat) :
    (statesAt count index)[position]? = some (stateAt index position) := by
  rw [statesAt, List.getElem?_map, List.getElem?_range inside, Option.map_some]

theorem statesAt_getElem?_none {count position : Nat} (outside : ¬ position < count) (index : Nat) :
    (statesAt count index)[position]? = none := by
  rw [List.getElem?_eq_none]
  rw [statesAt, List.length_map, List.length_range]
  omega

/-- A selection begins with the first objective active. -/
theorem initialStates (path : List RouteObjectiveId) :
    (objectiveEvidence path).map ReplayRouteObjectiveEvidence.initialState =
      statesAt path.length 0 := by
  apply List.ext_getElem?
  intro position
  cases path with
  | nil => rfl
  | cons first rest =>
      by_cases inside : position < (first :: rest).length
      · rw [statesAt_getElem? inside]
        cases position with
        | zero => rfl
        | succ position =>
            rw [List.length_cons, Nat.add_lt_add_iff_right] at inside
            simp [objectiveEvidence, stateAt, inside]
      · rw [statesAt_getElem?_none inside, List.getElem?_eq_none]
        simp only [List.length_cons] at inside
        simp only [objectiveEvidence, List.map_cons, List.map_map, List.length_cons, List.length_map]
        omega

theorem stateAt_other {index position : Nat} (different : position ≠ (index + 1) / 2) :
    stateAt index position = stateAt (index + 1) position := by
  unfold stateAt
  by_cases below : position < (index + 1) / 2
  · rw [if_pos below, if_pos (by omega)]
  · rw [if_neg below, if_neg (by omega), if_neg (by omega), if_neg (by omega)]

/-- Only the objective of the next transition changes. -/
theorem statesAt_set (count : Nat) {index position : Nat}
    (next : position = (index + 1) / 2) :
    (statesAt count index).set position (stateAt (index + 1) position) =
      statesAt count (index + 1) := by
  apply List.ext_getElem?
  intro other
  rw [List.getElem?_set]
  by_cases inside : other < count
  · rw [statesAt_getElem? inside, statesAt_getElem? inside]
    split
    · next same =>
      subst same
      rw [if_pos (by rw [statesAt, List.length_map, List.length_range]; exact inside)]
    · next different =>
      rw [stateAt_other (fun same => different (next.trans same.symm))]
  · rw [statesAt_getElem?_none inside, statesAt_getElem?_none inside]
    split
    · next same =>
      rw [if_neg]
      rw [statesAt, List.length_map, List.length_range, same]
      exact inside
    · rfl

theorem statesAt_succ (count index : Nat) :
    statesAt (count + 1) index = statesAt count index ++ [stateAt index count] := by
  rw [statesAt, List.range_succ, List.map_append]
  rfl

theorem statesAt_active (count index : Nat) :
    (statesAt count index).count .active ≤ if index < 2 * count then 1 else 0 := by
  induction count with
  | zero => simp [statesAt]
  | succ count inductionHypothesis =>
      rw [statesAt_succ, List.count_append, List.count_singleton]
      by_cases here : stateAt index count = .active
      · -- the earlier objectives are completed then
        have ordinal : 2 * count = index := by
          unfold stateAt at here
          split at here
          · cases here
          · split at here
            · assumption
            · cases here
        rw [if_neg (by omega)] at inductionHypothesis
        have short : index < 2 * (count + 1) := by omega
        simp only [here, beq_self_eq_true, if_true, if_pos short]
        omega
      · rw [if_neg (by simpa using here), Nat.add_zero]
        refine inductionHypothesis.trans ?_
        split
        · rw [if_pos (by omega)]
        · exact Nat.zero_le _

theorem statesAt_failed (count index : Nat) : (statesAt count index).count .failed = 0 := by
  rw [List.count_eq_zero, statesAt]
  intro member
  obtain ⟨position, -, same⟩ := List.mem_map.mp member
  unfold stateAt at same
  split at same
  · cases same
  · split at same <;> cases same

theorem exists_unfinished (count index : Nat) :
    (∃ state ∈ statesAt count index, state ≠ .completed) ↔ (index + 1) / 2 < count := by
  constructor
  · rintro ⟨state, member, other⟩
    obtain ⟨position, inside, rfl⟩ := List.mem_map.mp member
    rw [List.mem_range] at inside
    have above : ¬ position < (index + 1) / 2 := fun below => other (if_pos below)
    omega
  · intro unfinished
    refine ⟨_, List.mem_map.mpr ⟨_, List.mem_range.mpr unfinished, rfl⟩, ?_⟩
    unfold stateAt
    rw [if_neg (lt_irrefl _)]
    split <;> nofun

theorem statesAt_take {count position : Nat} (inside : position ≤ count) (index : Nat) :
    (statesAt count index).take position = statesAt position index := by
  rw [statesAt, ← List.map_take, List.take_range, Nat.min_eq_left inside, statesAt]

/-! ## One transition -/

section Steps

variable {path : List RouteObjectiveId} {objectives : List ReplayRouteObjectiveEvidence}
variable {index count position : Nat} {transition : ReplayObjectiveTransition}
variable {reading : ObjectiveReading}

theorem objectiveEvidence_ids (path : List RouteObjectiveId) :
    (objectiveEvidence path).map ReplayRouteObjectiveEvidence.objectiveId = path := by
  cases path with
  | nil => rfl
  | cons first rest => simp [objectiveEvidence, Function.comp_def]

/-- Among distinct objectives the first of a name is the one at its place. -/
theorem findIdx?_objective {objectiveId : RouteObjectiveId} (distinct : path.Nodup)
    (ids : objectives.map ReplayRouteObjectiveEvidence.objectiveId = path) :
    objectives.findIdx? (fun objective => objective.objectiveId = objectiveId) = some position ↔
      path[position]? = some objectiveId := by
  subst ids
  rw [List.findIdx?_eq_some_iff_getElem, List.getElem?_map, Option.map_eq_some_iff]
  constructor
  · rintro ⟨inside, same, -⟩
    exact ⟨objectives[position], List.getElem?_eq_getElem inside, of_decide_eq_true same⟩
  · rintro ⟨objective, found, rfl⟩
    obtain ⟨inside, same⟩ := List.getElem?_eq_some_iff.mp found
    refine ⟨inside, by simp [same], ?_⟩
    intro earlier before again
    have equal : objectives[earlier].objectiveId = objective.objectiveId := of_decide_eq_true again
    rw [← same] at equal
    have places : earlier = position := by
      refine (List.getElem?_inj (by simpa using before.trans inside) distinct).mp ?_
      rw [List.getElem?_map, List.getElem?_map, List.getElem?_eq_getElem (before.trans inside),
        List.getElem?_eq_getElem inside, Option.map_some, Option.map_some, equal]
    omega

theorem stateAt_active : stateAt index position = .active ↔ index = 2 * position := by
  unfold stateAt
  split
  · constructor
    · intro impossible
      cases impossible
    · intro same
      omega
  · split
    · next same => exact ⟨fun _ => same.symm, fun _ => rfl⟩
    · next other => exact ⟨nofun, fun same => absurd same.symm other⟩

theorem stateAt_completed : stateAt index position = .completed ↔ position < (index + 1) / 2 := by
  unfold stateAt
  split
  · next below => exact ⟨fun _ => below, fun _ => rfl⟩
  · next above =>
    refine ⟨?_, fun below => absurd below above⟩
    split <;> nofun

/-- A move from the state the walk left, seen as the next step of the walk. -/
theorem validateMove_iff (inside : position < path.length) {failed : Bool}
    (source : stateAt index position = transition.fromState) (target : transition.target = 1) :
    validateMove ⟨statesAt path.length index, failed⟩ position index count transition = .ok () ↔
      (index = 2 * position ∧ transition.fromState = .active ∧ transition.toState = .completed ∧
          transition.progress = 1) ∨
        (index + 1 = 2 * position ∧ transition.fromState = .pending ∧
          transition.toState = .active ∧ transition.progress = 0) ∨
        (index = 2 * position ∧ transition.fromState = .active ∧ transition.toState = .failed ∧
          transition.progress = 0 ∧ index + 1 = count) := by
  unfold validateMove
  split
  · next pending active =>
    rw [rejectIf_eq_ok, statesAt_take inside.le, exists_unfinished, pending, active]
    rw [pending] at source
    have above : ¬ position < (index + 1) / 2 := by
      intro below
      cases source.symm.trans (stateAt_completed.mpr below)
    have idle : index ≠ 2 * position := by
      intro same
      cases source.symm.trans (stateAt_active.mpr same)
    simp only [reduceCtorEq, false_and, and_false, true_and, false_or, or_false]
    omega
  · next active completed =>
    rw [rejectIf_eq_ok, not_not, active, completed, target]
    rw [active, stateAt_active] at source
    simp [source]
  · next active failed =>
    rw [rejectIf_eq_ok, active, failed, target]
    rw [active, stateAt_active] at source
    simp only [reduceCtorEq, false_and, and_false, true_and, false_or]
    omega
  · next first second third =>
    constructor
    · intro impossible
      cases impossible
    · rintro (⟨-, active, completed, -⟩ | ⟨-, pending, active, -⟩ | ⟨-, active, failed, -⟩)
      · exact (second active completed).elim
      · exact (first pending active).elim
      · exact (third active failed).elim

theorem walkStep_even (path : List RouteObjectiveId) (position : Nat) :
    walkStep 0 path (2 * position) = path[position]?.map (completion (2 * position)) := by
  rw [walkStep, if_pos (by omega), Nat.zero_add, Nat.mul_div_cancel_left _ Nat.two_pos]

theorem walkStep_odd (path : List RouteObjectiveId) (before : index + 1 = 2 * position) :
    walkStep 0 path index = path[position]?.map (activation index) := by
  have half : (index + 1) / 2 = position := by omega
  rw [walkStep, if_neg (by omega), Nat.zero_add, half]

/-- The next step of the walk completes the active objective or activates the
one behind the completed ones. -/
theorem walkStep_eq_some :
    walkStep 0 path index = some transition ↔ ∃ position objectiveId,
      path[position]? = some objectiveId ∧
        ((index = 2 * position ∧ transition = completion index objectiveId) ∨
          (index + 1 = 2 * position ∧ transition = activation index objectiveId)) := by
  constructor
  · intro step
    obtain ⟨position, rfl | rfl⟩ : ∃ position, index = 2 * position ∨ index = 2 * position + 1 :=
      ⟨index / 2, by omega⟩
    · rw [walkStep_even, Option.map_eq_some_iff] at step
      obtain ⟨objectiveId, found, rfl⟩ := step
      exact ⟨position, objectiveId, found, Or.inl ⟨rfl, rfl⟩⟩
    · rw [walkStep_odd path (by omega : 2 * position + 1 + 1 = 2 * (position + 1)),
        Option.map_eq_some_iff] at step
      obtain ⟨objectiveId, found, rfl⟩ := step
      exact ⟨position + 1, objectiveId, found, Or.inr ⟨by omega, rfl⟩⟩
  · rintro ⟨position, objectiveId, found, ⟨rfl, rfl⟩ | ⟨before, rfl⟩⟩
    · rw [walkStep_even, found, Option.map_some]
    · rw [walkStep_odd path before, found, Option.map_some]

/-- After the transitions before it, a transition is accepted when it is the next
one of the walk, or the last one and the failure of the active objective. -/
theorem applyTransition_iff (distinct : path.Nodup)
    (ids : objectives.map ReplayRouteObjectiveEvidence.objectiveId = path) :
    applyTransition objectives index count ⟨statesAt path.length index, false⟩ transition =
        .ok reading ↔
      (walkStep 0 path index = some transition ∧
          reading = ⟨statesAt path.length (index + 1), false⟩) ∨
        ∃ position objectiveId, index = 2 * position ∧ path[position]? = some objectiveId ∧
          transition = failureAt index objectiveId ∧ index + 1 = count ∧
          reading = ⟨(statesAt path.length index).set position .failed, true⟩ := by
  unfold applyTransition
  simp only [bind_eq_ok, exists_unit, rejectIf_eq_ok, require_eq_ok, pure_eq_ok,
    findIdx?_objective distinct ids]
  constructor
  · rintro ⟨ordered, position, found, known, move, -, rfl⟩
    have inside : position < path.length := (List.getElem?_eq_some_iff.mp found).1
    simp only [not_or, not_not, Bool.false_eq_true, not_false_eq_true, true_and,
      statesAt_getElem? inside, Option.some.injEq] at ordered known
    obtain ⟨rfl, target⟩ := ordered
    rcases (validateMove_iff inside known target).mp move with
      ⟨even, active, completed, progress⟩ | ⟨odd, pending, active, progress⟩ |
        ⟨even, active, failed, progress, last⟩
    · left
      refine ⟨walkStep_eq_some.mpr ⟨position, _, found, Or.inl ⟨even, ?_⟩⟩, ?_⟩
      · cases transition
        simp_all [completion]
      · rw [completed, ← statesAt_set _ (by omega : position = (transition.ordinal + 1) / 2),
          stateAt_completed.mpr (by omega)]
        rfl
    · left
      refine ⟨walkStep_eq_some.mpr ⟨position, _, found, Or.inr ⟨odd, ?_⟩⟩, ?_⟩
      · cases transition
        simp_all [activation]
      · rw [active, ← statesAt_set _ (by omega : position = (transition.ordinal + 1) / 2),
          stateAt_active.mpr odd]
        rfl
    · right
      refine ⟨position, _, even, found, ?_, last, ?_⟩
      · cases transition
        simp_all [failureAt]
      · rw [failed]
        rfl
  · rintro (⟨step, rfl⟩ | ⟨position, objectiveId, even, found, rfl, last, rfl⟩)
    · obtain ⟨position, objectiveId, found, next⟩ := walkStep_eq_some.mp step
      have inside : position < path.length := (List.getElem?_eq_some_iff.mp found).1
      have few : (statesAt path.length (index + 1)).count .active ≤ 1 := by
        refine (statesAt_active _ _).trans ?_
        split <;> omega
      have states := statesAt_set path.length (by omega : position = (index + 1) / 2)
      rcases next with ⟨even, rfl⟩ | ⟨odd, rfl⟩
      · rw [stateAt_completed.mpr (by omega)] at states
        refine ⟨by simp [completion], position, found, ?_, ?_, ?_, ?_⟩
        · simp [statesAt_getElem? inside, completion, stateAt_active.mpr even]
        · exact (validateMove_iff inside (stateAt_active.mpr even) rfl).mpr
            (Or.inl ⟨even, rfl, rfl, rfl⟩)
        · simpa [completion, states] using few
        · simp [completion, states]
      · rw [stateAt_active.mpr odd] at states
        have source : stateAt index position = .pending := by
          unfold stateAt
          rw [if_neg (by omega), if_neg (by omega)]
        refine ⟨by simp [activation], position, found, ?_, ?_, ?_, ?_⟩
        · simp [statesAt_getElem? inside, activation, source]
        · exact (validateMove_iff inside source rfl).mpr (Or.inr (Or.inl ⟨odd, rfl, rfl, rfl⟩))
        · simpa [activation, states] using few
        · simp [activation, states]
    · have inside : position < path.length := (List.getElem?_eq_some_iff.mp found).1
      refine ⟨by simp [failureAt], position, found, ?_, ?_, ?_, ?_⟩
      · simp [statesAt_getElem? inside, failureAt, stateAt_active.mpr even]
      · exact (validateMove_iff inside (stateAt_active.mpr even) rfl).mpr
          (Or.inr (Or.inr ⟨even, rfl, rfl, rfl, last⟩))
      · simp [failureAt]
      · simp [failureAt]

/-- Nothing is read after a failure. -/
theorem applyTransition_failed (states : List ReplayRouteObjectiveState) :
    applyTransition objectives index count ⟨states, true⟩ transition ≠ .ok reading := by
  intro accepted
  simp only [applyTransition, bind_eq_ok, exists_unit, rejectIf_eq_ok, not_or, true_or, not_true,
    false_and, and_false, exists_const] at accepted

end Steps

/-! ## Whole lists -/

section Lists

variable {path : List RouteObjectiveId} {objectives : List ReplayRouteObjectiveEvidence}
variable {index count : Nat} {transitions : List ReplayObjectiveTransition}
variable {reading : ObjectiveReading}

/-- The transitions are those of the walk from an ordinal on. -/
def Walks (path : List RouteObjectiveId) (index : Nat)
    (transitions : List ReplayObjectiveTransition) : Prop :=
  ∀ offset transition, transitions[offset]? = some transition →
    walkStep 0 path (index + offset) = some transition

theorem Walks.cons_iff {transition : ReplayObjectiveTransition}
    {rest : List ReplayObjectiveTransition} :
    Walks path index (transition :: rest) ↔
      walkStep 0 path index = some transition ∧ Walks path (index + 1) rest := by
  constructor
  · intro walks
    refine ⟨walks 0 transition rfl, ?_⟩
    intro offset later found
    rw [Nat.add_assoc, Nat.add_comm 1 offset]
    exact walks (offset + 1) later found
  · rintro ⟨first, walks⟩ offset later found
    cases offset with
    | zero =>
        cases found
        exact first
    | succ offset =>
        rw [Nat.add_comm offset 1, ← Nat.add_assoc]
        exact walks offset later found

/-- What is read from the middle of a walk: more of it, or more of it and a
failure at the end. -/
theorem readTransitions_iff (distinct : path.Nodup)
    (ids : objectives.map ReplayRouteObjectiveEvidence.objectiveId = path) :
    readTransitions objectives count index ⟨statesAt path.length index, false⟩ transitions =
        .ok reading ↔
      (Walks path index transitions ∧
          reading = ⟨statesAt path.length (index + transitions.length), false⟩) ∨
        ∃ front position objectiveId, transitions = front ++ [failureAt (2 * position) objectiveId] ∧
          Walks path index front ∧ path[position]? = some objectiveId ∧
          index + front.length = 2 * position ∧ 2 * position + 1 = count ∧
          reading = ⟨(statesAt path.length (2 * position)).set position .failed, true⟩ := by
  induction transitions generalizing index with
  | nil =>
      rw [readTransitions, Except.ok.injEq]
      constructor
      · rintro rfl
        exact Or.inl ⟨nofun, rfl⟩
      · rintro (⟨-, rfl⟩ | ⟨front, position, objectiveId, impossible, -⟩)
        · rfl
        · simp at impossible
  | cons transition rest inductionHypothesis =>
      simp only [readTransitions, bind_eq_ok, applyTransition_iff distinct ids]
      constructor
      · rintro ⟨next, ⟨step, rfl⟩ | ⟨position, objectiveId, even, found, rfl, last, rfl⟩, read⟩
        · rcases inductionHypothesis.mp read with ⟨walks, rfl⟩ |
            ⟨front, position, objectiveId, rfl, walks, found, place, last, rfl⟩
          · refine Or.inl ⟨Walks.cons_iff.mpr ⟨step, walks⟩, ?_⟩
            rw [List.length_cons, Nat.add_assoc, Nat.add_comm 1]
          · refine Or.inr ⟨transition :: front, position, objectiveId, rfl,
              Walks.cons_iff.mpr ⟨step, walks⟩, found, ?_, last, rfl⟩
            rw [List.length_cons, ← place]
            omega
        · cases rest with
          | cons second rest =>
              simp only [readTransitions, bind_eq_ok] at read
              obtain ⟨after, accepted, -⟩ := read
              exact absurd accepted (applyTransition_failed _)
          | nil =>
              cases read
              refine Or.inr ⟨[], position, objectiveId, ?_, nofun, found, even, ?_, ?_⟩
              · rw [← even]
                rfl
              · rw [← even]
                exact last
              · rw [← even]
      · rintro (⟨walks, rfl⟩ | ⟨front, position, objectiveId, same, walks, found, place, last, rfl⟩)
        · obtain ⟨step, walks⟩ := Walks.cons_iff.mp walks
          refine ⟨_, Or.inl ⟨step, rfl⟩, inductionHypothesis.mpr (Or.inl ⟨walks, ?_⟩)⟩
          rw [List.length_cons, Nat.add_assoc, Nat.add_comm 1]
        · cases front with
          | nil =>
              obtain ⟨rfl, rfl⟩ := List.cons.inj same
              have even : index = 2 * position := place
              rw [← even] at last ⊢
              exact ⟨_, Or.inr ⟨position, objectiveId, even, found, rfl, last, rfl⟩, rfl⟩
          | cons first front =>
              obtain ⟨rfl, rfl⟩ := List.cons.inj same
              obtain ⟨step, walks⟩ := Walks.cons_iff.mp walks
              refine ⟨_, Or.inl ⟨step, rfl⟩, inductionHypothesis.mpr (Or.inr
                ⟨front, position, objectiveId, rfl, walks, found, ?_, last, rfl⟩)⟩
              rw [List.length_cons] at place
              omega

/-- A first part of the walk is a list of its first transitions. -/
theorem walks_iff : Walks path 0 transitions ↔
    transitions = (successTransitions path).take transitions.length := by
  constructor
  · intro walks
    apply List.ext_getElem?
    intro offset
    rw [List.getElem?_take]
    split
    · next inside =>
      rw [successTransitions_getElem?, List.getElem?_eq_getElem inside]
      have step := walks offset _ (List.getElem?_eq_getElem inside)
      rw [Nat.zero_add] at step
      exact step.symm
    · next outside =>
      rw [List.getElem?_eq_none (by omega)]
  · intro same offset transition found
    rw [same, List.getElem?_take] at found
    split at found
    · rw [successTransitions_getElem?] at found
      rw [Nat.zero_add]
      exact found
    · cases found

theorem walkFrom_length (base : Nat) (path : List RouteObjectiveId) :
    (walkFrom base path).length = 2 * path.length - 1 := by
  induction base, path using walkFrom.induct with
  | case1 base => rfl
  | case2 base last => rfl
  | case3 base objectiveId next rest inductionHypothesis =>
      rw [walkFrom, List.length_cons, List.length_cons, inductionHypothesis]
      simp only [List.length_cons]
      omega

section Validation

variable {payload : RouteTerminalPayload} {selection : RouteSelectedPayload}

/-- Reading begins where the walk begins. -/
theorem read_iff (distinct : path.Nodup) (evidence : selection.objectives = objectiveEvidence path) :
    readTransitions selection.objectives payload.transitions.length 0
        { states := selection.objectives.map ReplayRouteObjectiveEvidence.initialState
          failed := false } payload.transitions = .ok reading ↔
      (payload.transitions = (successTransitions path).take payload.transitions.length ∧
          reading = ⟨statesAt path.length payload.transitions.length, false⟩) ∨
        ∃ position objectiveId, path[position]? = some objectiveId ∧
          payload.transitions = failureTransitions path position objectiveId ∧
          reading = ⟨(statesAt path.length (2 * position)).set position .failed, true⟩ := by
  have length := walkFrom_length 0 path
  rw [evidence, initialStates, readTransitions_iff distinct (objectiveEvidence_ids path), walks_iff,
    Nat.zero_add]
  refine or_congr_right ?_
  constructor
  · rintro ⟨front, position, objectiveId, same, walks, found, place, last, rfl⟩
    refine ⟨position, objectiveId, found, ?_, rfl⟩
    rw [same, walks_iff.mp walks, failureTransitions]
    congr 2
    omega
  · rintro ⟨position, objectiveId, found, same, rfl⟩
    have inside : position < path.length := (List.getElem?_eq_some_iff.mp found).1
    have whole : ((successTransitions path).take (2 * position)).length = 2 * position := by
      rw [List.length_take, successTransitions, length]
      omega
    refine ⟨(successTransitions path).take (2 * position), position, objectiveId, same, ?_, found, ?_,
      ?_, rfl⟩
    · rw [walks_iff, whole]
    · rw [whole, Nat.zero_add]
    · rw [same, failureTransitions, List.length_append, whole, List.length_singleton]

/-- A terminal is accepted as a success with the whole walk and nothing else. -/
theorem validateTransitions_succeeded (distinct : path.Nodup) (nonempty : path ≠ [])
    (evidence : selection.objectives = objectiveEvidence path) :
    validateTransitions payload selection .succeeded = .ok () ↔
      payload.transitions = successTransitions path := by
  have length : (successTransitions path).length = 2 * path.length - 1 := walkFrom_length 0 path
  have positive : 0 < path.length := List.length_pos_iff.mpr nonempty
  simp only [validateTransitions, bind_eq_ok, read_iff distinct evidence, rejectIf_eq_ok, not_or]
  constructor
  · rintro ⟨reading, ⟨same, rfl⟩ | ⟨position, objectiveId, found, same, rfl⟩, standing, complete⟩
    · rw [exists_unfinished] at complete
      rw [same, List.take_of_length_le (by omega)]
    · exact absurd rfl standing
  · intro same
    refine ⟨_, Or.inl ⟨?_, rfl⟩, Bool.false_ne_true, ?_⟩
    · rw [same, List.take_length]
    · rw [exists_unfinished, same, length]
      omega

/-- A terminal is accepted as a failure with the walk up to an active objective
and its failure, and with nothing else. -/
theorem validateTransitions_failed (distinct : path.Nodup)
    (evidence : selection.objectives = objectiveEvidence path) :
    validateTransitions payload selection .failedTimeout = .ok () ↔
      ∃ position objectiveId, path[position]? = some objectiveId ∧
        payload.transitions = failureTransitions path position objectiveId := by
  simp only [validateTransitions, bind_eq_ok, read_iff distinct evidence, rejectIf_eq_ok, not_or]
  constructor
  · rintro ⟨reading, ⟨same, rfl⟩ | ⟨position, objectiveId, found, same, rfl⟩, failed, -⟩
    · exact absurd rfl failed
    · exact ⟨position, objectiveId, found, same⟩
  · rintro ⟨position, objectiveId, found, same⟩
    have inside : position < (statesAt path.length (2 * position)).length := by
      rw [statesAt, List.length_map, List.length_range]
      exact (List.getElem?_eq_some_iff.mp found).1
    refine ⟨_, Or.inr ⟨position, objectiveId, found, same, rfl⟩, Bool.true_eq_false_eq_False, ?_⟩
    rw [not_not, List.count_set inside, statesAt_failed]
    simp

end Validation

end Lists

end Replay
end Revenant
