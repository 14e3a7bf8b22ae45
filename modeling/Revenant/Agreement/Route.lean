import Revenant.Gateway.Route
import Revenant.Operations.History
import Revenant.Replay.RouteTransitions

namespace Revenant
namespace Gateway
namespace Route

open Library Operations Replay

/-!
# The transitions of a session and their reading

The session appends to its notes under conditions of its own: the stage it is in
names the objective under way.  `Kept` ties stage, operation and notes together,
and every event keeps it.  The notes are then always a first part of the walk
through the chosen path, and the two terminals that reach the database carry the
whole walk or a failed one, which are the lists the replay accepts.

The answers of the database are part of an event, and a later event begins
where a failed write left the session.  Times come with the events that read
the clock and need not grow.
-/

/-- The objectives of a route in their order. -/
def routePath (routeId : RouteId) : List RouteObjectiveId := (routeDefinition routeId).objectivePath

theorem routePath_nodup (routeId : RouteId) : (routePath routeId).Nodup := by
  cases routeId <;> decide

theorem routePath_nonempty (routeId : RouteId) : routePath routeId ≠ [] := by
  cases routeId <;> nofun

/-- The objective a stage stands for. -/
def stageObjective : SessionStage → Option RouteObjectiveId
  | .drone => some .clearDroneGroup
  | .stabilizer => some .reachRelayStabilizer
  | .door => some .reachRelayDoor
  | .boss => some .defeatWarden
  | .waiting | .complete | .failed => none

/-! ## Notes -/

section Notes

variable {path : List RouteObjectiveId} {position : Nat} {objectiveId next : RouteObjectiveId}

theorem take_completion (found : path[position]? = some objectiveId) :
    (successTransitions path).take (2 * position + 1) =
      (successTransitions path).take (2 * position) ++ [completion (2 * position) objectiveId] := by
  rw [List.take_add_one, successTransitions_getElem?, walkStep_even, found]
  rfl

theorem take_activation (found : path[position + 1]? = some next) :
    (successTransitions path).take (2 * (position + 1)) =
      (successTransitions path).take (2 * position + 1) ++
        [activation (2 * position + 1) next] := by
  rw [Nat.mul_succ, List.take_add_one, successTransitions_getElem?,
    walkStep_odd path (by omega : 2 * position + 1 + 1 = 2 * (position + 1)), found]
  rfl

theorem take_length (found : path[position]? = some objectiveId) :
    ((successTransitions path).take (2 * position)).length = 2 * position := by
  have inside : position < path.length := (List.getElem?_eq_some_iff.mp found).1
  have length : (successTransitions path).length = 2 * path.length - 1 := walkFrom_length 0 path
  rw [List.length_take, length]
  omega

theorem take_whole (last : path.length = position + 1) :
    (successTransitions path).take (2 * position + 1) = successTransitions path := by
  apply List.take_of_length_le
  rw [successTransitions, walkFrom_length]
  omega

/-- A pushed update carries the length of the notes as its ordinal. -/
theorem pushRouteTransition_eq_ok {transitions pushed : List ReplayObjectiveTransition}
    {fromState toState : ReplayRouteObjectiveState} {progress : Nat} :
    pushRouteTransition transitions objectiveId fromState toState progress = .ok pushed ↔
      transitions.length < maxRouteTransitions ∧ pushed = transitions ++
        [{ ordinal := transitions.length, objectiveId, fromState, toState, progress, target := 1 }] := by
  simp only [pushRouteTransition, bind_eq_ok, exists_unit, rejectIf_eq_ok, pure_eq_ok, not_le]
  exact and_congr_right (fun _ => eq_comm)

/-- Two updates behind each other: an objective is done and the next begins. -/
def advance (transitions : List ReplayObjectiveTransition) (done next : RouteObjectiveId) :
    Except SessionError (List ReplayObjectiveTransition) := do
  let completed ← pushRouteTransition transitions done .active .completed 1
  pushRouteTransition completed next .pending .active 0

/-- Completing the active objective and activating the next leads one objective on. -/
theorem advance_walk (found : path[position]? = some objectiveId)
    (follows : path[position + 1]? = some next) (short : path.length ≤ 4) :
    advance ((successTransitions path).take (2 * position)) objectiveId next =
      .ok ((successTransitions path).take (2 * (position + 1))) := by
  have inside : position + 1 < path.length := (List.getElem?_eq_some_iff.mp follows).1
  have completed := take_completion found
  have length := take_length found
  have one : ((successTransitions path).take (2 * position + 1)).length = 2 * position + 1 := by
    rw [completed, List.length_append, length, List.length_singleton]
  simp only [advance, bind_eq_ok, pushRouteTransition_eq_ok]
  refine ⟨_, ⟨?_, rfl⟩, ?_, ?_⟩
  · rw [length, maxRouteTransitions]
    omega
  · rw [List.length_append, length, List.length_singleton, maxRouteTransitions]
    omega
  · rw [take_activation follows, completed, List.length_append, length, List.length_singleton]
    rfl

theorem routePath_short (routeId : RouteId) : (routePath routeId).length ≤ 4 := by
  cases routeId <;> decide

/-- A chosen route begins with the drones done and its next objective active. -/
theorem initialRouteTransitions_walk (routeId : RouteId) :
    initialRouteTransitions (routePath routeId) =
      .ok ((successTransitions (routePath routeId)).take 2) := by
  cases routeId <;> rfl

/-- The stage behind the drones is the one of the objective behind them. -/
theorem routeStage_first (routeId : RouteId) : ∃ objectiveId,
    (routePath routeId)[1]? = some objectiveId ∧
      stageObjective (routeStage routeId) = some objectiveId := by
  cases routeId with
  | breach => exact ⟨.reachRelayDoor, rfl, rfl⟩
  | stabilize => exact ⟨.reachRelayStabilizer, rfl, rfl⟩

/-- The objective found active is the one the walk has come to. -/
theorem activeRouteObjective_walk {routeId : RouteId}
    (found : (routePath routeId)[position]? = some objectiveId) :
    activeRouteObjective (routePath routeId)
        ((successTransitions (routePath routeId)).take (2 * position)) = .ok objectiveId := by
  have inside : position < (routePath routeId).length := (List.getElem?_eq_some_iff.mp found).1
  have short := routePath_short routeId
  cases routeId with
  | breach =>
      match position with
      | 0 | 1 | 2 =>
          cases found
          rfl
      | position + 3 => cases found
  | stabilize =>
      match position with
      | 0 | 1 | 2 | 3 =>
          cases found
          rfl
      | position + 4 => cases found

end Notes

/-! ## What a session keeps -/

/-- The operation and the replay of a session agree on the chosen route. -/
structure RouteRuntime.Chose (route : RouteRuntime) (routeId : RouteId) : Prop where
  selection : ∃ selection, route.operation.selection = some selection ∧
    selection.routeId = routeId ∧ selection.objectivePath = routePath routeId
  replay : ∃ replay, route.selectionReplay = some replay ∧
    replay.objectives = objectiveEvidence (routePath routeId)

/-- A base health every effect of the catalog can be applied to. -/
def BaseHealth (health : Nat) : Prop := 0 < health ∧ health ≤ twoPlayerWardenHealth

inductive RouteRuntime.Kept (stage : SessionStage) (excursion : Bool) (route : RouteRuntime) : Prop
  | unrouted (unselected : route.operation.selection = none)
      (unfinished : route.operation.terminal = none)
      (early : route.operation.phase = .drone ∨ route.operation.phase = .choiceOpen ∨
        route.operation.phase = .baselineLocked)
      (locked : excursion = true → route.operation.phase = .baselineLocked)
      (unmarked : stage ≠ .stabilizer) (idle : route.startedAt = none)
      (empty : route.transitions = [])
      (base : BaseHealth route.encounter.wardenBaseHealth)
  | routed {routeId : RouteId} {position : Nat} {objectiveId : RouteObjectiveId}
      (chose : route.Chose routeId) (unfinished : route.operation.terminal = none)
      (phase : route.operation.phase = .routed) (home : excursion = false)
      (later : 0 < position) (found : (routePath routeId)[position]? = some objectiveId)
      (here : stageObjective stage = some objectiveId)
      (noted : route.transitions = (successTransitions (routePath routeId)).take (2 * position))
  | succeeded {routeId : RouteId} (chose : route.Chose routeId)
      (phase : route.operation.phase = .succeeded) (ended : stage = .complete)
      (home : excursion = false)
      (idle : route.startedAt = none)
      (noted : route.transitions = successTransitions (routePath routeId))
  | failed {routeId : RouteId} {position : Nat} {objectiveId : RouteObjectiveId}
      (chose : route.Chose routeId) (phase : route.operation.phase = .failed)
      (ended : stage = .failed)
      (home : excursion = false) (idle : route.startedAt = none)
      (found : (routePath routeId)[position]? = some objectiveId)
      (noted : route.transitions = failureTransitions (routePath routeId) position objectiveId)

structure RouteSession.Kept (session : RouteSession) : Prop where
  waiting : session.stage = .waiting → session.excursion = false
  route : ∀ route, session.route = some route → route.Kept session.stage session.excursion

theorem RouteSession.Kept.waits (activityId : String) (expectedPlayers : Nat)
    (participants : List Participant) :
    (RouteSession.waiting activityId expectedPlayers participants).Kept :=
  { waiting := fun _ => rfl, route := fun _ impossible => nomatch impossible }

/-! ## Rules for the handlers -/

section Rules

variable {Value Result : Type} {session : RouteSession}

/-- What a call leaves is kept, whatever it answers. -/
def Leads (call : RouteSessionCall Value) (session : RouteSession) : Prop :=
  Call.Sat call session (fun _ next => next.Kept)

theorem leads_pure (kept : session.Kept) (value : Value) :
    Leads (pure value : RouteSessionCall Value) session := kept

variable {rest : Value → RouteSessionCall Result}

theorem leads_check {look : RouteSession → Except SessionError Value} (kept : session.Kept)
    (passed : ∀ value, look session = .ok value → Leads (rest value) session) :
    Leads (Call.check look >>= rest) session :=
  Call.sat_check_bind (fun _ _ => kept) passed

theorem leads_demand {answer : Option Value} (kept : session.Kept)
    (passed : ∀ value, Leads (rest value) session) : Leads (demand answer >>= rest) session :=
  leads_check kept (fun value _ => passed value)

theorem leads_update {change : RouteSession → RouteSession} {rest : Unit → RouteSessionCall Result}
    (follows : Leads (rest ()) (change session)) : Leads (Call.update change >>= rest) session :=
  Call.sat_update_bind follows

theorem leads_bind {first : RouteSessionCall Value} (before : Leads first session)
    (after : ∀ value next, next.Kept → Leads (rest value) next) :
    Leads (first >>= rest) session := by
  apply Call.sat_bind
  unfold Leads Call.Sat at before
  unfold Call.Sat
  cases (first session).1 with
  | ok value => exact after value _ before
  | error failure => exact before

/-- A look whose answer is known. -/
theorem leads_known {look : RouteSession → Except SessionError Value} (value : Value)
    (known : look session = .ok value) (follows : Leads (rest value) session) :
    Leads (Call.check look >>= rest) session := by
  unfold Leads Call.Sat
  rw [Call.check_bind_of_ok known]
  exact follows

/-- A call whose result is known. -/
theorem leads_done {first : RouteSessionCall Value} {value : Value} {next : RouteSession}
    (done : first session = (.ok value, next)) (follows : Leads (rest value) next) :
    Leads (first >>= rest) session := by
  unfold Leads Call.Sat
  rw [Call.bind_of_ok done]
  exact follows

variable {route : RouteRuntime}

/-- An update the notes have room for is written to the session. -/
theorem noteTransition_of_push {objectiveId : RouteObjectiveId}
    {fromState toState : ReplayRouteObjectiveState} {progress : Nat}
    {transitions : List ReplayObjectiveTransition} (found : session.route = some route)
    (pushed : pushRouteTransition route.transitions objectiveId fromState toState progress =
      .ok transitions) :
    noteTransition objectiveId fromState toState progress session =
      (.ok (), { session with route := some { route with transitions } }) := by
  have looked : session.noted objectiveId fromState toState progress = .ok transitions :=
    bind_eq_ok.mpr ⟨route, require_eq_ok.mpr found, pushed⟩
  unfold noteTransition
  refine Eq.trans (Call.check_bind_of_ok looked) ?_
  simp only [modifyRoute, Call.update, found, Option.map_some]

/-- Without a route the first update is refused, and nothing was written. -/
theorem followObjective_of_absent (absent : session.route = none) (done next : RouteObjectiveId) :
    followObjective done next session =
      (.error (.message "selected route disappeared"), session) := by
  have looked : session.noted done .active .completed 1 =
      .error (.message "selected route disappeared") := by
    rw [RouteSession.noted, absent]
    rfl
  unfold followObjective noteTransition
  exact Call.bind_of_error (Call.check_bind_of_error looked)

/-- Both updates are written when the notes have room for both. -/
theorem followObjective_of_advance {done next : RouteObjectiveId}
    {transitions : List ReplayObjectiveTransition} (found : session.route = some route)
    (walked : advance route.transitions done next = .ok transitions) :
    followObjective done next session =
      (.ok (), { session with route := some { route with transitions } }) := by
  obtain ⟨completed, first, second⟩ := bind_eq_ok.mp walked
  unfold followObjective
  rw [Call.bind_of_ok (noteTransition_of_push found first)]
  have noted : RouteSession.route
      { session with route := some { route with transitions := completed } } =
        some { route with transitions := completed } := rfl
  have written := noteTransition_of_push noted second
  exact written

theorem onCopy_eq_ok {operation next : RouteOperationState} {call : RouteCall Value}
    {value : Value} :
    onCopy operation call = .ok (value, next) ↔ call operation = (.ok value, next) := by
  unfold onCopy
  split
  · next answer left answered =>
    rw [answered]
    simp
  · next failure left answered =>
    rw [answered]
    simp

/-- The notes do not depend on the encounter, apart from the base health before a choice. -/
theorem RouteRuntime.Kept.frame {stage : SessionStage} {excursion : Bool} {other : RouteRuntime}
    (kept : route.Kept stage excursion) (operation : other.operation = route.operation)
    (replay : other.selectionReplay = route.selectionReplay)
    (started : other.startedAt = route.startedAt) (noted : other.transitions = route.transitions)
    (base : other.encounter.wardenBaseHealth = route.encounter.wardenBaseHealth) :
    other.Kept stage excursion := by
  have chose (routeId : RouteId) (chose : route.Chose routeId) : other.Chose routeId := by
    constructor
    case selection => rw [operation]; exact chose.selection
    case replay => rw [replay]; exact chose.replay
  cases kept <;> rw [← operation] at * <;> rw [← noted] at *
  case unrouted unselected unfinished early locked unmarked idle empty fits =>
    exact .unrouted unselected unfinished early locked unmarked (started.trans idle) empty
      (base ▸ fits)
  case routed routeId position objectiveId chosen unfinished phase home later found here noted =>
    exact .routed (chose _ chosen) unfinished phase home later found here noted
  case succeeded routeId chosen phase ended home idle noted =>
    exact .succeeded (chose _ chosen) phase ended home (started.trans idle) noted
  case failed routeId position objectiveId chosen phase ended home idle found noted =>
    exact .failed (chose _ chosen) phase ended home (started.trans idle) found noted

/-- A session keeps its route apart. -/
theorem RouteSession.Kept.modify (kept : session.Kept) {change : RouteRuntime → RouteRuntime}
    (step : ∀ route, session.route = some route → route.Kept session.stage session.excursion →
      (change route).Kept session.stage session.excursion) :
    RouteSession.Kept { session with route := session.route.map change } := by
  constructor
  case waiting => exact kept.waiting
  case route =>
    intro changed found
    obtain ⟨route, here, rfl⟩ := Option.map_eq_some_iff.mp found
    exact step route here (kept.route route here)

end Rules

/-! ## The start -/

section Start

variable {session : RouteSession}

/-- An operation nobody has chosen with yet. -/
structure Untouched (operation : RouteOperationState) : Prop where
  phase : operation.phase = .drone
  selection : operation.selection = none
  terminal : operation.terminal = none

variable {operation next : RouteOperationState} {value : Unit}

/-- A command that looks and then writes wrote what it said, after a look that passed. -/
theorem onCopy_guarded {look : RouteOperationState → Except RouteError Unit}
    {change : RouteOperationState → RouteOperationState}
    (answered : onCopy operation (Call.check look >>= fun _ => Call.update change) =
      .ok (value, next)) : look operation = .ok () ∧ next = change operation := by
  have stepped := onCopy_eq_ok.mp answered
  cases looked : look operation with
  | error failure =>
      rw [Call.check_bind_of_error looked] at stepped
      cases stepped
  | ok passed =>
      rw [Call.check_bind_of_ok looked] at stepped
      cases stepped
      exact ⟨rfl, rfl⟩

theorem marked_of {participantId : String}
    (answered : onCopy operation (markCapable participantId) = .ok (value, next)) :
    (operation.phase = .drone ∨ operation.phase = .choiceOpen) ∧
      next = { operation with
        participants := RouteOperationState.markFirst participantId operation.participants } := by
  obtain ⟨passed, rfl⟩ := onCopy_guarded answered
  simp only [bind_eq_ok, exists_unit, rejectIf_eq_ok] at passed
  refine ⟨?_, rfl⟩
  by_contra other
  exact passed.1 (not_or.mp other)

theorem opened_of (answered : onCopy operation openChoice = .ok (value, next)) :
    operation.phase = .drone ∧ next = { operation with phase := .choiceOpen } := by
  obtain ⟨passed, rfl⟩ := onCopy_guarded answered
  exact ⟨not_not.mp (rejectIf_eq_ok.mp passed), rfl⟩

theorem locked_of (answered : onCopy operation lockBaseline = .ok (value, next)) :
    operation.phase = .choiceOpen ∧ next = { operation with phase := .baselineLocked } := by
  obtain ⟨passed, rfl⟩ := onCopy_guarded answered
  have allowed := rejectIf_eq_ok.mp passed
  exact ⟨not_not.mp (fun other => allowed (Or.inl other)), rfl⟩

theorem declared_untouched {participants : List Participant} {opened : RouteOperationState}
    (untouched : Untouched operation) (folded : participants.foldlM (fun operation participant =>
      (onCopy operation (markCapable participant.accountId)).map Prod.snd) operation = .ok opened) :
    Untouched opened := by
  induction participants generalizing operation with
  | nil =>
      cases folded
      exact untouched
  | cons participant rest inductionHypothesis =>
      rw [List.foldlM_cons, bind_eq_ok] at folded
      obtain ⟨next, marked, folded⟩ := folded
      obtain ⟨⟨answer, copy⟩, answered, rfl⟩ := map_eq_ok.mp marked
      obtain ⟨-, rfl⟩ := marked_of answered
      refine inductionHypothesis ?_ folded
      exact ⟨untouched.phase, untouched.selection, untouched.terminal⟩

theorem openOperation_untouched {participants : List Participant}
    (opened : openOperation participants = .ok operation) :
    Untouched operation ∧ participants.length ≤ maxRouteParticipants := by
  simp only [openOperation, bind_eq_ok] at opened
  obtain ⟨built, new, folded⟩ := opened
  cases created : RouteOperationState.new (participants.map Participant.accountId) with
  | error failure =>
      rw [created] at new
      cases new
  | ok first =>
      rw [created] at new
      cases new
      simp only [RouteOperationState.new, bind_eq_ok, exists_unit, rejectIf_eq_ok, pure_eq_ok,
        not_or, not_lt, List.length_map] at created
      obtain ⟨⟨-, few⟩, -, rfl⟩ := created
      exact ⟨declared_untouched ⟨rfl, rfl, rfl⟩ folded, few⟩

theorem newRoute_kept {route : RouteRuntime} (built : session.newRoute = .ok route) :
    route.Kept .drone false := by
  simp only [RouteSession.newRoute, bind_eq_ok, exists_unit, pure_eq_ok, rejectIf_eq_ok] at built
  obtain ⟨present, droneHealth, -, operation, opened, base, scaled, rfl⟩ := built
  obtain ⟨untouched, few⟩ := openOperation_untouched opened
  refine .unrouted untouched.selection untouched.terminal (Or.inl untouched.phase) (by rintro ⟨⟩) (by rintro ⟨⟩) rfl
    rfl ?_
  simp only [scaledEnemyHealth, bind_eq_ok, exists_unit, pure_eq_ok, rejectIf_eq_ok] at scaled
  obtain ⟨nonempty, -, -, -, rfl⟩ := scaled
  rw [maxRouteParticipants] at few
  constructor
  · simp only [soloWardenHealth]
    omega
  · simp only [soloWardenHealth, twoPlayerWardenHealth]
    omega

theorem startIfReady_keeps (started spawned : Option Unit) (kept : session.Kept) :
    Leads (startIfReady started spawned) session := by
  apply leads_known session.ready rfl
  split
  · exact leads_pure kept ()
  · next ready =>
    apply leads_demand kept
    intro _
    apply leads_check kept
    intro route built
    apply leads_demand kept
    intro _
    have waiting : session.stage = .waiting := by
      simp only [Bool.not_eq_false, RouteSession.ready, Bool.and_eq_true, decide_eq_true_eq] at ready
      exact ready.1
    constructor
    case waiting => exact nofun
    case route =>
      rintro other ⟨⟩
      change route.Kept .drone session.excursion
      rw [kept.waiting waiting]
      exact newRoute_kept built

end Start

/-! ## Before the choice -/

section Before

variable {session : RouteSession}

variable {stage : SessionStage} {excursion : Bool} {route : RouteRuntime}

/-- Before a choice only the phase and the capabilities change. -/
theorem RouteRuntime.Kept.unselected (kept : route.Kept stage excursion)
    (unselected : route.operation.selection = none) :
    route.operation.terminal = none ∧ (excursion = true → route.operation.phase = .baselineLocked) ∧
      stage ≠ .stabilizer ∧ route.startedAt = none ∧ route.transitions = [] ∧
      BaseHealth route.encounter.wardenBaseHealth := by
  cases kept with
  | unrouted _ unfinished early locked unmarked idle empty base =>
      exact ⟨unfinished, locked, unmarked, idle, empty, base⟩
  | routed chose | succeeded chose | failed chose =>
      obtain ⟨selection, selected, -⟩ := chose.selection
      rw [unselected] at selected
      cases selected

theorem RouteRuntime.Kept.early (kept : route.Kept stage excursion)
    (early : route.operation.phase = .drone ∨ route.operation.phase = .choiceOpen ∨
      route.operation.phase = .baselineLocked) : route.operation.selection = none := by
  cases kept with
  | unrouted unselected => exact unselected
  | routed _ _ phase | succeeded _ phase | failed _ phase =>
      rw [phase] at early
      rcases early with impossible | impossible | impossible <;> cases impossible

variable {operation : RouteOperationState}

/-- A session before the choice stays there while only its phase moves. -/
theorem RouteRuntime.Kept.unchosen (kept : route.Kept stage excursion)
    (unselected : route.operation.selection = none)
    (selection : operation.selection = route.operation.selection)
    (terminal : operation.terminal = route.operation.terminal)
    (early : operation.phase = .drone ∨ operation.phase = .choiceOpen ∨
      operation.phase = .baselineLocked)
    (locked : excursion = true → operation.phase = .baselineLocked) :
    RouteRuntime.Kept stage excursion { route with operation } := by
  obtain ⟨unfinished, -, unmarked, idle, empty, base⟩ := kept.unselected unselected
  exact .unrouted (selection.trans unselected) (terminal.trans unfinished) early locked unmarked idle
    empty base

theorem RouteRuntime.Kept.marked {participantId : String} {value : Unit}
    (kept : route.Kept stage excursion)
    (answered : onCopy route.operation (markCapable participantId) = .ok (value, operation)) :
    RouteRuntime.Kept stage excursion { route with operation } := by
  obtain ⟨phase, rfl⟩ := marked_of answered
  have unselected := kept.early (phase.imp_right Or.inl)
  exact kept.unchosen unselected rfl rfl (phase.imp_right Or.inl) (kept.unselected unselected).2.1

theorem RouteRuntime.Kept.lockedBaseline {value : Unit} (kept : route.Kept stage excursion)
    (answered : onCopy route.operation lockBaseline = .ok (value, operation)) (begun : Bool) :
    RouteRuntime.Kept stage begun { route with operation } := by
  obtain ⟨phase, rfl⟩ := locked_of answered
  have unselected := kept.early (Or.inr (Or.inl phase))
  obtain ⟨unfinished, -, unmarked, idle, empty, base⟩ := kept.unselected unselected
  exact .unrouted unselected unfinished (Or.inr (Or.inr rfl)) (fun _ => rfl) unmarked idle empty base

/-- A changed copy of the operation is put in the place of the one it came from. -/
theorem install_keeps {changed : Option RouteOperationState} (kept : session.Kept)
    (fits : ∀ operation, changed = some operation → ∀ route, session.route = some route →
      RouteRuntime.Kept session.stage session.excursion { route with operation }) :
    Leads (install changed) session := by
  cases changed with
  | none => exact kept
  | some operation => exact kept.modify (fun route found _ => fits operation rfl route found)

theorem declareCapable_keeps (accountId : String) (kept : session.Kept) :
    Leads (declareCapable accountId) session := by
  apply leads_check kept
  intro changed looked
  apply install_keeps kept
  rintro operation rfl route found
  simp only [found] at looked
  obtain ⟨⟨value, copy⟩, answered, same⟩ := map_eq_ok.mp looked
  cases same
  exact (kept.route route found).marked answered

theorem requestRouteState_keeps (playerId : Nat) (kept : session.Kept) :
    Leads (requestRouteState playerId) session := by
  apply leads_check kept
  intro participant _
  apply leads_known session.eligible rfl
  split
  · exact leads_pure kept ()
  · apply leads_bind (declareCapable_keeps participant.accountId kept)
    intro _ next still
    exact { waiting := still.waiting, route := still.route }

end Before

/-! ## The choice -/

section Choice

variable {session : RouteSession} {choice : RouteChoice}

variable {operation next : RouteOperationState}

/-- A first choice is made in the open window and resolved with its seed. -/
theorem select_of {seed : RouteSeed} {receipt : OperationReceipt RouteSelectionOutcome}
    (fresh : operation.selection = none)
    (answered : choice.select operation seed = .ok (receipt, next)) :
    operation.phase = .choiceOpen ∧ receipt = { disposition := .applied, outcome := choice.outcome seed } ∧
      next = { operation with phase := .routed, selection := some (choice.outcome seed) } := by
  have told : Call.Sat (select choice.requesterId choice.operationId choice.routeId seed) operation
      (fun answer left => answer = .ok receipt → operation.phase = .choiceOpen ∧
        receipt = { disposition := .applied, outcome := choice.outcome seed } ∧
        left = { operation with phase := .routed, selection := some (choice.outcome seed) }) := by
    apply Call.sat_check_bind
    · exact fun _ _ => nofun
    · intro earlier looked
      simp only [RouteOperationState.earlierSelection, fresh, bind_eq_ok, exists_unit, pure_eq_ok] at looked
      obtain ⟨-, -, rfl⟩ := looked
      apply Call.sat_check_bind
      · exact fun _ _ => nofun
      · intro _ passed
        simp only [bind_eq_ok, exists_unit, rejectIf_eq_ok, not_not] at passed
        apply Call.sat_update_bind
        apply Call.sat_pure
        rintro ⟨⟩
        exact ⟨passed.1, rfl, rfl⟩
  unfold Call.Sat at told
  rw [onCopy_eq_ok.mp answered] at told
  exact told rfl

variable {candidate : RouteSeed}

theorem proposed_of {receipt : OperationReceipt RouteSelectionOutcome}
    (fresh : operation.selection = none)
    (answered : choice.proposed operation candidate = .ok (receipt, next)) :
    operation.phase = .choiceOpen ∧ receipt.outcome = choice.outcome candidate ∧
      next = { operation with phase := .routed, selection := some (choice.outcome candidate) } := by
  simp only [RouteChoice.proposed, bind_eq_ok] at answered
  obtain ⟨⟨probe, probed⟩, first, answered⟩ := answered
  obtain ⟨-, rfl, -⟩ := select_of fresh first
  obtain ⟨phase, rfl, changed⟩ := select_of fresh answered
  exact ⟨phase, rfl, changed⟩

variable {persisted : RouteSeed}

/-- Whatever was drawn, the operation ends with the seed the database knows. -/
theorem durable_of (fresh : operation.selection = none)
    (answered : choice.durable operation candidate persisted = .ok next) :
    operation.phase = .choiceOpen ∧
      next = { operation with phase := .routed, selection := some (choice.outcome persisted) } := by
  simp only [RouteChoice.durable, bind_eq_ok] at answered
  obtain ⟨⟨receipt, changed⟩, proposal, answered⟩ := answered
  obtain ⟨phase, outcome, rfl⟩ := proposed_of fresh proposal
  split at answered
  · next same =>
    cases answered
    rw [same, outcome]
    exact ⟨phase, rfl⟩
  · simp only [bind_eq_ok, pure_eq_ok] at answered
    obtain ⟨⟨again, left⟩, selected, rfl⟩ := answered
    exact ⟨phase, (select_of fresh selected).2.2⟩

theorem installation_of {installation : Installation} {stored : Option Unit} {route : RouteRuntime}
    (found : session.route = some route) (fresh : route.operation.selection = none)
    (answered : session.installation choice candidate persisted stored = .ok installation) :
    route.operation.phase = .choiceOpen ∧ installation.outcome = choice.outcome persisted ∧
      installation.operation = { route.operation with
        phase := .routed, selection := some (choice.outcome persisted) } ∧
      installation.replay.objectives = objectiveEvidence (routePath choice.routeId) := by
  simp only [RouteSession.installation, bind_eq_ok, require_eq_ok, found, Option.some.injEq,
    exists_eq_left', pure_eq_ok] at answered
  obtain ⟨proposal, -, -, -, -, -, operation, durable, replay, recorded, rfl⟩ := answered
  obtain ⟨phase, rfl⟩ := durable_of fresh durable
  refine ⟨phase, rfl, rfl, ?_⟩
  simp only [RouteSession.routeSelectionReplay, bind_eq_ok, pure_eq_ok] at recorded
  obtain ⟨participants, -, rfl⟩ := recorded
  rfl

/-- The Warden of a party can bear any effect of the catalog. -/
theorem applyWardenHealthEffect_of_base {health : Nat} (base : BaseHealth health) {effect : RouteEffect}
    (bounded : effect.Bounded) : ∃ effective, applyWardenHealthEffect health effect = .ok effective := by
  obtain ⟨positive, small⟩ := base
  have product : health * effect.wardenHealthBasisPoints ≤ 360 * 12000 :=
    Nat.mul_le_mul small bounded.1.2
  refine ⟨(health * effect.wardenHealthBasisPoints + basisPoints / 2) / basisPoints, ?_⟩
  simp only [applyWardenHealthEffect, bind_eq_ok, exists_unit, rejectIf_eq_ok, pure_eq_ok]
  refine ⟨?_, ?_, ?_, trivial⟩
  · rintro (zero | outside)
    · omega
    · exact outside bounded
  · rw [basisPoints, u64Max]
    omega
  · rw [basisPoints, u32Max]
    omega

theorem installSelection_keeps {installation : Installation} {stored : Option Unit} (now : Nat)
    (kept : session.Kept) (unselected : session.selected = false)
    (answered : session.installation choice candidate persisted stored = .ok installation) :
    Leads (installSelection installation now) session := by
  cases found : session.route with
  | none =>
      simp only [RouteSession.installation, bind_eq_ok, require_eq_ok, found, reduceCtorEq,
        false_and] at answered
      exact answered.elim (fun _ => False.elim)
  | some route =>
      have fresh : route.operation.selection = none := by
        simpa [RouteSession.selected, found] using unselected
      obtain ⟨unfinished, locked, -, -, -, base⟩ := (kept.route route found).unselected fresh
      obtain ⟨phase, outcome, operation, replay⟩ := installation_of found fresh answered
      have home : session.excursion = false := by
        by_contra under
        cases phase.symm.trans (locked (Bool.not_eq_false _ ▸ under))
      have bounded := resolveEvent_bounded choice.routeId persisted
      obtain ⟨effective, borne⟩ := applyWardenHealthEffect_of_base base bounded
      apply leads_update
      refine leads_known ((successTransitions (routePath choice.routeId)).take 2) ?_ ?_
      · rw [outcome]
        exact initialRouteTransitions_walk choice.routeId
      apply leads_update
      refine leads_known effective ?_ ?_
      · simp only [RouteSession.wardenHealth, found, Option.map_some, outcome]
        change (applyWardenHealthEffect route.encounter.wardenBaseHealth
          (resolveEvent choice.routeId persisted).effect).mapError SessionError.route = _
        rw [borne]
        rfl
      apply leads_update
      rw [outcome]
      constructor
      case waiting =>
        intro _
        exact home
      case route =>
        intro changed same
        simp only [found, Option.map_some, setStage, Call.update, Option.some.injEq] at same
        subst same
        have chose : RouteRuntime.Chose
            { route with
              operation := installation.operation, selectionReplay := some installation.replay
              startedAt := some now, lastObservedElapsedMs := 0
              transitions := (successTransitions (routePath choice.routeId)).take 2
              encounter := { route.encounter with wardenEffectiveHealth := effective } }
            choice.routeId := by
          constructor
          case selection =>
            refine ⟨choice.outcome persisted, ?_, rfl, rfl⟩
            rw [operation]
          case replay => exact ⟨installation.replay, rfl, replay⟩
        have unfinished_left : installation.operation.terminal = none := by
          rw [operation]
          exact unfinished
        have routed : installation.operation.phase = .routed := by
          rw [operation]
        obtain ⟨objectiveId, first, here⟩ := routeStage_first choice.routeId
        exact .routed chose unfinished_left routed home Nat.one_pos first here rfl

theorem chooseRoute_keeps (playerId : Nat) (operationId : String) (routeId : RouteId)
    (candidate persisted : RouteSeed) (now : Nat) (stored : Option Unit) (kept : session.Kept) :
    Leads (chooseRoute playerId operationId routeId candidate persisted now stored) session := by
  apply leads_check kept
  intro requester _
  apply leads_check kept
  intro installation answered
  apply leads_known session.selected rfl
  split
  · exact leads_pure kept ()
  · next unselected =>
    exact installSelection_keeps now kept (Bool.not_eq_true _ ▸ unselected) answered

end Choice

/-! ## The objectives on the way -/

section Way

variable {session : RouteSession} {routeId : RouteId} {position : Nat}

theorem behind_stabilizer (found : (routePath routeId)[position]? = some .reachRelayStabilizer) :
    (routePath routeId)[position + 1]? = some .reachRelayDoor := by
  cases routeId <;> match position with
    | 0 | 1 | 2 | 3 => first | rfl | cases found
    | position + 4 => cases found

theorem behind_door (found : (routePath routeId)[position]? = some .reachRelayDoor) :
    (routePath routeId)[position + 1]? = some .defeatWarden := by
  cases routeId <;> match position with
    | 0 | 1 | 2 | 3 => first | rfl | cases found
    | position + 4 => cases found

theorem warden_last (found : (routePath routeId)[position]? = some .defeatWarden) :
    (routePath routeId).length = position + 1 := by
  cases routeId <;> match position with
    | 0 | 1 | 2 | 3 => first | rfl | cases found
    | position + 4 => cases found

variable {route : RouteRuntime}

/-- The objective of the stage is done and the next one begins with the next stage. -/
theorem RouteRuntime.Kept.advanced {stage : SessionStage} (following : SessionStage)
    {objectiveId next : RouteObjectiveId} {excursion : Bool} (kept : route.Kept stage excursion)
    (selected : route.operation.selection ≠ none) (here : stageObjective stage = some objectiveId)
    (ahead : stageObjective following = some next)
    (behind : ∀ routeId position, (routePath routeId)[position]? = some objectiveId →
      (routePath routeId)[position + 1]? = some next) :
    ∃ transitions, advance route.transitions objectiveId next = .ok transitions ∧
      ∀ encounter, RouteRuntime.Kept following excursion { route with transitions, encounter } := by
  cases kept with
  | unrouted unselected => exact absurd unselected selected
  | succeeded _ _ ended | failed _ _ ended =>
      rw [ended] at here
      cases here
  | @routed routeId position _ chose unfinished phase home later found current noted =>
      cases current.symm.trans here
      have follows := behind routeId position found
      refine ⟨(successTransitions (routePath routeId)).take (2 * (position + 1)), ?_, ?_⟩
      · rw [noted]
        exact advance_walk found follows (routePath_short _)
      · intro encounter
        exact .routed ⟨chose.selection, chose.replay⟩ unfinished phase home (Nat.succ_pos _) follows
          ahead rfl

theorem reachStabilizer_keeps (kept : session.Kept) (here : session.stage = .stabilizer) :
    Leads reachStabilizer session := by
  cases found : session.route with
  | none =>
      unfold Leads Call.Sat
      rw [reachStabilizer, Call.bind_of_error (followObjective_of_absent found _ _)]
      exact kept
  | some route =>
      have held := kept.route route found
      rw [here] at held
      have selected : route.operation.selection ≠ none := by
        intro unselected
        exact (held.unselected unselected).2.2.1 rfl
      obtain ⟨onward, walked, left⟩ := held.advanced .door selected rfl rfl
        (fun _ _ => behind_stabilizer)
      apply leads_done (followObjective_of_advance found walked)
      constructor
      case waiting => rintro ⟨⟩
      case route =>
        intro changed same
        simp only [setStage, Call.update, Option.some.injEq] at same
        subst same
        exact left route.encounter

/-- Before a choice any stage but the stabilizer's may follow. -/
theorem RouteRuntime.Kept.restaged {stage : SessionStage} {excursion : Bool}
    (kept : route.Kept stage excursion) (unselected : route.operation.selection = none)
    {following : SessionStage} (unmarked : following ≠ .stabilizer) :
    route.Kept following excursion := by
  cases kept with
  | unrouted _ unfinished early locked _ idle empty base =>
      exact .unrouted unselected unfinished early locked unmarked idle empty base
  | routed chose | succeeded chose | failed chose =>
      obtain ⟨selection, selected, -⟩ := chose.selection
      cases unselected.symm.trans selected

theorem unselected_of (idle : session.selected = false) (found : session.route = some route) :
    route.operation.selection = none := by
  simpa [RouteSession.selected, found] using idle

/-- Behind the door a route goes on to the Warden. -/
theorem spawnWarden_keeps (requested stored : Option Unit) (kept : session.Kept)
    (here : session.stage = .door) :
    Leads (spawnWarden requested stored) session := by
  apply leads_demand kept
  intro _
  apply leads_check kept
  intro health _
  apply leads_demand kept
  intro _
  apply leads_update
  apply leads_known session.selected rfl
  split
  · next idle =>
    constructor
    case waiting => rintro ⟨⟩
    case route =>
      intro route found
      exact (kept.route route found).restaged (unselected_of idle found) (by rintro ⟨⟩)
  · next routed =>
    cases found : session.route with
    | none => simp [RouteSession.selected, found] at routed
    | some route =>
        have held := kept.route route found
        rw [here] at held
        have selected : route.operation.selection ≠ none := by
          intro unselected
          simp [RouteSession.selected, found, unselected] at routed
        obtain ⟨onward, walked, left⟩ := held.advanced .boss selected rfl rfl
          (fun _ _ => behind_door)
        apply leads_done (followObjective_of_advance rfl walked)
        constructor
        case waiting => rintro ⟨⟩
        case route =>
          intro changed same
          simp only [modifyRoute, Call.update, Option.map_some, Option.some.injEq] at same
          subst same
          exact left _

/-- A choice still open is locked, and nothing else happens. -/
theorem lockAtDoor_keeps (kept : session.Kept) :
    Call.Sat lockAtDoor session (fun _ next => next.Kept ∧ next.stage = session.stage) := by
  apply Call.sat_check_bind
  · exact fun _ _ => ⟨kept, rfl⟩
  · intro changed looked
    cases changed with
    | none => exact ⟨kept, rfl⟩
    | some operation =>
        refine ⟨kept.modify ?_, rfl⟩
        intro route found held
        simp only [found] at looked
        split at looked
        · obtain ⟨⟨value, copy⟩, answered, same⟩ := map_eq_ok.mp looked
          cases same
          exact held.lockedBaseline answered session.excursion
        · cases looked

theorem movePlayer_keeps (position : Position) (requested stored : Option Unit)
    (kept : session.Kept) : Leads (movePlayer position requested stored) session := by
  apply leads_check kept
  intro stage looked
  simp only [bind_eq_ok, exists_unit, rejectIf_eq_ok, pure_eq_ok] at looked
  obtain ⟨-, rfl⟩ := looked
  split
  · next here => exact reachStabilizer_keeps kept here.1
  · split
    · next here =>
      have locked := lockAtDoor_keeps kept
      apply Call.sat_bind
      unfold Call.Sat at locked ⊢
      cases (lockAtDoor session).1 with
      | error failure => exact locked.1
      | ok done => exact spawnWarden_keeps requested stored locked.1 (locked.2.trans here.1)
    · exact leads_pure kept ()

end Way

/-! ## The end -/

section End

variable {session : RouteSession} {route : RouteRuntime}

variable {operation : RouteOperationState}

/-- A first terminal ends the chosen route with the outcome asked for. -/
theorem finished_of {next : RouteOperationState} {requested : TerminalOutcome} {elapsedMs : Nat}
    {receipt : OperationReceipt RouteOperationSummary} (fresh : operation.terminal = none)
    (answered : onCopy operation (finish requested elapsedMs) = .ok (receipt, next)) :
    operation.phase = .routed ∧ ∃ selection, operation.selection = some selection ∧
      receipt.outcome = operation.summary selection requested elapsedMs ∧
      next.phase = requested.phase ∧ next.selection = operation.selection := by
  have told : Call.Sat (finish requested elapsedMs) operation
      (fun answer left => answer = .ok receipt → operation.phase = .routed ∧
        ∃ selection, operation.selection = some selection ∧
          receipt.outcome = operation.summary selection requested elapsedMs ∧
          left.phase = requested.phase ∧ left.selection = operation.selection) := by
    apply Call.sat_check_bind
    · exact fun _ _ => nofun
    · intro earlier looked
      simp only [RouteOperationState.earlierTerminal, fresh, pure_eq_ok] at looked
      subst looked
      apply Call.sat_check_bind
      · exact fun _ _ => nofun
      · intro outcome passed
        simp only [bind_eq_ok, pure_eq_ok] at passed
        obtain ⟨selection, finishable, rfl⟩ := passed
        obtain ⟨phase, selected, -⟩ := due_of_finishable finishable
        apply Call.sat_update_bind
        apply Call.sat_pure
        rintro ⟨⟩
        exact ⟨phase, selection, selected, rfl, rfl, rfl⟩
  unfold Call.Sat at told
  rw [onCopy_eq_ok.mp answered] at told
  exact told rfl

variable {terminal : RouteTerminalPayload}

theorem routeTerminalReplay_transitions {selection : RouteSelectedPayload}
    {summary : RouteOperationSummary} {transitions : List ReplayObjectiveTransition}
    {encounter : RouteEncounter} {grants : List ReplayRouteGrantEvidence}
    (built : routeTerminalReplay selection summary transitions encounter grants = .ok terminal) :
    terminal.transitions = transitions := by
  simp only [routeTerminalReplay, bind_eq_ok, exists_unit, pure_eq_ok] at built
  obtain ⟨-, rfl⟩ := built
  rfl

/-- The Warden's fall completes the walk. -/
theorem completion_walk {excursion : Bool} {elapsedMs : Nat} (kept : route.Kept .boss excursion)
    (completed : route.completion elapsedMs = .ok (operation, terminal)) :
    ∃ routeId, route.Chose routeId ∧ terminal.transitions = successTransitions (routePath routeId) ∧
      operation.phase = .succeeded ∧ operation.selection = route.operation.selection ∧
      excursion = false := by
  simp only [RouteRuntime.completion, bind_eq_ok, pure_eq_ok, Prod.mk.injEq] at completed
  obtain ⟨⟨receipt, changed⟩, finished, transitions, pushed, replay, -, reward, -, built, replayed,
    rfl, rfl⟩ := completed
  cases kept with
  | unrouted _ unfinished early =>
      have routed := (finished_of unfinished finished).1
      rw [routed] at early
      rcases early with impossible | impossible | impossible <;> cases impossible
  | succeeded _ _ ended | failed _ _ ended => cases ended
  | @routed routeId position objectiveId chose unfinished phase home later found here noted =>
      cases here
      obtain ⟨-, selection, -, -, ended, same⟩ := finished_of unfinished finished
      obtain ⟨-, rfl⟩ := pushRouteTransition_eq_ok.mp pushed
      refine ⟨routeId, chose, ?_, ended, same, home⟩
      refine Eq.trans ?_ (take_whole (warden_last found))
      rw [routeTerminalReplay_transitions replayed, noted, take_length found, take_completion found]
      rfl

/-- A timeout fails the objective the walk has come to. -/
theorem timeout_walk {stage : SessionStage} {excursion : Bool} {elapsedMs : Nat}
    (kept : route.Kept stage excursion) (started : route.startedAt.isSome = true)
    (failed : route.timeout elapsedMs = .ok (operation, terminal)) :
    ∃ routeId position objectiveId, route.Chose routeId ∧
      (routePath routeId)[position]? = some objectiveId ∧
      terminal.transitions = failureTransitions (routePath routeId) position objectiveId ∧
      operation.phase = .failed ∧ operation.selection = route.operation.selection ∧
      excursion = false := by
  simp only [RouteRuntime.timeout, bind_eq_ok, pure_eq_ok, Prod.mk.injEq] at failed
  obtain ⟨⟨receipt, changed⟩, finished, active, found_active, transitions, pushed, replay, -, built,
    replayed, rfl, rfl⟩ := failed
  cases kept with
  | unrouted _ _ _ _ _ idle | succeeded _ _ _ _ idle | failed _ _ _ _ idle =>
      rw [idle] at started
      cases started
  | @routed routeId position objectiveId chose unfinished phase home later found here noted =>
      obtain ⟨-, selection, selected, outcome, ended, same⟩ := finished_of unfinished finished
      obtain ⟨other, chosen, -, path⟩ := chose.selection
      cases selected.symm.trans chosen
      have objectives : receipt.outcome.objectivePath = routePath routeId := by
        rw [outcome]
        exact path
      rw [objectives, noted, activeRouteObjective_walk found] at found_active
      cases found_active
      obtain ⟨-, rfl⟩ := pushRouteTransition_eq_ok.mp pushed
      refine ⟨routeId, position, _, chose, found, ?_, ended, same, home⟩
      rw [routeTerminalReplay_transitions replayed, noted, take_length found]
      rfl

theorem completeRoutedActivity_keeps (now : Nat) (stored : Option Unit) (kept : session.Kept)
    (here : session.stage = .boss) : Leads (completeRoutedActivity now stored) session := by
  apply leads_check kept
  rintro ⟨elapsedMs, operation, terminal⟩ looked
  apply leads_demand kept
  intro _
  simp only [RouteSession.completion, bind_eq_ok, require_eq_ok, pure_eq_ok, Prod.mk.injEq] at looked
  obtain ⟨route, found, startedAt, -, ⟨answer, ended⟩, completed, rfl, rfl, rfl⟩ := looked
  have held := kept.route route found
  rw [here] at held
  obtain ⟨routeId, chose, noted, phase, same, home⟩ := completion_walk held completed
  apply leads_update
  constructor
  case waiting => rintro ⟨⟩
  case route =>
    intro changed left
    simp only [setStage, Call.update, found, Option.map_some, Option.some.injEq] at left
    subst left
    refine @RouteRuntime.Kept.succeeded _ _ _ routeId ⟨?_, chose.replay⟩ phase rfl home rfl noted
    rw [same]
    exact chose.selection

theorem failRoute_keeps (elapsedMs : Nat) (stored : Option Unit) (kept : session.Kept)
    (started : ∀ route, session.route = some route → route.startedAt.isSome = true) :
    Leads (failRoute elapsedMs stored) session := by
  apply leads_check kept
  rintro ⟨operation, terminal⟩ looked
  apply leads_demand kept
  intro _
  simp only [bind_eq_ok, require_eq_ok] at looked
  obtain ⟨route, found, failed⟩ := looked
  obtain ⟨routeId, position, objectiveId, chose, place, noted, phase, same, home⟩ :=
    timeout_walk (kept.route route found) (started route found) failed
  apply leads_update
  constructor
  case waiting => rintro ⟨⟩
  case route =>
    intro changed left
    simp only [setStage, Call.update, found, Option.map_some, Option.some.injEq] at left
    subst left
    refine @RouteRuntime.Kept.failed _ _ _ routeId _ _ ⟨?_, chose.replay⟩ phase rfl home rfl place
      noted
    rw [same]
    exact chose.selection

theorem observeRouteDeadline_keeps (now : Nat) (stored : Option Unit) (kept : session.Kept) :
    Leads (observeRouteDeadline now stored) session := by
  apply leads_check kept
  intro running looked
  cases running with
  | none => exact leads_pure kept ()
  | some times =>
      apply leads_update
      have still : RouteSession.Kept
          { session with
            route := session.route.map (fun route =>
              { route with lastObservedElapsedMs := times.1 }) } :=
        kept.modify (fun route _ held => held.frame rfl rfl rfl rfl rfl)
      split
      · exact leads_pure still ()
      · apply failRoute_keeps times.1 stored still
        intro changed left
        cases found : session.route with
        | none =>
            rw [found] at left
            cases left
        | some route =>
            simp only [found, Option.map_some, Option.some.injEq] at left
            subst left
            simp only [RouteSession.running, found] at looked
            split at looked
            · cases looked
            · next begun => simp [begun]

end End

/-! ## Every event -/

section Events

variable {session : RouteSession}

/-- A call on the operation goes on from the copy it leaves. -/
theorem operate_leads {Value : Type} {missing : String} {call : RouteCall Unit}
    {rest : Unit → RouteSessionCall Value} (kept : session.Kept)
    (passed : ∀ route operation value, session.route = some route →
      onCopy route.operation call = .ok (value, operation) →
      Leads (rest ()) { session with route := some { route with operation } }) :
    Leads (operate missing call >>= rest) session := by
  apply Call.sat_bind
  apply Call.sat_check_bind
  · exact fun _ _ => kept
  · rintro ⟨value, operation⟩ looked
    simp only [bind_eq_ok, require_eq_ok] at looked
    obtain ⟨route, found, answered⟩ := looked
    apply Call.sat_update
    simp only [found, Option.map_some]
    exact passed route operation value found answered

theorem enemyDefeated_keeps (now : Nat) (appended stored : Option Unit) (kept : session.Kept)
    (fighting : session.stage = .drone ∨ session.stage = .boss) :
    Leads (enemyDefeated now appended stored) session := by
  apply leads_demand kept
  intro _
  apply leads_known session.stage rfl
  split
  · next here =>
    apply operate_leads kept
    intro route operation value found answered
    obtain ⟨phase, rfl⟩ := opened_of answered
    have held := kept.route route found
    have unselected := held.early (Or.inl phase)
    obtain ⟨unfinished, locked, -, idle, empty, base⟩ := held.unselected unselected
    apply leads_update
    constructor
    case waiting => rintro ⟨⟩
    case route =>
      intro changed left
      simp only [setStage, Call.update, Option.map_some, Option.some.injEq] at left
      subst left
      refine .unrouted unselected unfinished (Or.inr (Or.inl rfl)) ?_ (by rintro ⟨⟩) idle empty base
      intro under
      cases phase.symm.trans (locked under)
  · next other =>
    have here := fighting.resolve_left other
    apply leads_known session.selected rfl
    split
    · exact completeRoutedActivity_keeps now stored kept here
    · next idle =>
      apply leads_demand kept
      intro _
      constructor
      case waiting => rintro ⟨⟩
      case route =>
        intro route found
        exact (kept.route route found).restaged
          (unselected_of (Bool.not_eq_true _ ▸ idle) found) (by rintro ⟨⟩)

/-- The count of hits says nothing about the route. -/
theorem noteHit_keeps (stage : SessionStage) (remainingHealth : Nat) (kept : session.Kept) :
    Call.Sat (noteHit stage remainingHealth) session
      (fun _ next => next.Kept ∧ next.stage = session.stage) := by
  unfold noteHit
  split
  · exact ⟨kept.modify (fun route _ held => held.frame rfl rfl rfl rfl rfl), rfl⟩
  · exact ⟨kept, rfl⟩

theorem attack_keeps (remainingHealth now : Nat) (appended stored : Option Unit)
    (kept : session.Kept) : Leads (attack remainingHealth now appended stored) session := by
  apply leads_check kept
  intro stage looked
  simp only [bind_eq_ok, exists_unit, rejectIf_eq_ok, pure_eq_ok] at looked
  obtain ⟨fighting, rfl⟩ := looked
  have noted := noteHit_keeps session.stage remainingHealth kept
  apply Call.sat_bind
  unfold Call.Sat at noted ⊢
  cases (noteHit session.stage remainingHealth session).1 with
  | error failure => exact noted.1
  | ok done =>
      have active : session.stage = .drone ∨ session.stage = .boss := by
        by_contra other
        exact fighting (not_or.mp other)
      rw [← noted.2] at active
      change Leads (if remainingHealth = 0 then enemyDefeated now appended stored else pure ()) _
      split
      · exact enemyDefeated_keeps now appended stored noted.1 active
      · exact leads_pure noted.1 ()

theorem beginExcursion_keeps (stage : SessionStage) (stored : Option Unit) (kept : session.Kept) :
    Leads (beginExcursion stage stored) session := by
  apply leads_check kept
  intro _ looked
  rw [rejectIf_eq_ok, not_or, not_not, not_not] at looked
  simp only [List.mem_cons, List.not_mem_nil, or_false] at looked
  apply leads_demand kept
  intro _
  apply operate_leads kept
  intro route operation value found answered
  have held := (kept.route route found).lockedBaseline answered true
  have unselected := held.early (Or.inr (Or.inr (by rw [(locked_of answered).2])))
  constructor
  case waiting =>
    intro waiting
    rcases looked.2 with same | same <;> cases same.symm.trans waiting
  case route =>
    intro changed left
    simp only [Call.update, Option.some.injEq] at left
    subst left
    refine held.restaged unselected ?_
    intro marked
    rcases looked.2 with same | same <;> cases same.symm.trans marked

theorem excursionStage_keeps (stage : SessionStage) (kept : session.Kept) :
    Leads (excursionStage stage) session := by
  apply leads_check kept
  intro _ looked
  rw [rejectIf_eq_ok, not_or, not_not, Bool.not_eq_false] at looked
  obtain ⟨under, stages⟩ := looked
  simp only [List.mem_cons, List.not_mem_nil, or_false] at stages
  constructor
  case waiting =>
    intro waiting
    rcases stages with same | same | same <;> cases same.symm.trans waiting
  case route =>
    intro route found
    have held := kept.route route found
    have unselected : route.operation.selection = none := by
      cases held with
      | unrouted unselected => exact unselected
      | routed _ _ _ home | succeeded _ _ _ home | failed _ _ _ home =>
          cases home.symm.trans under
    refine held.restaged unselected ?_
    intro marked
    rcases stages with same | same | same <;> cases same.symm.trans marked

/-- Every event keeps the session. -/
theorem perform_keeps (event : Event) (kept : session.Kept) : (perform event session).2.Kept := by
  cases event with
  | participants participants => exact { waiting := kept.waiting, route := kept.route }
  | start started spawned => exact startIfReady_keeps started spawned kept
  | requestState playerId => exact requestRouteState_keeps playerId kept
  | choose playerId operationId routeId candidate persisted now stored =>
      exact chooseRoute_keeps playerId operationId routeId candidate persisted now stored kept
  | move position requested stored => exact movePlayer_keeps position requested stored kept
  | attack remainingHealth now appended stored =>
      exact attack_keeps remainingHealth now appended stored kept
  | hostileHit damage => exact kept.modify (fun route _ held => held.frame rfl rfl rfl rfl rfl)
  | deadline now stored => exact observeRouteDeadline_keeps now stored kept
  | excursion stage stored => exact beginExcursion_keeps stage stored kept
  | excursionStage stage => exact excursionStage_keeps stage kept
  | reset => exact RouteSession.Kept.waits _ _ _

end Events

/-! ## The lists and their readers -/

/-- The notes of a chosen route: part of the walk while it is under way, then the
whole walk, or the walk and the failure of the objective it had come to. -/
def Noted (path : List RouteObjectiveId) (phase : RoutePhase)
    (transitions : List ReplayObjectiveTransition) : Prop :=
  match phase with
  | .succeeded => transitions = successTransitions path
  | .failed => ∃ position objectiveId, path[position]? = some objectiveId ∧
      transitions = failureTransitions path position objectiveId
  | _ => ∃ position, 0 < position ∧ position < path.length ∧
      transitions = (successTransitions path).take (2 * position)

/-- What the notes of a route are, and that every terminal it hands to the
database is read back as it was meant. -/
structure RouteSession.Notes (session : RouteSession) (route : RouteRuntime) : Prop where
  unrouted : route.operation.selection = none → route.transitions = []
  routed : ∀ selection, route.operation.selection = some selection →
    Noted (routePath selection.routeId) route.operation.phase route.transitions
  succeeds : session.stage = .boss → ∀ elapsedMs operation terminal,
    route.completion elapsedMs = .ok (operation, terminal) →
      ∃ replay, route.selectionReplay = some replay ∧
        validateTransitions terminal replay .succeeded = .ok ()
  fails : route.startedAt.isSome = true → ∀ elapsedMs operation terminal,
    route.timeout elapsedMs = .ok (operation, terminal) →
      ∃ replay, route.selectionReplay = some replay ∧
        validateTransitions terminal replay .failedTimeout = .ok ()

theorem notes_of_kept {session : RouteSession} {route : RouteRuntime} (kept : session.Kept)
    (found : session.route = some route) : session.Notes route := by
  have held := kept.route route found
  constructor
  case unrouted => exact fun unselected => (held.unselected unselected).2.2.2.2.1
  case routed =>
    intro selection selected
    cases held with
    | unrouted unselected => cases unselected.symm.trans selected
    | @routed routeId position objectiveId chose _ phase _ later place _ noted =>
        obtain ⟨other, chosen, rfl, -⟩ := chose.selection
        cases selected.symm.trans chosen
        rw [phase]
        exact ⟨position, later, (List.getElem?_eq_some_iff.mp place).1, noted⟩
    | succeeded chose phase _ _ _ noted =>
        obtain ⟨other, chosen, rfl, -⟩ := chose.selection
        cases selected.symm.trans chosen
        rw [phase]
        exact noted
    | failed chose phase _ _ _ place noted =>
        obtain ⟨other, chosen, rfl, -⟩ := chose.selection
        cases selected.symm.trans chosen
        rw [phase]
        exact ⟨_, _, place, noted⟩
  case succeeds =>
    intro here elapsedMs operation terminal completed
    rw [here] at held
    obtain ⟨routeId, chose, noted, -⟩ := completion_walk held completed
    obtain ⟨replay, recorded, objectives⟩ := chose.replay
    exact ⟨replay, recorded, (validateTransitions_succeeded (routePath_nodup routeId)
      (routePath_nonempty routeId) objectives).mpr noted⟩
  case fails =>
    intro started elapsedMs operation terminal failed
    obtain ⟨routeId, position, objectiveId, chose, place, noted, -⟩ :=
      timeout_walk held started failed
    obtain ⟨replay, recorded, objectives⟩ := chose.replay
    exact ⟨replay, recorded, (validateTransitions_failed (routePath_nodup routeId) objectives).mpr
      ⟨position, objectiveId, place, noted⟩⟩

/-- A selection the replay accepts lists the objectives of its route. -/
theorem objectives_of_accepted {selection : RouteSelectedPayload}
    (accepted : validateSelectionPayload selection = .ok ()) :
    selection.objectives = objectiveEvidence (routePath selection.routeId) := by
  simp only [validateSelectionPayload, bind_eq_ok, exists_unit, rejectIf_eq_ok, not_not] at accepted
  exact accepted.2.2.2.2.2.2.2.2.2

/-- The replay accepts, behind a selection, the whole walk as a success and the
walk up to an active objective with its failure as a failure, and nothing else;
and whatever happens to a session in whatever order, its notes are these lists
and the first parts of the walk on the way to them. -/
theorem route_transition_lists :
    (∀ selection, validateSelectionPayload selection = .ok () → ∀ payload,
      (validateTransitions payload selection .succeeded = .ok () ↔
        payload.transitions = successTransitions (routePath selection.routeId)) ∧
      (validateTransitions payload selection .failedTimeout = .ok () ↔
        ∃ position objectiveId, (routePath selection.routeId)[position]? = some objectiveId ∧
          payload.transitions =
            failureTransitions (routePath selection.routeId) position objectiveId)) ∧
    ∀ activityId expectedPlayers participants (events : List Event) route,
      (Call.final perform events
        (RouteSession.waiting activityId expectedPlayers participants)).route = some route →
      (Call.final perform events
        (RouteSession.waiting activityId expectedPlayers participants)).Notes route := by
  constructor
  · intro selection accepted payload
    have objectives := objectives_of_accepted accepted
    exact ⟨validateTransitions_succeeded (routePath_nodup _) (routePath_nonempty _) objectives,
      validateTransitions_failed (routePath_nodup _) objectives⟩
  · intro activityId expectedPlayers participants events route found
    refine notes_of_kept ?_ found
    exact Call.final_keeps RouteSession.Kept (fun event _ kept => perform_keeps event kept) events
      (RouteSession.Kept.waits activityId expectedPlayers participants)

/-- One player with an empty loadout. -/
def lonePlayer : Participant :=
  { accountId := "player", characterId := "character", actorId := 7, currentV2 := true
    routeCapable := true, equippedWeaponItemId := "pulse_rifle"
    moduleState := .ok
      { catalogRevision := "", catalog := [], fragments := 0, ownedModules := []
        loadoutRevision := 0, persistedLoadout := [], appliedLoadout := []
        moduleEffectsActive := true, modifiers := .zero, weapons := [] } }

/-- One player clears the drone, takes the stabilizer route and defeats the Warden. -/
def stabilizedSession : RouteSession :=
  Call.final perform
    [.start (some ()) (some ()), .attack 0 10 (some ()) none,
      .choose 7 "choice-1" .stabilize ⟨5⟩ ⟨5⟩ 20 (some ()), .move ⟨3, 0, 3⟩ none none,
      .move ⟨6, 0, 0⟩ (some ()) (some ()), .attack 0 90 (some ()) (some ())]
    (RouteSession.waiting "relay_awakening" 1 [lonePlayer])

theorem route_transition_lists_stabilize :
    ∃ route, stabilizedSession.route = some route ∧
      route.transitions = successTransitions (routePath .stabilize) ∧
      stabilizedSession.Notes route := by
  have walked : stabilizedSession.route.map RouteRuntime.transitions =
      some (successTransitions (routePath .stabilize)) := by
    decide +kernel
  obtain ⟨route, found, same⟩ := Option.map_eq_some_iff.mp walked
  exact ⟨route, found, same, route_transition_lists.2 "relay_awakening" 1 [lonePlayer] _ route found⟩

end Route
end Gateway
end Revenant
