import Revenant.Operations.State

namespace Revenant
namespace Operations

open Library

/-!
# The history of a route operation

`RouteStep` lists what one command can do, and `Kept` ties phase, selection and
result together.  A whole run then stores at most one selection, made by the
leader while every participant is capable, and at most one result; whatever is
stored stays and answers every retry.
-/

/-- The command that asks for an outcome. -/
def RouteCommand.finishing : TerminalOutcome → Nat → RouteCommand
  | .succeeded => .complete
  | .failedTimeout => .failTimeout

/-- In time for success, late for a timeout. -/
def TerminalOutcome.Due (outcome : TerminalOutcome) (elapsedMs budgetMs : Nat) : Prop :=
  match outcome with
  | succeeded => elapsedMs ≤ budgetMs
  | failedTimeout => budgetMs < elapsedMs

/-- One command's results.  A refused command writes nothing. -/
inductive RouteStep : RouteCommand → RouteOperationState → Except RouteError RouteAnswer →
    RouteOperationState → Prop
  | refused {command : RouteCommand} {state : RouteOperationState} {failure : RouteError} :
      RouteStep command state (.error failure) state
  | marked {state : RouteOperationState} {participantId : String}
      (phase : state.phase = .drone ∨ state.phase = .choiceOpen) :
      RouteStep (.markCapable participantId) state (.ok .done)
        { state with
          participants := RouteOperationState.markFirst participantId state.participants }
  | opened {state : RouteOperationState} (phase : state.phase = .drone) :
      RouteStep .openChoice state (.ok .done) { state with phase := .choiceOpen }
  | locked {state : RouteOperationState} (phase : state.phase = .choiceOpen) :
      RouteStep .lockBaseline state (.ok .done) { state with phase := .baselineLocked }
  | reselected {state : RouteOperationState} {requesterId operationId : String}
      {routeId : RouteId} {seed : RouteSeed} {selection : RouteSelectionOutcome} :
      RouteStep (.select requesterId operationId routeId seed) state
        (.ok (.selected { disposition := .replayed, outcome := selection })) state
  | selected {state : RouteOperationState} {requesterId operationId : String}
      {routeId : RouteId} {seed : RouteSeed}
      (plain : validateOperationId operationId = .ok ()) (phase : state.phase = .choiceOpen)
      (fresh : state.selection = none) (leader : state.leaderId = some requesterId)
      (capable : state.allCapable = true) :
      RouteStep (.select requesterId operationId routeId seed) state
        (.ok (.selected { disposition := .applied
                          outcome := RouteOperationState.chosen requesterId operationId routeId seed }))
        { state with
          phase := .routed
          selection := some (RouteOperationState.chosen requesterId operationId routeId seed) }
  | refinished {state : RouteOperationState} {outcome : TerminalOutcome} {elapsedMs : Nat}
      {stored : RouteOperationSummary} :
      RouteStep (.finishing outcome elapsedMs) state
        (.ok (.finished { disposition := .replayed, outcome := stored })) state
  | finished {state : RouteOperationState} {outcome : TerminalOutcome} {elapsedMs : Nat}
      {selection : RouteSelectionOutcome} (phase : state.phase = .routed)
      (fresh : state.terminal = none) (routed : state.selection = some selection)
      (due : outcome.Due elapsedMs selection.durationBudgetMs) :
      RouteStep (.finishing outcome elapsedMs) state
        (.ok (.finished { disposition := .applied
                          outcome := state.summary selection outcome elapsedMs }))
        { state with
          phase := outcome.phase
          terminal := some (state.summary selection outcome elapsedMs) }

/-! ## Reading the steps off the commands -/

/-- What a call does that a command wraps into its answer. -/
def Stepped {Value : Type} (command : RouteCommand) (wrap : Value → RouteAnswer)
    (state : RouteOperationState) : Except RouteError Value → RouteOperationState → Prop
  | .ok value, next => RouteStep command state (.ok (wrap value)) next
  | .error _, next => next = state

theorem step_of_wrapped {Value : Type} {call : RouteCall Value} {wrap : Value → RouteAnswer}
    {state : RouteOperationState} {command : RouteCommand}
    (holds : Call.Sat call state (Stepped command wrap state)) :
    Call.Sat (call >>= fun value => pure (wrap value)) state (RouteStep command state) := by
  apply Call.sat_bind
  unfold Call.Sat at holds ⊢
  cases answer : (call state).1 with
  | ok value =>
      rw [answer] at holds
      exact holds
  | error failure =>
      rw [answer] at holds
      rw [show (call state).2 = state from holds]
      exact RouteStep.refused

variable {state : RouteOperationState}

theorem markCapable_step (participantId : String) :
    Call.Sat (markCapable participantId) state (Stepped (.markCapable participantId) (fun _ => .done) state) := by
  apply Call.sat_check_bind
  · intro failure _
    rfl
  · intro _ passed
    apply Call.sat_update
    simp only [bind_eq_ok, exists_unit, rejectIf_eq_ok] at passed
    refine RouteStep.marked ?_
    by_contra other
    exact passed.1 (not_or.mp other)

theorem openChoice_step :
    Call.Sat openChoice state (Stepped .openChoice (fun _ => .done) state) := by
  apply Call.sat_check_bind
  · intro failure _
    rfl
  · intro _ passed
    exact Call.sat_update (RouteStep.opened (not_not.mp (rejectIf_eq_ok.mp passed)))

theorem lockBaseline_step :
    Call.Sat lockBaseline state (Stepped .lockBaseline (fun _ => .done) state) := by
  apply Call.sat_check_bind
  · intro failure _
    rfl
  · intro _ passed
    have allowed := rejectIf_eq_ok.mp passed
    exact Call.sat_update (RouteStep.locked (not_not.mp fun other => allowed (Or.inl other)))

theorem select_step (requesterId operationId : String) (routeId : RouteId) (seed : RouteSeed) :
    Call.Sat (select requesterId operationId routeId seed) state
      (Stepped (.select requesterId operationId routeId seed) RouteAnswer.selected state) := by
  apply Call.sat_check_bind
  · intro failure _
    rfl
  · intro earlier answered
    simp only [bind_eq_ok, exists_unit] at answered
    obtain ⟨plain, -, answered⟩ := answered
    cases earlier with
    | some selection => exact Call.sat_pure RouteStep.reselected
    | none =>
        have fresh : state.selection = none := by
          unfold RouteOperationState.earlierSelection at answered
          split at answered
          · simp only [bind_eq_ok, exists_unit, pure_eq_ok] at answered
            cases answered.2.2
          · assumption
        apply Call.sat_check_bind
        · intro failure _
          rfl
        · intro _ passed
          simp only [bind_eq_ok, exists_unit, rejectIf_eq_ok, not_not, Bool.not_eq_false] at passed
          obtain ⟨phase, leader, capable, -⟩ := passed
          apply Call.sat_update_bind
          exact Call.sat_pure (RouteStep.selected plain phase fresh leader capable)

/-- What may finish is due. -/
theorem due_of_finishable {requested : TerminalOutcome} {elapsedMs : Nat}
    {selection : RouteSelectionOutcome}
    (passed : state.finishable requested elapsedMs = .ok selection) :
    state.phase = .routed ∧ state.selection = some selection ∧
      requested.Due elapsedMs selection.durationBudgetMs := by
  simp only [RouteOperationState.finishable, bind_eq_ok, exists_unit, rejectIf_eq_ok, not_not,
    require_eq_ok, pure_eq_ok] at passed
  obtain ⟨phase, found, selected, inTime, late, rfl⟩ := passed
  refine ⟨phase, selected, ?_⟩
  cases requested with
  | succeeded => exact Nat.le_of_not_lt fun isOver => inTime ⟨rfl, isOver⟩
  | failedTimeout => exact Nat.lt_of_not_le fun within => late ⟨rfl, within⟩

theorem finish_step (requested : TerminalOutcome) (elapsedMs : Nat) :
    Call.Sat (finish requested elapsedMs) state
      (Stepped (.finishing requested elapsedMs) RouteAnswer.finished state) := by
  apply Call.sat_check_bind
  · intro failure _
    rfl
  · intro earlier answered
    cases earlier with
    | some stored => exact Call.sat_pure RouteStep.refinished
    | none =>
        have fresh : state.terminal = none := by
          unfold RouteOperationState.earlierTerminal at answered
          split at answered
          · simp only [bind_eq_ok, exists_unit, pure_eq_ok] at answered
            cases answered.2
          · assumption
        apply Call.sat_check_bind
        · intro failure _
          rfl
        · intro outcome passed
          simp only [bind_eq_ok, pure_eq_ok] at passed
          obtain ⟨selection, finishable, rfl⟩ := passed
          obtain ⟨phase, routed, due⟩ := due_of_finishable finishable
          apply Call.sat_update_bind
          exact Call.sat_pure (RouteStep.finished phase fresh routed due)

theorem perform_step (command : RouteCommand) (state : RouteOperationState) :
    RouteStep command state (perform command state).1 (perform command state).2 := by
  cases command with
  | markCapable participantId => exact step_of_wrapped (markCapable_step participantId)
  | openChoice => exact step_of_wrapped openChoice_step
  | lockBaseline => exact step_of_wrapped lockBaseline_step
  | select requesterId operationId routeId seed =>
      exact step_of_wrapped (select_step requesterId operationId routeId seed)
  | complete elapsedMs => exact step_of_wrapped (finish_step .succeeded elapsedMs)
  | failTimeout elapsedMs => exact step_of_wrapped (finish_step .failedTimeout elapsedMs)

/-! ## What every command keeps -/

/-- Phase, choice and result fit together. -/
inductive Standing : RoutePhase → Option RouteSelectionOutcome → Option RouteOperationSummary → Prop
  | drone : Standing .drone none none
  | choiceOpen : Standing .choiceOpen none none
  | baselineLocked : Standing .baselineLocked none none
  | routed (selection : RouteSelectionOutcome) : Standing .routed (some selection) none
  | ended (selection : RouteSelectionOutcome) (summary : RouteOperationSummary) :
      Standing summary.outcome.phase (some selection) (some summary)

/-- A choice of the first participant, as the catalog defines it. -/
structure Selected (participantIds : List String) (selection : RouteSelectionOutcome) : Prop where
  plain : validateOperationId selection.operationId = .ok ()
  leader : participantIds.head? = some selection.leaderId
  definition : selection = RouteOperationState.chosen selection.leaderId selection.operationId
    selection.routeId selection.seed

/-- A result of that choice, reached on the right side of its deadline. -/
structure Ended (state : RouteOperationState) (selection : RouteSelectionOutcome)
    (summary : RouteOperationSummary) : Prop where
  summarized : summary = state.summary selection summary.outcome summary.elapsedMs
  due : summary.outcome.Due summary.elapsedMs selection.durationBudgetMs

structure Kept (participantIds : List String) (state : RouteOperationState) : Prop where
  identities : state.participants.map ParticipantCapability.participantId = participantIds
  standing : Standing state.phase state.selection state.terminal
  selected : ∀ selection, state.selection = some selection → Selected participantIds selection
  ended : ∀ selection summary, state.selection = some selection → state.terminal = some summary →
    Ended state selection summary

theorem markFirst_identities (participantId : String) (participants : List ParticipantCapability) :
    (RouteOperationState.markFirst participantId participants).map
        ParticipantCapability.participantId =
      participants.map ParticipantCapability.participantId := by
  induction participants with
  | nil => rfl
  | cons participant rest inductionHypothesis =>
      by_cases found : participant.participantId = participantId
      · simp only [RouteOperationState.markFirst, if_pos found, List.map_cons]
      · simp only [RouteOperationState.markFirst, if_neg found, List.map_cons, inductionHypothesis]

/-- Nothing is stored while the choice is still ahead or has been skipped. -/
theorem Standing.unrouted {phase : RoutePhase} {selection : Option RouteSelectionOutcome}
    {terminal : Option RouteOperationSummary} (standing : Standing phase selection terminal)
    (early : phase = .drone ∨ phase = .choiceOpen ∨ phase = .baselineLocked) :
    selection = none ∧ terminal = none := by
  cases standing with
  | drone | choiceOpen | baselineLocked => exact ⟨rfl, rfl⟩
  | routed => rcases early with impossible | impossible | impossible <;> cases impossible
  | ended selection summary =>
      cases outcome : summary.outcome <;> rw [outcome] at early <;>
        rcases early with impossible | impossible | impossible <;> cases impossible

namespace Kept

variable {participantIds : List String} {state next : RouteOperationState}
  {command : RouteCommand} {result : Except RouteError RouteAnswer}

theorem leaderId_eq (kept : Kept participantIds state) : state.leaderId = participantIds.head? := by
  rw [← kept.identities, RouteOperationState.leaderId, List.head?_map]

theorem of_new (built : RouteOperationState.new participantIds = .ok state) :
    Kept participantIds state ∧ state.selection = none ∧ state.terminal = none := by
  simp only [RouteOperationState.new, bind_eq_ok, exists_unit, pure_eq_ok] at built
  obtain ⟨-, -, rfl⟩ := built
  refine ⟨?_, rfl, rfl⟩
  constructor
  case identities => rw [List.map_map]; exact List.map_id _
  case standing => exact Standing.drone
  case selected => rintro _ ⟨⟩
  case ended => rintro _ _ ⟨⟩

/-- Before a choice nothing else is to be shown. -/
theorem of_unrouted (identities : state.participants.map ParticipantCapability.participantId =
      participantIds) (standing : Standing state.phase state.selection state.terminal)
    (early : state.phase = .drone ∨ state.phase = .choiceOpen ∨ state.phase = .baselineLocked) :
    Kept participantIds state := by
  obtain ⟨unselected, unfinished⟩ := standing.unrouted early
  constructor
  case identities => exact identities
  case standing => exact standing
  case selected => exact fun _ found => nomatch unselected.symm.trans found
  case ended => exact fun _ _ found => nomatch unselected.symm.trans found

theorem step (kept : Kept participantIds state) (stepped : RouteStep command state result next) :
    Kept participantIds next := by
  cases stepped with
  | refused | reselected | refinished => exact kept
  | marked phase =>
      refine of_unrouted ?_ kept.standing (phase.imp_right Or.inl)
      exact (markFirst_identities _ _).trans kept.identities
  | opened phase =>
      obtain ⟨unselected, unfinished⟩ := kept.standing.unrouted (Or.inl phase)
      refine of_unrouted kept.identities ?_ (Or.inr (Or.inl rfl))
      rw [unselected, unfinished]
      exact Standing.choiceOpen
  | locked phase =>
      obtain ⟨unselected, unfinished⟩ := kept.standing.unrouted (Or.inr (Or.inl phase))
      refine of_unrouted kept.identities ?_ (Or.inr (Or.inr rfl))
      rw [unselected, unfinished]
      exact Standing.baselineLocked
  | selected plain phase fresh leader capable =>
      obtain ⟨-, unfinished⟩ := kept.standing.unrouted (Or.inr (Or.inl phase))
      constructor
      case identities => exact kept.identities
      case standing => rw [unfinished]; exact Standing.routed _
      case selected =>
        rintro selection ⟨⟩
        exact { plain, leader := kept.leaderId_eq.symm.trans leader, definition := rfl }
      case ended => exact fun _ _ _ impossible => nomatch unfinished.symm.trans impossible
  | finished phase fresh routed due =>
      constructor
      case identities => exact kept.identities
      case standing => rw [routed]; exact Standing.ended _ (state.summary _ _ _)
      case selected => exact kept.selected
      case ended =>
        rintro selection summary found ⟨⟩
        cases routed.symm.trans found
        exact { summarized := rfl, due }

theorem final (kept : Kept participantIds state) (commands : List RouteCommand) :
    Kept participantIds (Call.final perform commands state) :=
  Call.final_keeps (Kept participantIds)
    (fun command _ before => before.step (perform_step command _)) commands kept

end Kept

/-! ## Whole runs -/

/-- The choice that a command stored, if it did. -/
def newSelection : RouteCommand × Except RouteError RouteAnswer → Option RouteSelectionOutcome
  | (_, .ok (.selected { disposition := .applied, outcome })) => some outcome
  | _ => none

/-- The result that a command stored, if it did. -/
def newTerminal : RouteCommand × Except RouteError RouteAnswer → Option RouteOperationSummary
  | (_, .ok (.finished { disposition := .applied, outcome })) => some outcome
  | _ => none

/-- What holds after a run of commands on an operation of these participants. -/
structure History (participantIds : List String) (start : RouteOperationState)
    (commands : List RouteCommand) (state : RouteOperationState) : Prop where
  identities : state.participants.map ParticipantCapability.participantId = participantIds
  -- At most one choice and one result were ever stored, and they are the ones held.
  selections : (Call.log perform commands start).filterMap newSelection = state.selection.toList
  terminals : (Call.log perform commands start).filterMap newTerminal = state.terminal.toList
  selectionLasts : ∀ selection, state.selection = some selection → ∀ later,
    (Call.final perform later state).selection = some selection
  terminalLasts : ∀ summary, state.terminal = some summary → ∀ later,
    (Call.final perform later state).terminal = some summary
  -- The choice was made by the first participant while all were capable.
  chosen : ∀ selection, state.selection = some selection →
    ∃ earlier requesterId operationId routeId seed later,
      commands = earlier ++ .select requesterId operationId routeId seed :: later ∧
      selection = RouteOperationState.chosen requesterId operationId routeId seed ∧
      participantIds.head? = some requesterId ∧
      (Call.final perform earlier start).phase = .choiceOpen ∧
      (Call.final perform earlier start).participants.map ParticipantCapability.participantId =
        participantIds ∧
      ∀ participant ∈ (Call.final perform earlier start).participants, participant.capable = true
  rewarded : ∀ summary, state.terminal = some summary → ∃ selection,
    state.selection = some selection ∧ summary.routeId = selection.routeId ∧
      summary.reward = (if summary.outcome = .succeeded then
        some (routeDefinition selection.routeId).reward else none) ∧
      summary.durationBudgetMs = (routeDefinition selection.routeId).durationMs ∧
      (summary.outcome = .succeeded → summary.elapsedMs ≤ summary.durationBudgetMs) ∧
      (summary.outcome = .failedTimeout → summary.durationBudgetMs < summary.elapsedMs)
  baseline : (perform .lockBaseline state).1 = .ok .done → ∀ later,
    (Call.final perform later (perform .lockBaseline state).2).selection = none ∧
      (Call.final perform later (perform .lockBaseline state).2).terminal = none
  refused : ∀ command failure, (perform command state).1 = .error failure →
    (perform command state).2 = state
  reselected : ∀ selection, state.selection = some selection → ∀ seed,
    perform (.select selection.leaderId selection.operationId selection.routeId seed) state =
      (.ok (.selected { disposition := .replayed, outcome := selection }), state)
  refinished : ∀ summary, state.terminal = some summary →
    perform (.finishing summary.outcome summary.elapsedMs) state =
      (.ok (.finished { disposition := .replayed, outcome := summary }), state)

namespace Kept

variable {participantIds : List String} {state next : RouteOperationState}
  {command : RouteCommand} {result : Except RouteError RouteAnswer}

/-- A command stores what it answers as new, and nothing else. -/
theorem step_selection (stepped : RouteStep command state result next) : next.selection.toList =
      state.selection.toList ++ [(command, result)].filterMap newSelection := by
  cases stepped with
  | refused | reselected | refinished | marked | opened | locked | finished =>
      exact (List.append_nil _).symm
  | selected plain phase fresh leader capable => rw [fresh]; rfl

theorem step_terminal (stepped : RouteStep command state result next) : next.terminal.toList =
      state.terminal.toList ++ [(command, result)].filterMap newTerminal := by
  cases stepped with
  | refused | reselected | refinished | marked | opened | locked | selected =>
      exact (List.append_nil _).symm
  | finished phase fresh routed due => rw [fresh]; rfl

variable {selection : RouteSelectionOutcome}

theorem selection_lasts (found : state.selection = some selection) (commands : List RouteCommand) :
    (Call.final perform commands state).selection = some selection := by
  apply Call.final_keeps (fun state : RouteOperationState => state.selection = some selection) ?_ commands found
  intro command state found
  have stepped := perform_step command state
  generalize (perform command state).1 = result at stepped
  generalize (perform command state).2 = next at stepped ⊢
  cases stepped with
  | refused | reselected | refinished | marked | opened | locked | finished => exact found
  | selected _ _ fresh => exact nomatch fresh.symm.trans found

variable {summary : RouteOperationSummary}

theorem terminal_lasts (found : state.terminal = some summary) (commands : List RouteCommand) :
    (Call.final perform commands state).terminal = some summary := by
  apply Call.final_keeps (fun state : RouteOperationState => state.terminal = some summary) ?_ commands found
  intro command state found
  have stepped := perform_step command state
  generalize (perform command state).1 = result at stepped
  generalize (perform command state).2 = next at stepped ⊢
  cases stepped with
  | refused | reselected | refinished | marked | opened | locked | selected => exact found
  | finished _ fresh => exact nomatch fresh.symm.trans found

/-- The run up to the choice, and the choice itself. -/
theorem chosen_in {start : RouteOperationState} (kept : Kept participantIds start)
    (unselected : start.selection = none) (commands : List RouteCommand)
    (found : (Call.final perform commands start).selection = some selection) :
    ∃ earlier requesterId operationId routeId seed later,
      commands = earlier ++ .select requesterId operationId routeId seed :: later ∧
      selection = RouteOperationState.chosen requesterId operationId routeId seed ∧
      participantIds.head? = some requesterId ∧
      (Call.final perform earlier start).phase = .choiceOpen ∧
      (Call.final perform earlier start).participants.map ParticipantCapability.participantId =
        participantIds ∧
      ∀ participant ∈ (Call.final perform earlier start).participants,
        participant.capable = true := by
  have before : ¬ start.selection.isSome = true := by rw [unselected]; exact Bool.false_ne_true
  obtain ⟨earlier, command, later, rfl, none, some⟩ := Call.final_turns
    (fun state : RouteOperationState => state.selection.isSome = true) commands before (by rw [found]; rfl)
  have there := kept.final earlier
  rw [Call.final_append, Call.final_cons] at found
  have stepped := perform_step command (Call.final perform earlier start)
  generalize (perform command (Call.final perform earlier start)).1 = result at stepped
  generalize (perform command (Call.final perform earlier start)).2 = next at stepped some found
  generalize reached : Call.final perform earlier start = state at stepped none there
  cases stepped with
  | refused | reselected | refinished | marked | opened | locked | finished =>
      exact absurd some none
  | @selected _ requesterId operationId routeId seed plain phase fresh leader capable =>
      subst reached
      have same := (selection_lasts rfl later).symm.trans found
      refine ⟨earlier, requesterId, operationId, routeId, seed, later, rfl,
        (Option.some.inj same).symm, ?_, phase, there.identities, ?_⟩
      · exact there.leaderId_eq.symm.trans leader
      · exact List.all_eq_true.mp capable

theorem rewarded (kept : Kept participantIds state) (found : state.terminal = some summary) :
    ∃ selection,
      state.selection = some selection ∧ summary.routeId = selection.routeId ∧
        summary.reward = (if summary.outcome = .succeeded then
          some (routeDefinition selection.routeId).reward else none) ∧
        summary.durationBudgetMs = (routeDefinition selection.routeId).durationMs ∧
        (summary.outcome = .succeeded → summary.elapsedMs ≤ summary.durationBudgetMs) ∧
        (summary.outcome = .failedTimeout → summary.durationBudgetMs < summary.elapsedMs) := by
  cases picked : state.selection with
  | none =>
      have standing := kept.standing
      rw [picked, found] at standing
      generalize state.phase = phase at standing
      cases standing
  | some selection =>
      obtain ⟨summarized, due⟩ := kept.ended selection summary picked found
      have definition := (kept.selected selection picked).definition
      have reward : selection.reward = (routeDefinition selection.routeId).reward :=
        congrArg RouteSelectionOutcome.reward definition
      have budget : selection.durationBudgetMs = (routeDefinition selection.routeId).durationMs :=
        congrArg RouteSelectionOutcome.durationBudgetMs definition
      have held : summary.durationBudgetMs = selection.durationBudgetMs :=
        congrArg RouteOperationSummary.durationBudgetMs summarized
      refine ⟨selection, rfl, congrArg RouteOperationSummary.routeId summarized, ?_,
        held.trans budget, ?_, ?_⟩
      · rw [← reward]
        exact congrArg RouteOperationSummary.reward summarized
      · intro outcome
        rw [outcome] at due
        exact held ▸ due
      · intro outcome
        rw [outcome] at due
        exact held ▸ due

/-- After a baseline lock there is no way to a choice. -/
theorem baseline_lasts (kept : Kept participantIds state) (phase : state.phase = .baselineLocked)
    (commands : List RouteCommand) :
    (Call.final perform commands state).selection = none ∧
      (Call.final perform commands state).terminal = none := by
  have locked : (Call.final perform commands state).phase = .baselineLocked := by
    apply Call.final_keeps (fun state : RouteOperationState => state.phase = .baselineLocked) ?_ commands phase
    intro command state phase
    have stepped := perform_step command state
    generalize (perform command state).1 = result at stepped
    generalize (perform command state).2 = next at stepped ⊢
    cases stepped with
    | refused | reselected | refinished | marked => exact phase
    | opened other | selected _ other | finished other => exact nomatch phase.symm.trans other
    | locked => rfl
  exact (kept.final commands).standing.unrouted (Or.inr (Or.inr locked))

theorem select_replayed (kept : Kept participantIds state)
    (found : state.selection = some selection) (seed : RouteSeed) :
    perform (.select selection.leaderId selection.operationId selection.routeId seed) state =
      (.ok (.selected { disposition := .replayed, outcome := selection }), state) := by
  have picked := kept.selected selection found
  have admitted : ∃ participant ∈ state.participants,
      participant.participantId = selection.leaderId := by
    have member := List.mem_of_mem_head? (picked.leader : selection.leaderId ∈ participantIds.head?)
    rw [← kept.identities] at member
    exact List.mem_map.mp member
  have earlier : state.earlierSelection selection.leaderId selection.operationId
      selection.routeId = .ok (some selection) := by
    unfold RouteOperationState.earlierSelection
    rw [found]
    simp only [bind_eq_ok, exists_unit, rejectIf_eq_ok, pure_eq_ok, ne_eq, not_true_eq_false,
      or_self, not_false_eq_true, and_self]
  have answered : (select selection.leaderId selection.operationId selection.routeId seed) state =
      (.ok { disposition := .replayed, outcome := selection }, state) := by
    unfold select
    refine Call.bind_of_ok (show Call.check _ state = (.ok (some selection), state) from
      Prod.ext ?_ rfl)
    simp only [Call.check, bind_eq_ok, exists_unit, rejectIf_eq_ok, not_not]
    exact ⟨picked.plain, admitted, earlier⟩
  exact Call.bind_of_ok answered

theorem finish_replayed (found : state.terminal = some summary) :
    perform (.finishing summary.outcome summary.elapsedMs) state =
      (.ok (.finished { disposition := .replayed, outcome := summary }), state) := by
  have earlier : state.earlierTerminal summary.outcome summary.elapsedMs = .ok (some summary) := by
    unfold RouteOperationState.earlierTerminal
    rw [found]
    simp only [bind_eq_ok, exists_unit, rejectIf_eq_ok, pure_eq_ok, ne_eq, not_true_eq_false,
      or_self, not_false_eq_true, and_self]
  have answered : (finish summary.outcome summary.elapsedMs) state =
      (.ok { disposition := .replayed, outcome := summary }, state) := by
    unfold finish
    refine Call.bind_of_ok (show Call.check _ state = (.ok (some summary), state) from
      Prod.ext ?_ rfl)
    exact earlier
  cases outcome : summary.outcome with
  | succeeded | failedTimeout =>
      rw [outcome] at answered
      exact Call.bind_of_ok answered

end Kept

/-- Every run of every route operation has such a history.  Commands come from
any participant, in any order and at any times, and refused ones are part of the
run. -/
theorem route_history {participantIds : List String} {start : RouteOperationState}
    (built : RouteOperationState.new participantIds = .ok start) (commands : List RouteCommand) :
    History participantIds start commands (Call.final perform commands start) := by
  obtain ⟨begun, unselected, unfinished⟩ := Kept.of_new built
  have kept := begun.final commands
  have stored : Kept participantIds (Call.final perform commands start) ∧
      (Call.log perform commands start).filterMap newSelection =
        (Call.final perform commands start).selection.toList ∧
      (Call.log perform commands start).filterMap newTerminal =
        (Call.final perform commands start).terminal.toList := by
    apply Call.log_keeps (fun entries state => Kept participantIds state ∧
      entries.filterMap newSelection = state.selection.toList ∧
      entries.filterMap newTerminal = state.terminal.toList)
    · rw [unselected, unfinished]
      exact ⟨begun, rfl, rfl⟩
    · rintro entries command state ⟨kept, selections, terminals⟩
      have stepped := perform_step command state
      rw [List.filterMap_append, List.filterMap_append, selections, terminals,
        Kept.step_selection stepped, Kept.step_terminal stepped]
      exact ⟨kept.step stepped, rfl, rfl⟩
  constructor
  case identities => exact kept.identities
  case selections => exact stored.2.1
  case terminals => exact stored.2.2
  case selectionLasts => exact fun _ found later => Kept.selection_lasts found later
  case terminalLasts => exact fun _ found later => Kept.terminal_lasts found later
  case chosen => exact fun _ found => begun.chosen_in unselected commands found
  case rewarded => exact fun _ found => kept.rewarded found
  case baseline =>
    intro answered later
    have stepped := perform_step .lockBaseline (Call.final perform commands start)
    refine (kept.step stepped).baseline_lasts ?_ later
    rw [answered] at stepped
    generalize (perform .lockBaseline (Call.final perform commands start)).2 = next at stepped ⊢
    generalize asked : RouteCommand.lockBaseline = command at stepped
    cases stepped with
    | marked | opened => cases asked
    | locked => rfl
  case refused =>
    intro command failure answered
    have stepped := perform_step command (Call.final perform commands start)
    rw [answered] at stepped
    generalize (perform command (Call.final perform commands start)).2 = next at stepped ⊢
    cases stepped with
    | refused => rfl
  case reselected => exact fun _ found seed => kept.select_replayed found seed
  case refinished => exact fun _ found => Kept.finish_replayed found

/-- Two participants who both opt in before the leader chooses. -/
def pairStart : RouteOperationState :=
  { participants := [{ participantId := "anchor", capable := false },
      { participantId := "runner", capable := false }]
    phase := .drone, selection := none, terminal := none }

def pairRun : List RouteCommand :=
  [.markCapable "anchor", .openChoice, .markCapable "runner",
    .select "anchor" "route-1" .stabilize { value := 7 },
    .select "anchor" "route-1" .stabilize { value := 8 }, .complete 90000]

theorem route_history_pair :
    RouteOperationState.new ["anchor", "runner"] = .ok pairStart ∧
      History ["anchor", "runner"] pairStart pairRun (Call.final perform pairRun pairStart) ∧
      (Call.final perform pairRun pairStart).phase = .succeeded := by
  have built : RouteOperationState.new ["anchor", "runner"] = .ok pairStart := by decide +kernel
  have done : (Call.final perform pairRun pairStart).phase = .succeeded := by decide +kernel
  exact ⟨built, route_history built pairRun, done⟩

end Operations
end Revenant
