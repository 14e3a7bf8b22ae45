import Mathlib.Data.List.Perm.Subperm
import Revenant.Library.Ledger
import Revenant.Replay.RouteSession

namespace Revenant
namespace Replay

open Library Operations

/-!
# Accepted routed sessions

What the reader of a route keeps about the rows it has read, phase by phase:
admission before the selection, counting behind it, silence behind the terminal.
The phases survive every accepted row, so an accepted journal splits around its
one selection.
-/

/-- The admission a snapshot row makes. -/
def admission (event : ReplayEvent) : Option (String × SnapshotEvidence) :=
  if event.kind = .moduleStateSnapshot then do
    let encoded ← event.payload.module?
    let payload ← encoded.value.bind ModuleReplayPayload.stateSnapshot?
    let actorId ← event.actorId
    return (payload.characterId,
      { accountId := event.accountId, actorId, protocolGeneration := payload.protocolGeneration
        state := payload.state })
  else none

/-- The admissions of a journal in their order. -/
def admissions (events : List ReplayEvent) : List (String × SnapshotEvidence) :=
  events.filterMap admission

def ofKind (kind : ReplayEventKind) (events : List ReplayEvent) : List ReplayEvent :=
  events.filter (fun event => event.kind = kind)

/-- Which activity the completions name, and for whom. -/
def completions (events : List ReplayEvent) : List (Option String × String × Option Nat) :=
  (ofKind .activityCompleted events).map (fun event =>
    (event.activityId, event.accountId, event.actorId))

/-- Whom the rewards of a kind pay, and how much their texts say. -/
def paid (kind : ReplayEventKind) (quantity : Payload → Option Nat) (events : List ReplayEvent) :
    List (String × Option Nat × Option Nat) :=
  (ofKind kind events).map (fun event =>
    (event.accountId, event.actorId, quantity event.payload))

/-- A counted grant as its row shows it. -/
def grantRow (grant : String × Nat × Nat) : String × Option Nat × Option Nat :=
  (grant.1, some grant.2.1, some grant.2.2)

theorem ofKind_append (kind : ReplayEventKind) (events : List ReplayEvent) (event : ReplayEvent) :
    ofKind kind (events ++ [event]) =
      ofKind kind events ++ if event.kind = kind then [event] else [] := by
  unfold ofKind
  rw [List.filter_append]
  by_cases same : event.kind = kind <;> simp [same]

variable {kind : ReplayEventKind} {event : ReplayEvent}

theorem ofKind_append_of_ne (other : event.kind ≠ kind) (events : List ReplayEvent) :
    ofKind kind (events ++ [event]) = ofKind kind events := by
  rw [ofKind_append, if_neg other, List.append_nil]

theorem completions_append (kind : event.kind = .activityCompleted) (events : List ReplayEvent) :
    completions (events ++ [event]) =
      completions events ++ [(event.activityId, event.accountId, event.actorId)] := by
  rw [completions, ofKind_append, if_pos kind, List.map_append]
  rfl

theorem completions_append_of_ne (other : event.kind ≠ .activityCompleted)
    (events : List ReplayEvent) : completions (events ++ [event]) = completions events := by
  rw [completions, ofKind_append_of_ne other, completions]

theorem paid_append (same : event.kind = kind) (quantity : Payload → Option Nat)
    (events : List ReplayEvent) :
    paid kind quantity (events ++ [event]) =
      paid kind quantity events ++ [(event.accountId, event.actorId, quantity event.payload)] := by
  rw [paid, ofKind_append, if_pos same, List.map_append]
  rfl

theorem paid_append_of_ne (other : event.kind ≠ kind) (quantity : Payload → Option Nat)
    (events : List ReplayEvent) :
    paid kind quantity (events ++ [event]) = paid kind quantity events := by
  rw [paid, ofKind_append_of_ne other, paid]

theorem admissions_append (events : List ReplayEvent) (event : ReplayEvent) :
    admissions (events ++ [event]) = admissions events ++ (admission event).toList := by
  unfold admissions
  rw [List.filterMap_append]
  cases found : admission event <;> simp [found]

theorem admission_of_ne (other : event.kind ≠ .moduleStateSnapshot) :
    admission event = none := if_neg other

/-! ## What one row can do -/

namespace RouteReplayAccumulator

/-- Observing an activity leaves what is collected and counted. -/
theorem observe_fields (reading : RouteReplayAccumulator) (event : ReplayEvent) :
    ∃ observed mixed, reading.observe event =
      { reading with observedActivityId := observed, mixedActivity := mixed } := by
  unfold observe
  split
  · exact ⟨_, _, rfl⟩
  · exact ⟨_, _, rfl⟩
  · exact ⟨_, _, rfl⟩

variable {reading next : RouteReplayAccumulator} {event : ReplayEvent}

theorem recordAdmission_cases (accepted : reading.recordAdmission event = .ok next) :
    (event.kind ≠ .moduleStateSnapshot ∧ next = reading) ∨
    (event.kind = .moduleStateSnapshot ∧ reading.selection = none ∧
      ∃ entry, admission event = some entry ∧ entry.1 ∉ reading.snapshots.map Prod.fst ∧
        next = { reading with
          snapshotOrder := reading.snapshotOrder ++ [entry.1]
          snapshots := reading.snapshots ++ [entry] }) := by
  unfold recordAdmission at accepted
  split at accepted
  · next snapshot =>
      simp only [recordSnapshot, decodeModule, bind_eq_ok, exists_unit, require_eq_ok,
        rejectIf_eq_ok, pure_eq_ok, Bool.not_eq_true, Option.isSome_eq_false_iff,
        Option.isNone_iff_eq_none] at accepted
      obtain ⟨unselected, payload, ⟨encoded, stored, -, decoded⟩, -, actorId, actor, fresh, rfl⟩ :=
        accepted
      refine Or.inr ⟨snapshot, unselected, _, ?_, fresh, rfl⟩
      simp only [admission, snapshot, if_true, stored, decoded, actor, Option.bind_eq_bind,
        Option.bind_some, Option.pure_def]
  · next other =>
      cases accepted
      exact Or.inl ⟨other, rfl⟩

/-- A row outside an open count adds nothing. -/
theorem recordGenericEvent_uncounted (event : ReplayEvent)
    (idle : reading.selection = none ∨ reading.terminal ≠ none) :
    reading.recordGenericEvent event = .ok reading := by
  unfold recordGenericEvent
  split
  · next selected unended =>
      rcases idle with unselected | ended
      · rw [unselected] at selected; cases selected
      · exact absurd unended ended
  · rfl

theorem insertGrant_eq_ok {grants next : List (String × Nat × Nat)} {accountId duplicate : String}
    {grant : Nat × Nat} :
    insertGrant grants accountId grant duplicate = .ok next ↔
      accountId ∉ grants.map Prod.fst ∧ grants ++ [(accountId, grant)] = next := by
  simp only [insertGrant, bind_eq_ok, exists_unit, rejectIf_eq_ok, pure_eq_ok]

/-- What a row adds to an open count. -/
inductive Counts (selection : RouteSelectedPayload) (event : ReplayEvent)
    (reading next : RouteReplayAccumulator) : Prop
  | nothing (other : concludes event.kind = false) (same : next = reading)
  | completion (kind : event.kind = .activityCompleted)
      (activity : event.activityId = some selection.activityId)
      (leader : ∃ leader ∈ selection.participants.head?,
        event.accountId = leader.participantId ∧ event.actorId = some leader.actorId)
      (counted : next = { reading with activityCompletions := reading.activityCompletions + 1 })
  | loot (quantity actorId : Nat) (kind : event.kind = .lootGranted)
      (read : routeFragmentQuantity event.payload = some quantity)
      (actor : event.actorId = some actorId)
      (fresh : event.accountId ∉ reading.lootGrants.map Prod.fst)
      (counted : next = { reading with
        lootGrants := reading.lootGrants ++ [(event.accountId, actorId, quantity)] })
  | progression (experience actorId : Nat) (kind : event.kind = .progressionGranted)
      (read : routeExperienceQuantity event.payload = some experience)
      (actor : event.actorId = some actorId)
      (fresh : event.accountId ∉ reading.progressionGrants.map Prod.fst)
      (counted : next = { reading with
        progressionGrants := reading.progressionGrants ++
          [(event.accountId, actorId, experience)] })

theorem recordGenericEvent_counts {selection : RouteSelectedPayload}
    (selected : reading.selection = some selection) (unended : reading.terminal = none)
    (accepted : reading.recordGenericEvent event = .ok next) :
    Counts selection event reading next := by
  simp only [recordGenericEvent, selected, unended] at accepted
  split at accepted
  · next kind =>
      simp only [recordCompletion, bind_eq_ok, exists_unit, rejectIf_eq_ok, pure_eq_ok, not_or,
        not_not] at accepted
      obtain ⟨⟨activity, leader⟩, -, rfl⟩ := accepted
      exact .completion kind activity leader rfl
  · next kind =>
      simp only [recordLoot, bind_eq_ok, exists_unit, rejectIf_eq_ok, require_eq_ok, pure_eq_ok,
        insertGrant_eq_ok, not_not] at accepted
      obtain ⟨-, quantity, read, actorId, actor, grants, ⟨fresh, rfl⟩, rfl⟩ := accepted
      exact .loot quantity actorId kind read actor fresh rfl
  · next kind =>
      simp only [recordProgression, bind_eq_ok, exists_unit, rejectIf_eq_ok, require_eq_ok,
        pure_eq_ok, insertGrant_eq_ok, not_not] at accepted
      obtain ⟨-, experience, read, actorId, actor, grants, ⟨fresh, rfl⟩, rfl⟩ := accepted
      exact .progression experience actorId kind read actor fresh rfl
  · next noCompletion noLoot noProgression =>
      cases accepted
      refine .nothing ?_ rfl
      cases kind : event.kind <;> first | rfl | contradiction

/-- The checks of an accepted row, in their order. -/
theorem apply_passes (accepted : reading.apply event = .ok next) :
    ∃ admitted counted, (reading.observe event).recordAdmission event = .ok admitted ∧
      (admitted.terminal = none ∨ concludes event.kind = false) ∧
      admitted.recordGenericEvent event = .ok counted ∧
      counted.recordRouteEvent event = .ok next := by
  simp only [apply, bind_eq_ok, exists_unit, rejectIf_eq_ok, pure_eq_ok] at accepted
  obtain ⟨admitted, passed, silent, counted, generic, last, routed, -, rfl⟩ := accepted
  refine ⟨admitted, counted, passed, ?_, generic, routed⟩
  cases terminal : admitted.terminal with
  | none => exact Or.inl rfl
  | some payload =>
      refine Or.inr (Bool.eq_false_iff.mpr fun concluding => silent ⟨?_, concluding⟩)
      rw [terminal]
      rfl

/-- Nothing is counted yet. -/
def Uncounted (reading : RouteReplayAccumulator) : Prop :=
  reading.activityCompletions = 0 ∧ reading.lootGrants = [] ∧ reading.progressionGrants = []

/-- What a terminal requires of the counts. -/
def Settled (outcome : TerminalOutcome) (selection : RouteSelectedPayload)
    (reading : RouteReplayAccumulator) : Prop :=
  match outcome with
  | .failedTimeout => reading.Uncounted
  | .succeeded =>
      reading.activityCompletions = 1 ∧
      reading.lootGrants.Perm (selection.participants.map (fun participant =>
        (participant.participantId, participant.actorId, selection.reward.fragments))) ∧
      reading.progressionGrants.Perm (selection.participants.map (fun participant =>
        (participant.participantId, participant.actorId, selection.reward.experience)))

/-- What a row with route evidence does. -/
inductive Routes (event : ReplayEvent) (reading next : RouteReplayAccumulator) : Prop
  | nothing (other : event.kind.isRouteEvent = false) (same : next = reading)
  | selection (payload : RouteSelectedPayload) (kind : event.kind = .routeSelected)
      (unselected : reading.selection = none) (unended : reading.terminal = none)
      (decoded : ∃ encoded, event.payload.route? = some encoded ∧
        encoded.value.bind RouteReplayPayload.selected? = some payload)
      (valid : validateSelectionPayload payload = .ok ())
      (admitted : reading.validateSelectionEvent event payload = .ok ())
      (selected : next = { reading with selection := some payload })
  | terminal (outcome : TerminalOutcome) (payload : RouteTerminalPayload)
      (chosen : RouteSelectedPayload) (kind : terminalOutcome? event.kind = some outcome)
      (selected : reading.selection = some chosen) (unended : reading.terminal = none)
      (valid : validateTerminalPayload outcome payload chosen = .ok ())
      (counted : reading.validateGenericTerminalEvidence outcome chosen payload = .ok ())
      (ended : next = { reading with terminal := some payload })

variable {kind : ReplayEventKind}

theorem plain_of_routeless (routeless : kind.isRouteEvent = false) :
    kind ≠ .routeSelected ∧ terminalOutcome? kind = none := by
  cases kind <;> first | contradiction | exact ⟨by decide, rfl⟩

theorem plain_of_terminal {outcome : TerminalOutcome}
    (terminal : terminalOutcome? kind = some outcome) :
    kind ≠ .moduleStateSnapshot ∧ kind ≠ .routeSelected := by
  cases kind <;> first | contradiction | exact ⟨by decide, by decide⟩

theorem isRouteEvent_of_terminalOutcome? (absent : terminalOutcome? kind = none)
    (unselecting : kind ≠ .routeSelected) : kind.isRouteEvent = false := by
  cases kind <;> first | rfl | contradiction

theorem recordRouteEvent_routes (accepted : reading.recordRouteEvent event = .ok next) :
    Routes event reading next := by
  unfold recordRouteEvent at accepted
  split at accepted
  · next kind =>
      simp only [recordSelection, decodeRoute, bind_eq_ok, exists_unit, rejectIf_eq_ok,
        require_eq_ok, pure_eq_ok, not_or, Bool.not_eq_true, Option.isSome_eq_false_iff,
        Option.isNone_iff_eq_none] at accepted
      obtain ⟨⟨unselected, unended⟩, payload, ⟨encoded, stored, -, decoded⟩, valid, admitted, rfl⟩ :=
        accepted
      exact .selection payload kind unselected unended ⟨encoded, stored, decoded⟩ valid admitted rfl
  · next unselecting =>
      split at accepted
      · next outcome kind =>
          simp only [recordTerminal, validateTerminalEvent, bind_eq_ok, exists_unit, rejectIf_eq_ok,
            require_eq_ok, pure_eq_ok, Bool.not_eq_true, Option.isSome_eq_false_iff,
            Option.isNone_iff_eq_none] at accepted
          obtain ⟨unended, chosen, selected, payload, -, -, ⟨valid, -⟩, counted, rfl⟩ := accepted
          exact .terminal outcome payload chosen kind selected unended valid counted rfl
      · next absent =>
          cases accepted
          exact .nothing (isRouteEvent_of_terminalOutcome? absent unselecting) rfl

end RouteReplayAccumulator

variable {participants : List ReplayRouteParticipantEvidence}

/-- The grants of an account list that holds each of the expected ones and is as
long are exactly those. -/
theorem perm_of_lookup {grants : List (String × Nat × Nat)} {amount : Nat}
    (accounts : (participants.map ReplayRouteParticipantEvidence.participantId).Nodup)
    (complete : grants.length = participants.length) (present : ∀ participant ∈ participants,
      grants.lookup participant.participantId = some (participant.actorId, amount)) :
    grants.Perm (participants.map (fun participant =>
      (participant.participantId, participant.actorId, amount))) := by
  have distinct : (participants.map (fun participant =>
      (participant.participantId, participant.actorId, amount))).Nodup := by
    apply List.Nodup.of_map Prod.fst
    rw [List.map_map]
    exact accounts
  have contained : participants.map (fun participant =>
      (participant.participantId, participant.actorId, amount)) ⊆ grants := by
    intro grant member
    obtain ⟨participant, participantMember, rfl⟩ := List.mem_map.mp member
    obtain ⟨front, back, split, -⟩ :=
      List.lookup_eq_some_iff.mp (present participant participantMember)
    rw [split]
    exact List.mem_append_right _ List.mem_cons_self
  have covered := List.subperm_of_subset distinct contained
  exact (covered.perm_of_length_le (by rw [List.length_map, complete])).symm

variable {reading : RouteReplayAccumulator} {selection : RouteSelectedPayload}

theorem settled_of_validate {outcome : TerminalOutcome} {terminal : RouteTerminalPayload}
    (sound : selection.Sound) (valid : validateTerminalPayload outcome terminal selection = .ok ())
    (counted : reading.validateGenericTerminalEvidence outcome selection terminal = .ok ()) :
    reading.Settled outcome selection := by
  cases outcome with
  | failedTimeout =>
      simp only [RouteReplayAccumulator.validateGenericTerminalEvidence, rejectIf_eq_ok, not_or,
        not_not] at counted
      exact counted
  | succeeded =>
      have granted := (of_validateTerminalPayload valid).2 rfl
      simp only [RouteReplayAccumulator.validateGenericTerminalEvidence, bind_eq_ok, exists_unit,
        rejectIf_eq_ok, not_or, not_not, not_exists, not_and] at counted
      obtain ⟨⟨completed, loot, progression⟩, agreed⟩ := counted
      have paired : ∀ participant ∈ selection.participants,
          (participant, routeGrant selection.reward participant) ∈
            selection.participants.zip terminal.grants := by
        intro participant member
        rw [granted, ← List.map_prod_left_eq_zip]
        exact List.mem_map_of_mem member
      refine ⟨completed, perm_of_lookup sound.accounts loot ?_,
        perm_of_lookup sound.accounts progression ?_⟩
      · exact fun participant member => (agreed _ (paired participant member)).1
      · exact fun participant member => (agreed _ (paired participant member)).2

/-! ## The phases of a reading -/

/-- Before the selection the reader has only collected admissions. -/
structure Admitting (events : List ReplayEvent) (reading : RouteReplayAccumulator) : Prop where
  unselected : reading.selection = none
  unended : reading.terminal = none
  uncounted : reading.Uncounted
  early : ∀ event ∈ events, event.kind.isRouteEvent = false
  recorded : ∀ event ∈ events, event.kind = .moduleStateSnapshot → (admission event).isSome
  snapshots : reading.snapshots = admissions events
  order : reading.snapshotOrder = (admissions events).map Prod.fst
  distinct : ((admissions events).map Prod.fst).Nodup

/-- What the selection found: the rows before it, its own row, and its payload. -/
structure Opening (before : List ReplayEvent) (row : ReplayEvent)
    (selection : RouteSelectedPayload) : Prop where
  kind : row.kind = .routeSelected
  decoded : ∃ encoded, row.payload.route? = some encoded ∧
    encoded.value.bind RouteReplayPayload.selected? = some selection
  sound : selection.Sound
  early : ∀ event ∈ before, event.kind.isRouteEvent = false
  recorded : ∀ event ∈ before, event.kind = .moduleStateSnapshot → (admission event).isSome
  admitted : admissions before = selection.participants.map (fun participant =>
    (participant.characterId, RouteReplayAccumulator.admittedEvidence participant))

/-- Behind the selection the counts are those of the rows read since. -/
structure Counting (selection : RouteSelectedPayload) (after : List ReplayEvent)
    (reading : RouteReplayAccumulator) : Prop where
  selected : reading.selection = some selection
  closed : ∀ event ∈ after, event.kind ≠ .moduleStateSnapshot ∧ event.kind ≠ .routeSelected
  completed : (completions after).length = reading.activityCompletions
  leading : ∀ completion ∈ completions after, ∃ leader ∈ selection.participants.head?,
    completion = (some selection.activityId, leader.participantId, some leader.actorId)
  loot : paid .lootGranted routeFragmentQuantity after = reading.lootGrants.map grantRow
  progression : paid .progressionGranted routeExperienceQuantity after =
    reading.progressionGrants.map grantRow

/-- Whether the terminal was read, and what it settled. -/
inductive Ending (selection : RouteSelectedPayload) (after : List ReplayEvent)
    (reading : RouteReplayAccumulator) : Prop
  | running (unended : reading.terminal = none)
      (quiet : ∀ event ∈ after, RouteReplayAccumulator.terminalOutcome? event.kind = none)
  | ended (middle : List ReplayEvent) (row : ReplayEvent) (rest : List ReplayEvent)
      (outcome : TerminalOutcome) (payload : RouteTerminalPayload)
      (split : after = middle ++ row :: rest)
      (quiet : ∀ event ∈ middle, RouteReplayAccumulator.terminalOutcome? event.kind = none)
      (kind : RouteReplayAccumulator.terminalOutcome? row.kind = some outcome)
      (terminal : reading.terminal = some payload) (agreed : payload.summary.outcome = outcome)
      (settled : reading.Settled outcome selection)
      (silent : ∀ event ∈ rest, RouteReplayAccumulator.terminalOutcome? event.kind = none ∧
        RouteReplayAccumulator.concludes event.kind = false)

/-- Where the reader of a route stands after some rows. -/
inductive Stands (events : List ReplayEvent) (reading : RouteReplayAccumulator) : Prop
  | admitting (admitting : Admitting events reading)
  | selected (before : List ReplayEvent) (row : ReplayEvent) (after : List ReplayEvent)
      (selection : RouteSelectedPayload) (split : events = before ++ row :: after)
      (opening : Opening before row selection) (counting : Counting selection after reading)
      (ending : Ending selection after reading)

theorem stands_start : Stands [] .start := by
  refine .admitting ?_
  constructor
  · rfl
  · rfl
  · exact ⟨rfl, rfl, rfl⟩
  · exact fun _ member => absurd member List.not_mem_nil
  · exact fun _ member => absurd member List.not_mem_nil
  · rfl
  · rfl
  · exact List.nodup_nil

/-! ## Every row keeps them -/

variable {events : List ReplayEvent}

theorem forall_mem_append {property : ReplayEvent → Prop}
    (old : ∀ earlier ∈ events, property earlier) (new : property event) :
    ∀ earlier ∈ events ++ [event], property earlier := by
  intro earlier member
  rcases List.mem_append.mp member with member | member
  · exact old earlier member
  · rw [List.mem_singleton.mp member]
    exact new

/-- A row that is no snapshot and no route evidence leaves the admissions. -/
theorem Admitting.skip (admitting : Admitting events reading)
    (other : event.kind ≠ .moduleStateSnapshot) (routeless : event.kind.isRouteEvent = false) :
    Admitting (events ++ [event]) reading := by
  have unchanged : admissions (events ++ [event]) = admissions events := by
    rw [admissions_append, admission_of_ne other, Option.toList_none, List.append_nil]
  exact { admitting with
    early := forall_mem_append admitting.early routeless
    recorded := forall_mem_append admitting.recorded (fun snapshot => absurd snapshot other)
    snapshots := unchanged ▸ admitting.snapshots
    order := unchanged ▸ admitting.order
    distinct := unchanged ▸ admitting.distinct }

theorem Admitting.grow {entry : String × SnapshotEvidence} (admitting : Admitting events reading)
    (snapshot : event.kind = .moduleStateSnapshot) (found : admission event = some entry)
    (fresh : entry.1 ∉ reading.snapshots.map Prod.fst) :
    Admitting (events ++ [event]) { reading with
      snapshotOrder := reading.snapshotOrder ++ [entry.1]
      snapshots := reading.snapshots ++ [entry] } := by
  have grown : admissions (events ++ [event]) = admissions events ++ [entry] := by
    rw [admissions_append, found, Option.toList_some]
  constructor
  · exact admitting.unselected
  · exact admitting.unended
  · exact admitting.uncounted
  · exact forall_mem_append admitting.early (by rw [snapshot]; rfl)
  · exact forall_mem_append admitting.recorded (fun _ => by rw [found]; rfl)
  · rw [grown, ← admitting.snapshots]
  · rw [grown, List.map_append, ← admitting.order]
    rfl
  · rw [grown, List.map_append]
    refine List.Nodup.append admitting.distinct (List.nodup_singleton _) ?_
    rw [admitting.snapshots] at fresh
    simpa only [List.map_cons, List.map_nil, List.disjoint_singleton] using fresh

theorem lookup_of_validateAdmission {snapshots : List (String × SnapshotEvidence)}
    (accepted : RouteReplayAccumulator.validateAdmission snapshots participants = .ok ()) :
    ∀ participant ∈ participants, snapshots.lookup participant.characterId =
      some (RouteReplayAccumulator.admittedEvidence participant) := by
  induction participants with
  | nil => exact fun _ member => absurd member List.not_mem_nil
  | cons participant rest inductionHypothesis =>
      simp only [RouteReplayAccumulator.validateAdmission, bind_eq_ok, exists_unit, require_eq_ok,
        rejectIf_eq_ok, not_not] at accepted
      obtain ⟨snapshot, found, rfl, others⟩ := accepted
      intro later member
      rcases List.mem_cons.mp member with rfl | member
      · exact found
      · exact inductionHypothesis others later member

/-- Admissions that agree with every participant, in order, are the participants. -/
theorem admissions_eq_of_validate {snapshots : List (String × SnapshotEvidence)}
    (distinct : (snapshots.map Prod.fst).Nodup)
    (order : snapshots.map Prod.fst = participants.map ReplayRouteParticipantEvidence.characterId)
    (accepted : RouteReplayAccumulator.validateAdmission snapshots participants = .ok ()) :
    snapshots = participants.map (fun participant =>
      (participant.characterId, RouteReplayAccumulator.admittedEvidence participant)) := by
  have lengths : snapshots.length = participants.length := by
    simpa only [List.length_map] using congrArg List.length order
  refine List.ext_getElem (by rw [lengths, List.length_map]) ?_
  intro index first second
  have inside : index < participants.length := lengths ▸ first
  have named : snapshots[index].1 = participants[index].characterId := by
    have same := List.getElem_of_eq order (by rw [List.length_map]; exact first)
    simpa only [List.getElem_map] using same
  have stored := lookup_of_mem distinct (List.getElem_mem first)
  have expected := lookup_of_validateAdmission accepted _ (List.getElem_mem inside)
  rw [named, expected] at stored
  rw [List.getElem_map]
  exact Prod.ext named (Option.some.inj stored).symm

/-- The selection row opens the count over the admissions read so far. -/
theorem Admitting.opens {payload : RouteSelectedPayload} (admitting : Admitting events reading)
    (kind : event.kind = .routeSelected) (decoded : ∃ encoded, event.payload.route? = some encoded ∧
      encoded.value.bind RouteReplayPayload.selected? = some payload)
    (valid : validateSelectionPayload payload = .ok ())
    (admitted : reading.validateSelectionEvent event payload = .ok ()) :
    Opening events event payload := by
  simp only [RouteReplayAccumulator.validateSelectionEvent, bind_eq_ok, exists_unit,
    rejectIf_eq_ok, require_eq_ok, not_or, not_not] at admitted
  obtain ⟨-, -, leader, -, -, ⟨-, order⟩, agreed⟩ := admitted
  constructor
  · exact kind
  · exact decoded
  · exact sound_of_validateSelectionPayload valid
  · exact admitting.early
  · exact admitting.recorded
  · rw [← admitting.snapshots]
    refine admissions_eq_of_validate ?_ ?_ agreed
    · rw [admitting.snapshots]
      exact admitting.distinct
    · rw [admitting.snapshots, ← admitting.order, order]

theorem Counting.open {payload : RouteSelectedPayload} (uncounted : reading.Uncounted) :
    Counting payload [] { reading with selection := some payload } := by
  obtain ⟨completed, loot, progression⟩ := uncounted
  constructor
  · rfl
  · exact fun _ member => absurd member List.not_mem_nil
  · exact completed.symm
  · exact fun _ member => absurd member List.not_mem_nil
  · rw [loot]
    rfl
  · rw [progression]
    rfl

variable {after : List ReplayEvent}

/-- A row that concludes nothing leaves the counts. -/
theorem Counting.skip (counting : Counting selection after reading)
    (closed : event.kind ≠ .moduleStateSnapshot ∧ event.kind ≠ .routeSelected)
    (other : RouteReplayAccumulator.concludes event.kind = false) :
    Counting selection (after ++ [event]) reading := by
  have noCompletion : event.kind ≠ .activityCompleted := by
    intro kind; rw [kind] at other; cases other
  have noLoot : event.kind ≠ .lootGranted := by
    intro kind; rw [kind] at other; cases other
  have noProgression : event.kind ≠ .progressionGranted := by
    intro kind; rw [kind] at other; cases other
  constructor
  · exact counting.selected
  · exact forall_mem_append counting.closed closed
  · rw [completions_append_of_ne noCompletion, counting.completed]
  · rw [completions_append_of_ne noCompletion]
    exact counting.leading
  · rw [paid_append_of_ne noLoot, counting.loot]
  · rw [paid_append_of_ne noProgression, counting.progression]

variable {next : RouteReplayAccumulator}

/-- A counted row is counted as it stands in the journal. -/
theorem Counting.count (counting : Counting selection after reading)
    (closed : event.kind ≠ .moduleStateSnapshot ∧ event.kind ≠ .routeSelected)
    (counts : RouteReplayAccumulator.Counts selection event reading next) :
    Counting selection (after ++ [event]) next := by
  cases counts with
  | nothing other same => exact same ▸ counting.skip closed other
  | completion kind activity leader counted =>
      subst counted
      obtain ⟨first, found, account, actor⟩ := leader
      have loot : event.kind ≠ .lootGranted := by rw [kind]; decide
      have progression : event.kind ≠ .progressionGranted := by rw [kind]; decide
      constructor
      · exact counting.selected
      · exact forall_mem_append counting.closed closed
      · rw [completions_append kind, List.length_append, counting.completed]
        rfl
      · intro completion member
        rw [completions_append kind] at member
        rcases List.mem_append.mp member with member | member
        · exact counting.leading completion member
        · rw [List.mem_singleton.mp member, activity, account, actor]
          exact ⟨first, found, rfl⟩
      · rw [paid_append_of_ne loot, counting.loot]
      · rw [paid_append_of_ne progression, counting.progression]
  | loot quantity actorId kind read actor fresh counted =>
      subst counted
      have completion : event.kind ≠ .activityCompleted := by rw [kind]; decide
      have progression : event.kind ≠ .progressionGranted := by rw [kind]; decide
      constructor
      · exact counting.selected
      · exact forall_mem_append counting.closed closed
      · rw [completions_append_of_ne completion, counting.completed]
      · rw [completions_append_of_ne completion]
        exact counting.leading
      · rw [paid_append kind, counting.loot, read, actor, List.map_append]
        rfl
      · rw [paid_append_of_ne progression, counting.progression]
  | progression experience actorId kind read actor fresh counted =>
      subst counted
      have completion : event.kind ≠ .activityCompleted := by rw [kind]; decide
      have loot : event.kind ≠ .lootGranted := by rw [kind]; decide
      constructor
      · exact counting.selected
      · exact forall_mem_append counting.closed closed
      · rw [completions_append_of_ne completion, counting.completed]
      · rw [completions_append_of_ne completion]
        exact counting.leading
      · rw [paid_append_of_ne loot, counting.loot]
      · rw [paid_append kind, counting.progression, read, actor, List.map_append]
        rfl

theorem Admitting.observe (admitting : Admitting events reading) (event : ReplayEvent) :
    Admitting events (reading.observe event) := by
  obtain ⟨observed, mixed, noted⟩ := reading.observe_fields event
  rw [noted]
  constructor
  · exact admitting.unselected
  · exact admitting.unended
  · exact admitting.uncounted
  · exact admitting.early
  · exact admitting.recorded
  · exact admitting.snapshots
  · exact admitting.order
  · exact admitting.distinct

theorem Counting.observe (counting : Counting selection after reading) (event : ReplayEvent) :
    Counting selection after (reading.observe event) := by
  obtain ⟨observed, mixed, noted⟩ := reading.observe_fields event
  rw [noted]
  constructor
  · exact counting.selected
  · exact counting.closed
  · exact counting.completed
  · exact counting.leading
  · exact counting.loot
  · exact counting.progression

theorem Ending.observe (ending : Ending selection after reading) (event : ReplayEvent) :
    Ending selection after (reading.observe event) := by
  obtain ⟨observed, mixed, noted⟩ := reading.observe_fields event
  rw [noted]
  cases ending with
  | running unended quiet => exact .running unended quiet
  | ended middle row rest outcome payload split quiet kind terminal agreed settled silent =>
      exact .ended middle row rest outcome payload split quiet kind terminal agreed
        (by cases outcome <;> exact settled) silent

/-- An admitting reader stays admitting or takes the selection. -/
theorem Admitting.step (admitting : Admitting events reading)
    (accepted : reading.apply event = .ok next) : Stands (events ++ [event]) next := by
  obtain ⟨admitted, counted, admission, -, generic, routed⟩ :=
    RouteReplayAccumulator.apply_passes accepted
  have observed := admitting.observe event
  -- nothing is counted while no route is selected
  have idle : ∀ state : RouteReplayAccumulator, state.selection = none →
      state.recordGenericEvent event = .ok counted → counted = state := by
    intro state unselected recorded
    rw [RouteReplayAccumulator.recordGenericEvent_uncounted event (Or.inl unselected)] at recorded
    exact (Except.ok.inj recorded).symm
  rcases RouteReplayAccumulator.recordAdmission_cases admission with
    ⟨other, rfl⟩ | ⟨snapshot, -, entry, found, fresh, rfl⟩
  · have same := idle _ observed.unselected generic
    subst same
    cases RouteReplayAccumulator.recordRouteEvent_routes routed with
    | nothing routeless same =>
        subst same
        exact .admitting (observed.skip other routeless)
    | selection payload kind _ _ decoded valid agreed selected =>
        subst selected
        exact .selected events event [] payload rfl (observed.opens kind decoded valid agreed)
          (Counting.open observed.uncounted)
          (.running observed.unended fun _ member => absurd member List.not_mem_nil)
    | terminal outcome payload chosen _ selected _ _ _ _ =>
        rw [observed.unselected] at selected
        cases selected
  · have grown := observed.grow snapshot found fresh
    have same := idle _ grown.unselected generic
    subst same
    cases RouteReplayAccumulator.recordRouteEvent_routes routed with
    | nothing _ same =>
        subst same
        exact .admitting grown
    | selection payload kind _ _ _ _ _ _ =>
        rw [snapshot] at kind
        cases kind
    | terminal outcome payload chosen kind _ _ _ _ _ =>
        rw [snapshot] at kind
        cases kind

/-- The terminal settles the counts and changes none of them. -/
theorem Counting.close (counting : Counting selection after reading)
    (payload : RouteTerminalPayload) :
    Counting selection after { reading with terminal := some payload } := by
  constructor
  · exact counting.selected
  · exact counting.closed
  · exact counting.completed
  · exact counting.leading
  · exact counting.loot
  · exact counting.progression

/-- Counting leaves the terminal as it was. -/
theorem terminal_of_counts (counts : RouteReplayAccumulator.Counts selection event reading next) :
    next.terminal = reading.terminal := by
  cases counts with
  | nothing _ same => rw [same]
  | completion _ _ _ counted => rw [counted]
  | loot _ _ _ _ _ _ counted => rw [counted]
  | progression _ _ _ _ _ _ counted => rw [counted]

theorem Counting.step_running {counted : RouteReplayAccumulator} (sound : selection.Sound)
    (counting : Counting selection after reading) (unended : reading.terminal = none)
    (quiet : ∀ event ∈ after, RouteReplayAccumulator.terminalOutcome? event.kind = none)
    (other : event.kind ≠ .moduleStateSnapshot)
    (generic : reading.recordGenericEvent event = .ok counted)
    (routed : RouteReplayAccumulator.Routes event counted next) :
    Counting selection (after ++ [event]) next ∧ Ending selection (after ++ [event]) next := by
  have counts := RouteReplayAccumulator.recordGenericEvent_counts counting.selected unended generic
  have running : counted.terminal = none := (terminal_of_counts counts).trans unended
  cases routed with
  | nothing routeless same =>
      subst same
      have plain := RouteReplayAccumulator.plain_of_routeless routeless
      exact ⟨counting.count ⟨other, plain.1⟩ counts,
        .running running (forall_mem_append quiet plain.2)⟩
  | selection payload kind unselected _ _ _ _ _ =>
      cases counts with
      | nothing _ same => rw [same, counting.selected] at unselected; cases unselected
      | completion kind' _ _ _ => rw [kind] at kind'; cases kind'
      | loot _ _ kind' _ _ _ _ => rw [kind] at kind'; cases kind'
      | progression _ _ kind' _ _ _ _ => rw [kind] at kind'; cases kind'
  | terminal outcome payload chosen kind selected _ valid evidence ended =>
      subst ended
      have counted' := counting.count (RouteReplayAccumulator.plain_of_terminal kind) counts
      obtain rfl : selection = chosen := Option.some.inj (counted'.selected.symm.trans selected)
      have settled := settled_of_validate sound valid evidence
      exact ⟨counted'.close payload, .ended after event [] outcome payload rfl quiet kind rfl
        (of_validateTerminalPayload valid).1 (by cases outcome <;> exact settled)
        fun _ member => absurd member List.not_mem_nil⟩

/-- A counting reader counts the row, takes the terminal, or is past it. -/
theorem Counting.step (sound : selection.Sound) (counting : Counting selection after reading)
    (ending : Ending selection after reading) (accepted : reading.apply event = .ok next) :
    Counting selection (after ++ [event]) next ∧ Ending selection (after ++ [event]) next := by
  obtain ⟨admitted, counted, admission, silence, generic, routed⟩ :=
    RouteReplayAccumulator.apply_passes accepted
  have observed := counting.observe event
  have closing := ending.observe event
  rcases RouteReplayAccumulator.recordAdmission_cases admission with
    ⟨other, rfl⟩ | ⟨-, unselected, -⟩
  · have routes := RouteReplayAccumulator.recordRouteEvent_routes routed
    cases closing with
    | running unended quiet => exact observed.step_running sound unended quiet other generic routes
    | ended middle row rest outcome payload split quiet kind terminal agreed settled silent =>
        have ended : (reading.observe event).terminal ≠ none := by
          rw [terminal]
          exact Option.some_ne_none payload
        have passive := silence.resolve_left ended
        rw [RouteReplayAccumulator.recordGenericEvent_uncounted event (Or.inr ended)] at generic
        obtain rfl := Except.ok.inj generic
        cases routes with
        | nothing routeless same =>
            subst same
            have plain := RouteReplayAccumulator.plain_of_routeless routeless
            refine ⟨observed.skip ⟨other, plain.1⟩ passive, ?_⟩
            refine .ended middle row (rest ++ [event]) outcome payload ?_ quiet kind terminal
              agreed settled (forall_mem_append silent ⟨plain.2, passive⟩)
            rw [split, List.append_assoc, List.cons_append]
        | selection _ _ _ unended _ _ _ _ => exact absurd unended ended
        | terminal _ _ _ _ _ unended _ _ _ => exact absurd unended ended
  · rw [observed.selected] at unselected
    cases unselected

theorem Stands.step (stands : Stands events reading) (accepted : reading.apply event = .ok next) :
    Stands (events ++ [event]) next := by
  cases stands with
  | admitting admitting => exact admitting.step accepted
  | selected before row after selection split opening counting ending =>
      obtain ⟨counted, closed⟩ := counting.step opening.sound ending accepted
      refine .selected before row (after ++ [event]) selection ?_ opening counted closed
      rw [split, List.append_assoc, List.cons_append]

/-- The reader of an accepted journal stands in one of the phases. -/
theorem stands_of_readRoute (accepted : readRoute events = .ok reading) : Stands events reading :=
  foldlM_history accepted stands_start fun _ _ _ _ stands advanced => stands.step advanced

/-! ## What an accepted route proves -/

/-- The state a session ends in, by its terminal. -/
def reconstructedState : Option TerminalOutcome → ReconstructedRouteState
  | none => .routedIncomplete
  | some .succeeded => .succeeded
  | some .failedTimeout => .failed

/-- The leader completed the activity once, and every participant, and nobody
else, received the catalog reward of the route once. -/
structure Rewarded (selection : RouteSelectedPayload) (after : List ReplayEvent) : Prop where
  completed : ∃ leader ∈ selection.participants.head?,
    completions after = [(some selection.activityId, leader.participantId, some leader.actorId)]
  loot : (paid .lootGranted routeFragmentQuantity after).Perm
    (selection.participants.map (fun participant =>
      (participant.participantId, some participant.actorId,
        some (routeDefinition selection.routeId).reward.fragments)))
  progression : (paid .progressionGranted routeExperienceQuantity after).Perm
    (selection.participants.map (fun participant =>
      (participant.participantId, some participant.actorId,
        some (routeDefinition selection.routeId).reward.experience)))

/-- An accepted journal around the row that selects its route.  The completions
and grants the reader counts are those behind that row. -/
structure RoutedJournal (before : List ReplayEvent) (row : ReplayEvent) (after : List ReplayEvent)
    (selection : RouteSelectedPayload) (result : ReconstructedRouteReplay) : Prop where
  selects : row.kind = .routeSelected
  decoded : ∃ encoded, row.payload.route? = some encoded ∧
    encoded.value.bind RouteReplayPayload.selected? = some selection
  recorded : result.selection = some selection
  single : ∀ event ∈ before ++ after, event.kind ≠ .routeSelected
  early : ∀ event ∈ before, RouteReplayAccumulator.terminalOutcome? event.kind = none
  counted : ∃ reading, readRoute (before ++ row :: after) = .ok reading ∧
    reading.activityCompletions = (completions after).length ∧
    reading.lootGrants.map grantRow = paid .lootGranted routeFragmentQuantity after ∧
    reading.progressionGrants.map grantRow =
      paid .progressionGranted routeExperienceQuantity after
  everySnapshot : ∀ event ∈ before ++ row :: after, event.kind = .moduleStateSnapshot →
    (admission event).isSome
  admitted : admissions (before ++ row :: after) = selection.participants.map (fun participant =>
    (participant.characterId, RouteReplayAccumulator.admittedEvidence participant))
  terminal : ∃ outcome : Option TerminalOutcome,
    after.filterMap (fun event => RouteReplayAccumulator.terminalOutcome? event.kind) =
      outcome.toList ∧ result.state = reconstructedState outcome
  silent : ∀ middle ending rest, after = middle ++ ending :: rest →
    RouteReplayAccumulator.terminalOutcome? ending.kind ≠ none →
    ∀ event ∈ rest, RouteReplayAccumulator.concludes event.kind = false
  rewarded : result.state = .succeeded → Rewarded selection after
  unrewarded : result.state = .failed ∨ result.state = .routedIncomplete →
    ∀ event ∈ after, RouteReplayAccumulator.concludes event.kind = false

/-- Counts of nothing leave no row that concludes. -/
theorem Counting.quiet (counting : Counting selection after reading) (uncounted : reading.Uncounted) :
    ∀ event ∈ after, RouteReplayAccumulator.concludes event.kind = false := by
  obtain ⟨completed, loot, progression⟩ := uncounted
  have noCompletion : ofKind .activityCompleted after = [] := by
    have none := counting.completed.trans completed
    rw [completions, List.length_map] at none
    exact List.eq_nil_of_length_eq_zero none
  have noLoot : ofKind .lootGranted after = [] := by
    have none := counting.loot
    rw [loot, paid] at none
    exact List.map_eq_nil_iff.mp none
  have noProgression : ofKind .progressionGranted after = [] := by
    have none := counting.progression
    rw [progression, paid] at none
    exact List.map_eq_nil_iff.mp none
  intro event member
  have apart : ∀ kind, ofKind kind after = [] → event.kind ≠ kind := by
    intro kind empty same
    have kept : event ∈ ofKind kind after :=
      List.mem_filter.mpr ⟨member, decide_eq_true same⟩
    rw [empty] at kept
    exact absurd kept List.not_mem_nil
  have first := apart _ noCompletion
  have second := apart _ noLoot
  have third := apart _ noProgression
  cases kind : event.kind <;> first | rfl | contradiction

/-- Settled counts of a success are the rewards of the catalog. -/
theorem Counting.rewarded (sound : selection.Sound) (counting : Counting selection after reading)
    (settled : reading.Settled .succeeded selection) : Rewarded selection after := by
  obtain ⟨completed, loot, progression⟩ := settled
  constructor
  · obtain ⟨completion, found⟩ := List.length_eq_one_iff.mp (counting.completed.trans completed)
    obtain ⟨leader, led, same⟩ := counting.leading completion (found ▸ List.mem_singleton_self _)
    exact ⟨leader, led, by rw [found, same]⟩
  · rw [counting.loot, ← sound.reward]
    have rows := loot.map grantRow
    rwa [List.map_map] at rows
  · rw [counting.progression, ← sound.reward]
    have rows := progression.map grantRow
    rwa [List.map_map] at rows

/-- The only terminal of a list is found wherever the list is split at a terminal. -/
theorem rest_of_split {middle rest front back : List ReplayEvent} {row ending : ReplayEvent}
    (same : middle ++ row :: rest = front ++ ending :: back)
    (quiet : ∀ event ∈ middle, RouteReplayAccumulator.terminalOutcome? event.kind = none)
    (last : ∀ event ∈ rest, RouteReplayAccumulator.terminalOutcome? event.kind = none)
    (terminal : RouteReplayAccumulator.terminalOutcome? ending.kind ≠ none) : back = rest := by
  rcases List.append_eq_append_iff.mp same with
    ⟨between, rfl, tail⟩ | ⟨between, rfl, tail⟩
  · cases between with
    | nil => exact (List.cons.inj tail).2.symm
    | cons first others =>
        obtain ⟨-, rfl⟩ := List.cons.inj tail
        exact absurd (last ending (List.mem_append_right _ List.mem_cons_self)) terminal
  · cases between with
    | nil => exact (List.cons.inj tail).2
    | cons first others =>
        obtain ⟨rfl, -⟩ := List.cons.inj tail
        exact absurd (quiet ending (List.mem_append_right _ List.mem_cons_self)) terminal

theorem outcomes_of_quiet
    (quiet : ∀ event ∈ events, RouteReplayAccumulator.terminalOutcome? event.kind = none) :
    events.filterMap (fun event => RouteReplayAccumulator.terminalOutcome? event.kind) = [] :=
  List.filterMap_eq_nil_iff.mpr quiet

/-- What a counting reader makes of the end of its journal. -/
structure Concluded (selection : RouteSelectedPayload) (after : List ReplayEvent)
    (result : ReconstructedRouteReplay) : Prop where
  recorded : result.selection = some selection
  terminal : ∃ outcome : Option TerminalOutcome,
    after.filterMap (fun event => RouteReplayAccumulator.terminalOutcome? event.kind) =
      outcome.toList ∧ result.state = reconstructedState outcome
  silent : ∀ middle ending rest, after = middle ++ ending :: rest →
    RouteReplayAccumulator.terminalOutcome? ending.kind ≠ none →
    ∀ event ∈ rest, RouteReplayAccumulator.concludes event.kind = false
  rewarded : result.state = .succeeded → Rewarded selection after
  unrewarded : result.state = .failed ∨ result.state = .routedIncomplete →
    ∀ event ∈ after, RouteReplayAccumulator.concludes event.kind = false

theorem Counting.concluded_running {result : ReconstructedRouteReplay}
    (counting : Counting selection after reading) (unended : reading.terminal = none)
    (quiet : ∀ event ∈ after, RouteReplayAccumulator.terminalOutcome? event.kind = none)
    (finished : reading.finish = .ok result) : Concluded selection after result := by
  simp only [RouteReplayAccumulator.finish, counting.selected, unended, Option.map_none, bind_eq_ok,
    exists_unit, rejectIf_eq_ok, pure_eq_ok, not_or, not_not] at finished
  obtain ⟨uncounted, rfl⟩ := finished
  constructor
  · rfl
  · exact ⟨none, outcomes_of_quiet quiet, rfl⟩
  · intro middle ending rest split terminal
    have member : ending ∈ after := by
      rw [split]
      exact List.mem_append_right _ List.mem_cons_self
    exact absurd (quiet ending member) terminal
  · intro succeeded; cases succeeded
  · exact fun _ => counting.quiet uncounted

theorem Counting.concluded_ended {middle rest : List ReplayEvent} {row : ReplayEvent}
    {outcome : TerminalOutcome} {payload : RouteTerminalPayload} {result : ReconstructedRouteReplay}
    (sound : selection.Sound) (counting : Counting selection (middle ++ row :: rest) reading)
    (quiet : ∀ event ∈ middle, RouteReplayAccumulator.terminalOutcome? event.kind = none)
    (kind : RouteReplayAccumulator.terminalOutcome? row.kind = some outcome)
    (terminal : reading.terminal = some payload) (agreed : payload.summary.outcome = outcome)
    (settled : reading.Settled outcome selection)
    (silent : ∀ event ∈ rest, RouteReplayAccumulator.terminalOutcome? event.kind = none ∧
      RouteReplayAccumulator.concludes event.kind = false) (finished : reading.finish = .ok result) :
    Concluded selection (middle ++ row :: rest) result := by
  have ended : result = { state := reconstructedState (some outcome), selection := some selection
                          terminal := some payload } := by
    simp only [RouteReplayAccumulator.finish, counting.selected, terminal, Option.map_some,
      agreed] at finished
    cases outcome <;> exact (Except.ok.inj finished).symm
  subst ended
  constructor
  · rfl
  · refine ⟨some outcome, ?_, rfl⟩
    rw [List.filterMap_append, List.filterMap_cons, kind, outcomes_of_quiet quiet,
      outcomes_of_quiet fun event member => (silent event member).1]
    rfl
  · intro front ending back split isTerminal
    rw [rest_of_split split quiet (fun event member => (silent event member).1) isTerminal]
    exact fun event member => (silent event member).2
  · intro succeeded
    cases outcome with
    | succeeded => exact counting.rewarded sound settled
    | failedTimeout => cases succeeded
  · intro unrewarded
    cases outcome with
    | succeeded => rcases unrewarded with impossible | impossible <;> cases impossible
    | failedTimeout => exact counting.quiet settled

/-- Every accepted journal with a route selection is a routed journal: one
selection splits it, and its terminal, its counts and its rewards are about the
rows behind that one. -/
theorem routed_journal {events : List ReplayEvent} {result : ReconstructedRouteReplay}
    (accepted : reconstructRouteReplay events = .ok result)
    (selects : ∃ event ∈ events, event.kind = .routeSelected) :
    ∃ before row after selection, events = before ++ row :: after ∧
      RoutedJournal before row after selection result := by
  rw [reconstructRouteReplay, bind_eq_ok] at accepted
  obtain ⟨reading, read, finished⟩ := accepted
  cases stands_of_readRoute read with
  | admitting admitting =>
      obtain ⟨event, member, kind⟩ := selects
      have routeless := admitting.early event member
      rw [kind] at routeless
      cases routeless
  | selected before row after selection split opening counting ending =>
      have concluded : Concluded selection after result := by
        cases ending with
        | running unended quiet => exact counting.concluded_running unended quiet finished
        | ended middle last rest outcome payload split quiet kind terminal agreed settled silent =>
            rw [split] at counting ⊢
            exact counting.concluded_ended opening.sound quiet kind terminal agreed settled silent
              finished
      have unadmitted : admissions after = [] :=
        List.filterMap_eq_nil_iff.mpr fun event member =>
          admission_of_ne (counting.closed event member).1
      have rowOther : row.kind ≠ .moduleStateSnapshot := by rw [opening.kind]; decide
      refine ⟨before, row, after, selection, split, ?_⟩
      constructor
      · exact opening.kind
      · exact opening.decoded
      · exact concluded.recorded
      · intro event member
        rcases List.mem_append.mp member with member | member
        · exact (RouteReplayAccumulator.plain_of_routeless (opening.early event member)).1
        · exact (counting.closed event member).2
      · exact fun event member =>
          (RouteReplayAccumulator.plain_of_routeless (opening.early event member)).2
      · exact ⟨reading, split ▸ read, counting.completed.symm, counting.loot.symm,
          counting.progression.symm⟩
      · intro event member snapshot
        rcases List.mem_append.mp member with member | member
        · exact opening.recorded event member snapshot
        · rcases List.mem_cons.mp member with rfl | member
          · exact absurd snapshot rowOther
          · exact absurd snapshot (counting.closed event member).1
      · rw [← opening.admitted, admissions, List.filterMap_append, List.filterMap_cons,
          admission_of_ne rowOther]
        rw [admissions] at unadmitted
        rw [unadmitted, List.append_nil, admissions]
      · exact concluded.terminal
      · exact concluded.silent
      · exact concluded.rewarded
      · exact concluded.unrewarded

/-- Evidence of a new character: no fragments, no modules. -/
def plainEvidence : ReplayModuleStateEvidence :=
  (moduleStateEvidence 0 [] [] 0 .v2).toOption.getD (evidenceRecord "" 0 [] [] 0 .v2 [])

def soloParticipant : ReplayRouteParticipantEvidence :=
  { participantId := "local:echo", characterId := "echo", actorId := 7
    weaponItemId := "pulse_rifle", moduleState := plainEvidence }

def soloSelection : RouteSelectedPayload :=
  let event := resolveEvent .breach { value := 0 }
  { schemaVersion := 1, activityId := routeActivityId, authoringRevision, catalogRevision
    resolverRevision, operationId := "route-1", leaderId := "local:echo"
    participants := [soloParticipant], routeId := .breach, seed := event.seed
    eventId := event.eventId, effect := event.effect
    objectives := objectiveEvidence breachDefinition.objectivePath
    durationBudgetMs := breachDefinition.durationMs, reward := breachDefinition.reward }

/-- The objectives of the breach route are completed one after the other. -/
def soloTransitions : List ReplayObjectiveTransition :=
  [{ ordinal := 0, objectiveId := .clearDroneGroup, fromState := .active, toState := .completed
     progress := 1, target := 1 },
   { ordinal := 1, objectiveId := .reachRelayDoor, fromState := .pending, toState := .active
     progress := 0, target := 1 },
   { ordinal := 2, objectiveId := .reachRelayDoor, fromState := .active, toState := .completed
     progress := 1, target := 1 },
   { ordinal := 3, objectiveId := .defeatWarden, fromState := .pending, toState := .active
     progress := 0, target := 1 },
   { ordinal := 4, objectiveId := .defeatWarden, fromState := .active, toState := .completed
     progress := 1, target := 1 }]

def soloTerminal : RouteTerminalPayload :=
  { schemaVersion := 1, authoringRevision, catalogRevision, resolverRevision
    operationId := "route-1", routeId := .breach, eventId := soloSelection.eventId
    transitions := soloTransitions
    encounter :=
      { participantCount := 1, droneHealth := 140, droneDamage := 10, droneDefeated := true
        wardenSpawned := true, wardenBaseHealth := 240, wardenEffectiveHealth := 288
        wardenRemainingHealth := 0, acceptedPlayerHits := 8, wardenCounterCount := 2
        wardenCounterDamage := 15, totalHostileDamage := 40 }
    summary := expectedSummary soloSelection .succeeded 60000
    grants := [routeGrant breachDefinition.reward soloParticipant] }

def soloRow (id : Int) (kind : ReplayEventKind) (payload : Payload) : ReplayEvent :=
  { id, kind, sessionId := "session-1", accountId := "local:echo"
    activityId := some routeActivityId, actorId := some 7, payload }

/-- A player takes the breach route alone and finishes it in a minute. -/
def soloJournal : List ReplayEvent :=
  [soloRow 1 .moduleStateSnapshot (.module
     { value := some (.stateSnapshot
        { schemaVersion := 1, characterId := "echo", protocolGeneration := .v2
          state := plainEvidence })
       length := 2000 }),
   soloRow 2 .routeSelected (.route { value := some (.selected soloSelection), length := 3000 }),
   soloRow 3 .activityCompleted (.text "activity completed"),
   soloRow 4 .lootGranted (.text "loot granted: relay_core_fragment x2 (total 2)"),
   soloRow 5 .progressionGranted
     (.text "progression granted: +100 XP (total 100, level 1 -> 2)"),
   soloRow 6 .routeOperationSucceeded
     (.route { value := some (.terminal soloTerminal), length := 3000 })]

theorem soloJournal_succeeds :
    (reconstructRouteReplay soloJournal).toOption.map ReconstructedRouteReplay.state =
      some .succeeded := by
  decide +kernel

theorem routed_journal_solo : ∃ result, reconstructRouteReplay soloJournal = .ok result ∧
    result.state = .succeeded ∧ ∃ before row after selection,
      soloJournal = before ++ row :: after ∧ RoutedJournal before row after selection result := by
  have succeeds := soloJournal_succeeds
  cases accepted : reconstructRouteReplay soloJournal with
  | error failure => rw [accepted] at succeeds; cases succeeds
  | ok result =>
      rw [accepted] at succeeds
      refine ⟨result, rfl, Option.some.inj succeeds, routed_journal accepted ?_⟩
      exact ⟨_, List.mem_cons_of_mem _ List.mem_cons_self, rfl⟩

end Replay
end Revenant
