import Mathlib.Data.List.Perm.Subperm
import Revenant.Replay.CooperationSession
import Revenant.Replay.RouteSafety

namespace Revenant
namespace Replay

open Library Cooperation

/-!
# Accepted cooperative sessions

Before its start the reader holds nothing but what the rows read so far say.
Behind the start it holds the cooperation's rows in their order, and the counts
of the rewards.  Both survive every accepted row, so an accepted journal splits
around its one start, and what lies behind the terminal concludes nothing.
-/

/-! ## The admitted pair -/

/-- What a start that passed its check says of the two who take part. -/
structure Paired (started : CooperationStartedPayload)
    (anchor runner : ReplayCooperationParticipantEvidence) : Prop where
  both : started.participants = [anchor, runner]
  anchorRole : anchor.role = .anchor
  runnerRole : runner.role = .runner
  accounts : anchor.participantId ≠ runner.participantId
  characters : anchor.characterId ≠ runner.characterId
  actors : anchor.actorId ≠ runner.actorId

variable {started : CooperationStartedPayload}

theorem Paired.anchorOf {anchor runner : ReplayCooperationParticipantEvidence}
    (paired : Paired started anchor runner) :
    CooperationReplay.participantOf started .anchor = .ok anchor := by
  rw [CooperationReplay.participantOf, require_eq_ok, paired.both]
  rfl

theorem Paired.runnerOf {anchor runner : ReplayCooperationParticipantEvidence}
    (paired : Paired started anchor runner) :
    CooperationReplay.participantOf started .runner = .ok runner := by
  rw [CooperationReplay.participantOf, require_eq_ok, paired.both]
  rfl

theorem paired_of_validate (valid : CooperationReplay.validateStartedPayload started = .ok ()) :
    ∃ anchor runner, Paired started anchor runner := by
  simp only [CooperationReplay.validateStartedPayload, bind_eq_ok, exists_unit, rejectIf_eq_ok,
    not_or, not_not] at valid
  obtain ⟨-, ⟨-, pair, -⟩, checked⟩ := valid
  obtain ⟨anchor, runner, both⟩ := List.length_eq_two.mp pair
  rw [both] at checked
  simp only [Role.all, List.zip_cons_cons, List.zip_nil_right,
    CooperationReplay.validateParticipants, bind_eq_ok, exists_unit, rejectIf_eq_ok, not_or,
    not_not, List.nil_append, List.mem_singleton, exists_eq_left] at checked
  obtain ⟨-, -, -, ⟨anchorRole, -⟩, -, -, -, -, -, -, -, ⟨runnerRole, distinct, -⟩, -⟩ := checked
  exact ⟨anchor, runner, both, anchorRole, runnerRole, distinct.1, distinct.2.1, distinct.2.2⟩

/-! ## The rows of a cooperation -/

/-- A cooperation row with what its payload decodes to. -/
structure CooperationRow where
  kind : ReplayEventKind
  activityId : Option String
  accountId : String
  actorId : Option Nat
  evidence : Option CooperationReplayPayload
  deriving DecidableEq

def rowOf (event : CooperationEvent) : CooperationRow :=
  { kind := event.row.kind, activityId := event.row.activityId, accountId := event.row.accountId
    actorId := event.row.actorId, evidence := event.evidence.value }

/-- The journal itself. -/
def journal (events : List CooperationEvent) : List ReplayEvent :=
  events.map CooperationEvent.row

/-- The cooperation rows of a journal in their order. -/
def cooperationRows (events : List CooperationEvent) : List CooperationRow :=
  (events.filter (fun event => event.row.kind.isCooperationEvent)).map rowOf

/-- The row of a participant. -/
def participantRow (started : CooperationStartedPayload) (kind : ReplayEventKind)
    (participant : ReplayCooperationParticipantEvidence) (evidence : CooperationReplayPayload) :
    CooperationRow :=
  { kind, activityId := some started.activityId, accountId := participant.participantId
    actorId := some participant.actorId, evidence := some evidence }

/-- The kind of a terminal row. -/
def terminalKind (outcome : TerminalOutcome) : ReplayEventKind :=
  if outcome = .succeeded then .cooperationSucceeded else .cooperationFailed

/-- Ping, downing, revive and terminal, as far as they were read. -/
def chain (started : CooperationStartedPayload)
    (anchor runner : ReplayCooperationParticipantEvidence) (pinged : Option CooperationPingedPayload)
    (downed : Option PlayerDownedPayload) (revived : Option PlayerRevivedPayload)
    (terminal : Option CooperationTerminalPayload) : List CooperationRow :=
  (pinged.map (fun payload =>
      participantRow started .cooperationPinged anchor (.pinged payload))).toList ++
    (downed.map (fun payload =>
      participantRow started .playerDowned runner (.downed payload))).toList ++
    (revived.map (fun payload =>
      participantRow started .playerRevived runner (.revived payload))).toList ++
    (terminal.map (fun payload =>
      participantRow started (terminalKind payload.outcome) anchor (.terminal payload))).toList

/-- The kinds of a terminal. -/
def endsCooperation : ReplayEventKind → Bool
  | .cooperationSucceeded | .cooperationFailed => true
  | _ => false

/-- The kinds no row behind the terminal may have. -/
def closing (kind : ReplayEventKind) : Bool :=
  kind.isCooperationEvent || RouteReplayAccumulator.concludes kind

theorem journal_append (events : List CooperationEvent) (event : CooperationEvent) :
    journal (events ++ [event]) = journal events ++ [event.row] := List.map_append

theorem completions_journal {event : CooperationEvent}
    (other : event.row.kind ≠ .activityCompleted) (events : List CooperationEvent) :
    completions (journal (events ++ [event])) = completions (journal events) := by
  rw [journal_append, completions_append_of_ne other]

theorem paid_journal {kind : ReplayEventKind} {event : CooperationEvent}
    (other : event.row.kind ≠ kind) (quantity : Payload → Option Nat)
    (events : List CooperationEvent) :
    paid kind quantity (journal (events ++ [event])) = paid kind quantity (journal events) := by
  rw [journal_append, paid_append_of_ne other]

theorem cooperationRows_append (events : List CooperationEvent) (event : CooperationEvent) :
    cooperationRows (events ++ [event]) = cooperationRows events ++
      if event.row.kind.isCooperationEvent = true then [rowOf event] else [] := by
  unfold cooperationRows
  rw [List.filter_append, List.map_append]
  by_cases cooperative : event.row.kind.isCooperationEvent = true <;> simp [cooperative]

theorem isCooperationEvent_of_ends {kind : ReplayEventKind} (ends : endsCooperation kind = true) :
    kind.isCooperationEvent = true := by
  cases kind <;> first | rfl | cases ends

namespace CooperationReplayAccumulator

/-! ## What one row can do -/

theorem insertGrant_eq_ok {grants next : List (String × Nat × Nat)} {accountId duplicate : String}
    {grant : Nat × Nat} :
    insertGrant grants accountId grant duplicate = .ok next ↔
      accountId ∉ grants.map Prod.fst ∧ grants ++ [(accountId, grant)] = next := by
  simp only [insertGrant, bind_eq_ok, exists_unit, rejectIf_eq_ok, pure_eq_ok]

/-- What a row adds to an open count. -/
inductive Counts (started : CooperationStartedPayload)
    (anchor : ReplayCooperationParticipantEvidence) (event : ReplayEvent)
    (reading next : CooperationReplayAccumulator) : Prop
  | nothing (other : RouteReplayAccumulator.concludes event.kind = false) (same : next = reading)
  | completion (kind : event.kind = .activityCompleted)
      (activity : event.activityId = some started.activityId)
      (account : event.accountId = anchor.participantId)
      (actor : event.actorId = some anchor.actorId)
      (counted : next = { reading with activityCompletions := reading.activityCompletions + 1 })
  | loot (quantity actorId : Nat) (kind : event.kind = .lootGranted)
      (read : fragmentQuantity event.payload = some quantity)
      (actor : event.actorId = some actorId)
      (counted : next = { reading with
        lootGrants := reading.lootGrants ++ [(event.accountId, actorId, quantity)] })
  | progression (experience actorId : Nat) (kind : event.kind = .progressionGranted)
      (read : experienceQuantity event.payload = some experience)
      (actor : event.actorId = some actorId)
      (counted : next = { reading with
        progressionGrants := reading.progressionGrants ++
          [(event.accountId, actorId, experience)] })

variable {reading next : CooperationReplayAccumulator} {event : ReplayEvent}
variable {started : CooperationStartedPayload}
variable {anchor runner : ReplayCooperationParticipantEvidence}

/-- A row outside an open count adds nothing. -/
theorem recordGenericEvent_uncounted (event : ReplayEvent)
    (idle : reading.started = none ∨ reading.terminal.isSome = true) :
    reading.recordGenericEvent event = .ok reading := by
  unfold recordGenericEvent
  split
  · next opened unended =>
      rcases idle with unopened | ended
      · rw [unopened] at opened; cases opened
      · rw [unended] at ended; cases ended
  · rfl

theorem recordGenericEvent_counts (paired : Paired started anchor runner)
    (opened : reading.started = some started) (unended : reading.terminal = none)
    (accepted : reading.recordGenericEvent event = .ok next) :
    Counts started anchor event reading next := by
  simp only [recordGenericEvent, opened, unended] at accepted
  split at accepted
  · next kind =>
      simp only [recordCompletion, paired.anchorOf, bind_eq_ok, exists_unit, rejectIf_eq_ok,
        pure_eq_ok, not_or, not_not, Except.ok.injEq, exists_eq_left'] at accepted
      obtain ⟨⟨activity, account, actor, -⟩, -, rfl⟩ := accepted
      exact .completion kind activity account actor rfl
  · next kind =>
      simp only [recordLoot, bind_eq_ok, exists_unit, rejectIf_eq_ok, require_eq_ok, pure_eq_ok,
        insertGrant_eq_ok, not_not] at accepted
      obtain ⟨-, quantity, read, actorId, actor, grants, ⟨-, rfl⟩, rfl⟩ := accepted
      exact .loot quantity actorId kind read actor rfl
  · next kind =>
      simp only [recordProgression, bind_eq_ok, exists_unit, rejectIf_eq_ok, require_eq_ok,
        pure_eq_ok, insertGrant_eq_ok, not_not] at accepted
      obtain ⟨-, experience, read, actorId, actor, grants, ⟨-, rfl⟩, rfl⟩ := accepted
      exact .progression experience actorId kind read actor rfl
  · next noCompletion noLoot noProgression =>
      cases accepted
      refine .nothing ?_ rfl
      cases kind : event.kind <;> first | rfl | contradiction

/-- The checks of an accepted row, in their order. -/
theorem apply_passes {event : CooperationEvent} (accepted : reading.apply event = .ok next) :
    ∃ routed admitted noted counted, reading.noteRoute event.row = .ok routed ∧
      routed.recordSnapshot event.row = .ok admitted ∧
      (admitted.terminal.isSome = true → closing event.row.kind = false) ∧
      admitted.noteMission event.row = .ok noted ∧
      noted.recordGenericEvent event.row = .ok counted ∧
      counted.recordCooperationEvent event = .ok next := by
  simp only [apply, bind_eq_ok, exists_unit, rejectIf_eq_ok] at accepted
  obtain ⟨routed, first, admitted, second, silent, noted, third, counted, fourth, fifth⟩ := accepted
  refine ⟨routed, admitted, noted, counted, first, second, ?_, third, fourth, fifth⟩
  intro ended
  obtain ⟨plain, unconcluding⟩ := not_or.mp (not_and.mp silent ended)
  rw [closing, Bool.eq_false_iff.mpr plain, Bool.eq_false_iff.mpr unconcluding, Bool.or_false]

/-! ## Before the start -/

/-- What the reader holds of rows without a cooperation. -/
def gathered (events : List ReplayEvent) : CooperationReplayAccumulator :=
  { start with
    snapshots := admissions events
    snapshotOrder := (admissions events).map Prod.fst
    sawActivityStarted := events.any (fun event => event.kind = .activityStarted)
    enemyDefeats := (ofKind .enemyDied events).length
    bossSpawned := events.any (fun event => event.kind = .bossSpawned)
    sawRouteEvent := events.any (fun event => event.kind.isRouteEvent) }

theorem noteRoute_unstarted (unstarted : reading.started = none) :
    reading.noteRoute event = .ok { reading with
      sawRouteEvent := reading.sawRouteEvent || event.kind.isRouteEvent } := by
  unfold noteRoute
  split
  · next route => simp [route, unstarted, rejectIf]
  · next other => rw [Bool.eq_false_iff.mpr other, Bool.or_false]

theorem recordSnapshot_unstarted (accepted : reading.recordSnapshot event = .ok next) :
    next = { reading with
        snapshots := reading.snapshots ++ (admission event).toList
        snapshotOrder := reading.snapshotOrder ++ (admission event).toList.map Prod.fst } ∧
      (event.kind = .moduleStateSnapshot → (admission event).isSome = true) ∧
      ∀ entry ∈ admission event, entry.1 ∉ reading.snapshots.map Prod.fst := by
  unfold recordSnapshot at accepted
  split at accepted
  · next snapshot =>
      simp only [decodeModule, bind_eq_ok, exists_unit, require_eq_ok, rejectIf_eq_ok,
        pure_eq_ok] at accepted
      obtain ⟨-, payload, ⟨encoded, stored, -, decoded⟩, -, actorId, actor, fresh, rfl⟩ := accepted
      have made : admission event = some (payload.characterId,
          { accountId := event.accountId, actorId
            protocolGeneration := payload.protocolGeneration, state := payload.state }) := by
        simp only [admission, snapshot, if_true, stored, decoded, actor, Option.bind_eq_bind,
          Option.bind_some, Option.pure_def]
      rw [made]
      refine ⟨rfl, fun _ => rfl, ?_⟩
      rintro entry ⟨⟩
      exact fresh
  · next other =>
      cases accepted
      rw [admission_of_ne other]
      refine ⟨?_, fun snapshot => absurd snapshot other, ?_⟩
      · simp only [Option.toList_none, List.append_nil, List.map_nil]
      · intro entry impossible
        cases impossible

theorem noteMission_eq_ok (accepted : reading.noteMission event = .ok next) :
    next = { reading with
      sawActivityStarted := reading.sawActivityStarted || decide (event.kind = .activityStarted)
      enemyDefeats := reading.enemyDefeats + if event.kind = .enemyDied then 1 else 0
      bossSpawned := reading.bossSpawned || decide (event.kind = .bossSpawned) } := by
  unfold noteMission at accepted
  split at accepted
  · next kind => cases accepted; simp [kind]
  · next kind =>
      simp only [bind_eq_ok, exists_unit, rejectIf_eq_ok, pure_eq_ok] at accepted
      obtain ⟨-, rfl⟩ := accepted
      simp [kind]
  · next kind => cases accepted; simp [kind]
  · next noActivity noDefeat noBoss =>
      cases accepted
      have noActivity : event.kind ≠ .activityStarted := noActivity
      have noDefeat : event.kind ≠ .enemyDied := noDefeat
      have noBoss : event.kind ≠ .bossSpawned := noBoss
      simp [noActivity, noDefeat, noBoss]

/-- Nothing but the start is taken before the start. -/
theorem recordCooperationEvent_unstarted {event : CooperationEvent}
    (unstarted : reading.started = none)
    (accepted : reading.recordCooperationEvent event = .ok next) :
    (event.row.kind.isCooperationEvent = false ∧ next = reading) ∨
      event.row.kind = .cooperationStarted ∧ reading.recordStarted event = .ok next := by
  unfold recordCooperationEvent at accepted
  split at accepted
  · next kind => exact Or.inr ⟨kind, accepted⟩
  · simp [recordPinged, unstarted, require] at accepted
  · simp [recordDowned, unstarted, require] at accepted
  · simp [recordRevived, unstarted, require] at accepted
  · simp [recordTerminal, unstarted, require, bind, Except.bind] at accepted
  · simp [recordTerminal, unstarted, require, bind, Except.bind] at accepted
  · next noStart noPing noDowning noRevive noSuccess noFailure =>
      cases accepted
      refine Or.inl ⟨?_, rfl⟩
      cases kind : event.row.kind <;> first | rfl | contradiction

/-- The rows read so far hold no cooperation, and their admissions are apart. -/
structure Gathering (events : List ReplayEvent) (reading : CooperationReplayAccumulator) : Prop where
  held : reading = gathered events
  plain : ∀ event ∈ events, event.kind.isCooperationEvent = false
  recorded : ∀ event ∈ events, event.kind = .moduleStateSnapshot → (admission event).isSome = true
  distinct : ((admissions events).map Prod.fst).Nodup

theorem gathering_start : Gathering [] start := by
  constructor
  · rfl
  · exact fun _ member => absurd member List.not_mem_nil
  · exact fun _ member => absurd member List.not_mem_nil
  · exact List.nodup_nil

/-- A row before the start is gathered, or it is the start over the rows before. -/
theorem Gathering.step {events : List ReplayEvent} {event : CooperationEvent}
    (gathering : Gathering events reading) (accepted : reading.apply event = .ok next) :
    Gathering (events ++ [event.row]) next ∨
      event.row.kind = .cooperationStarted ∧ reading.recordStarted event = .ok next := by
  obtain ⟨held, plain, recorded, distinct⟩ := gathering
  have unstarted : reading.started = none := by rw [held]; rfl
  obtain ⟨routed, admitted, noted, counted, first, second, -, third, fourth, fifth⟩ :=
    apply_passes accepted
  rw [noteRoute_unstarted unstarted, Except.ok.injEq] at first
  subst first
  obtain ⟨rfl, complete, fresh⟩ := recordSnapshot_unstarted second
  obtain rfl := noteMission_eq_ok third
  rw [recordGenericEvent_uncounted event.row (by exact Or.inl unstarted), Except.ok.injEq] at fourth
  subst fourth
  rcases recordCooperationEvent_unstarted (by exact unstarted) fifth with ⟨other, rfl⟩ | ⟨kind, started⟩
  · refine Or.inl ?_
    constructor
    · rw [held]
      simp only [gathered, start, admissions_append, ofKind_append, List.any_append, List.any_cons,
        List.any_nil, Bool.or_false, List.map_append, List.length_append]
      congr 1
      split <;> rfl
    · exact forall_mem_append plain other
    · exact forall_mem_append recorded complete
    · rw [admissions_append, List.map_append]
      refine List.Nodup.append distinct ?_ ?_
      · cases admission event.row with
        | none => exact List.nodup_nil
        | some entry => exact List.nodup_singleton _
      · cases made : admission event.row with
        | none => exact List.disjoint_nil_right _
        | some entry =>
            have apart := fresh entry made
            rw [held] at apart
            simpa only [Option.toList_some, List.map_cons, List.map_nil,
              List.disjoint_singleton, gathered] using apart
  · refine Or.inr ⟨kind, ?_⟩
    have noSnapshot : admission event.row = none := admission_of_ne (by rw [kind]; decide)
    simpa [ReplayEventKind.isRouteEvent, noSnapshot, kind] using started

/-! ## Behind the start -/

variable {event : CooperationEvent}

/-- The grants of a list that holds both and nothing else by its length. -/
theorem perm_of_lookup_pair {grants : List (String × Nat × Nat)} {first second : String}
    {left right : Nat × Nat} (apart : first ≠ second) (pair : grants.length = 2)
    (firstGrant : grants.lookup first = some left)
    (secondGrant : grants.lookup second = some right) :
    grants.Perm [(first, left), (second, right)] := by
  have distinct : [(first, left), (second, right)].Nodup := by
    refine List.nodup_cons.mpr ⟨?_, List.nodup_singleton _⟩
    rw [List.mem_singleton]
    exact fun same => apart (congrArg Prod.fst same)
  have stored : ∀ {account : String} {grant : Nat × Nat}, grants.lookup account = some grant →
      (account, grant) ∈ grants := by
    intro account grant found
    obtain ⟨front, back, split, -⟩ := List.lookup_eq_some_iff.mp found
    rw [split]
    exact List.mem_append_right _ List.mem_cons_self
  have contained : [(first, left), (second, right)] ⊆ grants := by
    intro grant member
    rcases List.mem_cons.mp member with rfl | member
    · exact stored firstGrant
    · rw [List.mem_singleton.mp member]
      exact stored secondGrant
  have covered := List.subperm_of_subset distinct contained
  exact (covered.perm_of_length_le (by rw [pair]; rfl)).symm

/-- What a terminal leaves of the counts. -/
def Settled (anchor runner : ReplayCooperationParticipantEvidence) (outcome : TerminalOutcome)
    (reading : CooperationReplayAccumulator) : Prop :=
  if outcome = .succeeded then
    reading.activityCompletions = 1 ∧
    reading.lootGrants.Perm [(anchor.participantId, anchor.actorId, successReward.fragments),
      (runner.participantId, runner.actorId, successReward.fragments)] ∧
    reading.progressionGrants.Perm [(anchor.participantId, anchor.actorId, successReward.experience),
      (runner.participantId, runner.actorId, successReward.experience)]
  else reading.activityCompletions = 0 ∧ reading.lootGrants = [] ∧ reading.progressionGrants = []

theorem settled_of_validate {outcome : TerminalOutcome} {payload : CooperationTerminalPayload}
    (paired : Paired started anchor runner)
    (counted : reading.validateGenericTerminal (decide (outcome = .succeeded)) started payload =
      .ok ()) : reading.Settled anchor runner outcome := by
  unfold Settled
  by_cases success : outcome = .succeeded
  · simp only [validateGenericTerminal, success, decide_true, Bool.true_eq_false, if_false,
      bind_eq_ok, exists_unit, rejectIf_eq_ok, not_or, not_not, not_exists, not_and,
      paired.both] at counted
    obtain ⟨⟨completed, loot, progression⟩, granted, -⟩ := counted
    obtain ⟨anchorLoot, anchorProgression⟩ := granted anchor List.mem_cons_self
    obtain ⟨runnerLoot, runnerProgression⟩ :=
      granted runner (List.mem_cons_of_mem _ List.mem_cons_self)
    rw [if_pos success]
    exact ⟨completed, perm_of_lookup_pair paired.accounts loot anchorLoot runnerLoot,
      perm_of_lookup_pair paired.accounts progression anchorProgression runnerProgression⟩
  · simp only [validateGenericTerminal, success, decide_false, if_true, rejectIf_eq_ok, not_or,
      not_not] at counted
    rw [if_neg success]
    exact counted

/-- Every row taken passed its checks against the rows it builds on. -/
structure Linked (started : CooperationStartedPayload)
    (anchor runner : ReplayCooperationParticipantEvidence)
    (reading : CooperationReplayAccumulator) : Prop where
  pinged : ∀ payload ∈ reading.pinged,
    CooperationReplay.validatePingedPayload payload started = .ok ()
  downed : ∀ payload ∈ reading.downed, ∃ pinged, reading.pinged = some pinged ∧
    CooperationReplay.validateDownedPayload payload started pinged = .ok ()
  revived : ∀ payload ∈ reading.revived, ∃ downed, reading.downed = some downed ∧
    CooperationReplay.validateRevivedPayload payload started downed = .ok ()
  ended : ∀ payload ∈ reading.terminal,
    CooperationReplay.validateTerminalPayload (decide (payload.outcome = .succeeded)) payload started
        reading.rows = .ok () ∧
      reading.Settled anchor runner payload.outcome

def chainOf (reading : CooperationReplayAccumulator) (started : CooperationStartedPayload)
    (anchor runner : ReplayCooperationParticipantEvidence) : List CooperationRow :=
  chain started anchor runner reading.pinged reading.downed reading.revived reading.terminal

/-- What the reader holds behind the start. -/
structure Behind (started : CooperationStartedPayload)
    (anchor runner : ReplayCooperationParticipantEvidence) (after : List CooperationEvent)
    (reading : CooperationReplayAccumulator) : Prop where
  opened : reading.started = some started
  closed : ∀ event ∈ after, event.row.kind.isRouteEvent = false ∧
    event.row.kind ≠ .moduleStateSnapshot ∧ event.row.kind ≠ .cooperationStarted
  rows : cooperationRows after = reading.chainOf started anchor runner
  linked : reading.Linked started anchor runner
  completed : completions (journal after) = List.replicate reading.activityCompletions
    (some started.activityId, anchor.participantId, some anchor.actorId)
  loot : paid .lootGranted fragmentQuantity (journal after) = reading.lootGrants.map grantRow
  progression : paid .progressionGranted experienceQuantity (journal after) =
    reading.progressionGrants.map grantRow
  silent : after.Pairwise (fun earlier later =>
    endsCooperation earlier.row.kind = true → closing later.row.kind = false)

/-- A terminal row was read exactly when the reader holds a terminal. -/
theorem Behind.unended {after : List CooperationEvent}
    (behind : Behind started anchor runner after reading) (running : reading.terminal = none) :
    ∀ event ∈ after, endsCooperation event.row.kind = false := by
  intro event member
  by_contra ends
  rw [Bool.not_eq_false] at ends
  have listed : rowOf event ∈ cooperationRows after :=
    List.mem_map_of_mem (List.mem_filter.mpr ⟨member, isCooperationEvent_of_ends ends⟩)
  rw [behind.rows, chainOf, running] at listed
  have kinds : (rowOf event).kind = .cooperationPinged ∨
      (rowOf event).kind = .playerDowned ∨ (rowOf event).kind = .playerRevived := by
    simp only [chain, Option.map_none, Option.toList_none, List.append_nil, List.mem_append,
      Option.mem_toList, Option.map_eq_some_iff] at listed
    rcases listed with (⟨_, -, same⟩ | ⟨_, -, same⟩) | ⟨_, -, same⟩
    · exact Or.inl (congrArg CooperationRow.kind same).symm
    · exact Or.inr (Or.inl (congrArg CooperationRow.kind same).symm)
    · exact Or.inr (Or.inr (congrArg CooperationRow.kind same).symm)
  simp only [rowOf] at kinds
  rcases kinds with kind | kind | kind <;> rw [kind] at ends <;> cases ends

/-- What a row behind the start can add to the cooperation. -/
inductive Extends (started : CooperationStartedPayload)
    (anchor runner : ReplayCooperationParticipantEvidence) (event : CooperationEvent)
    (reading next : CooperationReplayAccumulator) : Prop
  | nothing (plain : event.row.kind.isCooperationEvent = false) (same : next = reading)
  | pinged (payload : CooperationPingedPayload)
      (row : rowOf event = participantRow started .cooperationPinged anchor (.pinged payload))
      (first : reading.pinged = none ∧ reading.downed = none ∧ reading.revived = none)
      (valid : CooperationReplay.validatePingedPayload payload started = .ok ())
      (taken : next = { reading with pinged := some payload })
  | downed (payload : PlayerDownedPayload) (pinged : CooperationPingedPayload)
      (row : rowOf event = participantRow started .playerDowned runner (.downed payload))
      (first : reading.downed = none ∧ reading.revived = none)
      (behind : reading.pinged = some pinged)
      (valid : CooperationReplay.validateDownedPayload payload started pinged = .ok ())
      (taken : next = { reading with downed := some payload })
  | revived (payload : PlayerRevivedPayload) (downed : PlayerDownedPayload)
      (row : rowOf event = participantRow started .playerRevived runner (.revived payload))
      (first : reading.revived = none) (behind : reading.downed = some downed)
      (valid : CooperationReplay.validateRevivedPayload payload started downed = .ok ())
      (taken : next = { reading with revived := some payload })
  | ended (payload : CooperationTerminalPayload)
      (row : rowOf event =
        participantRow started (terminalKind payload.outcome) anchor (.terminal payload))
      (valid : CooperationReplay.validateTerminalPayload (decide (payload.outcome = .succeeded))
        payload started reading.rows = .ok ())
      (settled : reading.Settled anchor runner payload.outcome)
      (taken : next = { reading with terminal := some payload })

/-- The row of an event that carries a participant's identity. -/
theorem rowOf_eq {kind : ReplayEventKind} {role : Role}
    {Evidence : Type} {view : CooperationReplayPayload → Option Evidence} {payload : Evidence}
    {evidence : CooperationReplayPayload} {participant : ReplayCooperationParticipantEvidence}
    (same : event.row.kind = kind)
    (decoded : decodeCooperation view event = .ok payload)
    (viewed : ∀ value, view value = some payload → value = evidence)
    (placed : CooperationReplay.participantOf started role = .ok participant)
    (identified : validateEventIdentity event.row started role = .ok ()) :
    rowOf event = participantRow started kind participant evidence := by
  simp only [decodeCooperation, bind_eq_ok, exists_unit, rejectIf_eq_ok, require_eq_ok,
    Option.bind_eq_some_iff] at decoded
  obtain ⟨-, value, stored, view⟩ := decoded
  simp only [validateEventIdentity, placed, bind_eq_ok, rejectIf_eq_ok, not_or, not_not,
    Except.ok.injEq, exists_eq_left'] at identified
  obtain ⟨activity, account, actor⟩ := identified
  rw [rowOf, participantRow, same, activity, account, actor, stored, viewed value view]

theorem recordTerminal_ends {success : Bool} {kind : ReplayEventKind}
    (paired : Paired started anchor runner) (opened : reading.started = some started)
    (same : event.row.kind = kind) (expected : terminalKind .succeeded = kind ↔ success = true)
    (failing : success = false → kind = .cooperationFailed)
    (accepted : reading.recordTerminal success event = .ok next) :
    Extends started anchor runner event reading next := by
  simp only [recordTerminal, bind_eq_ok, exists_unit, require_eq_ok, pure_eq_ok] at accepted
  obtain ⟨other, found, payload, decoded, valid, identified, settled, rfl⟩ := accepted
  obtain rfl := Option.some.inj (found.symm.trans opened)
  have outcome : success = decide (payload.outcome = .succeeded) := by
    simp only [CooperationReplay.validateTerminalPayload, bind_eq_ok, exists_unit,
      rejectIf_eq_ok, not_not] at valid
    exact valid.2.2.1
  have named : kind = terminalKind payload.outcome := by
    cases success with
    | true =>
        rw [of_decide_eq_true outcome.symm]
        exact (expected.mpr rfl).symm
    | false =>
        rw [failing rfl, terminalKind, if_neg (of_decide_eq_false outcome.symm)]
  subst outcome
  refine .ended payload ?_ valid (settled_of_validate paired settled) rfl
  refine rowOf_eq (same.trans named) decoded ?_ paired.anchorOf identified
  intro value viewed
  cases value <;> cases viewed
  rfl

theorem recordCooperationEvent_extends (paired : Paired started anchor runner) (opened : reading.started = some started)
    (accepted : reading.recordCooperationEvent event = .ok next) :
    Extends started anchor runner event reading next := by
  unfold recordCooperationEvent at accepted
  split at accepted
  · simp [recordStarted, opened, rejectIf, bind, Except.bind] at accepted
  · next kind =>
      simp only [recordPinged, bind_eq_ok, exists_unit, rejectIf_eq_ok, require_eq_ok,
        pure_eq_ok, not_or, Bool.not_eq_true, Option.isSome_eq_false_iff,
        Option.isNone_iff_eq_none] at accepted
      obtain ⟨first, other, found, payload, decoded, valid, identified, rfl⟩ := accepted
      obtain rfl := Option.some.inj (found.symm.trans opened)
      refine .pinged payload (rowOf_eq kind decoded ?_ paired.anchorOf identified) first valid rfl
      intro value viewed
      cases value <;> cases viewed
      rfl
  · next kind =>
      simp only [recordDowned, bind_eq_ok, exists_unit, rejectIf_eq_ok, require_eq_ok,
        pure_eq_ok, not_or, Bool.not_eq_true, Option.isSome_eq_false_iff,
        Option.isNone_iff_eq_none] at accepted
      obtain ⟨first, other, found, pinged, behind, payload, decoded, valid, identified, rfl⟩ := accepted
      obtain rfl := Option.some.inj (found.symm.trans opened)
      refine .downed payload pinged (rowOf_eq kind decoded ?_ paired.runnerOf identified) first
        behind valid rfl
      intro value viewed
      cases value <;> cases viewed
      rfl
  · next kind =>
      simp only [recordRevived, bind_eq_ok, exists_unit, rejectIf_eq_ok, require_eq_ok,
        pure_eq_ok, Bool.not_eq_true, Option.isSome_eq_false_iff,
        Option.isNone_iff_eq_none] at accepted
      obtain ⟨first, other, found, downed, behind, payload, decoded, valid, identified, rfl⟩ := accepted
      obtain rfl := Option.some.inj (found.symm.trans opened)
      refine .revived payload downed (rowOf_eq kind decoded ?_ paired.runnerOf identified) first
        behind valid rfl
      intro value viewed
      cases value <;> cases viewed
      rfl
  · next kind =>
      exact recordTerminal_ends paired opened kind (by decide) (by decide) accepted
  · next kind =>
      exact recordTerminal_ends paired opened kind (by decide) (by decide) accepted
  · next noStart noPing noDowning noRevive noSuccess noFailure =>
      cases accepted
      refine .nothing ?_ rfl
      cases kind : event.row.kind <;> first | rfl | contradiction

/-- A row without a cooperation kind adds nothing to the cooperation. -/
theorem Extends.plain (extends' : Extends started anchor runner event reading next)
    (plain : event.row.kind.isCooperationEvent = false) : next = reading := by
  have other : ∀ {kind : ReplayEventKind} {participant evidence},
      rowOf event = participantRow started kind participant evidence →
      kind.isCooperationEvent = false := by
    intro kind participant evidence row
    have same : event.row.kind = kind := congrArg CooperationRow.kind row
    exact same ▸ plain
  cases extends' with
  | nothing _ same => exact same
  | pinged _ row => cases other row
  | downed _ _ row => cases other row
  | revived _ _ row => cases other row
  | ended payload row =>
      have impossible := other row
      unfold terminalKind at impossible
      split at impossible <;> cases impossible

section Steps

variable {after : List CooperationEvent}

theorem Behind.silent_append (behind : Behind started anchor runner after reading)
    (quiet : reading.terminal.isSome = true → closing event.row.kind = false) :
    (after ++ [event]).Pairwise (fun earlier later =>
      endsCooperation earlier.row.kind = true → closing later.row.kind = false) := by
  refine List.pairwise_append.mpr ⟨behind.silent, List.pairwise_singleton _ _, ?_⟩
  intro earlier member later last ends
  rw [List.mem_singleton.mp last]
  cases terminal : reading.terminal with
  | none =>
      rw [behind.unended terminal earlier member] at ends
      cases ends
  | some payload =>
      rw [terminal] at quiet
      exact quiet rfl

/-- A row without a cooperation kind is counted, or is behind the terminal. -/
theorem Behind.count (behind : Behind started anchor runner after reading)
    (closed : event.row.kind.isRouteEvent = false ∧ event.row.kind ≠ .moduleStateSnapshot ∧
      event.row.kind ≠ .cooperationStarted)
    (plain : event.row.kind.isCooperationEvent = false)
    (quiet : reading.terminal.isSome = true → closing event.row.kind = false)
    (open' : reading.terminal = none ∨ next = reading)
    (counts : Counts started anchor event.row reading next) :
    Behind started anchor runner (after ++ [event]) next := by
  have silent := behind.silent_append quiet
  have rows : cooperationRows (after ++ [event]) = cooperationRows after := by
    rw [cooperationRows_append, plain, if_neg Bool.false_ne_true, List.append_nil]
  have grown := List.forall_mem_append.mpr ⟨behind.closed, List.forall_mem_singleton.mpr closed⟩
  have unsettled : ∀ {other : CooperationReplayAccumulator}, reading.terminal = none →
      other.terminal = reading.terminal → ∀ payload ∈ other.terminal,
        CooperationReplay.validateTerminalPayload (decide (payload.outcome = .succeeded)) payload
          started other.rows = .ok () ∧ other.Settled anchor runner payload.outcome := by
    intro other running same payload member
    rw [same, running] at member
    cases member
  cases counts with
  | nothing other same =>
      subst same
      have noCompletion : event.row.kind ≠ .activityCompleted := by
        intro kind; rw [kind] at other; cases other
      have noLoot : event.row.kind ≠ .lootGranted := by
        intro kind; rw [kind] at other; cases other
      have noProgression : event.row.kind ≠ .progressionGranted := by
        intro kind; rw [kind] at other; cases other
      exact { behind with
        closed := grown, rows := rows.trans behind.rows, silent
        completed := (completions_journal noCompletion after).trans behind.completed
        loot := (paid_journal noLoot _ after).trans behind.loot
        progression := (paid_journal noProgression _ after).trans behind.progression }
  | completion kind activity account actor counted =>
      have running : reading.terminal = none := by
        refine open'.resolve_right fun same => ?_
        have moved := congrArg CooperationReplayAccumulator.activityCompletions (counted ▸ same)
        exact absurd moved (Nat.succ_ne_self _)
      subst counted
      exact { behind with
        closed := grown, rows := rows.trans behind.rows, silent
        linked := { behind.linked with ended := unsettled running rfl }
        completed := by
          rw [journal_append, completions_append kind, behind.completed, activity, account, actor]
          exact List.replicate_succ'.symm
        loot := (paid_journal (by rw [kind]; decide) _ after).trans behind.loot
        progression := (paid_journal (by rw [kind]; decide) _ after).trans behind.progression }
  | loot quantity actorId kind readQuantity actor counted =>
      have running : reading.terminal = none := by
        refine open'.resolve_right fun same => ?_
        have moved := congrArg (fun next => next.lootGrants.length) (counted ▸ same)
        simp at moved
      subst counted
      exact { behind with
        closed := grown, rows := rows.trans behind.rows, silent
        linked := { behind.linked with ended := unsettled running rfl }
        completed := (completions_journal (by rw [kind]; decide) after).trans behind.completed
        loot := by
          rw [journal_append, paid_append kind, behind.loot, readQuantity, actor, List.map_append]
          rfl
        progression := (paid_journal (by rw [kind]; decide) _ after).trans behind.progression }
  | progression experience actorId kind readExperience actor counted =>
      have running : reading.terminal = none := by
        refine open'.resolve_right fun same => ?_
        have moved := congrArg (fun next => next.progressionGrants.length) (counted ▸ same)
        simp at moved
      subst counted
      exact { behind with
        closed := grown, rows := rows.trans behind.rows, silent
        linked := { behind.linked with ended := unsettled running rfl }
        completed := (completions_journal (by rw [kind]; decide) after).trans behind.completed
        loot := (paid_journal (by rw [kind]; decide) _ after).trans behind.loot
        progression := by
          rw [journal_append, paid_append kind, behind.progression, readExperience, actor, List.map_append]
          rfl }

/-- A cooperation row takes its place at the end of the chain. -/
theorem Behind.record (behind : Behind started anchor runner after reading)
    (running : reading.terminal = none) (cooperative : event.row.kind.isCooperationEvent = true)
    (extends' : Extends started anchor runner event reading next) :
    Behind started anchor runner (after ++ [event]) next := by
  have silent : (after ++ [event]).Pairwise (fun earlier later =>
      endsCooperation earlier.row.kind = true → closing later.row.kind = false) :=
    behind.silent_append (by rw [running]; intro impossible; cases impossible)
  have routeless : event.row.kind.isRouteEvent = false := by
    cases kind : event.row.kind <;> rw [kind] at cooperative <;> first | rfl | cases cooperative
  have noSnapshot : event.row.kind ≠ .moduleStateSnapshot := by
    intro kind; rw [kind] at cooperative; cases cooperative
  have noCompletion : event.row.kind ≠ .activityCompleted := by
    intro kind; rw [kind] at cooperative; cases cooperative
  have noLoot : event.row.kind ≠ .lootGranted := by
    intro kind; rw [kind] at cooperative; cases cooperative
  have noProgression : event.row.kind ≠ .progressionGranted := by
    intro kind; rw [kind] at cooperative; cases cooperative
  have completed := (completions_journal noCompletion after).trans behind.completed
  have loot := (paid_journal noLoot fragmentQuantity after).trans behind.loot
  have progression :=
    (paid_journal noProgression experienceQuantity after).trans behind.progression
  have rows : cooperationRows (after ++ [event]) =
      reading.chainOf started anchor runner ++ [rowOf event] := by
    rw [cooperationRows_append, if_pos cooperative, behind.rows]
  have closed : ∀ {kind : ReplayEventKind} {participant evidence},
      rowOf event = participantRow started kind participant evidence →
      kind ≠ .cooperationStarted →
      ∀ earlier ∈ after ++ [event], earlier.row.kind.isRouteEvent = false ∧
        earlier.row.kind ≠ .moduleStateSnapshot ∧ earlier.row.kind ≠ .cooperationStarted := by
    intro kind participant evidence row other
    refine List.forall_mem_append.mpr
      ⟨behind.closed, List.forall_mem_singleton.mpr ⟨routeless, noSnapshot, ?_⟩⟩
    have same : event.row.kind = kind := congrArg CooperationRow.kind row
    exact same ▸ other
  cases extends' with
  | nothing plain same =>
      rw [plain] at cooperative
      cases cooperative
  | pinged payload row first valid taken =>
      subst taken
      refine { behind with closed := closed row (by decide), rows := ?_, linked := ?_, completed
                           loot, progression, silent }
      · rw [rows, row]
        simp [chainOf, chain, first, running]
      · constructor
        · rintro _ ⟨⟩
          exact valid
        · intro payload member
          cases first.2.1.symm.trans member
        · intro payload member
          cases first.2.2.symm.trans member
        · intro payload member
          cases running.symm.trans member
  | downed payload pinged row first earlier valid taken =>
      subst taken
      refine { behind with closed := closed row (by decide), rows := ?_, linked := ?_, completed
                           loot, progression, silent }
      · rw [rows, row]
        simp [chainOf, chain, first, running]
      · constructor
        · exact behind.linked.pinged
        · rintro _ ⟨⟩
          exact ⟨pinged, earlier, valid⟩
        · intro payload member
          cases first.2.symm.trans member
        · intro payload member
          cases running.symm.trans member
  | revived payload downed row first earlier valid taken =>
      subst taken
      refine { behind with closed := closed row (by decide), rows := ?_, linked := ?_, completed
                           loot, progression, silent }
      · rw [rows, row]
        simp [chainOf, chain, first, running]
      · constructor
        · exact behind.linked.pinged
        · exact behind.linked.downed
        · rintro _ ⟨⟩
          exact ⟨downed, earlier, valid⟩
        · intro payload member
          cases running.symm.trans member
  | ended payload row valid settled taken =>
      subst taken
      have other : terminalKind payload.outcome ≠ .cooperationStarted := by
        unfold terminalKind
        split <;> decide
      refine { behind with closed := closed row other, rows := ?_, linked := ?_, completed
                           loot, progression, silent }
      · rw [rows, row]
        simp [chainOf, chain, running]
      · constructor
        · exact behind.linked.pinged
        · exact behind.linked.downed
        · exact behind.linked.revived
        · rintro _ ⟨⟩
          exact ⟨valid, settled⟩

theorem noteRoute_started (opened : reading.started = some started)
    (accepted : reading.noteRoute event.row = .ok next) :
    event.row.kind.isRouteEvent = false ∧ next = reading := by
  unfold noteRoute at accepted
  split at accepted
  · simp [opened, rejectIf, bind, Except.bind] at accepted
  · next other =>
      cases accepted
      exact ⟨Bool.eq_false_iff.mpr other, rfl⟩

theorem recordSnapshot_started (opened : reading.started = some started)
    (accepted : reading.recordSnapshot event.row = .ok next) :
    event.row.kind ≠ .moduleStateSnapshot ∧ next = reading := by
  unfold recordSnapshot at accepted
  split at accepted
  · simp [opened, rejectIf, bind, Except.bind] at accepted
  · next other =>
      cases accepted
      exact ⟨other, rfl⟩

/-- Every accepted row behind the start keeps what the reader holds. -/
theorem Behind.step (paired : Paired started anchor runner)
    (behind : Behind started anchor runner after reading)
    (accepted : reading.apply event = .ok next) :
    Behind started anchor runner (after ++ [event]) next := by
  obtain ⟨routed, admitted, noted, counted, first, second, quiet, third, fourth, fifth⟩ :=
    apply_passes accepted
  obtain ⟨routeless, rfl⟩ := noteRoute_started behind.opened first
  obtain ⟨noSnapshot, rfl⟩ := recordSnapshot_started behind.opened second
  have mission : Behind started anchor runner after noted := by
    rw [noteMission_eq_ok third]
    exact ⟨behind.opened, behind.closed, behind.rows, ⟨behind.linked.pinged, behind.linked.downed,
      behind.linked.revived, behind.linked.ended⟩, behind.completed, behind.loot,
      behind.progression, behind.silent⟩
  have same : noted.terminal = admitted.terminal := by rw [noteMission_eq_ok third]
  rw [← same] at quiet
  cases running : noted.terminal with
  | some payload =>
      have hushed : closing event.row.kind = false := quiet (by rw [running]; rfl)
      obtain ⟨plain, unconcluding⟩ := Bool.or_eq_false_iff.mp hushed
      rw [recordGenericEvent_uncounted event.row (Or.inr (by rw [running]; rfl)),
        Except.ok.injEq] at fourth
      subst fourth
      have unmoved : next = noted :=
        (recordCooperationEvent_extends paired mission.opened fifth).plain plain
      subst unmoved
      have noStart : event.row.kind ≠ .cooperationStarted := by
        intro kind; rw [kind] at plain; cases plain
      exact mission.count ⟨routeless, noSnapshot, noStart⟩ plain (fun _ => hushed) (Or.inr rfl)
        (.nothing unconcluding rfl)
  | none =>
      have counts := recordGenericEvent_counts paired mission.opened running fourth
      by_cases cooperative : event.row.kind.isCooperationEvent = true
      · have unmoved : counted = noted := by
          cases counts with
          | nothing _ same => exact same
          | completion kind => rw [kind] at cooperative; cases cooperative
          | loot _ _ kind => rw [kind] at cooperative; cases cooperative
          | progression _ _ kind => rw [kind] at cooperative; cases cooperative
        subst unmoved
        exact mission.record running cooperative
          (recordCooperationEvent_extends paired mission.opened fifth)
      · have plain := Bool.eq_false_iff.mpr cooperative
        have noStart : event.row.kind ≠ .cooperationStarted := by
          intro kind; rw [kind] at plain; cases plain
        have grown := mission.count ⟨routeless, noSnapshot, noStart⟩ plain
          (by rw [running]; intro impossible; cases impossible) (Or.inl running) counts
        have opened : counted.started = some started := grown.opened
        exact (recordCooperationEvent_extends paired opened fifth).plain plain ▸ grown

end Steps

/-! ## The start -/

/-- What the start found: the rows before it, its own row, and its payload. -/
structure Opened (before : List ReplayEvent) (row : CooperationEvent)
    (started : CooperationStartedPayload)
    (anchor runner : ReplayCooperationParticipantEvidence) : Prop where
  row : rowOf row = participantRow started .cooperationStarted anchor (.started started)
  valid : CooperationReplay.validateStartedPayload started = .ok ()
  paired : Paired started anchor runner
  alone : ∀ event ∈ before, event.kind.isCooperationEvent = false ∧
    event.kind.isRouteEvent = false ∧ event.kind ≠ .bossSpawned
  begun : ∃ event ∈ before, event.kind = .activityStarted
  cleared : (ofKind .enemyDied before).length = 1
  recorded : ∀ event ∈ before, event.kind = .moduleStateSnapshot → (admission event).isSome = true
  admitted : admissions before = [(anchor.characterId, admittedEvidence anchor),
    (runner.characterId, admittedEvidence runner)]

/-- Two admissions that agree with both participants, in order, are theirs. -/
theorem admissions_eq_of_validate {snapshots : List (String × SnapshotEvidence)}
    (paired : Paired started anchor runner) (pair : snapshots.length = participantCount)
    (order : ∀ entry ∈ (snapshots.map Prod.fst).zip started.participants,
      entry.1 = entry.2.characterId)
    (agreed : validateAdmission snapshots started.participants = .ok ()) :
    snapshots = [(anchor.characterId, admittedEvidence anchor),
      (runner.characterId, admittedEvidence runner)] := by
  obtain ⟨⟨firstName, firstStored⟩, ⟨secondName, secondStored⟩, rfl⟩ := List.length_eq_two.mp pair
  simp only [paired.both, validateAdmission, bind_eq_ok, exists_unit, require_eq_ok,
    rejectIf_eq_ok, not_not] at agreed
  obtain ⟨anchorStored, anchorFound, rfl, runnerStored, runnerFound, rfl, -⟩ := agreed
  simp only [paired.both, List.map_cons, List.map_nil, List.zip_cons_cons, List.zip_nil_right,
    List.mem_cons, List.not_mem_nil, or_false, forall_eq_or_imp, forall_eq] at order
  obtain ⟨rfl, rfl⟩ := order
  have apart : (runner.characterId == anchor.characterId) = false :=
    beq_false_of_ne paired.characters.symm
  simp only [List.lookup_cons, beq_self_eq_true, Option.some.injEq] at anchorFound
  simp only [List.lookup_cons, apart, beq_self_eq_true, Option.some.injEq] at runnerFound
  rw [anchorFound, runnerFound]

/-- The start is taken over the admissions gathered so far. -/
theorem Gathering.opens {events : List ReplayEvent} (gathering : Gathering events reading)
    (kind : event.row.kind = .cooperationStarted)
    (accepted : reading.recordStarted event = .ok next) :
    ∃ started anchor runner, Opened events event started anchor runner ∧
      Behind started anchor runner [] next := by
  obtain ⟨held, plain, recorded, distinct⟩ := gathering
  simp only [recordStarted, bind_eq_ok, exists_unit, rejectIf_eq_ok, pure_eq_ok, not_or,
    not_not, Bool.not_eq_true] at accepted
  obtain ⟨⟨-, routeless, active⟩, ⟨defeats, unspawned⟩, started, decoded, valid, admitted, rfl⟩ :=
    accepted
  obtain ⟨anchor, runner, paired⟩ := paired_of_validate valid
  simp only [validateStartedEvent, bind_eq_ok, exists_unit, rejectIf_eq_ok, not_or, not_not,
    not_exists, not_and] at admitted
  obtain ⟨identified, ⟨pair, -, order⟩, agreed⟩ := admitted
  rw [held] at routeless active defeats unspawned pair order agreed ⊢
  refine ⟨started, anchor, runner, ?_, ?_⟩
  · constructor
    · refine rowOf_eq kind decoded ?_ paired.anchorOf identified
      intro value viewed
      cases value <;> cases viewed
      rfl
    · exact valid
    · exact paired
    · intro event member
      refine ⟨plain event member, ?_, ?_⟩
      · exact Bool.eq_false_iff.mpr fun route =>
          Bool.eq_false_iff.mp routeless (List.any_eq_true.mpr ⟨event, member, route⟩)
      · exact fun boss => Bool.eq_false_iff.mp unspawned
          (List.any_eq_true.mpr ⟨event, member, decide_eq_true boss⟩)
    · obtain ⟨event, member, begun⟩ := List.any_eq_true.mp (Bool.not_eq_false _ ▸ active)
      exact ⟨event, member, of_decide_eq_true begun⟩
    · exact defeats
    · exact recorded
    · exact admissions_eq_of_validate paired pair order agreed
  · constructor
    · rfl
    · exact fun _ member => absurd member List.not_mem_nil
    · rfl
    · constructor <;> exact fun _ member => absurd member (Option.not_mem_none _)
    · rfl
    · rfl
    · rfl
    · exact List.Pairwise.nil

/-- Where the reader of a cooperation stands after some rows. -/
inductive Stands (events : List CooperationEvent) (reading : CooperationReplayAccumulator) : Prop
  | gathering (gathering : Gathering (journal events) reading)
  | behind (before : List CooperationEvent) (row : CooperationEvent)
      (after : List CooperationEvent) (started : CooperationStartedPayload)
      (anchor runner : ReplayCooperationParticipantEvidence)
      (split : events = before ++ row :: after)
      (opened : Opened (journal before) row started anchor runner)
      (behind : Behind started anchor runner after reading)

theorem Stands.step {events : List CooperationEvent} (stands : Stands events reading)
    (accepted : reading.apply event = .ok next) : Stands (events ++ [event]) next := by
  cases stands with
  | gathering gathering =>
      rcases gathering.step accepted with grown | ⟨kind, begun⟩
      · exact .gathering (by rwa [journal_append])
      · obtain ⟨started, anchor, runner, opened, behind⟩ := gathering.opens kind begun
        exact .behind events event [] started anchor runner rfl opened behind
  | behind before row after started anchor runner split opened behind =>
      refine .behind before row (after ++ [event]) started anchor runner ?_ opened
        (behind.step opened.paired accepted)
      rw [split, List.append_assoc, List.cons_append]

theorem stands_of_readCooperation {events : List CooperationEvent}
    (read : readCooperation events = .ok reading) : Stands events reading :=
  foldlM_history read (.gathering gathering_start)
    (fun _ _ _ _ stands accepted => stands.step accepted)

/-- Counts of nothing leave no row that concludes. -/
theorem Behind.unrewarded {after : List CooperationEvent}
    (behind : Behind started anchor runner after reading)
    (uncounted : reading.activityCompletions = 0 ∧ reading.lootGrants = [] ∧
      reading.progressionGrants = []) :
    ∀ event ∈ journal after, RouteReplayAccumulator.concludes event.kind = false := by
  obtain ⟨completed, loot, progression⟩ := uncounted
  have noCompletion : ofKind .activityCompleted (journal after) = [] := by
    have none := behind.completed
    rw [completed, completions] at none
    exact List.map_eq_nil_iff.mp none
  have noLoot : ofKind .lootGranted (journal after) = [] := by
    have none := behind.loot
    rw [loot, paid] at none
    exact List.map_eq_nil_iff.mp none
  have noProgression : ofKind .progressionGranted (journal after) = [] := by
    have none := behind.progression
    rw [progression, paid] at none
    exact List.map_eq_nil_iff.mp none
  intro event member
  have apart : ∀ kind, ofKind kind (journal after) = [] → event.kind ≠ kind := by
    intro kind empty same
    have kept : event ∈ ofKind kind (journal after) :=
      List.mem_filter.mpr ⟨member, decide_eq_true same⟩
    rw [empty] at kept
    exact absurd kept List.not_mem_nil
  have first := apart _ noCompletion
  have second := apart _ noLoot
  have third := apart _ noProgression
  cases kind : event.kind <;> first | rfl | contradiction

end CooperationReplayAccumulator

/-! ## Accepted journals -/

/-- The state a session ends in, by the outcome of its terminal. -/
def cooperationState : Option TerminalOutcome → ReconstructedCooperationState
  | none => .active
  | some .succeeded => .succeeded
  | some _ => .failed

/-- The anchor completed the activity once, and both, and nobody else, were paid. -/
structure CooperationRewarded (started : CooperationStartedPayload)
    (anchor runner : ReplayCooperationParticipantEvidence) (after : List ReplayEvent) : Prop where
  completed : completions after =
    [(some started.activityId, anchor.participantId, some anchor.actorId)]
  loot : (paid .lootGranted fragmentQuantity after).Perm
    [(anchor.participantId, some anchor.actorId, some successReward.fragments),
      (runner.participantId, some runner.actorId, some successReward.fragments)]
  progression : (paid .progressionGranted experienceQuantity after).Perm
    [(anchor.participantId, some anchor.actorId, some successReward.experience),
      (runner.participantId, some runner.actorId, some successReward.experience)]

/-- An accepted journal around the row that starts its cooperation. -/
structure CooperativeJournal (before : List CooperationEvent) (row : CooperationEvent)
    (after : List CooperationEvent) (started : CooperationStartedPayload)
    (anchor runner : ReplayCooperationParticipantEvidence)
    (result : ReconstructedCooperationReplay) : Prop where
  opened : CooperationReplayAccumulator.Opened (journal before) row started anchor runner
  recorded : result.started = some started
  closed : ∀ event ∈ after, event.row.kind.isRouteEvent = false ∧
    event.row.kind ≠ .moduleStateSnapshot ∧ event.row.kind ≠ .cooperationStarted
  rows : cooperationRows after =
    chain started anchor runner result.pinged result.downed result.revived result.terminal
  built : (result.downed.isSome = true → result.pinged.isSome = true) ∧
    (result.revived.isSome = true → result.downed.isSome = true)
  state : result.state = cooperationState (result.terminal.map CooperationTerminalPayload.outcome)
  silent : after.Pairwise (fun earlier later =>
    endsCooperation earlier.row.kind = true → closing later.row.kind = false)
  rewarded : result.state = .succeeded →
    CooperationRewarded started anchor runner (journal after)
  unrewarded : result.state ≠ .succeeded →
    ∀ event ∈ journal after, RouteReplayAccumulator.concludes event.kind = false

namespace CooperationReplayAccumulator

variable {reading : CooperationReplayAccumulator} {result : ReconstructedCooperationReplay}
variable {started : CooperationStartedPayload}

theorem finish_started (opened : reading.started = some started)
    (finished : reading.finish = .ok result) :
    result = {
        state := cooperationState (reading.terminal.map CooperationTerminalPayload.outcome)
        started := some started, pinged := reading.pinged, downed := reading.downed
        revived := reading.revived, terminal := reading.terminal } ∧
      (reading.terminal = none → reading.activityCompletions = 0 ∧ reading.lootGrants = [] ∧
        reading.progressionGrants = []) := by
  simp only [finish, opened, bind_eq_ok, exists_unit, rejectIf_eq_ok, pure_eq_ok, not_and, not_or,
    not_not] at finished
  obtain ⟨unpaid, rfl⟩ := finished
  refine ⟨?_, unpaid⟩
  cases terminal : reading.terminal.map CooperationTerminalPayload.outcome with
  | none => simp only [cooperationState]
  | some outcome => cases outcome <;> simp only [cooperationState]

end CooperationReplayAccumulator

/-- Every accepted journal holds no cooperation at all, or is split around its
one start: everything of the cooperation stands behind it in order, and the
rewards are those of a success, once, or none. -/
theorem cooperative_journal {events : List CooperationEvent}
    {result : ReconstructedCooperationReplay}
    (accepted : reconstructCooperationReplay events = .ok result) :
    (result.state = .legacy ∧ cooperationRows events = []) ∨
    ∃ before row after started anchor runner, events = before ++ row :: after ∧
      CooperativeJournal before row after started anchor runner result := by
  rw [reconstructCooperationReplay, bind_eq_ok] at accepted
  obtain ⟨reading, read, finished⟩ := accepted
  cases CooperationReplayAccumulator.stands_of_readCooperation read with
  | gathering gathering =>
      left
      rw [gathering.held] at finished
      cases finished
      refine ⟨rfl, ?_⟩
      have none : ∀ event ∈ events, event.row.kind.isCooperationEvent = false := by
        intro event member
        exact gathering.plain event.row (List.mem_map_of_mem member)
      rw [cooperationRows, List.filter_eq_nil_iff.mpr fun event member =>
        Bool.eq_false_iff.mp (none event member), List.map_nil]
  | behind before row after started anchor runner split opened behind =>
      obtain ⟨rfl, unpaid⟩ :=
        CooperationReplayAccumulator.finish_started behind.opened finished
      refine Or.inr ⟨before, row, after, started, anchor, runner, split, ?_⟩
      constructor
      · exact opened
      · rfl
      · exact behind.closed
      · exact behind.rows
      · constructor
        · intro downed
          obtain ⟨payload, found⟩ := Option.isSome_iff_exists.mp downed
          obtain ⟨pinged, earlier, -⟩ := behind.linked.downed payload found
          exact Option.isSome_iff_exists.mpr ⟨pinged, earlier⟩
        · intro revived
          obtain ⟨payload, found⟩ := Option.isSome_iff_exists.mp revived
          obtain ⟨downed, earlier, -⟩ := behind.linked.revived payload found
          exact Option.isSome_iff_exists.mpr ⟨downed, earlier⟩
      · rfl
      · exact behind.silent
      · intro succeeded
        cases terminal : reading.terminal with
        | none => rw [terminal] at succeeded; cases succeeded
        | some payload =>
            have settled := (behind.linked.ended payload terminal).2
            have success : payload.outcome = .succeeded := by
              rw [terminal] at succeeded
              cases outcome : payload.outcome <;> simp [outcome, cooperationState] at succeeded ⊢
            rw [CooperationReplayAccumulator.Settled, if_pos success] at settled
            obtain ⟨completed, loot, progression⟩ := settled
            constructor
            · rw [behind.completed, completed]
              rfl
            · rw [behind.loot]
              exact loot.map grantRow
            · rw [behind.progression]
              exact progression.map grantRow
      · intro unsuccessful
        refine behind.unrewarded ?_
        cases terminal : reading.terminal with
        | none => exact unpaid terminal
        | some payload =>
            have settled := (behind.linked.ended payload terminal).2
            have failure : payload.outcome ≠ .succeeded := by
              intro success
              exact unsuccessful (by rw [terminal]; simp [success, cooperationState])
            rwa [CooperationReplayAccumulator.Settled, if_neg failure] at settled

/-! ## A whole success -/

/-- A participant of a new account. -/
def newcomer (participantId characterId : String) (actorId : Nat) (role : Role)
    (weaponItemId : String) : ReplayCooperationParticipantEvidence :=
  { participantId, characterId, actorId, role, weaponItemId, moduleState := plainEvidence
    admittedHealth := 100 }

def pairAnchor : ReplayCooperationParticipantEvidence :=
  newcomer "anchor-account" "anchor-character" 10 .anchor "pulse_rifle"

def pairRunner : ReplayCooperationParticipantEvidence :=
  newcomer "runner-account" "runner-character" 20 .runner "arc_sidearm"

def pairStart : CooperationStartedPayload :=
  { schemaVersion := 1, activityId := cooperationActivityId
    catalogRevision := Cooperation.catalogRevision, startOperationId := "coop-start-1"
    participants := [pairAnchor, pairRunner], anchorTarget := CooperationReplay.targets.1
    runnerTarget := CooperationReplay.targets.2, timing := CooperationReplay.timing
    reward := CooperationReplay.reward }

def pairPing : CooperationPingedPayload :=
  { schemaVersion := 1, catalogRevision := Cooperation.catalogRevision
    startOperationId := "coop-start-1", anchorElapsedMs := 500, pingOperationId := "coop-ping-1"
    sourceParticipantId := "anchor-account", sourceActorId := 10, target := .relayConsole
    pingElapsedMs := 1000, expiresElapsedMs := 6000 }

def pairDowning : PlayerDownedPayload :=
  { schemaVersion := 1, catalogRevision := Cooperation.catalogRevision
    startOperationId := "coop-start-1", participantId := "runner-account", actorId := 20
    role := .runner, target := .relayConsole, runnerElapsedMs := 4000, hazard := .relayFeedback
    healthBefore := 100, damage := 100, healthAfter := 0, lifeBefore := .active
    lifeAfter := .downed }

def pairRevive : PlayerRevivedPayload :=
  { schemaVersion := 1, catalogRevision := Cooperation.catalogRevision
    startOperationId := "coop-start-1", reviveOperationId := "coop-revive-1"
    sourceParticipantId := "anchor-account", sourceActorId := 10
    targetParticipantId := "runner-account", targetActorId := 20, targetRole := .runner
    reviveStartedElapsedMs := 5000, reviveCompletedElapsedMs := 7000, channelDurationMs := 2000
    maximumDistanceSquared := 4, healthBefore := 0, healthAfter := 50, lifeBefore := .downed
    lifeAfter := .active, reviveCount := 1 }

def pairSuccess : CooperationTerminalPayload :=
  { schemaVersion := 1, catalogRevision := Cooperation.catalogRevision
    startOperationId := "coop-start-1", lastNonterminalPhase := .encounterActive
    contributions :=
      { anchorArrived := true, anchorElapsedMs := some 500, pinged := true
        pingOperationId := some "coop-ping-1", pingElapsedMs := some 1000, runnerArrived := true
        runnerElapsedMs := some 4000, downedElapsedMs := some 4000
        reviveOperationId := some "coop-revive-1", reviveStartedElapsedMs := some 5000
        revived := true, reviveCompletedElapsedMs := some 7000, reviveCount := 1
        wardenCompleted := true, wardenElapsedMs := some 12000 }
    participants :=
      [{ participantId := "anchor-account", characterId := "anchor-character", actorId := 10
         role := .anchor, currentHealth := 100, life := .active },
       { participantId := "runner-account", characterId := "runner-character", actorId := 20
         role := .runner, currentHealth := 50, life := .active }]
    outcome := .succeeded, subjectRole := none, terminalElapsedMs := 12000
    grants := [CooperationReplay.grantOf pairAnchor, CooperationReplay.grantOf pairRunner] }

/-- A row of one of the two, with evidence of the given length. -/
def pairRow (id : Int) (kind : ReplayEventKind)
    (participant : ReplayCooperationParticipantEvidence) (payload : Payload)
    (evidence : Encoded CooperationReplayPayload) : CooperationEvent :=
  { row :=
      { id, kind, sessionId := "coop-session", accountId := participant.participantId
        activityId := some cooperationActivityId, actorId := some participant.actorId, payload }
    evidence }

/-- A row whose text is no cooperation evidence. -/
def pairText (id : Int) (kind : ReplayEventKind)
    (participant : ReplayCooperationParticipantEvidence) (text : String) : CooperationEvent :=
  pairRow id kind participant (.text text) { value := none, length := text.utf8ByteSize }

def pairSnapshot (id : Int) (participant : ReplayCooperationParticipantEvidence) :
    CooperationEvent :=
  pairRow id .moduleStateSnapshot participant (.module
      { value := some (.stateSnapshot
          { schemaVersion := 1, characterId := participant.characterId
            protocolGeneration := .v2, state := participant.moduleState })
        length := 1800 })
    { value := none, length := 1800 }

/-- Everything in its order, to the rewards of both and the end. -/
def pairJournal : List CooperationEvent :=
  [pairSnapshot 2 pairAnchor, pairSnapshot 4 pairRunner,
   pairText 5 .activityStarted pairAnchor "activity started",
   pairText 6 .enemyDied pairAnchor "enemy died: relay_drone",
   pairRow 7 .cooperationStarted pairAnchor (.text "")
     { value := some (.started pairStart), length := 4600 },
   pairRow 8 .cooperationPinged pairAnchor (.text "")
     { value := some (.pinged pairPing), length := 307 },
   pairRow 9 .playerDowned pairRunner (.text "")
     { value := some (.downed pairDowning), length := 354 },
   pairRow 10 .playerRevived pairRunner (.text "")
     { value := some (.revived pairRevive), length := 543 },
   pairText 11 .activityCompleted pairAnchor "activity completed",
   pairText 12 .lootGranted pairAnchor "loot granted: relay_core_fragment x2 (total 2)",
   pairText 13 .progressionGranted pairAnchor
     "progression granted: +125 XP (total 125, level 1 -> 1)",
   pairText 14 .lootGranted pairRunner "loot granted: relay_core_fragment x2 (total 2)",
   pairText 15 .progressionGranted pairRunner
     "progression granted: +125 XP (total 125, level 1 -> 1)",
   pairRow 16 .cooperationSucceeded pairAnchor (.text "")
     { value := some (.terminal pairSuccess), length := 1400 }]

theorem pairJournal_succeeds :
    (reconstructCooperationReplay pairJournal).toOption.map (fun result =>
      (result.state, result.terminal)) = some (.succeeded, some pairSuccess) := by
  decide +kernel

theorem cooperative_journal_pair :
    ∃ result, reconstructCooperationReplay pairJournal = .ok result ∧
      result.state = .succeeded ∧ ∃ before row after started anchor runner,
        pairJournal = before ++ row :: after ∧
        CooperativeJournal before row after started anchor runner result := by
  have succeeds := pairJournal_succeeds
  cases accepted : reconstructCooperationReplay pairJournal with
  | error failure => rw [accepted] at succeeds; cases succeeds
  | ok result =>
      rw [accepted] at succeeds
      have state : result.state = .succeeded :=
        congrArg Prod.fst (Option.some.inj succeeds)
      refine ⟨result, rfl, state, ?_⟩
      rcases cooperative_journal accepted with ⟨legacy, -⟩ | split
      · rw [state] at legacy
        cases legacy
      · exact split

end Replay
end Revenant
