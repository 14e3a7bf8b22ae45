import Revenant.Cooperation.Invariant

namespace Revenant
namespace Cooperation

open Library

/-!
# The times of a cooperation

`Told` says what the log of a run holds in every phase: the contributions so far,
their times within the deadlines, and the open channel with everything since it
opened.  A success tells the whole story.  Deadlines are noticed lazily, so the
second half compares a run with the same run polled in between: `Drift` allows
the polled one to be ahead by one noticed deadline, which the other notices at
its next operation.
-/

/-- An operation with its result. -/
abbrev Entry : Type := Operation × Except CooperationError MutationDisposition

/-- The operations that contributed. -/
def applied (entries : List Entry) : List Operation :=
  entries.filterMap (fun entry => if entry.2 = .ok .applied then some entry.1 else none)

def opensChannel : Operation → Bool
  | .startRevive .anchor .runner _ _ _ => true
  | _ => false

/-- An observation of the channel with that identifier from out of its range. -/
def outOfRange (operationId : String) : Operation → Bool
  | .observeRevive .anchor .runner distanceSquared observed _ =>
      decide (observed = operationId) && decide (maxReviveDistanceSquared < distanceSquared)
  | _ => false

/-! ## Deadlines -/

theorem within_of_isStrictlyAfter {elapsedMs startMs durationMs : Nat}
    (within : isStrictlyAfter elapsedMs startMs durationMs = false) :
    elapsedMs ≤ startMs + durationMs := by
  simp only [isStrictlyAfter, Bool.or_eq_false_iff, decide_eq_false_iff_not, Nat.not_lt] at within
  exact within.2

theorem isStrictlyAfter_mono {first second startMs durationMs : Nat} (later : first ≤ second)
    (after : isStrictlyAfter first startMs durationMs = true) :
    isStrictlyAfter second startMs durationMs = true := by
  simp only [isStrictlyAfter, Bool.or_eq_true, decide_eq_true_eq] at after ⊢
  omega

variable {state : CooperationState} {elapsedMs : Nat}

namespace Timely

theorem operation (timely : Timely state elapsedMs) : elapsedMs ≤ operationDurationMs := by
  have undue := timely.undue
  simp only [CooperationState.overdue, Option.or_eq_none_iff, ite_eq_right_iff, reduceCtorEq,
    imp_false, Nat.not_lt, gt_iff_lt] at undue
  exact undue.2

theorem ping (timely : Timely state elapsedMs) (phase : state.phase = .awaitingRunner)
    {record : OperationRecord} (pinged : state.ping = some record) :
    elapsedMs ≤ record.acceptedElapsedMs + pingTtlMs := by
  have undue := timely.undue
  simp only [CooperationState.overdue, phase, pinged, Option.or_eq_none_iff, ite_eq_right_iff,
    reduceCtorEq, imp_false, Option.mem_def, Option.some.injEq, exists_eq_left',
    Bool.not_eq_true] at undue
  exact within_of_isStrictlyAfter undue.1

theorem revive (timely : Timely state elapsedMs) (down : state.phase.isDown = true)
    {downedAt : Nat} (downed : state.downedElapsedMs = some downedAt) :
    elapsedMs ≤ downedAt + reviveWindowMs := by
  have undue := timely.undue
  cases phase : state.phase with
  | runnerDowned | reviveChannel =>
      simp only [CooperationState.overdue, phase, downed, Option.or_eq_none_iff, ite_eq_right_iff,
        reduceCtorEq, imp_false, Option.mem_def, Option.some.injEq, exists_eq_left',
        Bool.not_eq_true] at undue
      exact within_of_isStrictlyAfter undue.1
  | awaitingAnchor | awaitingPing | awaitingRunner | encounterActive | succeeded | failed =>
      rw [phase] at down
      cases down

end Timely

/-- What is overdue stays overdue. -/
theorem overdue_mono {first second : Nat} (later : first ≤ second)
    (due : state.overdue first ≠ none) : state.overdue second ≠ none := by
  intro undue
  apply due
  simp only [CooperationState.overdue, Option.or_eq_none_iff] at undue ⊢
  obtain ⟨stage, total⟩ := undue
  refine ⟨?_, ?_⟩
  · split
    · next phase =>
        rw [phase] at stage
        simp only [ite_eq_right_iff, reduceCtorEq, imp_false] at stage ⊢
        rintro ⟨record, pinged, after⟩
        exact stage ⟨record, pinged, isStrictlyAfter_mono later after⟩
    · next phase =>
        rw [phase] at stage
        simp only [ite_eq_right_iff, reduceCtorEq, imp_false] at stage ⊢
        rintro ⟨downedAt, downed, after⟩
        exact stage ⟨downedAt, downed, isStrictlyAfter_mono later after⟩
    · next phase =>
        rw [phase] at stage
        simp only [ite_eq_right_iff, reduceCtorEq, imp_false] at stage ⊢
        rintro ⟨downedAt, downed, after⟩
        exact stage ⟨downedAt, downed, isStrictlyAfter_mono later after⟩
    · rfl
  · simp only [ite_eq_right_iff, reduceCtorEq, imp_false, gt_iff_lt] at total ⊢
    omega

variable {operation : Operation}

/-- An operation at an overdue time notices the deadline. -/
theorem perform_overdue {outcome : TerminalOutcome} (live : state.terminal = none)
    (timed : operation.elapsedMs = some elapsedMs) (due : state.overdue elapsedMs = some outcome) :
    (perform operation state).1 = .error (.deadlineExpired outcome) ∧
      (perform operation state).2 = state.committed outcome := by
  let post : Except CooperationError MutationDisposition → CooperationState → Prop :=
    fun result next => result = .error (.deadlineExpired outcome) ∧ next = state.committed outcome
  have noticed : ∀ rest : MutationDisposition → Operate MutationDisposition,
      Call.Sat (observeDeadlines elapsedMs >>= rest) state post := by
    intro rest
    apply sat_observe_bind
    · intro other isOver
      rw [live] at isOver
      cases isOver
    · intro other _ found
      obtain rfl : outcome = other := Option.some.inj (due.symm.trans found)
      exact ⟨rfl, rfl⟩
    · intro timely
      rw [timely.undue] at due
      cases due
  cases operation with
  | retryStart operationId anchor runner anchorHealth runnerHealth => cases timed
  | observeDeadlines time =>
      cases timed
      exact (Call.sat_of_bind_pure (noticed pure))
  | completeWarden time =>
      cases timed
      change Call.Sat (completeWarden elapsedMs) state post
      apply Call.sat_check_bind
      · exact fun failure impossible => nomatch impossible
      intro finished asked
      cases asked
      rw [live]
      exact noticed _
  | disconnect role time =>
      cases timed
      change Call.Sat (disconnect role elapsedMs) state post
      apply Call.sat_check_bind
      · exact fun failure impossible => nomatch impossible
      intro gone asked
      cases asked
      rw [live]
      exact noticed _
  | arriveAnchor | ping | arriveRunner | startRevive | observeRevive | defeatParticipant =>
      cases timed
      exact noticed _

/-! ## What the log tells -/

/-- The contributions up to the downing. -/
def opening (anchorAt : Nat) (pingId : String) (pingAt downedAt : Nat) : List Operation :=
  [.arriveAnchor .anchor .relayAnchor anchorAt, .ping .anchor .relayConsole pingId pingAt,
    .arriveRunner .runner .relayConsole downedAt]

/-- The runner was downed in time, and since then only channels were opened. -/
def Downed (operations : List Operation) (downedAt : Nat) : Prop :=
  ∃ anchorAt pingId pingAt channels,
    operations = opening anchorAt pingId pingAt downedAt ++ channels ∧
      (∀ operation ∈ channels, opensChannel operation = true) ∧ downedAt ≤ pingAt + pingTtlMs

def startOf (distanceSquared : Int) (record : OperationRecord) : Operation :=
  .startRevive .anchor .runner distanceSquared record.operationId record.acceptedElapsedMs

/-- The channel of `record` opened in the log, and nobody was seen outside since. -/
def Window (entries : List Entry) (distanceSquared : Int) (record : OperationRecord) : Prop :=
  ∃ front window, entries = front ++ (startOf distanceSquared record, .ok .applied) :: window ∧
    ∀ entry ∈ window, outOfRange record.operationId entry.1 = false

/-- The revive that `operations` end with. -/
def Revival (entries : List Entry) (operations : List Operation) : Prop :=
  ∃ before downedAt distanceSquared record lastDistance revivedAt front rest,
    operations = before ++ [startOf distanceSquared record,
      .observeRevive .anchor .runner lastDistance record.operationId revivedAt] ∧
    Downed before downedAt ∧ revivedAt ≤ downedAt + reviveWindowMs ∧
    record.acceptedElapsedMs + reviveChannelMs ≤ revivedAt ∧
    entries = front ++
      (.observeRevive .anchor .runner lastDistance record.operationId revivedAt, .ok .applied) ::
        rest ∧
    Window front distanceSquared record

inductive Told (entries : List Entry) (state : CooperationState) : Prop
  | begun (phase : state.phase = .awaitingAnchor) (story : applied entries = [])
  | arrived {anchorAt : Nat} (phase : state.phase = .awaitingPing)
      (story : applied entries = [.arriveAnchor .anchor .relayAnchor anchorAt])
  | pinged {anchorAt : Nat} {record : OperationRecord} (phase : state.phase = .awaitingRunner)
      (ping : state.ping = some record)
      (story : applied entries = [.arriveAnchor .anchor .relayAnchor anchorAt,
        .ping .anchor .relayConsole record.operationId record.acceptedElapsedMs])
  | downed {downedAt : Nat} (phase : state.phase = .runnerDowned)
      (downed : state.downedElapsedMs = some downedAt) (story : Downed (applied entries) downedAt)
  | channel {downedAt : Nat} {record : OperationRecord} {distanceSquared : Int}
      {before : List Operation} (phase : state.phase = .reviveChannel)
      (downed : state.downedElapsedMs = some downedAt) (channel : state.reviveChannel = some record)
      (plain : plainOperationId record.operationId = true)
      (story : applied entries = before ++ [startOf distanceSquared record])
      (opened : Downed before downedAt) (window : Window entries distanceSquared record)
  | revived (phase : state.phase = .encounterActive) (story : Revival entries (applied entries))
  | completed {before : List Operation} {completedAt : Nat} (phase : state.phase = .succeeded)
      (story : applied entries = before ++ [.completeWarden completedAt])
      (timely : completedAt ≤ operationDurationMs) (revival : Revival entries before)
  | failed (phase : state.phase = .failed)

theorem applied_snoc (entries : List Entry) (operation : Operation) :
    applied (entries ++ [(operation, .ok .applied)]) = applied entries ++ [operation] := by
  simp only [applied, List.filterMap_append, List.filterMap_cons, if_true, List.filterMap_nil]

theorem applied_other (entries : List Entry) (operation : Operation)
    {result : Except CooperationError MutationDisposition} (other : result ≠ .ok .applied) :
    applied (entries ++ [(operation, result)]) = applied entries := by
  simp only [applied, List.filterMap_append, List.filterMap_cons, if_neg other, List.filterMap_nil,
    List.append_nil]

theorem Downed.snoc {operations : List Operation} {downedAt : Nat}
    (downed : Downed operations downedAt) (opens : opensChannel operation = true) :
    Downed (operations ++ [operation]) downedAt := by
  obtain ⟨anchorAt, pingId, pingAt, channels, rfl, channelled, inTime⟩ := downed
  refine ⟨anchorAt, pingId, pingAt, channels ++ [operation], List.append_assoc _ _ _, ?_, inTime⟩
  intro next member
  rcases List.mem_append.mp member with earlier | last
  · exact channelled next earlier
  · rw [List.mem_singleton.mp last]
    exact opens

variable {entries : List Entry} {record : OperationRecord}

theorem Window.snoc {distanceSquared : Int} {entry : Entry}
    (window : Window entries distanceSquared record)
    (inside : outOfRange record.operationId entry.1 = false) :
    Window (entries ++ [entry]) distanceSquared record := by
  obtain ⟨front, since, rfl, seen⟩ := window
  refine ⟨front, since ++ [entry], by simp only [List.append_assoc, List.cons_append], ?_⟩
  intro next member
  rcases List.mem_append.mp member with earlier | last
  · exact seen next earlier
  · rw [List.mem_singleton.mp last]
    exact inside

theorem Revival.snoc {operations : List Operation} (revival : Revival entries operations)
    (entry : Entry) : Revival (entries ++ [entry]) operations := by
  obtain ⟨before, downedAt, distance, record, last, revivedAt, front, rest, story, downed, inTime,
    held, rfl, window⟩ := revival
  exact ⟨before, downedAt, distance, record, last, revivedAt, front, rest ++ [entry], story, downed,
    inTime, held, by simp only [List.append_assoc, List.cons_append], window⟩

/-! ## One operation -/

/-- A reading from outside the range of the open channel says so. -/
theorem readChannel_outside {distanceSquared : Int} (phase : state.phase = .reviveChannel)
    (channel : state.reviveChannel = some record) (fresh : state.completedReviveOperationId = none)
    (plain : plainOperationId record.operationId = true)
    (far : maxReviveDistanceSquared < distanceSquared) :
    readChannel state .anchor .runner distanceSquared record.operationId elapsedMs =
      .ok .outside := by
  have positive : ¬ distanceSquared < 0 := by
    unfold maxReviveDistanceSquared at far
    omega
  simp only [readChannel, bind_eq_ok, exists_unit, requireReviveAuthority_eq_ok,
    CooperationState.requirePhase_eq_ok, validateOperationId, rejectIf_eq_ok, plain, fresh,
    reduceCtorEq, if_false, phase, require_eq_ok, channel, true_and, not_false_eq_true, ne_eq,
    not_true_eq_false, positive, if_pos far, Bool.true_eq_false, Option.some.injEq, exists_eq_left',
    gt_iff_lt]
  rfl

/-- A far observation of the open channel closes it, unless a deadline came first. -/
theorem perform_outside (kept : Kept .reviveChannel state) (live : state.terminal = none)
    (phase : state.phase = .reviveChannel) (channel : state.reviveChannel = some record)
    (plain : plainOperationId record.operationId = true)
    (outside : outOfRange record.operationId operation = true) :
    (perform operation state).1 = .ok .cancelled ∨
      ∃ outcome, (perform operation state).1 = .error (.deadlineExpired outcome) := by
  have fresh : state.completedReviveOperationId = none := Option.isSome_eq_false_iff.mp kept.revived
    |> Option.isNone_iff_eq_none.mp
  unfold outOfRange at outside
  split at outside
  · next distance observed time =>
      rw [Bool.and_eq_true, decide_eq_true_eq, decide_eq_true_eq] at outside
      obtain ⟨rfl, far⟩ := outside
      change Call.Sat (observeRevive .anchor .runner distance record.operationId time) state
        (fun result _ => result = .ok .cancelled ∨
          ∃ outcome, result = .error (.deadlineExpired outcome))
      apply sat_observe_bind
      · intro outcome isOver
        rw [live] at isOver
        cases isOver
      · exact fun outcome _ _ => Or.inr ⟨outcome, rfl⟩
      intro _
      apply Call.sat_check_bind
      · intro failure refused
        rw [readChannel_outside phase channel fresh plain far] at refused
        cases refused
      · intro reading read
        rw [readChannel_outside phase channel fresh plain far] at read
        cases read
        exact Call.sat_update_bind (Call.sat_pure (Or.inl rfl))
  · cases outside

/-- An answer that changes nothing lengthens the log without a contribution. -/
theorem told_same {result : Except CooperationError MutationDisposition} (told : Told entries state)
    (other : result ≠ .ok .applied)
    (inside : ∀ record, state.phase = .reviveChannel → state.reviveChannel = some record →
      plainOperationId record.operationId = true →
      outOfRange record.operationId operation = false) :
    Told (entries ++ [(operation, result)]) state := by
  have story := applied_other entries operation other
  cases told with
  | begun phase empty => exact Told.begun phase (story.trans empty)
  | arrived phase told => exact Told.arrived phase (story.trans told)
  | pinged phase ping told => exact Told.pinged phase ping (story.trans told)
  | downed phase downed told => exact Told.downed phase downed (story ▸ told)
  | channel phase downed channel plain told opened window =>
      exact Told.channel phase downed channel plain (story.trans told) opened
        (window.snoc (inside _ phase channel plain))
  | revived phase told => exact Told.revived phase (story ▸ told.snoc _)
  | completed phase told timely revival =>
      exact Told.completed phase (story.trans told) timely (revival.snoc _)
  | failed phase => exact Told.failed phase

theorem Told.failed_of_committed {outcome : TerminalOutcome} (other : outcome ≠ .succeeded) :
    Told entries (state.committed outcome) := by
  rw [committed_failed other]
  exact Told.failed rfl

/-- Every operation lengthens the story by what it did. -/
theorem told_step {left : Phase} (kept : Kept left state) (told : Told entries state)
    (operation : Operation) :
    Told (entries ++ [(operation, (perform operation state).1)]) (perform operation state).2 := by
  have clean := (kept_step kept (perform_step operation state)).2
  -- A far observation answers `cancelled` or fails on a deadline, so an answer
  -- that leaves the channel open was no far observation.
  have inside : (∀ outcome, (perform operation state).1 ≠ .error (.deadlineExpired outcome)) →
      (perform operation state).1 ≠ .ok .cancelled → ∀ record, state.phase = .reviveChannel →
        state.reviveChannel = some record → plainOperationId record.operationId = true →
        outOfRange record.operationId operation = false := by
    intro undue uncancelled record phase channel plain
    by_contra outside
    rw [Bool.not_eq_false] at outside
    have live : state.terminal = none := by
      have standing := kept.standing
      rw [phase] at standing
      generalize state.terminal = terminal at standing ⊢
      cases standing
      rfl
    rcases perform_outside (kept.at live phase) live phase channel plain outside with
      cancelled | ⟨outcome, late⟩
    · exact uncancelled cancelled
    · exact undue outcome late
  have step := perform_step operation state
  generalize (perform operation state).1 = result at *
  generalize (perform operation state).2 = next at *
  cases step with
  | refused ordinary =>
      refine told_same told (fun impossible => nomatch impossible) (inside ?_ ?_)
      · rintro outcome ⟨⟩
        cases ordinary
      · exact fun impossible => nomatch impossible
  | replayed | pending =>
      exact told_same told (by decide)
        (inside (fun _ impossible => nomatch impossible) (by decide))
  | expired live timed due => exact Told.failed_of_committed (overdue_outcome due)
  | runnerFallen | pairFallen | overflowed | unfinished => exact absurd (clean _ rfl) (by decide)
  | @anchored _ elapsedMs timely phase =>
      cases told with
      | begun _ story =>
          have longer := applied_snoc entries (.arriveAnchor .anchor .relayAnchor elapsedMs)
          rw [story] at longer
          exact Told.arrived rfl longer
      | _ => simp_all
  | @pinged _ operationId elapsedMs timely phase =>
      cases told with
      | arrived _ story =>
          have longer := applied_snoc entries
            (.ping .anchor .relayConsole operationId elapsedMs)
          rw [story] at longer
          exact Told.pinged rfl rfl longer
      | _ => simp_all
  | downed timely phase =>
      cases told with
      | @pinged anchorAt record _ ping story =>
          refine Told.downed rfl rfl ?_
          rw [applied_snoc, story]
          exact ⟨anchorAt, record.operationId, record.acceptedElapsedMs, [], rfl,
            fun _ member => absurd member List.not_mem_nil, timely.ping phase ping⟩
      | _ => simp_all
  | @channelled _ distanceSquared operationId elapsedMs timely phase plain fresh =>
      cases told with
      | downed _ downed story =>
          refine Told.channel rfl downed rfl plain (applied_snoc _ _) story ?_
          exact ⟨entries, [], rfl, fun _ member => absurd member List.not_mem_nil⟩
      | _ => simp_all
  | cancelled timely phase =>
      cases told with
      | channel _ downed channel plain story opened window =>
          refine Told.downed rfl downed ?_
          rw [applied_other _ _ (by decide), story]
          exact opened.snoc rfl
      | _ => simp_all
  | @revived _ distanceSquared record elapsedMs timely phase channel held counted =>
      cases told with
      | @channel downedAt recorded distance before _ downed recordedChannel plain story opened window =>
          obtain rfl : record = recorded :=
            Option.some.inj (channel.symm.trans recordedChannel)
          refine Told.revived rfl ?_
          rw [applied_snoc, story]
          exact ⟨before, downedAt, distance, record, distanceSquared, elapsedMs, entries, [],
            List.append_assoc _ _ _, opened, timely.revive (by rw [phase]; rfl) downed, held, rfl,
            window⟩
      | _ => simp_all
  | completed timely phase complete =>
      cases told with
      | revived _ story =>
          exact Told.completed rfl (applied_snoc _ _) timely.operation (story.snoc _)
      | _ => simp_all
  | defeated | disconnected => exact Told.failed_of_committed (by decide)

/-! ## A whole success -/

/-- The times of a successful cooperation. -/
structure Timeline where
  anchorAt : Nat
  pingId : String
  pingAt : Nat
  downedAt : Nat
  cancelled : List Operation
  distanceSquared : Int
  reviveId : String
  openedAt : Nat
  lastDistance : Int
  revivedAt : Nat
  completedAt : Nat

namespace Timeline

def open' (timeline : Timeline) : Operation :=
  .startRevive .anchor .runner timeline.distanceSquared timeline.reviveId timeline.openedAt

def close (timeline : Timeline) : Operation :=
  .observeRevive .anchor .runner timeline.lastDistance timeline.reviveId timeline.revivedAt

/-- The contributions in their order, with the channels that were cancelled. -/
def operations (timeline : Timeline) : List Operation :=
  opening timeline.anchorAt timeline.pingId timeline.pingAt timeline.downedAt ++
    timeline.cancelled ++ [timeline.open', timeline.close, .completeWarden timeline.completedAt]

/-- The log of a success: nothing else contributed, every deadline was met, and
from the opening of the last channel to its end nobody was seen outside. -/
structure Tells (timeline : Timeline) (entries : List Entry) : Prop where
  order : applied entries = timeline.operations
  cancelled : ∀ operation ∈ timeline.cancelled, opensChannel operation = true
  ping : timeline.downedAt ≤ timeline.pingAt + pingTtlMs
  revive : timeline.revivedAt ≤ timeline.downedAt + reviveWindowMs
  channel : timeline.openedAt + reviveChannelMs ≤ timeline.revivedAt
  warden : timeline.completedAt ≤ operationDurationMs
  window : ∃ front window rest, entries =
      front ++ (timeline.open', .ok .applied) ::
        (window ++ (timeline.close, .ok .applied) :: rest) ∧
    ∀ entry ∈ window, outOfRange timeline.reviveId entry.1 = false

end Timeline

theorem tells_of_told (told : Told entries state) (succeeded : state.phase = .succeeded) :
    ∃ timeline : Timeline, timeline.Tells entries := by
  cases told with
  | @completed before completedAt _ story timely revival =>
      obtain ⟨first, downedAt, distance, record, last, revivedAt, front, rest, rfl,
        ⟨anchorAt, pingId, pingAt, channels, rfl, channelled, inTime⟩, revive, held, rfl,
        older, window, rfl, seen⟩ := revival
      refine ⟨⟨anchorAt, pingId, pingAt, downedAt, channels, distance, record.operationId,
        record.acceptedElapsedMs, last, revivedAt, completedAt⟩, ?_⟩
      constructor
      case order =>
        rw [story]
        simp only [List.append_assoc]
        rfl
      case cancelled => exact channelled
      case ping => exact inTime
      case revive => exact revive
      case channel => exact held
      case warden => exact timely
      case window =>
        refine ⟨older, window, rest, ?_, seen⟩
        simp only [List.append_assoc, List.cons_append]
        rfl
  | _ => simp_all

theorem told_log {state : CooperationState} (started : Started state) (operations : List Operation) :
    Told (Call.log perform operations state) (Call.final perform operations state) := by
  obtain ⟨kept, phase⟩ := kept_of_started started
  have both : (∃ left, Kept left (Call.final perform operations state)) ∧
      Told (Call.log perform operations state) (Call.final perform operations state) := by
    apply Call.log_keeps (fun entries state => (∃ left, Kept left state) ∧ Told entries state)
    · exact ⟨⟨_, kept⟩, Told.begun phase rfl⟩
    · rintro entries operation state ⟨⟨left, kept⟩, told⟩
      exact ⟨⟨_, (kept_step kept (perform_step operation state)).1⟩, told_step kept told operation⟩
  exact both.2

/-! ## Polling in between -/

/-- `polled` is `operations` with observations of the deadlines in between. -/
inductive Polled : List Operation → List Operation → Prop
  | nil : Polled [] []
  | keep {operations polled : List Operation} (operation : Operation)
      (rest : Polled operations polled) : Polled (operation :: operations) (operation :: polled)
  | poll {operations polled : List Operation} (elapsedMs : Nat)
      (rest : Polled operations polled) :
      Polled operations (.observeDeadlines elapsedMs :: polled)

/-- The times of the operations that carry one. -/
def instants (operations : List Operation) : List Nat := operations.filterMap Operation.elapsedMs

def NonDecreasing (operations : List Operation) : Prop :=
  (instants operations).Pairwise (· ≤ ·)

instance (operations : List Operation) : Decidable (NonDecreasing operations) :=
  inferInstanceAs (Decidable ((instants operations).Pairwise (· ≤ ·)))

/-- A result that reports an expired deadline. -/
def missed (entry : Entry) : Prop := ∃ outcome, entry.2 = .error (.deadlineExpired outcome)

/-- No operation is earlier than `since`. -/
def After (since : Nat) (operations : List Operation) : Prop :=
  ∀ operation ∈ operations, ∀ elapsedMs, operation.elapsedMs = some elapsedMs → since ≤ elapsedMs

variable {since : Nat} {rest : List Operation}

theorem After.tail (after : After since (operation :: rest)) : After since rest :=
  fun next member => after next (List.mem_cons_of_mem _ member)

theorem NonDecreasing.tail (ordered : NonDecreasing (operation :: rest)) : NonDecreasing rest := by
  unfold NonDecreasing instants at ordered ⊢
  rw [List.filterMap_cons] at ordered
  split at ordered
  · exact ordered
  · exact (List.pairwise_cons.mp ordered).2

theorem NonDecreasing.after (ordered : NonDecreasing (operation :: rest))
    (timed : operation.elapsedMs = some since) : After since rest := by
  unfold NonDecreasing instants at ordered
  rw [List.filterMap_cons_some timed, List.pairwise_cons] at ordered
  intro next member elapsedMs nextTimed
  exact ordered.1 elapsedMs (List.mem_filterMap.mpr ⟨next, member, nextTimed⟩)

variable {polled : List Operation}

theorem Polled.after {operations : List Operation} (between : Polled operations polled)
    (after : After since polled) : After since operations := by
  induction between with
  | nil => exact after
  | keep operation rest inductionHypothesis =>
      intro next member
      rcases List.mem_cons.mp member with rfl | later
      · exact after next List.mem_cons_self
      · exact inductionHypothesis after.tail next later
  | poll elapsedMs rest inductionHypothesis => exact inductionHypothesis after.tail

/-- A poll changes nothing, or notices a deadline. -/
theorem poll_cases (state : CooperationState) (elapsedMs : Nat) :
    (perform (.observeDeadlines elapsedMs) state).2 = state ∨
      ∃ outcome, state.terminal = none ∧ state.overdue elapsedMs = some outcome ∧
        (perform (.observeDeadlines elapsedMs) state).2 = state.committed outcome := by
  by_cases live : state.terminal = none
  · cases due : state.overdue elapsedMs with
    | none =>
        left
        have timely : Call.Sat (observeDeadlines elapsedMs) state (fun _ next => next = state) := by
          apply Call.sat_of_bind_pure
          apply sat_observe_bind
          · exact fun _ _ => rfl
          · intro outcome _ found
            rw [due] at found
            cases found
          · exact fun _ => rfl
        exact timely
    | some outcome => exact Or.inr ⟨outcome, live, rfl, (perform_overdue live rfl due).2⟩
  · exact Or.inl (step_over (perform_step _ state) live)

/-- Nothing after a finished operation changes it. -/
theorem final_over {operations : List Operation} (isOver : state.terminal ≠ none) :
    Call.final perform operations state = state := by
  apply Call.final_keeps (· = state) ?_ operations rfl
  rintro operation next rfl
  exact step_over (perform_step operation _) isOver

theorem committed_over (state : CooperationState) (outcome : TerminalOutcome) :
    (state.committed outcome).terminal ≠ none :=
  fun impossible => nomatch impossible

/-- An overdue cooperation does not succeed any more. -/
theorem final_overdue {operations : List Operation} (live : state.terminal = none)
    (due : state.overdue since ≠ none) (after : After since operations) :
    (Call.final perform operations state).terminal ≠ some .succeeded := by
  induction operations with
  | nil =>
      rw [Call.final_nil, live]
      decide
  | cons operation rest inductionHypothesis =>
      rw [Call.final_cons]
      cases timed : operation.elapsedMs with
      | none =>
          cases operation <;> cases timed
          exact inductionHypothesis after.tail
      | some elapsedMs =>
          have late := overdue_mono (after operation List.mem_cons_self elapsedMs timed) due
          obtain ⟨outcome, found⟩ := Option.ne_none_iff_exists'.mp late
          rw [(perform_overdue live timed found).2, final_over (committed_over state outcome)]
          exact fun succeeded => overdue_outcome found (Option.some.inj succeeded)

/-- Polls do not decide whether a run succeeds. -/
theorem polled_outcome {operations : List Operation} (between : Polled operations polled)
    (ordered : NonDecreasing polled) (state : CooperationState) :
    (Call.final perform operations state).terminal = some .succeeded ↔
      (Call.final perform polled state).terminal = some .succeeded := by
  induction between generalizing state with
  | nil => exact Iff.rfl
  | keep operation rest inductionHypothesis =>
      exact inductionHypothesis ordered.tail _
  | poll elapsedMs rest inductionHypothesis =>
      rw [Call.final_cons]
      rcases poll_cases state elapsedMs with same | ⟨outcome, live, due, noticed⟩
      · rw [same]
        exact inductionHypothesis ordered.tail state
      · have overdue : state.overdue elapsedMs ≠ none := by
          rw [due]
          exact fun impossible => nomatch impossible
        have failed := final_overdue live overdue (rest.after (ordered.after rfl))
        rw [noticed, final_over (committed_over state outcome)]
        constructor
        · exact fun succeeded => absurd succeeded failed
        · exact fun succeeded => absurd (Option.some.inj succeeded) (overdue_outcome due)

/-- The polled run is where the other is, or one noticed deadline ahead. -/
inductive Drift (state : CooperationState) : CooperationState → Nat → Prop
  | same {since : Nat} : Drift state state since
  | late {since : Nat} {outcome : TerminalOutcome} (live : state.terminal = none)
      (due : state.overdue since = some outcome) : Drift state (state.committed outcome) since

theorem drift_final {operations : List Operation} (between : Polled operations polled)
    (next : Operation) {state other : CooperationState} (drift : Drift state other since)
    (after : After since (polled ++ [next])) (ordered : NonDecreasing (polled ++ [next]))
    (met : ∀ entry ∈ Call.log perform operations state, ¬ missed entry) :
    ∃ later, Drift (Call.final perform operations state) (Call.final perform polled other) later ∧
      After later [next] := by
  induction between generalizing state other since with
  | nil => exact ⟨since, drift, after⟩
  | @keep rest restPolled operation between inductionHypothesis =>
      have metNow := met _ List.mem_cons_self
      have metLater : ∀ entry ∈ Call.log perform rest (perform operation state).2, ¬ missed entry :=
        fun entry member => met entry (List.mem_cons_of_mem _ member)
      cases drift with
      | same => exact inductionHypothesis Drift.same after.tail ordered.tail metLater
      | @late _ outcome live due =>
          cases timed : operation.elapsedMs with
          | none =>
              have still : (perform operation state).2 = state := by
                cases operation <;> cases timed
                rfl
              have stillOther : (perform operation (state.committed outcome)).2 =
                  state.committed outcome :=
                step_over (perform_step operation _) (committed_over state outcome)
              rw [Call.final_cons, Call.final_cons, still, stillOther]
              rw [still] at metLater
              exact inductionHypothesis (Drift.late live due) after.tail ordered.tail metLater
          | some elapsedMs =>
              have reached := after operation List.mem_cons_self elapsedMs timed
              have late := overdue_mono reached (by
                rw [due]
                exact fun impossible => nomatch impossible)
              obtain ⟨found, noticed⟩ := Option.ne_none_iff_exists'.mp late
              exact absurd ⟨found, (perform_overdue live timed noticed).1⟩ metNow
  | @poll rest restPolled elapsedMs between inductionHypothesis =>
      rw [Call.final_cons]
      cases drift with
      | same =>
          rcases poll_cases state elapsedMs with still | ⟨outcome, live, due, noticed⟩
          · rw [still]
            exact inductionHypothesis Drift.same after.tail ordered.tail met
          · rw [noticed]
            exact inductionHypothesis (Drift.late live due) (ordered.after rfl) ordered.tail met
      | @late _ outcome live due =>
          have stillOther : (perform (.observeDeadlines elapsedMs) (state.committed outcome)).2 =
              state.committed outcome :=
            step_over (perform_step _ _) (committed_over state outcome)
          rw [stillOther]
          exact inductionHypothesis (Drift.late live due) after.tail ordered.tail met

/-- Before its first missed deadline an operation answers as it does with polls
in between. -/
theorem polled_results {operations : List Operation} (between : Polled operations polled)
    (operation : Operation) (ordered : NonDecreasing (polled ++ [operation]))
    (state : CooperationState)
    (met : ∀ entry ∈ Call.log perform (operations ++ [operation]) state, ¬ missed entry) :
    (perform operation (Call.final perform operations state)).1 =
      (perform operation (Call.final perform polled state)).1 := by
  rw [Call.log_append] at met
  obtain ⟨later, drift, after⟩ := drift_final between operation (Drift.same : Drift state state 0)
    (fun _ _ _ _ => Nat.zero_le _) ordered
    (fun entry member => met entry (List.mem_append_left _ member))
  have metNow := met _ (List.mem_append_right _ List.mem_cons_self)
  generalize Call.final perform operations state = here at *
  generalize Call.final perform polled state = there at *
  cases drift with
  | same => rfl
  | @late _ outcome live due =>
      cases timed : operation.elapsedMs with
      | none =>
          cases operation <;> cases timed
          rfl
      | some elapsedMs =>
          have late := overdue_mono (after operation List.mem_cons_self elapsedMs timed) (by
            rw [due]
            exact fun impossible => nomatch impossible)
          obtain ⟨found, noticed⟩ := Option.ne_none_iff_exists'.mp late
          exact absurd ⟨found, (perform_overdue live timed noticed).1⟩ metNow

/-- The timing law of a cooperation: a success met every deadline of its
contributions, and polling in between changes neither whether a run succeeds nor
any answer before the first missed deadline. -/
theorem cooperation_timing {state : CooperationState} (started : Started state) :
    (∀ operations, NonDecreasing operations →
      (Call.final perform operations state).terminal = some .succeeded →
        ∃ timeline : Timeline, timeline.Tells (Call.log perform operations state)) ∧
      ∀ operations polled, Polled operations polled → NonDecreasing polled →
        ((Call.final perform operations state).terminal = some .succeeded ↔
          (Call.final perform polled state).terminal = some .succeeded) ∧
        ∀ front operation back polledFront polledBack,
          operations = front ++ operation :: back →
          polled = polledFront ++ operation :: polledBack →
          Polled front polledFront → Polled back polledBack →
          (∀ entry ∈ Call.log perform (front ++ [operation]) state, ¬ missed entry) →
          (perform operation (Call.final perform front state)).1 =
            (perform operation (Call.final perform polledFront state)).1 := by
  constructor
  · intro operations _ succeeded
    obtain ⟨kept, -⟩ := kept_of_started started
    have standing := (kept_final kept operations).standing
    rw [succeeded] at standing
    have phase : (Call.final perform operations state).phase = .succeeded := by
      generalize (Call.final perform operations state).phase = phase at standing ⊢
      cases standing with
      | succeeded done => rfl
      | failed other live => exact absurd rfl other
    exact tells_of_told (told_log started operations) phase
  · intro operations polled between ordered
    refine ⟨polled_outcome between ordered state, ?_⟩
    rintro front operation back polledFront polledBack rfl rfl frontBetween - met
    refine polled_results frontBetween operation ?_ state met
    have longer : polledFront ++ operation :: polledBack =
        (polledFront ++ [operation]) ++ polledBack := by
      rw [List.append_assoc, List.singleton_append]
    rw [longer, NonDecreasing, instants, List.filterMap_append] at ordered
    exact (List.pairwise_append.mp ordered).1

theorem cooperation_timing_plain : Started plainStart ∧
    ∃ timeline : Timeline, timeline.Tells (Call.log perform plainRun plainStart) :=
  ⟨plainStart_started, (cooperation_timing plainStart_started).1 plainRun (by decide +kernel)
    (by decide +kernel)⟩

end Cooperation
end Revenant
