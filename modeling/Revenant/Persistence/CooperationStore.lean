import Revenant.Persistence.CooperationStages

namespace Revenant
namespace Persistence
namespace Cooperative

open Library Replay Cooperation

/-!
# The store refines the cooperation

A committed request does to the rows what the domain does to the state they
stand for.  A statement may fail, but never with a failure of the domain, so a
deadline is only reported by the domain, before anything was written.
-/

/-! ## Failures that are not the domain's -/

/-- The answer is no failure of the domain. -/
def Undomained {Value : Type} (answer : Except CooperationPersistenceError Value) : Prop :=
  ∀ failure, answer ≠ .error (.domain failure)

section Undomained

variable {Value Result : Type}

theorem undomained_ok (value : Value) : Undomained (.ok value) := by
  intro failure impossible
  cases impossible

theorem undomained_bind {first : Except CooperationPersistenceError Value}
    {rest : Value → Except CooperationPersistenceError Result} (before : Undomained first)
    (after : ∀ value, Undomained (rest value)) : Undomained (first >>= rest) := by
  intro failure failed
  rcases bind_eq_error.mp failed with early | ⟨value, -, late⟩
  · exact before failure early
  · exact after value failure late

theorem undomained_rejectIf {bad : Prop} [Decidable bad] {refusal : CooperationPersistenceError}
    (foreign : ∀ failure, refusal ≠ .domain failure) : Undomained (rejectIf bad refusal) := by
  intro failure failed
  exact foreign failure (rejectIf_eq_error.mp failed).2

theorem undomained_invalid {bad : Prop} [Decidable bad] (reason : String) :
    Undomained (rejectIf bad (invalidState reason)) :=
  undomained_rejectIf (fun _ impossible => by cases impossible)

theorem undomained_database {bad : Prop} [Decidable bad] :
    Undomained (rejectIf bad CooperationPersistenceError.database) :=
  undomained_rejectIf (fun _ impossible => by cases impossible)

theorem undomained_require (found : Option Value) (reason : String) :
    Undomained (require found (invalidState reason)) := by
  intro failure failed
  cases found <;> cases failed

theorem undomained_liftReplay (answer : Except ReplayError Value) :
    Undomained (liftReplay answer) := by
  intro failure failed
  cases answer <;> cases failed

end Undomained

/-! ## Journals -/

/-- The journal of a session grew, and nothing else changed. -/
def Journalled (sessionId : String) (before after : Database) : Prop :=
  ∃ events : List CooperationEvent, (∀ event ∈ events, event.row.sessionId = sessionId) ∧
    after = { before with
      replayEvents := before.replayEvents ++ events
      sequence := before.sequence + events.length }

namespace Journalled

variable {sessionId : String} {before between after : Database}

theorem refl (sessionId : String) (database : Database) :
    Journalled sessionId database database :=
  ⟨[], by simp, by simp⟩

theorem trans (first : Journalled sessionId before between)
    (second : Journalled sessionId between after) : Journalled sessionId before after := by
  obtain ⟨earlier, own, rfl⟩ := first
  obtain ⟨later, others, rfl⟩ := second
  refine ⟨earlier ++ later, ?_, ?_⟩
  · intro event member
    rcases List.mem_append.mp member with early | late
    · exact own event early
    · exact others event late
  · simp [List.append_assoc, Int.add_assoc]

end Journalled

/-- A statement that may only append to the journal of its session. -/
def Journals (statement : StoredOperation → Database → Except CooperationPersistenceError Database) :
    Prop :=
  ∀ stored database, Undomained (statement stored database) ∧
    ∀ after, statement stored database = .ok after → Journalled stored.sessionId database after

variable {database after : Database} {sessionId : String}

theorem insertCooperationEvent_journalled {activityId accountId payload : String} {actorId : Nat}
    {kind : ReplayEventKind} {evidence : Option CooperationReplayPayload}
    (inserted : insertCooperationEvent database sessionId activityId accountId actorId kind payload
      evidence = .ok after) : Journalled sessionId database after := by
  simp only [insertCooperationEvent, bind_eq_ok, exists_unit, pure_eq_ok] at inserted
  obtain ⟨-, rfl⟩ := inserted
  exact ⟨[_], by simp, rfl⟩

section Journal

variable {journal : Journalling}

theorem reconstructStream_undomained (events : List CooperationEvent) :
    Undomained (reconstructStream journal events) :=
  undomained_bind (undomained_liftReplay _) (fun _ => undomained_liftReplay _)

theorem pingPayloadFromStorage_undomained (rows : OperationRows)
    (started : CooperationStartedPayload) :
    Undomained (pingPayloadFromStorage journal rows started) :=
  undomained_bind (undomained_require _ _) (fun _ => undomained_bind (undomained_require _ _)
    (fun _ => undomained_bind (undomained_require _ _) (fun _ =>
      undomained_bind (undomained_invalid _) (fun _ =>
        undomained_bind (undomained_liftReplay _) (fun _ => undomained_ok _)))))

theorem persistedPing_undomained (rows : OperationRows) (started : CooperationStartedPayload)
    (operationId : String) (elapsedMs : Nat) (disposition : MutationDisposition) :
    Undomained (persistedPing journal rows started operationId elapsedMs disposition) := by
  unfold persistedPing
  split
  · exact pingPayloadFromStorage_undomained _ _
  · exact undomained_bind (undomained_require _ _) (fun _ =>
      undomained_bind (undomained_invalid _) (fun _ => undomained_ok _))

theorem insertCooperationEvent_undomained (database : Database)
    (sessionId activityId accountId payload : String) (actorId : Nat) (kind : ReplayEventKind)
    (evidence : Option CooperationReplayPayload) :
    Undomained (insertCooperationEvent database sessionId activityId accountId actorId kind payload
      evidence) :=
  undomained_bind (undomained_invalid _) (fun _ => undomained_ok _)

theorem persistOrValidateEvent_undomained (database : Database) (stored : StoredOperation)
    (kind : ReplayEventKind) (role : Role) (payload : CooperationReplayPayload)
    (disposition : MutationDisposition) :
    Undomained (persistOrValidateEvent journal database stored kind role payload disposition) := by
  cases disposition with
  | applied => exact insertCooperationEvent_undomained _ _ _ _ _ _ _ _
  | replayed => exact undomained_bind (undomained_invalid _) (fun _ => undomained_ok _)
  | pending | cancelled => rintro failure ⟨⟩

theorem persistOrValidateEvent_journalled {database after : Database} {stored : StoredOperation}
    {kind : ReplayEventKind} {role : Role} {payload : CooperationReplayPayload}
    {disposition : MutationDisposition}
    (persisted : persistOrValidateEvent journal database stored kind role payload disposition =
      .ok after) : Journalled stored.sessionId database after := by
  cases disposition with
  | applied => exact insertCooperationEvent_journalled persisted
  | replayed =>
      simp only [persistOrValidateEvent, bind_eq_ok, exists_unit, pure_eq_ok] at persisted
      obtain ⟨-, rfl⟩ := persisted
      exact Journalled.refl _ _
  | pending | cancelled => cases persisted

theorem persistOrValidatePing_journals (operationId : String) (elapsedMs : Nat)
    (disposition : MutationDisposition) : Journals (fun stored database =>
      persistOrValidatePing journal database stored operationId elapsedMs disposition) := by
  intro stored database
  constructor
  · exact undomained_bind (reconstructStream_undomained _) (fun _ =>
      undomained_bind (undomained_require _ _) (fun _ =>
        undomained_bind (persistedPing_undomained _ _ _ _ _) (fun _ =>
          undomained_bind (undomained_liftReplay _) (fun _ =>
            persistOrValidateEvent_undomained _ _ _ _ _ _))))
  · intro after persisted
    simp only [persistOrValidatePing, bind_eq_ok, exists_unit] at persisted
    obtain ⟨_, -, _, -, _, -, -, appended⟩ := persisted
    exact persistOrValidateEvent_journalled appended

theorem persistOrValidateDown_journals (elapsedMs : Nat) (disposition : MutationDisposition) :
    Journals (fun stored database =>
      persistOrValidateDown journal database stored elapsedMs disposition) := by
  intro stored database
  constructor
  · exact undomained_bind (reconstructStream_undomained _) (fun _ =>
      undomained_bind (undomained_require _ _) (fun _ =>
        undomained_bind (undomained_require _ _) (fun _ =>
          undomained_bind (undomained_liftReplay _) (fun _ =>
            persistOrValidateEvent_undomained _ _ _ _ _ _))))
  · intro after persisted
    simp only [persistOrValidateDown, bind_eq_ok, exists_unit] at persisted
    obtain ⟨_, -, _, -, _, -, -, appended⟩ := persisted
    exact persistOrValidateEvent_journalled appended

theorem persistOrValidateRevive_journals (operationId : String) (elapsedMs : Nat)
    (disposition : MutationDisposition) : Journals (fun stored database =>
      persistOrValidateRevive journal database stored operationId elapsedMs disposition) := by
  intro stored database
  constructor
  · exact undomained_bind (reconstructStream_undomained _) (fun _ =>
      undomained_bind (undomained_require _ _) (fun _ =>
        undomained_bind (undomained_require _ _) (fun _ =>
          undomained_bind (undomained_require _ _) (fun _ =>
            undomained_bind (undomained_liftReplay _) (fun _ =>
              persistOrValidateEvent_undomained _ _ _ _ _ _)))))
  · intro after persisted
    simp only [persistOrValidateRevive, bind_eq_ok, exists_unit] at persisted
    obtain ⟨_, -, _, -, _, -, _, -, -, appended⟩ := persisted
    exact persistOrValidateEvent_journalled appended

theorem persistOrValidateTerminal_journalled {database after : Database} {stored : StoredOperation}
    {outcome : TerminalOutcome} {subjectRole : Option Role} {elapsedMs : Nat}
    {disposition : MutationDisposition}
    (persisted : persistOrValidateTerminal journal database stored outcome subjectRole elapsedMs
      disposition = .ok after) : Journalled stored.sessionId database after := by
  simp only [persistOrValidateTerminal, bind_eq_ok, exists_unit] at persisted
  obtain ⟨_, -, _, -, _, -, -, appended⟩ := persisted
  exact persistOrValidateEvent_journalled appended

end Journal

/-! ## Statements on the rows -/

theorem write_operations (database : Database) (sessionId : String) (rows : OperationRows) :
    (database.write sessionId rows).operations sessionId = some rows :=
  Function.update_self _ _ _

@[simp] theorem write_write (database : Database) (sessionId : String)
    (first second : OperationRows) :
    (database.write sessionId first).write sessionId second = database.write sessionId second := by
  simp only [Database.write, Function.update_idem]

variable {rows : OperationRows}

theorem write_same (stored : database.operations sessionId = some rows) :
    database.write sessionId rows = database := by
  simp only [Database.write, ← stored, Function.update_eq_self]

theorem updateParent_eq_ok {change : StoredParent → StoredParent}
    (stored : database.operations sessionId = some rows) :
    updateParent sessionId change database = .ok after ↔ rows.parent.terminalOutcome = none ∧
      (change rows.parent).Checks ∧
      after = database.write sessionId { rows with parent := change rows.parent } := by
  simp only [updateParent, stored, require_eq_ok, bind_eq_ok, exists_unit, rejectIf_eq_ok,
    pure_eq_ok, Option.some.injEq, exists_eq_left', Bool.not_eq_true, Option.isSome_eq_false_iff,
    Option.isNone_iff_eq_none, not_not]
  exact and_congr_right (fun _ => and_congr_right (fun _ => eq_comm))

theorem updateParticipant_eq_ok {role : Role} {currentHealth : Nat} {life : LifeState}
    (stored : database.operations sessionId = some rows) :
    updateParticipant sessionId role currentHealth life database = .ok after ↔
      ((rows.withParticipant role currentHealth life).participant role).Checks ∧
      after = database.write sessionId (rows.withParticipant role currentHealth life) := by
  simp only [updateParticipant, stored, require_eq_ok, bind_eq_ok, exists_unit, rejectIf_eq_ok,
    pure_eq_ok, Option.some.injEq, exists_eq_left', not_not]
  exact and_congr_right (fun _ => eq_comm)

theorem updateParent_undomained (sessionId : String) (change : StoredParent → StoredParent)
    (database : Database) : Undomained (updateParent sessionId change database) :=
  undomained_bind (undomained_require _ _) (fun _ => undomained_bind (undomained_invalid _)
    (fun _ => undomained_bind undomained_database (fun _ => undomained_ok _)))

theorem updateParticipant_undomained (sessionId : String) (role : Role) (currentHealth : Nat)
    (life : LifeState) (database : Database) :
    Undomained (updateParticipant sessionId role currentHealth life database) :=
  undomained_bind (undomained_require _ _) (fun _ =>
    undomained_bind undomained_database (fun _ => undomained_ok _))

theorem elapsedI64_undomained (elapsedMs : Nat) : Undomained (elapsedI64 elapsedMs) :=
  undomained_invalid _

theorem requireSameElapsed_undomained (earlier elapsedMs : Nat) :
    Undomained (requireSameElapsed earlier elapsedMs) :=
  undomained_bind (elapsedI64_undomained _) (fun _ => undomained_invalid _)

/-- The characters of a session, the anchor's first. -/
def OperationRows.characters (rows : OperationRows) : String × String :=
  (rows.anchor.characterId, rows.runner.characterId)

/-- Rows that the tables hold have passed their checks, and are about two characters. -/
structure OperationRows.Checked (rows : OperationRows) : Prop where
  parent : rows.parent.Checks
  anchor : rows.anchor.Checks
  runner : rows.runner.Checks
  distinct : rows.characters.1 ≠ rows.characters.2

/-- The rows of a session were written, about the same characters and past the
checks, its journal grew, and nothing else changed. -/
structure Wrote (sessionId : String) (rows : OperationRows) (before after : Database) : Prop where
  grown : Journalled sessionId (before.write sessionId rows) after
  characters : ∀ stored, before.operations sessionId = some stored →
    rows.characters = stored.characters
  checked : (∀ stored, before.operations sessionId = some stored → stored.Checked) → rows.Checked

namespace Wrote

variable {sessionId : String} {rows : OperationRows} {before after next : Database}

theorem refl {database : Database} (stored : database.operations sessionId = some rows) :
    Wrote sessionId rows database database where
  grown := by
    rw [write_same stored]
    exact Journalled.refl _ _
  characters := by
    intro other found
    cases stored.symm.trans found
    rfl
  checked := by
    intro checked
    exact checked rows stored

theorem operations (wrote : Wrote sessionId rows before after) :
    after.operations = Function.update before.operations sessionId (some rows) := by
  obtain ⟨⟨_, -, rfl⟩, -, -⟩ := wrote
  rfl

theorem owners (wrote : Wrote sessionId rows before after) : after.owners = before.owners := by
  obtain ⟨⟨_, -, rfl⟩, -, -⟩ := wrote
  rfl

theorem stored (wrote : Wrote sessionId rows before after) :
    after.operations sessionId = some rows := by
  rw [wrote.operations, Function.update_self]

theorem write {changed : OperationRows} (wrote : Wrote sessionId rows before after)
    (same : changed.characters = rows.characters) (passes : rows.Checked → changed.Checked) :
    Wrote sessionId changed before (after.write sessionId changed) where
  grown := by
    obtain ⟨⟨events, own, rfl⟩, -, -⟩ := wrote
    refine ⟨events, own, ?_⟩
    simp only [Database.write, Function.update_idem]
  characters := by
    intro stored found
    rw [same, wrote.characters stored found]
  checked := by
    intro checked
    exact passes (wrote.checked checked)

theorem parent {parent : StoredParent} (wrote : Wrote sessionId rows before after)
    (checks : parent.Checks) :
    Wrote sessionId { rows with parent } before (after.write sessionId { rows with parent }) :=
  wrote.write rfl (fun checked => ⟨checks, checked.anchor, checked.runner, checked.distinct⟩)

theorem participant {role : Role} {currentHealth : Nat} {life : LifeState}
    (wrote : Wrote sessionId rows before after)
    (checks : ((rows.withParticipant role currentHealth life).participant role).Checks) :
    Wrote sessionId (rows.withParticipant role currentHealth life) before
      (after.write sessionId (rows.withParticipant role currentHealth life)) := by
  cases role with
  | anchor =>
      exact wrote.write rfl (fun checked => ⟨checked.parent, checks, checked.runner, checked.distinct⟩)
  | runner =>
      exact wrote.write rfl (fun checked => ⟨checked.parent, checked.anchor, checks, checked.distinct⟩)

theorem journalled (wrote : Wrote sessionId rows before after)
    (grown : Journalled sessionId after next) : Wrote sessionId rows before next where
  grown := wrote.grown.trans grown
  characters := wrote.characters
  checked := wrote.checked

end Wrote

theorem ifJournalled_journalled {replayMode : Bool}
    {statement : Database → Except CooperationPersistenceError Database} {before : Database}
    (done : ifJournalled replayMode statement before = .ok after)
    (grows : ∀ next, statement before = .ok next → Journalled sessionId before next) :
    Journalled sessionId before after := by
  cases replayMode with
  | true => exact grows after done
  | false =>
      cases done
      exact Journalled.refl _ _

theorem ifJournalled_undomained {replayMode : Bool}
    {statement : Database → Except CooperationPersistenceError Database}
    (undomained : Undomained (statement database)) :
    Undomained (ifJournalled replayMode statement database) := by
  cases replayMode with
  | true => exact undomained
  | false => exact undomained_ok _

/-! ## Mutations -/

/-- What a request reports of a contribution: one that was recorded before is repeated. -/
def reported : Operation → MutationDisposition → MutationDisposition
  | .observeDeadlines _, _ => .replayed
  | _, given => given

/-- The transaction with the domain in another state. -/
def Transaction.moved (transaction : Transaction) (state : CooperationState) : Transaction :=
  { transaction with stored := { transaction.stored with state } }

/-- The loaded rows are those of the database, and stand for the loaded state. -/
structure Held (transaction : Transaction) : Prop where
  stored : transaction.database.operations transaction.stored.sessionId =
    some transaction.stored.rows
  durable : Durable transaction.database.owners transaction.stored.rows transaction.stored.state

theorem Held.moved {start : Transaction} (held : Held start) (state : CooperationState) :
    (start.moved state).database.operations (start.moved state).stored.sessionId =
      some start.stored.rows :=
  held.stored

/-- A mutation does to the rows what the operation does to the state; a deadline
that the operation ran into was met before anything was written. -/
structure Mirrors (operation : Operation) (start : Transaction)
    (result : Except CooperationPersistenceError MutationDisposition) (after : Transaction) :
    Prop where
  passed : ∀ disposition, result = .ok disposition → ∃ rows given,
    Durable start.database.owners rows after.stored.state ∧
    Wrote start.stored.sessionId rows start.database after.database ∧
    perform operation start.stored.state = (.ok given, after.stored.state) ∧
    disposition = reported operation given
  expired : ∀ outcome, result = .error (.domain (.deadlineExpired outcome)) →
    ∃ state, after = start.moved state ∧
      perform operation start.stored.state = (.error (.deadlineExpired outcome), state)

section Mirrors

variable {operation : Operation} {start transaction : Transaction} {Value : Type}
  {rows : OperationRows}

theorem mirrors_of_undomained {failure : CooperationPersistenceError} {after : Transaction}
    (foreign : ∀ refusal, failure ≠ .domain refusal) :
    Mirrors operation start (.error failure) after where
  passed := by
    intro disposition impossible
    cases impossible
  expired := by
    intro outcome same
    exact absurd (Except.error.inj same) (foreign _)

/-- The domain is asked first; what it refuses ends the mutation. -/
theorem mirrors_operate {rest : MutationDisposition → Mutation MutationDisposition}
    (passed : ∀ given next, perform operation start.stored.state = (.ok given, next) →
      Call.Sat (rest given) (start.moved next) (Mirrors operation start)) :
    Call.Sat (operate operation >>= rest) start (Mirrors operation start) := by
  apply Call.sat_bind
  unfold Call.Sat operate
  rcases answered : perform operation start.stored.state with ⟨answer, next⟩
  cases answer with
  | ok given => exact passed given next answered
  | error failure =>
      constructor
      · intro disposition impossible
        cases impossible
      · intro outcome same
        cases same
        exact ⟨next, rfl, answered⟩

theorem mirrors_check {look : Transaction → Except CooperationPersistenceError Value}
    {rest : Value → Mutation MutationDisposition} (undomained : Undomained (look transaction))
    (passed : ∀ value, look transaction = .ok value →
      Call.Sat (rest value) transaction (Mirrors operation start)) :
    Call.Sat (Call.check look >>= rest) transaction (Mirrors operation start) := by
  apply Call.sat_check_bind
  · intro failure refused
    exact mirrors_of_undomained (fun refusal same => undomained refusal (same ▸ refused))
  · exact passed

variable {rest : Unit → Mutation MutationDisposition}

theorem mirrors_execute
    {statement : StoredOperation → Database → Except CooperationPersistenceError Database}
    (undomained : Undomained (statement transaction.stored transaction.database))
    (passed : ∀ database, statement transaction.stored transaction.database = .ok database →
      Call.Sat (rest ()) { transaction with database } (Mirrors operation start)) :
    Call.Sat (execute statement >>= rest) transaction (Mirrors operation start) := by
  apply Call.sat_bind
  unfold Call.Sat execute
  cases ran : statement transaction.stored transaction.database with
  | ok database => exact passed database ran
  | error failure =>
      exact mirrors_of_undomained (fun refusal same => undomained refusal (same ▸ ran))

theorem mirrors_setParent {change : StoredParent → StoredParent}
    (stored : transaction.database.operations transaction.stored.sessionId = some rows)
    (passed : (change rows.parent).Checks → Call.Sat (rest ()) { transaction with
      database := transaction.database.write transaction.stored.sessionId
        { rows with parent := change rows.parent } } (Mirrors operation start)) :
    Call.Sat (setParent change >>= rest) transaction (Mirrors operation start) := by
  apply mirrors_execute (updateParent_undomained _ _ _)
  intro database updated
  obtain ⟨-, checks, rfl⟩ := (updateParent_eq_ok stored).mp updated
  exact passed checks

theorem mirrors_setParticipant {role : Role} {currentHealth : Nat} {life : LifeState}
    (stored : transaction.database.operations transaction.stored.sessionId = some rows)
    (passed : ((rows.withParticipant role currentHealth life).participant role).Checks →
      Call.Sat (rest ()) { transaction with
        database := transaction.database.write transaction.stored.sessionId
          (rows.withParticipant role currentHealth life) } (Mirrors operation start)) :
    Call.Sat (setParticipant role currentHealth life >>= rest) transaction
      (Mirrors operation start) := by
  apply mirrors_execute (updateParticipant_undomained _ _ _ _ _)
  intro database updated
  obtain ⟨checks, rfl⟩ := (updateParticipant_eq_ok stored).mp updated
  exact passed checks

/-- Evidence comes last. -/
theorem mirrors_evidence {replayMode : Bool} {disposition given : MutationDisposition}
    {statement : StoredOperation → Database → Except CooperationPersistenceError Database}
    (journals : Journals statement) (same : transaction.stored.sessionId = start.stored.sessionId)
    (durable : Durable start.database.owners rows transaction.stored.state)
    (wrote : Wrote start.stored.sessionId rows start.database transaction.database)
    (answered : perform operation start.stored.state = (.ok given, transaction.stored.state))
    (reports : disposition = reported operation given) :
    Call.Sat (do evidence replayMode statement; return disposition) transaction
      (Mirrors operation start) := by
  apply mirrors_execute (ifJournalled_undomained (journals _ _).1)
  intro database journalled
  have grown := ifJournalled_journalled journalled (journals _ _).2
  rw [same] at grown
  constructor
  · rintro _ ⟨⟩
    exact ⟨rows, given, durable, wrote.journalled grown, answered, reports⟩
  · rintro outcome ⟨⟩

theorem mirrors_done {disposition given : MutationDisposition}
    (durable : Durable start.database.owners rows transaction.stored.state)
    (wrote : Wrote start.stored.sessionId rows start.database transaction.database)
    (answered : perform operation start.stored.state = (.ok given, transaction.stored.state))
    (reports : disposition = reported operation given) :
    Call.Sat (return disposition) transaction (Mirrors operation start) := by
  constructor
  · rintro _ ⟨⟩
    exact ⟨rows, given, durable, wrote, answered, reports⟩
  · rintro outcome ⟨⟩

end Mirrors

/-! ## The five mutations -/

section Mutations

variable {journal : Journalling} {start : Transaction} {elapsedMs : Nat} {replayMode : Bool}

/-- An arrival that is recorded is only looked at again. -/
def anchorOperation (elapsedMs : Nat) (arrived : Bool) : Operation :=
  if arrived = true then .observeDeadlines elapsedMs
  else .arriveAnchor .anchor .relayAnchor elapsedMs

def runnerOperation (elapsedMs : Nat) (arrived : Bool) : Operation :=
  if arrived = true then .observeDeadlines elapsedMs
  else .arriveRunner .runner .relayConsole elapsedMs

theorem arriveAnchorMutation_mirrors (held : Held start) :
    Call.Sat (arriveAnchorMutation elapsedMs) start
      (Mirrors (anchorOperation elapsedMs start.stored.rows.parent.anchorElapsedMs.isSome) start) := by
  apply mirrors_check (undomained_ok _)
  rintro _ ⟨⟩
  cases start.stored.rows.parent.anchorElapsedMs with
  | some earlier =>
      apply mirrors_operate
      intro given next answered
      obtain ⟨-, -, rfl⟩ := observeDeadlines_answers.mp answered
      apply mirrors_check (requireSameElapsed_undomained _ _)
      intro _ _
      exact mirrors_done held.durable (Wrote.refl held.stored) answered rfl
  | none =>
      apply mirrors_operate
      intro given next answered
      obtain ⟨rfl, durable⟩ := held.durable.arriveAnchor answered
      apply mirrors_check (elapsedI64_undomained _)
      intro _ _
      apply mirrors_setParent (held.moved next)
      intro checks
      exact mirrors_done durable
        ((Wrote.refl held.stored).parent checks) answered rfl

theorem pingMutation_mirrors (operationId : String) (held : Held start) :
    Call.Sat (pingMutation journal operationId elapsedMs replayMode) start
      (Mirrors (.ping .anchor .relayConsole operationId elapsedMs) start) := by
  apply mirrors_operate
  intro given next answered
  rcases held.durable.ping answered with ⟨rfl, rfl⟩ | ⟨rfl, durable⟩
  · exact mirrors_evidence (persistOrValidatePing_journals _ _ _) rfl held.durable
      (Wrote.refl held.stored) answered rfl
  · apply mirrors_check (elapsedI64_undomained _)
    intro _ _
    apply mirrors_setParent (held.moved next)
    intro checks
    exact mirrors_evidence (persistOrValidatePing_journals _ _ _) rfl durable
      ((Wrote.refl held.stored).parent checks) answered rfl

theorem downRunnerMutation_mirrors (held : Held start) :
    Call.Sat (downRunnerMutation journal elapsedMs replayMode) start
      (Mirrors (runnerOperation elapsedMs start.stored.rows.parent.runnerElapsedMs.isSome) start) := by
  apply mirrors_check (undomained_ok _)
  rintro _ ⟨⟩
  cases start.stored.rows.parent.runnerElapsedMs with
  | some earlier =>
      apply mirrors_operate
      intro given next answered
      obtain ⟨-, -, rfl⟩ := observeDeadlines_answers.mp answered
      apply mirrors_check (requireSameElapsed_undomained _ _)
      intro _ _
      exact mirrors_evidence (persistOrValidateDown_journals _ _) rfl held.durable
        (Wrote.refl held.stored) answered rfl
  | none =>
      apply mirrors_operate
      intro given next answered
      obtain ⟨rfl, durable⟩ := held.durable.arriveRunner answered
      apply mirrors_check (elapsedI64_undomained _)
      intro _ _
      apply mirrors_setParent (held.moved next)
      intro checks
      apply mirrors_setParticipant (write_operations _ _ _)
      intro runner
      exact mirrors_evidence (persistOrValidateDown_journals _ _) rfl durable
        (((Wrote.refl held.stored).parent checks).participant runner) answered rfl

theorem startReviveMutation_mirrors (operationId : String) (distanceSquared : Int)
    (held : Held start) : Call.Sat (startReviveMutation operationId distanceSquared elapsedMs) start
      (Mirrors (.startRevive .anchor .runner distanceSquared operationId elapsedMs) start) := by
  apply mirrors_operate
  intro given next answered
  rcases held.durable.startRevive answered with ⟨rfl, rfl⟩ | ⟨rfl, durable⟩
  · exact mirrors_done held.durable (Wrote.refl held.stored) answered rfl
  · apply mirrors_check (elapsedI64_undomained _)
    intro _ _
    apply mirrors_setParent (held.moved next)
    intro checks
    exact mirrors_done durable
      ((Wrote.refl held.stored).parent checks) answered rfl

theorem observeReviveMutation_mirrors (operationId : String) (distanceSquared : Int)
    (held : Held start) :
    Call.Sat (observeReviveMutation journal operationId distanceSquared elapsedMs replayMode) start
      (Mirrors (.observeRevive .anchor .runner distanceSquared operationId elapsedMs) start) := by
  apply mirrors_operate
  intro given next answered
  rcases held.durable.observeRevive answered with
    ⟨rfl | rfl, rfl⟩ | ⟨rfl, durable⟩ | ⟨rfl, durable⟩
  · exact mirrors_done held.durable (Wrote.refl held.stored) answered rfl
  · exact mirrors_evidence (persistOrValidateRevive_journals _ _ _) rfl held.durable
      (Wrote.refl held.stored) answered rfl
  · apply mirrors_setParent (held.moved next)
    intro checks
    exact mirrors_done durable ((Wrote.refl held.stored).parent checks) answered rfl
  · apply mirrors_check (elapsedI64_undomained _)
    intro _ _
    apply mirrors_setParent (held.moved next)
    intro checks
    apply mirrors_setParticipant (write_operations _ _ _)
    intro runner
    exact mirrors_evidence (persistOrValidateRevive_journals _ _ _) rfl durable
      (((Wrote.refl held.stored).parent checks).participant runner) answered rfl

end Mutations

/-! ## Loading from the database -/

/-- Every stored session stands for a state. -/
def Database.Durable (database : Database) : Prop :=
  ∀ sessionId rows, database.operations sessionId = some rows →
    ∃ state, Cooperative.Durable database.owners rows state

/-- The state a session loads as. -/
def Database.state (database : Database) (sessionId : String) : Option CooperationState :=
  match loadOperation database sessionId with
  | .ok loaded => loaded.map StoredOperation.state
  | .error _ => none

section Loading

variable {database : Database} {sessionId : String} {rows : OperationRows} {state : CooperationState}

theorem loadOperation_durable (stored : database.operations sessionId = some rows)
    (durable : Durable database.owners rows state) :
    loadOperation database sessionId = .ok (some { sessionId, rows, state }) := by
  unfold loadOperation
  rw [stored]
  simp only [bind_eq_ok, pure_eq_ok]
  exact ⟨state, durable.loads, rfl⟩

theorem state_durable (stored : database.operations sessionId = some rows)
    (durable : Durable database.owners rows state) : database.state sessionId = some state := by
  unfold Database.state
  rw [loadOperation_durable stored durable]
  rfl

theorem state_none (absent : database.operations sessionId = none) :
    database.state sessionId = none := by
  unfold Database.state loadOperation
  rw [absent]
  rfl

/-- What is loaded is what is stored. -/
theorem loadOperation_loaded {stored : StoredOperation} (kept : database.Durable)
    (loaded : loadOperation database sessionId = .ok (some stored)) :
    stored.sessionId = sessionId ∧ database.operations sessionId = some stored.rows ∧
      Durable database.owners stored.rows stored.state := by
  cases found : database.operations sessionId with
  | none =>
      unfold loadOperation at loaded
      rw [found] at loaded
      cases loaded
  | some rows =>
      obtain ⟨state, durable⟩ := kept sessionId rows found
      rw [loadOperation_durable found durable] at loaded
      cases loaded
      exact ⟨rfl, rfl, durable⟩

theorem requireOperation_loaded {stored : StoredOperation} (kept : database.Durable)
    (loaded : requireOperation database sessionId = .ok stored) :
    stored.sessionId = sessionId ∧ database.operations sessionId = some stored.rows ∧
      Durable database.owners stored.rows stored.state := by
  simp only [requireOperation, bind_eq_ok, require_eq_ok] at loaded
  obtain ⟨_, loaded, rfl⟩ := loaded
  exact loadOperation_loaded kept loaded

/-- Another session's rows and owners are enough to load it. -/
theorem state_frame {next : Database} {other : String} {changed : Option OperationRows}
    (operations : next.operations = Function.update database.operations sessionId changed)
    (owners : next.owners = database.owners) (apart : other ≠ sessionId) :
    next.state other = database.state other := by
  unfold Database.state loadOperation
  rw [operations, owners, Function.update_of_ne apart]

/-- The columns tell who has arrived. -/
theorem Durable.arrivals {owners : String → Option String} (durable : Durable owners rows state) :
    rows.parent.anchorElapsedMs.isSome = state.contributions.anchorArrived ∧
      rows.parent.runnerElapsedMs.isSome = state.contributions.runnerArrived := by
  obtain ⟨admission, stage, ending, -, -, -, rfl, rfl⟩ := durable
  cases ending with
  | running | succeeded | timedOut | abandoned => cases stage <;> exact ⟨rfl, rfl⟩
  | defeated role => cases role <;> cases stage <;> exact ⟨rfl, rfl⟩

end Loading

/-! ## What a request does -/

/-- The operation a request asks of the state its session is in. -/
def Request.operation (state : CooperationState) : Request → Option Operation
  | .start _ _ => none
  | .arriveAnchor _ elapsedMs =>
      some (anchorOperation elapsedMs state.contributions.anchorArrived)
  | .ping _ operationId elapsedMs _ =>
      some (.ping .anchor .relayConsole operationId elapsedMs)
  | .downRunner _ elapsedMs _ =>
      some (runnerOperation elapsedMs state.contributions.runnerArrived)
  | .startRevive _ operationId distanceSquared elapsedMs =>
      some (.startRevive .anchor .runner distanceSquared operationId elapsedMs)
  | .observeRevive _ operationId distanceSquared elapsedMs _ =>
      some (.observeRevive .anchor .runner distanceSquared operationId elapsedMs)
  | .complete _ elapsedMs _ => some (.completeWarden elapsedMs)
  | .timeout _ elapsedMs _ => some (.observeDeadlines elapsedMs)
  | .defeat _ role elapsedMs _ => some (.defeatParticipant role elapsedMs)
  | .abandon _ role elapsedMs _ => some (.disconnect role elapsedMs)

/-- The ends a request may find when it is repeated. -/
def Request.ends : Request → TerminalOutcome → Bool
  | .complete _ _ _, outcome => decide (outcome = .succeeded)
  | .timeout _ _ _, outcome => isTimeoutOutcome outcome
  | .defeat _ _ _ _, outcome => decide (outcome = .failedParticipantDefeated)
  | .abandon _ _ _ _, outcome => decide (outcome = .abandonedDisconnect)
  | _, _ => false

/-- What the domain makes of a request that is answered, from the state its
session was in. -/
inductive Accepted (request : Request) : Option CooperationState → CooperationReceipt → Prop
  | started {input : CooperationOperationInput} {appendReplay : Bool}
      {anchor runner : CooperationParticipant} {state : CooperationState}
      (asked : request = .start input appendReplay) (pair : input.participants = [anchor, runner])
      (begun : CooperationState.startWithHealth input.operationId anchor.profile runner.profile
        anchor.currentHealth runner.currentHealth = .ok state) :
      Accepted request none { disposition := .applied, state }
  | restarted {input : CooperationOperationInput} {appendReplay : Bool}
      {anchor runner : CooperationParticipant} {state : CooperationState}
      (asked : request = .start input appendReplay) (pair : input.participants = [anchor, runner])
      (same : state.retryAnswer input.operationId anchor.profile runner.profile
        anchor.currentHealth runner.currentHealth = .ok .replayed) :
      Accepted request (some state) { disposition := .replayed, state }
  | performed {state next : CooperationState} {operation : Operation}
      {given : MutationDisposition} (asked : request.operation state = some operation)
      (answered : perform operation state = (.ok given, next)) :
      Accepted request (some state) { disposition := reported operation given, state := next }
  | expired {state next : CooperationState} {operation : Operation} {outcome : TerminalOutcome}
      (asked : request.operation state = some operation)
      (answered : perform operation state = (.error (.deadlineExpired outcome), next)) :
      Accepted request (some state) { disposition := .applied, state := next }
  | closed {state : CooperationState} {outcome : TerminalOutcome}
      (ended : state.terminal = some outcome) (fits : request.ends outcome = true) :
      Accepted request (some state) { disposition := .replayed, state }

/-- The database with one character rewarded for a session. -/
def Database.granted (database : Database) (sessionId characterId : String)
    (previous : Progression) : Database :=
  { database with
    rewardGrants := database.rewardGrants ++ [(sessionId, characterId)]
    experienceGrants := database.experienceGrants ++ [(sessionId, characterId)]
    fragments := Function.update database.fragments characterId
      (database.fragments characterId + successReward.fragments)
    progression := Function.update database.progression characterId (some
      { level := levelOf (previous.experience + successReward.experience)
        experience := min (previous.experience + successReward.experience) i64Max }) }

/-- A character that the session has not rewarded, with room for a reward. -/
structure Payable (database : Database) (sessionId characterId : String) (previous : Progression) :
    Prop where
  unpaid : (sessionId, characterId) ∉ database.rewardGrants
  fresh : (sessionId, characterId) ∉ database.experienceGrants
  room : database.fragments characterId + successReward.fragments ≤ i32Max
  progression : database.progression characterId = some previous

/-- What a session pays: nothing, or both of its characters. -/
inductive Paid (sessionId : String) (rows : OperationRows) (database : Database) :
    Bool → Database → Prop
  | nothing : Paid sessionId rows database false database
  | both {anchorBefore runnerBefore : Progression}
      (anchor : Payable database sessionId rows.anchor.characterId anchorBefore)
      (runner : Payable (database.granted sessionId rows.anchor.characterId anchorBefore) sessionId
        rows.runner.characterId runnerBefore) :
      Paid sessionId rows database true
        ((database.granted sessionId rows.anchor.characterId anchorBefore).granted sessionId
          rows.runner.characterId runnerBefore)

/-- The receipt of a session that succeeds now. -/
def CooperationReceipt.succeeds (receipt : CooperationReceipt) : Bool :=
  decide (receipt.disposition = .applied ∧ receipt.state.terminal = some .succeeded)

/-- What a committed request leaves. -/
structure Committed (request : Request) (database : Database) (receipt : CooperationReceipt)
    (next : Database) : Prop where
  written : ∃ rows paid, Durable database.owners rows receipt.state ∧
    Paid request.sessionId rows database receipt.succeeds paid ∧
    Wrote request.sessionId rows paid next
  accepted : Accepted request (database.state request.sessionId) receipt

variable {operation : Operation}

/-- Only the last contribution succeeds. -/
theorem unsucceeded_of_applied {state next : CooperationState}
    (answered : perform operation state = (.ok .applied, next))
    (other : ∀ elapsedMs, operation ≠ .completeWarden elapsedMs) :
    next.terminal ≠ some .succeeded := by
  have step := perform_step operation state
  rw [answered] at step
  cases step with
  | anchored timely | pinged timely | downed timely | channelled timely | revived timely =>
      intro ended
      cases timely.live.symm.trans ended
  | completed => exact absurd rfl (other _)
  | defeated | disconnected =>
      intro ended
      cases ended

theorem unsucceeded_of_expired {state next : CooperationState} {outcome : TerminalOutcome}
    (answered : perform operation state = (.error (.deadlineExpired outcome), next)) :
    next.terminal = some outcome ∧ isTimeoutOutcome outcome = true := by
  obtain ⟨-, rfl, _, -, due⟩ := perform_expired answered
  exact ⟨rfl, isTimeoutOutcome_of_overdue due⟩

theorem applied_of_reported {given : MutationDisposition}
    (reports : reported operation given = .applied) : given = .applied := by
  cases operation with
  | observeDeadlines => cases reports
  | retryStart | arriveAnchor | ping | arriveRunner | startRevive | observeRevive | completeWarden
  | defeatParticipant | disconnect => exact reports

theorem succeeds_eq_false {receipt : CooperationReceipt}
    (unsucceeded : receipt.disposition = .applied → receipt.state.terminal ≠ some .succeeded) :
    receipt.succeeds = false :=
  decide_eq_false (fun succeeded => unsucceeded succeeded.1 succeeded.2)

/-- A receipt that pays nothing. -/
theorem Paid.of_unsucceeded {receipt : CooperationReceipt}
    (unsucceeded : receipt.disposition = .applied → receipt.state.terminal ≠ some .succeeded) :
    Paid sessionId rows database receipt.succeeds database := by
  rw [succeeds_eq_false unsucceeded]
  exact Paid.nothing

section Requests

variable {journal : Journalling} {request : Request} {database next : Database}
  {receipt : CooperationReceipt} {elapsedMs : Nat}

theorem mutateCooperation_committed {expectation : Option Bool}
    {mutation : Bool → Mutation MutationDisposition} (kept : database.Durable)
    (mirrors : ∀ replayMode start, Held start → ∃ operation,
      request.operation start.stored.state = some operation ∧
      operation.elapsedMs = some elapsedMs ∧ (∀ time, operation ≠ .completeWarden time) ∧
      Call.Sat (mutation replayMode) start (Mirrors operation start))
    (answered : mutateCooperation journal request.sessionId elapsedMs expectation mutation database =
      .ok (receipt, next)) : Committed request database receipt next := by
  simp only [mutateCooperation, bind_eq_ok, exists_unit] at answered
  obtain ⟨-, stored, loaded, replayMode, -, settled, settles, answered⟩ := answered
  obtain rfl : settled = (receipt, next) := by
    cases replayMode with
    | true =>
        simp only [if_true, bind_eq_ok, pure_eq_ok] at answered
        exact answered.choose_spec.2
    | false =>
        cases answered
        rfl
  obtain ⟨same, found, durable⟩ := requireOperation_loaded kept loaded
  have held : Held { database, stored } := ⟨same ▸ found, durable⟩
  obtain ⟨operation, asked, timed, other, mirrored⟩ := mirrors replayMode _ held
  have before := state_durable found durable
  unfold Call.Sat at mirrored
  rcases ran : mutation replayMode { database, stored } with ⟨result, after⟩
  rw [ran] at mirrored settles
  cases result with
  | ok disposition =>
      cases settles
      obtain ⟨rows, given, left, wrote, answered, rfl⟩ := mirrored.passed _ rfl
      refine ⟨⟨rows, database, left, Paid.of_unsucceeded ?_, same ▸ wrote⟩, ?_⟩
      · intro applied
        cases applied_of_reported applied
        exact unsucceeded_of_applied answered other
      · rw [before]
        exact Accepted.performed asked answered
  | error failure =>
      unfold settle at settles
      split at settles
      · next impossible => cases impossible
      · next outcome _ same' =>
        cases same'
        obtain ⟨state, rfl, missed⟩ := mirrored.expired outcome rfl
        simp only [bind_eq_ok, pure_eq_ok, Prod.mk.injEq] at settles
        obtain ⟨closed, expired, rfl, rfl⟩ := settles
        simp only [expire, persistFailureTerminal, bind_eq_ok, exists_unit] at expired
        obtain ⟨ended, ⟨-, -, updated⟩, journalled⟩ := expired
        obtain ⟨-, checks, rfl⟩ := (updateParent_eq_ok held.stored).mp updated
        have grown := ifJournalled_journalled journalled
          (fun _ persisted => persistOrValidateTerminal_journalled persisted)
        obtain ⟨ended, timeout⟩ := unsucceeded_of_expired missed
        refine ⟨⟨_, database, durable.expires timed missed, Paid.of_unsucceeded ?_, ?_⟩, ?_⟩
        · rintro - succeeded
          cases ended.symm.trans succeeded
          cases timeout
        · rw [← same]
          exact ((Wrote.refl held.stored).parent checks).journalled grown
        · rw [before]
          exact Accepted.expired asked missed
      · cases settles

/-! ### Rewards and ends -/

variable {sessionId characterId : String}

theorem applyCompletionReward_eq_ok {rewards : CompletionRewards}
    (rewarded : applyCompletionReward database sessionId characterId = .ok (some rewards, next)) :
    ∃ previous, Payable database sessionId characterId previous ∧
      next = database.granted sessionId characterId previous := by
  unfold applyCompletionReward at rewarded
  split at rewarded
  · cases rewarded
  · next unpaid =>
    simp only [bind_eq_ok, exists_unit, rejectIf_eq_ok, require_eq_ok, pure_eq_ok, Prod.mk.injEq,
      gt_iff_lt, Nat.not_lt, List.contains_iff_mem] at unpaid rewarded
    obtain ⟨room, previous, progression, fresh, -, rfl⟩ := rewarded
    exact ⟨previous, ⟨unpaid, fresh, room, progression⟩, rfl⟩

variable {stored : StoredOperation}

theorem insertText_journalled {participant : StoredParticipant} {kind : ReplayEventKind}
    {text : String} (inserted : insertText stored participant kind text database = .ok next) :
    Journalled stored.sessionId database next :=
  insertCooperationEvent_journalled inserted

variable {before after : Database}

theorem Journalled.granted {previous : Progression} (grown : Journalled sessionId before after) :
    Journalled sessionId (before.granted sessionId characterId previous)
      (after.granted sessionId characterId previous) := by
  obtain ⟨events, own, rfl⟩ := grown
  exact ⟨events, own, rfl⟩

theorem Journalled.write (grown : Journalled sessionId before after) (rows : OperationRows) :
    Journalled sessionId (before.write sessionId rows) (after.write sessionId rows) := by
  obtain ⟨events, own, rfl⟩ := grown
  exact ⟨events, own, rfl⟩

theorem Journalled.operations (grown : Journalled sessionId before after) :
    after.operations = before.operations := by
  obtain ⟨events, own, rfl⟩ := grown
  rfl

variable {rows : OperationRows}

theorem Paid.operations {succeeds : Bool} (paid : Paid sessionId rows before succeeds after) :
    after.operations = before.operations := by
  cases paid <;> rfl

theorem Paid.owners {succeeds : Bool} (paid : Paid sessionId rows before succeeds after) :
    after.owners = before.owners := by
  cases paid <;> rfl

theorem Payable.of_journalled {previous : Progression} (grown : Journalled sessionId before after)
    (payable : Payable after sessionId characterId previous) :
    Payable before sessionId characterId previous := by
  obtain ⟨events, own, rfl⟩ := grown
  exact ⟨payable.unpaid, payable.fresh, payable.room, payable.progression⟩

variable {appendReplay : Bool}

theorem rewardParticipant_paid {participant : StoredParticipant}
    (rewarded : rewardParticipant stored appendReplay participant database = .ok next) :
    ∃ previous, Payable database stored.sessionId participant.characterId previous ∧
      Journalled stored.sessionId
        (database.granted stored.sessionId participant.characterId previous) next := by
  simp only [rewardParticipant, bind_eq_ok, require_eq_ok] at rewarded
  obtain ⟨⟨granted, paid⟩, applied, rewards, rfl, looted, first, second⟩ := rewarded
  obtain ⟨previous, payable, rfl⟩ := applyCompletionReward_eq_ok applied
  exact ⟨previous, payable,
    (ifJournalled_journalled first (fun _ => insertText_journalled)).trans
      (ifJournalled_journalled second (fun _ => insertText_journalled))⟩

theorem applySuccessRewards_paid
    (rewarded : applySuccessRewards stored appendReplay database = .ok next) :
    ∃ paid, Paid stored.sessionId stored.rows database true paid ∧
      Journalled stored.sessionId paid next := by
  simp only [applySuccessRewards, bind_eq_ok] at rewarded
  obtain ⟨announced, first, anchored, second, third⟩ := rewarded
  have grown := ifJournalled_journalled first (fun _ => insertText_journalled)
  obtain ⟨anchorBefore, anchor, anchorGrown⟩ := rewardParticipant_paid second
  obtain ⟨runnerBefore, runner, runnerGrown⟩ := rewardParticipant_paid third
  have both := grown.granted.trans anchorGrown
  exact ⟨_, Paid.both (anchor.of_journalled grown) (runner.of_journalled both),
    both.granted.trans runnerGrown⟩

variable {outcome : TerminalOutcome} {subjectRole : Option Role}

theorem persistOrValidateTerminal_ifJournalled {disposition : MutationDisposition}
    (persisted : ifJournalled appendReplay (fun database => persistOrValidateTerminal journal
      database stored outcome subjectRole elapsedMs disposition) database = .ok next) :
    Journalled stored.sessionId database next :=
  ifJournalled_journalled persisted (fun _ => persistOrValidateTerminal_journalled)

theorem journalTerminal_ifJournalled (journalled : ifJournalled appendReplay
      (journalTerminal journal stored outcome subjectRole elapsedMs) database = .ok next) :
    Journalled stored.sessionId database next := by
  apply ifJournalled_journalled journalled
  intro after appended
  simp only [journalTerminal, bind_eq_ok, pure_eq_ok] at appended
  obtain ⟨_, persisted, _, -, rfl⟩ := appended
  exact persistOrValidateTerminal_journalled persisted

/-- An end that is found again leaves the rows. -/
theorem retryTerminal_committed (same : stored.sessionId = request.sessionId)
    (found : database.operations request.sessionId = some stored.rows)
    (durable : Durable database.owners stored.rows stored.state)
    (ended : stored.state.terminal = some outcome) (fits : request.ends outcome = true)
    (answered : retryTerminal journal database stored outcome subjectRole elapsedMs appendReplay =
      .ok (receipt, next)) : Committed request database receipt next := by
  simp only [retryTerminal, bind_eq_ok, pure_eq_ok, Prod.mk.injEq] at answered
  obtain ⟨_, validated, rfl, rfl⟩ := answered
  have grown := persistOrValidateTerminal_ifJournalled validated
  rw [same] at grown
  refine ⟨⟨stored.rows, database, durable, Paid.of_unsucceeded ?_,
    (Wrote.refl found).journalled grown⟩, ?_⟩
  · rintro ⟨⟩
  · rw [state_durable found durable]
    exact Accepted.closed ended fits

theorem completeCooperationOperation_committed (kept : database.Durable)
    (answered : completeCooperationOperation journal sessionId elapsedMs appendReplay database =
      .ok (receipt, next)) :
    Committed (.complete sessionId elapsedMs appendReplay) database receipt next := by
  simp only [completeCooperationOperation, bind_eq_ok, exists_unit] at answered
  obtain ⟨-, stored, loaded, _, -, answered⟩ := answered
  obtain ⟨same, found, durable⟩ := requireOperation_loaded kept loaded
  cases terminal : stored.state.terminal with
  | some outcome =>
      rw [terminal] at answered
      simp only [bind_eq_ok, exists_unit, rejectIf_eq_ok, not_not] at answered
      obtain ⟨-, rfl, retried⟩ := answered
      exact retryTerminal_committed same found durable terminal rfl retried
  | none =>
      rw [terminal] at answered
      simp only [bind_eq_ok, exists_unit, pure_eq_ok, Prod.mk.injEq] at answered
      obtain ⟨state, advanced, rewarded, rewards, -, closed, updated, _, journalled, rfl, rfl⟩ :=
        answered
      obtain ⟨given, performed⟩ := advanceWith_eq_ok.mp advanced
      obtain ⟨timely, phase, -, rfl, rfl⟩ := (completeWarden_answers terminal).mp performed
      obtain ⟨paid, both, grown⟩ := applySuccessRewards_paid rewards
      rw [same] at both grown
      have unchanged : rewarded.operations sessionId = some stored.rows := by
        rw [grown.operations, both.operations]
        exact found
      obtain ⟨-, checks, rfl⟩ := (updateParent_eq_ok unchanged).mp updated
      have ends := journalTerminal_ifJournalled journalled
      have sound : (Ending.succeeded elapsedMs).Sound stored.state := ⟨timely, phase⟩
      refine ⟨⟨_, paid, durable.ends terminal sound, ?_, (grown.write _).trans (same ▸ ends), ?_,
        ?_⟩, ?_⟩
      · cases both with
        | both anchor runner => exact Paid.both anchor runner
      · intro other stands
        rw [both.operations] at stands
        cases found.symm.trans stands
        rfl
      · intro checked
        rw [both.operations] at checked
        exact ⟨checks, (checked _ found).anchor, (checked _ found).runner,
          (checked _ found).distinct⟩
      · have before : database.state (Request.complete sessionId elapsedMs appendReplay).sessionId =
            some stored.state := state_durable found durable
        rw [before]
        exact Accepted.performed rfl performed

/-- The rows of an end that is a defeat show who was defeated. -/
def defeatedRows (rows : OperationRows) : TerminalOutcome → Option Role → OperationRows
  | .failedParticipantDefeated, some role => rows.withParticipant role 0 .defeated
  | _, _ => rows

theorem defeatedRows_characters (rows : OperationRows) (outcome : TerminalOutcome)
    (subjectRole : Option Role) :
    (defeatedRows rows outcome subjectRole).characters = rows.characters := by
  unfold defeatedRows
  split
  · next role => cases role <;> rfl
  · rfl

theorem defeatRows_eq_ok (found : database.operations sessionId = some rows)
    (marked : defeatRows sessionId outcome subjectRole database = .ok next) :
    next = database.write sessionId (defeatedRows rows outcome subjectRole) ∧
      (rows.Checked → (defeatedRows rows outcome subjectRole).Checked) := by
  unfold defeatRows at marked
  split at marked
  · next defeat =>
    subst defeat
    simp only [bind_eq_ok, require_eq_ok] at marked
    obtain ⟨role, rfl, updated⟩ := marked
    obtain ⟨checks, rfl⟩ := (updateParticipant_eq_ok found).mp updated
    refine ⟨rfl, fun checked => ?_⟩
    cases role with
    | anchor => exact ⟨checked.parent, checks, checked.runner, checked.distinct⟩
    | runner => exact ⟨checked.parent, checked.anchor, checks, checked.distinct⟩
  · next other =>
    cases marked
    have untouched : defeatedRows rows outcome subjectRole = rows := by
      cases outcome with
      | failedParticipantDefeated => exact absurd rfl other
      | succeeded | failedPingTimeout | failedReviveTimeout | failedOperationTimeout
      | abandonedDisconnect => rfl
    rw [untouched, write_same found]
    exact ⟨rfl, id⟩

theorem persistFailureTerminal_eq_ok (found : database.operations sessionId = some rows)
    (closed : persistFailureTerminal database sessionId outcome elapsedMs = .ok next) :
    next = database.write sessionId
      { rows with parent := closeParent outcome elapsedMs rows.parent } ∧
      (closeParent outcome elapsedMs rows.parent).Checks := by
  simp only [persistFailureTerminal, bind_eq_ok, exists_unit] at closed
  obtain ⟨-, checks, rfl⟩ := (updateParent_eq_ok found).mp closed.2.2
  exact ⟨rfl, checks⟩

/-- The operation that a failure asks for, and the rows its end leaves. -/
structure Fails (request : Request) (subjectRole : Option Role) (elapsedMs : Nat)
    (mutation : CooperationState → Except CooperationPersistenceError CooperationState) : Prop where
  asks : ∀ state next, mutation state = .ok next → ∃ operation,
    request.operation state = some operation ∧
    ((∃ given, perform operation state = (.ok given, next)) ∨
      ∃ outcome, perform operation state = (.error (.deadlineExpired outcome), next))
  leaves : ∀ owners rows state next outcome, Durable owners rows state → state.terminal = none →
    mutation state = .ok next → next.terminal = some outcome →
    Durable owners { defeatedRows rows outcome subjectRole with
      parent := closeParent outcome elapsedMs (defeatedRows rows outcome subjectRole).parent } next
  disposes : ∀ state given operation next, mutation state = .ok next → state.terminal = none →
    request.operation state = some operation → perform operation state = (.ok given, next) →
    reported operation given = .applied

theorem finishCooperationFailure_committed
    {mutation : CooperationState → Except CooperationPersistenceError CooperationState}
    (kept : database.Durable) (fails : Fails request subjectRole elapsedMs mutation)
    (answered : finishCooperationFailure journal request.sessionId elapsedMs subjectRole
      appendReplay request.ends mutation database = .ok (receipt, next)) :
    Committed request database receipt next := by
  simp only [finishCooperationFailure, bind_eq_ok, exists_unit] at answered
  obtain ⟨-, stored, loaded, _, -, answered⟩ := answered
  obtain ⟨same, found, durable⟩ := requireOperation_loaded kept loaded
  cases terminal : stored.state.terminal with
  | some outcome =>
      rw [terminal] at answered
      simp only [bind_eq_ok, exists_unit, rejectIf_eq_ok, Bool.not_eq_false] at answered
      obtain ⟨fits, -, retried⟩ := answered
      exact retryTerminal_committed same found durable terminal fits retried
  | none =>
      rw [terminal] at answered
      simp only [bind_eq_ok, exists_unit, pure_eq_ok, Prod.mk.injEq, require_eq_ok,
        rejectIf_eq_ok] at answered
      obtain ⟨state, mutated, outcome, ended, failed, defeated, marked, closed, closes, _, ends, rfl,
        rfl⟩ := answered
      obtain ⟨rfl, passes⟩ := defeatRows_eq_ok found marked
      obtain ⟨rfl, checks⟩ := persistFailureTerminal_eq_ok (write_operations _ _ _) closes
      have grown := journalTerminal_ifJournalled ends
      rw [same, write_write] at grown
      obtain ⟨operation, asked, performed⟩ := fails.asks _ _ mutated
      refine ⟨⟨_, database, fails.leaves _ _ _ _ _ durable terminal mutated ended,
        Paid.of_unsucceeded ?_, grown, ?_, ?_⟩, ?_⟩
      · rintro - succeeded
        exact failed (Option.some.inj (ended.symm.trans succeeded))
      · intro other stands
        cases found.symm.trans stands
        exact defeatedRows_characters _ _ _
      · intro checked
        obtain ⟨-, anchor, runner, distinct⟩ := passes (checked _ found)
        exact ⟨checks, anchor, runner, distinct⟩
      · rw [state_durable found durable]
        rcases performed with ⟨given, performed⟩ | ⟨outcome, missed⟩
        · have applied := fails.disposes _ _ _ _ mutated terminal asked performed
          rw [← applied]
          exact Accepted.performed asked performed
        · exact Accepted.expired asked missed

variable {state : CooperationState}

/-- A failed end that is a timeout leaves the participants' rows. -/
theorem Durable.timedOut {owners : String → Option String} {after : CooperationState}
    {operation : Operation} {other : TerminalOutcome} (durable : Durable owners rows state)
    (timed : operation.elapsedMs = some elapsedMs)
    (missed : perform operation state = (.error (.deadlineExpired other), after))
    (ended : after.terminal = some outcome) :
    Durable owners { defeatedRows rows outcome subjectRole with
      parent := closeParent outcome elapsedMs (defeatedRows rows outcome subjectRole).parent }
      after := by
  obtain ⟨named, timeout⟩ := unsucceeded_of_expired missed
  obtain rfl : other = outcome := Option.some.inj (named.symm.trans ended)
  have untouched : defeatedRows rows other subjectRole = rows := by
    cases other with
    | failedParticipantDefeated => cases timeout
    | succeeded | failedPingTimeout | failedReviveTimeout | failedOperationTimeout
    | abandonedDisconnect => rfl
  rw [untouched]
  exact durable.expires timed missed

theorem ending_eq_ok {operation : Operation} {after : CooperationState}
    (mutated : ending operation state = .ok after) :
    (∃ given, perform operation state = (.ok given, after)) ∨
      ∃ outcome, perform operation state = (.error (.deadlineExpired outcome), after) := by
  unfold ending at mutated
  rcases answered : perform operation state with ⟨result, left⟩
  rw [answered] at mutated
  cases result with
  | ok given =>
      cases mutated
      exact Or.inl ⟨given, rfl⟩
  | error failure =>
      cases failure with
      | deadlineExpired outcome =>
          cases mutated
          exact Or.inr ⟨outcome, rfl⟩
      | _ => cases mutated

theorem timingOut_eq_ok {after : CooperationState} (mutated : timingOut elapsedMs state = .ok after) :
    ∃ outcome, perform (.observeDeadlines elapsedMs) state =
      (.error (.deadlineExpired outcome), after) := by
  unfold timingOut at mutated
  rcases answered : perform (.observeDeadlines elapsedMs) state with ⟨result, left⟩
  rw [answered] at mutated
  cases result with
  | ok given => cases mutated
  | error failure =>
      cases failure with
      | deadlineExpired outcome =>
          cases mutated
          exact ⟨outcome, rfl⟩
      | _ => cases mutated

theorem timeout_fails (sessionId : String) (appendReplay : Bool) :
    Fails (.timeout sessionId elapsedMs appendReplay) none elapsedMs (timingOut elapsedMs) where
  asks := by
    intro state after mutated
    exact ⟨_, rfl, Or.inr (timingOut_eq_ok mutated)⟩
  leaves := by
    intro owners rows state after outcome durable live mutated ended
    obtain ⟨other, missed⟩ := timingOut_eq_ok mutated
    exact durable.timedOut rfl missed ended
  disposes := by
    intro state given operation after mutated live asked performed
    cases asked
    obtain ⟨other, missed⟩ := timingOut_eq_ok mutated
    cases missed.symm.trans performed

theorem defeat_fails (sessionId : String) (role : Role) (appendReplay : Bool) :
    Fails (.defeat sessionId role elapsedMs appendReplay) (some role) elapsedMs
      (ending (.defeatParticipant role elapsedMs)) where
  asks := by
    intro state after mutated
    exact ⟨_, rfl, ending_eq_ok mutated⟩
  leaves := by
    intro owners rows state after outcome durable live mutated ended
    rcases ending_eq_ok mutated with ⟨given, performed⟩ | ⟨other, missed⟩
    · obtain ⟨timely, phase, -, rfl⟩ := defeatParticipant_answers.mp performed
      cases ended
      have sound : (Ending.defeated role elapsedMs).Sound state := ⟨timely, phase⟩
      have laid := durable.ends live sound
      cases role <;> exact laid
    · exact durable.timedOut rfl missed ended
  disposes := by
    intro state given operation after mutated live asked performed
    cases asked
    obtain ⟨-, -, rfl, -⟩ := defeatParticipant_answers.mp performed
    rfl

theorem abandon_fails (sessionId : String) (role : Role) (appendReplay : Bool) :
    Fails (.abandon sessionId role elapsedMs appendReplay) (some role) elapsedMs
      (ending (.disconnect role elapsedMs)) where
  asks := by
    intro state after mutated
    exact ⟨_, rfl, ending_eq_ok mutated⟩
  leaves := by
    intro owners rows state after outcome durable live mutated ended
    rcases ending_eq_ok mutated with ⟨given, performed⟩ | ⟨other, missed⟩
    · obtain ⟨timely, -, rfl⟩ := (disconnect_answers role live).mp performed
      cases ended
      have sound : (Ending.abandoned elapsedMs).Sound state := timely
      exact durable.ends live sound
    · exact durable.timedOut rfl missed ended
  disposes := by
    intro state given operation after mutated live asked performed
    cases asked
    obtain ⟨-, rfl, -⟩ := (disconnect_answers role live).mp performed
    rfl

/-! ### Starts -/

variable {input : CooperationOperationInput} {anchor : CooperationParticipant}

theorem validateStartInput_eq_ok {runner : CooperationParticipant}
    (valid : validateStartInput input = .ok (anchor, runner)) :
    input.participants = [anchor, runner] := by
  unfold validateStartInput at valid
  split at valid
  · next first second pair =>
    simp only [bind_eq_ok, exists_unit, pure_eq_ok, Prod.mk.injEq] at valid
    obtain ⟨-, -, -, -, rfl, rfl⟩ := valid
    exact pair
  · cases valid

theorem validateStartedRetry_ifJournalled
    (checked : ifJournalled appendReplay (validateStartedRetry journal stored) database = .ok next) :
    next = database := by
  cases appendReplay with
  | true =>
      simp only [ifJournalled, if_true, validateStartedRetry, bind_eq_ok, exists_unit,
        pure_eq_ok] at checked
      obtain ⟨_, -, _, -, -, -, rfl⟩ := checked
      rfl
  | false =>
      cases checked
      rfl

theorem insertStart_eq_ok {runner : CooperationParticipant}
    (inserted : insertStart database input anchor runner = .ok next) :
    next = database.write input.sessionId (Admission.mk input anchor runner).rows ∧
      (Admission.mk input anchor runner).rows.Checked := by
  simp only [insertStart, bind_eq_ok, exists_unit, rejectIf_eq_ok, not_or, pure_eq_ok,
    not_not] at inserted
  obtain ⟨checks, -, anchorChecks, -, ⟨runnerChecks, -, distinct, -⟩, rfl⟩ := inserted
  exact ⟨rfl, checks, anchorChecks, runnerChecks, distinct⟩

theorem insertStartedReplay_journalled {started : Option CooperationStartedPayload}
    (inserted : insertStartedReplay journal input anchor started database = .ok next) :
    Journalled input.sessionId database next := by
  cases started with
  | none =>
      cases inserted
      exact Journalled.refl _ _
  | some payload =>
      simp only [insertStartedReplay, bind_eq_ok, exists_unit, pure_eq_ok] at inserted
      obtain ⟨_, appended, _, -, -, rfl⟩ := inserted
      exact insertCooperationEvent_journalled appended

theorem startCooperationOperation_committed (kept : database.Durable)
    (answered : startCooperationOperation journal input appendReplay database = .ok (receipt, next)) :
    Committed (.start input appendReplay) database receipt next := by
  simp only [startCooperationOperation, bind_eq_ok, exists_unit, liftDomain_eq_ok] at answered
  obtain ⟨-, ⟨anchor, runner⟩, valid, state, begun, loaded, found, answered⟩ := answered
  have pair := validateStartInput_eq_ok valid
  cases loaded with
  | some stored =>
      simp only [bind_eq_ok, exists_unit, pure_eq_ok, Prod.mk.injEq] at answered
      obtain ⟨retried, -, validated, checked, rfl, rfl⟩ := answered
      obtain rfl := validateStartedRetry_ifJournalled checked
      obtain ⟨-, stands, durable⟩ := loadOperation_loaded kept found
      have before : validated.state (Request.start input appendReplay).sessionId =
          some stored.state := state_durable stands durable
      refine ⟨⟨stored.rows, validated, durable, Paid.of_unsucceeded ?_, Wrote.refl stands⟩, ?_⟩
      · rintro ⟨⟩
      · simp only [validateStartRetry, bind_eq_ok, liftDomain_eq_ok] at retried
        obtain ⟨disposition, same, -⟩ := retried
        cases CooperationState.retryAnswer_replayed same
        rw [before]
        exact Accepted.restarted rfl pair same
  | none =>
      simp only [bind_eq_ok, exists_unit, pure_eq_ok, Prod.mk.injEq, rejectIf_eq_ok,
        require_eq_ok, not_not] at answered
      obtain ⟨-, -, started, -, -, inserted, inserts, journalled, journals, _, loads, stored, rfl,
        same, rfl, rfl⟩ := answered
      obtain ⟨rfl, checked⟩ := insertStart_eq_ok inserts
      have grown := insertStartedReplay_journalled journals
      have absent : database.operations input.sessionId = none := by
        unfold loadOperation at found
        split at found
        · assumption
        · simp only [bind_eq_ok, pure_eq_ok, reduceCtorEq, and_false, exists_false] at found
      have wrote : Wrote input.sessionId (Admission.mk input anchor runner).rows database
          journalled := by
        refine ⟨grown, ?_, fun _ => checked⟩
        intro other stands
        cases absent.symm.trans stands
      have durable : Durable database.owners (Admission.mk input anchor runner).rows state := by
        unfold loadOperation at loads
        rw [wrote.stored, wrote.owners] at loads
        simp only [bind_eq_ok, pure_eq_ok, Option.some.injEq] at loads
        obtain ⟨left, reconstructed, rfl⟩ := loads
        subst same
        exact durable_of_fresh reconstructed
      have before : database.state (Request.start input appendReplay).sessionId = none :=
        state_none absent
      refine ⟨⟨_, database, durable, Paid.of_unsucceeded ?_, wrote⟩, ?_⟩
      · intro _ ended
        have fresh : state = (Admission.mk input anchor runner).initial :=
          Admission.initial_of_start begun
        rw [fresh] at ended
        cases ended
      · rw [before]
        exact Accepted.started rfl pair begun

/-! ### Every request -/

theorem answer_committed (kept : database.Durable)
    (answered : answer journal request database = .ok (receipt, next)) :
    Committed request database receipt next := by
  cases request with
  | start input appendReplay => exact startCooperationOperation_committed kept answered
  | arriveAnchor sessionId elapsedMs =>
      refine mutateCooperation_committed kept (fun _ start held => ⟨_, rfl, ?_, ?_, ?_⟩) answered
      · unfold anchorOperation; split <;> rfl
      · unfold anchorOperation; split <;> rintro _ ⟨⟩
      · rw [← held.durable.arrivals.1]
        exact arriveAnchorMutation_mirrors held
  | ping sessionId operationId elapsedMs appendReplay =>
      exact mutateCooperation_committed kept (fun _ start held =>
        ⟨_, rfl, rfl, by rintro _ ⟨⟩, pingMutation_mirrors operationId held⟩) answered
  | downRunner sessionId elapsedMs appendReplay =>
      refine mutateCooperation_committed kept (fun _ start held => ⟨_, rfl, ?_, ?_, ?_⟩) answered
      · unfold runnerOperation; split <;> rfl
      · unfold runnerOperation; split <;> rintro _ ⟨⟩
      · rw [← held.durable.arrivals.2]
        exact downRunnerMutation_mirrors held
  | startRevive sessionId operationId distanceSquared elapsedMs =>
      exact mutateCooperation_committed kept (fun _ start held =>
        ⟨_, rfl, rfl, by rintro _ ⟨⟩, startReviveMutation_mirrors operationId distanceSquared held⟩)
        answered
  | observeRevive sessionId operationId distanceSquared elapsedMs appendReplay =>
      exact mutateCooperation_committed kept (fun _ start held =>
        ⟨_, rfl, rfl, by rintro _ ⟨⟩, observeReviveMutation_mirrors operationId distanceSquared held⟩)
        answered
  | complete sessionId elapsedMs appendReplay =>
      exact completeCooperationOperation_committed kept answered
  | timeout sessionId elapsedMs appendReplay =>
      exact finishCooperationFailure_committed kept (timeout_fails sessionId appendReplay) answered
  | defeat sessionId role elapsedMs appendReplay =>
      exact finishCooperationFailure_committed kept (defeat_fails sessionId role appendReplay) answered
  | abandon sessionId role elapsedMs appendReplay =>
      exact finishCooperationFailure_committed kept (abandon_fails sessionId role appendReplay)
        answered

end Requests

/-! ## Runs -/

section Runs

variable {journal : Journalling} {database : Database}

namespace Committed

variable {request : Request} {receipt : CooperationReceipt} {next : Database}

theorem owners (committed : Committed request database receipt next) :
    next.owners = database.owners := by
  obtain ⟨rows, paid, -, pays, wrote⟩ := committed.written
  rw [wrote.owners, pays.owners]

theorem operations (committed : Committed request database receipt next) :
    ∃ rows, Durable database.owners rows receipt.state ∧
      next.operations = Function.update database.operations request.sessionId (some rows) := by
  obtain ⟨rows, paid, durable, pays, wrote⟩ := committed.written
  exact ⟨rows, durable, by rw [wrote.operations, pays.operations]⟩

/-- The receipt shows the state the session loads as from now on. -/
theorem state_self (committed : Committed request database receipt next) :
    next.state request.sessionId = some receipt.state := by
  obtain ⟨rows, durable, operations⟩ := committed.operations
  refine state_durable ?_ (committed.owners ▸ durable)
  rw [operations, Function.update_self]

theorem state_other {other : String} (committed : Committed request database receipt next)
    (apart : other ≠ request.sessionId) : next.state other = database.state other := by
  obtain ⟨rows, -, operations⟩ := committed.operations
  exact state_frame operations committed.owners apart

theorem keeps (committed : Committed request database receipt next) (kept : database.Durable) :
    next.Durable := by
  obtain ⟨rows, durable, operations⟩ := committed.operations
  intro sessionId stored found
  rw [operations] at found
  rw [committed.owners]
  by_cases same : sessionId = request.sessionId
  · subst same
    rw [Function.update_self] at found
    cases found
    exact ⟨_, durable⟩
  · rw [Function.update_of_ne same] at found
    exact kept sessionId stored found

end Committed

/-- One move either leaves the database, or commits a request, or lets another
part of the server append to the journal. -/
theorem act_cases (journal : Journalling) (kept : database.Durable) (move : Move) :
    (∃ failure, act journal move database = (.error failure, database)) ∨
    (∃ request receipt next, move = .request request ∧
      act journal move database = (.ok (some receipt), next) ∧
      Committed request database receipt next) ∨
    ∃ event foreign, move = .record event foreign ∧
      act journal move database = (.ok none, database.append event) := by
  cases move with
  | request request =>
      cases answered : answer journal request database with
      | error failure =>
          exact Or.inl ⟨failure, Call.bind_of_error (Call.commit_of_error answered)⟩
      | ok pair =>
          exact Or.inr (Or.inl ⟨request, pair.1, pair.2, rfl,
            Call.bind_of_ok (Call.commit_of_ok answered), answer_committed kept answered⟩)
  | record event foreign => exact Or.inr (Or.inr ⟨event, foreign, rfl, rfl⟩)

theorem act_keeps (move : Move) (database : Database) (kept : database.Durable) :
    (act journal move database).2.Durable := by
  rcases act_cases journal kept move with
    ⟨failure, refused⟩ | ⟨request, receipt, next, rfl, answered, committed⟩ |
      ⟨event, foreign, rfl, appended⟩
  · rw [refused]
    exact kept
  · rw [answered]
    exact committed.keeps kept
  · rw [appended]
    exact kept

theorem durable_of_empty (empty : ∀ sessionId, database.operations sessionId = none) :
    database.Durable := by
  intro sessionId rows found
  rw [empty] at found
  cases found

/-- From a database without cooperations, after any moves: every stored session
loads, and a request either changes nothing or does to the state its session
loads as what the domain does to it, and to no other session. -/
theorem cooperation_store_refines (journal : Journalling) (moves : List Move)
    (database : Database) (empty : ∀ sessionId, database.operations sessionId = none) :
    let reached := Call.final (act journal) moves database
    (∀ sessionId rows, reached.operations sessionId = some rows →
      ∃ state, loadOperation reached sessionId = .ok (some { sessionId, rows, state })) ∧
    ∀ request,
      (∃ failure, handle journal request reached = (.error failure, reached)) ∨
      ∃ receipt next, handle journal request reached = (.ok receipt, next) ∧
        Accepted request (reached.state request.sessionId) receipt ∧
        next.state request.sessionId = some receipt.state ∧
        ∀ other, other ≠ request.sessionId → next.state other = reached.state other := by
  intro reached
  have kept : reached.Durable :=
    Call.final_keeps Database.Durable act_keeps moves (durable_of_empty empty)
  constructor
  · intro sessionId rows found
    obtain ⟨state, durable⟩ := kept sessionId rows found
    exact ⟨state, loadOperation_durable found durable⟩
  · intro request
    cases answered : answer journal request reached with
    | error failure => exact Or.inl ⟨failure, Call.commit_of_error answered⟩
    | ok pair =>
        have committed := answer_committed kept answered
        exact Or.inr ⟨pair.1, pair.2, Call.commit_of_ok answered, committed.accepted,
          committed.state_self, fun _ apart => committed.state_other apart⟩

/-! ### A squad of two -/

/-- Two characters whose tables hold no cooperation and no reward. -/
def squadDatabase : Database :=
  { owners := fun characterId =>
      if characterId = "anchor-character" then some "anchor-account"
      else if characterId = "runner-character" then some "runner-account" else none
    operations := fun _ => none
    rewardGrants := []
    experienceGrants := []
    fragments := fun _ => 0
    progression := fun _ => some { level := 1, experience := 0 }
    replayEvents := []
    sequence := 1 }

def squadAnchor : CooperationParticipant :=
  { accountId := "anchor-account", characterId := "anchor-character", actorId := 10
    weaponItemId := "pulse_rifle", modules := [], currentHealth := 100
    profile := { damage := 40, range := 6, cooldownMs := 250, maxHealth := 100 } }

def squadRunner : CooperationParticipant :=
  { accountId := "runner-account", characterId := "runner-character", actorId := 20
    weaponItemId := "arc_sidearm", modules := [], currentHealth := 100
    profile := { damage := 25, range := 8, cooldownMs := 150, maxHealth := 100 } }

def squadInput : CooperationOperationInput :=
  { sessionId := "coop-session", activityId := cooperationActivityId
    requesterAccountId := "anchor-account", operationId := "coop-start-1"
    participants := [squadAnchor, squadRunner] }

/-- Everything up to the warden, in a session that journals nothing. -/
def squadMoves : List Move :=
  [.request (.start squadInput false), .request (.arriveAnchor "coop-session" 500),
   .request (.ping "coop-session" "coop-ping-1" 1000 false),
   .request (.downRunner "coop-session" 4000 false),
   .request (.startRevive "coop-session" "coop-revive-1" 1 5000),
   .request (.observeRevive "coop-session" "coop-revive-1" 1 7000 false)]

/-- Texts that tell the evidence apart; the modules are read by their own reader. -/
def squadJournal : Journalling where
  serialize
    | .started payload => "started " ++ payload.startOperationId
    | .pinged payload => "pinged " ++ payload.pingOperationId
    | .downed payload => "downed " ++ payload.participantId
    | .revived payload => "revived " ++ payload.reviveOperationId
    | .terminal payload => "terminal " ++ toString payload.terminalElapsedMs
  others rows := (reconstructModules rows).map (fun _ => ())

/-- A row that the rest of the server writes for a participant of the squad. -/
def squadRow (kind : ReplayEventKind) (participant : CooperationParticipant) (payload : Payload)
    (id : Int) : CooperationEvent :=
  { row :=
      { id, kind, sessionId := "coop-session", accountId := participant.accountId
        activityId := some cooperationActivityId, actorId := some participant.actorId, payload }
    evidence := { value := none, length := 1800 } }

/-- What the joining of a participant leaves in the journal. -/
def squadJoins (participant : CooperationParticipant) : List Move :=
  [.record (squadRow .playerJoined participant (.text "player joined")) (fun _ => rfl),
   .record (squadRow .moduleStateSnapshot participant (.module
      { value := (moduleStateEvidence 0 [] [] 0 .v2).toOption.map (fun state =>
          .stateSnapshot
            { schemaVersion := moduleReplaySchemaVersion, characterId := participant.characterId
              protocolGeneration := .v2, state })
        length := 1800 })) (fun _ => rfl)]

/-- The squad in a session that journals its cooperation. -/
def journalledMoves : List Move :=
  squadInput.participants.flatMap squadJoins ++
  [.record (squadRow .activityStarted squadAnchor (.text "activity started")) (fun _ => rfl),
   .record (squadRow .enemyDied squadAnchor (.text "enemy died: relay_drone")) (fun _ => rfl),
   .request (.start squadInput true), .request (.arriveAnchor "coop-session" 500),
   .request (.ping "coop-session" "coop-ping-1" 1000 true),
   .request (.downRunner "coop-session" 4000 true),
   .request (.startRevive "coop-session" "coop-revive-1" 1 5000),
   .request (.observeRevive "coop-session" "coop-revive-1" 1 7000 true)]

/-- The journalled squad ends in success: the request is answered as the domain
answers it, and the last row of the journal is that end. -/
theorem cooperation_store_refines_squad :
    let request := Request.complete "coop-session" 12000 true
    let reached := Call.final (act squadJournal) journalledMoves squadDatabase
    ∃ receipt next, handle squadJournal request reached = (.ok receipt, next) ∧
      receipt.state.terminal = some .succeeded ∧
      (next.stream "coop-session").getLast?.map (·.row.kind) = some .cooperationSucceeded ∧
      Accepted request (reached.state request.sessionId) receipt ∧
      next.state request.sessionId = some receipt.state := by
  intro request reached
  have ends : (handle squadJournal request reached).1.toOption.map
      (fun receipt => receipt.state.terminal) = some (some .succeeded) := by
    decide +kernel
  have journalled : ((handle squadJournal request reached).2.stream "coop-session").getLast?.map
      (·.row.kind) = some .cooperationSucceeded := by
    decide +kernel
  rcases (cooperation_store_refines squadJournal journalledMoves squadDatabase
      (fun _ => rfl)).2 request with
    ⟨failure, refused⟩ | ⟨receipt, next, answered, accepted, leads, -⟩
  · rw [refused] at ends
    cases ends
  · rw [answered] at ends journalled
    exact ⟨receipt, next, answered, Option.some.inj ends, journalled, accepted, leads⟩

end Runs

end Cooperative
end Persistence
end Revenant
