import Revenant.Replay.Session

namespace Revenant
namespace Persistence

open Library Replay

/-!
# Module persistence

The durable rows of a character are a module state with its operation ledgers.
Every mutation loads them, asks the domain, and appends the evidence of the
change in the same transaction: when one part fails, nothing is written.

The evidence is built from the rows as they stand after the change, and its
text is bounded before it is appended.  `jsonBytes` stands for the length that
the serializer gives it.
-/

structure PersistedModuleState where
  fragments : Nat
  ownedModules : List ModuleId
  loadout : List ModuleId
  revision : Nat
  combinationOperations : Nat
  loadoutOperations : Nat
  deriving DecidableEq

inductive ModulePersistenceError where
  | domain (error : ModuleMutationError)
  | invalidPersistedState (reason : String)
  | replay (error : ReplayError)
  deriving DecidableEq

def liftDomain {Value : Type} (answer : Except ModuleMutationError Value) :
    Except ModulePersistenceError Value :=
  match answer with
  | .ok value => .ok value
  | .error failure => .error (.domain failure)

def liftReplay {Value : Type} (answer : Except ReplayError Value) :
    Except ModulePersistenceError Value :=
  match answer with
  | .ok value => .ok value
  | .error failure => .error (.replay failure)

/-- The domain state of loaded rows, without the ledgers. -/
def moduleStateFromPersisted (persisted : PersistedModuleState) :
    Except ModulePersistenceError ModuleState :=
  match ModuleState.new persisted.fragments persisted.ownedModules persisted.loadout
      persisted.revision with
  | .ok state => .ok state
  | .error failure => .error (.invalidPersistedState failure.text)

/-- The rows as a load returns them. -/
def persistedView (row : ModuleState) : PersistedModuleState :=
  { fragments := row.fragments, ownedModules := row.ownedModules, loadout := row.loadout
    revision := row.revision, combinationOperations := row.combinationOperations.length
    loadoutOperations := row.loadoutOperations.length }

/-- Load the rows of a character; the slots must be in canonical order. -/
def loadPersistedModuleState (row : ModuleState) :
    Except ModulePersistenceError PersistedModuleState := do
  rejectIf (canonicalizeLoadout row.loadout ≠ .ok row.loadout)
    (.invalidPersistedState "module slots are not in canonical family order")
  let _ ← moduleStateFromPersisted (persistedView row)
  return persistedView row

/-- Whether clients under a catalog see a module. -/
def shown (catalog : Option CatalogRevision) (moduleId : ModuleId) : Bool :=
  match catalog with
  | some .m26v1 => decide (moduleId ∈ ModuleId.legacy)
  | some .m31v1 | some .m35v1 => decide (moduleId ∈ ModuleId.content)
  | _ => true

/-- What a negotiated catalog shows of the owned modules. -/
def negotiatedOwnership (catalogRevision : String) (ownedModules : List ModuleId) :
    List ModuleId :=
  ownedModules.filter (shown (CatalogRevision.named catalogRevision))

def moduleReplayState (persisted : PersistedModuleState) (generation : ReplayProtocolGeneration)
    (catalogRevision : Option String) : Except ReplayError ReplayModuleStateEvidence :=
  match catalogRevision with
  | some revision =>
      moduleStateEvidenceForCatalog revision persisted.fragments
        (negotiatedOwnership revision persisted.ownedModules) persisted.loadout persisted.revision
        generation
  | none =>
      moduleStateEvidence persisted.fragments persisted.ownedModules persisted.loadout
        persisted.revision generation

/-! ## The rows of one session -/

/-- An account the identity service issued: `local:` and at most 32 letters. -/
structure Account where
  id : String
  bounded : id.utf8ByteSize ≤ 38

/-- The only character an account owns. -/
def Account.character (account : Account) : String := account.id ++ ":operator"

/-- The module rows of all characters and the journal of one session.  The
sequence hands out the event identifiers. -/
structure ModuleStore where
  modules : String → ModuleState
  journal : List ReplayEvent
  sequence : Int

structure ModuleReplayContext where
  catalogRevision : Option String
  sessionId : String
  account : Account
  activityId : String
  actorId : Nat

def ModuleStore.replayEvent (store : ModuleStore) (context : ModuleReplayContext)
    (kind : ReplayEventKind) (payload : Payload) : ReplayEvent :=
  { id := store.sequence, kind, sessionId := context.sessionId, accountId := context.account.id
    activityId := some context.activityId, actorId := some context.actorId, payload }

def ModuleStore.insertReplayEvent (store : ModuleStore) (context : ModuleReplayContext)
    (kind : ReplayEventKind) (payload : Payload) : ModuleStore :=
  { store with
    journal := store.journal ++ [store.replayEvent context kind payload]
    sequence := store.sequence + 1 }

def ModuleStore.write (store : ModuleStore) (characterId : String) (row : ModuleState) :
    ModuleStore :=
  { store with modules := Function.update store.modules characterId row }

namespace ModuleStore

@[simp] theorem write_journal (store : ModuleStore) (characterId : String) (row : ModuleState) :
    (store.write characterId row).journal = store.journal := rfl

@[simp] theorem write_sequence (store : ModuleStore) (characterId : String) (row : ModuleState) :
    (store.write characterId row).sequence = store.sequence := rfl

@[simp] theorem write_same (store : ModuleStore) (characterId : String) (row : ModuleState) :
    (store.write characterId row).modules characterId = row := by
  simp only [write, Function.update_self]

@[simp] theorem insertReplayEvent_modules (store : ModuleStore) (context : ModuleReplayContext)
    (kind : ReplayEventKind) (payload : Payload) :
    (store.insertReplayEvent context kind payload).modules = store.modules := rfl

end ModuleStore

def plainActivityId (activityId : String) : Bool :=
  decide (activityId ≠ "") && decide (activityId.utf8ByteSize ≤ 64) &&
    activityId.toList.all (fun letter => letter.isAlphanum || letter == '_')

def validateModuleReplayIdentity (context : ModuleReplayContext) :
    Except ModulePersistenceError Unit :=
  rejectIf (plainSessionId context.sessionId = false ∨ plainActivityId context.activityId = false ∨
      context.actorId = 0)
    (.invalidPersistedState "module replay session, activity, or actor identity is invalid")

def ensureCharacterAccount (characterId : String) (account : Account) :
    Except ModulePersistenceError Unit :=
  rejectIf (characterId ≠ account.character)
    (.invalidPersistedState "module replay account does not own the character")

/-- The snapshot of the participant, with a completion behind it. -/
def snapshotBefore (context : ModuleReplayContext) (journal : List ReplayEvent) : Bool :=
  journal.any (fun snapshot =>
    decide (snapshot.kind = .moduleStateSnapshot) &&
    decide (snapshot.sessionId = context.sessionId) &&
    decide (snapshot.accountId = context.account.id) &&
    decide (snapshot.activityId = some context.activityId) &&
    decide (snapshot.actorId = some context.actorId) &&
    journal.any (fun completed =>
      decide (completed.sessionId = snapshot.sessionId) &&
      decide (completed.kind = .activityCompleted) && decide (completed.id > snapshot.id)))

def validateModuleMutationReplayContext (store : ModuleStore) (characterId : String)
    (context : ModuleReplayContext) : Except ModulePersistenceError Unit := do
  validateModuleReplayIdentity context
  ensureCharacterAccount characterId context.account
  rejectIf (snapshotBefore context store.journal = false) (.invalidPersistedState
    "module mutation replay has no matching completed participant snapshot")

/-- The text of a loot event of relay fragments. -/
def fragmentLoot (quantity total : Nat) : String :=
  "loot granted: relay_core_fragment x" ++ Nat.repr quantity ++ " (total " ++ Nat.repr total ++ ")"

/-- Add fragments to the inventory, whose quantities are signed 32-bit words. -/
def grantFragments (store : ModuleStore) (context : ModuleReplayContext) (quantity : Nat) :
    Except ModulePersistenceError ModuleStore := do
  let row := store.modules context.account.character
  let total := row.fragments + quantity
  rejectIf (total > maxFragments) (.invalidPersistedState "integer out of range")
  return (store.write context.account.character { row with fragments := total }).insertReplayEvent
    context .lootGranted (.text (fragmentLoot quantity total))

section Operations

-- the bytes of the serialized payload
variable (jsonBytes : ModuleReplayPayload → Nat)

def encodeModulePayload (payload : ModuleReplayPayload) : Except ReplayError Payload := do
  rejectIf (jsonBytes payload > maxModuleReplayPayloadBytes)
    (invalidModule "module replay payload exceeds 8192 UTF-8 bytes")
  return .module { value := some payload, length := jsonBytes payload }

/-- Append a joining and the snapshot of the player's modules. -/
def appendPlayerJoinedWithModuleSnapshot (store : ModuleStore) (characterId : String)
    (context : ModuleReplayContext) (generation : ReplayProtocolGeneration) :
    Except ModulePersistenceError ModuleStore := do
  validateModuleReplayIdentity context
  ensureCharacterAccount characterId context.account
  rejectIf (∃ event ∈ store.journal, event.kind = .moduleStateSnapshot ∧
      event.sessionId = context.sessionId ∧ event.accountId = context.account.id ∧
      event.actorId = some context.actorId)
    (.invalidPersistedState "participant module snapshot is already persisted")
  let persisted ← loadPersistedModuleState (store.modules characterId)
  let state ← liftReplay (moduleReplayState persisted generation context.catalogRevision)
  let snapshot ← liftReplay (encodeModulePayload jsonBytes (.stateSnapshot
    { schemaVersion := moduleReplaySchemaVersion, characterId, protocolGeneration := generation
      state }))
  return (store.insertReplayEvent context .playerJoined (.text "player joined")).insertReplayEvent
    context .moduleStateSnapshot snapshot

def combinedEvidence (characterId operationId : String) (moduleId : ModuleId)
    (persisted : PersistedModuleState) (outcome : CombinationOutcome)
    (context : ModuleReplayContext) : Except ReplayError Payload := do
  let before ← moduleReplayState persisted .v2 context.catalogRevision
  let after ← moduleStateEvidenceForCatalog before.catalogRevision outcome.resultingFragments
    (before.ownedModules ++ [moduleId]) persisted.loadout persisted.revision .v2
  encodeModulePayload jsonBytes (.combined
    { schemaVersion := moduleReplaySchemaVersion, characterId, operationId, moduleId
      recipeFragments := outcome.recipeFragments, before, after })

def insertModuleCombinedReplay (store : ModuleStore) (characterId operationId : String)
    (moduleId : ModuleId) (persisted : PersistedModuleState) (outcome : CombinationOutcome)
    (context : ModuleReplayContext) : Except ModulePersistenceError ModuleStore := do
  let payload ← liftReplay
    (combinedEvidence jsonBytes characterId operationId moduleId persisted outcome context)
  return store.insertReplayEvent context .moduleCombined payload

def loadoutEvidence (characterId operationId : String) (persisted : PersistedModuleState)
    (outcome : LoadoutOutcome) (context : ModuleReplayContext) : Except ReplayError Payload := do
  let before ← moduleReplayState persisted .v2 context.catalogRevision
  let after ← moduleStateEvidenceForCatalog before.catalogRevision persisted.fragments
    before.ownedModules outcome.resultingModules outcome.resultingRevision .v2
  encodeModulePayload jsonBytes (.loadoutChanged
    { schemaVersion := moduleReplaySchemaVersion, characterId, operationId, before, after })

def insertModuleLoadoutReplay (store : ModuleStore) (characterId operationId : String)
    (persisted : PersistedModuleState) (outcome : LoadoutOutcome) (context : ModuleReplayContext) :
    Except ModulePersistenceError ModuleStore := do
  let payload ← liftReplay
    (loadoutEvidence jsonBytes characterId operationId persisted outcome context)
  return store.insertReplayEvent context .moduleLoadoutChanged payload

/-- One combination transaction.  The inventory, the new module and the ledger
row are written as the domain computed them. -/
def combineModuleWithReplay (store : ModuleStore) (characterId : String) (phase : ModulePhase)
    (operationId : String) (moduleId : ModuleId) (context : ModuleReplayContext) :
    Except ModulePersistenceError (OperationReceipt CombinationOutcome × ModuleStore) := do
  liftDomain (validateOperationId operationId)
  let row := store.modules characterId
  match row.combinationOperations.lookup operationId with
  | some stored =>
      rejectIf (stored.moduleId ≠ moduleId) (.domain .idempotencyConflict)
      return ({ disposition := .replayed, outcome := stored.outcome }, store)
  | none =>
      let persisted ← loadPersistedModuleState row
      let state ← moduleStateFromPersisted persisted
      let (receipt, next) ← liftDomain (state.combine phase operationId moduleId)
      rejectIf (persisted.combinationOperations ≥ maxOperationRecordsPerKind)
        (.domain .operationLimitReached)
      validateModuleMutationReplayContext store characterId context
      let written := store.write characterId
        { row with
          fragments := next.fragments
          owned := next.owned
          combinationOperations :=
            (operationId, ⟨moduleId, receipt.outcome⟩) :: row.combinationOperations }
      let journaled ← insertModuleCombinedReplay jsonBytes written characterId operationId moduleId
        persisted receipt.outcome context
      return (receipt, journaled)

/-- One loadout transaction. -/
def setModuleLoadoutWithReplay (store : ModuleStore) (characterId : String) (phase : ModulePhase)
    (operationId : String) (expectedRevision : Nat) (requested : List ModuleId)
    (context : ModuleReplayContext) :
    Except ModulePersistenceError (OperationReceipt LoadoutOutcome × ModuleStore) := do
  liftDomain (validateOperationId operationId)
  let modules ← liftDomain (canonicalLoadout requested)
  let row := store.modules characterId
  match row.loadoutOperations.lookup operationId with
  | some stored =>
      rejectIf (stored.expectedRevision ≠ expectedRevision ∨ stored.modules ≠ modules)
        (.domain .idempotencyConflict)
      return ({ disposition := .replayed, outcome := stored.outcome }, store)
  | none =>
      let persisted ← loadPersistedModuleState row
      let state ← moduleStateFromPersisted persisted
      let (receipt, next) ← liftDomain (state.setLoadout phase operationId expectedRevision modules)
      rejectIf (persisted.loadoutOperations ≥ maxOperationRecordsPerKind)
        (.domain .operationLimitReached)
      validateModuleMutationReplayContext store characterId context
      let written := store.write characterId
        { row with
          loadout := next.loadout
          revision := next.revision
          loadoutOperations :=
            (operationId, ⟨expectedRevision, modules, receipt.outcome⟩) :: row.loadoutOperations }
      let journaled ← insertModuleLoadoutReplay jsonBytes written characterId operationId persisted
        receipt.outcome context
      return (receipt, journaled)

end Operations

/-! ## What a transaction leaves -/

theorem liftDomain_eq_ok {Value : Type} {answer : Except ModuleMutationError Value}
    {value : Value} : liftDomain answer = .ok value ↔ answer = .ok value := by
  cases answer <;> simp [liftDomain]

theorem liftReplay_eq_ok {Value : Type} {answer : Except ReplayError Value} {value : Value} :
    liftReplay answer = .ok value ↔ answer = .ok value := by
  cases answer <;> simp [liftReplay]

/-- A joining appends two rows: that of the player and that of the player's
modules, whose payload is module evidence. -/
theorem join_appends {jsonBytes : ModuleReplayPayload → Nat} {store after : ModuleStore}
    {characterId : String} {context : ModuleReplayContext} {generation : ReplayProtocolGeneration}
    (appended : appendPlayerJoinedWithModuleSnapshot jsonBytes store characterId context generation =
      .ok after) :
    ∃ snapshot, after = (store.insertReplayEvent context .playerJoined
      (.text "player joined")).insertReplayEvent context .moduleStateSnapshot (.module snapshot) := by
  simp only [appendPlayerJoinedWithModuleSnapshot, encodeModulePayload, bind_eq_ok, exists_unit,
    rejectIf_eq_ok, pure_eq_ok, liftReplay_eq_ok] at appended
  obtain ⟨-, -, -, -, -, state, -, snapshot, ⟨-, rfl⟩, rfl⟩ := appended
  exact ⟨_, rfl⟩

theorem validateOperationId_eq_ok {operationId : String} :
    validateOperationId operationId = .ok () ↔ plainOperationId operationId = true := by
  simp only [validateOperationId, rejectIf_eq_ok, Bool.not_eq_false]

/-- The rows without their operation history. -/
def forgetful (row : ModuleState) : ModuleState :=
  { row with combinationOperations := [], loadoutOperations := [] }

theorem moduleStateFromPersisted_iff {row state : ModuleState}
    (canonical : canonicalizeLoadout row.loadout = .ok row.loadout) :
    moduleStateFromPersisted (persistedView row) = .ok state ↔
      row.Sound ∧ state = forgetful row := by
  have lifted : moduleStateFromPersisted (persistedView row) = .ok state ↔
      ModuleState.new row.fragments row.ownedModules row.loadout row.revision = .ok state := by
    unfold moduleStateFromPersisted
    split
    · next built => simp only [persistedView] at built; rw [built, Except.ok.injEq, Except.ok.injEq]
    · next refused => simp only [persistedView] at refused; simp only [refused, reduceCtorEq]
  rw [lifted, ModuleState.new_iff]
  simp only [ModuleState.ownedModules, toFinset_inDeclaredOrder, mem_inDeclaredOrder]
  constructor
  · rintro ⟨-, loadout, accepted, equipped, rfl⟩
    have same : row.loadout = loadout := Except.ok.inj (canonical.symm.trans accepted)
    subst same
    exact ⟨⟨canonical, equipped⟩, rfl⟩
  · rintro ⟨sound, rfl⟩
    exact ⟨nodup_inDeclaredOrder _, row.loadout, canonical, sound.equipped, rfl⟩

theorem loadPersistedModuleState_iff {row : ModuleState} {persisted : PersistedModuleState} :
    loadPersistedModuleState row = .ok persisted ↔ row.Sound ∧ persisted = persistedView row := by
  simp only [loadPersistedModuleState, bind_eq_ok, exists_unit, rejectIf_eq_ok, pure_eq_ok, not_not]
  constructor
  · rintro ⟨canonical, state, loaded, rfl⟩
    exact ⟨((moduleStateFromPersisted_iff canonical).mp loaded).1, rfl⟩
  · rintro ⟨sound, rfl⟩
    exact ⟨sound.canonical, _, (moduleStateFromPersisted_iff sound.canonical).mpr ⟨sound, rfl⟩, rfl⟩

/-- A combination that is committed: the ledger answered, or the rows and the
journal took the new module. -/
inductive CombinationCommit (jsonBytes : ModuleReplayPayload → Nat) (store : ModuleStore)
    (characterId : String) (phase : ModulePhase) (operationId : String) (moduleId : ModuleId)
    (context : ModuleReplayContext) : OperationReceipt CombinationOutcome → ModuleStore → Prop
  | replayed (stored : StoredCombination)
      (known : (store.modules characterId).combinationOperations.lookup operationId = some stored)
      (same : stored.moduleId = moduleId) :
      CombinationCommit jsonBytes store characterId phase operationId moduleId context
        ⟨.replayed, stored.outcome⟩ store
  | applied (payload : Payload)
      (unknown : (store.modules characterId).combinationOperations.lookup operationId = none)
      (sound : (store.modules characterId).Sound) (complete : phase = .complete)
      (combines : (store.modules characterId).Combines moduleId)
      (ready : validateModuleMutationReplayContext store characterId context = .ok ())
      (evidenced : combinedEvidence jsonBytes characterId operationId moduleId
        (persistedView (store.modules characterId))
        ((store.modules characterId).combinationOutcome operationId moduleId) context = .ok payload) :
      CombinationCommit jsonBytes store characterId phase operationId moduleId context
        ⟨.applied, (store.modules characterId).combinationOutcome operationId moduleId⟩
        ((store.write characterId
          ((store.modules characterId).combined operationId moduleId)).insertReplayEvent context
            .moduleCombined payload)

/-- A loadout change that is committed. -/
inductive LoadoutCommit (jsonBytes : ModuleReplayPayload → Nat) (store : ModuleStore)
    (characterId : String) (phase : ModulePhase) (operationId : String) (expectedRevision : Nat)
    (modules : List ModuleId) (context : ModuleReplayContext) : OperationReceipt LoadoutOutcome → ModuleStore → Prop
  | replayed (stored : StoredLoadout)
      (known : (store.modules characterId).loadoutOperations.lookup operationId = some stored)
      (same : stored.expectedRevision = expectedRevision ∧ stored.modules = modules) :
      LoadoutCommit jsonBytes store characterId phase operationId expectedRevision modules context
        ⟨.replayed, stored.outcome⟩ store
  | applied (payload : Payload)
      (unknown : (store.modules characterId).loadoutOperations.lookup operationId = none)
      (sound : (store.modules characterId).Sound) (complete : phase = .complete)
      (current : expectedRevision = (store.modules characterId).revision)
      (rearranges : (store.modules characterId).Rearranges modules)
      (ready : validateModuleMutationReplayContext store characterId context = .ok ())
      (evidenced : loadoutEvidence jsonBytes characterId operationId
        (persistedView (store.modules characterId))
        ((store.modules characterId).loadoutOutcome operationId modules) context = .ok payload) :
      LoadoutCommit jsonBytes store characterId phase operationId expectedRevision modules context
        ⟨.applied, (store.modules characterId).loadoutOutcome operationId modules⟩
        ((store.write characterId
          ((store.modules characterId).rearranged operationId modules)).insertReplayEvent context
            .moduleLoadoutChanged payload)

section Operations

variable {jsonBytes : ModuleReplayPayload → Nat} {store after : ModuleStore}
  {characterId operationId : String} {phase : ModulePhase} {context : ModuleReplayContext}

theorem combine_commits {moduleId : ModuleId} {receipt : OperationReceipt CombinationOutcome}
    (committed : combineModuleWithReplay jsonBytes store characterId phase operationId moduleId
      context = .ok (receipt, after)) :
    plainOperationId operationId = true ∧
      CombinationCommit jsonBytes store characterId phase operationId moduleId context receipt
        after := by
  unfold combineModuleWithReplay at committed
  simp only [guard_bind_eq_ok, liftDomain_eq_ok, validateOperationId_eq_ok] at committed
  obtain ⟨plain, committed⟩ := committed
  refine ⟨plain, ?_⟩
  split at committed
  · next stored known =>
      simp only [bind_eq_ok, exists_unit, rejectIf_eq_ok, pure_eq_ok, not_not, Prod.mk.injEq] at committed
      obtain ⟨same, rfl, rfl⟩ := committed
      exact .replayed stored known same
  · next unknown =>
      simp only [bind_eq_ok, exists_unit, loadPersistedModuleState_iff, liftDomain_eq_ok,
        rejectIf_eq_ok, pure_eq_ok, Prod.exists, Nat.not_le, ge_iff_le, Prod.mk.injEq,
        insertModuleCombinedReplay, liftReplay_eq_ok] at committed
      obtain ⟨_, ⟨sound, rfl⟩, state, loaded, receipt, next, domain, room, ready, _,
        ⟨payload, evidenced, rfl⟩, rfl, rfl⟩ := committed
      obtain ⟨-, rfl⟩ := (moduleStateFromPersisted_iff sound.canonical).mp loaded
      simp only [ModuleState.combine, bind_eq_ok, exists_unit, validateOperationId_eq_ok,
        forgetful, List.lookup_nil, Prod.exists, ModuleState.combineNew_iff, pure_eq_ok,
        Prod.mk.injEq] at domain
      obtain ⟨-, _, _, ⟨complete, combines, rfl, rfl⟩, rfl, rfl⟩ := domain
      exact .applied payload unknown sound complete ⟨combines.absent, combines.paid, room⟩ ready
        evidenced

theorem loadout_commits {expectedRevision : Nat} {requested : List ModuleId}
    {receipt : OperationReceipt LoadoutOutcome}
    (committed : setModuleLoadoutWithReplay jsonBytes store characterId phase operationId
      expectedRevision requested context = .ok (receipt, after)) :
    plainOperationId operationId = true ∧ ∃ modules, canonicalizeLoadout requested = .ok modules ∧
      LoadoutCommit jsonBytes store characterId phase operationId expectedRevision modules context
        receipt after := by
  unfold setModuleLoadoutWithReplay at committed
  simp only [guard_bind_eq_ok, liftDomain_eq_ok, validateOperationId_eq_ok] at committed
  obtain ⟨plain, committed⟩ := committed
  rw [bind_eq_ok] at committed
  obtain ⟨modules, canonical, committed⟩ := committed
  rw [liftDomain_eq_ok, canonicalLoadout_eq_ok] at canonical
  refine ⟨plain, modules, canonical, ?_⟩
  split at committed
  · next stored known =>
      simp only [bind_eq_ok, exists_unit, rejectIf_eq_ok, pure_eq_ok, not_or, not_not,
        Prod.mk.injEq] at committed
      obtain ⟨same, rfl, rfl⟩ := committed
      exact .replayed stored known same
  · next unknown =>
      simp only [bind_eq_ok, exists_unit, loadPersistedModuleState_iff, liftDomain_eq_ok,
        rejectIf_eq_ok, pure_eq_ok, Prod.exists, Nat.not_le, ge_iff_le, Prod.mk.injEq,
        insertModuleLoadoutReplay, liftReplay_eq_ok] at committed
      obtain ⟨_, ⟨sound, rfl⟩, state, loaded, receipt, next, domain, room, ready, _,
        ⟨payload, evidenced, rfl⟩, rfl, rfl⟩ := committed
      obtain ⟨-, rfl⟩ := (moduleStateFromPersisted_iff sound.canonical).mp loaded
      simp only [ModuleState.setLoadout, bind_eq_ok, exists_unit, validateOperationId_eq_ok,
        canonicalLoadout_eq_ok, canonicalizeLoadout_idem canonical, Except.ok.injEq,
        exists_eq_left', forgetful, List.lookup_nil, Prod.exists, ModuleState.setLoadoutNew_iff,
        pure_eq_ok, Prod.mk.injEq] at domain
      obtain ⟨-, _, _, ⟨complete, rfl, rearranges, rfl, rfl⟩, rfl, rfl⟩ := domain
      exact .applied payload unknown sound complete rfl
        ⟨rearranges.owned, rearranges.changed, room, rearranges.revision⟩ ready evidenced

/-- What is committed is what the domain computes with the stored ledger. -/
theorem combine_refines {moduleId : ModuleId} {receipt : OperationReceipt CombinationOutcome}
    (committed : combineModuleWithReplay jsonBytes store characterId phase operationId moduleId
      context = .ok (receipt, after)) :
    (store.modules characterId).combine phase operationId moduleId =
      .ok (receipt, after.modules characterId) := by
  obtain ⟨plain, commit⟩ := combine_commits committed
  unfold ModuleState.combine
  rw [guard_bind_eq_ok, validateOperationId_eq_ok]
  refine ⟨plain, ?_⟩
  cases commit with
  | replayed stored known same =>
      simp only [known, bind_eq_ok, exists_unit, rejectIf_eq_ok, pure_eq_ok, same, ne_eq,
        not_true_eq_false, not_false_eq_true, true_and]
  | applied payload unknown sound complete combines ready evidenced =>
      simp only [unknown, bind_eq_ok, Prod.exists, ModuleState.combineNew_iff, pure_eq_ok,
        Prod.mk.injEq, ModuleStore.insertReplayEvent_modules, ModuleStore.write_same]
      exact ⟨_, _, ⟨complete, combines, rfl, rfl⟩, rfl, rfl⟩

theorem loadout_refines {expectedRevision : Nat} {requested : List ModuleId}
    {receipt : OperationReceipt LoadoutOutcome}
    (committed : setModuleLoadoutWithReplay jsonBytes store characterId phase operationId
      expectedRevision requested context = .ok (receipt, after)) :
    (store.modules characterId).setLoadout phase operationId expectedRevision requested =
      .ok (receipt, after.modules characterId) := by
  obtain ⟨plain, modules, canonical, commit⟩ := loadout_commits committed
  unfold ModuleState.setLoadout
  rw [guard_bind_eq_ok, validateOperationId_eq_ok]
  refine ⟨plain, bind_eq_ok.mpr ⟨modules, canonicalLoadout_eq_ok.mpr canonical, ?_⟩⟩
  cases commit with
  | replayed stored known same =>
      simp only [known, bind_eq_ok, exists_unit, rejectIf_eq_ok, pure_eq_ok, same.1, same.2, ne_eq,
        not_true_eq_false, or_self, not_false_eq_true, true_and]
  | applied payload unknown sound complete current rearranges ready evidenced =>
      simp only [unknown, bind_eq_ok, Prod.exists, ModuleState.setLoadoutNew_iff, pure_eq_ok,
        Prod.mk.injEq, ModuleStore.insertReplayEvent_modules, ModuleStore.write_same]
      exact ⟨_, _, ⟨complete, current, rearranges, rfl, rfl⟩, rfl, rfl⟩

end Operations

end Persistence
end Revenant
