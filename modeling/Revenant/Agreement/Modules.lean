import Revenant.Library.EventFold
import Revenant.Persistence.Modules
import Mathlib.Data.List.Nodup
import Mathlib.Logic.Relation

namespace Revenant
namespace Agreement
namespace Modules

open Library Replay Persistence

/-!
# Live modules and replayed modules

Players join a session, earn fragments and, once the activity is complete, turn
them into modules and change their loadouts.  Each transaction computes its
evidence from the rows it changes; the reducer computes the same evidence from
the journal alone.  What survives every step is that each admitted player's
reconstructed state is the evidence of that player's rows.

A reward, a claim or a mutation may come between any two rows of another
player.  `Opened` says nothing about what the players owned when they joined:
the first row of each tells it to the reducer.
-/

/-! ## Evidence of changed rows -/

/-- The catalog the evidence of some rows is recorded under. -/
def recordedCatalog (catalogRevision : Option String) (ownedModules : List ModuleId)
    (generation : ReplayProtocolGeneration) : String :=
  catalogRevision.getD (impliedCatalog ownedModules generation).text

/-- The owned modules that evidence lists. -/
def recordedOwnership (catalogRevision : Option String) (ownedModules : List ModuleId) :
    List ModuleId :=
  match catalogRevision with
  | some revision => negotiatedOwnership revision ownedModules
  | none => ownedModules

theorem moduleReplayState_eq (persisted : PersistedModuleState)
    (generation : ReplayProtocolGeneration) (catalogRevision : Option String) :
    moduleReplayState persisted generation catalogRevision =
      moduleStateEvidenceForCatalog
        (recordedCatalog catalogRevision persisted.ownedModules generation) persisted.fragments
        (recordedOwnership catalogRevision persisted.ownedModules) persisted.loadout
        persisted.revision generation := by
  cases catalogRevision <;> rfl

theorem nodup_recordedOwnership (catalogRevision : Option String) {ownedModules : List ModuleId}
    (distinct : ownedModules.Nodup) : (recordedOwnership catalogRevision ownedModules).Nodup := by
  cases catalogRevision with
  | none => exact distinct
  | some revision => exact distinct.filter _

theorem mem_recordedOwnership {catalogRevision : Option String} {ownedModules : List ModuleId}
    {moduleId : ModuleId} : moduleId ∈ recordedOwnership catalogRevision ownedModules ↔
      moduleId ∈ ownedModules ∧
        ∀ revision ∈ catalogRevision, shown (CatalogRevision.named revision) moduleId = true := by
  cases catalogRevision with
  | none => simp [recordedOwnership]
  | some revision => simp [recordedOwnership, negotiatedOwnership, List.mem_filter]

/-- What evidence under a catalog lists as owned is shown under it. -/
theorem shown_of_grounded {catalogRevision : String} {owned : Finset ModuleId}
    {loadout canonical : List ModuleId} {loadoutRevision : Nat}
    {generation : ReplayProtocolGeneration}
    {resolved : List (ReplayWeaponEvidence × AggregateModifiers)}
    (grounded : Grounded catalogRevision owned loadout canonical loadoutRevision generation resolved)
    {moduleId : ModuleId} (member : moduleId ∈ owned) :
    shown (CatalogRevision.named catalogRevision) moduleId = true := by
  unfold shown
  split
  · next legacy => exact decide_eq_true (grounded.legacy legacy moduleId member)
  · next content =>
      exact decide_eq_true (grounded.content (by rw [content]; decide) moduleId member)
  · next arsenal =>
      exact decide_eq_true (grounded.content (by rw [arsenal]; decide) moduleId member)
  · rfl

/-- A module that the recorded catalog admits does not change that catalog. -/
theorem recordedCatalog_insert (catalogRevision : Option String) (owned : Finset ModuleId)
    (moduleId : ModuleId)
    (admitted : ∀ revision, CatalogRevision.named
        (recordedCatalog catalogRevision (inDeclaredOrder owned) .v2) = some revision →
      revision ≠ .m35v2 → moduleId ∈ ModuleId.content) :
    recordedCatalog catalogRevision (inDeclaredOrder (insert moduleId owned)) .v2 =
      recordedCatalog catalogRevision (inDeclaredOrder owned) .v2 := by
  cases catalogRevision with
  | some revision => rfl
  | none =>
      simp only [recordedCatalog, Option.getD_none] at admitted ⊢
      congr 1
      unfold impliedCatalog at admitted ⊢
      by_cases built : ∃ other ∈ inDeclaredOrder owned, other ∉ ModuleId.content
      · obtain ⟨other, member, outside⟩ := built
        have stays : ∃ other ∈ inDeclaredOrder (insert moduleId owned), other ∉ ModuleId.content :=
          ⟨other, mem_inDeclaredOrder.mpr
            (Finset.mem_insert_of_mem (mem_inDeclaredOrder.mp member)), outside⟩
        rw [if_pos stays, if_pos ⟨other, member, outside⟩]
      · rw [if_neg built, if_pos (Or.inl rfl)] at admitted
        have content := admitted .m31v1 (CatalogRevision.named_text _) (by decide)
        have stays : ¬ ∃ other ∈ inDeclaredOrder (insert moduleId owned),
            other ∉ ModuleId.content := by
          rintro ⟨other, member, outside⟩
          rcases Finset.mem_insert.mp (mem_inDeclaredOrder.mp member) with rfl | old
          · exact outside content
          · exact built ⟨other, mem_inDeclaredOrder.mpr old, outside⟩
        rw [if_neg stays, if_neg built]
        simp

section Rows

variable {row : ModuleState} {catalogRevision : Option String}
  {before after : ReplayModuleStateEvidence}

/-- The evidence behind a combination is the evidence of the new rows. -/
theorem moduleReplayState_combined {operationId : String} {moduleId : ModuleId}
    (recorded : moduleReplayState (persistedView row) .v2 catalogRevision = .ok before)
    (built : moduleStateEvidenceForCatalog before.catalogRevision
      (row.fragments - moduleId.recipeFragments) (before.ownedModules ++ [moduleId]) row.loadout
      row.revision .v2 = .ok after) :
    moduleReplayState (persistedView (row.combined operationId moduleId)) .v2 catalogRevision =
      .ok after := by
  rw [moduleReplayState_eq] at recorded ⊢
  obtain ⟨-, canonical, resolved, -, rfl⟩ := evidence_iff.mp recorded
  dsimp only [evidenceRecord, persistedView, ModuleState.ownedModules, ModuleState.combined]
    at built ⊢
  obtain ⟨distinct, newCanonical, newResolved, grounded, -⟩ := evidence_iff.mp built
  have member : moduleId ∈ (inDeclaredOrder (recordedOwnership catalogRevision
      (inDeclaredOrder row.owned)).toFinset ++ [moduleId]).toFinset := by
    simp
  have visible := shown_of_grounded grounded member
  have sameCatalog := recordedCatalog_insert catalogRevision row.owned moduleId (by
    intro revision named other
    exact grounded.content (by rw [named]; simpa using other) moduleId member)
  rw [sameCatalog, ← built]
  apply evidence_congr
  · exact nodup_recordedOwnership _ (nodup_inDeclaredOrder _)
  · exact distinct
  · ext other
    simp only [List.mem_toFinset, mem_recordedOwnership, mem_inDeclaredOrder, Finset.mem_insert,
      List.mem_append, List.mem_singleton]
    constructor
    · rintro ⟨rfl | old, seen⟩
      · exact Or.inr rfl
      · exact Or.inl ⟨old, seen⟩
    · rintro (⟨old, seen⟩ | rfl)
      · exact ⟨Or.inr old, seen⟩
      · refine ⟨Or.inl rfl, ?_⟩
        intro revision negotiated
        cases negotiated
        exact visible

/-- The evidence behind a loadout change is the evidence of the new rows. -/
theorem moduleReplayState_rearranged {operationId : String} {modules : List ModuleId}
    (recorded : moduleReplayState (persistedView row) .v2 catalogRevision = .ok before)
    (built : moduleStateEvidenceForCatalog before.catalogRevision row.fragments
      before.ownedModules modules (row.revision + 1) .v2 = .ok after) :
    moduleReplayState (persistedView (row.rearranged operationId modules)) .v2 catalogRevision =
      .ok after := by
  rw [moduleReplayState_eq] at recorded ⊢
  obtain ⟨distinct, canonical, resolved, -, rfl⟩ := evidence_iff.mp recorded
  dsimp only [evidenceRecord, persistedView, ModuleState.ownedModules, ModuleState.rearranged]
    at built ⊢
  rw [← built]
  apply evidence_congr
  · exact nodup_recordedOwnership _ (nodup_inDeclaredOrder _)
  · exact nodup_inDeclaredOrder _
  · rw [toFinset_inDeclaredOrder]

/-- Earned fragments change the evidence in its fragments only. -/
theorem moduleReplayState_fragments {generation : ReplayProtocolGeneration}
    (recorded : moduleReplayState (persistedView row) generation catalogRevision = .ok before)
    (total : Nat) :
    moduleReplayState (persistedView { row with fragments := total }) generation catalogRevision =
      .ok { before with fragments := total } := by
  rw [moduleReplayState_eq] at recorded ⊢
  exact evidence_fragments recorded total

end Rows

/-! ## Evidence the reader accepts -/

theorem validateMutationIdentity_eq_ok {characterId operationId : String}
    (bounded : BoundedIdentifier characterId) (plain : plainOperationId operationId = true) :
    validateMutationIdentity characterId operationId = .ok () := by
  simp only [validateMutationIdentity, guard_bind_eq_ok, rejectIf_eq_ok, not_not,
    domainAnswer_eq_ok, validateOperationId_eq_ok]
  exact ⟨bounded, plain⟩

theorem validateSchema_current : validateSchema moduleReplaySchemaVersion = .ok () := by
  simp only [validateSchema, rejectIf_eq_ok, ne_eq, not_true_eq_false, not_false_eq_true]

section Accepted

variable {row : ModuleState} {catalogRevision : Option String} {characterId operationId : String}
  {before after : ReplayModuleStateEvidence}

/-- Evidence of rows starts from their fragments, revision and loadout, and
lists none but owned modules. -/
theorem evidence_of_row {generation : ReplayProtocolGeneration}
    (recorded : moduleReplayState (persistedView row) generation catalogRevision = .ok before)
    (sound : row.Sound) : before.fragments = row.fragments ∧
      before.persistedLoadout = row.loadout ∧ before.loadoutRevision = row.revision ∧
      ∀ moduleId ∈ before.ownedModules, moduleId ∈ row.owned := by
  rw [moduleReplayState_eq] at recorded
  obtain ⟨-, canonical, resolved, grounded, rfl⟩ := evidence_iff.mp recorded
  refine ⟨rfl, Except.ok.inj (grounded.ordered.symm.trans sound.canonical), rfl, ?_⟩
  intro moduleId member
  have listed := List.mem_toFinset.mp (mem_inDeclaredOrder.mp member)
  exact mem_inDeclaredOrder.mp (mem_recordedOwnership.mp listed).1

theorem combined_validates {moduleId : ModuleId} (sound : row.Sound)
    (combines : row.Combines moduleId) (bounded : BoundedIdentifier characterId)
    (plain : plainOperationId operationId = true)
    (recorded : moduleReplayState (persistedView row) .v2 catalogRevision = .ok before)
    (built : moduleStateEvidenceForCatalog before.catalogRevision
      (row.fragments - moduleId.recipeFragments) (before.ownedModules ++ [moduleId]) row.loadout
      row.revision .v2 = .ok after) :
    ModuleCombinedPayload.validate
      { schemaVersion := moduleReplaySchemaVersion, characterId, operationId, moduleId
        recipeFragments := moduleId.recipeFragments, before, after } = .ok () := by
  obtain ⟨fragments, loadout, revision, owned⟩ := evidence_of_row recorded sound
  rw [moduleReplayState_eq] at recorded
  obtain ⟨validBefore, activeBefore⟩ := validateModuleState_of_evidence recorded
  obtain ⟨validAfter, activeAfter⟩ := validateModuleState_of_evidence built
  unfold ModuleCombinedPayload.validate
  dsimp only
  rw [validateSchema_current, validateMutationIdentity_eq_ok bounded plain, validBefore, validAfter,
    fragments, loadout, revision, built]
  simp only [bind_eq_ok, exists_unit, rejectIf_eq_ok, Except.ok.injEq, exists_eq_left', true_and,
    activeBefore, activeAfter, decide_true, Bool.true_eq_false, or_self, not_false_eq_true,
    ne_eq, not_true_eq_false, false_or, Nat.not_lt, and_true]
  exact ⟨combines.paid, fun member => combines.absent (owned moduleId member)⟩

theorem rearranged_validates {modules requested : List ModuleId} (sound : row.Sound)
    (canonical : canonicalizeLoadout requested = .ok modules) (rearranges : row.Rearranges modules)
    (bounded : BoundedIdentifier characterId) (plain : plainOperationId operationId = true)
    (recorded : moduleReplayState (persistedView row) .v2 catalogRevision = .ok before)
    (built : moduleStateEvidenceForCatalog before.catalogRevision row.fragments
      before.ownedModules modules (row.revision + 1) .v2 = .ok after) :
    ModuleLoadoutChangedPayload.validate
      { schemaVersion := moduleReplaySchemaVersion, characterId, operationId, before, after } =
        .ok () := by
  obtain ⟨fragments, loadout, revision, -⟩ := evidence_of_row recorded sound
  rw [moduleReplayState_eq] at recorded
  obtain ⟨validBefore, activeBefore⟩ := validateModuleState_of_evidence recorded
  obtain ⟨validAfter, activeAfter⟩ := validateModuleState_of_evidence built
  have changed : after.persistedLoadout = modules := by
    obtain ⟨-, ordered, resolved, grounded, rfl⟩ := evidence_iff.mp built
    exact Except.ok.inj (grounded.ordered.symm.trans (canonicalizeLoadout_idem canonical))
  have room : ¬ row.revision ≥ u64Max := by
    have limit := rearranges.revision
    unfold maxLoadoutRevision at limit
    unfold u64Max
    omega
  unfold ModuleLoadoutChangedPayload.validate
  dsimp only
  rw [validateSchema_current, validateMutationIdentity_eq_ok bounded plain, validBefore, validAfter,
    fragments, loadout, revision, changed, built]
  simp only [bind_eq_ok, exists_unit, rejectIf_eq_ok, Except.ok.injEq, exists_eq_left', true_and,
    activeBefore, activeAfter, decide_true, Bool.true_eq_false, or_self, not_false_eq_true,
    ne_eq, not_true_eq_false, and_true]
  exact ⟨room, rearranges.changed⟩

theorem snapshot_validates {generation : ReplayProtocolGeneration}
    (bounded : BoundedIdentifier characterId)
    (recorded : moduleReplayState (persistedView row) generation catalogRevision = .ok before) :
    ModuleStateSnapshotPayload.validate
      { schemaVersion := moduleReplaySchemaVersion, characterId, protocolGeneration := generation
        state := before } = .ok () := by
  rw [moduleReplayState_eq] at recorded
  obtain ⟨valid, active⟩ := validateModuleState_of_evidence recorded
  unfold ModuleStateSnapshotPayload.validate
  dsimp only
  rw [validateSchema_current, valid]
  simp only [bind_eq_ok, exists_unit, rejectIf_eq_ok, active, ne_eq, not_true_eq_false,
    not_false_eq_true, not_not, true_and, and_true]
  exact bounded

end Accepted

/-! ## Earned fragments -/

/-- The reducer finds the total in the text that a grant writes. -/
theorem relayFragmentTotal_fragmentLoot (quantity : Nat) {total : Nat} (fits : total ≤ u32Max) :
    relayFragmentTotal (.text (fragmentLoot quantity total)) = some total := by
  have written : (fragmentLoot quantity total).toList =
      "loot granted: relay_core_fragment x".toList ++
        ((Nat.repr quantity).toList ++ (" (total ".toList ++ ((Nat.repr total).toList ++ ")".toList))) := by
    unfold fragmentLoot
    rw [String.toList_append, String.toList_append, String.toList_append, String.toList_append,
      List.append_assoc, List.append_assoc, List.append_assoc]
  have separator : " (total ".toList = ' ' :: ['(', 't', 'o', 't', 'a', 'l', ' '] := by simp
  have closing : ")".toList = [')'] := by simp
  have blank : ' ' ∉ (Nat.repr total).toList ++ [')'] := by
    intro member
    rcases List.mem_append.mp member with digit | closing
    · exact absurd (Text.isDigit_of_mem_repr digit) (by decide)
    · exact absurd closing (by decide)
  have unopened : Text.stripPrefix ['(', 't', 'o', 't', 'a', 'l', ' ']
      ((Nat.repr total).toList ++ [')']) = none := by
    cases search : Text.stripPrefix ['(', 't', 'o', 't', 'a', 'l', ' ']
        ((Nat.repr total).toList ++ [')']) with
    | none => rfl
    | some rest =>
        have split := Text.stripPrefix_eq_some.mp search
        exact absurd (split ▸ List.mem_append_left rest (by decide)) blank
  have last : Text.rsplitOnce (' ' :: ['(', 't', 'o', 't', 'a', 'l', ' '])
      (['(', 't', 'o', 't', 'a', 'l', ' '] ++ ((Nat.repr total).toList ++ [')'])) = none := by
    have behind : Text.rsplitOnce (' ' :: ['(', 't', 'o', 't', 'a', 'l', ' '])
        (' ' :: ((Nat.repr total).toList ++ [')'])) = none :=
      Text.rsplitOnce_cons_none (Text.rsplitOnce_none blank) (Or.inr unopened)
    iterate 6 refine Text.rsplitOnce_cons_none ?_ (Or.inl (by decide))
    exact behind
  have separated := Text.rsplitOnce_append (Nat.repr quantity).toList last
  simp only [relayFragmentTotal, Payload.letters?, written, Text.stripPrefix_append,
    Option.bind_eq_bind, Option.bind_some]
  rw [separator, closing, separated]
  simp only [Option.bind_some, Text.stripSuffix_append, Text.parseUnsigned_repr fits]

/-! ## Sessions -/

/-- A player as the session admitted it, with the catalog it negotiated. -/
structure Participant where
  account : Account
  actorId : Nat
  generation : ReplayProtocolGeneration
  catalogRevision : Option String

abbrev Participant.character (participant : Participant) : String := participant.account.character

structure Live where
  sessionId : String
  activityId : String
  participants : List Participant
  store : ModuleStore

def Live.context (live : Live) (participant : Participant) : ModuleReplayContext :=
  { catalogRevision := participant.catalogRevision, sessionId := live.sessionId
    account := participant.account, activityId := live.activityId, actorId := participant.actorId }

/-- An event that neither admits a player nor touches modules. -/
def Unrelated (event : ReplayEvent) : Prop :=
  event.kind ≠ .playerJoined ∧ event.kind ≠ .moduleStateSnapshot ∧ event.kind ≠ .moduleCombined ∧
    event.kind ≠ .moduleLoadoutChanged ∧ event.kind ≠ .acquisitionClaimed ∧
    (event.kind = .lootGranted → relayFragmentTotal event.payload = none)

/-- The rows and the journal behind a commission claim. -/
def claimed (live : Live) (participant : Participant) (payload : Encoded AcquisitionClaimedPayload)
    (resulting : Nat) : ModuleStore :=
  (live.store.write participant.character
    { live.store.modules participant.character with fragments := resulting }).insertReplayEvent
      (live.context participant) .acquisitionClaimed (.acquisition payload)

/-- One step of a session.  A refused transaction leaves everything as it was
and is no step. -/
inductive Step (jsonBytes : ModuleReplayPayload → Nat) : Live → Live → Prop
  /-- Other sessions take event identifiers. -/
  | skipped {live : Live} (sequence : Int) (later : live.store.sequence ≤ sequence) :
      Step jsonBytes live { live with store := { live.store with sequence } }
  | joined {live : Live} (participant : Participant) (store : ModuleStore)
      (fresh : ∀ other ∈ live.participants,
        other.character ≠ participant.character ∧ other.actorId ≠ participant.actorId)
      (appended : appendPlayerJoinedWithModuleSnapshot jsonBytes live.store participant.character
        (live.context participant) participant.generation = .ok store) :
      Step jsonBytes live { live with participants := participant :: live.participants, store }
  | recorded {live : Live} (event : ReplayEvent) (unrelated : Unrelated event)
      (here : event.sessionId = live.sessionId) (next : event.id = live.store.sequence) :
      Step jsonBytes live { live with
        store := { live.store with
          journal := live.store.journal ++ [event], sequence := live.store.sequence + 1 } }
  | rewarded {live : Live} (participant : Participant) (member : participant ∈ live.participants)
      (quantity : Nat) (store : ModuleStore)
      (granted : grantFragments live.store (live.context participant) quantity = .ok store) :
      Step jsonBytes live { live with store }
  | combined {live : Live} (participant : Participant) (member : participant ∈ live.participants)
      (current : participant.generation = .v2) (phase : ModulePhase) (operationId : String)
      (moduleId : ModuleId) (receipt : OperationReceipt CombinationOutcome) (store : ModuleStore)
      (committed : combineModuleWithReplay jsonBytes live.store participant.character phase
        operationId moduleId (live.context participant) = .ok (receipt, store)) :
      Step jsonBytes live { live with store }
  | rearranged {live : Live} (participant : Participant) (member : participant ∈ live.participants)
      (current : participant.generation = .v2) (phase : ModulePhase) (operationId : String)
      (expectedRevision : Nat) (requested : List ModuleId)
      (receipt : OperationReceipt LoadoutOutcome) (store : ModuleStore)
      (committed : setModuleLoadoutWithReplay jsonBytes live.store participant.character phase
        operationId expectedRevision requested (live.context participant) = .ok (receipt, store)) :
      Step jsonBytes live { live with store }
  /-- A claim is committed once the reducer has read the journal it would leave. -/
  | claimed {live : Live} (participant : Participant) (member : participant ∈ live.participants)
      (payload : Encoded AcquisitionClaimedPayload) (claim : AcquisitionClaimedPayload)
      (written : payload.value = some claim) (character : claim.characterId = participant.character)
      (validated : ∃ session, reconstructModules
        (claimed live participant payload claim.resultingFragments).journal = .ok session) :
      Step jsonBytes live
        { live with store := claimed live participant payload claim.resultingFragments }

/-- The reconstructed participant is the evidence of the live rows. -/
structure Records (modules : String → ModuleState) (participant : Participant)
    (recorded : ReconstructedModuleParticipant) : Prop where
  character : recorded.characterId = participant.character
  actor : recorded.actorId = participant.actorId
  generation : recorded.protocolGeneration = participant.generation
  state : moduleReplayState (persistedView (modules participant.character))
    participant.generation participant.catalogRevision = .ok recorded.state

/-- The reconstructed participants are exactly the admitted ones. -/
structure Recorded (modules : String → ModuleState) (participants : List Participant)
    (list : List ReconstructedModuleParticipant) : Prop where
  known : ∀ participant ∈ participants, ∃ recorded ∈ list, Records modules participant recorded
  only : ∀ recorded ∈ list, ∃ participant ∈ participants, Records modules participant recorded
  characters : (participants.map Participant.character).Nodup
  actors : (participants.map Participant.actorId).Nodup

theorem Participant.eq_of_character {participants : List Participant}
    (distinct : (participants.map Participant.character).Nodup) {first second : Participant}
    (firstMember : first ∈ participants) (secondMember : second ∈ participants)
    (same : first.character = second.character) : first = second :=
  List.inj_on_of_nodup_map distinct firstMember secondMember same

theorem Participant.eq_of_actor {participants : List Participant}
    (distinct : (participants.map Participant.actorId).Nodup) {first second : Participant}
    (firstMember : first ∈ participants) (secondMember : second ∈ participants)
    (same : first.actorId = second.actorId) : first = second :=
  List.inj_on_of_nodup_map distinct firstMember secondMember same

section Recorded

variable {modules : String → ModuleState} {participants : List Participant}
  {list : List ReconstructedModuleParticipant} {participant : Participant}

theorem Recorded.find_character (recorded : Recorded modules participants list)
    (member : participant ∈ participants) : ∃ found,
      list.find? (fun entry => entry.characterId = participant.character) = some found ∧
        Records modules participant found := by
  obtain ⟨entry, entryMember, records⟩ := recorded.known participant member
  cases search : list.find? (fun entry => entry.characterId = participant.character) with
  | none =>
      have absent := List.find?_eq_none.mp search entry entryMember
      exact absurd (decide_eq_true records.character) absent
  | some found =>
      have hit := List.find?_some search
      have matched := of_decide_eq_true hit
      obtain ⟨other, otherMember, otherRecords⟩ :=
        recorded.only found (List.mem_of_find?_eq_some search)
      have same := Participant.eq_of_character recorded.characters otherMember member
        (otherRecords.character.symm.trans matched)
      subst same
      exact ⟨found, rfl, otherRecords⟩

theorem Recorded.find_actor (recorded : Recorded modules participants list)
    (member : participant ∈ participants) : ∃ found,
      list.find? (fun entry => entry.actorId = participant.actorId) = some found ∧
        Records modules participant found := by
  obtain ⟨entry, entryMember, records⟩ := recorded.known participant member
  cases search : list.find? (fun entry => entry.actorId = participant.actorId) with
  | none =>
      have absent := List.find?_eq_none.mp search entry entryMember
      exact absurd (decide_eq_true records.actor) absent
  | some found =>
      have hit := List.find?_some search
      have matched := of_decide_eq_true hit
      obtain ⟨other, otherMember, otherRecords⟩ :=
        recorded.only found (List.mem_of_find?_eq_some search)
      have same := Participant.eq_of_actor recorded.actors otherMember member
        (otherRecords.actor.symm.trans matched)
      subst same
      exact ⟨found, rfl, otherRecords⟩

/-- Rows of one character change together with the reconstructed participant. -/
theorem Recorded.update (recorded : Recorded modules participants list)
    (member : participant ∈ participants) (row : ModuleState)
    (change : ReconstructedModuleParticipant → ReconstructedModuleParticipant)
    (changed : ∀ entry, Records modules participant entry →
      Records (Function.update modules participant.character row) participant (change entry)) :
    Recorded (Function.update modules participant.character row) participants
      (updateParticipant participant.character change list) := by
  have others : ∀ other entry, other.character ≠ participant.character →
      Records modules other entry → Records (Function.update modules participant.character row) other entry := by
    intro other entry different records
    refine { records with state := ?_ }
    rw [Function.update_of_ne different]
    exact records.state
  constructor
  · intro other otherMember
    obtain ⟨entry, entryMember, records⟩ := recorded.known other otherMember
    by_cases same : other.character = participant.character
    · have identical := Participant.eq_of_character recorded.characters otherMember member same
      subst identical
      refine ⟨change entry, List.mem_map.mpr ⟨entry, entryMember, if_pos records.character⟩, ?_⟩
      exact changed entry records
    · have apart : entry.characterId ≠ participant.character := records.character ▸ same
      exact ⟨entry, List.mem_map.mpr ⟨entry, entryMember, if_neg apart⟩, others other entry same records⟩
  · intro entry entryMember
    obtain ⟨old, oldMember, rfl⟩ := List.mem_map.mp entryMember
    obtain ⟨other, otherMember, records⟩ := recorded.only old oldMember
    refine ⟨other, otherMember, ?_⟩
    by_cases same : other.character = participant.character
    · have identical := Participant.eq_of_character recorded.characters otherMember member same
      subst identical
      rw [if_pos records.character]
      exact changed old records
    · have apart : old.characterId ≠ participant.character := records.character ▸ same
      rw [if_neg apart]
      exact others other old same records
  · exact recorded.characters
  · exact recorded.actors

/-- The new entry of an admitted player. -/
theorem Recorded.admit (recorded : Recorded modules participants list)
    (fresh : ∀ other ∈ participants,
      other.character ≠ participant.character ∧ other.actorId ≠ participant.actorId)
    {entry : ReconstructedModuleParticipant} (records : Records modules participant entry) :
    Recorded modules (participant :: participants) (insertParticipant entry list) := by
  have listed : ∀ other, other ∈ insertParticipant entry list ↔ other = entry ∨ other ∈ list := by
    intro other
    exact List.mem_orderedInsert _
  constructor
  · intro other otherMember
    rcases List.mem_cons.mp otherMember with rfl | old
    · exact ⟨entry, (listed entry).mpr (Or.inl rfl), records⟩
    · obtain ⟨found, foundMember, foundRecords⟩ := recorded.known other old
      exact ⟨found, (listed found).mpr (Or.inr foundMember), foundRecords⟩
  · intro other otherMember
    rcases (listed other).mp otherMember with rfl | old
    · exact ⟨participant, List.mem_cons_self, records⟩
    · obtain ⟨found, foundMember, foundRecords⟩ := recorded.only other old
      exact ⟨found, List.mem_cons_of_mem _ foundMember, foundRecords⟩
  · rw [List.map_cons, List.nodup_cons]
    refine ⟨?_, recorded.characters⟩
    intro repeated
    obtain ⟨other, otherMember, same⟩ := List.mem_map.mp repeated
    exact (fresh other otherMember).1 same
  · rw [List.map_cons, List.nodup_cons]
    refine ⟨?_, recorded.actors⟩
    intro repeated
    obtain ⟨other, otherMember, same⟩ := List.mem_map.mp repeated
    exact (fresh other otherMember).2 same

end Recorded

/-! ## The reducer along a session -/

/-- The reducer looks at no other event than the one before. -/
def readStep (_ : List ReplayEvent) (reading : SessionReading) (event : ReplayEvent) :
    Except ReplayError SessionReading :=
  applyEvent reading event

theorem readStep_stable (journal appended : List ReplayEvent) : Stable readStep journal appended :=
  fun _ _ _ => rfl

/-- The session with the activity of an event noted. -/
def noted (session : ReconstructedSession) (event : ReplayEvent) : ReconstructedSession :=
  { session with activityId := event.activityId.orElse (fun _ => session.activityId) }

variable {reading : SessionReading} {event : ReplayEvent} {session : ReconstructedSession}

theorem applyEvent_of_kind
    (accepted : applyKind reading.prior (noted reading.session event) event = .ok session) :
    applyEvent reading event = .ok
      { session, sawModuleEvent := reading.sawModuleEvent || event.kind.isModuleEvent
        prior := some event } := by
  unfold applyEvent
  change applyKind reading.prior (noted reading.session event) event >>= _ = _
  rw [accepted]
  rfl

theorem read_pair {all : List ReplayEvent} {middle next : SessionReading}
    {first second : ReplayEvent} (readFirst : applyEvent reading first = .ok middle)
    (readSecond : applyEvent middle second = .ok next) :
    fold readStep all reading [first, second] = .ok next := by
  change (applyEvent reading first).bind (fold readStep all · [second]) = .ok next
  rw [readFirst]
  exact (fold_singleton all middle second).trans readSecond

/-- What the reducer has reached, against the rows. -/
structure Agrees (live : Live) (reading : SessionReading) : Prop where
  recorded : Recorded live.store.modules live.participants reading.session.participants
  completed : ∀ event ∈ live.store.journal, event.kind = .activityCompleted →
    reading.session.completed = true

/-- The reducer accepts the journal and agrees with the rows. -/
abbrev Followed (live : Live) : Prop :=
  Follows readStep .start (fun live => live.store.journal) Agrees live

/-- One appended event whose kind the reducer accepts. -/
theorem follow_event {before after : Live} (followed : Followed before)
    (grown : after.store.journal = before.store.journal ++ [event])
    (move : ∀ reading, Agrees before reading → ∃ session,
      applyKind reading.prior (noted reading.session event) event = .ok session ∧
        Recorded after.store.modules after.participants session.participants ∧
        (reading.session.completed = true ∨ event.kind = .activityCompleted →
          session.completed = true)) : Followed after := by
  refine followed.extend grown (readStep_stable _ _) ?_
  intro reading agrees
  obtain ⟨session, accepted, recorded, completed⟩ := move reading agrees
  refine ⟨_, (fold_singleton _ _ _).trans (applyEvent_of_kind accepted), recorded, ?_⟩
  intro old member kind
  change old ∈ after.store.journal at member
  rw [grown] at member
  rcases List.mem_append.mp member with earlier | last
  · exact completed (Or.inl (agrees.completed old earlier kind))
  · cases List.mem_singleton.mp last
    exact completed (Or.inr kind)

/-- An event without module meaning keeps the participants. -/
theorem applyKind_unrelated (unrelated : Unrelated event) (prior : Option ReplayEvent)
    (session : ReconstructedSession) : ∃ next,
      applyKind prior session event = .ok next ∧ next.participants = session.participants ∧
        (session.completed = true ∨ event.kind = .activityCompleted → next.completed = true) := by
  obtain ⟨notJoined, notSnapshot, notCombined, notLoadout, notClaimed, plain⟩ := unrelated
  unfold applyKind
  cases kind : event.kind with
  | playerJoined => exact absurd kind notJoined
  | moduleStateSnapshot => exact absurd kind notSnapshot
  | moduleCombined => exact absurd kind notCombined
  | moduleLoadoutChanged => exact absurd kind notLoadout
  | acquisitionClaimed => exact absurd kind notClaimed
  | lootGranted =>
      simp only [applyFragmentReward, plain kind]
      exact ⟨_, rfl, rfl, by simp⟩
  | activityCompleted => exact ⟨_, rfl, rfl, fun _ => rfl⟩
  | _ => exact ⟨_, rfl, rfl, by simp⟩

section Steps

variable {jsonBytes : ModuleReplayPayload → Nat} {live : Live}

theorem bounded_character (account : Account) : BoundedIdentifier account.character := by
  unfold BoundedIdentifier Account.character
  constructor
  · intro empty
    have length := congrArg String.utf8ByteSize empty
    rw [String.utf8ByteSize_append] at length
    have suffix : (":operator" : String).utf8ByteSize = 9 := by decide
    have nothing : ("" : String).utf8ByteSize = 0 := by decide
    omega
  · have bounded := account.bounded
    have suffix : (":operator" : String).utf8ByteSize = 9 := by decide
    rw [String.utf8ByteSize_append]
    omega

/-- What `encodeModulePayload` wrote is decoded as what went in. -/
theorem decodeModule_encoded {Evidence : Type} (view : ModuleReplayPayload → Option Evidence)
    {typed : ModuleReplayPayload} {evidence : Evidence} {payload : Payload}
    (written : encodeModulePayload jsonBytes typed = .ok payload) (seen : view typed = some evidence) :
    decodeModule view payload = .ok evidence := by
  simp only [encodeModulePayload, bind_eq_ok, exists_unit, rejectIf_eq_ok, pure_eq_ok] at written
  obtain ⟨short, rfl⟩ := written
  simp only [decodeModule, Payload.module?, bind_eq_ok, exists_unit, require_eq_ok, rejectIf_eq_ok,
    Option.some.injEq, exists_eq_left', Option.bind_some]
  exact ⟨short, seen⟩

variable {participant : Participant} {found : ReconstructedModuleParticipant}
variable {event : ReplayEvent}

theorem matchingParticipant_of_records {modules : String → ModuleState}
    {list : List ReconstructedModuleParticipant} (current : participant.generation = .v2)
    (actor : event.actorId = some participant.actorId)
    (search : list.find? (fun entry => entry.characterId = participant.character) = some found)
    (records : Records modules participant found) :
    matchingParticipant event participant.character list = .ok found := by
  simp only [matchingParticipant, bind_eq_ok, exists_unit, require_eq_ok, rejectIf_eq_ok, pure_eq_ok,
    not_not, search, Option.some.injEq, exists_eq_left', and_true]
  exact ⟨by rw [actor, records.actor], records.generation.trans current⟩

variable {session : ReconstructedSession}

theorem applyKind_snapshot {joined : ReplayEvent} {payload : ModuleStateSnapshotPayload}
    {actorId : Nat} (kind : event.kind = .moduleStateSnapshot)
    (decoded : decodeModule ModuleReplayPayload.stateSnapshot? event.payload = .ok payload)
    (valid : payload.validate = .ok ()) (adjacent : joined.kind = .playerJoined)
    (same : joined.actorId = event.actorId) (actor : event.actorId = some actorId)
    (absent : ¬ ∃ participant ∈ session.participants,
      participant.characterId = payload.characterId ∨ participant.actorId = actorId) :
    applyKind (some joined) session event = .ok
      { session with
        participants := insertParticipant
          { characterId := payload.characterId, actorId
            protocolGeneration := payload.protocolGeneration, state := payload.state }
          session.participants
        moduleSnapshots := session.moduleSnapshots + 1 } := by
  simp only [applyKind, kind, applySnapshot, decoded, valid, actor, bind_eq_ok, exists_unit,
    require_eq_ok, rejectIf_eq_ok, pure_eq_ok, Except.ok.injEq, exists_eq_left', Option.some.injEq,
    adjacent, same, ne_eq, not_true_eq_false, or_self, not_false_eq_true, true_and, and_true]
  exact absent

variable {store : ModuleStore}

/-- The snapshot of a joining starts the reconstruction of its player. -/
theorem follow_joined (followed : Followed live) (fresh : ∀ other ∈ live.participants,
      other.character ≠ participant.character ∧ other.actorId ≠ participant.actorId)
    (appended : appendPlayerJoinedWithModuleSnapshot jsonBytes live.store participant.character
      (live.context participant) participant.generation = .ok store) :
    Followed { live with participants := participant :: live.participants, store } := by
  simp only [appendPlayerJoinedWithModuleSnapshot, bind_eq_ok, exists_unit, rejectIf_eq_ok, pure_eq_ok,
    loadPersistedModuleState_iff, liftReplay_eq_ok] at appended
  obtain ⟨-, -, -, _, ⟨sound, rfl⟩, state, evidenced, snapshot, encoded, rfl⟩ := appended
  have decoded := decodeModule_encoded ModuleReplayPayload.stateSnapshot? encoded rfl
  have valid := snapshot_validates (bounded_character participant.account) evidenced
  refine followed.extend (List.append_assoc _ _ _) (readStep_stable _ _) ?_
  intro reading agrees
  have absent : ¬ ∃ entry ∈ reading.session.participants,
      entry.characterId = participant.character ∨ entry.actorId = participant.actorId := by
    rintro ⟨entry, member, repeated⟩
    obtain ⟨other, otherMember, records⟩ := agrees.recorded.only entry member
    obtain ⟨otherCharacter, otherActor⟩ := fresh other otherMember
    rcases repeated with character | actor
    · exact otherCharacter (records.character.symm.trans character)
    · exact otherActor (records.actor.symm.trans actor)
  have admitted : Records live.store.modules participant
      { characterId := participant.character, actorId := participant.actorId
        protocolGeneration := participant.generation, state } :=
    ⟨rfl, rfl, rfl, evidenced⟩
  refine ⟨_, read_pair (applyEvent_of_kind rfl) (applyEvent_of_kind
    (applyKind_snapshot rfl decoded valid rfl rfl rfl absent)), ?_, ?_⟩
  · exact agrees.recorded.admit fresh admitted
  · intro event member kind
    rcases List.mem_append.mp member with old | last
    · rcases List.mem_append.mp old with earlier | joined
      · exact agrees.completed event earlier kind
      · cases List.mem_singleton.mp joined
        cases kind
    · cases List.mem_singleton.mp last
      cases kind

theorem follow_recorded (followed : Followed live) (unrelated : Unrelated event) :
    Followed { live with
      store := { live.store with
        journal := live.store.journal ++ [event], sequence := live.store.sequence + 1 } } := by
  refine follow_event followed rfl ?_
  intro reading agrees
  obtain ⟨next, accepted, participants, completed⟩ :=
    applyKind_unrelated unrelated reading.prior (noted reading.session event)
  refine ⟨next, accepted, ?_, completed⟩
  rw [participants]
  exact agrees.recorded

variable {prior : Option ReplayEvent}

theorem applyKind_reward {total actorId : Nat} (kind : event.kind = .lootGranted)
    (written : relayFragmentTotal event.payload = some total) (actor : event.actorId = some actorId)
    (search : session.participants.find? (fun entry => entry.actorId = actorId) = some found)
    (grows : found.state.fragments ≤ total) :
    applyKind prior session event = .ok
      { session with
        lootGrants := session.lootGrants + 1
        participants := updateParticipant found.characterId
          (fun participant =>
            { participant with state := { participant.state with fragments := total } })
          session.participants } := by
  simp only [applyKind, kind, applyFragmentReward, written, actor, bind_eq_ok, exists_unit,
    require_eq_ok, Option.some.injEq, exists_eq_left', search, rejectIf_eq_ok, Nat.not_lt,
    pure_eq_ok, and_true]
  exact grows

theorem follow_rewarded (followed : Followed live) (member : participant ∈ live.participants)
    {quantity : Nat}
    (granted : grantFragments live.store (live.context participant) quantity = .ok store) :
    Followed { live with store } := by
  simp only [grantFragments, bind_eq_ok, exists_unit, rejectIf_eq_ok, pure_eq_ok, gt_iff_lt,
    Nat.not_lt] at granted
  obtain ⟨fits, rfl⟩ := granted
  refine follow_event followed rfl ?_
  intro reading agrees
  obtain ⟨found, search, records⟩ := agrees.recorded.find_actor member
  have total := relayFragmentTotal_fragmentLoot quantity (le_trans fits (by decide : maxFragments ≤ u32Max))
  have fragments : found.state.fragments =
      (live.store.modules participant.character).fragments := by
    have recorded := records.state
    rw [moduleReplayState_eq] at recorded
    obtain ⟨-, canonical, resolved, -, same⟩ := evidence_iff.mp recorded
    rw [same]
    rfl
  refine ⟨_, applyKind_reward rfl total rfl search (by rw [fragments]; exact Nat.le_add_right _ _),
    ?_, fun done => done.resolve_right ReplayEventKind.noConfusion⟩
  rw [records.character]
  refine agrees.recorded.update member _ _ ?_
  intro entry entryRecords
  refine { entryRecords with state := ?_ }
  rw [Function.update_self]
  exact moduleReplayState_fragments entryRecords.state _

theorem applyKind_combined {payload : ModuleCombinedPayload} (kind : event.kind = .moduleCombined)
    (completed : session.completed = true)
    (decoded : decodeModule ModuleReplayPayload.combined? event.payload = .ok payload)
    (valid : payload.validate = .ok ())
    (matching : matchingParticipant event payload.characterId session.participants = .ok found)
    (reached : found.state = payload.before) :
    applyKind prior session event = .ok
      { session with
        participants := updateParticipant payload.characterId
          (fun participant => { participant with state := payload.after }) session.participants
        moduleCombinations := session.moduleCombinations + 1 } := by
  simp only [applyKind, kind, applyCombination, completed, decoded, valid, matching, reached,
    bind_eq_ok, exists_unit, rejectIf_eq_ok, pure_eq_ok, Except.ok.injEq, exists_eq_left',
    Bool.true_eq_false, not_false_eq_true, ne_eq, not_true_eq_false, true_and]

theorem applyKind_loadout {payload : ModuleLoadoutChangedPayload}
    (kind : event.kind = .moduleLoadoutChanged) (completed : session.completed = true)
    (decoded : decodeModule ModuleReplayPayload.loadoutChanged? event.payload = .ok payload)
    (valid : payload.validate = .ok ())
    (matching : matchingParticipant event payload.characterId session.participants = .ok found)
    (reached : found.state = payload.before) :
    applyKind prior session event = .ok
      { session with
        participants := updateParticipant payload.characterId
          (fun participant => { participant with state := payload.after }) session.participants
        moduleLoadoutChanges := session.moduleLoadoutChanges + 1 } := by
  simp only [applyKind, kind, applyLoadout, completed, decoded, valid, matching, reached,
    bind_eq_ok, exists_unit, rejectIf_eq_ok, pure_eq_ok, Except.ok.injEq, exists_eq_left',
    Bool.true_eq_false, not_false_eq_true, ne_eq, not_true_eq_false, true_and]

/-- A mutation is only committed behind a completion, which the reducer has seen. -/
theorem completed_of_ready {reading : SessionReading} (agrees : Agrees live reading)
    {characterId : String} {context : ModuleReplayContext}
    (ready : validateModuleMutationReplayContext live.store characterId context = .ok ()) :
    reading.session.completed = true := by
  simp only [validateModuleMutationReplayContext, bind_eq_ok, exists_unit, rejectIf_eq_ok,
    Bool.not_eq_false] at ready
  obtain ⟨-, -, behind⟩ := ready
  obtain ⟨snapshot, -, found⟩ := List.any_eq_true.mp behind
  obtain ⟨-, later⟩ := Bool.and_eq_true_iff.mp found
  obtain ⟨event, member, matched⟩ := List.any_eq_true.mp later
  simp only [Bool.and_eq_true, decide_eq_true_eq] at matched
  exact agrees.completed event member matched.1.2

theorem follow_combined (followed : Followed live) (member : participant ∈ live.participants)
    (current : participant.generation = .v2) {phase : ModulePhase} {operationId : String}
    {moduleId : ModuleId} {receipt : OperationReceipt CombinationOutcome}
    (committed : combineModuleWithReplay jsonBytes live.store participant.character phase
      operationId moduleId (live.context participant) = .ok (receipt, store)) :
    Followed { live with store } := by
  obtain ⟨plain, commit⟩ := combine_commits committed
  cases commit with
  | replayed => exact followed
  | applied payload unknown sound complete combines ready evidenced =>
      simp only [combinedEvidence, bind_eq_ok] at evidenced
      obtain ⟨before, recorded, after, built, encoded⟩ := evidenced
      have valid := combined_validates sound combines (bounded_character participant.account) plain
        recorded built
      have decoded := decodeModule_encoded ModuleReplayPayload.combined? encoded rfl
      refine follow_event followed rfl ?_
      intro reading agrees
      obtain ⟨found, search, records⟩ := agrees.recorded.find_character member
      have reached : found.state = before := by
        have state := records.state
        rw [current] at state
        exact Except.ok.inj (state.symm.trans recorded)
      refine ⟨_, applyKind_combined rfl (completed_of_ready agrees ready) decoded valid
        (matchingParticipant_of_records current rfl search records) reached, ?_,
        fun _ => completed_of_ready agrees ready⟩
      refine agrees.recorded.update member _ _ ?_
      intro entry entryRecords
      refine { entryRecords with state := ?_ }
      rw [Function.update_self, current]
      exact moduleReplayState_combined recorded built

theorem follow_rearranged (followed : Followed live) (member : participant ∈ live.participants)
    (current : participant.generation = .v2) {phase : ModulePhase} {operationId : String}
    {expectedRevision : Nat} {requested : List ModuleId} {receipt : OperationReceipt LoadoutOutcome}
    (committed : setModuleLoadoutWithReplay jsonBytes live.store participant.character phase
      operationId expectedRevision requested (live.context participant) = .ok (receipt, store)) :
    Followed { live with store } := by
  obtain ⟨plain, modules, canonical, commit⟩ := loadout_commits committed
  cases commit with
  | replayed => exact followed
  | applied payload unknown sound complete stated rearranges ready evidenced =>
      simp only [loadoutEvidence, bind_eq_ok] at evidenced
      obtain ⟨before, recorded, after, built, encoded⟩ := evidenced
      have valid := rearranged_validates sound canonical rearranges
        (bounded_character participant.account) plain recorded built
      have decoded := decodeModule_encoded ModuleReplayPayload.loadoutChanged? encoded rfl
      refine follow_event followed rfl ?_
      intro reading agrees
      obtain ⟨found, search, records⟩ := agrees.recorded.find_character member
      have reached : found.state = before := by
        have state := records.state
        rw [current] at state
        exact Except.ok.inj (state.symm.trans recorded)
      refine ⟨_, applyKind_loadout rfl (completed_of_ready agrees ready) decoded valid
        (matchingParticipant_of_records current rfl search records) reached, ?_,
        fun _ => completed_of_ready agrees ready⟩
      refine agrees.recorded.update member _ _ ?_
      intro entry entryRecords
      refine { entryRecords with state := ?_ }
      rw [Function.update_self, current]
      exact moduleReplayState_rearranged recorded built

theorem readSession_of_reconstruct {events : List ReplayEvent}
    (reconstructed : reconstructModules events = .ok session) : ∃ reading,
      readSession events = .ok reading := by
  simp only [reconstructModules, bind_eq_ok] at reconstructed
  obtain ⟨-, -, -, -, reading, read, -⟩ := reconstructed
  exact ⟨reading, read⟩

/-- One more event of a journal that is read. -/
theorem reading_step {journal : List ReplayEvent} {reading whole : SessionReading}
    (read : readSession journal = .ok reading)
    (extended : readSession (journal ++ [event]) = .ok whole) : ∃ session,
      applyKind reading.prior (noted reading.session event) event = .ok session ∧
        whole = { session, sawModuleEvent := reading.sawModuleEvent || event.kind.isModuleEvent
                  prior := some event } := by
  unfold readSession at read extended
  simp only [List.foldlM_append, read, bind_eq_ok, List.foldlM_cons, List.foldlM_nil, pure_eq_ok,
    Except.ok.injEq, exists_eq_left'] at extended
  obtain ⟨last, applied, rfl⟩ := extended
  unfold applyEvent at applied
  simp only [bind_eq_ok, pure_eq_ok] at applied
  obtain ⟨session, accepted, rfl⟩ := applied
  exact ⟨session, accepted, rfl⟩

/-- The claim that the reducer accepted moved the balance as it says. -/
theorem applyKind_claimed {next : ReconstructedSession}
    {payload : Encoded AcquisitionClaimedPayload} {claim : AcquisitionClaimedPayload}
    (kind : event.kind = .acquisitionClaimed) (typed : event.payload = .acquisition payload)
    (written : payload.value = some claim) (accepted : applyKind prior session event = .ok next) :
    next.completed = session.completed ∧
      next.participants = updateParticipant claim.characterId
        (fun participant => { participant with
          state := { participant.state with fragments := claim.resultingFragments } })
        session.participants := by
  simp only [applyKind, kind, applyClaim, decodeAcquisitionClaimed, typed, Payload.acquisition?,
    bind_eq_ok, exists_unit, require_eq_ok, rejectIf_eq_ok, pure_eq_ok, Option.some.injEq,
    exists_eq_left', written] at accepted
  obtain ⟨_, ⟨-, -, rfl⟩, -, found, -, -, rfl⟩ := accepted
  exact ⟨rfl, rfl⟩

theorem follow_claimed (followed : Followed live) (member : participant ∈ live.participants)
    {payload : Encoded AcquisitionClaimedPayload} {claim : AcquisitionClaimedPayload}
    (written : payload.value = some claim) (character : claim.characterId = participant.character)
    (validated : ∃ session, reconstructModules
      (claimed live participant payload claim.resultingFragments).journal = .ok session) :
    Followed { live with store := claimed live participant payload claim.resultingFragments } := by
  obtain ⟨session, reconstructed⟩ := validated
  obtain ⟨whole, wholeRead⟩ := readSession_of_reconstruct reconstructed
  obtain ⟨reading, read, agrees⟩ := followed
  obtain ⟨next, accepted, rfl⟩ := reading_step read wholeRead
  obtain ⟨completed, participants⟩ := applyKind_claimed rfl rfl written accepted
  refine ⟨_, wholeRead, ?_, ?_⟩
  · rw [participants, character]
    refine agrees.recorded.update member _ _ ?_
    intro entry entryRecords
    refine { entryRecords with state := ?_ }
    rw [Function.update_self]
    exact moduleReplayState_fragments entryRecords.state _
  · intro old oldMember kind
    rw [completed]
    rcases List.mem_append.mp oldMember with earlier | last
    · exact agrees.completed old earlier kind
    · cases List.mem_singleton.mp last
      cases kind

end Steps

/-! ## The order of the journal -/

/-- One session's events with increasing identifiers below the sequence, every
joining in front of its snapshot. -/
structure Ordered (sessionId : String) (journal : List ReplayEvent) (sequence : Int) : Prop where
  here : ∀ event ∈ journal, event.sessionId = sessionId
  increasing : journal.Pairwise (fun earlier later => earlier.id < later.id)
  below : ∀ event ∈ journal, event.id < sequence
  adjacent : validateSnapshotAdjacency journal = .ok ()

theorem validateEventOrder_eq_ok {sessionId : String} {prior : Option Int}
    {events : List ReplayEvent} (here : ∀ event ∈ events, event.sessionId = sessionId)
    (increasing : events.Pairwise (fun earlier later => earlier.id < later.id))
    (behind : ∀ id ∈ prior, ∀ event ∈ events, id < event.id) :
    validateEventOrder sessionId prior events = .ok () := by
  induction events generalizing prior with
  | nil => rfl
  | cons event rest inductionHypothesis =>
      simp only [validateEventOrder, guard_bind_eq_ok, rejectIf_eq_ok, not_not]
      refine ⟨here event List.mem_cons_self, ?_, ?_⟩
      · rintro ⟨id, member, early⟩
        have late := behind id member event List.mem_cons_self
        omega
      · refine inductionHypothesis (fun later member => here later (List.mem_cons_of_mem _ member))
          (List.pairwise_cons.mp increasing).2 ?_
        intro id same later member
        cases same
        exact (List.pairwise_cons.mp increasing).1 later member

theorem validateSnapshotAdjacency_append {journal appended : List ReplayEvent}
    (first : validateSnapshotAdjacency journal = .ok ())
    (second : validateSnapshotAdjacency appended = .ok ()) :
    validateSnapshotAdjacency (journal ++ appended) = .ok () := by
  induction journal with
  | nil => exact second
  | cons event rest inductionHypothesis =>
      simp only [validateSnapshotAdjacency, guard_bind_eq_ok, rejectIf_eq_ok, List.cons_append]
        at first ⊢
      obtain ⟨present, next, others⟩ := first
      cases rest with
      | nil =>
          have other : event.kind ≠ .playerJoined := fun joined => present ⟨joined, rfl⟩
          exact ⟨fun found => other found.1, fun found => other found.1, second⟩
      | cons following rest => exact ⟨present, next, inductionHypothesis others⟩

theorem adjacent_singleton (other : event.kind ≠ .playerJoined) :
    validateSnapshotAdjacency [event] = .ok () := by
  simp only [validateSnapshotAdjacency, guard_bind_eq_ok, rejectIf_eq_ok, other, false_and,
    not_false_eq_true, and_self]

section Ordered

variable {sessionId : String} {journal : List ReplayEvent} {sequence : Int}

/-- The next event takes the sequence. -/
theorem Ordered.append (ordered : Ordered sessionId journal sequence) {event : ReplayEvent}
    (here : event.sessionId = sessionId) (next : event.id = sequence)
    (other : event.kind ≠ .playerJoined) :
    Ordered sessionId (journal ++ [event]) (sequence + 1) where
  here := by
    intro old member
    rcases List.mem_append.mp member with earlier | last
    · exact ordered.here old earlier
    · cases List.mem_singleton.mp last
      exact here
  increasing := by
    refine List.pairwise_append.mpr ⟨ordered.increasing, List.pairwise_singleton _ _, ?_⟩
    intro old member last lastMember
    cases List.mem_singleton.mp lastMember
    rw [next]
    exact ordered.below old member
  below := by
    intro old member
    rcases List.mem_append.mp member with earlier | last
    · have below := ordered.below old earlier
      omega
    · cases List.mem_singleton.mp last
      omega
  adjacent := validateSnapshotAdjacency_append ordered.adjacent (adjacent_singleton other)

/-- A joining is appended together with its snapshot. -/
theorem Ordered.join (ordered : Ordered sessionId journal sequence) {joined snapshot : ReplayEvent}
    (here : joined.sessionId = sessionId ∧ snapshot.sessionId = sessionId)
    (next : joined.id = sequence ∧ snapshot.id = sequence + 1)
    (kind : snapshot.kind = .moduleStateSnapshot) (actor : snapshot.actorId = joined.actorId) :
    Ordered sessionId (journal ++ [joined] ++ [snapshot]) (sequence + 1 + 1) := by
  have pair : validateSnapshotAdjacency [joined, snapshot] = .ok () := by
    simp only [validateSnapshotAdjacency, guard_bind_eq_ok, rejectIf_eq_ok, List.head?_cons,
      List.head?_nil, Option.isNone_some, Option.mem_def, Option.some.injEq, exists_eq_left', kind,
      actor, Bool.false_eq_true, and_false, reduceCtorEq, false_and, not_false_eq_true, ne_eq,
      not_true_eq_false, or_self, and_self]
  have increasing : [joined, snapshot].Pairwise (fun earlier later => earlier.id < later.id) := by
    refine List.pairwise_pair.mpr ?_
    omega
  rw [List.append_assoc]
  constructor
  · intro old member
    rcases List.mem_append.mp member with earlier | last
    · exact ordered.here old earlier
    · rcases List.mem_pair.mp last with rfl | rfl
      · exact here.1
      · exact here.2
  · refine List.pairwise_append.mpr ⟨ordered.increasing, increasing, ?_⟩
    intro old member last lastMember
    have below := ordered.below old member
    rcases List.mem_pair.mp lastMember with rfl | rfl <;> omega
  · intro old member
    rcases List.mem_append.mp member with earlier | last
    · have below := ordered.below old earlier
      omega
    · rcases List.mem_pair.mp last with rfl | rfl <;> omega
  · exact validateSnapshotAdjacency_append ordered.adjacent pair

/-- An insertion on behalf of the session. -/
theorem Ordered.insert {live : Live} {store : ModuleStore} (participant : Participant)
    {kind : ReplayEventKind} {payload : Payload}
    (ordered : Ordered live.sessionId store.journal store.sequence) (other : kind ≠ .playerJoined) :
    Ordered live.sessionId
      (store.insertReplayEvent (live.context participant) kind payload).journal
      (store.insertReplayEvent (live.context participant) kind payload).sequence :=
  ordered.append rfl rfl other

end Ordered

variable {jsonBytes : ModuleReplayPayload → Nat}

/-- Every step keeps the journal ordered. -/
theorem ordered_step {before after : Live} (step : Step jsonBytes before after)
    (ordered : Ordered before.sessionId before.store.journal before.store.sequence) :
    Ordered after.sessionId after.store.journal after.store.sequence := by
  cases step with
  | skipped sequence later =>
      exact { ordered with below := fun event member => lt_of_lt_of_le (ordered.below event member) later }
  | joined participant store fresh appended =>
      simp only [appendPlayerJoinedWithModuleSnapshot, bind_eq_ok, exists_unit, rejectIf_eq_ok,
        pure_eq_ok, loadPersistedModuleState_iff, liftReplay_eq_ok] at appended
      obtain ⟨-, -, -, _, -, state, -, snapshot, -, rfl⟩ := appended
      exact ordered.join ⟨rfl, rfl⟩ ⟨rfl, rfl⟩ rfl rfl
  | recorded event unrelated here next => exact ordered.append here next unrelated.1
  | rewarded participant member quantity store granted =>
      simp only [grantFragments, bind_eq_ok, exists_unit, rejectIf_eq_ok, pure_eq_ok] at granted
      obtain ⟨-, rfl⟩ := granted
      exact Ordered.insert participant ordered (by decide)
  | combined participant member current phase operationId moduleId receipt store committed =>
      obtain ⟨-, commit⟩ := combine_commits committed
      cases commit with
      | replayed => exact ordered
      | applied => exact Ordered.insert participant ordered (by decide)
  | rearranged participant member current phase operationId expectedRevision requested receipt store
      committed =>
      obtain ⟨-, modules, -, commit⟩ := loadout_commits committed
      cases commit with
      | replayed => exact ordered
      | applied => exact Ordered.insert participant ordered (by decide)
  | claimed participant member payload claim written character validated =>
      exact Ordered.insert participant ordered (by decide)

/-! ## Accepted mutations are the domain's -/

/-- The domain state that reconstructed evidence describes. -/
def domainState (state : ReplayModuleStateEvidence) : Except ModuleMutationError ModuleState :=
  ModuleState.new state.fragments state.ownedModules state.persistedLoadout state.loadoutRevision

/-- The evidence of a domain state under a recorded catalog. -/
def evidenceOf (catalogRevision : String) (state : ModuleState) :
    Except ReplayError ReplayModuleStateEvidence :=
  moduleStateEvidenceForCatalog catalogRevision state.fragments state.ownedModules state.loadout
    state.revision .v2

/-- What that state is, once the evidence is valid. -/
def bareState (state : ReplayModuleStateEvidence) : ModuleState :=
  { fragments := state.fragments, owned := state.ownedModules.toFinset
    loadout := state.persistedLoadout, revision := state.loadoutRevision
    combinationOperations := [], loadoutOperations := [] }

/-- Valid active evidence describes a sound domain state without a ledger. -/
theorem domainState_of_valid {state : ReplayModuleStateEvidence}
    (valid : validateModuleState state = .ok ()) (active : state.moduleEffectsActive = true) :
    state.ownedModules.Nodup ∧ canonicalizeLoadout state.persistedLoadout = .ok state.persistedLoadout ∧
      domainState state = .ok (bareState state) := by
  rw [validateModuleState_iff, active, if_pos rfl] at valid
  obtain ⟨distinct, canonical, resolved, grounded, same⟩ := evidence_iff.mp valid
  have persisted : state.persistedLoadout = canonical := by rw [same]; rfl
  have ordered := grounded.ordered
  rw [← persisted] at ordered
  refine ⟨distinct, ordered, ModuleState.new_iff.mpr ⟨distinct, _, ordered, ?_, rfl⟩⟩
  intro moduleId member
  exact List.mem_toFinset.mp (grounded.equipped moduleId (persisted ▸ member))

/-- The event's payload mutates the state the reducer has reached. -/
structure Applies (session next : ReconstructedSession) (characterId : String)
    (before after : ReplayModuleStateEvidence) (mutate : ModuleState → ModuleState → Prop) :
    Prop where
  reached : ∃ participant ∈ session.participants,
    participant.characterId = characterId ∧ participant.state = before
  mutated : ∃ domain result, domainState before = .ok domain ∧ mutate domain result ∧
    evidenceOf before.catalogRevision result = .ok after
  left : next.participants = updateParticipant characterId
    (fun participant => { participant with state := after }) session.participants

theorem matchingParticipant_mem {characterId : String}
    {participants : List ReconstructedModuleParticipant} {found : ReconstructedModuleParticipant}
    (matching : matchingParticipant event characterId participants = .ok found) :
    found ∈ participants ∧ found.characterId = characterId := by
  simp only [matchingParticipant, bind_eq_ok, exists_unit, require_eq_ok, pure_eq_ok] at matching
  obtain ⟨_, search, -, -, rfl⟩ := matching
  have hit := List.find?_some search
  exact ⟨List.mem_of_find?_eq_some search, of_decide_eq_true hit⟩

theorem combination_applies {prior : Option ReplayEvent} {next : ReconstructedSession}
    (kind : event.kind = .moduleCombined) (accepted : applyKind prior session event = .ok next) :
    ∃ payload : ModuleCombinedPayload,
      decodeModule ModuleReplayPayload.combined? event.payload = .ok payload ∧
        Applies session next payload.characterId payload.before payload.after
          (fun domain result => domain.combine .complete payload.operationId payload.moduleId =
            .ok (⟨.applied, domain.combinationOutcome payload.operationId payload.moduleId⟩, result)) := by
  simp only [applyKind, kind, applyCombination, bind_eq_ok, exists_unit, rejectIf_eq_ok, pure_eq_ok,
    not_not] at accepted
  obtain ⟨-, payload, decoded, valid, found, matching, reached, rfl⟩ := accepted
  obtain ⟨member, character⟩ := matchingParticipant_mem matching
  simp only [ModuleCombinedPayload.validate, validateMutationIdentity, bind_eq_ok, exists_unit,
    rejectIf_eq_ok, not_or, not_not, Bool.not_eq_false, Nat.not_lt, domainAnswer_eq_ok,
    validateOperationId_eq_ok] at valid
  obtain ⟨-, ⟨-, plain⟩, validBefore, -, ⟨active, -⟩, ⟨recipe, paid⟩, absent, expected, built, same⟩ :=
    valid
  obtain ⟨distinct, ordered, domain⟩ := domainState_of_valid validBefore active
  refine ⟨payload, decoded, ⟨found, member, character, reached⟩, ?_, rfl⟩
  refine ⟨_, (bareState payload.before).combined payload.operationId payload.moduleId, domain, ?_, ?_⟩
  · unfold ModuleState.combine
    rw [guard_bind_eq_ok, validateOperationId_eq_ok]
    refine ⟨plain, ?_⟩
    simp only [bareState, List.lookup_nil, bind_eq_ok, Prod.exists, ModuleState.combineNew_iff,
      pure_eq_ok, Prod.mk.injEq, true_and]
    exact ⟨_, _, ⟨⟨fun owned => absent (List.mem_toFinset.mp owned), recipe ▸ paid,
      (by decide : 0 < maxOperationRecordsPerKind)⟩, rfl,
      rfl⟩, rfl, rfl⟩
  · rw [same, ← built, recipe]
    unfold evidenceOf
    refine evidence_congr (nodup_inDeclaredOrder _) ?_ ?_
    · exact List.nodup_append.mpr ⟨distinct, List.nodup_singleton _, by
        intro old oldMember new newMember together
        cases List.mem_singleton.mp newMember
        exact absent (together ▸ oldMember)⟩
    · ext other
      simp [bareState, ModuleState.ownedModules, ModuleState.combined]

theorem loadout_applies {prior : Option ReplayEvent} {next : ReconstructedSession}
    (kind : event.kind = .moduleLoadoutChanged)
    (accepted : applyKind prior session event = .ok next) : ∃ payload : ModuleLoadoutChangedPayload,
      decodeModule ModuleReplayPayload.loadoutChanged? event.payload = .ok payload ∧
        Applies session next payload.characterId payload.before payload.after
          (fun domain result => domain.setLoadout .complete payload.operationId domain.revision
            payload.after.persistedLoadout =
              .ok (⟨.applied, domain.loadoutOutcome payload.operationId
                payload.after.persistedLoadout⟩, result)) := by
  simp only [applyKind, kind, applyLoadout, bind_eq_ok, exists_unit, rejectIf_eq_ok, pure_eq_ok,
    not_not] at accepted
  obtain ⟨-, payload, decoded, valid, found, matching, reached, rfl⟩ := accepted
  obtain ⟨member, character⟩ := matchingParticipant_mem matching
  simp only [ModuleLoadoutChangedPayload.validate, validateMutationIdentity, bind_eq_ok, exists_unit,
    rejectIf_eq_ok, not_or, not_not, Bool.not_eq_false, domainAnswer_eq_ok,
    validateOperationId_eq_ok] at valid
  obtain ⟨-, ⟨-, plain⟩, validBefore, -, ⟨active, -⟩, -, changed, expected, built, same⟩ := valid
  obtain ⟨distinct, ordered, domain⟩ := domainState_of_valid validBefore active
  rw [← same] at built
  obtain ⟨-, canonical, resolved, grounded, record⟩ := evidence_iff.mp built
  have persisted : payload.after.persistedLoadout = canonical := by rw [record]; rfl
  refine ⟨payload, decoded, ⟨found, member, character, reached⟩, ?_, rfl⟩
  refine ⟨_, (bareState payload.before).rearranged payload.operationId
    payload.after.persistedLoadout, domain, ?_, ?_⟩
  · unfold ModuleState.setLoadout
    rw [guard_bind_eq_ok, validateOperationId_eq_ok]
    have resolvedLoadout := canonicalizeLoadout_idem grounded.ordered
    rw [← persisted] at resolvedLoadout
    refine ⟨plain, bind_eq_ok.mpr ⟨_, canonicalLoadout_eq_ok.mpr resolvedLoadout, ?_⟩⟩
    simp only [bareState, List.lookup_nil, bind_eq_ok, Prod.exists, ModuleState.setLoadoutNew_iff,
      pure_eq_ok, Prod.mk.injEq, true_and]
    refine ⟨_, _, ⟨⟨?_, changed, (by decide : 0 < maxOperationRecordsPerKind), ?_⟩,
      rfl, rfl⟩, rfl, rfl⟩
    · intro moduleId equipped
      exact grounded.equipped moduleId (persisted ▸ equipped)
    · exact Nat.lt_of_succ_le grounded.bounded
  · conv => rhs; rw [← built]
    unfold evidenceOf
    refine evidence_congr (nodup_inDeclaredOrder _) distinct ?_
    simp [bareState, ModuleState.ownedModules, ModuleState.rearranged]

/-! ## The agreement -/

theorem followed_step {before after : Live} (step : Step jsonBytes before after)
    (followed : Followed before) : Followed after := by
  cases step with
  | skipped =>
      obtain ⟨reading, read, agrees⟩ := followed
      exact ⟨reading, read, agrees.recorded, agrees.completed⟩
  | joined participant store fresh appended => exact follow_joined followed fresh appended
  | recorded event unrelated => exact follow_recorded followed unrelated
  | rewarded participant member quantity store granted =>
      exact follow_rewarded followed member granted
  | combined participant member current phase operationId moduleId receipt store committed =>
      exact follow_combined followed member current committed
  | rearranged participant member current phase operationId expectedRevision requested receipt store
      committed =>
      exact follow_rearranged followed member current committed
  | claimed participant member payload claim written character validated =>
      exact follow_claimed followed member written character validated

/-- A session before its first player. -/
structure Opened (live : Live) : Prop where
  participants : live.participants = []
  journal : live.store.journal = []

theorem followed_run {first last : Live} (opened : Opened first)
    (run : Relation.ReflTransGen (Step jsonBytes) first last) :
    Followed last ∧ Ordered last.sessionId last.store.journal last.store.sequence := by
  induction run with
  | refl =>
      have nobody : Recorded first.store.modules first.participants [] := by
        rw [opened.participants]
        constructor
        · intro participant member
          cases member
        · intro recorded member
          cases member
        · exact List.nodup_nil
        · exact List.nodup_nil
      have nothing : readSession first.store.journal = .ok .start := by
        rw [opened.journal]
        rfl
      have empty : ∀ event, event ∉ first.store.journal := by
        intro event
        rw [opened.journal]
        exact List.not_mem_nil
      refine ⟨⟨.start, nothing, nobody, fun event member => absurd member (empty event)⟩, ?_⟩
      constructor
      · exact fun event member => absurd member (empty event)
      · rw [opened.journal]
        exact List.Pairwise.nil
      · exact fun event member => absurd member (empty event)
      · rw [opened.journal]
        rfl
  | tail _ step inductionHypothesis =>
      exact ⟨followed_step step inductionHypothesis.1, ordered_step step inductionHypothesis.2⟩

/-- An ordered journal that the reducer follows is reconstructed. -/
theorem reconstructModules_of_followed {live : Live}
    (read : readSession live.store.journal = .ok reading)
    (ordered : Ordered live.sessionId live.store.journal live.store.sequence)
    (started : live.store.journal ≠ []) :
    reconstructModules live.store.journal = .ok reading.session := by
  obtain ⟨event, rest, journal⟩ := List.exists_cons_of_ne_nil started
  have first : live.store.journal.head? = some event := by rw [journal]; rfl
  have here : event.sessionId = live.sessionId :=
    ordered.here event (List.mem_of_mem_head? first)
  have order : validateEventOrder event.sessionId none live.store.journal = .ok () := by
    rw [here]
    exact validateEventOrder_eq_ok ordered.here ordered.increasing nofun
  have adjacent := ordered.adjacent
  unfold reconstructModules
  simp only [bind_eq_ok, exists_unit, require_eq_ok, first, Option.some.injEq, exists_eq_left', order,
    read, Except.ok.injEq, true_and]
  split
  · simp only [bind_eq_ok, exists_unit, adjacent, pure_eq_ok, true_and]
  · rfl

/-- Live and replayed modules agree.  Along every session, whatever its players
earn, combine and equip in whatever order, the reducer accepts the journal and
reaches the evidence of the live rows; what a transaction commits is what the
domain computes; and a mutation that the reducer accepts in whatever state is one
that the domain applies there. -/
theorem modules_agree (jsonBytes : ModuleReplayPayload → Nat) :
    (∀ first last, Opened first → Relation.ReflTransGen (Step jsonBytes) first last →
      ∀ participant ∈ last.participants, ∃ session recorded,
        reconstructModules last.store.journal = .ok session ∧ recorded ∈ session.participants ∧
          Records last.store.modules participant recorded) ∧
    (∀ store after characterId phase operationId moduleId context receipt,
      combineModuleWithReplay jsonBytes store characterId phase operationId moduleId context =
        .ok (receipt, after) →
      (store.modules characterId).combine phase operationId moduleId =
        .ok (receipt, after.modules characterId)) ∧
    (∀ store after characterId phase operationId expectedRevision requested context receipt,
      setModuleLoadoutWithReplay jsonBytes store characterId phase operationId expectedRevision
        requested context = .ok (receipt, after) →
      (store.modules characterId).setLoadout phase operationId expectedRevision requested =
        .ok (receipt, after.modules characterId)) ∧
    (∀ prior session next event, event.kind = .moduleCombined →
      applyKind prior session event = .ok next → ∃ payload : ModuleCombinedPayload,
        decodeModule ModuleReplayPayload.combined? event.payload = .ok payload ∧
          Applies session next payload.characterId payload.before payload.after
            (fun domain result => domain.combine .complete payload.operationId payload.moduleId =
              .ok (⟨.applied, domain.combinationOutcome payload.operationId payload.moduleId⟩,
                result))) ∧
    ∀ prior session next event, event.kind = .moduleLoadoutChanged →
      applyKind prior session event = .ok next → ∃ payload : ModuleLoadoutChangedPayload,
        decodeModule ModuleReplayPayload.loadoutChanged? event.payload = .ok payload ∧
          Applies session next payload.characterId payload.before payload.after
            (fun domain result => domain.setLoadout .complete payload.operationId domain.revision
              payload.after.persistedLoadout =
                .ok (⟨.applied, domain.loadoutOutcome payload.operationId
                  payload.after.persistedLoadout⟩, result)) := by
  refine ⟨?_, ?_, ?_, ?_, ?_⟩
  · intro first last opened run participant member
    obtain ⟨⟨reading, read, agrees⟩, ordered⟩ := followed_run opened run
    obtain ⟨recorded, recordedMember, records⟩ := agrees.recorded.known participant member
    have started : last.store.journal ≠ [] := by
      intro empty
      have nothing : reading = .start := by
        have start : readSession last.store.journal = .ok .start := by rw [empty]; rfl
        exact Except.ok.inj (Eq.symm (start.symm.trans read))
      rw [nothing] at recordedMember
      cases recordedMember
    exact ⟨reading.session, recorded, reconstructModules_of_followed read ordered started,
      recordedMember, records⟩
  · intro store after characterId phase operationId moduleId context receipt
    exact combine_refines
  · intro store after characterId phase operationId expectedRevision requested context receipt
    exact loadout_refines
  · intro prior session next event
    exact combination_applies
  · intro prior session next event
    exact loadout_applies

/-- A player with two fragments and no module. -/
def recruit : Participant :=
  { account := ⟨"local:echo", by decide⟩, actorId := 7, generation := .v2
    catalogRevision := some "m35-v2" }

/-- The recruit's session before anyone joined. -/
def quietHall : Live :=
  { sessionId := "session-1", activityId := "relay_awakening", participants := []
    store :=
      { modules := fun _ => ⟨2, ∅, [], 0, [], []⟩, journal := [], sequence := 1 } }

def finished (sequence : Int) : ReplayEvent :=
  { id := sequence, kind := .activityCompleted, sessionId := "session-1", accountId := "local:echo"
    activityId := some "relay_awakening", actorId := some 7, payload := .text "activity completed" }

/-- The recruit joins, completes the activity and combines a force matrix. -/
def firstCraft : Except ModulePersistenceError (ModuleStore × ModuleStore) := do
  let joined ← appendPlayerJoinedWithModuleSnapshot (fun _ => 0) quietHall.store recruit.character
    (quietHall.context recruit) .v2
  let completed : ModuleStore :=
    { joined with journal := joined.journal ++ [finished joined.sequence]
                  sequence := joined.sequence + 1 }
  let (_, crafted) ← combineModuleWithReplay (fun _ => 0) completed recruit.character .complete
    "craft-1" .forceMatrix (quietHall.context recruit)
  return (joined, crafted)

theorem firstCraft_isOk : firstCraft.isOk = true := by decide +kernel

theorem finished_unrelated (sequence : Int) : Unrelated (finished sequence) := by
  simp [Unrelated, finished]

theorem modules_agree_crafted : ∃ last,
    Relation.ReflTransGen (Step (fun _ => 0)) quietHall last ∧
      ∃ participant ∈ last.participants, ∃ session recorded,
        reconstructModules last.store.journal = .ok session ∧ recorded ∈ session.participants ∧
          Records last.store.modules participant recorded := by
  cases crafted : firstCraft with
  | error failure =>
      have accepted := firstCraft_isOk
      rw [crafted] at accepted
      cases accepted
  | ok stores =>
      simp only [firstCraft, bind_eq_ok, pure_eq_ok, Prod.exists] at crafted
      obtain ⟨joined, appended, receipt, last, committed, rfl⟩ := crafted
      have join : Step (fun _ => 0) quietHall
          { quietHall with participants := [recruit], store := joined } :=
        .joined recruit joined (by intro other absent; cases absent) appended
      have complete : Step (fun _ => 0) { quietHall with participants := [recruit], store := joined }
          { quietHall with
            participants := [recruit]
            store := { joined with journal := joined.journal ++ [finished joined.sequence]
                                   sequence := joined.sequence + 1 } } :=
        .recorded (finished joined.sequence) (finished_unrelated _) rfl rfl
      have craft : Step (fun _ => 0)
          { quietHall with
            participants := [recruit]
            store := { joined with journal := joined.journal ++ [finished joined.sequence]
                                   sequence := joined.sequence + 1 } }
          { quietHall with participants := [recruit], store := last } :=
        .combined recruit List.mem_cons_self rfl .complete "craft-1" .forceMatrix receipt last committed
      have run := ((Relation.ReflTransGen.single join).tail complete).tail craft
      exact ⟨_, run, recruit, List.mem_cons_self,
        (modules_agree (fun _ => 0)).1 _ _ ⟨rfl, rfl⟩ run recruit List.mem_cons_self⟩

end Modules
end Agreement
end Revenant
