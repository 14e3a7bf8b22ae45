import Revenant.Modules.State
import Revenant.Library.Json
import Revenant.Replay.Failure

namespace Revenant
namespace Replay

open Library

/-!
# Module evidence

The module part of a journal records a character's modules together with
everything that follows from them: the catalog, the applied loadout and the
resolved weapons.  A reader computes all of it again from the recorded
fragments, ownership, loadout and revision, and refuses evidence that differs.
-/

inductive ReplayProtocolGeneration where
  | v1
  | v2
  deriving DecidableEq, Repr

structure ReplayWeaponEvidence where
  itemId : String
  base : CombatProfile
  effective : CombatProfile
  deriving DecidableEq

structure ReplayModuleStateEvidence where
  catalogRevision : String
  catalog : List ModuleDefinition
  fragments : Nat
  ownedModules : List ModuleId
  loadoutRevision : Nat
  persistedLoadout : List ModuleId
  appliedLoadout : List ModuleId
  moduleEffectsActive : Bool
  modifiers : AggregateModifiers
  weapons : List ReplayWeaponEvidence
  deriving DecidableEq

structure ModuleStateSnapshotPayload where
  schemaVersion : Nat
  characterId : String
  protocolGeneration : ReplayProtocolGeneration
  state : ReplayModuleStateEvidence
  deriving DecidableEq

structure ModuleCombinedPayload where
  schemaVersion : Nat
  characterId : String
  operationId : String
  moduleId : ModuleId
  recipeFragments : Nat
  before : ReplayModuleStateEvidence
  after : ReplayModuleStateEvidence
  deriving DecidableEq

structure ModuleLoadoutChangedPayload where
  schemaVersion : Nat
  characterId : String
  operationId : String
  before : ReplayModuleStateEvidence
  after : ReplayModuleStateEvidence
  deriving DecidableEq

inductive ModuleReplayPayload where
  | stateSnapshot (payload : ModuleStateSnapshotPayload)
  | combined (payload : ModuleCombinedPayload)
  | loadoutChanged (payload : ModuleLoadoutChangedPayload)
  deriving DecidableEq

def moduleReplaySchemaVersion : Nat := 1
def maxModuleReplayPayloadBytes : Nat := 8192

/-- The weapons a catalog resolves, in their recorded order. -/
def evidenceWeapons (catalog : Option CatalogRevision) : List WeaponItem :=
  [.pulseRifle, .arcSidearm] ++
    (if catalog ∈ [some .m31v1, some .m35v1, some .m35v2] then [.coilLance] else []) ++
    (if catalog ∈ [some .m35v1, some .m35v2] then [.scatterCaster, .railDriver] else [])

/-- The definitions evidence under a catalog lists. -/
def evidenceCatalog (catalog : Option CatalogRevision) : List ModuleDefinition :=
  ((catalog.map CatalogRevision.modules).getD ModuleId.legacy).map moduleDefinition

def baseProfile (item : WeaponItem) : CombatProfile :=
  { damage := item.weaponProfile.damage, range := item.weaponProfile.range
    cooldownMs := item.weaponProfile.cooldownMs, maxHealth := 100 }

def resolveEvidenceWeapon (catalogRevision : String) (applied : List ModuleId) (item : WeaponItem) :
    Except ReplayError (ReplayWeaponEvidence × AggregateModifiers) :=
  match resolveNamed catalogRevision (baseProfile item) applied with
  | .ok resolved =>
      .ok ({ itemId := item.itemId, base := baseProfile item, effective := resolved.profile },
        resolved.modifiers)
  | .error failure => .error (invalidModule failure.text)

/-- A domain answer with its error worded for the journal. -/
def domainAnswer {Value : Type} (answer : Except ModuleMutationError Value) :
    Except ReplayError Value :=
  match answer with
  | .ok value => .ok value
  | .error failure => .error (invalidModule failure.text)

/-- The loadout whose effects the protocol generation applies. -/
def appliedLoadout (generation : ReplayProtocolGeneration) (loadout : List ModuleId) : List ModuleId :=
  if generation = .v2 then loadout else []

/-- The evidence, once the loadout is canonical and the weapons are resolved. -/
def evidenceRecord (catalogRevision : String) (fragments : Nat) (owned : List ModuleId)
    (canonical : List ModuleId) (loadoutRevision : Nat) (generation : ReplayProtocolGeneration)
    (resolved : List (ReplayWeaponEvidence × AggregateModifiers)) : ReplayModuleStateEvidence :=
  { catalogRevision, catalog := evidenceCatalog (CatalogRevision.named catalogRevision), fragments
    ownedModules := owned, loadoutRevision, persistedLoadout := canonical
    appliedLoadout := appliedLoadout generation canonical
    moduleEffectsActive := decide (generation = .v2)
    modifiers := (resolved.head?.map Prod.snd).getD .zero, weapons := resolved.map Prod.fst }

/-- Evidence of a module state under the catalog an event records. -/
def moduleStateEvidenceForCatalog (catalogRevision : String) (fragments : Nat)
    (ownedModules persistedLoadout : List ModuleId) (loadoutRevision : Nat)
    (generation : ReplayProtocolGeneration) : Except ReplayError ReplayModuleStateEvidence := do
  let catalog := CatalogRevision.named catalogRevision
  rejectIf (loadoutRevision > maxLoadoutRevision)
    (invalidModule "loadout revision exceeds the signed persistence bound")
  rejectIf (catalog = some .m26v1 ∧ ∃ moduleId ∈ ownedModules, moduleId ∉ ModuleId.legacy)
    (invalidModule "legacy ownership contains a content module")
  rejectIf (catalog ≠ some .m35v2 ∧ ∃ moduleId ∈ ownedModules, moduleId ∉ ModuleId.content)
    (invalidModule "ownership requires the build catalog")
  let domain ← domainAnswer
    (ModuleState.new fragments ownedModules persistedLoadout loadoutRevision)
  let resolved ← (evidenceWeapons catalog).mapM
    (resolveEvidenceWeapon catalogRevision (appliedLoadout generation domain.loadout))
  rejectIf (∃ weapon ∈ resolved, resolved.head?.map Prod.snd ≠ some weapon.2)
    (invalidModule "weapon builds resolved different aggregate modifiers")
  return evidenceRecord catalogRevision fragments domain.ownedModules domain.loadout
    loadoutRevision generation resolved

/-- The catalog evidence is recorded under when none was negotiated. -/
def impliedCatalog (ownedModules : List ModuleId) (generation : ReplayProtocolGeneration) :
    CatalogRevision :=
  if ∃ moduleId ∈ ownedModules, moduleId ∉ ModuleId.content then .m35v2
  else if generation = .v2 ∨ ∃ moduleId ∈ ownedModules, moduleId ∉ ModuleId.legacy then .m31v1
  else .m26v1

def moduleStateEvidence (fragments : Nat) (ownedModules persistedLoadout : List ModuleId)
    (loadoutRevision : Nat) (generation : ReplayProtocolGeneration) :
    Except ReplayError ReplayModuleStateEvidence :=
  moduleStateEvidenceForCatalog (impliedCatalog ownedModules generation).text fragments ownedModules
    persistedLoadout loadoutRevision generation

/-! ## What evidence rests on -/

/-- Everything evidence is computed from besides the fragments. -/
structure Grounded (catalogRevision : String) (owned : Finset ModuleId)
    (loadout canonical : List ModuleId) (loadoutRevision : Nat)
    (generation : ReplayProtocolGeneration)
    (resolved : List (ReplayWeaponEvidence × AggregateModifiers)) : Prop where
  bounded : loadoutRevision ≤ maxLoadoutRevision
  legacy : CatalogRevision.named catalogRevision = some .m26v1 →
    ∀ moduleId ∈ owned, moduleId ∈ ModuleId.legacy
  content : CatalogRevision.named catalogRevision ≠ some .m35v2 →
    ∀ moduleId ∈ owned, moduleId ∈ ModuleId.content
  ordered : canonicalizeLoadout loadout = .ok canonical
  equipped : ∀ moduleId ∈ canonical, moduleId ∈ owned
  resolves : (evidenceWeapons (CatalogRevision.named catalogRevision)).mapM
    (resolveEvidenceWeapon catalogRevision (appliedLoadout generation canonical)) = .ok resolved
  agreeing : ∀ weapon ∈ resolved, resolved.head?.map Prod.snd = some weapon.2

theorem domainAnswer_eq_ok {Value : Type} {answer : Except ModuleMutationError Value}
    {value : Value} : domainAnswer answer = .ok value ↔ answer = .ok value := by
  cases answer <;> simp [domainAnswer]

variable {catalogRevision : String} {fragments loadoutRevision : Nat}
variable {ownedModules loadout : List ModuleId} {generation : ReplayProtocolGeneration}
variable {evidence : ReplayModuleStateEvidence}

theorem evidence_iff :
    moduleStateEvidenceForCatalog catalogRevision fragments ownedModules loadout loadoutRevision
        generation = .ok evidence ↔
      ownedModules.Nodup ∧ ∃ canonical resolved,
        Grounded catalogRevision ownedModules.toFinset loadout canonical loadoutRevision generation
          resolved ∧
        evidence = evidenceRecord catalogRevision fragments
          (inDeclaredOrder ownedModules.toFinset) canonical loadoutRevision generation resolved := by
  simp only [moduleStateEvidenceForCatalog, bind_eq_ok, exists_unit, rejectIf_eq_ok, pure_eq_ok,
    domainAnswer_eq_ok, ModuleState.new_iff, not_exists, not_and, not_not, gt_iff_lt, Nat.not_lt]
  constructor
  · rintro ⟨bounded, legacy, content, domain, ⟨distinct, canonical, accepted, equipped, rfl⟩,
      resolved, resolves, agreeing, rfl⟩
    refine ⟨distinct, canonical, resolved, ?_, rfl⟩
    constructor
    · exact bounded
    · exact fun named moduleId member => legacy named moduleId (List.mem_toFinset.mp member)
    · exact fun other moduleId member => content other moduleId (List.mem_toFinset.mp member)
    · exact accepted
    · exact fun moduleId member => List.mem_toFinset.mpr (equipped moduleId member)
    · exact resolves
    · exact agreeing
  · rintro ⟨distinct, canonical, resolved, grounded, rfl⟩
    refine ⟨grounded.bounded, ?_, ?_, _, ⟨distinct, canonical, grounded.ordered, ?_, rfl⟩,
      resolved, grounded.resolves, grounded.agreeing, rfl⟩
    · exact fun named moduleId member => grounded.legacy named moduleId (List.mem_toFinset.mpr member)
    · exact fun other moduleId member => grounded.content other moduleId (List.mem_toFinset.mpr member)
    · exact fun moduleId member => List.mem_toFinset.mp (grounded.equipped moduleId member)

/-- Evidence of a state computed from its own fields is itself. -/
theorem evidence_repeats
    (built : moduleStateEvidenceForCatalog catalogRevision fragments ownedModules loadout
      loadoutRevision generation = .ok evidence) :
    moduleStateEvidenceForCatalog evidence.catalogRevision evidence.fragments evidence.ownedModules
      evidence.persistedLoadout evidence.loadoutRevision generation = .ok evidence := by
  obtain ⟨-, canonical, resolved, grounded, rfl⟩ := evidence_iff.mp built
  refine evidence_iff.mpr ⟨nodup_inDeclaredOrder _, canonical, resolved, ?_, ?_⟩
  · dsimp only [evidenceRecord]
    rw [toFinset_inDeclaredOrder]
    exact { grounded with ordered := canonicalizeLoadout_idem grounded.ordered }
  · dsimp only [evidenceRecord]
    rw [toFinset_inDeclaredOrder]

/-- Other fragments change the evidence in its fragments only. -/
theorem evidence_fragments
    (built : moduleStateEvidenceForCatalog catalogRevision fragments ownedModules loadout
      loadoutRevision generation = .ok evidence) (total : Nat) :
    moduleStateEvidenceForCatalog catalogRevision total ownedModules loadout loadoutRevision
      generation = .ok { evidence with fragments := total } := by
  obtain ⟨distinct, canonical, resolved, grounded, rfl⟩ := evidence_iff.mp built
  exact evidence_iff.mpr ⟨distinct, canonical, resolved, grounded, rfl⟩

/-- Evidence depends on the set of owned modules, not on the order they come in. -/
theorem evidence_congr {others : List ModuleId} (distinct : ownedModules.Nodup)
    (otherDistinct : others.Nodup) (same : ownedModules.toFinset = others.toFinset) :
    moduleStateEvidenceForCatalog catalogRevision fragments ownedModules loadout loadoutRevision
        generation =
      moduleStateEvidenceForCatalog catalogRevision fragments others loadout loadoutRevision
        generation := by
  have members : ∀ moduleId, moduleId ∈ ownedModules ↔ moduleId ∈ others := by
    intro moduleId
    rw [← List.mem_toFinset, same, List.mem_toFinset]
  unfold moduleStateEvidenceForCatalog ModuleState.new
  have first : firstDuplicate [] ownedModules = none :=
    firstDuplicate_eq_none.mpr ⟨distinct, fun _ _ => List.not_mem_nil⟩
  have second : firstDuplicate [] others = none :=
    firstDuplicate_eq_none.mpr ⟨otherDistinct, fun _ _ => List.not_mem_nil⟩
  simp only [members, first, second, same]

/-! ## The reader's checks -/

def validateModuleState (state : ReplayModuleStateEvidence) : Except ReplayError Unit := do
  let generation : ReplayProtocolGeneration := if state.moduleEffectsActive = true then .v2 else .v1
  let expected ← moduleStateEvidenceForCatalog state.catalogRevision state.fragments
    state.ownedModules state.persistedLoadout state.loadoutRevision generation
  rejectIf (state ≠ expected) (invalidModule
    "module state catalog, order, activation, modifiers, or arithmetic disagrees")

def validateSchema (schemaVersion : Nat) : Except ReplayError Unit :=
  rejectIf (schemaVersion ≠ moduleReplaySchemaVersion)
    (invalidModule "unknown module replay payload schema version")

/-- 1 to 128 bytes. -/
abbrev BoundedIdentifier (characterId : String) : Prop :=
  characterId ≠ "" ∧ characterId.utf8ByteSize ≤ 128

def validateMutationIdentity (characterId operationId : String) : Except ReplayError Unit := do
  rejectIf (¬ BoundedIdentifier characterId)
    (invalidModule "mutation character identifier is outside bounds")
  domainAnswer (validateOperationId operationId)

def ModuleStateSnapshotPayload.validate (payload : ModuleStateSnapshotPayload) :
    Except ReplayError Unit := do
  validateSchema payload.schemaVersion
  rejectIf (¬ BoundedIdentifier payload.characterId)
    (invalidModule "snapshot character identifier is outside bounds")
  rejectIf (payload.state.moduleEffectsActive ≠ decide (payload.protocolGeneration = .v2))
    (invalidModule "protocol generation and module activation disagree")
  validateModuleState payload.state

def ModuleCombinedPayload.validate (payload : ModuleCombinedPayload) : Except ReplayError Unit := do
  validateSchema payload.schemaVersion
  validateMutationIdentity payload.characterId payload.operationId
  validateModuleState payload.before
  validateModuleState payload.after
  rejectIf (payload.before.moduleEffectsActive = false ∨ payload.after.moduleEffectsActive = false)
    (invalidModule "module mutation evidence must use active V2 arithmetic")
  rejectIf (payload.recipeFragments ≠ payload.moduleId.recipeFragments ∨
      payload.before.fragments < payload.recipeFragments)
    (invalidModule "module combination recipe evidence is impossible")
  rejectIf (payload.moduleId ∈ payload.before.ownedModules)
    (invalidModule "module combination starts with an owned module")
  let expected ← moduleStateEvidenceForCatalog payload.before.catalogRevision
    (payload.before.fragments - payload.recipeFragments)
    (payload.before.ownedModules ++ [payload.moduleId]) payload.before.persistedLoadout
    payload.before.loadoutRevision .v2
  rejectIf (payload.after ≠ expected) (invalidModule "module combination after-state is impossible")

def ModuleLoadoutChangedPayload.validate (payload : ModuleLoadoutChangedPayload) :
    Except ReplayError Unit := do
  validateSchema payload.schemaVersion
  validateMutationIdentity payload.characterId payload.operationId
  validateModuleState payload.before
  validateModuleState payload.after
  rejectIf (payload.before.moduleEffectsActive = false ∨ payload.after.moduleEffectsActive = false)
    (invalidModule "module mutation evidence must use active V2 arithmetic")
  rejectIf (payload.before.loadoutRevision ≥ u64Max)
    (invalidModule "module loadout revision overflowed")
  rejectIf (payload.after.persistedLoadout = payload.before.persistedLoadout)
    (invalidModule "module loadout event records no change")
  let expected ← moduleStateEvidenceForCatalog payload.before.catalogRevision
    payload.before.fragments payload.before.ownedModules payload.after.persistedLoadout
    (payload.before.loadoutRevision + 1) .v2
  rejectIf (payload.after ≠ expected) (invalidModule "module loadout after-state is impossible")

theorem validateModuleState_iff {state : ReplayModuleStateEvidence} :
    validateModuleState state = .ok () ↔
      moduleStateEvidenceForCatalog state.catalogRevision state.fragments state.ownedModules
        state.persistedLoadout state.loadoutRevision
        (if state.moduleEffectsActive = true then .v2 else .v1) = .ok state := by
  simp only [validateModuleState, bind_eq_ok, rejectIf_eq_ok, not_not]
  constructor
  · rintro ⟨expected, built, rfl⟩
    exact built
  · intro built
    exact ⟨state, built, rfl⟩

/-- The reader accepts whatever the writer computes. -/
theorem validateModuleState_of_evidence
    (built : moduleStateEvidenceForCatalog catalogRevision fragments ownedModules loadout
      loadoutRevision generation = .ok evidence) :
    validateModuleState evidence = .ok () ∧
      evidence.moduleEffectsActive = decide (generation = .v2) := by
  have active : evidence.moduleEffectsActive = decide (generation = .v2) := by
    obtain ⟨-, canonical, resolved, -, rfl⟩ := evidence_iff.mp built
    rfl
  have recorded : (if evidence.moduleEffectsActive = true then
      ReplayProtocolGeneration.v2 else .v1) = generation := by
    rw [active]
    cases generation <;> rfl
  refine ⟨?_, active⟩
  rw [validateModuleState_iff, recorded]
  exact evidence_repeats built

namespace ModuleReplayPayload

def stateSnapshot? : ModuleReplayPayload → Option ModuleStateSnapshotPayload
  | stateSnapshot payload => some payload
  | _ => none

def combined? : ModuleReplayPayload → Option ModuleCombinedPayload
  | combined payload => some payload
  | _ => none

def loadoutChanged? : ModuleReplayPayload → Option ModuleLoadoutChangedPayload
  | loadoutChanged payload => some payload
  | _ => none

end ModuleReplayPayload

end Replay
end Revenant
