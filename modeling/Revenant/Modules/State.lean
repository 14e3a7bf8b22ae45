import Revenant.Modules
import Mathlib.Data.Finset.Basic
import Mathlib.Data.Finset.Dedup

namespace Revenant

open Library

/-!
# Owned modules

A character owns relay fragments and a set of modules, of which at most three
make up the loadout.  Combining turns fragments into a module; a new loadout
raises the revision by one.  Accepted operations stay in a bounded ledger, so a
retry answers with the first outcome and changes nothing.
-/

inductive ModuleFamily where
  | force
  | tempo
  | reach
  | ward
  | focus
  | cycle
  | breach
  | optic
  | skirmish
  | ablative
  deriving DecidableEq, Repr

structure ModuleDefinition where
  moduleId : ModuleId
  family : ModuleFamily
  recipeFragments : Nat
  damageBasisPoints : Int
  cooldownBasisPoints : Int
  rangeDelta : Int
  maxHealthDelta : Int
  deriving DecidableEq, Repr

namespace ModuleId

def all : List ModuleId :=
  content ++ [breachShunt, standoffOptic, skirmishDrive, ablativeShell]

theorem mem_all (moduleId : ModuleId) : moduleId ∈ all := by
  cases moduleId <;> decide

theorem nodup_all : all.Nodup := by decide

def family : ModuleId → ModuleFamily
  | forceMatrix => .force
  | tempoRegulator => .tempo
  | reachLattice => .reach
  | wardCapacitor => .ward
  | focusLens => .focus
  | cycleBypass => .cycle
  | breachShunt => .breach
  | standoffOptic => .optic
  | skirmishDrive => .skirmish
  | ablativeShell => .ablative

/-- Two fragments for a module of the content catalog, one for a build module. -/
def recipeFragments (moduleId : ModuleId) : Nat := if moduleId ∈ content then 2 else 1

end ModuleId

def moduleDefinition (moduleId : ModuleId) : ModuleDefinition :=
  { moduleId, family := moduleId.family, recipeFragments := moduleId.recipeFragments
    damageBasisPoints := moduleId.modifiers.damageBasisPoints
    cooldownBasisPoints := moduleId.modifiers.cooldownBasisPoints
    rangeDelta := moduleId.modifiers.rangeDelta
    maxHealthDelta := moduleId.modifiers.maxHealthDelta }

namespace CatalogRevision

def all : List CatalogRevision := [m26v1, m31v1, m35v1, m35v2]

/-- The revision a text names. -/
def named (text : String) : Option CatalogRevision := all.find? (fun revision => revision.text = text)

@[simp] theorem named_text (revision : CatalogRevision) : named revision.text = some revision := by
  cases revision <;> decide

/-- The modules of a catalog, in their published order. -/
def modules : CatalogRevision → List ModuleId
  | m26v1 => ModuleId.legacy
  | m31v1 | m35v1 => ModuleId.content
  | m35v2 => ModuleId.all

end CatalogRevision

/-- The answer of `resolve_build`. -/
structure ResolvedBuild where
  modules : List ModuleId
  modifiers : AggregateModifiers
  profile : CombatProfile
  deriving DecidableEq

/-- `resolve_build` under the catalog a text names. -/
def resolveNamed (catalog : String) (base : CombatProfile) (requested : List ModuleId) :
    Except ModuleError ResolvedBuild :=
  match CatalogRevision.named catalog with
  | some revision => do
      let profile ← resolveBuild revision base requested
      let modules ← canonicalizeLoadout requested
      return { modules, modifiers := aggregateModifiers modules, profile }
  | none =>
      if ∃ moduleId ∈ requested, moduleId ∉ ModuleId.content then
        .error (.invalidCatalog "loadout requires the build catalog")
      else .error (.unknownCatalogRevision catalog)

/-! ## The state of one character -/

def maxOperationRecordsPerKind : Nat := 128
def maxLoadoutRevision : Nat := 9223372036854775807

/-- `waiting`, `active` or `complete`; only the last admits a mutation. -/
inductive ModulePhase where
  | waiting
  | active
  | complete
  deriving DecidableEq, Repr

def ModulePhase.text : ModulePhase → String
  | waiting => "Waiting"
  | active => "Active"
  | complete => "Complete"

inductive OperationDisposition where
  | applied
  | replayed
  deriving DecidableEq, Repr

structure OperationReceipt (Outcome : Type) where
  disposition : OperationDisposition
  outcome : Outcome
  deriving DecidableEq

structure CombinationOutcome where
  operationId : String
  moduleId : ModuleId
  recipeFragments : Nat
  previousFragments : Nat
  resultingFragments : Nat
  deriving DecidableEq

structure LoadoutOutcome where
  operationId : String
  previousModules : List ModuleId
  resultingModules : List ModuleId
  previousRevision : Nat
  resultingRevision : Nat
  deriving DecidableEq

structure StoredCombination where
  moduleId : ModuleId
  outcome : CombinationOutcome
  deriving DecidableEq

structure StoredLoadout where
  expectedRevision : Nat
  modules : List ModuleId
  outcome : LoadoutOutcome
  deriving DecidableEq

structure ModuleState where
  fragments : Nat
  owned : Finset ModuleId
  loadout : List ModuleId
  revision : Nat
  combinationOperations : List (String × StoredCombination)
  loadoutOperations : List (String × StoredLoadout)
  deriving DecidableEq

inductive ModuleMutationError where
  | module (error : ModuleError)
  | invalidOperationId
  | mutationLocked (phase : ModulePhase)
  | alreadyOwned (moduleId : ModuleId)
  | insufficientFragments (required available : Nat)
  | unownedModule (moduleId : ModuleId)
  | staleRevision (expected actual : Nat)
  | unchangedLoadout
  | idempotencyConflict
  | operationLimitReached
  | arithmeticOverflow
  deriving DecidableEq

def ModuleMutationError.text : ModuleMutationError → String
  | module error => error.text
  | invalidOperationId =>
      "operation identifier must contain 1-32 ASCII alphanumeric/hyphen characters"
  | mutationLocked phase => "module mutation is locked during " ++ phase.text
  | alreadyOwned moduleId => "module is already owned: " ++ moduleId.asStr
  | insufficientFragments required available =>
      s!"module recipe requires {required} fragments but only {available} are available"
  | unownedModule moduleId => "module loadout contains unowned item: " ++ moduleId.asStr
  | staleRevision expected actual =>
      s!"module loadout revision is stale: expected {expected}, actual {actual}"
  | unchangedLoadout => "module loadout is unchanged"
  | idempotencyConflict => "operation identifier was already used with different input"
  | operationLimitReached => "module operation ledger reached its bounded limit"
  | arithmeticOverflow => "module mutation arithmetic overflowed"

/-- 1 to 32 ASCII letters, digits and hyphens. -/
def plainOperationId (value : String) : Bool :=
  decide (value ≠ "") && decide (value.utf8ByteSize ≤ 32) &&
    value.toList.all (fun letter => letter.isAlphanum || letter == '-')

def validateOperationId (value : String) : Except ModuleMutationError Unit :=
  rejectIf (plainOperationId value = false) .invalidOperationId

/-- The first entry that occurred before. -/
def firstDuplicate : List ModuleId → List ModuleId → Option ModuleId
  | _, [] => none
  | seen, moduleId :: rest =>
      if moduleId ∈ seen then some moduleId else firstDuplicate (moduleId :: seen) rest

/-- The first entry outside a set of modules. -/
def firstUnowned (owned : Finset ModuleId) (modules : List ModuleId) : Option ModuleId :=
  modules.find? (fun moduleId => decide (moduleId ∉ owned))

/-- A value that must be absent. -/
def refuse {Value : Type} (found : Option Value) (failure : Value → ModuleMutationError) :
    Except ModuleMutationError Unit :=
  match found with
  | some value => .error (failure value)
  | none => .ok ()

/-- `canonicalize_loadout` with its error lifted. -/
def canonicalLoadout (requested : List ModuleId) : Except ModuleMutationError (List ModuleId) :=
  match canonicalizeLoadout requested with
  | .ok modules => .ok modules
  | .error error => .error (.module error)

/-- The members of a set of modules in their declared order. -/
def inDeclaredOrder (owned : Finset ModuleId) : List ModuleId :=
  ModuleId.all.filter (fun moduleId => decide (moduleId ∈ owned))

@[simp] theorem mem_inDeclaredOrder {owned : Finset ModuleId} {moduleId : ModuleId} :
    moduleId ∈ inDeclaredOrder owned ↔ moduleId ∈ owned := by
  simp only [inDeclaredOrder, List.mem_filter, ModuleId.mem_all, decide_eq_true_eq, true_and]

theorem nodup_inDeclaredOrder (owned : Finset ModuleId) : (inDeclaredOrder owned).Nodup :=
  ModuleId.nodup_all.filter _

@[simp] theorem toFinset_inDeclaredOrder (owned : Finset ModuleId) :
    (inDeclaredOrder owned).toFinset = owned := by
  ext moduleId
  rw [List.mem_toFinset, mem_inDeclaredOrder]

namespace ModuleState

/-- A validated state without an operation history. -/
def new (fragments : Nat) (ownedModules loadout : List ModuleId) (revision : Nat) :
    Except ModuleMutationError ModuleState := do
  refuse (firstDuplicate [] ownedModules) (fun moduleId => .module (.duplicateModule moduleId))
  let canonical ← canonicalLoadout loadout
  refuse (firstUnowned ownedModules.toFinset canonical) .unownedModule
  return { fragments, owned := ownedModules.toFinset, loadout := canonical, revision
           combinationOperations := [], loadoutOperations := [] }

def ownedModules (state : ModuleState) : List ModuleId := inDeclaredOrder state.owned

def rememberCombination (state : ModuleState) (operationId : String) (stored : StoredCombination) :
    ModuleState :=
  { state with combinationOperations := (operationId, stored) :: state.combinationOperations }

def rememberLoadout (state : ModuleState) (operationId : String) (stored : StoredLoadout) :
    ModuleState :=
  { state with loadoutOperations := (operationId, stored) :: state.loadoutOperations }

/-- The part of `combine` that runs for a new operation. -/
def combineNew (state : ModuleState) (phase : ModulePhase) (operationId : String)
    (moduleId : ModuleId) : Except ModuleMutationError (CombinationOutcome × ModuleState) := do
  rejectIf (phase ≠ .complete) (.mutationLocked phase)
  rejectIf (moduleId ∈ state.owned) (.alreadyOwned moduleId)
  let recipe := moduleId.recipeFragments
  rejectIf (state.fragments < recipe) (.insufficientFragments recipe state.fragments)
  rejectIf (state.combinationOperations.length ≥ maxOperationRecordsPerKind) .operationLimitReached
  let outcome : CombinationOutcome :=
    { operationId, moduleId, recipeFragments := recipe, previousFragments := state.fragments
      resultingFragments := state.fragments - recipe }
  let next := { state with fragments := state.fragments - recipe, owned := insert moduleId state.owned }
  return (outcome, next.rememberCombination operationId { moduleId, outcome })

/-- Turn fragments into a module; a repeated operation answers as the first time. -/
def combine (state : ModuleState) (phase : ModulePhase) (operationId : String) (moduleId : ModuleId) :
    Except ModuleMutationError (OperationReceipt CombinationOutcome × ModuleState) := do
  validateOperationId operationId
  match state.combinationOperations.lookup operationId with
  | some stored =>
      rejectIf (stored.moduleId ≠ moduleId) .idempotencyConflict
      return ({ disposition := .replayed, outcome := stored.outcome }, state)
  | none =>
      let (outcome, next) ← state.combineNew phase operationId moduleId
      return ({ disposition := .applied, outcome }, next)

/-- The part of `set_loadout` that runs for a new operation. -/
def setLoadoutNew (state : ModuleState) (phase : ModulePhase) (operationId : String)
    (expectedRevision : Nat) (modules : List ModuleId) :
    Except ModuleMutationError (LoadoutOutcome × ModuleState) := do
  rejectIf (phase ≠ .complete) (.mutationLocked phase)
  rejectIf (expectedRevision ≠ state.revision) (.staleRevision expectedRevision state.revision)
  refuse (firstUnowned state.owned modules) .unownedModule
  rejectIf (modules = state.loadout) .unchangedLoadout
  rejectIf (state.loadoutOperations.length ≥ maxOperationRecordsPerKind) .operationLimitReached
  rejectIf (state.revision ≥ maxLoadoutRevision) .arithmeticOverflow
  let outcome : LoadoutOutcome :=
    { operationId, previousModules := state.loadout, resultingModules := modules
      previousRevision := state.revision, resultingRevision := state.revision + 1 }
  let next := { state with loadout := modules, revision := state.revision + 1 }
  return (outcome, next.rememberLoadout operationId { expectedRevision, modules, outcome })

/-- Replace the whole loadout; the request is canonical before it is compared. -/
def setLoadout (state : ModuleState) (phase : ModulePhase) (operationId : String)
    (expectedRevision : Nat) (requested : List ModuleId) :
    Except ModuleMutationError (OperationReceipt LoadoutOutcome × ModuleState) := do
  validateOperationId operationId
  let modules ← canonicalLoadout requested
  match state.loadoutOperations.lookup operationId with
  | some stored =>
      rejectIf (stored.expectedRevision ≠ expectedRevision ∨ stored.modules ≠ modules)
        .idempotencyConflict
      return ({ disposition := .replayed, outcome := stored.outcome }, state)
  | none =>
      let (outcome, next) ← state.setLoadoutNew phase operationId expectedRevision modules
      return ({ disposition := .applied, outcome }, next)

end ModuleState

/-! ## Canonical loadouts -/

instance : Std.Total (fun left right : ModuleId => left.order ≤ right.order) where
  total left right := Nat.le_total left.order right.order

instance : IsTrans ModuleId (fun left right : ModuleId => left.order ≤ right.order) where
  trans _ _ _ first second := Nat.le_trans first second

variable {requested modules : List ModuleId}

theorem canonicalizeLoadout_iff :
    canonicalizeLoadout requested = .ok modules ↔ requested.length ≤ 3 ∧
      modules = requested.insertionSort (fun left right => left.order ≤ right.order) ∧
      firstRepeated modules = none := by
  unfold canonicalizeLoadout
  split
  · next long =>
      constructor
      · intro impossible
        cases impossible
      · rintro ⟨short, -, -⟩
        omega
  · next short =>
      dsimp only
      split
      · next repeated =>
          constructor
          · intro impossible
            cases impossible
          · rintro ⟨-, rfl, absent⟩
            rw [absent] at repeated
            cases repeated
      · next absent =>
          constructor
          · intro same
            cases same
            exact ⟨by omega, rfl, absent⟩
          · rintro ⟨-, rfl, -⟩
            rfl

theorem ModuleId.order_injective : Function.Injective ModuleId.order := by
  intro left right same
  cases left <;> cases right <;> first | rfl | cases same

/-- In a sorted list without equal neighbours every entry is below all later ones. -/
theorem strictly_sorted (sorted : modules.Pairwise (fun left right => left.order ≤ right.order))
    (distinct : firstRepeated modules = none) :
    modules.Pairwise (fun left right => left.order < right.order) := by
  induction modules with
  | nil => exact List.Pairwise.nil
  | cons first rest inductionHypothesis =>
      cases rest with
      | nil => exact List.pairwise_singleton _ _
      | cons second later =>
          have apart : first ≠ second := by
            rintro rfl
            simp only [firstRepeated, if_pos, reduceCtorEq] at distinct
          simp only [firstRepeated, if_neg apart] at distinct
          obtain ⟨before, ordered⟩ := List.pairwise_cons.mp sorted
          have strict := inductionHypothesis ordered distinct
          have ahead : first.order < second.order :=
            lt_of_le_of_ne (before second List.mem_cons_self) (ModuleId.order_injective.ne apart)
          refine List.pairwise_cons.mpr ⟨?_, strict⟩
          intro moduleId member
          rcases List.mem_cons.mp member with rfl | member
          · exact ahead
          · exact ahead.trans ((List.pairwise_cons.mp strict).1 moduleId member)

/-- A canonical loadout is its own canonical form. -/
theorem canonicalizeLoadout_idem (accepted : canonicalizeLoadout requested = .ok modules) :
    canonicalizeLoadout modules = .ok modules := by
  obtain ⟨short, sorted, distinct⟩ := canonicalizeLoadout_iff.mp accepted
  have ordered := List.pairwise_insertionSort
    (fun left right : ModuleId => left.order ≤ right.order) requested
  refine canonicalizeLoadout_iff.mpr ⟨?_, ?_, distinct⟩
  · rw [sorted, List.length_insertionSort]
    exact short
  · rw [sorted, ordered.insertionSort_eq]

theorem canonicalLoadout_eq_ok :
    canonicalLoadout requested = .ok modules ↔ canonicalizeLoadout requested = .ok modules := by
  unfold canonicalLoadout
  split
  · next accepted => rw [accepted, Except.ok.injEq, Except.ok.injEq]
  · next refused => simp only [refused, reduceCtorEq]

theorem refuse_eq_ok {Value : Type} {found : Option Value} {failure : Value → ModuleMutationError} :
    refuse found failure = .ok () ↔ found = none := by
  cases found <;> simp [refuse]

theorem firstUnowned_eq_none {owned : Finset ModuleId} :
    firstUnowned owned modules = none ↔ ∀ moduleId ∈ modules, moduleId ∈ owned := by
  simp only [firstUnowned, List.find?_eq_none, decide_eq_true_eq, not_not]

theorem firstDuplicate_eq_none {seen : List ModuleId} :
    firstDuplicate seen modules = none ↔
      modules.Nodup ∧ ∀ moduleId ∈ modules, moduleId ∉ seen := by
  induction modules generalizing seen with
  | nil => simp [firstDuplicate]
  | cons moduleId rest inductionHypothesis =>
      unfold firstDuplicate
      split
      · next repeated =>
          simp only [reduceCtorEq, List.mem_cons, forall_eq_or_imp, false_iff, not_and]
          intro _ absent
          exact absurd repeated absent
      · next fresh =>
          rw [inductionHypothesis, List.nodup_cons]
          simp only [List.mem_cons, not_or, forall_eq_or_imp]
          constructor
          · rintro ⟨distinct, apart⟩
            exact ⟨⟨fun member => (apart moduleId member).1 rfl, distinct⟩, fresh,
              fun other member => (apart other member).2⟩
          · rintro ⟨⟨absent, distinct⟩, -, apart⟩
            exact ⟨distinct, fun other member =>
              ⟨fun same => absent (same ▸ member), apart other member⟩⟩

namespace ModuleState

/-! ## What the operations do -/

variable {state : ModuleState}

theorem new_iff {fragments revision : Nat} {ownedModules loadout : List ModuleId} :
    new fragments ownedModules loadout revision = .ok state ↔ ownedModules.Nodup ∧
      ∃ canonical, canonicalizeLoadout loadout = .ok canonical ∧
        (∀ moduleId ∈ canonical, moduleId ∈ ownedModules) ∧
        state = { fragments, owned := ownedModules.toFinset, loadout := canonical, revision
                  combinationOperations := [], loadoutOperations := [] } := by
  simp only [new, bind_eq_ok, exists_unit, refuse_eq_ok, pure_eq_ok, canonicalLoadout_eq_ok,
    firstDuplicate_eq_none, firstUnowned_eq_none, List.mem_toFinset, List.not_mem_nil,
    not_false_eq_true, implies_true, and_true]
  constructor
  · rintro ⟨distinct, canonical, accepted, owned, rfl⟩
    exact ⟨distinct, canonical, accepted, owned, rfl⟩
  · rintro ⟨distinct, canonical, accepted, owned, rfl⟩
    exact ⟨distinct, canonical, accepted, owned, rfl⟩

/-- The loadout is canonical and consists of owned modules. -/
structure Sound (state : ModuleState) : Prop where
  canonical : canonicalizeLoadout state.loadout = .ok state.loadout
  equipped : ∀ moduleId ∈ state.loadout, moduleId ∈ state.owned

theorem sound_of_new {fragments revision : Nat} {owned loadout : List ModuleId}
    (built : new fragments owned loadout revision = .ok state) : state.Sound := by
  obtain ⟨-, canonical, accepted, equipped, rfl⟩ := new_iff.mp built
  constructor
  · exact canonicalizeLoadout_idem accepted
  · intro moduleId member
    exact List.mem_toFinset.mpr (equipped moduleId member)

/-- A combination that is new to the ledger. -/
structure Combines (state : ModuleState) (moduleId : ModuleId) : Prop where
  absent : moduleId ∉ state.owned
  paid : moduleId.recipeFragments ≤ state.fragments
  room : state.combinationOperations.length < maxOperationRecordsPerKind

def combinationOutcome (state : ModuleState) (operationId : String) (moduleId : ModuleId) :
    CombinationOutcome :=
  { operationId, moduleId, recipeFragments := moduleId.recipeFragments
    previousFragments := state.fragments
    resultingFragments := state.fragments - moduleId.recipeFragments }

/-- The state behind a combination. -/
def combined (state : ModuleState) (operationId : String) (moduleId : ModuleId) : ModuleState :=
  { state with
    fragments := state.fragments - moduleId.recipeFragments
    owned := insert moduleId state.owned
    combinationOperations :=
      (operationId, ⟨moduleId, state.combinationOutcome operationId moduleId⟩) ::
        state.combinationOperations }

theorem combineNew_iff {next : ModuleState} {phase : ModulePhase} {operationId : String}
    {moduleId : ModuleId} {outcome : CombinationOutcome} :
    state.combineNew phase operationId moduleId = .ok (outcome, next) ↔
      phase = .complete ∧ state.Combines moduleId ∧
        outcome = state.combinationOutcome operationId moduleId ∧
        next = state.combined operationId moduleId := by
  simp only [combineNew, bind_eq_ok, exists_unit, rejectIf_eq_ok, pure_eq_ok, not_not, Nat.not_lt,
    Nat.not_le, ge_iff_le, Prod.mk.injEq]
  constructor
  · rintro ⟨complete, absent, paid, room, rfl, rfl⟩
    exact ⟨complete, ⟨absent, paid, room⟩, rfl, rfl⟩
  · rintro ⟨complete, combines, rfl, rfl⟩
    exact ⟨complete, combines.absent, combines.paid, combines.room, rfl, rfl⟩

/-- A loadout change that is new to the ledger. -/
structure Rearranges (state : ModuleState) (modules : List ModuleId) : Prop where
  owned : ∀ moduleId ∈ modules, moduleId ∈ state.owned
  changed : modules ≠ state.loadout
  room : state.loadoutOperations.length < maxOperationRecordsPerKind
  revision : state.revision < maxLoadoutRevision

def loadoutOutcome (state : ModuleState) (operationId : String) (modules : List ModuleId) :
    LoadoutOutcome :=
  { operationId, previousModules := state.loadout, resultingModules := modules
    previousRevision := state.revision, resultingRevision := state.revision + 1 }

/-- The state behind a loadout change. -/
def rearranged (state : ModuleState) (operationId : String) (modules : List ModuleId) :
    ModuleState :=
  { state with
    loadout := modules
    revision := state.revision + 1
    loadoutOperations :=
      (operationId, ⟨state.revision, modules, state.loadoutOutcome operationId modules⟩) ::
        state.loadoutOperations }

theorem setLoadoutNew_iff {next : ModuleState} {phase : ModulePhase} {operationId : String}
    {expectedRevision : Nat} {modules : List ModuleId} {outcome : LoadoutOutcome} :
    state.setLoadoutNew phase operationId expectedRevision modules = .ok (outcome, next) ↔
      phase = .complete ∧ expectedRevision = state.revision ∧ state.Rearranges modules ∧
        outcome = state.loadoutOutcome operationId modules ∧
        next = state.rearranged operationId modules := by
  simp only [setLoadoutNew, bind_eq_ok, exists_unit, rejectIf_eq_ok, refuse_eq_ok, pure_eq_ok,
    firstUnowned_eq_none, not_not, Nat.not_le, ge_iff_le, Prod.mk.injEq]
  constructor
  · rintro ⟨complete, rfl, owned, changed, room, revision, rfl, rfl⟩
    exact ⟨complete, rfl, ⟨owned, changed, room, revision⟩, rfl, rfl⟩
  · rintro ⟨complete, rfl, rearranges, rfl, rfl⟩
    exact ⟨complete, rfl, rearranges.owned, rearranges.changed, rearranges.room,
      rearranges.revision, rfl, rfl⟩

theorem combined_sound (sound : state.Sound) (operationId : String) (moduleId : ModuleId) :
    (state.combined operationId moduleId).Sound where
  canonical := sound.canonical
  equipped := fun equipped member => Finset.mem_insert_of_mem (sound.equipped equipped member)

theorem rearranged_sound {requested modules : List ModuleId}
    (canonical : canonicalizeLoadout requested = .ok modules)
    (rearranges : state.Rearranges modules) (operationId : String) :
    (state.rearranged operationId modules).Sound where
  canonical := canonicalizeLoadout_idem canonical
  equipped := rearranges.owned

end ModuleState

end Revenant
