import Mathlib.Algebra.Group.Nat.Defs
import Revenant.Challenges.Catalog
import Revenant.Modules

namespace Revenant
namespace Challenges

open Library

/-!
# Challenge saves

A save is the revision of its last transition, the active run, the result of
the last ended run and one record for each set of rules ever completed.
`validate` is the reader's check of a whole save; `Valid` states what it
accepts, one structure for a run and one for a save.

Checks are made in the order of the source and each keeps its error, so the
first failing one is the one reported.  A save that passes names only
published rules, and its records differ in their rules.
-/

/-- `i64::MAX`, the largest revision and the largest recorded time. -/
def maxRevision : Nat := 2 ^ 63 - 1

/-- A record of accepted equipment, never a grant. -/
structure Equipment where
  loadoutRevision : Nat
  catalogRevision : String
  weaponId : String
  modules : List ModuleId
  deriving DecidableEq, Repr

namespace Equipment

/-- The combat profile of the recorded weapon and modules. -/
def profile (equipment : Equipment) : Except ChallengeError CombatProfile := do
  let weapon ← require (weaponProfile equipment.weaponId) .invalidEquipment
  match resolveBuild .m35v2
      { damage := weapon.damage, range := weapon.range, cooldownMs := weapon.cooldownMs
        maxHealth := 100 } equipment.modules with
  | .ok profile => .ok profile
  | .error _ => .error .invalidEquipment

def validate (equipment : Equipment) : Except ChallengeError Unit := do
  rejectIf (equipment.loadoutRevision > maxRevision ∨
    equipment.catalogRevision ≠ CatalogRevision.m35v2.text ∨
    canonicalizeLoadout equipment.modules ≠ .ok equipment.modules) .invalidEquipment
  let _ ← equipment.profile

/-- The check that the signal contract puts on top: the lane is four long. -/
def validateSignal (equipment : Equipment) : Except ChallengeError Unit := do
  equipment.validate
  let profile ← equipment.profile
  rejectIf (profile.range < 4) .invalidEquipment

end Equipment

/-- Equipment a run of the contract may be started with. -/
def Equipment.Admitted (equipment : Equipment) (contract : ContractId) : Prop :=
  equipment.validate = .ok () ∧
    (contract = .distantSignal → equipment.validateSignal = .ok ())

/-- The equipment check of a start and of a whole save, written twice in the
source. -/
def Equipment.admit (equipment : Equipment) (contract : ContractId) : Except ChallengeError Unit := do
  equipment.validate
  if contract = .distantSignal then equipment.validateSignal else .ok ()

theorem Equipment.admit_iff {equipment : Equipment} {contract : ContractId} :
    equipment.admit contract = .ok () ↔ equipment.Admitted contract := by
  unfold Equipment.admit Equipment.Admitted
  rw [guard_bind_eq_ok]
  apply and_congr_right
  intro _
  split
  · next distant => simp only [distant, forall_const]
  · next other => simp only [other, false_imp_iff]

/-- The run's own profile has the maximum health its player was admitted with. -/
theorem Equipment.maxHealth_admitted {equipment : Equipment} {contentCapable : Bool}
    {weapons : List ModuleWeaponProfile} {maxHealth : Nat} {profile : CombatProfile}
    (projected : resolvedArsenalProjection equipment.modules true contentCapable (some .m35v2) =
      .ok (weapons, maxHealth)) (resolved : equipment.profile = .ok profile) :
    profile.maxHealth = maxHealth := by
  unfold Equipment.profile at resolved
  simp only [bind_eq_ok, require_eq_ok] at resolved
  obtain ⟨weapon, -, resolved⟩ := resolved
  split at resolved
  · next built =>
    cases resolved
    obtain ⟨canonical, sorted, total⟩ := maxHealth_resolved built
    rw [maxHealth_of_projection projected sorted]
    exact total
  · cases resolved

/-- Confirmed objectives of a bit set. -/
def countOnes (objectives : BitVec 8) : Nat :=
  (List.range 8).countP (fun index => objectives.getLsbD index)

structure ChallengeRun where
  runId : Nat
  rules : Rules
  equipment : Equipment
  objectives : BitVec 8
  elapsedMs : Option Nat
  deriving DecidableEq, Repr

namespace ChallengeRun

def mask (run : ChallengeRun) : BitVec 8 := run.rules.contract.completeMask

/-- The time goal of the run's rules. -/
def timeGoalMs (run : ChallengeRun) : Option Nat := run.rules.preset.timeGoalMs run.rules.contract

def validate (run : ChallengeRun) (revision : Nat) (completed : Bool) :
    Except ChallengeError Unit := do
  rejectIf (run.runId = 0 ∨ run.runId > revision ∨
    countOnes run.objectives > revision - run.runId ∨
    ¬ run.rules.Published ∨
    run.objectives &&& ~~~ run.mask ≠ 0 ∨
    (∃ elapsed ∈ run.elapsedMs, elapsed > maxRevision) ∨
    run.elapsedMs.isSome ≠ (completed && run.timeGoalMs.isSome) ∨
    (run.objectives == run.mask) ≠ completed ∨
    (run.rules.contract.ordered = true ∧ run.objectives ∉ ([0, 1, 3, 7] : List (BitVec 8))) ∨
    (run.rules.contract = .meridianCircuit ∧ run.objectives &&& 8 ≠ 0 ∧ completed = false))
    .invalidState
  run.equipment.admit run.rules.contract

/-- What the check accepts of one run. -/
structure Valid (run : ChallengeRun) (revision : Nat) (completed : Bool) : Prop where
  started : 0 < run.runId
  past : run.runId ≤ revision
  spaced : countOnes run.objectives ≤ revision - run.runId
  published : run.rules.Published
  known : run.objectives &&& ~~~ run.mask = 0
  bounded : ∀ elapsed ∈ run.elapsedMs, elapsed ≤ maxRevision
  timed : run.elapsedMs.isSome = (completed && run.timeGoalMs.isSome)
  full : (run.objectives == run.mask) = completed
  inOrder : run.rules.contract.ordered = true → run.objectives ∈ ([0, 1, 3, 7] : List (BitVec 8))
  returnLast : run.rules.contract = .meridianCircuit → completed = false → run.objectives &&& 8 = 0
  admitted : run.equipment.Admitted run.rules.contract

theorem validate_iff {run : ChallengeRun} {revision : Nat} {completed : Bool} :
    run.validate revision completed = .ok () ↔ run.Valid revision completed := by
  unfold validate
  simp only [guard_bind_eq_ok, rejectIf_eq_ok, Equipment.admit_iff, not_or, not_and, not_not,
    not_exists]
  constructor
  · rintro ⟨⟨started, past, spaced, published, known, bounded, timed, full, inOrder, returnLast⟩,
      admitted⟩
    refine ⟨by omega, by omega, by omega, published, known, ?_, timed, full, inOrder, ?_, admitted⟩
    · intro elapsed recorded
      exact Nat.le_of_not_lt (bounded elapsed recorded)
    · intro meridian open'
      by_contra returned
      exact returnLast meridian returned open'
  · intro valid
    refine ⟨⟨by have := valid.started; omega, by have := valid.past; omega,
      by have := valid.spaced; omega, valid.published, valid.known, ?_, valid.timed, valid.full,
      valid.inOrder, ?_⟩, valid.admitted⟩
    · intro elapsed recorded
      exact Nat.not_lt.mpr (valid.bounded elapsed recorded)
    · intro meridian returned open'
      exact returned (valid.returnLast meridian open')

/-- A run that is valid now stays valid as the revision grows. -/
theorem Valid.mono {run : ChallengeRun} {revision later : Nat} {completed : Bool}
    (valid : run.Valid revision completed) (grown : revision ≤ later) :
    run.Valid later completed :=
  { valid with
    past := le_trans valid.past grown
    spaced := le_trans valid.spaced (Nat.sub_le_sub_right grown _) }

end ChallengeRun

inductive Outcome where
  | completed
  | abandoned
  | defeated
  | interrupted
  deriving DecidableEq, Repr

structure AttemptResult where
  run : ChallengeRun
  outcome : Outcome
  deriving DecidableEq, Repr

structure ChallengeState where
  revision : Nat
  active : Option ChallengeRun
  lastResult : Option AttemptResult
  records : List ChallengeRun
  deriving DecidableEq, Repr

namespace ChallengeState

/-- The save of a character without challenge history. -/
def default : ChallengeState :=
  { revision := 0, active := none, lastResult := none, records := [] }

/-- Every run the save names. -/
def runs (state : ChallengeState) : List ChallengeRun :=
  state.active.toList ++ (state.lastResult.map (·.run)).toList ++ state.records

/-- Whether the save can be interpreted by the requested policy. -/
def supportsPolicy (state : ChallengeState) (policy : Policy) : Bool :=
  state.runs.all (fun run => run.rules.availableIn policy)

/-- One record against the records before it and the rest of the save. -/
def validateRecord (state : ChallengeState) (earlier : List ChallengeRun) (record : ChallengeRun) :
    Except ChallengeError Unit := do
  record.validate state.revision true
  rejectIf ((∃ old ∈ earlier, old.rules = record.rules ∨ old.runId = record.runId) ∨
    (∃ run ∈ state.active, run.runId ≤ record.runId) ∨
    (∀ result ∈ state.lastResult, result.run.runId < record.runId) ∨
    (∃ result ∈ state.lastResult, result.run.runId = record.runId ∧ result.run ≠ record))
    .invalidState

def validateRecords (state : ChallengeState) (earlier : List ChallengeRun) :
    List ChallengeRun → Except ChallengeError Unit
  | [] => .ok ()
  | record :: rest => do
      state.validateRecord earlier record
      state.validateRecords (earlier ++ [record]) rest

def validateActive (state : ChallengeState) : Except ChallengeError Unit :=
  match state.active with
  | some active => active.validate state.revision false
  | none => .ok ()

def validateLastResult (state : ChallengeState) : Except ChallengeError Unit :=
  match state.lastResult with
  | some result => do
      result.run.validate state.revision (result.outcome == .completed)
      rejectIf ((∃ run ∈ state.active, run.runId ≤ result.run.runId) ∨
        (result.outcome = .completed ∧ ∀ record ∈ state.records, record.rules ≠ result.run.rules))
        .invalidState
  | none => .ok ()

def validate (state : ChallengeState) : Except ChallengeError Unit := do
  rejectIf (state.revision > maxRevision ∨ state.records.length > 16 ∨
    (state.revision > 0 ∧ state.active = none ∧ state.lastResult = none)) .invalidState
  state.validateActive
  state.validateLastResult
  state.validateRecords [] state.records

/-- One record inside a valid save. -/
structure RecordValid (state : ChallengeState) (record : ChallengeRun) : Prop where
  run : record.Valid state.revision true
  beforeActive : ∀ active ∈ state.active, record.runId < active.runId
  ended : ∃ result ∈ state.lastResult, record.runId ≤ result.run.runId
  same : ∀ result ∈ state.lastResult, result.run.runId = record.runId → result.run = record

/-- Two records of a valid save. -/
def Distinct (first second : ChallengeRun) : Prop :=
  first.rules ≠ second.rules ∧ first.runId ≠ second.runId

/-- What the check accepts of a save. -/
structure Valid (state : ChallengeState) : Prop where
  revision : state.revision ≤ maxRevision
  bounded : state.records.length ≤ 16
  begun : 0 < state.revision → state.active ≠ none ∨ state.lastResult ≠ none
  active : ∀ run ∈ state.active, run.Valid state.revision false
  result : ∀ result ∈ state.lastResult,
    result.run.Valid state.revision (result.outcome == .completed)
  resultBeforeActive : ∀ result ∈ state.lastResult, ∀ active ∈ state.active,
    result.run.runId < active.runId
  recorded : ∀ result ∈ state.lastResult, result.outcome = .completed →
    ∃ record ∈ state.records, record.rules = result.run.rules
  records : ∀ record ∈ state.records, state.RecordValid record
  distinct : state.records.Pairwise Distinct

variable {state : ChallengeState}

theorem validateRecord_iff {earlier : List ChallengeRun} {record : ChallengeRun} :
    state.validateRecord earlier record = .ok () ↔
      state.RecordValid record ∧ ∀ old ∈ earlier, Distinct old record := by
  unfold validateRecord
  simp only [guard_bind_eq_ok, rejectIf_eq_ok, ChallengeRun.validate_iff, not_or,
    not_not, not_exists, not_and, not_forall, Nat.not_lt, exists_prop]
  constructor
  · rintro ⟨run, earlierDistinct, beforeActive, ended, same⟩
    refine ⟨⟨run, ?_, ended, ?_⟩, earlierDistinct⟩
    · intro active present
      exact Nat.lt_of_not_le (beforeActive active present)
    · intro result present equal
      exact same result present equal
  · rintro ⟨valid, earlierDistinct⟩
    refine ⟨valid.run, earlierDistinct, ?_, valid.ended, ?_⟩
    · intro active present
      exact Nat.not_le.mpr (valid.beforeActive active present)
    · intro result present equal
      exact valid.same result present equal

variable {records : List ChallengeRun}

theorem validateRecords_iff {earlier : List ChallengeRun} :
    state.validateRecords earlier records = .ok () ↔
      (∀ record ∈ records, state.RecordValid record) ∧ records.Pairwise Distinct ∧
        ∀ old ∈ earlier, ∀ record ∈ records, Distinct old record := by
  induction records generalizing earlier with
  | nil => simp [validateRecords]
  | cons record rest inductionHypothesis =>
      simp only [validateRecords, guard_bind_eq_ok, validateRecord_iff,
        inductionHypothesis, List.mem_cons, forall_eq_or_imp, List.pairwise_cons, List.mem_append,
        List.mem_cons, List.not_mem_nil, or_false]
      constructor
      · rintro ⟨⟨valid, earlierDistinct⟩, restValid, restDistinct, oldDistinct⟩
        refine ⟨⟨valid, restValid⟩, ⟨?_, restDistinct⟩, ?_⟩
        · exact oldDistinct record (Or.inr rfl)
        · intro old member
          exact ⟨earlierDistinct old member, oldDistinct old (Or.inl member)⟩
      · rintro ⟨⟨valid, restValid⟩, ⟨first, restDistinct⟩, oldDistinct⟩
        refine ⟨⟨valid, fun old member => (oldDistinct old member).1⟩, restValid, restDistinct, ?_⟩
        rintro old (member | rfl)
        · exact (oldDistinct old member).2
        · exact first

theorem validateActive_iff :
    state.validateActive = .ok () ↔ ∀ run ∈ state.active, run.Valid state.revision false := by
  unfold validateActive
  cases state.active with
  | none => simp
  | some run => simp [ChallengeRun.validate_iff]

theorem validateLastResult_iff :
    state.validateLastResult = .ok () ↔
      (∀ result ∈ state.lastResult,
        result.run.Valid state.revision (result.outcome == .completed)) ∧
      (∀ result ∈ state.lastResult, ∀ active ∈ state.active, result.run.runId < active.runId) ∧
      (∀ result ∈ state.lastResult, result.outcome = .completed →
        ∃ record ∈ state.records, record.rules = result.run.rules) := by
  unfold validateLastResult
  cases state.lastResult with
  | none => simp
  | some result =>
      simp only [guard_bind_eq_ok, rejectIf_eq_ok, ChallengeRun.validate_iff, not_or,
        not_and, not_not, not_exists, not_forall, ne_eq, exists_prop,
        Option.mem_some_iff, forall_eq']
      constructor
      · rintro ⟨valid, before, recorded⟩
        exact ⟨valid, fun active present => Nat.lt_of_not_le (before active present), recorded⟩
      · rintro ⟨valid, before, recorded⟩
        exact ⟨valid, fun active present => Nat.not_le.mpr (before active present), recorded⟩

/-- The check and its meaning. -/
theorem validate_iff : state.validate = .ok () ↔ state.Valid := by
  unfold validate
  simp only [guard_bind_eq_ok, rejectIf_eq_ok, validateActive_iff, validateLastResult_iff,
    validateRecords_iff, not_or, not_and, List.not_mem_nil, false_imp_iff, implies_true, and_true]
  constructor
  · rintro ⟨⟨revision, bounded, begun⟩, active, ⟨result, before, recorded⟩, records, distinct⟩
    refine ⟨by omega, by omega, ?_, active, result, before, recorded, records, distinct⟩
    intro positive
    by_cases idle : state.active = none
    · exact Or.inr (begun positive idle)
    · exact Or.inl idle
  · intro valid
    refine ⟨⟨by have := valid.revision; omega, by have := valid.bounded; omega, ?_⟩, valid.active,
      ⟨valid.result, valid.resultBeforeActive, valid.recorded⟩, valid.records, valid.distinct⟩
    intro positive idle
    rcases valid.begun positive with running | ended
    · exact absurd idle running
    · exact ended

theorem default_valid : default.Valid := by
  rw [← validate_iff]
  rfl

/-- Records of published rules, one for each, have their rules in the table. -/
theorem rules_subperm (distinct : records.Pairwise Distinct)
    (published : ∀ record ∈ records, record.rules.Published) :
    (records.map (·.rules)).Subperm publishedRules := by
  have different : (records.map (·.rules)).Nodup := by
    rw [List.nodup_iff_pairwise_ne, List.pairwise_map]
    exact distinct.imp (fun apart => apart.1)
  refine List.subperm_of_subset different ?_
  intro rules member
  obtain ⟨record, present, rfl⟩ := List.mem_map.mp member
  exact (published record present).mem

/-- They fit the bound. -/
theorem length_le_of_distinct (distinct : records.Pairwise Distinct)
    (published : ∀ record ∈ records, record.rules.Published) : records.length ≤ 16 := by
  have bound := (rules_subperm distinct published).length_le
  rwa [List.length_map, publishedRules_length] at bound

end ChallengeState

end Challenges
end Revenant
