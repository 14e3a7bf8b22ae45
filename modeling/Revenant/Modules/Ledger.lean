import Mathlib.Algebra.BigOperators.Group.Finset.Basic
import Revenant.Library.Call
import Revenant.Library.Ledger
import Revenant.Modules.State

namespace Revenant

open Library

/-!
# The wallet and the ledgers of a character

Any sequence of combinations and loadout changes keeps the loadout canonical and
owned, accounts for every fragment and every revision, and records each applied
operation once.  A recorded operation answers every retry as it did first.

A retry with another content is refused as a conflict.  The ledgers are
bounded: when one is full, new operations are refused and retries are still
answered.
-/

/-- An operation on the modules of a character. -/
inductive ModuleCommand where
  | combine (phase : ModulePhase) (operationId : String) (moduleId : ModuleId)
  | setLoadout (phase : ModulePhase) (operationId : String) (expectedRevision : Nat)
      (requested : List ModuleId)
  deriving DecidableEq

/-- What an operation answers with. -/
inductive ModuleAnswer where
  | combined (receipt : OperationReceipt CombinationOutcome)
  | rearranged (receipt : OperationReceipt LoadoutOutcome)
  deriving DecidableEq

namespace ModuleState

/-- Both operations work on a copy and put it in place at their end. -/
def perform : ModuleCommand → Call ModuleState ModuleMutationError ModuleAnswer
  | .combine phase operationId moduleId => do
      let receipt ← Call.commit (combine · phase operationId moduleId)
      return .combined receipt
  | .setLoadout phase operationId expectedRevision requested => do
      let receipt ← Call.commit (setLoadout · phase operationId expectedRevision requested)
      return .rearranged receipt

/-- One operation's results. -/
inductive Step : ModuleCommand → ModuleState → Except ModuleMutationError ModuleAnswer →
    ModuleState → Prop
  | refused {command : ModuleCommand} {state : ModuleState} {failure : ModuleMutationError} :
      Step command state (.error failure) state
  | recombined {state : ModuleState} {phase : ModulePhase} {operationId : String}
      {moduleId : ModuleId} {outcome : CombinationOutcome} :
      Step (.combine phase operationId moduleId) state
        (.ok (.combined { disposition := .replayed, outcome })) state
  | combined {state : ModuleState} {phase : ModulePhase} {operationId : String}
      {moduleId : ModuleId} (plain : validateOperationId operationId = .ok ())
      (unknown : state.combinationOperations.lookup operationId = none)
      (combines : state.Combines moduleId) :
      Step (.combine phase operationId moduleId) state
        (.ok (.combined { disposition := .applied
                          outcome := state.combinationOutcome operationId moduleId }))
        (state.combined operationId moduleId)
  | reset {state : ModuleState} {phase : ModulePhase} {operationId : String}
      {expectedRevision : Nat} {requested : List ModuleId} {outcome : LoadoutOutcome} :
      Step (.setLoadout phase operationId expectedRevision requested) state
        (.ok (.rearranged { disposition := .replayed, outcome })) state
  | rearranged {state : ModuleState} {phase : ModulePhase} {operationId : String}
      {requested modules : List ModuleId} (plain : validateOperationId operationId = .ok ())
      (canonical : canonicalizeLoadout requested = .ok modules)
      (unknown : state.loadoutOperations.lookup operationId = none)
      (rearranges : state.Rearranges modules) :
      Step (.setLoadout phase operationId state.revision requested) state
        (.ok (.rearranged { disposition := .applied
                            outcome := state.loadoutOutcome operationId modules }))
        (state.rearranged operationId modules)

variable {state : ModuleState} {operationId : String}

theorem combine_step {next : ModuleState} {phase : ModulePhase} {moduleId : ModuleId}
    {receipt : OperationReceipt CombinationOutcome}
    (answered : state.combine phase operationId moduleId = .ok (receipt, next)) :
    Step (.combine phase operationId moduleId) state (.ok (.combined receipt)) next := by
  simp only [combine, bind_eq_ok, exists_unit] at answered
  obtain ⟨plain, answered⟩ := answered
  cases unknown : state.combinationOperations.lookup operationId with
  | some stored =>
      simp only [unknown, bind_eq_ok, exists_unit, pure_eq_ok, Prod.mk.injEq] at answered
      obtain ⟨-, rfl, rfl⟩ := answered
      exact Step.recombined
  | none =>
      simp only [unknown, bind_eq_ok, Prod.exists, combineNew_iff, pure_eq_ok, Prod.mk.injEq]
        at answered
      obtain ⟨outcome, built, ⟨-, combines, rfl, rfl⟩, rfl, rfl⟩ := answered
      exact Step.combined plain unknown combines

theorem setLoadout_step {next : ModuleState} {phase : ModulePhase} {expectedRevision : Nat}
    {requested : List ModuleId} {receipt : OperationReceipt LoadoutOutcome}
    (answered : state.setLoadout phase operationId expectedRevision requested = .ok (receipt, next)) :
    Step (.setLoadout phase operationId expectedRevision requested) state
      (.ok (.rearranged receipt)) next := by
  simp only [setLoadout, bind_eq_ok, exists_unit, canonicalLoadout_eq_ok] at answered
  obtain ⟨plain, modules, canonical, answered⟩ := answered
  cases unknown : state.loadoutOperations.lookup operationId with
  | some stored =>
      simp only [unknown, bind_eq_ok, exists_unit, pure_eq_ok, Prod.mk.injEq] at answered
      obtain ⟨-, rfl, rfl⟩ := answered
      exact Step.reset
  | none =>
      simp only [unknown, bind_eq_ok, Prod.exists, setLoadoutNew_iff, pure_eq_ok, Prod.mk.injEq]
        at answered
      obtain ⟨outcome, built, ⟨-, rfl, rearranges, rfl, rfl⟩, rfl, rfl⟩ := answered
      exact Step.rearranged plain canonical unknown rearranges

theorem perform_step (command : ModuleCommand) (state : ModuleState) :
    Step command state (perform command state).1 (perform command state).2 := by
  cases command with
  | combine phase operationId moduleId =>
      apply Call.sat_bind
      apply Call.sat_commit
      · intro failure _
        exact Step.refused
      · intro receipt next answered
        exact combine_step answered
  | setLoadout phase operationId expectedRevision requested =>
      apply Call.sat_bind
      apply Call.sat_commit
      · intro failure _
        exact Step.refused
      · intro receipt next answered
        exact setLoadout_step answered

/-! ## What every operation keeps -/

/-- The combination that an operation recorded, if it did. -/
def newCombination : ModuleCommand × Except ModuleMutationError ModuleAnswer →
    Option (String × StoredCombination)
  | (.combine _ operationId moduleId, .ok (.combined { disposition := .applied, outcome })) =>
      some (operationId, { moduleId, outcome })
  | _ => none

/-- The loadout change that an operation recorded, if it did. -/
def newLoadout : ModuleCommand × Except ModuleMutationError ModuleAnswer →
    Option (String × StoredLoadout)
  | (.setLoadout _ operationId expectedRevision _,
      .ok (.rearranged { disposition := .applied, outcome })) =>
      some (operationId, { expectedRevision, modules := outcome.resultingModules, outcome })
  | _ => none

/-- What an answer as new says about its request. -/
def Admissible : ModuleCommand × Except ModuleMutationError ModuleAnswer → Prop
  | (.combine _ operationId _, .ok (.combined { disposition := .applied, .. })) =>
      validateOperationId operationId = .ok ()
  | (.setLoadout _ operationId _ requested,
      .ok (.rearranged { disposition := .applied, outcome })) =>
      validateOperationId operationId = .ok () ∧
        canonicalizeLoadout requested = .ok outcome.resultingModules
  | _ => True

/-- The fragments spent on the modules gained. -/
def spent (start state : ModuleState) : Nat :=
  ∑ moduleId ∈ state.owned \ start.owned, moduleId.recipeFragments

structure Kept (start : ModuleState)
    (entries : List (ModuleCommand × Except ModuleMutationError ModuleAnswer))
    (state : ModuleState) : Prop where
  sound : state.Sound
  gained : start.owned ⊆ state.owned
  wallet : state.fragments + start.spent state = start.fragments
  revision : state.revision = start.revision + state.loadoutOperations.length
  combinations : Recorded maxOperationRecordsPerKind (entries.filterMap newCombination)
    state.combinationOperations
  loadouts : Recorded maxOperationRecordsPerKind (entries.filterMap newLoadout)
    state.loadoutOperations
  admissible : ∀ entry ∈ entries, Admissible entry

/-- A module that was not owned adds its recipe to what was spent. -/
theorem spent_combined {start : ModuleState} {moduleId : ModuleId}
    (gained : start.owned ⊆ state.owned) (absent : moduleId ∉ state.owned) :
    start.spent (state.combined operationId moduleId) =
      moduleId.recipeFragments + start.spent state := by
  have fresh : moduleId ∉ start.owned := fun member => absent (gained member)
  have apart : moduleId ∉ state.owned \ start.owned :=
    fun member => absent (Finset.mem_sdiff.mp member).1
  show ∑ moduleId ∈ insert moduleId state.owned \ start.owned, moduleId.recipeFragments = _
  rw [Finset.insert_sdiff_of_notMem _ fresh, Finset.sum_insert apart]
  rfl

namespace Kept

variable {start state next : ModuleState} {command : ModuleCommand}
  {entries : List (ModuleCommand × Except ModuleMutationError ModuleAnswer)}
  {result : Except ModuleMutationError ModuleAnswer}

theorem of_new {fragments revision : Nat} {owned loadout : List ModuleId}
    (built : new fragments owned loadout revision = .ok start) : Kept start [] start := by
  have sound := sound_of_new built
  obtain ⟨-, canonical, -, -, rfl⟩ := new_iff.mp built
  constructor
  case sound => exact sound
  case gained => exact Finset.Subset.refl _
  case wallet =>
    show fragments + spent _ _ = fragments
    rw [spent, Finset.sdiff_self, Finset.sum_empty]
    rfl
  case revision => rfl
  case combinations => exact Recorded.none
  case loadouts => exact Recorded.none
  case admissible => exact fun entry member => absurd member List.not_mem_nil

/-- An answer that records nothing changes no ledger. -/
theorem idle (kept : Kept start entries state)
    (combination : newCombination (command, result) = none)
    (loadout : newLoadout (command, result) = none) (admissible : Admissible (command, result)) :
    Kept start (entries ++ [(command, result)]) state :=
  { kept with
    combinations := by
      rw [List.filterMap_append, List.filterMap_cons, combination, List.filterMap_nil,
        List.append_nil]
      exact kept.combinations
    loadouts := by
      rw [List.filterMap_append, List.filterMap_cons, loadout, List.filterMap_nil,
        List.append_nil]
      exact kept.loadouts
    admissible := by
      intro entry member
      rcases List.mem_append.mp member with earlier | last
      · exact kept.admissible entry earlier
      · rw [List.mem_singleton.mp last]
        exact admissible }

theorem step (kept : Kept start entries state) (stepped : Step command state result next) :
    Kept start (entries ++ [(command, result)]) next := by
  cases stepped with
  | refused =>
      apply kept.idle
      · cases command <;> rfl
      · cases command <;> rfl
      · cases command <;> exact trivial
  | recombined => exact kept.idle rfl rfl trivial
  | reset => exact kept.idle rfl rfl trivial
  | @combined _ phase operationId moduleId plain unknown combines =>
      constructor
      case sound => exact combined_sound kept.sound operationId moduleId
      case gained => exact kept.gained.trans (Finset.subset_insert _ _)
      case wallet =>
        rw [spent_combined kept.gained combines.absent]
        have wallet := kept.wallet
        have paid := combines.paid
        show state.fragments - moduleId.recipeFragments + _ = _
        omega
      case revision => exact kept.revision
      case combinations =>
        rw [List.filterMap_append]
        exact kept.combinations.remember unknown combines.room
      case loadouts =>
        rw [List.filterMap_append]
        exact (List.append_nil (entries.filterMap newLoadout)).symm ▸ kept.loadouts
      case admissible =>
        intro entry member
        rcases List.mem_append.mp member with earlier | last
        · exact kept.admissible entry earlier
        · rw [List.mem_singleton.mp last]
          exact plain
  | @rearranged _ phase operationId requested modules plain canonical unknown rearranges =>
      constructor
      case sound => exact rearranged_sound canonical rearranges operationId
      case gained => exact kept.gained
      case wallet => exact kept.wallet
      case revision =>
        show state.revision + 1 = start.revision + (state.loadoutOperations.length + 1)
        rw [kept.revision, Nat.add_assoc]
      case combinations =>
        rw [List.filterMap_append]
        exact (List.append_nil (entries.filterMap newCombination)).symm ▸ kept.combinations
      case loadouts =>
        rw [List.filterMap_append]
        exact kept.loadouts.remember unknown rearranges.room
      case admissible =>
        intro entry member
        rcases List.mem_append.mp member with earlier | last
        · exact kept.admissible entry earlier
        · rw [List.mem_singleton.mp last]
          exact ⟨plain, canonical⟩

theorem log (kept : Kept start [] start) (commands : List ModuleCommand) :
    Kept start (Call.log perform commands start) (Call.final perform commands start) :=
  Call.log_keeps (Kept start) kept
    (fun _ command state before => before.step (perform_step command state)) commands

/-- A recorded combination answers its retry in any phase. -/
theorem recombines (kept : Kept start entries state) {phase : ModulePhase} {operationId : String}
    {moduleId : ModuleId} {outcome : CombinationOutcome}
    (applied : (.combine phase operationId moduleId,
      .ok (.combined { disposition := .applied, outcome })) ∈ entries) (retryPhase : ModulePhase) :
    perform (.combine retryPhase operationId moduleId) state =
      (.ok (.combined { disposition := .replayed, outcome }), state) := by
  have plain : validateOperationId operationId = .ok () := kept.admissible _ applied
  have found : state.combinationOperations.lookup operationId = some { moduleId, outcome } :=
    kept.combinations.lookup (List.mem_filterMap.mpr ⟨_, applied, rfl⟩)
  have answered : state.combine retryPhase operationId moduleId =
      .ok ({ disposition := .replayed, outcome }, state) := by
    simp only [combine, plain, found, bind_eq_ok, exists_unit, rejectIf_eq_ok, pure_eq_ok, ne_eq,
      not_true_eq_false, not_false_eq_true, and_self]
  exact Call.bind_of_ok (Call.commit_of_ok answered)

/-- A recorded loadout change answers its retry in any phase and any order. -/
theorem rearranges (kept : Kept start entries state) {phase : ModulePhase} {operationId : String}
    {expectedRevision : Nat} {requested : List ModuleId} {outcome : LoadoutOutcome}
    (applied : (.setLoadout phase operationId expectedRevision requested,
      .ok (.rearranged { disposition := .applied, outcome })) ∈ entries)
    (retryPhase : ModulePhase) {retried : List ModuleId}
    (same : canonicalizeLoadout retried = canonicalizeLoadout requested) :
    perform (.setLoadout retryPhase operationId expectedRevision retried) state =
      (.ok (.rearranged { disposition := .replayed, outcome }), state) := by
  obtain ⟨plain, canonical⟩ := kept.admissible _ applied
  have found : state.loadoutOperations.lookup operationId =
      some { expectedRevision, modules := outcome.resultingModules, outcome } :=
    kept.loadouts.lookup (List.mem_filterMap.mpr ⟨_, applied, rfl⟩)
  have requestedAgain : canonicalLoadout retried = .ok outcome.resultingModules :=
    canonicalLoadout_eq_ok.mpr (same.trans canonical)
  have answered : state.setLoadout retryPhase operationId expectedRevision retried =
      .ok ({ disposition := .replayed, outcome }, state) := by
    simp only [setLoadout, plain, requestedAgain, found, bind_eq_ok, exists_unit,
      Except.ok.injEq, exists_eq_left', rejectIf_eq_ok, pure_eq_ok, ne_eq, not_true_eq_false,
      or_self, not_false_eq_true, and_self]
  exact Call.bind_of_ok (Call.commit_of_ok answered)

end Kept

/-! ## Whole runs -/

/-- A sound loadout is sorted without repetition and within its capacity. -/
theorem Sound.loadout (sound : state.Sound) :
    state.loadout.Pairwise (fun left right => left.order < right.order) ∧
      state.loadout.length ≤ 3 := by
  obtain ⟨short, sorted, distinct⟩ := canonicalizeLoadout_iff.mp sound.canonical
  have ordered := List.pairwise_insertionSort
    (fun left right : ModuleId => left.order ≤ right.order) state.loadout
  rw [← sorted] at ordered
  exact ⟨strictly_sorted ordered distinct, short⟩

/-- What holds after a run of operations on the modules of a character. -/
structure History (start : ModuleState) (commands : List ModuleCommand) (state : ModuleState) :
    Prop where
  -- Strictly increasing: sorted and without repetition.
  sorted : state.loadout.Pairwise (fun left right => left.order < right.order)
  distinct : state.loadout.Nodup
  capacity : state.loadout.length ≤ 3
  equipped : ∀ moduleId ∈ state.loadout, moduleId ∈ state.owned
  gained : start.owned ⊆ state.owned
  wallet : state.fragments + ∑ moduleId ∈ state.owned \ start.owned, moduleId.recipeFragments =
    start.fragments
  revision : state.revision =
    start.revision + ((Call.log perform commands start).filterMap newLoadout).length
  -- One entry for each applied operation, under its own key, newest first.
  combinations : state.combinationOperations =
    ((Call.log perform commands start).filterMap newCombination).reverse
  loadouts : state.loadoutOperations =
    ((Call.log perform commands start).filterMap newLoadout).reverse
  keys : (state.combinationOperations.map Prod.fst).Nodup ∧
    (state.loadoutOperations.map Prod.fst).Nodup
  bounded : state.combinationOperations.length ≤ 128 ∧ state.loadoutOperations.length ≤ 128
  refused : ∀ command failure, (perform command state).1 = .error failure →
    (perform command state).2 = state
  recombines : ∀ phase operationId moduleId outcome,
    (.combine phase operationId moduleId, .ok (.combined { disposition := .applied, outcome })) ∈
      Call.log perform commands start → ∀ retryPhase,
    perform (.combine retryPhase operationId moduleId) state =
      (.ok (.combined { disposition := .replayed, outcome }), state)
  rearranges : ∀ phase operationId expectedRevision requested outcome,
    (.setLoadout phase operationId expectedRevision requested,
      .ok (.rearranged { disposition := .applied, outcome })) ∈ Call.log perform commands start →
    ∀ retryPhase retried, canonicalizeLoadout retried = canonicalizeLoadout requested →
    perform (.setLoadout retryPhase operationId expectedRevision retried) state =
      (.ok (.rearranged { disposition := .replayed, outcome }), state)

/-- Every run from every admitted state has such a history.  Commands come in
any order and any phase, retries and refused ones included. -/
theorem module_history {fragments revision : Nat} {owned loadout : List ModuleId}
    {start : ModuleState} (built : new fragments owned loadout revision = .ok start)
    (commands : List ModuleCommand) :
    History start commands (Call.final perform commands start) := by
  have kept := (Kept.of_new built).log commands
  obtain ⟨sorted, capacity⟩ := kept.sound.loadout
  constructor
  case sorted => exact sorted
  case distinct =>
    refine sorted.imp ?_
    rintro left right before rfl
    exact lt_irrefl _ before
  case capacity => exact capacity
  case equipped => exact kept.sound.equipped
  case gained => exact kept.gained
  case wallet => exact kept.wallet
  case revision => rw [kept.revision, kept.loadouts.length_eq]
  case combinations => exact kept.combinations.entries
  case loadouts => exact kept.loadouts.entries
  case keys => exact ⟨kept.combinations.distinct, kept.loadouts.distinct⟩
  case bounded => exact ⟨kept.combinations.bounded, kept.loadouts.bounded⟩
  case refused =>
    intro command failure answered
    have stepped := perform_step command (Call.final perform commands start)
    rw [answered] at stepped
    generalize (perform command (Call.final perform commands start)).2 = next at stepped ⊢
    cases stepped with
    | refused => rfl
  case recombines => exact fun _ _ _ _ applied retryPhase => kept.recombines applied retryPhase
  case rearranges =>
    exact fun _ _ _ _ _ applied retryPhase _ same => kept.rearranges applied retryPhase same

/-- Two modules bought and equipped, and an early retry after it. -/
def plainModules : ModuleState :=
  { fragments := 5, owned := {.forceMatrix}, loadout := [.forceMatrix], revision := 3
    combinationOperations := [], loadoutOperations := [] }

def plainCommands : List ModuleCommand :=
  [.combine .complete "combine-1" .reachLattice, .combine .complete "combine-2" .breachShunt,
    .setLoadout .complete "loadout-1" 3 [.breachShunt, .reachLattice],
    .combine .active "combine-1" .reachLattice]

theorem module_history_plain :
    new 5 [.forceMatrix] [.forceMatrix] 3 = .ok plainModules ∧
      History plainModules plainCommands (Call.final perform plainCommands plainModules) ∧
      (Call.final perform plainCommands plainModules).fragments = 2 ∧
      (Call.final perform plainCommands plainModules).revision = 4 := by
  have built : new 5 [.forceMatrix] [.forceMatrix] 3 = .ok plainModules := by decide +kernel
  have paid : (Call.final perform plainCommands plainModules).fragments = 2 := by decide +kernel
  have raised : (Call.final perform plainCommands plainModules).revision = 4 := by decide +kernel
  exact ⟨built, module_history built plainCommands, paid, raised⟩

end ModuleState
end Revenant
