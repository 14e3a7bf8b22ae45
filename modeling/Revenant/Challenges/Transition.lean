import Revenant.Challenges.State

namespace Revenant
namespace Challenges

open Library

/-!
# Challenge transitions

`apply` clones the save, lets the command change the clone and validates the
result.  `attempt` is `apply` without that last validation.  `Step` says once
what an attempt can do, one constructor for each way a command changes a save,
and `attempt_iff` ties it to the code; everything later is read off `Step`.
-/

inductive EndReason where
  | abandoned
  | defeated
  | interrupted
  deriving DecidableEq, Repr

def EndReason.outcome : EndReason → Outcome
  | abandoned => .abandoned
  | defeated => .defeated
  | interrupted => .interrupted

inductive Command where
  | start (contract : ContractId) (equipment : Equipment)
  | startModified (contract : ContractId) (preset : Preset) (equipment : Equipment)
  | retry (runId : Nat) (equipment : Equipment)
  | confirm (runId : Nat) (objective : Objective)
  | confirmTimed (runId : Nat) (objective : Objective) (elapsedMs : Nat)
  | endRun (runId : Nat) (reason : EndReason)
  deriving DecidableEq, Repr

structure Transition where
  state : ChallengeState
  firstCompletion : Option ContractId
  deriving DecidableEq, Repr

namespace ChallengeState

/-- The save with a fresh run, named after the revision that starts it. -/
def withRun (state : ChallengeState) (rules : Rules) (equipment : Equipment) : ChallengeState :=
  { state with
    active := some { runId := state.revision, rules, equipment, objectives := 0, elapsedMs := none } }

/-- The save after its active run ended. -/
def withResult (state : ChallengeState) (run : ChallengeRun) (outcome : Outcome) : ChallengeState :=
  { state with active := none, lastResult := some { run, outcome } }

/-- The clone that a command changes. -/
def advanced (state : ChallengeState) : ChallengeState :=
  { state with revision := state.revision + 1 }

end ChallengeState

def start (state : ChallengeState) (contract : ContractId) (preset : Preset)
    (equipment : Equipment) : Except ChallengeError ChallengeState := do
  rejectIf (state.active ≠ none) .activeRun
  equipment.admit contract
  let rules ← contract.rulesWithPreset preset
  return state.withRun rules equipment

def endRun (state : ChallengeState) (runId : Nat) (outcome : Outcome) :
    Except ChallengeError ChallengeState := do
  let run ← require (state.active.filter (fun run => run.runId = runId)) .wrongRun
  return state.withResult run outcome

/-- Whether both times are known and the new one is smaller. -/
def faster (run record : ChallengeRun) : Bool :=
  match run.elapsedMs, record.elapsedMs with
  | some new, some old => decide (new < old)
  | _, _ => false

/-- The records with the one for the run's rules updated, if there is one. -/
def updateRecord (run : ChallengeRun) : List ChallengeRun → Option (List ChallengeRun)
  | [] => none
  | record :: rest =>
      if record.rules = run.rules then some ((if faster run record then run else record) :: rest)
      else (updateRecord run rest).map (record :: ·)

/-- The records after a completed run, and the contract when it is their first. -/
def completeRecords (run : ChallengeRun) (records : List ChallengeRun) :
    List ChallengeRun × Option ContractId :=
  match updateRecord run records with
  | some updated => (updated, none)
  | none => (records ++ [run], some run.rules.contract)

/-- The objective may be confirmed next: it is open, and every order that the
contract puts on its objectives is kept. -/
def ChallengeRun.refuses (run : ChallengeRun) (objective : Objective) (bit : BitVec 8) : Prop :=
  run.objectives &&& bit ≠ 0 ∨ (objective = .returned ∧ run.objectives ≠ 7) ∨
    (run.rules.contract.ordered = true ∧ run.objectives ≠ bit - 1)

instance (run : ChallengeRun) (objective : Objective) (bit : BitVec 8) :
    Decidable (run.refuses objective bit) :=
  inferInstanceAs (Decidable (_ ∨ _))

/-- The run with one more objective. -/
def ChallengeRun.confirmed (run : ChallengeRun) (bit : BitVec 8) (elapsedMs : Option Nat) :
    ChallengeRun :=
  { run with objectives := run.objectives ||| bit, elapsedMs }

/-- The bit finishes the run. -/
def ChallengeRun.completes (run : ChallengeRun) (bit : BitVec 8) : Bool :=
  run.objectives ||| bit == run.mask

def confirm (state : ChallengeState) (runId : Nat) (objective : Objective)
    (elapsedMs : Option Nat) : Except ChallengeError (ChallengeState × Option ContractId) := do
  let run ← require (state.active.filter (fun run => run.runId = runId)) .wrongRun
  let bit ← require (run.rules.objectiveBit objective) .wrongObjective
  rejectIf (run.refuses objective bit) .wrongObjective
  rejectIf (elapsedMs.isSome ≠ (run.completes bit && run.timeGoalMs.isSome)) .wrongObjective
  let confirmed := run.confirmed bit elapsedMs
  let state := { state with active := some confirmed }
  if run.completes bit then
    let (records, first) := completeRecords confirmed state.records
    let ended ← endRun { state with records } runId .completed
    return (ended, first)
  else return (state, none)

/-- The run a retry refers to: the active one, else the last ended one. -/
def ChallengeState.latestRun (state : ChallengeState) : Option ChallengeRun :=
  match state.active with
  | some run => some run
  | none => state.lastResult.map (·.run)

def retry (state : ChallengeState) (runId : Nat) (equipment : Equipment) :
    Except ChallengeError ChallengeState := do
  let previous ← require (state.latestRun.filter (fun run => run.runId = runId)) .wrongRun
  let state ← if state.active = none then .ok state else endRun state runId .interrupted
  start state previous.rules.contract previous.rules.preset equipment

/-- The command's own branch, on the clone. -/
def perform (policy : Policy) (state : ChallengeState) (command : Command) :
    Except ChallengeError Transition :=
  match command with
  | .start contract equipment => do
      rejectIf (contract.availableIn policy = false) .unsupportedRevision
      let state ← start state contract .baseline equipment
      return { state, firstCompletion := none }
  | .startModified contract preset equipment => do
      rejectIf (policy ≠ .modifier) .unsupportedRevision
      rejectIf (preset = .baseline) .invalidModifiers
      let state ← start state contract preset equipment
      return { state, firstCompletion := none }
  | .retry runId equipment => do
      let state ← retry state runId equipment
      return { state, firstCompletion := none }
  | .confirm runId objective => do
      let (state, firstCompletion) ← confirm state runId objective none
      return { state, firstCompletion }
  | .confirmTimed runId objective elapsedMs => do
      let (state, firstCompletion) ← confirm state runId objective (some elapsedMs)
      return { state, firstCompletion }
  | .endRun runId reason => do
      let state ← endRun state runId reason.outcome
      return { state, firstCompletion := none }

/-- Everything before the final validation. -/
def attempt (policy : Policy) (before : ChallengeState) (expectedRevision : Nat)
    (command : Command) : Except ChallengeError Transition := do
  rejectIf (before.supportsPolicy policy = false) .unsupportedRevision
  before.validate
  rejectIf (before.revision ≠ expectedRevision) .staleRevision
  rejectIf (before.revision + 1 > maxRevision) .revisionOverflow
  perform policy before.advanced command

def apply (policy : Policy) (before : ChallengeState) (expectedRevision : Nat)
    (command : Command) : Except ChallengeError Transition := do
  let transition ← attempt policy before expectedRevision command
  transition.state.validate
  return transition

/-- `apply` as its callers call it, with the text of a policy. -/
def applyNamed (policy : String) (before : ChallengeState) (expectedRevision : Nat)
    (command : Command) : Except ChallengeError Transition := do
  let policy ← require (Policy.named policy) .unsupportedRevision
  apply policy before expectedRevision command

variable {before : ChallengeState} {expectedRevision : Nat} {command : Command}
variable {transition : Transition}

theorem applyNamed_iff {policy : String} :
    applyNamed policy before expectedRevision command = .ok transition ↔
      ∃ named, Policy.named policy = some named ∧
        apply named before expectedRevision command = .ok transition := by
  unfold applyNamed
  simp only [bind_eq_ok, require_eq_ok]

/-! ## What an attempt can do -/

/-- The run, objective and time a command confirms. -/
def Command.confirmation : Command → Option (Nat × Objective × Option Nat)
  | .confirm runId objective => some (runId, objective, none)
  | .confirmTimed runId objective elapsedMs => some (runId, objective, some elapsedMs)
  | _ => none

/-- A confirmation that passes every guard of its branch. -/
structure Confirms (run : ChallengeRun) (objective : Objective) (bit : BitVec 8)
    (elapsedMs : Option Nat) : Prop where
  known : run.rules.objectiveBit objective = some bit
  allowed : ¬ run.refuses objective bit
  timed : elapsedMs.isSome = (run.completes bit && run.timeGoalMs.isSome)

/-- One command's effect on the clone of a save. -/
inductive Step (policy : Policy) (state : ChallengeState) : Command → Transition → Prop
  | start {contract : ContractId} {equipment : Equipment} {rules : Rules}
      (available : contract.availableIn policy = true) (idle : state.active = none)
      (admitted : equipment.Admitted contract)
      (published : contract.rulesWithPreset .baseline = .ok rules) :
      Step policy state (.start contract equipment) ⟨state.withRun rules equipment, none⟩
  | startModified {contract : ContractId} {preset : Preset} {equipment : Equipment} {rules : Rules}
      (latest : policy = .modifier) (modified : preset ≠ .baseline) (idle : state.active = none)
      (admitted : equipment.Admitted contract)
      (published : contract.rulesWithPreset preset = .ok rules) :
      Step policy state (.startModified contract preset equipment)
        ⟨state.withRun rules equipment, none⟩
  | retryActive {run : ChallengeRun} {equipment : Equipment} {rules : Rules}
      (active : state.active = some run) (admitted : equipment.Admitted run.rules.contract)
      (published : run.rules.contract.rulesWithPreset run.rules.preset = .ok rules) :
      Step policy state (.retry run.runId equipment)
        ⟨(state.withResult run .interrupted).withRun rules equipment, none⟩
  | retryEnded {result : AttemptResult} {equipment : Equipment} {rules : Rules}
      (idle : state.active = none) (last : state.lastResult = some result)
      (admitted : equipment.Admitted result.run.rules.contract)
      (published : result.run.rules.contract.rulesWithPreset result.run.rules.preset = .ok rules) :
      Step policy state (.retry result.run.runId equipment) ⟨state.withRun rules equipment, none⟩
  | confirm {command : Command} {run : ChallengeRun} {objective : Objective} {bit : BitVec 8}
      {elapsedMs : Option Nat} (active : state.active = some run)
      (asked : command.confirmation = some (run.runId, objective, elapsedMs))
      (confirms : Confirms run objective bit elapsedMs) (open' : run.completes bit = false) :
      Step policy state command ⟨{ state with active := some (run.confirmed bit elapsedMs) }, none⟩
  | complete {command : Command} {run : ChallengeRun} {objective : Objective} {bit : BitVec 8}
      {elapsedMs : Option Nat} (active : state.active = some run)
      (asked : command.confirmation = some (run.runId, objective, elapsedMs))
      (confirms : Confirms run objective bit elapsedMs) (full : run.completes bit = true) :
      Step policy state command
        ⟨{ state with records := (completeRecords (run.confirmed bit elapsedMs) state.records).1
             }.withResult (run.confirmed bit elapsedMs) .completed,
          (completeRecords (run.confirmed bit elapsedMs) state.records).2⟩
  | endRun {run : ChallengeRun} {reason : EndReason} (active : state.active = some run) :
      Step policy state (.endRun run.runId reason) ⟨state.withResult run reason.outcome, none⟩

variable {state next : ChallengeState}

theorem start_iff {contract : ContractId} {preset : Preset} {equipment : Equipment} :
    start state contract preset equipment = .ok next ↔
      state.active = none ∧ equipment.Admitted contract ∧
        ∃ rules, contract.rulesWithPreset preset = .ok rules ∧
          state.withRun rules equipment = next := by
  unfold start
  rw [guard_bind_eq_ok, guard_bind_eq_ok, rejectIf_eq_ok, Equipment.admit_iff, not_not]
  simp only [bind_eq_ok, pure_eq_ok]

variable {runId : Nat}

theorem endRun_iff {outcome : Outcome} :
    endRun state runId outcome = .ok next ↔
      ∃ run, state.active = some run ∧ run.runId = runId ∧ state.withResult run outcome = next := by
  unfold endRun
  simp only [bind_eq_ok, require_eq_ok, pure_eq_ok, Option.filter_eq_some_iff, decide_eq_true_eq,
    and_assoc]

theorem confirm_iff {objective : Objective} {elapsedMs : Option Nat} {first : Option ContractId} :
    confirm state runId objective elapsedMs = .ok (next, first) ↔
      ∃ run bit, state.active = some run ∧ run.runId = runId ∧
        Confirms run objective bit elapsedMs ∧
        ((run.completes bit = false ∧ first = none ∧
            next = { state with active := some (run.confirmed bit elapsedMs) }) ∨
          (run.completes bit = true ∧
            first = (completeRecords (run.confirmed bit elapsedMs) state.records).2 ∧
            next = { state with
              records := (completeRecords (run.confirmed bit elapsedMs) state.records).1
              }.withResult (run.confirmed bit elapsedMs) .completed)) := by
  unfold confirm
  simp only [bind_eq_ok, require_eq_ok, rejectIf_eq_ok, exists_const, Option.filter_eq_some_iff,
    decide_eq_true_eq, ne_eq, not_not]
  constructor
  · rintro ⟨run, ⟨active, named⟩, bit, known, allowed, timed, rest⟩
    refine ⟨run, bit, active, named, ⟨known, allowed, timed⟩, ?_⟩
    by_cases full : run.completes bit = true
    · rw [if_pos full] at rest
      simp only [bind_eq_ok, endRun_iff, pure_eq_ok] at rest
      obtain ⟨ended, ⟨other, kept, -, rfl⟩, same⟩ := rest
      cases kept
      cases same
      exact Or.inr ⟨full, rfl, rfl⟩
    · rw [if_neg full] at rest
      cases rest
      exact Or.inl ⟨by simpa using full, rfl, rfl⟩
  · rintro ⟨run, bit, active, named, confirms, effect⟩
    refine ⟨run, ⟨active, named⟩, bit, confirms.known, confirms.allowed, confirms.timed, ?_⟩
    rcases effect with ⟨open', rfl, rfl⟩ | ⟨full, rfl, rfl⟩
    · rw [if_neg (by simp [open'])]
      rfl
    · rw [if_pos full]
      simp only [bind_eq_ok, endRun_iff, pure_eq_ok]
      exact ⟨_, ⟨_, rfl, named, rfl⟩, rfl⟩

theorem retry_iff {equipment : Equipment} :
    retry state runId equipment = .ok next ↔
      (∃ run rules, state.active = some run ∧ run.runId = runId ∧
        equipment.Admitted run.rules.contract ∧
        run.rules.contract.rulesWithPreset run.rules.preset = .ok rules ∧
        next = (state.withResult run .interrupted).withRun rules equipment) ∨
      (∃ result rules, state.active = none ∧ state.lastResult = some result ∧
        result.run.runId = runId ∧ equipment.Admitted result.run.rules.contract ∧
        result.run.rules.contract.rulesWithPreset result.run.rules.preset = .ok rules ∧
        next = state.withRun rules equipment) := by
  unfold retry ChallengeState.latestRun
  cases active : state.active with
  | some run =>
      simp only [bind_eq_ok, require_eq_ok, Option.filter_eq_some_iff, decide_eq_true_eq,
        endRun_iff, start_iff, reduceCtorEq, if_false, false_and, exists_false, or_false,
        active, Option.some.injEq]
      constructor
      · rintro ⟨_, ⟨rfl, named⟩, _, ⟨_, rfl, -, rfl⟩, -, admitted, rules, published, rfl⟩
        exact ⟨run, rules, rfl, named, admitted, published, rfl⟩
      · rintro ⟨_, rules, rfl, named, admitted, published, rfl⟩
        exact ⟨run, ⟨rfl, named⟩, _, ⟨run, rfl, named, rfl⟩, rfl, admitted, rules, published, rfl⟩
  | none =>
      simp only [bind_eq_ok, require_eq_ok, Option.filter_eq_some_iff, decide_eq_true_eq,
        Option.map_eq_some_iff, start_iff, if_true, Except.ok.injEq, reduceCtorEq, false_and,
        exists_false, false_or, true_and]
      constructor
      · rintro ⟨_, ⟨⟨result, last, rfl⟩, named⟩, _, rfl, -, admitted, rules, published, rfl⟩
        exact ⟨result, rules, last, named, admitted, published, rfl⟩
      · rintro ⟨result, rules, last, named, admitted, published, rfl⟩
        exact ⟨_, ⟨⟨result, last, rfl⟩, named⟩, state, rfl, active, admitted, rules, published, rfl⟩

variable {policy : Policy}

/-- A confirmation branch does what `Step` says of it. -/
theorem step_of_confirm {objective : Objective} {elapsedMs : Option Nat} {first : Option ContractId}
    (asked : command.confirmation = some (runId, objective, elapsedMs))
    (confirmed : confirm state runId objective elapsedMs = .ok (next, first)) :
    Step policy state command ⟨next, first⟩ := by
  obtain ⟨run, bit, active, rfl, confirms, effect⟩ := confirm_iff.mp confirmed
  rcases effect with ⟨open', rfl, rfl⟩ | ⟨full, rfl, rfl⟩
  · exact Step.confirm active asked confirms open'
  · exact Step.complete active asked confirms full

/-- The branches and the step relation are the same thing. -/
theorem perform_iff :
    perform policy state command = .ok transition ↔ Step policy state command transition := by
  constructor
  · intro performed
    cases command with
    | start contract equipment =>
        simp only [perform, guard_bind_eq_ok, rejectIf_eq_ok] at performed
        obtain ⟨available, branch⟩ := performed
        simp only [bind_eq_ok, start_iff, pure_eq_ok] at branch
        obtain ⟨_, ⟨idle, admitted, rules, published, rfl⟩, rfl⟩ := branch
        exact Step.start (by simpa using available) idle admitted published
    | startModified contract preset equipment =>
        simp only [perform, guard_bind_eq_ok, rejectIf_eq_ok, not_not] at performed
        obtain ⟨latest, modified, branch⟩ := performed
        simp only [bind_eq_ok, start_iff, pure_eq_ok] at branch
        obtain ⟨_, ⟨idle, admitted, rules, published, rfl⟩, rfl⟩ := branch
        exact Step.startModified latest modified idle admitted published
    | retry runId equipment =>
        simp only [perform, bind_eq_ok, retry_iff, pure_eq_ok] at performed
        obtain ⟨_, branch, rfl⟩ := performed
        rcases branch with ⟨run, rules, active, rfl, admitted, published, rfl⟩ |
          ⟨result, rules, idle, last, rfl, admitted, published, rfl⟩
        · exact Step.retryActive active admitted published
        · exact Step.retryEnded idle last admitted published
    | confirm runId objective =>
        simp only [perform, bind_eq_ok, pure_eq_ok] at performed
        obtain ⟨⟨next, first⟩, confirmed, rfl⟩ := performed
        exact step_of_confirm rfl confirmed
    | confirmTimed runId objective elapsedMs =>
        simp only [perform, bind_eq_ok, pure_eq_ok] at performed
        obtain ⟨⟨next, first⟩, confirmed, rfl⟩ := performed
        exact step_of_confirm rfl confirmed
    | endRun runId reason =>
        simp only [perform, bind_eq_ok, endRun_iff, pure_eq_ok] at performed
        obtain ⟨_, ⟨run, active, rfl, rfl⟩, rfl⟩ := performed
        exact Step.endRun active
  · intro step
    cases step with
    | start available idle admitted published =>
        simp only [perform, guard_bind_eq_ok, rejectIf_eq_ok]
        refine ⟨by simpa using available, ?_⟩
        simp only [bind_eq_ok, start_iff, pure_eq_ok]
        exact ⟨_, ⟨idle, admitted, _, published, rfl⟩, rfl⟩
    | startModified latest modified idle admitted published =>
        simp only [perform, guard_bind_eq_ok, rejectIf_eq_ok, not_not]
        refine ⟨latest, modified, ?_⟩
        simp only [bind_eq_ok, start_iff, pure_eq_ok]
        exact ⟨_, ⟨idle, admitted, _, published, rfl⟩, rfl⟩
    | retryActive active admitted published =>
        simp only [perform, bind_eq_ok, retry_iff, pure_eq_ok]
        exact ⟨_, Or.inl ⟨_, _, active, rfl, admitted, published, rfl⟩, rfl⟩
    | retryEnded idle last admitted published =>
        simp only [perform, bind_eq_ok, retry_iff, pure_eq_ok]
        exact ⟨_, Or.inr ⟨_, _, idle, last, rfl, admitted, published, rfl⟩, rfl⟩
    | confirm active asked confirms open' =>
        have confirmed := confirm_iff.mpr
          ⟨_, _, active, rfl, confirms, Or.inl ⟨open', rfl, rfl⟩⟩
        cases command with
        | start | startModified | retry | endRun => cases asked
        | confirm | confirmTimed =>
            cases asked
            simp only [perform, bind_eq_ok, pure_eq_ok]
            exact ⟨_, confirmed, rfl⟩
    | complete active asked confirms full =>
        have confirmed := confirm_iff.mpr
          ⟨_, _, active, rfl, confirms, Or.inr ⟨full, rfl, rfl⟩⟩
        cases command with
        | start | startModified | retry | endRun => cases asked
        | confirm | confirmTimed =>
            cases asked
            simp only [perform, bind_eq_ok, pure_eq_ok]
            exact ⟨_, confirmed, rfl⟩
    | endRun active =>
        simp only [perform, bind_eq_ok, endRun_iff, pure_eq_ok]
        exact ⟨_, ⟨_, active, rfl, rfl⟩, rfl⟩

/-- The save and the caller meet every check in front of the branches. -/
structure Ready (policy : Policy) (before : ChallengeState) (expectedRevision : Nat) : Prop where
  supported : before.supportsPolicy policy = true
  valid : before.Valid
  current : before.revision = expectedRevision
  room : before.revision < maxRevision

/-- Exactly when the commands of a save pass their guards, and what they do. -/
theorem attempt_iff :
    attempt policy before expectedRevision command = .ok transition ↔
      Ready policy before expectedRevision ∧ Step policy before.advanced command transition := by
  unfold attempt
  simp only [guard_bind_eq_ok, rejectIf_eq_ok, ChallengeState.validate_iff, perform_iff, not_not]
  constructor
  · rintro ⟨supported, valid, current, room, step⟩
    exact ⟨⟨by simpa using supported, valid, current, by omega⟩, step⟩
  · rintro ⟨ready, step⟩
    exact ⟨by simpa using ready.supported, ready.valid, ready.current,
      by have := ready.room; omega, step⟩

theorem apply_iff :
    apply policy before expectedRevision command = .ok transition ↔
      Ready policy before expectedRevision ∧ Step policy before.advanced command transition ∧
        transition.state.Valid := by
  unfold apply
  simp only [bind_eq_ok, pure_eq_ok, attempt_iff]
  constructor
  · rintro ⟨_, ⟨ready, step⟩, _, valid, rfl⟩
    exact ⟨ready, step, ChallengeState.validate_iff.mp valid⟩
  · rintro ⟨ready, step, valid⟩
    exact ⟨transition, ⟨ready, step⟩, (), ChallengeState.validate_iff.mpr valid, rfl⟩

end Challenges
end Revenant
