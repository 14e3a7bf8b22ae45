import Revenant.Replay.Challenges

namespace Revenant
namespace Persistence

open Library Challenges Replay

/-!
# Challenge persistence

Every committed command is stored under the earliest published policy that can
read the save and fits the command.  A save that a newer policy produced is
therefore never handed to an older one.

A stored entry carries the operation, the command, the saves around it and the
policy it was stored under, and reading the journal performs every command
again.
-/

/-- The policy can read the save and knows what the command starts. -/
def fits (state : ChallengeState) (command : Command) (policy : Policy) : Bool :=
  state.supportsPolicy policy &&
    match command with
    | .startModified _ _ _ => policy == .modifier
    | .start contract _ => contract.availableIn policy
    | _ => true

def policyFor (state : ChallengeState) (command : Command) : Policy :=
  (Policy.all.find? (fits state command)).getD .modifier

variable {policy : Policy} {state : ChallengeState} {command : Command} {transition : Transition}

/-- A policy that accepts a command is among those the choice is made from. -/
theorem fits_of_step (supported : state.supportsPolicy policy = true)
    (step : Step policy state.advanced command transition) : fits state command policy = true := by
  unfold fits
  rw [supported, Bool.true_and]
  cases step with
  | start available => exact available
  | startModified latest => exact beq_iff_eq.mpr latest
  | retryActive | retryEnded | endRun => rfl
  | confirm active asked | complete active asked =>
      cases command with
      | confirm | confirmTimed => rfl
      | start | startModified | retry | endRun => cases asked

/-- Fitting policies differ in nothing that a step reads. -/
theorem step_of_fits {chosen : Policy} (fitting : fits state command chosen = true)
    (step : Step policy state.advanced command transition) :
    Step chosen state.advanced command transition := by
  unfold fits at fitting
  rw [Bool.and_eq_true] at fitting
  cases step with
  | start _ idle admitted published => exact Step.start fitting.2 idle admitted published
  | startModified _ modified idle admitted published =>
      exact Step.startModified (beq_iff_eq.mp fitting.2) modified idle admitted published
  | retryActive active admitted published => exact Step.retryActive active admitted published
  | retryEnded idle last admitted published => exact Step.retryEnded idle last admitted published
  | confirm active asked confirms open' => exact Step.confirm active asked confirms open'
  | complete active asked confirms full => exact Step.complete active asked confirms full
  | endRun active => exact Step.endRun active

theorem policyFor_fits (fitting : fits state command policy = true) :
    fits state command (policyFor state command) = true := by
  unfold policyFor
  cases found : Policy.all.find? (fits state command) with
  | none =>
      have absent := List.find?_eq_none.mp found policy (Policy.mem_all policy)
      exact absurd fitting absent
  | some chosen => exact List.find?_some found

/-- The chosen policy accepts whatever any supported policy accepts. -/
theorem apply_policyFor {expectedRevision : Nat}
    (accepted : apply policy state expectedRevision command = .ok transition) :
    apply (policyFor state command) state expectedRevision command = .ok transition := by
  obtain ⟨ready, step, valid⟩ := apply_iff.mp accepted
  have chosen := policyFor_fits (fits_of_step ready.supported step)
  refine apply_iff.mpr ⟨⟨?_, ready.valid, ready.current, ready.room⟩, step_of_fits chosen step, valid⟩
  unfold fits at chosen
  exact (Bool.and_eq_true_iff.mp chosen).1

/-! ## Committed commands -/

/-- The newest policy can read every save. -/
theorem supportsPolicy_modifier (state : ChallengeState) :
    state.supportsPolicy .modifier = true := by
  unfold ChallengeState.supportsPolicy
  rw [List.all_eq_true]
  intro run _
  unfold Rules.availableIn
  cases run.rules.contract <;> simp [ContractId.availableIn]

/-- A command of the save's owner at the save's own revision, as it is stored. -/
def commitCommand (state : ChallengeState) (command : Command) :
    Except ChallengeError ChallengeState :=
  (apply (policyFor state command) state state.revision command).map (·.state)

/-- A stored command stepped from a valid save that had room for it. -/
theorem commitCommand_ok {next : ChallengeState}
    (committed : commitCommand state command = .ok next) :
    state.Valid ∧ state.revision < maxRevision ∧ next.Valid ∧ ∃ first,
      Step (policyFor state command) state.advanced command ⟨next, first⟩ := by
  unfold commitCommand at committed
  obtain ⟨transition, accepted, rfl⟩ := map_eq_ok.mp committed
  obtain ⟨ready, stepped, valid⟩ := apply_iff.mp accepted
  exact ⟨ready.valid, ready.room, valid, transition.firstCompletion, stepped⟩

/-- Every stored command takes one revision. -/
theorem commitCommand_revision {next : ChallengeState}
    (committed : commitCommand state command = .ok next) : next.revision = state.revision + 1 := by
  obtain ⟨-, -, -, first, stepped⟩ := commitCommand_ok committed
  cases stepped <;> rfl

/-- Whatever steps from a valid save with room is stored. -/
theorem commitCommand_of_step (valid : state.Valid) (room : state.revision < maxRevision)
    (recordable : command.Recordable) (stepped : Step .modifier state.advanced command transition) :
    commitCommand state command = .ok transition.state := by
  have accepted : apply .modifier state state.revision command = .ok transition :=
    apply_iff.mpr ⟨⟨supportsPolicy_modifier state, valid, rfl, room⟩, stepped,
      step_valid valid room recordable stepped⟩
  unfold commitCommand
  rw [apply_policyFor accepted]
  rfl

/-- What the journal reader accepts, in both directions, and what the stored
policy accepts: a command that any policy takes on a save is taken, with the
same transition, under the policy it is stored with. -/
theorem journal_sound :
    (∀ characterId entries state,
      reconstructChallengeJournal characterId entries = .ok state ↔
        (characterId ≠ "" ∧ characterId.utf8ByteSize ≤ 256) ∧
          (∀ entry ∈ entries, entry.WellFormed) ∧ Journal characterId entries state) ∧
    ∀ policy state expectedRevision command transition,
      apply policy state expectedRevision command = .ok transition →
        apply (policyFor state command) state expectedRevision command = .ok transition := by
  constructor
  · intro characterId entries state
    exact reconstruct_iff
  · intro policy state expectedRevision command transition accepted
    exact apply_policyFor accepted

/-- A start that cites no equipment event. -/
def unprovedStart : ChallengeReplayPayload :=
  { schemaVersion := 1, policyRevision := "m37-challenges-v4", characterId := "character-1"
    operationId := "operation-1", before := .default
    command := .start .prismDiscipline plainEquipment, after := startedSave
    firstCompletion := none, proofEventId := none }

/-- The chain is one that `apply` produced, and the reader refuses it. -/
theorem unproved_start_refused :
    Journal "character-1" [unprovedStart] startedSave ∧
      reconstructChallengeJournal "character-1" [unprovedStart] =
        .error (invalidModule "invalid challenge identity or proof reference") := by
  constructor
  · constructor
    · exact Chain.cons_iff.mpr ⟨rfl, Chain.nil _⟩
    · intro entry member
      cases List.mem_singleton.mp member
      exact ⟨.prism, rfl, rfl⟩
    · intro entry member
      cases List.mem_singleton.mp member
      rfl
    · exact List.nodup_singleton _
  · rfl

end Persistence
end Revenant
