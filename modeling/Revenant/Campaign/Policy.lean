import Revenant.Campaign.State
import Revenant.Library.Chain

namespace Revenant
namespace Campaign

open Library

/-!
# The campaign policy

`proposePolicy` answers a command with the next save and the grant of a first
clear.  `attempt` is everything before its final validation.  `Step` says once
what an attempt can do and `attempt_iff` ties it to the code.

Policies differ in the number of chapters they publish, and only the current
one takes story commands or a save with a story.  Nothing is assumed of the
save a command is given on, so an invalid save is answered as the source
answers it, with the error of the first check that fails.
-/

/-- The published policies in the order of their publication. -/
inductive Policy where
  | legacy
  | supply
  | counter
  | breach
  | prism
  | current
  deriving DecidableEq, Repr

namespace Policy

def all : List Policy := [legacy, supply, counter, breach, prism, current]

def text : Policy → String
  | legacy => "m36-campaign-v1"
  | supply => "m36-campaign-v2"
  | counter => "m36-campaign-v3"
  | breach => "m36-campaign-v4"
  | prism => "m36-campaign-v5"
  | current => "m36-campaign-v6"

/-- How many chapters a policy has. -/
def available : Policy → Nat
  | legacy => 2
  | supply => 3
  | counter => 4
  | breach => 5
  | prism | current => 6

/-- The place of a policy among the published ones. -/
def order : Policy → Nat
  | legacy => 0
  | supply => 1
  | counter => 2
  | breach => 3
  | prism => 4
  | current => 5

def named (text : String) : Option Policy := all.find? (fun policy => policy.text = text)

theorem text_of_named {text : String} {policy : Policy} (found : named text = some policy) :
    policy.text = text := by
  simpa using List.find?_some found

theorem available_mono {older newer : Policy} (later : older.order ≤ newer.order) :
    older.available ≤ newer.available := by
  revert later
  cases older <;> cases newer <;> decide

theorem current_of_order_le {newer : Policy} (later : current.order ≤ newer.order) :
    newer = current := by
  revert later
  cases newer <;> decide

theorem available_le (policy : Policy) : policy.available ≤ availableChapters := by
  cases policy <;> decide

end Policy

inductive Command where
  | enter (runId : String) (chapter : ChapterId) (mode : RunMode)
  | confirm (runId : String) (milestone : Milestone)
  | story (runId : String) (position : Position) (action : Story.Command)
  deriving DecidableEq, Repr

def Command.isStory : Command → Bool
  | story _ _ _ => true
  | _ => false

structure FirstClear where
  chapter : ChapterId
  fragments : Nat
  experience : Nat
  deriving DecidableEq, Repr

def firstClearFragments : Nat := 1
def firstClearExperience : Nat := 100

structure Transition where
  revision : String
  before : CampaignState
  command : Command
  after : CampaignState
  firstClear : Option FirstClear
  deriving DecidableEq, Repr

/-- The save and the grant a command leads to. -/
structure Outcome where
  after : CampaignState
  firstClear : Option FirstClear
  deriving DecidableEq, Repr

/-- The clone that a command changes. -/
def advanced (state : CampaignState) : CampaignState :=
  { state with revision := state.revision + 1 }

def proposeStory (state : CampaignState) (runId : String) (position : Position)
    (action : Story.Command) : Except CampaignError Story.StoryState := do
  let run ← require state.active .noActiveRun
  rejectIf (run.runId ≠ runId) .wrongRun
  match state.story.propose { chapter := run.chapter, checkpoint := run.checkpoint, position } action with
  | .ok story => .ok story
  | .error failure => .error (.invalidStory failure)

/-- The mode against the chapters cleared so far. -/
def admitMode (state : CampaignState) (chapter : ChapterId) : RunMode → Except CampaignError Unit
  | .progress => do
      rejectIf (chapter.index < state.clearedChapters) .alreadyCleared
      rejectIf (chapter.index > state.clearedChapters) .chapterLocked
  | .practice => rejectIf (chapter.index ≥ state.clearedChapters) .practiceRequiresClear

def enter (state : CampaignState) (available : Nat) (runId : String) (chapter : ChapterId)
    (mode : RunMode) : Except CampaignError Outcome := do
  validateRunId runId
  rejectIf (state.active ≠ none) .resumeRequired
  rejectIf (chapter.index ≥ available) .chapterUnavailable
  admitMode state chapter mode
  return { after := { advanced state with active := some { runId, chapter, mode, checkpoint := 0 } }
           firstClear := none }

/-- The grant of a completed run. -/
def clearOf (run : ChapterRun) : Option FirstClear :=
  match run.mode with
  | .progress =>
      some { chapter := run.chapter, fragments := firstClearFragments
             experience := firstClearExperience }
  | .practice => none

def confirm (state : CampaignState) (runId : String) (milestone : Milestone) :
    Except CampaignError Outcome := do
  let run ← require state.active .noActiveRun
  rejectIf (run.runId ≠ runId) .wrongRun
  rejectIf (state.nextMilestone ≠ some milestone) .wrongMilestone
  if run.checkpoint + 1 = run.chapter.milestones.length then
    return { after := { advanced state with
               active := none
               clearedChapters := state.clearedChapters + if (clearOf run).isSome then 1 else 0 }
             firstClear := clearOf run }
  else
    return { after := { advanced state with
               active := some { run with checkpoint := run.checkpoint + 1 } }
             firstClear := none }

def perform (state : CampaignState) (available : Nat) : Command → Except CampaignError Outcome
  | .story runId position action => do
      let story ← proposeStory state runId position action
      return { after := { advanced state with story }, firstClear := none }
  | .enter runId chapter mode => enter state available runId chapter mode
  | .confirm runId milestone => confirm state runId milestone

/-- Everything before the final validation. -/
def attempt (policy : Policy) (state : CampaignState) (expectedRevision : Nat) (command : Command) :
    Except CampaignError Outcome := do
  state.validateAvailable policy.available
  rejectIf (policy ≠ .current ∧ (state.story ≠ Story.StoryState.default ∨ command.isStory = true))
    .invalidTransition
  rejectIf (expectedRevision ≠ state.revision) .staleRevision
  rejectIf (state.revision + 1 > maxRevision) .revisionOverflow
  perform state policy.available command

def proposePolicy (policy : Policy) (state : CampaignState) (expectedRevision : Nat)
    (command : Command) : Except CampaignError Transition := do
  let outcome ← attempt policy state expectedRevision command
  outcome.after.validateAvailable policy.available
  return { revision := policy.text, before := state, command, after := outcome.after
           firstClear := outcome.firstClear }

/-- The whole transition against the policy its text names. -/
def Transition.validate (transition : Transition) : Except CampaignError Unit := do
  let policy ← require (Policy.named transition.revision) .invalidTransition
  let proposed ← proposePolicy policy transition.before transition.before.revision
    transition.command
  rejectIf (proposed ≠ transition) .invalidTransition

/-! ## What an attempt can do -/

/-- One command's effect on a save. -/
inductive Step (available : Nat) (state : CampaignState) : Command → Outcome → Prop
  | story {run : ChapterRun} {position : Position} {action : Story.Command}
      {story : Story.StoryState} (active : state.active = some run)
      (proposed : state.story.propose
        { chapter := run.chapter, checkpoint := run.checkpoint, position } action = .ok story) :
      Step available state (.story run.runId position action) ⟨{ advanced state with story }, none⟩
  | enter {runId : String} {chapter : ChapterId} {mode : RunMode} (plain : PlainRunId runId)
      (idle : state.active = none) (published : chapter.index < available)
      (admits : state.Admits mode chapter) :
      Step available state (.enter runId chapter mode)
        ⟨{ advanced state with active := some { runId, chapter, mode, checkpoint := 0 } }, none⟩
  | confirm {run : ChapterRun} {milestone : Milestone} (active : state.active = some run)
      (next : state.nextMilestone = some milestone)
      (open' : run.checkpoint + 1 ≠ run.chapter.milestones.length) :
      Step available state (.confirm run.runId milestone)
        ⟨{ advanced state with active := some { run with checkpoint := run.checkpoint + 1 } }, none⟩
  | complete {run : ChapterRun} {milestone : Milestone} (active : state.active = some run)
      (next : state.nextMilestone = some milestone)
      (full : run.checkpoint + 1 = run.chapter.milestones.length) :
      Step available state (.confirm run.runId milestone)
        ⟨{ advanced state with
            active := none
            clearedChapters := state.clearedChapters + if (clearOf run).isSome then 1 else 0 },
          clearOf run⟩

variable {state : CampaignState}

theorem admitMode_iff {chapter : ChapterId} {mode : RunMode} :
    admitMode state chapter mode = .ok () ↔ state.Admits mode chapter := by
  unfold admitMode CampaignState.Admits
  cases mode with
  | progress =>
      rw [guard_bind_eq_ok, rejectIf_eq_ok, rejectIf_eq_ok]
      omega
  | practice =>
      rw [rejectIf_eq_ok]
      omega

theorem proposeStory_iff {runId : String} {position : Position} {action : Story.Command}
    {story : Story.StoryState} :
    proposeStory state runId position action = .ok story ↔
      ∃ run, state.active = some run ∧ run.runId = runId ∧
        state.story.propose { chapter := run.chapter, checkpoint := run.checkpoint, position }
          action = .ok story := by
  unfold proposeStory
  simp only [bind_eq_ok, exists_unit, require_eq_ok, rejectIf_eq_ok, not_not]
  refine exists_congr (fun run => and_congr_right (fun _ => and_congr_right (fun _ => ?_)))
  split
  · next accepted => simp only [accepted, Except.ok.injEq]
  · next refused => simp only [refused, reduceCtorEq]

variable {outcome : Outcome}

theorem enter_iff {available : Nat} {runId : String} {chapter : ChapterId} {mode : RunMode} :
    enter state available runId chapter mode = .ok outcome ↔
      PlainRunId runId ∧ state.active = none ∧ chapter.index < available ∧
        state.Admits mode chapter ∧
        (⟨{ advanced state with active := some { runId, chapter, mode, checkpoint := 0 } }, none⟩ :
          Outcome) = outcome := by
  unfold enter validateRunId
  rw [guard_bind_eq_ok, guard_bind_eq_ok, guard_bind_eq_ok, guard_bind_eq_ok, rejectIf_eq_ok,
    rejectIf_eq_ok, rejectIf_eq_ok, admitMode_iff, pure_eq_ok, not_not, not_not, Nat.not_le]

theorem confirm_iff {runId : String} {milestone : Milestone} :
    confirm state runId milestone = .ok outcome ↔
      ∃ run, state.active = some run ∧ run.runId = runId ∧
        state.nextMilestone = some milestone ∧
        ((run.checkpoint + 1 = run.chapter.milestones.length ∧
            (⟨{ advanced state with
                active := none
                clearedChapters := state.clearedChapters + if (clearOf run).isSome then 1 else 0 },
              clearOf run⟩ : Outcome) = outcome) ∨
          (run.checkpoint + 1 ≠ run.chapter.milestones.length ∧
            (⟨{ advanced state with
                active := some { run with checkpoint := run.checkpoint + 1 } }, none⟩ : Outcome) =
              outcome)) := by
  unfold confirm
  simp only [bind_eq_ok, exists_unit, require_eq_ok, rejectIf_eq_ok, not_not]
  refine exists_congr (fun run => and_congr_right (fun _ => and_congr_right (fun _ =>
    and_congr_right (fun _ => ?_))))
  split
  · next full => simp only [pure_eq_ok, full, true_and, ne_eq, not_true_eq_false, false_and, or_false]
  · next open' =>
      simp only [pure_eq_ok, open', false_and, ne_eq, not_false_eq_true, true_and, false_or]

theorem perform_iff {available : Nat} {command : Command} :
    perform state available command = .ok outcome ↔ Step available state command outcome := by
  constructor
  · intro performed
    cases command with
    | story runId position action =>
        simp only [perform, bind_eq_ok, proposeStory_iff, pure_eq_ok] at performed
        obtain ⟨story, ⟨run, active, rfl, proposed⟩, rfl⟩ := performed
        exact Step.story active proposed
    | enter runId chapter mode =>
        obtain ⟨plain, idle, published, admits, rfl⟩ := enter_iff.mp performed
        exact Step.enter plain idle published admits
    | confirm runId milestone =>
        obtain ⟨run, active, rfl, next, ⟨full, rfl⟩ | ⟨open', rfl⟩⟩ := confirm_iff.mp performed
        · exact Step.complete active next full
        · exact Step.confirm active next open'
  · intro step
    cases step with
    | story active proposed =>
        simp only [perform, bind_eq_ok, proposeStory_iff, pure_eq_ok]
        exact ⟨_, ⟨_, active, rfl, proposed⟩, rfl⟩
    | enter plain idle published admits =>
        exact enter_iff.mpr ⟨plain, idle, published, admits, rfl⟩
    | confirm active next open' =>
        exact confirm_iff.mpr ⟨_, active, rfl, next, Or.inr ⟨open', rfl⟩⟩
    | complete active next full =>
        exact confirm_iff.mpr ⟨_, active, rfl, next, Or.inl ⟨full, rfl⟩⟩

/-- The save and the caller meet every check in front of the branches. -/
structure Ready (policy : Policy) (state : CampaignState) (expectedRevision : Nat)
    (command : Command) : Prop where
  valid : state.Valid policy.available
  frozen : policy = .current ∨ (state.story = Story.StoryState.default ∧ command.isStory = false)
  expected : expectedRevision = state.revision
  room : state.revision < maxRevision

theorem attempt_iff {policy : Policy} {expectedRevision : Nat} {command : Command} :
    attempt policy state expectedRevision command = .ok outcome ↔
      Ready policy state expectedRevision command ∧
        Step policy.available state command outcome := by
  unfold attempt
  rw [guard_bind_eq_ok, guard_bind_eq_ok, guard_bind_eq_ok, guard_bind_eq_ok,
    CampaignState.validateAvailable_iff, rejectIf_eq_ok, rejectIf_eq_ok, rejectIf_eq_ok,
    perform_iff, not_not]
  constructor
  · rintro ⟨valid, frozen, expected, room, step⟩
    refine ⟨⟨valid, ?_, expected, by omega⟩, step⟩
    by_cases latest : policy = .current
    · exact Or.inl latest
    · refine Or.inr ⟨?_, ?_⟩
      · by_contra changed
        exact frozen ⟨latest, Or.inl changed⟩
      · by_contra narrative
        exact frozen ⟨latest, Or.inr (by simpa using narrative)⟩
  · rintro ⟨ready, step⟩
    have room := ready.room
    refine ⟨ready.valid, ?_, ready.expected, by omega, step⟩
    rintro ⟨older, changed⟩
    rcases ready.frozen with latest | ⟨plain, silent⟩
    · exact older latest
    · rcases changed with story | narrative
      · exact story plain
      · rw [silent] at narrative
        cases narrative

theorem proposePolicy_iff {policy : Policy} {expectedRevision : Nat} {command : Command}
    {transition : Transition} :
    proposePolicy policy state expectedRevision command = .ok transition ↔
      ∃ outcome, Ready policy state expectedRevision command ∧
        Step policy.available state command outcome ∧
        outcome.after.Valid policy.available ∧
        transition = ⟨policy.text, state, command, outcome.after, outcome.firstClear⟩ := by
  unfold proposePolicy
  simp only [bind_eq_ok, exists_unit, pure_eq_ok, attempt_iff,
    CampaignState.validateAvailable_iff]
  constructor
  · rintro ⟨outcome, ⟨ready, step⟩, valid, rfl⟩
    exact ⟨outcome, ready, step, valid, rfl⟩
  · rintro ⟨outcome, ready, step, valid, rfl⟩
    exact ⟨outcome, ⟨ready, step⟩, valid, rfl⟩

theorem Transition.validate_iff {transition : Transition} :
    transition.validate = .ok () ↔ ∃ policy, Policy.named transition.revision = some policy ∧
      proposePolicy policy transition.before transition.before.revision transition.command =
        .ok transition := by
  unfold Transition.validate
  simp only [bind_eq_ok, require_eq_ok, rejectIf_eq_ok, not_not]
  constructor
  · rintro ⟨policy, found, proposed, accepted, rfl⟩
    exact ⟨policy, found, accepted⟩
  · rintro ⟨policy, found, accepted⟩
    exact ⟨policy, found, transition, accepted, rfl⟩

end Campaign
end Revenant
