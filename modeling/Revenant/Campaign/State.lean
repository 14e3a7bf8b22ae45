import Mathlib.Algebra.Group.Nat.Defs
import Revenant.Campaign.Story
import Revenant.Library.Checks

namespace Revenant

open Library

/-!
# Campaign saves

A save is the revision of its last transition, the number of cleared chapters,
the active run and the story.  `validateAvailable` is the reader's check of a
save under a content revision that has the first `available` chapters; `Valid`
states what it accepts.

The checks are made in the order of the source and each keeps its error.
`Valid` is equivalent to acceptance, so proofs about saves never open the
reader again.
-/

inductive RunMode where
  | progress
  | practice
  deriving DecidableEq, Repr

structure ChapterRun where
  runId : String
  chapter : ChapterId
  mode : RunMode
  checkpoint : Nat
  deriving DecidableEq, Repr

def ChapterRun.nextMilestone (run : ChapterRun) : Option Milestone :=
  run.chapter.milestones[run.checkpoint]?

structure CampaignState where
  revision : Nat
  clearedChapters : Nat
  active : Option ChapterRun
  story : Campaign.Story.StoryState
  deriving DecidableEq, Repr

namespace Campaign

/-- `i64::MAX`. -/
def maxRevision : Nat := 2 ^ 63 - 1

def availableChapters : Nat := 6

inductive CampaignError where
  | invalidState
  | invalidRunId
  | staleRevision
  | revisionOverflow
  | chapterUnavailable
  | chapterLocked
  | alreadyCleared
  | practiceRequiresClear
  | resumeRequired
  | noActiveRun
  | wrongRun
  | wrongMilestone
  | invalidTransition
  | invalidStory (failure : Story.StoryError)
  deriving DecidableEq, Repr

/-- One to 96 ASCII letters, digits or dashes. -/
def PlainRunId (id : String) : Prop :=
  id ≠ "" ∧ id.utf8ByteSize ≤ 96 ∧ id.toList.all (fun byte => byte.isAlphanum || byte == '-') = true

instance (id : String) : Decidable (PlainRunId id) := inferInstanceAs (Decidable (_ ∧ _))

def validateRunId (id : String) : Except CampaignError Unit :=
  rejectIf (¬ PlainRunId id) .invalidRunId

end Campaign

namespace CampaignState

open Campaign

/-- The state of a character without campaign history. -/
def default : CampaignState :=
  { revision := 0, clearedChapters := 0, active := none, story := Story.StoryState.default }

/-- The milestones of a chapter; the direct approach fights before it drains the
relay of the fifth one. -/
def milestones (state : CampaignState) (chapter : ChapterId) : List Milestone :=
  if chapter = .theBreach ∧ state.story.coreApproach = .direct then
    [.breachDoorReached, .breachGuardCleared, .breachCircuitStabilized, .breachCoreReached]
  else chapter.milestones

def nextMilestone (state : CampaignState) : Option Milestone := do
  let run ← state.active
  (state.milestones run.chapter)[run.checkpoint]?

/-- What a run's mode says about the chapters cleared before it. -/
def Admits (state : CampaignState) (mode : RunMode) (chapter : ChapterId) : Prop :=
  match mode with
  | .progress => chapter.index = state.clearedChapters
  | .practice => chapter.index < state.clearedChapters

instance (state : CampaignState) (mode : RunMode) (chapter : ChapterId) :
    Decidable (state.Admits mode chapter) :=
  match mode with
  | .progress => inferInstanceAs (Decidable (chapter.index = state.clearedChapters))
  | .practice => inferInstanceAs (Decidable (chapter.index < state.clearedChapters))

def validateRun (state : CampaignState) (available : Nat) (run : ChapterRun) :
    Except CampaignError Unit := do
  validateRunId run.runId
  rejectIf (run.chapter.index ≥ available ∨ run.checkpoint ≥ run.chapter.milestones.length ∨
    ¬ state.Admits run.mode run.chapter ∨ state.revision = 0) .invalidState

def validateActive (state : CampaignState) (available : Nat) : Except CampaignError Unit :=
  match state.active with
  | some run => state.validateRun available run
  | none => .ok ()

def validateAvailable (state : CampaignState) (available : Nat) : Except CampaignError Unit := do
  rejectIf (state.revision > maxRevision ∨ state.clearedChapters > available) .invalidState
  state.validateActive available
  rejectIf (state.clearedChapters > 0 ∧ state.revision = 0) .invalidState

def validate (state : CampaignState) : Except CampaignError Unit :=
  state.validateAvailable availableChapters

/-- What the check accepts of an active run. -/
structure RunValid (state : CampaignState) (available : Nat) (run : ChapterRun) : Prop where
  plain : PlainRunId run.runId
  published : run.chapter.index < available
  open' : run.checkpoint < run.chapter.milestones.length
  admits : state.Admits run.mode run.chapter
  begun : 0 < state.revision

/-- What the check accepts of a save. -/
structure Valid (state : CampaignState) (available : Nat) : Prop where
  revision : state.revision ≤ maxRevision
  cleared : state.clearedChapters ≤ available
  run : ∀ run ∈ state.active, state.RunValid available run
  begun : 0 < state.clearedChapters → 0 < state.revision

theorem validateRun_iff {state : CampaignState} {available : Nat} {run : ChapterRun} :
    state.validateRun available run = .ok () ↔ state.RunValid available run := by
  unfold validateRun validateRunId
  rw [guard_bind_eq_ok, rejectIf_eq_ok, rejectIf_eq_ok, not_not]
  simp only [not_or, not_not]
  constructor
  · rintro ⟨plain, published, open', admits, begun⟩
    exact ⟨plain, by omega, by omega, admits, by omega⟩
  · intro valid
    have published := valid.published
    have open' := valid.open'
    have begun := valid.begun
    exact ⟨valid.plain, by omega, by omega, valid.admits, by omega⟩

theorem validateAvailable_iff {state : CampaignState} {available : Nat} :
    state.validateAvailable available = .ok () ↔ state.Valid available := by
  have runs : state.validateActive available = .ok () ↔
      ∀ run ∈ state.active, state.RunValid available run := by
    unfold validateActive
    cases state.active with
    | none => simp
    | some run => simp [validateRun_iff]
  unfold validateAvailable
  rw [guard_bind_eq_ok, rejectIf_eq_ok, guard_bind_eq_ok, rejectIf_eq_ok, runs]
  constructor
  · rintro ⟨bounds, valid, begun⟩
    exact ⟨by omega, by omega, valid, by omega⟩
  · intro valid
    have revision := valid.revision
    have cleared := valid.cleared
    have begun := valid.begun
    exact ⟨by omega, valid.run, by omega⟩

/-- A save that one content revision can read is readable under a larger one. -/
theorem Valid.mono {state : CampaignState} {available more : Nat} (valid : state.Valid available)
    (grown : available ≤ more) : state.Valid more := by
  constructor
  · exact valid.revision
  · exact le_trans valid.cleared grown
  · intro run present
    have own := valid.run run present
    exact { own with published := lt_of_lt_of_le own.published grown }
  · exact valid.begun

theorem default_valid : default.Valid availableChapters := by
  rw [← validateAvailable_iff]
  rfl

/-- The order of a chapter is one of the chapter's own milestones. -/
theorem milestones_perm (state : CampaignState) (chapter : ChapterId) :
    (state.milestones chapter).Perm chapter.milestones := by
  unfold milestones
  split
  · next direct =>
      rw [direct.1]
      decide
  · exact List.Perm.refl _

theorem milestones_nodup (state : CampaignState) (chapter : ChapterId) :
    (state.milestones chapter).Nodup := by
  rw [(state.milestones_perm chapter).nodup_iff]
  cases chapter <;> decide

end CampaignState

end Revenant
