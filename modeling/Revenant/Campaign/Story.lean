import Revenant.Actors
import Revenant.Campaign.Chapters
import Revenant.Library.Checks

namespace Revenant
namespace Campaign
namespace Story

open Library

/-!
# The campaign's story

Two optional records that are found and returned, and two choices.  The choice
about the core fixes the order of the fifth chapter, so it may only be made in
the fourth.
-/

def memory : Position := ⟨-31, 0, 8⟩
def departureBoard : Position := ⟨-18, 0, 0⟩
def maintenanceNote : Position := ⟨-6, 0, -3⟩
def maintenanceBench : Position := ⟨2, 0, 4⟩
def coreDecision : Position := ⟨7, 0, -6⟩

inductive ArcProgress where
  | unseen
  | found
  | returned
  deriving DecidableEq, Repr

inductive SupplyApproach where
  | covered
  | service
  deriving DecidableEq, Repr

inductive CoreApproach where
  | grounded
  | direct
  deriving DecidableEq, Repr

inductive Discovery where
  | emptySeatMemory
  | emptySeatReturned
  | heldConnectionNote
  | heldConnectionReturned
  deriving DecidableEq, Repr

inductive Command where
  | discover (discovery : Discovery)
  | chooseSupply (approach : SupplyApproach)
  | chooseCore (approach : CoreApproach)
  deriving DecidableEq, Repr

structure Context where
  chapter : ChapterId
  checkpoint : Nat
  position : Position
  deriving DecidableEq, Repr

structure StoryState where
  emptySeat : ArcProgress
  heldConnection : ArcProgress
  supply : Option SupplyApproach
  core : Option CoreApproach
  deriving DecidableEq, Repr

inductive StoryError where
  | wrongContext
  | discoveryRequired
  deriving DecidableEq, Repr

/-- The boundary at which a command may be given. -/
def boundary : Command → ChapterId × List Nat × Position
  | .discover .emptySeatMemory => (.meridianReadings, [1, 2], memory)
  | .discover .emptySeatReturned => (.meridianReadings, [1, 2], departureBoard)
  | .discover .heldConnectionNote => (.brokenSupplyLine, [2, 3], maintenanceNote)
  | .discover .heldConnectionReturned => (.brokenSupplyLine, [2, 3], maintenanceBench)
  | .chooseSupply _ => (.meridianReadings, [2], departureBoard)
  | .chooseCore _ => (.counterSignal, [5], coreDecision)

def allowed (context : Context) (command : Command) : Bool :=
  let (chapter, checkpoints, position) := boundary command
  context.chapter == chapter && checkpoints.contains context.checkpoint &&
    context.position == position

/-- A record's progress after it is found or returned. -/
def ArcProgress.advance (progress : ArcProgress) (returning : Bool) :
    Except StoryError ArcProgress :=
  match progress, returning with
  | unseen, true => .error .discoveryRequired
  | unseen, false | found, false => .ok found
  | found, true | returned, _ => .ok returned

namespace StoryState

def default : StoryState :=
  { emptySeat := .unseen, heldConnection := .unseen, supply := none, core := none }

def supplyApproach (story : StoryState) : SupplyApproach := story.supply.getD .covered

def coreApproach (story : StoryState) : CoreApproach := story.core.getD .grounded

def propose (story : StoryState) (context : Context) (command : Command) :
    Except StoryError StoryState :=
  if allowed context command = false then .error .wrongContext
  else
    match command with
    | .chooseSupply approach => .ok { story with supply := some approach }
    | .chooseCore approach => .ok { story with core := some approach }
    | .discover .emptySeatMemory =>
        (story.emptySeat.advance false).map (fun progress => { story with emptySeat := progress })
    | .discover .emptySeatReturned =>
        (story.emptySeat.advance true).map (fun progress => { story with emptySeat := progress })
    | .discover .heldConnectionNote =>
        (story.heldConnection.advance false).map
          (fun progress => { story with heldConnection := progress })
    | .discover .heldConnectionReturned =>
        (story.heldConnection.advance true).map
          (fun progress => { story with heldConnection := progress })

end StoryState

/-! ## Records only move forward -/

def ArcProgress.rank : ArcProgress → Nat
  | unseen => 0
  | found => 1
  | returned => 2

/-- Neither record goes back. -/
structure Forward (before after : StoryState) : Prop where
  emptySeat : before.emptySeat.rank ≤ after.emptySeat.rank
  heldConnection : before.heldConnection.rank ≤ after.heldConnection.rank

theorem Forward.refl (story : StoryState) : Forward story story := ⟨le_refl _, le_refl _⟩

theorem Forward.trans {first second third : StoryState} (left : Forward first second)
    (right : Forward second third) : Forward first third :=
  ⟨le_trans left.emptySeat right.emptySeat, le_trans left.heldConnection right.heldConnection⟩

theorem advance_rank {progress next : ArcProgress} {returning : Bool}
    (advanced : progress.advance returning = .ok next) : progress.rank ≤ next.rank := by
  cases progress <;> cases returning <;> cases advanced <;> decide

/-- A proposed story moves its records forward and changes the core choice in
the fourth chapter only. -/
theorem propose_ok {story next : StoryState} {context : Context} {command : Command}
    (proposed : story.propose context command = .ok next) :
    Forward story next ∧ (context.chapter ≠ .counterSignal → next.core = story.core) := by
  unfold StoryState.propose at proposed
  split at proposed
  · cases proposed
  · next permitted =>
      cases command with
      | chooseSupply approach =>
          cases proposed
          exact ⟨⟨le_refl _, le_refl _⟩, fun _ => rfl⟩
      | chooseCore approach =>
          cases proposed
          refine ⟨⟨le_refl _, le_refl _⟩, ?_⟩
          intro elsewhere
          have here : context.chapter = .counterSignal := by
            simp only [allowed, boundary, Bool.not_eq_false, Bool.and_eq_true, beq_iff_eq] at permitted
            exact permitted.1.1
          exact absurd here elsewhere
      | discover discovery =>
          cases discovery with
          | emptySeatMemory | emptySeatReturned =>
              obtain ⟨progress, advanced, rfl⟩ := map_eq_ok.mp proposed
              exact ⟨⟨advance_rank advanced, le_refl _⟩, fun _ => rfl⟩
          | heldConnectionNote | heldConnectionReturned =>
              obtain ⟨progress, advanced, rfl⟩ := map_eq_ok.mp proposed
              exact ⟨⟨le_refl _, advance_rank advanced⟩, fun _ => rfl⟩

end Story
end Campaign
end Revenant
