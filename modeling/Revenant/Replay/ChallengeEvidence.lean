import Revenant.Challenges.Actions
import Revenant.Replay.Challenges
import Revenant.Replay.Evidence

namespace Revenant
namespace Replay

open Library Challenges

/-!
# Evidence of the contracts' worlds

Five contracts record their own stream of accepted steps, each row under the
prefix of its family.  A row that reaches an objective or ends the run names the
command its checkpoint must carry.

Rules with a time goal confirm the last stage together with the time of the
run, so the command depends on the rules as well.  The evidence itself is
typed; its text and the bound on it are in `ChallengeText`.
-/

/-- The actor's position at a station, written with the checkpoint that uses it. -/
structure ChallengeVisitProof where
  policyRevision : String
  characterId : String
  stateRevision : Nat
  runId : Nat
  objective : Objective
  position : Position
  deriving DecidableEq

structure RecoveryEvidence where
  runId : Nat
  sequence : Nat
  elapsedMs : Nat
  action : Recovery.Action
  checkpoint : Option Recovery.Checkpoint
  deriving DecidableEq

/-- The spawn has no action; every later row has one. -/
structure SurvivalEvidence where
  runId : Nat
  sequence : Nat
  elapsedMs : Nat
  enemyId : Nat
  action : Option Survival.Action
  effect : Survival.Effect
  deriving DecidableEq

/-- The spawn has no action; every later row has one. -/
structure SignalEvidence where
  runId : Nat
  sequence : Nat
  elapsedMs : Nat
  enemyId : Nat
  action : Option Signal.Action
  effect : Signal.Effect
  deriving DecidableEq

inductive GauntletAction where
  | support (evidence : SupportEvidence)
  | elite (evidence : EliteEvidence)
  | prism (evidence : PrismEvidence)
  | move (position : Position)
  | observe
  deriving DecidableEq

structure GauntletEffect where
  cleared : Option Gauntlet.Stage
  defeated : Bool
  recoveredHealth : Nat
  nextStage : Option Gauntlet.Stage
  deriving DecidableEq

structure GauntletEvidence where
  runId : Nat
  sequence : Nat
  elapsedMs : Nat
  actorId : Nat
  action : GauntletAction
  effect : GauntletEffect
  deriving DecidableEq

/-- A step of a modified Meridian circuit. -/
structure RouteEvidence where
  runId : Nat
  sequence : Nat
  elapsedMs : Nat
  actorId : Nat
  position : Position
  checkpoint : Option Objective
  deriving DecidableEq

/-! ## The commands rows stand for -/

namespace RecoveryEvidence

def objective (evidence : RecoveryEvidence) : Option Objective :=
  evidence.checkpoint.map (fun checkpoint =>
    match checkpoint with
    | .retrieved => .coolantRetrieved
    | .transferred => .coolantTransferred
    | .delivered => .coolantDelivered)

end RecoveryEvidence

namespace SurvivalEvidence

def command (evidence : SurvivalEvidence) : Option Command :=
  if evidence.effect.defeated = true then some (.endRun evidence.runId .defeated)
  else evidence.effect.checkpoint.map (fun checkpoint =>
    .confirm evidence.runId (match checkpoint with
      | .westCharged => .westRelayCharged
      | .eastCharged => .eastRelayCharged
      | .returned => .reserveReturned))

end SurvivalEvidence

namespace SignalEvidence

def command (evidence : SignalEvidence) : Option Command :=
  evidence.effect.terminal.map (fun terminal =>
    match terminal with
    | .completed => .confirm evidence.runId .sentinelCleared
    | .defeated => .endRun evidence.runId .defeated)

end SignalEvidence

namespace GauntletEvidence

def command (evidence : GauntletEvidence) : Option Command :=
  if evidence.effect.defeated = true then some (.endRun evidence.runId .defeated)
  else evidence.effect.cleared.map (fun stage =>
    .confirm evidence.runId (match stage with
      | .support => .gauntletSupportCleared
      | .bastion => .gauntletBastionCleared
      | .prism => .gauntletPrismCleared))

/-- Rules with a time goal confirm the last stage together with its time. -/
def commandFor (evidence : GauntletEvidence) (rules : Rules) : Option Command :=
  match evidence.command with
  | some (.confirm runId .gauntletPrismCleared) =>
      if (rules.preset.timeGoalMs rules.contract).isSome then
        some (.confirmTimed runId .gauntletPrismCleared evidence.elapsedMs)
      else some (.confirm runId .gauntletPrismCleared)
  | other => other

end GauntletEvidence

namespace RouteEvidence

def command (evidence : RouteEvidence) : Option Command :=
  evidence.checkpoint.map (fun objective => .confirm evidence.runId objective)

/-- Rules with a time goal confirm the return together with its time. -/
def commandFor (evidence : RouteEvidence) (rules : Rules) : Option Command :=
  if evidence.checkpoint = some .returned ∧ (rules.preset.timeGoalMs rules.contract).isSome then
    some (.confirmTimed evidence.runId .returned evidence.elapsedMs)
  else evidence.command

end RouteEvidence

end Replay
end Revenant
