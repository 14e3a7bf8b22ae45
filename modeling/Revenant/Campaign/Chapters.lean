import Mathlib.Data.List.Basic

namespace Revenant

/-!
# Campaign chapters

Six chapters, each a fixed list of milestones that the world confirms one by
one.
-/

inductive Milestone where
  | relayGuardCleared
  | returnSignalRecovered
  | meridianReached
  | surveyLinked
  | recoveryDelivered
  | supplyRouteReached
  | supplyGuardCleared
  | supplyCellRecovered
  | supplyDelivered
  | counterApproachReached
  | counterSupportCleared
  | counterSignalDecoded
  | counterBastionReached
  | counterBastionCleared
  | counterSignalIsolated
  | breachDoorReached
  | breachCircuitStabilized
  | breachGuardCleared
  | breachCoreReached
  | prismChamberReached
  | prismWardenCleared
  | prismSourceStopped
  | prismReturnCompleted
  deriving DecidableEq, Repr

inductive ChapterId where
  | returnSignal
  | meridianReadings
  | brokenSupplyLine
  | counterSignal
  | theBreach
  | prismCore
  deriving DecidableEq, Repr

namespace ChapterId

def all : List ChapterId :=
  [returnSignal, meridianReadings, brokenSupplyLine, counterSignal, theBreach, prismCore]

def index : ChapterId → Nat
  | returnSignal => 0
  | meridianReadings => 1
  | brokenSupplyLine => 2
  | counterSignal => 3
  | theBreach => 4
  | prismCore => 5

def asStr : ChapterId → String
  | returnSignal => "return_signal"
  | meridianReadings => "meridian_readings"
  | brokenSupplyLine => "broken_supply_line"
  | counterSignal => "counter_signal"
  | theBreach => "the_breach"
  | prismCore => "prism_core"

def milestones : ChapterId → List Milestone
  | returnSignal => [.relayGuardCleared, .returnSignalRecovered]
  | meridianReadings => [.meridianReached, .surveyLinked, .recoveryDelivered]
  | brokenSupplyLine =>
      [.supplyRouteReached, .supplyGuardCleared, .supplyCellRecovered, .supplyDelivered]
  | counterSignal =>
      [.counterApproachReached, .counterSupportCleared, .counterSignalDecoded,
        .counterBastionReached, .counterBastionCleared, .counterSignalIsolated]
  | theBreach =>
      [.breachDoorReached, .breachCircuitStabilized, .breachGuardCleared, .breachCoreReached]
  | prismCore =>
      [.prismChamberReached, .prismWardenCleared, .prismSourceStopped, .prismReturnCompleted]

theorem milestones_pos (chapter : ChapterId) : 0 < chapter.milestones.length := by
  cases chapter <;> decide

/-- The chapters come in the order of their indices. -/
theorem take_index (chapter : ChapterId) :
    all.take (chapter.index + 1) = all.take chapter.index ++ [chapter] := by
  cases chapter <;> rfl

end ChapterId

end Revenant
