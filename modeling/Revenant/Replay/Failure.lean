import Mathlib.Logic.Basic

namespace Revenant
namespace Replay

/-- Why a journal is refused. -/
inductive ReplayError where
  | emptySession
  | mixedSessions
  | nonIncreasingAppendId
  | invalidModuleEvidence (reason : String)
  | invalidRouteEvidence (reason : String)
  | invalidCooperationEvidence (reason : String)
  | invalidFieldActivityEvidence
  deriving DecidableEq, Repr

def invalidModule (reason : String) : ReplayError := .invalidModuleEvidence reason

def routeError (reason : String) : ReplayError := .invalidRouteEvidence reason

end Replay
end Revenant
