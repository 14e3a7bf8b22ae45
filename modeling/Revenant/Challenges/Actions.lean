import Revenant.Actors

namespace Revenant
namespace Challenges

/-!
# Actions in a contract's world

What a player does in the recovery, survival and signal contracts, the
checkpoints and terminals those worlds report, and the stages of the gauntlet.
-/

namespace Recovery

inductive Checkpoint where
  | retrieved
  | transferred
  | delivered
  deriving DecidableEq, Repr

inductive Action where
  | move (position : Position)
  | observe
  deriving DecidableEq, Repr

end Recovery

namespace Survival

inductive Action where
  | move (position : Position)
  | observe
  deriving DecidableEq, Repr

inductive Checkpoint where
  | westCharged
  | eastCharged
  | returned
  deriving DecidableEq, Repr

structure Effect where
  incomingDamage : Nat
  recoveredHealth : Nat
  checkpoint : Option Checkpoint
  defeated : Bool
  deriving DecidableEq, Repr

end Survival

namespace Signal

inductive Action where
  | move (position : Position)
  | attack
  | observe
  deriving DecidableEq, Repr

inductive Terminal where
  | completed
  | defeated
  deriving DecidableEq, Repr

structure Effect where
  outgoingDamage : Nat
  incomingDamage : Nat
  terminal : Option Terminal
  deriving DecidableEq, Repr

end Signal

namespace Gauntlet

inductive Stage where
  | support
  | bastion
  | prism
  deriving DecidableEq, Repr

end Gauntlet

end Challenges
end Revenant
