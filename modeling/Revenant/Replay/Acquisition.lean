import Mathlib.Data.Finset.Card
import Revenant.Library.Checks
import Revenant.Replay.Failure

namespace Revenant
namespace Replay

open Library

/-!
# Commission claims

A commission turns recorded milestones into two relay fragments.  The claim
event carries the proofs and the balance around the grant.
-/

inductive Milestone where
  | meridianRecovered
  | breachCompleted
  | stabilizeCompleted
  | prismCompleted
  deriving DecidableEq, Repr

inductive ArcId where
  | meridian
  | routes
  | prism
  deriving DecidableEq, Repr

def ArcId.requirements : ArcId → List Milestone
  | meridian => [.meridianRecovered]
  | routes => [.breachCompleted, .stabilizeCompleted]
  | prism => [.prismCompleted]

def acquisitionRevision : String := "m35-acquisition-v1"
def rewardFragments : Nat := 2
def maxFragments : Nat := 2147483647

structure AcquisitionMilestoneProof where
  milestone : Milestone
  sessionId : String
  throughEventId : Int
  deriving DecidableEq

structure AcquisitionClaimedPayload where
  schemaVersion : Nat
  revision : String
  characterId : String
  arcId : ArcId
  proofs : List AcquisitionMilestoneProof
  previousFragments : Nat
  grantedFragments : Nat
  resultingFragments : Nat
  deriving DecidableEq

/-- An identifier of ASCII letters, digits and hyphens, up to 128 bytes. -/
def plainSessionId (sessionId : String) : Bool :=
  decide (sessionId ≠ "") && decide (sessionId.utf8ByteSize ≤ 128) &&
    sessionId.toList.all (fun letter => letter.isAlphanum || letter == '-')

namespace AcquisitionClaimedPayload

def milestones (payload : AcquisitionClaimedPayload) : List Milestone :=
  payload.proofs.map AcquisitionMilestoneProof.milestone

def validate (payload : AcquisitionClaimedPayload) : Except ReplayError Unit :=
  rejectIf (payload.schemaVersion ≠ 1 ∨ payload.revision ≠ acquisitionRevision ∨
      payload.characterId = "" ∨ payload.characterId.utf8ByteSize > 256 ∨
      payload.milestones.toFinset ≠ payload.arcId.requirements.toFinset ∨
      payload.milestones.toFinset.card ≠ payload.proofs.length ∨
      (∃ proof ∈ payload.proofs, proof.throughEventId ≤ 0 ∨ plainSessionId proof.sessionId = false) ∨
      payload.grantedFragments ≠ rewardFragments ∨
      payload.previousFragments + rewardFragments ≠ payload.resultingFragments ∨
      payload.resultingFragments > maxFragments)
    (invalidModule "invalid acquisition claim policy, proofs or balance")

end AcquisitionClaimedPayload

end Replay
end Revenant
