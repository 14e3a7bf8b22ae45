import Revenant.Actors

namespace Revenant
namespace Challenges

/-!
# The challenge catalog

Eight contracts, published one policy at a time, and the closed list of
modifier presets.  A contract fixes its objectives, one bit each; a preset may
only exchange the first two of the gauntlet.  Policies and contracts are named
by fixed texts; an unknown text names none, and every reader refuses it first.

A policy that was published earlier knows fewer contracts and presets, and a
save of a later one is refused under it.  The order of the policies is used
where the journal stores a command under the earliest one that fits.
-/

inductive Policy where
  | initial
  | expanded
  | elite
  | prism
  | signal
  | survival
  | gauntlet
  | modifier
  deriving DecidableEq, Repr

namespace Policy

/-- The published revisions in the order of their publication. -/
def all : List Policy :=
  [initial, expanded, elite, prism, signal, survival, gauntlet, modifier]

def text : Policy → String
  | initial => "m37-challenges-v1"
  | expanded => "m37-challenges-v2"
  | elite => "m37-challenges-v3"
  | prism => "m37-challenges-v4"
  | signal => "m37-challenges-v5"
  | survival => "m37-challenges-v6"
  | gauntlet => "m37-challenges-v7"
  | modifier => "m37-challenges-v8"

theorem mem_all (policy : Policy) : policy ∈ all := by
  cases policy <;> decide

/-- The policy of a text, if it is one of the published revisions. -/
def named (text : String) : Option Policy := all.find? (fun policy => policy.text = text)

end Policy

inductive ContractId where
  | closeQuarters
  | meridianCircuit
  | coolantRecovery
  | bastionLink
  | prismDiscipline
  | distantSignal
  | lastReserve
  | relayGauntlet
  deriving DecidableEq, Repr

inductive Modifier where
  | westApproach
  | bastionFirst
  | singleReserve
  | pace
  deriving DecidableEq, Repr

inductive Preset where
  | baseline
  | westApproach
  | bastionFirst
  | singleReserve
  | pace
  | westApproachPace
  | bastionFirstSingleReserve
  | singleReservePace
  deriving DecidableEq, Repr

inductive Objective where
  | lancerCleared
  | menderCleared
  | lensRead
  | galleryRead
  | logRead
  | returned
  | coolantRetrieved
  | coolantTransferred
  | coolantDelivered
  | bulwarkCleared
  | prismCleared
  | sentinelCleared
  | westRelayCharged
  | eastRelayCharged
  | reserveReturned
  | gauntletSupportCleared
  | gauntletBastionCleared
  | gauntletPrismCleared
  deriving DecidableEq, Repr

inductive ChallengeError where
  | unsupportedRevision
  | staleRevision
  | revisionOverflow
  | invalidState
  | invalidEquipment
  | invalidModifiers
  | activeRun
  | wrongRun
  | wrongObjective
  deriving DecidableEq, Repr

/-- The text of a refusal, with the failure's name. -/
def ChallengeError.text : ChallengeError → String
  | unsupportedRevision => "challenge transition rejected: UnsupportedRevision"
  | staleRevision => "challenge transition rejected: StaleRevision"
  | revisionOverflow => "challenge transition rejected: RevisionOverflow"
  | invalidState => "challenge transition rejected: InvalidState"
  | invalidEquipment => "challenge transition rejected: InvalidEquipment"
  | invalidModifiers => "challenge transition rejected: InvalidModifiers"
  | activeRun => "challenge transition rejected: ActiveRun"
  | wrongRun => "challenge transition rejected: WrongRun"
  | wrongObjective => "challenge transition rejected: WrongObjective"

namespace Preset

def all : List Preset :=
  [baseline, westApproach, bastionFirst, singleReserve, pace, westApproachPace,
    bastionFirstSingleReserve, singleReservePace]

def asStr : Preset → String
  | baseline => "baseline"
  | westApproach => "west_approach"
  | bastionFirst => "bastion_first"
  | singleReserve => "single_reserve"
  | pace => "pace"
  | westApproachPace => "west_approach_pace"
  | bastionFirstSingleReserve => "bastion_first_single_reserve"
  | singleReservePace => "single_reserve_pace"

def modifiers : Preset → List Modifier
  | baseline => []
  | westApproach => [.westApproach]
  | bastionFirst => [.bastionFirst]
  | singleReserve => [.singleReserve]
  | pace => [.pace]
  | westApproachPace => [.westApproach, .pace]
  | bastionFirstSingleReserve => [.bastionFirst, .singleReserve]
  | singleReservePace => [.singleReserve, .pace]

def has (preset : Preset) (modifier : Modifier) : Bool := modifier ∈ preset.modifiers

def availableFor : Preset → ContractId → Bool
  | baseline, _ => true
  | westApproach, .meridianCircuit | westApproachPace, .meridianCircuit
  | pace, .meridianCircuit => true
  | bastionFirst, .relayGauntlet | singleReserve, .relayGauntlet
  | bastionFirstSingleReserve, .relayGauntlet | singleReservePace, .relayGauntlet
  | pace, .relayGauntlet => true
  | _, _ => false

/-- The optional time goal of a contract under a preset. -/
def timeGoalMs (preset : Preset) (contract : ContractId) : Option Nat :=
  if preset.availableFor contract = false ∨ preset.has .pace = false then none
  else
    match contract with
    | .meridianCircuit => some 60000
    | .relayGauntlet => some 180000
    | _ => none

/-- Where the modified and the plain Meridian circuit begin and return to. -/
def meridianEntrance (preset : Preset) : Option Position :=
  if preset.availableFor .meridianCircuit = true then
    if preset.has .westApproach = true then some ⟨-31, 0, 0⟩ else some ⟨-16, 0, 0⟩
  else none

theorem mem_all (preset : Preset) : preset ∈ all := by
  cases preset <;> decide

end Preset

/-- The identity of one set of rules; records never mix two of them. -/
structure Rules where
  contract : ContractId
  contractRevision : String
  gameplayRevision : String
  seed : Nat
  preset : Preset
  deriving DecidableEq, Repr

namespace ContractId

def all : List ContractId :=
  [closeQuarters, meridianCircuit, coolantRecovery, bastionLink, prismDiscipline, distantSignal,
    lastReserve, relayGauntlet]

theorem mem_all (contract : ContractId) : contract ∈ all := by
  cases contract <;> decide

def asStr : ContractId → String
  | closeQuarters => "close_quarters"
  | meridianCircuit => "meridian_circuit"
  | coolantRecovery => "coolant_recovery"
  | bastionLink => "bastion_link"
  | prismDiscipline => "prism_discipline"
  | distantSignal => "distant_signal"
  | lastReserve => "last_reserve"
  | relayGauntlet => "relay_gauntlet"

def activityId : ContractId → String
  | closeQuarters => "challenge_close_quarters"
  | meridianCircuit => "challenge_meridian_circuit"
  | coolantRecovery => "challenge_coolant_recovery"
  | bastionLink => "challenge_bastion_link"
  | prismDiscipline => "challenge_prism_discipline"
  | distantSignal => "challenge_distant_signal"
  | lastReserve => "challenge_last_reserve"
  | relayGauntlet => "challenge_relay_gauntlet"

/-- The contracts a policy publishes, each policy one or two more than the one
before it. -/
def availableIn (contract : ContractId) (policy : Policy) : Bool :=
  match policy with
  | .initial => contract ∈ [closeQuarters, meridianCircuit]
  | .expanded => contract ∈ [closeQuarters, meridianCircuit, coolantRecovery]
  | .elite => contract ∈ [closeQuarters, meridianCircuit, coolantRecovery, bastionLink]
  | .prism =>
      contract ∈ [closeQuarters, meridianCircuit, coolantRecovery, bastionLink, prismDiscipline]
  | .signal =>
      contract ∈ [closeQuarters, meridianCircuit, coolantRecovery, bastionLink, prismDiscipline,
        distantSignal]
  | .survival =>
      contract ∈ [closeQuarters, meridianCircuit, coolantRecovery, bastionLink, prismDiscipline,
        distantSignal, lastReserve]
  | .gauntlet | .modifier => true

def contractRevision : ContractId → String
  | closeQuarters => "close-quarters-v1"
  | meridianCircuit => "meridian-circuit-v1"
  | coolantRecovery => "coolant-recovery-v1"
  | bastionLink => "bastion-link-v1"
  | prismDiscipline => "prism-discipline-v1"
  | distantSignal => "distant-signal-v1"
  | lastReserve => "last-reserve-v1"
  | relayGauntlet => "relay-gauntlet-v1"

def seed : ContractId → Nat
  | closeQuarters => 37001
  | meridianCircuit => 37002
  | coolantRecovery => 37003
  | bastionLink => 37004
  | prismDiscipline => 37005
  | distantSignal => 37006
  | lastReserve => 37007
  | relayGauntlet => 37008

def gameplayRevision : ContractId → String
  | coolantRecovery => "m37-recovery-v1"
  | bastionLink => "m37-elite-v1"
  | prismDiscipline => "m37-prism-v1"
  | distantSignal => "m37-signal-v1"
  | lastReserve => "m37-survival-v1"
  | relayGauntlet => "m37-gauntlet-v1"
  | closeQuarters | meridianCircuit => "m37-baseline-v1"

def rules (contract : ContractId) : Rules :=
  { contract, contractRevision := contract.contractRevision
    gameplayRevision := contract.gameplayRevision, seed := contract.seed, preset := .baseline }

def rulesWithPreset (contract : ContractId) (preset : Preset) : Except ChallengeError Rules :=
  if preset.availableFor contract = false then .error .invalidModifiers
  else if preset = .baseline then .ok contract.rules
  else .ok { contract.rules with gameplayRevision := "m37-modifiers-v1", preset }

/-- The objective bits of a finished run. -/
def completeMask : ContractId → BitVec 8
  | closeQuarters | bastionLink => 0b11
  | meridianCircuit => 0b1111
  | coolantRecovery | lastReserve | relayGauntlet => 0b111
  | prismDiscipline | distantSignal => 1

/-- The contracts whose objectives come in one order. -/
def ordered : ContractId → Bool
  | coolantRecovery | lastReserve | relayGauntlet => true
  | _ => false

end ContractId

namespace Objective

def position : Objective → Option Position
  | lensRead => some ⟨-28, 0, -7⟩
  | galleryRead => some ⟨-28, 0, 7⟩
  | logRead => some ⟨-30, 0, 0⟩
  | returned => some ⟨-16, 0, 0⟩
  | coolantRetrieved => some ⟨-1, 0, -5⟩
  | coolantTransferred => some ⟨4, 0, -5⟩
  | coolantDelivered => some ⟨4, 0, -1⟩
  | _ => none

def bit (objective : Objective) (contract : ContractId) : Option (BitVec 8) :=
  match contract, objective with
  | .relayGauntlet, gauntletSupportCleared | .lastReserve, westRelayCharged
  | .distantSignal, sentinelCleared | .prismDiscipline, prismCleared
  | .closeQuarters, lancerCleared | .bastionLink, bulwarkCleared
  | .meridianCircuit, lensRead | .coolantRecovery, coolantRetrieved => some 1
  | .relayGauntlet, gauntletBastionCleared | .lastReserve, eastRelayCharged
  | .closeQuarters, menderCleared | .bastionLink, menderCleared
  | .meridianCircuit, galleryRead | .coolantRecovery, coolantTransferred => some 2
  | .relayGauntlet, gauntletPrismCleared | .lastReserve, reserveReturned
  | .meridianCircuit, logRead | .coolantRecovery, coolantDelivered => some 4
  | .meridianCircuit, returned => some 8
  | _, _ => none

end Objective

namespace Rules

def availableIn (rules : Rules) (policy : Policy) : Bool :=
  rules.contract.availableIn policy && (rules.preset == .baseline || policy == .modifier)

/-- The bit an objective confirms; one modifier exchanges the first two
encounters of the gauntlet. -/
def objectiveBit (rules : Rules) (objective : Objective) : Option (BitVec 8) :=
  if rules.contract = .relayGauntlet ∧ rules.preset.has .bastionFirst = true then
    match objective with
    | .gauntletBastionCleared => some 1
    | .gauntletSupportCleared => some 2
    | _ => objective.bit rules.contract
  else objective.bit rules.contract

/-- The station of an objective; the return of the circuit is its entrance. -/
def objectivePosition (rules : Rules) (objective : Objective) : Option Position :=
  if rules.contract = .meridianCircuit ∧ objective = .returned then rules.preset.meridianEntrance
  else objective.position

end Rules

/-! ## The published rules -/

theorem rulesWithPreset_ok {contract : ContractId} {preset : Preset} {rules : Rules}
    (published : contract.rulesWithPreset preset = .ok rules) :
    rules.contract = contract ∧ rules.preset = preset ∧ preset.availableFor contract = true := by
  unfold ContractId.rulesWithPreset at published
  split at published
  · cases published
  · next available =>
      have listed : preset.availableFor contract = true := by simpa using available
      split at published
      · next plain =>
          cases published
          exact ⟨rfl, plain.symm, listed⟩
      · cases published
        exact ⟨rfl, rfl, listed⟩

/-- Rules that a contract and a preset publish. -/
def Rules.Published (rules : Rules) : Prop :=
  rules.contract.rulesWithPreset rules.preset = .ok rules

instance (rules : Rules) : Decidable rules.Published :=
  inferInstanceAs (Decidable (rules.contract.rulesWithPreset rules.preset = .ok rules))

theorem published_of_ok {contract : ContractId} {preset : Preset} {rules : Rules}
    (published : contract.rulesWithPreset preset = .ok rules) : rules.Published := by
  obtain ⟨rfl, rfl, -⟩ := rulesWithPreset_ok published
  exact published

/-- Published rules are known by their contract and preset. -/
theorem Rules.Published.ext {first second : Rules} (left : first.Published)
    (right : second.Published) (contract : first.contract = second.contract)
    (preset : first.preset = second.preset) : first = second := by
  unfold Rules.Published at left right
  rw [contract, preset, right] at left
  cases left
  rfl

/-- All published rules: eight baselines and eight authored variants. -/
def publishedRules : List Rules :=
  ContractId.all.flatMap (fun contract =>
    Preset.all.filterMap (fun preset => (contract.rulesWithPreset preset).toOption))

theorem publishedRules_length : publishedRules.length = 16 := by decide

theorem Rules.Published.mem {rules : Rules} (published : rules.Published) :
    rules ∈ publishedRules := by
  refine List.mem_flatMap.mpr ⟨rules.contract, ContractId.mem_all _, ?_⟩
  refine List.mem_filterMap.mpr ⟨rules.preset, Preset.mem_all _, ?_⟩
  rw [published]
  rfl

end Challenges
end Revenant
