import Mathlib.Algebra.Group.Int.Defs
import Revenant.Client.ChallengeMastery

namespace Revenant
namespace Client
namespace ChallengeState

open Library

/-!
# The client's check of a challenge board

The tables and the arithmetic with which the client reads a board before it
shows it.  `apply` returns the board it keeps; a refusal leaves the client with
the board it had.

Tables stand here as the client writes them and not as the runtime has them;
that they agree is a result about the two sides.  `shown` is the board the
client kept before, and a stale or foreign board is refused against it.
-/

abbrev Check := Except Unit

structure ContractEntry where
  contractRevision : String
  seed : Int
  objectiveCount : Nat
  gameplayRevision : String
  deriving DecidableEq, Repr

def contracts : List (String × ContractEntry) :=
  [("relay_gauntlet", ⟨"relay-gauntlet-v1", 37008, 3, "m37-gauntlet-v1"⟩),
    ("last_reserve", ⟨"last-reserve-v1", 37007, 3, "m37-survival-v1"⟩),
    ("distant_signal", ⟨"distant-signal-v1", 37006, 1, "m37-signal-v1"⟩),
    ("prism_discipline", ⟨"prism-discipline-v1", 37005, 1, "m37-prism-v1"⟩),
    ("close_quarters", ⟨"close-quarters-v1", 37001, 2, "m37-baseline-v1"⟩),
    ("meridian_circuit", ⟨"meridian-circuit-v1", 37002, 4, "m37-baseline-v1"⟩),
    ("coolant_recovery", ⟨"coolant-recovery-v1", 37003, 3, "m37-recovery-v1"⟩),
    ("bastion_link", ⟨"bastion-link-v1", 37004, 2, "m37-elite-v1"⟩)]

/-- The presets of a contract with their time goals. -/
def presets : List (String × List (String × Option Int)) :=
  [("meridian_circuit",
      [("west_approach", none), ("pace", some 60000), ("west_approach_pace", some 60000)]),
    ("relay_gauntlet",
      [("bastion_first", none), ("single_reserve", none), ("pace", some 180000),
        ("bastion_first_single_reserve", none), ("single_reserve_pace", some 180000)])]

def policies : List (String × List String) :=
  [("m37-challenges-v8",
      ["close_quarters", "meridian_circuit", "coolant_recovery", "bastion_link",
        "prism_discipline", "distant_signal", "last_reserve", "relay_gauntlet"]),
    ("m37-challenges-v7",
      ["close_quarters", "meridian_circuit", "coolant_recovery", "bastion_link",
        "prism_discipline", "distant_signal", "last_reserve", "relay_gauntlet"]),
    ("m37-challenges-v6",
      ["close_quarters", "meridian_circuit", "coolant_recovery", "bastion_link",
        "prism_discipline", "distant_signal", "last_reserve"]),
    ("m37-challenges-v5",
      ["close_quarters", "meridian_circuit", "coolant_recovery", "bastion_link",
        "prism_discipline", "distant_signal"]),
    ("m37-challenges-v4",
      ["close_quarters", "meridian_circuit", "coolant_recovery", "bastion_link",
        "prism_discipline"]),
    ("m37-challenges-v1", ["close_quarters", "meridian_circuit"]),
    ("m37-challenges-v2", ["close_quarters", "meridian_circuit", "coolant_recovery"]),
    ("m37-challenges-v3",
      ["close_quarters", "meridian_circuit", "coolant_recovery", "bastion_link"])]

def presetsOf (contractId : String) : List (String × Option Int) :=
  (presets.lookup contractId).getD []

def presetId (contract : Variant) : String :=
  (contract.getOr "preset_id" (.text "baseline")).str

def timeGoal (contract : Variant) : Option Int := do
  let contractId ← (contract.get "contract_id").text?
  ((presetsOf contractId).lookup (presetId contract)).join

/-- All objective bits of a contract. -/
def fullMask (contract : Variant) : Check Int := do
  let count ← require (contract.get "objective_count").integer? ()
  return 2 ^ count.toNat - 1

/-- The contract and the number of its objectives. -/
def validContract (value : Variant) (modified : Bool) : Check Unit := do
  let contractId ← require (value.get "contract_id").text? ()
  let expected ← require (contracts.lookup contractId) ()
  let preset := presetId value
  rejectIf (preset ≠ "baseline" ∧
    (modified = false ∨ ((presetsOf contractId).lookup preset).isNone)) ()
  let gameplay := if preset ≠ "baseline" then "m37-modifiers-v1" else expected.gameplayRevision
  rejectIf (¬ ((value.get "contract_revision").text? = some expected.contractRevision ∧
    (value.get "seed").integer? = some expected.seed ∧
    (value.get "objective_count").integer? = some (expected.objectiveCount : Int) ∧
    (value.get "gameplay_revision").text? = some gameplay)) ()

def complete (run : Variant) : Check Bool := do
  let objectives ← require (run.get "objectives").integer? ()
  let mask ← fullMask (run.get "contract")
  return objectives == mask

/-- An optional number that is not negative. -/
def validElapsed (value : Variant) : Check Unit := ChallengeMastery.validNumber value

def validEquipment (equipment : Variant) : Check Unit := do
  rejectIf ((equipment.get "catalog_revision").text? ≠ some "m35-v2") ()
  let loadoutRevision ← require (equipment.getOr "loadout_revision" (.integer (-1))).integer? ()
  rejectIf (loadoutRevision < 0) ()
  rejectIf (¬ ((equipment.get "weapon_id").text?.isSome ∧ (equipment.get "modules").array?.isSome)) ()

def validRun (revision : Int) (available : List String) (modified : Bool) (value : Variant) :
    Check Unit := do
  let contract := value.get "contract"
  validContract contract modified
  let contractId ← require (contract.get "contract_id").text? ()
  rejectIf (contractId ∉ available) ()
  let objectives ← require (value.getOr "objectives" (.integer (-1))).integer? ()
  rejectIf (contractId ∈ ["coolant_recovery", "last_reserve", "relay_gauntlet"] ∧
    objectives ∉ [0, 1, 3, 7]) ()
  let runId ← require (value.getOr "run_id" (.integer 0)).integer? ()
  rejectIf (runId < 1 ∨ runId > revision) ()
  let mask ← fullMask contract
  rejectIf (objectives < 0 ∨ objectives > mask) ()
  let elapsed := value.get "elapsed_ms"
  let full ← complete value
  rejectIf ((!elapsed.isNil) ≠ (full && (timeGoal contract).isSome)) ()
  validElapsed elapsed
  validEquipment (value.get "equipment")

def validContracts (available : List String) : List String → List Variant → Check Unit
  | _, [] => .ok ()
  | ids, contract :: rest => do
      validContract contract false
      let contractId ← require (contract.get "contract_id").text? ()
      rejectIf (contractId ∉ available ∨ contractId ∈ ids) ()
      validContracts available (ids ++ [contractId]) rest

/-- The identity a board may record once. -/
def recordIdentity (record : Variant) : Check String := do
  let contract := record.get "contract"
  let contractId ← require (contract.get "contract_id").text? ()
  return contractId ++ ":" ++ presetId contract

def validRecords (revision : Int) (available : List String) (modified : Bool) :
    List String → List Variant → Check Unit
  | _, [] => .ok ()
  | ids, record :: rest => do
      validRun revision available modified record
      let full ← complete record
      rejectIf (full = false) ()
      let identity ← recordIdentity record
      rejectIf (identity ∈ ids) ()
      validRecords revision available modified (ids ++ [identity]) rest

def validVariantItems : List String → List Variant → Check Unit
  | _, [] => .ok ()
  | seen, variant :: rest => do
      let contractId ← require (variant.get "contract_id").text? ()
      let preset ← require (variant.getOr "preset_id" (.text "")).text? ()
      let goal ← require ((presetsOf contractId).lookup preset) ()
      rejectIf ((variant.get "time_goal_ms").isNumber goal = false ∨
        contractId ++ ":" ++ preset ∈ seen) ()
      validVariantItems (seen ++ [contractId ++ ":" ++ preset]) rest

def validVariants (value : Variant) (modified : Bool) : Check Unit := do
  let items ← require value.array? ()
  rejectIf (items.length ≠ if modified then 8 else 0) ()
  validVariantItems [] items

def validActive (revision : Int) (available : List String) (modified : Bool) (active : Variant) :
    Check Unit :=
  if active.isNil then .ok ()
  else do
    validRun revision available modified active
    let full ← complete active
    rejectIf (full = true) ()

def validResult (revision : Int) (available : List String) (modified : Bool) (result : Variant) :
    Check Unit :=
  if result.isNil then .ok ()
  else do
    let outcome ← require (result.get "outcome").text? ()
    rejectIf (outcome ∉ ["completed", "abandoned", "interrupted", "defeated"]) ()
    validRun revision available modified (result.get "run")
    let full ← complete (result.get "run")
    rejectIf (outcome = "completed" ∧ full = false) ()

/-- The identity and the revision of a board against the one the client shows. -/
def validOrder (shown : Option Variant) (message : Variant) (characterId : String) :
    Check Int := do
  let character ← require (message.get "character_id").text? ()
  rejectIf (character = "") ()
  rejectIf (characterId ≠ "" ∧ character ≠ characterId) ()
  rejectIf (∃ snapshot ∈ shown, (snapshot.get "character_id").text? ≠ some character) ()
  let revision ← require (message.getOr "state_revision" (.integer (-1))).integer? ()
  rejectIf (revision < 0 ∨ revision < ((shown.bind (fun snapshot =>
    (snapshot.get "state_revision").integer?)).getD 0)) ()
  return revision

def validMastery (mastery message : Variant) : Check Unit :=
  if mastery.isNil then .ok () else ChallengeMastery.valid mastery message

/-- The board the client keeps after a message; `shown` is the board it kept
before, if any, and an empty `characterId` stands for no selection. -/
def apply (shown : Option Variant) (message : Variant) (characterId : String) :
    Check Variant := do
  rejectIf ((message.get "type").text? ≠ some "ChallengeSnapshot") ()
  let policy ← require (message.get "policy_revision").text? ()
  let available ← require (policies.lookup policy) ()
  let revision ← validOrder shown message characterId
  let modified := decide (policy = "m37-challenges-v8")
  validVariants (message.getOr "variants" (.array [])) modified
  validElapsed (message.get "elapsed_ms")
  let contracts ← require (message.get "contracts").array? ()
  rejectIf (contracts.length ≠ available.length) ()
  validContracts available [] contracts
  validActive revision available modified (message.get "active")
  validResult revision available modified (message.get "last_result")
  let records ← require (message.get "records").array? ()
  rejectIf (records.length > if modified then 16 else available.length) ()
  validRecords revision available modified [] records
  validMastery (message.get "mastery") message
  return message

end ChallengeState
end Client
end Revenant
