import Mathlib.Logic.Function.Basic
import Revenant.Library.Checks
import Revenant.Library.Text
import Revenant.Protocol.World

namespace Revenant
namespace Client

open Library

/-!
# The client's projection of the world

The client keeps what it was told of every actor and re-derives the player's
health between two states of a contract from the damage it saw.  A state that
does not follow from what the client knows is refused, and the client reports
invalid server data.

`receive` dispatches a message to its handler; a message that reaches no
handler of the projection leaves it alone.  An absent modifier has the
defaults of the client, which `ReadModifier` holds.
-/

namespace World

abbrev Check := Except Unit

structure AuthoritativeState where
  playerActorId : Int
  actors : Int → Option Variant
  actorHealth : Int → Option Variant
  actorMaxHealth : Int → Option Variant
  survivalState : Variant
  gauntletState : Variant

def noFields : Variant := .dictionary []

/-- The part of `join_world` that concerns actors and contracts. -/
def joinWorld (playerActorId : Int) : AuthoritativeState :=
  { playerActorId, actors := fun _ => none, actorHealth := fun _ => none
    actorMaxHealth := fun _ => none, survivalState := noFields, gauntletState := noFields }

def positionValue (position : Position) : Variant := Protocol.serializePosition position

/-- A number that must be present and whole. -/
def number (message : Variant) (key : String) (absent : Int) : Check Int :=
  require (message.getOr key (.integer absent)).integer? ()

namespace AuthoritativeState

def applyActorSpawn (state : AuthoritativeState) (message : Variant) :
    Check AuthoritativeState := do
  let actorId ← number message "actor_id" 0
  return { state with
    actors := Function.update state.actors actorId (some message)
    actorHealth := Function.update state.actorHealth actorId
      (some (message.getOr "health" (.integer 100)))
    actorMaxHealth := Function.update state.actorMaxHealth actorId
      (some (message.getOr "max_health" (.integer 100))) }

def applyActorUpdate (state : AuthoritativeState) (message : Variant) :
    Check AuthoritativeState := do
  let actorId ← number message "actor_id" 0
  match state.actors actorId with
  | none => return state
  | some actor =>
      let kept := actor.getOr "position" (positionValue ⟨0, 0, 0⟩)
      return { state with
        actors := Function.update state.actors actorId
          (some (actor.set "position" (message.getOr "position" kept))) }

def applyActorDestroy (state : AuthoritativeState) (message : Variant) :
    Check AuthoritativeState := do
  let actorId ← number message "actor_id" 0
  return { state with
    actors := Function.update state.actors actorId none
    actorHealth := Function.update state.actorHealth actorId none
    actorMaxHealth := Function.update state.actorMaxHealth actorId none }

def applyDamage (state : AuthoritativeState) (message : Variant) : Check AuthoritativeState := do
  let target ← number message "target_actor_id" 0
  return { state with
    actorHealth := Function.update state.actorHealth target
      (some (message.getOr "remaining_health" (.integer 0))) }

def applyRepair (state : AuthoritativeState) (message : Variant) : Check AuthoritativeState := do
  let target ← number message "target_actor_id" 0
  if (state.actors target).isNone then return state
  else
    let known ← require (state.actorHealth target) ()
    return { state with
      actorHealth := Function.update state.actorHealth target
        (some (message.getOr "remaining_health" known)) }

/-- What a contract's state is checked against: the player's actor, its known
health and its maximum. -/
def player (state : AuthoritativeState) : Check (Variant × Int × Variant) := do
  let actor ← require (state.actors state.playerActorId) ()
  let health ← require ((state.actorHealth state.playerActorId).bind Variant.integer?) ()
  return (actor, health, (state.actorMaxHealth state.playerActorId).getD .nil)

/-- The message replaces the state of its contract, and its health the known one. -/
def settle (state : AuthoritativeState) (health : Int) : AuthoritativeState :=
  { state with
    actorHealth := Function.update state.actorHealth state.playerActorId (some (.integer health)) }

/-- Both contracts name their run and the player. -/
def validSubject (state : AuthoritativeState) (message : Variant) (runId : Int) : Check Unit :=
  rejectIf (message.get "run_id" ≠ .integer runId ∨ runId < 1 ∨
    message.get "player_actor_id" ≠ .integer state.playerActorId) ()

/-- A hold that the state reports: whole, positive and no longer than its limit. -/
def validHold (limit : Int) (hold : Variant) : Check Unit := do
  let remaining ← require hold.integer? ()
  rejectIf (remaining < 1 ∨ remaining > limit) ()

/-! ## Last Reserve -/

def survivalPhases : List String := ["west", "east", "return", "completed", "defeated"]

def survivalPhaseIndex (phase : String) : Int :=
  if phase ∈ survivalPhases then (survivalPhases.idxOf phase : Int) else -1

/-- The reported health: the known one and what the reserve restored. -/
def validSurvivalHealth (message : Variant) (phase : String) (used reserveUsed : Bool)
    (known : Int) (maximum : Variant) : Check (Int × Int) := do
  let health ← number message "health" (-1)
  let limit ← number message "max_health" (-1)
  let recovered ← number message "recovered_health" (-1)
  rejectIf (.integer limit ≠ maximum ∨ health < 0 ∨ health > limit) ()
  rejectIf (recovered < 0 ∨ recovered > 36 ∨ health ≠ known + recovered) ()
  rejectIf (¬ (phase = "defeated" ↔ health = 0)) ()
  rejectIf ((used = true ∧ recovered > 0) ∨
    reserveUsed ≠ (used || decide (recovered > 0))) ()
  return (health, recovered)

/-- The phase follows the one before; a first state opens the contract. -/
def validSurvivalOrder (previous : Variant) (phase : String) (health recovered : Int)
    (maximum : Variant) : Check Unit :=
  if previous = noFields then
    rejectIf (phase ≠ "west" ∨ recovered ≠ 0 ∨ .integer health ≠ maximum) ()
  else do
    let old ← require (previous.get "phase").text? ()
    rejectIf (survivalPhaseIndex old ≥ 3 ∨ survivalPhaseIndex phase < survivalPhaseIndex old ∨
      (phase ≠ "defeated" ∧ survivalPhaseIndex phase > survivalPhaseIndex old + 1)) ()

/-- The holds the state reports, each at its own station and never both. -/
def validSurvivalHolds (message : Variant) (phase : String) (reserveUsed : Bool)
    (position : Variant) : Check Unit := do
  let charge := message.get "charge_remaining_ms"
  let recovery := message.get "recovery_remaining_ms"
  if charge.isNil = false then
    validHold 3600 charge
    rejectIf (phase ∉ ["west", "east"]) ()
    rejectIf (position ≠ positionValue (if phase = "west" then ⟨-8, 0, 0⟩ else ⟨0, 0, 0⟩)) ()
  if recovery.isNil = false then
    validHold 1200 recovery
    rejectIf (reserveUsed = true ∨ position ≠ positionValue ⟨-4, 0, 5⟩) ()
  rejectIf (charge.isNil = false ∧ recovery.isNil = false) ()
  rejectIf (phase ∈ ["completed", "defeated"] ∧
    (charge.isNil = false ∨ recovery.isNil = false)) ()

def applySurvivalState (state : AuthoritativeState) (message : Variant) (runId : Int) :
    Check AuthoritativeState := do
  state.validSubject message runId
  let (actor, known, maximum) ← state.player
  let phase ← require (message.getOr "phase" (.text "")).text? ()
  let sequence ← number state.survivalState "sequence" 0
  rejectIf (phase ∉ survivalPhases ∨ message.get "sequence" ≠ .integer (sequence + 1)) ()
  let reserveUsed ← require (message.get "reserve_used").bool? ()
  let used ← require (state.survivalState.getOr "reserve_used" (.bool false)).bool? ()
  let (health, recovered) ← validSurvivalHealth message phase used reserveUsed known maximum
  validSurvivalOrder state.survivalState phase health recovered maximum
  let position := actor.get "position"
  let _ ← require position.array? ()
  validSurvivalHolds message phase reserveUsed position
  return { state.settle health with survivalState := message }

/-! ## Relay Gauntlet -/

/-- The stages in the order of the preset. -/
def gauntletOrder (preset : String) : List Int :=
  if (Text.stripPrefix "bastion_first".toList preset.toList).isSome then [2, 1, 3] else [1, 2, 3]

/-- Recovery is a single reserve instead of a heal at each transfer. -/
def singleReserve (preset : String) : Bool :=
  (Text.splitOnce "single_reserve".toList preset.toList).isSome

/-- The place of a stage in the order, or less than every place. -/
def stageIndex (order : List Int) (stage : Int) : Int :=
  if stage ∈ order then (order.idxOf stage : Int) else -1

def gauntletPhases : List String :=
  ["combat", "transfer", "completed", "defeated", "abandoned", "interrupted"]

def gauntletEntrance (stage : Int) : Variant :=
  if stage = 1 then positionValue ⟨2, 0, 6⟩
  else if stage = 2 then positionValue ⟨5, 0, -6⟩ else positionValue ⟨5, 0, 2⟩

def gauntletPad (stage : Int) : Variant :=
  if stage = 1 then positionValue ⟨3, 0, 6⟩ else positionValue ⟨6, 0, -6⟩

/-- The modifier of a state, empty when it is absent. -/
def modifierOf (state : Variant) : Variant :=
  let modifier := state.getOr "modifier" noFields
  if modifier.isDictionary = true then modifier else noFields

/-- What the client reads of a modifier; an absent one has the defaults. -/
structure ReadModifier where
  present : Bool
  elapsedMs : Int
  reserveUsed : Bool
  reserveHold : Variant

def readModifier (modifier : Variant) : Check ReadModifier := do
  let elapsedMs ← number modifier "elapsed_ms" 0
  let reserveUsed ← require (modifier.getOr "reserve_used" (.bool false)).bool? ()
  return { present := decide (modifier ≠ noFields), elapsedMs, reserveUsed
           reserveHold := modifier.get "reserve_remaining_ms" }

def validModifier (preset : String) (stage : Int) (modifier : Variant) : Check Unit := do
  rejectIf (¬ (preset = "baseline" ↔ modifier = noFields)) ()
  if modifier ≠ noFields then
    rejectIf (modifier.get "preset_id" ≠ .text preset ∨
      modifier.get "stage_index" ≠ .integer (stageIndex (gauntletOrder preset) stage + 1)) ()
    let reserveUsed ← require (modifier.get "reserve_used").bool? ()
    let elapsedMs ← number modifier "elapsed_ms" (-1)
    rejectIf (elapsedMs < 0) ()
    rejectIf (singleReserve preset = false ∧
      (reserveUsed = true ∨ (modifier.get "reserve_remaining_ms").isNil = false)) ()

def validGauntletHealth (message : Variant) (stage : Int) (phase : String) (known : Int)
    (maximum : Variant) : Check (Int × Int × Int) := do
  let health ← number message "health" (-1)
  let limit ← number message "max_health" (-1)
  let recovered ← number message "recovered_health" (-1)
  rejectIf (.integer limit ≠ maximum ∨ health < 0 ∨ health > limit) ()
  rejectIf (recovered < 0 ∨ recovered > 24 ∨ health ≠ known + recovered) ()
  rejectIf (¬ (phase = "defeated" ↔ health = 0)) ()
  rejectIf ((phase = "transfer" ∧ stage = 3) ∨ (phase = "completed" ∧ stage ≠ 3)) ()
  return (health, limit, recovered)

/-- A heal outside a stage change: the single reserve, held on its pad during a
transfer and not used before. -/
def validReserve (single : Bool) (previousPhase phase : String) (old modifier : ReadModifier)
    (stage known limit recovered : Int) (position : Variant) : Check Unit := do
  rejectIf (single = false ∨ phase ≠ "transfer" ∨ previousPhase ≠ "transfer" ∨
    old.reserveUsed = true ∨ modifier.reserveUsed = false) ()
  rejectIf (position ≠ gauntletPad stage ∨ recovered ≠ min 24 (limit - known)) ()

/-- The state follows the one before; a first state opens the contract. -/
def validGauntletOrder (previous : Variant) (preset : String) (stage sequence : Int)
    (phase : String) (modifier : ReadModifier) (known health limit recovered : Int)
    (position : Variant) : Check Unit :=
  let order := gauntletOrder preset
  if previous = noFields then
    rejectIf (some stage ≠ order.head? ∨ phase ≠ "combat" ∨ recovered ≠ 0 ∨ health ≠ limit) ()
  else do
    let previousStage ← require (previous.get "stage").integer? ()
    let previousSequence ← require (previous.get "sequence").integer? ()
    let previousPhase ← require (previous.get "phase").text? ()
    let current := stageIndex order stage
    let before := stageIndex order previousStage
    rejectIf (current < before ∨ current > before + 1) ()
    rejectIf (sequence = previousSequence ∧ phase ∉ ["abandoned", "interrupted"]) ()
    rejectIf (previousPhase ∈ ["completed", "defeated", "abandoned", "interrupted"]) ()
    let old ← readModifier (modifierOf previous)
    rejectIf (modifier.present = true ∧ modifier.elapsedMs < old.elapsedMs) ()
    rejectIf (modifier.present = true ∧ old.reserveUsed = true ∧ modifier.reserveUsed = false) ()
    rejectIf (modifier.present = true ∧ modifier.reserveUsed ≠ old.reserveUsed ∧ recovered = 0) ()
    if current > before then
      rejectIf (previousPhase ≠ "transfer" ∨ phase ≠ "combat" ∨ position ≠ gauntletEntrance stage) ()
      rejectIf (recovered ≠ (if singleReserve preset = true then 0 else min 24 (limit - known))) ()
    else
      if recovered ≠ 0 then
        validReserve (singleReserve preset) previousPhase phase old modifier stage known limit
          recovered position
      rejectIf (previousPhase = "transfer" ∧ phase ∉ ["transfer", "abandoned", "interrupted"]) ()

/-- The holds the state reports, each at its own place during a transfer. -/
def validGauntletHolds (message : Variant) (preset : String) (stage : Int) (phase : String)
    (modifier : ReadModifier) (position : Variant) : Check Unit := do
  if modifier.reserveHold.isNil = false then
    validHold 1200 modifier.reserveHold
    rejectIf (singleReserve preset = false ∨ phase ≠ "transfer" ∨ modifier.reserveUsed = true ∨
      position ≠ gauntletPad stage) ()
  let hold := message.get "transfer_remaining_ms"
  if hold.isNil = false then
    validHold 1200 hold
    rejectIf (phase ≠ "transfer" ∨ position ≠ gauntletEntrance stage) ()

def applyGauntletState (state : AuthoritativeState) (message : Variant) (runId : Int)
    (preset : String) : Check AuthoritativeState := do
  state.validSubject message runId
  let (actor, known, maximum) ← state.player
  let stage ← number message "stage" 0
  validModifier preset stage (modifierOf message)
  let phase ← require (message.getOr "phase" (.text "")).text? ()
  let sequence ← number message "sequence" 0
  let previousSequence ← number state.gauntletState "sequence" 0
  rejectIf (stage < 1 ∨ stage > 3 ∨ phase ∉ gauntletPhases ∨ sequence < 1 ∨
    sequence < previousSequence) ()
  if message = state.gauntletState then return state
  else
    let (health, limit, recovered) ← validGauntletHealth message stage phase known maximum
    let position := actor.get "position"
    let _ ← require position.array? ()
    let modifier ← readModifier (modifierOf message)
    validGauntletOrder state.gauntletState preset stage sequence phase modifier known
      health limit recovered position
    validGauntletHolds message preset stage phase modifier position
    return { state.settle health with gauntletState := message }

/-! ## Messages -/

/-- The handlers of the messages that reach the projection; the rest does not
concern it.  The board names the run and the preset of its contract. -/
def receive (runId : Int) (preset : String) (state : AuthoritativeState) (message : Variant) :
    Check AuthoritativeState :=
  match (message.get "type").text? with
  | some "ActorSpawn" => state.applyActorSpawn message
  | some "ActorUpdate" => state.applyActorUpdate message
  | some "ActorDestroy" => state.applyActorDestroy message
  | some "DamageApplied" => state.applyDamage message
  | some "RepairApplied" => state.applyRepair message
  | some "ChallengeSurvivalState" => state.applySurvivalState message runId
  | some "ChallengeGauntletState" => state.applyGauntletState message runId preset
  | _ => .ok state

end AuthoritativeState
end World
end Client
end Revenant
