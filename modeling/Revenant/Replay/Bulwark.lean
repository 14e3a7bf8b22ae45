import Revenant.Replay.Event
import Revenant.Library.EventFold
import Revenant.Library.Checks

namespace Revenant
namespace Replay

open Library Ai

/-!
# Reading a solo Bulwark encounter

Every shot is recorded here, and the validator recomputes from the stance which
shots were blocked.

`applyEvent` is one turn of the validating loop, over the variables of the
source.  An event it has no interest in is `Neutral` in every state.
-/

namespace Bulwark

open Ai.Bulwark

/-- The variables of the validating loop. -/
structure ReplayState where
  encounter : Option (String × Option Nat)
  playerId : Option Nat
  state : Option EncounterState
  mainProgressed : Bool
  facing : Facing
  braced : Bool
  readyAt : Nat
  enemyHealth : Nat
  playerHealth : Option Nat
  lastTime : Nat
  deriving DecidableEq

def ReplayState.initial : ReplayState :=
  { encounter := none, playerId := none, state := none, mainProgressed := false, facing := .west
    braced := true, readyAt := windupMs, enemyHealth := health, playerHealth := none, lastTime := 0 }

def invalid : ReplayError := .invalidFieldActivityEvidence

def applySpawned (events : List ReplayEvent) (replay : ReplayState) (event : ReplayEvent) :
    Except ReplayError ReplayState := do
  rejectIf (replay.encounter.isSome ∨ event.actorId = none ∨ replay.mainProgressed = true) invalid
  let player ← require (solePlayer events event) invalid
  return { replay with
    encounter := some (event.accountId, event.actorId)
    playerId := some player, state := some .active }

/-- A fatal shot shares its row with the death it causes. -/
def isFatal : BulwarkEvidence → Bool
  | .attack _ _ _ _ healthAfter => healthAfter = 0
  | _ => false

/-- One evidence value, in the row of a death or not; the time it carries comes
with the new state. -/
def applyEvidence (replay : ReplayState) (death : Bool) (evidence : BulwarkEvidence) :
    Except ReplayError (ReplayState × Nat) :=
  match evidence with
  | .braced direction playerPosition elapsedMs => do
      let next ← require (Facing.fromVector direction) invalid
      rejectIf (replay.braced = true ∨ elapsedMs < replay.readyAt ∨ ¬ arenaContains playerPosition ∨
        next ≠ replay.facing.toward spawn playerPosition) invalid
      return ({ replay with
        facing := next, braced := true, readyAt := saturatingAdd elapsedMs windupMs }, elapsedMs)
  | .slam direction playerPosition elapsedMs damage healthBefore healthAfter => do
      rejectIf (replay.braced = false ∨ elapsedMs < replay.readyAt ∨
        direction ≠ replay.facing.vector ∨ ¬ arenaContains playerPosition ∨ healthBefore = 0 ∨
        healthBefore - damage ≠ healthAfter ∨
        (∃ health ∈ replay.playerHealth, health ≠ healthBefore) ∨
        damage ≠ slamDamage replay.facing spawn playerPosition) invalid
      return ({ replay with
        playerHealth := some healthAfter
        state := if healthAfter = 0 then some .failed else replay.state
        braced := false, readyAt := saturatingAdd elapsedMs recoveryMs }, elapsedMs)
  | .attack playerPosition elapsedMs damage healthBefore healthAfter => do
      let blocked := decide (replay.braced = true ∧ replay.facing.protects spawn playerPosition)
      rejectIf (¬ arenaContains playerPosition ∨ healthBefore ≠ replay.enemyHealth ∨
        healthBefore - damage ≠ healthAfter ∨ decide (damage = 0) ≠ blocked ∨
        death ≠ decide (healthAfter = 0)) invalid
      return ({ replay with
        enemyHealth := healthAfter
        state := if death then some .completed else replay.state }, elapsedMs)
  | .abandoned elapsedMs => return ({ replay with state := some .failed }, elapsedMs)

def applyRecorded (replay : ReplayState) (event : ReplayEvent) (body : Encoded BulwarkEvidence) :
    Except ReplayError ReplayState := do
  let death := decide (event.kind = .enemyDied)
  rejectIf (replay.state ≠ some .active ∨ body.length > 1024 ∨
    replay.encounter.map (·.1) ≠ some event.accountId ∨
    event.actorId ≠ (if death then replay.encounter.bind (·.2) else replay.playerId)) invalid
  let evidence ← require body.value invalid
  rejectIf (death = true ∧ isFatal evidence = false) invalid
  let (next, time) ← applyEvidence replay death evidence
  rejectIf (time < replay.lastTime) invalid
  return { next with lastTime := time }

def spawnedText : Payload := .text "enemy spawned: steel-bulwark"

def diedText : Payload := .text "enemy died: steel-bulwark"

/-- The evidence an event of the encounter carries. -/
def recorded? (event : ReplayEvent) : Option (Encoded BulwarkEvidence) :=
  if event.kind = .fieldActivity ∨ event.kind = .enemyDied then event.payload.bulwark? else none

/-- One turn of the validating loop. -/
def applyEvent (events : List ReplayEvent) (replay : ReplayState) (event : ReplayEvent) :
    Except ReplayError ReplayState :=
  let replay := { replay with mainProgressed := replay.mainProgressed || event.kind.progressesMain }
  if event.kind = .enemySpawned ∧ event.payload = spawnedText then applySpawned events replay event
  else
    match recorded? event with
    | some body => applyRecorded replay event body
    | none => do
        rejectIf ((event.kind = .enemyDied ∧ event.payload = diedText) ∨
          ((replay.state = some .active ∨ replay.playerHealth = some 0) ∧
            event.kind.progressesMain = true)) invalid
        return replay

def own (payload : Payload) : Bool := payload.bulwark?.isSome

/-- The validator: the loop, then the check that nothing foreign is around. -/
def validate (events : List ReplayEvent) : Except ReplayError (Option EncounterState) := do
  let replay ← fold applyEvent events .initial events
  rejectIf (replay.encounter.isSome ∧ ∃ event ∈ events, foreign own event) invalid
  return replay.state

/-! ## One lemma per kind of event -/

variable {events : List ReplayEvent} {replay : ReplayState} {event : ReplayEvent}

theorem applyEvent_spawned (kind : event.kind = .enemySpawned)
    (payload : event.payload = spawnedText) :
    applyEvent events replay event = applySpawned events replay event := by
  simp [applyEvent, kind, payload, ReplayEventKind.progressesMain]

theorem applyEvent_recorded (body : Encoded BulwarkEvidence)
    (kind : event.kind = .fieldActivity ∨ event.kind = .enemyDied)
    (payload : event.payload = .bulwark body) :
    applyEvent events replay event = applyRecorded replay event body := by
  rcases kind with kind | kind <;>
    simp [applyEvent, kind, payload, recorded?, Payload.bulwark?, ReplayEventKind.progressesMain]

/-- The mission's boss may appear once the encounter is over and survived. -/
theorem applyEvent_boss (kind : event.kind = .bossSpawned) (isOver : replay.state ≠ some .active)
    (survived : replay.playerHealth ≠ some 0) :
    applyEvent events replay event = .ok { replay with mainProgressed := true } := by
  simp [applyEvent, kind, recorded?, ReplayEventKind.progressesMain, isOver, survived]
  rfl

/-- An event of no interest to the Bulwark validator in any state. -/
structure Neutral (event : ReplayEvent) : Prop where
  progress : event.kind.progressesMain = false
  spawned : ¬ (event.kind = .enemySpawned ∧ event.payload = spawnedText)
  died : ¬ (event.kind = .enemyDied ∧ event.payload = diedText)
  recorded : recorded? event = none

theorem applyEvent_neutral (neutral : Neutral event) :
    applyEvent events replay event = .ok replay := by
  unfold applyEvent
  simp only [neutral.progress, Bool.or_false, if_neg neutral.spawned, neutral.recorded,
    Bool.false_eq_true, and_false, or_false]
  simp only [rejectIf, if_neg neutral.died]
  rfl

/-- The loop looks at the whole journal only for the players who joined. -/
theorem stable_append {journal : List ReplayEvent} (other : event.kind ≠ .playerJoined) :
    Stable applyEvent journal [event] := by
  intro old _ replay
  unfold applyEvent applySpawned
  simp only [solePlayer_append other]

/-- A journal of neutral events leaves the validator where it began. -/
theorem reads_neutral {journal : List ReplayEvent} (neutral : ∀ event ∈ journal, Neutral event) :
    Reads applyEvent .initial journal .initial :=
  Reads.of_ignored (fun event member => applyEvent_neutral (neutral event member))

end Bulwark
end Replay
end Revenant
