import Revenant.Replay.Event
import Revenant.Library.EventFold
import Revenant.Library.Checks

namespace Revenant
namespace Replay

open Library Ai

/-!
# Reading a solo Lancer encounter

The validator rebuilds the charge from recorded times alone.  It never sees how
long a write took, so its next windup may be due earlier than the live one.

`applyEvent` is one turn of the validating loop, over the variables of the
source, and `due` is the time from which it accepts the next charge event.
-/

namespace Lancer

open Ai.Lancer

/-- The charge that is locked and the time at which it was announced. -/
structure LockedCharge where
  origin : Position
  target : Position
  started : Nat
  deriving DecidableEq, Repr

/-- The variables of the validating loop. -/
structure ReplayState where
  encounter : Option (String × Option Nat)
  state : Option EncounterState
  locked : Option LockedCharge
  position : Position
  nextWindup : Nat
  lastTime : Nat
  playerActor : Option Nat
  lastHealth : Option Nat
  mainProgressed : Bool
  deriving DecidableEq

def ReplayState.initial : ReplayState :=
  { encounter := none, state := none, locked := none, position := spawn, nextWindup := 700
    lastTime := 0, playerActor := none, lastHealth := none, mainProgressed := false }

/-- The time from which the next charge event is accepted. -/
def ReplayState.due (replay : ReplayState) : Nat :=
  match replay.locked with
  | some charge => saturatingAdd charge.started windupMs
  | none => replay.nextWindup

theorem ReplayState.due_locked {replay : ReplayState} {charge : LockedCharge}
    (locked : replay.locked = some charge) :
    replay.due = saturatingAdd charge.started windupMs := by
  simp only [ReplayState.due, locked]

theorem ReplayState.due_free {replay : ReplayState} (free : replay.locked = none) :
    replay.due = replay.nextWindup := by
  simp only [ReplayState.due, free]

def invalid : ReplayError := .invalidFieldActivityEvidence

def applySpawned (events : List ReplayEvent) (replay : ReplayState) (event : ReplayEvent) :
    Except ReplayError ReplayState := do
  rejectIf (replay.encounter.isSome ∨ event.actorId = none ∨ replay.mainProgressed = true) invalid
  let player ← require (solePlayer events event) invalid
  return { replay with
    encounter := some (event.accountId, event.actorId)
    playerActor := some player, state := some .active }

def applyDied (replay : ReplayState) (event : ReplayEvent) : Except ReplayError ReplayState := do
  rejectIf (replay.encounter ≠ some (event.accountId, event.actorId) ∨
    replay.state ≠ some .active) invalid
  return { replay with state := some .completed }

/-- One evidence value; the time it carries comes with the new state. -/
def applyEvidence (replay : ReplayState) (evidence : LancerEvidence) :
    Except ReplayError (ReplayState × Nat) :=
  match evidence with
  | .windup origin target elapsedMs => do
      rejectIf (replay.locked.isSome ∨ origin ≠ replay.position ∨ ¬ arenaContains target ∨
        (origin.x ≠ target.x ∧ origin.z ≠ target.z) ∨ elapsedMs < replay.nextWindup) invalid
      return ({ replay with locked := some ⟨origin, target, elapsedMs⟩ }, elapsedMs)
  | .resolved origin target playerPosition elapsedMs damage healthBefore healthAfter => do
      let charge ← require replay.locked invalid
      rejectIf (origin ≠ charge.origin ∨ target ≠ charge.target ∨
        elapsedMs < saturatingAdd charge.started windupMs ∨ ¬ arenaContains playerPosition ∨
        healthBefore = 0 ∨ healthBefore - damage ≠ healthAfter ∨
        (∃ health ∈ replay.lastHealth, health ≠ healthBefore) ∨
        damage ≠ chargeDamage origin target playerPosition) invalid
      return ({ replay with
        locked := none, position := target, lastHealth := some healthAfter
        state := if healthAfter = 0 then some .failed else replay.state
        nextWindup := saturatingAdd elapsedMs recoveryMs }, elapsedMs)
  | .abandoned elapsedMs => return ({ replay with state := some .failed }, elapsedMs)

def applyRecorded (replay : ReplayState) (event : ReplayEvent) (body : Encoded LancerEvidence) :
    Except ReplayError ReplayState := do
  rejectIf (replay.state ≠ some .active ∨ event.actorId ≠ replay.playerActor ∨
    replay.encounter.map (·.1) ≠ some event.accountId ∨ body.length > 1024) invalid
  let evidence ← require body.value invalid
  let (next, time) ← applyEvidence replay evidence
  rejectIf (time < replay.lastTime) invalid
  return { next with lastTime := time }

def spawnedText : Payload := .text "enemy spawned: glass-lancer"

def diedText : Payload := .text "enemy died: glass-lancer"

/-- The evidence an event of the encounter carries. -/
def recorded? (event : ReplayEvent) : Option (Encoded LancerEvidence) :=
  if event.kind = .fieldActivity then event.payload.lancer? else none

/-- One turn of the validating loop. -/
def applyEvent (events : List ReplayEvent) (replay : ReplayState) (event : ReplayEvent) :
    Except ReplayError ReplayState :=
  let replay := { replay with mainProgressed := replay.mainProgressed || event.kind.progressesMain }
  if event.kind = .enemySpawned ∧ event.payload = spawnedText then applySpawned events replay event
  else if event.kind = .enemyDied ∧ event.payload = diedText then applyDied replay event
  else
    match recorded? event with
    | some body => applyRecorded replay event body
    | none => do
        rejectIf ((replay.state = some .active ∨ replay.lastHealth = some 0) ∧
          event.kind.progressesMain = true) invalid
        return replay

def own (payload : Payload) : Bool := payload.lancer?.isSome

/-- The validator: the loop, then the check that nothing foreign is around. -/
def validate (events : List ReplayEvent) : Except ReplayError (Option EncounterState) := do
  let replay ← fold applyEvent events .initial events
  rejectIf (replay.encounter.isSome ∧ ∃ event ∈ events, foreign own event) invalid
  return replay.state

/-! ## One lemma per kind of event -/

variable {events : List ReplayEvent} {replay : ReplayState} {event : ReplayEvent}

theorem applyEvent_spawned (kind : event.kind = .enemySpawned)
    (payload : event.payload = spawnedText) :
    applyEvent events replay event = applySpawned events replay event := by
  simp [applyEvent, kind, payload, ReplayEventKind.progressesMain]

theorem applyEvent_died (kind : event.kind = .enemyDied) (payload : event.payload = diedText) :
    applyEvent events replay event = applyDied replay event := by
  simp [applyEvent, kind, payload, ReplayEventKind.progressesMain]

theorem applyEvent_recorded (body : Encoded LancerEvidence) (kind : event.kind = .fieldActivity)
    (payload : event.payload = .lancer body) :
    applyEvent events replay event = applyRecorded replay event body := by
  simp [applyEvent, kind, payload, recorded?, Payload.lancer?, ReplayEventKind.progressesMain]

/-- The mission's boss may appear once the encounter is over and survived. -/
theorem applyEvent_boss (kind : event.kind = .bossSpawned) (isOver : replay.state ≠ some .active)
    (survived : replay.lastHealth ≠ some 0) :
    applyEvent events replay event = .ok { replay with mainProgressed := true } := by
  simp [applyEvent, kind, recorded?, ReplayEventKind.progressesMain, isOver, survived]
  rfl

/-- An event of no interest to the Lancer validator in any state. -/
structure Neutral (event : ReplayEvent) : Prop where
  progress : event.kind.progressesMain = false
  spawned : ¬ (event.kind = .enemySpawned ∧ event.payload = spawnedText)
  died : ¬ (event.kind = .enemyDied ∧ event.payload = diedText)
  recorded : recorded? event = none

theorem applyEvent_neutral (neutral : Neutral event) :
    applyEvent events replay event = .ok replay := by
  unfold applyEvent
  simp only [neutral.progress, Bool.or_false, if_neg neutral.spawned, if_neg neutral.died,
    neutral.recorded, Bool.false_eq_true, and_false]
  rfl

/-- The loop looks at the whole journal only for the players who joined. -/
theorem stable_append {journal : List ReplayEvent} (other : event.kind ≠ .playerJoined) :
    Stable applyEvent journal [event] := by
  intro old _ replay
  unfold applyEvent applySpawned
  simp only [solePlayer_append other]

/-- A journal of neutral events leaves the validator where it began. -/
theorem reads_neutral {journal : List ReplayEvent} (neutral : ∀ event ∈ journal, Neutral event) :
    Reads applyEvent .initial journal .initial :=
  Reads.of_ignored (fun event member => applyEvent_neutral (neutral event member))

end Lancer
end Replay
end Revenant
