import Revenant.Replay.Campaign
import Revenant.Library.EventFold

namespace Revenant
namespace Replay

open Library Ai

/-!
# Reading a support encounter

The validator runs both brains on the recorded times.  It never confirms a
write, so each of its timers may be due earlier than the live one.
-/

namespace Support

open Ai.Lancer (GlassLancer)
open Ai.Support (RelayMender)

def enemy (id : Nat) (position : Position) (health : Nat) : Actor :=
  { id, position, health, maxHealth := health, kind := .enemy, archetype := "" }

/-- The variables of the validating loop. -/
structure ReplayState where
  state : Option EncounterState
  owner : String
  playerId : Option Nat
  playerHealth : Nat
  lancer : Actor
  mender : Actor
  chargeAi : GlassLancer
  repairAi : RelayMender
  lastTime : Nat
  mainProgressed : Bool
  deriving DecidableEq

def ReplayState.initial : ReplayState :=
  { state := none, owner := "", playerId := none, playerHealth := 0
    lancer := enemy 0 Ai.Lancer.spawn Ai.Lancer.health, mender := enemy 0 Ai.Support.spawn Ai.Support.health
    chargeAi := .default, repairAi := .default, lastTime := 0, mainProgressed := false }

def invalid : ReplayError := .invalidFieldActivityEvidence

/-- The main mission may not move on during the fight or after a defeat. -/
def checkProgress (replay : ReplayState) (kind : ReplayEventKind) :
    Except ReplayError ReplayState := do
  if kind.progressesMain then
    rejectIf (replay.state = some .active ∨ (replay.state.isSome ∧ replay.playerHealth = 0)) invalid
    return { replay with mainProgressed := true }
  else return replay

def applyStarted (events : List ReplayEvent) (replay : ReplayState) (event : ReplayEvent)
    (time lancerId menderId health : Nat) : Except ReplayError ReplayState := do
  let player ← require (solePlayer events event) invalid
  rejectIf (replay.state.isSome ∨ replay.mainProgressed = true ∨ time ≠ 0 ∨
    event.kind ≠ .enemySpawned ∨ event.actorId ≠ some lancerId ∨ lancerId = 0 ∨ menderId = 0 ∨
    lancerId = menderId ∨ health = 0 ∨ appeared events event lancerId = true ∨
    appeared events event menderId = true) invalid
  return { replay with
    owner := event.accountId, playerId := some player, playerHealth := health
    lancer := { replay.lancer with id := lancerId }
    mender := { replay.mender with id := menderId }, state := some .active }

/-- The row of a death is the fatal hit on the actor it names. -/
def isFatal (event : ReplayEvent) (transition : SupportTransition) : Bool :=
  match transition with
  | .attack targetId _ _ _ healthAfter =>
      decide (healthAfter = 0) && decide (event.actorId = some targetId)
  | _ => false

/-- A hit on one of the two enemies. -/
def hitTarget (target : Actor) (death : Bool) (playerPosition : Position)
    (damage healthBefore healthAfter : Nat) : Except ReplayError Actor := do
  rejectIf (¬ Ai.Lancer.arenaContains playerPosition ∨ target.health = 0 ∨ damage = 0 ∨
    target.health ≠ healthBefore ∨ healthBefore - damage ≠ healthAfter ∨
    death ≠ decide (healthAfter = 0)) invalid
  return { target with health := healthAfter }

def settle (replay : ReplayState) : ReplayState :=
  if replay.lancer.health = 0 ∧ replay.mender.health = 0 then
    { replay with state := some .completed }
  else replay

def applyTransition (replay : ReplayState) (death : Bool) (time : Nat)
    (transition : SupportTransition) : Except ReplayError ReplayState :=
  match transition with
  | .started _ _ _ => throw invalid
  | .windup playerPosition origin target => do
      rejectIf (replay.lancer.health = 0) invalid
      let (action, chargeAi) ←
        require (replay.chargeAi.tick time replay.lancer.position playerPosition) invalid
      rejectIf (action ≠ .windup origin target) invalid
      return { replay with chargeAi }
  | .charged playerPosition origin target damage healthAfter => do
      rejectIf (replay.lancer.health = 0) invalid
      let (action, chargeAi) ←
        require (replay.chargeAi.tick time replay.lancer.position playerPosition) invalid
      rejectIf (action ≠ .resolved origin target damage ∨
        replay.playerHealth - damage ≠ healthAfter) invalid
      return { replay with
        chargeAi, lancer := { replay.lancer with position := target }, playerHealth := healthAfter
        state := if healthAfter = 0 then some .failed else replay.state }
  | .repaired targetId amount healthBefore healthAfter => do
      let (action, repairAi) ←
        require (replay.repairAi.tick time replay.mender [replay.lancer]) invalid
      rejectIf (action ≠ ⟨targetId, amount, healthBefore, healthAfter⟩) invalid
      return { replay with repairAi, lancer := { replay.lancer with health := healthAfter } }
  | .attack targetId playerPosition damage healthBefore healthAfter =>
      if targetId = replay.lancer.id then do
        let lancer ←
          hitTarget replay.lancer death playerPosition damage healthBefore healthAfter
        return settle { replay with lancer }
      else if targetId = replay.mender.id then do
        let mender ←
          hitTarget replay.mender death playerPosition damage healthBefore healthAfter
        return settle { replay with mender }
      else throw invalid
  | .abandoned => return { replay with state := some .failed }

def applyRecorded (replay : ReplayState) (event : ReplayEvent) (evidence : SupportEvidence) :
    Except ReplayError ReplayState := do
  let death := decide (event.kind = .enemyDied)
  rejectIf (replay.state ≠ some .active ∨ event.accountId ≠ replay.owner ∨
    evidence.elapsedMs < replay.lastTime ∨
    (event.kind ≠ .fieldActivity ∧ event.kind ≠ .enemyDied) ∨
    (death = false ∧ event.actorId ≠ replay.playerId) ∨
    (death = true ∧ isFatal event evidence.transition = false)) invalid
  let next ← applyTransition replay death evidence.elapsedMs evidence.transition
  return { next with lastTime := evidence.elapsedMs }

/-- One turn of the validating loop. -/
def applyEvent (events : List ReplayEvent) (replay : ReplayState) (event : ReplayEvent) :
    Except ReplayError ReplayState := do
  let replay ← checkProgress replay event.kind
  match event.payload.support? with
  | none => return replay
  | some body =>
      rejectIf (body.length > 1024) invalid
      let evidence ← require body.value invalid
      match evidence.transition with
      | .started lancerId menderId health =>
          applyStarted events replay event evidence.elapsedMs lancerId menderId health
      | _ => applyRecorded replay event evidence

def own (payload : Payload) : Bool := payload.support?.isSome

/-- The death of one of the two enemies outside the encounter's own rows. -/
def strangeDeath (replay : ReplayState) (event : ReplayEvent) : Bool :=
  decide (event.kind = .enemyDied) &&
    decide (event.actorId = some replay.lancer.id ∨ event.actorId = some replay.mender.id) &&
    !own event.payload

/-- The validator on the events its encounter may look at. -/
def validateScoped (events : List ReplayEvent) : Except ReplayError (Option EncounterState) := do
  let replay ← fold applyEvent events .initial events
  rejectIf (replay.state.isSome ∧
    ∃ event ∈ events, foreign own event = true ∨ strangeDeath replay event = true) invalid
  return replay.state

def validate (events : List ReplayEvent) : Except ReplayError (Option EncounterState) := do
  let inChapter ← Campaign.counterEncounterEvents events (fun payload => payload.elite?.isSome)
  validateScoped (inChapter.getD events)

/-! ## One lemma per kind of event -/

variable {events : List ReplayEvent} {replay : ReplayState} {event : ReplayEvent}

theorem checkProgress_other (other : event.kind.progressesMain = false) :
    checkProgress replay event.kind = .ok replay := by
  simp only [checkProgress, other, Bool.false_eq_true, if_false]
  rfl

theorem applyEvent_started {body : Encoded SupportEvidence} {lancerId menderId health time : Nat}
    (other : event.kind.progressesMain = false) (payload : event.payload = .support body)
    (short : body.length ≤ 1024)
    (value : body.value = some ⟨time, .started lancerId menderId health⟩) :
    applyEvent events replay event =
      applyStarted events replay event time lancerId menderId health := by
  unfold applyEvent
  rw [checkProgress_other other]
  simp only [payload, Payload.support?, value, rejectIf, if_neg (not_lt.mpr short), require]
  rfl

theorem applyEvent_recorded {body : Encoded SupportEvidence} {evidence : SupportEvidence}
    (other : event.kind.progressesMain = false) (payload : event.payload = .support body)
    (short : body.length ≤ 1024) (value : body.value = some evidence)
    (later : ∀ lancerId menderId health, evidence.transition ≠ .started lancerId menderId health) :
    applyEvent events replay event = applyRecorded replay event evidence := by
  unfold applyEvent
  rw [checkProgress_other other]
  simp only [payload, Payload.support?, value, rejectIf, if_neg (not_lt.mpr short), require]
  rcases evidence with ⟨time, transition⟩
  cases transition
  case started lancerId menderId health => exact absurd rfl (later lancerId menderId health)
  all_goals rfl

/-- The mission's boss may appear once the encounter is over and survived. -/
theorem applyEvent_boss (kind : event.kind = .bossSpawned) (payload : event.payload.support? = none)
    (isOver : replay.state ≠ some .active) (survived : replay.playerHealth ≠ 0) :
    applyEvent events replay event = .ok { replay with mainProgressed := true } := by
  simp [applyEvent, checkProgress, kind, payload, ReplayEventKind.progressesMain, isOver, survived,
    rejectIf]

theorem applyEvent_neutral (other : event.kind.progressesMain = false)
    (payload : event.payload.support? = none) : applyEvent events replay event = .ok replay := by
  unfold applyEvent
  rw [checkProgress_other other]
  simp only [payload]
  rfl

/-- The loop looks at the whole journal for the players who joined and for the
rows before a start. -/
theorem stable_append {journal : List ReplayEvent} (other : event.kind ≠ .playerJoined)
    (later : ∀ old ∈ journal, old.id < event.id) : Stable applyEvent journal [event] := by
  intro old member replay
  unfold applyEvent applyStarted
  simp only [solePlayer_append other, appeared_append _ (later old member)]

theorem reads_neutral {journal : List ReplayEvent}
    (neutral : ∀ event ∈ journal, event.kind.progressesMain = false ∧
      event.payload.support? = none) : Reads applyEvent .initial journal .initial :=
  .of_ignored (fun event member =>
    applyEvent_neutral (neutral event member).1 (neutral event member).2)

end Support
end Replay
end Revenant
