import Revenant.Replay.Campaign
import Revenant.Library.EventFold

namespace Revenant
namespace Replay

open Library Ai

/-!
# Reading an elite encounter

Each row tells when the row before it was confirmed.  The validator holds the
last action and the last death back until that instant is known, so its brain
stands one confirmation behind the live one; `ReplayState.settled` makes it up.
-/

namespace Elite

open Ai.Elite (EliteComposition EliteAction EliteBrain)

/-- An actor of the validator; its archetype stays empty. -/
def actor (id : Nat) (kind : ActorKind) (position : Position) (health : Nat) : Actor :=
  { id, kind, position, health, maxHealth := health, archetype := "" }

/-- The variables of the validating loop. -/
structure ReplayState where
  encounter : Option EliteComposition
  owner : String
  state : EncounterState
  player : Actor
  guard : Actor
  partner : Actor
  brain : Option EliteBrain
  lastTime : Nat
  mainProgressed : Bool
  pendingAction : Option EliteAction
  pendingDeath : Option Nat
  deriving DecidableEq

def ReplayState.initial : ReplayState :=
  { encounter := none, owner := "", state := .active, player := actor 0 .player ⟨0, 0, 0⟩ 0
    guard := actor 0 .enemy Ai.Bulwark.spawn Ai.Bulwark.health
    partner := actor 0 .enemy ⟨0, 0, 0⟩ 0, brain := none, lastTime := 0, mainProgressed := false
    pendingAction := none, pendingDeath := none }

/-- The brain once what is pending is confirmed at the given instant. -/
def settled (brain : EliteBrain) (pendingAction : Option EliteAction) (pendingDeath : Option Nat)
    (confirmedMs : Nat) : EliteBrain :=
  let brain := pendingAction.elim brain (fun action => brain.confirmAt action confirmedMs)
  pendingDeath.elim brain (fun actorId => brain.retire actorId confirmedMs)

def invalid : ReplayError := .invalidFieldActivityEvidence

/-- The main mission may not move on during the fight or after a defeat. -/
def checkProgress (replay : ReplayState) (kind : ReplayEventKind) :
    Except ReplayError ReplayState := do
  if kind.progressesMain then
    rejectIf (replay.encounter.isSome ∧ (replay.state = .active ∨ replay.player.health = 0)) invalid
    return { replay with mainProgressed := true }
  else return replay

def applyStarted (events : List ReplayEvent) (replay : ReplayState) (event : ReplayEvent)
    (evidence : EliteEvidence) (composition : String) (bulwarkId partnerId health : Nat) :
    Except ReplayError ReplayState := do
  let composition ← require (EliteComposition.fromId composition) invalid
  let player ← require (solePlayer events event) invalid
  rejectIf (replay.encounter.isSome ∨ replay.mainProgressed = true ∨ evidence.elapsedMs ≠ 0 ∨
    evidence.previousConfirmedMs ≠ 0 ∨ event.kind ≠ .enemySpawned ∨
    event.actorId ≠ some bulwarkId ∨ health = 0 ∨ appeared events event bulwarkId = true ∨
    appeared events event partnerId = true) invalid
  let brain ← require (EliteBrain.new composition bulwarkId partnerId) invalid
  return { replay with
    brain := some brain, encounter := some composition, owner := event.accountId
    player := actor player .player composition.entrance health
    guard := { replay.guard with id := bulwarkId }
    partner := actor partnerId .enemy composition.partner.2.1 composition.partner.2.2 }

/-- The row of a death is the fatal hit on the actor it names. -/
def isFatal (event : ReplayEvent) (transition : EliteTransition) : Bool :=
  match transition with
  | .attack targetId _ _ _ healthAfter =>
      decide (healthAfter = 0) && decide (event.actorId = some targetId)
  | _ => false

/-- What a recorded step does to the three actors. -/
def applyStep (replay : ReplayState) (step : EliteStep) : ReplayState :=
  match step with
  | .braced _ | .windup _ _ => replay
  | .slam _ _ healthAfter => { replay with player := { replay.player with health := healthAfter } }
  | .charged _ target _ healthAfter =>
      { replay with
        partner := { replay.partner with position := target }
        player := { replay.player with health := healthAfter } }
  | .repaired _ _ _ healthAfter =>
      { replay with guard := { replay.guard with health := healthAfter } }

/-- A hit on one of the two enemies. -/
def hitTarget (target : Actor) (death blocked : Bool) (playerPosition : Position)
    (damage healthBefore healthAfter : Nat) : Except ReplayError Actor := do
  rejectIf (¬ Ai.Bulwark.arenaContains playerPosition ∨ target.health = 0 ∨
    target.health ≠ healthBefore ∨ decide (damage = 0) ≠ blocked ∨
    healthBefore - damage ≠ healthAfter ∨ death ≠ decide (healthAfter = 0)) invalid
  return { target with health := healthAfter }

def settle (replay : ReplayState) : ReplayState :=
  if replay.guard.health = 0 ∧ replay.partner.health = 0 then { replay with state := .completed }
  else replay

def applyTransition (replay : ReplayState) (brain : EliteBrain) (death : Bool) (time : Nat)
    (transition : EliteTransition) : Except ReplayError ReplayState :=
  match transition with
  | .started _ _ _ _ => throw invalid
  | .step playerPosition step => do
      let replay := { replay with player := { replay.player with position := playerPosition } }
      let (expected, next) ←
        require (brain.tick time (some replay.guard) (some replay.partner) replay.player) invalid
      rejectIf (EliteStep.fromAction expected replay.player.health ≠ step) invalid
      let replay := applyStep { replay with brain := some next, pendingAction := some expected } step
      return if replay.player.health = 0 then { replay with state := .failed } else replay
  | .attack targetId playerPosition damage healthBefore healthAfter =>
      let pendingDeath := if death then some targetId else replay.pendingDeath
      if targetId = replay.guard.id then do
        let guard ← hitTarget replay.guard death
          (decide (brain.defense.blocks replay.guard.position playerPosition)) playerPosition damage
          healthBefore healthAfter
        return settle { replay with guard, pendingDeath }
      else if targetId = replay.partner.id then do
        let partner ←
          hitTarget replay.partner death false playerPosition damage healthBefore healthAfter
        return settle { replay with partner, pendingDeath }
      else throw invalid
  | .abandoned => return { replay with state := .failed }

def applyRecorded (replay : ReplayState) (event : ReplayEvent) (evidence : EliteEvidence) :
    Except ReplayError ReplayState := do
  let brain ← require replay.brain invalid
  let death := decide (event.kind = .enemyDied)
  rejectIf (replay.state ≠ .active ∨ event.accountId ≠ replay.owner ∨
    evidence.elapsedMs < replay.lastTime ∨
    (event.kind ≠ .fieldActivity ∧ event.kind ≠ .enemyDied) ∨
    (death = false ∧ event.actorId ≠ some replay.player.id) ∨
    (death = true ∧ isFatal event evidence.transition = false)) invalid
  rejectIf (evidence.previousConfirmedMs < replay.lastTime ∨
    evidence.previousConfirmedMs > evidence.elapsedMs) invalid
  let brain := settled brain replay.pendingAction replay.pendingDeath evidence.previousConfirmedMs
  let next ← applyTransition
    { replay with brain := some brain, pendingAction := none, pendingDeath := none } brain death
    evidence.elapsedMs evidence.transition
  return { next with lastTime := evidence.elapsedMs }

/-- One turn of the validating loop. -/
def applyEvent (events : List ReplayEvent) (replay : ReplayState) (event : ReplayEvent) :
    Except ReplayError ReplayState := do
  let replay ← checkProgress replay event.kind
  match event.payload.elite? with
  | none => return replay
  | some body =>
      rejectIf (body.length > 2048) invalid
      let evidence ← require body.value invalid
      match evidence.transition with
      | .started composition bulwarkId partnerId health =>
          applyStarted events replay event evidence composition bulwarkId partnerId health
      | _ => applyRecorded replay event evidence

def own (payload : Payload) : Bool := payload.elite?.isSome

/-- The death of one of the two enemies outside the encounter's own rows. -/
def strangeDeath (replay : ReplayState) (event : ReplayEvent) : Bool :=
  decide (event.kind = .enemyDied) &&
    decide (event.actorId = some replay.guard.id ∨ event.actorId = some replay.partner.id) &&
    !own event.payload

/-- The composition with the state it is in. -/
def ReplayState.report (replay : ReplayState) : Option (EliteComposition × EncounterState) :=
  replay.encounter.map (fun composition => (composition, replay.state))

/-- The validator on the events its encounter may look at. -/
def validateScoped (events : List ReplayEvent) :
    Except ReplayError (Option (EliteComposition × EncounterState)) := do
  let replay ← fold applyEvent events .initial events
  rejectIf (replay.encounter.isSome ∧
    ∃ event ∈ events, foreign own event = true ∨ strangeDeath replay event = true) invalid
  return replay.report

def validate (events : List ReplayEvent) :
    Except ReplayError (Option (EliteComposition × EncounterState)) := do
  let inChapter ← Campaign.counterEncounterEvents events (fun payload => payload.support?.isSome)
  validateScoped (inChapter.getD events)

/-! ## One lemma per kind of event -/

variable {events : List ReplayEvent} {replay : ReplayState} {event : ReplayEvent}

theorem checkProgress_other (other : event.kind.progressesMain = false) :
    checkProgress replay event.kind = .ok replay := by
  simp only [checkProgress, other, Bool.false_eq_true, if_false]
  rfl

theorem applyEvent_started {body : Encoded EliteEvidence} {composition : String}
    {bulwarkId partnerId health : Nat} {evidence : EliteEvidence}
    (other : event.kind.progressesMain = false) (payload : event.payload = .elite body)
    (short : body.length ≤ 2048) (value : body.value = some evidence)
    (start : evidence.transition = .started composition bulwarkId partnerId health) :
    applyEvent events replay event =
      applyStarted events replay event evidence composition bulwarkId partnerId health := by
  unfold applyEvent
  rw [checkProgress_other other]
  rcases evidence with ⟨time, confirmed, transition⟩
  simp only at start
  subst start
  simp only [payload, Payload.elite?, value, rejectIf, if_neg (not_lt.mpr short), require]
  rfl

theorem applyEvent_recorded {body : Encoded EliteEvidence} {evidence : EliteEvidence}
    (other : event.kind.progressesMain = false) (payload : event.payload = .elite body)
    (short : body.length ≤ 2048) (value : body.value = some evidence)
    (later : ∀ composition bulwarkId partnerId health,
      evidence.transition ≠ .started composition bulwarkId partnerId health) :
    applyEvent events replay event = applyRecorded replay event evidence := by
  unfold applyEvent
  rw [checkProgress_other other]
  simp only [payload, Payload.elite?, value, rejectIf, if_neg (not_lt.mpr short), require]
  rcases evidence with ⟨time, confirmed, transition⟩
  cases transition
  case started composition bulwarkId partnerId health =>
    exact absurd rfl (later composition bulwarkId partnerId health)
  all_goals rfl

/-- The mission's boss may appear once the encounter is over and survived. -/
theorem applyEvent_boss (kind : event.kind = .bossSpawned) (payload : event.payload.elite? = none)
    (isOver : replay.state ≠ .active) (survived : replay.player.health ≠ 0) :
    applyEvent events replay event = .ok { replay with mainProgressed := true } := by
  simp [applyEvent, checkProgress, kind, payload, ReplayEventKind.progressesMain, isOver, survived,
    rejectIf]

theorem applyEvent_neutral (other : event.kind.progressesMain = false)
    (payload : event.payload.elite? = none) : applyEvent events replay event = .ok replay := by
  unfold applyEvent
  rw [checkProgress_other other]
  simp only [payload]
  rfl

/-- The loop looks at the whole journal for the players who joined and for the
rows before a start. -/
theorem stable_append {journal : List ReplayEvent} (other : event.kind ≠ .playerJoined)
    (later : ∀ old ∈ journal, old.id < event.id) : Stable applyEvent journal [event] := by
  intro old member replay
  unfold applyEvent applyStarted
  simp only [solePlayer_append other, appeared_append _ (later old member)]

theorem reads_neutral {journal : List ReplayEvent}
    (neutral : ∀ event ∈ journal, event.kind.progressesMain = false ∧
      event.payload.elite? = none) : Reads applyEvent .initial journal .initial :=
  .of_ignored (fun event member =>
    applyEvent_neutral (neutral event member).1 (neutral event member).2)

end Elite
end Replay
end Revenant
