import Revenant.Replay.Campaign
import Revenant.Library.EventFold

namespace Revenant
namespace Replay

open Library Ai

/-!
# Reading a Prism encounter

A chapter, a challenge or the gauntlet may admit the boss; in the standard
mission a fallen drone does.  A withdrawal leaves the mission to its own boss,
which must then fall before the activity completes.
-/

namespace Prism

open Ai.Prism (PrismWarden)

/-- The state of the encounter as the validator tells it apart. -/
inductive PrismStatus where
  | active
  | completed
  | failed
  | abandoned
  deriving DecidableEq, Repr

/-- An abandoned encounter is reported as a failed one. -/
def PrismStatus.report : PrismStatus → EncounterState
  | active => .active
  | completed => .completed
  | failed | abandoned => .failed

/-- The variables of the validating loop. -/
structure ReplayState where
  bossId : Option Nat
  playerId : Option Nat
  owner : String
  playerHealth : Nat
  bossHealth : Nat
  brain : PrismWarden
  state : PrismStatus
  lastTime : Nat
  pendingConfirmation : Bool
  mainProgressed : Bool
  fallbackBoss : Option Nat
  fallbackDead : Bool
  deriving DecidableEq

def ReplayState.initial : ReplayState :=
  { bossId := none, playerId := none, owner := "", playerHealth := 0
    bossHealth := Ai.Prism.health, brain := .default, state := .active, lastTime := 0
    pendingConfirmation := false, mainProgressed := false, fallbackBoss := none
    fallbackDead := false }

/-- The brain once a pending confirmation is told. -/
def settled (brain : PrismWarden) (pending : Bool) (confirmedMs : Nat) : PrismWarden :=
  if pending then brain.confirmAt confirmedMs else brain

def invalid : ReplayError := .invalidFieldActivityEvidence

/-- Events without Prism evidence move the mission past the encounter. -/
def applyOther (replay : ReplayState) (event : ReplayEvent) : Except ReplayError ReplayState :=
  match event.kind with
  | .bossSpawned => do
      rejectIf (replay.bossId.isSome ∧ (replay.state ≠ .abandoned ∨ replay.fallbackBoss.isSome ∨
        event.actorId = none)) invalid
      return { replay with
        mainProgressed := true
        fallbackBoss := if replay.bossId.isSome then event.actorId else replay.fallbackBoss }
  | .enemyDied =>
      return { replay with
        fallbackDead := replay.fallbackDead || (replay.fallbackBoss.isSome &&
          decide (event.actorId = replay.fallbackBoss ∧ event.accountId = replay.owner)) }
  | .activityCompleted => do
      rejectIf (replay.bossId.isSome ∧ replay.state ≠ .completed ∧
        ¬ (replay.state = .abandoned ∧ replay.fallbackDead = true)) invalid
      return { replay with mainProgressed := true }
  | _ => return replay

/-- The text of a drone's death, which admits the boss in the standard mission. -/
def droneFell (events : List ReplayEvent) (event : ReplayEvent) : Bool :=
  events.any (fun old => decide (old.id < event.id) &&
    decide (old.kind = .enemyDied ∧ old.payload = .text "enemy died: relay-drone"))

variable (authority : List ReplayEvent → ReplayEvent → Except ReplayError Bool)

/-- The challenge's boundary admits its boss.  `authority` decodes and validates
a boundary after the rows before it and answers whether the run it leaves active
is the Prism challenge. -/
def challengeAdmission (events : List ReplayEvent) (spawn : ReplayEvent) :
    Except ReplayError Bool :=
  if spawn.activityId ≠ some "challenge_prism_discipline" then return false
  else do
    let index ← require
      (events.findIdx? (fun event =>
        decide (event.kind = .challengeCheckpoint) && decide (event.id < spawn.id)))
      (invalidModule "Prism challenge spawn lacks admission")
    let boundary ← require events[index]?
      (invalidModule "Prism challenge spawn lacks admission")
    let admitted ← authority (events.take index) boundary
    rejectIf (admitted = false ∨ boundary.sessionId ≠ spawn.sessionId ∨
      boundary.accountId ≠ spawn.accountId ∨ boundary.activityId ≠ spawn.activityId)
      (invalidModule "Prism spawn belongs to another challenge")
    return true

/-- Who admits the boss, asked in the source's order. -/
def admitted (gauntletAdmitted : Bool) (events : List ReplayEvent) (event : ReplayEvent) :
    Except ReplayError Bool := do
  if gauntletAdmitted then return true
  if ← Campaign.prismAdmission events event then return true
  if ← challengeAdmission authority events event then return true
  return droneFell events event

def applyStarted (gauntletAdmitted : Bool) (events : List ReplayEvent) (replay : ReplayState)
    (event : ReplayEvent) (evidence : PrismEvidence) (bossId health : Nat) :
    Except ReplayError ReplayState := do
  let player ← require (solePlayer events event) invalid
  rejectIf (replay.bossId.isSome ∨ replay.mainProgressed = true ∨ evidence.elapsedMs ≠ 0 ∨
    evidence.previousConfirmedMs ≠ 0 ∨ event.kind ≠ .bossSpawned ∨ event.actorId ≠ some bossId ∨
    bossId = 0 ∨ health = 0 ∨ appeared events event bossId = true) invalid
  let admission ← admitted authority gauntletAdmitted events event
  rejectIf (admission = false) invalid
  return { replay with
    bossId := some bossId, playerId := some player, owner := event.accountId
    playerHealth := health }

/-- The row of a death is the boss's and carries the fatal hit. -/
def isFatal (transition : PrismTransition) : Bool :=
  match transition with
  | .attack _ _ _ healthAfter _ => decide (healthAfter = 0)
  | _ => false

def applyTransition (replay : ReplayState) (death : Bool) (time : Nat)
    (transition : PrismTransition) : Except ReplayError ReplayState :=
  match transition with
  | .started _ _ => throw invalid
  | .step playerPosition step => do
      let (expected, brain) ←
        require (replay.brain.tick time replay.bossHealth playerPosition) invalid
      rejectIf (PrismStep.fromAction expected replay.playerHealth ≠ step) invalid
      match step with
      | .warning _ => return { replay with brain, pendingConfirmation := true }
      | .resolved _ _ healthAfter =>
          return { replay with
            brain, pendingConfirmation := true, playerHealth := healthAfter
            state := if healthAfter = 0 then .failed else replay.state }
  | .attack playerPosition damage healthBefore healthAfter phaseChanged => do
      rejectIf (¬ Ai.Prism.arenaContains playerPosition ∨ healthBefore ≠ replay.bossHealth ∨
        (decide (damage = 0) = decide replay.brain.vulnerable) ∨
        death ≠ decide (healthAfter = 0)) invalid
      let (hit, brain) ← require (replay.brain.hit time healthBefore damage) invalid
      rejectIf (hit.damage ≠ damage ∨ hit.healthAfter ≠ healthAfter ∨
        hit.phaseChanged ≠ phaseChanged) invalid
      return { replay with
        brain, bossHealth := healthAfter, pendingConfirmation := phaseChanged
        state := if death then .completed else replay.state }
  | .abandoned => return { replay with state := .abandoned }

def applyRecorded (replay : ReplayState) (event : ReplayEvent) (evidence : PrismEvidence) :
    Except ReplayError ReplayState := do
  let death := decide (event.kind = .enemyDied)
  rejectIf (replay.bossId = none ∨ replay.state ≠ .active ∨ event.accountId ≠ replay.owner ∨
    evidence.elapsedMs < replay.lastTime ∨ evidence.previousConfirmedMs < replay.lastTime ∨
    evidence.previousConfirmedMs > evidence.elapsedMs ∨
    (event.kind ≠ .fieldActivity ∧ event.kind ≠ .enemyDied) ∨
    (death = false ∧ event.actorId ≠ replay.playerId) ∨
    (death = true ∧ (event.actorId ≠ replay.bossId ∨ isFatal evidence.transition = false))) invalid
  let brain := settled replay.brain replay.pendingConfirmation evidence.previousConfirmedMs
  let next ← applyTransition { replay with brain, pendingConfirmation := false } death
    evidence.elapsedMs evidence.transition
  return { next with lastTime := evidence.elapsedMs }

/-- One turn of the validating loop. -/
def applyEvent (gauntletAdmitted : Bool) (events : List ReplayEvent) (replay : ReplayState)
    (event : ReplayEvent) : Except ReplayError ReplayState :=
  match event.payload.prism? with
  | none => applyOther replay event
  | some body => do
      rejectIf (body.length > 2048) invalid
      let evidence ← require body.value invalid
      match evidence.transition with
      | .started bossId health =>
          applyStarted authority gauntletAdmitted events replay event evidence bossId health
      | _ => applyRecorded replay event evidence

def own (payload : Payload) : Bool := payload.prism?.isSome

/-- The boss's death outside the encounter's own rows. -/
def strangeDeath (replay : ReplayState) (event : ReplayEvent) : Bool :=
  decide (event.kind = .enemyDied) && decide (event.actorId = replay.bossId) && !own event.payload

def ReplayState.report (replay : ReplayState) : Option EncounterState :=
  replay.bossId.map (fun _ => replay.state.report)

/-- The validator; only the gauntlet's own one admits the boss itself. -/
def validateEncounter (gauntletAdmitted : Bool) (events : List ReplayEvent) :
    Except ReplayError (Option EncounterState) := do
  let replay ← fold (applyEvent authority gauntletAdmitted) events .initial events
  rejectIf (replay.bossId.isSome ∧
    ∃ event ∈ events, foreign own event = true ∨ strangeDeath replay event = true) invalid
  return replay.report

def validate (events : List ReplayEvent) : Except ReplayError (Option EncounterState) :=
  validateEncounter authority false events

/-! ## One lemma per kind of event -/

variable {authority} {gauntletAdmitted : Bool} {events : List ReplayEvent} {replay : ReplayState}
  {event : ReplayEvent}

theorem settled_phase (brain : PrismWarden) (pending : Bool) (confirmedMs : Nat) :
    (settled brain pending confirmedMs).phase = brain.phase ∧
      (settled brain pending confirmedMs).mode = brain.mode := by
  unfold settled PrismWarden.confirmAt
  cases pending with
  | false => exact ⟨rfl, rfl⟩
  | true =>
      rw [if_pos rfl]
      split <;> exact ⟨rfl, rfl⟩

theorem applyEvent_other (payload : event.payload.prism? = none) :
    applyEvent authority gauntletAdmitted events replay event = applyOther replay event := by
  simp only [applyEvent, payload]

theorem applyEvent_started {body : Encoded PrismEvidence} {bossId health : Nat}
    {evidence : PrismEvidence} (payload : event.payload = .prism body)
    (short : body.length ≤ 2048) (value : body.value = some evidence)
    (start : evidence.transition = .started bossId health) :
    applyEvent authority gauntletAdmitted events replay event =
      applyStarted authority gauntletAdmitted events replay event evidence bossId health := by
  unfold applyEvent
  rcases evidence with ⟨time, confirmed, transition⟩
  simp only at start
  subst start
  simp only [payload, Payload.prism?, value, rejectIf, if_neg (not_lt.mpr short), require]
  rfl

theorem applyEvent_recorded {body : Encoded PrismEvidence} {evidence : PrismEvidence}
    (payload : event.payload = .prism body) (short : body.length ≤ 2048)
    (value : body.value = some evidence)
    (later : ∀ bossId health, evidence.transition ≠ .started bossId health) :
    applyEvent authority gauntletAdmitted events replay event =
      applyRecorded replay event evidence := by
  unfold applyEvent
  simp only [payload, Payload.prism?, value, rejectIf, if_neg (not_lt.mpr short), require]
  rcases evidence with ⟨time, confirmed, transition⟩
  cases transition
  case started bossId health => exact absurd rfl (later bossId health)
  all_goals rfl

theorem challengeAdmission_elsewhere
    (elsewhere : event.activityId ≠ some "challenge_prism_discipline") :
    challengeAdmission authority events event = .ok false := by
  rw [challengeAdmission, if_pos elsewhere]
  rfl

/-- In the standard mission the fallen drone admits the boss. -/
theorem admitted_of_drone (mission : event.activityId ≠ some "prism_core" ∧
      event.activityId ≠ some "challenge_prism_discipline")
    (fell : droneFell events event = true) :
    admitted authority gauntletAdmitted events event = .ok true := by
  unfold admitted
  rw [Campaign.prismAdmission_elsewhere mission.1, challengeAdmission_elsewhere mission.2, fell]
  cases gauntletAdmitted <;> rfl

/-! ## A later row does not change how an earlier one reads -/

variable {journal : List ReplayEvent}

theorem droneFell_append {old : ReplayEvent} (later : old.id < event.id) :
    droneFell (journal ++ [event]) old = droneFell journal old := by
  simp only [droneFell, List.any_append, List.any_cons, List.any_nil, Bool.or_false]
  rw [decide_eq_false (by omega), Bool.false_and, Bool.or_false]

theorem challengeAdmission_append {spawn : ReplayEvent} (later : spawn.id < event.id) :
    challengeAdmission authority (journal ++ [event]) spawn =
      challengeAdmission authority journal spawn := by
  have same : (journal ++ [event]).findIdx? (fun event =>
        decide (event.kind = .challengeCheckpoint) && decide (event.id < spawn.id)) =
      journal.findIdx? (fun event =>
        decide (event.kind = .challengeCheckpoint) && decide (event.id < spawn.id)) := by
    rw [List.findIdx?_append, List.findIdx?_singleton, decide_eq_false (p := event.id < spawn.id)
      (by omega), Bool.and_false, if_neg Bool.false_ne_true, Option.map_none, Option.or_none]
  unfold challengeAdmission
  rw [same]
  cases found : journal.findIdx? (fun event =>
      decide (event.kind = .challengeCheckpoint) && decide (event.id < spawn.id)) with
  | none => rfl
  | some index =>
      have inside : index < journal.length := (List.findIdx?_eq_some_iff_getElem.mp found).1
      simp only [require, bind, Except.bind, List.getElem?_append_left inside,
        List.take_append_of_le_length inside.le]

/-- The loop looks at the whole journal only in a start, and there only at the
players who joined and at the rows before it. -/
theorem stable_append (other : event.kind ≠ .playerJoined)
    (later : ∀ old ∈ journal, old.id < event.id) :
    Stable (applyEvent authority gauntletAdmitted) journal [event] := by
  intro old member replay
  unfold applyEvent applyStarted admitted
  simp only [solePlayer_append other, appeared_append _ (later old member),
    Campaign.prismAdmission_append (later old member),
    challengeAdmission_append (later old member), droneFell_append (later old member)]

theorem reads_neutral
    (neutral : ∀ event ∈ journal, event.kind.progressesMain = false ∧ event.payload.prism? = none) :
    Reads (applyEvent authority gauntletAdmitted) .initial journal .initial := by
  refine .of_ignored (fun event member => ?_)
  rw [applyEvent_other (neutral event member).2]
  have kind := (neutral event member).1
  unfold applyOther
  cases same : event.kind <;> simp_all [ReplayEventKind.progressesMain, ReplayState.initial]

end Prism
end Replay
end Revenant
