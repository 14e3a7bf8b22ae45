import Revenant.Activities.Coolant
import Revenant.Activities.Meridian
import Revenant.Ai.Elite
import Revenant.Ai.Prism
import Revenant.Gateway.Session
import Revenant.Replay.FieldActivity

namespace Revenant
namespace Gateway

open Library Replay Activities
open Activities.Coolant (Attempt Observation)
open Activities.Meridian (Expedition)
open Replay.FieldActivity (coolantRow)

/-!
# The live field activities

A solo session with its route choice open may enter the coolant run or the
Meridian annex.  Either one locks the choice.  The coolant run is shown where its
player is at every move and at every tick; the annex is visited by moving onto
its stations, and the rows of a visit are written before the position changes.
-/

/-- `seen` is what the attempt was shown, and `attempt` holds the run. -/
structure CoolantEncounter where
  playerId : Nat
  startedAt : Nat
  attempt : Attempt
  seen : List Observation
  deriving DecidableEq

inductive FieldEncounter where
  | coolant (encounter : CoolantEncounter)
  | meridian (expedition : Expedition)
  deriving DecidableEq

abbrev FieldSession := Session FieldEncounter

/-- What the participant opted into. -/
structure FieldCapabilities where
  contentCapable : Bool
  explorationCapable : Bool
  deriving DecidableEq

/-- The run adopts what it proposed, unless the row of a new phase was refused. -/
def CoolantEncounter.observe (encounter : CoolantEncounter) (observation : Observation) :
    CoolantEncounter :=
  { encounter with
    attempt := encounter.attempt.observe observation, seen := encounter.seen ++ [observation] }

/-- The row of a phase the run enters. -/
def phaseRow : Coolant.Phase → Payload
  | .transfer => coolantRow "started"
  | .delivery => coolantRow "transfer"
  | .completed => coolantRow "completed"
  | .expired => coolantRow "expired"

namespace FieldSession

variable (capabilities : FieldCapabilities)

def withCoolant (session : FieldSession) (encounter : CoolantEncounter) : FieldSession :=
  { session with encounter := some (.coolant encounter) }

/-! ## The coolant run -/

def coolantAvailable (session : FieldSession) : Bool :=
  decide (session.stage = .door) && capabilities.contentCapable && session.choiceOpen

/-- An expired attempt may be tried again. -/
def coolantRetry (session : FieldSession) : Bool :=
  decide (session.stage = .door) &&
    match session.encounter with
    | some (.coolant encounter) => decide (encounter.attempt.run.phase = .expired)
    | _ => false

def startCoolant (session : FieldSession) (write : Option Write) : Option FieldSession := do
  let retry := session.coolantRetry
  let session ← session.appendEvent write .fieldActivity (some session.player.actorId)
    (coolantRow "started")
  return { session with
    choiceOpen := if retry then session.choiceOpen else false
    encounter := some (.coolant
      { playerId := session.player.actorId, startedAt := session.clock
        attempt := Attempt.begin, seen := [] }) }

/-- The session after the observation and whether its row was stored; a refused
row ends the operation with an error. -/
def tickCoolantAt (session : FieldSession) (write : Option Write) (elapsedMs : Nat) :
    FieldSession × Bool :=
  match session.encounter with
  | some (.coolant encounter) =>
      match session.actors.get encounter.playerId with
      | none => (session, true)
      | some player =>
          let proposed := (encounter.attempt.run.update player.position elapsedMs).1
          let observation (stored : Bool) : Observation :=
            { position := player.position, elapsedMs, stored }
          if proposed.phase = encounter.attempt.run.phase then
            (session.withCoolant (encounter.observe (observation true)), true)
          else
            match session.appendEvent write .fieldActivity (some encounter.playerId)
                (phaseRow proposed.phase) with
            | some session => (withCoolant session (encounter.observe (observation true)), true)
            | none => (session.withCoolant (encounter.observe (observation false)), false)
  | _ => (session, true)

def tickCoolant (session : FieldSession) (write : Option Write) : FieldSession × Bool :=
  match session.encounter with
  | some (.coolant encounter) =>
      session.tickCoolantAt write (elapsedMillis encounter.startedAt session.clock)
  | _ => (session, true)

def coolantRunning (session : FieldSession) : Bool :=
  match session.encounter with
  | some (.coolant encounter) =>
      decide (encounter.attempt.run.phase = .transfer ∨ encounter.attempt.run.phase = .delivery)
  | _ => false

/-- `none` when a row was refused, and whether the run keeps the player. -/
def handleCoolantMovement (session : FieldSession) (position : Position) (write : Option Write) :
    FieldSession × Option Bool :=
  if position = Coolant.intake ∧
      (session.coolantRetry = true ∨ session.coolantAvailable capabilities = true) then
    match session.startCoolant write with
    | some session => (session, some true)
    | none => (session, none)
  else
    match session.tickCoolant write with
    | (session, true) => (session, some session.coolantRunning)
    | (session, false) => (session, none)

/-! ## The annex -/

def meridianTraversalAvailable (session : FieldSession) : Bool :=
  decide (session.stage = .door) && capabilities.explorationCapable &&
    match session.encounter with
    | none => session.choiceOpen
    | some (.meridian _) => true
    | some (.coolant _) => false

/-- The threshold is entered once, and each station writes its row first. -/
def handleMeridianMovement (session : FieldSession) (position : Position) (write : Option Write) :
    Option FieldSession :=
  if session.meridianTraversalAvailable capabilities then
    match session.encounter with
    | some (.meridian expedition) =>
        match expedition.visit position with
        | none => some session
        | some (after, payload, _) => do
            let session ← session.appendEvent write .fieldActivity (some session.player.actorId)
              (.text payload)
            return { session with encounter := some (.meridian after) }
    | _ =>
        if position = Meridian.entrance then do
          let session ← session.appendEvent write .fieldActivity (some session.player.actorId)
            Replay.FieldActivity.started
          return { session with
            choiceOpen := false, encounter := some (.meridian Expedition.start) }
        else some session
  else some session

/-! ## Moving -/

/-- The relay door locks an open choice and spawns the boss; the boss stays in
the world when its row is refused. -/
def enterDoor (session : FieldSession) (bossId : Nat) (write : Option Write) : FieldSession :=
  let session := { session with choiceOpen := false }
  match session.openRelayDoor bossId write with
  | some session => session
  | none => { session with
      actors := (session.actors.spawn bossId .enemy session.bossArchetype ⟨8, 0, 0⟩ 240).1 }

/-- A step that no wall stops. -/
def takeStep (session : FieldSession) (position : Position)
    (meridianWrite coolantWrite doorWrite : Option Write) (bossId : Nat) : Option FieldSession := do
  let session ← session.handleMeridianMovement capabilities position meridianWrite
  let session : FieldSession := session.place position
  match session.handleCoolantMovement capabilities position coolantWrite with
  | (session, some false) =>
      return if session.stage = .door ∧ position = Session.relayDoor then
          session.enterDoor bossId doorWrite
        else session
  | (session, _) => return session

/-- `move_player_at`; `none` is an error before anything changed. -/
def movePlayerAt (session : FieldSession) (position : Position)
    (meridianWrite coolantWrite doorWrite : Option Write) (bossId : Nat) : Option FieldSession :=
  if session.stage = .complete ∨ session.stage = .failed then none
  else
    match session.actors.get session.player.actorId with
    | none => none
    | some player =>
        if position.x < -12 ∨ player.position.x < -12 then
          let inside := match session.encounter with
            | some (.meridian _) => true
            | _ => false
          if inside && session.meridianTraversalAvailable capabilities &&
              Meridian.validStep player.position position then
            session.takeStep capabilities position meridianWrite coolantWrite doorWrite bossId
          else some session
        else if ¬ Session.validMovementTarget position then none
        else session.takeStep capabilities position meridianWrite coolantWrite doorWrite bossId

/-- Where another optional encounter would take the step while the choice is open;
the last one is the approach of the signal excursion. -/
def otherEntrances : List Position :=
  [Ai.Lancer.entrance, Ai.Bulwark.entrance, Ai.Support.entrance, Ai.Prism.entrance,
    Ai.Elite.EliteComposition.bastionLink.entrance, Ai.Elite.EliteComposition.crossedGuard.entrance,
    ⟨-4, 0, 4⟩]

/-- The steps of a session around the field activities. -/
inductive Step (session next : FieldSession) : Prop
  | move (now : Nat) (position : Position) (meridianWrite coolantWrite doorWrite : Option Write)
      (bossId : Nat) (later : session.clock ≤ now) (fresh : session.Fresh bossId)
      (elsewhere : session.choiceOpen = true → position ∉ otherEntrances)
      (moved : FieldSession.movePlayerAt capabilities (session.advance now) position meridianWrite
        coolantWrite doorWrite bossId = some next)
  | tick (now : Nat) (write : Option Write) (later : session.clock ≤ now)
      (ticked : (FieldSession.tickCoolant (session.advance now) write).1 = next)

end FieldSession
end Gateway
end Revenant
