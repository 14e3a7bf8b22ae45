import Revenant.Combat
import Revenant.Modules
import Revenant.Replay.Event

namespace Revenant
namespace Gateway

open Library Replay

/-!
# The solo session around an optional encounter

An encounter lives inside a session with one participant, an actor registry,
one combat runtime and the durable journal.  The operations here are the parts
every encounter shares: appending a row, resolving the equipped weapon, moving
the player and swapping weapons.

An operation that the source ends with an error before it changed anything is
`none`.  The database decides at each write whether the row is stored; when it
is, it picks the row's identifier and the instant at which the call returns.
-/

inductive SessionStage where
  | waiting
  | drone
  | stabilizer
  | door
  | boss
  | complete
  | failed
  deriving DecidableEq, Repr

/-- The participant with the weapons its admission resolved. -/
structure Participant where
  accountId : String
  actorId : Nat
  encounterCapable : Bool
  bulwarkCapable : Bool
  supportCapable : Bool
  eliteCapable : Bool
  prismCapable : Bool
  weapons : List ModuleWeaponProfile
  maxHealth : Nat
  equipped : WeaponItem
  /-- The loadout and the capabilities the weapons were resolved from. -/
  admitted : ∃ loadout modulesActive contentCapable arsenalCatalog,
    resolvedArsenalProjection loadout modulesActive contentCapable arsenalCatalog =
      .ok (weapons, maxHealth)

namespace Participant

def admittedWeapon (player : Participant) : Option ModuleWeaponProfile :=
  player.weapons.find? (fun weapon => weapon.itemId = player.equipped)

theorem admittedWeapon_damage {player : Participant} {weapon : ModuleWeaponProfile}
    (found : player.admittedWeapon = some weapon) :
    15 ≤ weapon.effectiveDamage ∧ weapon.effectiveDamage ≤ 100 := by
  obtain ⟨loadout, modulesActive, contentCapable, arsenalCatalog, projected⟩ := player.admitted
  exact (bounds_of_projection projected).1 weapon (List.mem_of_find?_eq_some found)

/-- `positioned_attack_profile`: the equipped weapon against a target, at the
distance the registry shows. -/
def positionedAttackProfile (player : Participant) (actors : ActorRegistry)
    (attackerId targetId : Nat) : Except String AttackProfile := do
  let weapon ← require player.admittedWeapon "no admitted weapon"
  let attacker ← require (actors.get attackerId) "attacker missing"
  let target ← require (actors.get targetId) "target missing"
  let damage ← require (positionedDamage weapon.itemId weapon.effectiveDamage
    (attacker.position.squaredDistance target.position))
    "Rail Driver needs at least four units of separation"
  return { damage, range := weapon.effectiveRange, cooldownMs := weapon.effectiveCooldownMs }

/-- Every shot the geometry allows does damage, and not much. -/
theorem positionedAttackProfile_damage {player : Participant} {actors : ActorRegistry}
    {attackerId targetId : Nat} {profile : AttackProfile}
    (resolved : player.positionedAttackProfile actors attackerId targetId = .ok profile) :
    0 < profile.damage ∧ profile.damage ≤ 100 := by
  simp only [positionedAttackProfile, bind_eq_ok, require_eq_ok, pure_eq_ok] at resolved
  obtain ⟨weapon, found, attacker, -, target, -, damage, allowed, rfl⟩ := resolved
  have strong := admittedWeapon_damage found
  have kept := half_le_of_positionedDamage allowed
  change 0 < damage ∧ damage ≤ 100
  omega

end Participant

/-- A session with an encounter of the given kind.  `clock` is the instant up
to which the session has run; every reading of the clock happens there. -/
structure Session (Encounter : Type) where
  sessionId : String
  activityId : String
  bossArchetype : String
  player : Participant
  stage : SessionStage
  choiceOpen : Bool
  actors : ActorRegistry
  combat : CombatRuntime
  combatStarted : Nat
  enemyId : Option Nat
  encounter : Option Encounter
  /-- The state of the last objective update the encounter broadcast. -/
  objective : Option EncounterState
  journal : List ReplayEvent
  clock : Nat

/-- A stored row: its identifier and the instant at which the write returned. -/
structure Write where
  rowId : Int
  returned : Nat
  deriving DecidableEq, Repr

namespace Session

variable {Encounter : Type}

/-- The session at a later instant. -/
def advance (session : Session Encounter) (now : Nat) : Session Encounter :=
  { session with clock := now }

/-- The row `append_event` writes for the owner. -/
def row (session : Session Encounter) (write : Write) (kind : ReplayEventKind)
    (actorId : Option Nat) (payload : Payload) : ReplayEvent :=
  { id := write.rowId, kind, sessionId := session.sessionId, accountId := session.player.accountId
    activityId := some session.activityId, actorId, payload }

def stored (session : Session Encounter) (write : Write) (kind : ReplayEventKind)
    (actorId : Option Nat) (payload : Payload) : Session Encounter :=
  { session with
    journal := session.journal ++ [session.row write kind actorId payload], clock := write.returned }

/-- What the database promises about a write of this session: identifiers grow
and the call does not return before it was made. -/
def Follows (session : Session Encounter) (write : Write) : Prop :=
  session.clock ≤ write.returned ∧ ∀ event ∈ session.journal, event.id < write.rowId

instance (session : Session Encounter) (write : Write) : Decidable (session.Follows write) :=
  inferInstanceAs (Decidable (_ ∧ _))

/-- `append_event`: the row is stored, or nothing happened.  An answer the
database cannot give counts as a refusal. -/
def appendEvent (session : Session Encounter) (write : Option Write) (kind : ReplayEventKind)
    (actorId : Option Nat) (payload : Payload) : Option (Session Encounter) :=
  match write with
  | none => none
  | some write =>
      if session.Follows write then some (session.stored write kind actorId payload) else none

theorem appendEvent_eq_some {session next : Session Encounter} {write : Option Write}
    {kind : ReplayEventKind} {actorId : Option Nat} {payload : Payload} :
    session.appendEvent write kind actorId payload = some next ↔
      ∃ done, write = some done ∧ session.Follows done ∧
        next = session.stored done kind actorId payload := by
  unfold appendEvent
  cases write with
  | none => simp
  | some write =>
      simp only [Option.ite_none_right_eq_some, Option.some.injEq]
      constructor
      · rintro ⟨follows, rfl⟩; exact ⟨write, rfl, follows, rfl⟩
      · rintro ⟨done, rfl, follows, rfl⟩; exact ⟨follows, rfl⟩

/-- An identifier the global actor counter has not returned before. -/
def Fresh (session : Session Encounter) (actorId : Nat) : Prop :=
  0 < actorId ∧ actorId ≤ u64Max ∧ actorId ≠ session.player.actorId ∧
    session.actors.get actorId = none ∧ ∀ event ∈ session.journal, event.actorId ≠ some actorId

instance (session : Session Encounter) (actorId : Nat) : Decidable (session.Fresh actorId) :=
  inferInstanceAs (Decidable (_ ∧ _ ∧ _ ∧ _ ∧ _))

/-- The participant's shot at a target, while the source resolves one. -/
def positionedAttackProfile (session : Session Encounter) (targetId : Nat) :
    Option AttackProfile :=
  (session.player.positionedAttackProfile session.actors session.player.actorId targetId).toOption

theorem positionedAttackProfile_damage {session : Session Encounter} {targetId : Nat}
    {profile : AttackProfile}
    (resolved : session.positionedAttackProfile targetId = some profile) :
    0 < profile.damage ∧ profile.damage ≤ 100 := by
  unfold positionedAttackProfile at resolved
  cases shot : session.player.positionedAttackProfile session.actors session.player.actorId
      targetId with
  | error refused =>
      rw [shot] at resolved
      cases resolved
  | ok allowed =>
      rw [shot] at resolved
      cases resolved
      exact Participant.positionedAttackProfile_damage shot

/-- An attack of the participant on clones of the registry and the combat runtime. -/
def shoot (session : Session Encounter) (targetId elapsedMs : Nat) (profile : AttackProfile) :
    Option (DamageResult × ActorRegistry × CombatRuntime) :=
  match session.combat.attack session.actors session.player.actorId targetId elapsedMs profile with
  | .ok outcome => some outcome
  | .error _ => none

theorem shoot_accepted {session : Session Encounter} {targetId elapsedMs : Nat}
    {profile : AttackProfile} {result : DamageResult} {actors : ActorRegistry}
    {combat : CombatRuntime}
    (shot : session.shoot targetId elapsedMs profile = some (result, actors, combat)) :
    ∃ attacker target, CombatRuntime.Accepted session.combat session.actors session.player.actorId
      targetId elapsedMs profile result actors combat attacker target := by
  unfold shoot at shot
  split at shot
  · next outcome accepted =>
    cases shot
    exact CombatRuntime.attack_ok accepted
  · cases shot

def place (session : Session Encounter) (position : Position) : Session Encounter :=
  { session with actors := session.actors.updatePosition session.player.actorId position }

def validMovementTarget (position : Position) : Prop :=
  position.y = 0 ∧ (-12 ≤ position.x ∧ position.x ≤ 12) ∧ -12 ≤ position.z ∧ position.z ≤ 12

instance (position : Position) : Decidable (validMovementTarget position) :=
  inferInstanceAs (Decidable (_ ∧ _ ∧ _))

def relayDoor : Position := ⟨6, 0, 0⟩

/-- Opening the relay door brings in the mission's own boss. -/
def openRelayDoor (session : Session Encounter) (bossId : Nat) (write : Option Write) :
    Option (Session Encounter) := do
  let (actors, boss) := session.actors.spawn bossId .enemy session.bossArchetype ⟨8, 0, 0⟩ 240
  let session ← session.appendEvent write .bossSpawned (some boss.id)
    (.text ("boss spawned: " ++ session.bossArchetype))
  return { session with
    actors, enemyId := some boss.id, stage := .boss, combat := .default
    combatStarted := session.clock }

/-- `move_player_at` once an encounter was chosen: the route choice is locked,
so no handler but the encounter's own takes the step, and no annex lies west of
the hub.  `handle` answers whether the encounter keeps the player. -/
def movePlayer (handle : Session Encounter → Position → Option Write →
      Option (Bool × Session Encounter))
    (session : Session Encounter) (position : Position) (write doorWrite : Option Write)
    (bossId : Nat) : Option (Session Encounter) :=
  if session.stage = .complete ∨ session.stage = .failed then none
  else
    match session.actors.get session.player.actorId with
    | none => none
    | some player =>
        if position.x < -12 ∨ player.position.x < -12 then some session
        else if ¬ validMovementTarget position then none
        else
          match handle session position write with
          | none => none
          | some (true, session) => some (session.place position)
          | some (false, session) =>
              let session := session.place position
              if session.stage = .door ∧ position = relayDoor then
                -- The position is already updated when the boss row is refused.
                some ((session.openRelayDoor bossId doorWrite).getD session)
              else some session

/-- The encounter leaves the active state and its objective reports how; `over`
is the encounter with the flag cleared. -/
def close (session : Session Encounter) (closing : Encounter) (state : EncounterState) :
    Session Encounter :=
  { session with encounter := some closing, objective := some state }

/-- An enemy leaves the world with the encounter. -/
def withdraw (session : Session Encounter) (actorId : Nat) : Session Encounter :=
  { session with actors := session.actors.destroy actorId, enemyId := none }

/-- An enemy's hit on the player, who had `health` before it.  A hit without
damage changes nothing; a fatal one fails the encounter and the session. -/
def hurtPlayer (session : Session Encounter) (closing : Encounter) (playerId health damage : Nat) :
    Session Encounter :=
  if damage = 0 then session
  else
    let session := { session with actors := session.actors.applyDamage playerId damage }
    if health - damage = 0 then { session.close closing .failed with stage := .failed } else session

/-- One description of both kinds of hit for a living player. -/
theorem hurtPlayer_eq (session : Session Encounter) (closing : Encounter) (playerId : Nat)
    {health : Nat} (damage : Nat) (alive : health ≠ 0) :
    session.hurtPlayer closing playerId health damage =
      { session with
        actors := session.actors.applyDamage playerId damage
        encounter := if health - damage = 0 then some closing else session.encounter
        objective := if health - damage = 0 then some .failed else session.objective
        stage := if health - damage = 0 then .failed else session.stage } := by
  unfold hurtPlayer
  by_cases harmless : damage = 0
  · subst harmless
    simp [alive]
  · rw [if_neg harmless]
    by_cases fatal : health - damage = 0
    · simp only [fatal, if_true, close]
    · simp only [fatal, if_false]

/-- `equip_weapon` for an item the participant owns. -/
def equipWeapon (session : Session Encounter) (item : WeaponItem) (write : Option Write) :
    Option (Session Encounter) :=
  if session.stage = .complete ∨ session.stage = .failed then none
  else do
    let session ← session.appendEvent write .equipmentChanged (some session.player.actorId)
      (.text ("weapon equipped: " ++ item.itemId))
    return { session with player := { session.player with equipped := item } }

end Session
end Gateway
end Revenant
