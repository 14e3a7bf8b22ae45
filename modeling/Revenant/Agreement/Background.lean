import Revenant.Gateway.Session
import Revenant.Library.EventFold
import Revenant.Persistence.Modules

namespace Revenant
namespace Agreement

open Library Replay Gateway

/-!
# What every solo encounter shares

The journal of a solo session names one player and holds nothing an encounter
forbids.  Rows of other kinds keep it so, and a later row of the owner finds
that player.

A session that opens an encounter has a past.  Its players joined, with a row
of their modules, they fought the drone group and a route was chosen;
`isPrelude` lists the rows such a past is made of, and `clearedSession` is a
session that has one.
-/

/-- One player joined, who owns the session, and no event is foreign to `own`. -/
structure SoloJournal (own : Payload → Bool) (accountId : String) (actorId : Nat)
    (journal : List ReplayEvent) : Prop where
  joined : ∃ player ∈ journal, Replay.joined journal = [player] ∧
    player.accountId = accountId ∧ player.actorId = some actorId
  clean : ∀ event ∈ journal, foreign own event = false

namespace SoloJournal

variable {own : Payload → Bool} {accountId : String} {actorId : Nat} {journal : List ReplayEvent}

theorem append (solo : SoloJournal own accountId actorId journal) {event : ReplayEvent}
    (other : event.kind ≠ .playerJoined) (kept : foreign own event = false) :
    SoloJournal own accountId actorId (journal ++ [event]) := by
  obtain ⟨player, member, only, owner, actor⟩ := solo.joined
  refine ⟨⟨player, List.mem_append_left _ member, ?_, owner, actor⟩, ?_⟩
  · rw [joined_append other, only]
  · intro old oldMember
    rcases List.mem_append.mp oldMember with earlier | last
    · exact solo.clean old earlier
    · rw [List.mem_singleton.mp last]
      exact kept

/-- A later row of the owner finds the player. -/
theorem solePlayer (solo : SoloJournal own accountId actorId journal) {event : ReplayEvent}
    (other : event.kind ≠ .playerJoined) (owner : event.accountId = accountId)
    (later : ∀ old ∈ journal, old.id < event.id) :
    Replay.solePlayer (journal ++ [event]) event = some actorId := by
  obtain ⟨player, member, only, account, actor⟩ := solo.joined
  simp only [Replay.solePlayer, joined_append other, only, account, owner, later player member,
    and_self, if_true, actor]

theorem not_foreign (solo : SoloJournal own accountId actorId journal) :
    ¬ ∃ event ∈ journal, foreign own event = true := by
  rintro ⟨event, member, isForeign⟩
  rw [solo.clean event member] at isForeign
  cases isForeign

end SoloJournal

/-! ## The session in which an encounter can be chosen -/

variable {Encounter : Type}

/-- A row a standard solo session may have written before its route choice
opened.  The player joined, which leaves a row of text and the snapshot of the
player's modules behind it, prepared with loadouts, combinations, claims and
weapons, and started the mission; the drones were spawned and cleared. -/
def isPrelude (event : ReplayEvent) : Bool :=
  match event.kind with
  | .playerJoined | .equipmentChanged | .activityStarted =>
      match event.payload with
      | .text _ => true
      | _ => false
  | .moduleStateSnapshot | .moduleCombined | .moduleLoadoutChanged =>
      match event.payload with
      | .module _ => true
      | _ => false
  | .acquisitionClaimed =>
      match event.payload with
      | .acquisition _ => true
      | _ => false
  | .enemySpawned => decide (event.payload = .text "enemy spawned: relay-drone")
  | .enemyDied => decide (event.payload = .text "enemy died: relay-drone")
  | _ => false

/-- The session with its route choice open: the player alive behind the cleared
drones, no encounter yet. -/
structure Opened (session : Session Encounter) : Prop where
  /-- The activity is the mission's, not a chapter's or a challenge's. -/
  mission : session.activityId ≠ "prism_core" ∧
    session.activityId ≠ "challenge_prism_discipline"
  stage : session.stage = .door
  choice : session.choiceOpen = true
  unchosen : session.encounter = none
  unreported : session.objective = none
  joined : ∃ player ∈ session.journal, Replay.joined session.journal = [player] ∧
    player.accountId = session.player.accountId ∧ player.actorId = some session.player.actorId
  prelude : ∀ event ∈ session.journal, isPrelude event = true
  cleared : ∃ event ∈ session.journal, event.kind = .enemyDied ∧
    event.payload = .text "enemy died: relay-drone"
  alive : ∃ player, session.actors.get session.player.actorId = some player ∧
    player.kind = .player ∧ 0 < player.health ∧ player.health ≤ session.player.maxHealth

variable {session : Session Encounter}

theorem Opened.health (opened : Opened session) {player : Actor}
    (found : session.actors.get session.player.actorId = some player) :
    0 < player.health ∧ player.health ≤ u32Max := by
  obtain ⟨alive, aliveFound, -, positive, healthy⟩ := opened.alive
  cases aliveFound.symm.trans found
  obtain ⟨loadout, modulesActive, contentCapable, arsenalCatalog, projected⟩ :=
    session.player.admitted
  have bound := (bounds_of_projection projected).2.2
  refine ⟨positive, ?_⟩
  unfold u32Max
  omega

/-- Nothing of the prelude moves the main mission, and what it carries is a text
or the evidence of modules or of a claim, never that of an encounter. -/
theorem plain_of_prelude {event : ReplayEvent} (early : isPrelude event = true) :
    event.kind.progressesMain = false ∧
      ((∃ value, event.payload = .text value) ∨ (∃ modules, event.payload = .module modules) ∨
        ∃ claim, event.payload = .acquisition claim) := by
  unfold isPrelude at early
  cases kind : event.kind <;> cases payload : event.payload <;>
    simp_all [ReplayEventKind.progressesMain]

/-- A joining that the store commits appends rows of the prelude and no others. -/
theorem prelude_of_join {jsonBytes : ModuleReplayPayload → Nat} {store after : Persistence.ModuleStore}
    {characterId : String} {context : Persistence.ModuleReplayContext}
    {generation : ReplayProtocolGeneration}
    (joins : Persistence.appendPlayerJoinedWithModuleSnapshot jsonBytes store characterId context
      generation = .ok after) :
    ∃ rows, after.journal = store.journal ++ rows ∧ ∀ row ∈ rows, isPrelude row = true := by
  obtain ⟨snapshot, rfl⟩ := Persistence.join_appends joins
  refine ⟨_, List.append_assoc _ _ _, ?_⟩
  intro row member
  rcases List.mem_append.mp member with joined | followed
  · rw [List.mem_singleton.mp joined]
    rfl
  · rw [List.mem_singleton.mp followed]
    rfl

theorem foreign_of_prelude {event : ReplayEvent} (early : isPrelude event = true)
    (own : Payload → Bool) : foreign own event = false := by
  unfold isPrelude at early
  unfold foreign
  cases kind : event.kind <;> simp_all [ReplayEventKind.isRouteEvent,
    ReplayEventKind.isCooperationEvent]

theorem Opened.solo (opened : Opened session) (own : Payload → Bool) :
    SoloJournal own session.player.accountId session.player.actorId session.journal :=
  ⟨opened.joined, fun event member => foreign_of_prelude (opened.prelude event member) own⟩

/-- An unmodified participant under the first weapon catalog, capable of every
encounter. -/
def unmodifiedParticipant : Participant :=
  { accountId := "account", actorId := 1, encounterCapable := true, bulwarkCapable := true
    supportCapable := true, eliteCapable := true, prismCapable := true
    weapons := [⟨.pulseRifle, 40, 6, 250⟩, ⟨.arcSidearm, 25, 8, 150⟩], maxHealth := 100
    equipped := .pulseRifle
    admitted := ⟨[], false, false, none, rfl⟩ }

/-- The snapshot a joining leaves of a player without fragments and modules. -/
def unmodifiedSnapshot : Payload :=
  .module
    { value := (moduleStateEvidence 0 [] [] 0 .v2).toOption.map (fun state =>
        .stateSnapshot
          { schemaVersion := moduleReplaySchemaVersion, characterId := "account:operator"
            protocolGeneration := .v2, state })
      length := 1800 }

/-- A session that cleared its one drone and stands at the hub.  Its journal
begins with the two rows of the joining. -/
def clearedSession : Session Encounter :=
  let row (id : Int) (kind : ReplayEventKind) (actorId : Option Nat) (payload : Payload) :=
    { id, kind, sessionId := "session", accountId := "account", activityId := some "relay"
      actorId, payload : ReplayEvent }
  { sessionId := "session", activityId := "relay", bossArchetype := "relay-warden"
    player := unmodifiedParticipant, stage := .door, choiceOpen := true
    actors := (ActorRegistry.empty.spawn 1 .player "revenant" ⟨0, 0, 0⟩ 100).1
    combat := .default, combatStarted := 0, enemyId := none, encounter := none, objective := none
    journal :=
      [row 1 .playerJoined (some 1) (.text "player joined"),
        row 2 .moduleStateSnapshot (some 1) unmodifiedSnapshot,
        row 3 .activityStarted none (.text "activity started"),
        row 4 .enemySpawned (some 2) (.text "enemy spawned: relay-drone"),
        row 5 .enemyDied (some 2) (.text "enemy died: relay-drone")]
    clock := 0 }

/-- The first two rows are what the joining of the player appends to an empty store. -/
theorem clearedSession_joined : ∃ after,
    Persistence.appendPlayerJoinedWithModuleSnapshot (fun _ => 1800)
        { modules := fun _ => ⟨0, ∅, [], 0, [], []⟩, journal := [], sequence := 1 }
        "account:operator"
        { catalogRevision := none, sessionId := "session", account := ⟨"account", by decide⟩
          activityId := "relay", actorId := 1 } .v2 = .ok after ∧
      after.journal = (clearedSession : Session Unit).journal.take 2 :=
  ⟨_, rfl, rfl⟩

theorem clearedSession_prelude :
    ∀ event ∈ (clearedSession : Session Unit).journal, isPrelude event = true := by
  have mission : ∀ event ∈ (clearedSession : Session Unit).journal.drop 2,
      isPrelude event = true := by decide
  intro event member
  obtain ⟨after, joins, written⟩ := clearedSession_joined
  obtain ⟨rows, grown, early⟩ := prelude_of_join joins
  rw [← List.take_append_drop 2 (clearedSession : Session Unit).journal, ← written, grown] at member
  rcases List.mem_append.mp member with joined | later
  · exact early event joined
  · exact mission event later

theorem clearedSession_opened : Opened (clearedSession : Session Encounter) :=
  { mission := ⟨by simp [clearedSession], by simp [clearedSession]⟩
    stage := rfl
    choice := rfl
    unchosen := rfl
    unreported := rfl
    joined := ⟨_, List.mem_cons_self, rfl, rfl, rfl⟩
    prelude := clearedSession_prelude
    cleared := by
      change ∃ event ∈ (clearedSession : Session Unit).journal, event.kind = .enemyDied ∧
        event.payload = .text "enemy died: relay-drone"
      decide
    alive := ⟨_, rfl, rfl, Nat.succ_pos 99, Nat.le_refl 100⟩ }

/-! ## What the operations leave alone -/

variable {position : Position}

/-- A player that moved is the old one at another place. -/
theorem get_place_player {player : Actor}
    (found : (session.place position).actors.get session.player.actorId = some player) :
    ∃ old, session.actors.get session.player.actorId = some old ∧
      { old with position } = player := by
  simpa only [Session.place, ActorRegistry.get_updatePosition, if_true, Option.map_eq_some_iff]
    using found

variable {actorId : Nat}

theorem get_place_other (other : actorId ≠ session.player.actorId) :
    (session.place position).actors.get actorId = session.actors.get actorId := by
  simp only [Session.place, ActorRegistry.get_updatePosition, if_neg other]

/-- The mission's boss comes in as an actor of its own. -/
theorem get_boss_other (session : Session Encounter) {bossId : Nat} (other : bossId ≠ actorId) :
    (session.actors.spawn bossId .enemy session.bossArchetype ⟨8, 0, 0⟩ 240).1.get actorId =
      session.actors.get actorId := by
  simp only [ActorRegistry.spawn, ActorRegistry.get_insert, if_neg (Ne.symm other)]

/-- An actor that a journal names is named in every longer one. -/
theorem named_mono {journal later : List ReplayEvent}
    (named : ∃ event ∈ journal, event.actorId = some actorId)
    (older : ∀ event ∈ journal, event ∈ later) : ∃ event ∈ later, event.actorId = some actorId := by
  obtain ⟨event, member, actor⟩ := named
  exact ⟨event, older event member, actor⟩

theorem named_append {journal : List ReplayEvent}
    (named : ∃ event ∈ journal, event.actorId = some actorId) (rows : List ReplayEvent) :
    ∃ event ∈ journal ++ rows, event.actorId = some actorId :=
  named_mono named (fun _ member => List.mem_append_left rows member)

/-- The counter never answers with an actor that the journal names. -/
theorem ne_of_fresh {allocated : Nat} (fresh : session.Fresh allocated)
    (named : ∃ event ∈ session.journal, event.actorId = some actorId) : allocated ≠ actorId := by
  obtain ⟨event, member, actor⟩ := named
  rintro rfl
  exact fresh.2.2.2.2 event member actor

/-! ## Moving the player -/

variable {next : Session Encounter} {write : Option Write}

theorem openRelayDoor_eq_some {bossId : Nat}
    (opened : session.openRelayDoor bossId write = some next) :
    ∃ done, session.Follows done ∧
      next = { session.stored done .bossSpawned (some bossId)
                (.text ("boss spawned: " ++ session.bossArchetype)) with
        actors := (session.actors.spawn bossId .enemy session.bossArchetype ⟨8, 0, 0⟩ 240).1
        enemyId := some bossId, stage := .boss, combat := .default
        combatStarted := done.returned } := by
  simp only [Session.openRelayDoor, Option.bind_eq_bind, Option.bind_eq_some_iff,
    Session.appendEvent_eq_some, Option.pure_def, Option.some.injEq] at opened
  obtain ⟨_, ⟨done, -, follows, rfl⟩, rfl⟩ := opened
  exact ⟨done, follows, rfl⟩

/-- What a move preserves follows from what its two parts preserve: the
encounter's own handler with the new position, and the relay door when the
handler released the player. -/
theorem movePlayer_preserves (Good Released : Session Encounter → Prop)
    {handle : Session Encounter → Position → Option Write → Option (Bool × Session Encounter)}
    {doorWrite : Option Write} {bossId : Nat}
    (moved : session.movePlayer handle position write doorWrite bossId = some next)
    (good : Good session)
    (handled : ∀ stays after, handle session position write = some (stays, after) →
      session.stage ≠ .failed →
        Good (after.place position) ∧ (stays = false → Released (after.place position)))
    (opened : ∀ before after, Good before → Released before → before.stage = .door →
      position = Session.relayDoor → before.openRelayDoor bossId doorWrite = some after →
        Good after) : Good next := by
  unfold Session.movePlayer at moved
  split at moved
  · cases moved
  · next running =>
    have alive : session.stage ≠ .failed := fun failed => running (Or.inr failed)
    split at moved
    · cases moved
    · next player _ =>
      split at moved
      · cases moved
        exact good
      · split at moved
        · cases moved
        · split at moved
          · cases moved
          · next after kept =>
            cases moved
            exact (handled true after kept alive).1
          · next after freed =>
            obtain ⟨goodAfter, released⟩ := handled false after freed alive
            simp only at moved
            split at moved
            · next door =>
              cases moved
              cases answer : (after.place position).openRelayDoor bossId doorWrite with
              | none => exact goodAfter
              | some final =>
                  exact opened _ final goodAfter (released rfl) door.1 door.2 answer
            · cases moved
              exact goodAfter

theorem equipWeapon_eq_some {item : WeaponItem}
    (equipped : session.equipWeapon item write = some next) :
    ∃ done, session.Follows done ∧
      next = { session.stored done .equipmentChanged (some session.player.actorId)
                (.text ("weapon equipped: " ++ item.itemId)) with
        player := { session.player with equipped := item } } := by
  unfold Session.equipWeapon at equipped
  split at equipped
  · cases equipped
  · simp only [Option.bind_eq_bind, Option.bind_eq_some_iff, Session.appendEvent_eq_some,
      Option.pure_def, Option.some.injEq] at equipped
    obtain ⟨_, ⟨done, -, follows, rfl⟩, rfl⟩ := equipped
    exact ⟨done, follows, rfl⟩

/-! ## After the encounter -/

/-- From `session` to `later` the encounter stood still: its state and its
report are the same, and no row of an encounter was written. -/
structure Quiet (session later : Session Encounter) : Prop where
  encounter : later.encounter = session.encounter
  objective : later.objective = session.objective
  journal : ∃ rows, later.journal = session.journal ++ rows ∧
    ∀ row ∈ rows, row.kind = .bossSpawned ∨ row.kind = .equipmentChanged

namespace Quiet

variable {session middle later : Session Encounter}

theorem refl (session : Session Encounter) : Quiet session session :=
  ⟨rfl, rfl, [], (List.append_nil _).symm, fun _ member => by cases member⟩

theorem trans (first : Quiet session middle) (second : Quiet middle later) :
    Quiet session later := by
  obtain ⟨rows, grown, kinds⟩ := first.journal
  obtain ⟨rows', grown', kinds'⟩ := second.journal
  refine ⟨second.encounter.trans first.encounter, second.objective.trans first.objective,
    rows ++ rows', by rw [grown', grown, List.append_assoc], ?_⟩
  intro row member
  rcases List.mem_append.mp member with earlier | later
  · exact kinds row earlier
  · exact kinds' row later

theorem of_advance {now : Nat} (quiet : Quiet (session.advance now) later) : Quiet session later :=
  ⟨quiet.encounter, quiet.objective, quiet.journal⟩

theorem of_movePlayer
    {handle : Session Encounter → Position → Option Write → Option (Bool × Session Encounter)}
    {position : Position} {write doorWrite : Option Write} {bossId : Nat}
    (moved : session.movePlayer handle position write doorWrite bossId = some later)
    (idle : handle session position write = some (false, session)) : Quiet session later := by
  refine movePlayer_preserves (Quiet session) (fun _ => True) moved (refl session) ?_ ?_
  · intro stays after handled _
    rw [idle] at handled
    cases handled
    exact ⟨⟨rfl, rfl, [], (List.append_nil _).symm, fun _ member => by cases member⟩,
      fun _ => trivial⟩
  · intro before after good _ _ _ opened
    obtain ⟨done, -, rfl⟩ := openRelayDoor_eq_some opened
    refine good.trans ⟨rfl, rfl, _, rfl, ?_⟩
    intro row member
    rw [List.mem_singleton.mp member]
    exact Or.inl rfl

theorem of_equipWeapon {item : WeaponItem} {write : Option Write}
    (equipped : session.equipWeapon item write = some later) : Quiet session later := by
  obtain ⟨done, -, rfl⟩ := equipWeapon_eq_some equipped
  refine ⟨rfl, rfl, _, rfl, ?_⟩
  intro row member
  rw [List.mem_singleton.mp member]
  exact Or.inr rfl

/-- Steps that are quiet once the encounter is over stay quiet for a whole run. -/
theorem run {Step : Session Encounter → Session Encounter → Prop} (Over : Encounter → Prop)
    (quiet : ∀ before after encounter, Step before after → before.encounter = some encounter →
      Over encounter → Quiet before after)
    {encounter : Encounter} (chosen : session.encounter = some encounter) (isOver : Over encounter)
    (path : Relation.ReflTransGen Step session later) : Quiet session later := by
  induction path with
  | refl => exact refl session
  | tail _ step inductionHypothesis =>
      exact inductionHypothesis.trans
        (quiet _ _ encounter step (inductionHypothesis.encounter.trans chosen) isOver)

end Quiet

end Agreement
end Revenant
