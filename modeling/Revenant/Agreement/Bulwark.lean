import Revenant.Agreement.Background
import Revenant.Gateway.Bulwark

namespace Revenant
namespace Agreement

open Library Replay Gateway

/-!
# The solo Bulwark: live session and replay

Every shot is a row here, so the relation also carries the enemy's health and
keeps the fighting player inside the arena.

`facing` and `braced` are equalities, because the damage of a shot depends on
them; `due` and `time` are inequalities, because only the live side adds the
delay of a write.
-/

namespace Bulwark

open Ai Ai.Bulwark

/-- The chosen encounter against the validator's variables: who takes part, the
stance and the time from which the next action is due, and both healths, the
enemy's included. -/
structure Fight (session : BulwarkSession) (encounter : BulwarkEncounter)
    (replay : Replay.Bulwark.ReplayState) : Prop where
  player : encounter.playerId = session.player.actorId
  apart : encounter.enemyId ≠ session.player.actorId
  spawned : ∃ event ∈ session.journal, event.actorId = some encounter.enemyId
  admitted : replay.encounter = some (session.player.accountId, some encounter.enemyId)
  playerActor : replay.playerId = some session.player.actorId
  active : encounter.active = true ↔ session.objective = some .active
  onDoor : encounter.active = true → session.stage = .door
  clocks : encounter.active = true → session.combatStarted = encounter.startedAt
  inside : encounter.active = true → ∀ player,
    session.actors.get session.player.actorId = some player → arenaContains player.position
  facing : replay.facing = encounter.ai.facing
  braced : replay.braced = encounter.ai.braced
  due : replay.readyAt ≤ encounter.ai.readyAtMs
  time : replay.lastTime ≤ elapsedMillis encounter.startedAt session.clock
  enemyBound : replay.enemyHealth ≤ health
  enemy : ∀ enemy, session.actors.get encounter.enemyId = some enemy →
    enemy.health = replay.enemyHealth
  health : ∀ health, replay.playerHealth = some health →
    (∀ player, session.actors.get session.player.actorId = some player → player.health = health) ∧
      (health = 0 → session.stage = .failed)

/-- The simulation relation. -/
structure Related (session : BulwarkSession) (replay : Replay.Bulwark.ReplayState) : Prop where
  solo : SoloJournal Replay.Bulwark.own session.player.accountId session.player.actorId
    session.journal
  bounded : ∀ player, session.actors.get session.player.actorId = some player →
    player.health ≤ u32Max
  state : replay.state = session.objective
  before : session.encounter = none → replay = .initial
  fight : ∀ encounter, session.encounter = some encounter → Fight session encounter replay

variable {session next : BulwarkSession} {replay : Replay.Bulwark.ReplayState}
  {encounter : BulwarkEncounter}

abbrev Moves (session next : BulwarkSession) (replay : Replay.Bulwark.ReplayState) : Prop :=
  Matches Replay.Bulwark.applyEvent Session.journal Related session next replay

theorem Related.advance (related : Related session replay) {now : Nat}
    (later : session.clock ≤ now) : Related (session.advance now) replay :=
  { solo := related.solo
    bounded := related.bounded
    state := related.state
    before := related.before
    fight := fun encounter chosen =>
      { related.fight encounter chosen with
        time := le_trans (related.fight encounter chosen).time (elapsedMillis_mono _ later) } }

/-- A step that an active encounter keeps stays in its arena. -/
theorem Related.place (related : Related session replay) {position : Position}
    (stays : ∀ encounter, session.encounter = some encounter → encounter.active = true →
      arenaContains position) : Related (session.place position) replay := by
  refine
    { solo := related.solo
      bounded := ?_
      state := related.state
      before := related.before
      fight := ?_ }
  · intro player found
    obtain ⟨old, oldFound, rfl⟩ := get_place_player found
    exact related.bounded old oldFound
  · intro encounter chosen
    have fight := related.fight encounter chosen
    refine { fight with inside := ?_, enemy := ?_, health := ?_ }
    · intro active player found
      obtain ⟨old, -, rfl⟩ := get_place_player found
      exact stays encounter chosen active
    · intro enemy found
      exact fight.enemy enemy ((get_place_other fight.apart).symm.trans found)
    · intro health known
      refine ⟨?_, (fight.health health known).2⟩
      intro player found
      obtain ⟨old, oldFound, rfl⟩ := get_place_player found
      exact (fight.health health known).1 old oldFound

/-! ## Rows of the encounter -/

theorem wordPosition_of_arena {place : Position} (inside : arenaContains place) :
    WordPosition place :=
  wordPosition_of_small (by simp only [arenaContains] at inside; omega) inside.1
    (by simp only [arenaContains] at inside; omega)

variable {stored : BulwarkSession} {write : Option Write}

/-- A stored evidence row that the validator accepts is one recorded move. -/
theorem moves_recorded {evidence : BulwarkEvidence} {killed : Bool}
    {middle : Replay.Bulwark.ReplayState} {time : Nat} (related : Related session replay)
    (fight : Fight session encounter replay) (active : encounter.active = true)
    (recorded : session.recordBulwark encounter write evidence killed = some stored)
    (fatal : killed = true → Replay.Bulwark.isFatal evidence = true) (words : evidence.toJson.Words)
    (applied : Replay.Bulwark.applyEvidence replay killed evidence = .ok (middle, time))
    (later : replay.lastTime ≤ time) (journal : next.journal = stored.journal)
    (kept : (∀ event ∈ session.journal, event ∈ next.journal) →
      SoloJournal Replay.Bulwark.own session.player.accountId session.player.actorId next.journal →
        Related next { middle with lastTime := time }) : Moves session next replay := by
  have short := encodeBulwarkEvidence_length words
  have activeState : replay.state = some .active := related.state.trans (fight.active.mp active)
  have accepted : ∀ done : Write, ∀ event : ReplayEvent,
      event = session.row done (if killed then .enemyDied else .fieldActivity)
        (some (if killed then encounter.enemyId else encounter.playerId))
        (.bulwark (encodeBulwarkEvidence evidence)) →
      Replay.Bulwark.applyEvent (session.journal ++ [event]) replay event =
        .ok { middle with lastTime := time } := by
    rintro done event rfl
    rw [Replay.Bulwark.applyEvent_recorded (encodeBulwarkEvidence evidence)
      (by cases killed <;> simp [Session.row]) rfl]
    simp only [Replay.Bulwark.applyRecorded, bind_eq_ok, rejectIf_eq_ok, exists_const,
      require_eq_ok, pure_eq_ok, Session.row, fight.admitted, fight.playerActor, fight.player,
      activeState]
    refine ⟨?_, evidence, rfl, ?_, (middle, time), ?_, by omega, rfl⟩
    · cases killed <;> simp <;> omega
    · cases killed <;> simp [fatal]
    · cases killed <;> exact applied
  have extends' : ∀ event : ReplayEvent, event.kind ≠ .playerJoined →
      foreign Replay.Bulwark.own event = false → next.journal = session.journal ++ [event] →
      Related next { middle with lastTime := time } := by
    intro event other clean grown
    refine kept ?_ ?_
    · intro old member
      rw [grown]
      exact List.mem_append_left _ member
    · rw [grown]
      exact related.solo.append other clean
  unfold BulwarkSession.recordBulwark at recorded
  cases killed with
  | true =>
      obtain ⟨done, -, follows, rfl⟩ := Session.appendEvent_eq_some.mp recorded
      exact .recorded _ _ journal (Replay.Bulwark.stable_append (by simp [Session.row]))
        (accepted done _ rfl) (extends' _ (by simp [Session.row]) rfl journal)
  | false =>
      obtain ⟨done, -, follows, rfl⟩ := Session.appendEvent_eq_some.mp recorded
      exact .recorded _ _ journal (Replay.Bulwark.stable_append (by simp [Session.row]))
        (accepted done _ rfl) (extends' _ (by simp [Session.row]) rfl journal)

/-- What a stored row leaves of the session: the journal and the clock moved on. -/
theorem recorded_eq {evidence : BulwarkEvidence} {killed : Bool}
    (recorded : session.recordBulwark encounter write evidence killed = some stored) :
    ∃ row clock, session.clock ≤ clock ∧
      stored = { session with journal := session.journal ++ [row], clock } := by
  unfold BulwarkSession.recordBulwark at recorded
  split at recorded <;>
  · obtain ⟨done, -, follows, rfl⟩ := Session.appendEvent_eq_some.mp recorded
    exact ⟨_, _, follows.1, rfl⟩

/-- An encounter that ends takes the enemy away and nothing from the player. -/
theorem Related.finished (related : Related session replay)
    (chosen : session.encounter = some encounter) (damage : Nat) (combat : CombatRuntime)
    (state : EncounterState) {journal : List ReplayEvent} {clock enemyHealth lastTime : Nat}
    (ended : state ≠ .active) (older : ∀ event ∈ session.journal, event ∈ journal)
    (solo : SoloJournal Replay.Bulwark.own session.player.accountId session.player.actorId journal)
    (bound : enemyHealth ≤ health) (time : lastTime ≤ elapsedMillis encounter.startedAt clock) :
    Related
      (BulwarkSession.finishBulwark
        { session with
          journal, clock, combat
          actors := session.actors.applyDamage encounter.enemyId damage } encounter state)
      { replay with enemyHealth, state := some state, lastTime } := by
  have fight := related.fight encounter chosen
  have untouched : ∀ player, (BulwarkSession.finishBulwark
        { session with
          journal, clock, combat
          actors := session.actors.applyDamage encounter.enemyId damage } encounter state).actors.get
            session.player.actorId = some player →
      session.actors.get session.player.actorId = some player := by
    intro player found
    simpa only [BulwarkSession.finishBulwark, Session.withdraw, Session.close,
      ActorRegistry.get_destroy, ActorRegistry.get_applyDamage, if_neg (Ne.symm fight.apart)]
      using found
  refine
    { solo := solo
      bounded := fun player found => related.bounded player (untouched player found)
      state := rfl
      before := fun missing => by cases missing
      fight := ?_ }
  intro encounter' chosen'
  cases chosen'
  exact
    { player := fight.player
      apart := fight.apart
      spawned := named_mono fight.spawned older
      admitted := fight.admitted
      playerActor := fight.playerActor
      active := by simpa [BulwarkSession.finishBulwark, Session.withdraw, Session.close] using ended
      onDoor := fun impossible => by cases impossible
      clocks := fun impossible => by cases impossible
      inside := fun impossible => by cases impossible
      facing := fight.facing
      braced := fight.braced
      due := fight.due
      time := time
      enemyBound := bound
      enemy := fun enemy found => by simp [BulwarkSession.finishBulwark, Session.withdraw] at found
      health := fun health known =>
        ⟨fun player found => (fight.health health known).1 player (untouched player found),
          (fight.health health known).2⟩ }

/-! ## Leaving the arena -/

theorem moves_abandoned (related : Related session replay)
    (chosen : session.encounter = some encounter) (active : encounter.active = true)
    (recorded : session.recordBulwark encounter write
      (.abandoned (elapsedMillis encounter.startedAt session.clock)) false = some stored) :
    Moves session (stored.finishBulwark encounter .failed) replay := by
  have fight := related.fight encounter chosen
  refine moves_recorded related fight active recorded (fun impossible => by cases impossible)
    ⟨trivial, words_natural (elapsedMillis_le _ _), trivial⟩ rfl fight.time rfl ?_
  intro older solo
  obtain ⟨row, clock, later, rfl⟩ := recorded_eq recorded
  have ended := related.finished chosen 0 session.combat .failed (by decide) older solo
    fight.enemyBound (elapsedMillis_mono _ later)
  rw [ActorRegistry.applyDamage_zero] at ended
  exact ended

/-! ## The stances -/

theorem le_confirmed (proposed : SteelBulwark) {time instant : Nat} (interval : Nat)
    (ready : proposed.readyAtMs = saturatingAdd time interval) :
    saturatingAdd time interval ≤ (proposed.confirmAt instant).readyAtMs :=
  ready ▸ SteelBulwark.le_confirmAt proposed instant

theorem moves_braced {player : Actor} {proposed : SteelBulwark} {elapsedMs : Nat}
    (related : Related session replay) (chosen : session.encounter = some encounter)
    (active : encounter.active = true)
    (elapsed : elapsedMs = elapsedMillis encounter.startedAt session.clock)
    (ready : encounter.ai.readyAtMs ≤ elapsedMs) (playerInside : arenaContains player.position)
    (recovering : encounter.ai.braced = false)
    (proposal : proposed = { facing := encounter.ai.facing.toward spawn player.position
                             braced := true, readyAtMs := saturatingAdd elapsedMs windupMs })
    (recorded : session.recordBulwark encounter write
      (.braced (encounter.ai.facing.toward spawn player.position).vector player.position elapsedMs)
        false = some stored) : Moves session (stored.confirm proposed elapsedMs) replay := by
  have fight := related.fight encounter chosen
  have due : replay.readyAt ≤ elapsedMs := le_trans fight.due ready
  have applied : Replay.Bulwark.applyEvidence replay false
      (.braced (encounter.ai.facing.toward spawn player.position).vector player.position
        elapsedMs) =
        .ok ({ replay with
          facing := encounter.ai.facing.toward spawn player.position, braced := true
          readyAt := saturatingAdd elapsedMs windupMs }, elapsedMs) := by
    simp only [Replay.Bulwark.applyEvidence, bind_eq_ok, rejectIf_eq_ok, exists_const, pure_eq_ok,
      require_eq_ok, Facing.fromVector_vector, Option.some.injEq]
    refine ⟨_, rfl, ?_, rfl⟩
    rintro (standing | early | outside | turned)
    · rw [fight.braced, recovering] at standing
      cases standing
    · omega
    · exact outside playerInside
    · exact turned (fight.facing ▸ rfl)
  refine moves_recorded related fight active recorded (fun impossible => by cases impossible) ?_
    applied (elapsed ▸ fight.time) rfl ?_
  · exact ⟨trivial, words_vector _, words_position (wordPosition_of_arena playerInside),
      words_natural (elapsed ▸ elapsedMillis_le _ _), trivial⟩
  · intro older solo
    obtain ⟨row, clock, later, rfl⟩ := recorded_eq recorded
    refine
      { solo := solo
        bounded := related.bounded
        state := related.state
        before := ?_
        fight := ?_ }
    · intro missing
      simp [BulwarkSession.confirm, chosen] at missing
    · intro encounter' chosen'
      simp only [BulwarkSession.confirm, chosen, Option.map_some, Option.some.injEq] at chosen'
      subst chosen'
      subst proposal
      exact
        { fight with
          spawned := named_mono fight.spawned older
          facing := rfl
          braced := rfl
          due := le_confirmed _ _ rfl
          time := le_trans (le_of_eq elapsed) (elapsedMillis_mono _ later) }

theorem moves_slam {player : Actor} {proposed : SteelBulwark} {elapsedMs : Nat}
    (related : Related session replay) (chosen : session.encounter = some encounter)
    (active : encounter.active = true)
    (elapsed : elapsedMs = elapsedMillis encounter.startedAt session.clock)
    (playerFound : session.actors.get encounter.playerId = some player) (alive : player.health ≠ 0)
    (ready : encounter.ai.readyAtMs ≤ elapsedMs) (playerInside : arenaContains player.position)
    (braced : encounter.ai.braced = true) (proposal : proposed = { encounter.ai with
      braced := false, readyAtMs := saturatingAdd elapsedMs recoveryMs })
    (recorded : session.recordBulwark encounter write
      (.slam encounter.ai.facing.vector player.position elapsedMs
        (slamDamage encounter.ai.facing spawn player.position) player.health
        (player.health - slamDamage encounter.ai.facing spawn player.position)) false =
          some stored) :
    Moves session
      (BulwarkSession.confirm
        (stored.hurtPlayer { encounter with active := false } encounter.playerId player.health
          (slamDamage encounter.ai.facing spawn player.position)) proposed elapsedMs) replay := by
  have fight := related.fight encounter chosen
  rw [fight.player] at playerFound
  have healthBound := related.bounded player playerFound
  have due : replay.readyAt ≤ elapsedMs := le_trans fight.due ready
  generalize dealt : slamDamage encounter.ai.facing spawn player.position = damage at *
  have damageBound : damage ≤ 14 := dealt ▸ slamDamage_le encounter.ai.facing spawn player.position
  have applied : Replay.Bulwark.applyEvidence replay false
      (.slam encounter.ai.facing.vector player.position elapsedMs damage player.health
        (player.health - damage)) =
        .ok ({ replay with
          playerHealth := some (player.health - damage)
          state := if player.health - damage = 0 then some .failed else replay.state
          braced := false, readyAt := saturatingAdd elapsedMs recoveryMs }, elapsedMs) := by
    simp only [Replay.Bulwark.applyEvidence, bind_eq_ok, rejectIf_eq_ok, exists_const, pure_eq_ok]
    refine ⟨?_, trivial⟩
    rintro (open' | early | turned | outside | dead | wrong | ⟨health, known, changed⟩ | other)
    · rw [fight.braced, braced] at open'
      cases open'
    · omega
    · exact turned (fight.facing ▸ rfl)
    · exact outside playerInside
    · exact alive dead
    · exact wrong rfl
    · exact changed ((fight.health health known).1 player playerFound).symm
    · exact other (fight.facing ▸ dealt.symm)
  refine moves_recorded related fight active recorded (fun impossible => by cases impossible) ?_
    applied (elapsed ▸ fight.time) ?_ ?_
  · exact ⟨trivial, words_vector _, words_position (wordPosition_of_arena playerInside),
      words_natural (elapsed ▸ elapsedMillis_le _ _), words_natural (by unfold u64Max; omega),
      words_natural (by unfold u32Max u64Max at *; omega),
      words_natural (by unfold u32Max u64Max at *; omega), trivial⟩
  · rw [Session.hurtPlayer_eq _ _ _ _ alive]
    rfl
  · intro older solo
    rw [Session.hurtPlayer_eq _ _ _ _ alive] at solo older ⊢
    obtain ⟨row, clock, later, rfl⟩ := recorded_eq recorded
    have victimOf : ∀ victim, (session.actors.applyDamage encounter.playerId damage).get
        session.player.actorId = some victim →
          victim = { player with health := player.health - damage } := by
      intro victim found
      simp only [ActorRegistry.get_applyDamage, fight.player, if_true, playerFound,
        Option.map_some, Option.some.injEq] at found
      exact found.symm
    refine
      { solo := solo
        bounded := ?_
        state := ?_
        before := ?_
        fight := ?_ }
    · intro victim found
      rw [victimOf victim found]
      exact le_trans (Nat.sub_le _ _) healthBound
    · simp only [BulwarkSession.confirm, related.state]
    · intro missing
      simp only [BulwarkSession.confirm, chosen] at missing
      split at missing <;> cases missing
    · intro encounter' chosen'
      have survivor : encounter' =
          { encounter with
            active := if player.health - damage = 0 then false else encounter.active
            ai := proposed.confirmAt (max (elapsedMillis encounter.startedAt clock) elapsedMs) } := by
        simp only [BulwarkSession.confirm, chosen] at chosen'
        split at chosen'
        · next fatal =>
          cases chosen'
          simp only [fatal, if_true]
        · next lives =>
          cases chosen'
          simp only [lives, if_false]
      subst survivor
      subst proposal
      refine
        { player := fight.player
          apart := fight.apart
          spawned := named_mono fight.spawned older
          admitted := fight.admitted
          playerActor := fight.playerActor
          active := ?_
          onDoor := ?_
          clocks := fun _ => fight.clocks active
          inside := ?_
          facing := fight.facing
          braced := rfl
          due := le_confirmed _ _ rfl
          time := le_trans (le_of_eq elapsed) (elapsedMillis_mono _ later)
          enemyBound := fight.enemyBound
          enemy := ?_
          health := ?_ }
      · simp only [BulwarkSession.confirm]
        split
        · simp
        · exact fight.active
      · simp only [BulwarkSession.confirm]
        split
        · intro impossible; cases impossible
        · exact fight.onDoor
      · intro _ victim found
        rw [victimOf victim found]
        exact playerInside
      · intro enemy found
        simp only [BulwarkSession.confirm, ActorRegistry.get_applyDamage, fight.player,
          if_neg fight.apart] at found
        exact fight.enemy enemy found
      · intro health known
        cases known
        refine ⟨fun victim found => by rw [victimOf victim found], ?_⟩
        intro dead
        simp only [BulwarkSession.confirm, dead, if_true]

theorem moves_tick (related : Related session replay)
    (ticked : BulwarkSession.tickBulwark session write = some next) :
    Moves session next replay := by
  unfold BulwarkSession.tickBulwark BulwarkSession.tickBulwarkAt at ticked
  cases chosen : session.encounter with
  | none =>
      rw [chosen] at ticked
      cases ticked
      exact .silent rfl related
  | some encounter =>
      simp only [chosen, Option.elim_some] at ticked
      generalize elapsed : elapsedMillis encounter.startedAt session.clock = elapsedMs at ticked
      split at ticked
      · cases ticked
        exact .silent rfl related
      · next running =>
        have active : encounter.active = true := by
          simp only [not_or, Bool.not_eq_false] at running
          exact running.1
        split at ticked
        · cases ticked
          exact .silent rfl related
        · next player playerFound =>
          split at ticked
          · cases ticked
            exact .silent rfl related
          · next alive =>
            split at ticked
            · cases ticked
              exact .silent rfl related
            · next action proposed acted =>
              simp only [Option.bind_eq_bind, Option.bind_eq_some_iff, Option.pure_def,
                Option.some.injEq] at ticked
              obtain ⟨after, recorded, rfl⟩ := ticked
              obtain ⟨ready, -, playerInside, slamming | bracing⟩ := SteelBulwark.tick_cases acted
              · obtain ⟨braced, rfl, proposal⟩ := slamming
                simp only [BulwarkSession.actBulwark, Option.bind_eq_bind, Option.bind_eq_some_iff,
                  Option.pure_def, Option.some.injEq] at recorded
                obtain ⟨stored, written, rfl⟩ := recorded
                exact moves_slam related chosen active elapsed.symm playerFound alive ready
                  playerInside braced proposal written
              · obtain ⟨recovering, rfl, proposal⟩ := bracing
                exact moves_braced related chosen active elapsed.symm ready playerInside recovering
                  proposal recorded

/-! ## The player's shots -/

/-- What the validator makes of a shot: it is without damage exactly when the
stance blocked it. -/
theorem applied_attack {player enemy : Actor} {elapsedMs damage : Nat} {killed : Bool}
    (fight : Fight session encounter replay)
    (playerInside : arenaContains player.position)
    (enemyFound : session.actors.get encounter.enemyId = some enemy)
    (blocked : damage = 0 ↔ encounter.ai.blocks spawn player.position)
    (fatal : killed = decide (enemy.health - damage = 0)) :
    Replay.Bulwark.applyEvidence replay killed
      (.attack player.position elapsedMs damage enemy.health (enemy.health - damage)) =
        .ok ({ replay with
          enemyHealth := enemy.health - damage
          state := if killed then some .completed else replay.state }, elapsedMs) := by
  simp only [Replay.Bulwark.applyEvidence, bind_eq_ok, rejectIf_eq_ok, exists_const, pure_eq_ok]
  refine ⟨?_, trivial⟩
  have agreed : decide (damage = 0) =
      decide (replay.braced = true ∧ replay.facing.protects spawn player.position) := by
    rw [decide_eq_decide, blocked, fight.braced, fight.facing]
  rintro (outside | healed | wrong | misjudged | undead)
  · exact outside playerInside
  · exact healed (fight.enemy enemy enemyFound)
  · exact wrong rfl
  · exact misjudged agreed
  · exact undead fatal

/-- A shot that leaves the enemy standing. -/
theorem Related.wounded (related : Related session replay)
    (chosen : session.encounter = some encounter) {damage : Nat} {combat : CombatRuntime}
    {enemy : Actor} {journal : List ReplayEvent} {clock lastTime : Nat}
    (enemyFound : session.actors.get encounter.enemyId = some enemy)
    (older : ∀ event ∈ session.journal, event ∈ journal)
    (solo : SoloJournal Replay.Bulwark.own session.player.accountId session.player.actorId journal)
    (time : lastTime ≤ elapsedMillis encounter.startedAt clock) :
    Related
      { session with
        journal, clock, combat, actors := session.actors.applyDamage encounter.enemyId damage }
      { replay with enemyHealth := enemy.health - damage, lastTime } := by
  have fight := related.fight encounter chosen
  have untouched : ∀ player, (session.actors.applyDamage encounter.enemyId damage).get
      session.player.actorId = some player →
        session.actors.get session.player.actorId = some player := by
    intro player found
    simpa only [ActorRegistry.get_applyDamage, if_neg (Ne.symm fight.apart)] using found
  refine
    { solo := solo
      bounded := fun player found => related.bounded player (untouched player found)
      state := related.state
      before := fun missing => by cases chosen.symm.trans missing
      fight := ?_ }
  intro encounter' chosen'
  cases chosen.symm.trans chosen'
  refine
    { fight with
      spawned := named_mono fight.spawned older
      inside := fun active player found => fight.inside active player (untouched player found)
      time := time
      enemyBound := ?_
      enemy := ?_
      health := fun health known =>
        ⟨fun player found => (fight.health health known).1 player (untouched player found),
          (fight.health health known).2⟩ }
  · have same := fight.enemy enemy enemyFound
    have bound := fight.enemyBound
    change enemy.health - damage ≤ health
    omega
  · intro hit found
    simp only [ActorRegistry.get_applyDamage, if_true, enemyFound, Option.map_some,
      Option.some.injEq] at found
    rw [← found]

theorem moves_attack {targetId : Nat} (related : Related session replay)
    (fighting : session.bulwarkFighting = true)
    (attacked : BulwarkSession.attackBulwark session targetId write
      (elapsedMillis session.combatStarted session.clock) = some next) :
    Moves session next replay := by
  unfold BulwarkSession.attackBulwark at attacked
  cases chosen : session.encounter with
  | none => rw [chosen] at attacked; cases attacked
  | some encounter =>
      have active : encounter.active = true := by
        simpa [BulwarkSession.bulwarkFighting, chosen] using fighting
      have fight := related.fight encounter chosen
      simp only [chosen] at attacked
      split at attacked
      · cases attacked
      · next aimed =>
        simp only [not_or, not_not] at aimed
        obtain ⟨-, rfl⟩ := aimed
        simp only [Option.bind_eq_bind, Option.bind_eq_some_iff, Option.pure_def,
          Option.some.injEq] at attacked
        obtain ⟨player, playerFound, enemy, enemyFound, profile, resolved, ⟨result, actors, combat⟩,
          shot, stored, recorded, rfl⟩ := attacked
        obtain ⟨attacker, target, accepted⟩ := Session.shoot_accepted shot
        obtain rfl := accepted.actors_eq
        cases accepted.target_found.symm.trans enemyFound
        have playerInside := fight.inside active player playerFound
        have effective := Session.positionedAttackProfile_damage resolved
        have dealt := accepted.damage_eq
        have remaining := accepted.remaining_eq
        have killedEq := accepted.killed_eq
        simp only at dealt remaining killedEq recorded ⊢
        rw [← dealt] at remaining killedEq ⊢
        rw [remaining] at recorded
        have blocked : result.damage = 0 ↔ encounter.ai.blocks spawn player.position := by
          rw [dealt]
          split
          · next shielded => exact ⟨fun _ => shielded, fun _ => rfl⟩
          · next exposed =>
            constructor
            · intro harmless; omega
            · intro shielded; exact absurd shielded exposed
        have enemyBound : enemy.health ≤ 240 := fight.enemy enemy enemyFound ▸ fight.enemyBound
        have weaponBound : result.damage ≤ u64Max := by
          rw [dealt]
          unfold u64Max
          split <;> omega
        have time : replay.lastTime ≤ elapsedMillis session.combatStarted session.clock := by
          rw [fight.clocks active]
          exact fight.time
        refine moves_recorded related fight active recorded ?_ ?_
          (applied_attack fight playerInside enemyFound blocked killedEq) time ?_ ?_
        · intro killed
          rw [killed, eq_comm, decide_eq_true_eq] at killedEq
          simp [Replay.Bulwark.isFatal, killedEq]
        · exact ⟨trivial, words_position (wordPosition_of_arena playerInside),
            words_natural (elapsedMillis_le _ _), words_natural weaponBound,
            words_natural (by unfold u64Max; omega), words_natural (by unfold u64Max; omega),
            trivial⟩
        · split <;> rfl
        · intro older solo
          obtain ⟨row, clock, later, rfl⟩ := recorded_eq recorded
          have time' : elapsedMillis session.combatStarted session.clock ≤
              elapsedMillis encounter.startedAt clock := by
            rw [fight.clocks active]
            exact elapsedMillis_mono _ later
          cases killed : result.killed with
          | true =>
              simp only [killed, if_true] at older solo ⊢
              exact related.finished chosen result.damage combat .completed (by decide) older solo
                (by change enemy.health - result.damage ≤ 240; omega) time'
          | false =>
              simp only [killed, Bool.false_eq_true, if_false] at older solo ⊢
              exact related.wounded chosen enemyFound older solo time'

/-! ## Entering, moving and swapping weapons -/

/-- The step onto the entrance: the enemy appears and the player stands there. -/
theorem moves_entered {allocated : Nat} {entered : BulwarkSession}
    (related : Related session replay) (unchosen : session.encounter = none)
    (onDoor : session.stage = .door) (fresh : session.Fresh allocated)
    (recorded : BulwarkSession.enterBulwark session allocated write = some entered) :
    Moves session (entered.place entrance) replay := by
  simp only [BulwarkSession.enterBulwark, ActorRegistry.spawn, Option.bind_eq_bind,
    Option.bind_eq_some_iff, Option.pure_def, Option.some.injEq] at recorded
  obtain ⟨after, written, rfl⟩ := recorded
  obtain ⟨done, -, follows, rfl⟩ := Session.appendEvent_eq_some.mp written
  obtain ⟨-, -, otherThanPlayer, -, -⟩ := fresh
  have start := related.before unchosen
  subst start
  refine .recorded _
    { Replay.Bulwark.ReplayState.initial with
      encounter := some (session.player.accountId, some allocated)
      playerId := some session.player.actorId, state := some .active } rfl
    (Replay.Bulwark.stable_append (by simp [Session.row])) ?_ ?_
  · rw [Replay.Bulwark.applyEvent_spawned rfl rfl]
    simp only [Replay.Bulwark.applySpawned, bind_eq_ok, rejectIf_eq_ok, exists_const,
      require_eq_ok, pure_eq_ok]
    refine ⟨by simp [Replay.Bulwark.ReplayState.initial, Session.row], session.player.actorId, ?_,
      rfl⟩
    exact related.solo.solePlayer (by simp [Session.row]) rfl follows.2
  · refine
      { solo := related.solo.append (by simp [Session.row]) rfl
        bounded := ?_
        state := rfl
        before := fun missing => by cases missing
        fight := ?_ }
    · intro player found
      simp only [Session.place, Session.stored, ActorRegistry.get_updatePosition, if_true,
        ActorRegistry.get_insert, if_neg (Ne.symm otherThanPlayer), Option.map_eq_some_iff] at found
      obtain ⟨old, oldFound, rfl⟩ := found
      exact related.bounded old oldFound
    · intro encounter chosen
      cases chosen
      exact
        { player := rfl
          apart := otherThanPlayer
          spawned := ⟨_, List.mem_append_right _ (List.mem_singleton.mpr rfl), rfl⟩
          admitted := rfl
          playerActor := rfl
          active := by simp [Session.place]
          onDoor := fun _ => onDoor
          clocks := fun _ => rfl
          inside := by
            intro _ player found
            simp only [Session.place, ActorRegistry.get_updatePosition, if_true,
              Option.map_eq_some_iff] at found
            obtain ⟨old, -, rfl⟩ := found
            change arenaContains entrance
            decide
          facing := rfl
          braced := rfl
          due := le_refl _
          time := Nat.zero_le _
          enemyBound := le_refl _
          enemy := by
            intro enemy found
            simp only [Session.place, Session.stored, ActorRegistry.get_updatePosition,
              if_neg otherThanPlayer, ActorRegistry.get_insert, if_true, Option.some.injEq] at found
            rw [← found]
            rfl
          health := fun health impossible => by cases impossible }

/-- The mission's boss may come in once the encounter released the player. -/
theorem moves_door {bossId : Nat} (related : Related session replay)
    (chosen : session.encounter = some encounter) (isOver : encounter.active = false)
    (onDoor : session.stage = .door) (otherThanPlayer : bossId ≠ session.player.actorId)
    (otherThanEnemy : bossId ≠ encounter.enemyId)
    (opened : session.openRelayDoor bossId write = some next) : Moves session next replay := by
  obtain ⟨done, follows, rfl⟩ := openRelayDoor_eq_some opened
  have fight := related.fight encounter chosen
  have never : ∀ health, replay.playerHealth = some health → health ≠ 0 := by
    intro health known dead
    have failed := (fight.health health known).2 dead
    rw [onDoor] at failed
    cases failed
  refine .recorded _ { replay with mainProgressed := true } rfl
    (Replay.Bulwark.stable_append (by simp [Session.row])) ?_ ?_
  · refine Replay.Bulwark.applyEvent_boss rfl ?_ (fun dead => never 0 dead rfl)
    intro stillActive
    have active := fight.active.mpr (related.state.symm.trans stillActive)
    rw [isOver] at active
    cases active
  · refine
      { solo := related.solo.append (by simp [Session.row]) rfl
        bounded := ?_
        state := related.state
        before := fun missing => by cases chosen.symm.trans missing
        fight := ?_ }
    · intro player found
      exact related.bounded player (get_boss_other session otherThanPlayer ▸ found)
    · intro encounter' chosen'
      cases chosen.symm.trans chosen'
      exact
        { fight with
          spawned := named_append fight.spawned _
          onDoor := fun active => by rw [isOver] at active; cases active
          clocks := fun active => by rw [isOver] at active; cases active
          inside := fun active => by rw [isOver] at active; cases active
          time := le_trans fight.time (elapsedMillis_mono _ follows.1)
          enemy := fun enemy found =>
            fight.enemy enemy (get_boss_other session otherThanEnemy ▸ found)
          health := fun health known =>
            ⟨fun player found => (fight.health health known).1 player
              (get_boss_other session otherThanPlayer ▸ found),
              fun dead => absurd dead (never health known)⟩ }

theorem moves_equip {item : WeaponItem} (related : Related session replay)
    (equipped : session.equipWeapon item write = some next) : Moves session next replay := by
  obtain ⟨done, follows, rfl⟩ := equipWeapon_eq_some equipped
  refine .recorded _ replay rfl (Replay.Bulwark.stable_append (by simp [Session.row])) ?_ ?_
  · refine Replay.Bulwark.applyEvent_neutral ⟨?_, ?_, ?_, ?_⟩ <;>
      simp [Session.row, ReplayEventKind.progressesMain, Replay.Bulwark.recorded?]
  · refine
      { solo := related.solo.append (by simp [Session.row]) rfl
        bounded := related.bounded
        state := related.state
        before := related.before
        fight := ?_ }
    intro encounter chosen
    have fight := related.fight encounter chosen
    exact
      { fight with
        spawned := named_append fight.spawned _
        time := le_trans fight.time (elapsedMillis_mono _ follows.1) }

/-! ## Runs -/

/-- The journal reads to a state related to the live one. -/
def Kept (session : BulwarkSession) : Prop :=
  Library.Follows Replay.Bulwark.applyEvent .initial Session.journal Related session

/-- At the relay door the encounter is over and the counter's next identifier
is nobody's. -/
def Released (bossId : Nat) (position : Position) (session : BulwarkSession) : Prop :=
  position = Session.relayDoor → ∃ encounter, session.encounter = some encounter ∧
    encounter.active = false ∧ bossId ≠ session.player.actorId ∧ bossId ≠ encounter.enemyId

theorem kept_handled {allocated : Nat} {position : Position} {stays : Bool} {after : BulwarkSession}
    (kept : Kept session) (fresh : session.Fresh allocated)
    (chosen : session.encounter.isSome = true ∨ position = entrance)
    (handled : BulwarkSession.handleBulwarkMovement allocated session position write =
      some (stays, after)) :
    Kept (after.place position) ∧
      (stays = false → Released allocated position (after.place position)) := by
  have otherThanPlayer := fresh.2.2.1
  unfold BulwarkSession.handleBulwarkMovement at handled
  cases encountered : session.encounter with
  | none =>
      have atEntrance : position = entrance := by
        rcases chosen with impossible | atEntrance
        · rw [encountered] at impossible; cases impossible
        · exact atEntrance
      have elsewhere : Released allocated position (after.place position) := by
        intro atDoor
        rw [atEntrance] at atDoor
        exact absurd atDoor (by decide)
      simp only [encountered] at handled
      split at handled
      · next available =>
        simp only [Option.bind_eq_bind, Option.bind_eq_some_iff, Option.pure_def,
          Option.some.injEq, Prod.mk.injEq] at handled
        obtain ⟨entered, wrote, rfl, rfl⟩ := handled
        rw [atEntrance]
        exact ⟨Library.Follows.step kept (fun replay related =>
          moves_entered related encountered available.1 fresh wrote),
          fun impossible => by cases impossible⟩
      · cases handled
        refine ⟨Library.Follows.step kept (fun replay related => .silent rfl (related.place ?_)),
          fun _ => elsewhere⟩
        intro encounter impossible
        cases encountered.symm.trans impossible
  | some encounter =>
      have otherThanEnemy : allocated ≠ encounter.enemyId := by
        obtain ⟨replay, -, related⟩ := kept
        exact ne_of_fresh fresh (related.fight encounter encountered).spawned
      simp only [encountered] at handled
      split at handled
      · next active =>
        split at handled
        · next inside =>
          cases handled
          exact ⟨Library.Follows.step kept (fun replay related =>
            .silent rfl (related.place (fun _ _ _ => inside))), fun impossible => by cases impossible⟩
        · simp only [Option.bind_eq_bind, Option.bind_eq_some_iff, Option.pure_def,
            Option.some.injEq, Prod.mk.injEq] at handled
          obtain ⟨stored, recorded, rfl, rfl⟩ := handled
          have finished := Library.Follows.step kept (fun replay related =>
            moves_abandoned related encountered active recorded)
          obtain ⟨row, clock, -, rfl⟩ := recorded_eq recorded
          refine ⟨Library.Follows.step finished (fun replay related =>
            .silent rfl (related.place ?_)),
            fun _ _ => ⟨_, rfl, rfl, otherThanPlayer, otherThanEnemy⟩⟩
          intro ended same active
          cases same
          cases active
      · next isOver =>
        cases handled
        refine ⟨Library.Follows.step kept (fun replay related => .silent rfl (related.place ?_)),
          fun _ _ => ⟨encounter, encountered, by simpa using isOver, otherThanPlayer,
            otherThanEnemy⟩⟩
        intro ended same active
        cases encountered.symm.trans same
        exact absurd active isOver

theorem Kept.step (kept : Kept session) (step : BulwarkSession.Step session next) : Kept next := by
  have advanced : ∀ now, session.clock ≤ now → Kept (session.advance now) := fun now later =>
    Library.Follows.step kept (fun _ related => .silent rfl (related.advance later))
  cases step with
  | move now position allocated write doorWrite later fresh chosen moved =>
      refine movePlayer_preserves Kept (Released allocated position) moved
        (advanced now later) ?_ ?_
      · intro stays after handled _
        exact kept_handled (advanced now later) fresh chosen handled
      · intro before after good released onDoor atDoor opened
        obtain ⟨encounter, encountered, isOver, otherThanPlayer, otherThanEnemy⟩ := released atDoor
        exact Library.Follows.step good (fun _ related => moves_door related encountered isOver onDoor
          otherThanPlayer otherThanEnemy opened)
  | tick now write later ticked =>
      exact Library.Follows.step (advanced now later) (fun _ related => moves_tick related ticked)
  | attack now targetId write later fighting attacked =>
      exact Library.Follows.step (advanced now later)
        (fun _ related => moves_attack related fighting attacked)
  | equip now item write later equipped =>
      exact Library.Follows.step (advanced now later) (fun _ related => moves_equip related equipped)

theorem kept_opened {opening : BulwarkSession} (opened : Opened opening) : Kept opening := by
  refine ⟨.initial, Replay.Bulwark.reads_neutral ?_, ?_⟩
  · intro event member
    have early := opened.prelude event member
    unfold isPrelude at early
    refine ⟨?_, ?_, ?_, ?_⟩ <;> cases kind : event.kind <;>
      simp_all [ReplayEventKind.progressesMain, Replay.Bulwark.spawnedText,
        Replay.Bulwark.diedText, Replay.Bulwark.recorded?, Payload.bulwark?]
  · refine
      { solo := opened.solo _
        bounded := fun player found => (opened.health found).2
        state := opened.unreported.symm
        before := fun _ => rfl
        fight := fun encounter chosen => by cases opened.unchosen.symm.trans chosen }

theorem Kept.run {opening live : BulwarkSession} (opened : Opened opening)
    (path : Relation.ReflTransGen BulwarkSession.Step opening live) : Kept live :=
  Library.Follows.run (fun _ _ step kept => Kept.step kept step) path (kept_opened opened)

/-- Once the encounter left its active state nothing more is written for it. -/
theorem quiet_step (step : BulwarkSession.Step session next)
    (chosen : session.encounter = some encounter) (isOver : encounter.active = false) :
    Quiet session next := by
  cases step with
  | move now position allocated write doorWrite later fresh entrance moved =>
      refine (Quiet.of_movePlayer moved ?_).of_advance
      simp [BulwarkSession.handleBulwarkMovement, Session.advance, chosen, isOver]
  | tick now write later ticked =>
      simp only [BulwarkSession.tickBulwark, BulwarkSession.tickBulwarkAt, Session.advance, chosen,
        isOver, true_or, if_true, Option.some.injEq] at ticked
      subst ticked
      exact ⟨chosen.symm, rfl, [], (List.append_nil _).symm, fun _ member => by cases member⟩
  | attack now targetId write later fighting attacked =>
      simp [BulwarkSession.bulwarkFighting, chosen, isOver] at fighting
  | equip now item write later equipped =>
      exact (Quiet.of_equipWeapon equipped).of_advance

/-! ## What the validator agrees on -/

/-- The validator accepts the journal of a live session and ends in its status,
its stance and every health it was told. -/
structure Agrees (session : BulwarkSession) (replay : Replay.Bulwark.ReplayState) : Prop where
  reads : Reads Replay.Bulwark.applyEvent .initial session.journal replay
  valid : Replay.Bulwark.validate session.journal = .ok session.objective
  state : replay.state = session.objective
  active : session.bulwarkFighting = true ↔ replay.state = some .active
  stance : ∀ encounter, session.encounter = some encounter →
    replay.facing = encounter.ai.facing ∧ replay.braced = encounter.ai.braced
  enemy : ∀ encounter enemy, session.encounter = some encounter →
    session.actors.get encounter.enemyId = some enemy → replay.enemyHealth = enemy.health
  health : ∀ health player, replay.playerHealth = some health →
    session.actors.get session.player.actorId = some player → health = player.health

theorem Kept.agrees (kept : Kept session) : ∃ replay, Agrees session replay := by
  obtain ⟨replay, reads, related⟩ := kept
  refine ⟨replay, reads, ?_, related.state, ?_, ?_, ?_, ?_⟩
  · simp only [Replay.Bulwark.validate, bind_eq_ok, rejectIf_eq_ok, exists_const, pure_eq_ok]
    exact ⟨replay, reads, fun rejected => related.solo.not_foreign rejected.2, related.state⟩
  · cases chosen : session.encounter with
    | none =>
        have start := related.before chosen
        simp [BulwarkSession.bulwarkFighting, chosen, start, Replay.Bulwark.ReplayState.initial]
    | some encounter =>
        rw [related.state]
        simpa [BulwarkSession.bulwarkFighting, chosen] using (related.fight encounter chosen).active
  · exact fun encounter chosen =>
      ⟨(related.fight encounter chosen).facing, (related.fight encounter chosen).braced⟩
  · exact fun encounter enemy chosen found =>
      ((related.fight encounter chosen).enemy enemy found).symm
  · intro health player known found
    cases chosen : session.encounter with
    | none =>
        have start := related.before chosen
        subst start
        cases known
    | some encounter =>
        exact (((related.fight encounter chosen).health health known).1 player found).symm

end Bulwark
end Agreement
end Revenant
