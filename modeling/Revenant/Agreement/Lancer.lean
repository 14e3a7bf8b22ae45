import Revenant.Agreement.Background
import Revenant.Gateway.Lancer

namespace Revenant
namespace Agreement

open Library Replay Gateway

/-!
# The solo Lancer: live session and replay

The relation between a live session and the validator's variables.  The replay
timers lag the live ones, because only the live side adds the delay of a write;
`Fight.due` is the invariant that keeps the validator no stricter.

A locked charge is the pair of its ends on both sides, and both ends stay in
the arena.  Positions and healths are compared while the actors are there; a
player whose last health was zero has failed the session.
-/

namespace Lancer

open Ai.Lancer

/-- The chosen encounter against the validator's variables: who takes part, the
charge and the time from which the next one is due, and what both sides know of
the enemy and of the player. -/
structure Fight (session : LancerSession) (encounter : LancerEncounter)
    (replay : Replay.Lancer.ReplayState) : Prop where
  player : encounter.playerId = session.player.actorId
  apart : encounter.enemyId ≠ session.player.actorId
  spawned : ∃ event ∈ session.journal, event.actorId = some encounter.enemyId
  admitted : replay.encounter = some (session.player.accountId, some encounter.enemyId)
  playerActor : replay.playerActor = some session.player.actorId
  active : encounter.active = true ↔ session.objective = some .active
  onDoor : encounter.active = true → session.stage = .door
  charge : replay.locked.map (fun charge => (charge.origin, charge.target)) = encounter.ai.locked
  inside : ∀ charge, encounter.ai.locked = some charge →
    arenaContains charge.1 ∧ arenaContains charge.2
  due : replay.due ≤ encounter.ai.readyAtMs
  time : replay.lastTime ≤ elapsedMillis encounter.startedAt session.clock
  enemy : ∀ enemy, session.actors.get encounter.enemyId = some enemy →
    enemy.position = replay.position
  health : ∀ health, replay.lastHealth = some health →
    (∀ player, session.actors.get session.player.actorId = some player → player.health = health) ∧
      (health = 0 → session.stage = .failed)

/-- The simulation relation. -/
structure Related (session : LancerSession) (replay : Replay.Lancer.ReplayState) : Prop where
  solo : SoloJournal Replay.Lancer.own session.player.accountId session.player.actorId
    session.journal
  bounded : ∀ player, session.actors.get session.player.actorId = some player →
    player.health ≤ u32Max
  state : replay.state = session.objective
  before : session.encounter = none → replay = .initial
  fight : ∀ encounter, session.encounter = some encounter → Fight session encounter replay

variable {session next : LancerSession} {replay : Replay.Lancer.ReplayState}
  {encounter : LancerEncounter}

abbrev Moves (session next : LancerSession) (replay : Replay.Lancer.ReplayState) : Prop :=
  Matches Replay.Lancer.applyEvent Session.journal Related session next replay

theorem Related.advance (related : Related session replay) {now : Nat}
    (later : session.clock ≤ now) : Related (session.advance now) replay :=
  { solo := related.solo
    bounded := related.bounded
    state := related.state
    before := related.before
    fight := fun encounter chosen =>
      { related.fight encounter chosen with
        time := le_trans (related.fight encounter chosen).time (elapsedMillis_mono _ later) } }

theorem Related.place (related : Related session replay) (position : Position) :
    Related (session.place position) replay := by
  refine
    { solo := related.solo
      bounded := ?_
      state := related.state
      before := related.before
      fight := ?_ }
  · intro player found
    obtain ⟨old, oldFound, rfl⟩ := get_place_player found
    exact related.bounded old oldFound
  · intro encounter chosen
    have fight := related.fight encounter chosen
    refine { fight with enemy := ?_, health := ?_ }
    · intro enemy found
      exact fight.enemy enemy ((get_place_other fight.apart).symm.trans found)
    · intro health known
      refine ⟨?_, (fight.health health known).2⟩
      intro player found
      obtain ⟨old, oldFound, rfl⟩ := get_place_player found
      exact (fight.health health known).1 old oldFound

/-! ## Rows of the encounter -/

theorem wordPosition_of_arena {place : Position} (inside : arenaContains place) :
    WordPosition place :=
  wordPosition_of_small (by simp only [arenaContains] at inside; omega) inside.1
    (by simp only [arenaContains] at inside; omega)

theorem elapsed_word (origin instant : Nat) : elapsedMillis origin instant ≤ u64Max :=
  elapsedMillis_le origin instant

variable {stored : LancerSession} {write : Option Write}

/-- A stored evidence row that the validator accepts is one recorded move. -/
theorem moves_recorded {evidence : LancerEvidence} {middle : Replay.Lancer.ReplayState} {time : Nat}
    (related : Related session replay) (fight : Fight session encounter replay)
    (active : encounter.active = true)
    (recorded : session.recordLancer encounter write evidence = some stored)
    (words : evidence.toJson.Words)
    (applied : Replay.Lancer.applyEvidence replay evidence = .ok (middle, time))
    (later : replay.lastTime ≤ time) (journal : next.journal = stored.journal)
    (kept : (∀ event ∈ session.journal, event ∈ next.journal) →
      SoloJournal Replay.Lancer.own session.player.accountId session.player.actorId next.journal →
        Related next { middle with lastTime := time }) : Moves session next replay := by
  obtain ⟨done, -, follows, rfl⟩ := Session.appendEvent_eq_some.mp recorded
  have grown : next.journal = session.journal ++ [session.row done .fieldActivity
      (some encounter.playerId) (.lancer (encodeLancerEvidence evidence))] := journal
  refine .recorded _ _ grown (Replay.Lancer.stable_append (by simp [Session.row])) ?_ (kept ?_ ?_)
  · rw [Replay.Lancer.applyEvent_recorded (encodeLancerEvidence evidence) rfl rfl]
    have short := encodeLancerEvidence_length words
    have activeState : replay.state = some .active := related.state.trans (fight.active.mp active)
    simp only [Replay.Lancer.applyRecorded, bind_eq_ok, rejectIf_eq_ok, exists_const,
      require_eq_ok, pure_eq_ok, Session.row, fight.playerActor, fight.player, fight.admitted,
      activeState]
    refine ⟨?_, evidence, rfl, (middle, time), applied, ?_, rfl⟩
    · simp only [ne_eq, not_true_eq_false, Option.map_some, false_or]
      omega
    · omega
  · intro event member
    rw [grown]
    exact List.mem_append_left _ member
  · rw [grown]
    exact related.solo.append (by simp [Session.row]) rfl

/-! ## Leaving the arena -/

theorem moves_abandoned (related : Related session replay)
    (chosen : session.encounter = some encounter) (active : encounter.active = true)
    (recorded : session.recordLancer encounter write
      (.abandoned (elapsedMillis encounter.startedAt session.clock)) = some stored) :
    Moves session ((stored.close { encounter with active := false } .failed).withdraw
      encounter.enemyId) replay := by
  have fight := related.fight encounter chosen
  refine moves_recorded related fight active recorded ?_ rfl fight.time rfl ?_
  · exact ⟨trivial, words_natural (elapsed_word _ _), trivial⟩
  · intro older solo
    obtain ⟨done, -, follows, rfl⟩ := Session.appendEvent_eq_some.mp recorded
    refine
      { solo := solo
        bounded := ?_
        state := rfl
        before := fun missing => by cases missing
        fight := ?_ }
    · intro player found
      simp only [Session.withdraw, Session.close, Session.stored,
        ActorRegistry.get_destroy, if_neg (Ne.symm fight.apart)] at found
      exact related.bounded player found
    · intro encounter' chosen'
      cases chosen'
      refine
        { fight with
          spawned := named_mono fight.spawned older
          active := by simp [Session.close, Session.withdraw]
          onDoor := fun impossible => by cases impossible
          time := elapsedMillis_mono _ follows.1
          enemy := ?_
          health := ?_ }
      · intro enemy found
        simp [Session.withdraw] at found
      · intro health known
        refine ⟨?_, (fight.health health known).2⟩
        intro player found
        simp only [Session.withdraw, Session.close, Session.stored,
          ActorRegistry.get_destroy, if_neg (Ne.symm fight.apart)] at found
        exact (fight.health health known).1 player found

/-! ## The charge -/

/-- The brain a tick proposes, once its row is stored and confirmed. -/
theorem le_confirmed (proposed : GlassLancer) {time instant : Nat} (interval : Nat)
    (ready : proposed.readyAtMs = saturatingAdd time interval) :
    saturatingAdd time interval ≤ (proposed.confirmAt instant).readyAtMs :=
  ready ▸ GlassLancer.le_confirmAt proposed instant

theorem moves_windup {enemy player : Actor} {proposed : GlassLancer} {elapsedMs : Nat}
    (related : Related session replay) (chosen : session.encounter = some encounter)
    (active : encounter.active = true)
    (elapsed : elapsedMs = elapsedMillis encounter.startedAt session.clock)
    (enemyFound : session.actors.get encounter.enemyId = some enemy)
    (ready : encounter.ai.readyAtMs ≤ elapsedMs) (enemyInside : arenaContains enemy.position)
    (playerInside : arenaContains player.position) (free : encounter.ai.locked = none)
    (proposal : proposed = { readyAtMs := saturatingAdd elapsedMs windupMs
                             locked := some (enemy.position,
                               GlassLancer.aim enemy.position player.position) })
    (recorded : session.recordLancer encounter write
      (.windup enemy.position (GlassLancer.aim enemy.position player.position) elapsedMs) =
        some stored) : Moves session (stored.confirm proposed elapsedMs) replay := by
  have fight := related.fight encounter chosen
  have unlocked : replay.locked = none := by
    have same := fight.charge
    rw [free] at same
    exact Option.map_eq_none_iff.mp same
  have due : replay.nextWindup ≤ elapsedMs :=
    le_trans (Replay.Lancer.ReplayState.due_free unlocked ▸ fight.due) ready
  have targetInside := GlassLancer.aim_arena enemyInside playerInside
  have aligned := GlassLancer.aim_aligned enemy.position player.position
  have applied : Replay.Lancer.applyEvidence replay
      (.windup enemy.position (GlassLancer.aim enemy.position player.position) elapsedMs) =
        .ok ({ replay with
          locked := some ⟨enemy.position, GlassLancer.aim enemy.position player.position,
            elapsedMs⟩ }, elapsedMs) := by
    simp only [Replay.Lancer.applyEvidence, bind_eq_ok, rejectIf_eq_ok, exists_const, pure_eq_ok,
      unlocked]
    refine ⟨?_, trivial⟩
    rintro (impossible | elsewhere | outside | crooked | early)
    · cases impossible
    · exact elsewhere (fight.enemy enemy enemyFound)
    · exact outside targetInside
    · exact aligned.elim crooked.1 crooked.2
    · omega
  refine moves_recorded related fight active recorded ?_ applied (elapsed ▸ fight.time) rfl ?_
  · exact ⟨trivial, words_position (wordPosition_of_arena enemyInside),
      words_position (wordPosition_of_arena targetInside),
      words_natural (elapsed ▸ elapsed_word _ _), trivial⟩
  · intro older solo
    obtain ⟨done, -, follows, rfl⟩ := Session.appendEvent_eq_some.mp recorded
    refine
      { solo := solo
        bounded := related.bounded
        state := related.state
        before := ?_
        fight := ?_ }
    · intro missing
      simp [LancerSession.confirm, Session.stored, chosen] at missing
    · intro encounter' chosen'
      simp only [LancerSession.confirm, Session.stored, chosen, Option.map_some,
        Option.some.injEq] at chosen'
      subst chosen'
      subst proposal
      refine
        { fight with
          spawned := named_mono fight.spawned older
          charge := rfl
          inside := ?_
          due := ?_
          time := le_trans (le_of_eq elapsed) (elapsedMillis_mono _ follows.1) }
      · intro charge locked
        cases locked
        exact ⟨enemyInside, targetInside⟩
      · rw [Replay.Lancer.ReplayState.due_locked rfl]
        exact le_confirmed _ _ rfl

theorem moves_resolved {player : Actor} {proposed : GlassLancer} {elapsedMs : Nat}
    {origin target : Position} (related : Related session replay)
    (chosen : session.encounter = some encounter) (active : encounter.active = true)
    (elapsed : elapsedMs = elapsedMillis encounter.startedAt session.clock)
    (playerFound : session.actors.get encounter.playerId = some player) (alive : player.health ≠ 0)
    (ready : encounter.ai.readyAtMs ≤ elapsedMs) (playerInside : arenaContains player.position)
    (locked : encounter.ai.locked = some (origin, target))
    (proposal : proposed = { readyAtMs := saturatingAdd elapsedMs recoveryMs, locked := none })
    (recorded : session.recordLancer encounter write
      (.resolved origin target player.position elapsedMs
        (chargeDamage origin target player.position) player.health
        (player.health - chargeDamage origin target player.position)) = some stored) :
    Moves session
      (LancerSession.confirm
        (({ stored with actors := stored.actors.updatePosition encounter.enemyId target } :
          LancerSession).hurtPlayer { encounter with active := false } encounter.playerId
            player.health (chargeDamage origin target player.position)) proposed elapsedMs)
      replay := by
  have fight := related.fight encounter chosen
  rw [fight.player] at playerFound
  have healthBound := related.bounded player playerFound
  obtain ⟨originInside, targetInside⟩ := fight.inside _ locked
  obtain ⟨charge, replayLocked, sameCharge⟩ : ∃ charge, replay.locked = some charge ∧
      (charge.origin, charge.target) = (origin, target) := by
    have same := fight.charge
    rw [locked] at same
    exact Option.map_eq_some_iff.mp same
  obtain ⟨rfl, rfl⟩ := Prod.mk.inj sameCharge
  have due : saturatingAdd charge.started windupMs ≤ elapsedMs :=
    le_trans (Replay.Lancer.ReplayState.due_locked replayLocked ▸ fight.due) ready
  generalize dealt : chargeDamage charge.origin charge.target player.position = damage at *
  have damageBound : damage ≤ 18 :=
    dealt ▸ chargeDamage_le charge.origin charge.target player.position
  have applied : Replay.Lancer.applyEvidence replay
      (.resolved charge.origin charge.target player.position elapsedMs damage player.health
        (player.health - damage)) =
        .ok ({ replay with
          locked := none, position := charge.target
          lastHealth := some (player.health - damage)
          state := if player.health - damage = 0 then some .failed else replay.state
          nextWindup := saturatingAdd elapsedMs recoveryMs }, elapsedMs) := by
    simp only [Replay.Lancer.applyEvidence, bind_eq_ok, rejectIf_eq_ok, exists_const, pure_eq_ok,
      require_eq_ok, replayLocked]
    refine ⟨charge, rfl, ?_, trivial⟩
    rintro (moved | moved | early | outside | dead | wrong | ⟨health, known, changed⟩ | other)
    · exact moved rfl
    · exact moved rfl
    · omega
    · exact outside playerInside
    · exact alive dead
    · exact wrong rfl
    · exact changed ((fight.health health known).1 player playerFound).symm
    · exact other dealt.symm
  refine moves_recorded related fight active recorded ?_ applied (elapsed ▸ fight.time) ?_ ?_
  · exact ⟨trivial, words_position (wordPosition_of_arena originInside),
      words_position (wordPosition_of_arena targetInside),
      words_position (wordPosition_of_arena playerInside),
      words_natural (elapsed ▸ elapsed_word _ _), words_natural (by unfold u64Max; omega),
      words_natural (by unfold u32Max u64Max at *; omega),
      words_natural (by unfold u32Max u64Max at *; omega), trivial⟩
  · rw [Session.hurtPlayer_eq _ _ _ _ alive]
    rfl
  · intro older solo
    rw [Session.hurtPlayer_eq _ _ _ _ alive] at solo older ⊢
    obtain ⟨done, -, follows, rfl⟩ := Session.appendEvent_eq_some.mp recorded
    have apart : encounter.enemyId ≠ encounter.playerId := fight.player ▸ fight.apart
    have hurt : ∀ victim, ((session.actors.updatePosition encounter.enemyId charge.target).applyDamage
        encounter.playerId damage).get session.player.actorId = some victim →
          victim.health = player.health - damage := by
      intro victim found
      simp only [ActorRegistry.get_applyDamage, ActorRegistry.get_updatePosition, fight.player,
        if_true, if_neg (Ne.symm fight.apart), playerFound, Option.map_some,
        Option.some.injEq] at found
      rw [← found]
    refine
      { solo := solo
        bounded := ?_
        state := ?_
        before := ?_
        fight := ?_ }
    · intro victim found
      rw [hurt victim found]
      omega
    · simp only [LancerSession.confirm, Session.stored, related.state]
    · intro missing
      simp only [LancerSession.confirm, Session.stored, chosen] at missing
      split at missing <;> cases missing
    · intro encounter' chosen'
      have survivor : encounter' =
          { encounter with
            active := if player.health - damage = 0 then false else encounter.active
            ai := proposed.confirmAt (max (elapsedMillis encounter.startedAt done.returned)
              elapsedMs) } := by
        simp only [LancerSession.confirm, Session.stored, chosen] at chosen'
        split at chosen'
        · next fatal =>
          cases chosen'
          simp only [fatal, if_true]
        · next lives =>
          cases chosen'
          simp only [lives, if_false]
      subst survivor
      subst proposal
      refine
        { player := fight.player
          apart := fight.apart
          spawned := named_mono fight.spawned older
          admitted := fight.admitted
          playerActor := fight.playerActor
          active := ?_
          onDoor := ?_
          charge := rfl
          inside := fun charge impossible => by cases impossible
          due := ?_
          time := le_trans (le_of_eq elapsed) (elapsedMillis_mono _ follows.1)
          enemy := ?_
          health := ?_ }
      · simp only [LancerSession.confirm, Session.stored]
        split
        · simp
        · exact fight.active
      · simp only [LancerSession.confirm, Session.stored]
        split
        · intro impossible; cases impossible
        · exact fight.onDoor
      · rw [Replay.Lancer.ReplayState.due_free rfl]
        exact le_confirmed _ _ rfl
      · intro enemy found
        simp only [LancerSession.confirm, Session.stored, ActorRegistry.get_applyDamage,
          ActorRegistry.get_updatePosition, if_true, if_neg apart,
          Option.map_eq_some_iff] at found
        obtain ⟨old, -, rfl⟩ := found
        rfl
      · intro health known
        cases known
        refine ⟨hurt, ?_⟩
        intro dead
        simp only [LancerSession.confirm, Session.stored, dead, if_true]


theorem moves_tick (related : Related session replay)
    (ticked : LancerSession.tickLancer session write = some next) : Moves session next replay := by
  unfold LancerSession.tickLancer LancerSession.tickLancerAt at ticked
  cases chosen : session.encounter with
  | none =>
      rw [chosen] at ticked
      cases ticked
      exact .silent rfl related
  | some encounter =>
      simp only [chosen, Option.elim_some] at ticked
      generalize elapsed : elapsedMillis encounter.startedAt session.clock = elapsedMs at ticked
      split at ticked
      · cases ticked
        exact .silent rfl related
      · next running =>
        have active : encounter.active = true := by
          simp only [not_or, Bool.not_eq_false] at running
          exact running.1
        split at ticked
        · next enemy player enemyFound playerFound =>
          split at ticked
          · cases ticked
            exact .silent rfl related
          · next living =>
            simp only [not_or] at living
            split at ticked
            · cases ticked
              exact .silent rfl related
            · next action proposed acted =>
              simp only [Option.bind_eq_bind, Option.bind_eq_some_iff, Option.pure_def,
                Option.some.injEq] at ticked
              obtain ⟨after, recorded, rfl⟩ := ticked
              obtain ⟨ready, enemyInside, playerInside, locking | resolving⟩ :=
                GlassLancer.tick_cases acted
              · obtain ⟨free, rfl, proposal⟩ := locking
                exact moves_windup related chosen active elapsed.symm enemyFound ready enemyInside
                  playerInside free proposal recorded
              · obtain ⟨origin, target, locked, rfl, proposal⟩ := resolving
                simp only [LancerSession.actLancer, Option.bind_eq_bind, Option.bind_eq_some_iff,
                  Option.pure_def, Option.some.injEq] at recorded
                obtain ⟨stored, written, rfl⟩ := recorded
                exact moves_resolved related chosen active elapsed.symm playerFound living.2 ready
                  playerInside locked proposal written
        · cases ticked
          exact .silent rfl related

/-! ## The player's shots -/

/-- A shot that leaves the enemy standing changes nothing the validator reads. -/
theorem Related.wounded (related : Related session replay)
    (chosen : session.encounter = some encounter) (damage : Nat) (combat : CombatRuntime) :
    Related { session with
      actors := session.actors.applyDamage encounter.enemyId damage, combat } replay := by
  have fight := related.fight encounter chosen
  refine
    { solo := related.solo
      bounded := ?_
      state := related.state
      before := related.before
      fight := ?_ }
  · intro player found
    simp only [ActorRegistry.get_applyDamage, if_neg (Ne.symm fight.apart)] at found
    exact related.bounded player found
  · intro encounter' chosen'
    cases chosen.symm.trans chosen'
    refine { fight with enemy := ?_, health := ?_ }
    · intro enemy found
      simp only [ActorRegistry.get_applyDamage, if_true, Option.map_eq_some_iff] at found
      obtain ⟨old, oldFound, rfl⟩ := found
      exact fight.enemy old oldFound
    · intro health known
      refine ⟨?_, (fight.health health known).2⟩
      intro player found
      simp only [ActorRegistry.get_applyDamage, if_neg (Ne.symm fight.apart)] at found
      exact (fight.health health known).1 player found

theorem moves_killed {done : Write} {combat : CombatRuntime} {damage : Nat}
    (related : Related session replay) (chosen : session.encounter = some encounter)
    (active : encounter.active = true) (follows : session.Follows done) :
    Moves session
      ((({ session.stored done .enemyDied (some encounter.enemyId) Replay.Lancer.diedText with
          actors := session.actors.applyDamage encounter.enemyId damage, combat } :
            LancerSession).close { encounter with active := false } .completed).withdraw
              encounter.enemyId) replay := by
  have fight := related.fight encounter chosen
  refine .recorded _ { replay with state := some .completed } rfl
    (Replay.Lancer.stable_append (by simp [Session.row])) ?_ ?_
  · rw [Replay.Lancer.applyEvent_died rfl rfl]
    have activeState : replay.state = some .active := related.state.trans (fight.active.mp active)
    simp only [Replay.Lancer.applyDied, bind_eq_ok, rejectIf_eq_ok, exists_const, pure_eq_ok,
      Session.row, fight.admitted, activeState]
    simp
  · refine
      { solo := related.solo.append (by simp [Session.row]) rfl
        bounded := ?_
        state := rfl
        before := fun missing => by cases missing
        fight := ?_ }
    · intro player found
      simp only [Session.withdraw, Session.close, Session.stored, ActorRegistry.get_destroy,
        ActorRegistry.get_applyDamage, if_neg (Ne.symm fight.apart)] at found
      exact related.bounded player found
    · intro encounter' chosen'
      cases chosen'
      refine
        { fight with
          spawned := named_append fight.spawned _
          active := by simp [Session.close, Session.withdraw]
          onDoor := fun impossible => by cases impossible
          time := le_trans fight.time (elapsedMillis_mono _ follows.1)
          enemy := ?_
          health := ?_ }
      · intro enemy found
        simp [Session.withdraw] at found
      · intro health known
        refine ⟨?_, (fight.health health known).2⟩
        intro player found
        simp only [Session.withdraw, Session.close, Session.stored, ActorRegistry.get_destroy,
          ActorRegistry.get_applyDamage, if_neg (Ne.symm fight.apart)] at found
        exact (fight.health health known).1 player found

theorem moves_attack {targetId elapsedMs : Nat} (related : Related session replay)
    (fighting : session.lancerFighting = true)
    (attacked : LancerSession.attackLancer session targetId write elapsedMs = some next) :
    Moves session next replay := by
  unfold LancerSession.attackLancer at attacked
  cases chosen : session.encounter with
  | none => rw [chosen] at attacked; cases attacked
  | some encounter =>
      have active : encounter.active = true := by
        simpa [LancerSession.lancerFighting, chosen] using fighting
      simp only [chosen] at attacked
      split at attacked
      · cases attacked
      · next aimed =>
        simp only [not_or, not_not] at aimed
        obtain ⟨-, rfl⟩ := aimed
        simp only [Option.bind_eq_bind, Option.bind_eq_some_iff, Option.pure_def,
          Option.some.injEq] at attacked
        obtain ⟨profile, -, ⟨result, actors, combat⟩, shot, after, recorded, rfl⟩ := attacked
        obtain ⟨attacker, target, accepted⟩ := Session.shoot_accepted shot
        obtain rfl := accepted.actors_eq
        simp only [LancerSession.recordDeath] at recorded ⊢
        split at recorded
        · next killed =>
          obtain ⟨done, -, follows, rfl⟩ := Session.appendEvent_eq_some.mp recorded
          rw [if_pos killed]
          exact moves_killed related chosen active follows
        · next standing =>
          cases recorded
          rw [if_neg standing]
          exact .silent rfl (related.wounded chosen profile.damage combat)

/-! ## Entering, moving and swapping weapons -/

theorem moves_entered {allocated : Nat} (related : Related session replay)
    (unchosen : session.encounter = none) (onDoor : session.stage = .door)
    (fresh : session.Fresh allocated)
    (entered : LancerSession.enterLancer session allocated write = some next) :
    Moves session next replay := by
  simp only [LancerSession.enterLancer, ActorRegistry.spawn, Option.bind_eq_bind,
    Option.bind_eq_some_iff, Option.pure_def, Option.some.injEq] at entered
  obtain ⟨after, recorded, rfl⟩ := entered
  obtain ⟨done, -, follows, rfl⟩ := Session.appendEvent_eq_some.mp recorded
  obtain ⟨-, -, otherThanPlayer, -, -⟩ := fresh
  have start := related.before unchosen
  subst start
  refine .recorded _
    { Replay.Lancer.ReplayState.initial with
      encounter := some (session.player.accountId, some allocated)
      playerActor := some session.player.actorId, state := some .active } rfl
    (Replay.Lancer.stable_append (by simp [Session.row])) ?_ ?_
  · rw [Replay.Lancer.applyEvent_spawned rfl rfl]
    simp only [Replay.Lancer.applySpawned, bind_eq_ok, rejectIf_eq_ok, exists_const,
      require_eq_ok, pure_eq_ok]
    refine ⟨by simp [Replay.Lancer.ReplayState.initial, Session.row], session.player.actorId, ?_, rfl⟩
    exact related.solo.solePlayer (by simp [Session.row]) rfl follows.2
  · refine
      { solo := related.solo.append (by simp [Session.row]) rfl
        bounded := ?_
        state := rfl
        before := fun missing => by cases missing
        fight := ?_ }
    · intro player found
      simp only [Session.stored, ActorRegistry.get_insert, if_neg (Ne.symm otherThanPlayer)]
        at found
      exact related.bounded player found
    · intro encounter chosen
      cases chosen
      exact
        { player := rfl
          apart := otherThanPlayer
          spawned := ⟨_, List.mem_append_right _ (List.mem_singleton.mpr rfl), rfl⟩
          admitted := rfl
          playerActor := rfl
          active := by simp
          onDoor := fun _ => onDoor
          charge := rfl
          inside := fun charge impossible => by cases impossible
          due := le_refl _
          time := Nat.zero_le _
          enemy := by
            intro enemy found
            simp only [ActorRegistry.get_insert, if_true, Option.some.injEq] at found
            rw [← found]
            rfl
          health := fun health impossible => by cases impossible }

/-- The mission's boss may come in once the encounter released the player. -/
theorem moves_door {bossId : Nat} (related : Related session replay)
    (chosen : session.encounter = some encounter) (isOver : encounter.active = false)
    (onDoor : session.stage = .door) (otherThanPlayer : bossId ≠ session.player.actorId)
    (otherThanEnemy : bossId ≠ encounter.enemyId)
    (opened : session.openRelayDoor bossId write = some next) : Moves session next replay := by
  obtain ⟨done, follows, rfl⟩ := openRelayDoor_eq_some opened
  have fight := related.fight encounter chosen
  refine .recorded _ { replay with mainProgressed := true } rfl
    (Replay.Lancer.stable_append (by simp [Session.row])) ?_ ?_
  · refine Replay.Lancer.applyEvent_boss rfl ?_ ?_
    · intro stillActive
      have active := fight.active.mpr (related.state.symm.trans stillActive)
      rw [isOver] at active
      cases active
    · intro dead
      have failed := (fight.health 0 dead).2 rfl
      rw [onDoor] at failed
      cases failed
  · refine
      { solo := related.solo.append (by simp [Session.row]) rfl
        bounded := ?_
        state := related.state
        before := fun missing => by cases chosen.symm.trans missing
        fight := ?_ }
    · intro player found
      exact related.bounded player (get_boss_other session otherThanPlayer ▸ found)
    · intro encounter' chosen'
      cases chosen.symm.trans chosen'
      refine
        { fight with
          spawned := named_append fight.spawned _
          onDoor := fun active => by rw [isOver] at active; cases active
          time := le_trans fight.time (elapsedMillis_mono _ follows.1)
          enemy := fun enemy found =>
            fight.enemy enemy (get_boss_other session otherThanEnemy ▸ found)
          health := ?_ }
      · intro health known
        refine ⟨?_, ?_⟩
        · intro player found
          exact (fight.health health known).1 player
            (get_boss_other session otherThanPlayer ▸ found)
        · intro dead
          have failed := (fight.health health known).2 dead
          rw [onDoor] at failed
          cases failed

theorem moves_equip {item : WeaponItem} (related : Related session replay)
    (equipped : session.equipWeapon item write = some next) : Moves session next replay := by
  obtain ⟨done, follows, rfl⟩ := equipWeapon_eq_some equipped
  refine .recorded _ replay rfl (Replay.Lancer.stable_append (by simp [Session.row])) ?_ ?_
  · refine Replay.Lancer.applyEvent_neutral ⟨?_, ?_, ?_, ?_⟩ <;>
      simp [Session.row, ReplayEventKind.progressesMain, Replay.Lancer.recorded?]
  · refine
      { solo := related.solo.append (by simp [Session.row]) rfl
        bounded := related.bounded
        state := related.state
        before := related.before
        fight := ?_ }
    intro encounter chosen
    have fight := related.fight encounter chosen
    exact
      { fight with
        spawned := named_append fight.spawned _
        time := le_trans fight.time (elapsedMillis_mono _ follows.1) }

/-! ## Runs -/

/-- The journal reads to a state related to the live one. -/
def Kept (session : LancerSession) : Prop :=
  Library.Follows Replay.Lancer.applyEvent .initial Session.journal Related session

/-- At the relay door the encounter is over and the counter's next identifier
is nobody's. -/
def Released (bossId : Nat) (position : Position) (session : LancerSession) : Prop :=
  position = Session.relayDoor → ∃ encounter, session.encounter = some encounter ∧
    encounter.active = false ∧ bossId ≠ session.player.actorId ∧ bossId ≠ encounter.enemyId

theorem kept_handled {allocated : Nat} {position : Position} {stays : Bool} {after : LancerSession}
    (kept : Kept session) (fresh : session.Fresh allocated)
    (chosen : session.encounter.isSome = true ∨ position = entrance)
    (handled : LancerSession.handleLancerMovement allocated session position write =
      some (stays, after)) : Kept after ∧ (stays = false → Released allocated position after) := by
  have otherThanPlayer := fresh.2.2.1
  unfold LancerSession.handleLancerMovement at handled
  cases encountered : session.encounter with
  | none =>
      have atEntrance : position = entrance := by
        rcases chosen with impossible | atEntrance
        · rw [encountered] at impossible; cases impossible
        · exact atEntrance
      have elsewhere : Released allocated position after := by
        intro atDoor
        rw [atEntrance] at atDoor
        exact absurd atDoor (by decide)
      simp only [encountered] at handled
      split at handled
      · next available =>
        simp only [Option.bind_eq_bind, Option.bind_eq_some_iff, Option.pure_def,
          Option.some.injEq, Prod.mk.injEq] at handled
        obtain ⟨entered, wrote, rfl, rfl⟩ := handled
        exact ⟨Library.Follows.step kept (fun replay related =>
          moves_entered related encountered available.1 fresh wrote), fun _ => elsewhere⟩
      · cases handled
        exact ⟨kept, fun _ => elsewhere⟩
  | some encounter =>
      have otherThanEnemy : allocated ≠ encounter.enemyId := by
        obtain ⟨replay, -, related⟩ := kept
        exact ne_of_fresh fresh (related.fight encounter encountered).spawned
      simp only [encountered] at handled
      split at handled
      · next active =>
        split at handled
        · cases handled
          exact ⟨kept, fun impossible => by cases impossible⟩
        · simp only [Option.bind_eq_bind, Option.bind_eq_some_iff, Option.pure_def,
            Option.some.injEq, Prod.mk.injEq] at handled
          obtain ⟨stored, recorded, rfl, rfl⟩ := handled
          refine ⟨Library.Follows.step kept (fun replay related =>
            moves_abandoned related encountered active recorded), ?_⟩
          obtain ⟨done, -, -, rfl⟩ := Session.appendEvent_eq_some.mp recorded
          exact fun _ _ => ⟨_, rfl, rfl, otherThanPlayer, otherThanEnemy⟩
      · next isOver =>
        cases handled
        refine ⟨kept, fun _ _ => ⟨encounter, encountered, ?_, otherThanPlayer, otherThanEnemy⟩⟩
        simpa using isOver

theorem Kept.step (kept : Kept session) (step : LancerSession.Step session next) : Kept next := by
  have advanced : ∀ now, session.clock ≤ now → Kept (session.advance now) := fun now later =>
    Library.Follows.step kept (fun _ related => .silent rfl (related.advance later))
  cases step with
  | move now position allocated write doorWrite later fresh chosen moved =>
      refine movePlayer_preserves Kept (Released allocated position) moved
        (advanced now later) ?_ ?_
      · intro stays after handled _
        obtain ⟨good, released⟩ := kept_handled (advanced now later) fresh chosen handled
        exact ⟨Library.Follows.step good
          (fun _ related => .silent rfl (related.place position)), released⟩
      · intro before after good released onDoor atDoor opened
        obtain ⟨encounter, encountered, isOver, otherThanPlayer, otherThanEnemy⟩ := released atDoor
        exact Library.Follows.step good (fun _ related => moves_door related encountered isOver onDoor
          otherThanPlayer otherThanEnemy opened)
  | tick now write later ticked =>
      exact Library.Follows.step (advanced now later) (fun _ related => moves_tick related ticked)
  | attack now targetId write later fighting attacked =>
      exact Library.Follows.step (advanced now later)
        (fun _ related => moves_attack related fighting attacked)
  | equip now item write later equipped =>
      exact Library.Follows.step (advanced now later) (fun _ related => moves_equip related equipped)

theorem kept_opened {opening : LancerSession} (opened : Opened opening) : Kept opening := by
  refine ⟨.initial, Replay.Lancer.reads_neutral ?_, ?_⟩
  · intro event member
    have early := opened.prelude event member
    unfold isPrelude at early
    refine ⟨?_, ?_, ?_, ?_⟩ <;> cases kind : event.kind <;>
      simp_all [ReplayEventKind.progressesMain, Replay.Lancer.spawnedText, Replay.Lancer.diedText,
        Replay.Lancer.recorded?]
  · refine
      { solo := opened.solo _
        bounded := fun player found => (opened.health found).2
        state := opened.unreported.symm
        before := fun _ => rfl
        fight := fun encounter chosen => by cases opened.unchosen.symm.trans chosen }

theorem Kept.run {opening live : LancerSession} (opened : Opened opening)
    (path : Relation.ReflTransGen LancerSession.Step opening live) : Kept live :=
  Library.Follows.run (fun _ _ step kept => Kept.step kept step) path (kept_opened opened)

/-- Once the encounter left its active state nothing more is written for it. -/
theorem quiet_step (step : LancerSession.Step session next)
    (chosen : session.encounter = some encounter) (isOver : encounter.active = false) :
    Quiet session next := by
  cases step with
  | move now position allocated write doorWrite later fresh entrance moved =>
      refine (Quiet.of_movePlayer moved ?_).of_advance
      simp [LancerSession.handleLancerMovement, Session.advance, chosen, isOver]
  | tick now write later ticked =>
      simp only [LancerSession.tickLancer, LancerSession.tickLancerAt, Session.advance, chosen, isOver,
        true_or, if_true, Option.some.injEq] at ticked
      subst ticked
      exact ⟨chosen.symm, rfl, [], (List.append_nil _).symm, fun _ member => by cases member⟩
  | attack now targetId write later fighting attacked =>
      simp [LancerSession.lancerFighting, chosen, isOver] at fighting
  | equip now item write later equipped =>
      exact (Quiet.of_equipWeapon equipped).of_advance

/-! ## What the validator agrees on -/

/-- The validator accepts the journal of a live session and ends in its status,
its locked charge, the enemy's position and every health it was told. -/
structure Agrees (session : LancerSession) (replay : Replay.Lancer.ReplayState) : Prop where
  reads : Reads Replay.Lancer.applyEvent .initial session.journal replay
  valid : Replay.Lancer.validate session.journal = .ok session.objective
  state : replay.state = session.objective
  active : session.lancerFighting = true ↔ replay.state = some .active
  charge : ∀ encounter, session.encounter = some encounter →
    replay.locked.map (fun charge => (charge.origin, charge.target)) = encounter.ai.locked
  enemy : ∀ encounter enemy, session.encounter = some encounter →
    session.actors.get encounter.enemyId = some enemy → replay.position = enemy.position
  health : ∀ health player, replay.lastHealth = some health →
    session.actors.get session.player.actorId = some player → health = player.health

theorem Kept.agrees (kept : Kept session) : ∃ replay, Agrees session replay := by
  obtain ⟨replay, reads, related⟩ := kept
  refine ⟨replay, reads, ?_, related.state, ?_, ?_, ?_, ?_⟩
  · simp only [Replay.Lancer.validate, bind_eq_ok, rejectIf_eq_ok, exists_const, pure_eq_ok]
    exact ⟨replay, reads, fun rejected => related.solo.not_foreign rejected.2, related.state⟩
  · cases chosen : session.encounter with
    | none =>
        have start := related.before chosen
        simp [LancerSession.lancerFighting, chosen, start, Replay.Lancer.ReplayState.initial]
    | some encounter =>
        rw [related.state]
        simpa [LancerSession.lancerFighting, chosen] using (related.fight encounter chosen).active
  · exact fun encounter chosen => (related.fight encounter chosen).charge
  · exact fun encounter enemy chosen found =>
      ((related.fight encounter chosen).enemy enemy found).symm
  · intro health player known found
    cases chosen : session.encounter with
    | none =>
        have start := related.before chosen
        subst start
        cases known
    | some encounter =>
        exact (((related.fight encounter chosen).health health known).1 player found).symm

end Lancer
end Agreement
end Revenant
