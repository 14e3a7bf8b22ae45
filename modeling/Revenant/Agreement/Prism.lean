import Revenant.Agreement.Tape
import Revenant.Gateway.Prism

namespace Revenant
namespace Agreement

open Library Replay Gateway

/-!
# The Prism encounter: live session and replay

The validator learns when a warning or a phase change was confirmed from the
next row, so its deadline stands one confirmation behind the live one.  The
phase and the mode do not depend on that instant.

`Landed` of the brain gives what an allowed hit implies, the floor at half
health included.  `status` is what the validator shows of an encounter whose
fatal hit is stored while its completion is still tried.
-/

namespace Prism

open Ai.Prism (PrismAction PrismHit PrismMode PrismPhase PrismWarden)

/-- The encounter against the validator's variables.  `told`, `active` and
`dead` tie what was told, what is fought and what was recorded while a
completion is owed; `brain` ties the brains at the last confirmation. -/
structure Fight (session : PrismSession) (encounter : MissionPrism)
    (replay : Replay.Prism.ReplayState) : Prop where
  player : encounter.playerId = session.player.actorId
  bossApart : encounter.bossId ≠ session.player.actorId
  bossKnown : replay.bossId = some encounter.bossId
  playerKnown : replay.playerId = some session.player.actorId
  owner : replay.owner = session.player.accountId
  spawned : ∃ event ∈ session.journal, event.actorId = some encounter.bossId
  deaths : ∀ event ∈ session.journal, Replay.Prism.strangeDeath replay event = false
  told : session.objective =
    some (if encounter.pendingFatal then .active else replay.state.report)
  active : encounter.active = true ↔ replay.state = .active ∨ encounter.pendingFatal = true
  dead : encounter.pendingFatal = true → replay.state = .completed
  door : session.stage = .door → replay.state = .abandoned ∧ replay.fallbackBoss = none
  unfallen : encounter.active = true → replay.fallbackBoss = none
  clocks : encounter.active = true → session.combatStarted = encounter.startedAt
  inside : encounter.active = true → encounter.pendingFatal = false → ∀ player,
    session.actors.get session.player.actorId = some player →
      Ai.Prism.arenaContains player.position
  brain : Replay.Prism.settled replay.brain replay.pendingConfirmation encounter.confirmedMs =
    encounter.brain
  aimed : encounter.brain.Aimed
  confirmed : replay.lastTime ≤ encounter.confirmedMs ∧
    encounter.confirmedMs ≤ elapsedMillis encounter.startedAt session.clock
  standing : encounter.active = true → (session.actors.get encounter.bossId).isSome = true
  boss : ∀ boss, session.actors.get encounter.bossId = some boss →
    boss.health = replay.bossHealth
  health : ∀ player, session.actors.get session.player.actorId = some player →
    player.health = replay.playerHealth
  cleared : replay.state = .completed → replay.bossHealth = 0

/-- The simulation relation. -/
structure Related (session : PrismSession) (replay : Replay.Prism.ReplayState) : Prop where
  tape : Tape Replay.Prism.own session
  mission : session.activityId ≠ "prism_core" ∧
    session.activityId ≠ "challenge_prism_discipline"
  bounded : ∀ player, session.actors.get session.player.actorId = some player →
    player.health ≤ u32Max
  before : session.encounter = none → replay = .initial ∧ session.objective = none ∧
    (∃ event ∈ session.journal, event.kind = .enemyDied ∧
      event.payload = .text "enemy died: relay-drone") ∧
    ∀ player, session.actors.get session.player.actorId = some player → 0 < player.health
  fight : ∀ encounter, session.encounter = some encounter → Fight session encounter replay

variable {authority : List ReplayEvent → ReplayEvent → Except ReplayError Bool}
  {gauntletAdmitted : Bool} {session next stored : PrismSession}
  {replay : Replay.Prism.ReplayState} {encounter : MissionPrism} {elapsedMs : Nat}

variable (authority gauntletAdmitted) in
abbrev Moves (session next : PrismSession) (replay : Replay.Prism.ReplayState) : Prop :=
  Matches (Replay.Prism.applyEvent authority gauntletAdmitted) Session.journal Related session
    next replay

theorem Related.advance (related : Related session replay) {now : Nat}
    (later : session.clock ≤ now) : Related (session.advance now) replay :=
  { tape := ⟨related.tape.solo, related.tape.elsewhere⟩
    mission := related.mission
    bounded := related.bounded
    before := related.before
    fight := fun encounter chosen =>
      have fight := related.fight encounter chosen
      { fight with
        confirmed := ⟨fight.confirmed.1, le_trans fight.confirmed.2 (elapsedMillis_mono _ later)⟩ } }

variable {position : Position}

/-- A step that an active encounter keeps stays in its arena until the boss is
dead. -/
theorem Related.place (related : Related session replay)
    (stays : ∀ encounter, session.encounter = some encounter → encounter.active = true →
      encounter.pendingFatal = false → Ai.Prism.arenaContains position) :
    Related (session.place position) replay := by
  refine
    { tape := ⟨related.tape.solo, related.tape.elsewhere⟩
      mission := related.mission
      bounded := ?_
      before := ?_
      fight := ?_ }
  · intro player found
    obtain ⟨old, oldFound, rfl⟩ := get_place_player found
    exact related.bounded old oldFound
  · intro unchosen
    obtain ⟨start, unreported, cleared, alive⟩ := related.before unchosen
    refine ⟨start, unreported, cleared, ?_⟩
    intro player found
    obtain ⟨old, oldFound, rfl⟩ := get_place_player found
    exact alive old oldFound
  · intro encounter chosen
    have fight := related.fight encounter chosen
    have sameBoss : (session.place position).actors.get encounter.bossId =
        session.actors.get encounter.bossId := by
      simp only [Session.place, ActorRegistry.get_updatePosition, if_neg fight.bossApart]
    refine
      { fight with
        inside := ?_
        standing := fun active => sameBoss ▸ fight.standing active
        boss := fun boss found => fight.boss boss (sameBoss.symm.trans found)
        health := ?_ }
    · intro active alive player found
      obtain ⟨old, -, rfl⟩ := get_place_player found
      exact stays encounter chosen active alive
    · intro player found
      obtain ⟨old, oldFound, rfl⟩ := get_place_player found
      exact fight.health old oldFound

/-! ## Rows -/

theorem wordPosition_of_arena {place : Position} (inside : Ai.Prism.arenaContains place) :
    WordPosition place :=
  wordPosition_of_small (by simp only [Ai.Prism.arenaContains] at inside; omega) inside.1
    (by simp only [Ai.Prism.arenaContains] at inside; omega)

/-- A row of the mission that the validator takes in without a change but the
mission's progress, and that leaves the session's actors alone. -/
theorem moves_mission {done : Write} {kind : ReplayEventKind} {actorId : Option Nat}
    {text : String} {progressed : Bool} (related : Related session replay)
    (follows : session.Follows done)
    (ordinary : Ordinary Replay.Prism.own (session.row done kind actorId (.text text)))
    (taken : Replay.Prism.applyOther replay (session.row done kind actorId (.text text)) =
      .ok { replay with mainProgressed := progressed })
    (early : session.encounter = none → progressed = replay.mainProgressed)
    {stage : SessionStage} (left : stage = .door → session.stage = .door)
    {enemyId : Option Nat} {equipped : WeaponItem} :
    Moves authority gauntletAdmitted session
      { session.stored done kind actorId (.text text) with
        stage, enemyId, player := { session.player with equipped } } replay := by
  refine .recorded _ _ rfl (Replay.Prism.stable_append ordinary.notJoined follows.2)
    ((Replay.Prism.applyEvent_other rfl).trans taken) ?_
  refine
    { tape := related.tape.append ordinary rfl rfl rfl
      mission := related.mission
      bounded := related.bounded
      before := ?_
      fight := ?_ }
  · intro unchosen
    obtain ⟨start, unreported, ⟨event, member, fell⟩, alive⟩ := related.before unchosen
    rw [early unchosen]
    exact ⟨start, unreported, ⟨event, List.mem_append_left _ member, fell⟩, alive⟩
  · intro encounter chosen
    have fight := related.fight encounter chosen
    exact
      { fight with
        spawned := named_append fight.spawned _
        deaths := Ordinary.deaths_append fight.deaths ordinary
        door := fun onDoor => fight.door (left onDoor)
        confirmed := ⟨fight.confirmed.1,
          le_trans fight.confirmed.2 (elapsedMillis_mono _ follows.1)⟩ }

variable {write : Option Write} {confirmed : MissionPrism}

/-- A stored row of the encounter that the validator accepts is one recorded
move; `kept` says what the operation then leaves behind.  The row carries the
confirmation the validator waits for, so its brain is the live one. -/
theorem moves_recorded {transition : PrismTransition} {death : Bool}
    {middle : Replay.Prism.ReplayState} (related : Related session replay)
    (chosen : session.encounter = some encounter) (active : encounter.active = true)
    (alive : encounter.pendingFatal = false)
    (elapsed : elapsedMs = elapsedMillis encounter.startedAt session.clock)
    (recorded : PrismSession.recordPrism session encounter write elapsedMs transition death =
      some (confirmed, stored)) (later : ∀ bossId health, transition ≠ .started bossId health)
    (fatal : death = true → Replay.Prism.isFatal transition = true)
    (words : (Replay.PrismEvidence.transitionJson transition).Words)
    (applied : Replay.Prism.applyTransition
      { replay with brain := encounter.brain, pendingConfirmation := false } death elapsedMs
      transition = .ok middle)
    (kept : ∀ row clock, Ordinary Replay.Prism.own row → session.clock ≤ clock →
      confirmed = { encounter with confirmedMs := elapsedMillis encounter.startedAt clock } →
      stored = { session with
        journal := session.journal ++ [row], clock, encounter := some confirmed } →
      elapsedMs ≤ elapsedMillis encounter.startedAt clock →
        next.journal = session.journal ++ [row] ∧
          Related next { middle with lastTime := elapsedMs }) :
    Moves authority gauntletAdmitted session next replay := by
  have fight := related.fight encounter chosen
  simp only [PrismSession.recordPrism, Option.bind_eq_bind, Option.bind_eq_some_iff,
    Option.pure_def, Option.some.injEq, Prod.mk.injEq] at recorded
  obtain ⟨appended, appendedAs, confirmedAs, storedAs⟩ := recorded
  obtain ⟨done, -, follows, rfl⟩ := Session.appendEvent_eq_some.mp appendedAs
  generalize written : session.row done (if death then .enemyDied else .fieldActivity)
    (some (if death then encounter.bossId else encounter.playerId))
    (.prism (encodePrismEvidence ⟨elapsedMs, encounter.confirmedMs, transition⟩)) = row at *
  have kind : row.kind = if death then .enemyDied else .fieldActivity := by
    rw [← written]; rfl
  have payload : row.payload =
      .prism (encodePrismEvidence ⟨elapsedMs, encounter.confirmedMs, transition⟩) := by
    rw [← written]; rfl
  have ordinary : Ordinary Replay.Prism.own row := by
    unfold Ordinary
    rw [kind, payload]
    cases death <;> rfl
  have reached : elapsedMs ≤ elapsedMillis encounter.startedAt done.returned :=
    elapsed ▸ elapsedMillis_mono _ follows.1
  have confirmedThen : confirmed =
      { encounter with confirmedMs := elapsedMillis encounter.startedAt done.returned } := by
    rw [← confirmedAs]
    simp only [PrismEncounter.confirmed, Session.stored, max_eq_left reached]
  obtain ⟨grown, after⟩ := kept row done.returned ordinary follows.1 confirmedThen (by
    rw [← storedAs, confirmedAs]
    simp only [Session.stored, written]) reached
  refine .recorded row _ grown (Replay.Prism.stable_append ordinary.notJoined ?_) ?_ after
  · intro old member
    rw [← written]
    exact follows.2 old member
  · have timely := elapsed ▸ fight.confirmed.2
    have confirmedWord : encounter.confirmedMs ≤ u64Max :=
      le_trans fight.confirmed.2 (elapsedMillis_le _ _)
    have short : (encodePrismEvidence ⟨elapsedMs, encounter.confirmedMs, transition⟩).length ≤ 2048 :=
      encodePrismEvidence_length
        ⟨words_natural (elapsed ▸ elapsedMillis_le _ _), words_natural confirmedWord, words, trivial⟩
    have state : replay.state = .active := by
      rcases fight.active.mp active with state | pending
      · exact state
      · rw [alive] at pending; cases pending
    rw [Replay.Prism.applyEvent_recorded payload short rfl later]
    simp only [Replay.Prism.applyRecorded, bind_eq_ok, rejectIf_eq_ok, exists_const, pure_eq_ok]
    refine ⟨?_, middle, ?_, rfl⟩
    · rw [kind, state, ← written]
      have lower := fight.confirmed.1
      have notEarlier := le_trans lower timely
      cases death with
      | false =>
          simp [Session.row, fight.owner, fight.player, fight.playerKnown, fight.bossKnown]
          omega
      | true =>
          simp [Session.row, fight.owner, fight.bossKnown, fatal rfl]
          omega
    · rw [kind, fight.brain]
      cases death <;> exact applied

/-! ## Leaving the arena -/

theorem moves_abandoned (related : Related session replay)
    (chosen : session.encounter = some encounter) (active : encounter.active = true)
    (alive : encounter.pendingFatal = false)
    (elapsed : elapsedMs = elapsedMillis encounter.startedAt session.clock)
    (recorded : PrismSession.recordPrism session encounter write elapsedMs .abandoned false =
      some (confirmed, stored)) :
    Moves authority gauntletAdmitted session
      { (stored.close { confirmed with active := false } .failed).withdraw confirmed.bossId with
        stage := .door } replay := by
  have fight := related.fight encounter chosen
  refine moves_recorded related chosen active alive elapsed recorded (fun _ _ same => by cases same)
    (fun impossible => by cases impossible) ⟨trivial, trivial⟩ rfl ?_
  rintro row clock ordinary later rfl rfl reached
  have stillThere : ∀ player,
      ((session.actors.destroy encounter.bossId).get session.player.actorId = some player →
      session.actors.get session.player.actorId = some player) := by
    intro player found
    simpa only [ActorRegistry.get_destroy, if_neg (Ne.symm fight.bossApart)] using found
  refine ⟨rfl, ?_⟩
  refine
    { tape := related.tape.append ordinary rfl rfl rfl
      mission := related.mission
      bounded := fun player found => related.bounded player (stillThere player found)
      before := fun missing => by cases missing
      fight := ?_ }
  intro encounter' chosen'
  cases chosen'
  exact
    { player := fight.player
      bossApart := fight.bossApart
      bossKnown := fight.bossKnown
      playerKnown := fight.playerKnown
      owner := fight.owner
      spawned := named_append fight.spawned _
      deaths := Ordinary.deaths_append fight.deaths ordinary
      told := by simp [alive, Session.withdraw, Session.close, Replay.Prism.PrismStatus.report]
      active := by simp [alive]
      dead := fun impossible => by
        change encounter.pendingFatal = true at impossible
        rw [alive] at impossible; cases impossible
      door := fun _ => ⟨rfl, fight.unfallen active⟩
      unfallen := fun impossible => by cases impossible
      clocks := fun impossible => by cases impossible
      inside := fun impossible => by cases impossible
      brain := rfl
      aimed := fight.aimed
      confirmed := ⟨reached, le_refl _⟩
      standing := fun impossible => by cases impossible
      boss := fun boss found => by
        simp [Session.withdraw, Session.close] at found
      health := fun player found => fight.health player (stillThere player found)
      cleared := fun impossible => by cases impossible }

/-! ## The brain's steps -/

/-- What a recorded step leaves of the validator's variables. -/
def replayedStep (replay : Replay.Prism.ReplayState) (proposed : PrismWarden) (damage : Nat) :
    Replay.Prism.ReplayState :=
  { replay with
    brain := proposed, pendingConfirmation := true, playerHealth := replay.playerHealth - damage
    state := if replay.playerHealth - damage = 0 then .failed else replay.state }

variable {proposed : PrismWarden} {action : PrismAction}

theorem applyTransition_step {brain : PrismWarden} (living : replay.playerHealth ≠ 0)
    (acted : brain.tick elapsedMs replay.bossHealth position = some (action, proposed)) :
    Replay.Prism.applyTransition { replay with brain, pendingConfirmation := false } false elapsedMs
      (.step position (PrismStep.fromAction action replay.playerHealth)) =
        .ok (replayedStep replay proposed action.damage) := by
  simp only [Replay.Prism.applyTransition, bind_eq_ok, rejectIf_eq_ok, exists_const, require_eq_ok]
  refine ⟨(action, proposed), acted, fun other => other rfl, ?_⟩
  cases action with
  | warning pattern =>
      simp only [PrismStep.fromAction, replayedStep, PrismAction.damage, Nat.sub_zero, living,
        if_false]
      rfl
  | resolved pattern damage => rfl

theorem words_pattern {pattern : Ai.Prism.PrismPattern} (inside : pattern.InArena) :
    (Replay.PrismEvidence.patternJson pattern).Words := by
  cases pattern with
  | acrossX z =>
      refine ⟨trivial, ?_, trivial⟩
      simp only [Ai.Prism.PrismPattern.InArena] at inside
      simp only [Json.Words, Json.WordNumber, u64Max]
      omega
  | acrossZ x =>
      refine ⟨trivial, ?_, trivial⟩
      simp only [Ai.Prism.PrismPattern.InArena] at inside
      simp only [Json.Words, Json.WordNumber, u64Max]
      omega
  | center => exact ⟨trivial, trivial⟩
  | perimeter => exact ⟨trivial, trivial⟩

theorem words_step {health : Nat} (inside : action.pattern.InArena)
    (small : action.damage ≤ Ai.Prism.pulseDamage) (bounded : health ≤ u32Max) :
    (Replay.PrismEvidence.stepJson (PrismStep.fromAction action health)).Words := by
  unfold Ai.Prism.pulseDamage at small
  unfold u32Max at bounded
  cases action with
  | warning pattern => exact ⟨trivial, words_pattern inside, trivial⟩
  | resolved pattern damage =>
      simp only [PrismAction.damage] at small
      exact ⟨trivial, words_pattern inside, words_natural (by unfold u64Max; omega),
        words_natural (by unfold u64Max; omega), trivial⟩

/-- The live side of a step: a hit on the player, perhaps without damage. -/
theorem moves_step {player : Actor} (related : Related session replay)
    (chosen : session.encounter = some encounter) (active : encounter.active = true)
    (alive : encounter.pendingFatal = false)
    (elapsed : elapsedMs = elapsedMillis encounter.startedAt session.clock)
    (found : session.actors.get session.player.actorId = some player) (living : player.health ≠ 0)
    (acted : encounter.brain.tick elapsedMs replay.bossHealth player.position =
      some (action, proposed))
    (recorded : PrismSession.recordPrism session encounter write elapsedMs
      (.step player.position (PrismStep.fromAction action player.health)) false =
        some (confirmed, stored)) :
    Moves authority gauntletAdmitted session
      (Session.hurtPlayer
        { stored with
          encounter := some
            { confirmed with brain := proposed.confirmAt confirmed.confirmedMs } }
        { confirmed with
          brain := proposed.confirmAt confirmed.confirmedMs, active := false }
        confirmed.playerId player.health action.damage) replay := by
  have fight := related.fight encounter chosen
  have sameHealth := fight.health player found
  obtain ⟨inside, lane, small, aimed⟩ := PrismWarden.tick_some acted fight.aimed
  rw [sameHealth] at recorded living
  rw [sameHealth]
  refine moves_recorded related chosen active alive elapsed recorded (fun _ _ same => by cases same)
    (fun impossible => by cases impossible)
    ⟨trivial, words_position (wordPosition_of_arena inside),
      words_step lane small (sameHealth ▸ related.bounded player found), trivial⟩
    (applyTransition_step living acted) ?_
  rintro row clock ordinary later rfl rfl reached
  rw [Session.hurtPlayer_eq _ _ _ _ living]
  refine ⟨rfl, ?_⟩
  have state : replay.state = .active := by
    rcases fight.active.mp active with state | pending
    · exact state
    · rw [alive] at pending; cases pending
  have hurt : ∀ victim,
      (session.actors.applyDamage encounter.playerId action.damage).get session.player.actorId =
        some victim → victim = { player with health := player.health - action.damage } := by
    intro victim there
    simp only [ActorRegistry.get_applyDamage, fight.player, if_true, found, Option.map_some,
      Option.some.injEq] at there
    exact there.symm
  have sameBoss :
      (session.actors.applyDamage encounter.playerId action.damage).get encounter.bossId =
        session.actors.get encounter.bossId := by
    simp only [ActorRegistry.get_applyDamage, fight.player, if_neg fight.bossApart]
  refine
    { tape := related.tape.append ordinary rfl rfl rfl
      mission := related.mission
      bounded := ?_
      before := ?_
      fight := ?_ }
  · intro victim there
    rw [hurt victim there]
    exact le_trans (Nat.sub_le _ _) (related.bounded player found)
  · intro missing
    simp only at missing
    split at missing <;> cases missing
  · intro encounter' chosen'
    have same : encounter' =
        { encounter with
          confirmedMs := elapsedMillis encounter.startedAt clock
          brain := proposed.confirmAt (elapsedMillis encounter.startedAt clock)
          active := if replay.playerHealth - action.damage = 0 then false else encounter.active } := by
      by_cases fatal : replay.playerHealth - action.damage = 0
      · simp only [if_pos fatal] at chosen' ⊢
        exact (Option.some.inj chosen').symm
      · simp only [if_neg fatal] at chosen' ⊢
        exact (Option.some.inj chosen').symm
    subst same
    exact
      { player := fight.player
        bossApart := fight.bossApart
        bossKnown := fight.bossKnown
        playerKnown := fight.playerKnown
        owner := fight.owner
        spawned := named_append fight.spawned _
        deaths := Ordinary.deaths_append fight.deaths ordinary
        told := by
          by_cases fatal : replay.playerHealth - action.damage = 0
          · simp [replayedStep, alive, fatal, Replay.Prism.PrismStatus.report]
          · simp [replayedStep, alive, fatal, fight.told]
        active := by
          by_cases fatal : replay.playerHealth - action.damage = 0
          · simp [replayedStep, alive, fatal]
          · simp [replayedStep, alive, fatal, active, state]
        dead := fun impossible => by
          change encounter.pendingFatal = true at impossible
          rw [alive] at impossible; cases impossible
        door := fun onDoor => by
          simp only at onDoor
          split at onDoor
          · cases onDoor
          · have impossible := (fight.door onDoor).1
            rw [state] at impossible; cases impossible
        unfallen := fun _ => fight.unfallen active
        clocks := fun _ => fight.clocks active
        inside := by
          intro _ _ victim there
          rw [hurt victim there]
          exact inside
        brain := rfl
        aimed := aimed.confirmAt _
        confirmed := ⟨reached, le_refl _⟩
        standing := fun _ => by rw [sameBoss]; exact fight.standing active
        boss := fun boss there => fight.boss boss (sameBoss.symm.trans there)
        health := by
          intro victim there
          rw [hurt victim there]
          change player.health - action.damage = replay.playerHealth - action.damage
          rw [sameHealth]
        cleared := by
          intro impossible
          simp only [replayedStep, state] at impossible
          split at impossible <;> cases impossible }

/-! ## Shots -/

theorem applyTransition_attack {brain : PrismWarden} {outcome : PrismHit} {requested : Nat}
    (inside : Ai.Prism.arenaContains position) (positive : 0 < requested)
    (landed : PrismWarden.Landed brain elapsedMs replay.bossHealth requested outcome proposed) :
    Replay.Prism.applyTransition { replay with brain, pendingConfirmation := false }
        (decide (outcome.healthAfter = 0)) elapsedMs
        (.attack position outcome.damage replay.bossHealth outcome.healthAfter
          outcome.phaseChanged) =
      .ok { replay with
        brain := proposed, bossHealth := outcome.healthAfter
        pendingConfirmation := outcome.phaseChanged
        state := if outcome.healthAfter = 0 then .completed else replay.state } := by
  simp only [Replay.Prism.applyTransition, bind_eq_ok, rejectIf_eq_ok, exists_const, require_eq_ok,
    pure_eq_ok]
  refine ⟨?_, (outcome, proposed), landed.again, ?_, ?_⟩
  · have exactly := landed.vulnerable positive
    rintro (outside | other | harmless | mismatch)
    · exact outside inside
    · exact other rfl
    · have closed : outcome.damage = 0 ↔ brain.vulnerable := by simpa using harmless
      by_cases unhurt : outcome.damage = 0
      · exact exactly.mp unhurt (closed.mp unhurt)
      · exact unhurt (exactly.mpr (fun recovering => unhurt (closed.mpr recovering)))
    · exact mismatch rfl
  · rintro (other | other | other) <;> exact other rfl
  · simp only [decide_eq_true_eq]

/-- A stored shot: the boss loses what the validator's copy loses, and a fatal
one waits for its completion. -/
theorem moves_struck {targetId : Nat} {player target : Actor} {profile : AttackProfile}
    {outcome : PrismHit} {result : DamageResult} {actors : ActorRegistry} {combat : CombatRuntime}
    (related : Related session replay) (chosen : session.encounter = some encounter)
    (active : encounter.active = true) (alive : encounter.pendingFatal = false)
    (aimedAt : encounter.bossId = targetId)
    (elapsed : elapsedMs = elapsedMillis encounter.startedAt session.clock)
    (found : session.actors.get session.player.actorId = some player)
    (inside : Ai.Prism.arenaContains player.position)
    (targetFound : session.actors.get targetId = some target)
    (resolved : session.positionedAttackProfile targetId = some profile)
    (allowed : encounter.brain.hit elapsedMs target.health profile.damage =
      some (outcome, proposed))
    (shot : session.shoot targetId elapsedMs { profile with damage := outcome.damage } =
      some (result, actors, combat))
    (recorded : PrismSession.recordPrism session encounter write elapsedMs
      (.attack player.position result.damage target.health result.remainingHealth
        outcome.phaseChanged) result.killed = some (confirmed, stored)) :
    Moves authority gauntletAdmitted session
      { stored with
        actors, combat
        encounter := some
          { confirmed with
            brain := if outcome.phaseChanged then proposed.confirmAt confirmed.confirmedMs
              else proposed
            pendingFatal := result.killed } } replay := by
  have fight := related.fight encounter chosen
  subst aimedAt
  have positive := (Session.positionedAttackProfile_damage resolved).1
  have strong := (Session.positionedAttackProfile_damage resolved).2
  have sameHealth := fight.boss target targetFound
  have landed := PrismWarden.hit_some allowed
  obtain ⟨attacker, victim, accepted⟩ := Session.shoot_accepted shot
  cases targetFound.symm.trans accepted.target_found
  have damage_eq : result.damage = outcome.damage := accepted.damage_eq
  have remaining_eq : result.remainingHealth = outcome.healthAfter :=
    accepted.remaining_eq.trans landed.after.symm
  have killed_eq : result.killed = decide (outcome.healthAfter = 0) := by
    rw [accepted.killed_eq, landed.after]
  have actors_eq : actors = session.actors.applyDamage encounter.bossId outcome.damage :=
    accepted.actors_eq
  have state : replay.state = .active := by
    rcases fight.active.mp active with state | pending
    · exact state
    · rw [alive] at pending; cases pending
  have bounded : target.health ≤ 320 := landed.bounded
  have weak : outcome.damage ≤ 100 := le_trans landed.admitted strong
  have left : outcome.healthAfter ≤ 320 := by
    rw [landed.after]
    exact le_trans (Nat.sub_le _ _) bounded
  rw [damage_eq, remaining_eq, killed_eq, sameHealth] at recorded
  rw [sameHealth] at landed bounded
  rw [killed_eq, actors_eq]
  refine moves_recorded related chosen active alive elapsed recorded (fun _ _ same => by cases same)
    (fun fatal => fatal) ?_ (applyTransition_attack inside positive landed) ?_
  · exact ⟨trivial, words_position (wordPosition_of_arena inside),
      words_natural (by unfold u64Max; omega), words_natural (by unfold u64Max; omega),
      words_natural (by unfold u64Max; omega), trivial, trivial⟩
  rintro row clock ordinary later rfl rfl reached
  have samePlayer :
      (session.actors.applyDamage encounter.bossId outcome.damage).get session.player.actorId =
        session.actors.get session.player.actorId := by
    simp only [ActorRegistry.get_applyDamage, if_neg (Ne.symm fight.bossApart)]
  have struck : (session.actors.applyDamage encounter.bossId outcome.damage).get encounter.bossId =
      some { target with health := target.health - outcome.damage } := by
    simp only [ActorRegistry.get_applyDamage, if_true, targetFound, Option.map_some]
  refine ⟨rfl, ?_⟩
  refine
    { tape := related.tape.append ordinary rfl rfl rfl
      mission := related.mission
      bounded := fun victim there => related.bounded victim (samePlayer.symm.trans there)
      before := fun missing => by cases missing
      fight := ?_ }
  intro encounter' chosen'
  cases chosen'
  exact
    { player := fight.player
      bossApart := fight.bossApart
      bossKnown := fight.bossKnown
      playerKnown := fight.playerKnown
      owner := fight.owner
      spawned := named_append fight.spawned _
      deaths := Ordinary.deaths_append fight.deaths ordinary
      told := by
        by_cases fatal : outcome.healthAfter = 0
        · simp [fatal, fight.told, alive, state, Replay.Prism.PrismStatus.report]
        · simp [fatal, fight.told, alive, state]
      active := by
        by_cases fatal : outcome.healthAfter = 0
        · simp [fatal, active]
        · simp [fatal, active, state]
      dead := fun fatal => if_pos (of_decide_eq_true fatal)
      door := fun onDoor => by
        have impossible := (fight.door onDoor).1
        rw [state] at impossible; cases impossible
      unfallen := fun _ => fight.unfallen active
      clocks := fun _ => fight.clocks active
      inside := fun _ _ victim there => by
        cases found.symm.trans (samePlayer.symm.trans there)
        exact inside
      brain := rfl
      aimed := by
        have aimed := landed.aimed fight.aimed
        cases outcome.phaseChanged with
        | false => exact aimed
        | true => exact aimed.confirmAt _
      confirmed := ⟨reached, le_refl _⟩
      standing := fun _ => by rw [struck]; rfl
      boss := fun boss there => by
        cases struck.symm.trans there
        change target.health - outcome.damage = outcome.healthAfter
        rw [landed.after, sameHealth]
      health := fun victim there => fight.health victim (samePlayer.symm.trans there)
      cleared := fun completed => by
        by_cases fatal : outcome.healthAfter = 0
        · exact fatal
        · simp [fatal, state] at completed }

/-! ## Choosing the encounter and its neighbours -/

theorem moves_entered {allocated : Nat} (related : Related session replay)
    (unchosen : session.encounter = none) (fresh : session.Fresh allocated)
    (entered : PrismSession.spawnPrismEncounter session allocated write = some next) :
    Moves authority gauntletAdmitted session (next.place Ai.Prism.entrance) replay := by
  simp only [PrismSession.spawnPrismEncounter, ActorRegistry.spawn, Option.bind_eq_bind,
    Option.bind_eq_some_iff, Option.pure_def, Option.some.injEq] at entered
  obtain ⟨player, found, after, recorded, rfl⟩ := entered
  obtain ⟨done, -, follows, rfl⟩ := Session.appendEvent_eq_some.mp recorded
  obtain ⟨positive, word, apart, -, unused⟩ := fresh
  obtain ⟨start, unreported, ⟨fallen, fallenMember, fell⟩, standing⟩ := related.before unchosen
  subst start
  simp only [ActorRegistry.get_insert, if_neg (Ne.symm apart)] at found
  have alive := standing player found
  have bounded := related.bounded player found
  generalize body : encodePrismEvidence ⟨0, 0, .started allocated player.health⟩ = encoded at *
  have short : encoded.length ≤ 2048 := by
    rw [← body]
    exact encodePrismEvidence_length
      ⟨words_natural (Nat.zero_le _), words_natural (Nat.zero_le _),
        ⟨trivial, words_natural word, words_natural (by unfold u32Max u64Max at *; omega), trivial⟩,
        trivial⟩
  have value : encoded.value = some ⟨0, 0, .started allocated player.health⟩ := by rw [← body]; rfl
  have ordinary : Ordinary Replay.Prism.own
      (session.row done .bossSpawned (some allocated) (.prism encoded)) := trivial
  have drone : Replay.Prism.droneFell
      (session.journal ++ [session.row done .bossSpawned (some allocated) (.prism encoded)])
      (session.row done .bossSpawned (some allocated) (.prism encoded)) = true := by
    simp only [Replay.Prism.droneFell, List.any_eq_true, Bool.and_eq_true, decide_eq_true_eq]
    exact ⟨fallen, List.mem_append_left _ fallenMember, follows.2 fallen fallenMember, fell⟩
  refine .recorded (session.row done .bossSpawned (some allocated) (.prism encoded))
    { Replay.Prism.ReplayState.initial with
      bossId := some allocated, playerId := some session.player.actorId
      owner := session.player.accountId, playerHealth := player.health } rfl
    (Replay.Prism.stable_append ordinary.notJoined follows.2) ?_ ?_
  · rw [Replay.Prism.applyEvent_started rfl short value rfl]
    simp only [Replay.Prism.applyStarted, bind_eq_ok, rejectIf_eq_ok, exists_const,
      require_eq_ok, pure_eq_ok]
    refine ⟨session.player.actorId,
      related.tape.solo.solePlayer (by simp [Session.row]) rfl follows.2, ?_, true, ?_, by simp, rfl⟩
    · rw [appeared_fresh unused]
      simp [Replay.Prism.ReplayState.initial, Session.row]
      omega
    · exact Replay.Prism.admitted_of_drone
        ⟨fun same => related.mission.1 (Option.some.inj same),
          fun same => related.mission.2 (Option.some.inj same)⟩ drone
  · have placed : ∀ there, (((session.actors.insert
          { id := allocated, kind := .enemy, archetype := "prism-warden"
            position := Ai.Prism.spawn, health := Ai.Prism.health
            maxHealth := Ai.Prism.health }).updatePosition session.player.actorId
              Ai.Prism.entrance).get session.player.actorId = some there →
        there = { player with position := Ai.Prism.entrance }) := by
      intro there answer
      simp only [ActorRegistry.get_updatePosition, ActorRegistry.get_insert, if_true,
        if_neg (Ne.symm apart), found, Option.map_some, Option.some.injEq] at answer
      exact answer.symm
    have boss : ((session.actors.insert
          { id := allocated, kind := .enemy, archetype := "prism-warden"
            position := Ai.Prism.spawn, health := Ai.Prism.health
            maxHealth := Ai.Prism.health }).updatePosition session.player.actorId
              Ai.Prism.entrance).get allocated =
        some
          { id := allocated, kind := .enemy, archetype := "prism-warden"
            position := Ai.Prism.spawn, health := Ai.Prism.health
            maxHealth := Ai.Prism.health } := by
      simp only [ActorRegistry.get_updatePosition, ActorRegistry.get_insert, if_neg apart, if_true]
    refine
      { tape := related.tape.append ordinary rfl rfl rfl
        mission := related.mission
        bounded := ?_
        before := fun missing => by cases missing
        fight := ?_ }
    · intro there answer
      rw [placed there answer]
      exact bounded
    · intro encounter chosen
      cases chosen
      exact
        { player := rfl
          bossApart := apart
          bossKnown := rfl
          playerKnown := rfl
          owner := rfl
          spawned := ⟨_, List.mem_append_right _ (List.mem_singleton.mpr rfl), rfl⟩
          deaths := by
            refine Ordinary.deaths_append ?_ ordinary
            intro event member
            have unnamed : ¬ event.actorId = some allocated := unused event member
            simp only [unnamed, decide_false, Bool.and_false, Bool.false_and]
          told := rfl
          active := by simp [PrismEncounter.begun, Replay.Prism.ReplayState.initial]
          dead := fun impossible => by cases impossible
          door := fun impossible => by cases impossible
          unfallen := fun _ => rfl
          clocks := fun _ => rfl
          inside := fun _ _ there answer => by
            rw [placed there answer]
            exact (by decide : Ai.Prism.arenaContains Ai.Prism.entrance)
          brain := rfl
          aimed := fun pattern impossible => by cases impossible
          confirmed := ⟨le_refl _, Nat.zero_le _⟩
          standing := fun _ => Option.isSome_iff_exists.mpr ⟨_, boss⟩
          boss := fun there answer => by
            cases boss.symm.trans answer
            rfl
          health := fun there answer => by
            rw [placed there answer]
          cleared := fun impossible => by cases impossible }

/-- After a withdrawal the mission's own boss may appear. -/
theorem moves_door {bossId : Nat} (related : Related session replay)
    (chosen : session.encounter = some encounter) (onDoor : session.stage = .door)
    (isOver : encounter.active = false) (otherThanPlayer : bossId ≠ session.player.actorId)
    (otherThanBoss : bossId ≠ encounter.bossId)
    (opened : session.openRelayDoor bossId write = some next) :
    Moves authority gauntletAdmitted session next replay := by
  obtain ⟨done, follows, rfl⟩ := openRelayDoor_eq_some opened
  have fight := related.fight encounter chosen
  obtain ⟨abandoned, unfallen⟩ := fight.door onDoor
  have ordinary : Ordinary Replay.Prism.own (session.row done .bossSpawned (some bossId)
      (.text ("boss spawned: " ++ session.bossArchetype))) := trivial
  have player := get_boss_other session otherThanPlayer
  have boss := get_boss_other session otherThanBoss
  refine .recorded _ { replay with mainProgressed := true, fallbackBoss := some bossId } rfl
    (Replay.Prism.stable_append ordinary.notJoined follows.2) ?_ ?_
  · rw [Replay.Prism.applyEvent_other rfl]
    simp [Replay.Prism.applyOther, Session.row, fight.bossKnown, abandoned, unfallen, rejectIf]
  · refine
      { tape := related.tape.append ordinary rfl rfl rfl
        mission := related.mission
        bounded := fun victim found => related.bounded victim (player.symm.trans found)
        before := fun missing => by cases chosen.symm.trans missing
        fight := ?_ }
    intro encounter' chosen'
    cases chosen.symm.trans chosen'
    exact
      { fight with
        spawned := named_append fight.spawned _
        deaths := Ordinary.deaths_append fight.deaths ordinary
        door := fun impossible => by cases impossible
        unfallen := fun active => by rw [isOver] at active; cases active
        clocks := fun active => by rw [isOver] at active; cases active
        inside := fun active => by rw [isOver] at active; cases active
        confirmed := ⟨fight.confirmed.1,
          le_trans fight.confirmed.2 (elapsedMillis_mono _ follows.1)⟩
        standing := fun active => by rw [isOver] at active; cases active
        boss := fun boss' found => fight.boss boss' (boss.symm.trans found)
        health := fun victim found => fight.health victim (player.symm.trans found) }

theorem moves_equip {item : WeaponItem} (related : Related session replay)
    (equipped : session.equipWeapon item write = some next) :
    Moves authority gauntletAdmitted session next replay := by
  obtain ⟨done, follows, rfl⟩ := equipWeapon_eq_some equipped
  have taken : Replay.Prism.applyOther replay (session.row done .equipmentChanged
      (some session.player.actorId) (.text ("weapon equipped: " ++ item.itemId))) =
        .ok { replay with mainProgressed := replay.mainProgressed } := rfl
  have ordinary : Ordinary Replay.Prism.own (session.row done .equipmentChanged
      (some session.player.actorId) (.text ("weapon equipped: " ++ item.itemId))) := trivial
  exact moves_mission related follows ordinary taken (fun _ => rfl) (fun onDoor => onDoor)

/-! ## Runs -/

variable (authority gauntletAdmitted) in
/-- The journal reads to a state related to the live one. -/
def Kept (session : PrismSession) : Prop :=
  Library.Follows (Replay.Prism.applyEvent authority gauntletAdmitted) .initial Session.journal
    Related session

theorem Related.complete (related : Related session replay) {enemyId : Option Nat} :
    Related { session with stage := .complete, enemyId } replay :=
  { tape := ⟨related.tape.solo, related.tape.elsewhere⟩
    mission := related.mission
    bounded := related.bounded
    before := related.before
    fight := fun encounter chosen =>
      { related.fight encounter chosen with door := fun impossible => by cases impossible } }

/-- The dead boss leaves with the told completion. -/
theorem Related.finished (related : Related session replay)
    (chosen : session.encounter = some encounter) (pending : encounter.pendingFatal = true)
    (complete : session.stage ≠ .door) :
    Related ((session.close { encounter with active := false, pendingFatal := false }
      .completed).withdraw encounter.bossId) replay := by
  have fight := related.fight encounter chosen
  have state := fight.dead pending
  have stillThere : ∀ player,
      ((session.actors.destroy encounter.bossId).get session.player.actorId = some player →
      session.actors.get session.player.actorId = some player) := by
    intro player found
    simpa only [ActorRegistry.get_destroy, if_neg (Ne.symm fight.bossApart)] using found
  refine
    { tape := ⟨related.tape.solo, related.tape.elsewhere⟩
      mission := related.mission
      bounded := fun player found => related.bounded player (stillThere player found)
      before := fun missing => by cases missing
      fight := ?_ }
  intro encounter' chosen'
  cases chosen'
  exact
    { player := fight.player
      bossApart := fight.bossApart
      bossKnown := fight.bossKnown
      playerKnown := fight.playerKnown
      owner := fight.owner
      spawned := fight.spawned
      deaths := fight.deaths
      told := by
        change some EncounterState.completed = some replay.state.report
        rw [state]
        rfl
      active := by simp [state]
      dead := fun impossible => by cases impossible
      door := fun onDoor => absurd onDoor complete
      unfallen := fun impossible => by cases impossible
      clocks := fun impossible => by cases impossible
      inside := fun impossible => by cases impossible
      brain := fight.brain
      aimed := fight.aimed
      confirmed := fight.confirmed
      standing := fun impossible => by cases impossible
      boss := fun boss found => by simp [Session.withdraw, Session.close] at found
      health := fun player found => fight.health player (stillThere player found)
      cleared := fight.cleared }

/-- A row of the completion that the database stored. -/
theorem Kept.completionRow {kind : ReplayEventKind} {actorId : Option Nat} {text : String}
    (kept : Kept authority gauntletAdmitted session) (chosen : session.encounter = some encounter)
    (pending : encounter.pendingFatal = true)
    (ofCompletion : kind = .activityCompleted ∨ kind = .lootGranted ∨ kind = .progressionGranted)
    (recorded : session.appendEvent write kind actorId (.text text) = some next) :
    Kept authority gauntletAdmitted next ∧ next.encounter = some encounter := by
  obtain ⟨done, -, follows, rfl⟩ := Session.appendEvent_eq_some.mp recorded
  refine ⟨Library.Follows.step kept (fun replay related => ?_), chosen⟩
  have state := (related.fight encounter chosen).dead pending
  have ordinary : Ordinary Replay.Prism.own (session.row done kind actorId (.text text)) := by
    rcases ofCompletion with rfl | rfl | rfl <;> trivial
  have early : ∀ progressed : Bool, session.encounter = none →
      progressed = replay.mainProgressed :=
    fun _ missing => by cases chosen.symm.trans missing
  rcases ofCompletion with rfl | rfl | rfl
  · have taken : Replay.Prism.applyOther replay
        (session.row done .activityCompleted actorId (.text text)) =
          .ok { replay with mainProgressed := true } := by
      simp [Replay.Prism.applyOther, Session.row, state, rejectIf]
    exact moves_mission related follows ordinary taken (early _) (fun onDoor => onDoor)
  · have taken : Replay.Prism.applyOther replay
        (session.row done .lootGranted actorId (.text text)) =
          .ok { replay with mainProgressed := replay.mainProgressed } := rfl
    exact moves_mission related follows ordinary taken (early _) (fun onDoor => onDoor)
  · have taken : Replay.Prism.applyOther replay
        (session.row done .progressionGranted actorId (.text text)) =
          .ok { replay with mainProgressed := replay.mainProgressed } := rfl
    exact moves_mission related follows ordinary taken (early _) (fun onDoor => onDoor)

theorem Kept.completed {completion : Completion} (kept : Kept authority gauntletAdmitted session)
    (chosen : session.encounter = some encounter) (pending : encounter.pendingFatal = true)
    (completed : PrismSession.completeActivity session completion = some next) :
    Kept authority gauntletAdmitted next ∧ next.encounter = some encounter ∧
      next.stage = .complete := by
  simp only [PrismSession.completeActivity, Option.bind_eq_bind, Option.bind_eq_some_iff,
    Option.pure_def, Option.some.injEq] at completed
  obtain ⟨told, toldAs, rewarded, rewardedAs, rfl⟩ := completed
  have keptTold : Kept authority gauntletAdmitted told ∧ told.encounter = some encounter := by
    unfold PrismSession.storeCompletion at toldAs
    split at toldAs
    · cases toldAs
      exact ⟨kept, chosen⟩
    · exact kept.completionRow chosen pending (Or.inl rfl) toldAs
  have keptRewarded : Kept authority gauntletAdmitted rewarded ∧
      rewarded.encounter = some encounter := by
    unfold PrismSession.storeRewards at rewardedAs
    split at rewardedAs
    · cases rewardedAs
      exact keptTold
    · simp only [Option.bind_eq_bind, Option.bind_eq_some_iff] at rewardedAs
      obtain ⟨looted, lootedAs, progressedAs⟩ := rewardedAs
      obtain ⟨keptLooted, chosenLooted⟩ :=
        keptTold.1.completionRow keptTold.2 pending (Or.inr (Or.inl rfl)) lootedAs
      exact keptLooted.completionRow chosenLooted pending (Or.inr (Or.inr rfl)) progressedAs
  exact ⟨Library.Follows.step keptRewarded.1 (fun _ related => .silent rfl related.complete),
    keptRewarded.2, rfl⟩

/-- However often the completion is tried, and however far it gets, the journal
stays readable. -/
theorem Kept.finish (completion : Option Completion) (kept : Kept authority gauntletAdmitted session)
    (chosen : session.encounter = some encounter) (pending : encounter.pendingFatal = true) :
    Kept authority gauntletAdmitted (PrismSession.finishPrism session encounter completion) := by
  unfold PrismSession.finishPrism
  split
  · exact kept
  · next completion =>
    split
    · exact kept
    · next done completed =>
      obtain ⟨keptDone, chosenDone, complete⟩ := kept.completed chosen pending completed
      split
      · exact Library.Follows.step keptDone (fun _ related =>
          .silent rfl (related.finished chosenDone pending (by rw [complete]; decide)))
      · exact keptDone

theorem Kept.tick {completion : Option Completion} (kept : Kept authority gauntletAdmitted session)
    (ticked : PrismSession.tickPrism session write completion = some next) :
    Kept authority gauntletAdmitted next := by
  unfold PrismSession.tickPrism PrismSession.tickPrismAt at ticked
  cases chosen : session.encounter with
  | none =>
      simp only [chosen] at ticked
      cases ticked
      exact kept
  | some encounter =>
      simp only [chosen, Option.elim_some] at ticked
      split at ticked
      · cases ticked
        exact kept
      · next fighting =>
        have active : encounter.active = true := by simpa using (not_or.mp fighting).1
        split at ticked
        · next pending =>
          cases ticked
          exact kept.finish completion chosen pending
        · next alive =>
          simp only [Option.bind_eq_bind, Option.bind_eq_some_iff] at ticked
          obtain ⟨player, found, ticked⟩ := ticked
          split at ticked
          · cases ticked
            exact kept
          · next living =>
            simp only [Option.bind_eq_some_iff] at ticked
            obtain ⟨boss, bossFound, ticked⟩ := ticked
            split at ticked
            · cases ticked
              exact kept
            · next action proposed acted =>
              simp only [Option.bind_eq_some_iff] at ticked
              obtain ⟨⟨confirmed, stored⟩, recorded, ticked⟩ := ticked
              refine Library.Follows.step kept (fun replay related => ?_)
              have fight := related.fight encounter chosen
              rw [fight.player] at found
              rw [fight.boss boss bossFound] at acted
              cases action with
              | warning pattern =>
                  cases ticked
                  exact moves_step related chosen active (by simpa using alive) rfl found living
                    acted recorded
              | resolved pattern damage =>
                  cases ticked
                  exact moves_step related chosen active (by simpa using alive) rfl found living
                    acted recorded

theorem Kept.attack {targetId : Nat} {completion : Option Completion}
    (kept : Kept authority gauntletAdmitted session) (chosen : session.encounter = some encounter)
    (active : encounter.active = true)
    (attacked : PrismSession.attackPrism session targetId write completion
      (elapsedMillis encounter.startedAt session.clock) = some next) :
    Kept authority gauntletAdmitted next := by
  unfold PrismSession.attackPrism at attacked
  simp only [chosen] at attacked
  split at attacked
  · cases attacked
  · next aimedAt =>
    simp only [not_or, not_not] at aimedAt
    split at attacked
    · next pending =>
      cases attacked
      exact kept.finish completion chosen pending
    · next alive =>
      simp only [Option.bind_eq_bind, Option.bind_eq_some_iff] at attacked
      obtain ⟨player, found, attacked⟩ := attacked
      split at attacked
      · cases attacked
      · next inside =>
        simp only [Option.bind_eq_some_iff, Option.pure_def, Option.some.injEq] at attacked
        obtain ⟨target, targetFound, profile, resolved, ⟨outcome, proposed⟩, allowed,
          ⟨result, actors, combat⟩, shot, ⟨confirmed, stored⟩, recorded, rfl⟩ := attacked
        have struck : Kept authority gauntletAdmitted
            { stored with
              actors, combat
              encounter := some
                { confirmed with
                  brain := if outcome.phaseChanged then proposed.confirmAt confirmed.confirmedMs
                    else proposed
                  pendingFatal := result.killed } } :=
          Library.Follows.step kept (fun replay related =>
            moves_struck related chosen active (by simpa using alive) aimedAt.2 rfl found
              (not_not.mp inside) targetFound resolved allowed shot recorded)
        split
        · next killed => exact struck.finish completion rfl killed
        · exact struck

/-- At the relay door the encounter is over and the counter's next identifier
is nobody's. -/
def Released (bossId : Nat) (position : Position) (session : PrismSession) : Prop :=
  position = Session.relayDoor → session.stage = .door → ∃ encounter,
    session.encounter = some encounter ∧ encounter.active = false ∧
      bossId ≠ session.player.actorId ∧ bossId ≠ encounter.bossId

theorem kept_handled {allocated : Nat} {stays : Bool} {after : PrismSession}
    (kept : Kept authority gauntletAdmitted session) (fresh : session.Fresh allocated)
    (chosen : session.encounter.isSome = true ∨ position = Ai.Prism.entrance)
    (handled : PrismSession.handlePrismMovement allocated session position write =
      some (stays, after)) :
    Kept authority gauntletAdmitted (after.place position) ∧
      (stays = false → Released allocated position (after.place position)) := by
  have otherThanPlayer := fresh.2.2.1
  unfold PrismSession.handlePrismMovement at handled
  cases encountered : session.encounter with
  | none =>
      have atEntrance : position = Ai.Prism.entrance := by
        rcases chosen with impossible | atEntrance
        · rw [encountered] at impossible; cases impossible
        · exact atEntrance
      have elsewhere : Released allocated position (after.place position) := by
        intro atDoor
        rw [atEntrance] at atDoor
        exact absurd atDoor (by decide)
      simp only [encountered] at handled
      split at handled
      · next available =>
        simp only [Option.bind_eq_bind, Option.bind_eq_some_iff, Option.pure_def,
          Option.some.injEq, Prod.mk.injEq] at handled
        obtain ⟨entered, wrote, rfl, rfl⟩ := handled
        refine ⟨?_, fun _ => elsewhere⟩
        rw [atEntrance]
        exact Library.Follows.step kept (fun replay related =>
          moves_entered related encountered fresh wrote)
      · cases handled
        refine ⟨Library.Follows.step kept (fun replay related => .silent rfl (related.place ?_)),
          fun _ => elsewhere⟩
        intro encounter impossible
        cases encountered.symm.trans impossible
  | some encounter =>
      have otherThanBoss : allocated ≠ encounter.bossId := by
        obtain ⟨replay, -, related⟩ := kept
        exact ne_of_fresh fresh (related.fight encounter encountered).spawned
      simp only [encountered] at handled
      split at handled
      · next active =>
        split at handled
        · next inside =>
          cases handled
          refine ⟨Library.Follows.step kept (fun replay related =>
            .silent rfl (related.place ?_)), fun impossible => by cases impossible⟩
          intro same chosenSame _ alive
          cases encountered.symm.trans chosenSame
          rcases inside with pending | inside
          · rw [alive] at pending; cases pending
          · exact inside
        · next outside =>
          have alive : encounter.pendingFatal = false := by simpa using (not_or.mp outside).1
          simp only [Option.bind_eq_bind, Option.bind_eq_some_iff, Option.pure_def,
            Option.some.injEq, Prod.mk.injEq] at handled
          obtain ⟨⟨confirmed, stored⟩, recorded, rfl, rfl⟩ := handled
          have left := Library.Follows.step kept (fun replay related =>
            moves_abandoned related encountered active alive rfl recorded)
          simp only [PrismSession.recordPrism, Option.bind_eq_bind, Option.bind_eq_some_iff,
            Option.pure_def, Option.some.injEq, Prod.mk.injEq] at recorded
          obtain ⟨appended, appendedAs, rfl, rfl⟩ := recorded
          obtain ⟨done, -, -, rfl⟩ := Session.appendEvent_eq_some.mp appendedAs
          refine ⟨Library.Follows.step left (fun replay related =>
            .silent rfl (related.place ?_)), fun _ _ _ =>
              ⟨_, rfl, rfl, otherThanPlayer, otherThanBoss⟩⟩
          intro ended same impossible
          cases same
          cases impossible
      · next isOver =>
        cases handled
        refine ⟨Library.Follows.step kept (fun replay related => .silent rfl (related.place ?_)),
          fun _ _ _ => ⟨encounter, encountered, by simpa using isOver, otherThanPlayer,
            otherThanBoss⟩⟩
        intro ended same active
        cases encountered.symm.trans same
        exact absurd active isOver

theorem Kept.step (kept : Kept authority gauntletAdmitted session)
    (step : PrismSession.Step session next) : Kept authority gauntletAdmitted next := by
  have advanced : ∀ now, session.clock ≤ now →
      Kept authority gauntletAdmitted (session.advance now) := fun now later =>
    Library.Follows.step kept (fun _ related => .silent rfl (related.advance later))
  cases step with
  | move now position allocated write doorWrite later fresh chosen moved =>
      refine movePlayer_preserves (Kept authority gauntletAdmitted) (Released allocated position)
        moved (advanced now later) ?_ ?_
      · intro stays after handled _
        exact kept_handled (advanced now later) fresh chosen handled
      · intro before after good released onDoor atDoor opened
        obtain ⟨encounter, encountered, isOver, otherThanPlayer, otherThanBoss⟩ :=
          released atDoor onDoor
        exact Library.Follows.step good (fun _ related => moves_door related encountered onDoor isOver
          otherThanPlayer otherThanBoss opened)
  | tick now write completion later ticked => exact (advanced now later).tick ticked
  | attack now targetId write completion later fighting attacked =>
      cases encountered : session.encounter with
      | none => simp [PrismSession.prismFighting, encountered] at fighting
      | some encounter =>
          have active : encounter.active = true := by
            simpa [PrismSession.prismFighting, encountered] using fighting
          have clocks : session.combatStarted = encounter.startedAt := by
            obtain ⟨replay, -, related⟩ := kept
            exact (related.fight encounter encountered).clocks active
          rw [clocks] at attacked
          have chosen : (session.advance now).encounter = some encounter := encountered
          exact (advanced now later).attack chosen active attacked
  | equip now item write later equipped =>
      exact Library.Follows.step (advanced now later) (fun _ related => moves_equip related equipped)

theorem kept_opened {opening : PrismSession} (opened : Opened opening) :
    Kept authority gauntletAdmitted opening := by
  refine ⟨.initial, Replay.Prism.reads_neutral ?_, ?_⟩
  · intro event member
    obtain ⟨other, ⟨_, payload⟩ | ⟨_, payload⟩ | ⟨_, payload⟩⟩ :=
      plain_of_prelude (opened.prelude event member) <;>
      exact ⟨other, by rw [payload]; rfl⟩
  · exact
      { tape := .of_opened opened
        mission := opened.mission
        bounded := fun player found => (opened.health found).2
        before := fun _ => ⟨rfl, opened.unreported, opened.cleared,
          fun player found => (opened.health found).1⟩
        fight := fun encounter chosen => by cases opened.unchosen.symm.trans chosen }

theorem Kept.run {opening live : PrismSession} (opened : Opened opening)
    (path : Relation.ReflTransGen PrismSession.Step opening live) :
    Kept authority gauntletAdmitted live :=
  Library.Follows.run (fun _ _ step kept => Kept.step kept step) path (kept_opened opened)

/-! ## What the validator agrees on -/

/-- The status of a live encounter: what its objective last told, or completed
once the fatal hit is stored and only its completion is tried again. -/
def status (session : PrismSession) : Option EncounterState :=
  if session.encounter.any (·.pendingFatal) then some .completed else session.objective

variable (authority gauntletAdmitted) in
/-- The validator accepts the journal of a live session and ends in its status,
phase, mode with its pattern, and the healths of the boss and the player.  A
boss that is gone, or waits for its completion, is dead for the validator when
the encounter was completed. -/
structure Agrees (session : PrismSession) (replay : Replay.Prism.ReplayState) : Prop where
  reads : Reads (Replay.Prism.applyEvent authority gauntletAdmitted) .initial session.journal replay
  valid : Replay.Prism.validateEncounter authority gauntletAdmitted session.journal =
    .ok (status session)
  known : session.encounter.isSome = replay.bossId.isSome
  active : session.prismFighting = true ↔ replay.bossId.isSome = true ∧
    (replay.state = .active ∨ session.encounter.any (·.pendingFatal) = true)
  phase : ∀ encounter, session.encounter = some encounter →
    replay.brain.phase = encounter.brain.phase ∧ replay.brain.mode = encounter.brain.mode
  standing : ∀ encounter, session.encounter = some encounter → encounter.active = true →
    (session.actors.get encounter.bossId).isSome = true
  boss : ∀ encounter boss, session.encounter = some encounter →
    session.actors.get encounter.bossId = some boss → replay.bossHealth = boss.health
  cleared : status session = some .completed → replay.bossHealth = 0
  health : ∀ player, session.encounter.isSome = true →
    session.actors.get session.player.actorId = some player → replay.playerHealth = player.health

theorem Related.report (related : Related session replay) : replay.report = status session := by
  cases chosen : session.encounter with
  | none =>
      obtain ⟨rfl, unreported, -⟩ := related.before chosen
      simp [status, chosen, unreported, Replay.Prism.ReplayState.report,
        Replay.Prism.ReplayState.initial]
  | some encounter =>
      have fight := related.fight encounter chosen
      simp only [Replay.Prism.ReplayState.report, fight.bossKnown, Option.map_some, status, chosen,
        Option.any_some, fight.told]
      by_cases pending : encounter.pendingFatal = true
      · rw [if_pos pending, fight.dead pending]
        rfl
      · rw [if_neg pending, if_neg pending]

theorem Kept.agrees (kept : Kept authority gauntletAdmitted session) :
    ∃ replay, Agrees authority gauntletAdmitted session replay := by
  obtain ⟨replay, reads, related⟩ := kept
  have valid : Replay.Prism.validateEncounter authority gauntletAdmitted session.journal =
      .ok (status session) := by
    simp only [Replay.Prism.validateEncounter, bind_eq_ok, rejectIf_eq_ok, exists_const, pure_eq_ok]
    refine ⟨replay, reads, ?_, related.report⟩
    rintro ⟨started, event, member, isForeign | strange⟩
    · exact related.tape.solo.not_foreign ⟨event, member, isForeign⟩
    · cases chosen : session.encounter with
      | none =>
          obtain ⟨rfl, -⟩ := related.before chosen
          cases started
      | some encounter =>
          rw [(related.fight encounter chosen).deaths event member] at strange
          cases strange
  refine ⟨replay, reads, valid, ?_, ?_, ?_, ?_, ?_, ?_, ?_⟩
  · cases chosen : session.encounter with
    | none =>
        obtain ⟨rfl, -⟩ := related.before chosen
        rfl
    | some encounter =>
        rw [(related.fight encounter chosen).bossKnown]
        rfl
  · cases chosen : session.encounter with
    | none =>
        obtain ⟨rfl, -⟩ := related.before chosen
        simp [PrismSession.prismFighting, chosen, Replay.Prism.ReplayState.initial]
    | some encounter =>
        have fight := related.fight encounter chosen
        simpa [PrismSession.prismFighting, chosen, fight.bossKnown] using fight.active
  · intro encounter chosen
    have brain := (related.fight encounter chosen).brain
    rw [← brain]
    exact ⟨(Replay.Prism.settled_phase _ _ _).1.symm, (Replay.Prism.settled_phase _ _ _).2.symm⟩
  · intro encounter chosen
    exact (related.fight encounter chosen).standing
  · intro encounter boss chosen found
    exact ((related.fight encounter chosen).boss boss found).symm
  · intro done
    rw [← related.report] at done
    cases chosen : session.encounter with
    | none =>
        obtain ⟨rfl, -⟩ := related.before chosen
        cases done
    | some encounter =>
        have fight := related.fight encounter chosen
        refine fight.cleared ?_
        simp only [Replay.Prism.ReplayState.report, fight.bossKnown, Option.map_some,
          Option.some.injEq] at done
        cases state : replay.state <;> simp_all [Replay.Prism.PrismStatus.report]
  · intro player known found
    obtain ⟨encounter, chosen⟩ := Option.isSome_iff_exists.mp known
    exact ((related.fight encounter chosen).health player found).symm

/-- Every run of a Prism encounter agrees with its validator, whatever the
challenges' authority answers to the completion and however often it is asked
again. -/
theorem prism_agrees (authority : List ReplayEvent → ReplayEvent → Except ReplayError Bool)
    (opening live : PrismSession) (opened : Opened opening)
    (path : Relation.ReflTransGen PrismSession.Step opening live) :
    ∃ replay, Agrees authority false live replay :=
  (Kept.run opened path).agrees

/-! A run that enters, sees the first lane announced late and withdraws. -/

open PrismSession

def enteredSession : PrismSession :=
  ((clearedSession.advance 10).movePlayer (handlePrismMovement 9) Ai.Prism.entrance (some ⟨6, 12⟩)
    none 9).getD clearedSession

def warnedSession : PrismSession :=
  (tickPrism (enteredSession.advance 800) (some ⟨7, 2000⟩) none).getD clearedSession

def withdrawnSession : PrismSession :=
  ((warnedSession.advance 2500).movePlayer (handlePrismMovement 10) ⟨0, 0, 0⟩ (some ⟨8, 2600⟩)
    none 10).getD clearedSession

theorem withdrawn_reached : Relation.ReflTransGen Step clearedSession withdrawnSession := by
  have enter : Step clearedSession enteredSession :=
    .move 10 Ai.Prism.entrance 9 (some ⟨6, 12⟩) none (by decide) (by decide) (Or.inr rfl) rfl
  have warn : Step enteredSession warnedSession :=
    .tick 800 (some ⟨7, 2000⟩) none (by decide) rfl
  have withdraw : Step warnedSession withdrawnSession :=
    .move 2500 ⟨0, 0, 0⟩ 10 (some ⟨8, 2600⟩) none (by decide) (by decide) (Or.inl rfl) rfl
  exact ((Relation.ReflTransGen.single enter).tail warn).tail withdraw

theorem prism_agrees_withdrawn :
    withdrawnSession.journal.length = 8 ∧
      ∃ replay, Agrees (fun _ _ => .ok false) false withdrawnSession replay :=
  ⟨rfl, prism_agrees _ clearedSession withdrawnSession clearedSession_opened withdrawn_reached⟩

end Prism
end Agreement
end Revenant
