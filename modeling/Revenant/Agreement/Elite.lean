import Revenant.Agreement.Tape
import Revenant.Gateway.Elite

namespace Revenant
namespace Agreement

open Library Replay Gateway

/-!
# The elite encounter: live session and replay

The validator's brain stands one confirmation behind the live one, and the
instant that is missing is the one the next row carries.  `Fight.brain` says
that the two are equal once that instant is put in.

`Related` is the simulation relation: `Fight` while a composition is under
way, and nothing but the common background before a route is chosen.  A write
may be refused or take any time, and an operation that fails halfway has still
written what it wrote, so the relation is kept by those as well.
-/

namespace Elite

open Ai.Elite (EliteComposition EliteAction EliteBrain livingEnemy)

/-- Who takes part, on both sides. -/
structure Cast (session : EliteSession) (encounter : EliteEncounter)
    (replay : Replay.Elite.ReplayState) : Prop where
  player : encounter.playerId = session.player.actorId
  guardApart : encounter.bulwarkId ≠ session.player.actorId
  partnerApart : encounter.partnerId ≠ session.player.actorId
  distinct : encounter.bulwarkId ≠ encounter.partnerId
  words : encounter.bulwarkId ≤ u64Max ∧ encounter.partnerId ≤ u64Max
  composition : replay.encounter = some encounter.composition
  owner : replay.owner = session.player.accountId
  playerActor : replay.player.id = session.player.actorId
  playerKind : replay.player.kind = .player
  guard : replay.guard.id = encounter.bulwarkId
  guardPlace : replay.guard.position = Ai.Bulwark.spawn
  partner : replay.partner.id = encounter.partnerId

/-- The chosen encounter against the validator's variables.  `brain` ties the
two brains at the instant of the last confirmation; `guard`, `partner` and
`health` tie the actors as long as they are in the world; the rest says when the
encounter is active and what its end has left. -/
structure Fight (session : EliteSession) (encounter : EliteEncounter)
    (replay : Replay.Elite.ReplayState) : Prop where
  cast : Cast session encounter replay
  spawned : ∃ event ∈ session.journal, event.actorId = some encounter.bulwarkId
  deaths : ∀ event ∈ session.journal, Replay.Elite.strangeDeath replay event = false
  state : session.objective = some replay.state
  active : encounter.active = true ↔ replay.state = .active
  onDoor : encounter.active = true → session.stage = .door
  clocks : encounter.active = true → session.combatStarted = encounter.startedAt
  inside : encounter.active = true → ∀ player,
    session.actors.get session.player.actorId = some player →
      Ai.Bulwark.arenaContains player.position
  brain : ∃ brain, replay.brain = some brain ∧
    Replay.Elite.settled brain replay.pendingAction replay.pendingDeath encounter.confirmedMs =
      encounter.brain
  aimed : encounter.brain.Aimed
  confirmed : replay.lastTime ≤ encounter.confirmedMs ∧
    encounter.confirmedMs ≤ elapsedMillis encounter.startedAt session.clock
  healths : replay.guard.maxHealth ≤ 1000 ∧ replay.partner.maxHealth ≤ 1000
  guard : Shadow encounter.active (session.actors.get encounter.bulwarkId) replay.guard
  partner : Shadow encounter.active (session.actors.get encounter.partnerId) replay.partner
  health : ∀ player, session.actors.get session.player.actorId = some player →
    player.health = replay.player.health
  defeated : replay.player.health = 0 → session.stage = .failed
  cleared : replay.state = .completed → replay.guard.health = 0 ∧ replay.partner.health = 0

/-- The simulation relation. -/
structure Related (session : EliteSession) (replay : Replay.Elite.ReplayState) : Prop where
  tape : Tape Replay.Elite.own session
  bounded : ∀ player, session.actors.get session.player.actorId = some player →
    player.health ≤ u32Max
  before : session.encounter = none → replay = .initial ∧ session.objective = none ∧ ∀ player,
    session.actors.get session.player.actorId = some player → 0 < player.health
  fight : ∀ encounter, session.encounter = some encounter → Fight session encounter replay

variable {session next stored : EliteSession} {replay : Replay.Elite.ReplayState}
  {encounter : EliteEncounter} {elapsedMs : Nat}

abbrev Moves (session next : EliteSession) (replay : Replay.Elite.ReplayState) : Prop :=
  Matches Replay.Elite.applyEvent Session.journal Related session next replay

theorem Related.advance (related : Related session replay) {now : Nat}
    (later : session.clock ≤ now) : Related (session.advance now) replay :=
  { tape := ⟨related.tape.solo, related.tape.elsewhere⟩
    bounded := related.bounded
    before := related.before
    fight := fun encounter chosen =>
      have fight := related.fight encounter chosen
      { fight with
        cast := { fight.cast with }
        confirmed := ⟨fight.confirmed.1, le_trans fight.confirmed.2 (elapsedMillis_mono _ later)⟩ } }

variable {position : Position}

/-- A step that an active encounter keeps stays in its arena. -/
theorem Related.place (related : Related session replay)
    (stays : ∀ encounter, session.encounter = some encounter → encounter.active = true →
      Ai.Bulwark.arenaContains position) : Related (session.place position) replay := by
  refine
    { tape := ⟨related.tape.solo, related.tape.elsewhere⟩
      bounded := ?_
      before := ?_
      fight := ?_ }
  · intro player found
    obtain ⟨old, oldFound, rfl⟩ := get_place_player found
    exact related.bounded old oldFound
  · intro unchosen
    refine ⟨(related.before unchosen).1, (related.before unchosen).2.1, ?_⟩
    intro player found
    obtain ⟨old, oldFound, rfl⟩ := get_place_player found
    exact (related.before unchosen).2.2 old oldFound
  · intro encounter chosen
    have fight := related.fight encounter chosen
    refine
      { fight with
        cast := { fight.cast with }
        inside := ?_
        guard := ?_
        partner := ?_
        health := ?_ }
    · intro active player found
      obtain ⟨old, -, rfl⟩ := get_place_player found
      exact stays encounter chosen active
    · rw [get_place_other fight.cast.guardApart]
      exact fight.guard
    · rw [get_place_other fight.cast.partnerApart]
      exact fight.partner
    · intro player found
      obtain ⟨old, oldFound, rfl⟩ := get_place_player found
      exact fight.health old oldFound

/-! ## Rows of the encounter -/

theorem wordPosition_of_arena {place : Position} (inside : Ai.Bulwark.arenaContains place) :
    WordPosition place :=
  wordPosition_of_small (by simp only [Ai.Bulwark.arenaContains] at inside; omega) inside.1
    (by simp only [Ai.Bulwark.arenaContains] at inside; omega)

theorem wordPosition_toNorth {place : Position} (inside : Ai.Lancer.arenaContains place) :
    WordPosition (Ai.Elite.toNorth place) := by
  simp only [Ai.Lancer.arenaContains] at inside
  exact wordPosition_of_small (by simp only [Ai.Elite.toNorth]; omega) inside.1
    (by simp only [Ai.Elite.toNorth]; omega)

variable {brain proposed : EliteBrain} {action : EliteAction}

/-- A decided action is short enough to be recorded. -/
theorem words_fromAction {guard partner : Option Actor} {place : Position} {health : Nat}
    (decided : EliteBrain.Decided brain elapsedMs guard partner place action proposed)
    (aimed : brain.Aimed) (healthWord : health ≤ u32Max)
    (guardWords : ∀ actor, guard = some actor → actor.id ≤ u64Max ∧ actor.health ≤ actor.maxHealth ∧
      actor.maxHealth ≤ 1000) : (EliteStep.fromAction action health).toJson.Words := by
  have left : health - 0 ≤ u64Max := by unfold u32Max u64Max at *; omega
  cases decided with
  | defense actor move defense found acted action_eq charge_eq =>
      subst action_eq
      obtain ⟨-, -, -, ⟨-, rfl, -⟩ | ⟨-, rfl, -⟩⟩ := Ai.Bulwark.SteelBulwark.tick_cases acted
      · have bound : Ai.Bulwark.slamDamage brain.defense.facing actor.position place ≤ 14 :=
          Ai.Bulwark.slamDamage_le _ _ _
        exact ⟨trivial, words_vector _, words_natural (by unfold u64Max; omega),
          words_natural (by omega), trivial⟩
      · exact ⟨trivial, words_vector _, trivial⟩
  | charge actor move charge found acted action_eq charge_eq =>
      subst action_eq
      obtain ⟨target, originInside, targetInside, rfl, -⟩ |
        ⟨locked, damage, open', bound, rfl, -⟩ := Ai.Elite.northPadTick_cases acted
      · exact ⟨trivial, words_position (wordPosition_toNorth originInside),
          words_position (wordPosition_toNorth targetInside), trivial⟩
      · obtain ⟨originInside, targetInside⟩ := aimed locked open'
        have small : damage ≤ 18 := bound
        exact ⟨trivial, words_position (wordPosition_toNorth originInside),
          words_position (wordPosition_toNorth targetInside),
          words_natural (by unfold u64Max; omega), words_natural (by omega), trivial⟩
  | repair actor ally move repair found target acted action_eq charge_eq =>
      subst action_eq
      obtain ⟨rfl, -, -⟩ := Ai.Support.RelayMender.tick_single_some acted
      obtain ⟨idWord, healthy, bound⟩ := guardWords ally target
      refine ⟨trivial, words_natural idWord, words_natural ?_, words_natural ?_, words_natural ?_,
        trivial⟩
      all_goals
        simp only [Ai.Support.RelayMender.repair, Ai.Support.repairAmount]
        unfold u64Max
        omega

variable {row : ReplayEvent}

variable {write : Option Write} {confirmed : EliteEncounter}

/-- A stored row of the encounter that the validator accepts is one recorded
move; `kept` says what the operation then leaves behind.  The row carries the
confirmation the validator waits for, so its brain is the live one. -/
theorem moves_recorded {transition : EliteTransition} {death : Option Nat}
    {middle : Replay.Elite.ReplayState} (related : Related session replay)
    (chosen : session.encounter = some encounter) (active : encounter.active = true)
    (elapsed : elapsedMs = elapsedMillis encounter.startedAt session.clock)
    (recorded : EliteSession.recordElite session encounter write elapsedMs transition death =
      some (confirmed, stored)) (later : ∀ composition bulwarkId partnerId health,
      transition ≠ .started composition bulwarkId partnerId health)
    (fatal : ∀ actorId, death = some actorId → ∃ position damage healthBefore,
      transition = .attack actorId position damage healthBefore 0)
    (words : (Replay.EliteEvidence.transitionJson transition).Words)
    (applied : Replay.Elite.applyTransition
      { replay with brain := some encounter.brain, pendingAction := none, pendingDeath := none }
      encounter.brain death.isSome elapsedMs transition = .ok middle)
    (kept : ∀ row clock, Ordinary Replay.Elite.own row → session.clock ≤ clock →
      confirmed = { encounter with confirmedMs := elapsedMillis encounter.startedAt clock } →
      stored = { session with
        journal := session.journal ++ [row], clock, encounter := some confirmed } →
      elapsedMs ≤ elapsedMillis encounter.startedAt clock →
        next.journal = session.journal ++ [row] ∧
          Related next { middle with lastTime := elapsedMs }) : Moves session next replay := by
  have fight := related.fight encounter chosen
  simp only [EliteSession.recordElite, Option.bind_eq_bind, Option.bind_eq_some_iff,
    Option.pure_def, Option.some.injEq, Prod.mk.injEq] at recorded
  obtain ⟨appended, appendedAs, confirmedAs, storedAs⟩ := recorded
  obtain ⟨done, -, follows, rfl⟩ := Session.appendEvent_eq_some.mp appendedAs
  generalize written : session.row done (if death.isSome then .enemyDied else .fieldActivity)
    (some (death.getD encounter.playerId))
    (.elite (encodeEliteEvidence ⟨elapsedMs, encounter.confirmedMs, transition⟩)) = row at *
  have kind : row.kind = if death.isSome then .enemyDied else .fieldActivity := by
    rw [← written]; rfl
  have payload : row.payload =
      .elite (encodeEliteEvidence ⟨elapsedMs, encounter.confirmedMs, transition⟩) := by
    rw [← written]; rfl
  have ordinary : Ordinary Replay.Elite.own row := by
    unfold Ordinary
    rw [kind, payload]
    cases death <;> rfl
  have reached : elapsedMs ≤ elapsedMillis encounter.startedAt done.returned :=
    elapsed ▸ elapsedMillis_mono _ follows.1
  have confirmedThen : confirmed =
      { encounter with confirmedMs := elapsedMillis encounter.startedAt done.returned } := by
    rw [← confirmedAs]
    simp only [EliteEncounter.confirmed, Session.stored, max_eq_left reached]
  obtain ⟨grown, after⟩ := kept row done.returned ordinary follows.1 confirmedThen (by
    rw [← storedAs, confirmedAs]
    simp only [Session.stored, written]) reached
  refine .recorded row _ grown (Replay.Elite.stable_append ordinary.notJoined ?_) ?_ after
  · intro old member
    rw [← written]
    exact follows.2 old member
  · have timely := elapsed ▸ fight.confirmed.2
    have confirmedWord : encounter.confirmedMs ≤ u64Max :=
      le_trans fight.confirmed.2 (elapsedMillis_le _ _)
    have short : (encodeEliteEvidence ⟨elapsedMs, encounter.confirmedMs, transition⟩).length ≤ 2048 :=
      encodeEliteEvidence_length
      ⟨words_natural (elapsed ▸ elapsedMillis_le _ _), words_natural confirmedWord, words, trivial⟩
      (fun composition bulwarkId partnerId health start =>
        absurd start (later composition bulwarkId partnerId health))
    have state : replay.state = .active := fight.active.mp active
    obtain ⟨brain, brainKnown, settled⟩ := fight.brain
    rw [Replay.Elite.applyEvent_recorded (by rw [kind]; cases death <;> rfl) payload short rfl
      later]
    simp only [Replay.Elite.applyRecorded, bind_eq_ok, rejectIf_eq_ok, exists_const, pure_eq_ok,
      require_eq_ok]
    refine ⟨brain, brainKnown, ?_, ?_, middle, ?_, rfl⟩
    · rw [kind, state, ← written]
      have notEarlier := le_trans fight.confirmed.1 timely
      cases death with
      | none =>
          simp [Session.row, fight.cast.owner, fight.cast.player, fight.cast.playerActor]
          omega
      | some actorId =>
          obtain ⟨position, damage, healthBefore, rfl⟩ := fatal actorId rfl
          simp [Session.row, fight.cast.owner, Replay.Elite.isFatal]
          omega
    · have lower := fight.confirmed.1
      omega
    · rw [kind, settled]
      cases death <;> exact applied

/-- An encounter that ends takes both enemies away and nothing from the player. -/
theorem Related.ended {pendingAction : Option EliteAction} {pendingDeath : Option Nat}
    (related : Related session replay) (chosen : session.encounter = some encounter) {clock : Nat}
    {actors : ActorRegistry} {combat : CombatRuntime} {enemyId : Option Nat} {guard partner : Actor}
    {state : EncounterState} (ordinary : Ordinary Replay.Elite.own row) (isOver : state ≠ .active)
    (untouched : ∀ player, actors.get session.player.actorId = some player →
      session.actors.get session.player.actorId = some player)
    (guardKept : guard.id = replay.guard.id ∧ guard.maxHealth = replay.guard.maxHealth ∧
      guard.position = replay.guard.position)
    (partnerKept : partner.id = replay.partner.id ∧ partner.maxHealth = replay.partner.maxHealth)
    (cleared : state = .completed → guard.health = 0 ∧ partner.health = 0)
    (confirmedThen : confirmed =
      { encounter with
        confirmedMs := elapsedMillis encounter.startedAt clock
        brain := Replay.Elite.settled brain pendingAction pendingDeath
          (elapsedMillis encounter.startedAt clock) }) (aimed : confirmed.brain.Aimed)
    (reached : elapsedMs ≤ elapsedMillis encounter.startedAt clock) :
    Related
      (EliteSession.finishElite
        { session with
          journal := session.journal ++ [row], clock, actors, combat, enemyId
          encounter := some confirmed } confirmed state)
      { replay with
        guard, partner, state, pendingAction, pendingDeath, brain := some brain
        lastTime := elapsedMs } := by
  have fight := related.fight encounter chosen
  subst confirmedThen
  have stillThere : ∀ player,
      (((actors.destroy encounter.bulwarkId).destroy encounter.partnerId).get
        session.player.actorId = some player →
      session.actors.get session.player.actorId = some player) := by
    intro player found
    refine untouched player ?_
    simpa only [ActorRegistry.get_destroy, if_neg (Ne.symm fight.cast.guardApart),
      if_neg (Ne.symm fight.cast.partnerApart)] using found
  refine
    { tape := related.tape.append ordinary rfl rfl rfl
      bounded := fun player found => related.bounded player (stillThere player found)
      before := fun missing => by cases missing
      fight := ?_ }
  intro encounter' chosen'
  cases chosen'
  exact
    { cast :=
        { fight.cast with
          guard := guardKept.1.trans fight.cast.guard
          guardPlace := guardKept.2.2.trans fight.cast.guardPlace
          partner := partnerKept.1.trans fight.cast.partner }
      spawned := named_append fight.spawned _
      deaths := by
        have deaths := Ordinary.deaths_append fight.deaths ordinary
        simp only [Replay.Elite.strangeDeath, guardKept.1, partnerKept.1] at deaths ⊢
        exact deaths
      state := rfl
      active := by simpa using isOver
      onDoor := fun impossible => by cases impossible
      clocks := fun impossible => by cases impossible
      inside := fun impossible => by cases impossible
      brain := ⟨brain, rfl, rfl⟩
      aimed := aimed
      confirmed := ⟨reached, le_refl _⟩
      healths := by rw [guardKept.2.1, partnerKept.2]; exact fight.healths
      guard := by
        simp only [EliteSession.finishElite, Session.withdraw, ActorRegistry.get_destroy,
          if_true, if_neg fight.cast.distinct]
        exact .of_gone
      partner := by
        simp only [EliteSession.finishElite, Session.withdraw, ActorRegistry.get_destroy, if_true]
        exact .of_gone
      health := fun player found => fight.health player (stillThere player found)
      defeated := fight.defeated
      cleared := cleared }

/-! ## Leaving the arena -/

theorem moves_abandoned (related : Related session replay)
    (chosen : session.encounter = some encounter) (active : encounter.active = true)
    (elapsed : elapsedMs = elapsedMillis encounter.startedAt session.clock)
    (recorded : EliteSession.recordElite session encounter write elapsedMs .abandoned none =
      some (confirmed, stored)) :
    Moves session (EliteSession.finishElite stored confirmed .failed) replay := by
  refine moves_recorded related chosen active elapsed recorded (fun _ _ _ _ same => by cases same)
    (fun _ same => by cases same) ⟨trivial, trivial⟩ rfl ?_
  rintro row clock ordinary later confirmedThen rfl reached
  refine ⟨rfl, ?_⟩
  exact related.ended chosen ordinary (by decide) (fun _ found => found) ⟨rfl, rfl, rfl⟩ ⟨rfl, rfl⟩
    (fun impossible => by cases impossible) confirmedThen
    (confirmedThen ▸ (related.fight encounter chosen).aimed) reached

/-! ## The brain's steps -/

/-- What the brain sees of an enemy on either side. -/
theorem living_shadow {found : Option Actor} {copy : Actor} (shadow : Shadow true found copy)
    (id : Nat) : ∃ archetype, found.filter (fun actor => livingEnemy actor id) =
      ((some copy).filter (fun actor => livingEnemy actor id)).map
        (fun actor => { actor with archetype }) := by
  cases answer : found with
  | none =>
      have dead := shadow.absent rfl answer
      refine ⟨"", ?_⟩
      have notLiving : ¬ livingEnemy copy id := fun living => by
        have alive := living.2.2.1
        omega
      simp only [Option.filter, decide_eq_false notLiving]
      rfl
  | some live =>
      have mirrors := shadow.present live answer
      refine ⟨live.archetype, ?_⟩
      have same : livingEnemy live id ↔ livingEnemy copy id := by
        rw [mirrors.same]
      by_cases living : livingEnemy copy id
      · simp only [Option.filter, decide_eq_true living, decide_eq_true (same.mpr living)]
        exact congrArg some mirrors.same
      · simp only [Option.filter, decide_eq_false living, decide_eq_false (mt same.mp living)]
        rfl

variable {player : Actor}

/-- The validator's tick is the live one. -/
theorem replayed_tick {result : Option (EliteAction × EliteBrain)}
    (fight : Fight session encounter replay) (active : encounter.active = true)
    (found : session.actors.get session.player.actorId = some player)
    (isPlayer : player.kind = .player)
    (ticked : encounter.brain.tick elapsedMs (session.actors.get encounter.bulwarkId)
      (session.actors.get encounter.partnerId) player = result) :
    encounter.brain.tick elapsedMs (some replay.guard) (some replay.partner)
      { replay.player with position := player.position } = result := by
  have guardShadow := fight.guard
  have partnerShadow := fight.partner
  rw [active] at guardShadow partnerShadow
  obtain ⟨guardType, guardSame⟩ := living_shadow guardShadow encounter.brain.bulwarkId
  obtain ⟨partnerType, partnerSame⟩ := living_shadow partnerShadow encounter.brain.partnerId
  have same : encounter.brain.tick elapsedMs (session.actors.get encounter.bulwarkId)
      (session.actors.get encounter.partnerId) player =
        encounter.brain.tick elapsedMs (some replay.guard) (some replay.partner)
          { replay.player with position := player.position } :=
    EliteBrain.tick_copies guardType partnerType guardSame partnerSame
      (isPlayer.trans fight.cast.playerKind.symm) (fight.health player found) rfl
  exact same.symm.trans ticked

/-- The session after a step that dealt `damage` and left the two copies. -/
theorem Related.stepped (damage : Nat) (actors : ActorRegistry) (guard partner : Actor)
    (related : Related session replay) (chosen : session.encounter = some encounter)
    (active : encounter.active = true) {clock : Nat} (ordinary : Ordinary Replay.Elite.own row)
    (found : session.actors.get session.player.actorId = some player) (alive : player.health ≠ 0)
    (untouched : actors.get session.player.actorId = session.actors.get session.player.actorId)
    (guardKept : guard.id = replay.guard.id ∧ guard.maxHealth = replay.guard.maxHealth ∧
      guard.position = replay.guard.position)
    (partnerKept : partner.id = replay.partner.id ∧ partner.maxHealth = replay.partner.maxHealth)
    (guardShadow : Shadow true (actors.get encounter.bulwarkId) guard)
    (partnerShadow : Shadow true (actors.get encounter.partnerId) partner)
    (confirmedThen : confirmed =
      { encounter with
        confirmedMs := elapsedMillis encounter.startedAt clock
        brain := proposed.confirmAt action (elapsedMillis encounter.startedAt clock) })
    (aimed : proposed.Aimed) (reached : elapsedMs ≤ elapsedMillis encounter.startedAt clock) :
    Related
      (({ session with
          journal := session.journal ++ [row], clock, actors, encounter := some confirmed } :
        EliteSession).hurtPlayer { confirmed with active := false } confirmed.playerId player.health
          damage)
      { replay with
        guard, partner, brain := some proposed, pendingAction := some action, pendingDeath := none
        player := { replay.player with
          position := player.position, health := player.health - damage }
        state := if player.health - damage = 0 then .failed else replay.state
        lastTime := elapsedMs } := by
  have fight := related.fight encounter chosen
  have bounded := related.bounded player found
  have inside := fight.inside active player found
  have hurt : ∀ victim, (actors.applyDamage encounter.playerId damage).get
      session.player.actorId = some victim →
        victim = { player with health := player.health - damage } := by
    intro victim there
    simp only [ActorRegistry.get_applyDamage, fight.cast.player, if_true, untouched, found,
      Option.map_some, Option.some.injEq] at there
    exact there.symm
  rw [Session.hurtPlayer_eq _ _ _ _ alive]
  subst confirmedThen
  refine
    { tape := related.tape.append ordinary rfl rfl rfl
      bounded := ?_
      before := ?_
      fight := ?_ }
  · intro victim there
    rw [hurt victim there]
    exact le_trans (Nat.sub_le _ _) bounded
  · intro missing
    simp only at missing
    split at missing <;> cases missing
  · intro encounter' chosen'
    have left : encounter' =
        { encounter with
          confirmedMs := elapsedMillis encounter.startedAt clock
          brain := proposed.confirmAt action (elapsedMillis encounter.startedAt clock)
          active := if player.health - damage = 0 then false else encounter.active } := by
      simp only at chosen'
      split at chosen'
      · next fatal => cases chosen'; simp only [fatal, if_true]
      · next lives => cases chosen'; simp only [lives, if_false]
    subst left
    refine
      { cast :=
          { fight.cast with
            guard := guardKept.1.trans fight.cast.guard
            guardPlace := guardKept.2.2.trans fight.cast.guardPlace
            partner := partnerKept.1.trans fight.cast.partner }
        spawned := named_append fight.spawned _
        deaths := ?_
        state := ?_
        active := ?_
        onDoor := ?_
        clocks := fun _ => fight.clocks active
        inside := ?_
        brain := ⟨proposed, rfl, rfl⟩
        aimed := EliteBrain.confirmAt_aimed aimed action _
        confirmed := ⟨reached, le_refl _⟩
        healths := by rw [guardKept.2.1, partnerKept.2]; exact fight.healths
        guard := ?_
        partner := ?_
        health := ?_
        defeated := ?_
        cleared := ?_ }
    · have deaths := Ordinary.deaths_append fight.deaths ordinary
      simp only [Replay.Elite.strangeDeath, guardKept.1, partnerKept.1] at deaths ⊢
      exact deaths
    · simp only
      split
      · rfl
      · exact fight.state
    · simp only
      split
      · simp
      · exact fight.active
    · simp only
      split
      · intro impossible; cases impossible
      · exact fight.onDoor
    · intro _ victim there
      rw [hurt victim there]
      exact inside
    · simp only [ActorRegistry.get_applyDamage, fight.cast.player, if_neg fight.cast.guardApart]
      split
      · exact guardShadow.ended
      · rw [active]; exact guardShadow
    · simp only [ActorRegistry.get_applyDamage, fight.cast.player, if_neg fight.cast.partnerApart]
      split
      · exact partnerShadow.ended
      · rw [active]; exact partnerShadow
    · intro victim there
      rw [hurt victim there]
    · exact fun dead => if_pos dead
    · simp only [fight.active.mp active]
      split <;> intro impossible <;> cases impossible

/-- The validator's variables after it read a step. -/
def replayedStep (replay : Replay.Elite.ReplayState) (proposed : EliteBrain) (action : EliteAction)
    (player : Actor) : Replay.Elite.ReplayState :=
  let stepped := Replay.Elite.applyStep
    { replay with
      brain := some proposed, pendingAction := some action, pendingDeath := none
      player := { replay.player with position := player.position } }
    (EliteStep.fromAction action player.health)
  if stepped.player.health = 0 then { stepped with state := .failed } else stepped

/-- A step that hits the player, possibly for no damage, as one record. -/
theorem replayedStep_hit (damage : Nat) (guard partner : Actor) (read : Replay.Elite.applyStep
      { replay with
        brain := some proposed, pendingAction := some action, pendingDeath := none
        player := { replay.player with position := player.position } }
      (EliteStep.fromAction action player.health) =
        { replay with
          guard, partner, brain := some proposed, pendingAction := some action, pendingDeath := none
          player := { replay.player with
            position := player.position, health := player.health - damage } }) :
    replayedStep replay proposed action player =
      { replay with
        guard, partner, brain := some proposed, pendingAction := some action, pendingDeath := none
        player := { replay.player with
          position := player.position, health := player.health - damage }
        state := if player.health - damage = 0 then .failed else replay.state } := by
  unfold replayedStep
  simp only [read]
  split <;> rfl

theorem moves_step (related : Related session replay) (chosen : session.encounter = some encounter)
    (active : encounter.active = true)
    (elapsed : elapsedMs = elapsedMillis encounter.startedAt session.clock)
    (found : session.actors.get encounter.playerId = some player)
    (acted : encounter.brain.tick elapsedMs (session.actors.get encounter.bulwarkId)
      (session.actors.get encounter.partnerId) player = some (action, proposed))
    (recorded : EliteSession.recordElite session encounter write elapsedMs
      (.step player.position (EliteStep.fromAction action player.health)) none =
        some (confirmed, stored)) :
    Moves session
      (EliteSession.actElite
        { stored with
          encounter := some
            { confirmed with brain := proposed.confirmAt action confirmed.confirmedMs } }
        { confirmed with brain := proposed.confirmAt action confirmed.confirmedMs } player action)
      replay := by
  have fight := related.fight encounter chosen
  rw [fight.cast.player] at found
  obtain ⟨⟨isPlayer, alive, playerInside⟩, decided⟩ := EliteBrain.tick_decided acted
  have replayed := replayed_tick fight active found isPlayer acted
  have sameHealth := fight.health player found
  have guardShadow := fight.guard
  have partnerShadow := fight.partner
  rw [active] at guardShadow partnerShadow
  have guardWords : ∀ actor, (session.actors.get encounter.bulwarkId).filter
      (fun actor => livingEnemy actor encounter.brain.bulwarkId) = some actor →
        session.actors.get encounter.bulwarkId = some actor ∧ actor.id = encounter.bulwarkId ∧
          actor.health ≤ actor.maxHealth ∧ actor.maxHealth ≤ 1000 := by
    intro actor kept
    have there := (Option.filter_eq_some_iff.mp kept).1
    have mirrors := fight.guard.present actor there
    exact ⟨there, mirrors.id.trans fight.cast.guard, mirrors.healthy,
      mirrors.maxHealth ▸ fight.healths.1⟩
  have applied : Replay.Elite.applyTransition
      { replay with brain := some encounter.brain, pendingAction := none, pendingDeath := none }
      encounter.brain false elapsedMs
      (.step player.position (EliteStep.fromAction action player.health)) =
        .ok (replayedStep replay proposed action player) := by
    unfold replayedStep
    rw [sameHealth]
    simp only [Replay.Elite.applyTransition, bind_eq_ok, rejectIf_eq_ok, exists_const, pure_eq_ok,
      require_eq_ok]
    exact ⟨_, replayed, fun other => other rfl, rfl⟩
  refine moves_recorded related chosen active elapsed recorded (fun _ _ _ _ same => by cases same)
    (fun _ same => by cases same) ?_ applied ?_
  · refine ⟨trivial, words_position (wordPosition_of_arena playerInside),
      words_fromAction decided fight.aimed (related.bounded player found) ?_, trivial⟩
    intro actor kept
    obtain ⟨-, same, healthy, bound⟩ := guardWords actor kept
    exact ⟨same ▸ fight.cast.words.1, healthy, bound⟩
  · rintro row clock ordinary later rfl rfl reached
    have aimed := decided.aimed fight.aimed
    refine ⟨?_, ?_⟩
    · cases action with
      | defense move => cases move <;> simp [EliteSession.actElite, Session.hurtPlayer_eq _ _ _ _ alive]
      | charge move => cases move <;> simp [EliteSession.actElite, Session.hurtPlayer_eq _ _ _ _ alive]
      | repair move => simp only [EliteSession.actElite]; split <;> rfl
    · cases decided with
      | defense actor move defense _ _ action_eq _ =>
          subst action_eq
          cases move with
          | brace facing =>
              rw [replayedStep_hit 0 replay.guard replay.partner (by
                simp only [Replay.Elite.applyStep, EliteStep.fromAction, Nat.sub_zero, sameHealth])]
              exact related.stepped 0 session.actors replay.guard replay.partner chosen active
                ordinary found alive rfl ⟨rfl, rfl, rfl⟩ ⟨rfl, rfl⟩ guardShadow partnerShadow rfl
                aimed reached
          | slam facing damage =>
              rw [replayedStep_hit damage replay.guard replay.partner rfl]
              exact related.stepped damage session.actors replay.guard replay.partner chosen active
                ordinary found alive rfl ⟨rfl, rfl, rfl⟩ ⟨rfl, rfl⟩ guardShadow partnerShadow rfl
                aimed reached
      | charge actor move charge _ _ action_eq _ =>
          subst action_eq
          cases move with
          | windup origin target =>
              rw [replayedStep_hit 0 replay.guard replay.partner (by
                simp only [Replay.Elite.applyStep, EliteStep.fromAction, Nat.sub_zero, sameHealth])]
              exact related.stepped 0 session.actors replay.guard replay.partner chosen active
                ordinary found alive rfl ⟨rfl, rfl, rfl⟩ ⟨rfl, rfl⟩ guardShadow partnerShadow rfl
                aimed reached
          | resolved origin target damage =>
              rw [replayedStep_hit damage replay.guard
                { replay.partner with position := target } rfl]
              refine related.stepped damage
                (session.actors.updatePosition encounter.partnerId target) replay.guard
                { replay.partner with position := target } chosen active ordinary found alive ?_
                ⟨rfl, rfl, rfl⟩ ⟨rfl, rfl⟩ ?_ ?_ rfl aimed reached
              · simp only [ActorRegistry.get_updatePosition, if_neg (Ne.symm fight.cast.partnerApart)]
              · simp only [ActorRegistry.get_updatePosition, if_neg fight.cast.distinct]
                exact guardShadow
              · simp only [ActorRegistry.get_updatePosition, if_true]
                exact partnerShadow.move target
      | repair actor ally move repair _ target moved action_eq _ =>
          subst action_eq
          obtain ⟨there, sameId, healthy, bound⟩ := guardWords ally target
          obtain ⟨rfl, standing, wounded⟩ := Ai.Support.RelayMender.tick_single_some moved
          have mirrors := fight.guard.present ally there
          have restored : (Ai.Support.RelayMender.repair ally).healthAfter ≤ ally.maxHealth := by
            simp only [Ai.Support.RelayMender.repair]
            omega
          have kept : 0 < (Ai.Support.RelayMender.repair ally).healthAfter := by
            simp only [Ai.Support.RelayMender.repair]
            omega
          have answer : session.actors.get (Ai.Support.RelayMender.repair ally).targetId =
              some ally := by
            change session.actors.get ally.id = some ally
            rw [sameId, there]
          rw [replayedStep_hit 0
            { replay.guard with health := (Ai.Support.RelayMender.repair ally).healthAfter }
            replay.partner (by
              simp only [Replay.Elite.applyStep, EliteStep.fromAction, Nat.sub_zero, sameHealth])]
          simp only [EliteSession.actElite, answer]
          refine related.stepped 0
            (session.actors.insert
              { ally with health := (Ai.Support.RelayMender.repair ally).healthAfter })
            { replay.guard with health := (Ai.Support.RelayMender.repair ally).healthAfter }
            replay.partner chosen active ordinary found alive ?_ ⟨rfl, rfl, rfl⟩ ⟨rfl, rfl⟩ ?_ ?_
            rfl aimed reached
          · simp only [ActorRegistry.get_insert, sameId, if_neg (Ne.symm fight.cast.guardApart)]
          · simp only [ActorRegistry.get_insert, if_pos sameId.symm]
            exact .of_mirrors (mirrors.setHealth kept (mirrors.maxHealth ▸ restored))
          · simp only [ActorRegistry.get_insert, sameId, if_neg (Ne.symm fight.cast.distinct)]
            exact partnerShadow

theorem moves_tick (related : Related session replay)
    (ticked : EliteSession.tickElite session write = some next) : Moves session next replay := by
  unfold EliteSession.tickElite EliteSession.tickEliteAt at ticked
  cases chosen : session.encounter with
  | none =>
      rw [chosen] at ticked
      cases ticked
      exact .silent rfl related
  | some encounter =>
      simp only [chosen, Option.elim_some] at ticked
      split at ticked
      · cases ticked
        exact .silent rfl related
      · next running =>
        have active : encounter.active = true := by
          simp only [not_or, Bool.not_eq_false] at running
          exact running.1
        split at ticked
        · cases ticked
          exact .silent rfl related
        · next player found =>
          split at ticked
          · cases ticked
            exact .silent rfl related
          · next action proposed acted =>
            simp only [Option.bind_eq_bind, Option.bind_eq_some_iff, Option.pure_def,
              Option.some.injEq] at ticked
            obtain ⟨⟨confirmed, stored⟩, recorded, rfl⟩ := ticked
            exact moves_step related chosen active rfl found acted recorded

/-! ## The player's shots -/

theorem settled_aimed (aimed : brain.Aimed) (pendingDeath : Option Nat) (confirmedMs : Nat) :
    (Replay.Elite.settled brain none pendingDeath confirmedMs).Aimed := by
  cases pendingDeath with
  | none => exact aimed
  | some actorId => exact EliteBrain.retire_aimed aimed actorId confirmedMs

/-- A fight that goes on after a shot; the two copies took the hit as well. -/
theorem Related.struck {pendingDeath : Option Nat} (related : Related session replay)
    (chosen : session.encounter = some encounter) (active : encounter.active = true) {clock : Nat}
    {actors : ActorRegistry} {combat : CombatRuntime} {enemyId : Option Nat} {guard partner : Actor}
    (ordinary : Ordinary Replay.Elite.own row)
    (untouched : actors.get session.player.actorId = session.actors.get session.player.actorId)
    (guardKept : guard.id = replay.guard.id ∧ guard.maxHealth = replay.guard.maxHealth ∧
      guard.position = replay.guard.position)
    (partnerKept : partner.id = replay.partner.id ∧ partner.maxHealth = replay.partner.maxHealth)
    (guardShadow : Shadow true (actors.get encounter.bulwarkId) guard)
    (partnerShadow : Shadow true (actors.get encounter.partnerId) partner)
    (confirmedThen : confirmed =
      { encounter with
        confirmedMs := elapsedMillis encounter.startedAt clock
        brain := Replay.Elite.settled encounter.brain none pendingDeath
          (elapsedMillis encounter.startedAt clock) })
    (reached : elapsedMs ≤ elapsedMillis encounter.startedAt clock) :
    Related
      { session with
        journal := session.journal ++ [row], clock, actors, combat, enemyId
        encounter := some confirmed }
      { replay with
        guard, partner, brain := some encounter.brain, pendingAction := none, pendingDeath
        lastTime := elapsedMs } := by
  have fight := related.fight encounter chosen
  subst confirmedThen
  refine
    { tape := related.tape.append ordinary rfl rfl rfl
      bounded := fun player found => related.bounded player (untouched.symm.trans found)
      before := fun missing => by cases missing
      fight := ?_ }
  intro encounter' chosen'
  cases chosen'
  exact
    { cast :=
        { fight.cast with
          guard := guardKept.1.trans fight.cast.guard
          guardPlace := guardKept.2.2.trans fight.cast.guardPlace
          partner := partnerKept.1.trans fight.cast.partner }
      spawned := named_append fight.spawned _
      deaths := by
        have deaths := Ordinary.deaths_append fight.deaths ordinary
        simp only [Replay.Elite.strangeDeath, guardKept.1, partnerKept.1] at deaths ⊢
        exact deaths
      state := fight.state
      active := fight.active
      onDoor := fight.onDoor
      clocks := fight.clocks
      inside := fun fighting player found =>
        fight.inside fighting player (untouched.symm.trans found)
      brain := ⟨encounter.brain, rfl, rfl⟩
      aimed := settled_aimed fight.aimed _ _
      confirmed := ⟨reached, le_refl _⟩
      healths := by rw [guardKept.2.1, partnerKept.2]; exact fight.healths
      guard := by simpa only [active] using guardShadow
      partner := by simpa only [active] using partnerShadow
      health := fun player found => fight.health player (untouched.symm.trans found)
      defeated := fight.defeated
      cleared := fun done => by cases (fight.active.mp active).symm.trans done }

/-- The validator strikes the same copy. -/
theorem applyTransition_attack (replay : Replay.Elite.ReplayState) (elapsedMs : Nat)
    {targetId damage : Nat} {target : Actor} {blocked : Bool}
    (distinct : replay.guard.id ≠ replay.partner.id) (unsettled : replay.pendingDeath = none)
    (aimed : (targetId = replay.guard.id ∧ replay.guard.health = target.health ∧
        blocked = decide (brain.defense.blocks replay.guard.position position)) ∨
      targetId = replay.partner.id ∧ replay.partner.health = target.health ∧ blocked = false)
    (inside : Ai.Bulwark.arenaContains position) (alive : 0 < target.health)
    (harmless : decide (damage = 0) = blocked) :
    Replay.Elite.applyTransition replay brain (decide (target.health - damage = 0)) elapsedMs
      (.attack targetId position damage target.health (target.health - damage)) =
      .ok (Replay.Elite.settle
        { replay with
          guard := struckCopy replay.guard targetId (target.health - damage)
          partner := struckCopy replay.partner targetId (target.health - damage)
          pendingDeath :=
            if decide (target.health - damage = 0) = true then some targetId else none }) := by
  have hit : ∀ copy : Actor, copy.health = target.health →
      Replay.Elite.hitTarget copy (decide (target.health - damage = 0)) blocked position damage
        target.health (target.health - damage) =
          .ok { copy with health := target.health - damage } := by
    intro copy same
    simp only [Replay.Elite.hitTarget, bind_eq_ok, rejectIf_eq_ok, exists_const, pure_eq_ok]
    refine ⟨?_, trivial⟩
    rintro (outside | dead | other | other | other | other)
    · exact outside inside
    · omega
    · exact other same
    · exact other harmless
    · exact other rfl
    · exact other rfl
  rcases aimed with ⟨rfl, same, rfl⟩ | ⟨rfl, same, rfl⟩
  · simp only [Replay.Elite.applyTransition, if_true, hit _ same, struckCopy,
      if_neg (Ne.symm distinct), unsettled]
    rfl
  · simp only [Replay.Elite.applyTransition, if_true, hit _ same, struckCopy, if_neg distinct,
      if_neg (Ne.symm distinct), unsettled]
    rfl

/-- The live encounter once a hit is settled: a death retires its actor. -/
def settledEncounter (confirmed : EliteEncounter) (targetId : Nat) (killed : Bool) : EliteEncounter :=
  if killed then
    { confirmed with brain := confirmed.brain.retire targetId confirmed.confirmedMs }
  else confirmed

/-- What a recorded hit leaves: both enemies gone ends the encounter, and the
registry otherwise lost a killed target. -/
theorem struck_outcome {damage targetId : Nat} {killed : Bool} {guard partner : Actor}
    (struckSession : EliteSession)
    (actors : struckSession.actors = session.actors.applyDamage targetId damage)
    (encountered : struckSession.encounter = some confirmed)
    (guardShadow : Shadow true ((afterShot session.actors targetId damage killed).get
      confirmed.bulwarkId) guard)
    (partnerShadow : Shadow true ((afterShot session.actors targetId damage killed).get
      confirmed.partnerId) partner)
    (standing : killed = false → guard.health ≠ 0 ∨ partner.health ≠ 0)
    (outcome : (if killed = true then
        let encounter :=
          { confirmed with brain := confirmed.brain.retire targetId confirmed.confirmedMs }
        let session := { struckSession with encounter := some encounter }.withdraw targetId
        let session := { session with enemyId := EliteSession.survivor session encounter }
        some (if session.enemyId = none then EliteSession.finishElite session encounter .completed
          else session)
      else some struckSession) = some next) :
    ∃ enemyId, next =
      if guard.health = 0 ∧ partner.health = 0 then
        EliteSession.finishElite
          { struckSession with
            actors := afterShot session.actors targetId damage killed, enemyId
            encounter := some (settledEncounter confirmed targetId killed) }
          (settledEncounter confirmed targetId killed) .completed
      else
        { struckSession with
          actors := afterShot session.actors targetId damage killed, enemyId
          encounter := some (settledEncounter confirmed targetId killed) } := by
  cases killed with
  | false =>
      cases outcome
      refine ⟨next.enemyId, ?_⟩
      rw [if_neg (by have := standing rfl; tauto)]
      simp only [afterShot, settledEncounter, Bool.false_eq_true, if_false, ← actors, ← encountered]
  | true =>
      simp only [if_true, Option.some.injEq] at outcome
      subst outcome
      have bothGone : (guard.health = 0 ∧ partner.health = 0) ↔
          EliteSession.survivor
            ({ struckSession with
              encounter := some (settledEncounter confirmed targetId true) }.withdraw targetId)
            (settledEncounter confirmed targetId true) = none := by
        rw [guardShadow.gone, partnerShadow.gone]
        simp only [EliteSession.survivor, settledEncounter, Session.withdraw, afterShot, if_true,
          actors, List.find?_cons, List.find?_nil]
        cases (((session.actors.applyDamage targetId damage).destroy targetId).get
          confirmed.bulwarkId) <;>
        cases (((session.actors.applyDamage targetId damage).destroy targetId).get
          confirmed.partnerId) <;> simp
      refine ⟨EliteSession.survivor
        ({ struckSession with
          encounter := some (settledEncounter confirmed targetId true) }.withdraw targetId)
        (settledEncounter confirmed targetId true), ?_⟩
      by_cases gone : guard.health = 0 ∧ partner.health = 0
      · rw [if_pos gone]
        have none := bothGone.mp gone
        simp only [settledEncounter, if_true] at none ⊢
        rw [if_pos none]
        simp only [Session.withdraw, afterShot, if_true, actors]
      · rw [if_neg gone]
        have some' := mt bothGone.mpr gone
        simp only [settledEncounter, if_true] at some' ⊢
        rw [if_neg some']
        simp only [Session.withdraw, afterShot, if_true, actors]

theorem moves_attack {targetId : Nat} (related : Related session replay)
    (chosen : session.encounter = some encounter) (active : encounter.active = true)
    (elapsed : elapsedMs = elapsedMillis encounter.startedAt session.clock)
    (attacked : EliteSession.attackElite session targetId write elapsedMs = some next) :
    Moves session next replay := by
  have fight := related.fight encounter chosen
  have guardShadow := fight.guard
  have partnerShadow := fight.partner
  rw [active, ← fight.cast.guard] at guardShadow
  rw [active, ← fight.cast.partner] at partnerShadow
  unfold EliteSession.attackElite at attacked
  simp only [chosen] at attacked
  split at attacked
  · cases attacked
  · next aimed =>
    simp only [not_or, not_and_or, not_not] at aimed
    simp only [Option.bind_eq_bind, Option.bind_eq_some_iff, Option.pure_def] at attacked
    obtain ⟨player, playerFound, profile, resolved, ⟨result, actors, combat⟩, shot, target,
      targetFound, ⟨confirmed, stored⟩, recorded, outcome⟩ := attacked
    obtain ⟨attacker, struck, accepted⟩ := Session.shoot_accepted shot
    obtain rfl : struck = target := Option.some.inj (accepted.target_found.symm.trans targetFound)
    have harmful := Session.positionedAttackProfile_damage resolved
    have playerInside := fight.inside active player playerFound
    obtain rfl := accepted.actors_eq
    simp only [accepted.damage_eq, accepted.remaining_eq, accepted.killed_eq] at recorded outcome
    generalize dealt : encounter.dealt targetId player.position profile.damage = damage at *
    unfold EliteEncounter.dealt at dealt
    have harmless : decide (damage = 0) = decide (targetId = encounter.bulwarkId ∧
        encounter.brain.defense.blocks Ai.Bulwark.spawn player.position) := by
      rw [← dealt]
      split
      · next blocked => rw [decide_eq_true rfl, decide_eq_true blocked]
      · next open' => rw [decide_eq_false (by omega), decide_eq_false open']
    have damageBound : damage ≤ 100 := by
      rw [← dealt]
      split <;> omega
    have distinct : replay.guard.id ≠ replay.partner.id := by
      rw [fight.cast.guard, fight.cast.partner]
      exact fight.cast.distinct
    have otherThanPlayer : session.player.actorId ≠ targetId := by
      rcases aimed.2 with rfl | rfl
      · exact Ne.symm fight.cast.guardApart
      · exact Ne.symm fight.cast.partnerApart
    have aimedCopy : (targetId = replay.guard.id ∧ replay.guard.health = struck.health ∧
          decide (targetId = encounter.bulwarkId ∧
            encounter.brain.defense.blocks Ai.Bulwark.spawn player.position) =
              decide (encounter.brain.defense.blocks replay.guard.position player.position)) ∨
        targetId = replay.partner.id ∧ replay.partner.health = struck.health ∧
          decide (targetId = encounter.bulwarkId ∧
            encounter.brain.defense.blocks Ai.Bulwark.spawn player.position) = false := by
      rcases aimed.2 with rfl | rfl
      · refine Or.inl ⟨fight.cast.guard.symm,
          (fight.guard.present struck targetFound).health.symm, ?_⟩
        rw [fight.cast.guardPlace]
        simp only [true_and]
      · refine Or.inr ⟨fight.cast.partner.symm,
          (fight.partner.present struck targetFound).health.symm, ?_⟩
        exact decide_eq_false (fun both => fight.cast.distinct both.1.symm)
    have applied := applyTransition_attack
      { replay with brain := some encounter.brain, pendingAction := none, pendingDeath := none }
      elapsedMs distinct rfl aimedCopy playerInside accepted.target_alive harmless
    have targetWord : targetId ≤ u64Max ∧ struck.health ≤ 1000 := by
      rcases aimed.2 with rfl | rfl
      · have mirrors := fight.guard.present struck targetFound
        exact ⟨fight.cast.words.1, le_trans mirrors.healthy (mirrors.maxHealth ▸ fight.healths.1)⟩
      · have mirrors := fight.partner.present struck targetFound
        exact ⟨fight.cast.words.2, le_trans mirrors.healthy (mirrors.maxHealth ▸ fight.healths.2)⟩
    have guardStruck := struckCopy_shadow damage guardShadow targetFound
    have partnerStruck := struckCopy_shadow damage partnerShadow targetFound
    rw [fight.cast.guard] at guardStruck
    rw [fight.cast.partner] at partnerStruck
    have standing : decide (struck.health - damage = 0) = false →
        (struckCopy replay.guard targetId (struck.health - damage)).health ≠ 0 ∨
          (struckCopy replay.partner targetId (struck.health - damage)).health ≠ 0 := by
      intro survives
      exact struckCopy_standing (aimedCopy.imp (·.1) (·.1)) (of_decide_eq_false survives)
    generalize killed : decide (struck.health - damage = 0) = fatal at *
    have told : (if fatal = true then some targetId else none).isSome = fatal := by
      cases fatal <;> rfl
    refine moves_recorded related chosen active elapsed recorded
      (fun _ _ _ _ same => by cases same) ?_ ?_ (by rw [told]; exact applied) ?_
    · intro actorId same
      cases fatal with
      | false => cases same
      | true =>
          cases same
          exact ⟨player.position, damage, struck.health, by rw [of_decide_eq_true killed]⟩
    · exact ⟨trivial, words_natural targetWord.1,
        words_position (wordPosition_of_arena playerInside),
        words_natural (by unfold u64Max; omega), words_natural (by unfold u64Max; omega),
        words_natural (by unfold u64Max; omega), trivial⟩
    · rintro row clock ordinary later rfl rfl reached
      obtain ⟨enemyId, rfl⟩ := struck_outcome
        { session with
          journal := session.journal ++ [row], clock, combat
          actors := session.actors.applyDamage targetId damage
          encounter := some
            { encounter with confirmedMs := elapsedMillis encounter.startedAt clock } }
        rfl rfl guardStruck partnerStruck standing outcome
      have untouched : (afterShot session.actors targetId damage fatal).get
          session.player.actorId = session.actors.get session.player.actorId :=
        get_afterShot_other otherThanPlayer
      have last : settledEncounter
          { encounter with confirmedMs := elapsedMillis encounter.startedAt clock } targetId fatal =
            { encounter with
              confirmedMs := elapsedMillis encounter.startedAt clock
              brain := Replay.Elite.settled encounter.brain none
                (if fatal = true then some targetId else none)
                (elapsedMillis encounter.startedAt clock) } := by
        cases fatal <;> rfl
      have guardKept : (struckCopy replay.guard targetId (struck.health - damage)).id =
            replay.guard.id ∧
          (struckCopy replay.guard targetId (struck.health - damage)).maxHealth =
            replay.guard.maxHealth ∧
          (struckCopy replay.guard targetId (struck.health - damage)).position =
            replay.guard.position :=
        ⟨(struckCopy_kept _ _ _).1, (struckCopy_kept _ _ _).2, struckCopy_position _ _ _⟩
      unfold Replay.Elite.settle
      by_cases gone : (struckCopy replay.guard targetId (struck.health - damage)).health = 0 ∧
          (struckCopy replay.partner targetId (struck.health - damage)).health = 0
      · rw [if_pos gone, if_pos gone]
        exact ⟨rfl, related.ended chosen ordinary (by decide)
          (fun _ found => untouched.symm.trans found) guardKept (struckCopy_kept _ _ _)
          (fun _ => gone) last (last ▸ settled_aimed fight.aimed _ _) reached⟩
      · rw [if_neg gone, if_neg gone]
        exact ⟨rfl, related.struck chosen active ordinary untouched guardKept
          (struckCopy_kept _ _ _) guardStruck partnerStruck last reached⟩

/-! ## Entering, and what lies around the encounter -/

theorem entrance_inside (composition : EliteComposition) :
    Ai.Bulwark.arenaContains composition.entrance := by
  cases composition <;> decide

theorem partner_health (composition : EliteComposition) :
    0 < composition.partner.2.2 ∧ composition.partner.2.2 ≤ 1000 := by
  cases composition <;> decide

theorem moves_entered {bulwarkId partnerId : Nat} {composition : EliteComposition}
    (related : Related session replay) (unchosen : session.encounter = none)
    (onDoor : session.stage = .door) (fresh : session.Fresh bulwarkId)
    (freshPartner : session.Fresh partnerId) (distinct : bulwarkId ≠ partnerId)
    (entered : EliteSession.spawnEliteEncounter session composition bulwarkId partnerId write =
      some next) : Moves session (next.place composition.entrance) replay := by
  simp only [EliteSession.spawnEliteEncounter, EliteEncounter.appear, ActorRegistry.spawn,
    Option.bind_eq_bind, Option.bind_eq_some_iff, Option.pure_def, Option.some.injEq] at entered
  obtain ⟨player, found, after, recorded, brain, created, rfl⟩ := entered
  obtain ⟨done, -, follows, rfl⟩ := Session.appendEvent_eq_some.mp recorded
  obtain ⟨guardPositive, guardWord, guardApart, -, guardUnused⟩ := fresh
  obtain ⟨partnerPositive, partnerWord, partnerApart, -, partnerUnused⟩ := freshPartner
  obtain ⟨start, unreported, standing⟩ := related.before unchosen
  subst start
  simp only [ActorRegistry.get_insert, if_neg (Ne.symm guardApart), if_neg (Ne.symm partnerApart)]
    at found
  have alive := standing player found
  have bounded := related.bounded player found
  generalize body : encodeEliteEvidence
    ⟨0, 0, .started composition.id bulwarkId partnerId player.health⟩ = encoded at *
  have short : encoded.length ≤ 2048 := by
    rw [← body]
    refine encodeEliteEvidence_length ⟨words_natural (Nat.zero_le _), words_natural (Nat.zero_le _),
      ⟨trivial, trivial, words_natural guardWord, words_natural partnerWord,
        words_natural (by unfold u32Max u64Max at *; omega), trivial⟩, trivial⟩ ?_
    intro id guardId otherId health start
    cases start
    exact ⟨composition, rfl⟩
  have value : encoded.value = some ⟨0, 0,
      .started composition.id bulwarkId partnerId player.health⟩ := by rw [← body]; rfl
  have ordinary : Ordinary Replay.Elite.own
      (session.row done .enemySpawned (some bulwarkId) (.elite encoded)) := rfl
  refine .recorded (session.row done .enemySpawned (some bulwarkId) (.elite encoded))
    { Replay.Elite.ReplayState.initial with
      brain := some brain, encounter := some composition, owner := session.player.accountId
      player := Replay.Elite.actor session.player.actorId .player composition.entrance player.health
      guard :=
        { Replay.Elite.actor 0 .enemy Ai.Bulwark.spawn Ai.Bulwark.health with id := bulwarkId }
      partner :=
        Replay.Elite.actor partnerId .enemy composition.partner.2.1 composition.partner.2.2 } rfl
    (Replay.Elite.stable_append ordinary.notJoined follows.2) ?_ ?_
  · rw [Replay.Elite.applyEvent_started rfl rfl short value rfl]
    simp only [Replay.Elite.applyStarted, bind_eq_ok, rejectIf_eq_ok, exists_const,
      require_eq_ok, pure_eq_ok]
    refine ⟨composition, Ai.Elite.EliteComposition.fromId_id composition, session.player.actorId,
      related.tape.solo.solePlayer (by simp [Session.row]) rfl follows.2, ?_, brain, created, rfl⟩
    rw [appeared_fresh guardUnused, appeared_fresh partnerUnused]
    simp [Replay.Elite.ReplayState.initial, Session.row]
    omega
  · have untouched : ∀ placed, (((session.actors.insert
          { id := bulwarkId, kind := .enemy, archetype := "steel-bulwark"
            position := Ai.Bulwark.spawn, health := Ai.Bulwark.health
            maxHealth := Ai.Bulwark.health }).insert
          { id := partnerId, kind := .enemy, archetype := composition.partner.1
            position := composition.partner.2.1, health := composition.partner.2.2
            maxHealth := composition.partner.2.2 }).updatePosition session.player.actorId
              composition.entrance).get session.player.actorId = some placed →
        placed = { player with position := composition.entrance } := by
      intro placed there
      simp only [ActorRegistry.get_updatePosition, ActorRegistry.get_insert, if_true,
        if_neg (Ne.symm guardApart), if_neg (Ne.symm partnerApart), found, Option.map_some,
        Option.some.injEq] at there
      exact there.symm
    refine
      { tape := related.tape.append ordinary rfl rfl rfl
        bounded := ?_
        before := fun missing => by cases missing
        fight := ?_ }
    · intro placed there
      rw [untouched placed there]
      exact bounded
    · intro encounter chosen
      cases chosen
      exact
        { cast :=
            { player := rfl
              guardApart := guardApart
              partnerApart := partnerApart
              distinct := distinct
              words := ⟨guardWord, partnerWord⟩
              composition := rfl
              owner := rfl
              playerActor := rfl
              playerKind := rfl
              guard := rfl
              guardPlace := rfl
              partner := rfl }
          spawned := ⟨_, List.mem_append_right _ (List.mem_singleton.mpr rfl), rfl⟩
          deaths := by
            refine Ordinary.deaths_append ?_ ordinary
            intro event member
            have unnamed : ¬ (event.actorId = some bulwarkId ∨ event.actorId = some partnerId) :=
              not_or.mpr ⟨guardUnused event member, partnerUnused event member⟩
            simp only [Replay.Elite.actor, unnamed, decide_false, Bool.and_false, Bool.false_and]
          state := rfl
          active := by simp [EliteEncounter.begun, Replay.Elite.ReplayState.initial]
          onDoor := fun _ => onDoor
          clocks := fun _ => rfl
          inside := by
            intro _ placed there
            rw [untouched placed there]
            exact entrance_inside composition
          brain := ⟨brain, rfl, rfl⟩
          aimed := EliteBrain.aimed_new created
          confirmed := ⟨le_refl _, Nat.zero_le _⟩
          healths := ⟨(by decide : Ai.Bulwark.health ≤ 1000), (partner_health composition).2⟩
          guard := by
            change Shadow true ((((session.actors.insert _).insert _).updatePosition
              session.player.actorId _).get bulwarkId) _
            simp only [ActorRegistry.get_updatePosition, ActorRegistry.get_insert,
              if_neg guardApart, if_neg distinct, if_true]
            exact .of_spawned (by decide : 0 < Ai.Bulwark.health)
          partner := by
            change Shadow true ((((session.actors.insert _).insert _).updatePosition
              session.player.actorId _).get partnerId) _
            simp only [ActorRegistry.get_updatePosition, ActorRegistry.get_insert,
              if_neg partnerApart, if_true]
            exact .of_spawned (partner_health composition).1
          health := by
            intro placed there
            rw [untouched placed there]
            rfl
          defeated := fun dead => absurd dead (Nat.ne_of_gt alive)
          cleared := fun impossible => by cases impossible }

/-- The mission's boss may come in once the encounter released the player. -/
theorem moves_door {bossId : Nat} (related : Related session replay)
    (chosen : session.encounter = some encounter) (isOver : encounter.active = false)
    (onDoor : session.stage = .door) (otherThanPlayer : bossId ≠ session.player.actorId)
    (otherThanGuard : bossId ≠ encounter.bulwarkId)
    (otherThanPartner : bossId ≠ encounter.partnerId)
    (opened : session.openRelayDoor bossId write = some next) : Moves session next replay := by
  obtain ⟨done, follows, rfl⟩ := openRelayDoor_eq_some opened
  have fight := related.fight encounter chosen
  have ordinary : Ordinary Replay.Elite.own (session.row done .bossSpawned (some bossId)
      (.text ("boss spawned: " ++ session.bossArchetype))) := trivial
  have survived : replay.player.health ≠ 0 := by
    intro dead
    have failed := fight.defeated dead
    rw [onDoor] at failed
    cases failed
  refine .recorded _ { replay with mainProgressed := true } rfl
    (Replay.Elite.stable_append ordinary.notJoined follows.2) ?_ ?_
  · refine Replay.Elite.applyEvent_boss rfl rfl ?_ survived
    intro stillActive
    have active := fight.active.mpr stillActive
    rw [isOver] at active
    cases active
  · have player := get_boss_other session otherThanPlayer
    refine
      { tape := related.tape.append ordinary rfl rfl rfl
        bounded := fun victim found => related.bounded victim (player.symm.trans found)
        before := fun missing => by cases chosen.symm.trans missing
        fight := ?_ }
    intro encounter' chosen'
    cases chosen.symm.trans chosen'
    exact
      { fight with
        cast := { fight.cast with }
        spawned := named_append fight.spawned _
        deaths := Ordinary.deaths_append fight.deaths ordinary
        onDoor := fun active => by rw [isOver] at active; cases active
        clocks := fun active => by rw [isOver] at active; cases active
        inside := fun active => by rw [isOver] at active; cases active
        confirmed := ⟨fight.confirmed.1,
          le_trans fight.confirmed.2 (elapsedMillis_mono _ follows.1)⟩
        guard := by rw [get_boss_other session otherThanGuard]; exact fight.guard
        partner := by rw [get_boss_other session otherThanPartner]; exact fight.partner
        health := fun victim found => fight.health victim (player.symm.trans found)
        defeated := fun dead => absurd dead survived }

theorem moves_equip {item : WeaponItem} (related : Related session replay)
    (equipped : session.equipWeapon item write = some next) : Moves session next replay := by
  obtain ⟨done, follows, rfl⟩ := equipWeapon_eq_some equipped
  have ordinary : Ordinary Replay.Elite.own (session.row done .equipmentChanged
      (some session.player.actorId) (.text ("weapon equipped: " ++ item.itemId))) := trivial
  refine .recorded _ replay rfl
    (Replay.Elite.stable_append ordinary.notJoined follows.2)
    (Replay.Elite.applyEvent_neutral rfl rfl) ?_
  refine
    { tape := related.tape.append ordinary rfl rfl rfl
      bounded := related.bounded
      before := related.before
      fight := ?_ }
  intro encounter chosen
  have fight := related.fight encounter chosen
  exact
    { fight with
      cast := { fight.cast with }
      spawned := named_append fight.spawned _
      deaths := Ordinary.deaths_append fight.deaths ordinary
      confirmed := ⟨fight.confirmed.1,
        le_trans fight.confirmed.2 (elapsedMillis_mono _ follows.1)⟩ }

/-! ## Runs -/

/-- The journal reads to a state related to the live one. -/
def Kept (session : EliteSession) : Prop :=
  Library.Follows Replay.Elite.applyEvent .initial Session.journal Related session

/-- At the relay door the encounter is over and the counter's next identifier
is nobody's. -/
def Released (bossId : Nat) (position : Position) (session : EliteSession) : Prop :=
  position = Session.relayDoor → ∃ encounter, session.encounter = some encounter ∧
    encounter.active = false ∧ bossId ≠ session.player.actorId ∧ bossId ≠ encounter.bulwarkId ∧
      bossId ≠ encounter.partnerId

/-- Neither entrance is the relay door. -/
theorem entrance_of_chosen {composition : EliteComposition}
    (found : EliteSession.chosenComposition position = some composition) :
    position = composition.entrance ∧ position ≠ Session.relayDoor := by
  have entrance := List.find?_some found
  simp only [decide_eq_true_eq] at entrance
  refine ⟨entrance.symm, ?_⟩
  rw [← entrance]
  cases composition <;> decide

theorem kept_handled {allocated partnerId : Nat} {stays : Bool} {after : EliteSession}
    (kept : Kept session) (fresh : session.Fresh allocated) (freshPartner : session.Fresh partnerId)
    (distinct : allocated ≠ partnerId)
    (otherThanPartner : ∀ encounter ∈ session.encounter, allocated ≠ encounter.partnerId)
    (chosen : session.encounter.isSome = true ∨
      (EliteSession.chosenComposition position).isSome = true)
    (handled : EliteSession.handleEliteMovement allocated partnerId session position write =
      some (stays, after)) :
    Kept (after.place position) ∧
      (stays = false → Released allocated position (after.place position)) := by
  have otherThanPlayer := fresh.2.2.1
  unfold EliteSession.handleEliteMovement at handled
  cases encountered : session.encounter with
  | none =>
      obtain ⟨composition, found⟩ : ∃ composition,
          EliteSession.chosenComposition position = some composition := by
        rcases chosen with impossible | found
        · rw [encountered] at impossible; cases impossible
        · exact Option.isSome_iff_exists.mp found
      obtain ⟨rfl, elsewhere⟩ := entrance_of_chosen found
      simp only [encountered, found] at handled
      split at handled
      · next available =>
        simp only [Option.bind_eq_bind, Option.bind_eq_some_iff, Option.pure_def,
          Option.some.injEq, Prod.mk.injEq] at handled
        obtain ⟨entered, wrote, rfl, rfl⟩ := handled
        refine ⟨?_, fun _ atDoor => absurd atDoor elsewhere⟩
        exact Library.Follows.step kept (fun replay related =>
          moves_entered related encountered available.1 fresh freshPartner distinct wrote)
      · cases handled
        refine ⟨Library.Follows.step kept (fun replay related => .silent rfl (related.place ?_)),
          fun _ atDoor => absurd atDoor elsewhere⟩
        intro encounter impossible
        cases encountered.symm.trans impossible
  | some encounter =>
      have otherThanGuard : allocated ≠ encounter.bulwarkId := by
        obtain ⟨replay, -, related⟩ := kept
        exact ne_of_fresh fresh (related.fight encounter encountered).spawned
      have apart := otherThanPartner encounter encountered
      simp only [encountered] at handled
      split at handled
      · next active =>
        split at handled
        · next inside =>
          cases handled
          exact ⟨Library.Follows.step kept (fun replay related =>
            .silent rfl (related.place (fun _ _ _ => inside))), fun impossible => by cases impossible⟩
        · simp only [Option.bind_eq_bind, Option.bind_eq_some_iff, Option.pure_def,
            Option.some.injEq, Prod.mk.injEq] at handled
          obtain ⟨⟨confirmed, stored⟩, recorded, rfl, rfl⟩ := handled
          have finished : Kept (EliteSession.finishElite stored confirmed .failed) :=
            Library.Follows.step kept (fun replay related =>
              moves_abandoned related encountered active rfl recorded)
          simp only [EliteSession.recordElite, Option.bind_eq_bind, Option.bind_eq_some_iff,
            Option.pure_def, Option.some.injEq, Prod.mk.injEq] at recorded
          obtain ⟨appended, appendedAs, rfl, rfl⟩ := recorded
          obtain ⟨done, -, -, rfl⟩ := Session.appendEvent_eq_some.mp appendedAs
          refine ⟨Library.Follows.step finished (fun replay related =>
            .silent rfl (related.place ?_)),
            fun _ _ => ⟨_, rfl, rfl, otherThanPlayer, otherThanGuard, apart⟩⟩
          intro ended same active
          cases same
          cases active
      · next isOver =>
        cases handled
        refine ⟨Library.Follows.step kept (fun replay related => .silent rfl (related.place ?_)),
          fun _ _ => ⟨encounter, encountered, by simpa using isOver, otherThanPlayer,
            otherThanGuard, apart⟩⟩
        intro ended same active
        cases encountered.symm.trans same
        exact absurd active isOver

theorem Kept.step (kept : Kept session) (step : EliteSession.Step session next) : Kept next := by
  have advanced : ∀ now, session.clock ≤ now → Kept (session.advance now) := fun now later =>
    Library.Follows.step kept (fun _ related => .silent rfl (related.advance later))
  cases step with
  | move now position allocated partnerId write doorWrite later fresh freshPartner distinct unused
      chosen moved =>
      refine movePlayer_preserves Kept (Released allocated position) moved
        (advanced now later) ?_ ?_
      · intro stays after handled _
        exact kept_handled (advanced now later) fresh freshPartner distinct unused chosen handled
      · intro before after good released onDoor atDoor opened
        obtain ⟨encounter, encountered, isOver, otherThanPlayer, otherThanGuard, otherThanPartner⟩ :=
          released atDoor
        exact Library.Follows.step good (fun _ related => moves_door related encountered isOver onDoor
          otherThanPlayer otherThanGuard otherThanPartner opened)
  | tick now write later ticked =>
      exact Library.Follows.step (advanced now later) (fun _ related => moves_tick related ticked)
  | attack now targetId write later fighting attacked =>
      cases encountered : session.encounter with
      | none => simp [EliteSession.eliteFighting, encountered] at fighting
      | some encounter =>
          have active : encounter.active = true := by
            simpa [EliteSession.eliteFighting, encountered] using fighting
          have clocks : session.combatStarted = encounter.startedAt := by
            obtain ⟨replay, -, related⟩ := kept
            exact (related.fight encounter encountered).clocks active
          rw [clocks] at attacked
          have chosen : (session.advance now).encounter = some encounter := encountered
          exact Library.Follows.step (advanced now later)
            (fun _ related => moves_attack related chosen active rfl attacked)
  | equip now item write later equipped =>
      exact Library.Follows.step (advanced now later) (fun _ related => moves_equip related equipped)

theorem kept_opened {opening : EliteSession} (opened : Opened opening) : Kept opening := by
  refine ⟨.initial, Replay.Elite.reads_neutral ?_, ?_⟩
  · intro event member
    obtain ⟨other, ⟨_, payload⟩ | ⟨_, payload⟩ | ⟨_, payload⟩⟩ :=
      plain_of_prelude (opened.prelude event member) <;>
      exact ⟨other, by rw [payload]; rfl⟩
  · refine
      { tape := .of_opened opened
        bounded := fun player found => (opened.health found).2
        before := fun _ => ⟨rfl, opened.unreported, fun player found => (opened.health found).1⟩
        fight := fun encounter chosen => by cases opened.unchosen.symm.trans chosen }

theorem Kept.run {opening live : EliteSession} (opened : Opened opening)
    (path : Relation.ReflTransGen EliteSession.Step opening live) : Kept live :=
  Library.Follows.run (fun _ _ step kept => Kept.step kept step) path (kept_opened opened)

/-! ## What the validator agrees on -/

/-- The validator accepts the journal of a live session and ends in its
composition and status, both enemies' healths and positions and the player's
health.  Its brain is the live one once the confirmation that only the next row
tells is put in.  An enemy that is gone while the fight goes on is dead for the
validator, and both are after a completed one. -/
structure Agrees (session : EliteSession) (replay : Replay.Elite.ReplayState) : Prop where
  reads : Reads Replay.Elite.applyEvent .initial session.journal replay
  valid : Replay.Elite.validate session.journal =
    .ok (session.encounter.bind (fun encounter =>
      session.objective.map (fun state => (encounter.composition, state))))
  active : ∀ encounter, session.encounter = some encounter →
    session.objective = some replay.state ∧ (encounter.active = true ↔ replay.state = .active)
  brain : ∀ encounter, session.encounter = some encounter → ∃ brain, replay.brain = some brain ∧
    Replay.Elite.settled brain replay.pendingAction replay.pendingDeath encounter.confirmedMs =
      encounter.brain
  guard : ∀ encounter live, session.encounter = some encounter →
    session.actors.get encounter.bulwarkId = some live →
      replay.guard.health = live.health ∧ replay.guard.position = live.position
  partner : ∀ encounter live, session.encounter = some encounter →
    session.actors.get encounter.partnerId = some live →
      replay.partner.health = live.health ∧ replay.partner.position = live.position
  gone : ∀ encounter, session.encounter = some encounter → encounter.active = true →
    (session.actors.get encounter.bulwarkId = none → replay.guard.health = 0) ∧
      (session.actors.get encounter.partnerId = none → replay.partner.health = 0)
  cleared : session.objective = some .completed →
    replay.guard.health = 0 ∧ replay.partner.health = 0
  health : ∀ player, session.encounter.isSome = true →
    session.actors.get session.player.actorId = some player → replay.player.health = player.health

theorem Related.report (related : Related session replay) :
    replay.report = session.encounter.bind (fun encounter =>
      session.objective.map (fun state => (encounter.composition, state))) := by
  cases chosen : session.encounter with
  | none =>
      obtain ⟨rfl, -⟩ := related.before chosen
      rfl
  | some encounter =>
      have fight := related.fight encounter chosen
      simp only [Replay.Elite.ReplayState.report, fight.cast.composition, fight.state,
        Option.map_some, Option.bind_some]

theorem Kept.agrees (kept : Kept session) : ∃ replay, Agrees session replay := by
  obtain ⟨replay, reads, related⟩ := kept
  have valid : Replay.Elite.validate session.journal = .ok replay.report := by
    simp only [Replay.Elite.validate,
      Campaign.counterEncounterEvents_elsewhere _ related.tape.elsewhere, bind_eq_ok]
    refine ⟨none, rfl, ?_⟩
    simp only [Option.getD_none, Replay.Elite.validateScoped, bind_eq_ok, rejectIf_eq_ok,
      exists_const, pure_eq_ok]
    refine ⟨replay, reads, ?_, rfl⟩
    rintro ⟨started, event, member, isForeign | strange⟩
    · exact related.tape.solo.not_foreign ⟨event, member, isForeign⟩
    · cases chosen : session.encounter with
      | none =>
          obtain ⟨rfl, -⟩ := related.before chosen
          cases started
      | some encounter =>
          rw [(related.fight encounter chosen).deaths event member] at strange
          cases strange
  refine ⟨replay, reads, valid.trans (congrArg Except.ok related.report), ?_, ?_, ?_, ?_, ?_, ?_, ?_⟩
  · intro encounter chosen
    have fight := related.fight encounter chosen
    exact ⟨fight.state, fight.active⟩
  · intro encounter chosen
    exact (related.fight encounter chosen).brain
  · intro encounter live chosen found
    have mirrors := (related.fight encounter chosen).guard.present live found
    exact ⟨mirrors.health.symm, mirrors.position.symm⟩
  · intro encounter live chosen found
    have mirrors := (related.fight encounter chosen).partner.present live found
    exact ⟨mirrors.health.symm, mirrors.position.symm⟩
  · intro encounter chosen active
    have fight := related.fight encounter chosen
    exact ⟨fight.guard.absent active, fight.partner.absent active⟩
  · intro done
    cases chosen : session.encounter with
    | none => cases (related.before chosen).2.1.symm.trans done
    | some encounter =>
        have fight := related.fight encounter chosen
        exact fight.cleared (Option.some.inj (fight.state.symm.trans done))
  · intro player known found
    obtain ⟨encounter, chosen⟩ := Option.isSome_iff_exists.mp known
    exact ((related.fight encounter chosen).health player found).symm

/-- Every run of an elite encounter agrees with its validator.  A run starts
where a cleared session may choose its route, behind any prelude, and goes on
through moves, ticks, attacks and weapon swaps at growing times, with any
answers of the database.  Nothing waits for the encounter to end: the two agree
wherever the run stops. -/
theorem elite_agrees (opening live : EliteSession) (opened : Opened opening)
    (path : Relation.ReflTransGen EliteSession.Step opening live) :
    ∃ replay, Agrees live replay :=
  (Kept.run opened path).agrees

/-! A run that enters and sees the guard brace while the write is slow. -/

open EliteSession

def enteredSession : EliteSession :=
  ((clearedSession.advance 10).movePlayer (handleEliteMovement 9 10)
    EliteComposition.bastionLink.entrance (some ⟨6, 12⟩) none 9).getD clearedSession

def bracedSession : EliteSession :=
  (tickElite (enteredSession.advance 2000) (some ⟨7, 2500⟩)).getD clearedSession

theorem entered_reached : Relation.ReflTransGen Step clearedSession enteredSession :=
  .single (.move 10 EliteComposition.bastionLink.entrance 9 10 (some ⟨6, 12⟩) none (by decide)
    (by decide) (by decide) (by decide) (fun _ impossible => by cases impossible) (Or.inr rfl) rfl)

theorem braced_reached : Relation.ReflTransGen Step clearedSession bracedSession :=
  entered_reached.tail (.tick 2000 (some ⟨7, 2500⟩) (by decide) rfl)

theorem elite_agrees_braced :
    bracedSession.journal.length = 7 ∧ ∃ replay, Agrees bracedSession replay :=
  ⟨rfl, elite_agrees clearedSession bracedSession clearedSession_opened braced_reached⟩

/-- The validator's own brain is not the live one: the brace it has read is
confirmed only by the next row. -/
theorem elite_brains_differ :
    (∃ opening, Opened opening ∧ Relation.ReflTransGen Step opening bracedSession) ∧
      ∃ replay encounter, Reads Replay.Elite.applyEvent .initial bracedSession.journal replay ∧
        bracedSession.encounter = some encounter ∧ replay.brain ≠ some encounter.brain := by
  refine ⟨⟨clearedSession, clearedSession_opened, braced_reached⟩, ?_⟩
  refine ⟨_, _, rfl, rfl, ?_⟩
  decide

end Elite
end Agreement
end Revenant
