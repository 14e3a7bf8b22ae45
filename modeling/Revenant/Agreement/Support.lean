import Revenant.Agreement.Tape
import Revenant.Gateway.Support

namespace Revenant
namespace Agreement

open Library Replay Gateway

/-!
# The support encounter: live session and replay

The validator runs copies of both brains and both enemies.  Its timers lag the
live ones; `Fight.chargeDue` and `Fight.repairDue` keep it no stricter.

`During` is the relation inside an operation: the operation read the clock
before its writes, so what it compares with is older than the rows it writes.
It becomes `Related` again when the operation ends.
-/

namespace Support

open Ai.Lancer (GlassLancer ChargeAction chargeDamage)
open Ai.Support (RelayMender)

/-- Who takes part, on both sides. -/
structure Cast (session : SupportSession) (encounter : SupportEncounter)
    (replay : Replay.Support.ReplayState) : Prop where
  player : encounter.playerId = session.player.actorId
  lancerApart : encounter.lancerId ≠ session.player.actorId
  menderApart : encounter.menderId ≠ session.player.actorId
  distinct : encounter.lancerId ≠ encounter.menderId
  words : encounter.lancerId ≤ u64Max ∧ encounter.menderId ≤ u64Max
  owner : replay.owner = session.player.accountId
  playerActor : replay.playerId = some session.player.actorId
  lancer : replay.lancer.id = encounter.lancerId
  mender : replay.mender.id = encounter.menderId

/-- The chosen encounter against the validator's variables.  The locked charge
is the same on both sides, and `chargeDue` and `repairDue` are inequalities,
because the validator never learns when a write returned. -/
structure Fight (session : SupportSession) (encounter : SupportEncounter)
    (replay : Replay.Support.ReplayState) : Prop where
  cast : Cast session encounter replay
  spawned : ∃ event ∈ session.journal, event.actorId = some encounter.lancerId
  deaths : ∀ event ∈ session.journal, Replay.Support.strangeDeath replay event = false
  active : encounter.active = true ↔ session.objective = some .active
  onDoor : encounter.active = true → session.stage = .door
  clocks : encounter.active = true → session.combatStarted = encounter.startedAt
  inside : encounter.active = true → ∀ player,
    session.actors.get session.player.actorId = some player →
      Ai.Lancer.arenaContains player.position
  charge : replay.chargeAi.locked = encounter.chargeAi.locked
  chargeInside : ∀ charge, encounter.chargeAi.locked = some charge →
    Ai.Lancer.arenaContains charge.1 ∧ Ai.Lancer.arenaContains charge.2
  chargeDue : replay.chargeAi.readyAtMs ≤ encounter.chargeAi.readyAtMs
  repairDue : replay.repairAi.readyAtMs ≤ encounter.repairAi.readyAtMs
  time : replay.lastTime ≤ elapsedMillis encounter.startedAt session.clock
  healths : replay.lancer.maxHealth ≤ 1000 ∧ replay.mender.maxHealth ≤ 1000
  lancer : Shadow encounter.active (session.actors.get encounter.lancerId) replay.lancer
  mender : Shadow encounter.active (session.actors.get encounter.menderId) replay.mender
  health : ∀ player, session.actors.get session.player.actorId = some player →
    player.health = replay.playerHealth
  defeated : replay.playerHealth = 0 → session.stage = .failed
  cleared : session.objective = some .completed →
    replay.lancer.health = 0 ∧ replay.mender.health = 0

/-- The simulation relation. -/
structure Related (session : SupportSession) (replay : Replay.Support.ReplayState) : Prop where
  tape : Tape Replay.Support.own session
  bounded : ∀ player, session.actors.get session.player.actorId = some player →
    player.health ≤ u32Max
  state : replay.state = session.objective
  before : session.encounter = none → replay = .initial ∧ ∀ player,
    session.actors.get session.player.actorId = some player → 0 < player.health
  fight : ∀ encounter, session.encounter = some encounter → Fight session encounter replay

/-- The relation while an operation that read `elapsedMs` is under way. -/
structure During (elapsedMs : Nat) (session : SupportSession)
    (replay : Replay.Support.ReplayState) : Prop where
  related : Related session replay
  last : replay.lastTime ≤ elapsedMs
  reached : ∀ encounter, session.encounter = some encounter →
    elapsedMs ≤ elapsedMillis encounter.startedAt session.clock

variable {session next stored : SupportSession} {replay : Replay.Support.ReplayState}
  {encounter : SupportEncounter} {elapsedMs : Nat}

abbrev Moves (elapsedMs : Nat) (session next : SupportSession)
    (replay : Replay.Support.ReplayState) : Prop :=
  Matches Replay.Support.applyEvent Session.journal (During elapsedMs) session next replay

theorem Related.advance (related : Related session replay) {now : Nat}
    (later : session.clock ≤ now) : Related (session.advance now) replay :=
  { tape := ⟨related.tape.solo, related.tape.elsewhere⟩
    bounded := related.bounded
    state := related.state
    before := related.before
    fight := fun encounter chosen =>
      { related.fight encounter chosen with
        cast := { (related.fight encounter chosen).cast with }
        time := le_trans (related.fight encounter chosen).time (elapsedMillis_mono _ later) } }

variable {position : Position}

/-- A step that an active encounter keeps stays in its arena. -/
theorem Related.place (related : Related session replay)
    (stays : ∀ encounter, session.encounter = some encounter → encounter.active = true →
      Ai.Lancer.arenaContains position) : Related (session.place position) replay := by
  refine
    { tape := ⟨related.tape.solo, related.tape.elsewhere⟩
      bounded := ?_
      state := related.state
      before := ?_
      fight := ?_ }
  · intro player found
    obtain ⟨old, oldFound, rfl⟩ := get_place_player found
    exact related.bounded old oldFound
  · intro unchosen
    refine ⟨(related.before unchosen).1, ?_⟩
    intro player found
    obtain ⟨old, oldFound, rfl⟩ := get_place_player found
    exact (related.before unchosen).2 old oldFound
  · intro encounter chosen
    have fight := related.fight encounter chosen
    refine
      { fight with
        cast := { fight.cast with }
        inside := ?_
        lancer := ?_
        mender := ?_
        health := ?_ }
    · intro active player found
      obtain ⟨old, -, rfl⟩ := get_place_player found
      exact stays encounter chosen active
    · rw [get_place_other fight.cast.lancerApart]
      exact fight.lancer
    · rw [get_place_other fight.cast.menderApart]
      exact fight.mender
    · intro player found
      obtain ⟨old, oldFound, rfl⟩ := get_place_player found
      exact fight.health old oldFound

/-! ## Rows of the encounter -/

theorem wordPosition_of_arena {place : Position} (inside : Ai.Lancer.arenaContains place) :
    WordPosition place :=
  wordPosition_of_small (by simp only [Ai.Lancer.arenaContains] at inside; omega) inside.1
    (by simp only [Ai.Lancer.arenaContains] at inside; omega)

variable {write : Option Write}

/-- A stored row of the encounter that the validator accepts is one recorded
move; `kept` says what the operation then leaves behind. -/
theorem moves_recorded {transition : SupportTransition} {death : Option Nat}
    {middle : Replay.Support.ReplayState} (during : During elapsedMs session replay)
    (chosen : session.encounter = some encounter) (active : encounter.active = true)
    (recorded : session.recordSupport encounter write elapsedMs transition death = some stored)
    (later : ∀ lancerId menderId health, transition ≠ .started lancerId menderId health)
    (fatal : ∀ actorId, death = some actorId → ∃ position damage healthBefore,
      transition = .attack actorId position damage healthBefore 0)
    (words : (SupportEvidence.mk elapsedMs transition).toJson.Words)
    (applied : Replay.Support.applyTransition replay death.isSome elapsedMs transition = .ok middle)
    (kept : ∀ row clock, Ordinary Replay.Support.own row → session.clock ≤ clock →
      stored = { session with journal := session.journal ++ [row], clock } →
        next.journal = session.journal ++ [row] ∧
          During elapsedMs next { middle with lastTime := elapsedMs }) :
    Moves elapsedMs session next replay := by
  have fight := during.related.fight encounter chosen
  obtain ⟨done, -, follows, storedAs⟩ := Session.appendEvent_eq_some.mp recorded
  generalize written : session.row done (if death.isSome then .enemyDied else .fieldActivity)
    (some (death.getD encounter.playerId))
    (.support (encodeSupportEvidence ⟨elapsedMs, transition⟩)) = row at *
  have kind : row.kind = if death.isSome then .enemyDied else .fieldActivity := by
    rw [← written]; rfl
  have payload : row.payload = .support (encodeSupportEvidence ⟨elapsedMs, transition⟩) := by
    rw [← written]; rfl
  have ordinary : Ordinary Replay.Support.own row := by
    unfold Ordinary
    rw [kind, payload]
    cases death <;> rfl
  obtain ⟨grown, after⟩ := kept row done.returned ordinary follows.1 (by
    rw [storedAs, ← written]; rfl)
  refine .recorded row _ grown (Replay.Support.stable_append ordinary.notJoined ?_) ?_ after
  · intro old member
    rw [← written]
    exact follows.2 old member
  · have short := encodeSupportEvidence_length words
    have state : replay.state = some .active :=
      during.related.state.trans (fight.active.mp active)
    rw [Replay.Support.applyEvent_recorded (by rw [kind]; cases death <;> rfl) payload short rfl
      later]
    simp only [Replay.Support.applyRecorded, bind_eq_ok, rejectIf_eq_ok, exists_const, pure_eq_ok]
    have notEarlier := during.last
    cases death with
    | none =>
        refine ⟨?_, middle, ?_, rfl⟩
        · rw [kind, state, ← written]
          simp [Session.row, fight.cast.owner, fight.cast.player, fight.cast.playerActor]
          omega
        · rw [kind]
          exact applied
    | some actorId =>
        obtain ⟨position, damage, healthBefore, rfl⟩ := fatal actorId rfl
        refine ⟨?_, middle, ?_, rfl⟩
        · rw [kind, state, ← written]
          simp [Session.row, fight.cast.owner, Replay.Support.isFatal]
          omega
        · rw [kind]
          exact applied

/-- An encounter that ends takes both enemies away and nothing from the player. -/
theorem Related.ended (related : Related session replay)
    (chosen : session.encounter = some encounter) {row : ReplayEvent} {clock time : Nat}
    {actors : ActorRegistry} {combat : CombatRuntime} {enemyId : Option Nat} {lancer mender : Actor}
    {state : EncounterState} (ordinary : Ordinary Replay.Support.own row)
    (isOver : state ≠ .active)
    (untouched : ∀ player, actors.get session.player.actorId = some player →
      session.actors.get session.player.actorId = some player)
    (lancerKept : lancer.id = replay.lancer.id ∧ lancer.maxHealth = replay.lancer.maxHealth)
    (menderKept : mender.id = replay.mender.id ∧ mender.maxHealth = replay.mender.maxHealth)
    (cleared : state = .completed → lancer.health = 0 ∧ mender.health = 0)
    (reached : time ≤ elapsedMillis encounter.startedAt clock) :
    Related
      (SupportSession.finishSupport
        { session with journal := session.journal ++ [row], clock, actors, combat, enemyId }
        encounter state)
      { replay with lancer, mender, state := some state, lastTime := time } := by
  have fight := related.fight encounter chosen
  have stillThere : ∀ player, (SupportSession.finishSupport
        { session with journal := session.journal ++ [row], clock, actors, combat, enemyId }
        encounter state).actors.get session.player.actorId = some player →
      session.actors.get session.player.actorId = some player := by
    intro player found
    refine untouched player ?_
    simpa only [SupportSession.finishSupport, Session.withdraw, Session.close,
      ActorRegistry.get_destroy, if_neg (Ne.symm fight.cast.lancerApart),
      if_neg (Ne.symm fight.cast.menderApart)] using found
  refine
    { tape := related.tape.append ordinary rfl rfl rfl
      bounded := fun player found => related.bounded player (stillThere player found)
      state := rfl
      before := fun missing => by cases missing
      fight := ?_ }
  intro encounter' chosen'
  cases chosen'
  exact
    { cast :=
        { fight.cast with
          lancer := lancerKept.1.trans fight.cast.lancer
          mender := menderKept.1.trans fight.cast.mender }
      spawned := named_append fight.spawned _
      deaths := by
        have deaths := Ordinary.deaths_append fight.deaths ordinary
        simp only [Replay.Support.strangeDeath, lancerKept.1, menderKept.1] at deaths ⊢
        exact deaths
      active := by
        simpa [SupportSession.finishSupport, Session.withdraw, Session.close] using isOver
      onDoor := fun impossible => by cases impossible
      clocks := fun impossible => by cases impossible
      inside := fun impossible => by cases impossible
      charge := fight.charge
      chargeInside := fight.chargeInside
      chargeDue := fight.chargeDue
      repairDue := fight.repairDue
      time := reached
      healths := by rw [lancerKept.2, menderKept.2]; exact fight.healths
      lancer := by
        simp only [SupportSession.finishSupport, Session.withdraw, ActorRegistry.get_destroy,
          if_true, if_neg fight.cast.distinct]
        exact .of_gone
      mender := by
        simp only [SupportSession.finishSupport, Session.withdraw, ActorRegistry.get_destroy,
          if_true]
        exact .of_gone
      health := fun player found => fight.health player (stillThere player found)
      defeated := fight.defeated
      cleared := fun done => cleared (Option.some.inj done) }

/-! ## Leaving the arena -/

theorem moves_abandoned (during : During elapsedMs session replay)
    (chosen : session.encounter = some encounter) (active : encounter.active = true)
    (word : elapsedMs ≤ u64Max)
    (recorded : session.recordSupport encounter write elapsedMs .abandoned none = some stored) :
    Moves elapsedMs session (stored.finishSupport encounter .failed) replay := by
  refine moves_recorded during chosen active recorded (fun _ _ _ same => by cases same)
    (fun _ same => by cases same) ⟨words_natural word, ⟨trivial, trivial⟩, trivial⟩ rfl ?_
  rintro row clock ordinary later rfl
  have reached := le_trans (during.reached encounter chosen) (elapsedMillis_mono _ later)
  refine ⟨rfl, ?_, le_refl _, ?_⟩
  · exact during.related.ended chosen ordinary (by decide) (fun _ found => found) ⟨rfl, rfl⟩
      ⟨rfl, rfl⟩ (fun impossible => by cases impossible) reached
  · intro encounter' chosen'
    cases chosen'
    exact reached

/-! ## The charge -/

variable {proposed : GlassLancer}

theorem moves_windup {enemy player : Actor} {origin target : Position}
    (during : During elapsedMs session replay) (chosen : session.encounter = some encounter)
    (active : encounter.active = true) (word : elapsedMs ≤ u64Max)
    (enemyFound : session.actors.get encounter.lancerId = some enemy)
    (acted : encounter.chargeAi.tick elapsedMs enemy.position player.position =
      some (.windup origin target, proposed))
    (recorded : session.recordSupport encounter write elapsedMs
      (.windup player.position origin target) none = some stored) :
    Moves elapsedMs session (stored.confirmCharge proposed elapsedMs) replay := by
  have fight := during.related.fight encounter chosen
  have mirrors := fight.lancer.present enemy enemyFound
  have replayed := GlassLancer.tick_of_le fight.chargeDue fight.charge acted
  obtain ⟨-, enemyInside, playerInside, ⟨-, sameAction, proposal⟩ |
    ⟨_, _, -, impossible, -⟩⟩ := GlassLancer.tick_cases acted
  case inr => cases impossible
  cases sameAction
  have targetInside := GlassLancer.aim_arena enemyInside playerInside
  have applied : Replay.Support.applyTransition replay false elapsedMs
      (.windup player.position enemy.position (GlassLancer.aim enemy.position player.position)) =
        .ok { replay with chargeAi := proposed } := by
    simp only [Replay.Support.applyTransition, bind_eq_ok, rejectIf_eq_ok, exists_const, pure_eq_ok,
      require_eq_ok, ← mirrors.position, ← mirrors.health]
    exact ⟨Nat.ne_of_gt mirrors.alive, _, replayed, fun other => other rfl, rfl⟩
  refine moves_recorded during chosen active recorded (fun _ _ _ same => by cases same)
    (fun _ same => by cases same) ?_ applied ?_
  · exact ⟨words_natural word, ⟨trivial, words_position (wordPosition_of_arena playerInside),
      words_position (wordPosition_of_arena enemyInside),
      words_position (wordPosition_of_arena targetInside), trivial⟩, trivial⟩
  · rintro row clock ordinary later rfl
    have reached := le_trans (during.reached encounter chosen) (elapsedMillis_mono _ later)
    refine ⟨rfl, ?_, le_refl _, ?_⟩
    · refine
        { tape := during.related.tape.append ordinary rfl rfl rfl
          bounded := during.related.bounded
          state := during.related.state
          before := ?_
          fight := ?_ }
      · intro missing
        simp [SupportSession.confirmCharge, SupportEncounter.confirmCharge, chosen] at missing
      · intro encounter' chosen'
        simp only [SupportSession.confirmCharge, SupportEncounter.confirmCharge, chosen, Option.map_some, Option.some.injEq]
          at chosen'
        subst chosen'
        refine
          { fight with
            cast := { fight.cast with }
            spawned := named_append fight.spawned _
            deaths := Ordinary.deaths_append fight.deaths ordinary
            charge := rfl
            chargeInside := ?_
            chargeDue := GlassLancer.le_confirmAt proposed _
            time := reached }
        intro charge locked
        rw [GlassLancer.confirmAt_locked, proposal] at locked
        cases locked
        exact ⟨enemyInside, targetInside⟩
    · intro encounter' chosen'
      simp only [SupportSession.confirmCharge, SupportEncounter.confirmCharge, chosen, Option.map_some, Option.some.injEq]
        at chosen'
      subst chosen'
      exact reached

/-- The encounter after a charge that may have killed the player. -/
theorem hurt_encounter (encounter : SupportEncounter) (remaining : Nat) {clock : Nat}
    {hurt : SupportSession} {after : SupportEncounter}
    (chosen : (hurt.confirmCharge proposed elapsedMs).encounter = some after)
    (left : hurt.encounter =
      if remaining = 0 then some { encounter with active := false } else some encounter)
    (now : hurt.clock = clock) :
    after =
      { encounter with
        active := if remaining = 0 then false else encounter.active
        chargeAi := proposed.confirmAt
          (max (elapsedMillis encounter.startedAt clock) elapsedMs) } := by
  subst now
  simp only [SupportSession.confirmCharge, SupportEncounter.confirmCharge, left] at chosen
  split at chosen
  · next fatal =>
    cases chosen
    simp only [fatal, if_true]
  · next lives =>
    cases chosen
    simp only [lives, if_false]

theorem moves_charged {enemy player : Actor} {origin target : Position} {damage : Nat}
    (during : During elapsedMs session replay) (chosen : session.encounter = some encounter)
    (active : encounter.active = true) (word : elapsedMs ≤ u64Max)
    (enemyFound : session.actors.get encounter.lancerId = some enemy)
    (playerFound : session.actors.get encounter.playerId = some player) (alive : player.health ≠ 0)
    (acted : encounter.chargeAi.tick elapsedMs enemy.position player.position =
      some (.resolved origin target damage, proposed))
    (recorded : session.recordSupport encounter write elapsedMs
      (.charged player.position origin target damage (player.health - damage)) none = some stored) :
    Moves elapsedMs session
      (SupportSession.confirmCharge
        (({ stored with actors := stored.actors.updatePosition encounter.lancerId target } :
          SupportSession).hurtPlayer { encounter with active := false } encounter.playerId
            player.health damage) proposed elapsedMs) replay := by
  have fight := during.related.fight encounter chosen
  have mirrors := fight.lancer.present enemy enemyFound
  have replayed := GlassLancer.tick_of_le fight.chargeDue fight.charge acted
  rw [fight.cast.player] at playerFound
  have healthBound := during.related.bounded player playerFound
  have sameHealth := fight.health player playerFound
  obtain ⟨-, enemyInside, playerInside, ⟨-, impossible, -⟩ |
    ⟨_, _, locked, sameAction, proposal⟩⟩ := GlassLancer.tick_cases acted
  case inl => cases impossible
  cases sameAction
  obtain ⟨originInside, targetInside⟩ := fight.chargeInside _ locked
  have damageBound : chargeDamage origin target player.position ≤ 18 :=
    Ai.Lancer.chargeDamage_le origin target player.position
  generalize dealt : chargeDamage origin target player.position = damage at *
  have applied : Replay.Support.applyTransition replay false elapsedMs
      (.charged player.position origin target damage (player.health - damage)) =
        .ok { replay with
          chargeAi := proposed, lancer := { replay.lancer with position := target }
          playerHealth := player.health - damage
          state := if player.health - damage = 0 then some .failed else replay.state } := by
    simp only [Replay.Support.applyTransition, bind_eq_ok, rejectIf_eq_ok, exists_const, pure_eq_ok,
      require_eq_ok, ← mirrors.position, ← mirrors.health, ← sameHealth]
    refine ⟨Nat.ne_of_gt mirrors.alive, _, replayed, ?_, rfl⟩
    simp
  refine moves_recorded during chosen active recorded (fun _ _ _ same => by cases same)
    (fun _ same => by cases same) ?_ applied ?_
  · exact ⟨words_natural word, ⟨trivial, words_position (wordPosition_of_arena playerInside),
      words_position (wordPosition_of_arena originInside),
      words_position (wordPosition_of_arena targetInside),
      words_natural (by unfold u64Max; omega),
      words_natural (by unfold u32Max u64Max at *; omega), trivial⟩, trivial⟩
  · rintro row clock ordinary later rfl
    have reached := le_trans (during.reached encounter chosen) (elapsedMillis_mono _ later)
    rw [Session.hurtPlayer_eq _ _ _ _ alive]
    have hurt : ∀ victim, ((session.actors.updatePosition encounter.lancerId target).applyDamage
        encounter.playerId damage).get session.player.actorId = some victim →
          victim.health = player.health - damage := by
      intro victim found
      simp only [ActorRegistry.get_applyDamage, ActorRegistry.get_updatePosition,
        fight.cast.player, if_true, if_neg (Ne.symm fight.cast.lancerApart), playerFound,
        Option.map_some, Option.some.injEq] at found
      rw [← found]
    refine ⟨rfl, ?_, le_refl _, ?_⟩
    · refine
        { tape := during.related.tape.append ordinary rfl rfl rfl
          bounded := ?_
          state := ?_
          before := ?_
          fight := ?_ }
      · intro victim found
        rw [hurt victim found]
        omega
      · simp only [SupportSession.confirmCharge, SupportEncounter.confirmCharge, during.related.state]
      · intro missing
        simp only [SupportSession.confirmCharge, SupportEncounter.confirmCharge, chosen] at missing
        split at missing <;> cases missing
      · intro encounter' chosen'
        obtain rfl := hurt_encounter encounter (player.health - damage) chosen'
          (by simp only [chosen]) rfl
        refine
          { cast := { fight.cast with }
            spawned := named_append fight.spawned _
            deaths := Ordinary.deaths_append fight.deaths ordinary
            active := ?_
            onDoor := ?_
            clocks := fun _ => fight.clocks active
            inside := ?_
            charge := rfl
            chargeInside := ?_
            chargeDue := GlassLancer.le_confirmAt proposed _
            repairDue := fight.repairDue
            time := reached
            healths := fight.healths
            lancer := ?_
            mender := ?_
            health := hurt
            defeated := ?_
            cleared := ?_ }
        · simp only [SupportSession.confirmCharge, SupportEncounter.confirmCharge]
          split
          · simp
          · exact fight.active
        · simp only [SupportSession.confirmCharge, SupportEncounter.confirmCharge]
          split
          · intro impossible; cases impossible
          · exact fight.onDoor
        · intro _ victim found
          simp only [SupportSession.confirmCharge, SupportEncounter.confirmCharge, ActorRegistry.get_applyDamage,
            ActorRegistry.get_updatePosition, fight.cast.player, if_true,
            if_neg (Ne.symm fight.cast.lancerApart), playerFound, Option.map_some,
            Option.some.injEq] at found
          rw [← found]
          exact playerInside
        · intro charge locked
          rw [GlassLancer.confirmAt_locked, proposal] at locked
          cases locked
        · simp only [SupportSession.confirmCharge, SupportEncounter.confirmCharge, ActorRegistry.get_applyDamage,
            ActorRegistry.get_updatePosition, fight.cast.player, if_true,
            if_neg fight.cast.lancerApart]
          split
          · exact (fight.lancer.move target).ended
          · exact fight.lancer.move target
        · simp only [SupportSession.confirmCharge, SupportEncounter.confirmCharge, ActorRegistry.get_applyDamage,
            ActorRegistry.get_updatePosition, fight.cast.player,
            if_neg fight.cast.menderApart, if_neg (Ne.symm fight.cast.distinct)]
          split
          · exact fight.mender.ended
          · exact fight.mender
        · intro dead
          exact if_pos dead
        · simp only [SupportSession.confirmCharge, SupportEncounter.confirmCharge, fight.active.mp active]
          split <;> intro impossible <;> cases impossible
    · intro encounter' chosen'
      obtain rfl := hurt_encounter encounter (player.health - damage) chosen'
          (by simp only [chosen]) rfl
      exact reached

/-! ## The repair -/

theorem moves_repaired {source target : Actor} {proposed : RelayMender}
    {action : Ai.Support.RepairAction} (during : During elapsedMs session replay)
    (chosen : session.encounter = some encounter) (active : encounter.active = true)
    (word : elapsedMs ≤ u64Max) (sourceFound : session.actors.get encounter.menderId = some source)
    (targetFound : session.actors.get encounter.lancerId = some target)
    (acted : encounter.repairAi.tick elapsedMs source [target] = some (action, proposed))
    (recorded : session.recordSupport encounter write elapsedMs
      (.repaired action.targetId action.amount action.healthBefore action.healthAfter) none =
        some stored) :
    Moves elapsedMs session
      (SupportSession.confirmRepair
        { stored with actors := stored.actors.insert { target with health := action.healthAfter } }
        proposed elapsedMs) replay := by
  have fight := during.related.fight encounter chosen
  have mender := fight.mender.present source sourceFound
  have lancer := fight.lancer.present target targetFound
  have targetId : target.id = encounter.lancerId := lancer.id.trans fight.cast.lancer
  have replayed := RelayMender.tick_of_le fight.repairDue acted
  rw [mender.same, lancer.same, RelayMender.tick_archetype] at replayed
  obtain ⟨rfl, standing, wounded⟩ := RelayMender.tick_single_some acted
  have healths := fight.healths.1
  rw [← lancer.maxHealth] at healths
  have restored : (RelayMender.repair target).healthAfter ≤ target.maxHealth := by
    simp only [RelayMender.repair]
    omega
  have kept : 0 < (RelayMender.repair target).healthAfter := by
    simp only [RelayMender.repair]
    omega
  have applied : Replay.Support.applyTransition replay false elapsedMs
      (.repaired (RelayMender.repair target).targetId (RelayMender.repair target).amount
        (RelayMender.repair target).healthBefore (RelayMender.repair target).healthAfter) =
        .ok { replay with
          repairAi := proposed
          lancer := { replay.lancer with health := (RelayMender.repair target).healthAfter } } := by
    simp only [Replay.Support.applyTransition, bind_eq_ok, rejectIf_eq_ok, exists_const, pure_eq_ok,
      require_eq_ok]
    exact ⟨_, replayed, fun other => other rfl, rfl⟩
  refine moves_recorded during chosen active recorded (fun _ _ _ same => by cases same)
    (fun _ same => by cases same) ?_ applied ?_
  · refine ⟨words_natural word, ⟨trivial, words_natural ?_, words_natural ?_, words_natural ?_,
      words_natural ?_, trivial⟩, trivial⟩
    · change target.id ≤ u64Max
      exact targetId ▸ fight.cast.words.1
    all_goals
      simp only [RelayMender.repair, Ai.Support.repairAmount] at *
      unfold u64Max
      omega
  · rintro row clock ordinary later rfl
    have reached := le_trans (during.reached encounter chosen) (elapsedMillis_mono _ later)
    have untouched : ∀ actorId, actorId ≠ encounter.lancerId →
        (session.actors.insert
          { target with health := (RelayMender.repair target).healthAfter }).get actorId =
            session.actors.get actorId := by
      intro actorId other
      simp only [ActorRegistry.get_insert, targetId, if_neg other]
    refine ⟨rfl, ?_, le_refl _, ?_⟩
    · refine
        { tape := during.related.tape.append ordinary rfl rfl rfl
          bounded := ?_
          state := during.related.state
          before := ?_
          fight := ?_ }
      · intro player found
        exact during.related.bounded player
          ((untouched _ (Ne.symm fight.cast.lancerApart)).symm.trans found)
      · intro missing
        simp [SupportSession.confirmRepair, chosen] at missing
      · intro encounter' chosen'
        simp only [SupportSession.confirmRepair, chosen, Option.map_some, Option.some.injEq]
          at chosen'
        subst chosen'
        have player := untouched _ (Ne.symm fight.cast.lancerApart)
        refine
          { fight with
            cast := { fight.cast with }
            spawned := named_append fight.spawned _
            deaths := Ordinary.deaths_append fight.deaths ordinary
            inside := fun fighting victim found =>
              fight.inside fighting victim (player.symm.trans found)
            repairDue := RelayMender.le_confirmAt proposed _
            time := reached
            lancer := ?_
            mender := ?_
            health := fun victim found => fight.health victim (player.symm.trans found)
            cleared := fun done => by cases (fight.active.mp active).symm.trans done }
        · simp only [SupportSession.confirmRepair, SupportEncounter.confirmRepair,
            ActorRegistry.get_insert, if_pos targetId.symm]
          exact .of_mirrors (lancer.setHealth kept (lancer.maxHealth ▸ restored))
        · simp only [SupportSession.confirmRepair, SupportEncounter.confirmRepair,
            untouched _ (Ne.symm fight.cast.distinct)]
          exact fight.mender
    · intro encounter' chosen'
      simp only [SupportSession.confirmRepair, chosen, Option.map_some, Option.some.injEq]
        at chosen'
      subst chosen'
      exact reached

/-! ## A tick -/

theorem moves_charge (during : During elapsedMs session replay)
    (chosen : session.encounter = some encounter) (active : encounter.active = true)
    (word : elapsedMs ≤ u64Max)
    (ticked : session.tickSupportCharge encounter write elapsedMs = some next) :
    Moves elapsedMs session next replay := by
  unfold SupportSession.tickSupportCharge at ticked
  split at ticked
  · next enemy player enemyFound playerFound =>
    split at ticked
    · cases ticked
      exact .silent rfl during
    · next living =>
      simp only [not_or] at living
      split at ticked
      · cases ticked
        exact .silent rfl during
      · next action proposed acted =>
        simp only [Option.bind_eq_bind, Option.bind_eq_some_iff, Option.pure_def,
          Option.some.injEq] at ticked
        obtain ⟨after, recorded, rfl⟩ := ticked
        cases action with
        | windup origin target =>
            exact moves_windup during chosen active word enemyFound acted recorded
        | resolved origin target damage =>
            simp only [SupportSession.actCharge, Option.bind_eq_bind, Option.bind_eq_some_iff,
              Option.pure_def, Option.some.injEq] at recorded
            obtain ⟨stored, written, rfl⟩ := recorded
            exact moves_charged during chosen active word enemyFound playerFound living.2 acted
              written
  · cases ticked
    exact .silent rfl during

theorem moves_repair (during : During elapsedMs session replay)
    (chosen : session.encounter = some encounter) (active : encounter.active = true)
    (word : elapsedMs ≤ u64Max)
    (ticked : session.tickSupportRepair encounter write elapsedMs = some next) :
    Moves elapsedMs session next replay := by
  unfold SupportSession.tickSupportRepair at ticked
  split at ticked
  · next source target sourceFound targetFound =>
    split at ticked
    · cases ticked
      exact .silent rfl during
    · next action proposed acted =>
      simp only [Option.bind_eq_bind, Option.bind_eq_some_iff, Option.pure_def,
        Option.some.injEq] at ticked
      obtain ⟨stored, recorded, rfl⟩ := ticked
      exact moves_repaired during chosen active word sourceFound targetFound acted recorded
  · cases ticked
    exact .silent rfl during

/-- The journal reads to a state related to the live one. -/
def Kept (session : SupportSession) : Prop :=
  Library.Follows Replay.Support.applyEvent .initial Session.journal Related session

/-- An operation reads the time its encounter has run. -/
theorem Kept.during (kept : Kept session) (chosen : session.encounter = some encounter) :
    Library.Follows Replay.Support.applyEvent .initial Session.journal
      (During (elapsedMillis encounter.startedAt session.clock)) session := by
  refine Library.Follows.weaken kept (fun replay related => ?_)
  refine ⟨related, (related.fight encounter chosen).time, ?_⟩
  intro other same
  cases chosen.symm.trans same
  exact le_refl _

theorem Kept.tick {repairWrite : Option Write} (kept : Kept session)
    (ticked : SupportSession.tickSupport session write repairWrite = some next) : Kept next := by
  unfold SupportSession.tickSupport SupportSession.tickSupportAt at ticked
  cases chosen : session.encounter with
  | none =>
      rw [chosen] at ticked
      cases ticked
      exact kept
  | some encounter =>
      have during := kept.during chosen
      have word := elapsedMillis_le encounter.startedAt session.clock
      simp only [chosen, Option.elim_some] at ticked
      generalize elapsedMillis encounter.startedAt session.clock = elapsedMs at *
      split at ticked
      · cases ticked
        exact kept
      · next running =>
        have active : encounter.active = true := by
          simp only [not_or, Bool.not_eq_false] at running
          exact running.1
        simp only [Option.bind_eq_bind, Option.bind_eq_some_iff] at ticked
        obtain ⟨middle, charged, rest⟩ := ticked
        have after := Library.Follows.step during
          (fun replay during => moves_charge during chosen active word charged)
        have halfway : Kept middle := after.weaken (fun _ during => during.related)
        split at rest
        · cases rest
          exact halfway
        · next left encountered =>
          split at rest
          · cases rest
            exact halfway
          · next fighting =>
            cases rest
            cases repaired : middle.tickSupportRepair left repairWrite elapsedMs with
            | none => exact halfway
            | some final =>
                have last := Library.Follows.step after (fun replay during =>
                  moves_repair during encountered (by simpa using fighting) word repaired)
                exact last.weaken (fun _ during => during.related)

/-! ## The player's shots -/

/-- A fight that goes on after a shot; the two copies took the hit as well. -/
theorem Related.struck (related : Related session replay)
    (chosen : session.encounter = some encounter) (active : encounter.active = true) {row : ReplayEvent} {clock time : Nat}
    {actors : ActorRegistry} {combat : CombatRuntime} {enemyId : Option Nat} {lancer mender : Actor}
    (ordinary : Ordinary Replay.Support.own row)
    (untouched : actors.get session.player.actorId = session.actors.get session.player.actorId)
    (lancerKept : lancer.id = replay.lancer.id ∧ lancer.maxHealth = replay.lancer.maxHealth)
    (menderKept : mender.id = replay.mender.id ∧ mender.maxHealth = replay.mender.maxHealth)
    (lancerShadow : Shadow encounter.active (actors.get encounter.lancerId) lancer)
    (menderShadow : Shadow encounter.active (actors.get encounter.menderId) mender)
    (reached : time ≤ elapsedMillis encounter.startedAt clock) :
    Related { session with journal := session.journal ++ [row], clock, actors, combat, enemyId }
      { replay with lancer, mender, lastTime := time } := by
  have fight := related.fight encounter chosen
  refine
    { tape := related.tape.append ordinary rfl rfl rfl
      bounded := fun player found => related.bounded player (untouched.symm.trans found)
      state := related.state
      before := fun missing => by cases chosen.symm.trans missing
      fight := ?_ }
  intro encounter' chosen'
  cases chosen.symm.trans chosen'
  exact
    { fight with
      cast :=
        { fight.cast with
          lancer := lancerKept.1.trans fight.cast.lancer
          mender := menderKept.1.trans fight.cast.mender }
      spawned := named_append fight.spawned _
      deaths := by
        have deaths := Ordinary.deaths_append fight.deaths ordinary
        simp only [Replay.Support.strangeDeath, lancerKept.1, menderKept.1] at deaths ⊢
        exact deaths
      inside := fun fighting player found =>
        fight.inside fighting player (untouched.symm.trans found)
      time := reached
      healths := by rw [lancerKept.2, menderKept.2]; exact fight.healths
      lancer := lancerShadow
      mender := menderShadow
      health := fun player found => fight.health player (untouched.symm.trans found)
      cleared := fun done => by cases (fight.active.mp active).symm.trans done }

/-- The validator strikes the same copy. -/
theorem applyTransition_attack (elapsedMs : Nat) {targetId damage : Nat} {target : Actor}
    (distinct : replay.lancer.id ≠ replay.mender.id)
    (aimed : (targetId = replay.lancer.id ∧ replay.lancer.health = target.health) ∨
      targetId = replay.mender.id ∧ replay.mender.health = target.health)
    (inside : Ai.Lancer.arenaContains position) (alive : 0 < target.health) (harmful : 0 < damage) :
    Replay.Support.applyTransition replay (decide (target.health - damage = 0)) elapsedMs
      (.attack targetId position damage target.health (target.health - damage)) =
      .ok (Replay.Support.settle
        { replay with
          lancer := struckCopy replay.lancer targetId (target.health - damage)
          mender := struckCopy replay.mender targetId (target.health - damage) }) := by
  have hit : ∀ copy : Actor, copy.health = target.health →
      Replay.Support.hitTarget copy (decide (target.health - damage = 0)) position damage
        target.health (target.health - damage) =
          .ok { copy with health := target.health - damage } := by
    intro copy same
    simp only [Replay.Support.hitTarget, bind_eq_ok, rejectIf_eq_ok, exists_const, pure_eq_ok]
    refine ⟨?_, trivial⟩
    rintro (outside | dead | harmless | other | other | other)
    · exact outside inside
    · omega
    · omega
    · exact other same
    · exact other rfl
    · exact other rfl
  rcases aimed with ⟨rfl, same⟩ | ⟨rfl, same⟩
  · simp only [Replay.Support.applyTransition, if_true, hit _ same, struckCopy,
      if_neg (Ne.symm distinct)]
    rfl
  · simp only [Replay.Support.applyTransition, if_true, hit _ same, struckCopy, if_neg distinct,
      if_neg (Ne.symm distinct)]
    rfl

/-- What a recorded hit leaves: both enemies gone ends the encounter, and the
registry otherwise lost a killed target. -/
theorem struck_outcome {damage targetId : Nat} {killed : Bool} {lancer mender : Actor}
    (struckSession : SupportSession)
    (actors : struckSession.actors = session.actors.applyDamage targetId damage)
    (lancerShadow : Shadow true ((afterShot session.actors targetId damage killed).get
      encounter.lancerId) lancer)
    (menderShadow : Shadow true ((afterShot session.actors targetId damage killed).get
      encounter.menderId) mender)
    (standing : killed = false → lancer.health ≠ 0 ∨ mender.health ≠ 0)
    (outcome : (if killed = true then
        let session := struckSession.withdraw targetId
        let session := { session with enemyId := SupportSession.survivor session encounter }
        some (if session.enemyId = none then session.finishSupport encounter .completed else session)
      else some struckSession) = some next) :
    ∃ enemyId, next =
      if lancer.health = 0 ∧ mender.health = 0 then
        SupportSession.finishSupport
          { struckSession with
            actors := afterShot session.actors targetId damage killed, enemyId } encounter .completed
      else
        { struckSession with actors := afterShot session.actors targetId damage killed, enemyId } := by
  cases killed with
  | false =>
      cases outcome
      refine ⟨next.enemyId, ?_⟩
      rw [if_neg (by have := standing rfl; tauto)]
      simp only [afterShot, Bool.false_eq_true, if_false, ← actors]
  | true =>
      simp only [if_true, Option.some.injEq] at outcome
      subst outcome
      have bothGone : (lancer.health = 0 ∧ mender.health = 0) ↔
          SupportSession.survivor (struckSession.withdraw targetId) encounter = none := by
        rw [lancerShadow.gone, menderShadow.gone]
        simp only [SupportSession.survivor, Session.withdraw, afterShot, if_true, actors,
          List.find?_cons, List.find?_nil]
        cases (((session.actors.applyDamage targetId damage).destroy targetId).get
          encounter.lancerId) <;>
        cases (((session.actors.applyDamage targetId damage).destroy targetId).get
          encounter.menderId) <;> simp
      refine ⟨SupportSession.survivor (struckSession.withdraw targetId) encounter, ?_⟩
      by_cases gone : lancer.health = 0 ∧ mender.health = 0
      · rw [if_pos gone, if_pos (bothGone.mp gone)]
        simp only [Session.withdraw, afterShot, if_true, actors]
      · rw [if_neg gone, if_neg (fun none => gone (bothGone.mpr none))]
        simp only [Session.withdraw, afterShot, if_true, actors]

theorem moves_attack {targetId : Nat} (during : During elapsedMs session replay)
    (chosen : session.encounter = some encounter) (active : encounter.active = true)
    (word : elapsedMs ≤ u64Max)
    (attacked : SupportSession.attackSupport session targetId write elapsedMs = some next) :
    Moves elapsedMs session next replay := by
  have fight := during.related.fight encounter chosen
  have lancerShadow := fight.lancer
  have menderShadow := fight.mender
  rw [active, ← fight.cast.lancer] at lancerShadow
  rw [active, ← fight.cast.mender] at menderShadow
  unfold SupportSession.attackSupport at attacked
  simp only [chosen] at attacked
  split at attacked
  · cases attacked
  · next aimed =>
    simp only [not_or, not_and_or, not_not] at aimed
    simp only [Option.bind_eq_bind, Option.bind_eq_some_iff, Option.pure_def] at attacked
    obtain ⟨profile, resolved, ⟨result, actors, combat⟩, shot, player, playerFound, target,
      targetFound, stored, recorded, outcome⟩ := attacked
    obtain ⟨attacker, struck, accepted⟩ := Session.shoot_accepted shot
    obtain rfl : struck = target := Option.some.inj (accepted.target_found.symm.trans targetFound)
    have harmful := Session.positionedAttackProfile_damage resolved
    have playerInside := fight.inside active player playerFound
    obtain rfl := accepted.actors_eq
    simp only [accepted.damage_eq, accepted.remaining_eq, accepted.killed_eq] at recorded outcome
    have distinct : replay.lancer.id ≠ replay.mender.id := by
      rw [fight.cast.lancer, fight.cast.mender]
      exact fight.cast.distinct
    have otherThanPlayer : session.player.actorId ≠ targetId := by
      rcases aimed.2 with rfl | rfl
      · exact Ne.symm fight.cast.lancerApart
      · exact Ne.symm fight.cast.menderApart
    have aimedCopy : (targetId = replay.lancer.id ∧ replay.lancer.health = struck.health) ∨
        targetId = replay.mender.id ∧ replay.mender.health = struck.health := by
      rcases aimed.2 with rfl | rfl
      · exact Or.inl ⟨fight.cast.lancer.symm,
          (fight.lancer.present struck targetFound).health.symm⟩
      · exact Or.inr ⟨fight.cast.mender.symm,
          (fight.mender.present struck targetFound).health.symm⟩
    have applied := applyTransition_attack elapsedMs distinct aimedCopy playerInside
      accepted.target_alive harmful.1
    have targetWord : targetId ≤ u64Max ∧ struck.health ≤ 1000 := by
      rcases aimed.2 with rfl | rfl
      · have mirrors := fight.lancer.present struck targetFound
        exact ⟨fight.cast.words.1,
          le_trans mirrors.healthy (mirrors.maxHealth ▸ fight.healths.1)⟩
      · have mirrors := fight.mender.present struck targetFound
        exact ⟨fight.cast.words.2,
          le_trans mirrors.healthy (mirrors.maxHealth ▸ fight.healths.2)⟩
    have lancerStruck := struckCopy_shadow profile.damage lancerShadow targetFound
    have menderStruck := struckCopy_shadow profile.damage menderShadow targetFound
    rw [fight.cast.lancer] at lancerStruck
    rw [fight.cast.mender] at menderStruck
    have standing : decide (struck.health - profile.damage = 0) = false →
        (struckCopy replay.lancer targetId (struck.health - profile.damage)).health ≠ 0 ∨
          (struckCopy replay.mender targetId (struck.health - profile.damage)).health ≠ 0 := by
      intro survives
      exact struckCopy_standing (aimedCopy.imp (·.1) (·.1)) (of_decide_eq_false survives)
    generalize killed : decide (struck.health - profile.damage = 0) = fatal at *
    refine moves_recorded during chosen active recorded (fun _ _ _ same => by cases same) ?_ ?_
      (by cases fatal <;> exact applied) ?_
    · intro actorId same
      cases fatal with
      | false => cases same
      | true =>
          cases same
          exact ⟨player.position, profile.damage, struck.health, by rw [of_decide_eq_true killed]⟩
    · exact ⟨words_natural word, ⟨trivial, words_natural targetWord.1,
        words_position (wordPosition_of_arena playerInside),
        words_natural (by unfold u64Max; omega), words_natural (by unfold u64Max; omega),
        words_natural (by unfold u64Max; omega), trivial⟩, trivial⟩
    · rintro row clock ordinary later rfl
      have reached := le_trans (during.reached encounter chosen) (elapsedMillis_mono _ later)
      obtain ⟨enemyId, rfl⟩ := struck_outcome _ rfl lancerStruck menderStruck standing outcome
      have untouched : (afterShot session.actors targetId profile.damage fatal).get
          session.player.actorId = session.actors.get session.player.actorId :=
        get_afterShot_other otherThanPlayer
      unfold Replay.Support.settle
      by_cases gone : (struckCopy replay.lancer targetId (struck.health - profile.damage)).health
        = 0 ∧ (struckCopy replay.mender targetId (struck.health - profile.damage)).health = 0
      · rw [if_pos gone, if_pos gone]
        refine ⟨rfl, ?_, le_refl _, ?_⟩
        · exact during.related.ended chosen ordinary (by decide)
            (fun _ found => untouched.symm.trans found) (struckCopy_kept _ _ _)
            (struckCopy_kept _ _ _) (fun _ => gone) reached
        · intro encounter' chosen'
          cases chosen'
          exact reached
      · rw [if_neg gone, if_neg gone]
        refine ⟨rfl, ?_, le_refl _, ?_⟩
        · exact during.related.struck chosen active ordinary untouched (struckCopy_kept _ _ _)
            (struckCopy_kept _ _ _) (active ▸ lancerStruck) (active ▸ menderStruck) reached
        · intro encounter' chosen'
          cases chosen.symm.trans chosen'
          exact reached

/-! ## Entering, and what lies around the encounter -/

theorem moves_entered {lancerId menderId : Nat} (related : Related session replay)
    (unchosen : session.encounter = none) (onDoor : session.stage = .door)
    (fresh : session.Fresh lancerId) (freshMender : session.Fresh menderId)
    (distinct : lancerId ≠ menderId)
    (entered : SupportSession.spawnSupportEncounter session lancerId menderId write = some next) :
    Matches Replay.Support.applyEvent Session.journal Related session
      (next.place Ai.Support.entrance) replay := by
  simp only [SupportSession.spawnSupportEncounter, SupportEncounter.appear, ActorRegistry.spawn,
    Option.bind_eq_bind, Option.bind_eq_some_iff, Option.pure_def, Option.some.injEq] at entered
  obtain ⟨player, found, after, recorded, rfl⟩ := entered
  obtain ⟨done, -, follows, rfl⟩ := Session.appendEvent_eq_some.mp recorded
  obtain ⟨lancerPositive, lancerWord, lancerApart, -, lancerUnused⟩ := fresh
  obtain ⟨menderPositive, menderWord, menderApart, -, menderUnused⟩ := freshMender
  obtain ⟨start, standing⟩ := related.before unchosen
  subst start
  simp only [ActorRegistry.get_insert, if_neg (Ne.symm lancerApart), if_neg (Ne.symm menderApart)]
    at found
  have alive := standing player found
  have bounded := related.bounded player found
  have words : (SupportEvidence.mk 0 (.started lancerId menderId player.health)).toJson.Words :=
    ⟨words_natural (Nat.zero_le _), ⟨trivial, words_natural lancerWord, words_natural menderWord,
      words_natural (by unfold u32Max u64Max at *; omega), trivial⟩, trivial⟩
  generalize written : session.row done .enemySpawned (some lancerId)
    (.support (encodeSupportEvidence ⟨0, .started lancerId menderId player.health⟩)) = row
  have ordinary : Ordinary Replay.Support.own row := by rw [← written]; rfl
  have grown : session.journal ++ [session.row done .enemySpawned (some lancerId)
      (.support (encodeSupportEvidence ⟨0, .started lancerId menderId player.health⟩))] =
        session.journal ++ [row] := by rw [written]
  refine .recorded row
    { Replay.Support.ReplayState.initial with
      owner := session.player.accountId, playerId := some session.player.actorId
      playerHealth := player.health
      lancer :=
        { Replay.Support.enemy 0 Ai.Lancer.spawn Ai.Lancer.health with id := lancerId }
      mender :=
        { Replay.Support.enemy 0 Ai.Support.spawn Ai.Support.health with id := menderId }
      state := some .active } grown
    (Replay.Support.stable_append ordinary.notJoined ?_) ?_ ?_
  · rw [← written]
    exact follows.2
  · rw [Replay.Support.applyEvent_started (by rw [← written]; rfl) (by rw [← written]; rfl)
      (encodeSupportEvidence_length words) rfl]
    simp only [Replay.Support.applyStarted, bind_eq_ok, rejectIf_eq_ok, exists_const,
      require_eq_ok, pure_eq_ok]
    refine ⟨session.player.actorId, ?_, ?_, ?_⟩
    · rw [← written]
      exact related.tape.solo.solePlayer (by simp [Session.row]) rfl follows.2
    · rw [appeared_fresh lancerUnused, appeared_fresh menderUnused, ← written]
      simp only [Replay.Support.ReplayState.initial, Session.row]
      simp
      omega
    · rw [← written]
      rfl
  · have untouched : ∀ placed, (((session.actors.insert
          { id := lancerId, kind := .enemy, archetype := "glass-lancer"
            position := Ai.Lancer.spawn, health := Ai.Lancer.health
            maxHealth := Ai.Lancer.health }).insert
          { id := menderId, kind := .enemy, archetype := "relay-mender"
            position := Ai.Support.spawn, health := Ai.Support.health
            maxHealth := Ai.Support.health }).updatePosition session.player.actorId
              Ai.Support.entrance).get session.player.actorId = some placed →
        placed = { player with position := Ai.Support.entrance } := by
      intro placed there
      simp only [ActorRegistry.get_updatePosition, ActorRegistry.get_insert, if_true,
        if_neg (Ne.symm lancerApart), if_neg (Ne.symm menderApart), found, Option.map_some,
        Option.some.injEq] at there
      exact there.symm
    refine
      { tape := related.tape.append ordinary rfl rfl grown
        bounded := ?_
        state := rfl
        before := fun missing => by cases missing
        fight := ?_ }
    · intro placed there
      rw [untouched placed there]
      exact bounded
    · intro encounter chosen
      cases chosen
      exact
        { cast :=
            { player := rfl
              lancerApart := lancerApart
              menderApart := menderApart
              distinct := distinct
              words := ⟨lancerWord, menderWord⟩
              owner := rfl
              playerActor := rfl
              lancer := rfl
              mender := rfl }
          spawned := ⟨_, List.mem_append_right _ (List.mem_singleton.mpr rfl), rfl⟩
          deaths := by
            change ∀ event ∈ session.journal ++ [_], _
            rw [grown]
            refine Ordinary.deaths_append ?_ ordinary
            intro event member
            simp only [decide_eq_false (not_or.mpr ⟨lancerUnused event member,
              menderUnused event member⟩), Bool.and_false, Bool.false_and]
          active := by simp [SupportEncounter.begun, Session.place]
          onDoor := fun _ => onDoor
          clocks := fun _ => rfl
          inside := by
            intro _ placed there
            rw [untouched placed there]
            change Ai.Lancer.arenaContains Ai.Support.entrance
            decide
          charge := rfl
          chargeInside := fun charge impossible => by cases impossible
          chargeDue := le_refl _
          repairDue := le_refl _
          time := Nat.zero_le _
          healths := ⟨(by decide : Ai.Lancer.health ≤ 1000), (by decide : Ai.Support.health ≤ 1000)⟩
          lancer := by
            change Shadow true ((((session.actors.insert _).insert _).updatePosition
              session.player.actorId _).get lancerId) _
            simp only [ActorRegistry.get_updatePosition, ActorRegistry.get_insert,
              if_neg lancerApart, if_neg distinct, if_true]
            exact (.of_spawned (by decide : 0 < Ai.Lancer.health))
          mender := by
            change Shadow true ((((session.actors.insert _).insert _).updatePosition
              session.player.actorId _).get menderId) _
            simp only [ActorRegistry.get_updatePosition, ActorRegistry.get_insert,
              if_neg menderApart, if_true]
            exact (.of_spawned (by decide : 0 < Ai.Support.health))
          health := by
            intro placed there
            rw [untouched placed there]
          defeated := fun dead => absurd dead (Nat.ne_of_gt alive)
          cleared := fun impossible => by cases impossible }

/-- The mission's boss may come in once the encounter released the player. -/
theorem moves_door {bossId : Nat} (related : Related session replay)
    (chosen : session.encounter = some encounter) (isOver : encounter.active = false)
    (onDoor : session.stage = .door) (otherThanPlayer : bossId ≠ session.player.actorId)
    (otherThanLancer : bossId ≠ encounter.lancerId) (otherThanMender : bossId ≠ encounter.menderId)
    (opened : session.openRelayDoor bossId write = some next) :
    Matches Replay.Support.applyEvent Session.journal Related session next replay := by
  obtain ⟨done, follows, rfl⟩ := openRelayDoor_eq_some opened
  have fight := related.fight encounter chosen
  have ordinary : Ordinary Replay.Support.own (session.row done .bossSpawned (some bossId)
      (.text ("boss spawned: " ++ session.bossArchetype))) := trivial
  refine .recorded _ { replay with mainProgressed := true } rfl
    (Replay.Support.stable_append ordinary.notJoined follows.2) ?_ ?_
  · refine Replay.Support.applyEvent_boss rfl rfl ?_ ?_
    · intro stillActive
      have active := fight.active.mpr (related.state.symm.trans stillActive)
      rw [isOver] at active
      cases active
    · intro dead
      have failed := fight.defeated dead
      rw [onDoor] at failed
      cases failed
  · have player := get_boss_other session otherThanPlayer
    refine
      { tape := related.tape.append ordinary rfl rfl rfl
        bounded := fun victim found => related.bounded victim (player.symm.trans found)
        state := related.state
        before := fun missing => by cases chosen.symm.trans missing
        fight := ?_ }
    intro encounter' chosen'
    cases chosen.symm.trans chosen'
    exact
      { fight with
        cast := { fight.cast with }
        spawned := named_append fight.spawned _
        deaths := Ordinary.deaths_append fight.deaths ordinary
        onDoor := fun active => by rw [isOver] at active; cases active
        clocks := fun active => by rw [isOver] at active; cases active
        inside := fun active => by rw [isOver] at active; cases active
        time := le_trans fight.time (elapsedMillis_mono _ follows.1)
        lancer := by rw [get_boss_other session otherThanLancer]; exact fight.lancer
        mender := by rw [get_boss_other session otherThanMender]; exact fight.mender
        health := fun victim found => fight.health victim (player.symm.trans found)
        defeated := fun dead => by
          have failed := fight.defeated dead
          rw [onDoor] at failed
          cases failed }

theorem moves_equip {item : WeaponItem} (related : Related session replay)
    (equipped : session.equipWeapon item write = some next) :
    Matches Replay.Support.applyEvent Session.journal Related session next replay := by
  obtain ⟨done, follows, rfl⟩ := equipWeapon_eq_some equipped
  have ordinary : Ordinary Replay.Support.own (session.row done .equipmentChanged
      (some session.player.actorId) (.text ("weapon equipped: " ++ item.itemId))) := trivial
  refine .recorded _ replay rfl
    (Replay.Support.stable_append ordinary.notJoined follows.2)
    (Replay.Support.applyEvent_neutral rfl rfl) ?_
  refine
    { tape := related.tape.append ordinary rfl rfl rfl
      bounded := related.bounded
      state := related.state
      before := related.before
      fight := ?_ }
  intro encounter chosen
  have fight := related.fight encounter chosen
  exact
    { fight with
      cast := { fight.cast with }
      spawned := named_append fight.spawned _
      deaths := Ordinary.deaths_append fight.deaths ordinary
      time := le_trans fight.time (elapsedMillis_mono _ follows.1) }

/-! ## Runs -/

/-- At the relay door the encounter is over and the counter's next identifier
is nobody's. -/
def Released (bossId : Nat) (position : Position) (session : SupportSession) : Prop :=
  position = Session.relayDoor → ∃ encounter, session.encounter = some encounter ∧
    encounter.active = false ∧ bossId ≠ session.player.actorId ∧ bossId ≠ encounter.lancerId ∧
      bossId ≠ encounter.menderId

theorem kept_handled {allocated menderId : Nat} {stays : Bool} {after : SupportSession}
    (kept : Kept session) (fresh : session.Fresh allocated) (freshMender : session.Fresh menderId)
    (distinct : allocated ≠ menderId)
    (otherThanMender : ∀ encounter ∈ session.encounter, allocated ≠ encounter.menderId)
    (chosen : session.encounter.isSome = true ∨ position = Ai.Support.entrance)
    (handled : SupportSession.handleSupportMovement allocated menderId session position write =
      some (stays, after)) :
    Kept (after.place position) ∧
      (stays = false → Released allocated position (after.place position)) := by
  have otherThanPlayer := fresh.2.2.1
  unfold SupportSession.handleSupportMovement at handled
  cases encountered : session.encounter with
  | none =>
      have atEntrance : position = Ai.Support.entrance := by
        rcases chosen with impossible | atEntrance
        · rw [encountered] at impossible; cases impossible
        · exact atEntrance
      have elsewhere : Released allocated position (after.place position) := by
        intro atDoor
        rw [atEntrance] at atDoor
        exact absurd atDoor (by decide)
      simp only [encountered] at handled
      split at handled
      · next available =>
        simp only [Option.bind_eq_bind, Option.bind_eq_some_iff, Option.pure_def,
          Option.some.injEq, Prod.mk.injEq] at handled
        obtain ⟨entered, wrote, rfl, rfl⟩ := handled
        refine ⟨?_, fun _ => elsewhere⟩
        rw [atEntrance]
        exact Library.Follows.step kept (fun replay related =>
          moves_entered related encountered available.1 fresh freshMender distinct wrote)
      · cases handled
        refine ⟨Library.Follows.step kept (fun replay related => .silent rfl (related.place ?_)),
          fun _ => elsewhere⟩
        intro encounter impossible
        cases encountered.symm.trans impossible
  | some encounter =>
      have otherThanLancer : allocated ≠ encounter.lancerId := by
        obtain ⟨replay, -, related⟩ := kept
        exact ne_of_fresh fresh (related.fight encounter encountered).spawned
      have apart := otherThanMender encounter encountered
      simp only [encountered] at handled
      split at handled
      · next active =>
        split at handled
        · next inside =>
          cases handled
          exact ⟨Library.Follows.step kept (fun replay related =>
            .silent rfl (related.place (fun _ _ _ => inside))), fun impossible => by cases impossible⟩
        · simp only [Option.bind_eq_bind, Option.bind_eq_some_iff, Option.pure_def,
            Option.some.injEq, Prod.mk.injEq] at handled
          obtain ⟨stored, recorded, rfl, rfl⟩ := handled
          have finished : Kept (stored.finishSupport encounter .failed) :=
            Library.Follows.weaken
              (Library.Follows.step (kept.during encountered) (fun replay during =>
                moves_abandoned during encountered active (elapsedMillis_le _ _) recorded))
              (fun _ during => during.related)
          obtain ⟨done, -, -, rfl⟩ := Session.appendEvent_eq_some.mp recorded
          refine ⟨Library.Follows.step finished (fun replay related =>
            .silent rfl (related.place ?_)),
            fun _ _ => ⟨_, rfl, rfl, otherThanPlayer, otherThanLancer, apart⟩⟩
          intro ended same active
          cases same
          cases active
      · next isOver =>
        cases handled
        refine ⟨Library.Follows.step kept (fun replay related => .silent rfl (related.place ?_)),
          fun _ _ => ⟨encounter, encountered, by simpa using isOver, otherThanPlayer,
            otherThanLancer, apart⟩⟩
        intro ended same active
        cases encountered.symm.trans same
        exact absurd active isOver

theorem Kept.step (kept : Kept session) (step : SupportSession.Step session next) : Kept next := by
  have advanced : ∀ now, session.clock ≤ now → Kept (session.advance now) := fun now later =>
    Library.Follows.step kept (fun _ related => .silent rfl (related.advance later))
  cases step with
  | move now position allocated menderId write doorWrite later fresh freshMender distinct unused
      chosen moved =>
      refine movePlayer_preserves Kept (Released allocated position) moved
        (advanced now later) ?_ ?_
      · intro stays after handled _
        exact kept_handled (advanced now later) fresh freshMender distinct unused chosen handled
      · intro before after good released onDoor atDoor opened
        obtain ⟨encounter, encountered, isOver, otherThanPlayer, otherThanLancer, otherThanMender⟩ :=
          released atDoor
        exact Library.Follows.step good (fun _ related => moves_door related encountered isOver onDoor
          otherThanPlayer otherThanLancer otherThanMender opened)
  | tick now write repairWrite later ticked => exact (advanced now later).tick ticked
  | attack now targetId write later fighting attacked =>
      cases encountered : session.encounter with
      | none => simp [SupportSession.supportFighting, encountered] at fighting
      | some encounter =>
          have active : encounter.active = true := by
            simpa [SupportSession.supportFighting, encountered] using fighting
          have clocks : session.combatStarted = encounter.startedAt := by
            obtain ⟨replay, -, related⟩ := kept
            exact (related.fight encounter encountered).clocks active
          rw [clocks] at attacked
          have chosen : (session.advance now).encounter = some encounter := encountered
          exact Library.Follows.weaken
            (Library.Follows.step ((advanced now later).during chosen) (fun replay during =>
              moves_attack during chosen active (elapsedMillis_le _ _) attacked))
            (fun _ during => during.related)
  | equip now item write later equipped =>
      exact Library.Follows.step (advanced now later) (fun _ related => moves_equip related equipped)

theorem kept_opened {opening : SupportSession} (opened : Opened opening) : Kept opening := by
  refine ⟨.initial, Replay.Support.reads_neutral ?_, ?_⟩
  · intro event member
    obtain ⟨other, ⟨_, payload⟩ | ⟨_, payload⟩ | ⟨_, payload⟩⟩ :=
      plain_of_prelude (opened.prelude event member) <;>
      exact ⟨other, by rw [payload]; rfl⟩
  · refine
      { tape := .of_opened opened
        bounded := fun player found => (opened.health found).2
        state := opened.unreported.symm
        before := fun _ => ⟨rfl, fun player found => (opened.health found).1⟩
        fight := fun encounter chosen => by cases opened.unchosen.symm.trans chosen }

theorem Kept.run {opening live : SupportSession} (opened : Opened opening)
    (path : Relation.ReflTransGen SupportSession.Step opening live) : Kept live :=
  Library.Follows.run (fun _ _ step kept => Kept.step kept step) path (kept_opened opened)

/-! ## What the validator agrees on -/

/-- The validator accepts the journal of a live session and ends in its status,
the lancer's position and the healths of both enemies and the player.  An enemy
that is gone while the fight goes on is dead for the validator, and both are
after a completed one. -/
structure Agrees (session : SupportSession) (replay : Replay.Support.ReplayState) : Prop where
  reads : Reads Replay.Support.applyEvent .initial session.journal replay
  valid : Replay.Support.validate session.journal = .ok session.objective
  state : replay.state = session.objective
  active : session.supportFighting = true ↔ replay.state = some .active
  lancer : ∀ encounter live, session.encounter = some encounter →
    session.actors.get encounter.lancerId = some live →
      replay.lancer.health = live.health ∧ replay.lancer.position = live.position
  mender : ∀ encounter live, session.encounter = some encounter →
    session.actors.get encounter.menderId = some live → replay.mender.health = live.health
  gone : ∀ encounter, session.encounter = some encounter → encounter.active = true →
    (session.actors.get encounter.lancerId = none → replay.lancer.health = 0) ∧
      (session.actors.get encounter.menderId = none → replay.mender.health = 0)
  cleared : session.objective = some .completed →
    replay.lancer.health = 0 ∧ replay.mender.health = 0
  health : ∀ player, session.encounter.isSome = true →
    session.actors.get session.player.actorId = some player → replay.playerHealth = player.health

theorem Kept.agrees (kept : Kept session) : ∃ replay, Agrees session replay := by
  obtain ⟨replay, reads, related⟩ := kept
  have valid : Replay.Support.validate session.journal = .ok session.objective := by
    simp only [Replay.Support.validate,
      Campaign.counterEncounterEvents_elsewhere _ related.tape.elsewhere, bind_eq_ok]
    refine ⟨none, rfl, ?_⟩
    simp only [Option.getD_none, Replay.Support.validateScoped, bind_eq_ok, rejectIf_eq_ok,
      exists_const, pure_eq_ok]
    refine ⟨replay, reads, ?_, related.state⟩
    rintro ⟨started, event, member, isForeign | strange⟩
    · exact related.tape.solo.not_foreign ⟨event, member, isForeign⟩
    · cases chosen : session.encounter with
      | none =>
          obtain ⟨rfl, -⟩ := related.before chosen
          cases started
      | some encounter =>
          rw [(related.fight encounter chosen).deaths event member] at strange
          cases strange
  refine ⟨replay, reads, valid, related.state, ?_, ?_, ?_, ?_, ?_, ?_⟩
  · cases chosen : session.encounter with
    | none =>
        obtain ⟨rfl, -⟩ := related.before chosen
        simp [SupportSession.supportFighting, chosen, Replay.Support.ReplayState.initial]
    | some encounter =>
        rw [related.state]
        simpa [SupportSession.supportFighting, chosen] using (related.fight encounter chosen).active
  · intro encounter live chosen found
    have mirrors := (related.fight encounter chosen).lancer.present live found
    exact ⟨mirrors.health.symm, mirrors.position.symm⟩
  · intro encounter live chosen found
    exact ((related.fight encounter chosen).mender.present live found).health.symm
  · intro encounter chosen active
    have fight := related.fight encounter chosen
    exact ⟨fight.lancer.absent active, fight.mender.absent active⟩
  · intro done
    cases chosen : session.encounter with
    | none =>
        obtain ⟨rfl, -⟩ := related.before chosen
        rw [← related.state] at done
        cases done
    | some encounter => exact (related.fight encounter chosen).cleared done
  · intro player known found
    obtain ⟨encounter, chosen⟩ := Option.isSome_iff_exists.mp known
    exact ((related.fight encounter chosen).health player found).symm

/-- Every run of a support encounter agrees with its validator, although the
validator never confirms a write.  The deadlines it knows are those of the
announcements, and the live ones are those plus the time of the writes, so it
never asks for a row to be later than it is. -/
theorem support_agrees (opening live : SupportSession) (opened : Opened opening)
    (path : Relation.ReflTransGen SupportSession.Step opening live) :
    ∃ replay, Agrees live replay :=
  (Kept.run opened path).agrees

/-! A run that enters, sees the first windup and shoots the mender. -/

open SupportSession

def enteredSession : SupportSession :=
  ((clearedSession.advance 10).movePlayer (handleSupportMovement 9 10) Ai.Support.entrance
    (some ⟨6, 12⟩) none 9).getD clearedSession

def announcedSession : SupportSession :=
  (tickSupport (enteredSession.advance 1000) (some ⟨7, 1005⟩) none).getD clearedSession

def shotSession : SupportSession :=
  (attackSupport (announcedSession.advance 1100) 10 (some ⟨8, 1101⟩)
    (elapsedMillis announcedSession.combatStarted 1100)).getD clearedSession

theorem shot_reached : Relation.ReflTransGen Step clearedSession shotSession := by
  have enter : Step clearedSession enteredSession :=
    .move 10 Ai.Support.entrance 9 10 (some ⟨6, 12⟩) none (by decide) (by decide) (by decide)
      (by decide) (fun _ impossible => by cases impossible) (Or.inr rfl) rfl
  have announce : Step enteredSession announcedSession :=
    .tick 1000 (some ⟨7, 1005⟩) none (by decide) rfl
  have shoot : Step announcedSession shotSession :=
    .attack 1100 10 (some ⟨8, 1101⟩) (by decide) (by decide) rfl
  exact ((Relation.ReflTransGen.single enter).tail announce).tail shoot

theorem support_agrees_shot :
    shotSession.journal.length = 8 ∧ ∃ replay, Agrees shotSession replay :=
  ⟨rfl, support_agrees clearedSession shotSession clearedSession_opened shot_reached⟩

end Support
end Agreement
end Revenant
