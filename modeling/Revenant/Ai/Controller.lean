import Revenant.Combat.Analysis

namespace Revenant
namespace Ai

open Library

/-!
# The controller of the relay enemies

An enemy finds its player, closes in, and strikes a fixed number of times; after
that it answers some of the hits it takes.  The balance analysis counts these
attacks with a closed form, and `pressed` shows that the controller makes as many.

`Pressing` says what a fight in range has come to: its initial attacks, the
hits it took and its answers are counted, and the player's health is what these
have left.  The analysis itself is in
`Combat.Analysis`.
-/

def detectionRange : Int := 12

def attackRange : Int := 2

inductive AiState where
  | idle
  | detect
  | chase
  | attack
  | dead
  deriving DecidableEq, Repr

inductive AiEvent where
  | stateChanged (state : AiState)
  | moved (actorId : Nat) (position : Position)
  | attacked (sourceActorId targetActorId damage remainingHealth : Nat) (killed : Bool)
  deriving DecidableEq, Repr

/-- The event of an attack. -/
def AiEvent.isAttack : AiEvent → Bool
  | .attacked .. => true
  | _ => false

structure AiController where
  state : AiState
  pressure : PressureProfile
  initialAttacks : Nat
  acceptedHits : Nat
  counterattacks : Nat
  deriving DecidableEq, Repr

/-- One step towards a coordinate. -/
def closer (coordinate target : Int) : Int := coordinate + (target - coordinate).sign

def approach (position target : Position) : Position :=
  ⟨closer position.x target.x, closer position.y target.y, closer position.z target.z⟩

namespace AiController

def new (pressure : PressureProfile) : AiController :=
  { state := .idle, pressure, initialAttacks := 0, acceptedHits := 0, counterattacks := 0 }

/-- One attack on a living player by a living enemy. -/
def attackTarget (controller : AiController) (actors : ActorRegistry) (enemyId playerId : Nat) :
    Option AiEvent × ActorRegistry :=
  match actors.get enemyId, actors.get playerId with
  | some enemy, some player =>
      if enemy.kind ≠ .enemy ∨ enemy.health = 0 ∨ player.kind ≠ .player ∨ player.health = 0 then
        (none, actors)
      else
        let remaining := player.health - controller.pressure.damage
        (some (.attacked enemyId playerId controller.pressure.damage remaining
          (decide (remaining = 0))), actors.applyDamage playerId controller.pressure.damage)
  | _, _ => (none, actors)

def tick (controller : AiController) (actors : ActorRegistry) (enemyId playerId : Nat) :
    List AiEvent × AiController × ActorRegistry :=
  match actors.get enemyId with
  | none => ([.stateChanged .dead], { controller with state := .dead }, actors)
  | some enemy =>
    match actors.get playerId with
    | none => ([], controller, actors)
    | some player =>
      let distanceSquared := enemy.position.squaredDistance player.position
      match controller.state with
      | .idle =>
          if distanceSquared ≤ detectionRange ^ 2 then
            ([.stateChanged .detect], { controller with state := .detect }, actors)
          else ([], controller, actors)
      | .detect => ([.stateChanged .chase], { controller with state := .chase }, actors)
      | .chase =>
          if distanceSquared ≤ attackRange ^ 2 then
            ([.stateChanged .attack], { controller with state := .attack }, actors)
          else
            let position := approach enemy.position player.position
            ([.moved enemyId position], controller, actors.updatePosition enemyId position)
      | .attack =>
          if controller.initialAttacks < controller.pressure.initialAttacks then
            let (event, struck) := controller.attackTarget actors enemyId playerId
            (event.toList, { controller with initialAttacks := controller.initialAttacks + 1 },
              struck)
          else ([], controller, actors)
      | .dead => ([], controller, actors)

/-- A confirmed hit on the enemy, which may answer it. -/
def acceptedHit (controller : AiController) (actors : ActorRegistry) (enemyId : Nat)
    (playerId : Option Nat) : Option AiEvent × AiController × ActorRegistry :=
  if controller.state ≠ .attack then (none, controller, actors)
  else
    let acceptedHits := min (controller.acceptedHits + 1) u32Max
    let counted := { controller with acceptedHits }
    if controller.pressure.maximumCounterattacks = 0 ∨
        controller.pressure.acceptedHitsPerCounterattack = 0 ∨
        controller.counterattacks ≥ controller.pressure.maximumCounterattacks ∨
        acceptedHits % controller.pressure.acceptedHitsPerCounterattack ≠ 0 then
      (none, counted, actors)
    else
      let answered := { counted with counterattacks := controller.counterattacks + 1 }
      match playerId with
      | none => (none, answered, actors)
      | some playerId =>
          let (event, struck) := controller.attackTarget actors enemyId playerId
          (event, answered, struck)

/-! ## Counting the attacks -/

/-- The enemy and the player it attacks, and what the player has left. -/
structure Facing (actors : ActorRegistry) (enemyId playerId : Nat) (health : Nat) : Prop where
  enemy : ∃ enemy, actors.get enemyId = some enemy ∧ enemy.kind = .enemy ∧ 0 < enemy.health
  player : ∃ player, actors.get playerId = some player ∧ player.kind = .player ∧
    player.health = health

variable {controller : AiController} {actors : ActorRegistry} {enemyId playerId health : Nat}

/-- The step lemma of an attack: a player who is alive is struck. -/
theorem attackTarget_facing (facing : Facing actors enemyId playerId health) (alive : 0 < health) :
    ∃ event, (controller.attackTarget actors enemyId playerId).1 = some event ∧
      event.isAttack = true ∧ Facing (controller.attackTarget actors enemyId playerId).2 enemyId playerId
        (health - controller.pressure.damage) := by
  obtain ⟨enemy, enemyFound, hostile, living⟩ := facing.enemy
  obtain ⟨player, playerFound, own, left⟩ := facing.player
  have apart : enemyId ≠ playerId := by
    rintro rfl
    rw [enemyFound] at playerFound
    cases playerFound
    cases hostile.symm.trans own
  have valid : ¬ (enemy.kind ≠ .enemy ∨ enemy.health = 0 ∨ player.kind ≠ .player ∨
      player.health = 0) := by
    rintro (other | dead | other | dead)
    · exact other hostile
    · omega
    · exact other own
    · omega
  unfold attackTarget
  rw [enemyFound, playerFound]
  dsimp only
  rw [if_neg valid]
  refine ⟨_, rfl, rfl, ⟨enemy, ?_, hostile, living⟩,
    { player with health := player.health - controller.pressure.damage }, ?_, own, ?_⟩
  · rw [ActorRegistry.get_applyDamage, if_neg apart, enemyFound]
  · rw [ActorRegistry.get_applyDamage, if_pos rfl, playerFound]
    rfl
  · rw [← left]

/-- The events of a number of ticks, and what they leave. -/
def ticks (enemyId playerId : Nat) (controller : AiController) (actors : ActorRegistry) :
    Nat → List AiEvent × AiController × ActorRegistry
  | 0 => ([], controller, actors)
  | count + 1 =>
      let (events, current, field) := ticks enemyId playerId controller actors count
      let (more, next, after) := current.tick field enemyId playerId
      (events ++ more, next, after)

/-- The events of a number of accepted hits, and what they leave. -/
def acceptedHitsBy (enemyId playerId : Nat) (controller : AiController) (actors : ActorRegistry) :
    Nat → List AiEvent × AiController × ActorRegistry
  | 0 => ([], controller, actors)
  | count + 1 =>
      let (events, current, field) := acceptedHitsBy enemyId playerId controller actors count
      let (event, next, after) := current.acceptedHit field enemyId (some playerId)
      (events ++ event.toList, next, after)

/-- A fight so far: the controller's counters, and what its attacks left to the
player. -/
structure Pressing (pressure : PressureProfile) (enemyId playerId health initial hits : Nat)
    (controller : AiController) (actors : ActorRegistry) : Prop where
  closed : controller.state = .attack
  profile : controller.pressure = pressure
  begun : controller.initialAttacks = initial
  counted : controller.acceptedHits = hits
  answered : controller.counterattacks = counterattacksForHits hits pressure
  facing : Facing actors enemyId playerId
    (health - (initial + counterattacksForHits hits pressure) * pressure.damage)

/-- One more hit is answered when it fills the interval and answers are left. -/
theorem counterattacksForHits_succ (hits : Nat) (pressure : PressureProfile) :
    counterattacksForHits (hits + 1) pressure = counterattacksForHits hits pressure +
      if pressure.maximumCounterattacks = 0 ∨ pressure.acceptedHitsPerCounterattack = 0 ∨
          counterattacksForHits hits pressure ≥ pressure.maximumCounterattacks ∨
          (hits + 1) % pressure.acceptedHitsPerCounterattack ≠ 0 then 0 else 1 := by
  unfold counterattacksForHits
  by_cases never : pressure.maximumCounterattacks = 0
  · simp only [never, true_or, if_true]
  by_cases without : pressure.acceptedHitsPerCounterattack = 0
  · simp only [without, Nat.div_zero, true_or, or_true, if_true, Nat.add_zero]
  simp only [never, without, if_false, false_or, Nat.succ_div, Nat.dvd_iff_mod_eq_zero]
  by_cases fills : (hits + 1) % pressure.acceptedHitsPerCounterattack = 0
  · rw [if_pos fills]
    split
    · next spent =>
      have spent := spent.resolve_right (not_not.mpr fills)
      omega
    · next left =>
      have left := not_or.mp left
      omega
  · rw [if_neg fills, if_pos (Or.inr fills)]
    omega

/-- A sum of attacks that the player survives leaves it alive before each of
them. -/
theorem alive_before {health damage total made : Nat} (survives : total * damage < health)
    (fewer : made < total) : 0 < health - made * damage := by
  have product := Nat.mul_le_mul_right damage fewer.le
  omega

variable {pressure : PressureProfile} {initial hits total : Nat}

/-- The step lemma of a tick. -/
theorem Pressing.tick (pressing : Pressing pressure enemyId playerId health initial 0 controller actors)
    (survives : pressure.initialAttacks * pressure.damage < health) :
    ∃ next, next = (if initial < pressure.initialAttacks then initial + 1 else initial) ∧
      (controller.tick actors enemyId playerId).1.countP AiEvent.isAttack = next - initial ∧
      Pressing pressure enemyId playerId health next 0
        (controller.tick actors enemyId playerId).2.1
        (controller.tick actors enemyId playerId).2.2 := by
  obtain ⟨enemy, enemyFound, -⟩ := pressing.facing.enemy
  obtain ⟨player, playerFound, -⟩ := pressing.facing.player
  refine ⟨_, rfl, ?_⟩
  unfold AiController.tick
  simp only [enemyFound, playerFound, pressing.closed, pressing.begun, pressing.profile]
  split
  · next more =>
    have none' : counterattacksForHits 0 pressure = 0 := by
      simp [counterattacksForHits]
    have facing := pressing.facing
    rw [none', Nat.add_zero] at facing
    obtain ⟨event, struck, attack, after⟩ := @attackTarget_facing controller _ _ _ _ facing
      (alive_before survives more)
    rw [pressing.profile, Nat.sub_sub, ← Nat.succ_mul] at after
    refine ⟨?_, rfl, rfl, rfl, pressing.counted, pressing.answered, ?_⟩
    · rw [struck, Nat.add_sub_cancel_left]
      simp [attack]
    · rw [none', Nat.add_zero]
      exact after
  · next done =>
    rw [Nat.sub_self]
    exact ⟨rfl, pressing⟩

/-- The step lemma of an accepted hit. -/
theorem Pressing.acceptedHit
    (pressing : Pressing pressure enemyId playerId health initial hits controller actors)
    (words : hits < u32Max)
    (survives : (initial + counterattacksForHits (hits + 1) pressure) * pressure.damage < health) :
    (controller.acceptedHit actors enemyId (some playerId)).1.toList.countP AiEvent.isAttack =
        counterattacksForHits (hits + 1) pressure - counterattacksForHits hits pressure ∧
      Pressing pressure enemyId playerId health initial (hits + 1)
        (controller.acceptedHit actors enemyId (some playerId)).2.1
        (controller.acceptedHit actors enemyId (some playerId)).2.2 := by
  have count : min (hits + 1) u32Max = hits + 1 := Nat.min_eq_left words
  have grown := counterattacksForHits_succ hits pressure
  unfold AiController.acceptedHit
  simp only [pressing.closed, pressing.profile, pressing.counted, pressing.answered, ne_eq,
    not_true_eq_false, if_false, count]
  split
  · next quiet =>
    have same : counterattacksForHits (hits + 1) pressure = counterattacksForHits hits pressure := by
      rw [grown, if_pos quiet]
      rfl
    rw [same, Nat.sub_self]
    refine ⟨rfl, rfl, rfl, pressing.begun, rfl, same.symm, ?_⟩
    rw [same]
    exact pressing.facing
  · next answers =>
    have more : counterattacksForHits (hits + 1) pressure =
        counterattacksForHits hits pressure + 1 := by
      rw [grown, if_neg answers]
    obtain ⟨event, struck, attack, after⟩ := @attackTarget_facing controller _ _ _ _ pressing.facing
      (alive_before survives (by omega))
    rw [pressing.profile, Nat.sub_sub, ← Nat.succ_mul] at after
    rw [more, Nat.add_sub_cancel_left]
    refine ⟨?_, rfl, rfl, pressing.begun, rfl, more.symm, ?_⟩
    · change (controller.attackTarget actors enemyId playerId).1.toList.countP _ = 1
      rw [struck]
      simp [attack]
    · rw [more]
      exact after

/-- The run lemma of the ticks. -/
theorem Pressing.ticks
    (pressing : Pressing pressure enemyId playerId health 0 0 controller actors)
    (survives : pressure.initialAttacks * pressure.damage < health) (count : Nat) :
    (AiController.ticks enemyId playerId controller actors count).1.countP AiEvent.isAttack =
        min count pressure.initialAttacks ∧
      Pressing pressure enemyId playerId health (min count pressure.initialAttacks) 0
        (AiController.ticks enemyId playerId controller actors count).2.1
        (AiController.ticks enemyId playerId controller actors count).2.2 := by
  induction count with
  | zero =>
      rw [Nat.zero_min]
      exact ⟨rfl, pressing⟩
  | succ count inductionHypothesis =>
      obtain ⟨made, current⟩ := inductionHypothesis
      obtain ⟨next, known, more, after⟩ := current.tick survives
      have same : next = min (count + 1) pressure.initialAttacks := by
        rw [known]
        split <;> omega
      subst same
      refine ⟨?_, after⟩
      change List.countP _ (_ ++ _) = _
      rw [List.countP_append, made]
      refine (congrArg _ more).trans ?_
      omega

/-- The run lemma of the accepted hits. -/
theorem Pressing.acceptedHitsBy
    (pressing : Pressing pressure enemyId playerId health initial 0 controller actors) {count : Nat}
    (words : count ≤ u32Max)
    (survives : (initial + counterattacksForHits count pressure) * pressure.damage < health) :
    (AiController.acceptedHitsBy enemyId playerId controller actors count).1.countP
        AiEvent.isAttack = counterattacksForHits count pressure ∧
      Pressing pressure enemyId playerId health initial count
        (AiController.acceptedHitsBy enemyId playerId controller actors count).2.1
        (AiController.acceptedHitsBy enemyId playerId controller actors count).2.2 := by
  induction count with
  | zero =>
      refine ⟨?_, pressing⟩
      simp [AiController.acceptedHitsBy, counterattacksForHits]
  | succ count inductionHypothesis =>
      have grown : counterattacksForHits count pressure ≤ counterattacksForHits (count + 1) pressure := by
        rw [counterattacksForHits_succ]
        exact Nat.le_add_right _ _
      have product := Nat.mul_le_mul_right pressure.damage (Nat.add_le_add_left grown initial)
      obtain ⟨made, current⟩ := inductionHypothesis (by omega) (by omega)
      obtain ⟨more, after⟩ := current.acceptedHit words survives
      refine ⟨?_, after⟩
      change List.countP _ (_ ++ _) = _
      rw [List.countP_append, made]
      refine (congrArg _ more).trans ?_
      omega

/-- A fresh controller in its attack state, with its initial attacks and one
answer at most for each nonlethal hit, attacks as often as the analysis expects. -/
theorem pressed {scenario : CombatScenario} {metrics : CombatMetrics}
    (analyzed : Analyzed scenario metrics) (words : metrics.requiredHits ≤ u32Max)
    (attacking : controller = { new scenario.pressure with state := .attack })
    (facing : Facing actors enemyId playerId health)
    (survives : metrics.expectedIncomingDamage < health) {count : Nat}
    (enough : scenario.pressure.initialAttacks ≤ count) :
    ∀ first current field, ticks enemyId playerId controller actors count = (first, current, field) →
    ∀ second last after, acceptedHitsBy enemyId playerId current field (metrics.requiredHits - 1) =
      (second, last, after) →
    (first ++ second).countP AiEvent.isAttack = metrics.expectedHostileAttacks ∧
      Facing after enemyId playerId (health - metrics.expectedIncomingDamage) := by
  have none' : counterattacksForHits 0 scenario.pressure = 0 := by
    simp [counterattacksForHits]
  have start : Pressing scenario.pressure enemyId playerId health 0 0 controller actors := by
    subst attacking
    refine ⟨rfl, rfl, rfl, rfl, none'.symm, ?_⟩
    rw [none', Nat.zero_mul, Nat.sub_zero]
    exact facing
  rw [analyzed.incoming, analyzed.hostile] at survives
  have product := Nat.mul_le_mul_right scenario.pressure.damage
    (Nat.le_add_right scenario.pressure.initialAttacks
      (counterattacksForHits (metrics.requiredHits - 1) scenario.pressure))
  intro first current field ticked second last after hit
  obtain ⟨made, begun⟩ := start.ticks (by omega) count
  rw [ticked, Nat.min_eq_right enough] at made begun
  have fewer : metrics.requiredHits - 1 ≤ u32Max := by omega
  obtain ⟨answered, final⟩ := begun.acceptedHitsBy fewer survives
  rw [hit] at answered final
  refine ⟨?_, ?_⟩
  · rw [List.countP_append, made, answered, analyzed.hostile]
  · rw [analyzed.incoming, analyzed.hostile]
    exact final.facing

end AiController

/-! ## The analysis and the runtime -/

open CombatScenario CombatRuntime AiController in
/-- For an accepted scenario whose target is in range: the required hits are those
that kill, the expected attacks are those of the controller, and the predicted
time is the least in which its attackers kill. -/
theorem analysis_agrees {scenario : CombatScenario} {metrics : CombatMetrics}
    (word : scenario.targetHealth ≤ u32Max) (accepted : analyzeScenario scenario = .ok metrics)
    (inRange : metrics.inRange = true) :
    (metrics.overkillDamage + scenario.targetHealth =
        metrics.requiredHits * scenario.attack.damage ∧
      ∀ attackers targetId target start calls, scenario.Engaged attackers targetId target start →
        scenario.Schedule attackers targetId calls →
        (hits (Call.log attackInPlace calls start)).length ≤ metrics.requiredHits ∧
          ∃ after, (Call.final attackInPlace calls start).actors.get targetId = some after ∧
            (after.health = 0 ↔
              (hits (Call.log attackInPlace calls start)).length = metrics.requiredHits)) ∧
    (∀ actors enemyId playerId health, AiController.Facing actors enemyId playerId health →
      metrics.expectedIncomingDamage < health → ∀ count, scenario.pressure.initialAttacks ≤ count →
      ∀ first current field,
        ticks enemyId playerId { new scenario.pressure with state := .attack } actors count =
          (first, current, field) →
      ∀ second last after, acceptedHitsBy enemyId playerId current field
          (metrics.requiredHits - 1) = (second, last, after) →
        (first ++ second).countP AiEvent.isAttack = metrics.expectedHostileAttacks) ∧
    ∀ attackers targetId target start, scenario.Engaged attackers targetId target start →
      (∀ calls first kill, scenario.Schedule attackers targetId calls →
        Legible (Call.log attackInPlace calls start) →
        (hits (Call.log attackInPlace calls start)).head? = some first →
        kill ∈ Call.log attackInPlace calls start → Kills kill →
        first.1.nowMs + metrics.theoreticalTtkMs ≤ kill.1.nowMs) ∧
      (start.combat = .default → ∃ calls first kill, scenario.Schedule attackers targetId calls ∧
        Legible (Call.log attackInPlace calls start) ∧
        (hits (Call.log attackInPlace calls start)).head? = some first ∧
        kill ∈ Call.log attackInPlace calls start ∧ Kills kill ∧
        kill.1.nowMs = first.1.nowMs + metrics.theoreticalTtkMs ∧
        (metrics.theoreticalTtkMs + scenario.attack.cooldownMs ≤ u64Max →
          ∀ call ∈ calls, call.Unsaturated)) := by
  have analyzed := analyzeScenario_ok accepted
  have few : metrics.requiredHits ≤ u32Max := by
    rw [analyzed.hits, ← divCeil_spec _ analyzed.damage]
    exact word.trans (Nat.le_mul_of_pos_right _ analyzed.damage)
  have near : scenario.targetDistanceSquared ≤ scenario.attack.range ^ 2 := by
    rw [analyzed.range] at inRange
    exact of_decide_eq_true inRange
  refine ⟨⟨analyzed.overkill, ?_⟩, ?_, ?_⟩
  · intro attackers targetId target start calls engaged schedule
    exact requiredHits_spec analyzed engaged schedule
  · intro actors enemyId playerId health facing survives count enough first current field ticked
      second last after hit
    exact (pressed analyzed few rfl facing survives enough first current field ticked second last
      after hit).1
  · intro attackers targetId target start engaged
    refine ⟨?_, fun fresh => ttk_attained analyzed engaged fresh near⟩
    intro calls first kill schedule legible begins member kills
    exact ttk_le analyzed engaged schedule legible begins member kills

/-- Two players before an enemy that takes three hits. -/
def patrol : CombatScenario where
  attack := ⟨20, 5, 300⟩
  targetHealth := 50
  targetDistanceSquared := 4
  attackerCount := 2
  clientAttackIntervalMs := 100
  roundTripMs := 40
  pressure := ⟨15, 1, 2, 2⟩

def patrolMetrics : CombatMetrics where
  requiredHits := 3
  requiredVolleys := 2
  effectiveAttackIntervalMs := 300
  theoreticalTtkMs := 300
  effectiveTtkMs := 300
  overkillDamage := 10
  damagePerSecondMilli := 66666
  cooldownDutyBasisPoints := 10000
  rangeMarginSquared := 21
  inRange := true
  expectedHostileAttacks := 2
  expectedIncomingDamage := 30

def patrolBattle : Battle where
  actors := ((ActorRegistry.empty.insert ⟨1, .player, "player", ⟨0, 0, 0⟩, 100, 100⟩).insert
    ⟨2, .player, "player", ⟨4, 0, 0⟩, 100, 100⟩).insert ⟨3, .enemy, "relay-drone", ⟨2, 0, 0⟩, 50, 50⟩
  combat := .default

theorem patrol_analyzed : analyzeScenario patrol = .ok patrolMetrics := by
  decide +kernel

theorem patrol_engaged : patrol.Engaged [1, 2] 3 ⟨3, .enemy, "relay-drone", ⟨2, 0, 0⟩, 50, 50⟩
    patrolBattle := by
  refine ⟨rfl, by decide, rfl, rfl, rfl, ?_⟩
  intro attackerId member
  simp only [List.mem_cons, List.not_mem_nil, or_false] at member
  rcases member with rfl | rfl
  · exact ⟨⟨1, .player, "player", ⟨0, 0, 0⟩, 100, 100⟩, rfl, rfl, by decide, by decide⟩
  · exact ⟨⟨2, .player, "player", ⟨4, 0, 0⟩, 100, 100⟩, rfl, rfl, by decide, by decide⟩

open CombatScenario CombatRuntime in
theorem analysis_agrees_patrol :
    patrolMetrics.overkillDamage + patrol.targetHealth =
        patrolMetrics.requiredHits * patrol.attack.damage ∧
      ∃ calls first kill, patrol.Schedule [1, 2] 3 calls ∧
        first ∈ Call.log attackInPlace calls patrolBattle ∧
        kill ∈ Call.log attackInPlace calls patrolBattle ∧ Kills kill ∧
        kill.1.nowMs = first.1.nowMs + 300 := by
  have agrees := @analysis_agrees patrol patrolMetrics (by decide) patrol_analyzed rfl
  refine ⟨agrees.1.1, ?_⟩
  obtain ⟨calls, first, kill, schedule, -, begins, member, kills, time, -⟩ :=
    (agrees.2.2 _ _ _ _ patrol_engaged).2 rfl
  exact ⟨calls, first, kill, schedule, List.mem_of_mem_filter (List.mem_of_head? begins), member,
    kills, time⟩

end Ai
end Revenant
