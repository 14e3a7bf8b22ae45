import Mathlib.Data.List.GetD
import Mathlib.Data.List.Nodup
import Revenant.Combat.Cooldown
import Revenant.Library.Pacing
import Revenant.Library.Splits

namespace Revenant

open Library

/-!
# Balance analysis

The analysis predicts hits, times and counterattacks of a scenario with closed
forms.  `Hits`, `Schedule` and the theorems below compare the forms with the
combat runtime: the number of hits that kill, and the least time in which any
order of attacks by the scenario's attackers kills.
-/

structure CombatScenario where
  attack : AttackProfile
  targetHealth : Nat
  targetDistanceSquared : Int
  attackerCount : Nat
  clientAttackIntervalMs : Nat
  roundTripMs : Nat
  pressure : PressureProfile
  deriving DecidableEq, Repr

structure CombatMetrics where
  requiredHits : Nat
  requiredVolleys : Nat
  effectiveAttackIntervalMs : Nat
  theoreticalTtkMs : Nat
  effectiveTtkMs : Nat
  overkillDamage : Nat
  damagePerSecondMilli : Nat
  cooldownDutyBasisPoints : Nat
  rangeMarginSquared : Int
  inRange : Bool
  expectedHostileAttacks : Nat
  expectedIncomingDamage : Nat
  deriving DecidableEq, Repr

inductive CombatAnalysisError where
  | zeroDamage
  | negativeRange
  | zeroCooldown
  | zeroTargetHealth
  | negativeDistanceSquared
  | zeroAttackers
  | invalidPressure
  | arithmeticOverflow
  deriving DecidableEq, Repr

namespace CombatScenario

def validate (scenario : CombatScenario) : Except CombatAnalysisError Unit := do
  rejectIf (scenario.attack.damage = 0) .zeroDamage
  rejectIf (scenario.attack.range < 0) .negativeRange
  rejectIf (scenario.attack.cooldownMs = 0) .zeroCooldown
  rejectIf (scenario.targetHealth = 0) .zeroTargetHealth
  rejectIf (scenario.targetDistanceSquared < 0) .negativeDistanceSquared
  rejectIf (scenario.attackerCount = 0) .zeroAttackers
  rejectIf ((scenario.pressure.initialAttacks > 0 ∨ scenario.pressure.maximumCounterattacks > 0) ∧
    scenario.pressure.damage = 0) .invalidPressure
  rejectIf (scenario.pressure.maximumCounterattacks > 0 ∧
    scenario.pressure.acceptedHitsPerCounterattack = 0) .invalidPressure

end CombatScenario

/-- The `div_ceil` of two words. -/
def divCeil (dividend divisor : Nat) : Nat :=
  dividend / divisor + if dividend % divisor > 0 then 1 else 0

/-- A checked result of a width. -/
def checked (limit value : Nat) : Except CombatAnalysisError Nat := do
  rejectIf (value > limit) .arithmeticOverflow
  return value

def counterattacksForHits (nonlethalHits : Nat) (pressure : PressureProfile) : Nat :=
  if pressure.maximumCounterattacks = 0 then 0
  else min (nonlethalHits / pressure.acceptedHitsPerCounterattack) pressure.maximumCounterattacks

def hostileAttacksForHits (requiredHits : Nat) (pressure : PressureProfile) :
    Except CombatAnalysisError Nat :=
  checked u32Max (pressure.initialAttacks + counterattacksForHits (requiredHits - 1) pressure)

def analyzeScenario (scenario : CombatScenario) : Except CombatAnalysisError CombatMetrics := do
  scenario.validate
  let cooldownMs := scenario.attack.cooldownMs
  let requiredHits := divCeil scenario.targetHealth scenario.attack.damage
  let requiredVolleys := divCeil requiredHits scenario.attackerCount
  let theoreticalTtkMs ← checked u64Max ((requiredVolleys - 1) * cooldownMs)
  let effectiveAttackIntervalMs :=
    max (max cooldownMs scenario.clientAttackIntervalMs) scenario.roundTripMs
  let effectiveTtkMs ← checked u64Max ((requiredVolleys - 1) * effectiveAttackIntervalMs)
  let totalDamage ← checked u64Max (requiredHits * scenario.attack.damage)
  rejectIf (totalDamage < scenario.targetHealth) .arithmeticOverflow
  let scaledDamage ← checked u64Max (scenario.attack.damage * 1000000)
  let scaledCooldown ← checked u64Max (cooldownMs * 10000)
  let rangeMarginSquared := scenario.attack.range ^ 2 - scenario.targetDistanceSquared
  rejectIf (rangeMarginSquared < -(2 ^ 63) ∨ 2 ^ 63 ≤ rangeMarginSquared) .arithmeticOverflow
  let expectedHostileAttacks ← hostileAttacksForHits requiredHits scenario.pressure
  let expectedIncomingDamage ← checked u64Max (expectedHostileAttacks * scenario.pressure.damage)
  return { requiredHits, requiredVolleys, effectiveAttackIntervalMs, theoreticalTtkMs
           effectiveTtkMs
           overkillDamage := totalDamage - scenario.targetHealth
           damagePerSecondMilli := scaledDamage / cooldownMs
           cooldownDutyBasisPoints := scaledCooldown / effectiveAttackIntervalMs
           rangeMarginSquared
           inRange := decide (0 ≤ rangeMarginSquared)
           expectedHostileAttacks, expectedIncomingDamage }

/-! ## What an accepted scenario promises -/

/-- The smallest number of parts that cover the dividend. -/
theorem divCeil_spec (dividend : Nat) {divisor : Nat} (positive : 0 < divisor) (count : Nat) :
    dividend ≤ count * divisor ↔ divCeil dividend divisor ≤ count := by
  have division := Nat.div_add_mod dividend divisor
  have small := Nat.mod_lt dividend positive
  unfold divCeil
  rw [Nat.mul_comm] at division
  constructor
  · intro covers
    split
    · next partial' =>
      by_contra fewer
      have le : count ≤ dividend / divisor := by omega
      have product := Nat.mul_le_mul_right divisor le
      omega
    · next whole =>
      by_contra fewer
      have le : count + 1 ≤ dividend / divisor := by omega
      have product := Nat.mul_le_mul_right divisor le
      rw [Nat.succ_mul] at product
      omega
  · intro enough
    split at enough
    · have product := Nat.mul_le_mul_right divisor enough
      rw [Nat.add_mul] at product
      omega
    · rw [Nat.add_zero] at enough
      have product := Nat.mul_le_mul_right divisor enough
      omega

/-- The guards and the forms of an accepted scenario. -/
structure Analyzed (scenario : CombatScenario) (metrics : CombatMetrics) : Prop where
  damage : 0 < scenario.attack.damage
  cooldown : 0 < scenario.attack.cooldownMs
  health : 0 < scenario.targetHealth
  attackers : 0 < scenario.attackerCount
  interval : 0 < scenario.pressure.maximumCounterattacks →
    0 < scenario.pressure.acceptedHitsPerCounterattack
  hits : metrics.requiredHits = divCeil scenario.targetHealth scenario.attack.damage
  volleys : metrics.requiredVolleys = divCeil metrics.requiredHits scenario.attackerCount
  ttk : metrics.theoreticalTtkMs = (metrics.requiredVolleys - 1) * scenario.attack.cooldownMs
  ttkFits : metrics.theoreticalTtkMs ≤ u64Max
  overkill : metrics.overkillDamage + scenario.targetHealth =
    metrics.requiredHits * scenario.attack.damage
  range : metrics.inRange = decide (scenario.targetDistanceSquared ≤ scenario.attack.range ^ 2)
  hostile : metrics.expectedHostileAttacks = scenario.pressure.initialAttacks +
    counterattacksForHits (metrics.requiredHits - 1) scenario.pressure
  hostileFits : metrics.expectedHostileAttacks ≤ u32Max
  incoming : metrics.expectedIncomingDamage =
    metrics.expectedHostileAttacks * scenario.pressure.damage

theorem checked_eq_ok {limit value result : Nat} :
    checked limit value = .ok result ↔ value = result ∧ value ≤ limit := by
  unfold checked
  simp only [guard_bind_eq_ok, rejectIf_eq_ok, pure_eq_ok, not_lt]
  exact and_comm

theorem analyzeScenario_ok {scenario : CombatScenario} {metrics : CombatMetrics}
    (accepted : analyzeScenario scenario = .ok metrics) : Analyzed scenario metrics := by
  unfold analyzeScenario CombatScenario.validate hostileAttacksForHits at accepted
  simp only [bind_eq_ok, exists_unit, rejectIf_eq_ok, checked_eq_ok, pure_eq_ok] at accepted
  obtain ⟨⟨damage, -, cooldown, health, -, attackers, -, interval⟩, _, ⟨rfl, ttkFits⟩, _, -, _,
    ⟨rfl, -⟩, covered, _, -, _, -, -, _, ⟨rfl, hostileFits⟩, _, ⟨rfl, -⟩, rfl⟩ := accepted
  refine ⟨Nat.pos_of_ne_zero damage, Nat.pos_of_ne_zero cooldown, Nat.pos_of_ne_zero health,
    Nat.pos_of_ne_zero attackers, ?_, rfl, rfl, rfl, ttkFits, ?_, ?_, rfl, hostileFits, rfl⟩
  · intro some'
    exact Nat.pos_of_ne_zero fun none' => interval ⟨some', none'⟩
  · exact Nat.sub_add_cancel (not_lt.mp covered)
  · exact decide_eq_decide.mpr sub_nonneg

/-! ## Schedules -/

namespace CombatScenario

open CombatRuntime

/-- The scenario's target before its attackers, at the scenario's distance. -/
structure Engaged (scenario : CombatScenario) (attackers : List Nat) (targetId : Nat)
    (target : Actor) (battle : Battle) : Prop where
  crowd : attackers.length = scenario.attackerCount
  distinct : attackers.Nodup
  enemy : target.kind = .enemy
  health : target.health = scenario.targetHealth
  found : battle.actors.get targetId = some target
  ready : ∀ attackerId ∈ attackers, ∃ attacker, battle.actors.get attackerId = some attacker ∧
    attacker.kind = .player ∧ 0 < attacker.health ∧
    attacker.position.squaredDistance target.position = scenario.targetDistanceSquared

/-- Attacks by the scenario's attackers on its target, with a monotonic clock. -/
structure Schedule (scenario : CombatScenario) (attackers : List Nat) (targetId : Nat)
    (calls : List AttackCall) : Prop where
  attackers : ∀ call ∈ calls, call.attackerId ∈ attackers
  target : ∀ call ∈ calls, call.targetId = targetId
  profile : ∀ call ∈ calls, call.profile = scenario.attack
  words : ∀ call ∈ calls, call.nowMs ≤ u64Max
  ordered : calls.Pairwise (fun earlier later => earlier.nowMs ≤ later.nowMs)

/-- The accepted attacks of a log. -/
def hits (answers : List Answered) : List Answered := answers.filter (fun answer => answer.2.isOk)

/-- The hit that kills. -/
def Kills (answer : Answered) : Prop := ∃ result, answer.2 = .ok result ∧ result.killed = true

/-- No ready time that is compared with a later hit of its attacker saturates. -/
def Legible (answers : List Answered) : Prop :=
  answers.Pairwise fun earlier later => earlier.2.isOk → later.2.isOk →
    earlier.1.attackerId = later.1.attackerId → earlier.1.Unsaturated

@[simp] theorem hits_append (first second : List Answered) :
    hits (first ++ second) = hits first ++ hits second := List.filter_append ..

variable {scenario : CombatScenario} {metrics : CombatMetrics} {attackers : List Nat}
variable {targetId : Nat} {target : Actor} {start : Battle} {calls : List AttackCall}

theorem Schedule.before {call : AttackCall}
    (schedule : scenario.Schedule attackers targetId (calls ++ [call])) :
    scenario.Schedule attackers targetId calls where
  attackers old member := schedule.attackers old (List.mem_append_left _ member)
  target old member := schedule.target old (List.mem_append_left _ member)
  profile old member := schedule.profile old (List.mem_append_left _ member)
  words old member := schedule.words old (List.mem_append_left _ member)
  ordered := (List.pairwise_append.mp schedule.ordered).1

/-- The target after a number of hits. -/
def damaged (scenario : CombatScenario) (target : Actor) (count : Nat) : Actor :=
  { target with health := scenario.targetHealth - count * scenario.attack.damage }

/-- What a schedule has done: its hits, one after the other, wear down the target. -/
structure Progress (scenario : CombatScenario) (targetId : Nat) (target : Actor) (start : Battle)
    (answers : List Answered) (battle : Battle) : Prop where
  target : battle.actors.get targetId = some (scenario.damaged target (hits answers).length)
  others : ∀ actorId, actorId ≠ targetId → battle.actors.get actorId = start.actors.get actorId
  struck : ∀ front answer back, answers = front ++ answer :: back → ∀ result,
    answer.2 = .ok result → (hits front).length * scenario.attack.damage < scenario.targetHealth ∧
      result.killed = decide
        (scenario.targetHealth ≤ ((hits front).length + 1) * scenario.attack.damage)
  bounded : (hits answers).length ≤ divCeil scenario.targetHealth scenario.attack.damage

/-- The step lemma of a schedule. -/
theorem Progress.attack {answers : List Answered} {battle : Battle} {call : AttackCall}
    (positive : 0 < scenario.attack.damage)
    (progress : scenario.Progress targetId target start answers battle)
    (aimed : call.targetId = targetId) (profile : call.profile = scenario.attack) :
    scenario.Progress targetId target start (answers ++ [(call, (attackInPlace call battle).1)])
      (attackInPlace call battle).2 := by
  rcases attackInPlace_cases call battle with
    ⟨failure, refused⟩ | ⟨result, after, attacker, struck, attacked, accepted⟩
  · rw [refused]
    have same : hits (answers ++ [(call, (.error failure : Except CombatError DamageResult))]) =
        hits answers := by
      rw [hits_append]
      exact List.append_nil _
    refine ⟨same ▸ progress.target, progress.others, ?_, same ▸ progress.bounded⟩
    refine forall_split_snoc _ progress.struck ?_
    intro result impossible
    cases impossible
  · have known := accepted.target_found
    rw [aimed, progress.target] at known
    obtain rfl := Option.some.inj known
    have count : (hits (answers ++ [(call, (.ok result : Except CombatError DamageResult))])).length =
        (hits answers).length + 1 := by
      rw [hits_append, List.length_append]
      rfl
    have alive := accepted.target_alive
    simp only [damaged] at alive
    rw [attacked]
    refine ⟨?_, ?_, ?_, ?_⟩
    · rw [accepted.actors_eq, ActorRegistry.get_applyDamage, aimed, if_pos rfl, progress.target,
        count, profile]
      simp only [Option.map_some, damaged, Nat.sub_sub, Nat.succ_mul]
    · intro actorId other
      rw [accepted.actors_eq, ActorRegistry.get_applyDamage, aimed, if_neg other]
      exact progress.others actorId other
    · refine forall_split_snoc _ progress.struck ?_
      intro other same
      cases same
      rw [accepted.killed_eq, profile]
      refine ⟨by omega, decide_eq_decide.mpr ?_⟩
      simp only [damaged]
      rw [Nat.succ_mul]
      omega
    · rw [count]
      by_contra beyond
      have enough : scenario.targetHealth ≤ (hits answers).length * scenario.attack.damage :=
        (divCeil_spec _ positive _).mpr (by omega)
      omega

theorem progress_run (positive : 0 < scenario.attack.damage)
    (engaged : scenario.Engaged attackers targetId target start)
    (schedule : scenario.Schedule attackers targetId calls) :
    scenario.Progress targetId target start (Call.log attackInPlace calls start)
      (Call.final attackInPlace calls start) := by
  induction calls using List.reverseRecOn with
  | nil =>
      refine ⟨?_, fun _ _ => rfl, ?_, Nat.zero_le _⟩
      swap
      · intro front answer back split
        cases front <;> cases split
      change start.actors.get targetId = some { target with health := _ - 0 * _ }
      rw [engaged.found, Nat.zero_mul, Nat.sub_zero, ← engaged.health]
  | append_singleton earlier call inductionHypothesis =>
      have member : call ∈ earlier ++ [call] := List.mem_append_right _ List.mem_cons_self
      rw [Call.log_append, Call.final_append]
      exact (inductionHypothesis schedule.before).attack positive (schedule.target call member)
        (schedule.profile call member)

/-- The required hits are those that kill, and no further attack is accepted. -/
theorem requiredHits_spec (analyzed : Analyzed scenario metrics)
    (engaged : scenario.Engaged attackers targetId target start)
    (schedule : scenario.Schedule attackers targetId calls) :
    (hits (Call.log attackInPlace calls start)).length ≤ metrics.requiredHits ∧
      ∃ after, (Call.final attackInPlace calls start).actors.get targetId = some after ∧
        (after.health = 0 ↔
          (hits (Call.log attackInPlace calls start)).length = metrics.requiredHits) := by
  have progress := progress_run analyzed.damage engaged schedule
  have bounded := progress.bounded
  rw [← analyzed.hits] at bounded
  refine ⟨bounded, _, progress.target, ?_⟩
  have covers := divCeil_spec scenario.targetHealth analyzed.damage
    (hits (Call.log attackInPlace calls start)).length
  rw [← analyzed.hits] at covers
  change scenario.targetHealth - _ = 0 ↔ _
  rw [Nat.sub_eq_zero_iff_le, covers]
  omega

/-! ## No schedule is faster -/

/-- Two hits of one attacker lie a cooldown apart. -/
theorem hits_apart (start : Battle) (schedule : scenario.Schedule attackers targetId calls)
    (legible : Legible (Call.log attackInPlace calls start)) :
    (hits (Call.log attackInPlace calls start)).Pairwise fun earlier later =>
      earlier.1.attackerId = later.1.attackerId →
        earlier.1.nowMs + scenario.attack.cooldownMs ≤ later.1.nowMs := by
  have spaced := spaced_run calls start schedule.words
  have both := (spaced.and legible).filter (fun answer => answer.2.isOk)
  refine both.imp_of_mem ?_
  intro earlier later earlierMember laterMember related same
  obtain ⟨listed, taken⟩ := List.mem_filter.mp earlierMember
  have later' := (List.mem_filter.mp laterMember).2
  have unsaturated := related.2 taken later' same
  have apart := related.1 taken later' same
  have profile : earlier.1.profile = scenario.attack := by
    apply schedule.profile
    rw [← Call.log_operations calls start]
    exact List.mem_map_of_mem listed
  rwa [saturatingAdd, Nat.min_eq_left unsaturated, profile] at apart

theorem hits_ordered (start : Battle) (schedule : scenario.Schedule attackers targetId calls) :
    (hits (Call.log attackInPlace calls start)).Pairwise fun earlier later =>
      earlier.1.nowMs ≤ later.1.nowMs := by
  have ordered := schedule.ordered
  rw [← Call.log_operations calls start, List.pairwise_map] at ordered
  exact ordered.filter _

theorem head_le {answers : List Answered} {first answer : Answered}
    (ordered : answers.Pairwise fun earlier later => earlier.1.nowMs ≤ later.1.nowMs)
    (begins : answers.head? = some first) (member : answer ∈ answers) :
    first.1.nowMs ≤ answer.1.nowMs := by
  cases answers with
  | nil => cases member
  | cons head tail =>
      cases begins
      rcases List.mem_cons.mp member with rfl | later
      · exact le_refl _
      · exact (List.pairwise_cons.mp ordered).1 answer later

/-- Many hits of few attackers include many of one attacker, which take their
time. -/
theorem ttk_le (analyzed : Analyzed scenario metrics)
    (engaged : scenario.Engaged attackers targetId target start)
    (schedule : scenario.Schedule attackers targetId calls)
    (legible : Legible (Call.log attackInPlace calls start)) {first kill : Answered}
    (begins : (hits (Call.log attackInPlace calls start)).head? = some first)
    (member : kill ∈ Call.log attackInPlace calls start) (kills : Kills kill) :
    first.1.nowMs + metrics.theoreticalTtkMs ≤ kill.1.nowMs := by
  obtain ⟨result, taken, killed⟩ := kills
  obtain ⟨front, back, split⟩ := List.append_of_mem member
  obtain ⟨-, fatal⟩ := (progress_run analyzed.damage engaged schedule).struck front kill back split
    result taken
  rw [killed] at fatal
  have enough : metrics.requiredHits ≤ (hits front).length + 1 := by
    rw [analyzed.hits, ← divCeil_spec _ analyzed.damage]
    exact of_decide_eq_true fatal.symm
  have killHit : hits (kill :: back) = kill :: hits back :=
    List.filter_cons_of_pos (by rw [taken]; rfl)
  have parts : hits (Call.log attackInPlace calls start) =
      (hits front ++ [kill]) ++ hits back := by
    rw [split, hits_append, killHit, List.append_assoc]
    rfl
  have apart := hits_apart start schedule legible
  have ordered := hits_ordered start schedule
  have known : ∀ answer ∈ hits front ++ [kill], answer.1.attackerId ∈ attackers := by
    intro answer listed
    apply schedule.attackers
    rw [← Call.log_operations calls start]
    apply List.mem_map_of_mem
    apply List.mem_of_mem_filter
    rw [show (Call.log attackInPlace calls start).filter (fun answer => answer.2.isOk) = _ from parts]
    exact List.mem_append_left _ listed
  rw [parts] at apart ordered begins
  rw [List.pairwise_append] at apart ordered
  have begins : (hits front ++ [kill]).head? = some first := by
    rwa [List.head?_append_of_ne_nil _ (by simp)] at begins
  by_contra faster
  rw [analyzed.ttk] at faster
  have uncrowded : ∀ origin ∈ attackers, ((hits front ++ [kill]).filter
      (fun answer => answer.1.attackerId = origin)).length ≤ metrics.requiredVolleys - 1 := by
    intro origin _
    by_contra crowded
    have mine : ((hits front ++ [kill]).filter (fun answer => answer.1.attackerId = origin)).Pairwise
        fun earlier later => earlier.1.nowMs + scenario.attack.cooldownMs ≤ later.1.nowMs := by
      refine (apart.1.filter _).imp_of_mem ?_
      intro earlier later earlierMember laterMember related
      have left := of_decide_eq_true (List.mem_filter.mp earlierMember).2
      have right := of_decide_eq_true (List.mem_filter.mp laterMember).2
      exact related (left.trans right.symm)
    cases own : (hits front ++ [kill]).filter (fun answer => answer.1.attackerId = origin) with
    | nil =>
        rw [own] at crowded
        exact crowded (Nat.zero_le _)
    | cons earliest rest =>
        rw [own] at mine crowded
        have inside : ∀ answer ∈ earliest :: rest, answer ∈ hits front ++ [kill] := by
          intro answer listed
          rw [← own] at listed
          exact List.mem_of_mem_filter listed
        obtain ⟨last, ends⟩ : ∃ last, (earliest :: rest).getLast? = some last :=
          ⟨_, List.getLast?_eq_some_getLast (List.cons_ne_nil _ _)⟩
        have lasts : earliest.1.nowMs + rest.length * scenario.attack.cooldownMs ≤ last.1.nowMs :=
          paced mine ends
        have early : first.1.nowMs ≤ earliest.1.nowMs :=
          head_le ordered.1 begins (inside earliest List.mem_cons_self)
        have late : last.1.nowMs ≤ kill.1.nowMs := by
          have order := List.pairwise_append.mp ordered.1
          rcases List.mem_append.mp (inside last (List.mem_of_getLast? ends)) with before | same
          · exact order.2.2 last before kill List.mem_cons_self
          · rw [List.mem_singleton.mp same]
        have enoughPaces : metrics.requiredVolleys - 1 ≤ rest.length := by
          rw [List.length_cons] at crowded
          omega
        have product := Nat.mul_le_mul_right scenario.attack.cooldownMs enoughPaces
        omega
  have few := length_le_of_uncrowded known uncrowded
  rw [List.length_append, List.length_singleton, engaged.crowd] at few
  have volleys := (divCeil_spec _ analyzed.attackers (metrics.requiredVolleys - 1)).mp
    (enough.trans (few.trans (Nat.mul_comm _ _).le))
  have some' := divCeil_spec metrics.requiredHits analyzed.attackers 0
  have hit := divCeil_spec scenario.targetHealth analyzed.damage 0
  have health := analyzed.health
  rw [← analyzed.volleys] at volleys some'
  rw [← analyzed.hits] at hit
  omega

/-! ## The attackers in turn kill in that time -/

/-- The attacks in turn: every attacker once, a cooldown later every attacker
again. -/
def volley (scenario : CombatScenario) (attackers : List Nat) (targetId index : Nat) : AttackCall where
  attackerId := attackers.getD (index % scenario.attackerCount) 0
  targetId := targetId
  nowMs := index / scenario.attackerCount * scenario.attack.cooldownMs
  profile := scenario.attack

def volleys (scenario : CombatScenario) (attackers : List Nat) (targetId count : Nat) :
    List AttackCall :=
  (List.range count).map (scenario.volley attackers targetId)

theorem volleys_succ (count : Nat) : scenario.volleys attackers targetId (count + 1) =
    scenario.volleys attackers targetId count ++ [scenario.volley attackers targetId count] := by
  rw [volleys, List.range_succ, List.map_append]
  rfl

theorem volley_attacker (targetId : Nat) (positive : 0 < scenario.attackerCount)
    (crowd : attackers.length = scenario.attackerCount) (index : Nat) :
    (scenario.volley attackers targetId index).attackerId ∈ attackers := by
  have bound : index % scenario.attackerCount < attackers.length :=
    crowd.symm ▸ Nat.mod_lt index positive
  change attackers.getD _ 0 ∈ attackers
  rw [List.getD_eq_getElem _ _ bound]
  exact List.getElem_mem bound

/-- The attackers of two attacks are the same when the attacks are whole volleys
apart. -/
theorem volley_same (positive : 0 < scenario.attackerCount) (distinct : attackers.Nodup)
    (crowd : attackers.length = scenario.attackerCount) {first second : Nat}
    (same : (scenario.volley attackers targetId first).attackerId =
      (scenario.volley attackers targetId second).attackerId) :
    first % scenario.attackerCount = second % scenario.attackerCount := by
  have firstBound : first % scenario.attackerCount < attackers.length :=
    crowd.symm ▸ Nat.mod_lt first positive
  have secondBound : second % scenario.attackerCount < attackers.length :=
    crowd.symm ▸ Nat.mod_lt second positive
  change attackers.getD _ 0 = attackers.getD _ 0 at same
  rw [List.getD_eq_getElem _ _ firstBound, List.getD_eq_getElem _ _ secondBound] at same
  exact (List.Nodup.getElem_inj_iff distinct).mp same

/-- An attacker's next turn is at least one volley later. -/
theorem volley_later (attackers : List Nat) (targetId : Nat) {first second : Nat}
    (later : first < second)
    (same : first % scenario.attackerCount = second % scenario.attackerCount) :
    (scenario.volley attackers targetId first).nowMs + scenario.attack.cooldownMs ≤
      (scenario.volley attackers targetId second).nowMs := by
  have firstParts := Nat.div_add_mod first scenario.attackerCount
  have secondParts := Nat.div_add_mod second scenario.attackerCount
  have next : first / scenario.attackerCount + 1 ≤ second / scenario.attackerCount := by
    by_contra early
    have product := Nat.mul_le_mul_left scenario.attackerCount
      (show second / scenario.attackerCount ≤ first / scenario.attackerCount by omega)
    omega
  have product := Nat.mul_le_mul_right scenario.attack.cooldownMs next
  rw [Nat.succ_mul] at product
  exact product

/-- The turns of the required hits lie within the predicted time. -/
theorem volley_bounded (attackers : List Nat) (targetId : Nat)
    (analyzed : Analyzed scenario metrics) {index : Nat}
    (required : index < metrics.requiredHits) :
    (scenario.volley attackers targetId index).nowMs ≤ metrics.theoreticalTtkMs := by
  have before : ¬ metrics.requiredVolleys ≤ index / scenario.attackerCount := by
    rw [analyzed.volleys, ← divCeil_spec _ analyzed.attackers]
    have parts := Nat.div_mul_le_self index scenario.attackerCount
    omega
  rw [analyzed.ttk]
  exact Nat.mul_le_mul_right _ (by omega)

/-- The last of the required hits comes at the predicted time. -/
theorem volley_last (analyzed : Analyzed scenario metrics) (some' : 0 < metrics.requiredHits) :
    (scenario.volley attackers targetId (metrics.requiredHits - 1)).nowMs =
      metrics.theoreticalTtkMs := by
  apply le_antisymm (volley_bounded _ _ analyzed (by omega))
  have parts := Nat.lt_mul_div_succ (metrics.requiredHits - 1) analyzed.attackers
  have volleys : metrics.requiredVolleys ≤
      (metrics.requiredHits - 1) / scenario.attackerCount + 1 := by
    rw [Nat.mul_comm] at parts
    rw [analyzed.volleys, ← divCeil_spec _ analyzed.attackers]
    calc
      metrics.requiredHits = metrics.requiredHits - 1 + 1 := (Nat.sub_add_cancel some').symm
      _ ≤ _ := Nat.succ_le_of_lt parts
  rw [analyzed.ttk]
  exact Nat.mul_le_mul_right _ (Nat.sub_le_of_le_add volleys)

theorem volleys_schedule (targetId : Nat) (analyzed : Analyzed scenario metrics)
    (crowd : attackers.length = scenario.attackerCount) {count : Nat}
    (required : count ≤ metrics.requiredHits) :
    scenario.Schedule attackers targetId (scenario.volleys attackers targetId count) := by
  have listed : ∀ call ∈ scenario.volleys attackers targetId count, ∃ index < count,
      scenario.volley attackers targetId index = call := by
    intro call member
    obtain ⟨index, inside, same⟩ := List.mem_map.mp member
    exact ⟨index, List.mem_range.mp inside, same⟩
  constructor
  · intro call member
    obtain ⟨index, -, rfl⟩ := listed call member
    exact volley_attacker targetId analyzed.attackers crowd index
  · intro call member
    obtain ⟨index, -, rfl⟩ := listed call member
    rfl
  · intro call member
    obtain ⟨index, -, rfl⟩ := listed call member
    rfl
  · intro call member
    obtain ⟨index, inside, rfl⟩ := listed call member
    exact (volley_bounded _ _ analyzed (by omega)).trans analyzed.ttkFits
  · refine List.pairwise_map.mpr (List.pairwise_lt_range.imp ?_)
    intro first second later
    exact Nat.mul_le_mul_right _ (Nat.div_le_div_right later.le)

/-- The next turns of the attackers find them ready. -/
def Ready (scenario : CombatScenario) (attackers : List Nat) (targetId count : Nat)
    (combat : CombatRuntime) : Prop :=
  ∀ next, count ≤ next → ∀ readyAt,
    combat.readyAt (scenario.volley attackers targetId next).attackerId = some readyAt →
      readyAt ≤ (scenario.volley attackers targetId next).nowMs

theorem volleys_hits {count : Nat}
    (taken : ∀ answer ∈ Call.log attackInPlace (scenario.volleys attackers targetId count) start,
      answer.2.isOk) :
    (hits (Call.log attackInPlace (scenario.volleys attackers targetId count) start)).length =
      count := by
  have listed : (Call.log attackInPlace (scenario.volleys attackers targetId count)
      start).map Prod.fst = scenario.volleys attackers targetId count := Call.log_operations _ _
  have same := congrArg List.length listed
  rw [hits, List.filter_eq_self.mpr taken]
  rwa [List.length_map, volleys, List.length_map, List.length_range] at same

/-- All of the attacks in turn are accepted, up to the one that kills. -/
theorem volleys_accepted (analyzed : Analyzed scenario metrics)
    (engaged : scenario.Engaged attackers targetId target start) (fresh : start.combat = .default)
    (near : scenario.targetDistanceSquared ≤ scenario.attack.range ^ 2) {count : Nat}
    (required : count ≤ metrics.requiredHits) :
    (∀ answer ∈ Call.log attackInPlace (scenario.volleys attackers targetId count) start,
        answer.2.isOk) ∧
      scenario.Ready attackers targetId count
        (Call.final attackInPlace (scenario.volleys attackers targetId count) start).combat := by
  induction count with
  | zero =>
      refine ⟨nofun, ?_⟩
      intro next _ readyAt known
      change start.combat.readyAt _ = _ at known
      rw [fresh] at known
      cases known
  | succ count inductionHypothesis =>
      obtain ⟨taken, ready⟩ := inductionHypothesis (by omega)
      have progress := progress_run analyzed.damage engaged
        (volleys_schedule targetId analyzed engaged.crowd (Nat.le_of_succ_le required))
      have found := progress.target
      rw [volleys_hits taken] at found
      have alive : 0 < (scenario.damaged target count).health := by
        have short : ¬ scenario.targetHealth ≤ count * scenario.attack.damage := by
          rw [divCeil_spec _ analyzed.damage, ← analyzed.hits]
          omega
        change 0 < scenario.targetHealth - _
        omega
      rw [volleys_succ, Call.log_append, Call.final_append]
      have shooter := volley_attacker targetId analyzed.attackers engaged.crowd count
      obtain ⟨attacker, attackerFound, player, attackerAlive, distance⟩ := engaged.ready _ shooter
      have apart : (scenario.volley attackers targetId count).attackerId ≠ targetId := by
        intro same
        rw [same, engaged.found] at attackerFound
        cases attackerFound
        cases player.symm.trans engaged.enemy
      have attackerKept := (progress.others _ apart).trans attackerFound
      have cooled : (Call.final attackInPlace (scenario.volleys attackers targetId count)
          start).combat.coolingDown (scenario.volley attackers targetId count).attackerId
            (scenario.volley attackers targetId count).nowMs = false := by
        rw [coolingDown, Option.any_eq_false]
        intro readyAt known
        exact decide_eq_false (not_lt.mpr (ready count (le_refl _) readyAt known))
      obtain ⟨result, after, attacked⟩ := attackInPlace_accepts attackerKept found player
        attackerAlive engaged.enemy alive (distance.le.trans near) cooled
      constructor
      · intro answer member
        rcases List.mem_append.mp member with old | new
        · exact taken answer old
        · rw [List.mem_singleton.mp new]
          change (attackInPlace _ _).1.isOk
          rw [attacked]
          rfl
      · intro next later readyAt known
        rcases attackInPlace_cases (scenario.volley attackers targetId count)
            (Call.final attackInPlace (scenario.volleys attackers targetId count) start) with
          ⟨failure, refused⟩ | ⟨_, _, _, _, struck, accepted⟩
        · cases attacked.symm.trans refused
        · change (attackInPlace _ _).2.combat.readyAt _ = _ at known
          rw [struck, accepted.ready_eq] at known
          by_cases same : (scenario.volley attackers targetId next).attackerId =
              (scenario.volley attackers targetId count).attackerId
          · rw [same, Function.update_self] at known
            obtain rfl := Option.some.inj known
            exact (Nat.min_le_left _ _).trans (volley_later _ _ (Nat.lt_of_succ_le later)
              (volley_same analyzed.attackers engaged.distinct engaged.crowd same).symm)
          · rw [Function.update_of_ne same] at known
            exact ready next (Nat.le_of_succ_le later) readyAt known

/-- The attacks in turn kill at the predicted time after the first of them. -/
theorem ttk_attained (analyzed : Analyzed scenario metrics)
    (engaged : scenario.Engaged attackers targetId target start) (fresh : start.combat = .default)
    (near : scenario.targetDistanceSquared ≤ scenario.attack.range ^ 2) :
    ∃ calls first kill, scenario.Schedule attackers targetId calls ∧
      Legible (Call.log attackInPlace calls start) ∧
      (hits (Call.log attackInPlace calls start)).head? = some first ∧
      kill ∈ Call.log attackInPlace calls start ∧ Kills kill ∧
      kill.1.nowMs = first.1.nowMs + metrics.theoreticalTtkMs ∧
      (metrics.theoreticalTtkMs + scenario.attack.cooldownMs ≤ u64Max →
        ∀ call ∈ calls, call.Unsaturated) := by
  have some' : 0 < metrics.requiredHits := by
    by_contra none'
    have health := analyzed.health
    have hit := divCeil_spec scenario.targetHealth analyzed.damage 0
    rw [← analyzed.hits] at hit
    omega
  have schedule : scenario.Schedule attackers targetId
      (scenario.volleys attackers targetId metrics.requiredHits) :=
    volleys_schedule targetId analyzed engaged.crowd (le_refl _)
  obtain ⟨taken, -⟩ := volleys_accepted analyzed engaged fresh near (le_refl metrics.requiredHits)
  have struck := (progress_run analyzed.damage engaged schedule).struck
  have apart : (scenario.volleys attackers targetId metrics.requiredHits).Pairwise
      fun earlier later => earlier.attackerId = later.attackerId → earlier.Unsaturated := by
    refine List.pairwise_map.mpr (List.pairwise_lt_range.imp_of_mem ?_)
    intro first second _ inside later same
    have bounded := volley_bounded attackers targetId analyzed
      (List.mem_range.mp inside)
    have turns := volley_later attackers targetId later
      (volley_same analyzed.attackers engaged.distinct engaged.crowd same)
    exact turns.trans (bounded.trans analyzed.ttkFits)
  have legible : Legible (Call.log attackInPlace
      (scenario.volleys attackers targetId metrics.requiredHits) start) := by
    have listed : (Call.log attackInPlace (scenario.volleys attackers targetId
        metrics.requiredHits) start).map Prod.fst = _ := Call.log_operations _ _
    rw [← listed, List.pairwise_map] at apart
    exact apart.imp fun unsaturated _ _ => unsaturated
  have begins : ((Call.log attackInPlace (scenario.volleys attackers targetId metrics.requiredHits)
      start).map Prod.fst).head? = some (scenario.volley attackers targetId 0) := by
    rw [Call.log_operations, volleys, List.head?_map, List.head?_range, if_neg (by omega)]
    rfl
  rw [List.head?_map, Option.map_eq_some_iff] at begins
  obtain ⟨first, firstFound, firstCall⟩ := begins
  obtain ⟨last, same⟩ := Nat.exists_eq_succ_of_ne_zero (Nat.pos_iff_ne_zero.mp some')
  have ends : Call.log attackInPlace (scenario.volleys attackers targetId metrics.requiredHits) start =
      Call.log attackInPlace (scenario.volleys attackers targetId last) start ++
        [(scenario.volley attackers targetId last,
          (attackInPlace (scenario.volley attackers targetId last)
            (Call.final attackInPlace (scenario.volleys attackers targetId last) start)).1)] := by
    rw [same, volleys_succ, Call.log_append]
    rfl
  have lastMember := List.mem_append_right
    (Call.log attackInPlace (scenario.volleys attackers targetId last) start)
    (List.mem_singleton_self (scenario.volley attackers targetId last,
      (attackInPlace (scenario.volley attackers targetId last)
        (Call.final attackInPlace (scenario.volleys attackers targetId last) start)).1))
  rw [← ends] at lastMember
  refine ⟨_, first, _, schedule, legible, ?_, lastMember, ?_, ?_, ?_⟩
  · rw [hits, List.filter_eq_self.mpr taken]
    exact firstFound
  · have final := taken _ lastMember
    cases answered : (attackInPlace (scenario.volley attackers targetId last)
        (Call.final attackInPlace (scenario.volleys attackers targetId last) start)).1 with
    | error failure =>
        rw [answered] at final
        cases final
    | ok result =>
        rw [answered] at ends
        obtain ⟨-, fatal⟩ := struck _ _ [] ends result rfl
        have earlier : ∀ answer ∈ Call.log attackInPlace
            (scenario.volleys attackers targetId last) start, answer.2.isOk := by
          intro answer member
          apply taken
          rw [ends]
          exact List.mem_append_left _ member
        refine ⟨result, rfl, fatal.trans (decide_eq_true ?_)⟩
        rw [volleys_hits earlier, divCeil_spec _ analyzed.damage, ← analyzed.hits, same]
  · change (scenario.volley attackers targetId last).nowMs = _
    rw [firstCall, show last = metrics.requiredHits - 1 by omega, volley_last analyzed some']
    change _ = 0 / scenario.attackerCount * scenario.attack.cooldownMs + _
    rw [Nat.zero_div, Nat.zero_mul, Nat.zero_add]
  · intro fits call member
    obtain ⟨index, inside, rfl⟩ := List.mem_map.mp member
    have bounded := volley_bounded attackers targetId analyzed
      (List.mem_range.mp inside)
    exact (Nat.add_le_add_right bounded _).trans fits

end CombatScenario

end Revenant
