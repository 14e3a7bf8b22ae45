import Mathlib.Algebra.Order.Ring.Abs
import Revenant.Combat
import Revenant.Library.Call

namespace Revenant

open Library

/-!
# Cooldowns along a run of attacks

`CombatRuntime.attack` of the source writes the cooldown before it asks for the
damaged target again, so a failure there would leave half of an attack behind.
`attackInPlace` keeps that order of reads and writes.  It never fails after its
first write, and so it does what `attack` does as one step.
-/

/-- What an attack works on: the actors and the cooldowns. -/
structure Battle where
  actors : ActorRegistry
  combat : CombatRuntime

structure AttackCall where
  attackerId : Nat
  targetId : Nat
  nowMs : Nat
  profile : AttackProfile
  deriving DecidableEq, Repr

/-- The sum of a time and a cooldown is below the largest word. -/
def AttackCall.Unsaturated (call : AttackCall) : Prop :=
  call.nowMs + call.profile.cooldownMs ≤ u64Max

instance (call : AttackCall) : Decidable call.Unsaturated := inferInstanceAs (Decidable (_ ≤ _))

namespace CombatRuntime

/-- The attack with its reads and writes in the order of the source. -/
def attackInPlace (call : AttackCall) : Call Battle CombatError DamageResult := do
  let attacker ← Call.check (fun battle =>
    require (battle.actors.get call.attackerId) .actorNotFound)
  let target ← Call.check (fun battle =>
    require (battle.actors.get call.targetId) .actorNotFound)
  Call.check (fun _ => rejectIf (attacker.kind ≠ .player ∨ attacker.health = 0 ∨
    target.kind ≠ .enemy ∨ target.health = 0) .invalidTarget)
  Call.check (fun _ => rejectIf
    (attacker.position.squaredDistance target.position > call.profile.range ^ 2) .outOfRange)
  Call.check (fun battle => rejectIf
    (battle.combat.coolingDown call.attackerId call.nowMs = true) .cooldownActive)
  Call.update (fun battle => { battle with
    combat := ⟨Function.update battle.combat.readyAt call.attackerId
      (some (saturatingAdd call.nowMs call.profile.cooldownMs))⟩ })
  Call.update (fun battle => { battle with
    actors := battle.actors.applyDamage call.targetId call.profile.damage })
  let damaged ← Call.check (fun battle =>
    require (battle.actors.get call.targetId) .actorNotFound)
  return { damage := call.profile.damage, remainingHealth := damaged.health
           killed := decide (damaged.health = 0) }

variable {call : AttackCall} {battle : Battle}

/-- In one step it is the attack of the session model; a refused attack has
written nothing. -/
theorem attackInPlace_eq (call : AttackCall) (battle : Battle) :
    attackInPlace call battle =
      match battle.combat.attack battle.actors call.attackerId call.targetId call.nowMs
        call.profile with
      | .ok (result, actors, combat) => (.ok result, ⟨actors, combat⟩)
      | .error failure => (.error failure, battle) := by
  unfold attackInPlace attack
  cases attackerFound : battle.actors.get call.attackerId with
  | none => exact Call.check_bind_of_error (by rw [attackerFound, require])
  | some attacker =>
      refine Eq.trans (Call.check_bind_of_ok (require_eq_ok.mpr attackerFound)) ?_
      cases targetFound : battle.actors.get call.targetId with
      | none => exact Call.check_bind_of_error (by rw [targetFound, require])
      | some target =>
          refine Eq.trans (Call.check_bind_of_ok (require_eq_ok.mpr targetFound)) ?_
          dsimp only
          by_cases invalid : attacker.kind ≠ .player ∨ attacker.health = 0 ∨
              target.kind ≠ .enemy ∨ target.health = 0
          · rw [if_pos invalid]
            exact Call.check_bind_of_error (rejectIf_eq_error.mpr ⟨invalid, rfl⟩)
          refine Eq.trans (Call.check_bind_of_passed (rejectIf_eq_ok.mpr invalid)) ?_
          rw [if_neg invalid]
          by_cases far : attacker.position.squaredDistance target.position > call.profile.range ^ 2
          · rw [if_pos far]
            exact Call.check_bind_of_error (rejectIf_eq_error.mpr ⟨far, rfl⟩)
          refine Eq.trans (Call.check_bind_of_passed (rejectIf_eq_ok.mpr far)) ?_
          rw [if_neg far]
          by_cases cooling : battle.combat.coolingDown call.attackerId call.nowMs = true
          · rw [if_pos cooling]
            exact Call.check_bind_of_error (rejectIf_eq_error.mpr ⟨cooling, rfl⟩)
          refine Eq.trans (Call.check_bind_of_passed (rejectIf_eq_ok.mpr cooling)) ?_
          rw [if_neg cooling, Call.update_bind, Call.update_bind]
          -- the target was found above, so it is found again
          have again : (battle.actors.applyDamage call.targetId call.profile.damage).get
              call.targetId = some { target with health := target.health - call.profile.damage } := by
            rw [ActorRegistry.get_applyDamage, if_pos rfl, targetFound]
            rfl
          refine Eq.trans (Call.check_bind_of_ok (require_eq_ok.mpr again)) ?_
          rfl

/-- What an attack does: nothing, or everything an accepted one implies. -/
theorem attackInPlace_cases (call : AttackCall) (battle : Battle) :
    (∃ failure, attackInPlace call battle = (.error failure, battle)) ∨
      ∃ result after attacker target, attackInPlace call battle = (.ok result, after) ∧
        Accepted battle.combat battle.actors call.attackerId call.targetId call.nowMs call.profile
          result after.actors after.combat attacker target := by
  rw [attackInPlace_eq]
  cases attacked : battle.combat.attack battle.actors call.attackerId call.targetId call.nowMs
      call.profile with
  | error failure => exact Or.inl ⟨failure, rfl⟩
  | ok answer =>
      obtain ⟨result, actors, combat⟩ := answer
      obtain ⟨attacker, target, accepted⟩ := attack_ok attacked
      exact Or.inr ⟨result, ⟨actors, combat⟩, attacker, target, rfl, accepted⟩

/-- What is enough for an attack to be accepted. -/
theorem attackInPlace_accepts {attacker target : Actor}
    (attackerFound : battle.actors.get call.attackerId = some attacker)
    (targetFound : battle.actors.get call.targetId = some target)
    (player : attacker.kind = .player) (alive : 0 < attacker.health)
    (enemy : target.kind = .enemy) (targetAlive : 0 < target.health)
    (near : attacker.position.squaredDistance target.position ≤ call.profile.range ^ 2)
    (cooled : battle.combat.coolingDown call.attackerId call.nowMs = false) :
    ∃ result after, attackInPlace call battle = (.ok result, after) := by
  have valid : ¬ (attacker.kind ≠ .player ∨ attacker.health = 0 ∨ target.kind ≠ .enemy ∨
      target.health = 0) := by
    rintro (other | dead | other | dead)
    · exact other player
    · omega
    · exact other enemy
    · omega
  rw [attackInPlace_eq, attack, attackerFound, targetFound]
  dsimp only
  rw [if_neg valid, if_neg (not_lt.mpr near), if_neg (by rw [cooled]; exact Bool.false_ne_true)]
  exact ⟨_, _, rfl⟩

/-! ## Healths -/

/-- What attacks may do to an actor: it loses health, and nothing else changes. -/
def Worn (before after : Option Actor) : Prop :=
  ∃ lost, after = before.map (fun actor => { actor with health := actor.health - lost })

theorem Worn.refl (found : Option Actor) : Worn found found := by
  refine ⟨0, ?_⟩
  cases found <;> rfl

theorem Worn.trans {first second third : Option Actor} (earlier : Worn first second)
    (later : Worn second third) : Worn first third := by
  obtain ⟨lost, rfl⟩ := earlier
  obtain ⟨more, rfl⟩ := later
  refine ⟨lost + more, ?_⟩
  cases first with
  | none => rfl
  | some actor => simp only [Option.map_some, Nat.sub_sub]

theorem Worn.of_attack (call : AttackCall) (battle : Battle) (actorId : Nat) :
    Worn (battle.actors.get actorId) ((attackInPlace call battle).2.actors.get actorId) := by
  rcases attackInPlace_cases call battle with
    ⟨failure, refused⟩ | ⟨result, after, attacker, target, attacked, accepted⟩
  · rw [refused]
    exact Worn.refl _
  · rw [attacked, accepted.actors_eq, ActorRegistry.get_applyDamage]
    split
    · next struck =>
      rw [struck]
      exact ⟨call.profile.damage, rfl⟩
    · exact Worn.refl _

theorem Worn.of_run (calls : List AttackCall) (battle : Battle) (actorId : Nat) :
    Worn (battle.actors.get actorId) ((Call.final attackInPlace calls battle).actors.get actorId) :=
  Call.final_keeps (fun after : Battle => Worn (battle.actors.get actorId) (after.actors.get actorId))
    (fun call _ worn => worn.trans (Worn.of_attack call _ actorId)) calls (Worn.refl _)

/-! ## Cooldowns -/

/-- An attack with its answer. -/
abbrev Answered : Type := AttackCall × Except CombatError DamageResult

/-- An accepted attack waits for what an earlier one of its attacker left. -/
def Spaced (first second : Answered) : Prop :=
  first.2.isOk → second.2.isOk → first.1.attackerId = second.1.attackerId →
    saturatingAdd first.1.nowMs first.1.profile.cooldownMs ≤ second.1.nowMs

/-- Every accepted attack is over before its attacker may fire again. -/
def Waits (answers : List Answered) (combat : CombatRuntime) : Prop :=
  ∀ answer ∈ answers, answer.2.isOk → ∃ readyAt,
    combat.readyAt answer.1.attackerId = some readyAt ∧
      saturatingAdd answer.1.nowMs answer.1.profile.cooldownMs ≤ readyAt

/-- The step lemma of the cooldowns: an accepted attack comes after what its
attacker waits for, and makes it wait for longer. -/
theorem spaced_attack {answers : List Answered} {call : AttackCall} {battle : Battle}
    (apart : answers.Pairwise Spaced) (waits : Waits answers battle.combat)
    (word : call.nowMs ≤ u64Max) :
    (answers ++ [(call, (attackInPlace call battle).1)]).Pairwise Spaced ∧
      Waits (answers ++ [(call, (attackInPlace call battle).1)])
        (attackInPlace call battle).2.combat := by
  rcases attackInPlace_cases call battle with
    ⟨failure, refused⟩ | ⟨result, after, attacker, target, attacked, accepted⟩
  · rw [refused]
    constructor
    · refine List.pairwise_append.mpr ⟨apart, List.pairwise_singleton _ _, ?_⟩
      intro old member new same
      rw [List.mem_singleton.mp same]
      intro _ impossible
      cases impossible
    · intro answer member taken
      rcases List.mem_append.mp member with old | new
      · exact waits answer old taken
      · rw [List.mem_singleton.mp new] at taken
        cases taken
  · rw [attacked]
    have waited : ∀ answer ∈ answers, answer.2.isOk → answer.1.attackerId = call.attackerId →
        saturatingAdd answer.1.nowMs answer.1.profile.cooldownMs ≤ call.nowMs := by
      intro answer member taken same
      obtain ⟨readyAt, known, bound⟩ := waits answer member taken
      have cooled := accepted.cooled
      rw [coolingDown, ← same, known] at cooled
      simp only [Option.any_some, decide_eq_false_iff_not, not_lt] at cooled
      exact bound.trans cooled
    constructor
    · refine List.pairwise_append.mpr ⟨apart, List.pairwise_singleton _ _, ?_⟩
      intro old member new same
      rw [List.mem_singleton.mp same]
      intro taken _ attackers
      exact waited old member taken attackers
    · intro answer member taken
      rw [accepted.ready_eq]
      rcases List.mem_append.mp member with old | new
      · by_cases same : answer.1.attackerId = call.attackerId
        · refine ⟨_, by rw [same, Function.update_self], ?_⟩
          exact (waited answer old taken same).trans (le_saturatingAdd word _)
        · obtain ⟨readyAt, known, bound⟩ := waits answer old taken
          exact ⟨readyAt, by rw [Function.update_of_ne same, known], bound⟩
      · rw [List.mem_singleton.mp new]
        exact ⟨_, Function.update_self _ _ _, le_refl _⟩

/-- The run lemma of the cooldowns. -/
theorem spaced_run (calls : List AttackCall) (start : Battle)
    (words : ∀ call ∈ calls, call.nowMs ≤ u64Max) :
    (Call.log attackInPlace calls start).Pairwise Spaced := by
  have kept : (Call.log attackInPlace calls start).Pairwise Spaced ∧
      Waits (Call.log attackInPlace calls start) (Call.final attackInPlace calls start).combat := by
    induction calls using List.reverseRecOn with
    | nil => exact ⟨List.Pairwise.nil, nofun⟩
    | append_singleton earlier call inductionHypothesis =>
        obtain ⟨apart, waits⟩ := inductionHypothesis
          (fun old member => words old (List.mem_append_left _ member))
        rw [Call.log_append, Call.final_append]
        exact spaced_attack apart waits (words call (by simp))
  exact kept.1

/-- Two accepted attacks of one attacker lie a cooldown of the first apart. -/
def Separated (first second : Answered) : Prop :=
  first.2.isOk → second.2.isOk → first.1.attackerId = second.1.attackerId →
    first.1.nowMs + first.1.profile.cooldownMs ≤ second.1.nowMs

theorem separated_run (calls : List AttackCall) (start : Battle)
    (unsaturated : ∀ call ∈ calls, call.Unsaturated) :
    (Call.log attackInPlace calls start).Pairwise Separated := by
  have words : ∀ call ∈ calls, call.nowMs ≤ u64Max := by
    intro call member
    exact (Nat.le_add_right _ _).trans (unsaturated call member)
  refine (spaced_run calls start words).imp_of_mem ?_
  intro first second member _ spaced taken later same
  have listed : first.1 ∈ calls := by
    rw [← Call.log_operations calls start]
    exact List.mem_map_of_mem member
  have apart := spaced taken later same
  rwa [saturatingAdd, Nat.min_eq_left (unsaturated first.1 listed)] at apart

/-! ## The law -/

/-- Whatever is attacked, in any order and with any profiles: accepted attacks of
one attacker keep its cooldowns, healths only fall, only the living attack and
are attacked, and a refused attack changes nothing. -/
theorem combat_law (start : Battle) (calls : List AttackCall)
    (unsaturated : ∀ call ∈ calls, call.Unsaturated) :
    (Call.log attackInPlace calls start).Pairwise Separated ∧
      (∀ earlier later, calls = earlier ++ later → ∀ actorId,
        Worn ((Call.final attackInPlace earlier start).actors.get actorId)
          ((Call.final attackInPlace calls start).actors.get actorId)) ∧
      (∀ earlier call later, calls = earlier ++ call :: later →
        ∀ battle, battle = Call.final attackInPlace earlier start →
          (∀ result, (attackInPlace call battle).1 = .ok result → ∃ attacker target,
            battle.actors.get call.attackerId = some attacker ∧ 0 < attacker.health ∧
              battle.actors.get call.targetId = some target ∧ 0 < target.health ∧
              result.remainingHealth = target.health - call.profile.damage ∧
              (attackInPlace call battle).2.actors.get call.targetId =
                some { target with health := target.health - call.profile.damage }) ∧
          ∀ failure, (attackInPlace call battle).1 = .error failure →
            (attackInPlace call battle).2 = battle) := by
  refine ⟨separated_run calls start unsaturated, ?_, ?_⟩
  · rintro earlier later rfl actorId
    rw [Call.final_append]
    exact Worn.of_run later _ actorId
  · rintro earlier call later - battle -
    rcases attackInPlace_cases call battle with
      ⟨failure, refused⟩ | ⟨result, after, attacker, target, attacked, accepted⟩
    · rw [refused]
      exact ⟨nofun, fun _ _ => rfl⟩
    · rw [attacked]
      refine ⟨?_, nofun⟩
      intro other same
      cases same
      refine ⟨attacker, target, accepted.attacker_found, accepted.attacker_alive,
        accepted.target_found, accepted.target_alive, accepted.remaining_eq, ?_⟩
      rw [accepted.actors_eq, ActorRegistry.get_applyDamage, if_pos rfl, accepted.target_found]
      rfl

/-- A player beside an enemy. -/
def skirmish : Battle where
  actors := (ActorRegistry.empty.insert ⟨1, .player, "player", ⟨0, 0, 0⟩, 100, 100⟩).insert
    ⟨2, .enemy, "relay-drone", ⟨2, 0, 0⟩, 50, 50⟩
  combat := .default

/-- The second attack comes too early, and the third one kills. -/
def skirmishCalls : List AttackCall :=
  [⟨1, 2, 0, ⟨30, 5, 400⟩⟩, ⟨1, 2, 300, ⟨20, 5, 300⟩⟩, ⟨1, 2, 400, ⟨20, 5, 300⟩⟩]

theorem combat_law_skirmish :
    (Call.log attackInPlace skirmishCalls skirmish).Pairwise Separated ∧
      (Call.final attackInPlace skirmishCalls skirmish).actors.get 2 =
        some ⟨2, .enemy, "relay-drone", ⟨2, 0, 0⟩, 0, 50⟩ :=
  ⟨(combat_law skirmish skirmishCalls (by decide)).1, by decide +kernel⟩

end CombatRuntime
end Revenant
