import Revenant.Agreement.GauntletSteps

namespace Revenant
namespace Agreement
namespace Gauntlet

open Library Challenges Challenges.Gauntlet Client.World Gateway.Gauntlet Protocol Replay
open Gateway (SupportEncounter EliteEncounter)

/-!
# The encounters of a gauntlet on both sides

Every tick and every attack of the retained encounters leaves a session `Live`.
What is told of an enemy concerns no player, a hit of the player reports the
health of its row, and a death or a defeat is followed by the state it leads to.
-/

section Shots

variable {runId player : Nat} {preset : Preset} {session stored : Session}
variable {shows : Showing}
variable {playerId targetId elapsedMs : Nat} {profile : AttackProfile} {result : DamageResult}
variable {actors : ActorRegistry} {combat : CombatRuntime}

/-- An accepted shot hurts its target alone. -/
theorem shoot_actors
    (shot : session.shoot playerId targetId elapsedMs profile = .ok (result, actors, combat)) :
    actors = session.actors.applyDamage targetId profile.damage := by
  unfold Session.shoot at shot
  split at shot
  · next outcome accepted =>
    cases shot
    obtain ⟨_, _, attack⟩ := CombatRuntime.attack_ok accepted
    exact attack.actors_eq
  · cases shot

/-- A shot at an enemy, kept once its row is stored. -/
theorem Standing.shot (standing : Standing runId player preset shows stored)
    (shot : session.shoot playerId targetId elapsedMs profile = .ok (result, actors, combat))
    (same : stored.actors = session.actors) (apart : targetId ≠ player) :
    Standing runId player preset shows { stored with actors, combat } := by
  have hurt := shoot_actors shot
  rw [← same] at hurt
  rw [hurt]
  refine standing.reframe rfl rfl rfl rfl ?_
    { standing.guarded with registry := standing.guarded.registry.applyDamage _ _ }
  change (stored.actors.applyDamage targetId profile.damage).get stored.player.actorId = _
  rw [ActorRegistry.get_applyDamage, if_neg (standing.identity ▸ apart.symm)]
  rfl

end Shots

/-! ## The support pair -/

section Support

variable {runId player : Nat} {preset : Preset} {session next : Session}
variable {encounter : SupportEncounter} {elapsedMs took : Nat}

theorem Standing.confirmCharge (live : Live runId player preset session)
    (proposed : Ai.Lancer.GlassLancer) (elapsedMs : Nat) :
    Live runId player preset (session.confirmCharge proposed elapsedMs) := by
  refine live.reframe rfl rfl rfl rfl rfl { live.guarded with support := ?_ }
  intro confirmed same
  obtain ⟨encounter, fought, rfl⟩ := Option.map_eq_some_iff.mp same
  exact live.guarded.support encounter fought

theorem Standing.confirmRepair (live : Live runId player preset session)
    (proposed : Ai.Support.RelayMender) (elapsedMs : Nat) :
    Live runId player preset (session.confirmRepair proposed elapsedMs) := by
  refine live.reframe rfl rfl rfl rfl rfl { live.guarded with support := ?_ }
  intro confirmed same
  obtain ⟨encounter, fought, rfl⟩ := Option.map_eq_some_iff.mp same
  exact live.guarded.support encounter fought

theorem Standing.actCharge (named : 0 < runId) (live : Live runId player preset session)
    {actor : Actor} {action : Ai.Lancer.ChargeAction} (self : encounter.playerId = player)
    (lancer : encounter.lancerId ≠ player) (found : session.actors.get player = some actor)
    (acted : session.actCharge encounter actor elapsedMs action took = .ok next) :
    Live runId player preset next := by
  cases action with
  | windup origin target =>
      have recorded : session.recordGauntletCombat .fieldActivity encounter.playerId
        (.support ⟨elapsedMs, .windup actor.position origin target⟩) took = .ok next := acted
      exact (live.record_quiet recorded (fun _ => rfl)).2 nofun
  | resolved origin target damage =>
      obtain ⟨stored, recorded, same⟩ := bind_eq_ok.mp acted
      cases same
      have row : session.recordGauntletCombat .fieldActivity encounter.playerId
        (.support ⟨elapsedMs, .charged actor.position origin target damage (actor.health - damage)⟩)
        took = .ok stored := recorded
      have hit : Struck runId player preset damage stored := by
        refine live.record row nofun ?_
        intro own present
        rw [Session.own, live.identity, found] at present
        cases present
        rfl
      rw [self]
      refine Struck.hurtPlayer named ?_ _ (fun _ due => due.closeSupport)
      refine hit.reframe rfl rfl rfl rfl ?_
        { hit.guarded with registry := hit.guarded.registry.updatePosition _ _ }
      change (stored.actors.updatePosition encounter.lancerId target).get stored.player.actorId = _
      rw [ActorRegistry.get_updatePosition, if_neg (hit.identity ▸ lancer.symm)]
      rfl

theorem Standing.tickSupportCharge (named : 0 < runId) (live : Live runId player preset session)
    (fought : session.support = some encounter)
    (ticked : session.tickSupportCharge encounter elapsedMs took = .ok next) :
    Live runId player preset next := by
  obtain ⟨self, lancer, -⟩ := live.guarded.support encounter fought
  unfold Session.tickSupportCharge at ticked
  split at ticked
  · next enemy actor standing found =>
    split at ticked
    · cases ticked
      exact live
    · split at ticked
      · cases ticked
        exact live
      · next action proposed charged =>
        obtain ⟨stored, acted, same⟩ := bind_eq_ok.mp ticked
        cases same
        rw [self] at found
        exact ((live.actCharge named self lancer found acted).confirmCharge _ _).tellCharge _ lancer
  · cases ticked
    exact live

theorem Standing.tickSupportRepair (live : Live runId player preset session)
    (fought : session.support = some encounter)
    (ticked : session.tickSupportRepair encounter elapsedMs took = .ok next) :
    Live runId player preset next := by
  obtain ⟨-, lancer, -⟩ := live.guarded.support encounter fought
  unfold Session.tickSupportRepair at ticked
  split at ticked
  · next source target standing found =>
    split at ticked
    · cases ticked
      exact live
    · next action proposed repaired =>
      obtain ⟨stored, recorded, same⟩ := bind_eq_ok.mp ticked
      cases same
      have row : session.recordGauntletCombat .fieldActivity encounter.playerId (.support ⟨elapsedMs,
        .repaired action.targetId action.amount action.healthBefore action.healthAfter⟩) took =
        .ok stored := recorded
      have quiet := (live.record_quiet row (fun _ => rfl)).2 nofun
      obtain ⟨aimed, -⟩ := Ai.Support.RelayMender.tick_single_some repaired
      have named := live.guarded.registry encounter.lancerId target found
      refine (quiet.confirmRepair _ _).tellRepair _ ?_ ?_
      · rw [aimed]
        rfl
      · rw [aimed]
        exact named.trans_ne lancer
  · cases ticked
    exact live

theorem Standing.tickSupport (named : 0 < runId) (live : Live runId player preset session)
    {pace : Pace} (ticked : session.tickSupport pace = .ok next) :
    Live runId player preset next := by
  unfold Session.tickSupport at ticked
  split at ticked
  · cases ticked
    exact live
  · next encounter fought =>
    split at ticked
    · cases ticked
      exact live
    · obtain ⟨charged, first, second⟩ := bind_eq_ok.mp ticked
      have lives := live.tickSupportCharge named fought first
      split at second
      · cases second
        exact lives
      · next encounter still =>
        split at second
        · cases second
          exact lives
        · exact lives.tickSupportRepair still second

theorem Standing.attackSupport (named : 0 < runId) (live : Live runId player preset session)
    {playerId targetId : Nat} {pace : Pace}
    (attacked : session.attackSupport playerId targetId elapsedMs pace = .ok next) :
    Live runId player preset next := by
  unfold Session.attackSupport at attacked
  simp only [bind_eq_ok, exists_unit, require_eq_ok, rejectIf_eq_ok, not_or, not_and, not_not]
    at attacked
  obtain ⟨encounter, fought, ⟨-, target⟩, profile, -, ⟨result, actors, combat⟩, shot, attacker, -,
    enemy, -, stored, recorded, attacked⟩ := attacked
  obtain ⟨self, lancer, mender⟩ := live.guarded.support encounter fought
  have apart : targetId ≠ player := by
    intro same
    subst same
    exact mender (target lancer)
  have row := recordGauntletCombat_frame recorded
  have same : stored.actors = session.actors := (congrArg Session.actors row).trans rfl
  cases killed : result.killed with
  | true =>
      rw [killed] at recorded attacked
      simp only [if_true, pure_eq_ok] at attacked
      have due : Due runId player preset _ :=
        ((((live.record_quiet recorded (fun _ => rfl)).1).shot shot same apart).tellHit playerId result
          apart).removeEnemy apart
      subst attacked
      refine Standing.project named ?_
      split
      · exact due.finishSupport lancer mender
      · exact due
  | false =>
      rw [killed] at recorded attacked
      simp only [Bool.false_eq_true, if_false, pure_eq_ok] at attacked
      subst attacked
      exact (((live.record_quiet recorded (fun _ => rfl)).2 (by rintro ⟨⟩)).shot shot same apart).tellHit _ _
        apart

end Support

/-! ## The elite pair -/

section Elite

variable {runId player : Nat} {preset : Preset} {session next : Session}
variable {shows : Showing}
variable {encounter after : EliteEncounter} {elapsedMs took : Nat} {pace : Pace}

/-- An encounter with the linked pair, fought by the player. -/
def Linked (player : Nat) (encounter : EliteEncounter) : Prop :=
  encounter.playerId = player ∧ encounter.bulwarkId ≠ player ∧ encounter.partnerId ≠ player ∧
    encounter.brain.composition = Ai.Elite.EliteComposition.bastionLink

theorem recordElite_ok {transition : EliteTransition} {death : Option Nat}
    (recorded : session.recordElite encounter elapsedMs transition death took = .ok (after, next)) :
    ∃ stored confirmedMs, session.recordGauntletCombat
        (if death.isSome then .enemyDied else .fieldActivity) (death.getD encounter.playerId)
        (.elite ⟨elapsedMs, encounter.confirmedMs, transition⟩) took = .ok stored ∧
      after = { encounter with confirmedMs } ∧ next = { stored with elite := some after } := by
  obtain ⟨stored, row, same⟩ := bind_eq_ok.mp recorded
  cases same
  exact ⟨stored, _, row, rfl, rfl⟩

theorem Standing.withElite (standing : Standing runId player preset shows session)
    (linked : Linked player after) :
    Standing runId player preset shows { session with elite := some after } := by
  refine standing.reframe rfl rfl rfl rfl rfl { standing.guarded with elite := ?_ }
  intro other same
  cases same
  exact linked

theorem Standing.broadcastEliteDefense (standing : Standing runId player preset shows session)
    (linked : Linked player encounter) :
    Standing runId player preset shows (session.broadcastEliteDefense encounter) :=
  standing.tell (.update _) linked.2.1

theorem Struck.withElite {damage : Nat} (hit : Struck runId player preset damage session)
    (linked : Linked player after) :
    Struck runId player preset damage { session with elite := some after } := by
  refine hit.reframe rfl rfl rfl rfl rfl { hit.guarded with elite := ?_ }
  intro other same
  cases same
  exact linked

theorem Struck.slammed {facing : Ai.Facing} {damage : Nat} (named : 0 < runId)
    (hit : Struck runId player preset damage session) (linked : Linked player encounter)
    (acted : session.actElite encounter (.defense (.slam facing damage)) = .ok next) :
    Live runId player preset next := by
  cases acted
  rw [linked.1]
  exact (hit.hurtPlayer named _ (fun _ due => due.closeElite)).broadcastEliteDefense linked

/-- The mender repairs an enemy that is there. -/
theorem Standing.repaired {ally : Actor} (live : Live runId player preset session)
    (found : session.actors.get ally.id = some ally) (apart : ally.id ≠ player)
    (acted : session.actElite encounter (.repair (Ai.Support.RelayMender.repair ally)) = .ok next) :
    Live runId player preset next := by
  change (require (session.actors.get ally.id) _ >>= fun healed => _) = _ at acted
  rw [found] at acted
  cases acted
  exact live.tellRepair _ rfl apart

theorem Standing.tickElite (named : 0 < runId) (live : Live runId player preset session)
    (ticked : session.tickElite pace = .ok next) : Live runId player preset next := by
  unfold Session.tickElite at ticked
  split at ticked
  · cases ticked
    exact live
  · next encounter fought =>
    split at ticked
    · cases ticked
      exact live
    · split at ticked
      · cases ticked
        exact live
      · next actor found =>
        dsimp only at ticked
        split at ticked
        · cases ticked
          exact live
        · next action proposed acted =>
          have linked : Linked player encounter := live.guarded.elite encounter fought
          obtain ⟨self, guard, partner, composition⟩ := linked
          obtain ⟨⟨recordedEncounter, recordedSession⟩, recorded, done⟩ := bind_eq_ok.mp ticked
          obtain ⟨stored, confirmedMs, row, rfl, rfl⟩ := recordElite_ok recorded
          obtain ⟨still, chosen⟩ := Ai.Elite.EliteBrain.tick_bastionLink composition acted
          have after : Linked player { encounter with
              confirmedMs, brain := proposed.confirmAt action confirmedMs } :=
            ⟨self, guard, partner, (Ai.Elite.EliteBrain.confirmAt_composition _ _ _).trans still⟩
          rw [self] at found
          rcases chosen with ⟨move, rfl⟩ | ⟨ally, present, rfl⟩
          · cases move with
            | brace facing =>
                have quiet := (live.record_quiet row (fun _ => rfl)).2 nofun
                cases done
                exact (quiet.withElite after).broadcastEliteDefense after
            | slam facing damage =>
                have hit : Struck runId player preset damage stored := by
                  refine live.record row nofun ?_
                  intro own present
                  rw [Session.own, live.identity, found] at present
                  cases present
                  rfl
                exact Struck.slammed named (hit.withElite after) after done
          · have quiet := (live.record_quiet row (fun _ => rfl)).2 nofun
            have name := live.guarded.registry encounter.bulwarkId ally present
            have same : stored.actors = session.actors :=
              (congrArg Session.actors (recordGauntletCombat_frame row)).trans rfl
            have standing : stored.actors.get ally.id = some ally := by
              rw [same, name]
              exact present
            exact Standing.repaired (quiet.withElite after) standing (name.trans_ne guard) done

theorem Standing.attackElite (named : 0 < runId) (live : Live runId player preset session)
    {playerId targetId : Nat}
    (attacked : session.attackElite playerId targetId elapsedMs pace = .ok next) :
    Live runId player preset next := by
  unfold Session.attackElite at attacked
  simp only [bind_eq_ok, exists_unit, require_eq_ok, rejectIf_eq_ok, not_or, not_and, not_not]
    at attacked
  obtain ⟨encounter, fought, ⟨-, target⟩, attacker, -, profile, -, ⟨result, actors, combat⟩, shot,
    enemy, -, ⟨recordedEncounter, recordedSession⟩, recorded, attacked⟩ := attacked
  have linked : Linked player encounter := live.guarded.elite encounter fought
  obtain ⟨self, guard, partner, composition⟩ := linked
  obtain ⟨stored, confirmedMs, row, rfl, rfl⟩ := recordElite_ok recorded
  have apart : targetId ≠ player := by
    intro same
    subst same
    exact partner (target guard)
  have same : stored.actors = session.actors :=
    (congrArg Session.actors (recordGauntletCombat_frame row)).trans rfl
  have kept : Linked player { encounter with confirmedMs } := ⟨self, guard, partner, composition⟩
  have retired : Linked player { encounter with
      confirmedMs, brain := encounter.brain.retire targetId confirmedMs } :=
    ⟨self, guard, partner, composition⟩
  have due : Due runId player preset stored :=
    (live.record_quiet row (fun _ => rfl)).1
  have told : Due runId player preset _ :=
    (((due.withElite kept).shot shot same apart).tellHit playerId result apart)
  cases killed : result.killed with
  | true =>
      rw [killed] at attacked
      simp only [if_true, pure_eq_ok] at attacked
      have removed : Due runId player preset _ := (told.withElite retired).removeEnemy apart
      subst attacked
      refine Standing.project named ?_
      split
      · exact removed.finishElite guard partner
      · exact removed
  | false =>
      rw [killed] at attacked
      simp only [Bool.false_eq_true, if_false, pure_eq_ok] at attacked
      subst attacked
      exact told.project named

end Elite

/-! ## The Prism Warden -/

section Prism

variable {runId player : Nat} {preset : Preset} {session next : Session}
variable {shows : Showing}
variable {encounter after : StagePrism} {elapsedMs took : Nat} {pace : Pace}

/-- An encounter with the Warden, fought by the player and not yet over. -/
def Faced (player : Nat) (encounter : StagePrism) : Prop :=
  encounter.playerId = player ∧ encounter.bossId ≠ player ∧ encounter.pendingFatal = none

theorem recordPrism_ok {transition : PrismTransition} {death : Bool}
    (recorded : session.recordPrism encounter elapsedMs transition death took = .ok (after, next)) :
    ∃ stored confirmedMs, session.recordGauntletCombat
        (if death then .enemyDied else .fieldActivity)
        (if death then encounter.bossId else encounter.playerId)
        (.prism ⟨elapsedMs, encounter.confirmedMs, transition⟩) took = .ok stored ∧
      after = { encounter with confirmedMs } ∧ next = { stored with prism := some after } := by
  obtain ⟨stored, row, same⟩ := bind_eq_ok.mp recorded
  cases same
  exact ⟨stored, _, row, rfl, rfl⟩

theorem Standing.withPrism (standing : Standing runId player preset shows session)
    (faced : Faced player after) :
    Standing runId player preset shows { session with prism := some after } := by
  refine standing.reframe rfl rfl rfl rfl rfl { standing.guarded with prism := ?_ }
  intro other same
  cases same
  exact faced

theorem Struck.withPrism {damage : Nat} (hit : Struck runId player preset damage session)
    (faced : Faced player after) :
    Struck runId player preset damage { session with prism := some after } := by
  refine hit.reframe rfl rfl rfl rfl rfl { hit.guarded with prism := ?_ }
  intro other same
  cases same
  exact faced

/-- The Warden's death is told with its fatal hit, and the completion shown. -/
theorem Standing.finishChallengePrism (named : 0 < runId) (due : Due runId player preset session)
    (faced : Faced player encounter) {message : DamageApplied}
    (target : message.targetActorId = encounter.bossId) :
    Live runId player preset
      (session.finishChallengePrism encounter (.damageApplied message)) := by
  obtain ⟨self, apart, -⟩ := faced
  refine Standing.project named ?_
  refine Standing.tell (Standing.tell ?_ (.damage message) (target.trans_ne apart))
    (.destroy { actorId := encounter.bossId }) apart
  refine due.reframe rfl rfl rfl rfl ?_
    { due.guarded with registry := due.guarded.registry.destroy _, prism := ?_ }
  · change (session.actors.destroy encounter.bossId).get session.player.actorId = _
    rw [ActorRegistry.get_destroy, if_neg (due.identity ▸ apart.symm)]
    rfl
  · intro other same
    cases same
    exact ⟨self, apart, rfl⟩

theorem Standing.tickPrism (named : 0 < runId) (live : Live runId player preset session)
    (ticked : session.tickPrism pace = .ok next) : Live runId player preset next := by
  unfold Session.tickPrism at ticked
  split at ticked
  · cases ticked
    exact live
  · next encounter fought =>
    obtain ⟨self, apart, unfinished⟩ := live.guarded.prism encounter fought
    split at ticked
    · cases ticked
      exact live
    · rw [unfinished] at ticked
      simp only [bind_eq_ok, require_eq_ok] at ticked
      obtain ⟨actor, found, ticked⟩ := ticked
      split at ticked
      · cases ticked
        exact live
      · obtain ⟨boss, -, ticked⟩ := bind_eq_ok.mp ticked
        split at ticked
        · cases ticked
          exact live
        · next action proposed acted =>
          obtain ⟨⟨recordedEncounter, recordedSession⟩, recorded, done⟩ := bind_eq_ok.mp ticked
          obtain ⟨stored, confirmedMs, row, rfl, rfl⟩ := recordPrism_ok recorded
          have after : Faced player { encounter with
              confirmedMs, brain := proposed.confirmAt confirmedMs } := ⟨self, apart, unfinished⟩
          rw [self] at found
          cases action with
          | warning pattern =>
              cases done
              exact ((live.record_quiet row (fun _ => rfl)).2 (by rintro ⟨⟩)).withPrism after
          | resolved pattern damage =>
              have hit : Struck runId player preset damage stored := by
                refine live.record row (by rintro ⟨⟩) ?_
                intro own present
                rw [Session.own, live.identity, found] at present
                cases present
                rfl
              cases done
              subst self
              exact (hit.withPrism after).hurtPlayer named _ (fun _ due => due.closePrism)

theorem Standing.attackPrism (named : 0 < runId) (live : Live runId player preset session)
    {playerId targetId : Nat}
    (attacked : session.attackPrism playerId targetId elapsedMs pace = .ok next) :
    Live runId player preset next := by
  obtain ⟨encounter, fought, attacked⟩ := bind_eq_ok.mp attacked
  obtain ⟨self, apart, unfinished⟩ := live.guarded.prism encounter (require_eq_ok.mp fought)
  rw [unfinished] at attacked
  simp only [bind_eq_ok, exists_unit, require_eq_ok, rejectIf_eq_ok, not_or, not_not] at attacked
  obtain ⟨⟨-, target⟩, attacker, -, -, enemy, -, profile, -, ⟨hit, brain⟩, -,
    ⟨result, actors, combat⟩, shot, ⟨recordedEncounter, recordedSession⟩, recorded, attacked⟩ :=
    attacked
  obtain ⟨stored, confirmedMs, row, rfl, rfl⟩ := recordPrism_ok recorded
  have same : stored.actors = session.actors :=
    (congrArg Session.actors (recordGauntletCombat_frame row)).trans rfl
  rw [target] at apart
  have after : ∀ brain, Faced player { encounter with confirmedMs, brain } :=
    fun brain => ⟨self, target ▸ apart, unfinished⟩
  cases killed : result.killed with
  | true =>
      rw [killed] at recorded row attacked
      simp only [if_true, pure_eq_ok] at attacked
      subst attacked
      have due := (live.record_quiet row (fun _ => rfl)).1
      exact ((due.shot shot same apart).withPrism (after _)).finishChallengePrism named (after _)
        target.symm
  | false =>
      rw [killed] at recorded row attacked
      simp only [Bool.false_eq_true, if_false, pure_eq_ok] at attacked
      subst attacked
      have quiet := (live.record_quiet row (fun _ => rfl)).2 (by rintro ⟨⟩)
      exact ((quiet.shot shot same apart).withPrism (after _)).tellHit _ _ apart

end Prism

/-! ## The player's shots -/

/-- A shot reaches the encounter that is fought, or nothing. -/
theorem Standing.attack {runId player : Nat} {preset : Preset} {session next : Session}
    (named : 0 < runId) (live : Live runId player preset session) {playerId targetId : Nat}
    {pace : Pace} (attacked : session.attack playerId targetId pace = .ok next) :
    Live runId player preset next := by
  unfold Session.attack at attacked
  dsimp only at attacked
  split at attacked
  · cases attacked
    exact live
  · split at attacked
    · split at attacked
      · exact live.attackPrism named attacked
      · split at attacked
        · exact live.attackElite named attacked
        · split at attacked
          · exact live.attackSupport named attacked
          · cases attacked
    · cases attacked
      exact live

end Gauntlet
end Agreement
end Revenant
