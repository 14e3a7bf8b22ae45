import Revenant.Ai.CrossedGuard

namespace Revenant
namespace Ai

open Library

/-!
# One timer for the crossed guard

`Paired` ties the cadence and both attackers to the watch: the open warning is on
its attacker's own timer and on the shared one with the same due time.  Ticks,
confirmations and deaths keep it, so every run is admitted by the watch, and
neither timer refuses what the other grants.
-/

namespace Elite

/-- The open warning of an attacker, or the quiet of both, on every timer. -/
inductive Matches (watch : Watch) (brain : EliteBrain) : Danger → Prop
  | bulwark {sinceMs : Nat}
      (warning : brain.cadence.warning = some
        { actorId := watch.bulwarkId, durationMs := Bulwark.windupMs
          resolvesAtMs := sinceMs + Bulwark.windupMs })
      (alive : watch.bulwarkAlive = true) (braced : brain.defense.braced = true)
      (due : brain.defense.readyAtMs = sinceMs + Bulwark.windupMs) (last : watch.last = .bulwark)
      (free : watch.lancerAlive = true → brain.charge.locked = none) :
      Matches watch brain (.warned .bulwark sinceMs)
  | lancer {sinceMs : Nat}
      (warning : brain.cadence.warning = some
        { actorId := watch.lancerId, durationMs := Lancer.windupMs
          resolvesAtMs := sinceMs + Lancer.windupMs })
      (alive : watch.lancerAlive = true) (locked : brain.charge.locked.isSome = true)
      (due : brain.charge.readyAtMs = sinceMs + Lancer.windupMs) (last : watch.last = .lancer)
      (lowered : watch.bulwarkAlive = true → brain.defense.braced = false) :
      Matches watch brain (.warned .lancer sinceMs)
  | quiet {sinceMs : Nat} (closed : brain.cadence.warning = none)
      (available : brain.cadence.availableAtMs = sinceMs + breatherMs)
      (lowered : watch.bulwarkAlive = true → brain.defense.braced = false)
      (free : watch.lancerAlive = true → brain.charge.locked = none)
      (turn : watch.bulwarkAlive = true → watch.lancerAlive = true →
        brain.cadence.lancerNext = decide (watch.last = .bulwark)) :
      Matches watch brain (.quiet sinceMs)

structure Paired (watch : Watch) (brain : EliteBrain) : Prop where
  composition : brain.composition = .crossedGuard
  apart : watch.bulwarkId ≠ watch.lancerId
  bulwarkId : brain.bulwarkId = watch.bulwarkId
  partnerId : brain.partnerId = watch.lancerId
  sharedBulwarkId : brain.cadence.bulwarkId = watch.bulwarkId
  sharedLancerId : brain.cadence.lancerId = watch.lancerId
  bulwarkAlive : brain.cadence.bulwarkAlive = watch.bulwarkAlive
  lancerAlive : brain.cadence.lancerAlive = watch.lancerAlive
  danger : Matches watch brain watch.danger

/-- A proposal that waits for its confirmation belongs to the open warning. -/
def Waits : Option EliteAction → Danger → Prop
  | none, _ => True
  | some (.defense _), danger => ∀ sinceMs, danger ≠ .warned .lancer sinceMs
  | some (.charge _), danger => ∀ sinceMs, danger ≠ .warned .bulwark sinceMs
  | some (.repair _), _ => False

theorem saturatingAdd_eq {nowMs interval : Nat} (unsaturated : nowMs + interval ≤ u64Max) :
    saturatingAdd nowMs interval = nowMs + interval :=
  Nat.min_eq_left unsaturated

namespace Paired

variable {watch : Watch} {brain next : EliteBrain} {nowMs : Nat} {action : EliteAction}

theorem of_new {bulwarkId lancerId : Nat}
    (created : EliteBrain.new .crossedGuard bulwarkId lancerId = some brain) :
    Paired (.spawned bulwarkId lancerId) brain := by
  unfold EliteBrain.new EliteCadence.new at created
  split at created
  · cases created
  · next cadence made =>
    split at made
    · cases made
    · next valid =>
      cases made
      cases created
      have began : (EliteCadence.mk bulwarkId lancerId true true false 0 none).beginWarning
          bulwarkId 0 = some { bulwarkId, lancerId, bulwarkAlive := true, lancerAlive := true
                               lancerNext := false, availableAtMs := 0
                               warning := some
                                 { actorId := bulwarkId, durationMs := Bulwark.windupMs
                                   resolvesAtMs := Bulwark.windupMs } } := by
        refine EliteCadence.beginWarning_eq_some.mpr ⟨rfl, ?_⟩
        simp only [EliteCadence.warningDuration, if_true]
        rfl
      constructor
      case composition => rfl
      case apart => exact fun same => valid (Or.inr (Or.inr same))
      case bulwarkId => rfl
      case partnerId => rfl
      case danger =>
        rw [began]
        exact Matches.bulwark (congrArg some (by rw [Nat.zero_add]; rfl)) rfl rfl rfl rfl
          (fun _ => rfl)
      all_goals rw [began]; rfl

/-- The attacker that may open a warning. -/
theorem ready (paired : Paired watch brain) {actorId : Nat}
    (ready : brain.cadence.readyActor nowMs = some actorId) : ∃ sinceMs,
      watch.danger = .quiet sinceMs ∧ sinceMs + breatherMs ≤ nowMs ∧
        (watch.bulwarkAlive = true → brain.defense.braced = false) ∧
        (watch.lancerAlive = true → brain.charge.locked = none) ∧
        ((actorId = watch.bulwarkId ∧ watch.bulwarkAlive = true ∧
            (watch.lancerAlive = true → watch.last ≠ .bulwark)) ∨
          (actorId = watch.lancerId ∧ watch.lancerAlive = true ∧
            (watch.bulwarkAlive = true → watch.last ≠ .lancer))) := by
  obtain ⟨closed, available, who⟩ := EliteCadence.readyActor_cases ready
  have danger := paired.danger
  rw [paired.sharedBulwarkId, paired.sharedLancerId, paired.bulwarkAlive, paired.lancerAlive] at who
  cases open' : watch.danger with
  | warned attacker sinceMs =>
      rw [open'] at danger
      cases danger with
      | bulwark warning | lancer warning => exact nomatch warning.symm.trans closed
  | quiet sinceMs =>
      rw [open'] at danger
      cases danger with
      | quiet _ due lowered free turn =>
          refine ⟨sinceMs, rfl, due ▸ available, lowered, free, ?_⟩
          rcases who with ⟨mine, alive, other⟩ | ⟨mine, alive, other⟩
          · refine Or.inl ⟨mine, alive, ?_⟩
            intro partner last
            rw [turn alive partner, last] at other
            exact absurd (other partner) (by decide)
          · refine Or.inr ⟨mine, alive, ?_⟩
            intro guard last
            rw [turn guard alive, last] at other
            exact absurd (other guard) (by decide)

/-- The attacker that may close its warning. -/
theorem strike (paired : Paired watch brain) {actorId : Nat} {warning : Warning}
    (held : brain.cadence.warning = some warning) (mine : warning.actorId = actorId)
    (due : warning.resolvesAtMs ≤ nowMs) : ∃ sinceMs,
      (watch.danger = .warned .bulwark sinceMs ∧ actorId = watch.bulwarkId ∧
          watch.bulwarkAlive = true ∧ sinceMs + Bulwark.windupMs ≤ nowMs ∧ watch.last = .bulwark ∧
          (watch.lancerAlive = true → brain.charge.locked = none)) ∨
        (watch.danger = .warned .lancer sinceMs ∧ actorId = watch.lancerId ∧
          watch.lancerAlive = true ∧ sinceMs + Lancer.windupMs ≤ nowMs ∧ watch.last = .lancer ∧
          (watch.bulwarkAlive = true → brain.defense.braced = false)) := by
  have danger := paired.danger
  generalize watch.danger = open' at danger ⊢
  cases danger with
  | @bulwark sinceMs found alive braced ready last free =>
      cases held.symm.trans found
      exact ⟨sinceMs, Or.inl ⟨rfl, mine.symm, alive, due, last, free⟩⟩
  | @lancer sinceMs found alive locked ready last lowered =>
      cases held.symm.trans found
      exact ⟨sinceMs, Or.inr ⟨rfl, mine.symm, alive, due, last, lowered⟩⟩
  | quiet closed => exact nomatch held.symm.trans closed

/-- A tick that acts follows the watch. -/
theorem turn (paired : Paired watch brain) (unsaturated : nowMs + Lancer.windupMs ≤ u64Max)
    (turn : brain.Turn nowMs action next) :
    watch.Admits (.acted action nowMs) ∧ Paired (watch.after (.acted action nowMs)) next ∧
      Waits (some action) (watch.after (.acted action nowMs)).danger := by
  cases turn with
  | slam due braced lowered resolved =>
      obtain ⟨warning, held, mine, elapsed, rfl⟩ := EliteCadence.resolveWarning_eq_some.mp resolved
      obtain ⟨sinceMs, ⟨warned, -, alive, whole, last, free⟩ | ⟨-, same, -⟩⟩ :=
        paired.strike held (mine.trans paired.bulwarkId) elapsed
      · refine ⟨Watch.Admits.struck rfl alive warned whole, ?_, ?_⟩
        · exact { paired with
            danger := Matches.quiet rfl
              (saturatingAdd_eq (by simp only [Lancer.windupMs, breatherMs] at *; omega))
              (fun _ => lowered) free
              (fun _ _ => by
                simp only [Watch.after, EliteAction.announces, EliteAction.strikes, last,
                  paired.bulwarkId, paired.sharedBulwarkId]) }
        · rintro sinceMs ⟨⟩
      · exact absurd same paired.apart
  | brace lowered braced ready began =>
      obtain ⟨turn, rfl⟩ := EliteCadence.beginWarning_eq_some.mp began
      obtain ⟨sinceMs, calm, breather, -, free, ⟨-, alive, other⟩ | ⟨same, -⟩⟩ := paired.ready turn
      · have duration : brain.cadence.warningDuration brain.bulwarkId = Bulwark.windupMs := by
          rw [EliteCadence.warningDuration, paired.sharedBulwarkId, paired.bulwarkId, if_pos rfl]
        have whole : saturatingAdd nowMs Bulwark.windupMs = nowMs + Bulwark.windupMs :=
          saturatingAdd_eq (by simp only [Lancer.windupMs, Bulwark.windupMs] at *; omega)
        refine ⟨Watch.Admits.announced rfl alive calm breather (fun _ => other), ?_, ?_⟩
        · exact { paired with
            danger := Matches.bulwark (by rw [duration, whole, paired.bulwarkId]; rfl) alive braced
              (ready.trans whole) rfl free }
        · rintro sinceMs ⟨⟩
      · exact absurd (paired.bulwarkId.symm.trans same) paired.apart
  | windup other free locked ready began =>
      obtain ⟨turn, rfl⟩ := EliteCadence.beginWarning_eq_some.mp began
      obtain ⟨sinceMs, calm, breather, lowered, -, ⟨same, -⟩ | ⟨mine, alive, turns⟩⟩ :=
        paired.ready turn
      · exact absurd (same.trans paired.bulwarkId.symm) other
      · subst mine
        have duration : brain.cadence.warningDuration watch.lancerId = Lancer.windupMs := by
          rw [EliteCadence.warningDuration, paired.sharedBulwarkId, if_neg paired.apart.symm]
        have whole : saturatingAdd nowMs Lancer.windupMs = nowMs + Lancer.windupMs :=
          saturatingAdd_eq unsaturated
        refine ⟨Watch.Admits.announced rfl alive calm breather (fun guard _ => turns guard), ?_, ?_⟩
        · exact { paired with
            danger := Matches.lancer (by rw [duration, whole]; rfl) alive locked
              (ready.trans whole) rfl lowered }
        · rintro sinceMs ⟨⟩
  | resolved other due locked free resolved =>
      obtain ⟨warning, held, mine, elapsed, rfl⟩ := EliteCadence.resolveWarning_eq_some.mp resolved
      obtain ⟨sinceMs, ⟨-, same, -⟩ | ⟨warned, mine, alive, whole, last, lowered⟩⟩ :=
        paired.strike held mine elapsed
      · exact absurd (same.trans paired.bulwarkId.symm) other
      · refine ⟨Watch.Admits.struck rfl alive warned whole, ?_, ?_⟩
        · exact { paired with
            danger := Matches.quiet rfl
              (saturatingAdd_eq (by simp only [Lancer.windupMs, breatherMs] at *; omega))
              lowered (fun _ => free)
              (fun _ _ => by
                simp only [Watch.after, EliteAction.announces, EliteAction.strikes, last, mine,
                  paired.sharedBulwarkId, paired.apart.symm, decide_false, reduceCtorEq]) }
        · rintro sinceMs ⟨⟩

/-- A confirmation moves both timers of the open warning, or the end of the breather. -/
theorem confirmed (paired : Paired watch brain) (waits : Waits (some action) watch.danger)
    (unsaturated : nowMs + Lancer.windupMs ≤ u64Max) :
    Paired (watch.after (.confirmed nowMs)) (brain.confirmAt action nowMs) := by
  have guardTime : saturatingAdd nowMs Bulwark.windupMs = nowMs + Bulwark.windupMs :=
    saturatingAdd_eq (by simp only [Lancer.windupMs, Bulwark.windupMs] at *; omega)
  have lancerTime : saturatingAdd nowMs Lancer.windupMs = nowMs + Lancer.windupMs :=
    saturatingAdd_eq unsaturated
  have breatherTime : saturatingAdd nowMs breatherMs = nowMs + breatherMs :=
    saturatingAdd_eq (by simp only [Lancer.windupMs, breatherMs] at *; omega)
  have danger := paired.danger
  generalize open' : watch.danger = current at danger waits
  cases danger with
  | @bulwark sinceMs warning alive braced due last free =>
      have moved : watch.danger.confirmed nowMs = .warned .bulwark (max sinceMs nowMs) := by
        rw [open']
        rfl
      cases action with
      | defense move =>
          rw [EliteBrain.confirmAt_defense paired.composition, EliteCadence.confirmAt_warned warning]
          exact { paired with
            danger := by
              show Matches _ _ (watch.danger.confirmed nowMs)
              rw [moved]
              refine Matches.bulwark ?_ alive braced ?_ last free
              · show some _ = some _
                rw [guardTime, Nat.add_max_add_right]
                rfl
              · show max brain.defense.readyAtMs
                  (saturatingAdd nowMs (if brain.defense.braced then _ else _)) = _
                rw [due, if_pos braced, guardTime, Nat.add_max_add_right] }
      | charge move => exact absurd rfl (waits sinceMs)
      | repair move => exact waits.elim
  | @lancer sinceMs warning alive locked due last lowered =>
      have moved : watch.danger.confirmed nowMs = .warned .lancer (max sinceMs nowMs) := by
        rw [open']
        rfl
      cases action with
      | defense move => exact absurd rfl (waits sinceMs)
      | charge move =>
          rw [EliteBrain.confirmAt_charge paired.composition, EliteCadence.confirmAt_warned warning]
          exact { paired with
            danger := by
              show Matches _ _ (watch.danger.confirmed nowMs)
              rw [moved]
              refine Matches.lancer ?_ alive locked ?_ last lowered
              · show some _ = some _
                rw [lancerTime, Nat.add_max_add_right]
                rfl
              · show max brain.charge.readyAtMs
                  (saturatingAdd nowMs (if brain.charge.locked.isSome then _ else _)) = _
                rw [due, if_pos locked, lancerTime, Nat.add_max_add_right] }
      | repair move => exact waits.elim
  | @quiet sinceMs closed available lowered free turn =>
      have moved : watch.danger.confirmed nowMs = .quiet (max sinceMs nowMs) := by
        rw [open']
        rfl
      have later : max brain.cadence.availableAtMs (saturatingAdd nowMs breatherMs) =
          max sinceMs nowMs + breatherMs := by
        rw [available, breatherTime, Nat.add_max_add_right]
      cases action with
      | defense move =>
          rw [EliteBrain.confirmAt_defense paired.composition, EliteCadence.confirmAt_calm closed]
          exact { paired with
            danger := by
              show Matches _ _ (watch.danger.confirmed nowMs)
              rw [moved]
              exact Matches.quiet closed later lowered free turn }
      | charge move =>
          rw [EliteBrain.confirmAt_charge paired.composition, EliteCadence.confirmAt_calm closed]
          exact { paired with
            danger := by
              show Matches _ _ (watch.danger.confirmed nowMs)
              rw [moved]
              exact Matches.quiet closed later lowered free turn }
      | repair move => exact waits.elim

/-- A death cancels the warning of the dead alone. -/
theorem retired (paired : Paired watch brain) (actorId : Nat)
    (unsaturated : nowMs + Lancer.windupMs ≤ u64Max) :
    Paired (watch.after (.retired actorId nowMs)) (brain.retire actorId nowMs) := by
  have breatherTime : saturatingAdd nowMs breatherMs = nowMs + breatherMs :=
    saturatingAdd_eq (by simp only [Lancer.windupMs, breatherMs] at *; omega)
  have danger := paired.danger
  generalize open' : watch.danger = current at danger
  show Paired (watch.retired actorId nowMs) (brain.retire actorId nowMs)
  unfold EliteBrain.retire EliteCadence.retire Watch.retired
  rw [open']
  dsimp only
  by_cases guard : actorId = watch.bulwarkId
  · rw [if_pos guard, if_pos (guard.trans paired.sharedBulwarkId.symm)]
    subst guard
    cases danger with
    | bulwark warning alive braced due last free =>
        have mine : brain.cadence.warning.any
            (fun warning => warning.actorId = watch.bulwarkId) = true := by
          simp only [warning, Option.any_some, decide_true]
        rw [if_pos mine]
        exact { paired with
          bulwarkAlive := rfl
          danger := Matches.quiet rfl breatherTime (fun impossible => nomatch impossible) free
            (fun impossible => nomatch impossible) }
    | lancer warning alive locked due last lowered =>
        have foreign : ¬ brain.cadence.warning.any
            (fun warning => warning.actorId = watch.bulwarkId) = true := by
          simp only [warning, Option.any_some, paired.apart.symm, decide_false,
            Bool.false_eq_true, not_false_eq_true]
        rw [if_neg foreign]
        exact { paired with
          bulwarkAlive := rfl
          danger := Matches.lancer warning alive locked due last
            (fun impossible => nomatch impossible) }
    | quiet closed available lowered free turn =>
        have none : ¬ brain.cadence.warning.any
            (fun warning => warning.actorId = watch.bulwarkId) = true := by
          simp only [closed, Option.any_none, Bool.false_eq_true, not_false_eq_true]
        rw [if_neg none]
        exact { paired with
          bulwarkAlive := rfl
          danger := Matches.quiet closed available (fun impossible => nomatch impossible) free
            (fun impossible => nomatch impossible) }
  · have sharedGuard : ¬ actorId = brain.cadence.bulwarkId :=
      fun same => guard (same.trans paired.sharedBulwarkId)
    rw [if_neg guard, if_neg sharedGuard]
    by_cases partner : actorId = watch.lancerId
    · rw [if_pos partner, if_pos (partner.trans paired.sharedLancerId.symm)]
      subst partner
      cases danger with
      | bulwark warning alive braced due last free =>
          have foreign : ¬ brain.cadence.warning.any
              (fun warning => warning.actorId = watch.lancerId) = true := by
            simp only [warning, Option.any_some, paired.apart, decide_false,
              Bool.false_eq_true, not_false_eq_true]
          rw [if_neg foreign]
          exact { paired with
            lancerAlive := rfl
            danger := Matches.bulwark warning alive braced due last
              (fun impossible => nomatch impossible) }
      | lancer warning alive locked due last lowered =>
          have mine : brain.cadence.warning.any
              (fun warning => warning.actorId = watch.lancerId) = true := by
            simp only [warning, Option.any_some, decide_true]
          rw [if_pos mine]
          exact { paired with
            lancerAlive := rfl
            danger := Matches.quiet rfl breatherTime lowered (fun impossible => nomatch impossible)
              (fun _ impossible => nomatch impossible) }
      | quiet closed available lowered free turn =>
          have none : ¬ brain.cadence.warning.any
              (fun warning => warning.actorId = watch.lancerId) = true := by
            simp only [closed, Option.any_none, Bool.false_eq_true, not_false_eq_true]
          rw [if_neg none]
          exact { paired with
            lancerAlive := rfl
            danger := Matches.quiet closed available lowered
              (fun impossible => nomatch impossible) (fun _ impossible => nomatch impossible) }
    · have sharedPartner : ¬ actorId = brain.cadence.lancerId :=
        fun same => partner (same.trans paired.sharedLancerId)
      rw [if_neg partner, if_neg sharedPartner]
      exact { paired with danger := open' ▸ danger }

end Paired

/-! ## Whole runs -/

theorem waits_cancelled {pending : Option EliteAction} {danger : Danger}
    (waits : Waits pending danger) (attacker : Attacker) (nowMs : Nat) :
    Waits pending (danger.cancelled attacker nowMs) := by
  have opened : ∀ warner sinceMs, danger.cancelled attacker nowMs = .warned warner sinceMs →
      danger = .warned warner sinceMs := by
    intro warner sinceMs same
    cases danger with
    | quiet => cases same
    | warned current openedMs =>
        change (if current = attacker then Danger.quiet nowMs else .warned current openedMs) = _
          at same
        split at same
        · cases same
        · exact same
  cases pending with
  | none => trivial
  | some action =>
      cases action with
      | defense move => exact fun sinceMs same => waits sinceMs (opened _ _ same)
      | charge move => exact fun sinceMs same => waits sinceMs (opened _ _ same)
      | repair move => exact waits

theorem waits_retired {pending : Option EliteAction} {watch : Watch}
    (waits : Waits pending watch.danger) (actorId nowMs : Nat) :
    Waits pending (watch.after (.retired actorId nowMs)).danger := by
  show Waits pending (watch.retired actorId nowMs).danger
  unfold Watch.retired
  split
  · exact waits_cancelled waits _ _
  · split
    · exact waits_cancelled waits _ _
    · exact waits

theorem paired_run {bulwarkId lancerId : Nat} {start : EliteBrain} {events : List Event}
    {caller : Caller} (created : EliteBrain.new .crossedGuard bulwarkId lancerId = some start)
    (run : Run start events caller) :
    Paired (.seen bulwarkId lancerId events) caller.brain ∧
      Waits caller.pending (Watch.seen bulwarkId lancerId events).danger := by
  induction run with
  | begun => exact ⟨Paired.of_new created, trivial⟩
  | declined run reads free answer inductionHypothesis => exact inductionHypothesis
  | rejected run reads free answer inductionHypothesis => exact inductionHypothesis
  | accepted run reads free answer inductionHypothesis =>
      obtain ⟨paired, -⟩ := inductionHypothesis
      exact (paired.turn reads.unsaturated (EliteBrain.tick_turn paired.composition answer)).2
  | confirmed run reads held inductionHypothesis =>
      obtain ⟨paired, waits⟩ := inductionHypothesis
      rw [held] at waits
      exact ⟨paired.confirmed waits reads.unsaturated, trivial⟩
  | retired actorId run reads inductionHypothesis =>
      obtain ⟨paired, waits⟩ := inductionHypothesis
      exact ⟨paired.retired actorId reads.unsaturated, waits_retired waits _ _⟩

/-- Every event of a run was admitted by the watch over the events before it. -/
theorem admitted_run {bulwarkId lancerId : Nat} {start : EliteBrain} {events : List Event}
    {caller : Caller} (created : EliteBrain.new .crossedGuard bulwarkId lancerId = some start)
    (run : Run start events caller) : ∀ later event earlier, events = later ++ event :: earlier →
      (Watch.seen bulwarkId lancerId earlier).Admits event := by
  have extended : ∀ {latest : Event} {events : List Event},
      (Watch.seen bulwarkId lancerId events).Admits latest →
      (∀ later event earlier, events = later ++ event :: earlier →
        (Watch.seen bulwarkId lancerId earlier).Admits event) →
      ∀ later event earlier, latest :: events = later ++ event :: earlier →
        (Watch.seen bulwarkId lancerId earlier).Admits event := by
    intro latest events admits before later event earlier same
    cases later with
    | nil =>
        cases same
        exact admits
    | cons first rest =>
        injection same with _ same
        exact before rest event earlier same
  induction run with
  | begun =>
      intro later event earlier impossible
      cases later <;> cases impossible
  | declined run reads free answer inductionHypothesis => exact inductionHypothesis
  | rejected run reads free answer inductionHypothesis => exact inductionHypothesis
  | accepted run reads free answer inductionHypothesis =>
      have paired := (paired_run created run).1
      have turn := EliteBrain.tick_turn paired.composition answer
      exact extended (paired.turn reads.unsaturated turn).1 inductionHypothesis
  | confirmed run reads held inductionHypothesis =>
      exact extended (Watch.Admits.confirmed _) inductionHypothesis
  | retired actorId run reads inductionHypothesis =>
      exact extended (Watch.Admits.retired _ _) inductionHypothesis

/-! ## The shared timer -/

namespace EliteBrain

variable {brain : EliteBrain} {nowMs selected : Nat} {place : Position}

theorem tickDefense_isSome {guard : Actor} (guardInside : Bulwark.arenaContains guard.position)
    (playerInside : Bulwark.arenaContains place) (due : brain.defense.readyAtMs ≤ nowMs)
    (granted : if brain.defense.braced = true then
        (brain.cadence.resolveWarning selected nowMs).isSome = true
      else (brain.cadence.beginWarning selected nowMs).isSome = true) :
    (brain.tickDefense nowMs selected guard place).isSome = true := by
  have open' : ¬ (nowMs < brain.defense.readyAtMs ∨ ¬ Bulwark.arenaContains guard.position ∨
      ¬ Bulwark.arenaContains place) := by
    rintro (early | outside | outside)
    · omega
    · exact outside guardInside
    · exact outside playerInside
  unfold tickDefense Bulwark.SteelBulwark.tick
  rw [if_neg open']
  by_cases braced : brain.defense.braced = true
  · rw [if_pos braced] at granted ⊢
    obtain ⟨cadence, found⟩ := Option.isSome_iff_exists.mp granted
    simp only [found, Option.isSome_some]
  · rw [if_neg braced] at granted ⊢
    obtain ⟨cadence, found⟩ := Option.isSome_iff_exists.mp granted
    simp only [found, Option.isSome_some]

theorem tickCharge_isSome {partner : Actor} (partnerInside : Bulwark.arenaContains partner.position)
    (playerInside : Bulwark.arenaContains place) (due : brain.charge.readyAtMs ≤ nowMs)
    (granted : if brain.charge.locked.isSome = true then
        (brain.cadence.resolveWarning selected nowMs).isSome = true
      else (brain.cadence.beginWarning selected nowMs).isSome = true) :
    (brain.tickCharge nowMs selected partner place).isSome = true := by
  have onPad : ¬ (¬ Bulwark.arenaContains partner.position ∨ ¬ Bulwark.arenaContains place) := by
    rintro (outside | outside)
    · exact outside partnerInside
    · exact outside playerInside
  -- The north pad lies within the translated pad of the solo charge.
  have open' : ¬ (nowMs < brain.charge.readyAtMs ∨
      ¬ Lancer.arenaContains (toSouth partner.position) ∨ ¬ Lancer.arenaContains (toSouth place)) := by
    simp only [Bulwark.arenaContains, Lancer.arenaContains, toSouth] at *
    omega
  unfold tickCharge northPadTick Lancer.GlassLancer.tick
  rw [if_neg onPad, if_neg open']
  cases locked : brain.charge.locked with
  | none =>
      rw [locked] at granted
      obtain ⟨cadence, found⟩ := Option.isSome_iff_exists.mp granted
      simp only [found, Option.isSome_some]
  | some target =>
      rw [locked] at granted
      obtain ⟨cadence, found⟩ := Option.isSome_iff_exists.mp granted
      simp only [found, Option.isSome_some]

end EliteBrain

/-- The cadence and the attackers keep one timer, and the fight goes on. -/
structure Shared (watch : Watch) (brain : EliteBrain) : Prop where
  held : brain.cadence.warning.isSome = true ↔
    (watch.bulwarkAlive = true ∧ brain.defense.braced = true) ∨
      (watch.lancerAlive = true ∧ brain.charge.locked.isSome = true)
  exclusive : ¬ ((watch.bulwarkAlive = true ∧ brain.defense.braced = true) ∧
    (watch.lancerAlive = true ∧ brain.charge.locked.isSome = true))
  bulwark : watch.bulwarkAlive = true → brain.defense.braced = true →
    brain.cadence.warning.map (fun warning => (warning.actorId, warning.resolvesAtMs)) =
      some (watch.bulwarkId, brain.defense.readyAtMs)
  lancer : watch.lancerAlive = true → brain.charge.locked.isSome = true →
    brain.cadence.warning.map (fun warning => (warning.actorId, warning.resolvesAtMs)) =
      some (watch.lancerId, brain.charge.readyAtMs)
  -- Neither timer grants a resolution that the other one refuses.
  bulwarkResolves : watch.bulwarkAlive = true → brain.defense.braced = true → ∀ nowMs,
    (brain.cadence.resolveWarning watch.bulwarkId nowMs).isSome = true ↔
      brain.defense.readyAtMs ≤ nowMs
  lancerResolves : watch.lancerAlive = true → brain.charge.locked.isSome = true → ∀ nowMs,
    (brain.cadence.resolveWarning watch.lancerId nowMs).isSome = true ↔
      brain.charge.readyAtMs ≤ nowMs
  -- From some time on the pair acts, whoever of it lives and wherever they stand.
  unwedged : watch.bulwarkAlive = true ∨ watch.lancerAlive = true → ∃ dueMs, ∀ nowMs, dueMs ≤ nowMs →
    ∀ guard partner player : Actor,
      (watch.bulwarkAlive = true → livingEnemy guard watch.bulwarkId) →
      (watch.lancerAlive = true → livingEnemy partner watch.lancerId) →
      player.kind = .player → player.health ≠ 0 → Bulwark.arenaContains player.position →
      (brain.tick nowMs (some guard) (some partner) player).isSome = true

namespace Paired

variable {watch : Watch} {brain : EliteBrain}

/-- A tick of able participants asks the attacker whose turn it is. -/
theorem tick_eq (paired : Paired watch brain) {nowMs : Nat} {guard partner player : Actor}
    (kind : player.kind = .player) (health : player.health ≠ 0)
    (inside : Bulwark.arenaContains player.position) :
    brain.tick nowMs (some guard) (some partner) player =
      brain.tickCrossedGuard nowMs
        ((some guard).filter (fun actor => livingEnemy actor watch.bulwarkId))
        ((some partner).filter (fun actor => livingEnemy actor watch.lancerId)) player.position := by
  have able : ¬ (player.kind ≠ .player ∨ player.health = 0 ∨
      ¬ Bulwark.arenaContains player.position) := by
    rintro (other | dead | outside)
    · exact other kind
    · exact health dead
    · exact outside inside
  unfold EliteBrain.tick
  rw [if_neg able, paired.composition, paired.bulwarkId, paired.partnerId]

theorem bulwark_acts (paired : Paired watch brain) {nowMs : Nat} {guard : Actor}
    {partner : Option Actor} {place : Position}
    (selected : brain.selected nowMs = some watch.bulwarkId)
    (living : livingEnemy guard watch.bulwarkId) (playerInside : Bulwark.arenaContains place)
    (due : brain.defense.readyAtMs ≤ nowMs)
    (granted : if brain.defense.braced = true then
        (brain.cadence.resolveWarning watch.bulwarkId nowMs).isSome = true
      else (brain.cadence.beginWarning watch.bulwarkId nowMs).isSome = true) :
    (brain.tickCrossedGuard nowMs
      ((some guard).filter (fun actor => livingEnemy actor watch.bulwarkId)) partner
      place).isSome = true := by
  unfold EliteBrain.tickCrossedGuard
  rw [selected, Option.filter_some, if_pos (decide_eq_true living)]
  dsimp only
  rw [if_pos paired.bulwarkId.symm]
  exact EliteBrain.tickDefense_isSome living.2.2.2 playerInside due granted

theorem lancer_acts (paired : Paired watch brain) {nowMs : Nat} {partner : Actor}
    {guard : Option Actor} {place : Position}
    (selected : brain.selected nowMs = some watch.lancerId)
    (living : livingEnemy partner watch.lancerId) (playerInside : Bulwark.arenaContains place)
    (due : brain.charge.readyAtMs ≤ nowMs)
    (granted : if brain.charge.locked.isSome = true then
        (brain.cadence.resolveWarning watch.lancerId nowMs).isSome = true
      else (brain.cadence.beginWarning watch.lancerId nowMs).isSome = true) :
    (brain.tickCrossedGuard nowMs guard
      ((some partner).filter (fun actor => livingEnemy actor watch.lancerId))
      place).isSome = true := by
  have other : ¬ watch.lancerId = brain.bulwarkId :=
    fun same => paired.apart (paired.bulwarkId.symm.trans same.symm)
  unfold EliteBrain.tickCrossedGuard
  rw [selected, Option.filter_some, if_pos (decide_eq_true living)]
  dsimp only
  rw [if_neg other]
  exact EliteBrain.tickCharge_isSome living.2.2.2 playerInside due granted

/-- An open warning resolves for its own attacker, once it is due. -/
theorem resolves {cadence : EliteCadence} {warning : Warning}
    (held : cadence.warning = some warning) (nowMs : Nat) :
    (cadence.resolveWarning warning.actorId nowMs).isSome = true ↔ warning.resolvesAtMs ≤ nowMs := by
  rw [Option.isSome_iff_exists]
  constructor
  · rintro ⟨next, resolved⟩
    obtain ⟨other, same, -, due, -⟩ := EliteCadence.resolveWarning_eq_some.mp resolved
    cases held.symm.trans same
    exact due
  · intro due
    exact ⟨_, EliteCadence.resolveWarning_eq_some.mpr ⟨warning, held, rfl, due, rfl⟩⟩

/-- Behind the breather somebody who lives is ready. -/
theorem somebody_ready {cadence : EliteCadence} {nowMs : Nat} (closed : cadence.warning = none)
    (available : cadence.availableAtMs ≤ nowMs)
    (living : cadence.bulwarkAlive = true ∨ cadence.lancerAlive = true) :
    (cadence.readyActor nowMs = some cadence.bulwarkId ∧ cadence.bulwarkAlive = true) ∨
      (cadence.readyActor nowMs = some cadence.lancerId ∧ cadence.lancerAlive = true) := by
  have calm : ¬ (cadence.warning.isSome = true ∨ nowMs < cadence.availableAtMs) := by
    rw [closed]
    rintro (impossible | early)
    · cases impossible
    · omega
  unfold EliteCadence.readyActor
  rw [if_neg calm]
  revert living
  cases cadence.bulwarkAlive <;> cases cadence.lancerAlive <;> cases cadence.lancerNext <;> simp

theorem unwedged (paired : Paired watch brain)
    (living : watch.bulwarkAlive = true ∨ watch.lancerAlive = true) : ∃ dueMs, ∀ nowMs, dueMs ≤ nowMs →
    ∀ guard partner player : Actor,
      (watch.bulwarkAlive = true → livingEnemy guard watch.bulwarkId) →
      (watch.lancerAlive = true → livingEnemy partner watch.lancerId) →
      player.kind = .player → player.health ≠ 0 → Bulwark.arenaContains player.position →
      (brain.tick nowMs (some guard) (some partner) player).isSome = true := by
  refine ⟨max brain.cadence.availableAtMs (max brain.defense.readyAtMs brain.charge.readyAtMs), ?_⟩
  intro nowMs due guard partner player guardLives partnerLives kind health inside
  obtain ⟨available, attackers⟩ := max_le_iff.mp due
  obtain ⟨guardDue, partnerDue⟩ := max_le_iff.mp attackers
  rw [paired.tick_eq kind health inside]
  have danger := paired.danger
  generalize watch.danger = open' at danger
  cases danger with
  | bulwark warning alive braced ready last free =>
      refine paired.bulwark_acts ?_ (guardLives alive) inside guardDue ?_
      · unfold EliteBrain.selected
        rw [warning]
      · rw [if_pos braced]
        exact (resolves warning nowMs).mpr (ready ▸ guardDue)
  | lancer warning alive locked ready last lowered =>
      refine paired.lancer_acts ?_ (partnerLives alive) inside partnerDue ?_
      · unfold EliteBrain.selected
        rw [warning]
      · rw [if_pos locked]
        exact (resolves warning nowMs).mpr (ready ▸ partnerDue)
  | quiet closed breather lowered free turn =>
      rw [← paired.bulwarkAlive, ← paired.lancerAlive] at living
      have selected : brain.selected nowMs = brain.cadence.readyActor nowMs := by
        unfold EliteBrain.selected
        rw [closed]
      rcases somebody_ready closed available living with ⟨ready, alive⟩ | ⟨ready, alive⟩
      · rw [paired.sharedBulwarkId] at ready
        rw [paired.bulwarkAlive] at alive
        refine paired.bulwark_acts (selected.trans ready) (guardLives alive) inside guardDue ?_
        rw [if_neg (by rw [lowered alive]; exact Bool.false_ne_true)]
        exact Option.isSome_iff_exists.mpr
          ⟨_, EliteCadence.beginWarning_eq_some.mpr ⟨ready, rfl⟩⟩
      · rw [paired.sharedLancerId] at ready
        rw [paired.lancerAlive] at alive
        refine paired.lancer_acts (selected.trans ready) (partnerLives alive) inside partnerDue ?_
        rw [if_neg (by rw [free alive]; exact Bool.false_ne_true)]
        exact Option.isSome_iff_exists.mpr
          ⟨_, EliteCadence.beginWarning_eq_some.mpr ⟨ready, rfl⟩⟩

theorem shared (paired : Paired watch brain) : Shared watch brain := by
  have danger := paired.danger
  generalize watch.danger = open' at danger
  have going := paired.unwedged
  cases danger with
  | bulwark warning alive braced ready last free =>
      have unlocked : watch.lancerAlive = true → ¬ brain.charge.locked.isSome = true := by
        intro living
        rw [free living]
        exact Bool.false_ne_true
      constructor
      case held => rw [warning]; exact ⟨fun _ => Or.inl ⟨alive, braced⟩, fun _ => rfl⟩
      case exclusive => exact fun both => unlocked both.2.1 both.2.2
      case bulwark => intro _ _; rw [warning, ready]; rfl
      case lancer => exact fun living locked => absurd locked (unlocked living)
      case bulwarkResolves => intro _ _ nowMs; rw [ready]; exact resolves warning nowMs
      case lancerResolves => exact fun living locked => absurd locked (unlocked living)
      case unwedged => exact going
  | lancer warning alive locked ready last lowered =>
      have unbraced : watch.bulwarkAlive = true → ¬ brain.defense.braced = true := by
        intro living
        rw [lowered living]
        exact Bool.false_ne_true
      constructor
      case held => rw [warning]; exact ⟨fun _ => Or.inr ⟨alive, locked⟩, fun _ => rfl⟩
      case exclusive => exact fun both => unbraced both.1.1 both.1.2
      case bulwark => exact fun living braced => absurd braced (unbraced living)
      case lancer => intro _ _; rw [warning, ready]; rfl
      case bulwarkResolves => exact fun living braced => absurd braced (unbraced living)
      case lancerResolves => intro _ _ nowMs; rw [ready]; exact resolves warning nowMs
      case unwedged => exact going
  | quiet closed available lowered free turn =>
      have unbraced : watch.bulwarkAlive = true → ¬ brain.defense.braced = true := by
        intro living
        rw [lowered living]
        exact Bool.false_ne_true
      have unlocked : watch.lancerAlive = true → ¬ brain.charge.locked.isSome = true := by
        intro living
        rw [free living]
        exact Bool.false_ne_true
      constructor
      case held =>
        rw [closed]
        constructor
        · intro impossible
          cases impossible
        · rintro (⟨living, braced⟩ | ⟨living, locked⟩)
          · exact absurd braced (unbraced living)
          · exact absurd locked (unlocked living)
      case exclusive => exact fun both => unbraced both.1.1 both.1.2
      case bulwark => exact fun living braced => absurd braced (unbraced living)
      case lancer => exact fun living locked => absurd locked (unlocked living)
      case bulwarkResolves => exact fun living braced => absurd braced (unbraced living)
      case lancerResolves => exact fun living locked => absurd locked (unlocked living)
      case unwedged => exact going

end Paired

/-- In every run of the crossed guard each event was admitted by the watch over
the events before it, and the cadence and the attackers share one timer. -/
theorem crossed_guard_cadence {bulwarkId lancerId : Nat} {start : EliteBrain} {events : List Event}
    {caller : Caller} (created : EliteBrain.new .crossedGuard bulwarkId lancerId = some start)
    (run : Run start events caller) :
    (∀ later event earlier, events = later ++ event :: earlier →
      (Watch.seen bulwarkId lancerId earlier).Admits event) ∧
      Shared (.seen bulwarkId lancerId events) caller.brain :=
  ⟨admitted_run created run, (paired_run created run).1.shared⟩

/-! ## The opening of a fight -/

/-- The pair on its pad, before a player who stands in the Bulwark's sector. -/
def padActor (id : Nat) (kind : ActorKind) (position : Position) : Actor :=
  { id, kind, archetype := "pad", position, health := 100, maxHealth := 100 }

def padTick (brain : EliteBrain) (nowMs : Nat) : Option (EliteAction × EliteBrain) :=
  brain.tick nowMs (some (padActor 1 .enemy Bulwark.spawn)) (some (padActor 2 .enemy ⟨9, 0, -9⟩))
    (padActor 3 .player ⟨7, 0, -8⟩)

def spawnedBrain : EliteBrain :=
  { composition := .crossedGuard, bulwarkId := 1, partnerId := 2, defense := .default
    charge := .default, repair := .default
    cadence := { bulwarkId := 1, lancerId := 2, bulwarkAlive := true, lancerAlive := true
                 lancerNext := false, availableAtMs := 0
                 warning := some { actorId := 1, resolvesAtMs := 1600, durationMs := 1600 } } }

def slammedBrain : EliteBrain :=
  { spawnedBrain with
    defense := { facing := .west, braced := false, readyAtMs := 3400 }
    cadence := { spawnedBrain.cadence with
      warning := none, lancerNext := true, availableAtMs := 2200 } }

def chargingBrain : EliteBrain :=
  { spawnedBrain with
    defense := { facing := .west, braced := false, readyAtMs := 6800 }
    charge := { readyAtMs := 7400, locked := some (⟨9, 0, 6⟩, ⟨7, 0, 6⟩) }
    cadence := { spawnedBrain.cadence with
      lancerNext := true, availableAtMs := 5600
      warning := some { actorId := 2, resolvesAtMs := 7400, durationMs := 1800 } } }

/-- A slam confirmed late, and the charge that answers it a breather later. -/
def openingEvents : List Event :=
  [.acted (.charge (.windup ⟨9, 0, -9⟩ ⟨7, 0, -9⟩)) 5600, .confirmed 5000,
    .acted (.defense (.slam .west 14)) 1600]

theorem opening_run : Run spawnedBrain openingEvents
    { brain := chargingBrain, pending := some (.charge (.windup ⟨9, 0, -9⟩ ⟨7, 0, -9⟩))
      clockMs := 5600 } := by
  have slammed : padTick spawnedBrain 1600 =
      some (.defense (.slam .west 14), slammedBrain) := by decide +kernel
  have charged : padTick (slammedBrain.confirmAt (.defense (.slam .west 14)) 5000) 5600 =
      some (.charge (.windup ⟨9, 0, -9⟩ ⟨7, 0, -9⟩), chargingBrain) := by decide +kernel
  have first := Run.accepted Run.begun ⟨Nat.zero_le 1600, by decide⟩ rfl slammed
  have second := Run.confirmed first ⟨(by decide : 1600 ≤ 5000), by decide⟩ rfl
  exact Run.accepted second ⟨(by decide : 5000 ≤ 5600), by decide⟩ rfl charged

theorem crossed_guard_cadence_opening :
    EliteBrain.new .crossedGuard 1 2 = some spawnedBrain ∧
      (Watch.seen 1 2 [.confirmed 5000, .acted (.defense (.slam .west 14)) 1600]).Admits
        (.acted (.charge (.windup ⟨9, 0, -9⟩ ⟨7, 0, -9⟩)) 5600) ∧
      Shared (.seen 1 2 openingEvents) chargingBrain := by
  have created : EliteBrain.new .crossedGuard 1 2 = some spawnedBrain := by decide +kernel
  obtain ⟨admitted, shared⟩ := crossed_guard_cadence created opening_run
  exact ⟨created, admitted [] _ _ rfl, shared⟩

end Elite
end Ai
end Revenant
