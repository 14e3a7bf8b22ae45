import Revenant.Ai.Support
import Revenant.Library.Champion
import Mathlib.Algebra.Order.Field.Rat
import Mathlib.Data.List.Nodup
import Mathlib.Data.Prod.Lex

namespace Revenant
namespace Ai
namespace Support

open Library

/-!
# Whom the mender repairs

The comparison multiplies crosswise instead of dividing.  On allies that may be
repaired it orders the fractions of health that are left, and equal fractions
by identifier, so the choice is the least ally under a linear order and does not
depend on how the allies are listed.

The registry gives every actor an identifier of its own, so no two allies of a
list are equal and the least one is one actor.  The products of the comparison
stay within 64 bits because healths are 32-bit counts.
-/

/-- The fraction of its health an ally has left. -/
def fraction (ally : Actor) : ℚ := ally.health / ally.maxHealth

/-- The fraction, then the identifier. -/
def urgency (ally : Actor) : ℚ ×ₗ Nat := toLex (fraction ally, ally.id)

/-- The fields of an actor are words. -/
structure Words (actor : Actor) : Prop where
  health : actor.health ≤ u32Max
  maxHealth : actor.maxHealth ≤ u32Max

/-- The comparison of the cross products, without identifiers. -/
def NoHealthier (left right : Actor) : Prop :=
  left.health * right.maxHealth ≤ right.health * left.maxHealth

/-! ## The cross products -/

section Cross

variable {source left right third : Actor}

theorem positive_of_eligible (may : eligible source left) : 0 < left.maxHealth := by
  obtain ⟨-, -, -, wounded, -⟩ := may
  exact Nat.zero_lt_of_lt wounded

theorem noHealthier_iff (leftPositive : 0 < left.maxHealth) (rightPositive : 0 < right.maxHealth) :
    NoHealthier left right ↔ fraction left ≤ fraction right := by
  unfold NoHealthier fraction
  rw [div_le_div_iff₀ (by exact_mod_cast leftPositive) (by exact_mod_cast rightPositive)]
  norm_cast

theorem cross_lt_iff (leftPositive : 0 < left.maxHealth) (rightPositive : 0 < right.maxHealth) :
    left.health * right.maxHealth < right.health * left.maxHealth ↔
      fraction left < fraction right := by
  rw [← not_le, ← not_le, ← noHealthier_iff rightPositive leftPositive]
  rfl

theorem cross_eq_iff (leftPositive : 0 < left.maxHealth) (rightPositive : 0 < right.maxHealth) :
    left.health * right.maxHealth = right.health * left.maxHealth ↔
      fraction left = fraction right := by
  rw [le_antisymm_iff, le_antisymm_iff, ← noHealthier_iff leftPositive rightPositive,
    ← noHealthier_iff rightPositive leftPositive]
  rfl

/-- Among allies that may be repaired, more urgent means a smaller urgency. -/
theorem moreUrgent_iff (leftMay : eligible source left) (rightMay : eligible source right) :
    moreUrgent left right ↔ urgency left < urgency right := by
  have leftPositive := positive_of_eligible leftMay
  have rightPositive := positive_of_eligible rightMay
  unfold moreUrgent urgency
  rw [cross_lt_iff leftPositive rightPositive, cross_eq_iff leftPositive rightPositive,
    Prod.Lex.toLex_lt_toLex]

/-- The products of words fit into 64 bits. -/
theorem cross_fits (leftWords : Words left) (rightWords : Words right) :
    left.health * right.maxHealth ≤ u64Max := by
  have bound := Nat.mul_le_mul leftWords.health rightWords.maxHealth
  have words : u32Max * u32Max ≤ u64Max := by decide
  exact le_trans bound words

theorem noHealthier_total (left right : Actor) : NoHealthier left right ∨ NoHealthier right left :=
  le_total _ _

theorem NoHealthier.trans (first : NoHealthier left right) (second : NoHealthier right third)
    (leftMay : eligible source left) (rightMay : eligible source right)
    (thirdMay : eligible source third) : NoHealthier left third := by
  rw [noHealthier_iff (positive_of_eligible leftMay) (positive_of_eligible rightMay)] at first
  rw [noHealthier_iff (positive_of_eligible rightMay) (positive_of_eligible thirdMay)] at second
  rw [noHealthier_iff (positive_of_eligible leftMay) (positive_of_eligible thirdMay)]
  exact le_trans first second

end Cross

/-! ## The choice -/

section Choice

variable {mender next : RelayMender} {nowMs : Nat} {source target : Actor} {allies others : List Actor}
  {action : RepairAction}

/-- `min_by` keeps the first best element. -/
theorem selectTarget_eq_champion (allies : List Actor) :
    selectTarget allies = champion (fun left right => decide (moreUrgent left right)) allies := by
  cases allies with
  | nil => rfl
  | cons first rest =>
      simp only [selectTarget, champion, List.foldl_cons, challenge]
      induction rest generalizing first with
      | nil => rfl
      | cons ally rest inductionHypothesis =>
          simp only [List.foldl_cons, challenge, decide_eq_true_eq]
          exact inductionHypothesis _

theorem comparesBy_urgency (source : Actor) (allies : List Actor) :
    ComparesBy (fun left right => decide (moreUrgent left right)) urgency
      (allies.filter (fun ally => eligible source ally)) := by
  intro left leftIn right rightIn
  rw [decide_eq_true_eq]
  exact moreUrgent_iff (of_decide_eq_true (List.mem_filter.mp leftIn).2)
    (of_decide_eq_true (List.mem_filter.mp rightIn).2)

/-- The ally of least fraction that may be repaired, the first one of equals. -/
structure Chosen (source : Actor) (allies : List Actor) (target : Actor) : Prop where
  member : target ∈ allies
  may : eligible source target
  least : ∀ ally ∈ allies, eligible source ally →
    fraction target < fraction ally ∨ fraction target = fraction ally ∧ target.id ≤ ally.id

/-- A repair restores a living ally, up to its maximum at most. -/
structure Restores (action : RepairAction) (target : Actor) : Prop where
  named : action.targetId = target.id
  before : action.healthBefore = target.health
  after : action.healthAfter = target.health + action.amount
  bounded : action.healthAfter ≤ target.maxHealth
  alive : 0 < action.healthBefore

theorem chosen_of_selectTarget
    (selected : selectTarget (allies.filter (fun ally => eligible source ally)) = some target) :
    Chosen source allies target := by
  rw [selectTarget_eq_champion] at selected
  obtain ⟨inside, least⟩ := champion_least (comparesBy_urgency source allies) selected
  obtain ⟨member, may⟩ := List.mem_filter.mp inside
  refine ⟨member, of_decide_eq_true may, ?_⟩
  intro ally allyIn allyMay
  have smaller := least ally (List.mem_filter.mpr ⟨allyIn, decide_eq_true allyMay⟩)
  exact Prod.Lex.toLex_le_toLex.mp smaller

theorem restores_repair (may : eligible source target) :
    Restores (RelayMender.repair target) target := by
  obtain ⟨-, -, standing, wounded, -⟩ := may
  refine ⟨rfl, rfl, rfl, ?_, Nat.pos_of_ne_zero standing⟩
  have capped := Nat.min_le_right repairAmount (target.maxHealth - target.health)
  change target.health + min repairAmount (target.maxHealth - target.health) ≤ target.maxHealth
  omega

theorem selectTarget_perm (distinct : (allies.map Actor.id).Nodup) (perm : others.Perm allies) :
    selectTarget (others.filter (fun ally => eligible source ally)) =
      selectTarget (allies.filter (fun ally => eligible source ally)) := by
  rw [selectTarget_eq_champion, selectTarget_eq_champion]
  refine champion_perm (comparesBy_urgency source allies) ?_ (perm.filter _)
  intro left leftIn right rightIn same
  have ids : left.id = right.id := congrArg (fun key => (ofLex key).2) same
  exact List.inj_on_of_nodup_map distinct (List.mem_filter.mp leftIn).1
    (List.mem_filter.mp rightIn).1 ids

/-- The mender may act at all. -/
def Ready (mender : RelayMender) (nowMs : Nat) (source : Actor) : Prop :=
  mender.readyAtMs ≤ nowMs ∧ source.kind = .enemy ∧ 0 < source.health

theorem tick_eq_some (acted : mender.tick nowMs source allies = some (action, next)) :
    Ready mender nowMs source ∧ ∃ target, Chosen source allies target ∧ Restores action target := by
  unfold RelayMender.tick at acted
  split at acted
  · cases acted
  · next able =>
    split at acted
    · cases acted
    · next target selected =>
      cases acted
      have chosen := chosen_of_selectTarget selected
      simp only [not_or, not_lt, not_not] at able
      exact ⟨⟨able.1, able.2.1, Nat.pos_of_ne_zero able.2.2⟩, target, chosen,
        restores_repair chosen.may⟩

theorem tick_eq_none (idle : mender.tick nowMs source allies = none) :
    ¬ Ready mender nowMs source ∨ ∀ ally ∈ allies, ¬ eligible source ally := by
  unfold RelayMender.tick at idle
  split at idle
  · next unable =>
    refine Or.inl ?_
    rintro ⟨due, enemy, alive⟩
    rcases unable with early | stranger | dead
    · omega
    · exact stranger enemy
    · omega
  · split at idle
    · next none =>
      refine Or.inr ?_
      rw [selectTarget_eq_champion, champion_eq_none_iff, List.filter_eq_nil_iff] at none
      intro ally member may
      exact none ally member (decide_eq_true may)
    · cases idle

/-- Two allies with different identifiers are not both the choice. -/
theorem Chosen.unique {other : Actor} (distinct : (allies.map Actor.id).Nodup)
    (chosen : Chosen source allies target) (second : Chosen source allies other) :
    target = other := by
  have first := chosen.least other second.member second.may
  have back := second.least target chosen.member chosen.may
  refine List.inj_on_of_nodup_map distinct chosen.member second.member ?_
  rcases first with less | ⟨same, before⟩
  · rcases back with more | ⟨equal, -⟩
    · exact absurd less (lt_asymm more)
    · exact absurd less (by rw [equal]; exact lt_irrefl _)
  · rcases back with more | ⟨-, after⟩
    · exact absurd more (by rw [same]; exact lt_irrefl _)
    · exact Nat.le_antisymm before after

end Choice

/-- The mender repairs the one eligible ally of least fraction, whatever the
order of the list, without overflow.  It repairs nobody only when it is not
ready or nobody is eligible. -/
theorem support_choice (mender : RelayMender) (nowMs : Nat) (source : Actor) (allies : List Actor)
    (distinct : (allies.map Actor.id).Nodup) (words : ∀ ally ∈ allies, Words ally) :
    (∀ action next, mender.tick nowMs source allies = some (action, next) →
      Ready mender nowMs source ∧
        ∃ target, Chosen source allies target ∧ Restores action target ∧
          ∀ other, Chosen source allies other → other = target) ∧
    (mender.tick nowMs source allies = none →
      ¬ Ready mender nowMs source ∨ ∀ ally ∈ allies, ¬ eligible source ally) ∧
    (∀ others : List Actor, others.Perm allies →
      mender.tick nowMs source others = mender.tick nowMs source allies) ∧
    (∀ left ∈ allies, ∀ right ∈ allies, left.health * right.maxHealth ≤ u64Max) ∧
    (∀ left right, NoHealthier left right ∨ NoHealthier right left) ∧
    (∀ left right third, eligible source left → eligible source right → eligible source third →
      NoHealthier left right → NoHealthier right third → NoHealthier left third) ∧
    ∀ left right, eligible source left → eligible source right →
      (NoHealthier left right ↔ fraction left ≤ fraction right) := by
  refine ⟨?_, tick_eq_none, ?_, ?_, noHealthier_total, ?_, ?_⟩
  · intro action next acted
    obtain ⟨ready, target, chosen, restores⟩ := tick_eq_some acted
    exact ⟨ready, target, chosen, restores, fun other second => second.unique distinct chosen⟩
  · intro others perm
    unfold RelayMender.tick
    rw [selectTarget_perm distinct perm]
  · exact fun left leftIn right rightIn => cross_fits (words left leftIn) (words right rightIn)
  · exact fun left right third leftMay rightMay thirdMay first second =>
      first.trans second leftMay rightMay thirdMay
  · exact fun left right leftMay rightMay =>
      noHealthier_iff (positive_of_eligible leftMay) (positive_of_eligible rightMay)

/-- A mender between two allies at half of their health and a dead one. -/
def hurtCompany : Actor × List Actor :=
  let enemy (id health maxHealth : Nat) (position : Position) : Actor :=
    { id, kind := .enemy, archetype := "fixture", position, health, maxHealth }
  (enemy 1 100 100 ⟨0, 0, 0⟩,
    [enemy 3 50 100 ⟨1, 0, 0⟩, enemy 2 100 200 ⟨2, 0, 0⟩, enemy 4 0 100 ⟨0, 0, 1⟩])

/-- The two halves are equal, so the lower identifier is repaired, in another order
as well. -/
theorem support_choice_halves : RelayMender.default.tick 900 hurtCompany.1 hurtCompany.2.reverse =
    some (⟨2, repairAmount, 100, 108⟩, ⟨900 + repairIntervalMs⟩) := by
  have words : ∀ ally ∈ hurtCompany.2, Words ally := by
    have fits : ∀ ally ∈ hurtCompany.2, ally.health ≤ u32Max ∧ ally.maxHealth ≤ u32Max := by decide
    exact fun ally member => ⟨(fits ally member).1, (fits ally member).2⟩
  rw [(support_choice .default 900 hurtCompany.1 hurtCompany.2 (by decide) words).2.2.1 _
    (List.reverse_perm _)]
  decide +kernel

end Support
end Ai
end Revenant
