import Revenant.Challenges.History
import Mathlib.Tactic.IntervalCases

namespace Revenant
namespace Challenges

open Library

/-!
# Objectives of a run

A run keeps its confirmed objectives as bits.  `Tracks` compares the bits with
the list of confirmations in the journal: the same objectives, each once, in an
order the contract allows.

A contract may allow more than one order, so the bits alone do not say which
confirmation came first; the list does, and it is complete exactly when every
bit of the rules is set.
-/

/-- The objectives of the rules, from the lowest bit on. -/
def Rules.objectives (rules : Rules) : List Objective :=
  match rules.contract with
  | .closeQuarters => [.lancerCleared, .menderCleared]
  | .meridianCircuit => [.lensRead, .galleryRead, .logRead, .returned]
  | .coolantRecovery => [.coolantRetrieved, .coolantTransferred, .coolantDelivered]
  | .bastionLink => [.bulwarkCleared, .menderCleared]
  | .prismDiscipline => [.prismCleared]
  | .distantSignal => [.sentinelCleared]
  | .lastReserve => [.westRelayCharged, .eastRelayCharged, .reserveReturned]
  | .relayGauntlet =>
      if rules.preset.has .bastionFirst then
        [.gauntletBastionCleared, .gauntletSupportCleared, .gauntletPrismCleared]
      else [.gauntletSupportCleared, .gauntletBastionCleared, .gauntletPrismCleared]

/-- The bits of the objectives, in the order of `Rules.objectives`. -/
def bitAt (index : Nat) : BitVec 8 := 1 <<< index

/-- The bit of an objective is the bit of its first place in the list. -/
theorem objectiveBit_eq (rules : Rules) (objective : Objective) :
    rules.objectiveBit objective = (rules.objectives.idxOf? objective).map bitAt := by
  rcases rules with ⟨contract, contractRevision, gameplayRevision, seed, preset⟩
  unfold Rules.objectiveBit Rules.objectives
  generalize preset.has .bastionFirst = swapped
  cases contract <;> cases swapped <;> cases objective <;> rfl

theorem objectives_nodup (rules : Rules) :
    rules.objectives.Nodup ∧ rules.objectives.length ≤ 4 := by
  rcases rules with ⟨contract, contractRevision, gameplayRevision, seed, preset⟩
  unfold Rules.objectives
  dsimp only
  generalize preset.has .bastionFirst = swapped
  cases contract <;> cases swapped <;> decide

variable {rules : Rules} {bit : BitVec 8}

/-- An objective has a bit exactly when the rules list it, at the bit's place. -/
theorem objectiveBit_iff {objective : Objective} :
    rules.objectiveBit objective = some bit ↔
      ∃ index, rules.objectives[index]? = some objective ∧ bit = bitAt index ∧ index < 4 := by
  obtain ⟨distinct, short⟩ := objectives_nodup rules
  rw [objectiveBit_eq, Option.map_eq_some_iff]
  constructor
  · rintro ⟨index, first, rfl⟩
    obtain ⟨bound, found, -⟩ := List.idxOf?_eq_some_iff.mp first
    exact ⟨index, List.getElem?_eq_some_iff.mpr ⟨bound, found⟩, rfl, by omega⟩
  · rintro ⟨index, listed, rfl, -⟩
    obtain ⟨bound, found⟩ := List.getElem?_eq_some_iff.mp listed
    refine ⟨index, List.idxOf?_eq_some_iff.mpr ⟨bound, found, ?_⟩, rfl⟩
    intro earlier less same
    exact Nat.ne_of_lt less ((distinct.getElem_inj_iff).mp (same.trans found.symm))

theorem bitAt_inj {first second : Nat} (left : first < 4) (right : second < 4)
    (same : bitAt first = bitAt second) : first = second := by
  interval_cases first <;> interval_cases second <;> first | rfl | exact absurd same (by decide)

/-- No two objectives share a bit. -/
theorem objectiveBit_inj {first second : Objective} (left : rules.objectiveBit first = some bit)
    (right : rules.objectiveBit second = some bit) : first = second := by
  obtain ⟨index, leftAt, rfl, leftBound⟩ := objectiveBit_iff.mp left
  obtain ⟨other, rightAt, same, rightBound⟩ := objectiveBit_iff.mp right
  rw [bitAt_inj leftBound rightBound same, rightAt] at leftAt
  exact (Option.some.inj leftAt).symm

theorem and_or_bit {other : BitVec 8} (single : bit ∈ ([1, 2, 4, 8] : List (BitVec 8)))
    (otherSingle : other ∈ ([1, 2, 4, 8] : List (BitVec 8))) (objectives : BitVec 8) :
    (objectives ||| bit) &&& other ≠ 0 ↔ objectives &&& other ≠ 0 ∨ other = bit := by
  have meets : bit &&& other ≠ 0 ↔ other = bit := by
    simp only [List.mem_cons, List.not_mem_nil, or_false] at single otherSingle
    rcases single with rfl | rfl | rfl | rfl <;>
      rcases otherSingle with rfl | rfl | rfl | rfl <;> decide
  rw [BitVec.and_or_distrib_right, ← meets]
  exact (not_congr BitVec.or_eq_zero_iff).trans not_and_or

theorem full_and (single : bit ∈ ([1, 2, 4, 8] : List (BitVec 8))) : 15 &&& bit ≠ 0 := by
  simp only [List.mem_cons, List.not_mem_nil, or_false] at single
  rcases single with rfl | rfl | rfl | rfl <;> decide

/-- A bit inside a mask meets the mask. -/
theorem mask_and {mask : BitVec 8} (single : bit ∈ ([1, 2, 4, 8] : List (BitVec 8)))
    (inside : bit &&& ~~~ mask = 0) : mask &&& bit ≠ 0 := by
  obtain ⟨place, bound, rfl⟩ := exists_place single
  have small : place < 8 := by omega
  rw [and_twoPow_ne_zero small]
  by_contra absent
  have opposite : (~~~ mask).getLsbD place = true := by
    rw [BitVec.getLsbD_not, Bool.eq_false_of_not_eq_true absent, decide_eq_true small]
    rfl
  have outside := (and_twoPow_ne_zero small _).mpr opposite
  rw [BitVec.and_comm] at outside
  exact outside inside

/-- A set inside a contract's mask that meets every bit of it is the mask. -/
theorem eq_mask_of_covered {contract : ContractId} {objectives : BitVec 8}
    (inside : objectives &&& ~~~ contract.completeMask = 0)
    (covered : ∀ index < countOnes contract.completeMask, objectives &&& bitAt index ≠ 0) :
    objectives = contract.completeMask := by
  -- a contract's mask fills its lowest places
  have low : ∀ index < 8, contract.completeMask.getLsbD index =
      decide (index < countOnes contract.completeMask) := by
    cases contract <;> decide
  apply BitVec.eq_of_getLsbD_eq
  intro index bound
  rw [low index bound]
  by_cases listed : index < countOnes contract.completeMask
  · rw [decide_eq_true listed]
    exact (and_twoPow_ne_zero bound objectives).mp (covered index listed)
  · rw [decide_eq_false listed]
    by_contra present
    have outside : (objectives &&& ~~~ contract.completeMask).getLsbD index = true := by
      rw [BitVec.getLsbD_and, BitVec.getLsbD_not, low index bound, decide_eq_false listed,
        Bool.eq_true_of_not_eq_false present, decide_eq_true bound]
      rfl
    rw [inside] at outside
    exact absurd outside (by simp)

/-- A contract has one objective for each bit of its mask. -/
theorem objectives_length (rules : Rules) :
    rules.objectives.length = countOnes rules.contract.completeMask := by
  rcases rules with ⟨contract, contractRevision, gameplayRevision, seed, preset⟩
  cases contract <;>
    simp only [Rules.objectives, ContractId.completeMask, List.length_cons, List.length_nil]
  case relayGauntlet =>
    split
    · decide
    · decide
  all_goals decide

theorem countOnes_completeMask_le (contract : ContractId) : countOnes contract.completeMask ≤ 4 := by
  cases contract <;> decide

/-- The confirmed objectives of one run and the bits it keeps. -/
structure Tracks (rules : Rules) (confirmed : List Objective) (objectives : BitVec 8) : Prop where
  bits : ∀ objective bit, rules.objectiveBit objective = some bit →
    (objective ∈ confirmed ↔ objectives &&& bit ≠ 0)
  known : ∀ objective ∈ confirmed, (rules.objectiveBit objective).isSome
  once : confirmed.Nodup
  inside : objectives &&& ~~~ rules.contract.completeMask = 0
  returned : ∀ earlier later, confirmed = earlier ++ .returned :: later →
    later = [] ∧ [Objective.lensRead, .galleryRead, .logRead] ⊆ earlier
  stuck : .returned ∈ confirmed → objectives = 15
  inOrder : rules.contract.ordered = true →
    ∃ count ≤ 3, confirmed = rules.objectives.take count ∧ objectives = bitAt count - 1

theorem Tracks.empty (rules : Rules) : Tracks rules [] 0 := by
  constructor
  · intro objective bit _
    simp
  · intro objective member
    cases member
  · exact List.nodup_nil
  · exact BitVec.zero_and
  · intro earlier later impossible
    cases earlier <;> cases impossible
  · intro member
    cases member
  · intro _
    exact ⟨0, by decide, rfl, by decide⟩

/-- Only the circuit has a return, and its other bits are the three stations. -/
theorem returned_known (known : rules.objectiveBit .returned = some bit) :
    bit = 8 ∧ rules.objectiveBit .lensRead = some 1 ∧ rules.objectiveBit .galleryRead = some 2 ∧
      rules.objectiveBit .logRead = some 4 ∧ rules.contract = .meridianCircuit := by
  unfold Rules.objectiveBit at known ⊢
  cases contract : rules.contract <;> simp_all [Objective.bit]

/-- One more confirmation that its branch allows. -/
theorem Tracks.snoc {run : ChallengeRun} {confirmed : List Objective} {objective : Objective}
    (tracks : Tracks run.rules confirmed run.objectives)
    (known : run.rules.objectiveBit objective = some bit) (allowed : ¬ run.refuses objective bit) :
    Tracks run.rules (confirmed ++ [objective]) (run.objectives ||| bit) := by
  have facts := bitOf_of_known known
  unfold ChallengeRun.refuses at allowed
  push Not at allowed
  obtain ⟨unconfirmed, returnedLast, nextInOrder⟩ := allowed
  have fresh : objective ∉ confirmed := by
    rw [tracks.bits objective bit known]
    exact not_not.mpr unconfirmed
  have idle : Objective.returned ∉ confirmed := by
    intro member
    -- A finished circuit has every bit, so it refuses every objective.
    have all := tracks.stuck member
    rw [all] at unconfirmed
    exact full_and facts.single unconfirmed
  constructor
  · intro other otherBit otherKnown
    have otherFacts := bitOf_of_known otherKnown
    rw [and_or_bit facts.single otherFacts.single, List.mem_append, List.mem_singleton,
      tracks.bits other otherBit otherKnown]
    apply or_congr_right
    constructor
    · rintro rfl
      rw [known] at otherKnown
      exact (Option.some.inj otherKnown).symm
    · rintro rfl
      exact objectiveBit_inj otherKnown known
  · intro other member
    rcases List.mem_append.mp member with old | new
    · exact tracks.known other old
    · rw [List.mem_singleton.mp new, known]
      rfl
  · rw [List.nodup_append]
    refine ⟨tracks.once, List.nodup_singleton _, ?_⟩
    intro old oldMember new newMember same
    rw [List.mem_singleton.mp newMember] at same
    exact fresh (same ▸ oldMember)
  · exact or_inside tracks.inside facts.inside
  · intro earlier later split
    rcases List.eq_nil_or_concat later with rfl | ⟨rest, last, rfl⟩
    · have same : confirmed = earlier ∧ objective = .returned := by
        have := List.append_inj' split rfl
        exact ⟨this.1, List.singleton_inj.mp this.2⟩
      obtain ⟨rfl, rfl⟩ := same
      obtain ⟨-, lens, gallery, log, -⟩ := returned_known known
      have bits := returnedLast rfl
      refine ⟨rfl, ?_⟩
      have member : ∀ station stationBit, run.rules.objectiveBit station = some stationBit →
          run.objectives &&& stationBit ≠ 0 → station ∈ confirmed :=
        fun station stationBit stationKnown present =>
          (tracks.bits station stationBit stationKnown).mpr present
      intro station listed
      rw [bits] at member
      simp only [List.mem_cons, List.not_mem_nil, or_false] at listed
      rcases listed with rfl | rfl | rfl
      · exact member _ _ lens (by decide)
      · exact member _ _ gallery (by decide)
      · exact member _ _ log (by decide)
    · exfalso
      apply idle
      rw [List.concat_eq_append, ← List.cons_append, ← List.append_assoc] at split
      have same := (List.append_inj' split rfl).1
      rw [same]
      simp
  · intro member
    rcases List.mem_append.mp member with old | new
    · exact absurd old idle
    · have same := List.mem_singleton.mp new
      subst same
      obtain ⟨rfl, -⟩ := returned_known known
      rw [returnedLast rfl]
      decide
  · intro ordered
    obtain ⟨count, bound, taken, bits⟩ := tracks.inOrder ordered
    obtain ⟨index, listed, rfl, small⟩ := objectiveBit_iff.mp known
    have next := nextInOrder ordered
    rw [bits] at next
    have same : count = index := by
      interval_cases count <;> interval_cases index <;>
        first | rfl | exact absurd next (by decide)
    subst same
    have notLast := facts.early ordered
    have early : count < 3 := by
      rcases Nat.lt_or_ge count 3 with less | most
      · exact less
      · have last : count = 3 := by omega
        exact absurd (by rw [last]; decide) notLast
    refine ⟨count + 1, early, ?_, ?_⟩
    · rw [List.take_add_one, listed, taken]
      rfl
    · rw [bits]
      interval_cases count <;> decide

/-- All bits are set exactly when every objective was confirmed. -/
theorem Tracks.full_iff {confirmed : List Objective} {objectives : BitVec 8}
    (tracks : Tracks rules confirmed objectives) :
    objectives = rules.contract.completeMask ↔
      ∀ objective, (rules.objectiveBit objective).isSome → objective ∈ confirmed := by
  constructor
  · rintro rfl objective present
    obtain ⟨bit, known⟩ := Option.isSome_iff_exists.mp present
    rw [tracks.bits objective bit known]
    have facts := bitOf_of_known known
    exact mask_and facts.single facts.inside
  · intro all
    have covered : ∀ index < rules.objectives.length, objectives &&& bitAt index ≠ 0 := by
      intro index bound
      have small : index < 4 := by
        rw [objectives_length] at bound
        exact lt_of_lt_of_le bound (countOnes_completeMask_le _)
      have known : rules.objectiveBit rules.objectives[index] = some (bitAt index) :=
        objectiveBit_iff.mpr ⟨index, List.getElem?_eq_getElem bound, rfl, small⟩
      exact (tracks.bits _ _ known).mp (all _ (known ▸ rfl))
    rw [objectives_length] at covered
    exact eq_mask_of_covered tracks.inside covered

end Challenges
end Revenant
