import Revenant.Library.Call
import Revenant.Library.Words
import Revenant.Replay.Acquisition

namespace Revenant
namespace Acquisition

open Library Replay

/-!
# The commissions of a character

A character records milestones and claims arcs.  An arc whose milestones are all
recorded grants two fragments once; every later claim of it answers with the
balance it was given.  Any sequence of records and claims keeps the law of the
grants, whatever happens to the balance between two claims.
-/

inductive ArcStatus where
  | locked
  | ready
  | claimed
  deriving DecidableEq, Repr

/-- A claimed arc has its milestones, so no other state can be built. -/
@[ext]
structure AcquisitionState where
  milestones : Finset Replay.Milestone
  claimed : Finset ArcId
  claimed_eligible : ∀ arc ∈ claimed, ∀ id ∈ arc.requirements, id ∈ milestones
  deriving DecidableEq

structure Grant where
  arcId : ArcId
  replayed : Bool
  grantedFragments : Nat
  resultingFragments : Nat
  deriving DecidableEq, Repr

inductive AcquisitionError where
  | missingRequirement
  | invalidClaimedState
  | fragmentOverflow
  deriving DecidableEq, Repr

namespace AcquisitionState

/-- Restores the state a character's rows give. -/
def new (milestones : List Replay.Milestone) (claimed : List ArcId) :
    Except AcquisitionError AcquisitionState :=
  if proven : ∀ arc ∈ claimed.toFinset, ∀ id ∈ arc.requirements, id ∈ milestones.toFinset then
    .ok { milestones := milestones.toFinset, claimed := claimed.toFinset
          claimed_eligible := proven }
  else .error .invalidClaimedState

/-- Nothing recorded, nothing claimed. -/
def empty : AcquisitionState :=
  { milestones := ∅, claimed := ∅
    claimed_eligible := fun _ member => absurd member (Finset.notMem_empty _) }

abbrev Eligible (state : AcquisitionState) (arc : ArcId) : Prop :=
  ∀ id ∈ arc.requirements, id ∈ state.milestones

def status (state : AcquisitionState) (arc : ArcId) : ArcStatus :=
  if arc ∈ state.claimed then .claimed else if state.Eligible arc then .ready else .locked

def recording (state : AcquisitionState) (milestone : Replay.Milestone) : AcquisitionState :=
  { state with
    milestones := insert milestone state.milestones
    claimed_eligible := fun arc member id required =>
      Finset.mem_insert_of_mem (state.claimed_eligible arc member id required) }

def claiming (state : AcquisitionState) (arc : ArcId) (eligible : state.Eligible arc) :
    AcquisitionState :=
  { state with
    claimed := insert arc state.claimed
    claimed_eligible := by
      intro other member
      rcases Finset.mem_insert.mp member with rfl | old
      · exact eligible
      · exact state.claimed_eligible other old }

/-- Whether the milestone is new. -/
def record (milestone : Replay.Milestone) : Call AcquisitionState AcquisitionError Bool :=
  fun state => (.ok (decide (milestone ∉ state.milestones)), state.recording milestone)

/-- The `checked_add` of two 32-bit words, kept within the persistence bound. -/
def boundedSum (fragments granted : Nat) : Except AcquisitionError Nat :=
  if fragments + granted ≤ u32Max ∧ fragments + granted ≤ maxFragments then
    .ok (fragments + granted)
  else .error .fragmentOverflow

/-- A one-time grant against the balance the caller has locked. -/
def claim (arc : ArcId) (fragments : Nat) : Call AcquisitionState AcquisitionError Grant :=
  fun state =>
    if fragments > maxFragments then (.error .fragmentOverflow, state)
    else if eligible : state.Eligible arc then
      let replayed := decide (arc ∈ state.claimed)
      let grantedFragments := if replayed = true then 0 else rewardFragments
      match boundedSum fragments grantedFragments with
      | .error failure => (.error failure, state)
      | .ok resultingFragments =>
          (.ok { arcId := arc, replayed, grantedFragments, resultingFragments },
            state.claiming arc eligible)
    else (.error .missingRequirement, state)

/-! ## What one claim does -/

variable {state : AcquisitionState} {arc : ArcId} {fragments : Nat}

/-- An arc claimed before costs and grants nothing. -/
theorem claim_replayed (claimed : arc ∈ state.claimed) (fits : fragments ≤ maxFragments) :
    claim arc fragments state = (.ok ⟨arc, true, 0, fragments⟩, state) := by
  have eligible : state.Eligible arc := state.claimed_eligible arc claimed
  have narrow : fragments ≤ u32Max := fits.trans (by decide)
  have same : state.claiming arc eligible = state := by
    ext other
    · rfl
    · simp [claiming, claimed]
  simp only [claim, Nat.not_lt.mpr fits, if_false, dif_pos eligible, claimed,
    decide_true, if_true, boundedSum, Nat.add_zero, fits, narrow, and_self, same]

theorem claim_fresh (eligible : state.Eligible arc) (unclaimed : arc ∉ state.claimed)
    (fits : fragments + rewardFragments ≤ maxFragments) :
    claim arc fragments state =
      (.ok ⟨arc, false, rewardFragments, fragments + rewardFragments⟩,
        state.claiming arc eligible) := by
  have small : ¬ maxFragments < fragments := by omega
  have narrow : fragments + rewardFragments ≤ u32Max := fits.trans (by decide)
  simp only [claim, gt_iff_lt, small, if_false, dif_pos eligible, unclaimed, decide_false,
    Bool.false_eq_true, boundedSum, fits, narrow, and_self, if_true]

theorem claim_overflow (large : maxFragments < fragments) :
    claim arc fragments state = (.error .fragmentOverflow, state) := by
  simp only [claim, gt_iff_lt, large, if_true]

/-- Otherwise the claim is refused, and the state stays as it was. -/
theorem claim_refused (refused : maxFragments < fragments ∨ ¬ state.Eligible arc ∨
      arc ∉ state.claimed ∧ maxFragments < fragments + rewardFragments) :
    ∃ failure, claim arc fragments state = (.error failure, state) := by
  by_cases large : maxFragments < fragments
  · exact ⟨.fragmentOverflow, claim_overflow large⟩
  · by_cases eligible : state.Eligible arc
    · rcases refused with wide | missing | ⟨unclaimed, wide⟩
      · exact absurd wide large
      · exact absurd eligible missing
      · refine ⟨.fragmentOverflow, ?_⟩
        simp only [claim, gt_iff_lt, large, if_false, dif_pos eligible, unclaimed, decide_false,
          Bool.false_eq_true, boundedSum, Nat.not_le.mpr wide, and_false]
    · exact ⟨.missingRequirement, by
        simp only [claim, gt_iff_lt, large, if_false, dif_neg eligible]⟩

/-- A claim repeats, grants for the first time, or is refused. -/
theorem claim_cases (state : AcquisitionState) (arc : ArcId) (fragments : Nat) :
    (arc ∈ state.claimed ∧ fragments ≤ maxFragments ∧
      claim arc fragments state = (.ok ⟨arc, true, 0, fragments⟩, state)) ∨
    (∃ eligible : state.Eligible arc, arc ∉ state.claimed ∧
      fragments + rewardFragments ≤ maxFragments ∧
      claim arc fragments state = (.ok ⟨arc, false, rewardFragments, fragments + rewardFragments⟩,
        state.claiming arc eligible)) ∨
    ((maxFragments < fragments ∨ ¬ state.Eligible arc ∨
        arc ∉ state.claimed ∧ maxFragments < fragments + rewardFragments) ∧
      ∃ failure, claim arc fragments state = (.error failure, state)) := by
  by_cases refused : maxFragments < fragments ∨ ¬ state.Eligible arc ∨
      arc ∉ state.claimed ∧ maxFragments < fragments + rewardFragments
  · exact Or.inr (Or.inr ⟨refused, claim_refused refused⟩)
  · simp only [not_or, not_lt, not_not, not_and] at refused
    obtain ⟨fits, eligible, room⟩ := refused
    by_cases claimed : arc ∈ state.claimed
    · exact Or.inl ⟨claimed, fits, claim_replayed claimed fits⟩
    · exact Or.inr (Or.inl ⟨eligible, claimed, room claimed,
        claim_fresh eligible claimed (room claimed)⟩)

/-- Restoring reads the rows as sets. -/
theorem new_of_members {milestones : List Replay.Milestone} {claimed : List ArcId}
    (recorded : milestones.toFinset = state.milestones)
    (granted : claimed.toFinset = state.claimed) : new milestones claimed = .ok state := by
  have proven : ∀ arc ∈ claimed.toFinset, ∀ id ∈ arc.requirements, id ∈ milestones.toFinset := by
    rw [recorded, granted]
    exact state.claimed_eligible
  unfold new
  rw [dif_pos proven]
  refine congrArg Except.ok (AcquisitionState.ext recorded granted)

end AcquisitionState

/-! ## Sequences of records and claims -/

inductive Operation where
  | record (milestone : Replay.Milestone)
  | claim (arc : ArcId) (fragments : Nat)
  deriving DecidableEq, Repr

inductive Answer where
  | recorded (first : Bool)
  | granted (grant : Grant)
  deriving DecidableEq, Repr

def perform : Operation → Call AcquisitionState AcquisitionError Answer
  | .record milestone => do
      let first ← AcquisitionState.record milestone
      return .recorded first
  | .claim arc fragments => do
      let grant ← AcquisitionState.claim arc fragments
      return .granted grant

/-- The operations so far with their answers. -/
abbrev History : Type := List (Operation × Except AcquisitionError Answer)

def grantOf : Operation × Except AcquisitionError Answer → Option Grant
  | (_, .ok (.granted grant)) => some grant
  | _ => none

def grants (history : History) : List Grant := history.filterMap grantOf

/-- The grants that credited fragments. -/
def paid (history : History) : List Grant :=
  (grants history).filter (fun grant => grant.grantedFragments ≠ 0)

def Recorded (start : AcquisitionState) (history : History) (milestone : Replay.Milestone) : Prop :=
  milestone ∈ start.milestones ∨ Operation.record milestone ∈ history.map Prod.fst

def Claimed (start : AcquisitionState) (history : History) (arc : ArcId) : Prop :=
  arc ∈ start.claimed ∨ ∃ grant ∈ grants history, grant.arcId = arc

/-- The answer to a claim, told from the history before it. -/
structure LawfulClaim (start : AcquisitionState) (history : History) (arc : ArcId)
    (fragments : Nat) (result : Except AcquisitionError Answer) : Prop where
  /-- Only a first claim credits fragments, two of them, behind all its milestones. -/
  credited : ∀ grant, result = .ok (.granted grant) → grant.grantedFragments ≠ 0 →
    grant = ⟨arc, false, rewardFragments, fragments + rewardFragments⟩ ∧
      fragments + rewardFragments ≤ maxFragments ∧ ¬ Claimed start history arc ∧
      ∀ id ∈ arc.requirements, Recorded start history id
  /-- A first claim that is due and fits is granted, whatever was refused before. -/
  due : (∀ id ∈ arc.requirements, Recorded start history id) → ¬ Claimed start history arc →
    fragments + rewardFragments ≤ maxFragments →
      result = .ok (.granted ⟨arc, false, rewardFragments, fragments + rewardFragments⟩)
  /-- A repeated claim answers with the balance, as long as that is within the bound. -/
  repeated : Claimed start history arc →
    result = if fragments ≤ maxFragments then .ok (.granted ⟨arc, true, 0, fragments⟩)
      else .error .fragmentOverflow

/-- What holds of a history and the state it leads to. -/
structure Accounted (start : AcquisitionState) (history : History) (state : AcquisitionState) :
    Prop where
  milestones : ∀ id, id ∈ state.milestones ↔ Recorded start history id
  claimed : ∀ arc, arc ∈ state.claimed ↔ Claimed start history arc
  once : ((paid history).map Grant.arcId).Nodup
  lawful : ∀ front entry back, history = front ++ entry :: back → ∀ arc fragments,
    entry.1 = .claim arc fragments → LawfulClaim start front arc fragments entry.2

section Steps

variable {start state : AcquisitionState} {history : History} {milestone : Replay.Milestone}
  {arc : ArcId} {fragments : Nat}

theorem perform_claim_of_ok {grant : Grant} {next : AcquisitionState}
    (granted : AcquisitionState.claim arc fragments state = (.ok grant, next)) :
    perform (.claim arc fragments) state = (.ok (.granted grant), next) :=
  Call.bind_of_ok granted

theorem perform_claim_of_error {failure : AcquisitionError} {next : AcquisitionState}
    (refused : AcquisitionState.claim arc fragments state = (.error failure, next)) :
    perform (.claim arc fragments) state = (.error failure, next) :=
  Call.bind_of_error refused

variable {entry : Operation × Except AcquisitionError Answer}

theorem recorded_snoc :
    Recorded start (history ++ [entry]) milestone ↔
      Recorded start history milestone ∨ Operation.record milestone = entry.1 := by
  simp only [Recorded, List.map_append, List.map_cons, List.map_nil, List.mem_append,
    List.mem_singleton, or_assoc]

theorem grants_snoc (entry : Operation × Except AcquisitionError Answer) :
    grants (history ++ [entry]) = grants history ++ (grantOf entry).toList :=
  filterMap_snoc _ _ _

theorem grants_snoc_none (silent : grantOf entry = none) :
    grants (history ++ [entry]) = grants history := by
  rw [grants_snoc, silent, Option.toList_none, List.append_nil]

theorem grants_snoc_some {grant : Grant} (granted : grantOf entry = some grant) :
    grants (history ++ [entry]) = grants history ++ [grant] := by
  rw [grants_snoc, granted, Option.toList_some]

/-- A claim that changes no row leaves the account as it was. -/
theorem Accounted.claim_kept (accounted : Accounted start history state)
    {result : Except AcquisitionError Answer}
    (known : ∀ grant, grantOf (.claim arc fragments, result) = some grant →
      grant.arcId ∈ state.claimed ∧ grant.grantedFragments = 0)
    (law : LawfulClaim start history arc fragments result) :
    Accounted start (history ++ [(.claim arc fragments, result)]) state := by
  have granted : ∀ grant, grant ∈ grants (history ++ [(.claim arc fragments, result)]) ↔
      grant ∈ grants history ∨ grantOf (.claim arc fragments, result) = some grant := by
    intro grant
    rw [grants_snoc, List.mem_append, Option.mem_toList]
  refine ⟨?_, ?_, ?_, ?_⟩
  · intro id
    rw [recorded_snoc, accounted.milestones]
    simp
  · intro other
    rw [accounted.claimed]
    constructor
    · rintro (old | ⟨grant, member, same⟩)
      · exact Or.inl old
      · exact Or.inr ⟨grant, (granted grant).mpr (Or.inl member), same⟩
    · rintro (old | ⟨grant, member, same⟩)
      · exact Or.inl old
      · rcases (granted grant).mp member with before | here
        · exact Or.inr ⟨grant, before, same⟩
        · exact (accounted.claimed other).mp (same ▸ (known grant here).1)
  · have same : paid (history ++ [(.claim arc fragments, result)]) = paid history := by
      unfold paid
      cases found : grantOf (.claim arc fragments, result) with
      | none => rw [grants_snoc_none found]
      | some grant =>
          rw [grants_snoc_some found, List.filter_append,
            List.filter_cons_of_neg (by simp [(known grant found).2]), List.filter_nil,
            List.append_nil]
    rw [same]
    exact accounted.once
  · refine forall_split_snoc (fun front entry _ => ∀ arc fragments,
      entry.1 = .claim arc fragments → LawfulClaim start front arc fragments entry.2) ?_ ?_
    · intro front entry others same
      exact accounted.lawful front entry others same
    · intro _ _ same
      cases same
      exact law

theorem Accounted.record (accounted : Accounted start history state)
    {result : Except AcquisitionError Answer}
    (silent : grantOf (.record milestone, result) = none) :
    Accounted start (history ++ [(.record milestone, result)]) (state.recording milestone) := by
  refine ⟨?_, ?_, ?_, ?_⟩
  · intro id
    rw [recorded_snoc, ← accounted.milestones, AcquisitionState.recording, Finset.mem_insert,
      Operation.record.injEq, or_comm]
  · intro arc
    rw [Claimed, grants_snoc_none silent]
    exact accounted.claimed arc
  · rw [paid, grants_snoc_none silent]
    exact accounted.once
  · refine forall_split_snoc (fun front entry _ => ∀ arc fragments,
      entry.1 = .claim arc fragments → LawfulClaim start front arc fragments entry.2) ?_ ?_
    · intro front entry others same
      exact accounted.lawful front entry others same
    · intro _ _ impossible
      cases impossible

/-- The first grant of an arc. -/
theorem Accounted.grant (accounted : Accounted start history state)
    (eligible : state.Eligible arc) (unclaimed : arc ∉ state.claimed)
    (fits : fragments + rewardFragments ≤ maxFragments) :
    Accounted start
      (history ++ [(.claim arc fragments,
        .ok (.granted ⟨arc, false, rewardFragments, fragments + rewardFragments⟩))])
      (state.claiming arc eligible) := by
  have new : ¬ Claimed start history arc := fun old => unclaimed ((accounted.claimed arc).mpr old)
  have proven : ∀ id ∈ arc.requirements, Recorded start history id :=
    fun id required => (accounted.milestones id).mp (eligible id required)
  refine ⟨?_, ?_, ?_, ?_⟩
  · intro id
    rw [recorded_snoc, ← accounted.milestones]
    simp [AcquisitionState.claiming]
  · intro other
    have listed := accounted.claimed other
    rw [AcquisitionState.claiming, Finset.mem_insert, listed, Claimed, Claimed,
      grants_snoc_some rfl]
    simp only [List.mem_append, List.mem_singleton, or_and_right, exists_or, exists_eq_left]
    rw [@eq_comm _ arc other, or_comm, or_assoc]
  · rw [paid, grants_snoc_some rfl, List.filter_append, List.map_append, List.nodup_append]
    refine ⟨accounted.once, by simp [rewardFragments], ?_⟩
    intro old oldMember other otherMember same
    obtain ⟨grant, listed, rfl⟩ := List.mem_map.mp oldMember
    simp [rewardFragments] at otherMember
    exact new (Or.inr ⟨grant, List.mem_of_mem_filter listed, same.trans otherMember⟩)
  · refine forall_split_snoc (fun front entry _ => ∀ arc fragments,
      entry.1 = .claim arc fragments → LawfulClaim start front arc fragments entry.2) ?_ ?_
    · intro front entry others same
      exact accounted.lawful front entry others same
    · intro _ _ same
      cases same
      refine ⟨?_, ?_, ?_⟩
      · intro grant same _
        cases same
        exact ⟨rfl, fits, new, proven⟩
      · intro _ _ _
        rfl
      · intro old
        exact absurd old new

/-- One operation keeps the account. -/
theorem Accounted.step (accounted : Accounted start history state) (operation : Operation) :
    Accounted start (history ++ [(operation, (perform operation state).1)])
      (perform operation state).2 := by
  cases operation with
  | record milestone => exact accounted.record rfl
  | claim arc fragments =>
      rcases AcquisitionState.claim_cases state arc fragments with
        ⟨claimed, fits, granted⟩ | ⟨eligible, unclaimed, fits, granted⟩ | ⟨cause, failure, refused⟩
      · have old := (accounted.claimed arc).mp claimed
        rw [perform_claim_of_ok granted]
        apply accounted.claim_kept
        · intro grant same
          cases same
          exact ⟨claimed, rfl⟩
        · refine ⟨?_, fun _ new => absurd old new, fun _ => by rw [if_pos fits]⟩
          intro grant same credited
          cases same
          exact absurd rfl credited
      · rw [perform_claim_of_ok granted]
        exact accounted.grant eligible unclaimed fits
      · rw [perform_claim_of_error refused]
        apply accounted.claim_kept
        · intro grant impossible
          cases impossible
        · refine ⟨?_, ?_, ?_⟩
          · intro grant impossible
            cases impossible
          · intro proven new fits
            have eligible : state.Eligible arc :=
              fun id required => (accounted.milestones id).mpr (proven id required)
            rcases cause with large | missing | ⟨_, large⟩
            · omega
            · exact absurd eligible missing
            · omega
          · intro old
            -- an arc claimed before is refused for its balance only
            have claimed := (accounted.claimed arc).mpr old
            rcases cause with large | missing | ⟨unclaimed, _⟩
            · rw [AcquisitionState.claim_overflow large] at refused
              cases refused
              rw [if_neg (Nat.not_le.mpr large)]
            · exact absurd (state.claimed_eligible arc claimed) missing
            · exact absurd claimed unclaimed

end Steps

/-- The law of the grants over a run. -/
theorem accounted_run (start : AcquisitionState) (operations : List Operation) :
    Accounted start (Call.log perform operations start) (Call.final perform operations start) := by
  apply Call.log_keeps (Accounted start)
  · refine ⟨?_, ?_, List.nodup_nil, ?_⟩
    · intro id
      simp [Recorded]
    · intro arc
      simp [Claimed, grants]
    · intro front entry back impossible
      simp at impossible
  · intro history operation state accounted
    exact accounted.step operation

/-- A status reads the history. -/
theorem Accounted.status {start state : AcquisitionState} {history : History}
    (accounted : Accounted start history state) (arc : ArcId) :
    (state.status arc = .claimed ↔ Claimed start history arc) ∧
      (state.status arc = .ready ↔ ¬ Claimed start history arc ∧
        ∀ id ∈ arc.requirements, Recorded start history id) := by
  have eligible : state.Eligible arc ↔ ∀ id ∈ arc.requirements, Recorded start history id :=
    forall_congr' fun id => imp_congr Iff.rfl (accounted.milestones id)
  rw [← accounted.claimed, ← eligible, AcquisitionState.status]
  by_cases claimed : arc ∈ state.claimed
  · rw [if_pos claimed]
    exact ⟨⟨fun _ => claimed, fun _ => rfl⟩, nofun, fun ready => absurd claimed ready.1⟩
  · rw [if_neg claimed]
    by_cases ready : state.Eligible arc
    · rw [if_pos ready]
      exact ⟨⟨nofun, fun known => absurd known claimed⟩, fun _ => ⟨claimed, ready⟩, fun _ => rfl⟩
    · rw [if_neg ready]
      exact ⟨⟨nofun, fun known => absurd known claimed⟩, nofun, fun due => absurd due.2 ready⟩

/-- An operation that fails writes nothing. -/
theorem perform_of_error {operation : Operation} {state : AcquisitionState}
    {failure : AcquisitionError} (failed : (perform operation state).1 = .error failure) :
    (perform operation state).2 = state := by
  cases operation with
  | record milestone => cases failed
  | claim arc fragments =>
      rcases AcquisitionState.claim_cases state arc fragments with
        ⟨_, _, granted⟩ | ⟨_, _, _, granted⟩ | ⟨_, other, refused⟩
      · rw [perform_claim_of_ok granted]
      · rw [perform_claim_of_ok granted] at failed
        cases failed
      · rw [perform_claim_of_error refused]

end Acquisition
end Revenant
