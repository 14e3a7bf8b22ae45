import Revenant.Challenges.Transition
import Revenant.Library.Chain

namespace Revenant
namespace Challenges

open Library

/-!
# No accepted history wedges a save

The final validation of `apply` looks at the whole save, so it could refuse a
command whose own guards passed and leave the save stuck for good.  It never
does: a step from a valid save ends in a valid one.  The only exception is a
time that the caller reports beyond the largest recordable value.
-/

/-! ## Objective bits -/

/-- What every objective bit of a contract satisfies. -/
structure BitOf (contract : ContractId) (objective : Objective) (bit : BitVec 8) : Prop where
  single : bit ∈ ([1, 2, 4, 8] : List (BitVec 8))
  inside : bit &&& ~~~ contract.completeMask = 0
  early : contract.ordered = true → bit ≠ 8
  last : bit = 8 → objective = .returned

variable {objective : Objective} {bit : BitVec 8}

theorem bitOf_of_bit {contract : ContractId} (known : objective.bit contract = some bit) :
    BitOf contract objective bit := by
  cases contract <;> cases objective <;> cases known <;>
    exact ⟨by decide, by decide, by decide, by decide⟩

theorem bitOf_of_known {rules : Rules} (known : rules.objectiveBit objective = some bit) :
    BitOf rules.contract objective bit := by
  unfold Rules.objectiveBit at known
  split at known
  · next swapped =>
      rw [swapped.1] at known ⊢
      cases objective <;> cases known <;> exact ⟨by decide, by decide, by decide, by decide⟩
  · exact bitOf_of_bit known

/-- An objective bit is the power of two at its place. -/
theorem exists_place (single : bit ∈ ([1, 2, 4, 8] : List (BitVec 8))) :
    ∃ place < 4, bit = BitVec.twoPow 8 place := by
  simp only [List.mem_cons, List.not_mem_nil, or_false] at single
  rcases single with rfl | rfl | rfl | rfl
  · exact ⟨0, by decide, by decide⟩
  · exact ⟨1, by decide, by decide⟩
  · exact ⟨2, by decide, by decide⟩
  · exact ⟨3, by decide, by decide⟩

theorem and_twoPow_ne_zero {place : Nat} (bound : place < 8) (objectives : BitVec 8) :
    objectives &&& BitVec.twoPow 8 place ≠ 0 ↔ objectives.getLsbD place = true := by
  have apart : BitVec.twoPow 8 place ≠ 0 := by
    intro zero
    have bitZero := congrArg (fun value : BitVec 8 => value.getLsbD place) zero
    simp [bound] at bitZero
  rw [BitVec.and_twoPow]
  split
  · next present => exact iff_of_true apart present
  · next absent => exact iff_of_false (fun other => other rfl) absent

/-- A predicate that holds at one more place counts at most one more. -/
theorem countP_or_le {places : List Nat} (distinct : places.Nodup) (confirmed : Nat → Bool)
    (place : Nat) :
    places.countP (fun index => confirmed index || decide (place = index)) ≤
      places.countP confirmed + 1 := by
  induction places with
  | nil => exact Nat.zero_le _
  | cons first rest inductionHypothesis =>
      obtain ⟨apart, distinctRest⟩ := List.nodup_cons.mp distinct
      simp only [List.countP_cons]
      by_cases here : place = first
      · have unchanged : rest.countP (fun index => confirmed index || decide (place = index)) =
            rest.countP confirmed := by
          apply List.countP_congr
          intro index member
          have other : place ≠ index := fun same => apart (here ▸ same ▸ member)
          simp [other]
        rw [unchanged]
        split <;> split <;> omega
      · have known := inductionHypothesis distinctRest
        simp only [here, decide_false, Bool.or_false]
        omega

theorem countOnes_or_le (single : bit ∈ ([1, 2, 4, 8] : List (BitVec 8))) (objectives : BitVec 8) :
    countOnes (objectives ||| bit) ≤ countOnes objectives + 1 := by
  obtain ⟨place, bound, rfl⟩ := exists_place single
  have inside : place < 8 := by omega
  unfold countOnes
  simp only [BitVec.getLsbD_or, BitVec.getLsbD_twoPow, inside, decide_true, Bool.true_and]
  exact countP_or_le List.nodup_range _ place

variable {objectives : BitVec 8}

theorem or_inside {mask : BitVec 8} (known : objectives &&& ~~~ mask = 0)
    (inside : bit &&& ~~~ mask = 0) : (objectives ||| bit) &&& ~~~ mask = 0 := by
  rw [BitVec.and_or_distrib_right, known, inside]
  rfl

/-- An ordered contract confirms its objectives from the lowest bit on. -/
theorem or_inOrder (single : bit ∈ ([1, 2, 4, 8] : List (BitVec 8))) (early : bit ≠ 8)
    (next : objectives = bit - 1) : objectives ||| bit ∈ ([0, 1, 3, 7] : List (BitVec 8)) := by
  subst next
  simp only [List.mem_cons, List.not_mem_nil, or_false] at single
  rcases single with rfl | rfl | rfl | rfl
  · decide
  · decide
  · decide
  · exact absurd rfl early

theorem or_eight (single : bit ∈ ([1, 2, 4, 8] : List (BitVec 8))) (early : bit ≠ 8)
    (open' : objectives &&& 8 = 0) : (objectives ||| bit) &&& 8 = 0 := by
  have apart : bit &&& 8 = 0 := by
    simp only [List.mem_cons, List.not_mem_nil, or_false] at single
    rcases single with rfl | rfl | rfl | rfl
    · decide
    · decide
    · decide
    · exact absurd rfl early
  rw [BitVec.and_or_distrib_right, open', apart]
  rfl

/-! ## One run -/

/-- A run that was just started. -/
theorem ChallengeRun.valid_started {revision : Nat} {contract : ContractId} {preset : Preset}
    {rules : Rules} {equipment : Equipment} (positive : 0 < revision)
    (published : contract.rulesWithPreset preset = .ok rules)
    (admitted : equipment.Admitted contract) :
    ChallengeRun.Valid { runId := revision, rules, equipment, objectives := 0, elapsedMs := none }
      revision false := by
  obtain ⟨same, -, -⟩ := rulesWithPreset_ok published
  constructor
  · exact positive
  · exact le_refl _
  · exact (by decide : countOnes 0 = 0).trans_le (Nat.zero_le _)
  · exact published_of_ok published
  · exact BitVec.zero_and
  · intro elapsed impossible
    cases impossible
  · rfl
  · simp only [ChallengeRun.mask]
    cases rules.contract <;> decide
  · intro _
    exact List.mem_cons_self
  · intro _ _
    exact BitVec.zero_and
  · exact same ▸ admitted

variable {run : ChallengeRun}

/-- A confirmation keeps a run valid.  The time it reports is the one thing
that its branch does not bound. -/
theorem ChallengeRun.Valid.confirmed {revision : Nat} {elapsedMs : Option Nat}
    (valid : run.Valid revision false) (confirms : Confirms run objective bit elapsedMs)
    (recordable : ∀ elapsed ∈ elapsedMs, elapsed ≤ maxRevision) :
    (run.confirmed bit elapsedMs).Valid (revision + 1) (run.completes bit) := by
  have facts := bitOf_of_known confirms.known
  have allowed := confirms.allowed
  unfold ChallengeRun.refuses at allowed
  push Not at allowed
  obtain ⟨-, returnedLast, nextInOrder⟩ := allowed
  have one := countOnes_or_le facts.single run.objectives
  have past := valid.past
  have spaced := valid.spaced
  constructor
  · exact valid.started
  · exact Nat.le_succ_of_le past
  · change countOnes (run.objectives ||| bit) ≤ revision + 1 - run.runId
    omega
  · exact valid.published
  · exact or_inside valid.known facts.inside
  · exact recordable
  · exact confirms.timed
  · rfl
  · intro ordered
    exact or_inOrder facts.single (facts.early ordered) (nextInOrder ordered)
  · intro meridian open'
    by_cases last : bit = 8
    · -- The return is confirmed last, so it would have completed the circuit.
      have others := returnedLast (facts.last last)
      have contract : run.rules.contract = .meridianCircuit := meridian
      simp only [ChallengeRun.completes, ChallengeRun.mask, others, last, contract] at open'
      exact absurd open' (by decide)
    · exact or_eight facts.single last (valid.returnLast meridian rfl)
  · exact valid.admitted

/-- An open run ends incomplete whatever the reason. -/
theorem EndReason.incomplete (reason : EndReason) : (reason.outcome == .completed) = false := by
  cases reason <;> rfl

/-! ## The records -/

variable {records : List ChallengeRun}

theorem updateRecord_none_iff :
    updateRecord run records = none ↔ ∀ record ∈ records, record.rules ≠ run.rules := by
  induction records with
  | nil => simp [updateRecord]
  | cons record rest inductionHypothesis =>
      simp only [updateRecord, List.mem_cons, forall_eq_or_imp]
      split
      · next same => simp [same]
      · next other => simp [other, inductionHypothesis]

variable {updated : List ChallengeRun}

/-- The record that stands for the run's rules after an update. -/
theorem mem_updateRecord (found : updateRecord run records = some updated) {record : ChallengeRun}
    (member : record ∈ updated) : record = run ∨ record ∈ records := by
  induction records generalizing updated with
  | nil => cases found
  | cons first rest inductionHypothesis =>
      simp only [updateRecord] at found
      split at found
      · cases found
        rcases List.mem_cons.mp member with rfl | old
        · split
          · exact Or.inl rfl
          · exact Or.inr List.mem_cons_self
        · exact Or.inr (List.mem_cons_of_mem _ old)
      · obtain ⟨tail, foundRest, rfl⟩ := Option.map_eq_some_iff.mp found
        rcases List.mem_cons.mp member with rfl | old
        · exact Or.inr List.mem_cons_self
        · exact (inductionHypothesis foundRest old).imp id (List.mem_cons_of_mem _)

/-- An update keeps the list of recorded rules. -/
theorem rules_updateRecord (found : updateRecord run records = some updated) :
    updated.map (·.rules) = records.map (·.rules) := by
  induction records generalizing updated with
  | nil => cases found
  | cons first rest inductionHypothesis =>
      simp only [updateRecord] at found
      split at found
      · next same =>
          cases found
          rw [List.map_cons, List.map_cons]
          congr 1
          split
          · exact same.symm
          · rfl
      · obtain ⟨tail, foundRest, rfl⟩ := Option.map_eq_some_iff.mp found
        rw [List.map_cons, List.map_cons, inductionHypothesis foundRest]

theorem exists_of_updateRecord (found : updateRecord run records = some updated) :
    ∃ record ∈ updated, record.rules = run.rules := by
  have present : ∃ record ∈ records, record.rules = run.rules := by
    by_contra absent
    push Not at absent
    rw [updateRecord_none_iff.mpr absent] at found
    cases found
  obtain ⟨record, member, same⟩ := present
  have listed : run.rules ∈ updated.map (·.rules) := by
    rw [rules_updateRecord found, ← same]
    exact List.mem_map_of_mem member
  obtain ⟨other, otherMember, otherSame⟩ := List.mem_map.mp listed
  exact ⟨other, otherMember, otherSame⟩

/-- A later run may take the place of one record of its rules. -/
theorem distinct_updateRecord (found : updateRecord run records = some updated)
    (distinct : records.Pairwise ChallengeState.Distinct)
    (later : ∀ record ∈ records, record.runId ≠ run.runId) :
    updated.Pairwise ChallengeState.Distinct := by
  induction records generalizing updated with
  | nil => cases found
  | cons first rest inductionHypothesis =>
      rw [List.pairwise_cons] at distinct
      simp only [updateRecord] at found
      split at found
      · next same =>
          cases found
          refine List.pairwise_cons.mpr ⟨?_, distinct.2⟩
          intro old member
          have apart := distinct.1 old member
          split
          · exact ⟨same ▸ apart.1, (later old (List.mem_cons_of_mem _ member)).symm⟩
          · exact apart
      · next other =>
          obtain ⟨tail, foundRest, rfl⟩ := Option.map_eq_some_iff.mp found
          refine List.pairwise_cons.mpr ⟨?_, inductionHypothesis foundRest distinct.2
            (fun record member => later record (List.mem_cons_of_mem _ member))⟩
          intro old member
          rcases mem_updateRecord foundRest member with rfl | present
          · exact ⟨other, later first List.mem_cons_self⟩
          · exact distinct.1 old present

/-- The records after a completed run, in one statement for both cases. -/
theorem mem_completeRecords {record : ChallengeRun}
    (member : record ∈ (completeRecords run records).1) : record = run ∨ record ∈ records := by
  unfold completeRecords at member
  split at member
  · next found => exact mem_updateRecord found member
  · rcases List.mem_append.mp member with old | new
    · exact Or.inr old
    · exact Or.inl (List.mem_singleton.mp new)

theorem exists_completeRecords (run : ChallengeRun) (records : List ChallengeRun) :
    ∃ record ∈ (completeRecords run records).1, record.rules = run.rules := by
  unfold completeRecords
  split
  · next found => exact exists_of_updateRecord found
  · exact ⟨run, List.mem_append_right _ List.mem_cons_self, rfl⟩

theorem distinct_completeRecords (distinct : records.Pairwise ChallengeState.Distinct)
    (later : ∀ record ∈ records, record.runId ≠ run.runId) :
    (completeRecords run records).1.Pairwise ChallengeState.Distinct := by
  unfold completeRecords
  split
  · next found => exact distinct_updateRecord found distinct later
  · next absent =>
      rw [updateRecord_none_iff] at absent
      refine List.pairwise_append.mpr ⟨distinct, List.pairwise_singleton _ _, ?_⟩
      intro old member new same
      rw [List.mem_singleton.mp same]
      exact ⟨absent old member, later old member⟩

/-! ## The save -/

namespace ChallengeState

/-- A record stays valid when the save moves on and its last result is later. -/
theorem RecordValid.later {before after : ChallengeState} {record : ChallengeRun}
    (valid : before.RecordValid record) (grown : before.revision ≤ after.revision)
    (beforeActive : ∀ active ∈ after.active, record.runId < active.runId)
    (ended : ∃ result ∈ after.lastResult, record.runId < result.run.runId) :
    after.RecordValid record := by
  obtain ⟨result, last, less⟩ := ended
  refine ⟨valid.run.mono grown, beforeActive, ⟨result, last, le_of_lt less⟩, ?_⟩
  intro other present same
  rw [Option.mem_def] at last present
  rw [last] at present
  cases present
  exact absurd same (Nat.ne_of_gt less)

/-- The last result did not change and the run that is active is newer. -/
theorem RecordValid.keep {before after : ChallengeState} {record : ChallengeRun}
    (valid : before.RecordValid record) (grown : before.revision ≤ after.revision)
    (beforeActive : ∀ active ∈ after.active, record.runId < active.runId)
    (unchanged : after.lastResult = before.lastResult) : after.RecordValid record :=
  ⟨valid.run.mono grown, beforeActive, unchanged ▸ valid.ended, unchanged ▸ valid.same⟩

variable {state : ChallengeState}

/-- Starting a run in an idle clone whose runs are all older. -/
theorem Valid.withRun {contract : ContractId} {preset : Preset} {rules : Rules}
    {equipment : Equipment} (valid : state.Valid) (room : state.revision < maxRevision)
    (admitted : equipment.Admitted contract)
    (published : contract.rulesWithPreset preset = .ok rules) :
    (state.advanced.withRun rules equipment).Valid := by
  have grown : state.revision ≤ state.advanced.revision := Nat.le_succ _
  constructor
  · exact room
  · exact valid.bounded
  · intro _
    exact Or.inl (Option.some_ne_none _)
  · intro run present
    cases present
    exact ChallengeRun.valid_started (Nat.succ_pos _) published admitted
  · intro result last
    exact (valid.result result last).mono grown
  · intro result last active present
    cases present
    exact Nat.lt_succ_of_le (valid.result result last).past
  · exact valid.recorded
  · intro record member
    have old := valid.records record member
    refine old.keep grown ?_ rfl
    intro active present
    cases present
    exact Nat.lt_succ_of_le old.run.past
  · exact valid.distinct

variable {run : ChallengeRun}

/-- Ending the active run without completing it. -/
theorem Valid.withResult {outcome : Outcome} (valid : state.Valid)
    (active : state.active = some run) (incomplete : (outcome == .completed) = false)
    (revision : Nat) (grown : state.revision ≤ revision) (bounded : revision ≤ maxRevision) :
    ({ state with revision }.withResult run outcome).Valid := by
  have present : run ∈ state.active := active
  constructor
  · exact bounded
  · exact valid.bounded
  · intro _
    exact Or.inr (Option.some_ne_none _)
  · intro other impossible
    cases impossible
  · intro result last
    cases last
    exact incomplete.symm ▸ (valid.active run present).mono grown
  · intro result _ other impossible
    cases impossible
  · intro result last completed
    cases last
    cases completed
    cases incomplete
  · intro record member
    have old := valid.records record member
    refine old.later grown ?_ ⟨_, rfl, old.beforeActive run present⟩
    intro other impossible
    cases impossible
  · exact valid.distinct

/-- Confirming an objective that leaves the run open. -/
theorem Valid.withConfirmed {objective : Objective} {bit : BitVec 8} {elapsedMs : Option Nat}
    (valid : state.Valid) (room : state.revision < maxRevision) (active : state.active = some run)
    (confirms : Confirms run objective bit elapsedMs) (open' : run.completes bit = false)
    (recordable : ∀ elapsed ∈ elapsedMs, elapsed ≤ maxRevision) :
    ChallengeState.Valid
      { state.advanced with active := some (run.confirmed bit elapsedMs) } := by
  have present : run ∈ state.active := active
  have grown : state.revision ≤ state.advanced.revision := Nat.le_succ _
  constructor
  · exact room
  · exact valid.bounded
  · intro _
    exact Or.inl (Option.some_ne_none _)
  · intro other same
    cases same
    exact open' ▸ (valid.active run present).confirmed confirms recordable
  · intro result last
    exact (valid.result result last).mono grown
  · intro result last other same
    cases same
    exact valid.resultBeforeActive result last run present
  · exact valid.recorded
  · intro record member
    have old := valid.records record member
    refine old.keep grown ?_ rfl
    intro other same
    cases same
    exact old.beforeActive run present
  · exact valid.distinct

/-- Confirming the last objective: the run ends and updates the records. -/
theorem Valid.withCompleted {objective : Objective} {bit : BitVec 8} {elapsedMs : Option Nat}
    (valid : state.Valid) (room : state.revision < maxRevision) (active : state.active = some run)
    (confirms : Confirms run objective bit elapsedMs) (full : run.completes bit = true)
    (recordable : ∀ elapsed ∈ elapsedMs, elapsed ≤ maxRevision) :
    ({ state.advanced with
      records := (completeRecords (run.confirmed bit elapsedMs) state.records).1
      }.withResult (run.confirmed bit elapsedMs) .completed).Valid := by
  have present : run ∈ state.active := active
  have grown : state.revision ≤ state.advanced.revision := Nat.le_succ _
  have finished : (run.confirmed bit elapsedMs).Valid (state.revision + 1) true :=
    full ▸ (valid.active run present).confirmed confirms recordable
  have older : ∀ record ∈ state.records, record.runId < run.runId :=
    fun record member => (valid.records record member).beforeActive run present
  have distinct := distinct_completeRecords valid.distinct
    (fun record member => (Nat.ne_of_lt (older record member)) :
      ∀ record ∈ state.records, record.runId ≠ (run.confirmed bit elapsedMs).runId)
  have recordRun : ∀ record ∈ (completeRecords (run.confirmed bit elapsedMs) state.records).1,
      record.Valid (state.revision + 1) true := by
    intro record member
    rcases mem_completeRecords member with rfl | old
    · exact finished
    · exact (valid.records record old).run.mono grown
  constructor
  · exact room
  · exact length_le_of_distinct distinct (fun record member => (recordRun record member).published)
  · intro _
    exact Or.inr (Option.some_ne_none _)
  · intro other impossible
    cases impossible
  · intro result last
    cases last
    exact finished
  · intro result _ other impossible
    cases impossible
  · intro result last _
    cases last
    exact exists_completeRecords _ _
  · intro record member
    rcases mem_completeRecords member with rfl | old
    · refine ⟨finished, ?_, ⟨_, rfl, le_refl _⟩, ?_⟩
      · intro other impossible
        cases impossible
      · intro result last _
        cases last
        rfl
    · refine (valid.records record old).later grown ?_ ⟨_, rfl, older record old⟩
      intro other impossible
      cases impossible
  · exact distinct

end ChallengeState

/-- The caller reports a time that a record can hold. -/
def Command.Recordable (command : Command) : Prop :=
  ∀ runId objective elapsedMs, command = .confirmTimed runId objective elapsedMs →
    elapsedMs ≤ maxRevision

theorem Command.Recordable.bound {command : Command} (recordable : command.Recordable) {runId : Nat}
    {elapsedMs : Option Nat} (asked : command.confirmation = some (runId, objective, elapsedMs)) :
    ∀ elapsed ∈ elapsedMs, elapsed ≤ maxRevision := by
  intro elapsed reported
  cases command with
  | confirm runId objective =>
      cases asked
      cases reported
  | confirmTimed runId objective time =>
      cases asked
      cases reported
      exact recordable _ _ _ rfl
  | start | startModified | retry | endRun => cases asked

variable {state : ChallengeState}

/-- A step from a valid save ends in a valid one. -/
theorem step_valid {policy : Policy} {command : Command} {transition : Transition}
    (valid : state.Valid) (room : state.revision < maxRevision) (recordable : command.Recordable)
    (step : Step policy state.advanced command transition) : transition.state.Valid := by
  cases step with
  | start available idle admitted published => exact valid.withRun room admitted published
  | startModified latest modified idle admitted published =>
      exact valid.withRun room admitted published
  | retryActive active admitted published =>
      have ended : (state.withResult _ .interrupted).Valid :=
        valid.withResult active rfl state.revision (le_refl _) valid.revision
      exact ended.withRun room admitted published
  | retryEnded idle last admitted published => exact valid.withRun room admitted published
  | confirm active asked confirms open' =>
      exact valid.withConfirmed room active confirms open' (recordable.bound asked)
  | complete active asked confirms full =>
      exact valid.withCompleted room active confirms full (recordable.bound asked)
  | endRun active =>
      exact valid.withResult active (EndReason.incomplete _) (state.revision + 1) (Nat.le_succ _) room

/-! ## Histories -/

/-- One accepted command with the saves around it. -/
structure Entry where
  policy : Policy
  command : Command
  before : ChallengeState
  after : ChallengeState
  firstCompletion : Option ContractId
  deriving DecidableEq, Repr

/-- The entry is what `apply` answers at the save's own revision. -/
def Entry.Accepted (entry : Entry) : Prop :=
  apply entry.policy entry.before entry.before.revision entry.command =
    .ok ⟨entry.after, entry.firstCompletion⟩

/-- A history of accepted commands of one character, under any mix of policies. -/
structure History (entries : List Entry) (state : ChallengeState) : Prop where
  chain : Chain Entry.before Entry.after .default entries state
  accepted : ∀ entry ∈ entries, entry.Accepted

/-- What holds of the empty history and survives one more command holds of all. -/
theorem History.induct {motive : List Entry → ChallengeState → Prop} (empty : motive [] .default)
    (grow : ∀ entries entry, History entries entry.before → entry.Accepted →
      motive entries entry.before → motive (entries ++ [entry]) entry.after) {entries : List Entry}
    (history : History entries state) : motive entries state :=
  history.chain.snocInduction empty
    (fun old entry chain accepted earlier holds => grow old entry ⟨chain, earlier⟩ accepted holds)
    history.accepted

theorem History.valid {entries : List Entry} (history : History entries state) : state.Valid := by
  apply History.induct (motive := fun _ state => state.Valid) _ _ history
  · exact ChallengeState.default_valid
  · intro _ entry _ accepted _
    exact (apply_iff.mp accepted).2.2

/-- Every reachable save is valid and bounded, and whatever passes the guards of
its branch is accepted with that result. -/
theorem no_wedge {entries : List Entry} {state : ChallengeState} (history : History entries state) :
    state.validate = .ok () ∧ state.records.length ≤ 16 ∧
      ∀ policy expectedRevision command transition,
        attempt policy state expectedRevision command = .ok transition →
        (apply policy state expectedRevision command = .ok transition ↔
          ∀ runId objective elapsedMs, command = .confirmTimed runId objective elapsedMs →
            elapsedMs ≤ maxRevision) := by
  have valid := history.valid
  refine ⟨ChallengeState.validate_iff.mpr valid, valid.bounded, ?_⟩
  intro policy expectedRevision command transition attempted
  obtain ⟨ready, step⟩ := attempt_iff.mp attempted
  constructor
  · intro accepted runId objective elapsedMs asked
    -- The completed run carries the reported time, and the save was validated.
    subst asked
    have validated := (apply_iff.mp accepted).2.2
    cases step with
    | confirm active asked confirms open' =>
        cases asked
        exact (validated.active _ rfl).bounded _ rfl
    | complete active asked confirms full =>
        cases asked
        exact (validated.result _ rfl).bounded _ rfl
  · intro recordable
    exact apply_iff.mpr ⟨ready, step, step_valid valid ready.room recordable step⟩

/-! ## One contract cleared -/

/-- A pulse rifle without modules. -/
def plainEquipment : Equipment :=
  { loadoutRevision := 1, catalogRevision := CatalogRevision.m35v2.text, weaponId := "pulse_rifle"
    modules := [] }

/-- A run of the contract with a single objective, as its start leaves it. -/
def plainRun : ChallengeRun :=
  { runId := 1, rules := ContractId.prismDiscipline.rules, equipment := plainEquipment
    objectives := 0, elapsedMs := none }

def startedSave : ChallengeState :=
  { revision := 1, active := some plainRun, lastResult := none, records := [] }

def clearedSave : ChallengeState :=
  { revision := 2, active := none
    lastResult := some { run := { plainRun with objectives := 1 }, outcome := .completed }
    records := [{ plainRun with objectives := 1 }] }

def clearedEntries : List Entry :=
  [{ policy := .prism, command := .start .prismDiscipline plainEquipment, before := .default
     after := startedSave, firstCompletion := none },
   { policy := .modifier, command := .confirm 1 .prismCleared, before := startedSave
     after := clearedSave, firstCompletion := some .prismDiscipline }]

theorem cleared_history : History clearedEntries clearedSave := by
  constructor
  · exact Chain.cons_iff.mpr ⟨rfl, Chain.cons_iff.mpr ⟨rfl, Chain.nil _⟩⟩
  · intro entry member
    simp only [clearedEntries, List.mem_cons, List.not_mem_nil, or_false] at member
    rcases member with rfl | rfl
    · unfold Entry.Accepted
      rfl
    · unfold Entry.Accepted
      rfl

/-- The cleared save can be retried. -/
theorem no_wedge_cleared : clearedSave.validate = .ok () ∧ clearedSave.records.length ≤ 16 ∧
    apply .modifier clearedSave 2 (.retry 1 plainEquipment) =
      .ok ⟨{ clearedSave with revision := 3, active := some { plainRun with runId := 3 } }, none⟩ := by
  obtain ⟨valid, bounded, guarded⟩ := no_wedge cleared_history
  refine ⟨valid, bounded, (guarded _ _ _ _ rfl).mpr ?_⟩
  intro runId objective elapsedMs impossible
  cases impossible

end Challenges
end Revenant
