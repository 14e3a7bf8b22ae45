import Revenant.Challenges.Objectives

namespace Revenant
namespace Challenges

open Library

/-!
# Completions

What the journal of a character shows about every run it ever started: which
objectives the run confirmed, when that completed it, and what the records keep
of the completed runs.

A record is read off the completed runs of its identity in the order of their
completion.  Runs that were retried or abandoned leave the records alone, and
their numbers are never used again.
-/

/-! ## Completed runs -/

variable {entries : List Entry} {state : ChallengeState}

theorem History.completedRuns_past (history : History entries state) :
    (∀ done ∈ completedRuns entries, done.runId ≤ state.revision) ∧
      ∀ done ∈ completedRuns entries, ∀ active ∈ state.active, done.runId < active.runId := by
  apply History.induct (motive := fun entries state =>
    (∀ done ∈ completedRuns entries, done.runId ≤ state.revision) ∧
      ∀ done ∈ completedRuns entries, ∀ active ∈ state.active, done.runId < active.runId) _ _ history
  · constructor
    · intro done member
      cases member
    · intro done member
      cases member
  · intro entries entry earlier accepted inductionHypothesis
    have past := inductionHypothesis.1
    have before := inductionHypothesis.2
    rw [completedRuns_snoc, accepted.revision]
    cases accepted.effect with
    | begins run _ _ completed _ fresh _ active =>
        rw [completed, active, Option.toList_none, List.append_nil]
        constructor
        · intro done member
          exact Nat.le_succ_of_le (past done member)
        · intro done member other same
          cases same
          rw [fresh]
          exact Nat.lt_succ_of_le (past done member)
    | confirms run _ _ _ _ completed _ running _ _ _ active =>
        rw [completed, active, Option.toList_none, List.append_nil]
        constructor
        · intro done member
          exact Nat.le_succ_of_le (past done member)
        · intro done member other same
          cases same
          exact before done member run running
    | ends _ _ completed _ active =>
        rw [completed, active, Option.toList_none, List.append_nil]
        constructor
        · intro done member
          exact Nat.le_succ_of_le (past done member)
        · intro done member other impossible
          cases impossible
    | completes run _ bit elapsedMs _ _ completed _ running _ _ _ _ active =>
        rw [completed, active]
        constructor
        · intro done member
          rcases List.mem_append.mp member with old | new
          · exact Nat.le_succ_of_le (past done old)
          · rw [List.mem_singleton.mp new]
            exact Nat.le_succ_of_le (earlier.valid.active run running).past
        · intro done member other impossible
          cases impossible

theorem History.completedRuns_increasing (history : History entries state) :
    (completedRuns entries).Pairwise (fun first second => first.runId < second.runId) := by
  apply History.induct (motive := fun entries _ =>
    (completedRuns entries).Pairwise (fun first second => first.runId < second.runId)) _ _ history
  · exact List.Pairwise.nil
  · intro entries entry earlier accepted inductionHypothesis
    rw [completedRuns_snoc]
    cases accepted.effect with
    | begins _ _ _ completed | confirms _ _ _ _ _ completed | ends _ _ completed =>
        rw [completed, Option.toList_none, List.append_nil]
        exact inductionHypothesis
    | completes run _ bit elapsedMs _ _ completed _ running =>
        rw [completed]
        refine List.pairwise_append.mpr ⟨inductionHypothesis, List.pairwise_singleton _ _, ?_⟩
        intro old member new added
        rw [List.mem_singleton.mp added]
        exact earlier.completedRuns_past.2 old member run running

/-! ## The course of one run -/

/-- Nothing is confirmed for a run that is yet to be started. -/
theorem History.confirmedFor_future (history : History entries state) :
    ∀ runId, state.revision < runId → confirmedFor runId entries = [] := by
  apply History.induct (motive := fun entries state =>
    ∀ runId, state.revision < runId → confirmedFor runId entries = []) _ _ history
  · intro runId _
    rfl
  · intro entries entry earlier accepted inductionHypothesis runId later
    rw [accepted.revision] at later
    have old := inductionHypothesis runId (Nat.lt_of_succ_lt later)
    cases accepted.effect with
    | begins _ _ confirmed | ends _ confirmed =>
        rw [confirmedFor_snoc_none confirmed]
        exact old
    | confirms run _ _ _ confirmed _ _ running | completes run _ _ _ _ confirmed _ _ running =>
        have past := (earlier.valid.active run running).past
        rw [confirmedFor_snoc_other confirmed (by omega)]
        exact old

/-- A run was completed. -/
def Completes (entries : List Entry) (runId : Nat) : Prop :=
  ∃ done ∈ completedRuns entries, done.runId = runId

theorem completes_snoc {entry : Entry} {runId : Nat} :
    Completes (entries ++ [entry]) runId ↔
      Completes entries runId ∨ ∃ done ∈ entry.completed, done.runId = runId := by
  unfold Completes
  rw [completedRuns_snoc]
  simp only [List.mem_append, Option.mem_toList, Option.mem_def, or_and_right, exists_or]

/-- A run on its way: the journal's confirmations, and the save when the run is
the active one. -/
structure Course (entries : List Entry) (state : ChallengeState) (run : ChallengeRun)
    (objectives : BitVec 8) : Prop where
  tracks : Tracks run.rules (confirmedFor run.runId entries) objectives
  complete : Completes entries run.runId ↔ objectives = run.rules.contract.completeMask
  active : ∀ active ∈ state.active, active.runId = run.runId →
    active.rules = run.rules ∧ active.objectives = objectives

theorem History.course (history : History entries state) :
    ∀ run ∈ begunRuns entries, ∃ objectives, Course entries state run objectives := by
  apply History.induct (motive := fun entries state =>
    ∀ run ∈ begunRuns entries, ∃ objectives, Course entries state run objectives) _ _ history
  · intro run member
    cases member
  · intro entries entry earlier accepted inductionHypothesis run member
    rw [begunRuns_snoc] at member
    cases accepted.effect with
    | begins fresh begun confirmed completed _ named untouched active =>
        rw [begun] at member
        have unfinished : ∀ runId, Completes (entries ++ [entry]) runId ↔
            Completes entries runId := by
          intro runId
          rw [completes_snoc, completed]
          simp
        rcases List.mem_append.mp member with old | new
        · obtain ⟨objectives, course⟩ := inductionHypothesis run old
          have past := earlier.begunRuns_past run old
          refine ⟨objectives, ?_, ?_, ?_⟩
          · rw [confirmedFor_snoc_none confirmed]
            exact course.tracks
          · rw [unfinished]
            exact course.complete
          · intro other present same
            rw [active] at present
            cases present
            omega
        · cases List.mem_singleton.mp new
          have later : entry.before.revision < run.runId := by omega
          refine ⟨0, ?_, ?_, ?_⟩
          · rw [confirmedFor_snoc_none confirmed, earlier.confirmedFor_future _ later]
            exact Tracks.empty _
          · rw [unfinished]
            constructor
            · rintro ⟨done, present, same⟩
              have past := earlier.completedRuns_past.1 done present
              omega
            · intro impossible
              exact absurd impossible (by cases run.rules.contract <;> decide)
          · intro other present _
            rw [active] at present
            cases present
            exact ⟨rfl, untouched⟩
    | confirms active objective bit begun confirmed completed _ running known allowed open' after =>
        rw [begun, Option.toList_none, List.append_nil] at member
        obtain ⟨objectives, course⟩ := inductionHypothesis run member
        have unfinished : Completes (entries ++ [entry]) run.runId ↔
            Completes entries run.runId := by
          rw [completes_snoc, completed]
          simp
        by_cases mine : active.runId = run.runId
        · obtain ⟨rules, bits⟩ := course.active active running mine
          have tracks := course.tracks
          rw [← rules, ← bits, ← mine] at tracks
          refine ⟨active.objectives ||| bit, ?_, ?_, ?_⟩
          · rw [← mine, confirmedFor_snoc_same confirmed, ← rules]
            exact tracks.snoc known allowed
          · rw [unfinished, course.complete, ← rules, ← bits]
            have full := (earlier.valid.active active running).full
            simp only [ChallengeRun.mask, beq_eq_false_iff_ne] at full
            simp only [ChallengeRun.completes, ChallengeRun.mask, beq_eq_false_iff_ne] at open'
            simp only [full, open']
          · intro other present _
            rw [after] at present
            cases present
            exact ⟨rules, rfl⟩
        · refine ⟨objectives, ?_, ?_, ?_⟩
          · rw [confirmedFor_snoc_other confirmed mine]
            exact course.tracks
          · rw [unfinished]
            exact course.complete
          · intro other present same
            rw [after] at present
            cases present
            exact absurd same mine
    | completes active objective bit elapsedMs begun confirmed completed _ running known allowed
        full _ after =>
        rw [begun, Option.toList_none, List.append_nil] at member
        obtain ⟨objectives, course⟩ := inductionHypothesis run member
        by_cases mine : active.runId = run.runId
        · obtain ⟨rules, bits⟩ := course.active active running mine
          have tracks := course.tracks
          rw [← rules, ← bits, ← mine] at tracks
          refine ⟨active.objectives ||| bit, ?_, ?_, ?_⟩
          · rw [← mine, confirmedFor_snoc_same confirmed, ← rules]
            exact tracks.snoc known allowed
          · rw [completes_snoc, completed]
            simp only [ChallengeRun.completes, ChallengeRun.mask, beq_iff_eq] at full
            rw [rules] at full
            exact iff_of_true (Or.inr ⟨_, rfl, mine⟩) full
          · intro other present _
            rw [after] at present
            cases present
        · refine ⟨objectives, ?_, ?_, ?_⟩
          · rw [confirmedFor_snoc_other confirmed mine]
            exact course.tracks
          · rw [completes_snoc, completed, ← course.complete]
            simp only [Option.mem_some_iff, exists_eq_left', ChallengeRun.confirmed, mine, or_false]
          · intro other present _
            rw [after] at present
            cases present
    | ends begun confirmed completed _ after =>
        rw [begun, Option.toList_none, List.append_nil] at member
        obtain ⟨objectives, course⟩ := inductionHypothesis run member
        refine ⟨objectives, ?_, ?_, ?_⟩
        · rw [confirmedFor_snoc_none confirmed]
          exact course.tracks
        · rw [completes_snoc, completed]
          simpa using course.complete
        · intro other present _
          rw [after] at present
          cases present

/-! ## What the journal shows of a run -/

/-- The confirmations of one started run, and when they complete it. -/
structure Finishes (entries : List Entry) (run : ChallengeRun) : Prop where
  once : (confirmedFor run.runId entries).Nodup
  known : ∀ objective ∈ confirmedFor run.runId entries, (run.rules.objectiveBit objective).isSome
  complete : Completes entries run.runId ↔
    ∀ objective, (run.rules.objectiveBit objective).isSome →
      objective ∈ confirmedFor run.runId entries
  returned : ∀ earlier later, confirmedFor run.runId entries = earlier ++ .returned :: later →
    later = [] ∧ [Objective.lensRead, .galleryRead, .logRead] ⊆ earlier
  inOrder : run.rules.contract.ordered = true →
    confirmedFor run.runId entries <+: run.rules.objectives

theorem Course.finishes {run : ChallengeRun} {objectives : BitVec 8}
    (course : Course entries state run objectives) : Finishes entries run := by
  have tracks := course.tracks
  constructor
  · exact tracks.once
  · exact tracks.known
  · rw [course.complete]
    exact tracks.full_iff
  · exact tracks.returned
  · intro ordered
    obtain ⟨count, -, taken, -⟩ := tracks.inOrder ordered
    rw [taken]
    exact List.take_prefix count _

/-! ## What the records keep -/

/-- The record of its rules among the completed runs: the first one without a
time goal, otherwise the first of the fastest. -/
structure RecordOf (record : ChallengeRun) (completed : List ChallengeRun) : Prop where
  untimed : record.timeGoalMs = none →
    completed.find? (fun run => run.rules = record.rules) = some record
  timed : record.timeGoalMs.isSome → ∃ earlier later best, record.elapsedMs = some best ∧
    completed.filter (fun run => run.rules = record.rules) = earlier ++ record :: later ∧
    (∀ old ∈ earlier, ∃ time ∈ old.elapsedMs, best < time) ∧
    ∀ new ∈ later, ∃ time ∈ new.elapsedMs, best ≤ time

/-- Distinct records are found by their rules. -/
theorem find_of_distinct {records : List ChallengeRun} {record : ChallengeRun}
    (distinct : records.Pairwise ChallengeState.Distinct) (member : record ∈ records) :
    records.find? (fun other => other.rules = record.rules) = some record := by
  have different : (records.map (·.rules)).Nodup := by
    rw [List.nodup_iff_pairwise_ne, List.pairwise_map]
    exact distinct.imp (fun apart => apart.1)
  cases found : records.find? (fun other => other.rules = record.rules) with
  | none =>
      have absent := List.find?_eq_none.mp found record member
      simp at absent
  | some other =>
      have same : other.rules = record.rules := by simpa using List.find?_some found
      have injective := List.inj_on_of_nodup_map different
      rw [injective (List.mem_of_find?_eq_some found) member same]

theorem History.recordOf (history : History entries state) {record : ChallengeRun}
    (member : record ∈ state.records) : RecordOf record (completedRuns entries) := by
  have found := find_of_distinct history.valid.distinct member
  rw [history.records_eq, find_recordsOf] at found
  have alike : ∀ run ∈ (completedRuns entries).filter (fun run => run.rules = record.rules),
      run.rules = record.rules := by
    intro run listed
    simpa using (List.mem_filter.mp listed).2
  have timed : ∀ run ∈ (completedRuns entries).filter (fun run => run.rules = record.rules),
      run.elapsedMs.isSome = record.timeGoalMs.isSome := by
    intro run listed
    rw [history.completedRuns_timed run (List.mem_filter.mp listed).1]
    simp only [ChallengeRun.timeGoalMs, alike run listed]
  have ranks := ranks_of_rules (fun run listed =>
    history.completedRuns_timed run (List.mem_filter.mp listed).1) alike
  obtain ⟨earlier, later, split, beaten, unbeaten⟩ := champion_firstBest ranks found
  rw [split] at timed
  have own := timed record (by simp)
  constructor
  · intro untimed
    rw [untimed] at own timed
    -- Without times nothing is faster, so no completed run stands before the record.
    have first : earlier = [] := by
      rw [List.eq_nil_iff_forall_not_mem]
      intro old listed
      have wins := beaten old listed
      have silent : record.elapsedMs = none := by simpa using own
      simp [faster, silent] at wins
    rw [first] at split
    rw [← List.head?_filter, split]
    rfl
  · intro goal
    rw [goal] at own timed
    obtain ⟨best, recorded⟩ := Option.isSome_iff_exists.mp own
    refine ⟨earlier, later, best, recorded, split, ?_, ?_⟩
    · intro old listed
      obtain ⟨time, known⟩ := Option.isSome_iff_exists.mp (timed old (by simp [listed]))
      have wins := beaten old listed
      simp only [faster, recorded, known, decide_eq_true_eq] at wins
      exact ⟨time, known, wins⟩
    · intro new listed
      obtain ⟨time, known⟩ := Option.isSome_iff_exists.mp (timed new (by simp [listed]))
      have loses := unbeaten new listed
      simp only [faster, recorded, known, decide_eq_false_iff_not, Nat.not_lt] at loses
      exact ⟨time, known, loses⟩

/-- A completed run was started under its number and rules. -/
theorem History.active_begun (history : History entries state) :
    ∀ active ∈ state.active, ∃ run ∈ begunRuns entries,
      run.runId = active.runId ∧ run.rules = active.rules := by
  apply History.induct (motive := fun entries state =>
    ∀ active ∈ state.active, ∃ run ∈ begunRuns entries,
      run.runId = active.runId ∧ run.rules = active.rules) _ _ history
  · intro active impossible
    cases impossible
  · intro entries entry _ accepted inductionHypothesis active present
    rw [begunRuns_snoc]
    cases accepted.effect with
    | begins fresh begun _ _ _ _ _ after =>
        rw [after] at present
        cases present
        rw [begun]
        exact ⟨active, by simp, rfl, rfl⟩
    | confirms old _ bit _ _ _ _ running _ _ _ after =>
        rw [after] at present
        cases present
        obtain ⟨run, member, same, rules⟩ := inductionHypothesis old running
        exact ⟨run, List.mem_append_left _ member, same, rules⟩
    | completes _ _ _ _ _ _ _ _ _ _ _ _ _ after | ends _ _ _ _ after =>
        rw [after] at present
        cases present

theorem History.completed_begun (history : History entries state) :
    ∀ done ∈ completedRuns entries, ∃ run ∈ begunRuns entries,
      run.runId = done.runId ∧ run.rules = done.rules := by
  apply History.induct (motive := fun entries _ =>
    ∀ done ∈ completedRuns entries, ∃ run ∈ begunRuns entries,
      run.runId = done.runId ∧ run.rules = done.rules) _ _ history
  · intro done impossible
    cases impossible
  · intro entries entry earlier accepted inductionHypothesis done present
    rw [completedRuns_snoc] at present
    rw [begunRuns_snoc]
    rcases List.mem_append.mp present with old | new
    · obtain ⟨run, member, same⟩ := inductionHypothesis done old
      exact ⟨run, List.mem_append_left _ member, same⟩
    · cases accepted.effect with
      | begins _ _ _ completed | confirms _ _ _ _ _ completed | ends _ _ completed =>
          rw [completed] at new
          cases new
      | completes active _ bit elapsedMs _ _ completed _ running =>
          rw [completed] at new
          cases List.mem_singleton.mp new
          obtain ⟨run, member, same⟩ := earlier.active_begun active running
          exact ⟨run, List.mem_append_left _ member, same⟩

/-- Every completed run has a record of its rules. -/
theorem recordsOf_covers (runs : List ChallengeRun) :
    ∀ run ∈ runs, ∃ record ∈ recordsOf runs, record.rules = run.rules := by
  intro run member
  have nonempty : runs.filter (fun other => other.rules = run.rules) ≠ [] := by
    intro empty
    have listed : run ∈ runs.filter (fun other => other.rules = run.rules) := by simp [member]
    rw [empty] at listed
    cases listed
  cases found : (recordsOf runs).find? (fun record => record.rules = run.rules) with
  | none =>
      rw [find_recordsOf] at found
      exact absurd (champion_eq_none_iff.mp found) nonempty
  | some record =>
      have same : record.rules = run.rules := by simpa using List.find?_some found
      exact ⟨record, List.mem_of_find?_eq_some found, same⟩

/-- The identity that first completions are counted by. -/
def Rules.identity (rules : Rules) : ContractId × String × Nat × Preset :=
  (rules.contract, rules.contractRevision, rules.seed, rules.preset)

theorem History.firstCompletions_nodup (history : History entries state) :
    ((entries.filterMap Entry.firstRules).map Rules.identity).Nodup := by
  rw [history.firstRules_eq, List.map_map]
  have published : ∀ record ∈ state.records, record.rules.Published :=
    fun record member => (history.valid.records record member).run.published
  have apart := history.valid.distinct.imp_of_mem
    (S := fun first second => first.rules.identity ≠ second.rules.identity) (by
      intro first second left right distinct same
      simp only [Rules.identity, Prod.mk.injEq] at same
      exact distinct.1 ((published first left).ext (published second right) same.1 same.2.2.2))
  rw [List.nodup_iff_pairwise_ne, List.pairwise_map]
  exact apart

/-- A first completion names the contract of the run that its command completed. -/
theorem Entry.Accepted.firstCompletion {entry : Entry} (accepted : entry.Accepted) :
    entry.firstCompletion = entry.firstRules.map (·.contract) := by
  cases accepted.effect with
  | begins _ _ _ _ first | confirms _ _ _ _ _ _ first | ends _ _ _ first =>
      rw [first]
      simp [Entry.firstRules, first]
  | completes run _ bit elapsedMs _ _ completed first =>
      unfold Entry.firstRules
      rw [completed, first]
      unfold completeRecords
      split
      · rfl
      · rfl

/-- The completions of any history: first completions once for each identity,
runs under new numbers, a run complete exactly when its objectives are, and the
records of the completed runs. -/
theorem completion_history {entries : List Entry} {state : ChallengeState}
    (history : History entries state) :
    ((entries.filterMap Entry.firstRules).map Rules.identity).Nodup ∧
    (∀ entry ∈ entries, entry.firstCompletion = entry.firstRules.map (·.contract)) ∧
    (begunRuns entries).Pairwise (fun first second => first.runId < second.runId) ∧
    (completedRuns entries).Pairwise (fun first second => first.runId < second.runId) ∧
    (∀ run ∈ begunRuns entries, Finishes entries run) ∧
    (∀ done ∈ completedRuns entries,
      (∃ run ∈ begunRuns entries, run.runId = done.runId ∧ run.rules = done.rules) ∧
        ∃ record ∈ state.records, record.rules = done.rules) ∧
    ∀ record ∈ state.records, RecordOf record (completedRuns entries) := by
  refine ⟨history.firstCompletions_nodup, ?_, history.begunRuns_increasing,
    history.completedRuns_increasing, ?_, ?_, fun record member => history.recordOf member⟩
  · intro entry member
    exact (history.accepted entry member).firstCompletion
  · intro run member
    obtain ⟨objectives, course⟩ := history.course run member
    exact course.finishes
  · intro done member
    refine ⟨history.completed_begun done member, ?_⟩
    rw [history.records_eq]
    exact recordsOf_covers _ done member

/-- The cleared contract was completed once, by its only run. -/
theorem completion_history_cleared :
    ((clearedEntries.filterMap Entry.firstRules).map Rules.identity).Nodup ∧
      Finishes clearedEntries plainRun ∧
      RecordOf { plainRun with objectives := 1 } (completedRuns clearedEntries) := by
  obtain ⟨first, -, -, -, finishes, -, records⟩ := completion_history cleared_history
  exact ⟨first, finishes plainRun (by decide), records _ (by decide)⟩

end Challenges
end Revenant
