import Revenant.Challenges.History
import Revenant.Challenges.Mastery

namespace Revenant
namespace Persistence

open Library Challenges

/-!
# The mastery archive of a journal

Each entry that ends a run is observed with the facts its session proves.  A
retry ends the old run inside its own admission, so the last result may have no
entry of its own; it is then observed once more, without facts.
-/

/-- The one character of an account. -/
def characterId (account : String) : String := account ++ ":operator"

def observeEntry (facts : Entry → Facts) (archive : Archive) (entry : Entry) :
    Except String Archive :=
  if entry.after.active.isSome then .ok archive
  else do
    let result ← require entry.after.lastResult "mastery terminal lacks its verified attempt"
    return archive.observe (assess result (facts entry))

def challengeArchiveFor (facts : Entry → Facts) (entries : List Entry) (state : ChallengeState) :
    Except String Archive := do
  let archive ← entries.foldlM (observeEntry facts) Archive.default
  match state.lastResult with
  | some result =>
      if result.outcome ≠ .completed then return archive.observe (assess result Facts.default)
      else return archive
  | none => return archive

/-! ## What an observation adds -/

variable {result : AttemptResult}

theorem achieved_assess {facts : Facts} {goal : Goal}
    (member : goal ∈ (assess result facts).achieved) :
    result.outcome = .completed ∧ goal.contract = result.run.rules.contract := by
  unfold Attempt.achieved assess at member
  simp only [List.mem_map, List.mem_filter, decide_eq_true_eq] at member
  obtain ⟨_, ⟨⟨other, ⟨-, contract⟩, rfl⟩, achieved⟩, rfl⟩ := member
  refine ⟨?_, contract⟩
  by_contra unfinished
  simp [assessGoal, unfinished] at achieved

theorem achieved_unfinished {facts : Facts} (unfinished : result.outcome ≠ .completed) :
    (assess result facts).achieved = [] := by
  rw [List.eq_nil_iff_forall_not_mem]
  intro goal member
  exact unfinished (achieved_assess member).1

variable {archive : Archive}

theorem lastAttempt_observe {attempt : Attempt}
    (later : ∀ last ∈ archive.lastAttempt, last.runId < attempt.runId) :
    (archive.observe attempt).lastAttempt = some attempt := by
  unfold Archive.observe
  cases last : archive.lastAttempt with
  | none => rfl
  | some old =>
      simp only
      rw [if_pos (later old last)]

/-- A run of the save achieved a goal: its contract has a record. -/
def Earned (state : ChallengeState) (goal : Goal) (runId : Nat) : Prop :=
  0 < runId ∧ runId ≤ state.revision ∧ ∃ run ∈ state.records, run.rules.contract = goal.contract

/-- The archive ends with the assessment of a result and has its achievements. -/
def Assessed (archive : Archive) (result : AttemptResult) : Prop :=
  ∃ facts, archive.lastAttempt = some (assess result facts) ∧
    ∀ goal ∈ (assess result facts).achieved, ∃ record ∈ archive.records,
      record.goal = goal ∧ record.runId ≤ result.run.runId

/-- The archive between two entries.  The last result is assessed unless a retry
interrupted it. -/
structure Observed (state : ChallengeState) (archive : Archive) : Prop where
  records : RecordsSound archive.records (Earned state)
  empty : archive.lastAttempt = none → archive.records = []
  silent : state.lastResult = none → archive.lastAttempt = none
  latest : ∀ result ∈ state.lastResult, Assessed archive result ∨
    (result.outcome ≠ .completed ∧ ∀ last ∈ archive.lastAttempt, last.runId < result.run.runId)

theorem observed_default : Observed .default Archive.default := by
  constructor
  · constructor
    · exact List.nodup_nil
    · intro record impossible
      cases impossible
  · intro _
    rfl
  · intro _
    rfl
  · intro result impossible
    cases impossible

variable {state : ChallengeState}

/-- Every assessed run is at most as late as the last result. -/
theorem Observed.lastAttempt_le (observed : Observed state archive) {run : ChallengeRun}
    (older : ∀ result ∈ state.lastResult, result.run.runId < run.runId) :
    ∀ last ∈ archive.lastAttempt, last.runId < run.runId := by
  intro last present
  cases ended : state.lastResult with
  | none =>
      rw [observed.silent ended] at present
      cases present
  | some result =>
      rcases observed.latest result ended with ⟨facts, assessed, -⟩ | ⟨-, earlier⟩
      · rw [assessed] at present
        cases present
        exact older result ended
      · exact lt_trans (earlier last present) (older result ended)

/-- An entry without an observation: the save keeps its records and either its
last result or a run that a retry interrupted. -/
theorem Observed.keep {before after : ChallengeState} (observed : Observed before archive)
    (grown : before.revision ≤ after.revision) (records : after.records = before.records)
    (result : after.lastResult = before.lastResult ∨ ∃ run, before.active = some run ∧
      after.lastResult = some { run, outcome := .interrupted })
    (older : ∀ run ∈ before.active, ∀ result ∈ before.lastResult, result.run.runId < run.runId) :
    Observed after archive := by
  constructor
  · apply observed.records.mono
    rintro goal runId ⟨positive, past, recorded⟩
    exact ⟨positive, le_trans past grown, records ▸ recorded⟩
  · exact observed.empty
  · intro none
    rcases result with same | ⟨run, -, interrupted⟩
    · exact observed.silent (same ▸ none)
    · rw [interrupted] at none
      cases none
  · intro last present
    rcases result with same | ⟨run, active, interrupted⟩
    · exact observed.latest last (same ▸ present)
    · rw [interrupted] at present
      cases present
      refine Or.inr ⟨?_, observed.lastAttempt_le (older run active)⟩
      intro impossible
      cases impossible

/-- An entry that ends the active run, observed with any facts. -/
theorem Observed.observe {before after : ChallengeState} {facts : Facts}
    (observed : Observed before archive) (valid : after.Valid)
    (grown : before.revision ≤ after.revision)
    (kept : ∀ old ∈ before.records, ∃ new ∈ after.records, new.rules = old.rules)
    (ended : after.lastResult = some result)
    (older : ∀ old ∈ before.lastResult, old.run.runId < result.run.runId) :
    Observed after (archive.observe (assess result facts)) := by
  have bounds := valid.result result ended
  have proves : ∀ goal ∈ (assess result facts).achieved, Earned after goal result.run.runId := by
    intro goal achieved
    obtain ⟨completed, contract⟩ := achieved_assess achieved
    obtain ⟨record, member, rules⟩ := valid.recorded result ended completed
    exact ⟨bounds.started, bounds.past, record, member, by rw [rules, contract]⟩
  have sound : RecordsSound archive.records (Earned after) := by
    apply observed.records.mono
    rintro goal runId ⟨positive, past, old, member, contract⟩
    obtain ⟨new, newMember, rules⟩ := kept old member
    exact ⟨positive, le_trans past grown, new, newMember, by rw [rules, contract]⟩
  obtain ⟨records, achieved⟩ := Archive.observe_records sound proves
  have last : (archive.observe (assess result facts)).lastAttempt = some (assess result facts) := by
    apply lastAttempt_observe
    exact observed.lastAttempt_le older
  constructor
  · exact records
  · intro none
    rw [last] at none
    cases none
  · intro none
    rw [ended] at none
    cases none
  · intro other present
    rw [ended] at present
    cases present
    exact Or.inl ⟨facts, last, achieved⟩

/-- A completed run's records keep all recorded rules. -/
theorem keeps_completeRecords (run : ChallengeRun) (records : List ChallengeRun) :
    ∀ old ∈ records, ∃ new ∈ (completeRecords run records).1, new.rules = old.rules := by
  intro old member
  unfold completeRecords
  split
  · next updated found =>
      have listed : old.rules ∈ updated.map (·.rules) := by
        rw [rules_updateRecord found]
        exact List.mem_map_of_mem member
      obtain ⟨new, present, same⟩ := List.mem_map.mp listed
      exact ⟨new, present, same⟩
  · exact ⟨old, List.mem_append_left _ member, rfl⟩

/-- One accepted entry. -/
theorem Observed.step (facts : Entry → Facts) {entry : Entry} (accepted : entry.Accepted)
    (observed : Observed entry.before archive) :
    ∃ next, observeEntry facts archive entry = .ok next ∧ Observed entry.after next := by
  have grown : entry.before.revision ≤ entry.after.revision := by
    rw [accepted.revision]
    exact Nat.le_succ _
  obtain ⟨ready, step, validAfter⟩ := apply_iff.mp accepted
  have valid := ready.valid
  have older : ∀ run ∈ entry.before.active, ∀ result ∈ entry.before.lastResult,
      result.run.runId < run.runId :=
    fun run active result last => valid.resultBeforeActive result last run active
  rcases entry with ⟨policy, command, before, after, first⟩
  dsimp only at step validAfter valid grown older observed ⊢
  cases step with
  | start | startModified | retryEnded | confirm =>
      exact ⟨archive, rfl, observed.keep grown rfl (Or.inl rfl) older⟩
  | retryActive active =>
      exact ⟨archive, rfl, observed.keep grown rfl (Or.inr ⟨_, active, rfl⟩) older⟩
  | complete active =>
      have earlier := older _ active
      refine ⟨_, rfl, observed.observe validAfter grown ?_ rfl earlier⟩
      exact keeps_completeRecords _ _
  | endRun active =>
      have earlier := older _ active
      refine ⟨_, rfl, observed.observe validAfter grown ?_ rfl earlier⟩
      intro old member
      exact ⟨old, member, rfl⟩

theorem observed_of_history (facts : Entry → Facts) {entries : List Entry}
    (history : History entries state) :
    ∃ archive, entries.foldlM (observeEntry facts) Archive.default = .ok archive ∧
      Observed state archive := by
  apply History.induct (motive := fun entries state =>
    ∃ archive, entries.foldlM (observeEntry facts) Archive.default = .ok archive ∧
      Observed state archive) _ _ history
  · exact ⟨Archive.default, rfl, observed_default⟩
  · rintro entries entry _ accepted ⟨archive, folded, observed⟩
    obtain ⟨next, stepped, after⟩ := observed.step facts accepted
    refine ⟨next, ?_, after⟩
    rw [List.foldlM_append, folded]
    change (observeEntry facts archive entry >>= pure) = _
    rw [bind_pure, stepped]

/-! ## The finished archive -/

/-- The archive agrees with the save it was derived from. -/
structure ArchiveFits (state : ChallengeState) (archive : Archive) : Prop where
  records : RecordsSound archive.records (Earned state)
  empty : archive.lastAttempt = none → archive.records = []
  latest : ∀ attempt ∈ archive.lastAttempt, ∃ result ∈ state.lastResult, ∃ facts,
    attempt = assess result facts ∧
    ∀ goal ∈ attempt.achieved, ∃ record ∈ archive.records,
      record.goal = goal ∧ record.runId ≤ attempt.runId

/-- An assessed last result is all that the archive has to agree with. -/
theorem ArchiveFits.of_assessed (records : RecordsSound archive.records (Earned state))
    (ended : state.lastResult = some result) (assessed : Assessed archive result) :
    ArchiveFits state archive := by
  obtain ⟨facts, last, achieved⟩ := assessed
  constructor
  · exact records
  · intro none
    rw [last] at none
    cases none
  · intro attempt present
    rw [last] at present
    cases present
    exact ⟨result, ended, facts, rfl, achieved⟩

/-- The journal of every history has an archive, and it fits the save. -/
theorem archive_fits (facts : Entry → Facts) {entries : List Entry}
    (history : History entries state) :
    ∃ archive, challengeArchiveFor facts entries state = .ok archive ∧
      ArchiveFits state archive := by
  obtain ⟨archive, folded, observed⟩ := observed_of_history facts history
  unfold challengeArchiveFor
  rw [folded]
  cases ended : state.lastResult with
  | none =>
      refine ⟨archive, rfl, observed.records, observed.empty, ?_⟩
      intro attempt present
      rw [observed.silent ended] at present
      cases present
  | some result =>
      by_cases completed : result.outcome = .completed
      · refine ⟨archive, ?_, ?_⟩
        · simp only [completed, ne_eq, not_true_eq_false, if_false]
          rfl
        · rcases observed.latest result ended with assessed | ⟨unfinished, -⟩
          · exact ArchiveFits.of_assessed observed.records ended assessed
          · exact absurd completed unfinished
      · refine ⟨archive.observe (assess result Facts.default), ?_, ?_⟩
        · simp only [completed, ne_eq, not_false_eq_true, if_true]
          rfl
        · have silent : ∀ facts, (assess result facts).achieved = [] :=
            fun facts => achieved_unfinished completed
          have nothing : ∀ goal ∈ (assess result Facts.default).achieved,
              Earned state goal (assess result Facts.default).runId := by
            rw [silent]
            intro goal impossible
            cases impossible
          have records := (Archive.observe_records observed.records nothing).1
          apply ArchiveFits.of_assessed records ended
          rcases observed.latest result ended with ⟨own, last, -⟩ | ⟨-, earlier⟩
          · refine ⟨own, ?_, by rw [silent]; simp⟩
            unfold Archive.observe
            rw [last]
            simp [assess]
          · exact ⟨Facts.default, lastAttempt_observe earlier, by rw [silent]; simp⟩

end Persistence
end Revenant
