import Revenant.Challenges.Wellformed
import Revenant.Library.Champion

namespace Revenant
namespace Challenges

open Library

/-!
# What a history of commands records

The journal of a character is read back as three lists: the runs it started,
the objectives it confirmed for a run, and the runs it completed.  `Effect`
says what one accepted command adds to them.  The save is then compared with
the lists: its records are a fold over the completed runs, and its active run
stands where the confirmed objectives put it.

Nothing is asked of the order in which runs follow one another beyond what the
commands enforce, and refused commands leave no entry.  The lists are computed
from the entries, so a history carries no data of its own.
-/

namespace Entry

/-- The run a start or a retry began. -/
def begun (entry : Entry) : Option ChallengeRun :=
  match entry.command with
  | .start _ _ | .startModified _ _ _ | .retry _ _ => entry.after.active
  | _ => none

/-- The run and the objective of a confirmation. -/
def confirmed (entry : Entry) : Option (Nat × Objective) :=
  entry.command.confirmation.map (fun asked => (asked.1, asked.2.1))

/-- The run that a confirmation completed. -/
def completed (entry : Entry) : Option ChallengeRun :=
  if entry.confirmed.isSome ∧ entry.after.active = none then entry.after.lastResult.map (·.run)
  else none

/-- The rules of a completion that was reported as a first one. -/
def firstRules (entry : Entry) : Option Rules :=
  if entry.firstCompletion.isSome then entry.completed.map (·.rules) else none

end Entry

def begunRuns (entries : List Entry) : List ChallengeRun := entries.filterMap Entry.begun

def completedRuns (entries : List Entry) : List ChallengeRun := entries.filterMap Entry.completed

/-- The objectives confirmed for a run, in their order. -/
def confirmedFor (runId : Nat) (entries : List Entry) : List Objective :=
  (entries.filterMap Entry.confirmed).filterMap
    (fun asked => if asked.1 = runId then some asked.2 else none)

section Growth

variable {entries : List Entry} {entry : Entry}

theorem begunRuns_snoc :
    begunRuns (entries ++ [entry]) = begunRuns entries ++ entry.begun.toList := by
  simp only [begunRuns, List.filterMap_append, List.filterMap_cons, List.filterMap_nil]
  cases entry.begun <;> rfl

theorem completedRuns_snoc :
    completedRuns (entries ++ [entry]) = completedRuns entries ++ entry.completed.toList := by
  simp only [completedRuns, List.filterMap_append, List.filterMap_cons, List.filterMap_nil]
  cases entry.completed <;> rfl

theorem confirmedFor_snoc_none {runId : Nat} (silent : entry.confirmed = none) :
    confirmedFor runId (entries ++ [entry]) = confirmedFor runId entries := by
  simp [confirmedFor, silent]

theorem confirmedFor_snoc_other {runId other : Nat} {objective : Objective}
    (asked : entry.confirmed = some (other, objective)) (different : other ≠ runId) :
    confirmedFor runId (entries ++ [entry]) = confirmedFor runId entries := by
  simp [confirmedFor, asked, different]

theorem confirmedFor_snoc_same {runId : Nat} {objective : Objective}
    (asked : entry.confirmed = some (runId, objective)) :
    confirmedFor runId (entries ++ [entry]) = confirmedFor runId entries ++ [objective] := by
  simp [confirmedFor, asked]

end Growth

/-- What one accepted command adds to the lists, and where it leaves the save. -/
inductive Effect (entry : Entry) : Prop
  | begins (run : ChallengeRun) (begun : entry.begun = some run)
      (confirmed : entry.confirmed = none) (completed : entry.completed = none)
      (first : entry.firstCompletion = none) (fresh : run.runId = entry.before.revision + 1)
      (untouched : run.objectives = 0) (active : entry.after.active = some run)
      (records : entry.after.records = entry.before.records)
  | confirms (run : ChallengeRun) (objective : Objective) (bit : BitVec 8)
      (begun : entry.begun = none)
      (confirmed : entry.confirmed = some (run.runId, objective))
      (completed : entry.completed = none) (first : entry.firstCompletion = none)
      (running : entry.before.active = some run)
      (known : run.rules.objectiveBit objective = some bit)
      (allowed : ¬ run.refuses objective bit) (open' : run.completes bit = false)
      (active : entry.after.active = some (run.confirmed bit none))
      (records : entry.after.records = entry.before.records)
  | completes (run : ChallengeRun) (objective : Objective) (bit : BitVec 8) (elapsedMs : Option Nat)
      (begun : entry.begun = none)
      (confirmed : entry.confirmed = some (run.runId, objective))
      (completed : entry.completed = some (run.confirmed bit elapsedMs))
      (first : entry.firstCompletion =
        (completeRecords (run.confirmed bit elapsedMs) entry.before.records).2)
      (running : entry.before.active = some run)
      (known : run.rules.objectiveBit objective = some bit)
      (allowed : ¬ run.refuses objective bit) (full : run.completes bit = true)
      (timed : elapsedMs.isSome = run.timeGoalMs.isSome)
      (active : entry.after.active = none)
      (records : entry.after.records =
        (completeRecords (run.confirmed bit elapsedMs) entry.before.records).1)
  | ends (begun : entry.begun = none) (confirmed : entry.confirmed = none)
      (completed : entry.completed = none) (first : entry.firstCompletion = none)
      (active : entry.after.active = none) (records : entry.after.records = entry.before.records)

/-- A command that confirms an objective begins no run. -/
theorem begun_none_of_confirmation {entry : Entry} {asked : Nat × Objective × Option Nat}
    (confirmation : entry.command.confirmation = some asked) : entry.begun = none := by
  unfold Entry.begun
  cases command : entry.command with
  | start | startModified | retry =>
      rw [command] at confirmation
      cases confirmation
  | confirm | confirmTimed | endRun => rfl

theorem Entry.Accepted.revision {entry : Entry} (accepted : entry.Accepted) :
    entry.after.revision = entry.before.revision + 1 := by
  obtain ⟨-, step, -⟩ := apply_iff.mp accepted
  rcases entry with ⟨policy, command, before, after, first⟩
  dsimp only at step ⊢
  cases step <;> rfl

theorem Entry.Accepted.effect {entry : Entry} (accepted : entry.Accepted) : Effect entry := by
  obtain ⟨-, step, -⟩ := apply_iff.mp accepted
  rcases entry with ⟨policy, command, before, after, first⟩
  dsimp only at step ⊢
  cases step with
  | start => exact Effect.begins _ rfl rfl rfl rfl rfl rfl rfl rfl
  | startModified => exact Effect.begins _ rfl rfl rfl rfl rfl rfl rfl rfl
  | retryActive => exact Effect.begins _ rfl rfl rfl rfl rfl rfl rfl rfl
  | retryEnded => exact Effect.begins _ rfl rfl rfl rfl rfl rfl rfl rfl
  | endRun => exact Effect.ends rfl rfl rfl rfl rfl rfl
  | @confirm _ run objective bit elapsedMs active asked confirms open' =>
      have timed := confirms.timed
      rw [open', Bool.false_and] at timed
      have untimed : elapsedMs = none := by simpa using timed
      subst untimed
      refine Effect.confirms run objective bit (begun_none_of_confirmation asked) ?_ ?_ rfl active
        confirms.known confirms.allowed open' rfl rfl
      · simp only [Entry.confirmed, asked, Option.map_some]
      · simp only [Entry.completed, reduceCtorEq, and_false, if_false]
  | @complete _ run objective bit elapsedMs active asked confirms full =>
      have timed := confirms.timed
      rw [full, Bool.true_and] at timed
      have confirmed : (Entry.confirmed ⟨policy, command, before,
          ({ before.advanced with
            records := (completeRecords (run.confirmed bit elapsedMs) before.records).1
            }.withResult (run.confirmed bit elapsedMs) .completed),
          (completeRecords (run.confirmed bit elapsedMs) before.records).2⟩) =
          some (run.runId, objective) := by
        simp only [Entry.confirmed, asked, Option.map_some]
      refine Effect.completes run objective bit elapsedMs (begun_none_of_confirmation asked)
        confirmed ?_ rfl active confirms.known confirms.allowed full timed rfl rfl
      unfold Entry.completed
      rw [if_pos ⟨Option.isSome_of_mem confirmed, rfl⟩]
      rfl

variable {entries : List Entry} {state : ChallengeState}

/-- Every command advances the save by one. -/
theorem History.revision_eq (history : History entries state) :
    state.revision = entries.length := by
  apply History.induct (motive := fun entries state => state.revision = entries.length) _ _ history
  · rfl
  · intro entries entry _ accepted inductionHypothesis
    rw [accepted.revision, inductionHypothesis, List.length_append]
    rfl

/-! ## Started runs -/

theorem History.begunRuns_past (history : History entries state) :
    ∀ run ∈ begunRuns entries, run.runId ≤ state.revision := by
  apply History.induct
    (motive := fun entries state => ∀ run ∈ begunRuns entries, run.runId ≤ state.revision) _ _ history
  · intro run member
    cases member
  · intro entries entry _ accepted inductionHypothesis run member
    rw [begunRuns_snoc] at member
    rw [accepted.revision]
    rcases List.mem_append.mp member with old | new
    · exact Nat.le_succ_of_le (inductionHypothesis run old)
    · cases accepted.effect with
      | begins fresh begun _ _ _ named =>
          rw [begun] at new
          rw [List.mem_singleton.mp new, named]
      | confirms _ _ _ begun | completes _ _ _ _ begun | ends begun =>
          rw [begun] at new
          cases new

theorem History.begunRuns_increasing (history : History entries state) :
    (begunRuns entries).Pairwise (fun first second => first.runId < second.runId) := by
  apply History.induct (motive := fun entries _ =>
    (begunRuns entries).Pairwise (fun first second => first.runId < second.runId)) _ _ history
  · exact List.Pairwise.nil
  · intro entries entry earlier accepted inductionHypothesis
    rw [begunRuns_snoc, List.pairwise_append]
    refine ⟨inductionHypothesis, ?_, ?_⟩
    · cases entry.begun <;> simp
    · intro old member new added
      cases accepted.effect with
      | begins fresh begun _ _ _ named =>
          rw [begun] at added
          rw [List.mem_singleton.mp added, named]
          exact Nat.lt_succ_of_le (earlier.begunRuns_past old member)
      | confirms _ _ _ begun | completes _ _ _ _ begun | ends begun =>
          rw [begun] at added
          cases added

/-! ## Records -/

/-- The records that the completed runs leave behind. -/
def recordsOf (runs : List ChallengeRun) : List ChallengeRun :=
  runs.foldl (fun records run => (completeRecords run records).1) []

theorem History.records_eq (history : History entries state) :
    state.records = recordsOf (completedRuns entries) := by
  apply History.induct
    (motive := fun entries state => state.records = recordsOf (completedRuns entries)) _ _ history
  · rfl
  · intro entries entry _ accepted inductionHypothesis
    rw [completedRuns_snoc]
    cases accepted.effect with
    | begins _ _ _ completed _ _ _ _ records | confirms _ _ _ _ _ completed _ _ _ _ _ _ records
    | ends _ _ completed _ _ records =>
        rw [completed, records, Option.toList_none, List.append_nil, inductionHypothesis]
    | completes _ _ _ _ _ _ completed _ _ _ _ _ _ _ records =>
        rw [completed, records, inductionHypothesis]
        simp only [recordsOf, Option.toList_some, List.foldl_append, List.foldl_cons, List.foldl_nil]

/-- First completions are reported once for each record, in the records' order. -/
theorem History.firstRules_eq (history : History entries state) :
    entries.filterMap Entry.firstRules = state.records.map (·.rules) := by
  apply History.induct (motive := fun entries state =>
    entries.filterMap Entry.firstRules = state.records.map (·.rules)) _ _ history
  · rfl
  · intro entries entry _ accepted inductionHypothesis
    rw [List.filterMap_append, inductionHypothesis]
    cases accepted.effect with
    | begins _ _ _ _ first _ _ _ records | confirms _ _ _ _ _ _ first _ _ _ _ _ records
    | ends _ _ _ first _ records =>
        have silent : entry.firstRules = none := by simp [Entry.firstRules, first]
        simp [silent, records]
    | completes run _ bit elapsedMs _ _ completed first _ _ _ _ _ _ records =>
        rw [records]
        unfold completeRecords at first ⊢
        cases found : updateRecord (run.confirmed bit elapsedMs) entry.before.records with
        | some updated =>
            rw [found] at first
            have silent : entry.firstRules = none := by simp [Entry.firstRules, first]
            simp [silent, rules_updateRecord found]
        | none =>
            rw [found] at first
            have reported : entry.firstRules = some (run.confirmed bit elapsedMs).rules := by
              simp [Entry.firstRules, first, completed]
            simp [reported]

/-- Which record stands for given rules after one more completed run. -/
theorem find_completeRecords (run : ChallengeRun) (records : List ChallengeRun) (rules : Rules) :
    (completeRecords run records).1.find? (fun record => record.rules = rules) =
      if run.rules = rules then
        challenge faster (records.find? (fun record => record.rules = rules)) run
      else records.find? (fun record => record.rules = rules) := by
  unfold completeRecords
  induction records with
  | nil =>
      simp only [updateRecord, List.nil_append, List.find?_cons, List.find?_nil, challenge]
      by_cases same : run.rules = rules <;> simp [same]
  | cons record rest inductionHypothesis =>
      simp only [updateRecord, List.find?_cons]
      by_cases kept : record.rules = run.rules
      · rw [if_pos kept]
        by_cases same : run.rules = rules
        · subst same
          simp only [kept, decide_true, if_true, challenge]
          split <;> simp_all
        · have other : ¬ record.rules = rules := by rwa [kept]
          rw [if_neg same]
          simp only [other, decide_false, List.find?_cons]
          split
          · next impossible =>
              split at impossible <;> simp_all
          · rfl
      · rw [if_neg kept]
        cases found : updateRecord run rest with
        | some updated =>
            rw [found] at inductionHypothesis
            simp only [Option.map_some, List.find?_cons]
            by_cases here : record.rules = rules
            · have other : ¬ run.rules = rules := by
                rintro rfl
                exact kept here
              simp [here, other]
            · simp only [here, decide_false]
              exact inductionHypothesis
        | none =>
            rw [found] at inductionHypothesis
            simp only [Option.map_none, List.cons_append, List.find?_cons]
            by_cases here : record.rules = rules
            · have other : ¬ run.rules = rules := by
                rintro rfl
                exact kept here
              simp [here, other]
            · simp only [here, decide_false]
              exact inductionHypothesis

/-- The record of given rules is the champion of their completed runs. -/
theorem find_recordsOf (runs : List ChallengeRun) (rules : Rules) :
    (recordsOf runs).find? (fun record => record.rules = rules) =
      champion faster (runs.filter (fun run => run.rules = rules)) := by
  induction runs using List.reverseRecOn with
  | nil => rfl
  | append_singleton runs run inductionHypothesis =>
      have grown : recordsOf (runs ++ [run]) = (completeRecords run (recordsOf runs)).1 := by
        simp [recordsOf]
      rw [grown, find_completeRecords, inductionHypothesis, List.filter_append]
      by_cases same : run.rules = rules
      · simp [same]
      · simp [same]

/-- The time of a completed run is recorded exactly under a time goal. -/
theorem History.completedRuns_timed (history : History entries state) :
    ∀ run ∈ completedRuns entries, run.elapsedMs.isSome = run.timeGoalMs.isSome := by
  apply History.induct (motive := fun entries _ =>
    ∀ run ∈ completedRuns entries, run.elapsedMs.isSome = run.timeGoalMs.isSome) _ _ history
  · intro run member
    cases member
  · intro entries entry _ accepted inductionHypothesis run member
    rw [completedRuns_snoc] at member
    rcases List.mem_append.mp member with old | new
    · exact inductionHypothesis run old
    · cases accepted.effect with
      | begins _ _ _ completed | confirms _ _ _ _ _ completed | ends _ _ completed =>
          rw [completed] at new
          cases new
      | completes _ _ _ _ _ _ completed _ _ _ _ _ timed =>
          rw [completed] at new
          rw [List.mem_singleton.mp new]
          exact timed

/-- Among the completed runs of one set of rules, `faster` ranks. -/
theorem ranks_of_rules {runs : List ChallengeRun} {rules : Rules}
    (timed : ∀ run ∈ runs, run.elapsedMs.isSome = run.timeGoalMs.isSome)
    (same : ∀ run ∈ runs, run.rules = rules) : Ranks faster runs := by
  have alike : ∀ first ∈ runs, ∀ second ∈ runs,
      first.elapsedMs.isSome = second.elapsedMs.isSome := by
    intro first left second right
    rw [timed first left, timed second right]
    simp only [ChallengeRun.timeGoalMs, same first left, same second right]
  constructor
  · intro first _ second _ wins
    unfold faster at wins ⊢
    cases firstTime : first.elapsedMs <;> cases secondTime : second.elapsedMs <;>
      simp_all
    omega
  · intro first left second middle third right wins loses
    have firstThird := alike first left third right
    unfold faster at wins loses ⊢
    cases firstTime : first.elapsedMs <;> cases secondTime : second.elapsedMs <;>
      cases thirdTime : third.elapsedMs <;> simp_all
    omega

end Challenges
end Revenant
