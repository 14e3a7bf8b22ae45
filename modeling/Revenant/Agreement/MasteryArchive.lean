import Revenant.Client.ChallengeMastery
import Revenant.Gateway.Challenges

namespace Revenant
namespace Agreement
namespace MasteryArchive

open Library Challenges Persistence Client Client.ChallengeMastery

/-!
# The client keeps every mastery archive

The client rebuilds the dictionary of goals, the badges and the expected
assessments from its own tables and compares them with the archive it was sent.
-/

theorem asStr_inj {first second : Goal} (same : first.asStr = second.asStr) : first = second := by
  revert same
  cases first <;> cases second <;> decide

/-- What a board says about the save an archive is read against. -/
structure ShowsState (state : ChallengeState) (snapshot : Variant) : Prop where
  revision : (snapshot.get "state_revision").integer? = some (state.revision : Int)
  records : recordedContracts snapshot = state.records.map (fun run => run.rules.contract.asStr)
  result : snapshot.get "last_result" =
    (state.lastResult.map (fun result => (Gateway.Challenges.result result).serialize)).getD .nil

/-! ## The dictionary of goals -/

/-- An optional number of the server passes the client's check. -/
theorem validNumber_ofOption (number : Option Nat) : validNumber (.ofOption number) = .ok () := by
  cases number with
  | none => rfl
  | some present =>
      unfold validNumber
      simp [Variant.ofOption, Variant.isNil, Variant.integer?, require]

/-- The dictionary the client builds from the records. -/
def dictionaryOf (records : List MasteryRecord) : List (String × Int) :=
  records.map (fun record => (record.goal.asStr, (record.runId : Int)))

theorem lookup_dictionaryOf (records : List MasteryRecord) (goal : Goal) :
    (dictionaryOf records).lookup goal.asStr =
      ((records.find? (fun record => record.goal = goal)).map (·.runId)).map Int.ofNat := by
  induction records with
  | nil => rfl
  | cons record rest inductionHypothesis =>
      unfold dictionaryOf at inductionHypothesis ⊢
      rw [List.map_cons, List.lookup_cons, List.find?_cons]
      by_cases same : record.goal = goal
      · simp [same]
      · have different : (goal.asStr == record.goal.asStr) = false := by
          rw [beq_eq_false_iff_ne]
          intro equal
          exact same (asStr_inj equal).symm
        simp only [different, same, decide_false]
        exact inductionHypothesis

theorem lookup_runOf (archive : Archive) (goal : Goal) :
    (dictionaryOf archive.records).lookup goal.asStr = (archive.runOf goal).map Int.ofNat :=
  lookup_dictionaryOf archive.records goal

theorem validRunId_of {revision runId : Nat} (positive : 0 < runId) (past : runId ≤ revision) :
    validRunId (.integer runId) revision = .ok (runId : Int) := by
  unfold validRunId
  simp only [bind_eq_ok, exists_unit, require_eq_ok, rejectIf_eq_ok, pure_eq_ok]
  refine ⟨_, rfl, ?_, rfl⟩
  omega

variable {state : ChallengeState} {snapshot : Variant}

theorem readRecords_records (shows : ShowsState state snapshot)
    (earlier records : List MasteryRecord)
    (sound : RecordsSound (earlier ++ records) (Earned state)) :
    readRecords snapshot state.revision (dictionaryOf earlier)
      (records.map (fun record => Protocol.ChallengeMasteryArchive.serializeRecord
        { goal := record.goal.asStr, runId := record.runId })) =
      .ok (dictionaryOf (earlier ++ records)) := by
  induction records generalizing earlier with
  | nil =>
      rw [List.append_nil]
      rfl
  | cons record rest inductionHypothesis =>
      obtain ⟨positive, past, run, recorded, contract⟩ := sound.proved record (by simp)
      have fresh : (dictionaryOf earlier).lookup record.goal.asStr = none := by
        rw [lookup_dictionaryOf, Option.map_eq_none_iff, Option.map_eq_none_iff,
          List.find?_eq_none]
        intro old member same
        have distinct := sound.distinct
        rw [List.map_append, List.map_cons, List.nodup_append] at distinct
        exact distinct.2.2 old.goal (List.mem_map_of_mem member) record.goal List.mem_cons_self
          (by simpa using same)
      have grown : dictionaryOf earlier ++ [(record.goal.asStr, (record.runId : Int))] =
          dictionaryOf (earlier ++ [record]) := by
        unfold dictionaryOf
        rw [List.map_append]
        rfl
      have known : goals.lookup record.goal.asStr = some record.goal.contract.asStr := by
        cases record.goal <;> rfl
      simp only [List.map_cons, readRecords, bind_eq_ok, exists_unit, require_eq_ok, rejectIf_eq_ok]
      refine ⟨_, rfl, _, known, ?_, _, validRunId_of positive past, ?_, ?_⟩
      · rw [fresh]
        decide
      · rw [shows.records, not_not, ← contract]
        exact List.mem_map_of_mem recorded
      · rw [grown]
        have again : earlier ++ record :: rest = earlier ++ [record] ++ rest := by simp
        rw [again] at sound ⊢
        exact inductionHypothesis _ sound

theorem records_length {records : List MasteryRecord} (sound : RecordsSound records (Earned state)) :
    records.length ≤ 6 := by
  have bound := (List.subperm_of_subset sound.distinct
    (fun goal _ => Goal.mem_all goal : records.map (·.goal) ⊆ Goal.all)).length_le
  rw [List.length_map] at bound
  exact bound

/-! ## Badges -/

variable {archive : Archive}

/-- The client's maximum is the one that dates the badge. -/
theorem expectedRun_goals {goals : List Goal} {runs : List Nat}
    (collected : goals.mapM archive.runOf = some runs) (expected : Nat) :
    expectedRun (dictionaryOf archive.records) expected (goals.map Goal.asStr) =
      .ok ((runs.foldl max expected : Nat) : Int) := by
  induction goals generalizing runs expected with
  | nil =>
      cases collected
      rfl
  | cons goal rest inductionHypothesis =>
      simp only [List.mapM_cons, Option.bind_eq_bind, Option.pure_def, Option.bind_eq_some_iff,
        Option.some.injEq] at collected
      obtain ⟨run, found, others, collectedRest, rfl⟩ := collected
      simp only [List.map_cons, expectedRun, bind_eq_ok, require_eq_ok]
      refine ⟨run, by rw [lookup_runOf, found]; rfl, ?_⟩
      have both : max (expected : Int) (run : Int) = ((max expected run : Nat) : Int) := by omega
      rw [both, inductionHypothesis collectedRest, List.foldl_cons]

/-- How a badge of the archive came about. -/
theorem mem_badges {record : BadgeRecord} (member : record ∈ archive.badges) :
    ∃ runs, record.badge.goals.mapM archive.runOf = some runs ∧
      runs.foldl max 0 = record.runId := by
  unfold Archive.badges at member
  obtain ⟨badge, -, made⟩ := List.mem_filterMap.mp member
  simp only [Option.bind_eq_bind, Option.pure_def, Option.bind_eq_some_iff,
    Option.some.injEq] at made
  obtain ⟨runs, collected, latest, maximum, rfl⟩ := made
  refine ⟨runs, collected, ?_⟩
  cases runs with
  | nil => cases maximum
  | cons first rest =>
      rw [List.max?_cons', Option.some.injEq] at maximum
      rw [List.foldl_cons, Nat.zero_max]
      exact maximum

theorem badge_asStr_inj {first second : Badge} (same : first.asStr = second.asStr) :
    first = second := by
  revert same
  cases first <;> cases second <;> decide

/-- Each badge is awarded at most once. -/
theorem badges_distinct (archive : Archive) : (archive.badges.map (·.badge)).Nodup :=
  archive.badges_sublist.nodup (by decide)

theorem badges_length (archive : Archive) : archive.badges.length ≤ 3 :=
  List.length_filterMap_le _ _

theorem readBadges_badges (earlier : List Badge) {records : List BadgeRecord}
    (made : ∀ record ∈ records, ∃ runs, record.badge.goals.mapM archive.runOf = some runs ∧
      runs.foldl max 0 = record.runId) (distinct : (earlier ++ records.map (·.badge)).Nodup) :
    readBadges (dictionaryOf archive.records) (earlier.map Badge.asStr)
      (records.map (fun record => Protocol.ChallengeMasteryArchive.serializeBadge
        { badge := record.badge.asStr, runId := record.runId })) =
      .ok ((earlier ++ records.map (·.badge)).map Badge.asStr) := by
  induction records generalizing earlier with
  | nil =>
      simp only [List.map_nil, List.append_nil]
      rfl
  | cons record rest inductionHypothesis =>
      obtain ⟨runs, collected, latest⟩ := made record List.mem_cons_self
      have known : badges.lookup record.badge.asStr = some (record.badge.goals.map Goal.asStr) := by
        cases record.badge <;> rfl
      have expected := expectedRun_goals collected 0
      rw [latest] at expected
      have grown : earlier.map Badge.asStr ++ [record.badge.asStr] =
          (earlier ++ [record.badge]).map Badge.asStr := by
        rw [List.map_append]
        rfl
      simp only [List.map_cons, readBadges, bind_eq_ok, exists_unit, require_eq_ok, rejectIf_eq_ok]
      refine ⟨_, rfl, _, known, ?_, _, expected, not_not.mpr rfl, ?_⟩
      · intro repeated
        obtain ⟨badge, member, same⟩ := List.mem_map.mp repeated
        rw [List.map_cons, List.nodup_append] at distinct
        exact distinct.2.2 badge member record.badge List.mem_cons_self (badge_asStr_inj same)
      · rw [grown]
        have again : earlier ++ record.badge :: rest.map (·.badge) =
            earlier ++ [record.badge] ++ rest.map (·.badge) := by simp
        rw [List.map_cons, again] at distinct
        rw [again]
        exact inductionHypothesis _ (fun other member => made other (List.mem_cons_of_mem _ member))
          distinct

/-- Every badge whose goals are all recorded was awarded, and no other. -/
theorem badge_awarded_iff (archive : Archive) (badge : Badge) :
    badge ∈ archive.badges.map (·.badge) ↔
      (badge.goals.map Goal.asStr).all
        (fun goal => ((dictionaryOf archive.records).lookup goal).isSome) = true := by
  have collects : ∀ goals : List Goal, (∃ runs, goals.mapM archive.runOf = some runs) ↔
      (goals.map Goal.asStr).all
        (fun goal => ((dictionaryOf archive.records).lookup goal).isSome) = true := by
    intro goals
    induction goals with
    | nil => exact iff_of_true ⟨[], rfl⟩ rfl
    | cons goal rest inductionHypothesis =>
        rw [List.map_cons, List.all_cons, Bool.and_eq_true, ← inductionHypothesis, lookup_runOf,
          Option.isSome_map]
        simp only [List.mapM_cons, Option.bind_eq_bind, Option.pure_def, Option.bind_eq_some_iff,
          Option.some.injEq, Option.isSome_iff_exists]
        constructor
        · rintro ⟨_, run, found, others, collected, rfl⟩
          exact ⟨⟨run, found⟩, others, collected⟩
        · rintro ⟨⟨run, found⟩, others, collected⟩
          exact ⟨run :: others, run, found, others, collected, rfl⟩
  rw [← collects]
  constructor
  · intro member
    obtain ⟨record, present, rfl⟩ := List.mem_map.mp member
    obtain ⟨runs, collected, -⟩ := mem_badges present
    exact ⟨runs, collected⟩
  · rintro ⟨runs, collected⟩
    refine List.mem_map.mpr ⟨{ badge, runId := runs.foldl max 0 }, ?_, rfl⟩
    refine List.mem_filterMap.mpr ⟨badge, by cases badge <;> decide, ?_⟩
    simp only [Option.bind_eq_bind, Option.pure_def, Option.bind_eq_some_iff, Option.some.injEq]
    cases runs with
    | nil => cases badge <;> simp [Badge.goals, Option.bind_eq_some_iff] at collected
    | cons first rest =>
        refine ⟨_, collected, _, List.max?_cons', ?_⟩
        rw [List.foldl_cons, Nat.zero_max]

/-! ## The last attempt -/

theorem badges_eq : badges = Badge.all.map (fun badge =>
    (badge.asStr, badge.goals.map Goal.asStr)) := rfl

/-- The goals the client expects for a contract. -/
theorem expectedGoals_eq (contract : ContractId) :
    (goals.filter (fun goal => some goal.2 = some contract.asStr)).map (·.1) =
      (Goal.all.filter (fun goal => goal.contract = contract)).map Goal.asStr := by
  cases contract <;> rfl

theorem achieved_text {reason : Reason} (text : reason.asStr = "achieved") :
    reason = .achieved := by
  revert text
  cases reason <;> decide

theorem reason_known (reason : Reason) : reason.asStr ∈ reasons := by
  cases reason <;> decide

theorem validAssessment_assess {result : AttemptResult} {facts : Facts}
    (distinct : (archive.records.map (·.goal)).Nodup)
    (achieved : ∀ goal ∈ (assess result facts).achieved, ∃ record ∈ archive.records,
      record.goal = goal ∧ record.runId ≤ (assess result facts).runId) {assessment : Assessment}
    (member : assessment ∈ (assess result facts).assessments) :
    validAssessment (dictionaryOf archive.records)
      ((Goal.all.filter (fun goal => goal.contract = result.run.rules.contract)).map Goal.asStr)
      (some (Gateway.Challenges.outcomeText result.outcome)) result.run.runId
      (Protocol.ChallengeMasteryArchive.serializeAssessment
        { goal := assessment.goal.asStr, reason := assessment.reason.asStr }) = .ok () := by
  have listed : assessment.goal ∈
      Goal.all.filter (fun goal => goal.contract = result.run.rules.contract) := by
    obtain ⟨goal, present, rfl⟩ := List.mem_map.mp member
    exact present
  unfold validAssessment
  simp only [bind_eq_ok, exists_unit, require_eq_ok, rejectIf_eq_ok]
  refine ⟨_, rfl, _, rfl, ?_, ?_⟩
  · rintro (unknown | unknown)
    · exact unknown (List.mem_map_of_mem listed)
    · exact unknown (reason_known _)
  · rintro ⟨text, refused⟩
    have reached : assessment.goal ∈ (assess result facts).achieved :=
      List.mem_map_of_mem (List.mem_filter.mpr ⟨member, by simp [achieved_text text]⟩)
    rcases refused with unfinished | late
    · rw [(achieved_assess reached).1] at unfinished
      exact unfinished rfl
    · obtain ⟨record, present, same, earlier⟩ := achieved assessment.goal reached
      have found := runOf_of_mem distinct present
      rw [same] at found
      have later := late record.runId (by rw [lookup_runOf, found]; rfl)
      change record.runId ≤ result.run.runId at earlier
      omega

theorem validAttempt_assess {result : AttemptResult} {facts : Facts}
    (shows : ShowsState state snapshot) (valid : state.Valid)
    (ended : state.lastResult = some result) (distinct : (archive.records.map (·.goal)).Nodup)
    (achieved : ∀ goal ∈ (assess result facts).achieved, ∃ record ∈ archive.records,
      record.goal = goal ∧ record.runId ≤ (assess result facts).runId) :
    validAttempt (dictionaryOf archive.records) snapshot state.revision
      (Protocol.ChallengeMasteryArchive.serializeAttempt
        { runId := (assess result facts).runId
          assessments := (assess result facts).assessments.map (fun assessment =>
            { goal := assessment.goal.asStr, reason := assessment.reason.asStr })
          routeMoves := (assess result facts).routeMoves
          prismDamage := (assess result facts).prismDamage }) = .ok () := by
  have bounds := valid.result result ended
  have shown := shows.result
  rw [ended] at shown
  have contract : ((((snapshot.get "last_result").get "run").get "contract").get
      "contract_id").text? = some result.run.rules.contract.asStr := by
    rw [shown]
    rfl
  have outcome : ((snapshot.get "last_result").get "outcome").text? =
      some (Gateway.Challenges.outcomeText result.outcome) := by
    rw [shown]
    rfl
  have runId : (((snapshot.get "last_result").get "run").get "run_id").integer? =
      some (result.run.runId : Int) := by
    rw [shown]
    rfl
  unfold validAttempt
  simp only [bind_eq_ok, exists_unit, require_eq_ok, rejectIf_eq_ok]
  refine ⟨_, validRunId_of bounds.started bounds.past, not_not.mpr runId, _, rfl, ?_, ?_, ?_, ?_⟩
  · rw [contract, expectedGoals_eq]
    simp [assess]
  · rw [contract, expectedGoals_eq, outcome]
    have each : ∀ assessments : List Assessment,
        (∀ assessment ∈ assessments, assessment ∈ (assess result facts).assessments) →
        (assessments.map (fun assessment => Protocol.ChallengeMasteryArchive.serializeAssessment
          { goal := assessment.goal.asStr, reason := assessment.reason.asStr })).forM
          (validAssessment (dictionaryOf archive.records)
            ((Goal.all.filter (fun goal => goal.contract = result.run.rules.contract)).map
              Goal.asStr)
            (some (Gateway.Challenges.outcomeText result.outcome)) result.run.runId) = .ok () := by
      intro assessments
      induction assessments with
      | nil =>
          intro _
          rfl
      | cons assessment rest inductionHypothesis =>
          intro members
          rw [List.map_cons]
          change (_ >>= fun _ => List.forM _ _) = _
          rw [guard_bind_eq_ok]
          refine ⟨validAssessment_assess distinct achieved (members _ List.mem_cons_self), ?_⟩
          exact inductionHypothesis (fun other member => members other (List.mem_cons_of_mem _ member))
    have all := each (assess result facts).assessments (fun assessment member => member)
    rw [List.map_map]
    exact all
  · exact validNumber_ofOption _
  · exact validNumber_ofOption _

/-- Every archive that fits a save passes against the board of that save. -/
theorem valid_masterySnapshot (shows : ShowsState state snapshot) (valid : state.Valid)
    (fits : ArchiveFits state archive) :
    ChallengeMastery.valid (Gateway.Challenges.masterySnapshot archive).serialize snapshot =
      .ok () := by
  have records : readRecords snapshot state.revision []
      (archive.records.map (fun record => Protocol.ChallengeMasteryArchive.serializeRecord
        { goal := record.goal.asStr, runId := record.runId })) =
      .ok (dictionaryOf archive.records) := readRecords_records shows [] archive.records fits.records
  have awarded : readBadges (dictionaryOf archive.records) []
      (archive.badges.map (fun record => Protocol.ChallengeMasteryArchive.serializeBadge
        { badge := record.badge.asStr, runId := record.runId })) =
      .ok ((archive.badges.map (·.badge)).map Badge.asStr) :=
    readBadges_badges [] (fun record member => mem_badges member) (badges_distinct archive)
  unfold ChallengeMastery.valid
  simp only [bind_eq_ok, exists_unit, require_eq_ok, rejectIf_eq_ok]
  refine ⟨not_not.mpr rfl, _, rfl, ?_, _, rfl, ?_, _, shows.revision, dictionaryOf archive.records,
    ?_, (archive.badges.map (·.badge)).map Badge.asStr, ?_, ?_, ?_⟩
  · simpa [Gateway.Challenges.masterySnapshot] using records_length fits.records
  · simpa [Gateway.Challenges.masterySnapshot] using badges_length archive
  · unfold Gateway.Challenges.masterySnapshot
    rw [List.map_map]
    exact records
  · unfold Gateway.Challenges.masterySnapshot
    rw [List.map_map]
    exact awarded
  · rw [badges_eq]
    rintro ⟨entry, member, differs⟩
    obtain ⟨badge, -, rfl⟩ := List.mem_map.mp member
    apply differs
    rw [Bool.eq_iff_iff, ← badge_awarded_iff, decide_eq_true_eq]
    constructor
    · intro present
      exact List.mem_map_of_mem present
    · intro present
      obtain ⟨other, found, same⟩ := List.mem_map.mp present
      exact badge_asStr_inj same ▸ found
  · cases last : archive.lastAttempt with
    | none =>
        have shown : (Gateway.Challenges.masterySnapshot archive).serialize.get "last_attempt" =
            .nil := by
          unfold Gateway.Challenges.masterySnapshot
          rw [last]
          rfl
        rw [shown]
        change rejectIf _ _ = _
        rw [rejectIf_eq_ok, not_not, fits.empty last]
        rfl
    | some attempt =>
        obtain ⟨result, ended, facts, rfl, achieved⟩ := fits.latest attempt last
        have accepted := validAttempt_assess shows valid ended fits.records.distinct achieved
        unfold Gateway.Challenges.masterySnapshot
        rw [last]
        exact accepted

end MasteryArchive
end Agreement
end Revenant
