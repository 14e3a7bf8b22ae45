import Mathlib.Order.Lattice.Nat
import Revenant.Challenges.Mastery
import Revenant.Library.Champion

namespace Revenant
namespace Challenges

open Library

/-!
# What a mastery archive remembers

An archive depends only on which attempts it has seen: for each goal the least
of the runs that achieved it, and the attempt of the greatest run.  Neither the
order of the observations nor their number matters, so reading the journal
again, or from the other end, gives the same archive.

Equal run numbers are asked to mean equal attempts, as the journal of a
character guarantees.  Badges and the latest attempt are functions of the
records and of the runs, and no further state is kept.
-/

/-! ## Least numbers -/

/-- The least of a set of numbers with one more. -/
theorem isLeast_insert_iff {numbers : Set Nat} {new least : Nat} :
    IsLeast (insert new numbers) least ↔
      (∃ old, IsLeast numbers old ∧ least = min old new) ∨ (numbers = ∅ ∧ least = new) := by
  rcases numbers.eq_empty_or_nonempty with rfl | nonempty
  · rw [insert_empty_eq]
    constructor
    · intro isLeast
      exact Or.inr ⟨rfl, isLeast.unique isLeast_singleton⟩
    · rintro (⟨old, isLeast, -⟩ | ⟨-, rfl⟩)
      · exact absurd isLeast.1 (Set.notMem_empty old)
      · exact isLeast_singleton
  · have oldLeast : IsLeast numbers (sInf numbers) :=
      ⟨Nat.sInf_mem nonempty, fun _ member => Nat.sInf_le member⟩
    constructor
    · intro isLeast
      refine Or.inl ⟨sInf numbers, oldLeast, ?_⟩
      rw [min_comm]
      exact isLeast.unique (oldLeast.insert new)
    · rintro (⟨old, isLeast, rfl⟩ | ⟨rfl, -⟩)
      · rw [min_comm]
        exact isLeast.insert new
      · exact absurd nonempty Set.not_nonempty_empty

/-! ## The records -/

section Records

variable {runs grown : Goal → Set Nat} {records : List MasteryRecord} {runId : Nat} {goal : Goal}
variable {record : MasteryRecord}

/-- One record for every goal that some run achieved, with the least such run. -/
structure Proved (runs : Goal → Set Nat) (records : List MasteryRecord) : Prop where
  distinct : (records.map (·.goal)).Nodup
  least : ∀ record, record ∈ records ↔ IsLeast (runs record.goal) record.runId

theorem mem_achieve_other (other : record.goal ≠ goal) :
    record ∈ achieve runId goal records ↔ record ∈ records := by
  induction records with
  | nil =>
      simp only [achieve, List.mem_singleton, List.not_mem_nil, iff_false]
      rintro rfl
      exact other rfl
  | cons first rest inductionHypothesis =>
      unfold achieve
      split
      · next same =>
        rw [List.mem_cons, List.mem_cons]
        refine or_congr_left ?_
        constructor
        · rintro rfl
          exact absurd same other
        · rintro rfl
          exact absurd same other
      · rw [List.mem_cons, List.mem_cons, inductionHypothesis]

theorem mem_achieve_same (distinct : (records.map (·.goal)).Nodup) (same : record.goal = goal) :
    record ∈ achieve runId goal records ↔
      (∃ old ∈ records, old.goal = goal ∧ record.runId = min old.runId runId) ∨
        ((∀ old ∈ records, old.goal ≠ goal) ∧ record.runId = runId) := by
  obtain ⟨recordGoal, recordRun⟩ := record
  cases same
  induction records with
  | nil => simp [achieve]
  | cons first rest inductionHypothesis =>
      rw [List.map_cons, List.nodup_cons] at distinct
      have apart : first.goal = recordGoal → ∀ old ∈ rest, old.goal ≠ recordGoal := by
        rintro rfl old member repeated
        exact distinct.1 (List.mem_map.mpr ⟨old, member, repeated⟩)
      unfold achieve
      split
      · next here =>
        rw [List.mem_cons, MasteryRecord.mk.injEq]
        constructor
        · rintro (⟨-, run⟩ | later)
          · exact Or.inl ⟨first, List.mem_cons_self, here, run⟩
          · exact absurd rfl (apart here _ later)
        · rintro (⟨old, member, oldGoal, run⟩ | ⟨none, -⟩)
          · rcases List.mem_cons.mp member with rfl | later
            · exact Or.inl ⟨here.symm, run⟩
            · exact absurd oldGoal (apart here old later)
          · exact absurd here (none first List.mem_cons_self)
      · next away =>
        rw [List.mem_cons, inductionHypothesis distinct.2]
        simp only [List.mem_cons, exists_eq_or_imp, forall_eq_or_imp, away, false_and, false_or,
          not_false_iff, true_and, ne_eq]
        rw [or_iff_right]
        rintro rfl
        exact away rfl

/-- A goal without a record was never achieved. -/
theorem Proved.none_iff (proved : Proved runs records) :
    (∀ old ∈ records, old.goal ≠ goal) ↔ runs goal = ∅ := by
  rw [Set.eq_empty_iff_forall_notMem]
  constructor
  · intro none run achieved
    have least : IsLeast (runs goal) (sInf (runs goal)) :=
      ⟨Nat.sInf_mem ⟨run, achieved⟩, fun _ member => Nat.sInf_le member⟩
    exact none ⟨goal, sInf (runs goal)⟩ ((proved.least _).mpr least) rfl
  · rintro empty old member rfl
    exact empty old.runId ((proved.least old).mp member).1

/-- One more achievement of a goal. -/
theorem Proved.achieve (proved : Proved runs records) (here : grown goal = insert runId (runs goal))
    (others : ∀ other, other ≠ goal → grown other = runs other) :
    Proved grown (achieve runId goal records) := by
  constructor
  case distinct => exact nodup_achieve proved.distinct
  case least =>
    intro record
    by_cases same : record.goal = goal
    · rw [mem_achieve_same proved.distinct same, same, here, isLeast_insert_iff, proved.none_iff]
      refine or_congr_left ?_
      constructor
      · rintro ⟨old, member, rfl, run⟩
        exact ⟨old.runId, (proved.least old).mp member, run⟩
      · rintro ⟨run, least, smaller⟩
        exact ⟨⟨goal, run⟩, (proved.least ⟨goal, run⟩).mpr least, rfl, smaller⟩
    · rw [mem_achieve_other same, others _ same]
      exact proved.least record

/-- All achievements of one run. -/
theorem Proved.foldl (proved : Proved runs records) (goals : List Goal)
    (same : ∀ other, grown other = {run | run ∈ runs other ∨ (other ∈ goals ∧ run = runId)}) :
    Proved grown (goals.foldl (fun records goal => Challenges.achieve runId goal records) records) := by
  induction goals generalizing runs records with
  | nil =>
      have unchanged : grown = runs := by
        funext other
        rw [same other]
        ext run
        simp
      rw [unchanged]
      exact proved
  | cons first rest inductionHypothesis =>
      rw [List.foldl_cons]
      refine @inductionHypothesis (fun other =>
        {run | run ∈ runs other ∨ (other = first ∧ run = runId)}) _ ?_ ?_
      · refine proved.achieve ?_ ?_
        · ext run
          simp [or_comm]
        · intro other different
          ext run
          simp [different]
      · intro other
        rw [same other]
        ext run
        simp only [List.mem_cons, Set.mem_ofPred_eq]
        tauto

/-- The order of the records does not matter to what they prove. -/
theorem Proved.perm (proved : Proved runs records) {sorted : List MasteryRecord}
    (rearranged : sorted.Perm records) : Proved runs sorted := by
  constructor
  case distinct => exact (rearranged.map (·.goal)).nodup_iff.mpr proved.distinct
  case least =>
    intro record
    rw [rearranged.mem_iff]
    exact proved.least record

end Records

/-! ## The archive of a history -/

/-- The runs of a history that achieved a goal. -/
def achievers (attempts : List Attempt) (goal : Goal) : Set Nat :=
  {runId | ∃ attempt ∈ attempts, goal ∈ attempt.achieved ∧ attempt.runId = runId}

def observeAll (attempts : List Attempt) : Archive :=
  attempts.foldl Archive.observe Archive.default

/-- Equal run ids mean equal attempts. -/
def RunsDiffer (attempts : List Attempt) : Prop :=
  ∀ first ∈ attempts, ∀ second ∈ attempts, first.runId = second.runId → first = second

/-- The latest attempt of a history. -/
def Latest (attempts : List Attempt) (attempt : Attempt) : Prop :=
  attempt ∈ attempts ∧ ∀ other ∈ attempts, other.runId ≤ attempt.runId

theorem observeAll_snoc (attempts : List Attempt) (attempt : Attempt) :
    observeAll (attempts ++ [attempt]) = (observeAll attempts).observe attempt := by
  unfold observeAll
  rw [List.foldl_append, List.foldl_cons, List.foldl_nil]

theorem achievers_snoc (attempts : List Attempt) (attempt : Attempt) (goal : Goal) :
    achievers (attempts ++ [attempt]) goal =
      {run | run ∈ achievers attempts goal ∨ (goal ∈ attempt.achieved ∧ run = attempt.runId)} := by
  ext run
  simp only [achievers, List.mem_append, List.mem_singleton, or_and_right, exists_or,
    exists_eq_left, Set.mem_ofPred_eq, @eq_comm _ run]

/-- The records prove exactly what the history achieved. -/
theorem observeAll_proved (attempts : List Attempt) :
    Proved (achievers attempts) (observeAll attempts).records := by
  induction attempts using List.reverseRecOn with
  | nil =>
      constructor
      case distinct => exact List.nodup_nil
      case least =>
        intro record
        refine ⟨fun member => absurd member List.not_mem_nil, ?_⟩
        rintro ⟨⟨attempt, member, -⟩, -⟩
        exact absurd member List.not_mem_nil
  | append_singleton attempts attempt inductionHypothesis =>
      rw [observeAll_snoc]
      refine Proved.perm ?_ (List.perm_insertionSort _ _)
      exact inductionHypothesis.foldl attempt.achieved (achievers_snoc attempts attempt)

/-- The records are sorted by their goals. -/
theorem observeAll_sorted (attempts : List Attempt) :
    (observeAll attempts).records.Pairwise (fun left right => left.goal.order ≤ right.goal.order) := by
  induction attempts using List.reverseRecOn with
  | nil => exact List.Pairwise.nil
  | append_singleton attempts attempt =>
      rw [observeAll_snoc]
      have total : Std.Total (fun left right : MasteryRecord => left.goal.order ≤ right.goal.order) :=
        ⟨fun left right => Nat.le_total left.goal.order right.goal.order⟩
      have transitive : IsTrans MasteryRecord (fun left right => left.goal.order ≤ right.goal.order) :=
        ⟨fun _ _ _ => Nat.le_trans⟩
      exact List.pairwise_insertionSort _ _

/-- The kept attempt is the champion of the later runs. -/
theorem observeAll_lastAttempt (attempts : List Attempt) :
    (observeAll attempts).lastAttempt =
      champion (fun new old => decide (old.runId < new.runId)) attempts := by
  induction attempts using List.reverseRecOn with
  | nil => rfl
  | append_singleton attempts attempt inductionHypothesis =>
      rw [observeAll_snoc, champion_snoc, ← inductionHypothesis]
      unfold Archive.observe challenge
      cases (observeAll attempts).lastAttempt with
      | none => rfl
      | some last =>
          dsimp only
          by_cases newer : last.runId < attempt.runId
          · simp only [newer, decide_true, if_true]
          · simp only [newer, decide_false, if_false, Bool.false_eq_true]

theorem latest_of_firstBest {attempts : List Attempt} {best : Attempt}
    (chosen : FirstBest (fun new old => decide (old.runId < new.runId)) attempts best) :
    Latest attempts best := by
  obtain ⟨earlier, later, rfl, beaten, unbeaten⟩ := chosen
  refine ⟨List.mem_append_right _ List.mem_cons_self, ?_⟩
  intro other member
  rcases List.mem_append.mp member with before | here
  · exact (of_decide_eq_true (beaten other before)).le
  · rcases List.mem_cons.mp here with rfl | after
    · exact le_refl _
    · exact not_lt.mp (of_decide_eq_false (unbeaten other after))

theorem observeAll_latest {attempts : List Attempt} (differ : RunsDiffer attempts)
    (attempt : Attempt) :
    (observeAll attempts).lastAttempt = some attempt ↔ Latest attempts attempt := by
  have ranks : Ranks (fun new old : Attempt => decide (old.runId < new.runId)) attempts := by
    constructor
    · intro first _ second _ newer
      have := of_decide_eq_true newer
      exact decide_eq_false (by omega)
    · intro first _ second _ third _ newer older
      have := of_decide_eq_true newer
      have := of_decide_eq_false older
      exact decide_eq_true (by omega)
  have chosen (best : Attempt) (kept : (observeAll attempts).lastAttempt = some best) :
      Latest attempts best := by
    rw [observeAll_lastAttempt] at kept
    exact latest_of_firstBest (champion_firstBest ranks kept)
  refine ⟨chosen attempt, ?_⟩
  intro latest
  cases kept : (observeAll attempts).lastAttempt with
  | none =>
      rw [observeAll_lastAttempt, champion_eq_none_iff] at kept
      rw [kept] at latest
      exact absurd latest.1 List.not_mem_nil
  | some best =>
      obtain ⟨member, greatest⟩ := chosen best kept
      have same : best.runId = attempt.runId :=
        Nat.le_antisymm (latest.2 best member) (greatest attempt latest.1)
      rw [differ best member attempt latest.1 same]

variable {runs : Goal → Set Nat}

/-- Records that prove the same and are sorted by their goals are the same. -/
theorem Proved.unique {first second : List MasteryRecord} (one : Proved runs first)
    (other : Proved runs second)
    (oneSorted : first.Pairwise (fun left right => left.goal.order ≤ right.goal.order))
    (otherSorted : second.Pairwise (fun left right => left.goal.order ≤ right.goal.order)) :
    first = second := by
  have rearranged : first.Perm second := by
    rw [List.perm_ext_iff_of_nodup one.distinct.of_map other.distinct.of_map]
    intro record
    rw [one.least, other.least]
  refine rearranged.eq_of_pairwise ?_ oneSorted otherSorted
  intro left right leftMember rightMember before after
  have goals : left.goal = right.goal := Goal.order_inj (Nat.le_antisymm before after)
  have leftLeast := (one.least left).mp leftMember
  have rightLeast := (other.least right).mp rightMember
  rw [goals] at leftLeast
  obtain ⟨goal, run⟩ := left
  cases goals
  exact congrArg (MasteryRecord.mk right.goal) (leftLeast.unique rightLeast)

/-! ## Badges -/

/-- Two goals and all their records. -/
theorem mapM_eq_some_iff {α β : Type} {find : α → Option β} {items : List α} {found : List β} :
    items.mapM find = some found ↔ items.map find = found.map some := by
  induction items generalizing found with
  | nil => cases found <;> simp
  | cons item rest inductionHypothesis =>
      simp only [List.mapM_cons, Option.bind_eq_bind, Option.pure_def, Option.bind_eq_some_iff,
        Option.some.injEq, inductionHypothesis]
      cases found with
      | nil => simp
      | cons first others =>
          simp only [List.map_cons, List.cons.injEq]
          constructor
          · rintro ⟨value, here, values, there, rfl, rfl⟩
            exact ⟨here, there⟩
          · rintro ⟨here, there⟩
            exact ⟨first, here, others, there, rfl, rfl⟩

/-- The goals of a badge, each with the least run that achieved it. -/
theorem runOf_iff {archive : Archive} (proved : Proved runs archive.records) {goal : Goal}
    {run : Nat} : archive.runOf goal = some run ↔ IsLeast (runs goal) run := by
  rw [← proved.least ⟨goal, run⟩]
  constructor
  · intro found
    unfold Archive.runOf at found
    obtain ⟨record, here, rfl⟩ := Option.map_eq_some_iff.mp found
    have same : record.goal = goal := by simpa using List.find?_some here
    rw [← same]
    exact List.mem_of_find?_eq_some here
  · exact runOf_of_mem proved.distinct

theorem mapM_runOf_iff {archive : Archive} (proved : Proved runs archive.records)
    {goals : List Goal} {found : List Nat} :
    goals.mapM archive.runOf = some found ↔
      (∀ goal ∈ goals, (runs goal).Nonempty) ∧ found = goals.map (fun goal => sInf (runs goal)) := by
  have known (goal : Goal) (nonempty : (runs goal).Nonempty) :
      archive.runOf goal = some (sInf (runs goal)) :=
    (runOf_iff proved).mpr ⟨Nat.sInf_mem nonempty, fun _ member => Nat.sInf_le member⟩
  have all (nonempty : ∀ goal ∈ goals, (runs goal).Nonempty) :
      goals.map archive.runOf = (goals.map (fun goal => sInf (runs goal))).map some := by
    rw [List.map_map]
    exact List.map_congr_left (fun goal member => known goal (nonempty goal member))
  rw [mapM_eq_some_iff]
  constructor
  · intro collected
    have nonempty : ∀ goal ∈ goals, (runs goal).Nonempty := by
      intro goal member
      have listed : archive.runOf goal ∈ found.map some := by
        rw [← collected]
        exact List.mem_map_of_mem member
      obtain ⟨run, -, here⟩ := List.mem_map.mp listed
      exact ⟨run, ((runOf_iff proved).mp here.symm).1⟩
    refine ⟨nonempty, ?_⟩
    rw [all nonempty] at collected
    exact ((List.map_injective_iff.mpr (Option.some_injective Nat)) collected).symm
  · rintro ⟨nonempty, rfl⟩
    exact all nonempty

/-- A badge is awarded when all its goals were achieved, with the greatest of the
least runs that achieved them. -/
theorem mem_badges_iff {archive : Archive} (proved : Proved runs archive.records) {badge : Badge}
    {runId : Nat} :
    { badge, runId } ∈ archive.badges ↔
      (∀ goal ∈ badge.goals, (runs goal).Nonempty) ∧
        IsGreatest {least | ∃ goal ∈ badge.goals, IsLeast (runs goal) least} runId := by
  have known : badge ∈ Badge.all := by cases badge <;> decide
  have awarded : { badge, runId } ∈ archive.badges ↔
      ∃ found, badge.goals.mapM archive.runOf = some found ∧ found.max? = some runId := by
    unfold Archive.badges
    simp only [List.mem_filterMap, Option.bind_eq_bind, Option.pure_def, Option.bind_eq_some_iff,
      Option.some.injEq, BadgeRecord.mk.injEq]
    constructor
    · rintro ⟨other, -, found, collected, latest, greatest, rfl, rfl⟩
      exact ⟨found, collected, greatest⟩
    · rintro ⟨found, collected, greatest⟩
      exact ⟨badge, known, found, collected, runId, greatest, rfl, rfl⟩
  rw [awarded]
  simp only [mapM_runOf_iff proved, and_assoc, exists_and_left, exists_eq_left]
  refine and_congr_right ?_
  intro nonempty
  have least (goal : Goal) (member : goal ∈ badge.goals) :
      IsLeast (runs goal) (sInf (runs goal)) :=
    ⟨Nat.sInf_mem (nonempty goal member), fun _ achieved => Nat.sInf_le achieved⟩
  have same : {least | ∃ goal ∈ badge.goals, IsLeast (runs goal) least} =
      {run | run ∈ badge.goals.map (fun goal => sInf (runs goal))} := by
    ext run
    simp only [Set.mem_ofPred_eq, List.mem_map]
    refine exists_congr (fun goal => and_congr_right (fun member => ?_))
    exact ⟨fun found => (least goal member).unique found, fun found => found ▸ least goal member⟩
  rw [same, List.max?_eq_some_iff]
  rfl

/-- What an archive says depends only on which attempts it has seen, in any order
and any number of times: for each achieved goal the least run that achieved it,
sorted by goal; the attempt of the greatest run; and each badge exactly when all
its goals were achieved, dated by the latest of them. -/
theorem archive_law {attempts : List Attempt} (differ : RunsDiffer attempts) :
    let archive := observeAll attempts
    (∀ others, (∀ attempt, attempt ∈ others ↔ attempt ∈ attempts) → observeAll others = archive) ∧
      archive.records.Pairwise (fun left right => left.goal.order < right.goal.order) ∧
      (∀ record, record ∈ archive.records ↔
        IsLeast (achievers attempts record.goal) record.runId) ∧
      (∀ attempt, archive.lastAttempt = some attempt ↔ Latest attempts attempt) ∧
      (archive.badges.map (·.badge)).Sublist Badge.all ∧
      ∀ badge runId, { badge, runId } ∈ archive.badges ↔
        (∀ goal ∈ badge.goals, (achievers attempts goal).Nonempty) ∧
          IsGreatest {least | ∃ goal ∈ badge.goals, IsLeast (achievers attempts goal) least}
            runId := by
  intro archive
  have proved := observeAll_proved attempts
  have sorted := observeAll_sorted attempts
  refine ⟨?_, ?_, proved.least, observeAll_latest differ, archive.badges_sublist,
    fun badge runId => mem_badges_iff proved⟩
  · intro others same
    have sameAchievers : achievers others = achievers attempts := by
      funext goal
      ext run
      simp only [achievers, same]
    have sameLatest (attempt : Attempt) : Latest others attempt ↔ Latest attempts attempt := by
      simp only [Latest, same]
    have othersDiffer : RunsDiffer others := by
      intro first firstMember second secondMember
      exact differ first ((same first).mp firstMember) second ((same second).mp secondMember)
    have records : (observeAll others).records = archive.records := by
      have otherProved := observeAll_proved others
      rw [sameAchievers] at otherProved
      exact otherProved.unique proved (observeAll_sorted others) sorted
    have last : (observeAll others).lastAttempt = archive.lastAttempt := by
      refine Option.ext ?_
      intro attempt
      rw [observeAll_latest othersDiffer, observeAll_latest differ, sameLatest]
    calc
      observeAll others = ⟨(observeAll others).records, (observeAll others).lastAttempt⟩ := rfl
      _ = ⟨archive.records, archive.lastAttempt⟩ := by rw [records, last]
  · refine (sorted.and (List.pairwise_map.mp proved.distinct)).imp ?_
    rintro left right ⟨before, apart⟩
    exact lt_of_le_of_ne before (fun same => apart (Goal.order_inj same))

/-- A run of Prism Discipline with so much damage taken. -/
def prismAttempt (runId damage : Nat) : Attempt :=
  { runId, routeMoves := none, prismDamage := some damage
    assessments := [{ goal := .prismExecution
                      reason := if damage = 0 then .achieved else .avoidPrismDamage }] }

theorem archive_law_reread :
    let archive := observeAll [prismAttempt 5 0, prismAttempt 3 0, prismAttempt 7 12]
    archive.records = [⟨.prismExecution, 3⟩] ∧ archive.badges = [⟨.prismAdept, 3⟩] ∧
      archive.lastAttempt = some (prismAttempt 7 12) ∧
      observeAll [prismAttempt 7 12, prismAttempt 3 0, prismAttempt 5 0, prismAttempt 3 0] =
        archive := by
  have differ : RunsDiffer [prismAttempt 5 0, prismAttempt 3 0, prismAttempt 7 12] := by
    unfold RunsDiffer
    decide +kernel
  obtain ⟨independent, -⟩ := archive_law differ
  refine ⟨by decide +kernel, by decide +kernel, by decide +kernel, independent _ ?_⟩
  intro attempt
  simp only [List.mem_cons, List.not_mem_nil, or_false]
  tauto

end Challenges
end Revenant
